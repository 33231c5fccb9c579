import Delimit.Proofs.TranscriptValues
import Delimit.Proofs.WrittenCharacters
import Delimit.Proofs.WrittenFiles
import Delimit.Splitter
import Delimit.Storage

/-!
# Stored transcripts

A transcript that is saved is loaded again with every text as it is read back: all of it
is as it was, unless a text is written between single quotes and holds a next-line
control.  Only numbers that are too long keep a transcript from being saved where a file
can be written.
-/

namespace Delimit

open Yaml

/-! ## Valid transcripts -/

/-- Units are counted from line 1 on, because their first lines are. -/
theorem Splitter.isValid_feed
    {splitter : Splitter}
    (counted : 1 ≤ splitter.firstLine)
    (raw : List Char) :
    (∀ unit ∈ (splitter.feed raw).1, unit.IsValid) ∧ 1 ≤ (splitter.feed raw).2.firstLine := by
  have first : 1 ≤ (if splitter.validator.input.isEmpty then splitter.lineNumber + 1
      else splitter.firstLine) := by
    split
    · exact Nat.le_add_left 1 _
    · exact counted
  unfold feed
  dsimp only
  split
  · exact ⟨nofun, first⟩
  · split
    · exact ⟨nofun, first⟩
    · refine ⟨?_, first⟩
      rintro unit ⟨⟩
      exact ⟨first, Nat.le_add_left 1 _⟩

theorem Splitter.isValid_finish
    {splitter : Splitter}
    (counted : 1 ≤ splitter.firstLine) :
    ∀ unit ∈ splitter.finish.1, unit.IsValid := by
  unfold finish
  split
  · rintro unit ⟨⟩
    exact ⟨counted, Nat.le_trans counted (Nat.le_max_right _ _)⟩
  · nofun

theorem Splitter.isValid_units
    {splitter : Splitter}
    (counted : 1 ≤ splitter.firstLine)
    (lines : List (List Char)) :
    ∀ unit ∈ (splitter.units lines).1, unit.IsValid := by
  induction lines generalizing splitter with
  | nil =>
      intro unit member
      exact isValid_finish counted unit (Option.mem_toList.mp member)
  | cons raw lines induction =>
      obtain ⟨fed, further⟩ := isValid_feed counted raw
      intro unit member
      rcases List.mem_append.mp member with here | later
      · exact fed unit (Option.mem_toList.mp here)
      · exact induction further unit later

/-- Splitting lines gives a valid transcript. -/
theorem Transcript.isValid_ofLines
    (source : List Char)
    (validator : Validator)
    (lines : List (List Char)) :
    (Transcript.ofLines source validator lines).1.IsValid :=
  Splitter.isValid_units (Nat.le_refl 1) lines

namespace Storage

open Files (Path Location Tree)

/-! ## Saving and loading -/

theorem orEmptyMapping_ofTranscript
    (transcript : Transcript) :
    orEmptyMapping (Transcript.Schema.ofTranscript transcript) =
      Transcript.Schema.ofTranscript transcript := rfl

/-- A written transcript is a document, whose value is the transcript that is read back. -/
theorem read_written
    {transcript : Transcript}
    (short : transcript.hasLongNumber = false) :
    Yaml.read transcript.written = .ok (Transcript.Schema.ofTranscript transcript.readBack) := by
  have printable : transcript.written.all isPrintable = true := by
    rw [List.all_eq_true]
    intro character member
    have kept := List.all_eq_true.mp transcript.all_written character member
    exact (Bool.and_eq_true_iff.mp kept).1
  have nodes : Node.ofTokens? (tokensOf transcript.written) = .ok (some transcript.node) := by
    rw [transcript.tokensOf_written, transcript.ofTokens?_tokens]
  unfold Yaml.read
  simp only [if_pos printable, bind, Except.bind, nodes]
  exact Transcript.ofNode_node short

section

variable
    {tree : Tree}
    {path : Path}
    {location : Location}
    (target : tree.writeTarget path = .ok location)

include target

theorem saveTranscript_eq
    (transcript : Transcript) :
    saveTranscript tree.system path transcript =
      if transcript.hasLongNumber then
        .error (.broken (.value .badNumber))
      else
        .ok transcript.written := by
  have writable : tree.system.writeFault? path = none := by
    unfold Tree.system
    dsimp only
    rw [target]
  rw [saveTranscript, writable]

/-- A text that is written to a file is read from it. -/
theorem readText_write
    (text : List Char) :
    (tree.write location (Text.encodeUtf8 text)).system.readText path = .ok text := by
  have bytes : (tree.write location (Text.encodeUtf8 text)).system.bytes path =
      .ok (Text.encodeUtf8 text) := Tree.bytes_write target _
  rw [Files.System.readText, bytes]
  dsimp only
  rw [Text.decodeUtf8?_encodeUtf8]

theorem loadTranscript_write
    {transcript : Transcript}
    (valid : transcript.IsValid)
    (short : transcript.hasLongNumber = false) :
    loadTranscript (tree.write location (Text.encodeUtf8 transcript.written)).system path =
      .ok transcript.readBack := by
  unfold loadTranscript readUnified readValue
  rw [readText_write target]
  dsimp only
  rw [unifyLineEnds_eq_self transcript.all_written]
  simp only [bind, Except.bind, read_written short, orEmptyMapping_ofTranscript,
    Transcript.Schema.read_ofTranscript (Transcript.isValid_readBack valid)]
  rfl

/-- A transcript is saved and loads back as itself if that is what is read back of it. -/
theorem loads_saved_iff_readBack
    {transcript : Transcript}
    (valid : transcript.IsValid) :
    (∃ text,
        saveTranscript tree.system path transcript = .ok text ∧
          loadTranscript (tree.write location (Text.encodeUtf8 text)).system path =
            .ok transcript) ↔
      transcript.hasLongNumber = false ∧ transcript.readBack = transcript := by
  rw [saveTranscript_eq target]
  constructor
  · rintro ⟨text, saved, loaded⟩
    split at saved
    · contradiction
    · next short =>
        obtain rfl := Except.ok.inj saved
        rw [Bool.not_eq_true] at short
        rw [loadTranscript_write target valid short] at loaded
        exact ⟨short, Except.ok.inj loaded⟩
  · rintro ⟨short, same⟩
    refine ⟨transcript.written, if_neg (by simp [short]), ?_⟩
    rw [loadTranscript_write target valid short, same]

end

/--
A transcript is saved and loads back as itself exactly if no number of it is too long
and no text of it that is written between single quotes holds a next-line control.
-/
theorem loads_saved_iff
    {tree : Tree}
    {path : Path}
    {location : Location}
    (target : tree.writeTarget path = .ok location)
    {transcript : Transcript}
    (valid : transcript.IsValid) :
    (∃ text,
        saveTranscript tree.system path transcript = .ok text ∧
          loadTranscript (tree.write location (Text.encodeUtf8 text)).system path =
            .ok transcript) ↔
      transcript.hasLongNumber = false ∧
        ∀ text ∈ transcript.texts, ¬ (Style.ofText text = .single ∧ '\u0085' ∈ text) := by
  rw [loads_saved_iff_readBack target valid, transcript.readBack_eq_self_iff]
  simp only [Written.readBack_eq_self_iff]

/-- A directory without files. -/
def emptyTree : Tree := ⟨[], [], []⟩

theorem writeTarget_emptyTree :
    emptyTree.writeTarget (Path.ofText "t.yaml".toList) = .ok ["t.yaml".toList] := by
  decide

/-- A unit whose text needs escapes, so that its next-line control is kept. -/
def escapedTranscript : Transcript :=
  ⟨"a b".toList, [⟨0, 1, 2, .complete, "f(\"\u0085\r\",\n 'x: 1')".toList⟩]⟩

theorem isValid_escapedTranscript : escapedTranscript.IsValid := by
  simp [escapedTranscript, Transcript.IsValid, UnitRecord.IsValid]

theorem loads_saved_escapedTranscript :
    emptyTree.writeTarget (Path.ofText "t.yaml".toList) = .ok ["t.yaml".toList] ∧
      escapedTranscript.IsValid ∧
        ∃ text,
          saveTranscript emptyTree.system (Path.ofText "t.yaml".toList) escapedTranscript =
              .ok text ∧
            loadTranscript (emptyTree.write ["t.yaml".toList] (Text.encodeUtf8 text)).system
                (Path.ofText "t.yaml".toList) =
              .ok escapedTranscript :=
  ⟨writeTarget_emptyTree, isValid_escapedTranscript,
    (loads_saved_iff writeTarget_emptyTree isValid_escapedTranscript).mpr
      ⟨by decide +kernel, by decide⟩⟩

/-- A text between single quotes loses its next-line control. -/
def nextLineTranscript : Transcript :=
  ⟨"a".toList, [⟨0, 1, 1, .complete, "a\u0085b".toList⟩]⟩

theorem not_forall_loads_saved :
    ¬ ∀ (tree : Tree) (path : Path) (location : Location) (transcript : Transcript),
      tree.writeTarget path = .ok location →
        transcript.IsValid →
          ∃ text,
            saveTranscript tree.system path transcript = .ok text ∧
              loadTranscript (tree.write location (Text.encodeUtf8 text)).system path =
                .ok transcript := by
  intro all
  have valid : nextLineTranscript.IsValid := by
    simp [nextLineTranscript, Transcript.IsValid, UnitRecord.IsValid]
  have same := ((loads_saved_iff_readBack writeTarget_emptyTree valid).mp
    (all _ _ _ _ writeTarget_emptyTree valid)).2
  exact absurd same (by decide)

end Storage

end Delimit
