import Delimit.Proofs.CommandAgreement
import Delimit.Proofs.Resplitting

/-!
# Lines under any terminator

Lines that hold no line terminator of their own can be written with any of the three
terminators behind them.  Unifying the terminators turns each of the written texts into
the text with line feeds, and that text is read line by line as it was written.  No
other character ends a line, whatever else separates words or counts as blank.

A file of the lines is therefore split into the units of the lines themselves, and a
session takes the same lines, whichever terminator was used.
-/

namespace Delimit

namespace Text

/-- The ways to end a line. -/
inductive Terminator where
  | lineFeed
  | carriageReturn
  /-- A carriage return with a line feed behind it. -/
  | pair
  deriving DecidableEq, Repr

namespace Terminator

def characters : Terminator → List Char
  | lineFeed => ['\n']
  | carriageReturn => ['\r']
  | pair => ['\r', '\n']

/-- The text of lines with a terminator behind each of them. -/
def written
    (terminator : Terminator)
    (lines : List (List Char)) :
    List Char :=
  lines.flatMap (· ++ terminator.characters)

/--
Lines and the texts that they make up with a terminator behind each line.  A last
line that is not empty may do without.
-/
inductive Ends (terminator : Terminator) : List (List Char) → List Char → Prop where
  | all (lines : List (List Char)) :
      Ends terminator lines (terminator.written lines)
  | allButLast (lines : List (List Char)) {last : List Char}
      (some : last ≠ []) :
      Ends terminator (lines ++ [last]) (terminator.written lines ++ last)

end Terminator

/-! ## Unified terminators -/

theorem ne_of_isLineEnd
    {character : Char}
    (plain : isLineEnd character = false) :
    character ≠ '\r' ∧ character ≠ '\n' := by
  simpa [isLineEnd] using plain

theorem unifyLineEnds_append
    {line : List Char}
    (unbroken : Unbroken line)
    (rest : List Char) :
    unifyLineEnds (line ++ rest) = line ++ unifyLineEnds rest := by
  induction line with
  | nil => rfl
  | cons character line induction =>
      obtain ⟨plain, unbroken⟩ := List.forall_mem_cons.mp unbroken
      have kept := (ne_of_isLineEnd plain).1
      rw [List.cons_append, unifyLineEnds, induction unbroken, List.cons_append]
      · exact fun _ same _ => kept same
      · exact kept

/-- A carriage return is a terminator of its own if no line feed stands behind it. -/
theorem unifyLineEnds_terminator
    (terminator : Terminator)
    {rest : List Char}
    (apart : terminator = .carriageReturn → rest.head? ≠ some '\n') :
    unifyLineEnds (terminator.characters ++ rest) = '\n' :: unifyLineEnds rest := by
  cases terminator with
  | lineFeed => rfl
  | pair => rfl
  | carriageReturn =>
      rw [Terminator.characters, List.singleton_append, unifyLineEnds]
      rintro later rfl
      exact apart rfl rfl

/-- No line feed stands at the front of lines that end with carriage returns. -/
theorem head?_written_carriageReturn
    {lines : List (List Char)}
    {last : List Char}
    (unbroken : ∀ line ∈ lines ++ [last], Unbroken line) :
    (Terminator.carriageReturn.written lines ++ last).head? ≠ some '\n' := by
  cases lines with
  | nil =>
      intro head
      have plain := unbroken last (by simp) '\n' (List.mem_of_head? head)
      cases plain
  | cons line lines =>
      cases line with
      | nil => simp [Terminator.written, Terminator.characters]
      | cons character line =>
          have plain := unbroken (character :: line) (by simp) character (by simp)
          simpa [Terminator.written] using (ne_of_isLineEnd plain).2

/-- Unified, lines are written with line feeds. -/
theorem unifyLineEnds_written
    (terminator : Terminator)
    {lines : List (List Char)}
    {last : List Char}
    (unbroken : ∀ line ∈ lines ++ [last], Unbroken line) :
    unifyLineEnds (terminator.written lines ++ last) =
      Terminator.lineFeed.written lines ++ last := by
  induction lines with
  | nil =>
      have whole := unifyLineEnds_append (unbroken last (by simp)) []
      rw [List.append_nil] at whole
      rw [Terminator.written, List.flatMap_nil, List.nil_append, whole]
      exact List.append_nil last
  | cons line lines induction =>
      obtain ⟨first, later⟩ := List.forall_mem_cons.mp unbroken
      have apart : terminator = .carriageReturn →
          (terminator.written lines ++ last).head? ≠ some '\n' := by
        rintro rfl
        exact head?_written_carriageReturn later
      have split : ∀ terminator : Terminator,
          terminator.written (line :: lines) ++ last =
            line ++ (terminator.characters ++ (terminator.written lines ++ last)) := by
        intro terminator
        simp [Terminator.written]
      rw [split, split, unifyLineEnds_append first, unifyLineEnds_terminator _ apart,
        induction later]
      rfl

/-! ## Lines that are read back -/

/-- A line is read up to the line feed behind it. -/
theorem map_dropLineEnd_linesWithEnds_append
    {line : List Char}
    (unbroken : Unbroken line)
    (rest : List Char) :
    (linesWithEnds (line ++ '\n' :: rest)).map dropLineEnd =
      line :: (linesWithEnds rest).map dropLineEnd := by
  induction line with
  | nil => rfl
  | cons character line induction =>
      obtain ⟨plain, unbroken⟩ := List.forall_mem_cons.mp unbroken
      rw [List.cons_append, linesWithEnds_cons_of_plain plain,
        map_dropLineEnd_consToFirst plain, induction unbroken, consToFirst]

/-- A text without a terminator is one line, unless it is empty. -/
theorem linesWithEnds_of_unbroken
    {line : List Char}
    (unbroken : Unbroken line)
    (some : line ≠ []) :
    linesWithEnds line = [line] := by
  induction line with
  | nil => exact (some rfl).elim
  | cons character line induction =>
      obtain ⟨plain, unbroken⟩ := List.forall_mem_cons.mp unbroken
      rw [linesWithEnds_cons_of_plain plain]
      cases line with
      | nil => rfl
      | cons next line => rw [induction unbroken (by simp), consToFirst]

theorem map_dropLineEnd_linesWithEnds_written
    {lines : List (List Char)}
    (unbroken : ∀ line ∈ lines, Unbroken line)
    (rest : List Char) :
    (linesWithEnds (Terminator.lineFeed.written lines ++ rest)).map dropLineEnd =
      lines ++ (linesWithEnds rest).map dropLineEnd := by
  induction lines with
  | nil => rfl
  | cons line lines induction =>
      obtain ⟨first, later⟩ := List.forall_mem_cons.mp unbroken
      have split : Terminator.lineFeed.written (line :: lines) ++ rest =
          line ++ '\n' :: (Terminator.lineFeed.written lines ++ rest) := by
        simp [Terminator.written, Terminator.characters]
      rw [split, map_dropLineEnd_linesWithEnds_append first, induction later]
      rfl

/-- Lines are read back from every text that they make up. -/
theorem Terminator.Ends.map_dropLineEnd
    {terminator : Terminator}
    {lines : List (List Char)}
    {text : List Char}
    (ends : terminator.Ends lines text)
    (unbroken : ∀ line ∈ lines, Unbroken line) :
    (linesWithEnds text).map dropLineEnd = lines := by
  rw [← map_dropLineEnd_linesWithEnds_unifyLineEnds]
  cases ends with
  | all =>
      have closed : ∀ line ∈ lines ++ [[]], Unbroken line := by
        simpa [or_imp, forall_and] using ⟨unbroken, List.forall_mem_nil _⟩
      have unified := unifyLineEnds_written terminator closed
      rw [List.append_nil, List.append_nil] at unified
      have back := map_dropLineEnd_linesWithEnds_written unbroken []
      rw [List.append_nil] at back
      rw [unified, back]
      exact List.append_nil lines
  | allButLast front some =>
      rename_i last
      have final : Unbroken last := unbroken last (by simp)
      have earlier : ∀ line ∈ front, Unbroken line :=
        fun line member => unbroken line (List.mem_append_left _ member)
      rw [unifyLineEnds_written terminator unbroken,
        map_dropLineEnd_linesWithEnds_written earlier,
        linesWithEnds_of_unbroken final some, List.map_singleton, final.dropLineEnd_eq]

end Text

/-! ## Splitters, files and sessions -/

/-- Lines that differ in their terminators only have the same units. -/
theorem Splitter.units_congr
    (splitter : Splitter)
    {lines others : List (List Char)}
    (same : lines.map Text.dropLineEnd = others.map Text.dropLineEnd) :
    splitter.units lines = splitter.units others := by
  induction lines generalizing splitter others with
  | nil =>
      cases others with
      | nil => rfl
      | cons raw others => cases same
  | cons raw lines induction =>
      cases others with
      | nil => cases same
      | cons other others =>
          rw [List.map_cons, List.map_cons, List.cons.injEq] at same
          have fed : splitter.feed raw = splitter.feed other := by
            simp only [feed, same.1]
          simp only [units, fed, induction _ same.2]

namespace Command

open Delimit.Files (Path System Tree)

/--
How a text that lines make up is read: from a file, it is split into the units of the
lines themselves, and a session takes the lines and shows what it shows for them.
-/
structure ReadsLines
    (config : Config)
    (lines : List (List Char))
    (text : List Char) :
    Prop where
  files : ∀ (system : System) (path : Path), system.isFile path = .ok true →
    system.bytes path = .ok (Text.encodeUtf8 text) →
      splitFile system config path =
        .ok (.ok ⟨path.text, (splitUnits (Validator.new config.policy) lines).1⟩)
  taken : (Text.Newlines.universal.cut text).map Text.dropLineEnd = lines
  sessions : ∀ room, runRepl ⟨.universal, room⟩ config (Text.encodeUtf8 text) = do
    let output ← sessionOutput room (Session.events config lines)
    return {
      exit := 0
      output
      errors := (Session.events config lines).flatMap eventErrors }

/--
Lines without terminators of their own are read alike from every text that they make
up, whichever terminator stands behind them.
-/
theorem readsLines_of_ends
    {terminator : Text.Terminator}
    {lines : List (List Char)}
    {text : List Char}
    (unbroken : ∀ line ∈ lines, Text.Unbroken line)
    (ends : terminator.Ends lines text)
    (config : Config) :
    ReadsLines config lines text := by
  have back := ends.map_dropLineEnd unbroken
  have kept := Text.map_dropLineEnd_of_unbroken unbroken
  have taken : (Text.Newlines.universal.cut text).map Text.dropLineEnd = lines :=
    (Text.Newlines.map_dropLineEnd_cut (.inl rfl)).trans back
  refine ⟨?_, taken, ?_⟩
  · intro system path isFile bytes
    have holds : system.readText path = .ok text := by
      simp only [System.readText, bytes, Text.decodeUtf8?_encodeUtf8]
    have same := Splitter.units_congr { validator := Validator.new config.policy }
      (back.trans kept.symm)
    rw [splitFile_eq isFile holds config, splitUnits, same]
    rfl
  · intro room
    have same := Session.events_congr config (taken.trans kept.symm)
    simp only [runRepl, Text.decodeUtf8?_encodeUtf8, same]

/-- An empty line, and lines with separators that end no line. -/
def separatedLines : List (List Char) :=
  ["(\x0c".toList, [], "\u2028)\u0085".toList, "\x1c\x0b".toList]

/-- The separated lines with carriage returns between them and none at the end. -/
def separatedText : List Char :=
  "(\x0c\r\r\u2028)\u0085\r\x1c\x0b".toList

/-- The tree whose only file holds the separated text. -/
def separatedTree : Tree :=
  ⟨[(["lines".toList], Text.encodeUtf8 separatedText)], [], []⟩

/-- The separated lines are read from a file and by a session as they are. -/
theorem readsLines_separatedLines :
    (∀ line ∈ separatedLines, Text.Unbroken line) ∧
      Text.Terminator.carriageReturn.Ends separatedLines separatedText ∧
      ReadsLines {} separatedLines separatedText ∧
      splitFile separatedTree.system {} (Path.ofText "lines".toList) =
        .ok (.ok
          ⟨"lines".toList, (splitUnits (Validator.new {}) separatedLines).1⟩) := by
  have unbroken : ∀ line ∈ separatedLines, Text.Unbroken line := by
    decide +kernel
  have ends : Text.Terminator.carriageReturn.Ends separatedLines separatedText :=
    .allButLast ["(\x0c".toList, [], "\u2028)\u0085".toList] (by decide)
  have reads := readsLines_of_ends unbroken ends {}
  exact ⟨unbroken, ends, reads, reads.files separatedTree.system _ rfl rfl⟩

end Command

end Delimit
