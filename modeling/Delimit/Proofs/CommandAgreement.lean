import Delimit.Proofs.Partition
import Delimit.Proofs.PrintedSessions

/-!
# Sessions and commands agree on a text

Whether a text is typed into a session or lies in a file, its units are the same, as long
as the host ends lines of standard input where lines of the file end.  A session prints the
texts of the complete units between its prompts, complains once about every mismatch, and
warns of a unit that is left incomplete.  The commands that read files report by their exit
code, and they do so exactly when the session complains or warns.
-/

namespace Delimit.Command

open Delimit.Files (Path System Tree)

/-! ## What a session reports -/

theorem complaints_ne_nil_iff
    (units : List UnitRecord) :
    Session.complaints units ≠ [] ↔ ∃ unit ∈ units, unit.status = .mismatch := by
  rw [Session.complaints, Ne, List.flatMap_eq_nil_iff]
  constructor
  · intro complains
    push Not at complains
    obtain ⟨unit, member, -⟩ := complains
    rw [List.mem_filter, beq_iff_eq] at member
    exact ⟨unit, member⟩
  · rintro ⟨unit, inside, mismatch⟩ silent
    have line := silent unit (List.mem_filter.mpr ⟨inside, beq_iff_eq.mpr mismatch⟩)
    revert line
    decide

/-- A session warns if a unit is incomplete, since that is the unit at the end. -/
theorem warning_ne_nil_iff
    {policy : Policy}
    {start index : Nat}
    {lines : List (List Char)}
    {units : List UnitRecord}
    (segmentation : Segmentation policy start index lines units) :
    Session.warning units ≠ [] ↔ ∃ unit ∈ units, unit.status = .incomplete := by
  constructor
  · intro warns
    rcases List.eq_nil_or_concat units with rfl | ⟨earlier, last, rfl⟩
    · exact (warns Session.warning_nil).elim
    · rw [List.concat_eq_append, Session.warning_concat, Session.warning_singleton] at warns
      refine ⟨last, by simp, ?_⟩
      by_contra final
      exact warns (if_neg final)
  · rintro ⟨unit, inside, incomplete⟩
    rcases List.append_of_mem inside with ⟨earlier, later, split⟩
    rcases segmentation.of_incomplete split incomplete with ⟨rfl, -⟩
    rw [split, Session.warning_concat, Session.warning_singleton, if_pos incomplete,
      SessionEvent.text_discarded]
    exact List.append_ne_nil_of_right_ne_nil _ (List.cons_ne_nil _ _)

/-- A session complains or warns when one of the units is an error. -/
theorem reports_iff
    {policy : Policy}
    {start index : Nat}
    {lines : List (List Char)}
    {units : List UnitRecord}
    (segmentation : Segmentation policy start index lines units) :
    Session.complaints units ≠ [] ∨ Session.warning units ≠ [] ↔
      units.any UnitRecord.isError = true := by
  rw [complaints_ne_nil_iff, warning_ne_nil_iff segmentation, List.any_eq_true]
  constructor
  · rintro (⟨unit, inside, status⟩ | ⟨unit, inside, status⟩)
    · exact ⟨unit, inside, by rw [UnitRecord.isError, status]; rfl⟩
    · exact ⟨unit, inside, by rw [UnitRecord.isError, status]; rfl⟩
  · rintro ⟨unit, inside, error⟩
    cases status : unit.status with
    | complete =>
        rw [UnitRecord.isError, status] at error
        cases error
    | mismatch => exact .inl ⟨unit, inside, status⟩
    | incomplete => exact .inr ⟨unit, inside, status⟩

/-! ## How commands exit -/

theorem splitFile_eq
    {system : System}
    {path : Path}
    {text : List Char}
    (isFile : system.isFile path = .ok true)
    (holds : system.readText path = .ok text)
    (config : Config) :
    splitFile system config path =
      .ok (.ok ⟨path.text,
        (splitUnits (Validator.new config.policy)
          (Text.linesWithEnds text)).1⟩) := by
  simp only [splitFile, isFile, holds]
  rfl

theorem exitOf_eq_one_iff
    (transcript : Transcript) :
    exitOf transcript = 1 ↔ transcript.units.any UnitRecord.isError = true := by
  unfold exitOf Transcript.hasErrors
  cases transcript.units.any UnitRecord.isError <;> simp

/-- The command that checks a file fails when one of its units is an error. -/
theorem exists_runCheck
    {system : System}
    {file text : List Char}
    (isFile : system.isFile (Path.ofText file) = .ok true)
    (holds : system.readText (Path.ofText file) = .ok text)
    (config : Config) :
    ∃ outcome, runCheck system config file = .ok outcome ∧
      (outcome.exit = 1 ↔
        (splitUnits (Validator.new config.policy)
          (Text.linesWithEnds text)).1.any UnitRecord.isError = true) := by
  unfold runCheck
  rw [splitFile_eq isFile holds config]
  exact ⟨_, rfl, exitOf_eq_one_iff _⟩

/-- The command that splits a file fails when one of its units is an error. -/
theorem exists_runSplit
    {system : System}
    {file text : List Char}
    (isFile : system.isFile (Path.ofText file) = .ok true)
    (holds : system.readText (Path.ofText file) = .ok text)
    (config : Config) :
    ∃ outcome, runSplit system config file none = .ok outcome ∧
      (outcome.exit = 1 ↔
        (splitUnits (Validator.new config.policy)
          (Text.linesWithEnds text)).1.any UnitRecord.isError = true) := by
  unfold runSplit
  rw [splitFile_eq isFile holds config]
  exact ⟨_, rfl, exitOf_eq_one_iff _⟩

/-! ## Agreement -/

/-- The lines of a text that a session takes, with the terminators that they have in a file. -/
def linesBeforeQuit
    (config : Config)
    (text : List Char) :
    List (List Char) :=
  Session.taken (.new config.policy) (Text.linesWithEnds text)

/-- How a session on a text agrees with a splitter, and with commands on a file. -/
structure Agrees
    (host : Host)
    (config : Config)
    (input : List UInt8)
    (text : List Char) :
    Prop where
  /--
  The session exits with 0.  It prints a prompt, behind each line the texts of the complete
  units that end there and a prompt, and at the end the warning of a unit that is left
  incomplete; and it writes one line for errors about each mismatch.
  -/
  runs : runRepl host config input = .ok
    { exit := 0
      output := Session.printedFor config (linesBeforeQuit config text)
      errors := Session.complaints (Session.unitsOf config (linesBeforeQuit config text)) }
  /-- From line to line, the complete units are printed one for one and in order. -/
  echoes :
    (List.range (linesBeforeQuit config text).length).flatMap (fun before =>
        UnitRecord.completedBy (Session.unitsOf config (linesBeforeQuit config text))
          (before + 1)) =
      (Session.unitsOf config (linesBeforeQuit config text)).filter (·.status == .complete)
  /-- If it takes all lines, commands on a file with the text fail when it reports. -/
  exits :
    linesBeforeQuit config text = Text.linesWithEnds text →
      ∀ system file, system.isFile (Path.ofText file) = .ok true →
        system.readText (Path.ofText file) = .ok text →
        ∃ checked split, runCheck system config file = .ok checked ∧
          runSplit system config file none = .ok split ∧
          ∀ outcome ∈ [checked, split], outcome.exit = 1 ↔
            Session.complaints (Session.unitsOf config (linesBeforeQuit config text)) ≠ [] ∨
              Session.warning (Session.unitsOf config (linesBeforeQuit config text)) ≠ []

/--
A session on a text shows the units that a splitter makes of the lines that the session
takes, and commands that read the text from a file fail exactly when a session that takes
all lines reports a mismatch or a warning.  The host has room for the prompts, and it ends
lines of standard input at every terminator, or the text holds no carriage return that
ends a line alone.
-/
theorem runRepl_agrees
    (host : Host)
    (config : Config)
    {input : List UInt8}
    {text : List Char}
    (typed : Text.decodeUtf8? input = some text)
    (alike : host.newlines = .universal ∨ Text.ReturnsPaired text)
    (fits : Session.Fits host.room config (linesBeforeQuit config text)) :
    Agrees host config input text where
  runs := (runRepl_eq host config typed (Text.Newlines.map_dropLineEnd_cut alike)).1 fits
  echoes := by
    have ordered := (Splitter.new config.policy).flatMap_completedBy_units
      (linesBeforeQuit config text)
    have number : ∀ before, (Splitter.new config.policy).lineNumber + (before + 1) = before + 1 :=
      fun before => Nat.zero_add _
    simp only [number] at ordered
    exact ordered
  exits := by
    intro whole system file isFile holds
    have reports := reports_iff
      (segmentation_splitUnits config.policy (linesBeforeQuit config text))
    rcases exists_runCheck isFile holds config with ⟨checked, ran, exit⟩
    rcases exists_runSplit isFile holds config with ⟨split, ran', exit'⟩
    refine ⟨checked, split, ran, ran', ?_⟩
    rw [← whole] at exit exit'
    simp only [List.mem_cons, List.not_mem_nil, or_false, forall_eq_or_imp, forall_eq]
    exact ⟨exit.trans reports.symm, exit'.trans reports.symm⟩

/-- A unit with the quitting word inside, a mismatch, and a literal left open. -/
def typedText : List Char := "(\r\n.q\r)\n]\n\"a".toList

/-- The tree whose only file holds the typed text. -/
def typedTree : Tree :=
  ⟨[(["typed".toList], Text.encodeUtf8 typedText)], [], []⟩

theorem taken_typedText :
    Session.taken (Validator.new {}) (Text.linesWithEnds typedText) =
      Text.linesWithEnds typedText := by
  decide +kernel

theorem isFile_typedTree :
    typedTree.system.isFile (Path.ofText "typed".toList) = .ok true := by
  rfl

theorem readText_typedTree :
    typedTree.system.readText (Path.ofText "typed".toList) =
      .ok typedText := by
  rfl

/-- The typed text is handled alike by a session and by commands. -/
theorem agrees_typedText :
    Text.decodeUtf8? (Text.encodeUtf8 typedText) = some typedText ∧
      Agrees {} {} (Text.encodeUtf8 typedText) typedText ∧
      runRepl {} {} (Text.encodeUtf8 typedText) = .ok
        { exit := 0
          output := ("[replcheck] ?     ?     (\n.q\n)\n[replcheck] [replcheck] ?     " ++
            "\nWarning: discarding incomplete input: '\"a'\n").toList
          errors :=
            "Error: closing delimiter does not match the innermost open one\n".toList } ∧
      ∃ checked split,
        runCheck typedTree.system {} "typed".toList = .ok checked ∧
          runSplit typedTree.system {} "typed".toList none = .ok split ∧
          checked.exit = 1 ∧ split.exit = 1 := by
  have typed := Text.decodeUtf8?_encodeUtf8 typedText
  have fits : Session.Fits ({} : Host).room {} (linesBeforeQuit {} typedText) :=
    Session.fits_of_le (by decide +kernel) (by decide +kernel)
  have agrees := runRepl_agrees {} {} typed (.inl rfl) fits
  have complains : Session.complaints (Session.unitsOf {} (linesBeforeQuit {} typedText)) =
      "Error: closing delimiter does not match the innermost open one\n".toList := by
    decide +kernel
  have printed : Session.printedFor {} (linesBeforeQuit {} typedText) =
      ("[replcheck] ?     ?     (\n.q\n)\n[replcheck] [replcheck] ?     " ++
        "\nWarning: discarding incomplete input: '\"a'\n").toList := by
    decide +kernel
  obtain ⟨checked, split, ran, ran', exits⟩ := agrees.exits taken_typedText typedTree.system _
    isFile_typedTree readText_typedTree
  have fails : ∀ outcome ∈ [checked, split], outcome.exit = 1 := by
    intro outcome member
    refine (exits outcome member).mpr (.inl ?_)
    rw [complains]
    decide
  refine ⟨typed, agrees, ?_, checked, split, ran, ran', fails _ (by simp), fails _ (by simp)⟩
  rw [agrees.runs, printed, complains]

end Delimit.Command
