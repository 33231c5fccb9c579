import Delimit.Proofs.DelimiterSpans
import Delimit.Proofs.SessionPrompts

/-!
# What a session prints

A session prints a prompt first and one after each line that it takes.  Between two prompts
it prints the text of the unit that the line there completes, and behind the last prompt it
warns of a unit that is left incomplete.  For every mismatch it writes one line for errors.
The whole of it follows from the units of the lines that the session takes.

A session needs texts as long as its prompts.  Where a host cannot make one of them, the
session breaks down, and it breaks down for no other reason.
-/

namespace Delimit

/-! ## The text of a session -/

namespace UnitRecord

/-- Those of some units that are complete and end with a line. -/
def completedBy
    (units : List UnitRecord)
    (line : Nat) :
    List UnitRecord :=
  units.filter fun unit => unit.status == .complete && unit.lastLine == line

end UnitRecord

namespace Session

/-- The texts of the units that a line completes, with a line feed behind each. -/
def echoed
    (units : List UnitRecord)
    (line : Nat) :
    List Char :=
  (UnitRecord.completedBy units line).flatMap fun unit => unit.text ++ ['\n']

/-- The warning of the last of some units, if that is incomplete. -/
def warning
    (units : List UnitRecord) :
    List Char :=
  match units.getLast? with
  | some unit =>
      if unit.status = .incomplete then
        "\nWarning: discarding incomplete input: ".toList ++ Text.quoted unit.text ++ ['\n']
      else
        []
  | none => []

/-- The complaints about the mismatches among some units, a line for each. -/
def complaints
    (units : List UnitRecord) :
    List Char :=
  (units.filter (·.status == .mismatch)).flatMap fun _ =>
    "Error: closing delimiter does not match the innermost open one\n".toList

/--
What a session prints for the lines that it takes: a prompt, for each line what it
completes and the prompt after it, and the warning.
-/
def printedFor
    (config : Config)
    (lines : List (List Char)) :
    List Char :=
  let units := unitsOf config lines
  let shownFor := fun before =>
    echoed units (before + 1) ++ promptAfter config (lines.take (before + 1))
  promptAfter config [] ++ (List.range lines.length).flatMap shownFor ++ warning units

/-- No prompt that lines call for is longer than the texts that a host can make. -/
def Fits
    (room : Nat)
    (config : Config)
    (lines : List (List Char)) :
    Prop :=
  ∀ earlier, earlier <+: lines → (promptAfter config earlier).length ≤ room

end Session

/-! ## The texts of events -/

namespace SessionEvent

/-- What is printed for an event where there is room for every prompt. -/
def text : SessionEvent → List Char
  | prompt shown => shown.characters
  | echo text => text ++ ['\n']
  | mismatch => []
  | discarded text =>
      "\nWarning: discarding incomplete input: ".toList ++ Text.quoted text ++ ['\n']

@[simp]
theorem text_echo
    (unit : List Char) :
    text (.echo unit) = unit ++ ['\n'] := rfl

@[simp]
theorem text_mismatch :
    text .mismatch = [] := rfl

theorem text_discarded
    (unit : List Char) :
    text (.discarded unit) =
      "\nWarning: discarding incomplete input: ".toList ++ Text.quoted unit ++ ['\n'] := rfl

/-- Of units that have ended, the complete ones are printed. -/
theorem flatMap_text_ofUnit
    {units : List UnitRecord}
    (final : ∀ unit ∈ units, unit.status ≠ .incomplete) :
    (units.map ofUnit).flatMap text =
      (units.filter (·.status == .complete)).flatMap fun unit => unit.text ++ ['\n'] := by
  induction units with
  | nil => rfl
  | cons unit units induction =>
      obtain ⟨ended, later⟩ := List.forall_mem_cons.mp final
      rw [List.map_cons, List.flatMap_cons, induction later]
      cases status : unit.status with
      | complete =>
          rw [ofUnit_of_complete status, List.filter_cons_of_pos (by rw [status]; rfl),
            List.flatMap_cons, text_echo]
      | mismatch =>
          rw [ofUnit_of_mismatch status, List.filter_cons_of_neg (by rw [status]; decide),
            text_mismatch, List.nil_append]
      | incomplete => exact (ended status).elim

end SessionEvent

namespace Command

theorem eventErrors_mismatch :
    eventErrors .mismatch =
      "Error: closing delimiter does not match the innermost open one\n".toList := by
  decide

theorem eventOutput_discarded
    (room : Nat)
    (text : List Char) :
    eventOutput room (.discarded text) = .ok (SessionEvent.text (.discarded text)) := by
  have opening : "\nWarning: discarding incomplete input: ".toList =
      '\n' :: "Warning: discarding incomplete input: ".toList := by
    decide
  rw [SessionEvent.text_discarded, opening]
  rfl

/-- An event is printed as its text, unless it is a prompt that there is no room for. -/
theorem eventOutput_eq
    (room : Nat)
    (event : SessionEvent) :
    eventOutput room event =
      if ∀ prompt ∈ event.prompt?, prompt.length ≤ room then
        .ok event.text
      else
        .error (.value .overflow) := by
  cases event with
  | prompt shown =>
      have only : (∀ prompt ∈ (SessionEvent.prompt shown).prompt?, prompt.length ≤ room) ↔
          shown.length ≤ room := by
        simp [SessionEvent.prompt?]
      simp only [only]
      rfl
  | echo text => exact (if_pos (by simp [SessionEvent.prompt?])).symm
  | mismatch => exact (if_pos (by simp [SessionEvent.prompt?])).symm
  | discarded text =>
      rw [if_pos (by simp [SessionEvent.prompt?]), eventOutput_discarded]

theorem forall_prompt_cons_iff
    {holds : Prompt → Prop}
    {event : SessionEvent}
    {events : List SessionEvent} :
    (∀ prompt ∈ (event :: events).filterMap SessionEvent.prompt?, holds prompt) ↔
      (∀ prompt ∈ event.prompt?, holds prompt) ∧
        ∀ prompt ∈ events.filterMap SessionEvent.prompt?, holds prompt := by
  cases event <;> simp [SessionEvent.prompt?]

/--
Where there is room for every prompt, what is printed is the texts of the events.  A
prompt that there is no room for breaks the session down.
-/
theorem sessionOutput_eq
    (room : Nat)
    (events : List SessionEvent) :
    sessionOutput room events =
      if ∀ prompt ∈ events.filterMap SessionEvent.prompt?, prompt.length ≤ room then
        .ok (events.flatMap SessionEvent.text)
      else
        .error (.value .overflow) := by
  induction events with
  | nil => rfl
  | cons event events induction =>
      rw [sessionOutput, eventOutput_eq, induction]
      simp only [forall_prompt_cons_iff]
      by_cases first : ∀ prompt ∈ event.prompt?, prompt.length ≤ room
      · by_cases later : ∀ prompt ∈ events.filterMap SessionEvent.prompt?, prompt.length ≤ room
        · rw [if_pos first, if_pos later, if_pos ⟨first, later⟩]
          rfl
        · rw [if_pos first, if_neg later, if_neg (mt And.right later)]
          rfl
      · rw [if_neg first, if_neg (mt And.left first)]
        rfl

theorem flatMap_filter_isPrompt
    (events : List SessionEvent) :
    (events.filter (!·.isPrompt)).flatMap eventErrors =
      events.flatMap eventErrors := by
  induction events with
  | nil => rfl
  | cons event events induction =>
      cases event with
      | prompt shown => exact induction
      | echo text => exact congrArg (eventErrors (.echo text) ++ ·) induction
      | mismatch => exact congrArg (eventErrors .mismatch ++ ·) induction
      | discarded text =>
          exact congrArg (eventErrors (.discarded text) ++ ·) induction

/-- A session complains once about every mismatch. -/
theorem flatMap_eventErrors_ofUnit
    (units : List UnitRecord) :
    (units.map SessionEvent.ofUnit).flatMap eventErrors = Session.complaints units := by
  induction units with
  | nil => rfl
  | cons unit units induction =>
      rw [List.map_cons, List.flatMap_cons, induction, Session.complaints, Session.complaints]
      cases status : unit.status with
      | complete =>
          rw [SessionEvent.ofUnit_of_complete status, eventErrors, List.nil_append,
            List.filter_cons_of_neg (by rw [status]; decide)]
          · nofun
      | incomplete =>
          rw [SessionEvent.ofUnit_of_incomplete status, eventErrors, List.nil_append,
            List.filter_cons_of_neg (by rw [status]; decide)]
          · nofun
      | mismatch =>
          rw [SessionEvent.ofUnit_of_mismatch status, eventErrors_mismatch,
            List.filter_cons_of_pos (by rw [status]; rfl), List.flatMap_cons]

end Command

/-! ## Units and the lines that end them -/

namespace Splitter

theorem lastLine_of_feed
    {splitter : Splitter}
    {raw : List Char}
    {unit : UnitRecord}
    (handed : unit ∈ (splitter.feed raw).1) :
    unit.lastLine = splitter.lineNumber + 1 := by
  unfold feed at handed
  dsimp only at handed
  split at handed
  · cases handed
  · split at handed
    · cases handed
    · cases handed
      rfl

/-- Complete units end behind the lines that were read before. -/
theorem lineNumber_lt_lastLine
    {splitter : Splitter}
    {lines : List (List Char)}
    {unit : UnitRecord}
    (member : unit ∈ (splitter.units lines).1)
    (complete : unit.status = .complete) :
    splitter.lineNumber < unit.lastLine := by
  induction lines generalizing splitter with
  | nil =>
      have pending := status_finish splitter unit (Option.mem_toList.mp member)
      rw [pending] at complete
      cases complete
  | cons raw lines induction =>
      rcases List.mem_append.mp member with fed | later
      · rw [lastLine_of_feed (Option.mem_toList.mp fed)]
        exact Nat.lt_succ_self _
      · have behind := @induction (splitter.feed raw).2 later
        rw [(splitter.advances_feed raw).lineNumber] at behind
        exact Nat.lt_of_succ_lt behind

/-- The first line completes what a splitter hands over for it. -/
theorem completedBy_units_cons
    (splitter : Splitter)
    (raw : List Char)
    (lines : List (List Char)) :
    UnitRecord.completedBy (splitter.units (raw :: lines)).1 (splitter.lineNumber + 1) =
      (splitter.feed raw).1.toList.filter (·.status == .complete) := by
  have later : UnitRecord.completedBy ((splitter.feed raw).2.units lines).1
      (splitter.lineNumber + 1) = [] := by
    rw [UnitRecord.completedBy, List.filter_eq_nil_iff]
    intro unit member
    rw [Bool.and_eq_true, beq_iff_eq, beq_iff_eq]
    rintro ⟨complete, last⟩
    have behind := lineNumber_lt_lastLine member complete
    rw [(splitter.advances_feed raw).lineNumber] at behind
    omega
  have first : UnitRecord.completedBy (splitter.feed raw).1.toList
      (splitter.lineNumber + 1) =
        (splitter.feed raw).1.toList.filter (·.status == .complete) := by
    refine List.filter_congr ?_
    intro unit member
    rw [lastLine_of_feed (Option.mem_toList.mp member), beq_self_eq_true, Bool.and_true]
  calc UnitRecord.completedBy (splitter.units (raw :: lines)).1 (splitter.lineNumber + 1)
      = UnitRecord.completedBy (splitter.feed raw).1.toList (splitter.lineNumber + 1) ++
          UnitRecord.completedBy ((splitter.feed raw).2.units lines).1
            (splitter.lineNumber + 1) := List.filter_append ..
    _ = _ := by rw [first, later, List.append_nil]

/-- The other lines complete what they complete without the first. -/
theorem completedBy_units_cons_succ
    (splitter : Splitter)
    (raw : List Char)
    (lines : List (List Char))
    (before : Nat) :
    UnitRecord.completedBy (splitter.units (raw :: lines)).1
        (splitter.lineNumber + (before + 1 + 1)) =
      UnitRecord.completedBy ((splitter.feed raw).2.units lines).1
        ((splitter.feed raw).2.lineNumber + (before + 1)) := by
  have first : UnitRecord.completedBy (splitter.feed raw).1.toList
      (splitter.lineNumber + (before + 1 + 1)) = [] := by
    rw [UnitRecord.completedBy, List.filter_eq_nil_iff]
    intro unit member
    rw [lastLine_of_feed (Option.mem_toList.mp member), Bool.and_eq_true, beq_iff_eq,
      beq_iff_eq]
    omega
  have number : splitter.lineNumber + (before + 1 + 1) =
      (splitter.feed raw).2.lineNumber + (before + 1) := by
    rw [(splitter.advances_feed raw).lineNumber]
    omega
  calc UnitRecord.completedBy (splitter.units (raw :: lines)).1
        (splitter.lineNumber + (before + 1 + 1))
      = UnitRecord.completedBy (splitter.feed raw).1.toList
            (splitter.lineNumber + (before + 1 + 1)) ++
          UnitRecord.completedBy ((splitter.feed raw).2.units lines).1
            (splitter.lineNumber + (before + 1 + 1)) := List.filter_append ..
    _ = _ := by rw [first, List.nil_append, number]

/-- Line by line, all complete units are completed in order. -/
theorem flatMap_completedBy_units
    (splitter : Splitter)
    (lines : List (List Char)) :
    ((List.range lines.length).flatMap fun before =>
        UnitRecord.completedBy (splitter.units lines).1
          (splitter.lineNumber + (before + 1))) =
      (splitter.units lines).1.filter (·.status == .complete) := by
  induction lines generalizing splitter with
  | nil =>
      symm
      rw [List.length_nil, List.range_zero, List.flatMap_nil, List.filter_eq_nil_iff]
      intro unit member
      rw [status_finish splitter unit (Option.mem_toList.mp member)]
      decide
  | cons raw lines induction =>
      have later := induction (splitter.feed raw).2
      simp only [← completedBy_units_cons_succ] at later
      rw [List.length_cons, List.range_succ_eq_map, List.flatMap_cons, List.flatMap_map,
        Nat.zero_add, completedBy_units_cons, later]
      exact (List.filter_append ..).symm

end Splitter

namespace Session

theorem warning_nil :
    warning [] = [] := rfl

/-- The last unit decides on the warning. -/
theorem warning_concat
    (units : List UnitRecord)
    (last : UnitRecord) :
    warning (units ++ [last]) = warning [last] := by
  unfold warning
  rw [List.getLast?_concat, List.getLast?_singleton]

theorem warning_singleton
    (unit : UnitRecord) :
    warning [unit] =
      if unit.status = .incomplete then
        SessionEvent.text (.discarded unit.text)
      else
        [] := rfl

/-- A unit that has ended is not warned of. -/
theorem warning_append
    {units : List UnitRecord}
    (final : ∀ unit ∈ units, unit.status ≠ .incomplete)
    (later : List UnitRecord) :
    warning (units ++ later) = warning later := by
  rcases List.eq_nil_or_concat later with rfl | ⟨later, last, rfl⟩
  · rw [List.append_nil, warning_nil]
    rcases List.eq_nil_or_concat units with rfl | ⟨units, last, rfl⟩
    · exact warning_nil
    · rw [List.concat_eq_append] at final ⊢
      rw [warning_concat, warning_singleton, if_neg (final last (by simp))]
  · rw [List.concat_eq_append, ← List.append_assoc, warning_concat, warning_concat]

/-- What is pending when the lines run out is warned of. -/
theorem flatMap_text_finish
    (splitter : Splitter) :
    (splitter.finish.1.toList.map SessionEvent.ofUnit).flatMap SessionEvent.text =
      warning splitter.finish.1.toList := by
  have pending := splitter.status_finish
  cases handed : splitter.finish.1 with
  | none => exact warning_nil.symm
  | some unit =>
      have incomplete := pending unit handed
      rw [Option.toList_some, List.map_singleton, List.flatMap_singleton,
        SessionEvent.ofUnit_of_incomplete incomplete, warning_singleton, if_pos incomplete]

/-- What a session prints behind its first prompt, line by line. -/
theorem flatMap_text_eventsAfter
    (config : Config)
    {splitter : Splitter}
    (reachable : splitter.validator.Reachable)
    (lines : List (List Char)) :
    (eventsAfter config splitter.validator lines).flatMap SessionEvent.text =
      ((List.range (taken splitter.validator lines).length).flatMap fun before =>
        echoed (splitter.units (taken splitter.validator lines)).1
            (splitter.lineNumber + (before + 1)) ++
          (promptFor config (splitter.read
            ((taken splitter.validator lines).take (before + 1))).2.validator).characters) ++
        warning (splitter.units (taken splitter.validator lines)).1 := by
  induction lines generalizing splitter with
  | nil =>
      rw [eventsAfter, close_eq_finish reachable, flatMap_text_finish]
      rfl
  | cons raw lines induction =>
      have final := (splitter.advances_feed raw).final
      rw [eventsAfter, taken]
      split
      · rename_i quits
        simp [Splitter.units, Splitter.finish, not_isPending_of_quits reachable quits, warning]
      · -- The first line is shown by what it hands over, the others by the induction.
        have later := induction (reachable.feed raw)
        simp only [respond_eq_feed]
        generalize taken (splitter.feed raw).2.validator lines = took at later ⊢
        have warned : warning (splitter.units (raw :: took)).1 =
            warning ((splitter.feed raw).2.units took).1 := warning_append final _
        simp only [echoed, ← Splitter.completedBy_units_cons_succ] at later
        rw [List.flatMap_append, List.flatMap_cons, SessionEvent.flatMap_text_ofUnit final,
          later, warned, List.length_cons, List.range_succ_eq_map, List.flatMap_cons,
          List.flatMap_map, Nat.zero_add, echoed, Splitter.completedBy_units_cons]
        simp only [echoed, List.append_assoc]
        rfl

/-- What a session prints where there is room for its prompts. -/
theorem flatMap_text_events
    (config : Config)
    (lines : List (List Char)) :
    (events config lines).flatMap SessionEvent.text =
      printedFor config (taken (.new config.policy) lines) := by
  have shown := @flatMap_text_eventsAfter config (Splitter.new config.policy)
    (.new config.policy) lines
  have first : (promptFor config (.new config.policy)).characters = promptAfter config [] :=
    characters_promptFor_read config []
  have number : ∀ before, (Splitter.new config.policy).lineNumber + (before + 1) = before + 1 :=
    fun before => Nat.zero_add _
  simp only [number, characters_promptFor_read] at shown
  have whole : (events config lines).flatMap SessionEvent.text =
      (promptFor config (.new config.policy)).characters ++ _ :=
    congrArg (_ ++ ·) shown
  rw [whole, first, printedFor, List.append_assoc]
  rfl

/-- What a session writes for errors. -/
theorem flatMap_eventErrors_events
    (config : Config)
    (lines : List (List Char)) :
    (events config lines).flatMap Command.eventErrors =
      complaints (unitsOf config (taken (.new config.policy) lines)) := by
  have shown := @filter_eventsAfter config (Splitter.new config.policy)
    (.new config.policy) lines
  rw [← Command.flatMap_filter_isPrompt, events,
    List.filter_cons_of_neg (by simp [prompt, SessionEvent.isPrompt])]
  exact (congrArg _ shown).trans (Command.flatMap_eventErrors_ofUnit _)

/-- There is room for the prompts of a session if there is for those that its lines call for. -/
theorem forall_prompt_iff
    (room : Nat)
    (config : Config)
    (lines : List (List Char)) :
    (∀ prompt ∈ (events config lines).filterMap SessionEvent.prompt?, prompt.length ≤ room) ↔
      Fits room config (taken (.new config.policy) lines) := by
  have shown := @prompts_eq config (Splitter.new config.policy) (.new config.policy) lines
  have same : (events config lines).filterMap SessionEvent.prompt? = _ := shown
  simp only [same, List.forall_mem_map, List.mem_inits, ← Prompt.length_characters,
    characters_promptFor_read]
  rfl

end Session

namespace Command

/-- A session on a text, by the units of the lines that it takes. -/
theorem runRepl_eq
    (host : Host)
    (config : Config)
    {input : List UInt8}
    {text : List Char}
    (typed : Text.decodeUtf8? input = some text)
    {lines : List (List Char)}
    (same : (host.newlines.cut text).map Text.dropLineEnd = lines.map Text.dropLineEnd) :
    let took := Session.taken (.new config.policy) lines
    (Session.Fits host.room config took →
        runRepl host config input = .ok
          { exit := 0
            output := Session.printedFor config took
            errors := Session.complaints (Session.unitsOf config took) }) ∧
      (¬ Session.Fits host.room config took →
        runRepl host config input = .error (.value .overflow)) := by
  intro took
  have room := Session.forall_prompt_iff host.room config lines
  simp only [runRepl, typed, Session.events_congr config same, sessionOutput_eq,
    Session.flatMap_text_events, Session.flatMap_eventErrors_events]
  constructor
  · intro fits
    rw [if_pos (room.mpr fits)]
    rfl
  · intro long
    rw [if_neg (mt room.mp long)]
    rfl

end Command

/-! ## Room for prompts -/

namespace Validator

/-- A line adds its characters to the input, and at most two more. -/
theorem length_input_validate_le
    (validator : Validator)
    (line : List Char) :
    (validator.validate line).2.input.length ≤
      validator.input.length + (line.length + 2) := by
  rw [input_validate, joinLine]
  split
  · omega
  · split
    · simp
    · split
      · simp only [List.length_append, List.length_dropLast]
        omega
      · simp

theorem length_input_after_le
    (validator : Validator)
    (lines : List (List Char)) :
    (validator.after lines).input.length ≤
      validator.input.length + (lines.flatten.length + 2 * lines.length) := by
  induction lines generalizing validator with
  | nil => exact Nat.le_refl _
  | cons line lines induction =>
      have first := validator.length_input_validate_le line
      have later : (validator.after (line :: lines)).input.length ≤ _ :=
        induction (validator.validate line).2
      rw [List.flatten_cons, List.length_append, List.length_cons]
      omega

/-- Lines open no more than they have characters, and two more for each of them. -/
theorem expectedIndent_after_le
    (policy : Policy)
    (lines : List (List Char)) :
    ((new policy).after lines).expectedIndent ≤ lines.flatten.length + 2 * lines.length := by
  have spelled := ((Reachable.new policy).after lines).spelled.length_le
  have held := (new policy).length_input_after_le lines
  have empty : (new policy).input.length = 0 := rfl
  rw [expectedIndent, Stack.depth]
  omega

end Validator

namespace Session

/--
There is room for the prompts of lines if there is for the primary prompt, and for the
continuation prompt with an indent for every character and two more for every line.
-/
theorem fits_of_le
    {room : Nat}
    {config : Config}
    {lines : List (List Char)}
    (primary : config.prompt.length ≤ room)
    (indented : config.continuationPrompt.length +
      ((lines.map Text.dropLineEnd).flatten.length + 2 * lines.length) * config.indentWidth ≤
        room) :
    Fits room config lines := by
  intro earlier among
  unfold promptAfter
  dsimp only
  split
  · generalize UnitRecord.lastEnd (UnitRecord.closed (unitsOf config earlier)) = ended
    have inside : earlier.drop ended <:+: lines :=
      (List.drop_suffix ended earlier).isInfix.trans among.isInfix
    generalize earlier.drop ended = behind at inside ⊢
    obtain ⟨front, back, rfl⟩ := inside
    have opened := Validator.expectedIndent_after_le config.policy (behind.map Text.dropLineEnd)
    rw [List.length_append, List.length_replicate]
    refine (Nat.add_le_add_left (Nat.mul_le_mul_right _ (opened.trans ?_)) _).trans indented
    simp only [List.map_append, List.flatten_append, List.length_append, List.length_map]
    omega
  · exact primary

/-! ## Agreement -/

/-- The lines that a session takes from a text. -/
def linesTaken
    (newlines : Text.Newlines)
    (config : Config)
    (text : List Char) :
    List (List Char) :=
  taken (.new config.policy) (newlines.cut text)

/-- How a session on a text goes by the units of the lines that it takes. -/
structure GoesByUnits
    (host : Command.Host)
    (config : Config)
    (input : List UInt8)
    (text : List Char) :
    Prop where
  /-- Where there is room for its prompts, it runs and prints what the units call for. -/
  runs : Fits host.room config (linesTaken host.newlines config text) →
    Command.runRepl host config input = .ok
      { exit := 0
        output := printedFor config (linesTaken host.newlines config text)
        errors := complaints (unitsOf config (linesTaken host.newlines config text)) }
  /-- It breaks down at a prompt that there is no room for. -/
  breaks : ¬ Fits host.room config (linesTaken host.newlines config text) →
    Command.runRepl host config input = .error (.value .overflow)
  /-- It takes lines in order. -/
  inOrder : linesTaken host.newlines config text <+: host.newlines.cut text
  /-- It shows a prompt first and after each line, and always the one that is called for. -/
  prompts :
    ((events config (host.newlines.cut text)).filterMap SessionEvent.prompt?).map
        Prompt.characters =
      (linesTaken host.newlines config text).inits.map (promptAfter config)
  /-- A line ends it if it is a quitting word and no unit is pending. -/
  ends : ∀ earlier raw later,
    host.newlines.cut text = earlier ++ raw :: later →
    earlier <+: linesTaken host.newlines config text →
      (linesTaken host.newlines config text = earlier ↔
        Text.strip (Text.dropLineEnd raw) = quitWord ∧
          UnitRecord.endsPending (unitsOf config earlier) = false)
  /-- Where a unit is pending, a quitting word is part of the text that it ends with. -/
  joins : ∀ earlier raw later pending,
    host.newlines.cut text = earlier ++ raw :: later →
    earlier <+: linesTaken host.newlines config text →
    Text.strip (Text.dropLineEnd raw) = quitWord →
    (unitsOf config earlier).getLast? = some pending →
    pending.status = .incomplete →
      ∃ unit ∈ unitsOf config (linesTaken host.newlines config text),
        unit.index = pending.index ∧ unit.firstLine = pending.firstLine ∧
          earlier.length < unit.lastLine ∧ Text.dropLineEnd raw <:+: unit.text

/--
A session on a text goes by the units of the lines that it takes: they say which prompt it
shows and how far it is indented, what it prints between two prompts, whether a quitting
word ends it, and what becomes of a quitting word that does not.
-/
theorem goesByUnits_runRepl
    (host : Command.Host)
    (config : Config)
    {input : List UInt8}
    {text : List Char}
    (typed : Text.decodeUtf8? input = some text) :
    GoesByUnits host config input text where
  runs := (Command.runRepl_eq host config typed rfl).1
  breaks := (Command.runRepl_eq host config typed rfl).2
  inOrder := taken_prefix _ _
  prompts := by
    have shown := @prompts_eq config (Splitter.new config.policy) (.new config.policy)
      (host.newlines.cut text)
    refine (congrArg (List.map Prompt.characters) shown).trans ?_
    rw [List.map_map]
    refine List.map_congr_left ?_
    intro earlier _
    exact characters_promptFor_read config earlier
  ends := by
    intro earlier raw later split took
    exact taken_eq_iff config split took
  joins := by
    intro earlier raw later pending split took word last unfinished
    exact exists_unit_of_quitWord config split took word last unfinished

/-- A unit with the quitting word in its spliced literal, a blank line, and the word again. -/
def quittingText : List Char :=
  "f(\"a\\\n .q\r\n\\\nb\")\n \n.q\nx".toList

/--
A session on the quitting text reads the word as text first and ends with it then.  It
breaks down on a host that has no room for the indent.
-/
theorem goesByUnits_quittingText :
    Text.decodeUtf8? (Text.encodeUtf8 quittingText) = some quittingText ∧
      GoesByUnits {} {} (Text.encodeUtf8 quittingText) quittingText ∧
      linesTaken .universal {} quittingText =
        (Text.Newlines.universal.cut quittingText).take 5 ∧
      (∃ unit ∈ unitsOf {} (linesTaken .universal {} quittingText),
        unit.index = 0 ∧ unit.firstLine = 1 ∧ 1 < unit.lastLine ∧
          " .q".toList <:+: unit.text) ∧
      Command.runRepl {} {} (Text.encodeUtf8 quittingText) = .ok
        { exit := 0
          output := ("[replcheck] ?       ?       ?       f(\"a .q\\nb\")\n" ++
            "[replcheck] [replcheck] ").toList } ∧
      Command.runRepl ⟨.lineFeed, 12⟩ { indentWidth := 9 } (Text.encodeUtf8 quittingText) =
        .error (.value .overflow) := by
  have typed := Text.decodeUtf8?_encodeUtf8 quittingText
  have follows := goesByUnits_runRepl {} {} typed
  have narrow := goesByUnits_runRepl ⟨.lineFeed, 12⟩ { indentWidth := 9 } typed
  have fits : Fits ({} : Command.Host).room {} (linesTaken .universal {} quittingText) :=
    fits_of_le (by decide +kernel) (by decide +kernel)
  have printed : printedFor {} (linesTaken .universal {} quittingText) =
      ("[replcheck] ?       ?       ?       f(\"a .q\\nb\")\n" ++
        "[replcheck] [replcheck] ").toList := by
    decide +kernel
  have nothing : complaints (unitsOf {} (linesTaken .universal {} quittingText)) = [] := by
    decide +kernel
  refine ⟨typed, follows, ?_, ?_, ?_, narrow.breaks ?_⟩
  · exact (follows.ends _ ".q\n".toList ["x".toList] (by decide +kernel)
      (by decide +kernel)).mpr ⟨by decide +kernel, by decide +kernel⟩
  · exact follows.joins ["f(\"a\\\n".toList] " .q\n".toList
      ((Text.Newlines.universal.cut quittingText).drop 2)
      ⟨0, 1, 1, .incomplete, "f(\"a\\".toList⟩ (by decide +kernel) (by decide +kernel)
      (by decide +kernel) (by decide +kernel) rfl
  · rw [follows.runs fits, ← printed, ← nothing]
  · intro room
    have long := room ["f(\"a\\\n".toList] (by decide +kernel)
    revert long
    decide +kernel

end Session

end Delimit
