import Delimit.Proofs.IncrementalSplitting
import Mathlib.Data.List.Induction
import Mathlib.Data.List.Infix

/-!
# The prompts of a session

A session shows a prompt before every line that it takes.  Which prompt it shows follows
from the units of the lines so far: the continuation prompt if the last of them is
incomplete, and the primary prompt if not.  The continuation prompt is indented by what
the lines open that come behind the last unit that has ended, though a session keeps no
account of units.  A quitting word ends a session at the primary prompt, and at the
continuation prompt it is text of the pending unit.

A session goes by the input that its validator holds, by what is open, or by both.  Since
something open never goes without input, it makes no difference by which.
-/

namespace Delimit

namespace Text

/-- A text that ends visibly ends in the same way without the blanks at its ends. -/
theorem getLast?_strip
    {text : List Char}
    {character : Char}
    (last : text.getLast? = some character)
    (visible : isBlank character = false) :
    (strip text).getLast? = some character := by
  rcases List.getLast?_eq_some_iff.mp last with ⟨front, rfl⟩
  have kept : ∃ rest, (front ++ [character]).dropWhile isBlank = rest ++ [character] := by
    rw [List.dropWhile_append]
    split
    · exact ⟨[], by simp [visible]⟩
    · exact ⟨_, rfl⟩
  rcases kept with ⟨rest, kept⟩
  simp [strip, kept, visible]

end Text

/-- A part that ends in another way than a text is a part of the text without its end. -/
theorem infix_dropLast
    {part text : List Char}
    (inside : part <:+: text)
    (different : part.getLast? ≠ text.getLast?) :
    part <:+: text.dropLast := by
  rcases inside with ⟨front, back, rfl⟩
  rcases List.eq_nil_or_concat back with rfl | ⟨back, last, rfl⟩
  · cases part with
    | nil => exact List.nil_infix
    | cons first part =>
        rw [List.append_nil, List.getLast?_append, List.getLast?_cons, Option.some_or]
          at different
        exact (different rfl).elim
  · rw [List.concat_eq_append, ← List.append_assoc, List.dropLast_concat]
    exact ⟨front, back, rfl⟩

/-- A part of the input is still a part of it after a line, unless a splice ends it. -/
theorem infix_joinLine
    {part input : List Char}
    (inside : part <:+: input)
    (plain : part.getLast? ≠ some '\\')
    (continuesLiteral : Bool)
    (line : List Char) :
    part <:+: joinLine continuesLiteral input line := by
  unfold joinLine
  split
  · rename_i empty
    rw [List.isEmpty_iff.mp empty] at inside
    rw [List.infix_nil.mp inside]
    exact List.nil_infix
  · split
    · exact inside.trans (List.prefix_append _ _).isInfix
    · split
      · rename_i splice
        rw [← getLast?_of_endsWithSplice splice] at plain
        exact (infix_dropLast inside plain).trans (List.prefix_append _ _).isInfix
      · exact inside.trans (List.prefix_append _ _).isInfix

namespace Validator

/-- A line is a part of the input after it. -/
theorem infix_input_validate
    (validator : Validator)
    (line : List Char) :
    line <:+: (validator.validate line).2.input := by
  obtain ⟨before, joined, -⟩ :=
    exists_joinLine_append validator.continuesLiteral validator.input line
  rw [input_validate, joined]
  exact (List.suffix_append _ _).isInfix

/-- What is open after lines does not depend on the input. -/
theorem stack_after_congr
    {validator other : Validator}
    (policy : validator.policy = other.policy)
    (stack : validator.stack = other.stack)
    (lines : List (List Char)) :
    (validator.after lines).stack = (other.after lines).stack := by
  induction lines generalizing validator other with
  | nil => exact stack
  | cons line lines induction =>
      refine @induction (validator.validate line).2 (other.validate line).2 policy ?_
      rw [stack_validate, stack_validate, policy, stack]

/-- Blank lines open nothing. -/
theorem stack_after_of_blank
    {validator : Validator}
    (nothing : validator.stack = .empty)
    {lines : List (List Char)}
    (blank : ∀ line ∈ lines, Text.isAllBlank line = true) :
    (validator.after lines).stack = .empty := by
  induction lines generalizing validator with
  | nil => exact nothing
  | cons line lines induction =>
      rcases List.forall_mem_cons.mp blank with ⟨first, later⟩
      refine @induction (validator.validate line).2 ?_ later
      rw [stack_validate, nothing, Scan.ofLine_empty_of_blank _ first]
      rfl

end Validator

/-! ## The lines behind the last unit -/

namespace UnitRecord

/-- The number of lines up to the end of the last of some units. -/
def lastEnd
    (units : List UnitRecord) :
    Nat :=
  units.getLast?.elim 0 (·.lastLine)

end UnitRecord

namespace Splitter

/--
Where a splitter stands after lines of which it made units: the units have ended, the
lines behind them are blank and dropped, and those that come last are held.
-/
inductive StandsBehind
    (policy : Policy)
    (units : List UnitRecord)
    (splitter : Splitter)
    (lines : List (List Char)) :
    Prop where
  | intro {ended blank held : List (List Char)}
      (parts : lines = ended ++ (blank ++ held))
      (lastEnd : UnitRecord.lastEnd units = ended.length)
      (blanks : ∀ raw ∈ blank, Text.isAllBlank (Text.dropLineEnd raw) = true)
      (holds : splitter.Holds policy (ended.length + blank.length) held)

theorem StandsBehind.feed
    {policy : Policy}
    {units : List UnitRecord}
    {splitter : Splitter}
    {lines : List (List Char)}
    (stands : splitter.StandsBehind policy units lines)
    (raw : List Char) :
    (splitter.feed raw).2.StandsBehind policy (units ++ (splitter.feed raw).1.toList)
      (lines ++ [raw]) := by
  rcases stands with @⟨ended, blank, held, rfl, lastEnd, blanks, holds⟩
  have fed := holds.feed raw
  generalize splitter.feed raw = answer at fed
  rcases answer with ⟨unit, next⟩
  cases fed with
  | held index later =>
      rw [Option.toList_none, List.append_nil]
      exact .intro (by simp) lastEnd blanks later
  | dropped single blankLine index later =>
      subst single
      have further : ∀ other ∈ blank ++ [raw],
          Text.isAllBlank (Text.dropLineEnd other) = true := by
        simpa [or_imp, forall_and] using And.intro blanks blankLine
      have length : ended.length + blank.length + 1 =
          ended.length + (blank ++ [raw]).length := by
        rw [List.length_append, List.length_singleton, Nat.add_assoc]
      rw [length] at later
      rw [Option.toList_none, List.append_nil]
      exact .intro (by simp) lastEnd further later
  | ended final assembles index later =>
      have length : ended.length + blank.length + (held.length + 1) =
          (ended ++ (blank ++ held) ++ [raw]).length := by
        simp only [List.length_append, List.length_singleton]
        omega
      rw [length] at later ⊢
      refine @StandsBehind.intro _ _ _ _ _ [] [] (List.append_nil _).symm ?_ nofun later
      rw [UnitRecord.lastEnd, Option.toList_some, List.getLast?_concat]
      rfl

theorem read_concat
    (splitter : Splitter)
    (lines : List (List Char))
    (raw : List Char) :
    splitter.read (lines ++ [raw]) =
      ((splitter.read lines).1 ++ ((splitter.read lines).2.feed raw).1.toList,
        ((splitter.read lines).2.feed raw).2) := by
  induction lines generalizing splitter with
  | nil => simp [read]
  | cons first lines induction =>
      simp only [List.cons_append, read, induction, List.append_assoc]

/-- What a new splitter does with lines. -/
theorem standsBehind_read
    (policy : Policy)
    (lines : List (List Char)) :
    ((new policy).read lines).2.StandsBehind policy ((new policy).read lines).1
      lines := by
  induction lines using List.reverseRecOn with
  | nil => exact @StandsBehind.intro _ _ _ _ [] [] [] rfl rfl nofun (holds_new policy)
  | append_singleton lines raw induction =>
      rw [read_concat]
      exact induction.feed raw

/-- The lines behind the last unit that has ended open what is open. -/
theorem StandsBehind.stack_after
    {policy : Policy}
    {units : List UnitRecord}
    {splitter : Splitter}
    {lines : List (List Char)}
    (stands : splitter.StandsBehind policy units lines) :
    ((Validator.new policy).after
        ((lines.drop (UnitRecord.lastEnd units)).map Text.dropLineEnd)).stack =
      splitter.validator.stack := by
  rcases stands with @⟨ended, blank, held, rfl, lastEnd, blanks, holds⟩
  have dropped : ∀ line ∈ blank.map Text.dropLineEnd,
      Text.isAllBlank line = true := by
    simpa using blanks
  have nothing :=
    @Validator.stack_after_of_blank (Validator.new policy) rfl _ dropped
  have fresh :=
    Validator.policy_after_new policy (blank.map Text.dropLineEnd)
  rw [lastEnd, List.drop_left, List.map_append, Validator.after_append, holds.validator]
  exact Validator.stack_after_congr fresh nothing _

end Splitter

/-! ## Prompts -/

namespace SessionEvent

def prompt? : SessionEvent → Option Prompt
  | prompt shown => some shown
  | _ => none

theorem prompt?_ofUnit
    (unit : UnitRecord) :
    (ofUnit unit).prompt? = none := by
  unfold ofUnit
  split <;> rfl

end SessionEvent

namespace Session

/-- Units are shown without prompts. -/
theorem filterMap_prompt?_ofUnit
    (units : List UnitRecord) :
    (units.map SessionEvent.ofUnit).filterMap SessionEvent.prompt? = [] := by
  rw [List.filterMap_eq_nil_iff]
  intro event member
  rcases List.mem_map.mp member with ⟨unit, -, rfl⟩
  exact SessionEvent.prompt?_ofUnit unit

/-- The prompts of a session are those of a splitter after the lines so far. -/
theorem prompts_eq
    (config : Config)
    {splitter : Splitter}
    (reachable : splitter.validator.Reachable)
    (lines : List (List Char)) :
    (prompt config splitter.validator ::
        eventsAfter config splitter.validator lines).filterMap SessionEvent.prompt? =
      (taken splitter.validator lines).inits.map fun earlier =>
        promptFor config (splitter.read earlier).2.validator := by
  induction lines generalizing splitter with
  | nil =>
      rw [eventsAfter, close_eq_finish reachable, List.filterMap_cons,
        filterMap_prompt?_ofUnit]
      rfl
  | cons raw lines induction =>
      rw [eventsAfter, taken]
      split
      · rfl
      · rw [respond_eq_feed, List.filterMap_cons, List.filterMap_append,
          filterMap_prompt?_ofUnit, List.nil_append, induction (reachable.feed raw),
          List.inits_cons, List.map_cons, List.map_map]
        rfl

/-- The units of lines by the policy of a configuration. -/
def unitsOf
    (config : Config)
    (lines : List (List Char)) :
    List UnitRecord :=
  (splitUnits (.new config.policy) lines).1

/--
The prompt that lines call for by their units.  It is indented by what the lines open
that come behind the last unit that has ended.
-/
def promptAfter
    (config : Config)
    (lines : List (List Char)) :
    List Char :=
  let units := unitsOf config lines
  let behind := lines.drop (UnitRecord.lastEnd (UnitRecord.closed units))
  let depth :=
    ((Validator.new config.policy).after (behind.map Text.dropLineEnd)).expectedIndent
  if UnitRecord.endsPending units then
    config.continuationPrompt ++ List.replicate (depth * config.indentWidth) ' '
  else
    config.prompt

theorem characters_promptFor_read
    (config : Config)
    (lines : List (List Char)) :
    (promptFor config ((Splitter.new config.policy).read lines).2.validator).characters =
      promptAfter config lines := by
  have split : unitsOf config lines =
      ((Splitter.new config.policy).units lines).1 := rfl
  have handed := (Splitter.new config.policy).closed_units lines
  have stack := (Splitter.standsBehind_read config.policy lines).stack_after
  rw [promptAfter, split, handed.1, handed.2, Validator.expectedIndent, stack, promptFor]
  split
  · rfl
  · exact List.append_nil _

/-! ## The lines that are taken -/

/-- A session takes lines in order. -/
theorem taken_prefix
    (validator : Validator)
    (lines : List (List Char)) :
    taken validator lines <+: lines := by
  induction lines generalizing validator with
  | nil => exact List.prefix_rfl
  | cons raw lines induction =>
      rw [taken]
      split
      · exact List.nil_prefix
      · exact List.cons_prefix_cons.mpr ⟨rfl, induction _⟩

/-- A session goes on behind the lines that it took. -/
theorem taken_append
    {splitter : Splitter}
    {earlier later : List (List Char)}
    (took : earlier <+: taken splitter.validator (earlier ++ later)) :
    taken splitter.validator (earlier ++ later) =
      earlier ++ taken (splitter.read earlier).2.validator later := by
  induction earlier generalizing splitter with
  | nil => rfl
  | cons raw earlier induction =>
      rw [List.cons_append, taken] at took ⊢
      split at took
      · cases List.prefix_nil.mp took
      · rename_i goesOn
        rw [if_neg goesOn]
        rw [respond_eq_feed] at took ⊢
        rw [induction (List.cons_prefix_cons.mp took).2]
        rfl

theorem taken_cons_eq_nil_iff
    (validator : Validator)
    (raw : List Char)
    (lines : List (List Char)) :
    taken validator (raw :: lines) = [] ↔
      quits validator (Text.dropLineEnd raw) = true := by
  rw [taken]
  split
  · rename_i quits
    exact iff_of_true rfl quits
  · rename_i goesOn
    exact iff_of_false (by simp) goesOn

end Session

/-! ## Lines of a pending unit -/

namespace Splitter

/-- A part of the input after a line is a part of the unit that is under way. -/
theorem exists_unit_of_inside
    {splitter : Splitter}
    (reachable : splitter.validator.Reachable)
    (something : splitter.validator.stack.topFirst ≠ [])
    {raw part : List Char}
    (inside : part <:+: (splitter.validator.validate (Text.dropLineEnd raw)).2.input)
    (plain : part.getLast? ≠ some '\\')
    (lines : List (List Char)) :
    ∃ unit ∈ (splitter.units (raw :: lines)).1,
      unit.index = splitter.index ∧ unit.firstLine = splitter.firstLine ∧
        splitter.lineNumber < unit.lastLine ∧ part <:+: unit.text := by
  induction lines generalizing splitter raw with
  | nil =>
      by_cases incomplete :
          (splitter.validator.validate (Text.dropLineEnd raw)).1 = .incomplete
      · have handed := @finish_of_open
          { splitter with
            validator := (splitter.validator.validate (Text.dropLineEnd raw)).2
            lineNumber := splitter.lineNumber + 1 }
          (reachable.validate _) (Validator.stack_ne_empty_of_incomplete incomplete)
        simp only [units, feed_of_incomplete reachable something incomplete, handed]
        exact ⟨_, List.mem_singleton_self _, rfl, rfl, Nat.le_max_left _ _, inside⟩
      · rw [units, feed_of_final reachable something incomplete]
        exact ⟨_, List.mem_cons_self, rfl, rfl, Nat.lt_succ_self _, inside⟩
  | cons next lines induction =>
      by_cases incomplete :
          (splitter.validator.validate (Text.dropLineEnd raw)).1 = .incomplete
      · obtain ⟨unit, member, index, firstLine, lastLine, within⟩ :=
          @induction
            { splitter with
              validator := (splitter.validator.validate (Text.dropLineEnd raw)).2
              lineNumber := splitter.lineNumber + 1 }
            (reachable.validate _) (Validator.stack_ne_empty_of_incomplete incomplete)
            next (infix_joinLine inside plain _ _)
        rw [units, feed_of_incomplete reachable something incomplete]
        exact ⟨unit, member, index, firstLine, Nat.lt_of_succ_lt lastLine, within⟩
      · rw [units, feed_of_final reachable something incomplete]
        exact ⟨_, List.mem_cons_self, rfl, rfl, Nat.lt_succ_self _, inside⟩

/-- Where lines are pending, something is open. -/
theorem StandsBehind.topFirst_ne_nil
    {policy : Policy}
    {units : List UnitRecord}
    {splitter : Splitter}
    {lines : List (List Char)}
    (stands : splitter.StandsBehind policy units lines)
    (visible : splitter.validator.input.isEmpty = false) :
    splitter.validator.stack.topFirst ≠ [] := by
  rcases stands with @⟨ended, blank, held, rfl, lastEnd, blanks, holds⟩
  rw [holds.isEmpty_input, List.isEmpty_eq_false_iff] at visible
  rw [holds.validator]
  exact holds.suspends.topFirst_ne_nil (by simpa using visible)

/-- A splitter that assembles a pending unit and has read a number of lines. -/
structure Assembling
    (splitter : Splitter)
    (pending : UnitRecord)
    (lines : Nat) :
    Prop where
  reachable : splitter.validator.Reachable
  something : splitter.validator.stack.topFirst ≠ []
  index : splitter.index = pending.index
  firstLine : splitter.firstLine = pending.firstLine
  lineNumber : splitter.lineNumber = lines

/-- A new splitter assembles the unit that is pending after the lines it has read. -/
theorem assembling_read
    {policy : Policy}
    {lines : List (List Char)}
    {pending : UnitRecord}
    (last : ((new policy).units lines).1.getLast? = some pending)
    (unfinished : pending.status = .incomplete) :
    ((new policy).read lines).2.Assembling pending lines.length := by
  have advances := (new policy).advances_read lines
  have reachable := advances.reachable (.new policy)
  have ends : UnitRecord.endsPending ((new policy).units lines).1 = true := by
    simp [UnitRecord.endsPending, last, unfinished]
  have visible : ((new policy).read lines).2.validator.input.isEmpty = false := by
    rw [((new policy).closed_units lines).2, reachable.isPending_eq] at ends
    simpa using ends
  have something := (standsBehind_read policy lines).topFirst_ne_nil visible
  have handed := finish_of_open reachable something
  rw [units_eq, handed, Option.toList_some, List.getLast?_concat] at last
  obtain rfl := Option.some.inj last
  exact ⟨reachable, something, rfl, rfl, advances.lineNumber.trans (Nat.zero_add _)⟩

end Splitter

/-! ## Quitting words -/

namespace Session

/-- No quitting word ends in a backslash. -/
theorem getLast?_ne_of_quitWord
    {line : List Char}
    (word : Text.strip line = quitWord) :
    line.getLast? ≠ some '\\' := by
  intro last
  have kept := Text.getLast?_strip last (by decide)
  rw [word] at kept
  revert kept
  decide

theorem quits_eq_true_iff
    (validator : Validator)
    (line : List Char) :
    quits validator line = true ↔
      Text.strip line = quitWord ∧ validator.input.isEmpty = true := by
  rw [quits, Bool.and_eq_true, beq_iff_eq, and_comm]

section

variable
    (config : Config)
    {lines earlier later : List (List Char)}
    {raw : List Char}
    (split : lines = earlier ++ raw :: later)
    (took : earlier <+: taken (.new config.policy) lines)

include split took

/-- A session ends with a quitting word behind lines of which no unit is pending. -/
theorem taken_eq_iff :
    taken (.new config.policy) lines = earlier ↔
      Text.strip (Text.dropLineEnd raw) = quitWord ∧
        UnitRecord.endsPending (unitsOf config earlier) = false := by
  have handed := ((Splitter.new config.policy).closed_units earlier).2
  have reachable := ((Splitter.new config.policy).advances_read earlier).reachable
    (.new config.policy)
  have pending : UnitRecord.endsPending (unitsOf config earlier) =
      !((Splitter.new config.policy).read earlier).2.validator.input.isEmpty :=
    handed.trans reachable.isPending_eq
  subst split
  have goesOn := @taken_append (Splitter.new config.policy) earlier (raw :: later) took
  rw [pending, Bool.not_eq_false', ← quits_eq_true_iff, ← taken_cons_eq_nil_iff _ _ later]
  exact (iff_of_eq (congrArg (· = earlier) goesOn)).trans List.append_right_eq_self

/-- A quitting word behind lines with a pending unit is part of that unit. -/
theorem exists_unit_of_quitWord
    (word : Text.strip (Text.dropLineEnd raw) = quitWord)
    {pending : UnitRecord}
    (last : (unitsOf config earlier).getLast? = some pending)
    (unfinished : pending.status = .incomplete) :
    ∃ unit ∈ unitsOf config (taken (.new config.policy) lines),
      unit.index = pending.index ∧ unit.firstLine = pending.firstLine ∧
        earlier.length < unit.lastLine ∧ Text.dropLineEnd raw <:+: unit.text := by
  have assembling := Splitter.assembling_read last unfinished
  subst split
  have goesOn := @taken_append (Splitter.new config.policy) earlier (raw :: later) took
  have whole := (Splitter.new config.policy).units_append earlier
  generalize (Splitter.new config.policy).read earlier = answer at assembling goesOn whole
  rcases answer with ⟨units, splitter⟩
  have stays : ¬ quits splitter.validator (Text.dropLineEnd raw) = true := by
    rw [quits_eq_true_iff, assembling.reachable.isEmpty_input assembling.something]
    simp
  obtain ⟨unit, member, index, firstLine, lastLine, inside⟩ :=
    Splitter.exists_unit_of_inside assembling.reachable assembling.something
      (Validator.infix_input_validate _ _) (getLast?_ne_of_quitWord word)
      (taken (respond splitter.validator (Text.dropLineEnd raw)).2 later)
  have among : unit ∈ unitsOf config (taken (.new config.policy) (earlier ++ raw :: later)) := by
    have next : taken splitter.validator (raw :: later) =
        raw :: taken (respond splitter.validator (Text.dropLineEnd raw)).2 later :=
      if_neg stays
    have units : unitsOf config (taken (.new config.policy) (earlier ++ raw :: later)) = _ :=
      (congrArg (unitsOf config) goesOn).trans (whole _)
    rw [units, next]
    exact List.mem_append_right _ member
  exact ⟨unit, among, index.trans assembling.index, firstLine.trans assembling.firstLine,
    assembling.lineNumber ▸ lastLine, inside⟩

end

end Session

end Delimit
