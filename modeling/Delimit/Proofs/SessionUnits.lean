import Delimit.Command.Run
import Delimit.Proofs.Segmentation

/-!
# A session shows the units of its lines

A session and a splitter drive a validator on their own accounts: each decides when
to take the input, which units to pass over, and what to do with input that is
pending at the end.  Line by line the two do the same.  What a session shows between
its prompts is therefore, one for one and in order, the units that a splitter makes
of the lines that the session takes.

The two also read lines in different ways, one with the line terminators unified or at
line feeds only, and one at any terminator as it stands.  Without their terminators, the
lines are the same, unless only line feeds count and a carriage return stands alone.
-/

namespace Delimit

namespace SessionEvent

def isPrompt : SessionEvent → Bool
  | prompt _ => true
  | _ => false

/-- The event that shows a unit. -/
def ofUnit
    (unit : UnitRecord) :
    SessionEvent :=
  match unit.status with
  | .complete => echo unit.text
  | .mismatch => mismatch
  | .incomplete => discarded unit.text

theorem ofUnit_of_complete
    {unit : UnitRecord}
    (complete : unit.status = .complete) :
    ofUnit unit = echo unit.text := by
  rw [ofUnit, complete]

theorem ofUnit_of_mismatch
    {unit : UnitRecord}
    (wrong : unit.status = .mismatch) :
    ofUnit unit = mismatch := by
  rw [ofUnit, wrong]

theorem ofUnit_of_incomplete
    {unit : UnitRecord}
    (incomplete : unit.status = .incomplete) :
    ofUnit unit = discarded unit.text := by
  rw [ofUnit, incomplete]

theorem isPrompt_ofUnit
    (unit : UnitRecord) :
    (ofUnit unit).isPrompt = false := by
  unfold ofUnit
  split <;> rfl

end SessionEvent

/-! ## The lines of a session -/

namespace Text

theorem dropLineEnd_cons
    {character : Char}
    (plain : isLineEnd character = false)
    (line : List Char) :
    dropLineEnd (character :: line) = character :: dropLineEnd line := by
  simp only [dropLineEnd, List.reverse_cons, List.dropWhile_append]
  split
  · rename_i nothing
    simp [List.isEmpty_iff.mp nothing, plain]
  · simp

theorem map_dropLineEnd_consToFirst
    {character : Char}
    (plain : isLineEnd character = false)
    (lines : List (List Char)) :
    (consToFirst character lines).map dropLineEnd =
      consToFirst character (lines.map dropLineEnd) := by
  cases lines with
  | nil => rw [consToFirst, List.map_singleton, dropLineEnd_cons plain]; rfl
  | cons line lines =>
      rw [consToFirst, List.map_cons, dropLineEnd_cons plain]
      rfl

theorem linesWithEnds_cons_of_plain
    {character : Char}
    (plain : isLineEnd character = false)
    (rest : List Char) :
    linesWithEnds (character :: rest) =
      consToFirst character (linesWithEnds rest) := by
  rw [linesWithEnds]
  · rintro later rfl
    contradiction
  · rintro rfl
    contradiction
  · rintro rfl
    contradiction

theorem linesAtFeeds_cons_of_ne
    {character : Char}
    (plain : character ≠ '\n')
    (rest : List Char) :
    linesAtFeeds (character :: rest) = consToFirst character (linesAtFeeds rest) := by
  rw [linesAtFeeds]
  rintro rfl
  contradiction

/-- A line goes up to the first line feed, whatever stands before it. -/
theorem linesAtFeeds_append
    {front : List Char}
    (without : '\n' ∉ front)
    (rest : List Char) :
    linesAtFeeds (front ++ '\n' :: rest) = (front ++ ['\n']) :: linesAtFeeds rest := by
  induction front with
  | nil => rfl
  | cons character front induction =>
      rw [List.mem_cons, not_or] at without
      rw [List.cons_append, linesAtFeeds_cons_of_ne (Ne.symm without.1), induction without.2]
      rfl

/-- What stands behind the last line feed is one line more. -/
theorem linesAtFeeds_of_not_mem
    {text : List Char}
    (without : '\n' ∉ text)
    (some : text ≠ []) :
    linesAtFeeds text = [text] := by
  induction text with
  | nil => exact (some rfl).elim
  | cons character text induction =>
      rw [List.mem_cons, not_or] at without
      rw [linesAtFeeds_cons_of_ne (Ne.symm without.1)]
      cases text with
      | nil => rfl
      | cons next text =>
          rw [induction without.2 (List.cons_ne_nil next text)]
          rfl

/-- Behind a carriage return of a text stands a line feed, or nothing. -/
def ReturnsPaired
    (text : List Char) :
    Prop :=
  ∀ next, ['\r', next] <:+: text → next = '\n'

theorem ReturnsPaired.of_suffix
    {text rest : List Char}
    (paired : ReturnsPaired text)
    (suffix : rest <:+ text) :
    ReturnsPaired rest :=
  fun next inside => paired next (inside.trans suffix.isInfix)

/-- Where carriage returns are paired, line feeds end all lines. -/
theorem linesAtFeeds_eq
    {text : List Char}
    (paired : ReturnsPaired text) :
    linesAtFeeds text = linesWithEnds text := by
  fun_induction linesWithEnds text with
  | case1 => rfl
  | case2 rest induction =>
      rw [linesAtFeeds_cons_of_ne (by decide), linesAtFeeds,
        induction (paired.of_suffix (List.suffix_append ['\r', '\n'] rest))]
      rfl
  | case3 rest induction =>
      rw [linesAtFeeds, induction (paired.of_suffix (List.suffix_cons '\n' rest))]
  | case4 rest other induction =>
      -- No line feed stands behind the carriage return, so nothing does.
      cases rest with
      | nil => rfl
      | cons next rest =>
          obtain rfl := paired next (List.prefix_append ['\r', next] rest).isInfix
          exact (other rest rfl).elim
  | case5 character rest _ plain _ induction =>
      rw [linesAtFeeds_cons_of_ne plain,
        induction (paired.of_suffix (List.suffix_cons character rest))]

theorem map_dropLineEnd_linesWithEnds_cons
    (character : Char)
    {rest other : List Char}
    (alone : character ≠ '\r')
    (same : (linesWithEnds rest).map dropLineEnd =
      (linesWithEnds other).map dropLineEnd) :
    (linesWithEnds (character :: rest)).map dropLineEnd =
      (linesWithEnds (character :: other)).map dropLineEnd := by
  by_cases lineFeed : character = '\n'
  · subst lineFeed
    exact congrArg (dropLineEnd ['\n'] :: ·) same
  · have plain : isLineEnd character = false := by
      simp [isLineEnd, alone, lineFeed]
    rw [linesWithEnds_cons_of_plain plain, linesWithEnds_cons_of_plain plain,
      map_dropLineEnd_consToFirst plain, map_dropLineEnd_consToFirst plain, same]

/-- Unifying the line terminators of a text changes nothing else in its lines. -/
theorem map_dropLineEnd_linesWithEnds_unifyLineEnds
    (text : List Char) :
    (linesWithEnds (unifyLineEnds text)).map dropLineEnd =
      (linesWithEnds text).map dropLineEnd := by
  fun_induction unifyLineEnds text with
  | case1 => rfl
  | case2 rest induction =>
      rw [linesWithEnds]
      exact congrArg ([] :: ·) induction
  | case3 rest other induction =>
      have single : linesWithEnds ('\r' :: rest) =
          ['\r'] :: linesWithEnds rest := by
        rw [linesWithEnds]
        exact other
      rw [single]
      exact congrArg ([] :: ·) induction
  | case4 character rest paired alone induction =>
      exact map_dropLineEnd_linesWithEnds_cons character alone induction

/-- A text that is typed is read as from a file where a carriage return ends lines there. -/
theorem Newlines.map_dropLineEnd_cut
    {newlines : Newlines}
    {text : List Char}
    (alike : newlines = .universal ∨ ReturnsPaired text) :
    (newlines.cut text).map dropLineEnd = (linesWithEnds text).map dropLineEnd := by
  cases newlines with
  | universal => exact map_dropLineEnd_linesWithEnds_unifyLineEnds text
  | lineFeed =>
      rw [Newlines.cut, linesAtFeeds_eq (alike.resolve_left (by decide))]

/-- A carriage return alone ends a line of a file, and no line that is cut at line feeds. -/
example :
    (Newlines.lineFeed.cut "(\r)".toList).map dropLineEnd ≠
      (linesWithEnds "(\r)".toList).map dropLineEnd := by
  decide

end Text

namespace Session

/-- The lines that a session takes, up to a line that ends it. -/
def taken (validator : Validator) : List (List Char) → List (List Char)
  | [] => []
  | raw :: lines =>
      let line := Text.dropLineEnd raw
      if quits validator line then
        []
      else
        raw :: taken (respond validator line).2 lines

/-- A session shows the same for lines that differ in their terminators only. -/
theorem eventsAfter_congr
    (config : Config)
    (validator : Validator)
    {lines others : List (List Char)}
    (same : lines.map Text.dropLineEnd = others.map Text.dropLineEnd) :
    eventsAfter config validator lines = eventsAfter config validator others := by
  induction lines generalizing validator others with
  | nil =>
      cases others with
      | nil => rfl
      | cons raw others => cases same
  | cons raw lines induction =>
      cases others with
      | nil => cases same
      | cons other others =>
          rw [List.map_cons, List.map_cons, List.cons.injEq] at same
          simp only [eventsAfter, same.1, induction _ same.2]

theorem events_congr
    (config : Config)
    {lines others : List (List Char)}
    (same : lines.map Text.dropLineEnd = others.map Text.dropLineEnd) :
    events config lines = events config others :=
  congrArg (_ :: ·) (eventsAfter_congr config _ same)

/-! ## Line by line -/

/-- A session and a splitter do the same with a line. -/
theorem respond_eq_feed
    (splitter : Splitter)
    (raw : List Char) :
    respond splitter.validator (Text.dropLineEnd raw) =
      ((splitter.feed raw).1.toList.map SessionEvent.ofUnit,
        (splitter.feed raw).2.validator) := by
  unfold respond Splitter.feed
  generalize splitter.validator.validate (Text.dropLineEnd raw) = answer
  rcases answer with ⟨verdict, validator⟩
  cases verdict with
  | incomplete => rfl
  | mismatch => rfl
  | complete =>
      cases blank : Text.isAllBlank validator.input with
      | true => simp [Splitter.isDropped, Validator.takeInput, blank]
      | false =>
          simp [Splitter.isDropped, Validator.takeInput, blank,
            SessionEvent.ofUnit]

end Session

namespace Validator

/-- Nothing is open in a validator that holds no input. -/
theorem Reachable.topFirst_eq_nil
    {validator : Validator}
    (reachable : Reachable validator)
    (empty : validator.input = []) :
    validator.stack.topFirst = [] := by
  by_cases nothing : validator.stack.topFirst = []
  · exact nothing
  · have visible := reachable.spelled.isAllBlank_eq_false nothing
    rw [empty] at visible
    cases visible

/-- A validator in which something is open holds input. -/
theorem Reachable.isEmpty_input
    {validator : Validator}
    (reachable : Reachable validator)
    (something : validator.stack.topFirst ≠ []) :
    validator.input.isEmpty = false := by
  rw [List.isEmpty_eq_false_iff]
  exact mt reachable.topFirst_eq_nil something

theorem Reachable.isPending_eq
    {validator : Validator}
    (reachable : Reachable validator) :
    validator.isPending = !validator.input.isEmpty := by
  cases empty : validator.input.isEmpty with
  | false => simp [isPending, empty]
  | true =>
      have nothing := reachable.topFirst_eq_nil (List.isEmpty_iff.mp empty)
      simp [isPending, empty, expectedIndent, Stack.depth, nothing]

theorem Reachable.feed
    {splitter : Splitter}
    (reachable : Reachable splitter.validator)
    (raw : List Char) :
    Reachable (splitter.feed raw).2.validator := by
  have validated := reachable.validate (Text.dropLineEnd raw)
  unfold Splitter.feed
  dsimp only
  split
  · exact validated
  · split
    · exact validated.takeInput
    · exact validated.takeInput

end Validator

namespace Session

/-- When the lines run out, a session and a splitter do the same. -/
theorem close_eq_finish
    {splitter : Splitter}
    (reachable : splitter.validator.Reachable) :
    close splitter.validator =
      splitter.finish.1.toList.map SessionEvent.ofUnit := by
  unfold close Splitter.finish
  rw [reachable.isPending_eq]
  cases splitter.validator.input.isEmpty with
  | true => rfl
  | false => rfl

theorem not_isPending_of_quits
    {validator : Validator}
    {line : List Char}
    (reachable : validator.Reachable)
    (quits : quits validator line = true) :
    validator.isPending = false := by
  rw [Session.quits, Bool.and_eq_true] at quits
  rw [reachable.isPending_eq, quits.1]
  rfl

/-- Between its prompts, a session shows the units of the lines that it takes. -/
theorem filter_eventsAfter
    (config : Config)
    {splitter : Splitter}
    (reachable : splitter.validator.Reachable)
    (lines : List (List Char)) :
    (eventsAfter config splitter.validator lines).filter (!·.isPrompt) =
      (splitter.units (taken splitter.validator lines)).1.map
        SessionEvent.ofUnit := by
  have shown : ∀ units : List UnitRecord,
      (units.map SessionEvent.ofUnit).filter (!·.isPrompt) =
        units.map SessionEvent.ofUnit := by
    intro units
    rw [List.filter_eq_self]
    intro event member
    rcases List.mem_map.mp member with ⟨unit, -, rfl⟩
    rw [SessionEvent.isPrompt_ofUnit]
    rfl
  induction lines generalizing splitter with
  | nil =>
      rw [eventsAfter, taken, Splitter.units, close_eq_finish reachable, shown]
  | cons raw lines induction =>
      rw [eventsAfter, taken]
      split
      · rename_i quits
        have idle := not_isPending_of_quits reachable quits
        simp [Splitter.units, Splitter.finish, idle]
      · simp only [respond_eq_feed]
        rw [Splitter.units, List.filter_append, shown, List.filter_cons_of_neg
          (by simp [prompt, SessionEvent.isPrompt]), induction (reachable.feed raw),
          List.map_append]

end Session

end Delimit
