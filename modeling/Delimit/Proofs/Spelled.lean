import Delimit.Proofs.ValidatorRun

/-!
# Open delimiters are spelled out

Every delimiter on a stack was read somewhere.  The delimiters stand in the text
that was read, in the order in which they are stacked and apart from each other,
and joining another line to the text never cuts into them: a splice takes away a
backslash, in which no delimiter ends.

So a text in which something is open is never blank.
-/

namespace Delimit

/-- The delimiter that an entry stands for, if it stands for one. -/
def Entry.delimiter? : Entry → Option (List Char)
  | .bracket (.opening shape) => some [shape.opening]
  | .comment => some ['/', '*']
  | .literal (.quote quote) => some [quote.character]
  | _ => none

/-- The delimiters of entries, topmost first, stand in a text one after the other. -/
inductive Spelled : List Entry → List Char → Prop where
  /-- No entries stand in any text. -/
  | nothing {text : List Char} : Spelled [] text
  /-- The topmost delimiter stands behind all others. -/
  | above {entry : Entry} {below : List Entry}
      {front delimiter back : List Char}
      (spelled : Spelled below front)
      (spells : entry.delimiter? = some delimiter) :
      Spelled (entry :: below) (front ++ (delimiter ++ back))

/-- A delimiter ends in a character that is no blank and escapes nothing. -/
theorem Entry.exists_last_of_delimiter?
    {entry : Entry}
    {delimiter : List Char}
    (spells : entry.delimiter? = some delimiter) :
    ∃ opening last, delimiter = opening ++ [last] ∧ last ≠ '\\' ∧
      Text.isBlank last = false := by
  unfold Entry.delimiter? at spells
  split at spells
  · rename_i shape
    cases spells
    exact ⟨[], shape.opening, rfl, by cases shape <;> decide,
      by cases shape <;> rfl⟩
  · cases spells
    exact ⟨['/'], '*', rfl, by decide, rfl⟩
  · rename_i quote
    cases spells
    exact ⟨[], quote.character, rfl, quote.character_ne_backslash,
      by cases quote <;> rfl⟩
  · cases spells

namespace Spelled

theorem append
    {entries : List Entry}
    {text : List Char}
    (spelled : Spelled entries text)
    (more : List Char) :
    Spelled entries (text ++ more) := by
  cases spelled with
  | nothing => exact .nothing
  | above spelled spells =>
      rw [List.append_assoc, List.append_assoc]
      exact .above spelled spells

theorem of_suffix
    {entries below : List Entry}
    {text : List Char}
    (spelled : Spelled entries text)
    (suffix : below <:+ entries) :
    Spelled below text := by
  induction spelled with
  | nothing =>
      rw [List.suffix_nil.mp suffix]
      exact .nothing
  | above spelled spells induction =>
      rcases List.suffix_cons_iff.mp suffix with rfl | deeper
      · exact .above spelled spells
      · exact (induction deeper).append _

/-- No delimiter is cut by taking a backslash off the end. -/
theorem dropLast
    {entries : List Entry}
    {text : List Char}
    (spelled : Spelled entries text)
    (escaped : text.getLast? = some '\\') :
    Spelled entries text.dropLast := by
  cases spelled with
  | nothing => exact .nothing
  | @above _ _ front delimiter back spelled spells =>
      rcases Entry.exists_last_of_delimiter? spells with
        ⟨opening, last, rfl, other, -⟩
      -- The text ends in a backslash, so it does not end with the delimiter.
      have some : back ≠ [] := by
        rintro rfl
        simp only [List.append_nil, ← List.append_assoc,
          List.getLast?_concat] at escaped
        exact other (Option.some.inj escaped)
      rw [List.dropLast_append_of_ne_nil (by simp),
        List.dropLast_append_of_ne_nil some]
      exact .above spelled spells

theorem isAllBlank_eq_false
    {entries : List Entry}
    {text : List Char}
    (spelled : Spelled entries text)
    (something : entries ≠ []) :
    Text.isAllBlank text = false := by
  cases spelled with
  | nothing => exact (something rfl).elim
  | above spelled spells =>
      rcases Entry.exists_last_of_delimiter? spells with
        ⟨opening, last, rfl, -, visible⟩
      simp [visible]

end Spelled

namespace Stack

theorem below?_suffix
    {target : Entry}
    {entries below : List Entry}
    (found : below? target entries = some below) :
    below <:+ entries := by
  induction entries with
  | nil => cases found
  | cons entry entries induction =>
      rw [below?] at found
      split at found
      · cases found
        exact List.suffix_cons _ _
      · exact (induction found).trans (List.suffix_cons _ _)

theorem unwind_suffix
    {target : Entry}
    {stack below : Stack}
    (unwound : stack.unwind target = .ok below) :
    below.topFirst <:+ stack.topFirst := by
  unfold unwind at unwound
  split at unwound
  · rename_i entries found
    cases unwound
    exact below?_suffix found
  · cases unwound

end Stack

namespace Scan

variable {policy : Policy}

/--
The delimiters on the stack of a cursor stand in the text before it.  A slash that
may begin an opening marker belongs to none of them.
-/
def Cursor.Spells
    (cursor : Cursor)
    (before : List Char) :
    Prop :=
  if cursor.half && !cursor.inComment then
    ∃ front, before = front ++ ['/'] ∧ Spelled cursor.stack.topFirst front
  else
    Spelled cursor.stack.topFirst before

theorem Cursor.Spells.spelled
    {cursor : Cursor}
    {before : List Char}
    (spells : cursor.Spells before) :
    Spelled cursor.stack.topFirst before := by
  unfold Spells at spells
  split at spells
  · rcases spells with ⟨front, rfl, spelled⟩
    exact spelled.append _
  · exact spells

/-- Every step keeps the delimiters spelled out. -/
theorem Step.spells
    {cursor next : Cursor}
    {consumed before : List Char}
    (step : Step policy cursor consumed next)
    (spells : cursor.Spells before) :
    next.Spells (before ++ consumed) := by
  have spelled := spells.spelled
  cases step with
  | opens form =>
      have symbol : Lexeme.symbol? '*' = some .asterisk := rfl
      rcases form.value_eq symbol with ⟨rfl, -⟩
      -- The slash that was set apart becomes the front half of the marker.
      rcases spells with ⟨front, rfl, others⟩
      have opened : Spelled (.comment :: _) (front ++ (['/', '*'] ++ [])) :=
        .above others rfl
      simpa [Cursor.Spells, Stack.push] using opened
  | closes form unwound =>
      exact (spelled.of_suffix (Stack.unwind_suffix unwound)).append _
  | passes => simpa [Cursor.Spells] using spelled.append _
  | @pushes inComment half stack bracket text gap value rest form =>
      rcases form.value_eq (Lexeme.symbol?_opening bracket) with ⟨rfl, -⟩
      have opened : Spelled (.bracket (.opening bracket) :: stack.topFirst)
          ((before ++ gap) ++ ([bracket.opening] ++ [])) :=
        .above (spelled.append gap) rfl
      simpa [Cursor.Spells, Stack.push] using opened
  | pops =>
      exact (spelled.of_suffix (List.tail_suffix _)).append _
  | ignores => exact spelled.append _
  | @reads inComment half stack quote text gap value content covered rest
      ending form counted literal =>
      rcases form.value_eq (Lexeme.symbol?_quote quote) with ⟨rfl, -⟩
      change Spelled (afterLiteral policy inComment stack quote
        ending).topFirst _
      unfold afterLiteral
      split
      · have opened : Spelled (.literal (.quote quote) :: stack.topFirst)
            ((before ++ gap) ++ ([quote.character] ++ covered)) :=
          .above (spelled.append gap) rfl
        simpa [Stack.push] using opened
      · exact spelled.append _
  | @skips inComment half stack kind text gap value rest form inert =>
      unfold Cursor.Spells
      split
      · rename_i marker
        simp only [Bool.and_eq_true, Bool.not_eq_true'] at marker
        rcases marker with ⟨marker, rfl⟩
        obtain rfl := eq_of_beq marker
        have symbol : Lexeme.symbol? '/' = some .slash := rfl
        rcases form.value_eq symbol with ⟨rfl, -⟩
        exact ⟨before ++ gap, by simp, spelled.append gap⟩
      · exact spelled.append _

theorem Halts.spelled
    {cursor : Cursor}
    {scan : Scan}
    {before : List Char}
    (halts : Halts policy cursor scan)
    (spelled : Spelled cursor.stack.topFirst before) :
    Spelled scan.stack.topFirst (before ++ cursor.text) := by
  cases halts with
  | @lineEnd inComment half stack text gap swallowed rest form =>
      unfold atLineEnd
      split
      · cases unwound : stack.unwind .comment with
        | ok below =>
            exact (spelled.of_suffix (Stack.unwind_suffix unwound)).append _
        | error fault => exact spelled.append _
      · exact spelled.append _
  | mismatch => exact spelled.append _
  | lost => exact spelled.append _

theorem Cursor.Spells.run
    {cursor : Cursor}
    {before : List Char}
    (spells : cursor.Spells before) :
    Spelled (cursor.run policy).stack.topFirst (before ++ cursor.text) := by
  induction cursor using Cursor.inductionOn policy generalizing before with
  | halt cursor scan halts =>
      rw [halts.run_eq]
      exact halts.spelled spells.spelled
  | step cursor consumed next step induction =>
      rw [step.run_eq, step.text_eq, ← List.append_assoc]
      exact induction (step.spells spells)

theorem ofLine_spelled
    {stack : Stack}
    {before : List Char}
    (spelled : Spelled stack.topFirst before)
    (line : List Char) :
    Spelled (ofLine policy stack line).stack.topFirst (before ++ line) := by
  have code : ∀ {stack : Stack} {before : List Char} (line : List Char),
      Spelled stack.topFirst before →
        Spelled (fromCode policy stack line).stack.topFirst (before ++ line) := by
    intro stack before line spelled
    have spells : Cursor.Spells
        ⟨stack.inComment, false, stack, line⟩ before := spelled
    exact spells.run
  unfold ofLine
  split
  · rename_i quote top
    have whole := LiteralContent.read_append quote line
    dsimp only
    split
    · have later := code (LiteralContent.read quote line).rest
        ((spelled.of_suffix (List.tail_suffix _)).append
          (LiteralContent.read quote line).covered)
      rwa [List.append_assoc, whole] at later
    · exact spelled.append _
  · exact spelled.append _
  · exact code line spelled

end Scan

/-- Joining a line adds it to a text that spells out what the input spells out. -/
theorem exists_joinLine_append
    (continuesLiteral : Bool)
    (input line : List Char) :
    ∃ before, joinLine continuesLiteral input line = before ++ line ∧
      ∀ entries, Spelled entries input → Spelled entries before := by
  unfold joinLine
  split
  · rename_i empty
    rw [List.isEmpty_iff.mp empty]
    refine ⟨[], rfl, ?_⟩
    intro entries spelled
    exact spelled
  · split
    · refine ⟨input ++ ['\n'], by simp, ?_⟩
      intro entries spelled
      exact spelled.append _
    · split
      · rename_i splice
        refine ⟨input.dropLast, rfl, ?_⟩
        intro entries spelled
        exact spelled.dropLast (getLast?_of_endsWithSplice splice)
      · refine ⟨input ++ ['\\', 'n'], by simp, ?_⟩
        intro entries spelled
        exact spelled.append _

namespace Validator

/-- Whatever is open in a validator that can be reached is spelled out in its input. -/
theorem Reachable.spelled
    {validator : Validator}
    (reachable : Reachable validator) :
    Spelled validator.stack.topFirst validator.input := by
  induction reachable with
  | new policy => exact .nothing
  | @validate validator line reachable spelled =>
      obtain ⟨before, joined, keeps⟩ := exists_joinLine_append
        validator.continuesLiteral validator.input line
      rw [input_validate, stack_validate, joined]
      exact Scan.ofLine_spelled (keeps _ spelled) line
  | reset reachable spelled => exact .nothing
  | takeInput reachable spelled => exact .nothing
  | assign policy reachable spelled => exact spelled

end Validator

end Delimit
