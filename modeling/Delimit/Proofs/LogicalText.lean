import Delimit.Proofs.LiteralSuspension
import Delimit.Proofs.ValidatorRun

/-!
# The logical text

A validator joins the lines that it takes into one logical text, in which a
literal that spans lines stands on a single line.  The logical text read line by
line by a new validator has the same outcome as the lines that were taken: the
same verdict at the end, the same text, and the same open delimiters.  Moreover no
line of the logical text begins inside a literal.

The outcome is kept line by line.  The invariant holds the settled lines of the
logical text apart from the current one, and knows where the literal that the
current line leaves open begins.
-/

namespace Delimit

/-- A line that is joined to an open literal begins outside its escapes. -/
theorem exists_joinLine_eq
    {quote : Quote}
    {front content : List Char}
    (quoted : front.getLast? = some quote.character)
    (unclosed : (LiteralContent.read quote content).ending ≠ .closed)
    (line : List Char) :
    ∃ joined, (LiteralContent.read quote joined).ending = .unclosed false ∧
      ∀ before, joinLine true (before ++ (front ++ content)) line =
        before ++ (front ++ (joined ++ line)) := by
  rcases List.getLast?_eq_some_iff.mp quoted with ⟨opening, rfl⟩
  have splice : ∀ before, endsWithSplice
      (before ++ (opening ++ quote.character :: content)) =
        endsWithSplice content := by
    intro before
    rw [← List.append_assoc]
    exact endsWithSplice_append_cons quote.character_ne_backslash _ content
  cases ending : (LiteralContent.read quote content).ending with
  | closed => exact (unclosed ending).elim
  | unclosed escaping =>
      have escaped := LiteralContent.ending_of_unclosed ending
      cases escaping with
      | true =>
          refine ⟨content.dropLast,
            LiteralContent.read_dropLast_of_escaping ending, ?_⟩
          intro before
          have nonempty : content ≠ [] := by
            rintro rfl
            simp at ending
          simp [joinLine, splice, ← escaped, List.dropLast_append_of_ne_nil,
            List.dropLast_cons_of_ne_nil nonempty]
      | false =>
          refine ⟨content ++ ['\\', 'n'], ?_, ?_⟩
          · rw [LiteralContent.read_append_of_unclosed ending]
            simp
          · intro before
            simp [joinLine, splice, ← escaped]

namespace Validator

/--
How the outcome of a validator reads in logical lines: those that are settled, and
the current one, which later lines may still extend.
-/
structure Logical
    (policy : Policy)
    (validator : Validator)
    (verdict : Verdict)
    (settled : List (List Char))
    (current : List Char) :
    Prop where
  /-- The input is the logical lines. -/
  text : validator.input = settled.flatMap (· ++ ['\n']) ++ current
  /-- No logical line holds a line break. -/
  unbroken : ∀ line ∈ settled ++ [current], '\n' ∉ line
  /-- Settled lines leave some input. -/
  begun : settled ≠ [] → ((new policy).after settled).input ≠ []
  /-- No logical line begins inside a literal. -/
  closed : ∀ earlier, earlier <+: settled →
    ((new policy).after earlier).continuesLiteral = false
  /-- Scanning the current line after the settled ones has the same outcome. -/
  agrees : ((new policy).after settled).validate current = (verdict, validator)
  /-- A literal that is open begins in the current line. -/
  suspended : ∀ quote opened,
    validator.stack = Stack.ofLiteral quote opened →
      ∃ front content, current = front ++ content ∧
        Scan.Suspension policy
          (Scan.ofLine policy ((new policy).after settled).stack)
          quote opened front content

/-- A line that is taken outside literals begins a logical line. -/
theorem Logical.ofLine
    {policy : Policy}
    {settled : List (List Char)}
    {line : List Char}
    (text : joinLine false ((new policy).after settled).input line =
      settled.flatMap (· ++ ['\n']) ++ line)
    (unbroken : ∀ earlier ∈ settled ++ [line], '\n' ∉ earlier)
    (begun : settled ≠ [] → ((new policy).after settled).input ≠ [])
    (closed : ∀ earlier, earlier <+: settled →
      ((new policy).after earlier).continuesLiteral = false) :
    Logical policy (((new policy).after settled).validate line).2
      (((new policy).after settled).validate line).1 settled line where
  text := by
    rw [input_validate, closed settled (List.prefix_refl _), text]
  unbroken := unbroken
  begun := begun
  closed := closed
  agrees := rfl
  suspended := by
    intro quote opened suspended
    have shaped := shaped_after_new policy settled
    rw [stack_validate, policy_after_new] at suspended
    rcases Scan.exists_suspension shaped suspended with ⟨same, _⟩ | split
    · have continues := (continuesLiteral_iff shaped).mpr ⟨quote, opened, same⟩
      rw [closed settled (List.prefix_refl _)] at continues
      cases continues
    · exact split

theorem validate_new_nil
    (policy : Policy) :
    (new policy).validate [] = (.complete, new policy) := by
  have scan : Scan.ofLine policy (Stack.ofCode []) [] =
      Scan.finished (Stack.ofCode []) := by
    rw [Scan.ofLine_ofCode]
    exact (Scan.Halts.lineEnd (.blankEnd rfl)).run_eq
  change (verdictOf (Scan.ofLine policy (Stack.ofCode []) []),
    Validator.mk policy [] (Scan.ofLine policy (Stack.ofCode []) []).stack) =
      (.complete, new policy)
  rw [scan]
  rfl

theorem logical_new
    (policy : Policy) :
    Logical policy (new policy) .complete [] [] where
  text := rfl
  unbroken := by simp
  begun := absurd rfl
  closed := by
    intro earlier front
    rw [List.prefix_nil.mp front]
    rfl
  agrees := validate_new_nil policy
  suspended := fun quote opened same =>
    (Stack.ofCode_ne_ofLiteral [] opened quote same).elim

/-- The first line begins the first logical line. -/
theorem logical_first
    (policy : Policy)
    {line : List Char}
    (unbroken : '\n' ∉ line) :
    Logical policy ((new policy).validate line).2
      ((new policy).validate line).1 [] line := by
  have outside : ∀ earlier, earlier <+: [] →
      ((new policy).after earlier).continuesLiteral = false := by
    intro earlier empty
    rw [List.prefix_nil.mp empty]
    rfl
  exact Logical.ofLine rfl (by simpa using unbroken) (absurd rfl) outside

/-- A line outside literals settles the current logical line, if there is any input. -/
theorem Logical.settle
    {policy : Policy}
    {validator : Validator}
    {verdict : Verdict}
    {settled : List (List Char)}
    {current line : List Char}
    (logical : Logical policy validator verdict settled current)
    (fresh : validator.continuesLiteral = false)
    (unbroken : '\n' ∉ line) :
    ∃ later latest, later <+: settled ++ [current] ∧
      Logical policy (validator.validate line).2 (validator.validate line).1
        later latest := by
  by_cases nothing : validator.input = []
  · -- Then the lines so far were all empty, and the validator is new.
    have text := logical.text
    rw [nothing] at text
    rcases List.append_eq_nil_iff.mp text.symm with ⟨none, rfl⟩
    have none : settled = [] := by
      cases settled with
      | nil => rfl
      | cons line settled => simp at none
    subst none
    have agrees := logical.agrees
    rw [after, validate_new_nil] at agrees
    cases agrees
    exact ⟨[], line, List.nil_prefix, logical_first policy unbroken⟩
  · -- The current logical line is as good as taken, and the new line starts afresh.
    have whole : (new policy).after (settled ++ [current]) = validator := by
      rw [after_append]
      exact congrArg Prod.snd logical.agrees
    have text : joinLine false validator.input line =
        (settled ++ [current]).flatMap (· ++ ['\n']) ++ line := by
      rw [joinLine_of_ne_nil nothing, logical.text]
      simp
    have clean : ∀ earlier ∈ settled ++ [current] ++ [line],
        '\n' ∉ earlier := by
      intro earlier member
      rcases List.mem_append.mp member with old | new
      · exact logical.unbroken earlier old
      · exact List.mem_singleton.mp new ▸ unbroken
    have outside : ∀ earlier, earlier <+: settled ++ [current] →
        ((new policy).after earlier).continuesLiteral = false := by
      intro earlier front
      rcases List.prefix_concat_iff.mp front with rfl | front
      · exact whole ▸ fresh
      · exact logical.closed earlier front
    rw [← whole] at text nothing ⊢
    exact ⟨settled ++ [current], line, List.prefix_refl _,
      Logical.ofLine text clean (fun _ => nothing) outside⟩

theorem notMem_joinLine
    {input line : List Char}
    (unbroken : '\n' ∉ input)
    (clean : '\n' ∉ line) :
    '\n' ∉ joinLine true input line := by
  unfold joinLine
  split
  · exact clean
  · split
    · contradiction
    · split
      · simpa [clean] using fun member =>
          unbroken (List.dropLast_subset _ member)
      · simp [unbroken, clean]

/-- A line inside a literal extends the current logical line. -/
theorem Logical.extend
    {policy : Policy}
    {validator : Validator}
    {verdict : Verdict}
    {quote : Quote}
    {opened : List Bracket}
    {settled : List (List Char)}
    {current line : List Char}
    (logical : Logical policy validator verdict settled current)
    (suspended : validator.stack = Stack.ofLiteral quote opened)
    (unbroken : '\n' ∉ line) :
    Logical policy (validator.validate line).2 (validator.validate line).1
      settled (joinLine true current line) := by
  rcases logical.suspended quote opened suspended with
    ⟨front, content, rfl, suspension⟩
  rcases exists_joinLine_eq suspension.quoted suspension.unclosed line with
    ⟨joined, balanced, joinLine_eq⟩
  have current_eq : joinLine true (front ++ content) line =
      front ++ (joined ++ line) := joinLine_eq []
  have continues : validator.continuesLiteral = true := by
    simp [continuesLiteral, suspended, Stack.ofLiteral]
  have outside := logical.closed settled (List.prefix_refl _)
  have agrees := logical.agrees
  have samePolicy : validator.policy = policy := by
    rw [← congrArg (·.2.policy) agrees, policy_validate, policy_after_new]
  -- Behind the front, the scan of the logical line is that of the taken line.
  have resumes : ∀ other,
      Scan.ofLine policy ((new policy).after settled).stack
          (front ++ (joined ++ other)) =
        Scan.ofLine policy validator.stack other := by
    intro other
    rw [suspension.resumes, Scan.ofLine_append_content balanced, suspended]
  have input : joinLine false ((new policy).after settled).input
        (joinLine true (front ++ content) line) =
      joinLine true validator.input line := by
    have before : validator.input = joinLine false
        ((new policy).after settled).input (front ++ content) := by
      rw [← congrArg (·.2.input) agrees, input_validate, outside]
    rw [before]
    by_cases nothing : ((new policy).after settled).input = []
    · rw [nothing, joinLine_nil, joinLine_nil]
    · have extended := joinLine_eq
        (((new policy).after settled).input ++ ['\n'])
      rw [joinLine_of_ne_nil nothing, joinLine_of_ne_nil nothing, current_eq]
      simpa using extended.symm
  refine ⟨?_, ?_, logical.begun, logical.closed, ?_, ?_⟩
  · rw [input_validate, continues, logical.text, joinLine_eq, current_eq]
  · intro earlier member
    rcases List.mem_append.mp member with old | new
    · exact logical.unbroken earlier (List.mem_append_left _ old)
    · rw [List.mem_singleton.mp new]
      exact notMem_joinLine (logical.unbroken _ (by simp)) unbroken
  · rw [validate, validate, policy_after_new, outside, input, current_eq,
      resumes, samePolicy, continues]
  · intro before outer later
    rw [stack_validate, samePolicy] at later
    rw [current_eq]
    rcases Scan.exists_suspension
        (by rw [suspended]; exact .literal quote opened) later with
      ⟨same, unclosed⟩ | ⟨second, rest, rfl, next⟩
    · -- The line belongs to the literal as a whole.
      rw [suspended] at same
      rcases Stack.ofLiteral_injective same with ⟨rfl, rfl⟩
      refine ⟨front, joined ++ line, rfl, suspension.quoted, ?_,
        suspension.resumes⟩
      rw [LiteralContent.read_append_of_unclosed balanced]
      exact unclosed
    · refine ⟨front ++ joined ++ second, rest, by simp,
        next.behind (front ++ joined) ?_⟩
      intro other
      rw [List.append_assoc, resumes]

/-- A line settles the current logical line, extends it, or begins the first one. -/
theorem Logical.validate
    {policy : Policy}
    {validator : Validator}
    {verdict : Verdict}
    {settled : List (List Char)}
    {current line : List Char}
    (logical : Logical policy validator verdict settled current)
    (unbroken : '\n' ∉ line) :
    ∃ later latest, later <+: settled ++ [current] ∧
      Logical policy (validator.validate line).2 (validator.validate line).1
        later latest := by
  have shaped : validator.stack.Shaped := by
    rw [← congrArg (·.2.stack) logical.agrees]
    exact (Scan.ofLine_shaped (shaped_after_new policy settled) current).1
  cases continues : validator.continuesLiteral with
  | false => exact logical.settle continues unbroken
  | true =>
      rcases (continuesLiteral_iff shaped).mp continues with
        ⟨quote, opened, suspended⟩
      exact ⟨settled, _, List.prefix_append _ _,
        logical.extend suspended unbroken⟩

/-- Every run of lines keeps the outcome in logical lines. -/
theorem Logical.after
    {policy : Policy}
    {validator : Validator}
    {verdict : Verdict}
    {settled lines : List (List Char)}
    {current : List Char}
    (logical : Logical policy validator verdict settled current)
    (unbroken : ∀ line ∈ lines, '\n' ∉ line) :
    ∃ settled current, Logical policy (validator.after lines)
      ((validator.verdicts lines).getLast?.getD verdict) settled current := by
  induction lines generalizing validator verdict settled current with
  | nil => exact ⟨settled, current, logical⟩
  | cons line lines induction =>
      rcases logical.validate (unbroken line (by simp)) with
        ⟨settled, current, -, next⟩
      rw [verdicts, List.getLast?_cons]
      apply induction next
      intro later member
      exact unbroken later (List.mem_cons_of_mem _ member)

theorem splitOn_flatMap
    {settled : List (List Char)}
    {current : List Char}
    (unbroken : ∀ line ∈ settled ++ [current], '\n' ∉ line) :
    (settled.flatMap (· ++ ['\n']) ++ current).splitOn '\n' =
      settled ++ [current] := by
  induction settled with
  | nil => simpa using List.splitOn_eq_singleton (unbroken current (by simp))
  | cons line settled induction =>
      have rest := induction fun later member =>
        unbroken later (List.mem_cons_of_mem _ member)
      rw [List.flatMap_cons, List.append_assoc, List.append_assoc,
        List.singleton_append,
        List.splitOn_append_cons_self_of_not_mem (unbroken line (by simp)),
        rest, List.cons_append]

/--
The logical text has the outcome of the lines that it was joined from: a new
validator that takes its lines ends with the same verdict, input and stack, and
takes none of them inside a literal.
-/
theorem validateAll_splitOn_input
    (policy : Policy)
    {lines : List (List Char)}
    (nonempty : lines ≠ [])
    (unbroken : ∀ line ∈ lines, '\n' ∉ line) :
    let taken := (new policy).validateAll lines
    let logical := taken.2.input.splitOn '\n'
    (new policy).validateAll logical = taken ∧
      ∀ earlier line later, logical = earlier ++ line :: later →
        ((new policy).validateAll earlier).2.continuesLiteral = false := by
  intro taken logical
  rcases (logical_new policy).after unbroken with ⟨settled, current, reads⟩
  have last : ((new policy).verdicts lines).getLast? =
      some (((new policy).verdicts lines).getLast?.getD
        .complete) := by
    rcases List.exists_cons_of_ne_nil nonempty with ⟨line, rest, rfl⟩
    simp [verdicts, List.getLast?_cons]
  have taken_eq : taken =
      (((new policy).verdicts lines).getLast?,
        (new policy).after lines) :=
    validateAll_eq _ _
  have logical_eq : logical = settled ++ [current] := by
    change taken.2.input.splitOn '\n' = _
    rw [taken_eq, reads.text, splitOn_flatMap reads.unbroken]
  constructor
  · rw [logical_eq, validateAll_concat, reads.agrees, taken_eq, last]
    rfl
  · intro earlier line later split
    rw [logical_eq] at split
    have front : earlier <+: settled := by
      refine List.prefix_concat_iff.mp ⟨line :: later, split.symm⟩
        |>.resolve_left fun whole => ?_
      simp [whole] at split
    rw [validateAll_eq]
    exact reads.closed earlier front

/-- A literal over three lines, with a splice and a mismatch behind it. -/
def splicedLines : List (List Char) :=
  ["f(\"a\\".toList, [], "b\")]".toList]

/-- The spliced lines have the outcome of their one logical line. -/
theorem validateAll_splicedLines :
    splicedLines ≠ [] ∧ (∀ line ∈ splicedLines, '\n' ∉ line) ∧
      let taken := (new {}).validateAll splicedLines
      let logical := taken.2.input.splitOn '\n'
      (new {}).validateAll logical = taken ∧
        ∀ earlier line later, logical = earlier ++ line :: later →
          ((new {}).validateAll earlier).2.continuesLiteral = false :=
  ⟨by simp [splicedLines], by decide,
    validateAll_splitOn_input {} (by simp [splicedLines]) (by decide)⟩

end Validator

end Delimit
