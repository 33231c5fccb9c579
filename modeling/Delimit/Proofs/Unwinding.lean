import Delimit.Proofs.StackShape
import Mathlib.Logic.ExistsUnique

/-!
# Unwinding a stack

Unwinding can be put as operations that change a stack in place: if the target is on
the stack at all, entries are popped one after the other until the popped one equals
the target.  A loop of pops alone would empty the stack and fail if the target were
missing, so everything depends on looking first.

Looked at from the bottom, a stack that holds the target splits at its topmost
occurrence in exactly one way.  Unwinding leaves what is below, and without the target
it leaves everything.  The loop never pops an empty stack.
-/

namespace Delimit.Stack

/-! ## Changes in place -/

theorem depth_lt_of_pop
    {stack rest : Stack}
    {entry : Entry}
    (popped : stack.pop = .ok (entry, rest)) :
    rest.depth < stack.depth := by
  rcases stack with ⟨_ | ⟨top, below⟩⟩
  · cases popped
  · cases popped
    exact Nat.lt_succ_self _

/--
Pops entries until the popped one equals a target.  The stack is given back as it is
then, also after a pop that fails.
-/
def popDownTo
    (target : Entry)
    (stack : Stack) :
    Except StackFault Unit × Stack :=
  match _popped : stack.pop with
  | .error fault => (.error fault, stack)
  | .ok (entry, rest) =>
      if entry = target then
        (.ok (), rest)
      else
        popDownTo target rest
termination_by stack.depth
decreasing_by
  exact depth_lt_of_pop _popped

/-- Pops down to and including a target, if it is on the stack. -/
def unwindInPlace
    (target : Entry)
    (stack : Stack) :
    Except StackFault Unit × Stack :=
  if stack.contains target then
    popDownTo target stack
  else
    (.error (.missing target), stack)

section

variable {target : Entry}

theorem popDownTo_nil :
    popDownTo target ⟨[]⟩ = (.error .empty, ⟨[]⟩) := by
  rw [popDownTo]
  rfl

theorem popDownTo_cons
    (entry : Entry)
    (below : List Entry) :
    popDownTo target ⟨entry :: below⟩ =
      if entry = target then (.ok (), ⟨below⟩) else popDownTo target ⟨below⟩ := by
  rw [popDownTo]
  rfl

/-! ## The topmost occurrence -/

theorem below?_eq_none_iff
    {entries : List Entry} :
    below? target entries = none ↔ target ∉ entries := by
  induction entries with
  | nil => simp [below?]
  | cons entry entries induction =>
      rw [below?, List.mem_cons, not_or]
      split
      · rename_i same
        simp [same]
      · rename_i different
        simp [induction, Ne.symm different]

theorem below?_eq_some_iff
    {entries below : List Entry} :
    below? target entries = some below ↔
      ∃ above, entries = above ++ target :: below ∧ target ∉ above := by
  constructor
  · intro found
    induction entries with
    | nil => cases found
    | cons entry entries induction =>
        rw [below?] at found
        split at found
        · rename_i same
          cases found
          exact ⟨[], by rw [same, List.nil_append], List.not_mem_nil⟩
        · rename_i different
          obtain ⟨above, rfl, absent⟩ := induction found
          refine ⟨entry :: above, rfl, ?_⟩
          simp [absent, Ne.symm different]
  · rintro ⟨above, rfl, absent⟩
    exact below?_append_cons absent below

/-- Pops down to a target leave what is below its topmost occurrence. -/
theorem popDownTo_of_below?
    {entries below : List Entry}
    (found : below? target entries = some below) :
    popDownTo target ⟨entries⟩ = (.ok (), ⟨below⟩) := by
  induction entries with
  | nil => cases found
  | cons entry entries induction =>
      rw [below?] at found
      rw [popDownTo_cons]
      split at found
      · rename_i same
        cases found
        rw [if_pos same]
      · rename_i different
        rw [if_neg different]
        exact induction found

/-- Without the target, pops go on until one fails on the empty stack. -/
theorem popDownTo_of_notMem
    {entries : List Entry}
    (absent : target ∉ entries) :
    popDownTo target ⟨entries⟩ = (.error .empty, .empty) := by
  induction entries with
  | nil => exact popDownTo_nil
  | cons entry entries induction =>
      obtain ⟨different, absent⟩ := List.ne_and_not_mem_of_not_mem_cons absent
      rw [popDownTo_cons, if_neg (Ne.symm different)]
      exact induction absent

/-- Both ways of unwinding leave what is below the topmost occurrence of the target. -/
theorem unwind_of_below?
    {stack : Stack}
    {below : List Entry}
    (found : below? target stack.topFirst = some below) :
    stack.unwind target = .ok ⟨below⟩ ∧
      unwindInPlace target stack = (.ok (), ⟨below⟩) := by
  have present : target ∈ stack.topFirst := by
    obtain ⟨above, whole, -⟩ := below?_eq_some_iff.mp found
    rw [whole]
    exact List.mem_append_right above List.mem_cons_self
  constructor
  · rw [unwind, found]
  · rw [unwindInPlace, contains, if_pos (List.contains_iff_mem.mpr present)]
    exact popDownTo_of_below? found

/-- Both ways of unwinding fail without the target, and nothing is popped then. -/
theorem unwind_of_notMem
    {stack : Stack}
    (absent : target ∉ stack.topFirst) :
    stack.unwind target = .error (.missing target) ∧
      unwindInPlace target stack = (.error (.missing target), stack) := by
  constructor
  · rw [unwind, below?_eq_none_iff.mpr absent]
  · rw [unwindInPlace, contains, if_neg (by simpa using absent)]

/-! ## Entries that are passed over -/

/-- A stack with further entries on top, of which the last one is the topmost. -/
def pushAll
    (stack : Stack)
    (entries : List Entry) :
    Stack :=
  entries.foldl push stack

theorem topFirst_pushAll
    (stack : Stack)
    (entries : List Entry) :
    (stack.pushAll entries).topFirst = entries.reverse ++ stack.topFirst := by
  induction entries generalizing stack with
  | nil => rfl
  | cons entry entries induction =>
      have pushed := induction (stack.push entry)
      rw [List.reverse_cons, List.append_assoc]
      exact pushed

theorem below?_append_of_notMem
    {front : List Entry}
    (absent : target ∉ front)
    (back : List Entry) :
    below? target (front ++ back) = below? target back := by
  induction front with
  | nil => rfl
  | cons entry front induction =>
      obtain ⟨different, absent⟩ := List.ne_and_not_mem_of_not_mem_cons absent
      rw [List.cons_append, below?, if_neg (Ne.symm different)]
      exact induction absent

theorem unwind_pushAll
    {entries : List Entry}
    (absent : target ∉ entries)
    (stack : Stack) :
    (stack.pushAll entries).unwind target = stack.unwind target := by
  have reversed : target ∉ entries.reverse := mt List.mem_reverse.mp absent
  rw [unwind, topFirst_pushAll, below?_append_of_notMem reversed]
  rfl

end

/-! ## The segment that is removed -/

/-- A stack splits, from the bottom, at the topmost occurrence of a target. -/
structure SplitsAt
    (target : Entry)
    (stack : Stack)
    (below above : List Entry) :
    Prop where
  whole : stack.entries = below ++ target :: above
  topmost : target ∉ above

section

variable
    {target : Entry}
    {stack : Stack}
    {below above : List Entry}

theorem SplitsAt.topFirst_eq
    (splits : SplitsAt target stack below above) :
    stack.topFirst = above.reverse ++ target :: below.reverse := by
  have reversed := congrArg List.reverse splits.whole
  simpa [entries] using reversed

theorem SplitsAt.below?_eq
    (splits : SplitsAt target stack below above) :
    below? target stack.topFirst = some below.reverse := by
  rw [splits.topFirst_eq]
  exact below?_append_cons (mt List.mem_reverse.mp splits.topmost) _

theorem exists_splitsAt
    (present : target ∈ stack.topFirst) :
    ∃ below above, SplitsAt target stack below above := by
  cases found : below? target stack.topFirst with
  | none => exact absurd present (below?_eq_none_iff.mp found)
  | some below =>
      obtain ⟨above, whole, absent⟩ := below?_eq_some_iff.mp found
      refine ⟨below.reverse, above.reverse, ?_, mt List.mem_reverse.mp absent⟩
      simp [entries, whole]

/-- What lies below decides what lies above, and is found by looking from the top. -/
theorem SplitsAt.unique
    {otherBelow otherAbove : List Entry}
    (splits : SplitsAt target stack below above)
    (other : SplitsAt target stack otherBelow otherAbove) :
    below = otherBelow ∧ above = otherAbove := by
  have same : below.reverse = otherBelow.reverse :=
    Option.some.inj (splits.below?_eq.symm.trans other.below?_eq)
  obtain rfl := List.reverse_inj.mp same
  have tails := List.append_cancel_left (splits.whole.symm.trans other.whole)
  exact ⟨rfl, (List.cons.inj tails).2⟩

end

/--
A stack that holds the target splits at its topmost occurrence in exactly one way, and
unwinding leaves exactly what is below; without the target it fails and leaves the
stack as it was.  Pops alone would empty a stack without the target and fail, but no pop
of an unwinding finds the stack empty.  Literals are passed over on the way to a
bracket, and brackets on the way to a literal, also those of its kind.
-/
theorem unwind_removes_segment
    (stack : Stack)
    (target : Entry) :
    (target ∈ stack.entries ↔
        ∃! parts : List Entry × List Entry, SplitsAt target stack parts.1 parts.2) ∧
      (∀ below above, SplitsAt target stack below above →
        ∃ rest, rest.entries = below ∧ stack.unwind target = .ok rest ∧
          unwindInPlace target stack = (.ok (), rest)) ∧
      (target ∉ stack.entries →
        stack.unwind target = .error (.missing target) ∧
          unwindInPlace target stack = (.error (.missing target), stack)) ∧
      (∀ left, popDownTo target stack = (.error .empty, left) ↔
        target ∉ stack.entries ∧ left = .empty) ∧
      (∀ left, unwindInPlace target stack ≠ (.error .empty, left)) ∧
      ∀ (kind : TokenKind) (kinds : List TokenKind),
        (stack.pushAll (kinds.map .literal)).unwind (.bracket kind) =
            stack.unwind (.bracket kind) ∧
          (stack.pushAll (kinds.map .bracket)).unwind (.literal kind) =
            stack.unwind (.literal kind) := by
  have member : target ∈ stack.entries ↔ target ∈ stack.topFirst := List.mem_reverse
  refine ⟨⟨fun present => ?_, ?_⟩, ?_, ?_, ?_, ?_, fun kind kinds => ⟨?_, ?_⟩⟩
  · obtain ⟨below, above, splits⟩ := exists_splitsAt (member.mp present)
    refine ⟨⟨below, above⟩, splits, fun other otherSplits => ?_⟩
    obtain ⟨sameBelow, sameAbove⟩ := otherSplits.unique splits
    exact Prod.ext sameBelow sameAbove
  · rintro ⟨parts, splits, -⟩
    rw [splits.whole]
    exact List.mem_append_right parts.1 List.mem_cons_self
  · intro below above splits
    exact ⟨⟨below.reverse⟩, List.reverse_reverse below, unwind_of_below? splits.below?_eq⟩
  · exact fun absent => unwind_of_notMem (mt member.mpr absent)
  · intro left
    rw [member]
    by_cases present : target ∈ stack.topFirst
    · obtain ⟨below, above, splits⟩ := exists_splitsAt present
      have popped := popDownTo_of_below? splits.below?_eq
      simp [popped, present]
    · have failed := popDownTo_of_notMem present
      simp [failed, present, eq_comm]
  · intro left failed
    by_cases present : target ∈ stack.topFirst
    · obtain ⟨below, above, splits⟩ := exists_splitsAt present
      rw [(unwind_of_below? splits.below?_eq).2] at failed
      cases failed
    · rw [(unwind_of_notMem present).2] at failed
      cases failed
  · exact unwind_pushAll (by simp) stack
  · exact unwind_pushAll (by simp) stack

/-- Two equal brackets with a literal of their kind and a comment above them. -/
def doubledStack : Stack :=
  empty.pushAll [.bracket (.opening .paren), .literal (.opening .paren),
    .bracket (.opening .paren), .literal (.opening .paren), .comment]

/-- Unwinding stops at the upper one of two equal brackets, and fails at a brace. -/
theorem unwind_removes_segment_doubledStack :
    SplitsAt (.bracket (.opening .paren)) doubledStack
        [.bracket (.opening .paren), .literal (.opening .paren)]
        [.literal (.opening .paren), .comment] ∧
      (∃ rest, rest.entries = [.bracket (.opening .paren), .literal (.opening .paren)] ∧
        doubledStack.unwind (.bracket (.opening .paren)) = .ok rest ∧
        unwindInPlace (.bracket (.opening .paren)) doubledStack = (.ok (), rest)) ∧
      .bracket (.opening .brace) ∉ doubledStack.entries ∧
      doubledStack.unwind (.bracket (.opening .brace)) =
          .error (.missing (.bracket (.opening .brace))) ∧
        unwindInPlace (.bracket (.opening .brace)) doubledStack =
          (.error (.missing (.bracket (.opening .brace))), doubledStack) := by
  have splits : SplitsAt (.bracket (.opening .paren)) doubledStack
      [.bracket (.opening .paren), .literal (.opening .paren)]
      [.literal (.opening .paren), .comment] := ⟨rfl, by decide⟩
  have absent : Entry.bracket (.opening .brace) ∉ doubledStack.entries := by decide
  exact ⟨splits, (unwind_removes_segment doubledStack _).2.1 _ _ splits, absent,
    (unwind_removes_segment doubledStack _).2.2.1 absent⟩

end Delimit.Stack
