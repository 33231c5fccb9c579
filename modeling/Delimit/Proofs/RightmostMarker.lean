import Delimit.Proofs.CommentClosing
import Delimit.Proofs.Occurrences
import Delimit.Proofs.OffsetRefinement
import Mathlib.Order.Bounds.Basic

/-!
# The rightmost marker

The trend of a text is found by walking backwards from its end.  It can be said
without a walk: of all markers that stand behind the first line comment mark, the one
that begins last decides, also where markers overlap.

A scan inside a comment hands the guess exactly the text that a line comment
swallows.  A line in which no closing marker is read token by token therefore leaves
the stack as it is, or ends the comment if the rightmost marker is a closing one.
-/

namespace Delimit

open CommentTrend (closingMarker openingMarker)

namespace CommentTrend

/-! ## Markers by their offsets -/

/-- Whether a marker of either sort stands in a text at an offset. -/
def MarkerAt
    (text : List Char)
    (offset : Nat) :
    Prop :=
  StandsAt closingMarker text offset ∨ StandsAt openingMarker text offset

/-- What the marker that begins last in a text says. -/
inductive LastMarker (text : List Char) : CommentTrend → Prop where
  | none
      (unmarked : ∀ offset, ¬ MarkerAt text offset) :
      LastMarker text .neutral
  | closing {last : Nat}
      (greatest : IsGreatest {offset | MarkerAt text offset} last)
      (closes : StandsAt closingMarker text last) :
      LastMarker text .closes
  | opening {last : Nat}
      (greatest : IsGreatest {offset | MarkerAt text offset} last)
      (opens : StandsAt openingMarker text last) :
      LastMarker text .opens

/-- No two markers stand at one offset. -/
theorem not_standsAt_openingMarker
    {text : List Char}
    {offset : Nat}
    (closes : StandsAt closingMarker text offset) :
    ¬ StandsAt openingMarker text offset := by
  obtain ⟨rest, same⟩ := closes
  rw [StandsAt, ← same]
  simp [closingMarker, openingMarker]

theorem LastMarker.unique
    {text : List Char}
    {trend other : CommentTrend}
    (last : LastMarker text trend)
    (again : LastMarker text other) :
    other = trend := by
  cases last with
  | none unmarked =>
      cases again with
      | none => rfl
      | closing greatest => exact (unmarked _ greatest.1).elim
      | opening greatest => exact (unmarked _ greatest.1).elim
  | closing greatest closes =>
      cases again with
      | none unmarked => exact (unmarked _ greatest.1).elim
      | closing => rfl
      | opening same opens =>
          rw [same.unique greatest] at opens
          exact (not_standsAt_openingMarker closes opens).elim
  | opening greatest opens =>
      cases again with
      | none unmarked => exact (unmarked _ greatest.1).elim
      | closing same closes =>
          rw [greatest.unique same] at opens
          exact (not_standsAt_openingMarker closes opens).elim
      | opening => rfl

/-- A character in front moves the last marker on. -/
theorem isGreatest_markerAt_cons
    {text : List Char}
    {last : Nat}
    (greatest : IsGreatest {offset | MarkerAt text offset} last)
    (character : Char) :
    IsGreatest {offset | MarkerAt (character :: text) offset} (last + 1) := by
  refine ⟨greatest.1, fun offset marker => ?_⟩
  cases offset with
  | zero => exact Nat.zero_le _
  | succ later => exact Nat.succ_le_succ (greatest.2 marker)

/-- A marker in front of a text without any is the last one. -/
theorem isGreatest_markerAt_zero
    {character : Char}
    {text : List Char}
    (unmarked : ∀ offset, ¬ MarkerAt text offset)
    (marker : MarkerAt (character :: text) 0) :
    IsGreatest {offset | MarkerAt (character :: text) offset} 0 := by
  refine ⟨marker, fun offset stands => ?_⟩
  cases offset with
  | zero => exact Nat.le_refl _
  | succ later => exact (unmarked later stands).elim

/-- The trend of a text is what its last marker says. -/
theorem lastMarker_ofForward
    (text : List Char) :
    LastMarker text (ofForward text) := by
  induction text with
  | nil =>
      refine .none fun offset marker => ?_
      rcases marker with closes | opens
      · exact not_standsAt_nil _ _ _ closes
      · exact not_standsAt_nil _ _ _ opens
  | cons character text induction =>
      rw [ofForward_cons]
      generalize ofForward text = trend at induction
      cases induction with
      | closing greatest closes =>
          exact .closing (isGreatest_markerAt_cons greatest character) closes
      | opening greatest opens =>
          exact .opening (isGreatest_markerAt_cons greatest character) opens
      | none unmarked =>
          have closing := standsAt_pair_zero '*' '/' character text
          have opening := standsAt_pair_zero '/' '*' character text
          rw [← ofPair_eq_closes_iff] at closing
          rw [← ofPair_eq_opens_iff] at opening
          dsimp only
          cases pair : ofPair character text.head? with
          | closes =>
              have closes := closing.mpr pair
              exact .closing (isGreatest_markerAt_zero unmarked (.inl closes)) closes
          | opens =>
              have opens := opening.mpr pair
              exact .opening (isGreatest_markerAt_zero unmarked (.inr opens)) opens
          | neutral =>
              rw [pair] at closing opening
              refine .none fun offset marker => ?_
              cases offset with
              | succ later => exact unmarked later marker
              | zero =>
                  rcases marker with closes | opens
                  · cases closing.mp closes
                  · cases opening.mp opens

/-! ## Behind the first line comment mark -/

/-- The trend of a text, by the offsets of marks and markers. -/
inductive IsTrend (text : List Char) : CommentTrend → Prop where
  /-- There is no line comment mark. -/
  | unswallowed
      (unmarked : ∀ offset, ¬ StandsAt lineCommentMark text offset) :
      IsTrend text .neutral
  /-- The last marker behind the first line comment mark decides. -/
  | swallowed {first : Nat} {trend : CommentTrend}
      (least : IsLeast {offset | StandsAt lineCommentMark text offset} first)
      (last : LastMarker (text.drop (first + 2)) trend) :
      IsTrend text trend

theorem IsTrend.unique
    {text : List Char}
    {trend other : CommentTrend}
    (found : IsTrend text trend)
    (again : IsTrend text other) :
    other = trend := by
  cases found with
  | unswallowed unmarked =>
      cases again with
      | unswallowed => rfl
      | swallowed least => exact (unmarked _ least.1).elim
  | swallowed least last =>
      cases again with
      | unswallowed unmarked => exact (unmarked _ least.1).elim
      | swallowed same final =>
          rw [same.unique least] at final
          exact last.unique final

/-- What stands behind the first line comment mark is found, if there is one. -/
theorem behindLineComment?_spec
    (text : List Char) :
    (behindLineComment? text = none ∧
        ∀ offset, ¬ StandsAt lineCommentMark text offset) ∨
      ∃ first, IsLeast {offset | StandsAt lineCommentMark text offset} first ∧
        behindLineComment? text = some (text.drop (first + 2)) := by
  fun_induction behindLineComment? text with
  | case1 rest =>
      exact .inr ⟨0, ⟨⟨rest, rfl⟩, fun _ _ => Nat.zero_le _⟩, rfl⟩
  | case2 character rest other induction =>
      have absent : ¬ StandsAt lineCommentMark (character :: rest) 0 := by
        rw [lineCommentMark, standsAt_pair_zero, List.head?_eq_some_iff]
        rintro ⟨slash, comment, same⟩
        exact other comment slash same
      rcases induction with ⟨nothing, unmarked⟩ | ⟨first, least, behind⟩
      · refine .inl ⟨nothing, fun offset stands => ?_⟩
        cases offset with
        | zero => exact absent stands
        | succ later => exact unmarked later stands
      · refine .inr ⟨first + 1, isLeast_moved least fun offset => ?_, behind⟩
        cases offset with
        | zero => simp [absent]
        | succ later => simp
  | case3 => exact .inl ⟨rfl, fun _ => not_standsAt_nil _ _ _⟩

theorem isTrend_ofText
    (text : List Char) :
    IsTrend text (ofText text) := by
  unfold ofText
  rcases behindLineComment?_spec text with
    ⟨nothing, unmarked⟩ | ⟨first, least, behind⟩
  · rw [nothing]
    exact .unswallowed unmarked
  · rw [behind]
    exact .swallowed least (lastMarker_ofForward _)

/-- The last marker behind the first line comment mark decides about the trend. -/
theorem ofText_eq_iff
    (text : List Char)
    (trend : CommentTrend) :
    ofText text = trend ↔ IsTrend text trend := by
  constructor
  · rintro rfl
    exact isTrend_ofText text
  · exact fun found => found.unique (isTrend_ofText text)

end CommentTrend

/-! ## Lines that are read inside a comment -/

/-- The offsets at which tokens are read when a line is read token by token. -/
inductive ReadsAt (line : List Char) : Nat → Prop where
  | start : ReadsAt line 0
  | next {offset : Nat}
      (earlier : ReadsAt line offset)
      (inner : (Token.readAt line offset).kind ≠ .endOfLine) :
      ReadsAt line (Token.readAt line offset).stop

/-- Whether an asterisk is read somewhere and a slash directly behind it. -/
def ReadsClosingMarker
    (line : List Char) :
    Prop :=
  ∃ offset, ReadsAt line offset ∧
    let asterisk := Token.readAt line offset
    let slash := Token.readAt line asterisk.stop
    asterisk.kind = .asterisk ∧ slash.kind = .slash ∧ slash.start = asterisk.stop

namespace CommentEnd

/-- A comment that is closed on a line is closed by a marker that is read there. -/
theorem readsClosingMarker_of_find
    {half : Bool}
    {front text rest : List Char}
    (reads : ReadsAt (front ++ text) front.length)
    (begun : half = true → ∃ offset, ReadsAt (front ++ text) offset ∧
      (Token.readAt (front ++ text) offset).kind = .asterisk ∧
      (Token.readAt (front ++ text) offset).stop = front.length)
    (closed : find half text = .closed rest) :
    ReadsClosingMarker (front ++ text) := by
  induction size : text.length using Nat.strongRecOn
    generalizing half front text with
  | ind length induction =>
      subst size
      have form := Lexeme.form_next text
      have shorter := @Lexeme.length_rest_next text
      generalize Lexeme.next text = lexeme at form shorter
      rcases lexeme with ⟨gap, kind, value, behind⟩
      have here := readAt_of_form form front
      by_cases ending : kind = .endOfLine
      · subst ending
        rcases form.endOfLine_inv with ⟨rfl, rfl⟩ | ⟨comment, rfl, rfl⟩
        · have whole := find_append_of_plain form.plain_gap half []
          rw [List.append_nil] at whole
          rw [whole] at closed
          cases closed
        · rw [find_append_of_plain form.plain_gap] at closed
          cases closed
      · cases marked : Scan.completes true half gap kind with
        | true =>
            -- The slash is read where the asterisk ended that was read before.
            simp only [Scan.completes, Bool.and_eq_true, List.isEmpty_iff,
              beq_iff_eq] at marked
            obtain ⟨⟨rfl, rfl⟩, rfl⟩ := marked
            obtain ⟨offset, earlier, asterisk, stop_eq⟩ := begun rfl
            refine ⟨offset, earlier, asterisk, ?_⟩
            rw [stop_eq, here]
            exact ⟨rfl, by rw [List.append_nil]⟩
        | false =>
            have later := reads.next (by rw [here]; exact ending)
            rw [find_lexeme form ending marked] at closed
            rw [form.append_text] at reads here later ⊢
            refine induction _ (shorter ending) (by rwa [here] at later) ?_ closed rfl
            intro asterisk
            refine ⟨front.length, reads, ?_, by rw [here]⟩
            rw [here]
            exact beq_iff_eq.mp asterisk

/-- A comment that is not closed on a line meets the first line comment mark there. -/
theorem behindLineComment?_of_find
    (half : Bool)
    (text : List Char) :
    (∃ rest, find half text = .closed rest) ∨
      (∃ comment, find half text = .swallowed comment ∧
        CommentTrend.behindLineComment? text = some comment) ∨
      find half text = .unclosed ∧ CommentTrend.behindLineComment? text = none := by
  fun_induction find half text with
  | case1 => exact .inr (.inr ⟨rfl, rfl⟩)
  | case2 half comment => exact .inr (.inl ⟨comment, rfl, rfl⟩)
  | case3 half character rest other closes => exact .inl ⟨rest, rfl⟩
  | case4 half character rest other stays induction =>
      have passed : CommentTrend.behindLineComment? (character :: rest) =
          CommentTrend.behindLineComment? rest := by
        rw [CommentTrend.behindLineComment?]
        exact other
      rw [passed]
      exact induction

end CommentEnd

namespace Validator

open CommentTrend (IsTrend)

/-- Unless a closing marker is read, only the trend of a line can end a comment. -/
theorem stack_validate_of_comment
    {validator : Validator}
    {inner opened : List Bracket}
    {line : List Char}
    (uncounted : validator.policy.commentBracketParity = false)
    (inside : validator.stack = Stack.ofComment inner opened)
    (unread : ¬ ReadsClosingMarker line) :
    (validator.validate line).2.stack =
      if CommentTrend.ofText line = .closes then
        Stack.ofCode opened
      else
        Stack.ofComment inner opened := by
  rw [stack_validate, inside, Scan.ofLine_ofComment, Scan.run_comment uncounted]
  rcases CommentEnd.behindLineComment?_of_find false line with
    ⟨rest, closed⟩ | ⟨comment, swallowed, behind⟩ | ⟨unclosed, behind⟩
  · have reads : ReadsAt ([] ++ line) ([] : List Char).length := .start
    exact (unread (CommentEnd.readsClosingMarker_of_find reads (by simp) closed)).elim
  · have trend : CommentTrend.ofText line = CommentTrend.ofForward comment := by
      simp only [CommentTrend.ofText, behind]
      rfl
    rw [swallowed, trend, Scan.ofCommentEnd, Scan.atLineEnd]
    by_cases closes : CommentTrend.ofForward comment = .closes
    · simp [closes, Stack.unwind_comment, Scan.finished]
    · simp [closes, Scan.finished]
  · have trend : CommentTrend.ofText line = .neutral := by
      simp only [CommentTrend.ofText, behind]
    rw [unclosed, trend]
    rfl

/--
The trend of a text is decided by the last marker behind the first line comment mark.
A line that is read inside a comment, without a closing marker among its tokens, ends
the comment exactly if that marker is a closing one, and leaves the stack otherwise.
-/
theorem trend_of_last_marker :
    (∀ text trend, CommentTrend.ofText text = trend ↔ IsTrend text trend) ∧
      ∀ (validator : Validator) (line : List Char), Reachable validator →
        validator.policy.commentBracketParity = false →
        validator.inComment = true → ¬ ReadsClosingMarker line →
        ∃ inner below,
          validator.stack.topFirst = inner ++ .comment :: below ∧
          Entry.comment ∉ inner ++ below ∧
          (IsTrend line .closes → (validator.validate line).2.stack = ⟨below⟩) ∧
          (¬ IsTrend line .closes →
            (validator.validate line).2.stack = validator.stack) := by
  refine ⟨CommentTrend.ofText_eq_iff, ?_⟩
  intro validator line reachable uncounted inside unread
  obtain ⟨inner, opened, same⟩ := reachable.shaped.eq_ofComment inside
  have left := stack_validate_of_comment uncounted same unread
  refine ⟨Entry.brackets inner, Entry.brackets opened, by rw [same]; rfl, ?_, ?_, ?_⟩
  · rw [List.mem_append, not_or]
    exact ⟨Entry.comment_notMem_brackets inner, Entry.comment_notMem_brackets opened⟩
  · intro closes
    rw [left, if_pos ((CommentTrend.ofText_eq_iff line _).mpr closes)]
    rfl
  · intro stays
    rw [left, if_neg (mt (CommentTrend.ofText_eq_iff line _).mp stays), same]

/-- A comment behind a bracket. -/
def inNestedComment : Validator :=
  (((new {}).validate ['(']).2.validate openingMarker).2

/-- A marker in two pieces, and behind the line comment mark two that overlap. -/
def overlappingMarkers : List Char := "* / // /*/".toList

/-- Of the two markers of a line that overlap, the later one ends a comment. -/
theorem trend_of_last_marker_overlappingMarkers :
    Reachable inNestedComment ∧
      inNestedComment.policy.commentBracketParity = false ∧
      inNestedComment.inComment = true ∧
      ¬ ReadsClosingMarker overlappingMarkers ∧
      IsTrend overlappingMarkers .closes ∧
      ∃ inner below,
        inNestedComment.stack.topFirst = inner ++ .comment :: below ∧
        (inNestedComment.validate overlappingMarkers).2.stack = ⟨below⟩ := by
  have reachable : Reachable inNestedComment :=
    ((Reachable.new {}).validate _).validate _
  have inside : inNestedComment.inComment = true := by decide +kernel
  have offsets : ∀ offset, ReadsAt overlappingMarkers offset →
      offset = 0 ∨ offset = 1 ∨ offset = 3 := by
    intro offset reads
    induction reads with
    | start => exact .inl rfl
    | next earlier inner induction =>
        rcases induction with rfl | rfl | rfl
        · exact .inr (.inl (by decide +kernel))
        · exact .inr (.inr (by decide +kernel))
        · exact (inner (by decide +kernel)).elim
  have unread : ¬ ReadsClosingMarker overlappingMarkers := by
    rintro ⟨offset, reads, asterisk, slash, adjacent⟩
    rcases offsets offset reads with rfl | rfl | rfl
    · revert adjacent
      decide +kernel
    · revert asterisk
      decide +kernel
    · revert asterisk
      decide +kernel
  have closes : IsTrend overlappingMarkers .closes :=
    (trend_of_last_marker.1 overlappingMarkers .closes).mp (by decide)
  obtain ⟨inner, below, split, -, ends, -⟩ := trend_of_last_marker.2
    inNestedComment overlappingMarkers reachable rfl inside unread
  exact ⟨reachable, rfl, inside, unread, closes, inner, below, split, ends closes⟩

end Validator

end Delimit
