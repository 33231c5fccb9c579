import Delimit.CommentTrend

/-!
# The last marker decides

The trend of a text is found by reading backwards.  Read forwards, the trend of a
text with one more character in front is the trend of the text, unless the text
holds no marker; then the new character may form one with the first character of
the text.  So the trend is decided by the last marker: a comment closes exactly
when some closing marker has no opening marker behind it, not even one that begins
with the slash of the closing marker.
-/

namespace Delimit

namespace CommentTrend

/-- The marker that ends a comment. -/
def closingMarker : List Char := ['*', '/']

/-- The marker that begins a comment. -/
def openingMarker : List Char := ['/', '*']

/-- The character that forms a marker with the one behind it. -/
def expectation : Option Char → Option Char
  | some '*' => some '/'
  | some '/' => some '*'
  | _ => none

/-- The marker that a character forms with the one behind it, as a trend. -/
def ofPair
    (character : Char)
    (behind : Option Char) :
    CommentTrend :=
  if character = '*' ∧ behind = some '/' then
    closes
  else if character = '/' ∧ behind = some '*' then
    opens
  else
    neutral

/-- The trend of a text that is given in reading order. -/
def ofForward
    (text : List Char) :
    CommentTrend :=
  ofReversed none text.reverse

theorem expectation_eq_asterisk_iff
    (behind : Option Char) :
    expectation behind = some '*' ↔ behind = some '/' := by
  unfold expectation
  split <;> simp_all

theorem expectation_eq_slash_iff
    (behind : Option Char) :
    expectation behind = some '/' ↔ behind = some '*' := by
  unfold expectation
  split <;> simp_all

theorem ofReversed_cons
    (character : Char)
    (earlier : List Char)
    (behind : Option Char) :
    ofReversed (expectation behind) (character :: earlier) =
      match ofPair character behind with
      | neutral => ofReversed (expectation (some character)) earlier
      | trend => trend := by
  rw [ofReversed]
  simp only [expectation_eq_asterisk_iff, expectation_eq_slash_iff]
  by_cases asterisk : character = '*'
  · subst asterisk
    by_cases slash : behind = some '/'
    · simp [ofPair, slash]
    · simp [ofPair, slash, expectation]
  · by_cases slash : character = '/'
    · subst slash
      by_cases star : behind = some '*'
      · simp [ofPair, star]
      · simp [ofPair, star, expectation]
    · have plain : expectation (some character) = none := by
        unfold expectation
        split <;> simp_all
      simp [ofPair, asterisk, slash, plain]

theorem ofReversed_concat
    (text : List Char)
    (character : Char)
    (behind : Option Char) :
    ofReversed (expectation behind) (text ++ [character]) =
      match ofReversed (expectation behind) text with
      | neutral => ofPair character (text.getLast?.or behind)
      | trend => trend := by
  induction text generalizing behind with
  | nil =>
      rw [List.nil_append, ofReversed_cons]
      cases pair : ofPair character behind <;> simp [ofReversed, pair]
  | cons first text induction =>
      rw [List.cons_append, ofReversed_cons, ofReversed_cons]
      cases pair : ofPair first behind with
      | closes => rfl
      | opens => rfl
      | neutral => simp [induction, List.getLast?_cons]

@[simp]
theorem ofForward_nil : ofForward [] = neutral := rfl

/-- A character in front matters only if there is no marker behind it. -/
theorem ofForward_cons
    (character : Char)
    (text : List Char) :
    ofForward (character :: text) =
      match ofForward text with
      | neutral => ofPair character text.head?
      | trend => trend := by
  have step := ofReversed_concat text.reverse character none
  rw [List.getLast?_reverse, Option.or_none] at step
  rw [ofForward, List.reverse_cons]
  exact step

theorem ofPair_eq_closes_iff
    (character : Char)
    (behind : Option Char) :
    ofPair character behind = closes ↔
      character = '*' ∧ behind = some '/' := by
  unfold ofPair
  split
  · simp_all
  · split <;> simp_all

theorem ofPair_eq_opens_iff
    (character : Char)
    (behind : Option Char) :
    ofPair character behind = opens ↔
      character = '/' ∧ behind = some '*' := by
  unfold ofPair
  split
  · rename_i closing
    simp [closing.1]
  · split <;> simp_all

theorem pair_infix_cons_iff
    (first second character : Char)
    (text : List Char) :
    [first, second] <:+: character :: text ↔
      (character = first ∧ text.head? = some second) ∨
        [first, second] <:+: text := by
  rw [List.infix_cons_iff, List.cons_prefix_cons]
  have head : [second] <+: text ↔ text.head? = some second := by
    cases text <;> simp [List.cons_prefix_cons, eq_comm]
  rw [head, eq_comm]

theorem infix_of_opens
    {text : List Char}
    (trend : ofForward text = opens) :
    openingMarker <:+: text := by
  induction text with
  | nil => cases trend
  | cons character text induction =>
      rw [openingMarker, pair_infix_cons_iff]
      rw [ofForward_cons] at trend
      cases later : ofForward text with
      | closes => simp [later] at trend
      | opens => exact .inr (induction later)
      | neutral =>
          rw [later] at trend
          exact .inl ((ofPair_eq_opens_iff _ _).mp trend)

theorem not_infix_of_neutral
    {text : List Char}
    (trend : ofForward text = neutral) :
    ¬ openingMarker <:+: text := by
  induction text with
  | nil => simp [openingMarker]
  | cons character text induction =>
      rw [openingMarker, pair_infix_cons_iff]
      rw [ofForward_cons] at trend
      cases later : ofForward text with
      | closes => simp [later] at trend
      | opens => simp [later] at trend
      | neutral =>
          rw [later] at trend
          rintro (pair | inner)
          · rw [(ofPair_eq_opens_iff _ _).mpr pair] at trend
            cases trend
          · exact induction later inner

/-- The trend closes exactly when the last marker is a closing one. -/
theorem ofForward_eq_closes_iff
    (text : List Char) :
    ofForward text = closes ↔
      ∃ before after, text = before ++ '*' :: '/' :: after ∧
        ¬ openingMarker <:+: '/' :: after := by
  induction text with
  | nil => simp
  | cons character text induction =>
      rw [ofForward_cons]
      constructor
      · intro trend
        cases later : ofForward text with
        | opens => simp [later] at trend
        | closes =>
            rcases induction.mp later with ⟨before, after, rfl, last⟩
            exact ⟨character :: before, after, rfl, last⟩
        | neutral =>
            rw [later] at trend
            rcases (ofPair_eq_closes_iff _ _).mp trend with ⟨rfl, slash⟩
            rcases List.head?_eq_some_iff.mp slash with ⟨after, rfl⟩
            exact ⟨[], after, rfl, not_infix_of_neutral later⟩
      · rintro ⟨before, after, split, last⟩
        cases before with
        | nil =>
            rcases List.cons.inj split with ⟨rfl, rfl⟩
            cases later : ofForward ('/' :: after) with
            | opens => exact (last (infix_of_opens later)).elim
            | closes => rfl
            | neutral => rfl
        | cons first before =>
            rcases List.cons.inj split with ⟨rfl, rfl⟩
            rw [induction.mpr ⟨before, after, rfl, last⟩]

/-- Without opening markers, any closing marker decides the trend. -/
theorem ofForward_eq_closes_iff_infix
    {text : List Char}
    (unopened : ¬ openingMarker <:+: text) :
    ofForward text = closes ↔ closingMarker <:+: text := by
  rw [ofForward_eq_closes_iff]
  constructor
  · rintro ⟨before, after, rfl, -⟩
    exact ⟨before, after, by simp [closingMarker]⟩
  · rintro ⟨before, after, rfl⟩
    refine ⟨before, after, by simp [closingMarker], ?_⟩
    intro marker
    apply unopened
    refine marker.trans (List.IsSuffix.isInfix ?_)
    exact ⟨before ++ ['*'], by simp [closingMarker]⟩

@[simp]
theorem ofText_lineComment
    (comment : List Char) :
    ofText ('/' :: '/' :: comment) = ofForward comment := rfl

end CommentTrend

end Delimit
