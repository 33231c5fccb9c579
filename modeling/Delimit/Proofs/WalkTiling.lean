import Delimit.Proofs.CommentClosing
import Delimit.Proofs.DelimiterSpans
import Delimit.Proofs.Occurrences
import Mathlib.Data.Set.Basic
import Mathlib.Order.Bounds.Defs

/-!
# The walk tiles its line

A walk can also be put with offsets alone: a step reads the token at an offset,
with the literal that begins at the token if this is a quote, and the walk goes on
where the step ends.  Such a walk comes to an end, and it is the one that reads the
rest of the line.

What a step covers is known from the step alone: the blanks before its token, the
token itself, and no line comment mark unless it is the last one.  Put together,
the steps tile the line.  The gaps between them hold nothing but blanks, no step but
the last is empty, and the last one covers the line from the first line comment mark
that stands outside the literals.
-/

namespace Delimit

/-! ## Walks by offsets -/

/-- The step that a walk takes at an offset of a line. -/
inductive TakesStep (line : List Char) (offset : Nat) : WalkStep → Prop where
  /-- A token is read. -/
  | token
      (plain : (Token.readAt line offset).kind.isLiteralStart = false) :
      TakesStep line offset ⟨Token.readAt line offset, none⟩
  /-- A quote is read, with the literal that begins at it. -/
  | literal {literal : QuotedLiteral}
      (quoted : (Token.readAt line offset).kind.isLiteralStart = true)
      (found : QuotedLiteral.startingAt line (Token.readAt line offset).start =
        .ok literal) :
      TakesStep line offset ⟨Token.readAt line offset, some literal⟩

/-- The steps of a walk from an offset of a line, each where the one before it ends. -/
inductive Walks (line : List Char) : Nat → List WalkStep → Prop where
  | ends {offset : Nat} {step : WalkStep}
      (takes : TakesStep line offset step)
      (last : step.token.kind = .endOfLine) :
      Walks line offset [step]
  | goesOn {offset : Nat} {step : WalkStep} {steps : List WalkStep}
      (takes : TakesStep line offset step)
      (inner : step.token.kind ≠ .endOfLine)
      (later : Walks line step.stop steps) :
      Walks line offset (step :: steps)

variable {line : List Char} {offset : Nat} {step : WalkStep}
variable {steps : List WalkStep}

/-- There is one step to take at an offset. -/
theorem TakesStep.unique
    {other : WalkStep}
    (takes : TakesStep line offset step)
    (others : TakesStep line offset other) :
    other = step := by
  cases takes with
  | token plain =>
      cases others with
      | token => rfl
      | literal quoted => rw [plain] at quoted; cases quoted
  | literal quoted found =>
      cases others with
      | token plain => rw [quoted] at plain; cases plain
      | literal _ again =>
          rw [found] at again
          cases again
          rfl

/-- There is one walk from an offset. -/
theorem Walks.unique
    {others : List WalkStep}
    (walks : Walks line offset steps)
    (again : Walks line offset others) :
    others = steps := by
  induction walks generalizing others with
  | ends takes last =>
      cases again with
      | ends same => rw [takes.unique same]
      | goesOn same inner => exact (inner (takes.unique same ▸ last)).elim
  | goesOn takes inner later induction =>
      cases again with
      | ends same last => exact (inner (takes.unique same ▸ last)).elim
      | goesOn same _ further =>
          obtain rfl := takes.unique same
          rw [induction further]

section

variable {text gap value rest : List Char} {kind : TokenKind}

theorem ofLexeme_next
    (front text : List Char) :
    Token.ofLexeme front.length (Lexeme.next text) =
      Token.readAt (front ++ text) front.length := by
  simp [Token.readAt]

theorem walkFrom_of_endOfLine
    (form : Lexeme.Form text ⟨gap, .endOfLine, value, rest⟩)
    (front : List Char) :
    walkFrom front.length text =
      [⟨Token.readAt (front ++ text) front.length, none⟩] := by
  rw [walkFrom, ofLexeme_next, form.next_eq]
  rfl

theorem walkFrom_of_token
    (form : Lexeme.Form text ⟨gap, kind, value, rest⟩)
    (inner : kind ≠ .endOfLine)
    (plain : kind.isLiteralStart = false)
    (front : List Char) :
    walkFrom front.length text =
      ⟨Token.readAt (front ++ text) front.length, none⟩ ::
        walkFrom (front ++ (gap ++ value)).length rest := by
  rw [walkFrom, ofLexeme_next, form.next_eq, dif_neg inner,
    readAt_of_form form front]
  cases kind <;> first | rfl | cases plain

theorem walkFrom_of_quote
    {quote : Quote}
    {content covered : List Char}
    {ending : LiteralEnding}
    (form : Lexeme.Form text ⟨gap, .quote quote, value, content⟩)
    (literal : LiteralContent.read quote content = ⟨covered, ending, rest⟩)
    (front : List Char) :
    walkFrom front.length text =
      ⟨Token.readAt (front ++ text) front.length,
        some
          { quote
            start := (front ++ gap).length
            stop := (front ++ (gap ++ (value ++ covered))).length
            terminated := ending.isClosed }⟩ ::
        walkFrom (front ++ (gap ++ (value ++ covered))).length rest := by
  have stop_eq : (front ++ (gap ++ value)).length + covered.length =
      (front ++ (gap ++ (value ++ covered))).length := by
    simp only [List.length_append, Nat.add_assoc]
  rw [walkFrom, ofLexeme_next, form.next_eq, dif_neg (by simp),
    readAt_of_form form front]
  simp only [literal, stop_eq]

/-- The walk over the rest of a line takes its steps by their offsets. -/
theorem walks_walkFrom
    (front text : List Char) :
    Walks (front ++ text) front.length (walkFrom front.length text) := by
  -- A literal is taken in one step, so what is left may shrink by more than a token.
  induction size : text.length using Nat.strongRecOn generalizing front text with
  | ind length induction =>
      subst size
      have form := Lexeme.form_next text
      have shorter := @Lexeme.length_rest_next text
      generalize Lexeme.next text = lexeme at form shorter
      rcases lexeme with ⟨gap, kind, value, rest⟩
      have here := readAt_of_form form front
      by_cases ending : kind = .endOfLine
      · subst ending
        rw [walkFrom_of_endOfLine form]
        exact .ends (.token (by rw [here]; rfl)) (by rw [here])
      · have inner : (Token.readAt (front ++ text) front.length).kind ≠
            .endOfLine := by
          rw [here]
          exact ending
        cases quoted : kind.isLiteralStart with
        | false =>
            rw [walkFrom_of_token form ending quoted]
            refine .goesOn (.token (by rw [here]; exact quoted)) inner ?_
            have later := induction _ (shorter ending) (front ++ (gap ++ value))
              rest rfl
            rw [WalkStep.stop, here, form.append_text]
            exact later
        | true =>
            obtain ⟨quote, rfl⟩ : ∃ quote, kind = .quote quote := by
              cases kind <;> first | exact ⟨_, rfl⟩ | cases quoted
            have within := LiteralContent.length_rest_read_le quote rest
            generalize literal : LiteralContent.read quote rest = content
              at within
            rcases content with ⟨covered, closing, behind⟩
            have found := startingAt_of_form form literal front
            rw [walkFrom_of_quote form literal]
            refine .goesOn (.literal (by rw [here]; rfl) (by rw [here]; exact found))
              inner ?_
            have later := induction _
              (Nat.lt_of_le_of_lt within (shorter ending))
              (front ++ (gap ++ (value ++ covered))) behind rfl
            have whole : front ++ text =
                front ++ (gap ++ (value ++ covered)) ++ behind := by
              rw [form.text_eq, ← LiteralContent.append_of_read literal]
              simp only [List.append_assoc]
            rw [WalkStep.stop, whole]
            exact later

end

/-! ## What a step covers -/

/-- What is known of the token that is read at an offset of a line. -/
structure Token.Reads
    (line : List Char)
    (offset : Nat)
    (token : Token) :
    Prop where
  start_le : offset ≤ token.start
  stop_le : token.start ≤ token.stop ∧ token.stop ≤ line.length
  value_eq : token.value = textBetween line token.start token.stop
  /-- Only blanks are passed over. -/
  blank : Text.isAllBlank (textBetween line offset token.start) = true
  nonempty : token.kind ≠ .endOfLine → token.start < token.stop
  /-- A word does not go on behind its token. -/
  maximal : token.kind = .identifier →
    ∀ following, (line.drop token.stop).head? = some following →
      Text.isWordPart following = false
  /-- The end of the line covers a line comment, or nothing at all. -/
  ending : token.kind = .endOfLine →
    token.stop = line.length ∧
      (token.start < line.length → StandsAt lineCommentMark line token.start)
  /-- No line comment mark stands before the end of the line. -/
  unmarked : ∀ place, offset ≤ place → place < token.stop →
    StandsAt lineCommentMark line place →
      token.kind = .endOfLine ∧ token.start ≤ place

/-- The slash is neither blank nor part of a word. -/
theorem slash_notMem_of_plain
    {piece : List Char}
    (plain : ∀ character ∈ piece, Lexeme.symbol? character = none) :
    '/' ∉ piece :=
  fun member => Lexeme.ne_slash_of_symbol? (plain '/' member) rfl

/-- The token of a lexeme stands at no line comment mark unless it ends the line. -/
theorem unmarked_of_form
    {text gap value rest : List Char}
    {kind : TokenKind}
    {place : Nat}
    (form : Lexeme.Form text ⟨gap, kind, value, rest⟩)
    (inside : place < (gap ++ value).length)
    (marked : StandsAt lineCommentMark text place) :
    kind = .endOfLine ∧ gap.length ≤ place := by
  have behind : gap.length ≤ place := by
    by_contra before
    rw [form.text_eq] at marked
    exact not_standsAt_of_notMem (slash_notMem_of_plain form.plain_gap)
      (Nat.lt_of_not_le before) _ _ marked
  refine ⟨?_, behind⟩
  by_contra inner
  rw [form.text_eq, ← List.append_assoc] at marked
  rcases form.symbol_or_plain inner with
    ⟨character, rfl, symbol, alone⟩ | ⟨-, plain⟩
  · have here : place = gap.length := by
      simp only [List.length_append, List.length_singleton] at inside
      omega
    rw [here, List.append_assoc] at marked
    have pair := (standsAt_append lineCommentMark gap _ 0).mp marked
    rw [List.singleton_append, lineCommentMark, standsAt_pair_zero] at pair
    exact alone pair.1 pair.2
  · exact not_standsAt_of_notMem (slash_notMem_of_plain plain) inside _ _ marked

/-- A word goes on as far as it can. -/
theorem isWordPart_of_identifier
    {text gap value rest : List Char}
    {following : Char}
    (form : Lexeme.Form text ⟨gap, .identifier, value, rest⟩)
    (next : rest.head? = some following) :
    Text.isWordPart following = false := by
  cases form with
  | word blank edge start parts maximal => exact maximal following next
  | symbol blank symbol =>
      unfold Lexeme.symbol? at symbol
      split at symbol <;> cases symbol

/-- A token is read as its lexeme has it. -/
theorem reads_readAt
    {line : List Char}
    {offset : Nat}
    (inside : offset ≤ line.length) :
    (Token.readAt line offset).Reads line offset := by
  obtain ⟨front, text, rfl, rfl⟩ :
      ∃ front text, line = front ++ text ∧ offset = front.length :=
    ⟨line.take offset, line.drop offset, (List.take_append_drop _ _).symm,
      by simp [inside]⟩
  have form := Lexeme.form_next text
  generalize Lexeme.next text = lexeme at form
  rcases lexeme with ⟨gap, kind, value, rest⟩
  have whole := form.text_eq
  have spread : front ++ text = (front ++ gap) ++ (value ++ rest) := by
    rw [whole, List.append_assoc]
  have length_eq : (front ++ (gap ++ value)).length =
      (front ++ gap).length + value.length := by
    simp only [List.length_append, Nat.add_assoc]
  rw [readAt_of_form form front]
  constructor
  case start_le => simp
  case stop_le =>
    rw [spread]
    simp only [List.length_append]
    omega
  case value_eq =>
    simp only [length_eq, spread]
    exact (textBetween_middle _ _ _).symm
  case blank =>
    have passed := textBetween_middle front gap (value ++ rest)
    rw [← List.append_assoc, ← spread, ← List.length_append] at passed
    rw [passed]
    exact form.isAllBlank_gap
  case nonempty =>
    intro inner
    have some : 0 < value.length :=
      List.length_pos_iff.mpr (form.value_ne_nil inner)
    simp only [length_eq]
    omega
  case maximal =>
    rintro rfl following next
    rw [form.append_text] at next
    simp only [List.drop_left] at next
    exact isWordPart_of_identifier form next
  case ending =>
    rintro rfl
    rcases form.endOfLine_inv with ⟨rfl, rfl⟩ | ⟨comment, rfl, rfl⟩
    · simp
    · refine ⟨rfl, fun _ => ?_⟩
      have here := standsAt_append lineCommentMark (front ++ gap)
        ('/' :: '/' :: comment) 0
      rw [List.append_assoc] at here
      exact here.mpr ⟨comment, rfl⟩
  case unmarked =>
    intro place behind before marked
    obtain ⟨further, rfl⟩ := Nat.exists_eq_add_of_le behind
    rw [standsAt_append] at marked
    simp only [List.length_append] at before ⊢
    have ended := unmarked_of_form form
      (by simpa only [List.length_append] using by omega) marked
    exact ⟨ended.1, by omega⟩

/-- Where a step goes on: behind its token, or behind the literal that it takes. -/
theorem TakesStep.stop_spec
    (takes : TakesStep line offset step)
    (inside : offset ≤ line.length) :
    step.token.Reads line offset ∧ step.stop ≤ line.length ∧
      (step.literal? = none ∧ step.stop = step.token.stop ∨
        ∃ literal, step.literal? = some literal ∧
          step.token.kind.isLiteralStart = true ∧
          literal.start = step.token.start ∧ literal.stop = step.stop ∧
          literal.start < literal.stop) := by
  have reads := reads_readAt inside
  cases takes with
  | token plain => exact ⟨reads, reads.stop_le.2, .inl ⟨rfl, rfl⟩⟩
  | @literal literal quoted found =>
      have further := OffsetScan.stop_startingAt found
      have start_eq : literal.start = (Token.readAt line offset).start := by
        unfold QuotedLiteral.startingAt at found
        split at found
        · cases found
          rfl
        · cases found
      exact ⟨reads, further.2,
        .inr ⟨literal, rfl, quoted, start_eq, rfl, by omega⟩⟩

/-- A step that does not end the line is not empty. -/
theorem TakesStep.start_lt_stop
    (takes : TakesStep line offset step)
    (inside : offset ≤ line.length)
    (inner : step.token.kind ≠ .endOfLine) :
    step.token.start < step.stop := by
  obtain ⟨reads, -, ⟨-, same⟩ | ⟨literal, -, -, start_eq, stop_eq, some⟩⟩ :=
    takes.stop_spec inside
  · rw [same]
    exact reads.nonempty inner
  · rw [← start_eq, ← stop_eq]
    exact some

/-! ## Tilings -/

/-- Whether an offset is outside the literals that steps take. -/
def OutsideLiterals
    (steps : List WalkStep)
    (offset : Nat) :
    Prop :=
  ∀ step ∈ steps, ∀ literal ∈ step.literal?,
    offset < literal.start ∨ literal.stop ≤ offset

/-- The line comment marks from an offset on that stand outside the literals of steps. -/
def commentMarks
    (line : List Char)
    (offset : Nat)
    (steps : List WalkStep) :
    Set Nat :=
  {place | offset ≤ place ∧ StandsAt lineCommentMark line place ∧
    OutsideLiterals steps place}

/-- The text of the gap before each step, and the text that the step covers. -/
def tiles
    (line : List Char)
    (offset : Nat) :
    List WalkStep → List (List Char × List Char)
  | [] => []
  | step :: steps =>
      (textBetween line offset step.token.start,
        textBetween line step.token.start step.stop) ::
        tiles line step.stop steps

/-- How steps cover a line from an offset on. -/
structure Tiles
    (line : List Char)
    (offset : Nat)
    (steps : List WalkStep) :
    Prop where
  /-- There is at most one step for each character, and one for the end of the line. -/
  length_le : offset + steps.length ≤ line.length + 1
  inside : ∀ step ∈ steps,
    offset ≤ step.token.start ∧ step.token.start ≤ step.stop ∧
      step.stop ≤ line.length
  /-- A step ends before every later one begins. -/
  apart : steps.Pairwise fun earlier later => earlier.stop ≤ later.token.start
  values : ∀ step ∈ steps,
    step.token.value = textBetween line step.token.start step.token.stop
  /-- The gaps hold nothing but blanks. -/
  blank : ∀ tile ∈ tiles line offset steps, Text.isAllBlank tile.1 = true
  /-- Only the last step may be empty. -/
  nonempty : ∀ step ∈ steps.dropLast, step.token.start < step.stop
  /-- No word goes on behind its step. -/
  maximal : ∀ step ∈ steps, step.token.kind = .identifier →
    ∀ following, (line.drop step.stop).head? = some following →
      Text.isWordPart following = false
  /--
  The last step is the only end of the line.  It covers the line from the first line
  comment mark outside the literals, and nothing if there is no such mark.
  -/
  ending : ∃ front last, steps = front ++ [last] ∧
    (∀ step ∈ front, step.token.kind ≠ .endOfLine) ∧
    last.token.kind = .endOfLine ∧ last.token.stop = line.length ∧
    (IsLeast (commentMarks line offset steps) last.token.start ∨
      commentMarks line offset steps = ∅ ∧ last.token.start = line.length)
  /-- Gaps and steps concatenate to the rest of the line. -/
  whole : (tiles line offset steps).flatMap (fun tile => tile.1 ++ tile.2) =
    line.drop offset

/-- A text between two offsets is in front of the text from the second one on. -/
theorem textBetween_append_drop
    (line : List Char)
    {start stop : Nat}
    (order : start ≤ stop) :
    textBetween line start stop ++ line.drop stop = line.drop start := by
  have later : line.drop stop = (line.drop start).drop (stop - start) := by
    rw [List.drop_drop, Nat.add_sub_cancel' order]
  rw [textBetween, List.drop_take, later, List.take_append_drop]

/-- Behind a step that does not end the line, the same marks are left. -/
theorem commentMarks_cons
    (takes : TakesStep line offset step)
    (inside : offset ≤ line.length)
    (inner : step.token.kind ≠ .endOfLine)
    (steps : List WalkStep) :
    commentMarks line offset (step :: steps) =
      commentMarks line step.stop steps := by
  have further := takes.start_lt_stop inside inner
  obtain ⟨reads, -, stops⟩ := takes.stop_spec inside
  have start_le := reads.start_le
  ext place
  constructor
  · rintro ⟨behind, marked, outside⟩
    refine ⟨?_, marked, fun later member => outside later (.tail _ member)⟩
    -- No mark stands in the token, and one in its literal does not count.
    have unread : step.token.stop ≤ place := by
      by_contra before
      exact inner (reads.unmarked place behind (by omega) marked).1
    rcases stops with ⟨-, same⟩ | ⟨literal, taken, -, start_eq, stop_eq, -⟩
    · rw [same]
      exact unread
    · rcases outside step (.head _) literal (by rw [taken]; rfl) with before | after
      · have token := reads.stop_le.1
        omega
      · rw [← stop_eq]
        exact after
  · rintro ⟨behind, marked, outside⟩
    refine ⟨by omega, marked, ?_⟩
    intro later member literal taken
    rcases List.mem_cons.mp member with rfl | member
    · rcases stops with ⟨none, -⟩ | ⟨found, some, -, -, stop_eq, -⟩
      · rw [none] at taken
        cases taken
      · rw [some] at taken
        cases taken
        exact .inr (stop_eq ▸ behind)
    · exact outside later member literal taken

/-- The end of the line begins at the first mark that is left, or behind the line. -/
theorem Token.Reads.isLeast_or_eq_empty
    (reads : step.token.Reads line offset)
    (last : step.token.kind = .endOfLine)
    (none : step.literal? = none) :
    IsLeast (commentMarks line offset [step]) step.token.start ∨
      commentMarks line offset [step] = ∅ ∧ step.token.start = line.length := by
  obtain ⟨stop_eq, marked⟩ := reads.ending last
  have first : ∀ place ∈ commentMarks line offset [step],
      step.token.start ≤ place ∧ place < line.length := by
    rintro place ⟨behind, stands, -⟩
    have within := stands.lt_length
    exact ⟨(reads.unmarked place behind (stop_eq ▸ within) stands).2, within⟩
  by_cases some : step.token.start < line.length
  · refine .inl ⟨⟨reads.start_le, marked some, ?_⟩,
      fun place mark => (first place mark).1⟩
    intro later member literal taken
    rw [List.mem_singleton.mp member, none] at taken
    cases taken
  · have start_eq : step.token.start = line.length := by
      have order := reads.stop_le
      omega
    refine .inr ⟨Set.eq_empty_of_forall_notMem fun place mark => ?_, start_eq⟩
    have between := first place mark
    omega

/-- The end of the line takes up what is left of it. -/
theorem TakesStep.tiles_last
    (takes : TakesStep line offset step)
    (inside : offset ≤ line.length)
    (last : step.token.kind = .endOfLine) :
    Tiles line offset [step] := by
  obtain ⟨reads, -, ⟨none, same⟩ | ⟨literal, -, quoted, -⟩⟩ :=
    takes.stop_spec inside
  · obtain ⟨stop_eq, marked⟩ := reads.ending last
    have order := reads.stop_le.1
    constructor
    case length_le => simpa using inside
    case inside =>
      simp only [List.mem_singleton, forall_eq, same]
      exact ⟨reads.start_le, reads.stop_le⟩
    case apart => exact List.pairwise_singleton _ _
    case values => simpa using reads.value_eq
    case blank => simpa [tiles] using reads.blank
    case nonempty => simp
    case maximal => simp [last]
    case ending =>
      exact ⟨[], step, rfl, by simp, last, stop_eq,
        reads.isLeast_or_eq_empty last none⟩
    case whole =>
      have front := textBetween_append_drop line reads.start_le
      have back := textBetween_append_drop line order
      rw [stop_eq, List.drop_length, List.append_nil] at back
      simp only [tiles, List.flatMap_cons, List.flatMap_nil, List.append_nil, same,
        stop_eq, back, front]
  · rw [last] at quoted
    cases quoted

/-- A step in front of a tiling of what it leaves makes a tiling. -/
theorem TakesStep.tiles_cons
    (takes : TakesStep line offset step)
    (inside : offset ≤ line.length)
    (inner : step.token.kind ≠ .endOfLine)
    (later : Tiles line step.stop steps) :
    Tiles line offset (step :: steps) := by
  have further := takes.start_lt_stop inside inner
  have marks := commentMarks_cons takes inside inner steps
  obtain ⟨reads, stop_le, stops⟩ := takes.stop_spec inside
  have start_le := reads.start_le
  constructor
  case length_le =>
    have rest := later.length_le
    rw [List.length_cons]
    omega
  case inside =>
    rw [List.forall_mem_cons]
    refine ⟨⟨start_le, (Nat.le_of_lt further), stop_le⟩, fun next member => ?_⟩
    have behind := later.inside next member
    exact ⟨by omega, behind.2⟩
  case apart =>
    exact .cons (fun next member => (later.inside next member).1) later.apart
  case values => exact List.forall_mem_cons.mpr ⟨reads.value_eq, later.values⟩
  case blank => exact List.forall_mem_cons.mpr ⟨reads.blank, later.blank⟩
  case nonempty =>
    obtain ⟨front, last, rfl, -⟩ := later.ending
    rw [← List.cons_append, List.dropLast_concat]
    refine List.forall_mem_cons.mpr ⟨further, ?_⟩
    simpa using later.nonempty
  case maximal =>
    refine List.forall_mem_cons.mpr ⟨fun word => ?_, later.maximal⟩
    rcases stops with ⟨-, same⟩ | ⟨literal, -, quoted, -⟩
    · rw [same]
      exact reads.maximal word
    · rw [word] at quoted
      cases quoted
  case ending =>
    obtain ⟨front, last, rfl, plain, ending, stop_eq, start⟩ := later.ending
    rw [marks]
    exact ⟨step :: front, last, rfl, List.forall_mem_cons.mpr ⟨inner, plain⟩,
      ending, stop_eq, start⟩
  case whole =>
    have front := textBetween_append_drop line start_le
    have back := textBetween_append_drop line (Nat.le_of_lt further)
    rw [tiles, List.flatMap_cons, later.whole, List.append_assoc, back, front]

/-- A walk tiles its line from where it begins. -/
theorem Walks.tiles
    (walks : Walks line offset steps)
    (inside : offset ≤ line.length) :
    Tiles line offset steps := by
  induction walks with
  | ends takes last => exact takes.tiles_last inside last
  | goesOn takes inner later induction =>
      exact takes.tiles_cons inside inner
        (induction (takes.stop_spec inside).2.1)

/--
The walk from the beginning of a line comes to an end; there is no other walk; and
its steps tile the line.
-/
theorem walks_iff_and_tiles_walk
    (line : List Char) :
    (∀ steps, Walks line 0 steps ↔ steps = walk line) ∧
      Tiles line 0 (walk line) := by
  have walks : Walks line 0 (walk line) := walks_walkFrom [] line
  refine ⟨fun steps => ⟨walks.unique, ?_⟩, walks.tiles (Nat.zero_le _)⟩
  rintro rfl
  exact walks

end Delimit
