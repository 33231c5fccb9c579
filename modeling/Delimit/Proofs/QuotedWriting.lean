import Delimit.Proofs.QuotedReading
import Delimit.Proofs.WrittenRuns
import Mathlib.Data.Nat.Digits.Defs

/-!
# Quoted texts are read back

Between single quotes a text is written run by run, and a reader restores a run from
what is written for it and the first character behind it.  Between double quotes a
text is written character by character; characters that stand for themselves are held
back until a line can be broken before them, so the statement about what is written
so far speaks of every beginning that stands for itself.
-/

namespace Delimit.Yaml.Written

open Delimit.Yaml.Flow (Spells BeginsInside)

/-! ## Between single quotes -/

theorem spells_doubleQuotes
    {tail characters : List Char}
    (inner : ∀ character ∈ characters, isSeparator character = false)
    {written text : List Char}
    (spells : Spells .single tail written text) :
    Spells .single tail (doubleQuotes characters ++ written) (characters ++ text) := by
  induction characters with
  | nil => exact spells
  | cons character characters induction =>
      have later := induction fun other member => inner other (List.mem_cons_of_mem _ member)
      rw [doubleQuotes, List.flatMap_cons, ← doubleQuotes, List.append_assoc]
      by_cases quote : character = '\''
      · subst quote
        rw [if_pos (by rfl)]
        exact .piece ['\'', '\''] ['\''] (by simp) (Flow.readsAs_quoteTwice _) later
      · rw [if_neg (by simpa using quote)]
        exact .piece [character] [character] (by simp)
          (Flow.readsAs_character .single (inner _ List.mem_cons_self) quote nofun _) later

theorem beginsInside_doubleQuotes
    {characters : List Char}
    (proper : (Run.word characters).IsProper)
    (rest : List Char) :
    BeginsInside (doubleQuotes characters ++ rest) := by
  obtain ⟨character, later, rfl⟩ := List.exists_cons_of_ne_nil proper.1
  rw [doubleQuotes, List.flatMap_cons]
  split
  · exact ⟨_, _, rfl, by decide⟩
  · exact ⟨_, _, rfl, proper.2 _ List.mem_cons_self⟩

/-- What is written from a word on, or at the end, begins inside a line. -/
theorem beginsInside_singleRuns
    {runs : List Run}
    (alternates : Alternates runs)
    (word : ∀ next ∈ runs.head?, next.isWord = true)
    (indent column : Nat)
    (first : Bool)
    (tail : List Char) :
    BeginsInside (singleRuns indent first runs column ++ tail) := by
  cases runs with
  | nil => exact ⟨'\'', tail, rfl, by decide⟩
  | cons run rest =>
      cases run with
      | spaces count => exact absurd (word _ rfl) (by simp [Run.isWord])
      | breaks characters => exact absurd (word _ rfl) (by simp [Run.isWord])
      | word characters =>
          rw [singleRuns]
          dsimp only [inline]
          rw [List.append_assoc]
          exact beginsInside_doubleQuotes alternates.head.1 _

theorem breakLines_text
    {first : Char}
    (other : first ≠ '\n')
    (indent : Nat)
    (later : List Char) :
    (breakLines indent (first :: later)).text =
      first :: (later ++ List.replicate indent ' ') := by
  simp [breakLines, other]

/-- Line breaks are written so that they are read back as they are unified. -/
theorem spells_breakLines
    {indent : Nat}
    (indented : 0 < indent)
    {characters : List Char}
    (proper : (Run.breaks characters).IsProper)
    {tail written text : List Char}
    (inside : BeginsInside written)
    (spells : Spells .single tail written text) :
    Spells .single tail ((breakLines indent characters).text ++ written)
      ((Run.breaks characters).readBack ++ text) := by
  have piece :
      ∀ {first : Char} {later : List Char},
        isBreak first = true →
        (∀ character ∈ later, isBreak character = true) →
        Spells .single tail (first :: (later ++ List.replicate indent ' ') ++ written)
          (Plain.foldedBreaks (unifiedBreak first) (later.map unifiedBreak) ++ text) :=
    fun breaks breaking =>
      .piece _ _ (List.cons_ne_nil _ _)
        (Flow.readsAs_breaks .single breaks breaking indented inside) spells
  obtain ⟨filled, breaking⟩ := proper
  obtain ⟨first, later, rfl⟩ := List.exists_cons_of_ne_nil filled
  have breaks := breaking _ List.mem_cons_self
  have laterBreaks : ∀ character ∈ later, isBreak character = true :=
    fun other member => breaking other (List.mem_cons_of_mem _ member)
  by_cases feed : first = '\n'
  · -- the line feed in front is written twice, so that it is not taken for a folded line
    subst feed
    have doubled : isBreak '\n' = true := rfl
    exact piece doubled breaking
  · rw [breakLines_text feed]
    have folded := piece breaks laterBreaks
    by_cases nextLine : first = '\u0085'
    · subst nextLine
      exact folded
    · have kept : unifiedBreak first = first := unifiedBreak_of_ne breaks nextLine
      rw [kept, Plain.foldedBreaks, if_pos (by simpa using feed)] at folded
      have back : (Run.breaks (first :: later)).readBack =
          first :: later.map unifiedBreak := by
        unfold Run.readBack
        split
        · rename_i equality
          exact absurd (List.cons.inj (Run.breaks.inj equality)).1 nextLine
        · rename_i equality
          rw [← Run.breaks.inj equality, List.map_cons, kept]
        · rename_i unbroken
          exact (unbroken _ rfl).elim
      rw [back]
      exact folded

/-- Alternating runs between single quotes spell what is read back of them. -/
theorem spells_singleRuns
    {indent : Nat}
    (indented : 0 < indent)
    {tail : List Char}
    (alone : tail.head? ≠ some '\'')
    {runs : List Run}
    (alternates : Alternates runs)
    (first : Bool)
    (column : Nat) :
    Spells .single tail (singleRuns indent first runs column ++ tail)
      (runs.flatMap Run.readBack) := by
  induction alternates generalizing first column with
  | nil => exact .closes fun _ => alone
  | @cons run rest proper changes alternates induction =>
      rw [List.flatMap_cons]
      cases run with
      | spaces count =>
          have inside := beginsInside_singleRuns alternates changes indent
          rw [singleRuns]
          split
          · rename_i folds
            have single : count = 1 := by
              simp only [foldsAt, Bool.and_eq_true, beq_iff_eq] at folds
              exact folds.1.1.1
            subst single
            rw [List.append_assoc]
            have broken : isBreak '\n' = true := rfl
            exact .piece ('\n' :: List.replicate indent ' ') [' '] (List.cons_ne_nil _ _)
              (Flow.readsAs_breaks .single broken (fun _ member => absurd member List.not_mem_nil)
                indented (inside _ false tail))
              (induction false _)
          · rw [List.append_assoc]
            have filled : List.replicate count ' ' ≠ [] := by
              simpa using Nat.pos_iff_ne_zero.mp proper
            exact .piece _ _ filled (Flow.readsAs_spaces .single proper (inside _ false tail))
              (induction false _)
      | breaks characters =>
          rw [singleRuns]
          rw [List.append_assoc]
          exact spells_breakLines indented proper
            (beginsInside_singleRuns alternates changes indent _ false tail)
            (induction false _)
      | word characters =>
          rw [singleRuns]
          dsimp only [inline]
          rw [List.append_assoc]
          exact spells_doubleQuotes proper.2 (induction false _)

/-! ## Hexadecimal digits -/

/-- The upper-case digit of a number below 16. -/
theorem upperDigit
    {number : Nat}
    (small : number < 16) :
    isHexDigit number.digitChar.toUpper = true ∧
      hexDigitValue number.digitChar.toUpper = number := by
  revert number
  decide

theorem hexValue_append
    (digits : List Char)
    (digit : Char) :
    hexValue (digits ++ [digit]) = hexValue digits * 16 + hexDigitValue digit := by
  rw [hexValue, List.foldl_append]
  rfl

theorem hexValue_toDigits
    (number : Nat) :
    (∀ digit ∈ (Nat.toDigits 16 number).map Char.toUpper, isHexDigit digit = true) ∧
      hexValue ((Nat.toDigits 16 number).map Char.toUpper) = number := by
  induction number using Nat.strong_induction_on with
  | _ number induction =>
      rw [Nat.toDigits_eq_if (by decide)]
      split
      · rename_i small
        have ⟨digit, value⟩ := upperDigit small
        refine ⟨by simpa using digit, ?_⟩
        rw [List.map_singleton, hexValue, List.foldl_cons, List.foldl_nil, value]
        exact Nat.zero_add number
      · rename_i large
        have ⟨digit, value⟩ := upperDigit (Nat.mod_lt number (by decide : 0 < 16))
        have ⟨digits, front⟩ := induction (number / 16) (by omega)
        rw [List.map_append, List.map_singleton, hexValue_append, front, value]
        refine ⟨?_, Nat.div_add_mod' number 16⟩
        intro other member
        rcases List.mem_append.mp member with early | last
        · exact digits other early
        · rwa [List.mem_singleton.mp last]

theorem upperHex_eq
    (width number : Nat) :
    upperHex width number =
      List.replicate (width - (Nat.toDigits 16 number).length) '0' ++
        (Nat.toDigits 16 number).map Char.toUpper := by
  rw [upperHex, Text.paddedHex, List.map_append, List.map_replicate]
  rfl

theorem hexValue_zeros
    (count : Nat)
    (digits : List Char) :
    hexValue (List.replicate count '0' ++ digits) = hexValue digits := by
  induction count with
  | zero => rfl
  | succ count induction =>
      rw [List.replicate_succ, List.cons_append, ← induction]
      rfl

/-- Padded digits of a number that fits their width write the number. -/
theorem code?_upperHex
    {width number : Nat}
    (positive : 0 < width)
    (fits : number < 16 ^ width)
    (rest : List Char) :
    (upperHex width number).length = width ∧
      Flow.code? width (upperHex width number ++ rest) = some number := by
  have ⟨digits, value⟩ := hexValue_toDigits number
  have short : (Nat.toDigits 16 number).length ≤ width :=
    (Nat.length_toDigits_le_iff (by decide) positive).mpr fits
  have complete : (upperHex width number).length = width := by
    rw [upperHex_eq, List.length_append, List.length_replicate, List.length_map]
    omega
  have hex : (upperHex width number).all isHexDigit = true := by
    rw [upperHex_eq, List.all_append, Bool.and_eq_true]
    refine ⟨?_, List.all_eq_true.mpr digits⟩
    exact List.all_eq_true.mpr fun digit member => by
      rw [List.eq_of_mem_replicate member]
      decide
  refine ⟨complete, ?_⟩
  rw [Flow.code?, List.take_left' complete, complete, hex, upperHex_eq, hexValue_zeros, value]
  simp

/-! ## Between double quotes -/

theorem namedEscape?_of_escapeLetter?
    {character letter : Char}
    (escaped : escapeLetter? character = some letter) :
    Flow.namedEscape? letter = some character := by
  unfold escapeLetter? at escaped
  split at escaped <;> first
    | contradiction
    | (rw [← Option.some.inj escaped]; rfl)

/-- The number of a character is read back as the character. -/
theorem numberedEscape_upperHex
    (letter character : Char)
    {width : Nat}
    (positive : 0 < width)
    (fits : character.toNat < 16 ^ width)
    (rest : List Char) :
    Flow.numberedEscape letter width (upperHex width character.toNat ++ rest) =
      .ok (character, width) := by
  have valid : character.toNat < 0xD800 ∨
      0xDFFF < character.toNat ∧ character.toNat < 0x110000 := character.valid
  have below : ¬ 0x80000000 ≤ character.toNat := by omega
  have inside : ¬ 0x10FFFF < character.toNat := by omega
  have high : Flow.isHighHalf character.toNat = false := by
    simp only [Flow.isHighHalf, Bool.and_eq_false_iff, decide_eq_false_iff_not]
    omega
  have low : Flow.isLowHalf character.toNat = false := by
    simp only [Flow.isLowHalf, Bool.and_eq_false_iff, decide_eq_false_iff_not]
    omega
  rw [Flow.numberedEscape, (code?_upperHex positive fits rest).2]
  simp [below, inside, high, low]

theorem readsAs_escape
    (character : Char)
    (rest : List Char) :
    Flow.ReadsAs .double (escape character) rest [character] := by
  unfold escape
  split
  · rename_i letter named
    exact Flow.readsAs_named (namedEscape?_of_escapeLetter? named) rest
  · have numbered :
        ∀ {letter : Char} {width : Nat},
          Flow.namedEscape? letter = none →
          Flow.codeLength? letter = some width →
          0 < width →
          character.toNat < 16 ^ width →
          Flow.ReadsAs .double ('\\' :: letter :: upperHex width character.toNat) rest
            [character] :=
      fun unnamed coded positive fits =>
        Flow.readsAs_numbered unnamed coded (code?_upperHex positive fits rest).1
          (numberedEscape_upperHex _ character positive fits rest)
    have valid : character.toNat < 0x110000 := by
      have := character.valid
      unfold UInt32.isValidChar Nat.isValidChar at this
      change character.val.toNat < _
      omega
    dsimp only
    split
    · exact numbered rfl rfl (by decide) (by omega)
    · split
      · exact numbered rfl rfl (by decide) (by omega)
      · exact numbered rfl rfl (by decide) (by omega)

theorem eq_space_or_inner_of_isVerbatim
    {character : Char}
    (verbatim : isVerbatim character = true) :
    character = ' ' ∨ isSeparator character = false := by
  by_cases separates : isSeparator character = true
  · left
    simp only [isSeparator, isSpaceOrTab, isBreak, Bool.or_eq_true, beq_iff_eq] at separates
    rcases separates with (rfl | rfl) | ((rfl | rfl) | rfl) | rfl
    · rfl
    all_goals exact absurd verbatim (by decide)
  · exact .inr (by simpa using separates)

theorem ne_of_isVerbatim
    {character : Char}
    (verbatim : isVerbatim character = true) :
    character ≠ '"' ∧ character ≠ '\\' := by
  simp only [isVerbatim, Bool.and_eq_true, bne_iff_ne] at verbatim
  exact verbatim.1

theorem spells_spaces
    {style : Flow.Style}
    {tail written text : List Char}
    (inside : BeginsInside written)
    (spells : Spells style tail written text)
    (count : Nat) :
    Spells style tail (List.replicate count ' ' ++ written)
      (List.replicate count ' ' ++ text) := by
  cases count with
  | zero => exact spells
  | succ count =>
      exact .piece _ _ (by simp) (Flow.readsAs_spaces style (Nat.succ_pos count) inside) spells

/-- Characters that stand for themselves, behind spaces. -/
theorem spells_spaces_verbatim
    {tail written text : List Char}
    (inside : BeginsInside written)
    (spells : Spells .double tail written text)
    {before : List Char}
    (verbatim : ∀ character ∈ before, isVerbatim character = true)
    (count : Nat) :
    Spells .double tail (List.replicate count ' ' ++ (before ++ written))
      (List.replicate count ' ' ++ (before ++ text)) := by
  induction before generalizing count with
  | nil => exact spells_spaces inside spells count
  | cons character before induction =>
      have here := verbatim character List.mem_cons_self
      have later := induction fun other member => verbatim other (List.mem_cons_of_mem _ member)
      rcases eq_space_or_inner_of_isVerbatim here with rfl | inner
      · -- a space joins the spaces in front of it, which are read as one piece
        have joined := later (count + 1)
        rwa [List.replicate_succ', List.append_assoc, List.append_assoc] at joined
      · refine spells_spaces ⟨character, _, rfl, inner⟩ ?_ count
        have ⟨unquoted, literal⟩ := ne_of_isVerbatim here
        exact .piece [character] [character] (by simp)
          (Flow.readsAs_character .double inner unquoted (fun _ => literal) _) (later 0)

theorem spells_verbatim
    {tail written text : List Char}
    (inside : BeginsInside written)
    (spells : Spells .double tail written text)
    {before : List Char}
    (verbatim : ∀ character ∈ before, isVerbatim character = true) :
    Spells .double tail (before ++ written) (before ++ text) :=
  spells_spaces_verbatim inside spells verbatim 0

theorem foldedLine_text
    (indent : Nat)
    (next : Option Char) :
    ∃ rest, (foldedLine indent next).text = '\\' :: rest := by
  unfold foldedLine
  dsimp only
  split <;> exact ⟨_, rfl⟩

/-- A broken line goes on as if it had not been broken. -/
theorem spells_foldedLine
    {indent : Nat}
    (indented : 0 < indent)
    {next : Option Char}
    (unspaced : next ≠ some ' ')
    {tail written text : List Char}
    (inside : BeginsInside written)
    (spells : Spells .double tail written text) :
    Spells .double tail ((foldedLine indent next).text ++ written) text := by
  rw [foldedLine, if_neg (by simpa using unspaced)]
  exact .piece _ [] (List.cons_ne_nil _ _) (Flow.readsAs_joined indented inside) spells

/-- A space at the beginning of a broken line is marked, so that it is kept. -/
theorem spells_foldedLine_space
    {indent : Nat}
    (indented : 0 < indent)
    {tail written text : List Char}
    (spells : Spells .double tail written text) :
    Spells .double tail ((foldedLine indent (some ' ')).text ++ ' ' :: written)
      (' ' :: text) := by
  have marked : Spells .double tail ('\\' :: ' ' :: written) (' ' :: text) :=
    .piece ['\\', ' '] [' '] (by simp) (Flow.readsAs_named rfl written) spells
  have joined : Spells .double tail
      ('\\' :: '\n' :: List.replicate indent ' ' ++ '\\' :: ' ' :: written) (' ' :: text) :=
    .piece _ [] (List.cons_ne_nil _ _)
      (Flow.readsAs_joined indented ⟨'\\', _, rfl, by decide⟩) marked
  simpa [foldedLine, newLine] using joined

/-- What is written for a text begins with the text, a backslash or the closing quote. -/
def Opens
    (text written : List Char) :
    Prop :=
  ∃ character rest,
    written = character :: rest ∧
      (character = '"' ∨ character = '\\' ∨
        isVerbatim character = true ∧ text.head? = some character)

theorem Opens.beginsInside
    {text written : List Char}
    (opens : Opens text written)
    (unspaced : text.head? ≠ some ' ')
    (tail : List Char) :
    BeginsInside (written ++ tail) := by
  obtain ⟨character, rest, rfl, begins⟩ := opens
  refine ⟨character, rest ++ tail, rfl, ?_⟩
  rcases begins with rfl | rfl | ⟨verbatim, head⟩
  · decide
  · decide
  · rcases eq_space_or_inner_of_isVerbatim verbatim with rfl | inner
    · exact absurd head unspaced
    · exact inner

/--
However a text between double quotes was begun, what is written for it spells it,
also behind characters that stand for themselves.
-/
def Continues
    (indent : Nat)
    (tail text : List Char) :
    Prop :=
  ∀ (first : Bool) (pending : List Char) (column : Nat),
    ∃ written,
      doubleRest indent first pending text column = pending.reverse ++ written ∧
        Opens text written ∧
        ∀ before : List Char,
          (∀ character ∈ before, isVerbatim character = true) →
            Spells .double tail (before ++ (written ++ tail)) (before ++ text)

section

variable {indent : Nat} {tail : List Char}

theorem continues_nil :
    Continues indent tail [] := by
  intro first pending column
  refine ⟨['"'], rfl, ⟨'"', [], rfl, .inl rfl⟩, fun before verbatim => ?_⟩
  exact spells_verbatim ⟨'"', tail, rfl, by decide⟩ (.closes nofun) verbatim

theorem Continues.cons_verbatim
    (indented : 0 < indent)
    {character : Char}
    (verbatim : isVerbatim character = true)
    {rest : List Char}
    (continues : Continues indent tail rest) :
    Continues indent tail (character :: rest) := by
  intro first pending column
  rw [doubleRest]
  dsimp only
  rw [if_pos verbatim]
  split
  · obtain ⟨written, equality, -, spells⟩ :=
      continues false [character] (foldedLine indent (some character)).column
    refine ⟨(foldedLine indent (some character)).text ++ character :: written, ?_, ?_, ?_⟩
    · rw [equality, List.append_assoc]
      rfl
    · obtain ⟨line, backslash⟩ := foldedLine_text indent (some character)
      exact ⟨'\\', _, by rw [backslash]; rfl, .inr (.inl rfl)⟩
    · intro before beforeVerbatim
      rw [List.append_assoc]
      refine spells_verbatim ?_ ?_ beforeVerbatim
      · obtain ⟨line, backslash⟩ := foldedLine_text indent (some character)
        exact ⟨'\\', _, by rw [backslash]; rfl, by decide⟩
      · by_cases space : character = ' '
        · subst space
          exact spells_foldedLine_space indented (spells [] (by simp))
        · have inner := (eq_space_or_inner_of_isVerbatim verbatim).resolve_left space
          exact spells_foldedLine indented (by simpa using space) ⟨_, _, rfl, inner⟩
            (spells [character] (by simpa using verbatim))
  · obtain ⟨written, equality, -, spells⟩ := continues false (character :: pending) column
    refine ⟨character :: written, ?_, ⟨_, _, rfl, .inr (.inr ⟨verbatim, rfl⟩)⟩, ?_⟩
    · rw [equality, List.reverse_cons, List.append_assoc]
      rfl
    · intro before beforeVerbatim
      have further := spells (before ++ [character]) (by
        intro other member
        rcases List.mem_append.mp member with early | last
        · exact beforeVerbatim other early
        · rwa [List.mem_singleton.mp last])
      rwa [List.append_assoc, List.append_assoc] at further

theorem escape_ne_nil
    (character : Char) :
    ∃ rest, escape character = '\\' :: rest := by
  unfold escape
  split
  · exact ⟨_, rfl⟩
  · dsimp only
    split
    · exact ⟨_, rfl⟩
    · split <;> exact ⟨_, rfl⟩

/-- At the beginning of a broken line, a space is not held back for another break. -/
theorem doubleRest_space
    (narrow : indent + 1 ≤ lineWidth)
    (rest : List Char) :
    doubleRest indent false [] (' ' :: rest) (indent + 1) =
      doubleRest indent false [' '] rest (indent + 1) := by
  rw [doubleRest]
  dsimp only
  rw [if_pos (by decide), if_neg (by simpa using fun _ => narrow)]

theorem Continues.cons_escaped
    (indented : 0 < indent)
    (narrow : indent + 1 ≤ lineWidth)
    {character : Char}
    (escaped : isVerbatim character = false)
    {rest : List Char}
    (continues : Continues indent tail rest)
    (behindSpace : ∀ later, rest = ' ' :: later → Continues indent tail later) :
    Continues indent tail (character :: rest) := by
  obtain ⟨escapeRest, backslash⟩ := escape_ne_nil character
  -- An escape is a piece of its own, whatever it is written behind and in front of.
  have spelled :
      ∀ {written text : List Char},
        Spells .double tail (written ++ tail) text →
        ∀ before : List Char,
          (∀ other ∈ before, isVerbatim other = true) →
            Spells .double tail (before ++ (escape character ++ written ++ tail))
              (before ++ character :: text) := by
    intro written text spells before verbatim
    refine spells_verbatim ?_ ?_ verbatim
    · exact ⟨'\\', escapeRest ++ written ++ tail, by rw [backslash]; rfl, by decide⟩
    · rw [List.append_assoc]
      exact .piece _ [character] (by rw [backslash]; exact List.cons_ne_nil _ _)
        (readsAs_escape character _) spells
  have opens : ∀ written, Opens (character :: rest) (escape character ++ written) :=
    fun written => ⟨'\\', escapeRest ++ written, by rw [backslash]; rfl, .inr (.inl rfl)⟩
  intro first pending column
  rw [doubleRest]
  dsimp only
  rw [if_neg (by simp [escaped])]
  split
  · by_cases space : rest.head? = some ' '
    · obtain ⟨later, rfl⟩ := List.head?_eq_some_iff.mp space
      obtain ⟨written, equality, -, spells⟩ :=
        behindSpace later rfl false [' '] (indent + 1)
      refine ⟨escape character ++ ((foldedLine indent (some ' ')).text ++ ' ' :: written),
        ?_, opens _, ?_⟩
      · have column : (foldedLine indent (some ' ')).column = indent + 1 := rfl
        rw [List.head?_cons, column, doubleRest_space narrow, equality]
        simp only [List.append_assoc]
        rfl
      · refine spelled ?_
        rw [List.append_assoc]
        exact spells_foldedLine_space indented (spells [] (by simp))
    · obtain ⟨written, equality, begins, spells⟩ :=
        continues false [] (foldedLine indent rest.head?).column
      refine ⟨escape character ++ ((foldedLine indent rest.head?).text ++ written),
        ?_, opens _, ?_⟩
      · rw [equality]
        simp only [List.append_assoc, List.reverse_nil, List.nil_append]
      · refine spelled ?_
        rw [List.append_assoc]
        exact spells_foldedLine indented space (begins.beginsInside space tail)
          (spells [] (by simp))
  · obtain ⟨written, equality, -, spells⟩ :=
      continues false [] (column + (pending.reverse ++ escape character).length)
    refine ⟨escape character ++ written, ?_, opens _, spelled (spells [] (by simp))⟩
    rw [equality, List.append_assoc]
    rfl

/-- What is written between double quotes spells the text, from every place on. -/
theorem continues
    (indented : 0 < indent)
    (narrow : indent + 1 ≤ lineWidth)
    (text : List Char) :
    Continues indent tail text :=
  match text with
  | [] => continues_nil
  | character :: rest => by
      cases verbatim : isVerbatim character with
      | true => exact (continues indented narrow rest).cons_verbatim indented verbatim
      | false =>
          refine (continues indented narrow rest).cons_escaped indented narrow verbatim ?_
          intro later equality
          exact continues indented narrow later
termination_by text.length
decreasing_by
  · exact Nat.lt_succ_self rest.length
  · rw [equality]
    exact Nat.lt_succ_of_lt (Nat.lt_succ_self later.length)
  · exact Nat.lt_succ_self rest.length

theorem spells_doubleRest
    (indented : 0 < indent)
    (narrow : indent + 1 ≤ lineWidth)
    (text : List Char)
    (first : Bool)
    (column : Nat) :
    Spells .double tail (doubleRest indent first [] text column ++ tail) text := by
  obtain ⟨written, equality, -, spells⟩ := continues indented narrow text first [] column
  rw [equality]
  exact spells [] (by simp)

end

end Delimit.Yaml.Written
