import Delimit.Yaml.Meaning
import Mathlib.Data.List.TakeWhile

/-!
# Numbers in documents

A number is written by its decimal digits, which are read as the whole number that they
write.  Numbers in base 8 begin with a zero, which only zero itself does here.  Digits
that are too many are no number.
-/

namespace Delimit.Yaml

/-- The decimal digits of a number. -/
def IsDecimal
    (digits : List Char) :
    Prop :=
  digits ≠ [] ∧ ∀ digit ∈ digits, digit.isDigit = true

theorem isDecimal_toDigits
    (number : Nat) :
    IsDecimal (Nat.toDigits 10 number) :=
  ⟨Nat.toDigits_ne_nil, fun _ member =>
    Nat.isDigit_of_mem_toDigits (by decide) (by decide) member⟩

/-- Only zero begins with a zero. -/
theorem head?_toDigits
    {number : Nat}
    (positive : 0 < number) :
    (Nat.toDigits 10 number).head? ≠ some '0' := by
  induction number using Nat.strongRecOn with
  | ind number induction =>
      by_cases small : number < 10
      · rw [Nat.toDigits_of_lt_base small, List.head?_cons]
        have digits : ∀ digit < 10, 0 < digit → some digit.digitChar ≠ some '0' := by decide
        exact digits number small positive
      · have whole : 10 ≤ number := Nat.not_lt.mp small
        have front := induction (number / 10) (Nat.div_lt_self positive (by decide))
          (Nat.div_pos whole (by decide))
        have filled : Nat.toDigits 10 (number / 10) ≠ [] := Nat.toDigits_ne_nil
        rw [Nat.toDigits_of_base_le (by decide) whole]
        generalize Nat.toDigits 10 (number / 10) = digits at *
        cases digits with
        | nil => contradiction
        | cons digit rest => exact front

section

variable
    {digits : List Char}
    (decimal : IsDecimal digits)

include decimal

theorem IsDecimal.not_mem
    {character : Char}
    (other : character.isDigit = false) :
    character ∉ digits := by
  intro member
  rw [decimal.2 character member] at other
  contradiction

theorem IsDecimal.head?_ne
    {character : Char}
    (other : character.isDigit = false) :
    digits.head? ≠ some character :=
  fun first => decimal.not_mem other (List.mem_of_head? first)

theorem dropSign_decimal : Tag.dropSign digits = digits := by
  unfold Tag.dropSign
  split
  · exact absurd rfl (decimal.head?_ne (by decide))
  · exact absurd rfl (decimal.head?_ne (by decide))
  · rfl

/-- No word is written by digits. -/
theorem not_mem_words
    (words : List (List Char))
    (spelled : ∀ word ∈ words, word.all Char.isDigit = false ∨ word = []) :
    digits ∉ words := by
  intro member
  rcases spelled digits member with letters | empty
  · have all : digits.all Char.isDigit = true := List.all_eq_true.mpr decimal.2
    rw [all] at letters
    contradiction
  · exact decimal.1 empty

theorem isReal_decimal : Tag.isReal digits = false := by
  have pointless : digits.dropWhile (· != '.') = [] := by
    rw [List.dropWhile_eq_nil_iff]
    intro digit member
    have : digit ≠ '.' := by
      rintro rfl
      exact decimal.not_mem (by decide) member
    simpa using this
  unfold Tag.isReal
  rw [dropSign_decimal decimal]
  simp only [pointless]

end

theorem isInt_toDigits
    (number : Nat) :
    Tag.isInt (Nat.toDigits 10 number) = true := by
  rcases Nat.eq_zero_or_pos number with rfl | positive
  · decide
  · have decimal := isDecimal_toDigits number
    have first := head?_toDigits positive
    unfold Tag.isInt
    rw [dropSign_decimal decimal]
    generalize Nat.toDigits 10 number = digits at *
    obtain ⟨digit, rest, rfl⟩ := List.exists_cons_of_ne_nil decimal.1
    have nonzero : digit ≠ '0' := fun zero => first (by rw [zero]; rfl)
    have all : rest.all Tag.isDigitOrLow = true := by
      rw [List.all_eq_true]
      intro other member
      rw [Tag.isDigitOrLow, decimal.2 other (List.mem_cons_of_mem _ member)]
      rfl
    -- A digit above zero begins none of the forms with a base.
    simp [nonzero, Tag.isPositiveDigits, decimal.2 digit List.mem_cons_self, all]

/-- Digits are read as a whole number. -/
theorem ofPlain_toDigits
    (number : Nat) :
    Tag.ofPlain (Nat.toDigits 10 number) = .int := by
  have decimal := isDecimal_toDigits number
  have last : (Nat.toDigits 10 number).getLast? ≠ some '\n' :=
    fun last => decimal.not_mem (by decide) (List.mem_of_getLast? last)
  have trueWord := not_mem_words decimal Tag.trueWords (by decide)
  have falseWord := not_mem_words decimal Tag.falseWords (by decide)
  unfold Tag.ofPlain
  simp [last, trueWord, falseWord, isReal_decimal decimal, isInt_toDigits]

/-! ## Values -/

section

variable
    {digit : Char}
    (isDigit : digit.isDigit = true)

include isDigit

theorem toNat_digit :
    48 ≤ digit.toNat ∧ digit.toNat ≤ 57 := by
  exact Char.isDigit_iff_toNat.mp isDigit

theorem digitValue?_digit :
    Meaning.digitValue? digit = some (digit.toNat - '0'.toNat) := by
  have found : Text.zeroCodes.find?
      (fun first => first ≤ digit.toNat && digit.toNat < first + 10) = some 0x30 := by
    obtain ⟨least, most⟩ := toNat_digit isDigit
    rw [Text.zeroCodes, List.find?_cons_of_pos]
    simp
    omega
  rw [Meaning.digitValue?, Text.digitValue?, found]
  rfl

theorem isBlank_digit :
    Text.isBlank digit = false := by
  obtain ⟨least, most⟩ := toNat_digit isDigit
  simp [Text.isBlank, Text.Ranges.contains, Text.Ranges.holds, Text.blankRanges]
  omega

end

section

variable
    {digits : List Char}
    (decimal : IsDecimal digits)

include decimal

theorem naturalOf?_decimal :
    Meaning.naturalOf? 10 digits = some (Nat.ofDigitChars 10 digits 0) := by
  have fold (digits : List Char) (all : ∀ digit ∈ digits, digit.isDigit = true) (total : Nat) :
      digits.foldlM
          (fun total digit => do
            let value ← Meaning.digitValue? digit
            if value < 10 then some (total * 10 + value) else none)
          total =
        some (Nat.ofDigitChars 10 digits total) := by
    induction digits generalizing total with
    | nil => rfl
    | cons digit rest induction =>
        obtain ⟨isDigit, later⟩ := List.forall_mem_cons.mp all
        have small : digit.toNat - '0'.toNat < 10 := by
          have := (toNat_digit isDigit).2
          change digit.toNat - 48 < 10
          omega
        rw [List.foldlM_cons, digitValue?_digit isDigit]
        simp only [bind, Option.bind, if_pos small]
        rw [Nat.ofDigitChars_cons, Nat.mul_comm 10]
        exact induction later _
  rw [Meaning.naturalOf?, if_neg (by simpa using decimal.1)]
  exact fold digits decimal.2 0

theorem strip_decimal :
    Text.strip digits = digits := by
  have kept (text : List Char) (all : ∀ digit ∈ text, digit.isDigit = true) :
      text.dropWhile Text.isBlank = text := by
    cases text with
    | nil => rfl
    | cons digit rest =>
        rw [List.dropWhile_cons_of_neg]
        simpa using isBlank_digit (all digit List.mem_cons_self)
  have reversed : ∀ digit ∈ digits.reverse, digit.isDigit = true :=
    fun digit member => decimal.2 digit (List.mem_reverse.mp member)
  rw [Text.strip, kept digits decimal.2, kept _ reversed, List.reverse_reverse]

end

theorem length_toDigits_le
    {number limit : Nat}
    (positive : 0 < limit)
    (short : ¬ Nat.pow 10 limit ≤ number) :
    (Nat.toDigits 10 number).length ≤ limit :=
  (Nat.length_toDigits_le_iff (by decide) positive).mpr (Nat.not_le.mp short)

theorem intOf?_toDigits
    {number : Nat}
    (short : (Scalar.int number).isTooLong = false) :
    Meaning.intOf? 10 (Nat.toDigits 10 number) = some (number : Int) := by
  have decimal := isDecimal_toDigits number
  rw [Scalar.isTooLong, decide_eq_false_iff_not, Int.natAbs_natCast] at short
  have length := length_toDigits_le (by decide) short
  have bare : Meaning.dropBaseMark 10 (Nat.toDigits 10 number) = Nat.toDigits 10 number := by
    unfold Meaning.dropBaseMark
    split <;> rfl
  have signless := @IsDecimal.head?_ne _ decimal '-' (by decide)
  unfold Meaning.intOf?
  simp only [strip_decimal decimal, dropSign_decimal decimal, bare]
  simp [Nat.not_lt.mpr length, naturalOf?_decimal decimal, Nat.ofDigitChars_ten_toDigits, signless]

/-- The digits of a number stand for it, unless they are too many. -/
theorem int_toDigits
    {number : Nat}
    (short : (Scalar.int number).isTooLong = false) :
    Meaning.int (Nat.toDigits 10 number) = .ok number := by
  rcases Nat.eq_zero_or_pos number with rfl | positive
  · decide
  · have decimal := isDecimal_toDigits number
    have first := head?_toDigits positive
    have value := intOf?_toDigits short
    have whole : (Nat.toDigits 10 number).filter (· != '_') = Nat.toDigits 10 number := by
      rw [List.filter_eq_self]
      intro digit member
      have : digit ≠ '_' := by
        rintro rfl
        exact decimal.not_mem (by decide) member
      simpa using this
    have signless := @IsDecimal.head?_ne _ decimal '-' (by decide)
    have single : (Nat.toDigits 10 number).contains ':' = false := by
      simpa using @IsDecimal.not_mem _ decimal ':' (by decide)
    unfold Meaning.int
    simp only [whole, dropSign_decimal decimal]
    generalize Nat.toDigits 10 number = digits at *
    obtain ⟨digit, rest, rfl⟩ := List.exists_cons_of_ne_nil decimal.1
    have nonzero : digit ≠ '0' := fun zero => first (by rw [zero]; rfl)
    have unsigned : digit ≠ '-' := fun minus => signless (by rw [minus]; rfl)
    rw [if_neg (by simp)]
    simp only [single, Bool.false_eq_true, if_false]
    -- A digit above zero begins none of the other forms.
    simp [nonzero, unsigned, value]

end Delimit.Yaml
