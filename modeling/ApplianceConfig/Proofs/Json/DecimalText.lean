import ApplianceConfig.Json.Numeral
import Mathlib.Algebra.Order.Field.Rat
import Mathlib.Tactic.FieldSimp
import Mathlib.Tactic.Positivity
import Mathlib.Tactic.Ring

/-!
# The text of a decimal keeps its value

A decimal is written positionally or with an exponent, without the zeros at the end
of its digits. `Decimal.read` reads such a text back: the digits on both sides of
the point, and the exponent. What is read has the value of what was written
(`Decimal.spells_write`), so two decimals with one text have one value. The
digits themselves may differ, as `10` and `1` with a higher exponent do.

The text of a decimal also shows that it is not one of a whole number: it has a
point or an exponent (`Decimal.Spells.marked`).
-/

set_option autoImplicit false

namespace ApplianceConfig

/-! ## Digits -/

namespace Numeral

theorem natural_eq_ofDigitChars (digits : List Char) :
    natural digits = Nat.ofDigitChars 10 digits 0 := rfl

theorem natural_append (digits others : List Char) :
    natural (digits ++ others) = natural digits * 10 ^ others.length + natural others := by
  rw [natural_eq_ofDigitChars, Nat.ofDigitChars_append, Nat.ofDigitChars_eq_ofDigitChars_zero,
    Nat.mul_comm]
  rfl

theorem natural_zeros (count : Nat) : natural (List.replicate count '0') = 0 := by
  rw [natural_eq_ofDigitChars, Nat.ofDigitChars_replicate_zero, Nat.mul_zero]

theorem natural_toDigits (n : Nat) : natural (Nat.toDigits 10 n) = n :=
  Nat.ofDigitChars_ten_toDigits

/-- The decimal digits of a number are digits. -/
theorem isDigit_of_mem_toDigits {n : Nat} {c : Char} (member : c ∈ Nat.toDigits 10 n) :
    isDigit c = true := by
  have ascii := Nat.isDigit_of_mem_toDigits (by decide) (by decide) member
  simp only [Char.isDigit, Bool.and_eq_true, decide_eq_true_eq] at ascii
  simp only [isDigit, Bool.and_eq_true, decide_eq_true_eq]
  exact ascii

/-- The digits stand side by side. -/
theorem isDigit_iff {c : Char} : isDigit c = true ↔ 48 ≤ c.toNat ∧ c.toNat ≤ 57 := by
  rw [isDigit, Bool.and_eq_true, decide_eq_true_iff, decide_eq_true_iff]
  exact and_congr UInt32.le_iff_toNat_le UInt32.le_iff_toNat_le

theorem isDigit_of_mem_zero : ∀ c ∈ ['0'], isDigit c = true := by
  rintro c member
  rw [List.mem_singleton.mp member]
  decide

theorem ne_of_isDigit {c other : Char} (digit : isDigit c = true) (apart : isDigit other = false) :
    c ≠ other := by
  rintro rfl
  rw [apart] at digit
  cases digit

end Numeral

namespace Decimal

open Numeral

/-- The rational number that a decimal stands for. -/
def value (decimal : Decimal) : ℚ := decimal.digits * 10 ^ decimal.exponent

/-! ## Reading -/

/-- The exponent that stands at the end of a text, with its sign. -/
def writtenExponent : List Char → Int
  | 'e' :: '-' :: digits => -(natural digits : Int)
  | 'e' :: _ :: digits => natural digits
  | _ => 0

/-- The decimal that a text writes. -/
def read (text : List Char) : Decimal :=
  let mantissa := text.takeWhile (· ≠ 'e')
  let whole := mantissa.takeWhile (· ≠ '.')
  let fraction := (mantissa.dropWhile (· ≠ '.')).drop 1
  ⟨natural (whole ++ fraction), writtenExponent (text.dropWhile (· ≠ 'e')) - fraction.length⟩

/-- Splitting at the first mark finds what stands before it. -/
theorem split_at_mark (mark : Char) (text rest : List Char) (plain : ∀ c ∈ text, c ≠ mark)
    (stops : rest = [] ∨ ∃ after, rest = mark :: after) :
    (text ++ rest).takeWhile (· ≠ mark) = text ∧ (text ++ rest).dropWhile (· ≠ mark) = rest := by
  have unmarked : ∀ c ∈ text, decide (c ≠ mark) = true := fun c member =>
    decide_eq_true (plain c member)
  rw [List.takeWhile_append_of_pos unmarked, List.dropWhile_append_of_pos unmarked]
  rcases stops with rfl | ⟨after, rfl⟩
  · simp
  · simp

/-- A text with digits on both sides of a point is read digit by digit. -/
theorem read_pointed {whole fraction tail : List Char} (wholeDigits : ∀ c ∈ whole, isDigit c = true)
    (fractionDigits : ∀ c ∈ fraction, isDigit c = true)
    (stops : tail = [] ∨ ∃ after, tail = 'e' :: after) :
    read (whole ++ '.' :: fraction ++ tail)
      = ⟨natural (whole ++ fraction), writtenExponent tail - fraction.length⟩ := by
  have plain : ∀ c ∈ whole ++ '.' :: fraction, c ≠ 'e' := by
    intro c member
    rcases List.mem_append.mp member with inWhole | inRest
    · exact ne_of_isDigit (wholeDigits c inWhole) (by decide)
    · rcases List.mem_cons.mp inRest with rfl | inFraction
      · decide
      · exact ne_of_isDigit (fractionDigits c inFraction) (by decide)
  obtain ⟨mantissa, ending⟩ := split_at_mark 'e' _ _ plain stops
  obtain ⟨before, after⟩ := split_at_mark '.' whole ('.' :: fraction)
    (fun c member => ne_of_isDigit (wholeDigits c member) (by decide)) (Or.inr ⟨fraction, rfl⟩)
  simp only [read, mantissa, ending, before, after, List.drop_one, List.tail_cons]

/-- A text without a point is one whole number, up to its exponent. -/
theorem read_pointless {whole tail : List Char} (wholeDigits : ∀ c ∈ whole, isDigit c = true)
    (stops : tail = [] ∨ ∃ after, tail = 'e' :: after) :
    read (whole ++ tail) = ⟨natural whole, writtenExponent tail⟩ := by
  obtain ⟨mantissa, ending⟩ := split_at_mark 'e' _ _
    (fun c member => ne_of_isDigit (wholeDigits c member) (by decide)) stops
  obtain ⟨before, after⟩ := split_at_mark '.' whole []
    (fun c member => ne_of_isDigit (wholeDigits c member) (by decide)) (Or.inl rfl)
  rw [List.append_nil] at before after
  simp only [read, mantissa, ending, before, after, List.drop_nil, List.append_nil,
    List.length_nil, Int.natCast_zero, Int.sub_zero]

/-- The exponent part of a text, with its sign, reads back. -/
theorem writtenExponent_signed (leading : Int) :
    writtenExponent ('e' :: (if leading < 0 then '-' else '+') :: Nat.toDigits 10 leading.natAbs)
      = leading := by
  by_cases below : leading < 0
  · simp only [below, if_true, writtenExponent, natural_toDigits]
    omega
  · have positive (digits : List Char) : writtenExponent ('e' :: '+' :: digits) = natural digits :=
      rfl
    simp only [below, if_false, positive, natural_toDigits]
    omega

/-! ## Trimming -/

theorem trim_spec (fuel : Nat) (reversed : List Char) (exponent : Int) (nonempty : reversed ≠ []) :
    (trim fuel (reversed, exponent)).1 ≠ [] ∧
      (∀ c ∈ (trim fuel (reversed, exponent)).1, c ∈ reversed) ∧
      (natural (trim fuel (reversed, exponent)).1.reverse : ℚ)
          * 10 ^ (trim fuel (reversed, exponent)).2
        = natural reversed.reverse * 10 ^ exponent := by
  induction fuel generalizing reversed exponent with
  | zero => exact ⟨nonempty, fun _ member => member, rfl⟩
  | succ fuel hypothesis =>
      unfold trim
      split
      · -- One zero is taken off the end and the exponent rises by one.
        rename_i next rest
        obtain ⟨left, members, same⟩ := hypothesis (next :: rest) (exponent + 1) (by simp)
        refine ⟨left, fun c member => List.mem_cons_of_mem _ (members c member), ?_⟩
        have tenfold : natural ('0' :: next :: rest).reverse
            = natural (next :: rest).reverse * 10 := by
          rw [List.reverse_cons, natural_append]
          rfl
        rw [same, tenfold, zpow_add_one₀ (by norm_num)]
        push_cast
        ring
      · exact ⟨nonempty, fun _ member => member, rfl⟩

/-! ## Spellings -/

/-- Whether a character may stand in the text of a number. -/
def inNumeral (c : Char) : Bool := isDigit c || ['-', '+', '.', 'e'].contains c

theorem inNumeral_of_isDigit {c : Char} (digit : isDigit c = true) : inNumeral c = true := by
  rw [inNumeral, digit, Bool.true_or]

/-- A text spells a number when it reads back as that number, is made of the characters of numbers,
starts with a digit and shows by a point or an exponent that it is not a whole number. -/
structure Spells (text : List Char) (number : ℚ) : Prop where
  value_read : (read text).value = number
  marked : '.' ∈ text ∨ 'e' ∈ text
  starts : ∃ first rest, text = first :: rest ∧ isDigit first = true
  characters : ∀ c ∈ text, inNumeral c = true

theorem Spells.of_eq {text same : List Char} {number equal : ℚ} (spells : Spells text number)
    (sameText : same = text) (sameNumber : equal = number) : Spells same equal := by
  rw [sameText, sameNumber]
  exact spells

theorem starts_append {whole : List Char} (rest : List Char) (nonempty : whole ≠ [])
    (wholeDigits : ∀ c ∈ whole, isDigit c = true) :
    ∃ first after, whole ++ rest = first :: after ∧ isDigit first = true := by
  obtain ⟨first, others, rfl⟩ := List.exists_cons_of_ne_nil nonempty
  exact ⟨first, others ++ rest, rfl, wholeDigits first (List.mem_cons_self ..)⟩

/-- Digits on both sides of a point spell a number, with or without an exponent. -/
theorem spells_pointed (whole fraction tail : List Char) (nonempty : whole ≠ [])
    (wholeDigits : ∀ c ∈ whole, isDigit c = true)
    (fractionDigits : ∀ c ∈ fraction, isDigit c = true)
    (stops : tail = [] ∨ ∃ after, tail = 'e' :: after) (plain : ∀ c ∈ tail, inNumeral c = true) :
    Spells (whole ++ '.' :: fraction ++ tail)
      (natural (whole ++ fraction) * 10 ^ (writtenExponent tail - fraction.length)) where
  value_read := by
    rw [read_pointed wholeDigits fractionDigits stops]
    rfl
  marked := Or.inl (by simp)
  starts := by
    rw [List.append_assoc]
    exact starts_append _ nonempty wholeDigits
  characters := by
    intro c member
    simp only [List.mem_append, List.mem_cons] at member
    rcases member with (inWhole | rfl | inFraction) | inTail
    · exact inNumeral_of_isDigit (wholeDigits c inWhole)
    · decide
    · exact inNumeral_of_isDigit (fractionDigits c inFraction)
    · exact plain c inTail

/-- Digits with an exponent spell a number. -/
theorem spells_pointless {whole after : List Char} (nonempty : whole ≠ [])
    (wholeDigits : ∀ c ∈ whole, isDigit c = true) (plain : ∀ c ∈ after, inNumeral c = true) :
    Spells (whole ++ 'e' :: after) (natural whole * 10 ^ writtenExponent ('e' :: after)) where
  value_read := by
    rw [read_pointless wholeDigits (Or.inr ⟨after, rfl⟩)]
    rfl
  marked := Or.inr (by simp)
  starts := starts_append _ nonempty wholeDigits
  characters := by
    intro c member
    simp only [List.mem_append, List.mem_cons] at member
    rcases member with inWhole | rfl | inAfter
    · exact inNumeral_of_isDigit (wholeDigits c inWhole)
    · decide
    · exact plain c inAfter

/-- Positional text with zeros between the digits and the point. -/
theorem spells_whole {digits : List Char} (nonempty : digits ≠ [])
    (areDigits : ∀ c ∈ digits, isDigit c = true) (zeros : Nat) :
    Spells (digits ++ List.replicate zeros '0' ++ ['.', '0']) (natural digits * 10 ^ zeros) := by
  have padded : ∀ c ∈ digits ++ List.replicate zeros '0', isDigit c = true := by
    intro c member
    rcases List.mem_append.mp member with inDigits | inZeros
    · exact areDigits c inDigits
    · rw [List.eq_of_mem_replicate inZeros]
      decide
  have spells := spells_pointed (digits ++ List.replicate zeros '0') ['0'] []
    (List.append_ne_nil_of_left_ne_nil nonempty _) padded isDigit_of_mem_zero
    (Or.inl rfl)
    (by simp)
  rw [List.append_nil] at spells
  refine spells.of_eq rfl ?_
  have last : natural ['0'] = 0 := rfl
  rw [natural_append, natural_append, natural_zeros, last]
  simp only [writtenExponent, List.length_replicate, List.length_singleton]
  push_cast
  norm_num
  field_simp

/-- Positional text with the point after some of the digits. -/
theorem spells_divided {digits : List Char} (areDigits : ∀ c ∈ digits, isDigit c = true)
    (place : Nat) (positive : 0 < place) (inside : place ≤ digits.length) :
    Spells (digits.take place ++ '.' :: digits.drop place)
      (natural digits * 10 ^ ((place : Int) - digits.length)) := by
  have nonempty : digits.take place ≠ [] := by
    intro empty
    have length := congrArg List.length empty
    simp only [List.length_take, List.length_nil] at length
    omega
  have spells := spells_pointed (digits.take place) (digits.drop place) [] nonempty
    (fun c member => areDigits c (List.mem_of_mem_take member))
    (fun c member => areDigits c (List.mem_of_mem_drop member)) (Or.inl rfl) (by simp)
  rw [List.append_nil, List.take_append_drop] at spells
  refine spells.of_eq rfl ?_
  congr 2
  simp only [writtenExponent, List.length_drop]
  omega

/-- Positional text with zeros between the point and the digits. -/
theorem spells_fraction {digits : List Char} (areDigits : ∀ c ∈ digits, isDigit c = true)
    (zeros : Nat) :
    Spells ('0' :: '.' :: (List.replicate zeros '0' ++ digits))
      (natural digits * 10 ^ (-(zeros + digits.length : Int))) := by
  have padded : ∀ c ∈ List.replicate zeros '0' ++ digits, isDigit c = true := by
    intro c member
    rcases List.mem_append.mp member with inZeros | inDigits
    · rw [List.eq_of_mem_replicate inZeros]
      decide
    · exact areDigits c inDigits
  have spells := spells_pointed ['0'] (List.replicate zeros '0' ++ digits) [] (by simp)
    isDigit_of_mem_zero padded (Or.inl rfl) (by simp)
  rw [List.append_nil] at spells
  refine spells.of_eq rfl ?_
  have first : natural ['0'] = 0 := rfl
  rw [natural_append, natural_append, natural_zeros, first]
  simp only [writtenExponent, List.length_append, List.length_replicate]
  push_cast
  norm_num

/-- Text with an exponent, which has a point only if there is a second digit. -/
theorem spells_scientific {digits : List Char} (nonempty : digits ≠ [])
    (areDigits : ∀ c ∈ digits, isDigit c = true) (leading : Int) :
    Spells (digits.take 1 ++ (if digits.length = 1 then [] else '.' :: digits.drop 1)
        ++ 'e' :: (if leading < 0 then '-' else '+') :: Nat.toDigits 10 leading.natAbs)
      (natural digits * 10 ^ (leading - (digits.length - 1))) := by
  have signed : ∀ c ∈ (if leading < 0 then '-' else '+') :: Nat.toDigits 10 leading.natAbs,
      inNumeral c = true := by
    intro c member
    rcases List.mem_cons.mp member with rfl | inDigits
    · split <;> decide
    · exact inNumeral_of_isDigit (isDigit_of_mem_toDigits inDigits)
  obtain ⟨first, others, rfl⟩ := List.exists_cons_of_ne_nil nonempty
  by_cases single : (first :: others).length = 1
  · obtain rfl : others = [] := List.eq_nil_of_length_eq_zero (by simpa using single)
    have spells := spells_pointless nonempty areDigits signed
    rw [writtenExponent_signed] at spells
    exact spells.of_eq (by simp) (by simp)
  · have spells := spells_pointed [first] others
      ('e' :: (if leading < 0 then '-' else '+') :: Nat.toDigits 10 leading.natAbs)
      (by simp) (fun c member => areDigits c (List.mem_append_left others member))
      (fun c member => areDigits c (List.mem_cons_of_mem _ member)) (Or.inr ⟨_, rfl⟩)
      (fun c member => (List.mem_cons.mp member).elim (fun same => by rw [same]; decide) (signed c))
    rw [writtenExponent_signed] at spells
    simp only [single, if_false]
    exact spells.of_eq rfl (by simp)

/-- **The text of digits and an exponent spells their value.** -/
theorem spells_arrange (layout : Layout) {digits : List Char} (nonempty : digits ≠ [])
    (areDigits : ∀ c ∈ digits, isDigit c = true) (exponent : Int) :
    Spells (layout.arrange digits exponent).toList (natural digits * 10 ^ exponent) := by
  have positive : 0 < digits.length := List.length_pos_of_ne_nil nonempty
  unfold Layout.arrange
  simp only
  split
  · split
    · rename_i atLeast
      have spells := spells_whole nonempty areDigits exponent.toNat
      refine spells.of_eq (by simp) ?_
      rw [← zpow_natCast, Int.toNat_of_nonneg atLeast]
    · split
      · have spells := spells_divided areDigits
          ((exponent + digits.length - 1).toNat + 1) (by omega) (by omega)
        refine spells.of_eq (by simp) ?_
        congr 2
        omega
      · have spells := spells_fraction areDigits (-(exponent + digits.length - 1) - 1).toNat
        refine spells.of_eq (by simp) ?_
        congr 2
        omega
  · have spells := spells_scientific nonempty areDigits (exponent + digits.length - 1)
    refine spells.of_eq ?_ ?_
    · split <;> split <;> simp [*]
    · congr 2
      omega

/-- **The text of a decimal spells its value.** -/
theorem spells_write (layout : Layout) (decimal : Decimal) :
    Spells (layout.write decimal).toList decimal.value := by
  have nonempty : (Nat.toDigits 10 decimal.digits).reverse ≠ [] := by
    simp
  obtain ⟨left, members, same⟩ := trim_spec (Nat.toDigits 10 decimal.digits).reverse.length
    (Nat.toDigits 10 decimal.digits).reverse decimal.exponent nonempty
  rw [List.reverse_reverse, natural_toDigits] at same
  unfold value
  rw [← same]
  refine spells_arrange layout (by simpa using left) ?_ _
  intro c member
  exact isDigit_of_mem_toDigits (List.mem_reverse.mp (members c (List.mem_reverse.mp member)))

end Decimal

end ApplianceConfig
