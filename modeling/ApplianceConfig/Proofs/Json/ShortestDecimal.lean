import ApplianceConfig.Proofs.Json.DecimalText
import Mathlib.Order.Monotone.Basic
import Mathlib.Tactic.Linarith

/-!
# The shortest decimal lies inside the rounding interval

The magnitudes of the binary64 format are numbered, and the number after a magnitude
begins where its own interval ends: `boundary k` is the point halfway between the
magnitudes `k` and `k + 1`, in units of `2 ^ -1076`, and the interval of `k` reaches
from `boundary (k - 1)` to `boundary k`. Neighbouring intervals share that point, but
only one of them is closed, so no rational lies in two of them
(`eq_of_holds`).

The search for the fewest digits always succeeds: on its finest grid the unit is less
than `10 ^ -18` of the point, and the interval reaches further than that below the
point (`onGrid_isSome`). Hence the decimal that is found lies inside the interval
(`shortest_holds`), and **the text of a floating-point number determines its bits**
(`Binary64.text_injective`).
-/

set_option autoImplicit false

namespace ApplianceConfig

namespace Decimal

/-! ## Membership -/

/-- A rational lies inside the interval. -/
def Target.Holds (target : Target) (point : ℚ) : Prop :=
  if target.closed then
    (target.lower : ℚ) ≤ point * target.denominator ∧ point * target.denominator ≤ target.upper
  else
    (target.lower : ℚ) < point * target.denominator ∧ point * target.denominator < target.upper

theorem fraction_pos (decimal : Decimal) : 0 < (fraction decimal).2 := by
  unfold fraction
  split
  · exact Nat.one_pos
  · exact Nat.pow_pos (by decide)

/-- The fraction of a decimal has the decimal's value. -/
theorem fraction_value (decimal : Decimal) :
    ((fraction decimal).1 : ℚ) / (fraction decimal).2 = decimal.value := by
  unfold fraction value
  split
  · rename_i atLeast
    obtain ⟨power, same⟩ := Int.eq_ofNat_of_zero_le atLeast
    simp only [same, Int.toNat_natCast, Nat.pow_eq, zpow_natCast]
    push_cast
    ring
  · rename_i below
    obtain ⟨power, same⟩ := Int.eq_ofNat_of_zero_le (a := -decimal.exponent) (by omega)
    have negated : decimal.exponent = -(power : Int) := by omega
    simp only [negated, neg_neg, Int.toNat_natCast, Nat.pow_eq, zpow_neg, zpow_natCast]
    push_cast
    rfl

/-- The test on fractions decides membership. -/
theorem contains_iff (target : Target) (decimal : Decimal) :
    target.contains (fraction decimal).1 (fraction decimal).2 = true
      ↔ target.Holds decimal.value := by
  have positive : (0 : ℚ) < (fraction decimal).2 := by exact_mod_cast fraction_pos decimal
  have scaled : decimal.value * target.denominator
      = ((fraction decimal).1 * target.denominator : Nat) / (fraction decimal).2 := by
    rw [← fraction_value]
    push_cast
    ring
  unfold Target.contains Target.Holds
  rw [scaled]
  split
  · rw [Bool.and_eq_true, decide_eq_true_eq, decide_eq_true_eq, le_div_iff₀ positive,
      div_le_iff₀ positive]
    norm_cast
  · rw [Bool.and_eq_true, decide_eq_true_eq, decide_eq_true_eq, lt_div_iff₀ positive,
      div_lt_iff₀ positive]
    norm_cast

/-! ## What the search finds -/

theorem fits_iff (target : Target) (digits : Nat) (exponent : Int) :
    (decide (0 < digits) && target.contains (fraction ⟨digits, exponent⟩).1
        (fraction ⟨digits, exponent⟩).2) = true
      ↔ 0 < digits ∧ target.Holds (value ⟨digits, exponent⟩) := by
  rw [Bool.and_eq_true, decide_eq_true_eq, contains_iff]

/-- A decimal found on a grid is positive and lies inside the interval. -/
theorem onGrid_holds {target : Target} {exponent : Int} {decimal : Decimal}
    (found : target.onGrid? exponent = some decimal) :
    0 < decimal.digits ∧ target.Holds decimal.value := by
  unfold Target.onGrid? at found
  simp only at found
  split at found
  · -- Both neighbours fit, and the nearer one is one of them.
    rename_i below above
    rw [fits_iff] at below above
    cases found
    unfold Binary64.nearestEven
    simp only
    split
    · exact below
    · split
      · exact above
      · split
        · exact below
        · exact above
  · rename_i below _
    cases found
    exact (fits_iff ..).mp below
  · rename_i _ above
    cases found
    exact (fits_iff ..).mp above
  · cases found

theorem first_holds {target : Target} {exponents : List Int} {decimal : Decimal}
    (found : target.first? exponents = some decimal) :
    0 < decimal.digits ∧ target.Holds decimal.value := by
  induction exponents with
  | nil => cases found
  | cons exponent finer hypothesis =>
      unfold Target.first? at found
      split at found
      · rename_i onGrid
        cases found
        exact onGrid_holds onGrid
      · exact hypothesis found

theorem first_isSome {target : Target} {exponents : List Int} {exponent : Int}
    (member : exponent ∈ exponents) (some : (target.onGrid? exponent).isSome = true) :
    (target.first? exponents).isSome = true := by
  induction exponents with
  | nil => cases member
  | cons first finer hypothesis =>
      unfold Target.first?
      split
      · rfl
      · rename_i none
        rcases List.mem_cons.mp member with rfl | later
        · rw [none] at some
          cases some
        · exact hypothesis later

/-! ## The finest grid -/

/-- The digits of the multiple of `10 ^ exponent` just below the point. -/
def Target.floor (target : Target) (exponent : Int) : Nat :=
  target.value * (fraction ⟨1, exponent⟩).2 / (target.denominator * (fraction ⟨1, exponent⟩).1)

/-- Division of natural numbers finds the multiple of the unit just below the point. -/
theorem floor_bounds {target : Target} (exponent : Int) (positive : 0 < target.denominator) :
    target.floor exponent * (10 : ℚ) ^ exponent * target.denominator ≤ target.value ∧
      target.value - (10 : ℚ) ^ exponent * target.denominator
        < target.floor exponent * 10 ^ exponent * target.denominator := by
  have lowPositive : (0 : ℚ) < (fraction ⟨1, exponent⟩).2 := by exact_mod_cast fraction_pos _
  have unitPower : ((fraction ⟨1, exponent⟩).1 : ℚ)
      = 10 ^ exponent * (fraction ⟨1, exponent⟩).2 := by
    rw [← div_eq_iff lowPositive.ne', fraction_value, value, Nat.cast_one, one_mul]
  have highPositive : 0 < (fraction ⟨1, exponent⟩).1 := by
    have product : (0 : ℚ) < (fraction ⟨1, exponent⟩).1 := by
      rw [unitPower]
      exact mul_pos (zpow_pos (by norm_num) _) lowPositive
    exact_mod_cast product
  have division := Nat.div_add_mod (target.value * (fraction ⟨1, exponent⟩).2)
    (target.denominator * (fraction ⟨1, exponent⟩).1)
  have remainder := Nat.mod_lt (target.value * (fraction ⟨1, exponent⟩).2)
    (Nat.mul_pos positive highPositive)
  unfold Target.floor
  generalize target.value * (fraction ⟨1, exponent⟩).2
    / (target.denominator * (fraction ⟨1, exponent⟩).1) = quotient at division ⊢
  generalize target.value * (fraction ⟨1, exponent⟩).2
    % (target.denominator * (fraction ⟨1, exponent⟩).1) = rest at division remainder
  have exact : (target.denominator * (10 ^ exponent * (fraction ⟨1, exponent⟩).2) * quotient
      + rest : ℚ) = target.value * (fraction ⟨1, exponent⟩).2 := by
    rw [← unitPower]
    exact_mod_cast division
  have small : (rest : ℚ) < target.denominator * (10 ^ exponent * (fraction ⟨1, exponent⟩).2) := by
    rw [← unitPower]
    exact_mod_cast remainder
  have nonnegative : (0 : ℚ) ≤ rest := Nat.cast_nonneg rest
  constructor
  · refine le_of_mul_le_mul_right ?_ lowPositive
    linarith
  · refine lt_of_mul_lt_mul_right ?_ lowPositive.le
    linarith

/-- A grid whose unit is small against the point has a decimal inside the interval. -/
theorem onGrid_isSome {target : Target} (exponent : Int) (positive : 0 < target.denominator)
    (reaches : (target.lower : ℚ) < target.value - 10 ^ exponent * target.denominator)
    (before : target.value < target.upper) :
    (target.onGrid? exponent).isSome = true := by
  obtain ⟨atMost, above⟩ := floor_bounds exponent positive
  have below : 0 < target.floor exponent
      ∧ target.Holds (value ⟨target.floor exponent, exponent⟩) := by
    have upper : (target.value : ℚ) < target.upper := by exact_mod_cast before
    have inside : (target.lower : ℚ) < value ⟨target.floor exponent, exponent⟩ * target.denominator
        ∧ value ⟨target.floor exponent, exponent⟩ * target.denominator < target.upper :=
      ⟨reaches.trans above, atMost.trans_lt upper⟩
    constructor
    · refine Nat.pos_of_ne_zero fun zero => ?_
      have nonnegative : (0 : ℚ) ≤ target.lower := Nat.cast_nonneg _
      have empty := inside.1
      rw [zero, value, Nat.cast_zero, zero_mul, zero_mul] at empty
      linarith
    · unfold Target.Holds
      split
      · exact ⟨inside.1.le, inside.2.le⟩
      · exact inside
  unfold Target.onGrid?
  simp only
  rw [← Target.floor, (fits_iff ..).mpr below]
  split <;> simp_all

/-! ## The leading digit -/

theorem lt_pow_width (n : Nat) : n < 10 ^ width n :=
  (Nat.length_toDigits_le_iff (by decide) Nat.length_toDigits_pos).mp (Nat.le_refl (width n))

theorem pow_width_le {n : Nat} (positive : 0 < n) : 10 ^ (width n - 1) ≤ n := by
  by_cases single : width n = 1
  · rw [single]
    exact positive
  · have long : 0 < width n := Nat.length_toDigits_pos
    refine Nat.le_of_not_lt fun less => ?_
    have short := (Nat.length_toDigits_le_iff (b := 10) (by decide) (by omega)).mpr less
    unfold width at short long single
    omega

/-- The point is at least one unit of its leading digit. -/
theorem leading_le {target : Target} (positive : 0 < target.denominator)
    (nonzero : 0 < target.value) :
    (10 : ℚ) ^ (target.leading - 1) * target.denominator ≤ target.value := by
  unfold Target.leading
  split
  · rename_i large
    have quotient : 0 < target.value / target.denominator := Nat.div_pos large positive
    have least := pow_width_le quotient
    have wide : 0 < width (target.value / target.denominator) := Nat.length_toDigits_pos
    have power : ((width (target.value / target.denominator) : Nat) : Int) - 1
        = ((width (target.value / target.denominator) - 1 : Nat) : Int) := by omega
    rw [power, zpow_natCast]
    have product := (Nat.le_div_iff_mul_le positive).mp least
    exact_mod_cast product
  · have greatest := lt_pow_width (target.denominator / target.value)
    have product := (Nat.div_lt_iff_lt_mul nonzero).mp greatest
    have power : (1 : Int) - (width (target.denominator / target.value) : Int) - 1
        = -(width (target.denominator / target.value) : Int) := by omega
    rw [power, zpow_neg, zpow_natCast, inv_mul_le_iff₀ (by positivity)]
    exact_mod_cast product.le

/-! ## Boundaries between magnitudes -/

end Decimal

namespace Binary64

/-- The significand of the magnitude with the given number. -/
def significandOf (magnitude : Nat) : Nat :=
  if magnitude / fractionSize = 0 then magnitude else magnitude % fractionSize + fractionSize

/-- The scale of the magnitude with the given number. -/
def scaleOf (magnitude : Nat) : Nat := magnitude / fractionSize - 1

/-- The point halfway between a magnitude and the next one, in units of `2 ^ -1076`. -/
def boundary (magnitude : Nat) : Nat := (4 * significandOf magnitude + 2) * 2 ^ scaleOf magnitude

theorem upper_eq_boundary (x : Binary64) :
    (Decimal.Target.ofBinary64 x).upper = boundary x.magnitude :=
  rfl

/-- The interval of a magnitude begins where that of the magnitude before ends. -/
theorem lower_of_succ (before : Nat) :
    (4 * significandOf (before + 1)
        - if significandOf (before + 1) = fractionSize ∧ 0 < scaleOf (before + 1) then 1 else 2)
      * 2 ^ scaleOf (before + 1) = boundary before := by
  unfold boundary significandOf scaleOf
  by_cases carries : (before + 1) % fractionSize = 0
  · -- The next magnitude is the first with its exponent field.
    obtain ⟨field, same⟩ : ∃ field, (before + 1) / fractionSize = field + 1 :=
      ⟨(before + 1) / fractionSize - 1, by simp only [fractionSize] at *; omega⟩
    have fieldBefore : before / fractionSize = field := by simp only [fractionSize] at *; omega
    have lastBefore : before % fractionSize = fractionSize - 1 := by
      simp only [fractionSize] at *
      omega
    rw [same, carries, fieldBefore, lastBefore]
    cases field with
    | zero =>
        have whole : before = fractionSize - 1 := by simp only [fractionSize] at *; omega
        rw [whole]
        norm_num
    | succ field =>
        simp only [Nat.succ_ne_zero, if_false, Nat.add_sub_cancel, zero_add, true_and,
          Nat.succ_pos, if_true, pow_succ, fractionSize]
        ring
  · -- The two magnitudes have one exponent field.
    have sameField : (before + 1) / fractionSize = before / fractionSize := by
      simp only [fractionSize] at *
      omega
    have sameRest : (before + 1) % fractionSize = before % fractionSize + 1 := by
      simp only [fractionSize] at *
      omega
    rw [sameField, sameRest]
    split
    · rename_i subnormal
      simp only [subnormal, Nat.zero_sub, Nat.lt_irrefl, and_false, if_false]
      omega
    · have wide : ¬(before % fractionSize + 1 + fractionSize = fractionSize
          ∧ 0 < before / fractionSize - 1) := by omega
      have raised : 4 * (before % fractionSize + 1 + fractionSize) - 2
          = 4 * (before % fractionSize + fractionSize) + 2 := by omega
      rw [if_neg wide, raised]

theorem lower_eq_boundary {x : Binary64} {before : Nat} (next : x.magnitude = before + 1) :
    (Decimal.Target.ofBinary64 x).lower = boundary before := by
  rw [← lower_of_succ, ← next]
  rfl

/-- The boundaries rise with the magnitude. -/
theorem boundary_strictMono : StrictMono boundary := by
  refine strictMono_nat_of_lt_succ fun magnitude => ?_
  rw [← lower_of_succ, boundary]
  refine Nat.mul_lt_mul_of_pos_right ?_ (Nat.pow_pos (by decide))
  omega

/-! ## One decimal, one magnitude -/

/-- An interval is closed when the number of its magnitude is even. -/
theorem closed_iff (x : Binary64) :
    (Decimal.Target.ofBinary64 x).closed = true ↔ x.magnitude % 2 = 0 := by
  simp only [Decimal.Target.ofBinary64, significand, beq_iff_eq, fractionSize]
  split
  · rfl
  · omega

theorem holds_between {target : Decimal.Target} {point : ℚ} (holds : target.Holds point) :
    (target.lower : ℚ) ≤ point * target.denominator ∧
      point * target.denominator ≤ target.upper := by
  unfold Decimal.Target.Holds at holds
  split at holds
  · exact holds
  · exact ⟨holds.1.le, holds.2.le⟩

theorem holds_strictly {target : Decimal.Target} {point : ℚ} (holds : target.Holds point)
    (opened : target.closed ≠ true) :
    (target.lower : ℚ) < point * target.denominator ∧
      point * target.denominator < target.upper := by
  rw [Decimal.Target.Holds, if_neg opened] at holds
  exact holds

/-- Of two different magnitudes no rational lies in both intervals. -/
theorem not_holds_of_lt {x y : Binary64} (less : x.magnitude < y.magnitude) {point : ℚ}
    (holdsX : (Decimal.Target.ofBinary64 x).Holds point)
    (holdsY : (Decimal.Target.ofBinary64 y).Holds point) : False := by
  obtain ⟨before, next⟩ := Nat.exists_eq_succ_of_ne_zero (Nat.ne_zero_of_lt less)
  have atMost := (holds_between holdsX).2
  have atLeast := (holds_between holdsY).1
  have sameUnit : (Decimal.Target.ofBinary64 x).denominator
      = (Decimal.Target.ofBinary64 y).denominator := rfl
  rcases Nat.lt_or_eq_of_le (Nat.le_of_lt_succ (next ▸ less)) with earlier | neighbour
  · -- A boundary lies strictly between the intervals.
    rw [upper_eq_boundary] at atMost
    rw [lower_eq_boundary next, ← sameUnit] at atLeast
    have rises : (boundary x.magnitude : ℚ) < boundary before := by
      exact_mod_cast boundary_strictMono earlier
    linarith
  · -- The intervals share one point, and one of the two is open.
    have shared : ((Decimal.Target.ofBinary64 x).upper : ℚ)
        = (Decimal.Target.ofBinary64 y).lower := by
      rw [upper_eq_boundary, lower_eq_boundary next, neighbour]
    by_cases even : before % 2 = 0
    · have opened : (Decimal.Target.ofBinary64 y).closed ≠ true := by
        rw [Ne, closed_iff]
        omega
      have strictly := (holds_strictly holdsY opened).1
      rw [sameUnit] at atMost
      linarith
    · have opened : (Decimal.Target.ofBinary64 x).closed ≠ true := by
        rw [Ne, closed_iff]
        omega
      have strictly := (holds_strictly holdsX opened).2
      rw [sameUnit] at strictly
      linarith

/-- **A rational rounds to one magnitude only.** -/
theorem eq_of_holds {x y : Binary64} {point : ℚ}
    (holdsX : (Decimal.Target.ofBinary64 x).Holds point)
    (holdsY : (Decimal.Target.ofBinary64 y).Holds point) : x.magnitude = y.magnitude := by
  rcases Nat.lt_trichotomy x.magnitude y.magnitude with less | same | more
  · exact (not_holds_of_lt less holdsX holdsY).elim
  · exact same
  · exact (not_holds_of_lt more holdsY holdsX).elim

/-! ## The search succeeds -/

theorem significand_bounds {x : Binary64} (nonzero : x.isZero = false) :
    0 < x.significand ∧ x.significand < 2 * fractionSize := by
  simp only [isZero, beq_eq_false_iff_ne] at nonzero
  have bound : x.magnitude % fractionSize < fractionSize := Nat.mod_lt _ (by decide)
  unfold significand biased
  by_cases subnormal : x.magnitude / fractionSize = 0
  · rw [if_pos subnormal]
    simp only [fractionSize] at *
    omega
  · rw [if_neg subnormal]
    omega

/-- **The shortest decimal of a number lies inside its rounding interval.** -/
theorem shortest_holds {x : Binary64} (nonzero : x.isZero = false) :
    0 < (Decimal.shortest x).digits ∧
      (Decimal.Target.ofBinary64 x).Holds (Decimal.shortest x).value := by
  obtain ⟨positive, wide⟩ := significand_bounds nonzero
  have unitPositive : 0 < 2 ^ x.scale := Nat.pow_pos (by decide)
  generalize target : Decimal.Target.ofBinary64 x = interval
  have value : interval.value = 4 * x.significand * 2 ^ x.scale := by rw [← target]; rfl
  have upper : interval.upper = (4 * x.significand + 2) * 2 ^ x.scale := by rw [← target]; rfl
  have denominator : 0 < interval.denominator := by
    have power (n : Nat) : 0 < Nat.pow 2 n := Nat.two_pow_pos n
    rw [← target, Decimal.Target.ofBinary64]
    apply power
  have valuePositive : 0 < interval.value := by
    rw [value]
    exact Nat.mul_pos (by omega) unitPositive
  -- The interval reaches a whole unit below the point, which is far more than `10 ^ -18` of it.
  have reaches : interval.lower + 2 ^ x.scale ≤ interval.value := by
    have lower : interval.lower = (4 * x.significand
        - if x.significand = fractionSize ∧ 0 < x.scale then 1 else 2) * 2 ^ x.scale := by
      rw [← target]
      rfl
    rw [lower, value, ← Nat.succ_mul]
    refine Nat.mul_le_mul_right _ ?_
    split <;> omega
  have narrow : interval.value < 10 ^ 18 * 2 ^ x.scale := by
    rw [value]
    refine Nat.mul_lt_mul_of_pos_right ?_ unitPositive
    simp only [fractionSize] at wide
    omega
  have some := Decimal.onGrid_isSome (interval.leading - 19) denominator
    (by
      have leading := Decimal.leading_le denominator valuePositive
      have split : (10 : ℚ) ^ (interval.leading - 1) = 10 ^ (interval.leading - 19) * 10 ^ 18 := by
        rw [← zpow_natCast, ← zpow_add₀ (by norm_num)]
        congr 1
        omega
      rw [split] at leading
      have reachesCast : (interval.lower : ℚ) + 2 ^ x.scale ≤ interval.value := by
        exact_mod_cast reaches
      have narrowCast : (interval.value : ℚ) < 10 ^ 18 * 2 ^ x.scale := by exact_mod_cast narrow
      linarith)
    (by
      rw [value, upper]
      exact Nat.mul_lt_mul_of_pos_right (by omega) unitPositive)
  have member : interval.leading - 19
      ∈ (List.range 20).map fun (step : Nat) => interval.leading - step :=
    List.mem_map.mpr ⟨19, by decide, rfl⟩
  obtain ⟨decimal, found⟩ := Option.isSome_iff_exists.mp (Decimal.first_isSome member some)
  have shortest : Decimal.shortest x = decimal := by
    unfold Decimal.shortest
    simp only
    rw [target, found]
    rfl
  rw [shortest]
  exact Decimal.first_holds found

/-! ## Text and bits -/

/-- Sign and magnitude make up the bits. -/
theorem eq_of_sign_of_magnitude {x y : Binary64} (sign : x.isNegative = y.isNegative)
    (same : x.magnitude = y.magnitude) : x = y := by
  have bits : x.bits.toNat = y.bits.toNat := by
    have rangeX := x.bits.toNat_lt
    have rangeY := y.bits.toNat_lt
    simp only [isNegative, magnitude, signWeight, decide_eq_decide] at *
    omega
  cases x
  cases y
  simp only [Binary64.mk.injEq]
  exact UInt64.toNat_inj.mp bits

/-- The text of a number without its sign. -/
def unsignedText (x : Binary64) : List Char :=
  (if x.isZero then "0.0" else Decimal.Layout.json.write (Decimal.shortest x)).toList

theorem toList_text (x : Binary64) :
    x.text.toList = (if x.isNegative then ['-'] else []) ++ x.unsignedText := by
  unfold text unsignedText
  simp only
  split <;> split <;> simp

/-- The value that the text of a number without its sign spells. -/
def spelled (x : Binary64) : ℚ := if x.isZero then 0 else (Decimal.shortest x).value

theorem spells_unsignedText (x : Binary64) : Decimal.Spells x.unsignedText x.spelled := by
  unfold unsignedText spelled
  split
  · have zero := Decimal.spells_pointed ['0'] ['0'] [] (by simp)
      Numeral.isDigit_of_mem_zero Numeral.isDigit_of_mem_zero (Or.inl rfl) (by simp)
    refine zero.of_eq rfl ?_
    have none : Numeral.natural (['0'] ++ ['0']) = 0 := rfl
    rw [none, Nat.cast_zero, zero_mul]
  · exact Decimal.spells_write _ _

/-- Numbers that spell one value have one magnitude. -/
theorem magnitude_eq_of_spelled {x y : Binary64} (same : x.spelled = y.spelled) :
    x.magnitude = y.magnitude := by
  have positive {z : Binary64} (nonzero : z.isZero = false) : 0 < (Decimal.shortest z).value :=
    mul_pos (by exact_mod_cast (shortest_holds nonzero).1) (zpow_pos (by norm_num) _)
  unfold spelled at same
  cases zeroX : x.isZero <;> cases zeroY : y.isZero <;> simp only [zeroX, zeroY] at same
  · have holdsY := (shortest_holds zeroY).2
    rw [← show (Decimal.shortest x).value = (Decimal.shortest y).value from same] at holdsY
    exact eq_of_holds (shortest_holds zeroX).2 holdsY
  · exact absurd same (positive zeroX).ne'
  · exact absurd same (positive zeroY).ne
  · simp only [isZero, beq_iff_eq] at zeroX zeroY
    rw [zeroX, zeroY]

/-- **The text of a floating-point number determines its bits.** -/
theorem text_injective {x y : Binary64} (same : x.text = y.text) : x = y := by
  have unsigned {z : Binary64} : ∀ rest, z.unsignedText ≠ '-' :: rest := by
    intro rest equal
    obtain ⟨first, others, starts, digit⟩ := (spells_unsignedText z).starts
    rw [starts] at equal
    exact Numeral.ne_of_isDigit digit (by decide) (List.cons.inj equal).1
  have texts := congrArg String.toList same
  rw [toList_text, toList_text] at texts
  have parts : x.isNegative = y.isNegative ∧ x.unsignedText = y.unsignedText := by
    cases signX : x.isNegative <;> cases signY : y.isNegative <;>
      simp only [signX, signY, if_true, List.nil_append, List.cons_append] at texts
    · exact ⟨rfl, texts⟩
    · exact (unsigned _ texts).elim
    · exact (unsigned _ texts.symm).elim
    · exact ⟨rfl, (List.cons.inj texts).2⟩
  refine eq_of_sign_of_magnitude parts.1 (magnitude_eq_of_spelled ?_)
  rw [← (spells_unsignedText x).value_read, ← (spells_unsignedText y).value_read, parts.2]

end Binary64

end ApplianceConfig
