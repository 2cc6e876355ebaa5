import Mousstec.Library.Rounding
import Mathlib.Tactic.FieldSimp
import Mathlib.Tactic.Ring
import Mathlib.Tactic.Positivity

/-!
# Decimal arithmetic of fixed precision

Every result is rounded to a number of significant digits.  A value with few
enough digits is not changed, whole numbers below the precision bound the result
as they bound the value, and the relative error is small.
-/

namespace Library

/-- Rounds towards zero. -/
def roundDown (value : ℚ) : ℤ :=
  if 0 ≤ value then ⌊value⌋ else ⌈value⌉

/-- A value with a number of decimal places. -/
def HasPlaces (places : ℕ) (value : ℚ) : Prop :=
  ∃ coefficient : ℤ, value * 10 ^ places = coefficient

namespace HasPlaces

variable {places : ℕ} {left right value : ℚ}

theorem iff_den : HasPlaces places value ↔ (value * 10 ^ places).den = 1 := by
  constructor
  · rintro ⟨coefficient, exact⟩
    rw [exact]
    exact Rat.den_intCast coefficient
  · intro whole
    exact ⟨(value * 10 ^ places).num, (Rat.den_eq_one_iff _).mp whole |>.symm⟩

instance : Decidable (HasPlaces places value) :=
  decidable_of_iff _ iff_den.symm

theorem zero : HasPlaces places 0 := ⟨0, by simp⟩

theorem whole (amount : ℤ) : HasPlaces places amount :=
  ⟨amount * 10 ^ places, by push_cast; rfl⟩

theorem add (first : HasPlaces places left) (second : HasPlaces places right) :
    HasPlaces places (left + right) := by
  obtain ⟨coefficient, first⟩ := first
  obtain ⟨other, second⟩ := second
  refine ⟨coefficient + other, ?_⟩
  push_cast
  rw [add_mul, first, second]

theorem sub (first : HasPlaces places left) (second : HasPlaces places right) :
    HasPlaces places (left - right) := by
  obtain ⟨coefficient, first⟩ := first
  obtain ⟨other, second⟩ := second
  refine ⟨coefficient - other, ?_⟩
  push_cast
  rw [sub_mul, first, second]

theorem sum {values : List ℚ} (each : ∀ value ∈ values, HasPlaces places value) :
    HasPlaces places values.sum := by
  induction values with
  | nil => exact .zero
  | cons value values induction =>
      rw [List.sum_cons]
      exact (each value List.mem_cons_self).add
        (induction fun other member => each other (List.mem_cons_of_mem _ member))

theorem whole_mul (amount : ℤ) (exact : HasPlaces places value) :
    HasPlaces places (amount * value) := by
  obtain ⟨coefficient, exact⟩ := exact
  refine ⟨amount * coefficient, ?_⟩
  push_cast
  rw [mul_assoc, exact]

end HasPlaces

section Significant

variable {digits : ℕ} {value : ℚ}

@[simp] theorem significant_zero : significant digits 0 = 0 := by
  simp [significant]

private theorem significant_of_ne (different : value ≠ 0) :
    significant digits value =
      roundHalfEven
          (value * (10 : ℚ) ^ ((digits : ℤ) - 1 - Int.log 10 |value|)) /
        (10 : ℚ) ^ ((digits : ℤ) - 1 - Int.log 10 |value|) := by
  simp [significant, different]

private theorem zpow_ten_pos (exponent : ℤ) : (0 : ℚ) < 10 ^ exponent :=
  zpow_pos (by norm_num) exponent

/-- A value whose coefficient has few enough digits stays. -/
theorem significant_of_places (places : ℕ) (exact : HasPlaces places value)
    (small : |value| * 10 ^ places < 10 ^ digits) :
    significant digits value = value := by
  by_cases zero : value = 0
  · rw [zero, significant_zero]
  · obtain ⟨coefficient, exact⟩ := exact
    have positive : 0 < |value| := abs_pos.mpr zero
    have places' : (0 : ℚ) < 10 ^ places := by positivity
    have below : |value| < (10 : ℚ) ^ ((digits : ℤ) - places) := by
      rw [zpow_sub₀ (by norm_num), zpow_natCast, zpow_natCast,
        lt_div_iff₀ places']
      exact small
    have log : Int.log 10 |value| < (digits : ℤ) - places :=
      (Int.lt_zpow_iff_log_lt (by norm_num) positive).mp (by exact_mod_cast below)
    obtain ⟨shift, shifted⟩ : ∃ shift : ℕ,
        (digits : ℤ) - 1 - Int.log 10 |value| = places + shift :=
      ⟨((digits : ℤ) - 1 - Int.log 10 |value| - places).toNat, by omega⟩
    have scaled : value * (10 : ℚ) ^ ((digits : ℤ) - 1 - Int.log 10 |value|) =
        ((coefficient * 10 ^ shift : ℤ) : ℚ) := by
      rw [shifted, zpow_add₀ (by norm_num), zpow_natCast, zpow_natCast,
        ← mul_assoc, exact]
      push_cast
      rfl
    rw [significant_of_ne zero]
    rw [scaled, roundHalfEven_intCast, ← scaled]
    exact mul_div_cancel_right₀ value (zpow_ten_pos _).ne'

theorem significant_intCast {amount : ℤ} (small : |amount| < 10 ^ digits) :
    significant digits (amount : ℚ) = amount := by
  apply significant_of_places 0 (.whole amount)
  rw [pow_zero, mul_one]
  exact_mod_cast small

/-- The error is small beside the value. -/
theorem significant_near (sign : 0 ≤ value) :
    |significant (digits + 1) value - value| ≤ value / (2 * 10 ^ digits) := by
  rcases sign.eq_or_lt with rfl | positive
  · simp
  · have least : (10 : ℚ) ^ Int.log 10 |value| ≤ value := by
      rw [abs_of_pos positive]
      exact_mod_cast Int.zpow_log_le_self (b := 10) (by norm_num) positive
    rw [significant_of_ne positive.ne']
    set scale := (10 : ℚ) ^ (((digits + 1 : ℕ) : ℤ) - 1 - Int.log 10 |value|)
      with scaled
    have scalePositive : 0 < scale := zpow_ten_pos _
    have bound : 10 ^ digits ≤ value * scale := by
      calc
        (10 : ℚ) ^ digits =
            10 ^ Int.log 10 |value| * scale := by
          rw [scaled, ← zpow_add₀ (by norm_num), ← zpow_natCast]
          congr 1
          push_cast
          ring
        _ ≤ value * scale := by gcongr
    have near := roundHalfEven_nearest.near (value * scale)
    have apart : (roundHalfEven (value * scale) : ℚ) / scale - value =
        ((roundHalfEven (value * scale) : ℚ) - value * scale) / scale := by
      field_simp
    rw [apart, abs_div, abs_of_pos scalePositive, div_le_div_iff₀ scalePositive
      (by positivity)]
    calc
      |(roundHalfEven (value * scale) : ℚ) - value * scale| * (2 * 10 ^ digits) ≤
          1 / 2 * (2 * 10 ^ digits) := by gcongr
      _ = 10 ^ digits := by ring
      _ ≤ value * scale := bound

theorem significant_nonneg (sign : 0 ≤ value) :
    0 ≤ significant digits value := by
  rcases sign.eq_or_lt with rfl | positive
  · rw [significant_zero]
  · rw [significant_of_ne positive.ne']
    have rounded := roundHalfEven_nearest.nonneg
      (mul_pos positive (zpow_ten_pos ((digits : ℤ) - 1 - Int.log 10 |value|))).le
    exact div_nonneg (by exact_mod_cast rounded) (zpow_ten_pos _).le

private theorem exists_shift (positive : 0 < value)
    (small : value < 10 ^ digits) : ∃ shift : ℕ,
      (10 : ℚ) ^ ((digits : ℤ) - 1 - Int.log 10 |value|) = 10 ^ shift := by
  have log : Int.log 10 value < (digits : ℤ) := by
    refine (Int.lt_zpow_iff_log_lt (by norm_num) positive).mp ?_
    rw [zpow_natCast]
    exact_mod_cast small
  refine ⟨((digits : ℤ) - 1 - Int.log 10 value).toNat, ?_⟩
  rw [abs_of_pos positive, ← zpow_natCast]
  congr 1
  omega

/-- A whole number below a value stays below it. -/
theorem whole_le_significant {amount : ℤ} (sign : 0 ≤ value)
    (small : value < 10 ^ digits) (lower : (amount : ℚ) ≤ value) :
    (amount : ℚ) ≤ significant digits value := by
  rcases sign.eq_or_lt with rfl | positive
  · rwa [significant_zero]
  · obtain ⟨shift, shifted⟩ := exists_shift positive small
    rw [significant_of_ne positive.ne', shifted, le_div_iff₀ (by positivity)]
    have whole : ((amount * 10 ^ shift : ℤ) : ℚ) ≤ value * 10 ^ shift := by
      push_cast
      gcongr
    exact_mod_cast roundHalfEven_nearest.whole_le whole

/-- A whole number above a value stays above it. -/
theorem significant_le_whole {amount : ℤ} (sign : 0 ≤ value)
    (small : value < 10 ^ digits) (upper : value ≤ amount) :
    significant digits value ≤ amount := by
  rcases sign.eq_or_lt with rfl | positive
  · rwa [significant_zero]
  · obtain ⟨shift, shifted⟩ := exists_shift positive small
    rw [significant_of_ne positive.ne', shifted, div_le_iff₀ (by positivity)]
    have whole : value * 10 ^ shift ≤ ((amount * 10 ^ shift : ℤ) : ℚ) := by
      push_cast
      gcongr
    exact_mod_cast roundHalfEven_nearest.le_whole whole

theorem significant_neg (value : ℚ) :
    significant digits (-value) = -significant digits value := by
  by_cases zero : value = 0
  · rw [zero, neg_zero, significant_zero, neg_zero]
  · rw [significant_of_ne zero, significant_of_ne (neg_ne_zero.mpr zero), abs_neg,
      neg_mul, roundHalfEven_neg]
    push_cast
    exact neg_div _ _

/-- The error is small beside a value of either sign. -/
theorem significant_near_abs (value : ℚ) :
    |significant (digits + 1) value - value| ≤ |value| / (2 * 10 ^ digits) := by
  rcases le_total 0 value with sign | sign
  · rw [abs_of_nonneg sign]
    exact significant_near sign
  · have near : |significant (digits + 1) (-value) - -value| ≤
        -value / (2 * 10 ^ digits) := significant_near (neg_nonneg.mpr sign)
    rw [significant_neg] at near
    rw [abs_of_nonpos sign]
    have flipped : -significant (digits + 1) value - -value =
        -(significant (digits + 1) value - value) := by ring
    rwa [flipped, abs_neg] at near

private theorem significant_le_pow (positive : 0 < value) :
    significant digits value ≤ 10 ^ (Int.log 10 value + 1) := by
  have most : value < (10 : ℚ) ^ (Int.log 10 value + 1) :=
    Int.lt_zpow_succ_log_self (by norm_num) value
  rw [significant_of_ne positive.ne', abs_of_pos positive,
    div_le_iff₀ (zpow_ten_pos _), ← zpow_add₀ (by norm_num)]
  have power : Int.log 10 value + 1 + ((digits : ℤ) - 1 - Int.log 10 value) =
      digits := by ring
  rw [power, zpow_natCast]
  have scaled : value * (10 : ℚ) ^ ((digits : ℤ) - 1 - Int.log 10 value) ≤
      ((10 ^ digits : ℤ) : ℚ) := by
    push_cast
    calc
      value * (10 : ℚ) ^ ((digits : ℤ) - 1 - Int.log 10 value) ≤
          10 ^ (Int.log 10 value + 1) *
            10 ^ ((digits : ℤ) - 1 - Int.log 10 value) := by
        have := zpow_ten_pos ((digits : ℤ) - 1 - Int.log 10 value)
        gcongr
      _ = 10 ^ digits := by
        rw [← zpow_add₀ (by norm_num), power, zpow_natCast]
  exact_mod_cast roundHalfEven_nearest.le_whole scaled

private theorem pow_le_significant (positive : 0 < value) :
    10 ^ Int.log 10 value ≤ significant (digits + 1) value := by
  have least : (10 : ℚ) ^ Int.log 10 value ≤ value :=
    Int.zpow_log_le_self (b := 10) (by norm_num) positive
  rw [significant_of_ne positive.ne', abs_of_pos positive,
    le_div_iff₀ (zpow_ten_pos _), ← zpow_add₀ (by norm_num)]
  have power : Int.log 10 value +
      (((digits + 1 : ℕ) : ℤ) - 1 - Int.log 10 value) = digits := by
    push_cast
    ring
  rw [power, zpow_natCast]
  have scaled : ((10 ^ digits : ℤ) : ℚ) ≤
      value * (10 : ℚ) ^ (((digits + 1 : ℕ) : ℤ) - 1 - Int.log 10 value) := by
    push_cast
    calc
      (10 : ℚ) ^ digits = 10 ^ Int.log 10 value *
          10 ^ (((digits + 1 : ℕ) : ℤ) - 1 - Int.log 10 value) := by
        rw [← zpow_add₀ (by norm_num), power, zpow_natCast]
      _ ≤ value * 10 ^ (((digits + 1 : ℕ) : ℤ) - 1 - Int.log 10 value) := by
        have := zpow_ten_pos
          (((digits + 1 : ℕ) : ℤ) - 1 - Int.log 10 value)
        gcongr
      _ = _ := by push_cast; rfl
  exact_mod_cast roundHalfEven_nearest.whole_le scaled

private theorem significant_mono_of_pos {low high : ℚ} (positive : 0 < low)
    (ordered : low ≤ high) :
    significant (digits + 1) low ≤ significant (digits + 1) high := by
  have positive' : 0 < high := positive.trans_le ordered
  rcases (Int.log_mono_right (b := 10) positive ordered).eq_or_lt with same | apart
  · rw [significant_of_ne positive.ne', significant_of_ne positive'.ne',
      abs_of_pos positive, abs_of_pos positive', same]
    have scale := zpow_ten_pos (((digits + 1 : ℕ) : ℤ) - 1 - Int.log 10 high)
    have rounded := roundHalfEven_nearest.mono
      (mul_le_mul_of_nonneg_right ordered scale.le)
    have rounded' : ((roundHalfEven (low *
        10 ^ (((digits + 1 : ℕ) : ℤ) - 1 - Int.log 10 high)) : ℤ) : ℚ) ≤
        (roundHalfEven (high *
          10 ^ (((digits + 1 : ℕ) : ℤ) - 1 - Int.log 10 high)) : ℤ) := by
      exact_mod_cast rounded
    exact div_le_div_of_nonneg_right rounded' scale.le
  · calc
      significant (digits + 1) low ≤ 10 ^ (Int.log 10 low + 1) :=
        significant_le_pow positive
      _ ≤ 10 ^ Int.log 10 high := zpow_le_zpow_right₀ (by norm_num) apart
      _ ≤ significant (digits + 1) high := pow_le_significant positive'

/-- Rounding to significant digits keeps the order. -/
theorem significant_mono : Monotone (significant (digits + 1)) := by
  intro low high ordered
  rcases lt_trichotomy low 0 with below | zero | above
  · rcases le_or_gt 0 high with sign | sign
    · have first : 0 ≤ significant (digits + 1) (-low) :=
        significant_nonneg (neg_nonneg.mpr below.le)
      have second : 0 ≤ significant (digits + 1) high := significant_nonneg sign
      rw [significant_neg] at first
      linarith
    · have flipped : significant (digits + 1) (-high) ≤
          significant (digits + 1) (-low) :=
        significant_mono_of_pos (neg_pos.mpr sign) (neg_le_neg ordered)
      rw [significant_neg, significant_neg] at flipped
      linarith
  · rw [zero, significant_zero]
    exact significant_nonneg (zero ▸ ordered)
  · exact significant_mono_of_pos above ordered

end Significant

end Library
