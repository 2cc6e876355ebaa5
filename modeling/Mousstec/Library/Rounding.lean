import Mathlib.Data.Int.ConditionallyCompleteOrder
import Mathlib.Algebra.Order.Round
import Mathlib.Data.Int.Log
import Mathlib.Data.Rat.Floor
import Mathlib.Tactic.Linarith
import Mathlib.Tactic.NormNum

/-!
# Rounding to whole units

Amounts are kept in whole units while intermediate results are exact
rationals.  The two rounding modes below differ on ties only, so most facts
are stated once for every nearest-integer rounding and instantiated at both.
-/

namespace Library

/-- A rounding to a nearest integer that leaves integers alone and respects
the order. -/
structure NearestRounding (rounding : ℚ → ℤ) : Prop where
  near : ∀ value, |(rounding value : ℚ) - value| ≤ 1 / 2
  whole : ∀ amount : ℤ, rounding amount = amount
  mono : Monotone rounding

/-- Nearest integer, ties away from zero. -/
def roundHalfUp (value : ℚ) : ℤ :=
  if 0 ≤ value then round value else -round (-value)

/-- Nearest integer, ties to the even neighbour. -/
def roundHalfEven (value : ℚ) : ℤ :=
  if Int.fract value < 1 / 2 then ⌊value⌋
  else if 1 / 2 < Int.fract value then ⌊value⌋ + 1
  else if ⌊value⌋ % 2 = 0 then ⌊value⌋
  else ⌊value⌋ + 1

/-- A value rounded to a number of significant decimal digits, ties to even. -/
def significant (digits : ℕ) (value : ℚ) : ℚ :=
  if value = 0 then 0
  else
    let scale := (10 : ℚ) ^ ((digits : ℤ) - 1 - Int.log 10 |value|)
    roundHalfEven (value * scale) / scale

example : significant 3 (2 / 3) = 667 / 1000 := by
  decide +kernel

example : roundHalfUp (5 / 2) = 3 ∧ roundHalfUp (-5 / 2) = -3 ∧
    roundHalfEven (5 / 2) = 2 := by
  decide +kernel

namespace NearestRounding

variable {rounding : ℚ → ℤ} (nearest : NearestRounding rounding)

include nearest

theorem zero : rounding 0 = 0 := by
  simpa using nearest.whole 0

theorem le_whole {value : ℚ} {bound : ℤ} (upper : value ≤ bound) :
    rounding value ≤ bound := by
  simpa [nearest.whole] using nearest.mono upper

theorem whole_le {value : ℚ} {bound : ℤ} (lower : (bound : ℚ) ≤ value) :
    bound ≤ rounding value := by
  simpa [nearest.whole] using nearest.mono lower

theorem nonneg {value : ℚ} (sign : 0 ≤ value) : 0 ≤ rounding value := by
  apply nearest.whole_le
  simpa using sign

theorem upper (value : ℚ) : (rounding value : ℚ) ≤ value + 1 / 2 := by
  have bound := (abs_le.mp (nearest.near value)).2
  linarith

theorem lower (value : ℚ) : value - 1 / 2 ≤ (rounding value : ℚ) := by
  have bound := (abs_le.mp (nearest.near value)).1
  linarith

/-- Less than half a unit away, a value is rounded to it. -/
theorem eq_of_near {value : ℚ} {amount : ℤ}
    (close : |value - amount| < 1 / 2) : rounding value = amount := by
  have rounded := abs_le.mp (nearest.near value)
  have near := abs_lt.mp close
  have above : (rounding value : ℚ) < (amount + 1 : ℤ) := by
    push_cast
    linarith
  have below : ((amount - 1 : ℤ) : ℚ) < rounding value := by
    push_cast
    linarith
  have upper : rounding value < amount + 1 := by exact_mod_cast above
  have lower : amount - 1 < rounding value := by exact_mod_cast below
  omega

end NearestRounding

@[simp] theorem roundHalfUp_intCast (amount : ℤ) :
    roundHalfUp (amount : ℚ) = amount := by
  unfold roundHalfUp
  split
  · exact round_intCast amount
  · have cast : -(amount : ℚ) = ((-amount : ℤ) : ℚ) := by
      push_cast
      ring
    rw [cast, round_intCast, neg_neg]

@[simp] theorem roundHalfUp_zero : roundHalfUp 0 = 0 := by
  simpa using roundHalfUp_intCast 0

private theorem monotone_round : Monotone (round : ℚ → ℤ) := by
  intro low high ordered
  rw [round_eq, round_eq]
  apply Int.floor_mono
  linarith

private theorem round_nonneg {value : ℚ} (sign : 0 ≤ value) :
    0 ≤ round value := by
  simpa using monotone_round sign

theorem roundHalfUp_nearest : NearestRounding roundHalfUp where
  near value := by
    unfold roundHalfUp
    split
    · rw [abs_sub_comm]
      exact abs_sub_round value
    · have bound := abs_sub_round (-value)
      push_cast
      calc
        |(-(round (-value) : ℚ)) - value| = |-value - round (-value)| := by
          congr 1
          ring
        _ ≤ 1 / 2 := bound
  whole := roundHalfUp_intCast
  mono := by
    intro low high ordered
    unfold roundHalfUp
    split
    · have highSign : 0 ≤ high := by linarith
      simpa [highSign] using monotone_round ordered
    · rename_i lowSign
      have lowPart : 0 ≤ round (-low) := by
        apply round_nonneg
        linarith
      split
      · rename_i highSign
        have highPart := round_nonneg highSign
        omega
      · have flipped : round (-high) ≤ round (-low) := by
          apply monotone_round
          linarith
        omega

/-- Rounding away from zero commutes with a change of sign. -/
theorem roundHalfUp_neg (value : ℚ) : roundHalfUp (-value) = -roundHalfUp value := by
  unfold roundHalfUp
  rcases lt_trichotomy value 0 with below | zero | above
  · have notNeg : ¬ 0 ≤ value := by linarith
    have negSign : 0 ≤ -value := by linarith
    simp [notNeg, negSign]
  · simp [zero]
  · have notNeg : ¬ 0 ≤ -value := by linarith
    have sign : 0 ≤ value := by linarith
    rw [if_neg notNeg, if_pos sign, neg_neg]

/-- Whole numbers pass through rounding, unless the sign changes. -/
theorem roundHalfUp_sub_intCast {value : ℚ} {amount : ℤ}
    (sign : 0 ≤ value * (value - amount)) :
    roundHalfUp (value - amount) = roundHalfUp value - amount := by
  have positive : ∀ (value : ℚ) (amount : ℤ), 0 ≤ value → 0 ≤ value - amount →
      roundHalfUp (value - amount) = roundHalfUp value - amount := by
    intro value amount sign sign'
    rw [roundHalfUp, roundHalfUp, if_pos sign', if_pos sign, round_sub_intCast]
  rcases mul_nonneg_iff.mp sign with ⟨low, low'⟩ | ⟨high, high'⟩
  · exact positive value amount low low'
  · have flipped := positive (-value) (-amount) (by linarith)
      (by push_cast; linarith)
    have same : -value - ((-amount : ℤ) : ℚ) = -(value - amount) := by
      push_cast
      ring
    rw [same, roundHalfUp_neg, roundHalfUp_neg] at flipped
    omega

private theorem roundHalfEven_eq (value : ℚ) :
    roundHalfEven value = ⌊value⌋ ∧ Int.fract value ≤ 1 / 2 ∨
      roundHalfEven value = ⌊value⌋ + 1 ∧ 1 / 2 ≤ Int.fract value := by
  unfold roundHalfEven
  split
  · rename_i less
    exact .inl ⟨rfl, le_of_lt less⟩
  · split
    · rename_i more
      exact .inr ⟨rfl, le_of_lt more⟩
    · split
      · left
        constructor
        · rfl
        · linarith
      · right
        constructor
        · rfl
        · linarith

@[simp] theorem roundHalfEven_intCast (amount : ℤ) :
    roundHalfEven (amount : ℚ) = amount := by
  simp [roundHalfEven]

@[simp] theorem roundHalfEven_zero : roundHalfEven 0 = 0 := by
  simpa using roundHalfEven_intCast 0

theorem roundHalfEven_nearest : NearestRounding roundHalfEven where
  near value := by
    have parts := Int.floor_add_fract value
    have fractNonneg := Int.fract_nonneg value
    have fractLt := Int.fract_lt_one value
    rcases roundHalfEven_eq value with ⟨rounded, small⟩ | ⟨rounded, large⟩
    · rw [rounded, abs_le]
      constructor <;> linarith
    · rw [rounded, abs_le]
      push_cast
      constructor <;> linarith
  whole := roundHalfEven_intCast
  mono := by
    intro low high ordered
    have floors : ⌊low⌋ ≤ ⌊high⌋ := Int.floor_mono ordered
    rcases Int.lt_or_eq_of_le floors with apart | same
    · rcases roundHalfEven_eq low with ⟨lowRounded, _⟩ | ⟨lowRounded, _⟩
      all_goals
        rcases roundHalfEven_eq high with ⟨highRounded, _⟩ | ⟨highRounded, _⟩
      all_goals omega
    · -- On one unit interval the fractions compare as the values do.
      have fractions : Int.fract low ≤ Int.fract high := by
        have lowParts := Int.floor_add_fract low
        have highParts := Int.floor_add_fract high
        rw [same] at lowParts
        linarith
      unfold roundHalfEven
      rw [same]
      split_ifs <;> first | omega | linarith

/-- Ties to even commute with a change of sign. -/
theorem roundHalfEven_neg (value : ℚ) :
    roundHalfEven (-value) = -roundHalfEven value := by
  by_cases whole : Int.fract value = 0
  · have amount : value = (⌊value⌋ : ℤ) := by
      have parts := Int.floor_add_fract value
      linarith
    rw [amount]
    have opposite : -((⌊value⌋ : ℤ) : ℚ) = ((-⌊value⌋ : ℤ) : ℚ) := by
      push_cast
      rfl
    rw [opposite, roundHalfEven_intCast, roundHalfEven_intCast]
  · have fraction : Int.fract (-value) = 1 - Int.fract value :=
      Int.fract_neg whole
    have floors : ⌊-value⌋ = -⌊value⌋ - 1 := by
      have parts := Int.floor_add_fract value
      have opposite := Int.floor_add_fract (-value)
      have same : ((⌊-value⌋ : ℤ) : ℚ) = ((-⌊value⌋ - 1 : ℤ) : ℚ) := by
        push_cast
        linarith
      exact_mod_cast same
    unfold roundHalfEven
    rw [fraction, floors]
    split_ifs <;> first | omega | (exfalso; linarith)

/-- A quotient of whole numbers is rounded by its remainder. -/
theorem roundHalfEven_div (amount : ℤ) {parts : ℕ} (positive : parts ≠ 0) :
    roundHalfEven ((amount : ℚ) / parts) =
      if 2 * (amount % parts) < parts ∨
          2 * (amount % parts) = parts ∧ amount / parts % 2 = 0 then
        amount / parts
      else amount / parts + 1 := by
  have divisor : (0 : ℚ) < parts := by positivity
  have floor : ⌊(amount : ℚ) / parts⌋ = amount / parts :=
    Rat.floor_intCast_div_natCast amount parts
  have fraction : Int.fract ((amount : ℚ) / parts) =
      ((amount % parts : ℤ) : ℚ) / parts :=
    Int.fract_div_intCast_eq_div_intCast_mod
  have below : Int.fract ((amount : ℚ) / parts) < 1 / 2 ↔
      2 * (amount % parts) < parts := by
    rw [fraction, div_lt_div_iff₀ divisor two_pos]
    constructor
    · intro less
      have cast : ((2 * (amount % parts) : ℤ) : ℚ) < ((parts : ℤ) : ℚ) := by
        push_cast
        linarith
      exact_mod_cast cast
    · intro less
      have cast : ((2 * (amount % parts) : ℤ) : ℚ) < ((parts : ℤ) : ℚ) := by
        exact_mod_cast less
      push_cast at cast
      linarith
  have above : 1 / 2 < Int.fract ((amount : ℚ) / parts) ↔
      parts < 2 * (amount % parts) := by
    rw [fraction, div_lt_div_iff₀ two_pos divisor]
    constructor
    · intro less
      have cast : ((parts : ℤ) : ℚ) < ((2 * (amount % parts) : ℤ) : ℚ) := by
        push_cast
        linarith
      exact_mod_cast cast
    · intro less
      have cast : ((parts : ℤ) : ℚ) < ((2 * (amount % parts) : ℤ) : ℚ) := by
        exact_mod_cast less
      push_cast at cast
      linarith
  rw [roundHalfEven, floor]
  simp only [below, above]
  split_ifs <;> omega

end Library
