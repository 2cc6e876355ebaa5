import Mousstec.Sales.Totals

/-!
# Discounts at settlement

A cut of what is due becomes a discount before tax.  The total falls strictly
with the discount, and the rounded guess is less than a cent from the exact
discount, so the best whole-cent discount is the guess or a neighbour of it.
-/

namespace Mousstec.Sales

open Library

/-- `total` of `_pre_tax_discount_for`. -/
def totalOf (rate : ℚ) (subtotal : ℤ) : Except TotalError ℤ := do
  let tax ← taxAmount rate subtotal
  pure (subtotal + tax)

/-- The lesser of two candidates under the key `(error, discount)`. -/
def lesser (first second : ℤ × ℤ) : ℤ × ℤ :=
  if second.1 < first.1 ∨ second.1 = first.1 ∧ second.2 < first.2 then second
  else first

def candidate (rate : ℚ) (base target discount : ℤ) :
    Except TotalError (ℤ × ℤ) := do
  let total ← totalOf rate (base - discount)
  pure (|total - target|, discount)

/-- `_pre_tax_discount_for`, for a cut in cents. -/
def preTaxDiscountFor (invoice : SaleInvoice) (parts : Breakdown) (cut : ℤ) :
    Except TotalError ℤ := do
  let rate := invoice.taxPercentage
  if rate ≤ 0 then pure cut
  else
    let base := invoice.subtotal parts
    let total ← totalOf rate base
    let target := total - cut
    let guess ← quantize (decimal (decimal (cut * 100) / decimal (100 + rate)))
    let below ← candidate rate base target (guess - 1)
    let same ← candidate rate base target guess
    let above ← candidate rate base target (guess + 1)
    pure (lesser (lesser below same) above).2

/-- The total that `update_total` gives an invoice with more discount. -/
def SaleInvoice.totalWith (invoice : SaleInvoice) (parts : Breakdown)
    (discount : ℤ) : ℤ :=
  let discounted := { invoice with discount := invoice.discount + discount }
  discounted.subtotal parts + taxOn invoice.taxPercentage (discounted.subtotal parts)

/-- No discount in cents comes closer to the old total less the cut. -/
structure SettlesBest (invoice : SaleInvoice) (parts : Breakdown)
    (cut discount : ℤ) : Prop where
  closest : ∀ other,
    |invoice.totalWith parts discount - (invoice.totalWith parts 0 - cut)| ≤
      |invoice.totalWith parts other - (invoice.totalWith parts 0 - cut)|
  exact : (∃ other, invoice.totalWith parts other =
      invoice.totalWith parts 0 - cut) →
    invoice.totalWith parts discount = invoice.totalWith parts 0 - cut
  near : invoice.taxPercentage ≤ 100 →
    |invoice.totalWith parts discount - (invoice.totalWith parts 0 - cut)| ≤ 1

section Bracket

variable {error : ℤ → ℤ} {guess : ℤ}

def chosen (error : ℤ → ℤ) (guess : ℤ) : ℤ :=
  (lesser (lesser (|error (guess - 1)|, guess - 1) (|error guess|, guess))
    (|error (guess + 1)|, guess + 1)).2

theorem chosen_least (error : ℤ → ℤ) (guess : ℤ) :
    |error (chosen error guess)| ≤ |error (guess - 1)| ∧
      |error (chosen error guess)| ≤ |error guess| ∧
      |error (chosen error guess)| ≤ |error (guess + 1)| := by
  unfold chosen lesser
  split_ifs <;> simp only at * <;> omega

/-- Where an error falls from one neighbour to the other through zero, nothing
beats the three of them. -/
theorem chosen_closest (falls : StrictAnti error) (below : 0 ≤ error (guess - 1))
    (above : error (guess + 1) ≤ 0) (other : ℤ) :
    |error (chosen error guess)| ≤ |error other| := by
  obtain ⟨left, middle, right⟩ := chosen_least error guess
  rcases lt_trichotomy other guess with less | rfl | more
  · refine left.trans ?_
    have ordered : error (guess - 1) ≤ error other :=
      falls.antitone (by omega)
    rw [abs_of_nonneg below, abs_of_nonneg (below.trans ordered)]
    exact ordered
  · exact middle
  · refine right.trans ?_
    have ordered : error other ≤ error (guess + 1) :=
      falls.antitone (by omega)
    rw [abs_of_nonpos above, abs_of_nonpos (ordered.trans above)]
    omega

theorem chosen_near (below : 0 ≤ error (guess - 1))
    (above : error (guess + 1) ≤ 0)
    (first : error (guess - 1) ≤ error guess + 2)
    (second : error guess ≤ error (guess + 1) + 2) :
    |error (chosen error guess)| ≤ 1 := by
  obtain ⟨left, middle, right⟩ := chosen_least error guess
  rcases le_total 0 (error guess) with sign | sign
  · rw [abs_of_nonneg sign] at middle
    rw [abs_of_nonpos above] at right
    omega
  · rw [abs_of_nonpos sign] at middle
    rw [abs_of_nonneg below] at left
    omega

end Bracket

section Total

variable {rate : ℚ} {base cut : ℤ}

def totalOn (rate : ℚ) (subtotal : ℤ) : ℤ := subtotal + taxOn rate subtotal

theorem totalOn_strictMono (sign : 0 ≤ rate) : StrictMono (totalOn rate) := by
  intro low high less
  have taxes := taxOn_mono sign less.le
  unfold totalOn
  omega

theorem totalOn_near (rate : ℚ) (subtotal : ℤ) :
    |totalOn rate subtotal - subtotal * (1 + rate / 100)| ≤
      1 / 2 + |subtotal * (rate / 100)| * (3 / (2 * 10 ^ 27)) := by
  have near := taxOn_near rate subtotal
  have parts : (totalOn rate subtotal : ℚ) - subtotal * (1 + rate / 100) =
      taxOn rate subtotal - subtotal * (rate / 100) := by
    unfold totalOn
    push_cast
    ring
  rwa [parts]

theorem guess_near (sign : 0 ≤ rate) (least : 0 ≤ cut) (most : cut < 2 * 10 ^ 12) :
    |roundHalfUp (decimal (decimal (cut * 100) / decimal (100 + rate))) -
      (cut : ℚ) / (1 + rate / 100)| ≤ 1 / 2 + 1 / 10 ^ 14 := by
  have nonneg : (0 : ℚ) ≤ cut := by exact_mod_cast least
  have bound : (cut : ℚ) ≤ 2 * 10 ^ 12 := by exact_mod_cast most.le
  have whole : decimal ((cut : ℚ) * 100) = cut * 100 := by
    have cast : (cut : ℚ) * 100 = ((cut * 100 : ℤ) : ℚ) := by
      push_cast
      rfl
    rw [cast]
    refine significant_intCast ?_
    rw [abs_of_nonneg (by omega)]
    norm_num
    omega
  have divisor := decimal_near (100 + rate)
  rw [abs_of_nonneg (by linarith : 0 ≤ 100 + rate)] at divisor
  have lower : 3 / 4 * (100 + rate) ≤ decimal (100 + rate) := by
    have bounds := (abs_le.mp divisor).1
    linarith
  have positive : 0 < decimal (100 + rate) := by linarith
  rw [whole]
  set quotient := (cut : ℚ) * 100 / decimal (100 + rate) with meaning
  have exact : (cut : ℚ) / (1 + rate / 100) = cut * 100 / (100 + rate) := by
    have hundred : 100 + rate ≠ 0 := by linarith
    field_simp
  have size : quotient ≤ 4 / 3 * cut := by
    rw [meaning, div_le_iff₀ positive]
    nlinarith
  have sign' : 0 ≤ quotient := div_nonneg (by linarith) positive.le
  have divided : |quotient - cut / (1 + rate / 100)| ≤ 1 / (3 * 10 ^ 14) := by
    have parts : quotient - cut / (1 + rate / 100) =
        cut * 100 * (100 + rate - decimal (100 + rate)) /
          (decimal (100 + rate) * (100 + rate)) := by
      rw [exact, meaning]
      have hundred : 100 + rate ≠ 0 := by linarith
      have other := positive.ne'
      field_simp
    rw [parts, abs_div, abs_mul, abs_of_nonneg (by linarith : 0 ≤ (cut : ℚ) * 100),
      abs_sub_comm, abs_of_pos (mul_pos positive (by linarith)),
      div_le_iff₀ (mul_pos positive (by linarith))]
    calc
      (cut : ℚ) * 100 * |decimal (100 + rate) - (100 + rate)| ≤
          2 * 10 ^ 12 * 100 * ((100 + rate) / (2 * 10 ^ 27)) := by gcongr
      _ ≤ 1 / (3 * 10 ^ 14) * (75 * (100 + rate)) := by
        have hundred : 0 ≤ 100 + rate := by linarith
        linarith
      _ ≤ 1 / (3 * 10 ^ 14) * (decimal (100 + rate) * (100 + rate)) := by
        gcongr
        linarith
  have rounded := decimal_near quotient
  rw [abs_of_nonneg sign'] at rounded
  have last := roundHalfUp_nearest.near (decimal quotient)
  rw [abs_le] at divided rounded last ⊢
  constructor <;> linarith

def discountError (rate : ℚ) (base cut discount : ℤ) : ℤ :=
  totalOn rate (base - discount) - (totalOn rate base - cut)

theorem discountError_strictAnti (sign : 0 ≤ rate) (base cut : ℤ) :
    StrictAnti (discountError rate base cut) := by
  intro low high less
  have totals := totalOn_strictMono sign (by omega : base - high < base - low)
  unfold discountError
  omega

variable (cut) in
theorem discountError_near (sign : 0 ≤ rate) (bounded : rate < 1000)
    (fits : |totalOn rate base| < 10 ^ 12) {discount : ℤ}
    (small : |discount| ≤ 3 * 10 ^ 12) :
    |discountError rate base cut discount -
      (cut - discount * (1 + rate / 100))| ≤ 1 + 1 / 10 ^ 13 := by
  have share := share_le_of_fits sign fits
  have start := totalOn_near rate base
  have later := totalOn_near rate (base - discount)
  have small' : |(discount : ℚ)| ≤ 3 * 10 ^ 12 := by exact_mod_cast small
  have taken : |(discount : ℚ) * (rate / 100)| ≤ 3 * 10 ^ 13 := by
    rw [abs_mul, abs_of_nonneg (by linarith : 0 ≤ rate / 100)]
    calc
      |(discount : ℚ)| * (rate / 100) ≤ 3 * 10 ^ 12 * 10 := by
        gcongr
        linarith
      _ = 3 * 10 ^ 13 := by norm_num
  have share' : |((base - discount : ℤ) : ℚ) * (rate / 100)| ≤ 4 * 10 ^ 13 := by
    push_cast
    rw [sub_mul]
    refine (abs_sub _ _).trans ?_
    linarith
  have error : (discountError rate base cut discount : ℚ) -
      (cut - discount * (1 + rate / 100)) =
        totalOn rate (base - discount) -
            ((base - discount : ℤ) : ℚ) * (1 + rate / 100) -
          (totalOn rate base - base * (1 + rate / 100)) := by
    unfold discountError
    push_cast
    ring
  rw [error]
  refine (abs_sub _ _).trans ?_
  linarith

theorem discountError_bracket (sign : 0 ≤ rate) (bounded : rate < 1000)
    (fits : |totalOn rate base| < 10 ^ 12) {guess : ℤ}
    (small : |guess| ≤ 2 * 10 ^ 12 + 1)
    (near : |guess - (cut : ℚ) / (1 + rate / 100)| ≤ 1 / 2 + 1 / 10 ^ 14) :
    0 ≤ discountError rate base cut (guess - 1) ∧
      discountError rate base cut (guess + 1) ≤ 0 := by
  have divisor : 0 < 1 + rate / 100 := by linarith
  have exact : (cut : ℚ) = cut / (1 + rate / 100) * (1 + rate / 100) := by
    field_simp
  set ideal := (cut : ℚ) / (1 + rate / 100)
  rw [abs_le] at near small
  constructor
  · have error := (abs_le.mp (discountError_near cut sign bounded fits
      (by rw [abs_le]; omega : |guess - 1| ≤ 3 * 10 ^ 12))).1
    have apart : 1 / 4 * (1 + rate / 100) ≤
        (ideal - (guess - 1)) * (1 + rate / 100) := by
      apply mul_le_mul_of_nonneg_right _ divisor.le
      linarith
    have above : ((-1 : ℤ) : ℚ) < discountError rate base cut (guess - 1) := by
      push_cast at error ⊢
      linarith
    have above' : -1 < discountError rate base cut (guess - 1) := by
      exact_mod_cast above
    omega
  · have error := (abs_le.mp (discountError_near cut sign bounded fits
      (by rw [abs_le]; omega : |guess + 1| ≤ 3 * 10 ^ 12))).2
    have apart : (ideal - (guess + 1)) * (1 + rate / 100) ≤
        -(1 / 4) * (1 + rate / 100) := by
      apply mul_le_mul_of_nonneg_right _ divisor.le
      linarith
    have below : (discountError rate base cut (guess + 1) : ℚ) < (1 : ℤ) := by
      push_cast at error ⊢
      linarith
    have below' : discountError rate base cut (guess + 1) < 1 := by
      exact_mod_cast below
    omega

theorem totalOn_step (sign : 0 ≤ rate) (bounded : rate ≤ 100) {subtotal : ℤ}
    (small : |subtotal| ≤ 4 * 10 ^ 12) :
    totalOn rate (subtotal + 1) ≤ totalOn rate subtotal + 2 := by
  have small' : |(subtotal : ℚ)| ≤ 4 * 10 ^ 12 := by exact_mod_cast small
  have size : |(subtotal : ℚ) * (rate / 100)| ≤ 4 * 10 ^ 12 := by
    rw [abs_mul, abs_of_nonneg (by linarith : 0 ≤ rate / 100)]
    calc
      |(subtotal : ℚ)| * (rate / 100) ≤ 4 * 10 ^ 12 * 1 := by
        gcongr
        linarith
      _ = 4 * 10 ^ 12 := by norm_num
  have next : ((subtotal + 1 : ℤ) : ℚ) * (rate / 100) =
      subtotal * (rate / 100) + rate / 100 := by
    push_cast
    ring
  have size' : |((subtotal + 1 : ℤ) : ℚ) * (rate / 100)| ≤ 5 * 10 ^ 12 := by
    rw [next]
    refine (abs_add_le _ _).trans ?_
    rw [abs_of_nonneg (by linarith : 0 ≤ rate / 100)]
    linarith
  have share := (share_near rate subtotal).trans
    (by linarith : _ ≤ (1 : ℚ) / 10 ^ 14)
  have share' := (share_near rate (subtotal + 1)).trans
    (by linarith : _ ≤ (1 : ℚ) / 10 ^ 14)
  by_contra more
  unfold totalOn at more
  have jump : taxOn rate subtotal + 2 ≤ taxOn rate (subtotal + 1) := by omega
  have jump' : (taxOn rate subtotal : ℚ) + 2 ≤ taxOn rate (subtotal + 1) := by
    exact_mod_cast jump
  have lower := roundHalfUp_nearest.lower
    (decimal (decimal (subtotal * rate) / 100))
  have upper := roundHalfUp_nearest.upper
    (decimal (decimal ((subtotal + 1 : ℤ) * rate) / 100))
  have taxes : (decimal (decimal (subtotal * rate) / 100) : ℚ) + 1 ≤
      decimal (decimal ((subtotal + 1 : ℤ) * rate) / 100) := by
    unfold taxOn at jump'
    linarith
  have tolerance : 1 - 2 / 10 ^ 14 ≤ rate / 100 := by
    have first := (abs_le.mp share).1
    have second := (abs_le.mp share').2
    linarith
  -- So near a hundred percent the tax is the amount itself.
  have missing : |(subtotal : ℚ) * (rate / 100) - subtotal| ≤ 1 / 10 := by
    have parts : (subtotal : ℚ) * (rate / 100) - subtotal =
        -(subtotal * (1 - rate / 100)) := by ring
    have rest : 1 - rate / 100 ≤ 2 / 10 ^ 14 := by linarith
    have sign' : 0 ≤ 1 - rate / 100 := by linarith
    rw [parts, abs_neg, abs_mul, abs_of_nonneg sign']
    calc
      |(subtotal : ℚ)| * (1 - rate / 100) ≤
          4 * 10 ^ 12 * (2 / 10 ^ 14) := by gcongr
      _ ≤ 1 / 10 := by norm_num
  rw [abs_le] at share share' missing
  have same : taxOn rate subtotal = subtotal := by
    apply roundHalfUp_nearest.eq_of_near
    rw [abs_lt]
    constructor <;> linarith
  have same' : taxOn rate (subtotal + 1) = subtotal + 1 := by
    apply roundHalfUp_nearest.eq_of_near
    have cast : ((subtotal + 1 : ℤ) : ℚ) = subtotal + 1 := by push_cast; rfl
    rw [abs_lt]
    constructor <;> linarith
  omega

theorem totalOf_eq (sign : 0 ≤ rate) (bounded : rate < 1000) {subtotal : ℤ}
    (small : |subtotal| ≤ 10 ^ 13) :
    totalOf rate subtotal = .ok (totalOn rate subtotal) := by
  have near := taxOn_near rate subtotal
  have small' : |(subtotal : ℚ)| ≤ 10 ^ 13 := by exact_mod_cast small
  have size : |(subtotal : ℚ) * (rate / 100)| ≤ 10 ^ 14 := by
    rw [abs_mul, abs_of_nonneg (by linarith : 0 ≤ rate / 100)]
    calc
      |(subtotal : ℚ)| * (rate / 100) ≤ 10 ^ 13 * 10 := by
        gcongr
        linarith
      _ = 10 ^ 14 := by norm_num
  have fits : |(taxOn rate subtotal : ℚ)| < 10 ^ 28 := by
    rw [abs_le] at near size
    rw [abs_lt]
    have nonneg := abs_nonneg ((subtotal : ℚ) * (rate / 100))
    have size' : |(subtotal : ℚ) * (rate / 100)| ≤ 10 ^ 14 := abs_le.mpr size
    constructor <;> linarith
  have fits' : |taxOn rate subtotal| < 10 ^ 28 := by exact_mod_cast fits
  simp only [totalOf, taxAmount_eq, if_pos fits', bind, Except.bind, pure,
    Except.pure, totalOn]

variable (cut) in
theorem candidate_eq (sign : 0 ≤ rate) (bounded : rate < 1000) {discount : ℤ}
    (small : |base - discount| ≤ 10 ^ 13) :
    candidate rate base (totalOn rate base - cut) discount =
      .ok (|discountError rate base cut discount|, discount) := by
  simp only [candidate, totalOf_eq sign bounded small, bind, Except.bind, pure,
    Except.pure, discountError]

end Total

theorem SaleInvoice.totalWith_eq (invoice : SaleInvoice) (parts : Breakdown)
    (discount : ℤ) :
    invoice.totalWith parts discount =
      totalOn invoice.taxPercentage (invoice.subtotal parts - discount) := by
  have subtotal : { invoice with
        discount := invoice.discount + discount }.subtotal parts =
      invoice.subtotal parts - discount := by
    unfold SaleInvoice.subtotal
    ring
  simp only [SaleInvoice.totalWith, subtotal, totalOn]

/-- The chosen discount is the best in whole cents.  The rate and the total are
values of their columns, and a settlement cuts at most what is due, the difference
of two such amounts. -/
theorem preTaxDiscountFor_best (invoice : SaleInvoice) (parts : Breakdown)
    (cut : ℤ) (positive : 0 < invoice.taxPercentage)
    (bounded : invoice.taxPercentage < 1000)
    (fits : |invoice.totalWith parts 0| < 10 ^ 12)
    (least : 0 ≤ cut) (most : cut < 2 * 10 ^ 12) :
    ∃ discount, preTaxDiscountFor invoice parts cut = .ok discount ∧
      SettlesBest invoice parts cut discount := by
  have total := invoice.totalWith_eq parts
  have start : invoice.totalWith parts 0 =
      totalOn invoice.taxPercentage (invoice.subtotal parts) := by
    rw [total, sub_zero]
  rw [start] at fits
  set rate := invoice.taxPercentage with rate_eq
  set base := invoice.subtotal parts with base_eq
  have sign : 0 ≤ rate := positive.le
  have near := guess_near sign least most
  set guess := roundHalfUp (decimal (decimal (cut * 100) / decimal (100 + rate)))
    with meaning
  have amount := (abs_le_of_fits sign fits).1
  have small : |guess| ≤ 2 * 10 ^ 12 + 1 := by
    have nonneg : (0 : ℚ) ≤ cut := by exact_mod_cast least
    have upper : (cut : ℚ) ≤ 2 * 10 ^ 12 := by exact_mod_cast most.le
    have above : 0 ≤ (cut : ℚ) / (1 + rate / 100) :=
      div_nonneg nonneg (by linarith)
    have below : (cut : ℚ) / (1 + rate / 100) ≤ cut :=
      div_le_self nonneg (by linarith)
    have size : |(guess : ℚ)| ≤ 2 * 10 ^ 12 + 1 := by
      rw [abs_le] at near ⊢
      constructor <;> linarith
    exact_mod_cast size
  have fits' : |guess| < 10 ^ 28 := small.trans_lt (by norm_num)
  obtain ⟨below, above⟩ := discountError_bracket sign bounded fits small near
  have falls := discountError_strictAnti sign base cut
  have bounds := abs_lt.mp amount
  have bounds' := abs_le.mp small
  have computed : preTaxDiscountFor invoice parts cut =
      .ok (chosen (discountError rate base cut) guess) := by
    have quantized : quantize
        (decimal (decimal (cut * 100) / decimal (100 + rate))) = .ok guess :=
      if_pos fits'
    simp only [preTaxDiscountFor, ← rate_eq, ← base_eq,
      if_neg (not_le.mpr positive), quantized,
      totalOf_eq sign bounded (by omega : |base| ≤ 10 ^ 13),
      candidate_eq cut sign bounded
        (by rw [abs_le]; omega : |base - (guess - 1)| ≤ 10 ^ 13),
      candidate_eq cut sign bounded
        (by rw [abs_le]; omega : |base - guess| ≤ 10 ^ 13),
      candidate_eq cut sign bounded
        (by rw [abs_le]; omega : |base - (guess + 1)| ≤ 10 ^ 13),
      bind, Except.bind, pure, Except.pure, chosen]
  have closest := chosen_closest falls below above
  have errors : ∀ discount, invoice.totalWith parts discount -
      (invoice.totalWith parts 0 - cut) = discountError rate base cut discount := by
    intro discount
    rw [start, total]
    rfl
  refine ⟨_, computed, ?_, ?_, ?_⟩
  · intro other
    rw [errors, errors]
    exact closest other
  · rintro ⟨other, hit⟩
    have zero : discountError rate base cut other = 0 := by
      rw [← errors, hit, sub_self]
    have none := closest other
    rw [zero, abs_zero] at none
    have exact := errors (chosen (discountError rate base cut) guess)
    rw [abs_nonpos_iff.mp none] at exact
    omega
  · intro hundred
    rw [errors]
    have steps : ∀ discount, |discount| ≤ 2 * 10 ^ 12 + 2 →
        discountError rate base cut (discount - 1) ≤
          discountError rate base cut discount + 2 := by
      intro discount inside
      have range := abs_le.mp inside
      have step := totalOn_step sign hundred
        (by rw [abs_le]; omega : |base - discount| ≤ 4 * 10 ^ 12)
      have same : base - discount + 1 = base - (discount - 1) := by ring
      rw [same] at step
      unfold discountError
      omega
    have first := steps guess (by omega)
    have second := steps (guess + 1) (by rw [abs_le]; omega)
    rw [add_sub_cancel_right] at second
    exact chosen_near below above first second

/-- A cut of 0.13 on 10.00 with a tax of fourteen percent. -/
theorem preTaxDiscountFor_best_thirteen :
    ∃ discount, preTaxDiscountFor
        { customer := 0, dateCreated := 0, taxPercentage := 14 }
        ⟨1000, 0, 0, 0⟩ 13 = .ok discount ∧
      SettlesBest { customer := 0, dateCreated := 0, taxPercentage := 14 }
        ⟨1000, 0, 0, 0⟩ 13 discount :=
  preTaxDiscountFor_best _ _ 13 (by decide +kernel) (by decide +kernel)
    (by decide +kernel) (by decide) (by decide)

end Mousstec.Sales
