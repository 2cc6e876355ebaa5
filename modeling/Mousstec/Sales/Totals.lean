import Mousstec.Library.Decimal
import Mousstec.Sales.Invoice

/-!
# Totals of sale invoices

A sale invoice charges its billable lines and services, the deposits on old
parts, and labor, less a discount; the tax is a rounded part of that.  What the
tables add up is exact, products and quotients keep the digits of the decimal
context.
-/

namespace Mousstec.Sales

open Library

def decimal (value : ℚ) : ℚ := significant 28 value

/-- What `update_total` raises. -/
inductive TotalError where
  | invalidOperation
  | outOfRange
  deriving DecidableEq

/-- The parts that `billable_breakdown` returns. -/
structure Breakdown where
  items : ℤ
  cost : ℤ
  services : ℤ
  core : ℤ
  deriving DecidableEq

def SaleInvoiceItem.price (item : SaleInvoiceItem) : ℤ :=
  if item.isBillable = true then item.quantity * item.unitPrice - item.discount
  else 0

def SaleInvoiceItem.coreCharge (item : SaleInvoiceItem) : ℤ :=
  if item.isCoreReturned = false ∧ item.isBillable = true then
    item.quantity * item.coreChargeApplied
  else 0

/-- `billable_breakdown`: all parts cost, only what is billable is charged. -/
def billableBreakdown (items : Table SaleInvoiceItem)
    (services : Table SaleInvoiceServiceItem) (pk : ℕ) : Breakdown where
  items := items.total fun _ item => if item.invoice = pk then item.price else 0
  cost := items.total fun _ item =>
    if item.invoice = pk then item.quantity * item.costAtSale else 0
  services := services.total fun _ service =>
    if service.invoice = pk ∧ service.isBillable = true then service.price else 0
  core := items.total fun _ item =>
    if item.invoice = pk then item.coreCharge else 0

def SaleInvoice.subtotal (invoice : SaleInvoice) (parts : Breakdown) : ℤ :=
  parts.items + parts.services + parts.core + invoice.laborCostManual -
    invoice.discount

/-- `quantize(CENT)`: the cents have to fit the context. -/
def quantize (value : ℚ) : Except TotalError ℤ :=
  if |roundHalfUp value| < 10 ^ 28 then .ok (roundHalfUp value)
  else .error .invalidOperation

def taxOn (rate : ℚ) (subtotal : ℤ) : ℤ :=
  roundHalfUp (decimal (decimal (subtotal * rate) / 100))

def taxAmount (rate : ℚ) (subtotal : ℤ) : Except TotalError ℤ :=
  quantize (decimal (decimal (subtotal * rate) / 100))

theorem taxAmount_eq (rate : ℚ) (subtotal : ℤ) :
    taxAmount rate subtotal =
      if |taxOn rate subtotal| < 10 ^ 28 then .ok (taxOn rate subtotal)
      else .error .invalidOperation :=
  rfl

def SaleInvoice.Fits (invoice : SaleInvoice) : Prop :=
  |invoice.totalAmount| < 10 ^ 12 ∧ |invoice.totalCost| < 10 ^ 12 ∧
    |invoice.netProfit| < 10 ^ 12 ∧ |invoice.totalCoreCharge| < 10 ^ 10

instance SaleInvoice.decidableFits (invoice : SaleInvoice) :
    Decidable invoice.Fits :=
  inferInstanceAs (Decidable (_ ∧ _ ∧ _ ∧ _))

/-- `update_total`: the invoice as it is saved. -/
def SaleInvoice.updateTotal (invoice : SaleInvoice) (parts : Breakdown) :
    Except TotalError SaleInvoice := do
  let subtotal := invoice.subtotal parts
  let tax ← taxAmount invoice.taxPercentage subtotal
  let saved : SaleInvoice :=
    { invoice with
      totalAmount := subtotal + tax
      totalCost := parts.cost
      totalCoreCharge := parts.core
      netProfit := parts.items - parts.cost + parts.services +
        invoice.laborCostManual - invoice.discount }
  if saved.Fits then .ok saved else .error .outOfRange

/-- `_invoice_tax`, with the digits of the decimal context. -/
def SaleInvoice.invoiceTax (invoice : SaleInvoice) : ℤ :=
  let rate := invoice.taxPercentage
  let total := invoice.totalAmount
  if rate ≤ 0 ∨ total = 0 then 0
  else
    let subtotal := decimal (total / decimal (1 + decimal (rate / 100)))
    roundHalfUp (decimal (total - subtotal))

theorem decimal_near (value : ℚ) :
    |decimal value - value| ≤ |value| / (2 * 10 ^ 27) :=
  significant_near_abs value

theorem decimal_neg (value : ℚ) : decimal (-value) = -decimal value :=
  significant_neg value

theorem decimal_nonneg {value : ℚ} (sign : 0 ≤ value) : 0 ≤ decimal value :=
  significant_nonneg sign

theorem decimal_mono : Monotone decimal :=
  significant_mono

theorem returnedCredit_nonneg (invoices : Table SaleInvoice) (pk : ℕ)
    (invoice : SaleInvoice) : 0 ≤ returnedCredit invoices pk invoice := by
  unfold returnedCredit
  split
  · exact le_refl 0
  · apply Table.total_nonneg
    intro key other _
    split
    · exact le_max_right _ _
    · exact le_refl 0

section Rates

variable {rate : ℚ} (places : HasPlaces 2 rate) (small : |rate| < 1000)

include places small

theorem decimal_share : decimal (rate / 100) = rate / 100 := by
  apply significant_of_places 4
  · obtain ⟨cents, exact⟩ := places
    exact ⟨cents, by rw [← exact]; ring⟩
  · rw [abs_div, abs_of_pos (by norm_num : (0 : ℚ) < 100)]
    linarith

theorem decimal_rate : decimal (1 + rate / 100) = 1 + rate / 100 := by
  apply significant_of_places 4
  · obtain ⟨cents, exact⟩ := places
    exact ⟨10000 + cents, by push_cast; rw [← exact]; ring⟩
  · have sum := abs_add_le 1 (rate / 100)
    rw [abs_one, abs_div, abs_of_pos (by norm_num : (0 : ℚ) < 100)] at sum
    linarith

theorem taxOn_exact {subtotal : ℤ} (few : |subtotal| < 10 ^ 13) :
    taxOn rate subtotal = roundHalfUp (subtotal * rate / 100) := by
  obtain ⟨cents, exact⟩ := places
  have size : |(subtotal : ℚ) * rate| ≤ 10 ^ 13 * 1000 := by
    rw [abs_mul]
    apply mul_le_mul _ small.le (abs_nonneg _) (by norm_num)
    exact_mod_cast few.le
  have product : decimal (subtotal * rate) = subtotal * rate := by
    apply significant_of_places 2
    · exact ⟨subtotal * cents, by push_cast; rw [← exact]; ring⟩
    · linarith
  have quotient : decimal (subtotal * rate / 100) = subtotal * rate / 100 := by
    apply significant_of_places 4
    · exact ⟨subtotal * cents, by push_cast; rw [← exact]; ring⟩
    · rw [abs_div, abs_of_pos (by norm_num : (0 : ℚ) < 100)]
      linarith
  rw [taxOn, product, quotient]

end Rates

section Tax

variable {rate : ℚ}

theorem taxOn_neg (rate : ℚ) (subtotal : ℤ) :
    taxOn rate (-subtotal) = -taxOn rate subtotal := by
  unfold taxOn
  push_cast
  rw [neg_mul, decimal_neg, neg_div, decimal_neg, roundHalfUp_neg]

theorem taxOn_mono (sign : 0 ≤ rate) : Monotone (taxOn rate) := by
  intro low high ordered
  apply roundHalfUp_nearest.mono
  apply decimal_mono
  apply div_le_div_of_nonneg_right _ (by norm_num)
  apply decimal_mono
  apply mul_le_mul_of_nonneg_right _ sign
  exact_mod_cast ordered

@[simp] theorem taxOn_zero (rate : ℚ) : taxOn rate 0 = 0 := by
  simp [taxOn, decimal]

theorem taxOn_nonneg (sign : 0 ≤ rate) {subtotal : ℤ} (positive : 0 ≤ subtotal) :
    0 ≤ taxOn rate subtotal := by
  rw [← taxOn_zero rate]
  exact taxOn_mono sign positive

theorem share_near (rate : ℚ) (subtotal : ℤ) :
    |decimal (decimal (subtotal * rate) / 100) - subtotal * (rate / 100)| ≤
      |subtotal * (rate / 100)| * (3 / (2 * 10 ^ 27)) := by
  set exact := subtotal * (rate / 100) with meaning
  have scaled : (subtotal : ℚ) * rate = 100 * exact := by
    rw [meaning]
    ring
  rw [scaled]
  have product := decimal_near (100 * exact)
  have quotient := decimal_near (decimal (100 * exact) / 100)
  have hundred : |(100 : ℚ) * exact| = 100 * |exact| := by
    rw [abs_mul, abs_of_pos (by norm_num)]
  rw [hundred] at product
  have nonneg := abs_nonneg exact
  have first : |decimal (100 * exact) / 100 - exact| ≤
      |exact| / (2 * 10 ^ 27) := by
    have parts : decimal (100 * exact) / 100 - exact =
        (decimal (100 * exact) - 100 * exact) / 100 := by ring
    rw [parts, abs_div, abs_of_pos (by norm_num : (0 : ℚ) < 100),
      div_le_iff₀ (by norm_num)]
    refine product.trans (le_of_eq ?_)
    ring
  have size : |decimal (100 * exact) / 100| ≤ 2 * |exact| := by
    have parts : decimal (100 * exact) / 100 =
        decimal (100 * exact) / 100 - exact + exact := by ring
    rw [parts]
    refine (abs_add_le _ _).trans ?_
    linarith
  have second : |decimal (decimal (100 * exact) / 100) -
      decimal (100 * exact) / 100| ≤ 2 * |exact| / (2 * 10 ^ 27) :=
    quotient.trans (div_le_div_of_nonneg_right size (by norm_num))
  rw [abs_le] at first second ⊢
  constructor <;> linarith

theorem taxOn_near (rate : ℚ) (subtotal : ℤ) :
    |taxOn rate subtotal - subtotal * (rate / 100)| ≤
      1 / 2 + |subtotal * (rate / 100)| * (3 / (2 * 10 ^ 27)) := by
  have share := share_near rate subtotal
  have rounded := roundHalfUp_nearest.near
    (decimal (decimal (subtotal * rate) / 100))
  unfold taxOn
  rw [abs_le] at share rounded ⊢
  constructor <;> linarith

theorem abs_le_of_fits (sign : 0 ≤ rate) {subtotal : ℤ}
    (fits : |subtotal + taxOn rate subtotal| < 10 ^ 12) :
    |subtotal| < 10 ^ 12 ∧ |taxOn rate subtotal| < 10 ^ 12 := by
  rcases le_total 0 subtotal with positive | negative
  · have tax := taxOn_nonneg sign positive
    rw [abs_lt] at fits ⊢
    rw [abs_lt]
    omega
  · have tax := taxOn_nonneg sign (neg_nonneg.mpr negative)
    rw [taxOn_neg] at tax
    rw [abs_lt] at fits ⊢
    rw [abs_lt]
    omega

theorem share_le_of_fits (sign : 0 ≤ rate) {subtotal : ℤ}
    (fits : |subtotal + taxOn rate subtotal| < 10 ^ 12) :
    |(subtotal : ℚ) * (rate / 100)| ≤ 2 * 10 ^ 12 := by
  have near := taxOn_near rate subtotal
  have charged : |(taxOn rate subtotal : ℚ)| ≤ 10 ^ 12 := by
    exact_mod_cast (abs_le_of_fits sign fits).2.le
  set share := (subtotal : ℚ) * (rate / 100)
  have parts : share = taxOn rate subtotal - (taxOn rate subtotal - share) := by
    ring
  have triangle := abs_sub (taxOn rate subtotal : ℚ) (taxOn rate subtotal - share)
  rw [← parts] at triangle
  linarith

end Tax

theorem SaleInvoice.updateTotal_ok {invoice saved : SaleInvoice}
    {parts : Breakdown} (updated : invoice.updateTotal parts = .ok saved) :
    saved.Fits ∧ saved =
      { invoice with
        totalAmount := invoice.subtotal parts +
          taxOn invoice.taxPercentage (invoice.subtotal parts)
        totalCost := parts.cost
        totalCoreCharge := parts.core
        netProfit := parts.items - parts.cost + parts.services +
          invoice.laborCostManual - invoice.discount } := by
  unfold SaleInvoice.updateTotal at updated
  by_cases small : |taxOn invoice.taxPercentage (invoice.subtotal parts)| < 10 ^ 28
  · simp only [taxAmount_eq, if_pos small, bind, Except.bind] at updated
    split at updated
    · rename_i fits
      rw [Except.ok.injEq] at updated
      rw [← updated]
      exact ⟨fits, rfl⟩
    · cases updated
  · simp only [taxAmount_eq, if_neg small, bind, Except.bind] at updated
    cases updated

end Mousstec.Sales
