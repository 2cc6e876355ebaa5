import Mousstec.Accounting.SaleEntries
import Mousstec.Sales.Totals

/-!
# Tax charged and tax booked

An invoice adds the rounded tax to its subtotal; the ledger takes the tax out of
the rounded total again.  The division makes the rounding error of the first step
smaller than half a cent, by more than the decimal context can lose, so both
steps round to the same tax.
-/

namespace Mousstec.Accounting

open Library Sales

section Context

variable {rate : ℚ} {total : ℤ}

private theorem divisor_near (sign : 0 ≤ rate) :
    |decimal (1 + decimal rate) - (1 + rate)| ≤
      3 * (1 + rate) / (2 * 10 ^ 27) := by
  have inner := decimal_near rate
  have outer := decimal_near (1 + decimal rate)
  have nonneg := decimal_nonneg sign
  rw [abs_of_nonneg sign] at inner
  have size : decimal rate ≤ 2 * rate := by
    have upper := (abs_le.mp inner).2
    linarith
  rw [abs_of_nonneg (by linarith : 0 ≤ 1 + decimal rate)] at outer
  have outer' : |decimal (1 + decimal rate) - (1 + decimal rate)| ≤
      2 * (1 + rate) / (2 * 10 ^ 27) :=
    outer.trans (div_le_div_of_nonneg_right (by linarith) (by norm_num))
  rw [abs_le] at inner outer' ⊢
  constructor <;> linarith

private theorem quotient_near (numerator : ℚ) {divisor exact : ℚ}
    (least : 1 ≤ exact)
    (near : |divisor - exact| ≤ 3 * exact / (2 * 10 ^ 27)) :
    |numerator / divisor - numerator / exact| ≤
        4 * |numerator| / (2 * 10 ^ 27) ∧
      |numerator / divisor| ≤ 2 * |numerator| := by
  have lower := (abs_le.mp near).1
  have half : 3 / 4 * exact ≤ divisor := by linarith
  have positive : 0 < divisor := by linarith
  have nonneg := abs_nonneg numerator
  constructor
  · have parts : numerator / divisor - numerator / exact =
        numerator * (exact - divisor) / (divisor * exact) := by
      field_simp
    rw [parts, abs_div, abs_mul, abs_sub_comm exact divisor,
      abs_of_pos (mul_pos positive (by linarith)),
      div_le_iff₀ (mul_pos positive (by linarith))]
    calc
      |numerator| * |divisor - exact| ≤
          |numerator| * (3 * exact / (2 * 10 ^ 27)) := by gcongr
      _ = 4 * |numerator| / (2 * 10 ^ 27) * (3 / 4 * exact) := by ring
      _ ≤ 4 * |numerator| / (2 * 10 ^ 27) * (divisor * exact) := by
        gcongr
        nlinarith
  · rw [abs_div, abs_of_pos positive, div_le_iff₀ positive]
    nlinarith

theorem extraction_near (sign : 0 ≤ rate) (small : |total| < 10 ^ 12) :
    |decimal (total - decimal (total / decimal (1 + decimal rate))) -
      (total - total / (1 + rate))| ≤ 5 / 10 ^ 15 := by
  obtain ⟨divided, size⟩ := quotient_near total (by linarith)
    (divisor_near sign)
  set quotient := (total : ℚ) / decimal (1 + decimal rate)
  have rounded := decimal_near quotient
  have rounded' : |decimal quotient - quotient| ≤
      2 * |(total : ℚ)| / (2 * 10 ^ 27) :=
    rounded.trans (div_le_div_of_nonneg_right size (by norm_num))
  have nonneg := abs_nonneg (total : ℚ)
  have size' : |(total : ℚ) - decimal quotient| ≤ 4 * |(total : ℚ)| := by
    have parts : (total : ℚ) - decimal quotient =
        total - quotient + -(decimal quotient - quotient) := by ring
    rw [parts]
    refine (abs_add_le _ _).trans ?_
    have first := abs_sub (total : ℚ) quotient
    rw [abs_neg]
    linarith
  have last : |decimal (total - decimal quotient) - (total - decimal quotient)| ≤
      4 * |(total : ℚ)| / (2 * 10 ^ 27) :=
    (decimal_near _).trans (div_le_div_of_nonneg_right size' (by norm_num))
  have bound : |(total : ℚ)| ≤ 10 ^ 12 := by exact_mod_cast small.le
  rw [abs_le] at divided rounded' last ⊢
  constructor <;> linarith

end Context

section Agreement

variable {rate : ℚ} {subtotal : ℤ}

theorem near_taxOn {extracted : ℚ} (positive : 0 < rate)
    (fits : |subtotal + taxOn rate subtotal| < 10 ^ 12)
    (close : |extracted - ((subtotal + taxOn rate subtotal : ℤ) -
      (subtotal + taxOn rate subtotal : ℤ) / (1 + rate / 100))| ≤
        5 / 10 ^ 15) :
    |extracted - taxOn rate subtotal| < 1 / 2 := by
  have amount := (abs_le_of_fits positive.le fits).1
  have near := taxOn_near rate subtotal
  have size := share_le_of_fits positive.le fits
  have amount' : |(subtotal : ℚ)| ≤ 10 ^ 12 := by exact_mod_cast amount.le
  set tax := taxOn rate subtotal
  set share := rate / 100 with meaning
  have share_pos : 0 < share := by
    rw [meaning]
    linarith
  have error : |(tax : ℚ) - subtotal * share| ≤ 1 / 2 + 3 / 10 ^ 15 := by
    linarith
  have divisor : 0 < 1 + share := by linarith
  have difference : ((subtotal + tax : ℤ) : ℚ) -
      (subtotal + tax : ℤ) / (1 + share) - tax =
        -((tax - subtotal * share) / (1 + share)) := by
    push_cast
    field_simp
    ring
  have divided : |(tax - subtotal * share) / (1 + share)| ≤
      1 / 2 - 1 / 10 ^ 14 := by
    rw [abs_div, abs_of_pos divisor, div_le_iff₀ divisor]
    rcases le_or_gt (1 / 10 ^ 13) share with large | tiny
    · linarith
    · have part : |(subtotal : ℚ) * share| ≤ 1 / 10 := by
        rw [abs_mul, abs_of_pos share_pos]
        calc
          |(subtotal : ℚ)| * share ≤ 10 ^ 12 * (1 / 10 ^ 13) := by gcongr
          _ = 1 / 10 := by norm_num
      have nothing : tax = 0 := by
        have below : |(tax : ℚ)| < 1 := by
          have parts : (tax : ℚ) = tax - subtotal * share + subtotal * share := by
            ring
          rw [parts]
          refine (abs_add_le _ _).trans_lt ?_
          linarith
        have below' : |tax| < 1 := by exact_mod_cast below
        exact Int.abs_lt_one_iff.mp below'
      rw [nothing, Int.cast_zero, zero_sub, abs_neg]
      linarith
  have parts : extracted - tax =
      extracted - ((subtotal + tax : ℤ) - (subtotal + tax : ℤ) / (1 + share)) -
        (tax - subtotal * share) / (1 + share) := by
    linarith
  rw [parts]
  refine (abs_sub _ _).trans_lt ?_
  linarith

theorem decimalTax_eq (invoice : SaleInvoice)
    (sign : 0 ≤ invoice.taxPercentage)
    (charged : invoice.totalAmount =
      subtotal + taxOn invoice.taxPercentage subtotal)
    (fits : |invoice.totalAmount| < 10 ^ 12) :
    invoice.invoiceTax = taxOn invoice.taxPercentage subtotal ∧
      invoiceTax invoice = taxOn invoice.taxPercentage subtotal := by
  unfold SaleInvoice.invoiceTax invoiceTax
  rcases sign.eq_or_lt with none | positive
  · simp [← none, taxOn, decimal]
  · by_cases empty : invoice.totalAmount = 0
    · have nothing := abs_le_of_fits sign (charged ▸ fits)
      have zero : subtotal = 0 := by
        rcases le_total 0 subtotal with above | below
        · have tax := taxOn_nonneg sign above
          omega
        · have tax := taxOn_nonneg sign (neg_nonneg.mpr below)
          rw [taxOn_neg] at tax
          omega
      simp [empty, zero]
    · have taxed : ¬ (invoice.taxPercentage ≤ 0 ∨ invoice.totalAmount = 0) := by
        rintro (exempt | zero)
        · linarith
        · exact empty zero
      rw [if_neg taxed, if_neg taxed]
      rw [charged] at fits ⊢
      constructor
      · apply roundHalfUp_nearest.eq_of_near
        apply near_taxOn positive fits
        exact extraction_near (by linarith) fits
      · apply roundHalfUp_nearest.eq_of_near
        apply near_taxOn positive fits
        rw [sub_self, abs_zero]
        norm_num

end Agreement

/-- The figures of an invoice and its lines agree on subtotal and tax. -/
structure VatAgrees (invoice : SaleInvoice) (subtotal tax : ℤ) : Prop where
  charged : invoice.totalAmount = subtotal + tax
  extracted : invoice.invoiceTax = tax
  booked : invoiceTax invoice = tax
  revenue : ∀ line ∈ saleInvoiceLines invoice,
    line.account = .key .salesRevenue → line = creditLine .salesRevenue subtotal
  returns : ∀ line ∈ saleInvoiceLines invoice,
    line.account = .key .salesReturns → line = debitLine .salesReturns subtotal
  vat : ∀ line ∈ saleInvoiceLines invoice, line.account = .key .vatOutput →
    line = creditLine .vatOutput tax ∨ line = debitLine .vatOutput tax
  written : invoice.maintenanceContract = none → 0 < subtotal →
    (if invoice.isReturn = true then debitLine .salesReturns subtotal
      else creditLine .salesRevenue subtotal) ∈ saleInvoiceLines invoice

private theorem eq_of_mem_whenPositive {amount : ℤ} {line written : JournalLine}
    (member : line ∈ whenPositive amount written) :
    0 < amount ∧ line = written := by
  unfold whenPositive at member
  split at member
  · rename_i positive
    exact ⟨positive, List.mem_singleton.mp member⟩
  · cases member

/-- The lines name the revenue and the tax of the invoice and nothing else on
their accounts. -/
theorem mem_saleInvoiceLines_cases {invoice : SaleInvoice} {line : JournalLine}
    (member : line ∈ saleInvoiceLines invoice) :
    line = debitLine .salesReturns (invoice.totalAmount - invoiceTax invoice) ∨
      line = creditLine .salesRevenue (invoice.totalAmount - invoiceTax invoice) ∨
      line = debitLine .vatOutput (invoiceTax invoice) ∨
      line = creditLine .vatOutput (invoiceTax invoice) ∨
      line.account = .key .ar ∨ line.account = .key .inventory ∨
      line.account = .key .cogs := by
  unfold saleInvoiceLines at member
  cases contract : invoice.maintenanceContract.isSome
  all_goals cases isReturn : invoice.isReturn
  all_goals
    simp only [contract, isReturn, if_true, Bool.false_eq_true, if_false]
      at member
    split at member
    · cases member
    simp only [List.mem_append] at member
    rcases member with (((first | second) | third) | fourth) | fifth
  all_goals
    obtain ⟨positive, rfl⟩ := eq_of_mem_whenPositive ‹_›
    simp [debitLine, creditLine] at positive ⊢

theorem VatAgrees.of_tax {invoice : SaleInvoice} {subtotal tax : ℤ}
    (charged : invoice.totalAmount = subtotal + tax)
    (extracted : invoice.invoiceTax = tax) (booked : invoiceTax invoice = tax) :
    VatAgrees invoice subtotal tax where
  charged := charged
  extracted := extracted
  booked := booked
  revenue := by
    intro line member account
    have cases := mem_saleInvoiceLines_cases member
    rw [booked, charged, add_sub_cancel_right] at cases
    rcases cases with rfl | rfl | rfl | rfl | other | other | other
    · cases account
    · rfl
    · cases account
    · cases account
    all_goals
      rw [other] at account
      cases account
  returns := by
    intro line member account
    have cases := mem_saleInvoiceLines_cases member
    rw [booked, charged, add_sub_cancel_right] at cases
    rcases cases with rfl | rfl | rfl | rfl | other | other | other
    · rfl
    · cases account
    · cases account
    · cases account
    all_goals
      rw [other] at account
      cases account
  vat := by
    intro line member account
    have cases := mem_saleInvoiceLines_cases member
    rw [booked] at cases
    rcases cases with rfl | rfl | rfl | rfl | other | other | other
    · cases account
    · cases account
    · exact .inr rfl
    · exact .inl rfl
    all_goals
      rw [other] at account
      cases account
  written := by
    intro contract positive
    have revenue : invoice.totalAmount - invoiceTax invoice = subtotal := by
      omega
    have listed : ∀ written : JournalLine,
        written ∈ whenPositive subtotal written := by
      intro written
      rw [whenPositive, if_pos positive]
      exact List.mem_singleton.mpr rfl
    have bounds := invoiceTax_bounds invoice
    have some : ¬ (invoice.totalAmount = 0 ∧ invoice.totalCost = 0) := by
      rintro ⟨zero, -⟩
      have low := (bounds.1 zero.ge).1
      omega
    unfold saleInvoiceLines
    simp only [contract, Option.isSome_none, Bool.false_eq_true, if_false,
      if_neg some, revenue]
    split
    · simp only [List.mem_append]
      exact .inl (.inl (.inl (.inl (listed _))))
    · simp only [List.mem_append]
      exact .inl (.inl (.inl (.inr (listed _))))

/-- The tax that saving an invoice adds is the tax the ledger books for it, and
its revenue line is the subtotal. -/
theorem updateTotal_vatAgrees (parts : Breakdown) (invoice saved : SaleInvoice)
    (sign : 0 ≤ invoice.taxPercentage)
    (updated : invoice.updateTotal parts = .ok saved) :
    VatAgrees saved (invoice.subtotal parts)
      (taxOn invoice.taxPercentage (invoice.subtotal parts)) := by
  obtain ⟨fits, same⟩ := SaleInvoice.updateTotal_ok updated
  have charged := congrArg SaleInvoice.totalAmount same
  have rate := congrArg SaleInvoice.taxPercentage same
  dsimp only at charged rate
  have taxes := decimalTax_eq saved (rate ▸ sign)
    (rate ▸ charged) fits.1
  rw [rate] at taxes
  exact .of_tax charged taxes.1 taxes.2

def taxedParts : Breakdown where
  items := 1234
  cost := 800
  services := 100
  core := 0

def taxedInvoice : SaleInvoice where
  status := .posted
  customer := 0
  dateCreated := 0
  taxPercentage := 14

theorem updateTotal_vatAgrees_taxed :
    VatAgrees
      { taxedInvoice with
        totalAmount := 1521
        totalCost := 800
        netProfit := 534 }
      1334 (taxOn 14 1334) :=
  updateTotal_vatAgrees taxedParts taxedInvoice _ (by decide +kernel)
    (by decide +kernel)

example : taxOn 14 1334 = 187 := by
  decide +kernel

end Mousstec.Accounting
