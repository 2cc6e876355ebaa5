import Mathlib.Data.Rat.Defs
import Mousstec.Library.Table

/-!
# Sale invoices

The rows of a sale invoice, its lines and its services, and the figures the
model itself derives from them: what is still due, and what a return of it has
already settled.  Amounts are in cents, percentages are exact.
-/

namespace Mousstec.Sales

open Library

inductive InvoiceStatus where
  | quotation
  | inProgress
  | qualityCheck
  | ready
  | posted
  deriving DecidableEq

structure SaleInvoice where
  isReturn : Bool := false
  originalInvoice : Option ℕ := none
  status : InvoiceStatus := .quotation
  customer : ℕ
  maintenanceContract : Option ℕ := none
  dateCreated : ℤ
  treasury : Option ℕ := none
  laborCostManual : ℤ := 0
  discount : ℤ := 0
  taxPercentage : ℚ := 0
  totalCoreCharge : ℤ := 0
  totalAmount : ℤ := 0
  paidAmount : ℤ := 0
  isApplied : Bool := false
  totalCost : ℤ := 0
  netProfit : ℤ := 0
  deriving DecidableEq

structure SaleInvoiceItem where
  invoice : ℕ
  product : ℕ
  quantity : ℤ
  unitPrice : ℤ
  discount : ℤ := 0
  costAtSale : ℤ := 0
  sourceItem : Option ℕ := none
  coreChargeApplied : ℤ := 0
  isCoreReturned : Bool := false
  isBillable : Bool := true
  deriving DecidableEq

structure SaleInvoiceServiceItem where
  invoice : ℕ
  price : ℤ
  isBillable : Bool := true
  deriving DecidableEq

/-- `due_amount`: nothing is due on contract work. -/
def SaleInvoice.dueAmount (invoice : SaleInvoice) : ℤ :=
  if invoice.maintenanceContract.isSome then 0
  else max (invoice.totalAmount - invoice.paidAmount) 0

/-- `returned_credit`: what the posted returns of an invoice took off the
customer's account rather than paying out. -/
def returnedCredit (invoices : Table SaleInvoice) (pk : ℕ)
    (invoice : SaleInvoice) : ℤ :=
  if invoice.isReturn then 0
  else
    invoices.total fun _ other =>
      if other.originalInvoice = some pk ∧ other.status = .posted then
        max (other.totalAmount - other.paidAmount) 0
      else 0

/-- `open_due`: what the customer still owes on an invoice. -/
def openDue (invoices : Table SaleInvoice) (pk : ℕ) (invoice : SaleInvoice) :
    ℤ :=
  max (invoice.dueAmount - returnedCredit invoices pk invoice) 0

theorem openDue_nonneg (invoices : Table SaleInvoice) (pk : ℕ)
    (invoice : SaleInvoice) : 0 ≤ openDue invoices pk invoice :=
  le_max_right _ _

end Mousstec.Sales
