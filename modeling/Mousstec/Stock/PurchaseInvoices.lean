import Mousstec.Cash.Payments
import Mousstec.Stock.LandedCost
import Mousstec.Stock.Transfers

/-!
# Purchase invoices and the value of stock

A received purchase puts its goods into a branch at a landed cost.  The stock is
valued at the average cost of each product, over the goods in the branches and
those on the way between two of them.
-/

namespace Mousstec.Stock

open Library Accounting Cash

inductive PurchaseStatus where
  | draft
  | posted
  deriving DecidableEq

structure PurchaseInvoice where
  vendor : ℕ
  branch : ℕ
  treasury : Option ℕ := none
  dateCreated : ℤ
  totalAmount : ℤ := 0
  paidAmount : ℤ := 0
  returnedAmount : ℤ := 0
  status : PurchaseStatus := .draft
  isApplied : Bool := false
  costAllocation : CostAllocation := .value
  deriving DecidableEq

structure PurchaseInvoiceItem where
  invoice : ℕ
  product : ℕ
  quantity : ℤ := 1
  costPrice : ℤ
  returnedQuantity : ℤ := 0
  landedUnitCost : ℤ := 0
  manualExtraUnit : Option ℤ := none
  deriving DecidableEq

structure StockedProduct extends Product where
  retailPrice : ℤ := 0
  deriving DecidableEq

structure Vendor where
  name : String
  balance : ℤ := 0
  deriving DecidableEq

/-- Purchases with their stock, the vendors and the cash desk. -/
structure PurchaseDesk where
  purchases : Table PurchaseInvoice
  items : Table PurchaseInvoiceItem
  vendors : Table Vendor
  products : Table StockedProduct
  inventory : Table Inventory
  transfers : Table StockTransfer
  movements : Table InventoryMovement
  cash : CashDesk
  deriving DecidableEq

/-- `net_due`. -/
def PurchaseInvoice.netDue (invoice : PurchaseInvoice) : ℤ :=
  invoice.totalAmount - invoice.returnedAmount - invoice.paidAmount

/-- `effective_unit_cost`: the landed cost, or the vendor's price before it is
known. -/
def PurchaseInvoiceItem.effectiveUnitCost (item : PurchaseInvoiceItem) : ℤ :=
  if 0 < item.landedUnitCost then item.landedUnitCost else item.costPrice

/-- `valued_qty`. -/
def PurchaseDesk.valuedQty (desk : PurchaseDesk) (product : ℕ) : ℤ :=
  (desk.inventory.total fun _ row =>
    if row.product = product then row.quantity else 0) +
  desk.transfers.total fun _ transfer =>
    if transfer.product = product ∧ transfer.status = .inTransit then
      transfer.quantity
    else 0

def PurchaseDesk.stockValue (desk : PurchaseDesk) : ℤ :=
  desk.products.total fun pk product => desk.valuedQty pk * product.averageCost

end Mousstec.Stock
