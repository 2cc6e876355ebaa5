import Mousstec.Library.Grouping
import Mousstec.Stock.VendorCredit

/-!
# Returns to a vendor

Parts of a received purchase go back: they leave the branch, the average cost of
the product is unwound at their landed cost, and the vendor is owed less.  The
ledger takes out of stock what the goods were worth there; where that is not what
they cost to land, the difference goes to an account of its own.
-/

namespace Mousstec.Stock

open Library Accounting Cash

/-- The lines that are wanted; a quantity that is no whole number is `none`. -/
def collectWanted : List (ℕ × Option ℤ) → List (ℕ × ℤ) →
    ReturnTxn (List (ℕ × ℤ))
  | [], wanted => pure wanted
  | (item, quantity) :: lines, wanted => do
      let quantity ← Txn.expect quantity .notWhole
      Txn.require (0 ≤ quantity) .negativeQuantity
      collectWanted lines
        (if quantity = 0 then wanted
          else accumulate (· + ·) 0 item quantity wanted)

/-- What the lines that are done add up to. -/
structure ReturnTotals where
  vendorValue : ℤ := 0
  landedValue : ℤ := 0
  stockValueOut : ℤ := 0
  deriving DecidableEq

/-- `_q` of a quantity at a unit price. -/
def valueAt (quantity unit : ℤ) : ℤ :=
  q (decimal (quantity * unit))

def unwoundAverage (totalBefore average quantity unit remaining : ℤ) : ℚ :=
  decimal (decimal (decimal (totalBefore * average) - decimal (quantity * unit)) /
    remaining)

def unwind (remaining average quantity unit : ℤ) : ℤ × ℤ :=
  if 0 < remaining then
    let unwound := unwoundAverage (remaining + quantity) average quantity unit remaining
    (if unwound < 0 then valueAt (remaining + quantity) average
      else valueAt quantity unit,
      q (max unwound 0))
  else (valueAt quantity average, average)

def PurchaseDesk.stockRow (desk : PurchaseDesk) (product branch : ℕ) :
    Option (ℕ × Inventory) :=
  desk.inventory.rows.find? fun row =>
    row.2.product = product ∧ row.2.branch = branch

def returnItem (pk : ℕ) (invoice : PurchaseInvoice) (row : ℕ × ℤ)
    (totals : ReturnTotals) : ReturnTxn ReturnTotals := do
  let desk ← get
  let item ← Txn.expect (desk.items.get? row.1) .foreignItem
  let product ← Txn.expect (desk.products.get? item.product)
    (.doesNotExist "Product")
  let returnable := item.quantity - item.returnedQuantity
  Txn.require (row.2 ≤ returnable)
    (.tooMany product.name returnable item.quantity item.returnedQuantity)
  let stock ← Txn.expect (desk.stockRow item.product invoice.branch)
    (.notOnHand product.name 0 row.2)
  Txn.require (row.2 ≤ stock.2.quantity)
    (.notOnHand product.name stock.2.quantity row.2)
  let inventory := desk.inventory.modify stock.1 fun stored =>
    { stored with quantity := stock.2.quantity - row.2 }
  let remaining := ({ desk with inventory } : PurchaseDesk).valuedQty item.product
  let unwound := unwind remaining product.averageCost row.2 item.effectiveUnitCost
  Txn.require (|unwound.2| < 10 ^ 10) .outOfRange
  set { desk with
    inventory
    products := desk.products.modify item.product fun stored =>
      { stored with averageCost := unwound.2 }
    movements := desk.movements.insert
      { product := item.product
        branch := invoice.branch
        reason := .purchaseReturn
        quantityChange := -row.2
        quantityBefore := stock.2.quantity
        quantityAfter := stock.2.quantity - row.2
        reference := .other s!"PurchaseInvoice {pk}" }
    items := desk.items.modify row.1 fun stored =>
      { stored with returnedQuantity := stored.returnedQuantity + row.2 } }
  pure
    { vendorValue := totals.vendorValue + valueAt row.2 item.costPrice
      landedValue := totals.landedValue + valueAt row.2 item.effectiveUnitCost
      stockValueOut := totals.stockValueOut + unwound.1 }

def returnItems (pk : ℕ) (invoice : PurchaseInvoice) :
    List (ℕ × ℤ) → ReturnTotals → ReturnTxn ReturnTotals
  | [], totals => pure totals
  | row :: rows, totals => do
      let next ← returnItem pk invoice row totals
      returnItems pk invoice rows next

def returnLines (totals : ReturnTotals) : List JournalLine :=
  let gap := totals.stockValueOut - totals.landedValue
  [⟨.key .ap, totals.vendorValue, 0⟩,
    ⟨.key .importExpense, totals.landedValue - totals.vendorValue, 0⟩,
    ⟨.key .inventory, 0, totals.stockValueOut⟩] ++
  if gap = 0 then []
  else [⟨.key .inventoryVariance, max gap 0, max (-gap) 0⟩]

def returnDraft (pk : ℕ) (totals : ReturnTotals) : JournalDraft where
  lines := returnLines totals
  journalType := .adjustment
  reference := .purchaseReturn pk
  source := some (.purchaseInvoice pk)

def PurchaseDesk.settleReturn (desk : PurchaseDesk) (pk : ℕ)
    (invoice : PurchaseInvoice) (vendorValue refund : ℤ) : PurchaseDesk :=
  { desk with
    vendors := desk.vendors.modify invoice.vendor fun stored =>
      { stored with balance := stored.balance - vendorValue + refund }
    purchases := desk.purchases.modify pk fun stored =>
      { stored with
        returnedAmount := stored.returnedAmount + vendorValue
        paidAmount := stored.paidAmount - refund } }

def receiveRefund (pk : ℕ) (invoice : PurchaseInvoice) (vendor : String)
    (treasury : Option ℕ) (refund : ℤ) : ReturnTxn PUnit :=
  if refund = 0 then pure ⟨⟩
  else do
    let desk ← get
    let source ← Txn.expect treasury (.doesNotExist "Treasury")
    let _ ← Txn.expect (desk.cash.treasuries.get? source) (.doesNotExist "Treasury")
    let description := s!"استرداد من المورد {vendor} عن مرتجع فاتورة #{pk}"
    let _ ← Txn.zoom PurchaseDesk.cashDesk .cash (createPayment
      { treasury := source
        transactionType := .cashIn
        amount := refund
        description := String.ofList (description.toList.take 255)
        date := desk.cash.books.today
        purchaseInvoice := some pk
        vendor := some invoice.vendor })

/-- `return_to_vendor`; the amount of the refund is in cents. -/
def returnToVendor (pk : ℕ) (lines : List (ℕ × Option ℤ))
    (refundTreasury : Option ℕ) (refundAmount : ℚ) : ReturnTxn ReturnTotals :=
  Txn.atomic do
    let desk ← get
    let invoice ← Txn.expect (desk.purchases.get? pk)
      (.doesNotExist "PurchaseInvoice")
    Txn.require (invoice.status = .posted ∧ invoice.isApplied = true) .notReceived
    let wanted ← collectWanted lines []
    Txn.require (wanted ≠ []) .nothingChosen
    Txn.require ((wanted.all fun row =>
      (desk.items.get? row.1).any fun item => item.invoice = pk) = true)
      .foreignItem
    let totals ← returnItems pk invoice wanted {}
    let refund := q refundAmount
    Txn.require (0 ≤ refund) .negativeRefund
    let overpaid := max (invoice.paidAmount - (invoice.totalAmount -
      invoice.returnedAmount - totals.vendorValue)) 0
    let most := min totals.vendorValue overpaid
    Txn.require (refund ≤ most) (.refundTooLarge most)
    Txn.require (refund = 0 ∨ refundTreasury.isSome = true) .noTreasury
    modify fun desk => desk.settleReturn pk invoice totals.vendorValue refund
    let _ ← Txn.zoom PurchaseDesk.ledger .ledger
      (postJournal (returnDraft pk totals))
    let vendor := ((desk.vendors.get? invoice.vendor).map Vendor.name).getD ""
    receiveRefund pk invoice vendor refundTreasury refund
    applyVendorCredit invoice.vendor
    pure totals

end Mousstec.Stock
