import Mathlib.Data.List.Dedup
import Mousstec.Library.Runs
import Mousstec.Library.Table
import Mousstec.Stock.LandedShares
import Mousstec.Stock.PurchaseInvoices

/-!
# Grouped shipments

The costs of a shipment are entered once and divided over its purchase invoices
by value.  The share of an invoice becomes a cost line of that invoice, so every
invoice that is affected is reversed before and posted again after.  Reversing
and posting work on the books: the stock, the vendors, the treasuries and the
payments.  Amounts are counted in cents.
-/

namespace Mousstec

namespace Stock

namespace Shipments

open Library

/-- The loop of `allocate`: each share is rounded down, and the last one is what
is left. -/
def allocateFrom (amount total : ℚ) : ℚ → List ℚ → Except DecimalError (List ℚ)
  | _, [] => .ok []
  | given, [_] => .ok [decimal (amount - given)]
  | given, base :: rest => do
      let share ← quantize roundDown (decimal (decimal (amount * base) / total))
      let shares ← allocateFrom amount total (decimal (given + share)) rest
      .ok (share :: shares)

/-- `allocate`. -/
def allocate (amount : ℚ) (bases : List ℚ) : Except DecimalError (List ℚ) :=
  if amount ≤ 0 ∨ decimalSum bases ≤ 0 then .ok (bases.map fun _ => 0)
  else allocateFrom amount (decimalSum bases) 0 bases

example : allocate 10000 [1, 1, 1] = .ok [3333, 3333, 3334] ∧
    allocate 5000 [0, 0] = .ok [0, 0] := by
  decide +kernel

/-- `KIND_CHOICES` of a cost line. -/
inductive CostKind
  | loading
  | customs
  | shipping
  | insurance
  | travel
  | food
  | other
  deriving DecidableEq, Repr

/-- `BEHAVIOR_CHOICES` of a cost line. -/
inductive CostBehavior
  | landed
  | expense
  deriving DecidableEq, Repr

/-- `default_behavior_for`. -/
def CostKind.defaultBehavior : CostKind → CostBehavior
  | loading | customs | shipping | insurance => .landed
  | travel | food | other => .expense

/-- `PurchaseShipment`. -/
structure Shipment where
  name : String
  branch : ℕ
  deriving DecidableEq

/-- A cost as `apply_shipment` is given it. -/
structure CostRequest where
  kind : CostKind := .shipping
  behavior : Option CostBehavior := none
  label : String := ""
  amount : ℤ
  treasury : Option ℕ := none
  expenseCategory : Option ℕ := none
  deriving DecidableEq

/-- `PurchaseShipmentCost`. -/
structure ShipmentCost where
  shipment : ℕ
  kind : CostKind
  behavior : CostBehavior
  label : String
  amount : ℤ
  treasury : Option ℕ
  expenseCategory : Option ℕ
  deriving DecidableEq

/-- `PurchaseInvoiceExtraCost`; a line with a shipment is a share of its
costs. -/
structure ExtraCost where
  invoice : ℕ
  kind : CostKind
  behavior : CostBehavior
  label : String
  amount : ℤ
  treasury : Option ℕ
  expenseCategory : Option ℕ
  shipment : Option ℕ
  deriving DecidableEq

/-- `PurchaseInvoice`, as far as its shipment goes. -/
structure ShippedInvoice where
  branch : ℕ
  totalAmount : ℤ
  status : PurchaseStatus := .posted
  isApplied : Bool := true
  shipment : Option ℕ := none
  deriving DecidableEq

/-- The effects of an invoice on the books: `_reverse_purchase_posting` raises
or undoes them, `execute_purchase` has them again and says whether the invoice
is applied. -/
structure Posting (Books : Type) where
  reverse : Books → ℕ → List (ℕ × ExtraCost) → Except String Books
  execute : Books → ℕ → List (ℕ × ExtraCost) → Except String (Books × Bool)
  balance : Books → ℕ → Option ℤ

structure ShipmentDesk (Books : Type) where
  shipments : Table Shipment
  costs : Table ShipmentCost
  invoices : Table ShippedInvoice
  extraCosts : Table ExtraCost
  books : Books

/-- What `apply_shipment` raises. -/
inductive ShipmentError
  | missingShipment
  | missingInvoice
  | otherBranch (invoice : ℕ)
  | notPosted (invoice : ℕ)
  | otherShipment (invoice : ℕ)
  | reversal (invoice : ℕ) (message : String)
  | posting (message : String)
  | outOfRange
  | invalidOperation
  | shortOfCash (treasury : ℕ)
  deriving DecidableEq, Repr

abbrev ShipmentTxn (Books : Type) := Txn ShipmentError (ShipmentDesk Books)

def CostRequest.saved (cost : CostRequest) (shipment : ℕ) : ShipmentCost where
  shipment := shipment
  kind := cost.kind
  behavior := cost.behavior.getD cost.kind.defaultBehavior
  label := cost.label
  amount := cost.amount
  treasury := cost.treasury
  expenseCategory := cost.expenseCategory

def shareLabel (label name : String) : String :=
  String.ofList ((if label = "" then name else label).toList.take 120)

def ShipmentCost.share (cost : ShipmentCost) (name : String) (invoice : ℕ)
    (amount : ℚ) : ExtraCost where
  invoice := invoice
  kind := cost.kind
  behavior := cost.behavior
  label := shareLabel cost.label name
  amount := roundHalfEven amount
  treasury := cost.treasury
  expenseCategory := cost.expenseCategory
  shipment := some cost.shipment

def ShipmentCost.divided (cost : ShipmentCost) (name : String)
    (invoices : List (ℕ × ShippedInvoice)) :
    Except DecimalError (List ExtraCost) := do
  let shares ← allocate cost.amount
    (invoices.map fun row => (row.2.totalAmount : ℚ))
  .ok ((invoices.zip shares).filterMap fun row =>
    if row.2 ≤ 0 then none else some (cost.share name row.1.1 row.2))

def columnLimit : ℤ := 10 ^ 12

namespace ShipmentDesk

variable {Books : Type} (desk : ShipmentDesk Books)

def linesOf (invoice : ℕ) : List (ℕ × ExtraCost) :=
  desk.extraCosts.rows.filter (·.2.invoice == invoice)

def chosen (ids : List ℕ) : List (ℕ × ShippedInvoice) :=
  desk.invoices.rows.filter (ids.contains ·.1)

def removed (shipment : ℕ) (ids : List ℕ) : List (ℕ × ShippedInvoice) :=
  desk.invoices.rows.filter fun row =>
    row.2.shipment == some shipment && !ids.contains row.1

def affected (shipment : ℕ) (ids : List ℕ) : List ℕ :=
  (desk.chosen ids ++ desk.removed shipment ids).map Prod.fst

def treasuries (shipment : ℕ) (costs : List CostRequest) : List ℕ :=
  costs.filterMap CostRequest.treasury ++
    (desk.costs.rows.filter (·.2.shipment == shipment)).filterMap
      (·.2.treasury)

def withCosts (shipment : ℕ) (costs : List CostRequest) :
    ShipmentDesk Books :=
  { desk with
    costs := (costs.map (·.saved shipment)).foldl Table.insert
      (desk.costs.filter fun _ cost => cost.shipment != shipment) }

def withShares (shares : List ExtraCost) : ShipmentDesk Books :=
  { desk with extraCosts := shares.foldl Table.insert desk.extraCosts }

def linked (shipment : ℕ) (ids : List ℕ) : ShipmentDesk Books :=
  { desk with
    invoices := desk.invoices.map fun key invoice =>
      if ids.contains key then { invoice with shipment := some shipment }
      else if invoice.shipment = some shipment then
        { invoice with shipment := none }
      else invoice }

end ShipmentDesk

/-- What `apply_shipment` objects to in an invoice. -/
def ShippedInvoice.problem (invoice : ShippedInvoice) (key shipment : ℕ)
    (branch : ℕ) : Option ShipmentError :=
  if invoice.branch ≠ branch then some (.otherBranch key)
  else if invoice.status ≠ .posted ∨ !invoice.isApplied then
    some (.notPosted key)
  else if invoice.shipment.any (· != shipment) then some (.otherShipment key)
  else none

section Applying

variable {Books : Type} (posting : Posting Books)

def checkInvoices (invoices : List (ℕ × ShippedInvoice))
    (shipment branch : ℕ) : ShipmentTxn Books PUnit :=
  match invoices.findSome? fun row =>
      row.2.problem row.1 shipment branch with
  | some problem => throw problem
  | none => pure ⟨⟩

/-- `_reverse_purchase_posting`, with the payments of the invoice kept. -/
def reversePosting (key : ℕ) : ShipmentTxn Books PUnit := do
  let desk ← get
  let invoice ← Txn.expect (desk.invoices.get? key) .missingInvoice
  if invoice.isApplied then
    match posting.reverse desk.books key (desk.linesOf key) with
    | .error message => throw (.reversal key message)
    | .ok books =>
        set
          { desk with
            books
            invoices := desk.invoices.modify key fun invoice =>
              { invoice with
                isApplied := false
                status := .draft } }
  else pure ⟨⟩

def reverseInvoice (shipment key : ℕ) : ShipmentTxn Books PUnit := do
  reversePosting posting key
  modify fun desk =>
    { desk with
      extraCosts := desk.extraCosts.filter fun _ line =>
        !(line.invoice == key && line.shipment == some shipment) }

def repost (key : ℕ) : ShipmentTxn Books PUnit := do
  let desk ← get
  let invoice ← Txn.expect (desk.invoices.get? key) .missingInvoice
  if invoice.isApplied then
    set
      { desk with
        invoices := desk.invoices.modify key fun invoice =>
          { invoice with status := .posted } }
  else
    match posting.execute desk.books key (desk.linesOf key) with
    | .error message => throw (.posting message)
    | .ok result =>
        set
          { desk with
            books := result.1
            invoices := desk.invoices.modify key fun invoice =>
              { invoice with
                status := .posted
                isApplied := result.2 } }

def dividedCosts (name : String) (invoices : List (ℕ × ShippedInvoice))
    (costs : List ShipmentCost) : Except DecimalError (List ExtraCost) :=
  (costs.mapM (ShipmentCost.divided · name invoices)).map List.flatten

def shareCosts (name : String) (invoices : List (ℕ × ShippedInvoice))
    (costs : List ShipmentCost) : ShipmentTxn Books PUnit :=
  match dividedCosts name invoices costs with
  | .error _ => throw .invalidOperation
  | .ok shares => modify (·.withShares shares)

def overdrawn (before after : Books) (treasury : ℕ) : Bool :=
  match posting.balance after treasury with
  | none => false
  | some balance =>
      decide (balance < 0) &&
        decide (balance < (posting.balance before treasury).getD 0)

def checkTreasuries (before : Books) (treasuries : List ℕ) :
    ShipmentTxn Books PUnit := do
  let desk ← get
  match treasuries.find? (overdrawn posting before desk.books) with
  | some treasury => throw (.shortOfCash treasury)
  | none => pure ⟨⟩

/-- `apply_shipment`. -/
def applyShipment (shipment : ℕ) (ids : List ℕ) (costs : List CostRequest) :
    ShipmentTxn Books PUnit :=
  Txn.atomic do
    let desk ← get
    let row ← Txn.expect (desk.shipments.get? shipment) .missingShipment
    let invoices := desk.chosen ids
    Txn.require (invoices.length = ids.dedup.length) .missingInvoice
    checkInvoices invoices shipment row.branch
    (desk.affected shipment ids).forM (reverseInvoice posting shipment)
    Txn.require (∀ cost ∈ costs, |cost.amount| < columnLimit) .outOfRange
    modify (·.withCosts shipment costs)
    shareCosts row.name invoices (costs.map (·.saved shipment))
    modify (·.linked shipment ids)
    (desk.affected shipment ids).forM (repost posting)
    checkTreasuries posting desk.books (desk.treasuries shipment costs)

/-- A call of `apply_shipment`. -/
structure ShipmentOp where
  shipment : ℕ
  ids : List ℕ
  costs : List CostRequest
  deriving DecidableEq

def ShipmentOp.run (op : ShipmentOp) : ShipmentTxn Books PUnit :=
  applyShipment posting op.shipment op.ids op.costs

end Applying

/-- A line of a purchase, as far as the stock goes. -/
structure ReceivedItem where
  invoice : ℕ
  product : ℕ
  quantity : ℤ
  returnedQuantity : ℤ := 0
  deriving DecidableEq

/-- A purchase, as far as the vendor and the treasury go. -/
structure PurchaseHeader where
  vendor : ℕ
  branch : ℕ
  treasury : Option ℕ := none
  totalAmount : ℤ
  paidAmount : ℤ := 0
  returnedAmount : ℤ := 0
  deriving DecidableEq

/-- A payment out of a treasury for an invoice, or for one of its cost lines. -/
structure PurchasePayment where
  treasury : ℕ
  amount : ℤ
  invoice : ℕ
  extraCost : Option ℕ := none
  deriving DecidableEq

/-- The books that a purchase is entered in; the number of a header is that of
its invoice. -/
structure PurchaseBooks where
  headers : Table PurchaseHeader
  items : Table ReceivedItem
  products : Table String
  inventory : Table Inventory
  vendors : Table ℤ
  treasuries : Table ℤ
  payments : Table PurchasePayment := .empty
  deriving DecidableEq

namespace PurchaseBooks

variable (books : PurchaseBooks)

def itemsOf (invoice : ℕ) : List ReceivedItem :=
  (books.items.rows.map Prod.snd).filter (·.invoice == invoice)

def stockOf (product branch : ℕ) : ℤ :=
  ((books.inventory.rows.find? fun row =>
    row.2.product == product && row.2.branch == branch).map
      (·.2.quantity)).getD 0

def received (invoice product : ℕ) : ℤ :=
  (((books.itemsOf invoice).filter (·.product == product)).map
    ReceivedItem.quantity).sum

def moved (invoice branch : ℕ) (times : ℤ) : PurchaseBooks :=
  { books with
    inventory := books.inventory.map fun _ row =>
      if row.branch = branch then
        { row with
          quantity := row.quantity + times * books.received invoice row.product }
      else row }

def paid (payment : PurchasePayment) : PurchaseBooks :=
  { books with
    payments := books.payments.insert payment
    treasuries := books.treasuries.modify payment.treasury (· - payment.amount) }

def refunded (invoice : ℕ) : PurchaseBooks :=
  let taken := books.payments.filter fun _ payment =>
    payment.invoice == invoice && payment.extraCost.isSome
  { books with
    payments := books.payments.filter fun _ payment =>
      !(payment.invoice == invoice && payment.extraCost.isSome)
    treasuries := books.treasuries.map fun key balance =>
      balance + taken.total fun _ payment =>
        if payment.treasury = key then payment.amount else 0 }

def owing (vendor : ℕ) (amount : ℤ) : PurchaseBooks :=
  { books with vendors := books.vendors.modify vendor (· + amount) }

def sold (invoice branch : ℕ) : Option ReceivedItem :=
  (books.itemsOf invoice).find? fun item =>
    decide (books.stockOf item.product branch <
      books.received invoice item.product)

/-- `_reverse_purchase_posting` on the books. -/
def reversed (invoice : ℕ) : Except String PurchaseBooks :=
  match books.headers.get? invoice with
  | none => .error ""
  | some header =>
      if header.returnedAmount ≠ 0 ∨
          (books.itemsOf invoice).any (decide <| 0 < ·.returnedQuantity) then
        .error ("الفاتورة دي عليها مرتجع للمورد — مينفعش تتعدّل أو تتحذف. " ++
          "اعمل مرتجع للأصناف الباقية أو فاتورة جديدة بدل التعديل.")
      else
        match books.sold invoice header.branch with
        | some item =>
            .error ("لا يمكن التعديل/الحذف: المتاح من «" ++
              (books.products.get? item.product).getD "" ++ "» (" ++
              toString (books.stockOf item.product header.branch) ++
              ") أقل من المستلَم في الفاتورة (" ++
              toString (books.received invoice item.product) ++
              ") — على الأرجح اتباع. اعمل فاتورة تسوية بدل التعديل.")
        | none =>
            .ok (((books.moved invoice header.branch (-1)).owing header.vendor
              (header.paidAmount - header.totalAmount)).refunded invoice)

/-- `execute_purchase` on the books, with `_post_extra_costs`. -/
def executed (invoice : ℕ) (lines : List (ℕ × ExtraCost)) :
    Except String (PurchaseBooks × Bool) :=
  match books.headers.get? invoice with
  | none => .error ""
  | some header =>
      if books.itemsOf invoice = [] then .ok (books, false)
      else
        let settled :=
          match header.treasury with
          | some treasury =>
              if 0 < header.paidAmount ∧
                  !books.payments.rows.any (·.2.invoice == invoice) then
                books.paid
                  { treasury
                    amount := header.paidAmount
                    invoice }
              else books
          | none => books
        let entered := (settled.owing header.vendor
          (header.totalAmount - header.paidAmount)).moved invoice header.branch 1
        .ok (lines.foldl (fun books line =>
          match line.2.treasury with
          | some treasury =>
              if 0 < line.2.amount then
                books.paid
                  { treasury
                    amount := line.2.amount
                    invoice
                    extraCost := some line.1 }
              else books
          | none => books) entered, true)

end PurchaseBooks

def purchasePosting : Posting PurchaseBooks where
  reverse books invoice _ := books.reversed invoice
  execute books invoice lines := books.executed invoice lines
  balance books treasury := books.treasuries.get? treasury

end Shipments

end Stock

end Mousstec
