import Mathlib.Data.List.Sort
import Mousstec.Accounting.Ledger

/-!
# Stock transfers between branches

A transfer takes goods out of one branch and, later, into another.  Saving a
transfer runs the effects of its change of status: an existing one before its
row is written, a new one after.  Every leg moves a branch quantity, records a
movement and posts the goods in transit.
-/

namespace Mousstec.Stock

open Library Accounting

structure Product where
  name : String
  averageCost : ℤ := 0
  purchasePrice : ℤ := 0
  deriving DecidableEq

structure Inventory where
  product : ℕ
  branch : ℕ
  quantity : ℤ
  deriving DecidableEq

inductive MovementReason where
  | sale
  | saleReturn
  | purchase
  | purchaseReturn
  | transferOut
  | transferIn
  | adjustment
  | scrap
  | manual
  deriving DecidableEq

inductive MovementReference where
  | stockTransfer (pk : ℕ)
  | other (text : String)
  deriving DecidableEq

structure InventoryMovement where
  product : ℕ
  branch : ℕ
  reason : MovementReason
  quantityChange : ℤ
  quantityBefore : ℤ
  quantityAfter : ℤ
  reference : MovementReference
  deriving DecidableEq

inductive TransferStatus where
  | pending
  | inTransit
  | completed
  | cancelled
  deriving DecidableEq

def TransferStatus.text : TransferStatus → String
  | .pending => "pending"
  | .inTransit => "in_transit"
  | .completed => "completed"
  | .cancelled => "cancelled"

structure StockTransfer where
  product : ℕ
  fromBranch : ℕ
  toBranch : ℕ
  quantity : ℤ
  status : TransferStatus := .pending
  deriving DecidableEq

/-- The legs of a transfer: out of the source, into the destination, or back
into the source. -/
inductive TransferStep where
  | ship
  | receive
  | back
  deriving DecidableEq

/-- The stock, the ledger, and the postings that failed without stopping a
movement. -/
structure Warehouse where
  products : Table Product
  inventory : Table Inventory
  movements : Table InventoryMovement
  transfers : Table StockTransfer
  books : Books
  failures : List (ℕ × TransferStep × LedgerError) := []
  deriving DecidableEq

inductive TransferError where
  | notEnough (name : String) (stock quantity : ℤ)
  | notAllowed (old new : TransferStatus)
  | sameBranch
  | noQuantity
  | shipped
  | missingProduct
  | missingTransfer
  | ledger (raised : LedgerError)
  deriving DecidableEq

def TransferError.text : TransferError → String
  | .notEnough name stock quantity =>
      s!"رصيد «{name}» في فرع المصدر ({stock}) مايكفيش لتحويل {quantity}."
  | .notAllowed old new =>
      s!"مينفعش التحويل يتنقل من «{old.text}» لـ«{new.text}» (التحويل المستلَم أو الملغي مابيتغيّرش)."
  | .sameBranch => "فرع المصدر وفرع الوصول لازم يبقوا مختلفين."
  | .noQuantity => "كمية التحويل لازم تبقى أكبر من صفر."
  | .shipped => "التحويل خرج من الفرع — مينفعش تغيّر الصنف أو الكمية أو الفروع. ألغيه واعمل تحويل جديد."
  | .missingProduct => "Product matching query does not exist."
  | .missingTransfer => "StockTransfer matching query does not exist."
  | .ledger raised => raised.text ""

abbrev WarehouseTxn (α : Type) := Txn TransferError Warehouse α

def Warehouse.ledger : Component Warehouse Books where
  get := books
  set part whole := { whole with books := part }
  get_set _ _ := rfl
  set_get _ := rfl

/-- `total_inventory_qty`. -/
def Warehouse.totalInventoryQty (stock : Warehouse) (product : ℕ) : ℤ :=
  stock.inventory.total fun _ row =>
    if row.product = product then row.quantity else 0

def Warehouse.movingQty (stock : Warehouse) (product : ℕ) : ℤ :=
  stock.transfers.total fun _ transfer =>
    if transfer.product = product ∧ transfer.status = .inTransit then
      transfer.quantity
    else 0

/-- `valued_qty`. -/
def Warehouse.valuedQty (stock : Warehouse) (product : ℕ) : ℤ :=
  stock.totalInventoryQty product + stock.movingQty product

/-- `get_or_create` of the row of a product in a branch. -/
def inventoryRow (product branch : ℕ) : WarehouseTxn (ℕ × Inventory) := do
  let stock ← get
  match stock.inventory.rows.find? fun row =>
      row.2.product = product ∧ row.2.branch = branch with
  | some row => pure row
  | none => do
      let row : Inventory := ⟨product, branch, 0⟩
      set { stock with inventory := stock.inventory.insert row }
      pure (stock.inventory.next, row)

/-- `TRANSFER_STEPS`. -/
def TRANSFER_STEPS : TransferStatus → TransferStatus → Option (List TransferStep)
  | .pending, .inTransit => some [.ship]
  | .pending, .completed => some [.ship, .receive]
  | .inTransit, .completed => some [.receive]
  | .inTransit, .cancelled => some [.back]
  | .pending, .cancelled => some []
  | _, _ => none

namespace TransferStep

def rank : TransferStep → ℕ
  | .ship => 0
  | .back => 0
  | .receive => 1

def branch (transfer : StockTransfer) : TransferStep → ℕ
  | .ship => transfer.fromBranch
  | .receive => transfer.toBranch
  | .back => transfer.fromBranch

def change (transfer : StockTransfer) : TransferStep → ℤ
  | .ship => -transfer.quantity
  | .receive => transfer.quantity
  | .back => transfer.quantity

def reason : TransferStep → MovementReason
  | .ship => .transferOut
  | .receive => .transferIn
  | .back => .transferIn

def reference (pk : ℕ) : TransferStep → Reference
  | .ship => .transferOut pk
  | .receive => .transferIn pk
  | .back => .transferBack pk

def into : TransferStep → AccountKey
  | .ship => .inventoryInTransit
  | .receive => .inventory
  | .back => .inventory

def outOf : TransferStep → AccountKey
  | .ship => .inventory
  | .receive => .inventoryInTransit
  | .back => .inventoryInTransit

end TransferStep

/-- `_transfer_move`. -/
def transferMove (pk : ℕ) (transfer : StockTransfer) (branch : ℕ)
    (change : ℤ) (reason : MovementReason) : WarehouseTxn PUnit := do
  let row ← inventoryRow transfer.product branch
  let stock ← get
  let before := row.2.quantity
  let name := ((stock.products.get? transfer.product).map Product.name).getD ""
  Txn.require (0 ≤ before + change) (.notEnough name before |change|)
  set { stock with
    inventory := stock.inventory.modify row.1 fun stored =>
      { stored with quantity := before + change }
    movements := stock.movements.insert
      { product := transfer.product
        branch
        reason
        quantityChange := change
        quantityBefore := before
        quantityAfter := before + change
        reference := .stockTransfer pk } }

/-- The value of a quantity at average cost or, without one, at the last
purchase price. -/
def shipValue (product : Product) (quantity : ℤ) : ℤ :=
  let unit :=
    if product.averageCost = 0 then product.purchasePrice
    else product.averageCost
  quantity * unit

def shippedDebit (books : Books) (pk : ℕ) : ℤ :=
  books.entries.total fun _ entry =>
    if entry.reference = .transferOut pk ∧ entry.status ≠ .reversed then
      totalDebit (entry.lines.filter fun line =>
        line.account = AccountKey.inventoryInTransit.code)
    else 0

def transferValue (pk : ℕ) (transfer : StockTransfer) :
    TransferStep → WarehouseTxn ℤ
  | .ship => do
      let stock ← get
      match stock.products.get? transfer.product with
      | none => throw .missingProduct
      | some product => pure (shipValue product transfer.quantity)
  | .receive => arrivedValue
  | .back => arrivedValue
where
  arrivedValue : WarehouseTxn ℤ := do
    let _ ← Txn.zoom Warehouse.ledger .ledger
      (account (.key .inventoryInTransit))
    let stock ← get
    pure (shippedDebit stock.books pk)

def transferDraft (pk : ℕ) (step : TransferStep) (value : ℤ) : JournalDraft where
  lines := [⟨.key step.into, value, 0⟩, ⟨.key step.outOf, 0, value⟩]
  journalType := .adjustment
  reference := step.reference pk

def logFailure (pk : ℕ) (step : TransferStep) :
    Except LedgerError (Option ℕ) → WarehouseTxn PUnit
  | .ok _ => pure ⟨⟩
  | .error raised => modify fun stock =>
      { stock with failures := stock.failures ++ [(pk, step, raised)] }

/-- `_transfer_journal`. -/
def transferJournal (pk : ℕ) (transfer : StockTransfer) (step : TransferStep) :
    WarehouseTxn PUnit := do
  let value ← transferValue pk transfer step
  if value ≤ 0 then pure ⟨⟩
  else do
    let posted ← Txn.attempt (Txn.atomic (Txn.zoom Warehouse.ledger id
      (postJournal (transferDraft pk step value))))
    logFailure pk step posted

def runStep (pk : ℕ) (transfer : StockTransfer) (step : TransferStep) :
    WarehouseTxn PUnit := do
  transferMove pk transfer (step.branch transfer) (step.change transfer)
    step.reason
  transferJournal pk transfer step

/-- `apply_transfer_transition`. -/
def applyTransferTransition (pk : ℕ) (transfer : StockTransfer)
    (old new : TransferStatus) : WarehouseTxn PUnit :=
  if old = new then pure ⟨⟩
  else
    match TRANSFER_STEPS old new with
    | none => throw (.notAllowed old new)
    | some steps => do
        Txn.require (transfer.fromBranch ≠ transfer.toBranch) .sameBranch
        Txn.require (0 < transfer.quantity) .noQuantity
        Txn.atomic do
          forM (steps.insertionSort fun first second =>
            first.rank ≤ second.rank) (runStep pk transfer)

/-- The goods or the branches of a transfer differ. -/
def StockTransfer.Moved (old new : StockTransfer) : Prop :=
  (old.product, old.fromBranch, old.toBranch, old.quantity) ≠
    (new.product, new.fromBranch, new.toBranch, new.quantity)

instance (old new : StockTransfer) : Decidable (old.Moved new) :=
  inferInstanceAs (Decidable (_ ≠ _))

/-- `execute_stock_transfer`, before an existing row is written. -/
def executeStockTransfer (pk : ℕ) (saved : StockTransfer) :
    WarehouseTxn PUnit := do
  let stock ← get
  match stock.transfers.get? pk with
  | none => throw .missingTransfer
  | some old => do
      Txn.require (¬ (old.Moved saved ∧ old.status ≠ .pending)) .shipped
      applyTransferTransition pk saved old.status saved.status

/-- `execute_new_stock_transfer`, after a new row is written. -/
def executeNewStockTransfer (pk : ℕ) (saved : StockTransfer) :
    WarehouseTxn PUnit :=
  if saved.status ≠ .pending then
    applyTransferTransition pk saved .pending saved.status
  else pure ⟨⟩

def saveTransfer (pk : ℕ) (transfer : StockTransfer) : WarehouseTxn PUnit :=
  Txn.atomic do
    executeStockTransfer pk transfer
    modify fun stock =>
      { stock with transfers := stock.transfers.modify pk fun _ => transfer }

def createTransfer (transfer : StockTransfer) : WarehouseTxn ℕ :=
  Txn.atomic do
    let stock ← get
    let pk := stock.transfers.next
    set { stock with transfers := stock.transfers.insert transfer }
    executeNewStockTransfer pk transfer
    pure pk

end Mousstec.Stock
