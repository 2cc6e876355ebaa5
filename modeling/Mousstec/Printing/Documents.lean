import Mousstec.Printing.Convergence
import Mousstec.Printing.Parties

/-!
# Printing documents in the ledger

Each document of the shop has a target that follows from its stored row, and a
`sync` that brings the ledger in line with it.  The hooks on saved and deleted
rows call these through `_safe`, which logs a posting that fails and lets the
business operation go on.
-/

namespace Mousstec.Printing

open Library Accounting

structure Press where
  shop : Shop := {}
  books : Books
  today : Date
  depreciationThrough : Option Date := none
  /-- How many postings were logged as failed. -/
  failures : ℕ := 0
  deriving DecidableEq

inductive PressError where
  | shop (error : ShopError)
  | ledger (error : LedgerError)
  deriving DecidableEq

abbrev PressTxn (α : Type) := Txn PressError Press α

def shopPart : Component Press Shop where
  get press := press.shop
  set part press := { press with shop := part }
  get_set _ _ := rfl
  set_get _ := rfl

def booksPart : Component Press Books where
  get press := press.books
  set part press := { press with books := part }
  get_set _ _ := rfl
  set_get _ := rfl

def onShop (block : ShopTxn α) : PressTxn α :=
  Txn.zoom shopPart .shop block

def onBooks (block : LedgerTxn α) : PressTxn α :=
  Txn.zoom booksPart .ledger block

/-- `_safe`: a posting that fails is logged and undone. -/
def safely (block : PressTxn α) : PressTxn PUnit := fun press =>
  match Txn.atomic block press with
  | .ok _ final => .ok ⟨⟩ final
  | .error _ before => .ok ⟨⟩ { before with failures := before.failures + 1 }

def TREASURY_PARENT : TreasuryKind → PrintAccountKey
  | .cash => .cash
  | .bank => .bank
  | .wallet => .bank
  | .system .chequesIn => .chequesReceivable
  | .system .chequesOut => .chequesPayable
  | .system .whtIn => .whtReceivable
  | .system .whtOut => .whtPayable

def TXN_COUNTER_ACCOUNT : Category → PrintAccountKey
  | .customer => .ar
  | .supplier => .ap
  | .advance => .employeeAdvances
  | .capital => .capital
  | .drawings => .capital
  | .transfer => .transfer
  | .otherIncome => .otherIncome
  | .materials => .materialsExpense
  | .salaries => .salaries
  | .rent => .rent
  | .utilities => .utilities
  | .maintenance => .maintenance
  | .shipping => .shipping
  | .marketing => .marketing
  | .otherExpense => .otherExpense
  | .fixedAsset => .fixedAssets
  | .assetSale => .assetDisposal
  | .payroll => .salariesPayable
  | .vat => .vatSettlement

def CREDIT_NOTE_ACCOUNT : CreditNoteKind → PrintAccountKey
  | .goodsReturn => .salesReturns
  | .discount => .discountAllowed
  | .badDebt => .badDebts

def treasuryCode (pk : ℕ) (kind : TreasuryKind) : Account :=
  (PRINT_ACCOUNTS (TREASURY_PARENT kind)).1 ++ "-" ++ toString pk

/-- `treasury_account`: the account below the one of the treasury's kind,
created when it is missing. -/
def treasuryAccount (pk : ℕ) (treasury : PrintTreasury) :
    LedgerTxn PrintAccountRef := do
  let parent := PRINT_ACCOUNTS (TREASURY_PARENT treasury.kind)
  let _ ← getOrCreateAccount parent.1 parent.2
  let code ← getOrCreateAccount (treasuryCode pk treasury.kind) parent.2
  pure (.row code)

def line (key : PrintAccountKey) (amount : ℤ) : PrintAccountRef × ℚ :=
  (.key key, amount)

/-- `order_target`: the lines, the type and the day of an order's entry. -/
def orderTarget (shop : Shop) (pk : ℕ) (order : PrintOrder) :
    Target × JournalType × Option ℤ :=
  let cost := shop.materialCost pk
  match order.status with
  | .delivered =>
      ([line .ar order.netTotal, line .revenue (-order.revenue),
        line .vatOutput (-order.taxAmount), line .cogs cost,
        line .materials (-cost)], .sales, order.dateDelivered)
  | .cancelled =>
      ([line .spoilage cost, line .materials (-cost)], .adjustment,
        order.dateCancelled)
  | _ =>
      ([line .wip cost, line .materials (-cost)], .general,
        some order.dateCreated)

def PrintTransaction.counterAccount (txn : PrintTransaction) : PrintAccountKey :=
  match txn.category with
  | some category => TXN_COUNTER_ACCOUNT category
  | none =>
      if txn.transactionType = .moneyIn then .otherIncome else .otherExpense

/-- `txn_target`. -/
def txnTarget (txn : PrintTransaction) (treasury : PrintAccountRef) : Target :=
  [(treasury, txn.effect), line txn.counterAccount (-txn.effect)]

def purchaseTarget (purchase : MaterialPurchase) : Target :=
  if purchase.status = .received then
    [line .materials purchase.inventoryValue,
      line .vatInput purchase.taxAmount, line .ap (-purchase.netTotal)]
  else []

def adjustmentTarget (adjustment : PrintStockAdjustment) : Target :=
  [line .materials adjustment.value, line .variance (-adjustment.value)]

def excessTarget (source goal : PrintAccountKey) (excess : ℤ) : Target :=
  if excess > 0 then [line source excess, line goal (-excess)] else []

def Shop.deliveredDue (shop : Shop) (customer : ℕ) : ℤ :=
  (shop.overOrders customer fun order =>
    if order.status = .delivered then order.dueAmount else 0) +
    shop.accountLevelDebt customer

/-- The target of `sync_customer`. -/
def customerTarget (shop : Shop) (customer : ℕ) : Target :=
  excessTarget .ar .customerDeposits
    (shop.received (shop.paidBy customer) - shop.deliveredDue customer)

/-- The target of `sync_customer_opening`. -/
def customerOpeningTarget (customer : PrintCustomer) : Target :=
  [line .ar customer.openingBalance,
    line .openingEquity (-customer.openingBalance)]

/-- The target of `sync_supplier`. -/
def supplierTarget (shop : Shop) (supplier : ℕ) : Target :=
  excessTarget .supplierAdvances .ap (-shop.supplierBalance supplier)

def creditNoteTarget (note : PrintCreditNote) : Target :=
  [line (CREDIT_NOTE_ACCOUNT note.kind) note.amount,
    line .vatOutput note.taxAmount, line .ar (-note.total)]

def purchaseReturnTarget (ret : MaterialPurchaseReturn) : Target :=
  if ret.status = .posted then
    [line .ap ret.total, line .materials (-ret.value),
      line .vatInput (-ret.taxAmount)]
  else []

/-- The target of `post_material_opening`. -/
def materialOpeningTarget (value : ℚ) : Target :=
  [line .materials (q value), line .openingEquity (-q value)]

/-- `sync` under the reference of a document. -/
def syncDocument (document : PrintDocument) (target : Target)
    (options : SyncOptions) : PressTxn PUnit := do
  let _ ← onBooks (sync (.print document) target options)

/-- `unpost`: the document is gone. -/
def unpostDocument (document : PrintDocument) : PressTxn PUnit :=
  syncDocument document [] {}

def syncStored (stored : Option α) (synchronise : α → PressTxn PUnit) :
    PressTxn PUnit :=
  match stored with
  | none => pure ⟨⟩
  | some row => synchronise row

/-- `sync_order`. -/
def syncOrder (pk : ℕ) : PressTxn PUnit := do
  let press ← get
  syncStored (press.shop.orders.get? pk) fun order =>
    let (target, journalType, date) := orderTarget press.shop pk order
    syncDocument (.order pk) target { journalType, date, branch := order.branch }

def PrintTransaction.branch (txn : PrintTransaction) (shop : Shop)
    (treasury : PrintTreasury) : Option ℕ :=
  let document :=
    match txn.order.bind shop.orders.get? with
    | some order => order.branch
    | none =>
        match txn.purchase.bind shop.purchases.get? with
        | some purchase => purchase.branch
        | none => (txn.bill.bind shop.bills.get?).bind PrintExpenseBill.branch
  document.orElse fun _ => treasury.branch

/-- `sync_txn`. -/
def syncTxn (pk : ℕ) : PressTxn PUnit := do
  let press ← get
  syncStored (press.shop.transactions.get? pk) fun txn => do
    let treasury ← Txn.expect (press.shop.treasuries.get? txn.treasury)
      (.shop (.doesNotExist "PrintTreasury"))
    let account ← onBooks (treasuryAccount txn.treasury treasury)
    syncDocument (.transaction pk) (txnTarget txn account)
      { journalType :=
          if txn.transactionType = .moneyIn then .cashReceipt else .cashPayment
        date := some txn.date
        branch := txn.branch press.shop treasury }

/-- `sync_purchase`. -/
def syncPurchase (pk : ℕ) : PressTxn PUnit := do
  let press ← get
  syncStored (press.shop.purchases.get? pk) fun purchase =>
    syncDocument (.purchase pk) (purchaseTarget purchase)
      { journalType := .purchase
        date := some purchase.date
        branch := purchase.branch }

/-- `sync_adjustment`. -/
def syncAdjustment (pk : ℕ) : PressTxn PUnit := do
  let press ← get
  syncStored (press.shop.adjustments.get? pk) fun adjustment => do
    let material ← Txn.expect (press.shop.materials.get? adjustment.material)
      (.shop (.doesNotExist "PrintMaterial"))
    syncDocument (.adjustment pk) (adjustmentTarget adjustment)
      { journalType := .adjustment
        date := some adjustment.createdAt
        branch := material.branch }

/-- `sync_customer`. -/
def syncCustomer (pk : ℕ) : PressTxn PUnit := do
  let press ← get
  syncStored (press.shop.customers.get? pk) fun _ =>
    syncDocument (.customer pk) (customerTarget press.shop pk) {}

/-- `sync_customer_opening`. -/
def syncCustomerOpening (pk : ℕ) : PressTxn PUnit := do
  let press ← get
  syncStored (press.shop.customers.get? pk) fun customer =>
    syncDocument (.customerOpening pk) (customerOpeningTarget customer)
      { journalType := .opening, date := some customer.openingDate }

/-- `sync_supplier`. -/
def syncSupplier (pk : ℕ) : PressTxn PUnit := do
  let press ← get
  syncStored (press.shop.suppliers.get? pk) fun _ =>
    syncDocument (.supplier pk) (supplierTarget press.shop pk) {}

/-- `sync_credit_note`. -/
def syncCreditNote (pk : ℕ) : PressTxn PUnit := do
  let press ← get
  syncStored (press.shop.creditNotes.get? pk) fun note =>
    syncDocument (.creditNote pk) (creditNoteTarget note)
      { journalType := if note.kind = .goodsReturn then .sales else .adjustment
        date := some note.date
        branch := (note.order.bind press.shop.orders.get?).bind
          PrintOrder.branch }

/-- `sync_purchase_return`. -/
def syncPurchaseReturn (pk : ℕ) : PressTxn PUnit := do
  let press ← get
  syncStored (press.shop.purchaseReturns.get? pk) fun ret => do
    let purchase ← Txn.expect (press.shop.purchases.get? ret.purchase)
      (.shop (.doesNotExist "MaterialPurchase"))
    syncDocument (.purchaseReturn pk) (purchaseReturnTarget ret)
      { journalType := .purchase
        date := some ret.date
        branch := purchase.branch }

/-- `post_material_opening`. -/
def postMaterialOpening (pk : ℕ) (branch : Option ℕ) (value : ℚ) :
    PressTxn PUnit :=
  syncDocument (.materialOpening pk) (materialOpeningTarget value)
    { journalType := .opening, branch }

def followRow (stored : Bool) (synchronise : PressTxn PUnit)
    (document : PrintDocument) : PressTxn PUnit :=
  safely (if stored then synchronise else unpostDocument document)

def followParty (synchronise : ℕ → PressTxn PUnit) :
    Option ℕ → PressTxn PUnit
  | none => pure ⟨⟩
  | some pk => safely (synchronise pk)

def parties (old new : Option ℕ) : List ℕ :=
  (old.toList ++ new.toList).dedup

/-- `on_txn_changed`. -/
def onTxnChanged (pk : ℕ) (customer supplier : Option ℕ) : PressTxn PUnit := do
  let press ← get
  let txn := press.shop.transactions.get? pk
  followRow txn.isSome (syncTxn pk) (.transaction pk)
  forM (parties customer (txn.bind PrintTransaction.customer)) fun party =>
    safely (syncCustomer party)
  forM (parties supplier (txn.bind PrintTransaction.supplier)) fun party =>
    safely (syncSupplier party)

/-- `on_order_changed`. -/
def onOrderChanged (pk : ℕ) (customer : Option ℕ) : PressTxn PUnit := do
  let press ← get
  let order := press.shop.orders.get? pk
  followRow order.isSome (syncOrder pk) (.order pk)
  followParty syncCustomer
    ((order.map PrintOrder.customer).orElse fun _ => customer)

/-- `on_purchase_changed`. -/
def onPurchaseChanged (pk : ℕ) (supplier : Option ℕ) : PressTxn PUnit := do
  let press ← get
  let purchase := press.shop.purchases.get? pk
  followRow purchase.isSome (syncPurchase pk) (.purchase pk)
  followParty syncSupplier
    ((purchase.map MaterialPurchase.supplier).orElse fun _ => supplier)

/-- `on_purchase_return_changed`. -/
def onPurchaseReturnChanged (pk : ℕ) (supplier : Option ℕ) :
    PressTxn PUnit := do
  let press ← get
  let ret := press.shop.purchaseReturns.get? pk
  followRow ret.isSome (syncPurchaseReturn pk) (.purchaseReturn pk)
  followParty syncSupplier
    (((ret.bind fun row => press.shop.purchases.get? row.purchase).map
      MaterialPurchase.supplier).orElse fun _ => supplier)

/-- `on_adjustment_changed`. -/
def onAdjustmentChanged (pk : ℕ) : PressTxn PUnit := do
  let press ← get
  followRow (press.shop.adjustments.get? pk).isSome (syncAdjustment pk)
    (.adjustment pk)

end Mousstec.Printing
