import Mousstec.Printing.Shop

/-!
# Treasury transactions, transfers and cheques

Saving a transaction stores it, brings the paid amounts of its documents up to
date, takes the old effect off its treasury and puts the new one on, and keeps
one companion transaction for the tax withheld.  Deleting one undoes all of
that.  Transfers and cheques only move money through such saves and deletes.
-/

namespace Mousstec.Printing

open Library

/-- `word in text`. -/
def textHas (text word : String) : Bool :=
  text.toList.tails.any fun rest => word.toList.isPrefixOf rest

def CATEGORY_KEYWORDS : List (Category × List String) :=
  [(.advance, ["صرف سلفة", "سلفة"]),
    (.salaries, ["راتب", "مرتب", "رواتب", "بونص", "حافز", "salary", "payroll"]),
    (.rent, ["ايجار", "إيجار", "rent"]),
    (.utilities, ["كهرب", "مياه", "انترنت", "إنترنت", "electricity", "water",
      "internet"]),
    (.materials, ["ورق", "حبر", "خام", "فينيل", "paper", "ink", "material"]),
    (.maintenance, ["صيان", "تصليح", "maintain", "repair"]),
    (.shipping, ["شحن", "توصيل", "مواصلات", "delivery", "transport"]),
    (.marketing, ["إعلان", "اعلان", "دعاية", "تسويق", "marketing"])]

/-- `guess_category`. -/
def guessCategory (description : String) (type : TransactionType) : Category :=
  let text := description.toLower
  match CATEGORY_KEYWORDS.find? fun row => row.2.any (textHas text) with
  | some (key, _) =>
      -- Money that comes in under the word of an expense is other income.
      if type = .moneyIn ∧ key ≠ .advance then .otherIncome else key
  | none => if type = .moneyIn then .otherIncome else .otherExpense

namespace PrintTransaction

def linkedCustomer (txn : PrintTransaction) (shop : Shop) : Option ℕ :=
  match txn.order with
  | some order => (shop.orders.get? order).map PrintOrder.customer
  | none => txn.customer

def linkedSupplier (txn : PrintTransaction) (shop : Shop) : Option ℕ :=
  match txn.bill, txn.purchase with
  | some bill, _ => (shop.bills.get? bill).map PrintExpenseBill.supplier
  | none, some purchase =>
      (shop.purchases.get? purchase).map MaterialPurchase.supplier
  | none, none => txn.supplier

def filledCategory (txn : PrintTransaction) (customer supplier : Option ℕ) :
    Category :=
  if customer.isSome then .customer
  else if supplier.isSome then .supplier
  else if txn.fixedAsset.isSome then
    if txn.transactionType = .moneyOut then .fixedAsset else .assetSale
  else
    match txn.category with
    | none => guessCategory txn.description txn.transactionType
    | some .customer => guessCategory txn.description txn.transactionType
    | some .supplier => guessCategory txn.description txn.transactionType
    | some category => category

/-- `_fill_links`. -/
def fillLinks (txn : PrintTransaction) (shop : Shop) : PrintTransaction :=
  let customer := txn.linkedCustomer shop
  let supplier := txn.linkedSupplier shop
  { txn with
    customer
    supplier
    category := some (txn.filledCategory customer supplier) }

def movement (txn : PrintTransaction) : ℕ × TransactionType × ℤ :=
  (txn.treasury, txn.transactionType, txn.amount)

end PrintTransaction

def storedTransaction (shop : Shop) :
    Option ℕ → ShopTxn (Option PrintTransaction)
  | none => pure none
  | some pk => do
      let old ← Txn.expect (shop.transactions.get? pk)
        (.doesNotExist "PrintTransaction")
      pure (some old)

def Shop.putTransaction (shop : Shop) (pk : Option ℕ) (txn : PrintTransaction) :
    Shop :=
  { shop with
    transactions :=
      match pk with
      | none => shop.transactions.insert txn
      | some pk => shop.transactions.modify pk fun _ => txn }

/-- `sync_order_paid_on_txn_save`: the documents of both versions. -/
def Shop.recomputeSaved (shop : Shop) (old : Option PrintTransaction)
    (txn : PrintTransaction) : Shop :=
  match old with
  | none => shop.recomputeLinks txn
  | some old => (shop.recomputeLinks txn).recomputeLinks old

def Shop.takeBack (shop : Shop) : Option PrintTransaction → Shop
  | none => shop
  | some old => shop.addBalance old.treasury (-old.effect)

def moveBalance (old : Option PrintTransaction) (txn : PrintTransaction) :
    ShopTxn PUnit := do
  if old.map PrintTransaction.movement = some txn.movement then pure ⟨⟩
  else
    modify fun shop => shop.takeBack old
    let shop ← get
    let treasury ← Txn.expect (shop.treasuries.get? txn.treasury)
      (.doesNotExist "PrintTreasury")
    Txn.require
      (¬ (txn.effect < 0 ∧ treasury.balance + txn.effect < 0 ∧
        treasury.kind ∉ LIABILITY_KINDS))
      .insufficientBalance
    modify fun shop => shop.addBalance txn.treasury txn.effect

def storeTransaction (pk : Option ℕ) (txn : PrintTransaction) :
    ShopTxn (ℕ × PrintTransaction) := do
  let shop ← get
  let old ← storedTransaction shop pk
  let txn := txn.fillLinks shop
  set ((shop.putTransaction pk txn).recomputeSaved old txn)
  moveBalance old txn
  pure (pk.getD shop.transactions.next, txn)

/-- The marks a document puts on a transaction before deleting it. -/
structure DeletionMarks where
  deletingWithAsset : Bool := false
  withParent : Bool := false
  withCheque : Bool := false

def Shop.isLeg (shop : Shop) (pk : ℕ) : Bool :=
  shop.transfers.rows.any fun row =>
    row.2.outTxn = some pk || row.2.inTxn = some pk

def Shop.isAssetPayment (shop : Shop) (txn : PrintTransaction) : Bool :=
  (txn.fixedAsset.bind shop.fixedAssets.get?).isSome

def Shop.isCompanion (shop : Shop) (pk : ℕ) : Bool :=
  shop.transactions.rows.any fun row => row.2.withholdingTxn = some pk

def Shop.isChequeTxn (shop : Shop) (pk : ℕ) : Bool :=
  shop.cheques.rows.any fun row =>
    row.2.txn = some pk || row.2.bounceTxn = some pk

/-- `refuse_deleting_linked_leg`. -/
def refuseDeletingLinkedLeg (shop : Shop) (marks : DeletionMarks) (pk : ℕ)
    (txn : PrintTransaction) : ShopTxn PUnit := do
  Txn.require (shop.isLeg pk = false) .transferLeg
  Txn.require (shop.isAssetPayment txn = false ∨ marks.deletingWithAsset = true)
    .assetPayment
  Txn.require (marks.withParent = true ∨ shop.isCompanion pk = false)
    .withholdingOfPayment
  Txn.require (marks.withCheque = true ∨ shop.isChequeTxn pk = false)
    .chequeTransaction

def clearLink (pk : ℕ) (link : Option ℕ) : Option ℕ :=
  if link = some pk then none else link

def Shop.dropTransaction (shop : Shop) (pk : ℕ) : Shop :=
  { shop with
    transactions := (shop.transactions.erase pk).map fun _ txn =>
      { txn with withholdingTxn := clearLink pk txn.withholdingTxn }
    transfers := shop.transfers.map fun _ transfer =>
      { transfer with
        outTxn := clearLink pk transfer.outTxn
        inTxn := clearLink pk transfer.inTxn }
    cheques := shop.cheques.map fun _ cheque =>
      { cheque with
        txn := clearLink pk cheque.txn
        bounceTxn := clearLink pk cheque.bounceTxn }
    creditNotes := shop.creditNotes.map fun _ note =>
      { note with refundTxn := clearLink pk note.refundTxn } }

def Shop.companion (shop : Shop) (txn : PrintTransaction) :
    Option (ℕ × PrintTransaction) :=
  txn.withholdingTxn.bind fun pk =>
    (shop.transactions.get? pk).map fun row => (pk, row)

/-- `delete_withholding_companion`. -/
def deleteCompanion (delete : ℕ → ShopTxn PUnit) (txn : PrintTransaction) :
    ShopTxn PUnit := do
  let shop ← get
  match shop.companion txn with
  | none => pure ⟨⟩
  | some (pk, _) => delete pk

/-- Deletes a transaction with the signals around it.  The depth bounds the
chain of companions. -/
def deleteWithin : ℕ → DeletionMarks → ℕ → ShopTxn PUnit
  | 0, _, _ => throw .recursionDepth
  | depth + 1, marks, pk => Txn.atomic do
      let shop ← get
      let txn ← Txn.expect (shop.transactions.get? pk)
        (.doesNotExist "PrintTransaction")
      refuseDeletingLinkedLeg shop marks pk txn
      modify fun shop => (shop.dropTransaction pk).recomputeLinks txn
      deleteCompanion (deleteWithin depth { withParent := true }) txn
      modify fun shop => shop.addBalance txn.treasury (-txn.effect)

/-- `system_wallet`: the first wallet of its kind, made when it is missing. -/
def systemWallet (wallet : SystemWallet) : ShopTxn ℕ := do
  let shop ← get
  match shop.firstOfKind (.system wallet) with
  | some pk => pure pk
  | none => do
      set { shop with
        treasuries := shop.treasuries.insert
          { name := SYSTEM_WALLET_NAMES wallet, kind := .system wallet } }
      pure shop.treasuries.next

def withholdingWallet : TransactionType → SystemWallet
  | .moneyIn => .whtIn
  | .moneyOut => .whtOut

def companionValues (pk : ℕ) (txn : PrintTransaction) (wallet : ℕ)
    (companion : PrintTransaction) : PrintTransaction :=
  let note := if txn.description = "" then "" else " — " ++ txn.description
  { companion with
    treasury := wallet
    transactionType := txn.transactionType
    amount := txn.withholdingTax
    order := txn.order
    customer := txn.customer
    purchase := txn.purchase
    bill := txn.bill
    supplier := txn.supplier
    date := txn.date
    description := String.ofList
      (("خصم من المنبع على الدفعة #" ++ toString pk ++ note).toList.take 300) }

def Shop.linkCompanion (shop : Shop) (pk : ℕ) (companion : Option ℕ) : Shop :=
  { shop with
    transactions := shop.transactions.modify pk fun txn =>
      { txn with withholdingTxn := companion } }

def dropWithholding (delete : ℕ → ShopTxn PUnit) (pk : ℕ) :
    Option (ℕ × PrintTransaction) → ShopTxn PUnit
  | none => pure ⟨⟩
  | some (companion, _) => do
      modify fun shop => shop.linkCompanion pk none
      delete companion

def raiseWithholding (save : Option ℕ → PrintTransaction → ShopTxn ℕ) (pk : ℕ)
    (txn : PrintTransaction) (wallet : ℕ) :
    Option (ℕ × PrintTransaction) → ShopTxn PUnit
  | none => do
      let companion ← save none (companionValues pk txn wallet
        { treasury := wallet, transactionType := txn.transactionType, amount := 0 })
      modify fun shop => shop.linkCompanion pk (some companion)
  | some (companion, row) => do
      let _ ← save (some companion) (companionValues pk txn wallet row)
      pure ⟨⟩

/-- `_sync_withholding`. -/
def syncWithholding (save : Option ℕ → PrintTransaction → ShopTxn ℕ)
    (delete : ℕ → ShopTxn PUnit) (pk : ℕ) (txn : PrintTransaction) :
    ShopTxn PUnit := do
  let shop ← get
  if txn.withholdingTax ≤ 0 then
    dropWithholding delete pk (shop.companion txn)
  else
    let wallet ← systemWallet (withholdingWallet txn.transactionType)
    raiseWithholding save pk txn wallet (shop.companion txn)

/-- Saves a transaction and its withholding.  The depth bounds the chain of
companions. -/
def saveWithin : ℕ → Option ℕ → PrintTransaction → ShopTxn ℕ
  | 0, _, _ => throw .recursionDepth
  | depth + 1, pk, txn => Txn.atomic do
      let (key, row) ← storeTransaction pk txn
      syncWithholding (saveWithin depth)
        (deleteWithin depth { withParent := true }) key row
      pure key

def Shop.companionDepth (shop : Shop) : ℕ :=
  shop.transactions.next + 2

/-- `PrintTransaction.save`. -/
def save (pk : Option ℕ) (txn : PrintTransaction) : ShopTxn ℕ := do
  let shop ← get
  saveWithin shop.companionDepth pk txn

/-- `PrintTransaction.objects.create`. -/
def createTransaction (txn : PrintTransaction) : ShopTxn ℕ :=
  save none { txn with withholdingTxn := none }

/-- A change on the transaction's own screen: `has_change_permission` leaves the
system wallets to their documents, and the links to the asset and the companion
are not editable. -/
def changeTransaction (pk : ℕ) (txn : PrintTransaction) : ShopTxn PUnit := do
  let shop ← get
  let old ← Txn.expect (shop.transactions.get? pk)
    (.doesNotExist "PrintTransaction")
  Txn.require (((shop.treasuries.get? old.treasury).any
    PrintTreasury.isMoney) = true) .changePermission
  let _ ← save (some pk)
    { txn with fixedAsset := old.fixedAsset, withholdingTxn := old.withholdingTxn }
  pure ⟨⟩

/-- `PrintTransaction.delete`. -/
def deleteTransaction (marks : DeletionMarks) (pk : ℕ) : ShopTxn PUnit := do
  let shop ← get
  deleteWithin shop.companionDepth marks pk

def Shop.treasuryName (shop : Shop) (pk : ℕ) : String :=
  ((shop.treasuries.get? pk).map PrintTreasury.name).getD ""

/-- `except ValueError` around the first leg of a transfer. -/
def transferShortage (name : String) : ShopError → ShopError
  | .insufficientBalance => .transferShort name
  | raised => raised

def transferLeg (transfer : PrintTreasuryTransfer) (treasury : ℕ)
    (type : TransactionType) (label : String) : PrintTransaction where
  treasury
  transactionType := type
  amount := transfer.amount
  category := some .transfer
  date := transfer.date
  description := label ++
    if transfer.notes = "" then "" else " — " ++ transfer.notes

/-- `PrintTreasuryTransfer.save`. -/
def createTransfer (transfer : PrintTreasuryTransfer) : ShopTxn ℕ := do
  Txn.require (transfer.fromTreasury ≠ transfer.toTreasury) .sameTreasury
  Txn.atomic do
    let shop ← get
    let outTxn ← Txn.mapError
      (transferShortage (shop.treasuryName transfer.fromTreasury))
      (createTransaction (transferLeg transfer transfer.fromTreasury .moneyOut
        ("تحويل إلى " ++ shop.treasuryName transfer.toTreasury)))
    let inTxn ← createTransaction (transferLeg transfer transfer.toTreasury
      .moneyIn ("تحويل من " ++ shop.treasuryName transfer.fromTreasury))
    let shop ← get
    set { shop with
      transfers := shop.transfers.insert
        { transfer with outTxn := some outTxn, inTxn := some inTxn } }
    pure shop.transfers.next

def deleteLeg (leg : Option ℕ) : ShopTxn PUnit := do
  let shop ← get
  match leg.filter fun pk => (shop.transactions.get? pk).isSome with
  | none => pure ⟨⟩
  | some pk => deleteTransaction {} pk

/-- Deletes a transfer: `refuse_deleting_cheque_settlement` before and
`delete_transfer_legs` after. -/
def deleteTransfer (pk : ℕ) : ShopTxn PUnit := Txn.atomic do
  let shop ← get
  let transfer ← Txn.expect (shop.transfers.get? pk)
    (.doesNotExist "PrintTreasuryTransfer")
  Txn.require ((shop.cheques.rows.any fun row =>
    row.2.settleTransfer = some pk) = false) .chequeSettlement
  set { shop with transfers := shop.transfers.erase pk }
  deleteLeg transfer.outTxn
  deleteLeg transfer.inTxn

namespace PrintCheque

def cleanParty (cheque : PrintCheque) : ShopTxn PUnit :=
  match cheque.direction with
  | .moneyIn => do
      Txn.require (cheque.customer.isSome ∨ cheque.order.isSome)
        .incomingWithoutParty
      Txn.require (cheque.supplier = none ∧ cheque.purchase = none ∧
        cheque.bill = none) .incomingWithSupplier
  | .moneyOut => do
      Txn.require (cheque.supplier.isSome ∨ cheque.purchase.isSome ∨
        cheque.bill.isSome) .outgoingWithoutParty
      Txn.require (cheque.customer = none ∧ cheque.order = none)
        .outgoingWithCustomer

/-- `clean`. -/
def clean (cheque : PrintCheque) : ShopTxn PUnit := do
  cheque.cleanParty
  Txn.require (cheque.issueDate ≤ cheque.dueDate) .dueBeforeIssue

def wallet (cheque : PrintCheque) : SystemWallet :=
  match cheque.direction with
  | .moneyIn => .chequesIn
  | .moneyOut => .chequesOut

def withLinks (cheque : PrintCheque) (txn : PrintTransaction) :
    PrintTransaction :=
  match cheque.direction with
  | .moneyIn => { txn with order := cheque.order, customer := cheque.customer }
  | .moneyOut =>
      { txn with
        purchase := cheque.purchase
        bill := cheque.bill
        supplier := cheque.supplier }

def registration (cheque : PrintCheque) (treasury : ℕ) : PrintTransaction :=
  let label :=
    match cheque.direction with
    | .moneyIn => "شيك وارد"
    | .moneyOut => "شيك صادر"
  let bank := if cheque.bankName = "" then "" else " — " ++ cheque.bankName
  cheque.withLinks
    { treasury
      transactionType := cheque.direction
      amount := cheque.amount
      date := cheque.issueDate.ordinal
      description := label ++ " رقم " ++ cheque.number ++ bank ++ " — يستحق " ++
        cheque.dueDate.format }

def reversal (cheque : PrintCheque) (treasury : ℕ) (day : Date)
    (reason : String) : PrintTransaction :=
  let why := if reason = "" then "" else " — " ++ reason
  cheque.withLinks
    { treasury
      transactionType :=
        match cheque.direction with
        | .moneyIn => .moneyOut
        | .moneyOut => .moneyIn
      amount := cheque.amount
      date := day.ordinal
      description := "شيك مرتجع رقم " ++ cheque.number ++ why }

end PrintCheque

def Shop.modifyCheque (shop : Shop) (pk : ℕ)
    (change : PrintCheque → PrintCheque) : Shop :=
  { shop with cheques := shop.cheques.modify pk change }

/-- `PrintCheque.save` of a new cheque. -/
def registerCheque (cheque : PrintCheque) : ShopTxn ℕ := do
  cheque.clean
  Txn.atomic do
    let shop ← get
    let pk := shop.cheques.next
    set { shop with
      cheques := shop.cheques.insert
        { cheque with
          status := .pending
          txn := none
          settleTransfer := none
          bounceTxn := none
          settledOn := none
          bouncedOn := none } }
    let wallet ← systemWallet cheque.wallet
    let txn ← createTransaction (cheque.registration wallet)
    modify fun shop => shop.modifyCheque pk fun stored =>
      { stored with txn := some txn }
    pure pk

def pendingCheque (pk : ℕ) : ShopTxn PrintCheque := do
  let shop ← get
  let cheque ← Txn.expect (shop.cheques.get? pk) (.doesNotExist "PrintCheque")
  Txn.require (cheque.status = .pending) .chequeClosed
  pure cheque

def settlement (cheque : PrintCheque) (wallet treasury : ℕ) (day : Date) :
    PrintTreasuryTransfer where
  fromTreasury :=
    match cheque.direction with
    | .moneyIn => wallet
    | .moneyOut => treasury
  toTreasury :=
    match cheque.direction with
    | .moneyIn => treasury
    | .moneyOut => wallet
  amount := cheque.amount
  date := day.ordinal
  notes := "صرف شيك رقم " ++ cheque.number

/-- `PrintCheque.clear`. -/
def clearCheque (pk treasury : ℕ) (day : Date) : ShopTxn PUnit := do
  let shop ← get
  let stored ← Txn.expect (shop.treasuries.get? treasury)
    (.doesNotExist "PrintTreasury")
  Txn.require (stored.isMoney = true) .notMoney
  Txn.atomic do
    let cheque ← pendingCheque pk
    let wallet ← systemWallet cheque.wallet
    let transfer ← createTransfer (settlement cheque wallet treasury day)
    modify fun shop => shop.modifyCheque pk fun stored =>
      { stored with
        status := .cleared
        settledOn := some day
        settleTransfer := some transfer }

/-- `PrintCheque.bounce`. -/
def bounceCheque (pk : ℕ) (day : Date) (reason : String) : ShopTxn PUnit :=
  Txn.atomic do
    let cheque ← pendingCheque pk
    let wallet ← systemWallet cheque.wallet
    let bounce ← createTransaction (cheque.reversal wallet day reason)
    modify fun shop => shop.modifyCheque pk fun stored =>
      { stored with
        status := .bounced
        bouncedOn := some day
        bounceTxn := some bounce }

def deleteRegistration (txn : Option ℕ) : ShopTxn PUnit := do
  let shop ← get
  match txn.filter fun pk => (shop.transactions.get? pk).isSome with
  | none => pure ⟨⟩
  | some pk => deleteTransaction { withCheque := true } pk

/-- `PrintCheque.delete`. -/
def deleteCheque (pk : ℕ) : ShopTxn PUnit := do
  let shop ← get
  let cheque ← Txn.expect (shop.cheques.get? pk) (.doesNotExist "PrintCheque")
  Txn.require (cheque.status = .pending) .chequeSettled
  Txn.atomic do
    modify fun shop => { shop with cheques := shop.cheques.erase pk }
    deleteRegistration cheque.txn

end Mousstec.Printing
