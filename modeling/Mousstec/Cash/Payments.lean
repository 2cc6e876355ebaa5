import Mousstec.Accounting.Ledger

/-!
# Cash movements

A financial transaction moves an amount into or out of a treasury.  Creating
one posts its ledger entry and changes the treasury's balance; deleting one
takes the entry out again, or reverses it when its period is closed, and
changes the balance back.
-/

namespace Mousstec.Cash

open Library Accounting

inductive TreasuryType where
  | cash
  | bank
  | visa
  | wallet
  deriving DecidableEq

structure Treasury where
  name : String
  type : TreasuryType := .cash
  balance : ℤ := 0
  isActive : Bool := true
  deriving DecidableEq

/-- `'in'` and `'out'`. -/
inductive TransactionType where
  | cashIn
  | cashOut
  deriving DecidableEq

inductive EquityKind where
  | capital
  | drawings
  | vat
  deriving DecidableEq

structure FinancialTransaction where
  treasury : ℕ
  transactionType : TransactionType
  amount : ℤ
  description : String := ""
  date : ℤ
  category : Option ℕ := none
  equityKind : Option EquityKind := none
  employee : Option ℕ := none
  saleInvoice : Option ℕ := none
  purchaseInvoice : Option ℕ := none
  purchaseExtraCost : Option ℕ := none
  customer : Option ℕ := none
  vendor : Option ℕ := none
  deriving DecidableEq

/-- The kinds of shipment costs, with the behaviour they have by default. -/
inductive ExtraCostKind where
  | loading
  | customs
  | shipping
  | insurance
  | travel
  | food
  | other
  deriving DecidableEq

inductive CostBehavior where
  | landed
  | expense
  deriving DecidableEq

/-- `default_behavior_for`. -/
def ExtraCostKind.defaultBehavior : ExtraCostKind → CostBehavior
  | .loading => .landed
  | .customs => .landed
  | .shipping => .landed
  | .insurance => .landed
  | .travel => .expense
  | .food => .expense
  | .other => .expense

structure PurchaseInvoiceExtraCost where
  invoice : ℕ
  kind : ExtraCostKind := .shipping
  behavior : Option CostBehavior := none
  amount : ℤ := 0
  treasury : Option ℕ := none
  expenseCategory : Option ℕ := none
  deriving DecidableEq

/-- `is_landed`. -/
def PurchaseInvoiceExtraCost.isLanded (cost : PurchaseInvoiceExtraCost) :
    Bool :=
  cost.behavior.getD cost.kind.defaultBehavior = .landed

/-- Treasuries and their movements, with the rows their postings read, the
ledger, and the postings that failed without stopping a movement. -/
structure CashDesk where
  treasuries : Table Treasury
  payments : Table FinancialTransaction
  extraCosts : Table PurchaseInvoiceExtraCost
  books : Books
  failures : List (ℕ × LedgerError) := []
  deriving DecidableEq

inductive CashError where
  | missingPayment (pk : ℕ)
  | ledger (raised : LedgerError)
  deriving DecidableEq

def CashError.text : CashError → String
  | .missingPayment _ => "FinancialTransaction matching query does not exist."
  | .ledger raised => raised.text ""

abbrev CashTxn (α : Type) := Txn CashError CashDesk α

def CashDesk.ledger : Component CashDesk Books where
  get := books
  set part whole := { whole with books := part }
  get_set _ _ := rfl
  set_get _ := rfl

def TRANSFER_TAG : String := "[تحويل:"

def COMMISSION_PAYOUT_TAG : String := "صرف عمولات مستحقة"

def ADVANCE_TAG : String := "صرف سلفة موظف"

namespace FinancialTransaction

def hasParty (ft : FinancialTransaction) : Bool :=
  ft.saleInvoice.isSome || ft.purchaseInvoice.isSome || ft.customer.isSome ||
    ft.vendor.isSome

/-- `_is_transfer`. -/
def isTransfer (ft : FinancialTransaction) : Bool :=
  !ft.hasParty && ft.description.startsWith TRANSFER_TAG

/-- `is_commission_payout`. -/
def isCommissionPayout (ft : FinancialTransaction) : Bool :=
  ft.employee.isSome && !ft.hasParty &&
    ft.description.startsWith COMMISSION_PAYOUT_TAG

/-- `is_advance_disbursement`. -/
def isAdvanceDisbursement (ft : FinancialTransaction) : Bool :=
  ft.employee.isSome && !ft.hasParty && ft.description.startsWith ADVANCE_TAG

def signed (ft : FinancialTransaction) : ℤ :=
  match ft.transactionType with
  | .cashIn => ft.amount
  | .cashOut => -ft.amount

end FinancialTransaction

/-- `_cash_key_for`. -/
def cashKeyFor (treasury : Option Treasury) : AccountKey :=
  match treasury.map Treasury.type with
  | some .bank => .bank
  | some .visa => .bank
  | _ => .cash

/-- `category_account_code`: 57 and the category in three digits. -/
def categoryAccountCode (category : ℕ) : Account :=
  let digits := toString category
  "57" ++ String.ofList (List.replicate (3 - digits.length) '0') ++ digits

/-- `_expense_account_for` and `_expense_account_for_extra`: the account of a
category or, without one, a standard account. -/
def expenseAccount (standard : AccountKey) (category : Option ℕ) :
    LedgerTxn AccountRef := do
  let code ← match category with
    | some pk => getOrCreateAccount (categoryAccountCode pk) .expense
    | none => account (.key standard)
  pure (.row code)

def counterAccount (extra : Option PurchaseInvoiceExtraCost)
    (ft : FinancialTransaction) : LedgerTxn AccountRef :=
  match extra with
  | some cost =>
      if cost.isLanded then pure (.key .inventory)
      else expenseAccount .importExpense cost.expenseCategory
  | none =>
      if ft.equityKind = some .vat then pure (.key .vatOutput)
      else if ft.equityKind.isSome then pure (.key .capital)
      else if ft.isTransfer then pure (.key .treasuryTransfer)
      else if ft.isCommissionPayout then pure (.key .commissionPayable)
      else if ft.isAdvanceDisbursement then pure (.key .employeeAdvances)
      else if ft.saleInvoice.isSome ∨ ft.customer.isSome then pure (.key .ar)
      else if ft.purchaseInvoice.isSome ∨ ft.vendor.isSome then pure (.key .ap)
      else if ft.transactionType = .cashIn then pure (.key .otherRevenue)
      else expenseAccount .generalExpense ft.category

def paymentDraft (pk : ℕ) (ft : FinancialTransaction) (cashKey : AccountKey)
    (counter : AccountRef) : JournalDraft where
  lines :=
    match ft.transactionType with
    | .cashIn => [⟨.key cashKey, ft.amount, 0⟩, ⟨counter, 0, ft.amount⟩]
    | .cashOut => [⟨counter, ft.amount, 0⟩, ⟨.key cashKey, 0, ft.amount⟩]
  date := some ft.date
  journalType :=
    match ft.transactionType with
    | .cashIn => .cashReceipt
    | .cashOut => .cashPayment
  reference := .financialTransaction pk
  source := some (.financialTransaction pk)

def entriesOf (books : Books) (source : Source) : List (ℕ × JournalEntry) :=
  books.entries.rows.filter fun row => row.2.source = some source

/-- `post_payment`; a movement is posted once. -/
def postPayment (pk : ℕ) (ft : FinancialTransaction)
    (treasury : Option Treasury) (extra : Option PurchaseInvoiceExtraCost) :
    LedgerTxn (Option ℕ) := do
  let books ← get
  if (entriesOf books (.financialTransaction pk)).any fun row =>
      row.2.status ≠ .reversed then pure none
  else if ft.amount = 0 then pure none
  else do
    let counter ← counterAccount extra ft
    postJournal (paymentDraft pk ft (cashKeyFor treasury) counter)

def logFailure (pk : ℕ) : Except LedgerError (Option ℕ) → CashTxn PUnit
  | .ok _ => pure ⟨⟩
  | .error raised => modify fun desk =>
      { desk with failures := desk.failures ++ [(pk, raised)] }

/-- `generate_accounting_entries`. -/
def generateAccountingEntries (pk : ℕ) (ft : FinancialTransaction) :
    CashTxn PUnit := do
  let desk ← get
  let posted ← Txn.attempt (Txn.zoom CashDesk.ledger id
    (postPayment pk ft (desk.treasuries.get? ft.treasury)
      (ft.purchaseExtraCost.bind desk.extraCosts.get?)))
  logFailure pk posted

def CashDesk.addBalance (desk : CashDesk) (treasury : ℕ) (amount : ℤ) :
    CashDesk :=
  { desk with
    treasuries := desk.treasuries.modify treasury fun stored =>
      { stored with balance := stored.balance + amount } }

/-- `FinancialTransaction.objects.create`, with `update_balance`. -/
def createPayment (ft : FinancialTransaction) : CashTxn ℕ := do
  let desk ← get
  let pk := desk.payments.next
  set { desk with payments := desk.payments.insert ft }
  generateAccountingEntries pk ft
  modify fun desk => desk.addBalance ft.treasury ft.signed
  pure pk

def unlink (pk : ℕ) (entry : JournalEntry) : JournalEntry :=
  if entry.source = some (.financialTransaction pk) then
    { entry with source := none }
  else entry

def CashDesk.dropPayment (desk : CashDesk) (pk : ℕ) : CashDesk :=
  { desk with
    payments := desk.payments.erase pk
    books := { desk.books with
      entries := desk.books.entries.map fun _ => unlink pk } }

/-- Deletes a movement: `unpost_ledger_on_transaction_delete` before and
`reverse_balance_on_delete` after. -/
def deletePayment (pk : ℕ) : CashTxn PUnit := do
  let desk ← get
  match desk.payments.get? pk with
  | none => throw (.missingPayment pk)
  | some ft => do
      let _ ← Txn.zoom CashDesk.ledger .ledger
        (unpost (entriesOf desk.books (.financialTransaction pk)))
      modify fun desk => desk.dropPayment pk
      modify fun desk => desk.addBalance ft.treasury (-ft.signed)

end Mousstec.Cash
