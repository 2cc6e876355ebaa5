import Mathlib.Data.List.Sort
import Mousstec.Cash.Payments
import Mousstec.Library.Allocation
import Mousstec.Library.Rounding
import Mousstec.Sales.Invoice

/-!
# Collecting from a customer

A collection pays the customer's open invoices from the oldest on, each part a
movement linked to its invoice, and records what is left as a movement on
account.  Voiding one of these movements takes the money out of the treasury
again, puts it back on the customer's balance and recomputes what the invoice
has been paid from the movements that remain.
-/

namespace Mousstec.Sales

open Library Accounting Cash

/-- `_q` of the customer payments: two decimals, ties to the even cent. -/
def qEven (value : ℚ) : ℤ :=
  roundHalfEven value

def WALK_IN_PHONE : String := "0000000000"

/-- The characters `\s` matches. -/
def isSpace (char : Char) : Bool :=
  let code := char.toNat
  (0x09 ≤ code ∧ code ≤ 0x0D) ∨ (0x1C ≤ code ∧ code ≤ 0x20) ∨ code = 0x85 ∨
    code = 0xA0 ∨ code = 0x1680 ∨ (0x2000 ≤ code ∧ code ≤ 0x200A) ∨
    code = 0x2028 ∨ code = 0x2029 ∨ code = 0x202F ∨ code = 0x205F ∨
    code = 0x3000

/-- `normalize_phone`. -/
def normalizePhone (raw : String) : String :=
  let phone := raw.toList.filter fun char =>
    !(isSpace char || char = '-' || char = '(' || char = ')')
  match phone with
  | '0' :: '0' :: rest => String.ofList ('+' :: rest)
  | '0' :: rest => String.ofList ('+' :: '2' :: '0' :: rest)
  | _ => String.ofList phone

structure Customer where
  name : String
  phone : String
  balance : ℤ := 0
  deriving DecidableEq

/-- `is_walk_in`: the customer all sales without a phone share. -/
def Customer.isWalkIn (customer : Customer) : Bool :=
  customer.phone = normalizePhone WALK_IN_PHONE

structure Counter where
  customers : Table Customer
  invoices : Table SaleInvoice
  cash : CashDesk
  deriving DecidableEq

inductive CollectionError where
  | notPositive
  | walkIn
  | missingCustomer (pk : ℕ)
  | missingTreasury (pk : ℕ)
  | exceedsBalance (balance : ℤ)
  | inactiveTreasury
  | notCollection
  | returnPayment
  | walkInPayment
  | tillShort (name : String) (balance amount : ℤ)
  | cash (raised : CashError)
  deriving DecidableEq

def CollectionError.text : CollectionError → String
  | .notPositive => "اكتب مبلغ أكبر من صفر."
  | .walkIn => "«عميل نقدي» مشترك — حصّل من الفاتورة نفسها " ++
      "(زرار «تحصيل / خصم» في قايمة الفواتير)."
  | .missingCustomer _ => "Customer matching query does not exist."
  | .missingTreasury _ => "Treasury matching query does not exist."
  | .exceedsBalance balance =>
      s!"المبلغ أكبر من مديونية العميل ({money balance})."
  | .inactiveTreasury => "الخزنة دي متوقفة."
  | .notCollection => "الإلغاء هنا للتحصيل من العملاء بس."
  | .returnPayment => "دي حركة مرتجع — بتتظبط من المرتجع نفسه."
  | .walkInPayment => "دفعة «عميل نقدي» — اتصرّف فيها من تعديل الفاتورة."
  | .tillShort name balance amount =>
      s!"رصيد خزنة «{name}» ({money balance}) أقل من الدفعة ({money amount})" ++
        " — الفلوس اتصرفت من الخزنة."
  | .cash raised => raised.text

abbrev CounterTxn (α : Type) := Txn CollectionError Counter α

def Counter.desk : Component Counter CashDesk where
  get := cash
  set part whole := { whole with cash := part }
  get_set _ _ := rfl
  set_get _ := rfl

/-- The condition `open_invoices` selects on before it looks at what is due. -/
def collectable (customer : ℕ) (invoice : SaleInvoice) : Bool :=
  invoice.customer = customer ∧ !invoice.isReturn ∧ invoice.isApplied ∧
    invoice.maintenanceContract = none ∧ invoice.status ≠ .quotation

def olderThan (left right : ℕ × SaleInvoice) : Prop :=
  left.2.dateCreated < right.2.dateCreated ∨
    left.2.dateCreated = right.2.dateCreated ∧ left.1 ≤ right.1

instance : DecidableRel olderThan := fun _ _ =>
  inferInstanceAs (Decidable (_ ∨ _))

/-- `open_invoices`: the customer's invoices on which something is due, oldest
first. -/
def openInvoices (invoices : Table SaleInvoice) (customer : ℕ) :
    List (ℕ × SaleInvoice) :=
  ((invoices.rows.filter fun row => collectable customer row.2).insertionSort
    olderThan).filter fun row => 0 < openDue invoices row.1 row.2

def openDues (invoices : Table SaleInvoice) (customer : ℕ) : List (ℕ × ℤ) :=
  (openInvoices invoices customer).map fun row =>
    (row.1, openDue invoices row.1 row.2)

def clip (text : String) : String :=
  String.ofList (text.toList.take 255)

def partPayment (customer treasury : ℕ) (base : String) (date : ℤ)
    (invoice : ℕ) (part : ℤ) : FinancialTransaction where
  treasury
  transactionType := .cashIn
  amount := part
  description := clip s!"{base} (فاتورة #{invoice})"
  date
  saleInvoice := some invoice
  customer := some customer

def accountPayment (customer treasury : ℕ) (base : String) (date left : ℤ) :
    FinancialTransaction where
  treasury
  transactionType := .cashIn
  amount := left
  description := clip s!"{base} (على الحساب)"
  date
  customer := some customer

/-- Adds to what an invoice has been paid; an invoice without a treasury takes
the one that was paid into. -/
def SaleInvoice.credit (treasury : ℕ) (part : ℤ) (invoice : SaleInvoice) :
    SaleInvoice :=
  { invoice with
    paidAmount := invoice.paidAmount + part
    treasury := invoice.treasury.or (some treasury) }

def createFinancialTransaction (ft : FinancialTransaction) :
    CounterTxn PUnit := do
  let _ ← Txn.zoom Counter.desk .cash (createPayment ft)
  pure ⟨⟩

def payPart (customer treasury : ℕ) (base : String) (invoice : ℕ)
    (part : ℤ) : CounterTxn PUnit := do
  let counter ← get
  createFinancialTransaction
    (partPayment customer treasury base counter.cash.books.today invoice part)
  modify fun counter =>
    { counter with
      invoices := counter.invoices.modify invoice (.credit treasury part) }

def payOnAccount (customer treasury : ℕ) (base : String) (left : ℤ) :
    CounterTxn PUnit := do
  let counter ← get
  if 0 < left then
    createFinancialTransaction
      (accountPayment customer treasury base counter.cash.books.today left)
  else pure ⟨⟩

def Counter.addBalance (counter : Counter) (customer : ℕ) (amount : ℤ) :
    Counter :=
  { counter with
    customers := counter.customers.modify customer fun stored =>
      { stored with balance := stored.balance + amount } }

def getCustomer (pk : ℕ) : CounterTxn Customer := do
  let counter ← get
  Txn.expect (counter.customers.get? pk) (.missingCustomer pk)

def getTreasury (pk : ℕ) : CounterTxn Treasury := do
  let counter ← get
  Txn.expect (counter.cash.treasuries.get? pk) (.missingTreasury pk)

/-- `collect`: returns the parts paid on invoices and what is left. -/
def collect (customer : ℕ) (amount : ℚ) (treasury : ℕ) (note : String := "") :
    CounterTxn (List (ℕ × ℤ) × ℤ) := Txn.atomic do
  let amount := qEven amount
  Txn.require (0 < amount) .notPositive
  let locked ← getCustomer customer
  Txn.require (locked.isWalkIn = false) .walkIn
  Txn.require (amount ≤ locked.balance) (.exceedsBalance locked.balance)
  let till ← getTreasury treasury
  Txn.require (till.isActive = true) .inactiveTreasury
  let base := s!"تحصيل من العميل {locked.name}" ++
    (if note = "" then "" else s!" — {note}")
  let counter ← get
  let (allocated, left) ← payInOrder (payPart customer treasury base)
    (openDues counter.invoices customer) amount
  payOnAccount customer treasury base left
  modify fun counter => counter.addBalance customer (-amount)
  pure (allocated, left)

def linkedNet (payments : Table FinancialTransaction) (invoice : ℕ) : ℤ :=
  payments.total fun _ ft =>
    if ft.saleInvoice = some invoice then ft.signed else 0

def lastTreasury (payments : Table FinancialTransaction) (invoice : ℕ) :
    Option ℕ :=
  (payments.rows.reverse.find? fun row =>
    row.2.saleInvoice = some invoice ∧ row.2.transactionType = .cashIn).map
      fun row => row.2.treasury

/-- `_resync_paid`. -/
def resyncPaid (invoice : ℕ) (counter : Counter) : Counter :=
  let net := linkedNet counter.cash.payments invoice
  { counter with
    invoices := counter.invoices.modify invoice fun stored =>
      { stored with
        paidAmount := if 0 < net then net else 0
        treasury := lastTreasury counter.cash.payments invoice } }

/-- `can_void`: why a movement cannot be voided, if it cannot. -/
def canVoid (counter : Counter) (ft : FinancialTransaction) :
    Option CollectionError :=
  match ft.transactionType, ft.customer with
  | .cashIn, some customer =>
      if (ft.saleInvoice.bind counter.invoices.get?).any SaleInvoice.isReturn
      then some .returnPayment
      else if (counter.customers.get? customer).any Customer.isWalkIn
      then some .walkInPayment
      else none
  | _, _ => some .notCollection

def getPayment (pk : ℕ) : CounterTxn FinancialTransaction := do
  let counter ← get
  Txn.expect (counter.cash.payments.get? pk) (.cash (.missingPayment pk))

def refuse : Option CollectionError → CounterTxn PUnit
  | some why => throw why
  | none => pure ⟨⟩

def takeBack (ft : FinancialTransaction) (counter : Counter) : Counter :=
  let resynced := ft.saleInvoice.elim counter fun invoice =>
    resyncPaid invoice counter
  ft.customer.elim resynced fun customer =>
    resynced.addBalance customer ft.amount

/-- `void_collection`: takes a collection back; returns its amount. -/
def voidCollection (pk : ℕ) : CounterTxn ℤ := Txn.atomic do
  let ft ← getPayment pk
  let counter ← get
  refuse (canVoid counter ft)
  let till ← getTreasury ft.treasury
  Txn.require (ft.amount ≤ till.balance)
    (.tillShort till.name till.balance ft.amount)
  Txn.zoom Counter.desk .cash (deletePayment pk)
  modify (takeBack ft)
  pure ft.amount

def voidAll : List ℕ → CounterTxn PUnit
  | [] => pure ⟨⟩
  | pk :: rest => do
      let _ ← voidCollection pk
      voidAll rest

end Mousstec.Sales
