import Mousstec.Library.Transaction
import Mousstec.Stock.PurchaseInvoices

/-!
# Credit with a vendor

What a vendor was paid ahead, or too much on an invoice after a return, settles
his open invoices from the oldest on.  No money moves: the payment is linked to
the invoice, and split with its entries when only a part of it is needed.
-/

namespace Mousstec.Stock

open Library Accounting Cash

inductive ReturnError where
  | doesNotExist (model : String)
  | notReceived
  | notWhole
  | negativeQuantity
  | nothingChosen
  | foreignItem
  | tooMany (name : String) (returnable received previous : ℤ)
  | notOnHand (name : String) (onHand quantity : ℤ)
  | negativeRefund
  | refundTooLarge (most : ℤ)
  | noTreasury
  | outOfRange
  | ledger (raised : LedgerError)
  | cash (raised : CashError)
  deriving DecidableEq

def ReturnError.text : ReturnError → String
  | .doesNotExist model => model ++ " matching query does not exist."
  | .notReceived => "المرتجع بيتعمل على فاتورة شراء مستلمة (معتمدة) بس."
  | .notWhole => "كمية المرتجع لازم تكون رقم صحيح."
  | .negativeQuantity => "كمية المرتجع مينفعش تبقى بالسالب."
  | .nothingChosen => "اختار صنف واحد على الأقل وكمية المرتجع بتاعته."
  | .foreignItem => "صنف مش تابع للفاتورة دي."
  | .tooMany name returnable received previous =>
      s!"«{name}»: المتاح للإرجاع {returnable} بس (المستلم {received}، اترجع قبل كده {previous})."
  | .notOnHand name onHand quantity =>
      s!"«{name}»: الموجود في المخزن {onHand} بس — مينفعش ترجّع {quantity}."
  | .negativeRefund => "مبلغ الاسترداد مينفعش يبقى بالسالب."
  | .refundTooLarge most =>
      s!"الاسترداد النقدي أكبر من المسموح ({money most}) — المورد بيرجّع كاش بس عن اللي اتدفع له زيادة بعد المرتجع."
  | .noTreasury => "اختار الخزنة اللي الاسترداد هيدخلها."
  | .outOfRange => "numeric field overflow"
  | .ledger raised => raised.text ""
  | .cash raised => raised.text

abbrev ReturnTxn (α : Type) := Txn ReturnError PurchaseDesk α

def PurchaseDesk.cashDesk : Component PurchaseDesk CashDesk where
  get := cash
  set part whole := { whole with cash := part }
  get_set _ _ := rfl
  set_get _ := rfl

def PurchaseDesk.ledger : Component PurchaseDesk Books where
  get desk := desk.cash.books
  set part whole := { whole with cash := { whole.cash with books := part } }
  get_set _ _ := rfl
  set_get _ := rfl

def CREDIT_TAG : String := "[من الرصيد الدائن]"

def creditDescription (description : String) (invoice : ℕ) : String :=
  let moved := s!"{description} ← اتخصمت من فاتورة #{invoice}"
  let tagged :=
    if moved.startsWith CREDIT_TAG then moved else CREDIT_TAG ++ " " ++ moved
  String.ofList (tagged.toList.take 255)

/-- `_simple_journals`: the entries of a payment, if all are posted and all their
lines carry its amount. -/
def simpleJournals (books : Books) (payment : ℕ) (amount : ℤ) :
    Option (List (ℕ × JournalEntry)) :=
  let entries := entriesOf books (.financialTransaction payment)
  if entries.all fun row => row.2.status = .posted ∧
      row.2.lines.all fun line => line.debit + line.credit = amount then
    some entries
  else none

def partLine (part : ℤ) (line : Posting Account) : Posting Account :=
  if 0 < line.debit then { line with debit := part, credit := 0 }
  else { line with debit := 0, credit := part }

def restLine (part : ℤ) (line : Posting Account) : Posting Account :=
  { line with
    debit := line.debit - (partLine part line).debit
    credit := line.credit - (partLine part line).credit }

def splitEntry (payment : ℕ) (part : ℤ) (entries : Table JournalEntry)
    (row : ℕ × JournalEntry) : Table JournalEntry :=
  (entries.insert
    { row.2 with
      source := some (.financialTransaction payment)
      lines := row.2.lines.map (partLine part) }).modify row.1 fun entry =>
    { entry with lines := row.2.lines.map (restLine part) }

def PurchaseDesk.movePaid (desk : PurchaseDesk) (part : ℤ) (source : Option ℕ)
    (target : ℕ) : PurchaseDesk :=
  let taken := match source with
    | none => desk.purchases
    | some pk => desk.purchases.modify pk fun invoice =>
        { invoice with paidAmount := invoice.paidAmount - part }
  { desk with
    purchases := taken.modify target fun invoice =>
      { invoice with paidAmount := invoice.paidAmount + part } }

/-- `_move_payment`: whether the part was moved. -/
def movePayment (payment : ℕ) (part : ℤ) (source : Option ℕ) (target : ℕ) :
    ReturnTxn Bool := do
  let desk ← get
  let ft ← Txn.expect (desk.cash.payments.get? payment)
    (.doesNotExist "FinancialTransaction")
  let description := creditDescription ft.description target
  if ft.amount ≤ part then
    set (({ desk with
      cash := { desk.cash with
        payments := desk.cash.payments.modify payment fun stored =>
          { stored with purchaseInvoice := some target, description } } } :
      PurchaseDesk).movePaid part source target)
    pure true
  else
    match simpleJournals desk.cash.books payment ft.amount with
    | none => pure false
    | some entries => do
        let created := desk.cash.payments.next
        set (({ desk with
          cash := { desk.cash with
            payments := (desk.cash.payments.insert
              { ft with
                amount := part
                purchaseInvoice := some target
                description }).modify payment fun stored =>
                  { stored with amount := stored.amount - part }
            books := { desk.cash.books with
              entries := entries.foldl (splitEntry created part)
                desk.cash.books.entries } } } :
          PurchaseDesk).movePaid part source target)
        pure true

def isVendorPayment (vendor : ℕ) (ft : FinancialTransaction) : Bool :=
  ft.vendor = some vendor ∧ ft.transactionType = .cashOut ∧
    ft.purchaseExtraCost = none ∧ ft.saleInvoice = none ∧ ft.customer = none ∧
    0 < ft.amount

def appliedInvoices (desk : PurchaseDesk) (vendor : ℕ) :
    List (ℕ × PurchaseInvoice) :=
  (desk.purchases.rows.filter fun row =>
    row.2.vendor = vendor ∧ row.2.isApplied = true).insertionSort
      fun first second => first.2.dateCreated ≤ second.2.dateCreated

/-- `_has_credit`. -/
def hasCredit (desk : PurchaseDesk) (vendor : ℕ) : Bool :=
  (desk.cash.payments.rows.any fun row =>
    isVendorPayment vendor row.2 ∧ row.2.purchaseInvoice = none) ||
  desk.purchases.rows.any fun row =>
    row.2.vendor = vendor ∧ row.2.isApplied = true ∧ row.2.netDue < 0

/-- A payment, what of it is free, and its invoice if that is overpaid. -/
structure CreditSource where
  payment : ℕ
  available : ℤ
  invoice : Option ℕ
  deriving DecidableEq

def overpaidParts (invoice : ℕ) : ℤ → List (ℕ × FinancialTransaction) →
    List CreditSource
  | _, [] => []
  | extra, row :: rows =>
      if extra ≤ 0 then []
      else
        let take := min extra row.2.amount
        ⟨row.1, take, some invoice⟩ :: overpaidParts invoice (extra - take) rows

def newestPayments (desk : PurchaseDesk) (vendor invoice : ℕ) :
    List (ℕ × FinancialTransaction) :=
  ((desk.cash.payments.rows.filter fun row =>
    isVendorPayment vendor row.2 ∧
      row.2.purchaseInvoice = some invoice).insertionSort
        fun first second => first.2.date ≤ second.2.date).reverse

def creditSources (desk : PurchaseDesk) (vendor : ℕ) : List CreditSource :=
  ((desk.cash.payments.rows.filter fun row =>
    isVendorPayment vendor row.2 ∧ row.2.purchaseInvoice = none).insertionSort
      fun first second => first.2.date ≤ second.2.date).map
        (fun row => ⟨row.1, row.2.amount, none⟩) ++
  (appliedInvoices desk vendor).flatMap fun row =>
    if 0 ≤ row.2.netDue then []
    else overpaidParts row.1 (-row.2.netDue) (newestPayments desk vendor row.1)

def openInvoices (desk : PurchaseDesk) (vendor : ℕ) : List (ℕ × ℤ) :=
  (appliedInvoices desk vendor).filterMap fun row =>
    if 0 < row.2.netDue then some (row.1, row.2.netDue) else none

def applySource (source : CreditSource) :
    ℤ → List (ℕ × ℤ) → ReturnTxn (List (ℕ × ℤ))
  | _, [] => pure []
  | available, row :: rows =>
      if available ≤ 0 then pure (row :: rows)
      else if row.2 ≤ 0 ∨ source.invoice = some row.1 then do
        let rest ← applySource source available rows
        pure (row :: rest)
      else do
        let part := min available row.2
        let moved ← movePayment source.payment part source.invoice row.1
        if moved = false then pure (row :: rows)
        else do
          let rest ← applySource source (available - part) rows
          pure ((row.1, row.2 - part) :: rest)

def applySources : List CreditSource → List (ℕ × ℤ) → ReturnTxn PUnit
  | [], _ => pure ⟨⟩
  | source :: sources, rows => do
      let rest ← applySource source source.available rows
      applySources sources rest

/-- `apply_vendor_credit`. -/
def applyVendorCredit (vendor : ℕ) : ReturnTxn PUnit := do
  let desk ← get
  if hasCredit desk vendor = false ∨ openInvoices desk vendor = [] then pure ⟨⟩
  else applySources (creditSources desk vendor) (openInvoices desk vendor)

end Mousstec.Stock
