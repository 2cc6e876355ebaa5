import Mousstec.Library.Transaction
import Mousstec.Sales.Totals

/-!
# Refunds of core charges

When the old part comes back, the deposit on it is refunded before the total of
the invoice is computed again: what the customer still owes is taken off the
balance, what was paid comes back in cash.  The balance follows the invoice when
the total falls by the refund itself and the refund is no more than what is open.
-/

namespace Mousstec.Sales

open Library

structure RefundTreasury where
  name : String
  balance : ℤ := 0
  deriving DecidableEq

structure RefundDesk where
  invoices : Table SaleInvoice := .empty
  items : Table SaleInvoiceItem := .empty
  services : Table SaleInvoiceServiceItem := .empty
  customers : Table ℤ := .empty
  treasuries : Table RefundTreasury := .empty
  deriving DecidableEq

inductive Language where
  | arabic
  | english
  deriving DecidableEq

inductive RefundError where
  | doesNotExist (model : String)
  | shortTreasury (name : String)
  | total (error : TotalError)
  deriving DecidableEq

def RefundError.text (language : Language) : RefundError → String
  | .doesNotExist model => model ++ " matching query does not exist."
  | .shortTreasury name =>
      match language with
      | .arabic => "خزينة " ++ name ++ " لا تحتوي على رصيد كافٍ لرد تأمين الكور."
      | .english =>
          "Treasury " ++ name ++
            " doesn't have enough balance to refund the core deposit."
  | .total .invalidOperation => "[<class 'decimal.InvalidOperation'>]"
  | .total .outOfRange => "numeric field overflow"

/-- `'رصيد' in str(e)`. -/
def RefundError.mentionsBalance (language : Language) (error : RefundError) :
    Bool :=
  decide ("رصيد".toList <:+: (error.text language).toList)

abbrev RefundTxn (α : Type) := Txn RefundError RefundDesk α

def SaleInvoiceItem.refundAmount (item : SaleInvoiceItem) : ℤ :=
  item.quantity * item.coreChargeApplied

def takeOff (customer : ℕ) (onAccount : ℤ) : RefundTxn PUnit :=
  if 0 < onAccount then
    modify fun desk =>
      { desk with
        customers := desk.customers.modify customer (· - onAccount) }
  else pure ⟨⟩

/-- The cash part of a refund: from the treasury of the invoice, or left as
credit with the customer. -/
def payBack (pk : ℕ) (invoice : SaleInvoice) (cashBack : ℤ) :
    RefundTxn PUnit :=
  if cashBack ≤ 0 then pure ⟨⟩
  else
    match invoice.treasury with
    | some source => do
        let desk ← get
        let treasury ← Txn.expect (desk.treasuries.get? source)
          (.doesNotExist "Treasury")
        Txn.require (cashBack ≤ treasury.balance) (.shortTreasury treasury.name)
        set { desk with
          treasuries := desk.treasuries.modify source fun stored =>
            { stored with
              balance := stored.balance - cashBack }
          invoices := desk.invoices.modify pk fun stored =>
            { stored with
              paidAmount := stored.paidAmount - cashBack } }
    | none =>
        modify fun desk =>
          { desk with
            customers := desk.customers.modify invoice.customer (· - cashBack) }

/-- `process_core_refund`. -/
def processCoreRefund (item : SaleInvoiceItem) : RefundTxn PUnit :=
  if item.refundAmount ≤ 0 then pure ⟨⟩
  else Txn.atomic do
    let desk ← get
    let invoice ← Txn.expect (desk.invoices.get? item.invoice)
      (.doesNotExist "SaleInvoice")
    let onAccount := min item.refundAmount invoice.dueAmount
    takeOff invoice.customer onAccount
    payBack item.invoice invoice (item.refundAmount - onAccount)

/-- `handle_core_charge_return`, once for a line: an error that does not name the
balance is logged. -/
def handleCoreChargeReturn (language : Language) (item : SaleInvoiceItem) :
    RefundTxn PUnit :=
  if item.isCoreReturned = true then pure ⟨⟩
  else do
    let outcome ← Txn.attempt (processCoreRefund item)
    match outcome with
    | .ok _ => pure ⟨⟩
    | .error error =>
        if error.mentionsBalance language = true then throw error else pure ⟨⟩

/-- `update_total` after the line is saved. -/
def saveTotal (pk : ℕ) : RefundTxn PUnit := do
  let desk ← get
  let invoice ← Txn.expect (desk.invoices.get? pk) (.doesNotExist "SaleInvoice")
  match invoice.updateTotal (billableBreakdown desk.items desk.services pk) with
  | .ok saved =>
      set { desk with
        invoices := desk.invoices.modify pk fun _ => saved }
  | .error error => throw (.total error)

def saveCoreReturned (language : Language) (pk : ℕ) : RefundTxn PUnit := do
  let desk ← get
  let item ← Txn.expect (desk.items.get? pk) (.doesNotExist "SaleInvoiceItem")
  handleCoreChargeReturn language item
  modify fun desk =>
    { desk with
      items := desk.items.modify pk fun stored =>
        { stored with isCoreReturned := true } }
  saveTotal item.invoice

def RefundDesk.onInvoice (desk : RefundDesk) (pk : ℕ)
    (figure : SaleInvoice → ℤ) : ℤ :=
  ((desk.invoices.get? pk).map figure).getD 0

def RefundDesk.balance (desk : RefundDesk) (customer : ℕ) : ℤ :=
  (desk.customers.get? customer).getD 0

def RefundDesk.cash (desk : RefundDesk) (treasury : ℕ) : ℤ :=
  ((desk.treasuries.get? treasury).map RefundTreasury.balance).getD 0

def RefundDesk.openDue (desk : RefundDesk) (pk : ℕ) : ℤ :=
  desk.onInvoice pk (Sales.openDue desk.invoices pk)

def RefundDesk.total (desk : RefundDesk) (pk : ℕ) : ℤ :=
  desk.onInvoice pk SaleInvoice.totalAmount

/-- The balance moves with what is open on the invoice, and cash and debt
together with its total. -/
structure MovesTogether (before after : RefundDesk)
    (pk customer treasury : ℕ) : Prop where
  statement : after.balance customer - before.balance customer =
    after.openDue pk - before.openDue pk
  money : (before.cash treasury - after.cash treasury) +
      (before.openDue pk - after.openDue pk) =
    before.total pk - after.total pk

def RefundDesk.subtotalOf (desk : RefundDesk) (pk : ℕ)
    (invoice : SaleInvoice) : ℤ :=
  invoice.subtotal (billableBreakdown desk.items desk.services pk)

/-- A sale from a treasury whose total is up to date. -/
structure CashSale (desk : RefundDesk) (pk treasury : ℕ)
    (invoice : SaleInvoice) : Prop where
  stored : desk.invoices.get? pk = some invoice
  sale : invoice.isReturn = false
  original : invoice.originalInvoice ≠ some pk
  customer : (desk.customers.get? invoice.customer).isSome = true
  listed : (desk.treasuries.get? treasury).isSome = true
  source : invoice.treasury = some treasury
  rate : 0 ≤ invoice.taxPercentage
  total : invoice.totalAmount = desk.subtotalOf pk invoice +
    taxOn invoice.taxPercentage (desk.subtotalOf pk invoice)

/-- The treasury cannot pay the cash part, and the text of the error does not
stop the line from being saved. -/
def RefundDesk.dropped (desk : RefundDesk) (language : Language) (treasury : ℕ)
    (cashBack : ℤ) : Bool :=
  decide (0 < cashBack) && (desk.treasuries.get? treasury).any fun row =>
    decide (row.balance < cashBack) &&
      !(RefundError.shortTreasury row.name).mentionsBalance language

def RefundDesk.refunded (desk : RefundDesk) (language : Language)
    (invoice : SaleInvoice) (item : SaleInvoiceItem) (treasury : ℕ) : ℤ :=
  if item.refundAmount ≤ 0 ∨ desk.dropped language treasury
      (item.refundAmount - min item.refundAmount invoice.dueAmount) = true then 0
  else item.refundAmount

/-- The refund is what the line adds to the invoice, its tax rounds the same
without it, and no more comes off the balance than is open. -/
structure RefundMatches (desk : RefundDesk) (language : Language)
    (invoice : SaleInvoice) (item : SaleInvoiceItem) (treasury : ℕ) : Prop where
  charged : item.coreCharge = desk.refunded language invoice item treasury
  taxed : taxOn invoice.taxPercentage
      (desk.subtotalOf item.invoice invoice - item.coreCharge) =
    taxOn invoice.taxPercentage (desk.subtotalOf item.invoice invoice)
  within : min (desk.refunded language invoice item treasury) invoice.dueAmount ≤
    Sales.openDue desk.invoices item.invoice invoice

theorem dueAmount_nonneg (invoice : SaleInvoice) : 0 ≤ invoice.dueAmount := by
  unfold SaleInvoice.dueAmount
  split
  · exact le_refl 0
  · exact le_max_right _ _

def RefundDesk.refund (desk : RefundDesk) (pk customer treasury : ℕ)
    (onAccount cashBack : ℤ) : RefundDesk :=
  { desk with
    customers := desk.customers.modify customer (· - onAccount)
    treasuries := desk.treasuries.modify treasury fun stored =>
      { stored with
        balance := stored.balance - cashBack }
    invoices := desk.invoices.modify pk fun stored =>
      { stored with
        paidAmount := stored.paidAmount - cashBack } }

theorem RefundDesk.refund_zero (desk : RefundDesk) (pk customer treasury : ℕ) :
    desk.refund pk customer treasury 0 0 = desk := by
  unfold RefundDesk.refund
  rw [Table.modify_eq_self _ _ fun value => sub_zero value,
    Table.modify_eq_self _ _ fun value => by rw [sub_zero],
    Table.modify_eq_self _ _ fun value => by rw [sub_zero]]

section Refund

variable {language : Language} {item : SaleInvoiceItem} {invoice : SaleInvoice}
  {treasury : ℕ} {before after : RefundDesk}

theorem takeOff_ok (pk treasury : ℕ) {customer : ℕ} {onAccount : ℤ}
    (sign : 0 ≤ onAccount)
    (returned : takeOff customer onAccount before = .ok ⟨⟩ after) :
    after = before.refund pk customer treasury onAccount 0 := by
  unfold RefundDesk.refund
  rw [Table.modify_eq_self before.treasuries _ fun value => by rw [sub_zero],
    Table.modify_eq_self before.invoices _ fun value => by rw [sub_zero]]
  unfold takeOff at returned
  split at returned
  · exact (Txn.modify_eq_ok.mp returned).symm
  · have none : onAccount = 0 := by omega
    rw [none, Table.modify_eq_self _ _ fun value => sub_zero value]
    exact (Txn.pure_eq_ok.mp returned).2.symm

theorem payBack_ok (customer : ℕ) {pk : ℕ} {cashBack : ℤ} (sign : 0 ≤ cashBack)
    (source : invoice.treasury = some treasury)
    (returned : payBack pk invoice cashBack before = .ok ⟨⟩ after) :
    after = before.refund pk customer treasury 0 cashBack ∧
      (0 < cashBack → ∃ row, before.treasuries.get? treasury = some row ∧
        cashBack ≤ row.balance) := by
  unfold RefundDesk.refund
  rw [Table.modify_eq_self before.customers _ fun value => sub_zero value]
  unfold payBack at returned
  split at returned
  · have none : cashBack = 0 := by omega
    obtain ⟨-, rfl⟩ := Txn.pure_eq_ok.mp returned
    rw [none, Table.modify_eq_self before.treasuries _ fun value => by rw [sub_zero],
      Table.modify_eq_self before.invoices _ fun value => by rw [sub_zero]]
    exact ⟨rfl, fun positive => absurd positive (lt_irrefl 0)⟩
  · simp only [source, Txn.bind_eq_ok, Txn.get_eq_ok, Txn.expect_eq_ok,
      Txn.require_eq_ok, Txn.set_eq_ok] at returned
    obtain ⟨_, _, ⟨rfl, rfl⟩, row, _, ⟨found, rfl⟩, _, _, ⟨enough, rfl⟩, rfl⟩ :=
      returned
    exact ⟨rfl, fun _ => ⟨row, found, enough⟩⟩

theorem payBack_error {pk : ℕ} {cashBack : ℤ} {error : RefundError}
    (source : invoice.treasury = some treasury)
    (listed : (before.treasuries.get? treasury).isSome = true)
    (failed : payBack pk invoice cashBack before = .error error after) :
    0 < cashBack ∧ ∃ row, before.treasuries.get? treasury = some row ∧
      row.balance < cashBack ∧ error = .shortTreasury row.name := by
  obtain ⟨row, found⟩ := Option.isSome_iff_exists.mp listed
  unfold payBack at failed
  split at failed
  · exact (Txn.pure_eq_error failed).elim
  · rename_i positive
    simp only [source, Txn.bind_eq_error, Txn.get_eq_error, Txn.get_eq_ok,
      Txn.expect_eq_error, Txn.expect_eq_ok, Txn.require_eq_error,
      Txn.require_eq_ok, Txn.set_eq_error] at failed
    refine ⟨not_le.mp positive, row, found, ?_⟩
    rcases failed with failed | ⟨_, _, ⟨rfl, rfl⟩, failed⟩
    · exact failed.elim
    rcases failed with failed | ⟨_, _, ⟨same, rfl⟩, failed⟩
    · rw [found] at failed
      cases failed.1
    rcases failed with failed | ⟨_, _, -, failed⟩
    · rw [found, Option.some.injEq] at same
      rw [← same] at failed
      exact ⟨not_le.mp failed.1, failed.2.1.symm⟩
    · exact failed.elim

theorem takeOff_error {customer : ℕ} {onAccount : ℤ} {error : RefundError}
    (failed : takeOff customer onAccount before = .error error after) : False := by
  unfold takeOff at failed
  split at failed
  · exact Txn.modify_eq_error failed
  · exact Txn.pure_eq_error failed

theorem RefundDesk.refund_refund (desk : RefundDesk) (pk customer treasury : ℕ)
    (onAccount cashBack : ℤ) :
    (desk.refund pk customer treasury onAccount 0).refund pk customer treasury 0
        cashBack = desk.refund pk customer treasury onAccount cashBack := by
  unfold RefundDesk.refund
  simp only [Table.modify_modify, sub_zero]

theorem processCoreRefund_ok (sale : CashSale before item.invoice treasury invoice)
    (returned : processCoreRefund item before = .ok ⟨⟩ after) :
    after = before.refund item.invoice invoice.customer treasury
        (min (before.refunded language invoice item treasury) invoice.dueAmount)
        (before.refunded language invoice item treasury -
          min (before.refunded language invoice item treasury)
            invoice.dueAmount) := by
  have due := dueAmount_nonneg invoice
  unfold processCoreRefund at returned
  by_cases nothing : item.refundAmount ≤ 0
  · rw [if_pos nothing] at returned
    obtain ⟨-, rfl⟩ := Txn.pure_eq_ok.mp returned
    have none : before.refunded language invoice item treasury = 0 := by
      unfold RefundDesk.refunded
      rw [if_pos (.inl nothing)]
    rw [none, min_eq_left due, sub_self, RefundDesk.refund_zero]
  · rw [if_neg nothing] at returned
    simp only [Txn.atomic_eq_ok, Txn.bind_eq_ok, Txn.get_eq_ok, Txn.expect_eq_ok]
      at returned
    obtain ⟨_, _, ⟨rfl, rfl⟩, _, _, ⟨found, rfl⟩, ⟨⟩, middle, first, second⟩ :=
      returned
    rw [sale.stored, Option.some.injEq] at found
    subst found
    have first' := takeOff_ok item.invoice treasury
      (by omega) first
    obtain ⟨second', enough⟩ := payBack_ok invoice.customer
      (by omega) sale.source second
    have kept : before.refunded language invoice item treasury =
        item.refundAmount := by
      unfold RefundDesk.refunded
      rw [if_neg]
      rintro (none | dropped)
      · exact nothing none
      · unfold RefundDesk.dropped at dropped
        rw [Bool.and_eq_true] at dropped
        obtain ⟨row, present, covered⟩ := enough (of_decide_eq_true dropped.1)
        have present' : (before.treasuries.get? treasury).map
            RefundTreasury.balance = some row.balance := by
          rw [first'] at present
          rw [← Option.map_some, ← present]
          simp [RefundDesk.refund]
        obtain ⟨stored, listed, same⟩ := Option.map_eq_some_iff.mp present'
        have short := dropped.2
        rw [listed, Option.any_some, Bool.and_eq_true] at short
        have less := of_decide_eq_true short.1
        omega
    rw [kept, second', first', RefundDesk.refund_refund]

theorem processCoreRefund_error {error : RefundError}
    (sale : CashSale before item.invoice treasury invoice)
    (failed : processCoreRefund item before = .error error after) :
    after = before ∧ 0 < item.refundAmount -
        min item.refundAmount invoice.dueAmount ∧
      ∃ row, before.treasuries.get? treasury = some row ∧
        row.balance < item.refundAmount -
          min item.refundAmount invoice.dueAmount ∧
        error = .shortTreasury row.name := by
  unfold processCoreRefund at failed
  by_cases nothing : item.refundAmount ≤ 0
  · rw [if_pos nothing] at failed
    exact (Txn.pure_eq_error failed).elim
  · rw [if_neg nothing, Txn.atomic_eq_error] at failed
    obtain ⟨rfl, middle, failed⟩ := failed
    simp only [Txn.bind_eq_error, Txn.get_eq_error, Txn.get_eq_ok,
      Txn.expect_eq_error, Txn.expect_eq_ok] at failed
    have due := dueAmount_nonneg invoice
    rcases failed with failed | ⟨_, _, ⟨rfl, rfl⟩, failed⟩
    · exact failed.elim
    rcases failed with failed | ⟨_, _, ⟨found, rfl⟩, failed⟩
    · rw [sale.stored] at failed
      cases failed.1
    rw [sale.stored, Option.some.injEq] at found
    subst found
    rcases failed with failed | ⟨⟨⟩, charged, first, failed⟩
    · exact (takeOff_error failed).elim
    have first' := takeOff_ok item.invoice treasury
      (by omega) first
    obtain ⟨row, present⟩ := Option.isSome_iff_exists.mp sale.listed
    have present' : charged.treasuries.get? treasury = some row := by
      rw [first']
      simp [RefundDesk.refund, present]
    obtain ⟨positive, other, found, short, named⟩ := payBack_error sale.source
      (by rw [present']; rfl) failed
    rw [present', Option.some.injEq] at found
    subst found
    exact ⟨rfl, positive, row, present, short, named⟩

theorem handleCoreChargeReturn_ok
    (sale : CashSale before item.invoice treasury invoice)
    (fresh : item.isCoreReturned = false)
    (returned : handleCoreChargeReturn language item before = .ok ⟨⟩ after) :
    after = before.refund item.invoice invoice.customer treasury
        (min (before.refunded language invoice item treasury) invoice.dueAmount)
        (before.refunded language invoice item treasury -
          min (before.refunded language invoice item treasury)
            invoice.dueAmount) := by
  unfold handleCoreChargeReturn at returned
  rw [fresh] at returned
  simp only [Bool.false_eq_true, if_false, Txn.bind_eq_ok, Txn.attempt_eq_ok]
    at returned
  obtain ⟨outcome, middle, ⟨⟨⟩, rfl, first⟩ | ⟨error, rfl, failed⟩, rest⟩ := returned
  · obtain ⟨-, rfl⟩ := Txn.pure_eq_ok.mp rest
    exact processCoreRefund_ok sale first
  · obtain ⟨rfl, positive, row, present, short, rfl⟩ :=
      processCoreRefund_error sale failed
    dsimp only at rest
    split at rest
    · exact (Txn.throw_eq_ok rest).elim
    · rename_i silent
      obtain ⟨-, rfl⟩ := Txn.pure_eq_ok.mp rest
      have none : middle.refunded language invoice item treasury = 0 := by
        unfold RefundDesk.refunded RefundDesk.dropped
        rw [if_pos]
        right
        rw [present, Option.any_some, decide_eq_true positive,
          decide_eq_true short, Bool.eq_false_iff.mpr silent]
        rfl
      rw [none, min_eq_left (dueAmount_nonneg invoice), sub_self,
        RefundDesk.refund_zero]

theorem saveTotal_ok {pk : ℕ} (returned : saveTotal pk before = .ok ⟨⟩ after) :
    ∃ stored saved, before.invoices.get? pk = some stored ∧
      stored.updateTotal (billableBreakdown before.items before.services pk) =
        .ok saved ∧
      after =
        { before with
          invoices := before.invoices.modify pk fun _ => saved } := by
  simp only [saveTotal, Txn.bind_eq_ok, Txn.get_eq_ok, Txn.expect_eq_ok]
    at returned
  obtain ⟨_, _, ⟨rfl, rfl⟩, stored, _, ⟨found, rfl⟩, rest⟩ := returned
  refine ⟨stored, ?_⟩
  cases updated : stored.updateTotal
      (billableBreakdown before.items before.services pk) with
  | ok saved =>
      rw [updated] at rest
      exact ⟨saved, found, rfl, (Txn.set_eq_ok.mp rest).symm⟩
  | error error =>
      rw [updated] at rest
      exact (Txn.throw_eq_ok rest).elim

end Refund

def SaleInvoiceItem.back (item : SaleInvoiceItem) : SaleInvoiceItem :=
  { item with isCoreReturned := true }

theorem subtotal_back {items : Table SaleInvoiceItem} {key : ℕ}
    {item : SaleInvoiceItem} (stored : items.get? key = some item)
    (services : Table SaleInvoiceServiceItem) (invoice : SaleInvoice) :
    invoice.subtotal (billableBreakdown
        (items.modify key SaleInvoiceItem.back) services item.invoice) =
      invoice.subtotal (billableBreakdown items services item.invoice) -
        item.coreCharge := by
  have price : item.back.price = item.price := rfl
  have charge : item.back.coreCharge = 0 := by
    simp [SaleInvoiceItem.back, SaleInvoiceItem.coreCharge]
  have same : item.back.invoice = item.invoice := rfl
  simp only [SaleInvoice.subtotal, billableBreakdown, Table.total_modify stored,
    price, charge, same, if_true]
  ring

theorem returnedCredit_modify {invoices : Table SaleInvoice} {pk : ℕ}
    {invoice saved : SaleInvoice} (stored : invoices.get? pk = some invoice)
    (sale : invoice.isReturn = false) (sale' : saved.isReturn = false)
    (original : invoice.originalInvoice ≠ some pk)
    (original' : saved.originalInvoice ≠ some pk) :
    returnedCredit (invoices.modify pk fun _ => saved) pk saved =
      returnedCredit invoices pk invoice := by
  unfold returnedCredit
  rw [sale, sale', Table.total_modify stored]
  simp [original, original']

theorem RefundDesk.refunded_cases (desk : RefundDesk) (language : Language)
    (invoice : SaleInvoice) (item : SaleInvoiceItem) (treasury : ℕ) :
    0 ≤ desk.refunded language invoice item treasury ∧
      (desk.refunded language invoice item treasury = 0 ∨
        desk.refunded language invoice item treasury = item.refundAmount) := by
  unfold RefundDesk.refunded
  split
  · exact ⟨le_refl 0, .inl rfl⟩
  · rename_i paid
    rw [not_or] at paid
    exact ⟨by omega, .inr rfl⟩

theorem SaleInvoiceItem.coreCharge_cases {item : SaleInvoiceItem}
    (fresh : item.isCoreReturned = false) :
    item.coreCharge = 0 ∨ item.coreCharge = item.refundAmount := by
  unfold SaleInvoiceItem.coreCharge SaleInvoiceItem.refundAmount
  rw [fresh]
  split
  · exact .inr rfl
  · exact .inl rfl

section Coherence

variable {language : Language} {item : SaleInvoiceItem} {invoice : SaleInvoice}
  {treasury pk : ℕ} {before after : RefundDesk}

theorem saveCoreReturned_ok (stored : before.items.get? pk = some item)
    (fresh : item.isCoreReturned = false)
    (sale : CashSale before item.invoice treasury invoice)
    (returned : saveCoreReturned language pk before = .ok ⟨⟩ after) :
    ∃ saved onAccount cashBack,
      onAccount = min (before.refunded language invoice item treasury)
        invoice.dueAmount ∧
      cashBack = before.refunded language invoice item treasury - onAccount ∧
      after.invoices = before.invoices.modify item.invoice (fun _ => saved) ∧
      after.customers = before.customers.modify invoice.customer (· - onAccount) ∧
      after.treasuries = before.treasuries.modify treasury (fun row =>
        { row with
          balance := row.balance - cashBack }) ∧
      saved.totalAmount = before.subtotalOf item.invoice invoice - item.coreCharge +
        taxOn invoice.taxPercentage
          (before.subtotalOf item.invoice invoice - item.coreCharge) ∧
      saved.paidAmount = invoice.paidAmount - cashBack ∧
      saved.maintenanceContract = invoice.maintenanceContract ∧
      saved.isReturn = invoice.isReturn ∧
      saved.originalInvoice = invoice.originalInvoice := by
  simp only [saveCoreReturned, Txn.bind_eq_ok, Txn.get_eq_ok, Txn.expect_eq_ok,
    Txn.modify_eq_ok] at returned
  obtain ⟨_, _, ⟨rfl, rfl⟩, _, _, ⟨found, rfl⟩, ⟨⟩, middle, first, ⟨⟩, _, rfl, rest⟩ :=
    returned
  rw [stored, Option.some.injEq] at found
  subst found
  have refund := handleCoreChargeReturn_ok sale fresh first
  obtain ⟨paid, saved, present, updated, rfl⟩ := saveTotal_ok rest
  have same := (SaleInvoice.updateTotal_ok updated).2
  rw [refund] at present same
  have paid_eq : paid =
      { invoice with
        paidAmount := invoice.paidAmount -
          (before.refunded language invoice item treasury -
            min (before.refunded language invoice item treasury)
              invoice.dueAmount) } := by
    simpa [RefundDesk.refund, sale.stored, eq_comm] using present
  have subtotal := subtotal_back stored before.services invoice
  refine ⟨saved, _, _, rfl, rfl, ?_, ?_, ?_, ?_, ?_, ?_, ?_, ?_⟩
  · rw [refund]
    simp only [RefundDesk.refund, Table.modify_modify]
  · rw [refund]
    rfl
  · rw [refund]
    rfl
  · have figures : paid.subtotal (billableBreakdown
        (before.items.modify pk SaleInvoiceItem.back) before.services
          item.invoice) =
        before.subtotalOf item.invoice invoice - item.coreCharge := by
      rw [paid_eq]
      exact subtotal
    have rate : paid.taxPercentage = invoice.taxPercentage := by
      rw [paid_eq]
    rw [← figures, ← rate]
    exact congrArg SaleInvoice.totalAmount same
  · rw [same, paid_eq]
  · rw [same, paid_eq]
  · rw [same, paid_eq]
  · rw [same, paid_eq]

/-- The figures move together exactly when the refund matches the invoice. -/
theorem saveCoreReturned_iff (language : Language) (before after : RefundDesk)
    (pk treasury : ℕ) (item : SaleInvoiceItem) (invoice : SaleInvoice)
    (stored : before.items.get? pk = some item)
    (fresh : item.isCoreReturned = false)
    (sale : CashSale before item.invoice treasury invoice)
    (returned : saveCoreReturned language pk before = .ok ⟨⟩ after) :
    MovesTogether before after item.invoice invoice.customer treasury ↔
      RefundMatches before language invoice item treasury := by
  obtain ⟨saved, onAccount, cashBack, account, cash, invoices, customers, treasuries,
    total, paid, contract, isReturn, original⟩ :=
    saveCoreReturned_ok stored fresh sale returned
  have credit := returnedCredit_modify sale.stored sale.sale
    (isReturn.trans sale.sale) sale.original (original ▸ sale.original)
  have credit_nonneg := returnedCredit_nonneg before.invoices item.invoice invoice
  have stored' : after.invoices.get? item.invoice = some saved := by
    rw [invoices, Table.get?_modify_self, sale.stored, Option.map_some]
  obtain ⟨balance, owner⟩ := Option.isSome_iff_exists.mp sale.customer
  obtain ⟨row, listed⟩ := Option.isSome_iff_exists.mp sale.listed
  have balances : after.balance invoice.customer =
      before.balance invoice.customer - onAccount := by
    simp [RefundDesk.balance, customers, owner]
  have monies : after.cash treasury = before.cash treasury - cashBack := by
    simp [RefundDesk.cash, treasuries, listed]
  have due : before.openDue item.invoice =
      max (invoice.dueAmount - returnedCredit before.invoices item.invoice invoice)
        0 := by
    simp [RefundDesk.openDue, RefundDesk.onInvoice, sale.stored, Sales.openDue]
  have due' : after.openDue item.invoice =
      max (saved.dueAmount - returnedCredit before.invoices item.invoice invoice)
        0 := by
    simp only [RefundDesk.openDue, RefundDesk.onInvoice, stored', Option.map_some,
      Option.getD_some, Sales.openDue]
    rw [invoices, credit]
  have totals : before.total item.invoice = invoice.totalAmount ∧
      after.total item.invoice = saved.totalAmount := by
    simp [RefundDesk.total, RefundDesk.onInvoice, sale.stored, stored']
  obtain ⟨refund_nonneg, refunds⟩ :=
    before.refunded_cases language invoice item treasury
  have charges := SaleInvoiceItem.coreCharge_cases fresh
  have whole := sale.total
  have below : ∀ amount : ℤ, 0 ≤ amount → taxOn invoice.taxPercentage
      (before.subtotalOf item.invoice invoice - amount) ≤
        taxOn invoice.taxPercentage (before.subtotalOf item.invoice invoice) :=
    fun amount sign => taxOn_mono sale.rate (by omega)
  have above : ∀ amount : ℤ, amount ≤ 0 →
      taxOn invoice.taxPercentage (before.subtotalOf item.invoice invoice) ≤
        taxOn invoice.taxPercentage
          (before.subtotalOf item.invoice invoice - amount) :=
    fun amount sign => taxOn_mono sale.rate (by omega)
  have dues : saved.dueAmount =
      if invoice.maintenanceContract.isSome = true then 0
      else max (saved.totalAmount - saved.paidAmount) 0 := by
    rw [SaleInvoice.dueAmount, contract]
  have dues' : invoice.dueAmount =
      if invoice.maintenanceContract.isSome = true then 0
      else max (invoice.totalAmount - invoice.paidAmount) 0 := rfl
  constructor
  · rintro ⟨statement, money⟩
    rw [balances, due, due'] at statement
    rw [monies, due, due', totals.1, totals.2, total, whole] at money
    have charged : item.coreCharge =
        before.refunded language invoice item treasury := by
      rcases lt_trichotomy item.coreCharge 0 with less | none | more
      · have tax := above _ less.le
        omega
      · have tax := below _ none.ge
        have tax' := above _ none.le
        omega
      · have tax := below _ more.le
        omega
    exact ⟨charged, by omega, by
      rw [← account, Sales.openDue]
      omega⟩
  · rintro ⟨charged, taxed, within⟩
    rw [← account, Sales.openDue] at within
    have fall : invoice.totalAmount - saved.totalAmount =
        before.refunded language invoice item treasury := by omega
    have drop : max (saved.dueAmount -
          returnedCredit before.invoices item.invoice invoice) 0 =
        max (invoice.dueAmount -
          returnedCredit before.invoices item.invoice invoice) 0 - onAccount := by
      split at dues
      · rename_i covered
        rw [if_pos covered] at dues'
        omega
      · rename_i uncovered
        rw [if_neg uncovered] at dues'
        omega
    constructor
    · rw [balances, due, due', drop]
      ring
    · rw [monies, due, due', drop, totals.1, totals.2, fall]
      omega

end Coherence

def depositLine : SaleInvoiceItem where
  invoice := 0
  product := 0
  quantity := 1
  unitPrice := 10000
  coreChargeApplied := 3000

def depositInvoice (taxPercentage : ℚ) (totalAmount : ℤ) : SaleInvoice where
  status := .posted
  customer := 0
  dateCreated := 0
  treasury := some 0
  taxPercentage
  totalAmount
  isApplied := true

def depositSold (taxPercentage : ℚ) (totalAmount : ℤ) : RefundDesk where
  invoices := Table.empty.insert (depositInvoice taxPercentage totalAmount)
  items := Table.empty.insert depositLine
  customers := Table.empty.insert totalAmount
  treasuries := Table.empty.insert { name := "cash" }

theorem depositSold_cashSale {taxPercentage : ℚ} {totalAmount : ℤ}
    (rate : 0 ≤ taxPercentage)
    (total : totalAmount = 13000 + taxOn taxPercentage 13000) :
    CashSale (depositSold taxPercentage totalAmount) 0 0
      (depositInvoice taxPercentage totalAmount) where
  stored := rfl
  sale := rfl
  original := by simp [depositInvoice]
  customer := rfl
  listed := rfl
  source := rfl
  rate := rate
  total := total

/-- Without tax the deposit comes off the balance and off the invoice. -/
theorem saveCoreReturned_iff_untaxed :
    MovesTogether (depositSold 0 13000)
        ((saveCoreReturned .arabic 0).final (depositSold 0 13000)) 0 0 0 ↔
      RefundMatches (depositSold 0 13000) .arabic (depositInvoice 0 13000)
        depositLine 0 :=
  saveCoreReturned_iff .arabic _ _ 0 0 depositLine (depositInvoice 0 13000) rfl rfl
    (depositSold_cashSale (by decide) (by decide +kernel))
    (Txn.eq_ok_of_result? (by decide +kernel))

/-- With fourteen percent the total falls by 34.20, the balance by 30.00. -/
theorem saveCoreReturned_apart_taxed :
    ¬ ∀ (language : Language) (before after : RefundDesk) (pk treasury : ℕ)
      (item : SaleInvoiceItem) (invoice : SaleInvoice),
      before.items.get? pk = some item → item.isCoreReturned = false →
      CashSale before item.invoice treasury invoice →
      saveCoreReturned language pk before = .ok ⟨⟩ after →
      MovesTogether before after item.invoice invoice.customer treasury := by
  intro always
  have together := always .arabic (depositSold 14 14820)
    ((saveCoreReturned .arabic 0).final (depositSold 14 14820)) 0 0 depositLine
    (depositInvoice 14 14820) rfl rfl
    (depositSold_cashSale (by decide +kernel) (by decide +kernel))
    (Txn.eq_ok_of_result? (by decide +kernel))
  exact absurd together.statement (by decide +kernel)

end Mousstec.Sales
