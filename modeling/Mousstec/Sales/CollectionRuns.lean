import Mousstec.Cash.PaymentFacts
import Mousstec.Sales.Collection

/-!
# Collections that are voided again

While a collection is partly voided, the counter differs from the one before
it by the movements that remain: each adds its amount to the treasury and to
what its invoice has been paid.  `Outstanding` says this; paying a part adds a
movement to it and voiding one, whichever comes first, takes it out.
-/

namespace Mousstec.Sales

open Library Accounting Cash

theorem olderThan_total (left right : ℕ × SaleInvoice) :
    olderThan left right ∨ olderThan right left := by
  unfold olderThan
  omega

theorem olderThan_trans {first second third : ℕ × SaleInvoice}
    (left : olderThan first second) (right : olderThan second third) :
    olderThan first third := by
  unfold olderThan at left right ⊢
  omega

theorem openInvoices_sorted (invoices : Table SaleInvoice) (customer : ℕ) :
    (openInvoices invoices customer).Pairwise olderThan := by
  have total : Std.Total olderThan := ⟨olderThan_total⟩
  have trans : IsTrans _ olderThan := ⟨fun _ _ _ => olderThan_trans⟩
  exact (List.pairwise_insertionSort olderThan _).filter _

theorem mem_openInvoices {invoices : Table SaleInvoice} {customer : ℕ}
    {row : ℕ × SaleInvoice} :
    row ∈ openInvoices invoices customer ↔
      invoices.get? row.1 = some row.2 ∧ collectable customer row.2 = true ∧
        0 < openDue invoices row.1 row.2 := by
  unfold openInvoices
  rw [List.mem_filter, List.mem_insertionSort, List.mem_filter,
    Table.get?_eq_some, decide_eq_true_eq, and_assoc]

theorem openInvoices_nodup (invoices : Table SaleInvoice) (customer : ℕ) :
    ((openInvoices invoices customer).map Prod.fst).Nodup := by
  have kept : (openInvoices invoices customer).Sublist
      ((invoices.rows.filter fun row => collectable customer row.2).insertionSort
        olderThan) := List.filter_sublist
  refine (kept.map Prod.fst).nodup ?_
  have same := (List.perm_insertionSort olderThan
    (invoices.rows.filter fun row => collectable customer row.2)).map Prod.fst
  exact same.nodup_iff.mpr
    (invoices.keys_nodup.sublist (List.filter_sublist.map _))

theorem openDues_positive (invoices : Table SaleInvoice) (customer : ℕ) :
    ∀ row ∈ openDues invoices customer, 0 < row.2 := by
  intro row member
  obtain ⟨open_, listed, rfl⟩ := List.mem_map.mp member
  exact (mem_openInvoices.mp listed).2.2

def paidOn (parts : List (ℕ × FinancialTransaction)) (invoice : ℕ) : ℤ :=
  (parts.map fun part =>
    if part.2.saleInvoice = some invoice then part.2.amount else 0).sum

def broughtIn (parts : List (ℕ × FinancialTransaction)) : ℤ :=
  (parts.map fun part => part.2.amount).sum

/-- An invoice's stored figure agrees with its movements and is not below
zero. -/
def Settled (counter : Counter) (pk : ℕ) (invoice : SaleInvoice) : Prop :=
  invoice.paidAmount = linkedNet counter.cash.payments pk ∧
    0 ≤ invoice.paidAmount

instance (counter : Counter) (pk : ℕ) (invoice : SaleInvoice) :
    Decidable (Settled counter pk invoice) :=
  inferInstanceAs (Decidable (_ ∧ _))

structure Collects (before : Counter) (customer treasury : ℕ)
    (ft : FinancialTransaction) : Prop where
  transactionType : ft.transactionType = .cashIn
  treasury : ft.treasury = treasury
  customer : ft.customer = some customer
  positive : 0 < ft.amount
  invoice : ∀ pk, ft.saleInvoice = some pk →
    ∃ invoice, before.invoices.get? pk = some invoice ∧
      invoice.isReturn = false ∧ Settled before pk invoice

/-- The counter differs from the one before by the movements that remain and
by what the customer owes less. -/
structure Outstanding (before : Counter) (customer treasury : ℕ)
    (parts : List (ℕ × FinancialTransaction)) (owed : ℤ) (counter : Counter) :
    Prop where
  collects : ∀ part ∈ parts, Collects before customer treasury part.2
  stored : ∀ part ∈ parts,
    counter.cash.payments.get? part.1 = some part.2
  keys : (parts.map Prod.fst).Nodup
  removable : ∀ part ∈ parts, Removable counter.cash part.1
  links : Linked counter.cash
  linked : ∀ invoice, linkedNet counter.cash.payments invoice =
    linkedNet before.cash.payments invoice + paidOn parts invoice
  treasuries : counter.cash.treasuries =
    before.cash.treasuries.modify treasury fun till =>
      { till with balance := till.balance + broughtIn parts }
  customers : counter.customers =
    before.customers.modify customer fun row =>
      { row with balance := row.balance + -owed }
  invoices : ∀ pk, (counter.invoices.get? pk).map
      (fun invoice => (invoice.isReturn, invoice.paidAmount)) =
    (before.invoices.get? pk).map fun invoice =>
      (invoice.isReturn, invoice.paidAmount + paidOn parts pk)

namespace Outstanding

variable {before counter after : Counter} {customer treasury : ℕ}
  {parts rest : List (ℕ × FinancialTransaction)} {owed : ℤ}

theorem start (links : Linked before.cash) :
    Outstanding before customer treasury [] 0 before where
  collects := by simp
  stored := by simp
  keys := by simp
  removable := by simp
  links
  linked := by simp [paidOn]
  treasuries := (Table.modify_eq_self _ _ (by simp [broughtIn])).symm
  customers := (Table.modify_eq_self _ _ (by simp)).symm
  invoices := by simp [paidOn]

theorem perm (outstanding : Outstanding before customer treasury parts owed
    counter) (same : parts.Perm rest) :
    Outstanding before customer treasury rest owed counter where
  collects part member := outstanding.collects part (same.mem_iff.mpr member)
  stored part member := outstanding.stored part (same.mem_iff.mpr member)
  keys := (same.map Prod.fst).nodup_iff.mp outstanding.keys
  removable part member := outstanding.removable part (same.mem_iff.mpr member)
  links := outstanding.links
  linked invoice := by
    rw [outstanding.linked, paidOn, paidOn, (same.map _).sum_eq]
  treasuries := by
    rw [outstanding.treasuries, broughtIn, broughtIn, (same.map _).sum_eq]
  customers := outstanding.customers
  invoices pk := by
    rw [outstanding.invoices, paidOn, paidOn, (same.map _).sum_eq]

end Outstanding

@[simp] theorem paidOn_append (parts rest : List (ℕ × FinancialTransaction))
    (invoice : ℕ) :
    paidOn (parts ++ rest) invoice = paidOn parts invoice + paidOn rest invoice := by
  simp [paidOn]

@[simp] theorem broughtIn_append
    (parts rest : List (ℕ × FinancialTransaction)) :
    broughtIn (parts ++ rest) = broughtIn parts + broughtIn rest := by
  simp [broughtIn]

theorem Collects.signed {before : Counter} {customer treasury : ℕ}
    {ft : FinancialTransaction} (collects : Collects before customer treasury ft) :
    ft.signed = ft.amount := by
  unfold FinancialTransaction.signed
  rw [collects.transactionType]

theorem createFinancialTransaction_ok (ft : FinancialTransaction)
    (counter : Counter) :
    ∃ desk, createFinancialTransaction ft counter =
        .ok ⟨⟩ { counter with cash := desk } ∧
      Created ft counter.cash desk := by
  obtain ⟨desk, returned, created⟩ := createPayment_ok ft counter.cash
  refine ⟨desk, ?_, created⟩
  unfold createFinancialTransaction
  rw [Txn.bind_eq_ok]
  exact ⟨_, _, Txn.zoom_eq_ok.mpr ⟨desk, returned, rfl⟩, rfl⟩

namespace Outstanding

variable {before counter after : Counter} {customer treasury : ℕ}
  {parts : List (ℕ × FinancialTransaction)} {owed : ℤ}
  {ft : FinancialTransaction}

theorem record (outstanding : Outstanding before customer treasury parts owed
      counter)
    (collects : Collects before customer treasury ft)
    (created : Created ft counter.cash after.cash)
    (customers : after.customers = counter.customers)
    (credited : ∀ pk, (after.invoices.get? pk).map
        (fun invoice => (invoice.isReturn, invoice.paidAmount)) =
      (counter.invoices.get? pk).map fun invoice =>
        (invoice.isReturn, invoice.paidAmount +
          if ft.saleInvoice = some pk then ft.amount else 0)) :
    Outstanding before customer treasury
      (parts ++ [(counter.cash.payments.next, ft)]) owed after := by
  have older : ∀ part ∈ parts, part.1 ≠ counter.cash.payments.next :=
    fun part member => Nat.ne_of_lt (Table.get?_lt (outstanding.stored part member))
  exact
    { collects := by
        intro part member
        rcases List.mem_append.mp member with old | new
        · exact outstanding.collects part old
        · rw [List.mem_singleton] at new
          exact new ▸ collects
      stored := by
        intro part member
        rw [created.payments]
        rcases List.mem_append.mp member with old | new
        · exact Table.get?_insert_of_some (outstanding.stored part old) ft
        · rw [List.mem_singleton] at new
          subst new
          exact Table.get?_insert_next _ _
      keys := by
        rw [List.map_append, List.nodup_append]
        refine ⟨outstanding.keys, by simp, ?_⟩
        intro key member other added
        obtain ⟨part, old, rfl⟩ := List.mem_map.mp member
        simp only [List.map_cons, List.map_nil, List.mem_singleton] at added
        exact added ▸ older part old
      removable := by
        intro part member
        rcases List.mem_append.mp member with old | new
        · exact created.removable_old (older part old)
            (outstanding.removable part old)
        · rw [List.mem_singleton] at new
          subst new
          exact created.removable outstanding.links
      links := created.linked outstanding.links
      linked := by
        intro invoice
        have earlier := outstanding.linked invoice
        unfold linkedNet at earlier ⊢
        rw [created.payments, Table.total_insert, earlier, paidOn_append,
          collects.signed, add_assoc]
        simp [paidOn]
      treasuries := by
        rw [created.treasuries, outstanding.treasuries, collects.treasury,
          Table.modify_modify, broughtIn_append, collects.signed]
        simp [broughtIn, add_assoc]
      customers := customers.trans outstanding.customers
      invoices := by
        intro pk
        have earlier := congrArg (Option.map fun figures : Bool × ℤ =>
          (figures.1, figures.2 +
            if ft.saleInvoice = some pk then ft.amount else 0))
          (outstanding.invoices pk)
        rw [Option.map_map, Option.map_map] at earlier
        rw [credited pk]
        refine earlier.trans ?_
        simp only [Function.comp_def, paidOn_append, add_assoc]
        simp [paidOn] }

end Outstanding

theorem getPayment_eq_ok {pk : ℕ} {ft : FinancialTransaction}
    {before after : Counter} :
    getPayment pk before = .ok ft after ↔
      before.cash.payments.get? pk = some ft ∧ before = after := by
  unfold getPayment
  rw [Txn.get_bind, Txn.expect_eq_ok]

theorem getTreasury_eq_ok {pk : ℕ} {till : Treasury}
    {before after : Counter} :
    getTreasury pk before = .ok till after ↔
      before.cash.treasuries.get? pk = some till ∧ before = after := by
  unfold getTreasury
  rw [Txn.get_bind, Txn.expect_eq_ok]

theorem getCustomer_eq_ok {pk : ℕ} {customer : Customer}
    {before after : Counter} :
    getCustomer pk before = .ok customer after ↔
      before.customers.get? pk = some customer ∧ before = after := by
  unfold getCustomer
  rw [Txn.get_bind, Txn.expect_eq_ok]

theorem broughtIn_nonneg {parts : List (ℕ × FinancialTransaction)}
    (positive : ∀ part ∈ parts, 0 < part.2.amount) : 0 ≤ broughtIn parts := by
  apply List.sum_nonneg
  intro amount member
  obtain ⟨part, listed, rfl⟩ := List.mem_map.mp member
  exact (positive part listed).le

theorem paidOn_nonneg {parts : List (ℕ × FinancialTransaction)}
    (positive : ∀ part ∈ parts, 0 < part.2.amount) (invoice : ℕ) :
    0 ≤ paidOn parts invoice := by
  apply List.sum_nonneg
  intro amount member
  obtain ⟨part, listed, rfl⟩ := List.mem_map.mp member
  split
  · exact (positive part listed).le
  · exact le_refl 0

@[simp] theorem takeBack_cash (ft : FinancialTransaction) (counter : Counter) :
    (takeBack ft counter).cash = counter.cash := by
  unfold takeBack
  cases ft.saleInvoice with
  | none => cases ft.customer with
    | none => rfl
    | some customer => rfl
  | some invoice => cases ft.customer with
    | none => rfl
    | some customer => rfl

theorem takeBack_customers {ft : FinancialTransaction} {customer : ℕ}
    (paid : ft.customer = some customer) (counter : Counter) :
    (takeBack ft counter).customers =
      counter.customers.modify customer fun row =>
        { row with balance := row.balance + ft.amount } := by
  unfold takeBack
  rw [paid]
  cases ft.saleInvoice with
  | none => rfl
  | some invoice => rfl

theorem takeBack_invoices (ft : FinancialTransaction) (counter : Counter)
    (pk : ℕ) :
    ((takeBack ft counter).invoices.get? pk).map
        (fun invoice => (invoice.isReturn, invoice.paidAmount)) =
      (counter.invoices.get? pk).map fun invoice =>
        (invoice.isReturn,
          if ft.saleInvoice = some pk then
            max (linkedNet counter.cash.payments pk) 0
          else invoice.paidAmount) := by
  have clamp : ∀ net : ℤ, (if 0 < net then net else 0) = max net 0 := by
    intro net
    split
    · omega
    · omega
  have same : (takeBack ft counter).invoices =
      (ft.saleInvoice.elim counter fun invoice =>
        resyncPaid invoice counter).invoices := by
    unfold takeBack
    cases ft.customer with
    | none => rfl
    | some customer => rfl
  rw [same]
  cases ft.saleInvoice with
  | none => simp
  | some invoice =>
      simp only [Option.elim_some, resyncPaid, clamp, Option.some.injEq]
      by_cases named : pk = invoice
      · subst named
        simp [Function.comp_def]
      · rw [Table.get?_modify_of_ne _ named]
        simp [Ne.symm named]

namespace Outstanding

variable {before counter : Counter} {customer treasury : ℕ}
  {parts : List (ℕ × FinancialTransaction)} {owed : ℤ} {till : Treasury}
  {pk : ℕ} {ft : FinancialTransaction}

theorem canVoid (outstanding : Outstanding before customer treasury
      ((pk, ft) :: parts) owed counter)
    (known : ∀ row, before.customers.get? customer = some row →
      row.isWalkIn = false) : canVoid counter ft = none := by
  have collects := outstanding.collects (pk, ft) List.mem_cons_self
  have sale : (ft.saleInvoice.bind counter.invoices.get?).any
      SaleInvoice.isReturn = false := by
    cases named : ft.saleInvoice with
    | none => rfl
    | some invoice =>
        obtain ⟨row, found, isSale, -⟩ := collects.invoice invoice named
        have later := outstanding.invoices invoice
        rw [found] at later
        obtain ⟨current, stored, figures⟩ := Option.map_eq_some_iff.mp later
        simp only [Prod.mk.injEq] at figures
        simp [stored, figures.1, isSale]
  have person : (counter.customers.get? customer).any
      Customer.isWalkIn = false := by
    rw [outstanding.customers, Table.get?_modify_self]
    cases found : before.customers.get? customer with
    | none => rfl
    | some row => exact known row found
  unfold Sales.canVoid
  rw [collects.transactionType, collects.customer]
  simp only [sale, person, Bool.false_eq_true, if_false]

theorem paidOn_cons (part : ℕ × FinancialTransaction) (invoice : ℕ) :
    paidOn (part :: parts) invoice =
      (if part.2.saleInvoice = some invoice then part.2.amount else 0) +
        paidOn parts invoice := rfl

theorem broughtIn_cons (part : ℕ × FinancialTransaction) :
    broughtIn (part :: parts) = part.2.amount + broughtIn parts := rfl

theorem positive (outstanding : Outstanding before customer treasury parts
    owed counter) : ∀ part ∈ parts, 0 < part.2.amount :=
  fun part member => (outstanding.collects part member).positive

theorem linked_removed {desk : CashDesk} (outstanding : Outstanding before
      customer treasury ((pk, ft) :: parts) owed counter)
    (removed : Removed pk ft counter.cash desk) (invoice : ℕ) :
    linkedNet desk.payments invoice =
      linkedNet before.cash.payments invoice + paidOn parts invoice := by
  have collects := outstanding.collects (pk, ft) List.mem_cons_self
  have stored := outstanding.stored (pk, ft) List.mem_cons_self
  have earlier := outstanding.linked invoice
  unfold linkedNet at earlier ⊢
  rw [removed.payments, Table.total_erase stored, earlier, paidOn_cons,
    collects.signed]
  ring

theorem remove {desk : CashDesk} (outstanding : Outstanding before customer
      treasury ((pk, ft) :: parts) owed counter)
    (removed : Removed pk ft counter.cash desk) :
    Outstanding before customer treasury parts (owed - ft.amount)
      (takeBack ft { counter with cash := desk }) := by
  have collects := outstanding.collects (pk, ft) List.mem_cons_self
  obtain ⟨fresh, nodup⟩ := List.nodup_cons.mp outstanding.keys
  have others : ∀ part ∈ parts, part.1 ≠ pk := by
    intro part member same
    exact fresh (List.mem_map.mpr ⟨part, member, same⟩)
  exact
    { collects := fun part member =>
        outstanding.collects part (List.mem_cons_of_mem _ member)
      stored := by
        intro part member
        rw [takeBack_cash, removed.payments, Table.get?_erase,
          if_neg (others part member)]
        exact outstanding.stored part (List.mem_cons_of_mem _ member)
      keys := nodup
      removable := by
        intro part member
        rw [takeBack_cash]
        exact removed.removable
          (outstanding.removable part (List.mem_cons_of_mem _ member))
      links := by
        rw [takeBack_cash]
        exact removed.linked outstanding.links
      linked := by
        intro invoice
        rw [takeBack_cash]
        exact outstanding.linked_removed removed invoice
      treasuries := by
        rw [takeBack_cash, removed.treasuries, outstanding.treasuries,
          collects.treasury, Table.modify_modify, broughtIn_cons,
          collects.signed]
        congr 1
        funext till
        congr 1
        ring
      customers := by
        rw [takeBack_customers collects.customer, outstanding.customers,
          Table.modify_modify]
        congr 1
        funext row
        congr 1
        ring
      invoices := by
        intro invoice
        have earlier := outstanding.invoices invoice
        rw [takeBack_invoices, outstanding.linked_removed removed]
        cases found : before.invoices.get? invoice with
        | none =>
            rw [found, Option.map_none, Option.map_eq_none_iff] at earlier
            simp [earlier]
        | some row =>
            rw [found] at earlier
            obtain ⟨current, stored, figures⟩ :=
              Option.map_eq_some_iff.mp earlier
            obtain ⟨isReturn, paid⟩ := Prod.mk.inj figures
            rw [paidOn_cons] at paid
            simp only [stored, Option.map_some, isReturn]
            by_cases named : ft.saleInvoice = some invoice
            · obtain ⟨_, known, -, agrees, nonneg⟩ :=
                collects.invoice invoice named
              rw [found, Option.some.injEq] at known
              subst known
              have others := paidOn_nonneg
                (fun part member => outstanding.positive part
                  (List.mem_cons_of_mem _ member)) invoice
              rw [if_pos named, ← agrees, max_eq_left (by omega)]
            · rw [if_neg named] at paid ⊢
              rw [paid, zero_add] }

theorem takeOut (outstanding : Outstanding before customer treasury
      ((pk, ft) :: parts) owed counter)
    (known : ∀ row, before.customers.get? customer = some row →
      row.isWalkIn = false)
    (stocked : before.cash.treasuries.get? treasury = some till)
    (covered : 0 ≤ till.balance) :
    ∃ after, voidCollection pk counter = .ok ft.amount after ∧
      Outstanding before customer treasury parts (owed - ft.amount) after := by
  have collects := outstanding.collects (pk, ft) List.mem_cons_self
  have stored := outstanding.stored (pk, ft) List.mem_cons_self
  obtain ⟨desk, deleted, removed⟩ := deletePayment_ok stored
    (outstanding.removable (pk, ft) List.mem_cons_self)
  have current : counter.cash.treasuries.get? ft.treasury =
      some { till with balance :=
        till.balance + broughtIn ((pk, ft) :: parts) } := by
    rw [outstanding.treasuries, collects.treasury, Table.get?_modify_self,
      stocked]
    rfl
  have enough : ft.amount ≤ till.balance + broughtIn ((pk, ft) :: parts) := by
    have others := broughtIn_nonneg fun part member =>
      outstanding.positive part (List.mem_cons_of_mem _ member)
    rw [broughtIn_cons]
    simp only
    omega
  refine ⟨_, ?_, outstanding.remove removed⟩
  have allowed := outstanding.canVoid known
  unfold voidCollection
  rw [Txn.atomic_eq_ok, Txn.bind_eq_ok]
  refine ⟨ft, counter, getPayment_eq_ok.mpr ⟨stored, rfl⟩, ?_⟩
  rw [Txn.get_bind, Txn.bind_eq_ok]
  refine ⟨⟨⟩, counter, by rw [allowed]; rfl, ?_⟩
  rw [Txn.bind_eq_ok]
  refine ⟨_, counter, getTreasury_eq_ok.mpr ⟨current, rfl⟩, ?_⟩
  rw [Txn.bind_eq_ok]
  refine ⟨⟨⟩, counter, Txn.require_eq_ok.mpr ⟨enough, rfl⟩, ?_⟩
  rw [Txn.bind_eq_ok]
  refine ⟨⟨⟩, _, Txn.zoom_eq_ok.mpr ⟨desk, deleted, rfl⟩, ?_⟩
  rw [Txn.bind_eq_ok]
  exact ⟨⟨⟩, _, rfl, rfl⟩

theorem takeAllOut (outstanding : Outstanding before customer treasury parts
      owed counter)
    (known : ∀ row, before.customers.get? customer = some row →
      row.isWalkIn = false)
    (stocked : before.cash.treasuries.get? treasury = some till)
    (covered : 0 ≤ till.balance) {order : List ℕ}
    (listed : order.Perm (parts.map Prod.fst)) :
    ∃ after, voidAll order counter = .ok ⟨⟩ after ∧
      Outstanding before customer treasury [] (owed - broughtIn parts)
        after := by
  induction order generalizing parts owed counter with
  | nil =>
      have none : parts = [] := by
        simpa using List.nil_perm.mp listed
      subst none
      exact ⟨counter, rfl, by simpa [broughtIn] using outstanding⟩
  | cons pk order induction =>
      obtain ⟨⟨key, ft⟩, member, rfl⟩ := List.mem_map.mp
        (listed.mem_iff.mp List.mem_cons_self)
      have first := List.perm_cons_erase member
      have reordered := outstanding.perm first
      obtain ⟨middle, voided, others⟩ :=
        reordered.takeOut known stocked covered
      have rest : order.Perm ((parts.erase (key, ft)).map Prod.fst) :=
        List.Perm.cons_inv (listed.trans (first.map Prod.fst))
      obtain ⟨after, voidedAll, last⟩ := induction others rest
      refine ⟨after, ?_, ?_⟩
      · rw [voidAll, Txn.bind_eq_ok]
        exact ⟨_, middle, voided, voidedAll⟩
      · have total : broughtIn parts =
            ft.amount + broughtIn (parts.erase (key, ft)) := by
          unfold broughtIn
          rw [(first.map _).sum_eq]
          rfl
        rw [total, ← sub_sub]
        exact last

end Outstanding

theorem payPart_ok (customer treasury : ℕ) (base : String) (invoice : ℕ)
    (part : ℤ) (counter : Counter) :
    ∃ after, payPart customer treasury base invoice part counter =
        .ok ⟨⟩ after ∧
      Created (partPayment customer treasury base counter.cash.books.today
        invoice part) counter.cash after.cash ∧
      after.customers = counter.customers ∧
      ∀ pk, (after.invoices.get? pk).map
          (fun row => (row.isReturn, row.paidAmount)) =
        (counter.invoices.get? pk).map fun row =>
          (row.isReturn, row.paidAmount +
            if some invoice = some pk then part else 0) := by
  obtain ⟨desk, returned, created⟩ := createFinancialTransaction_ok
    (partPayment customer treasury base counter.cash.books.today invoice part)
    counter
  refine ⟨{ counter with
    cash := desk
    invoices := counter.invoices.modify invoice (.credit treasury part) },
    ?_, created, rfl, ?_⟩
  · unfold payPart
    rw [Txn.get_bind, Txn.bind_eq_ok]
    exact ⟨⟨⟩, _, returned, rfl⟩
  · intro pk
    simp only [Option.some.injEq]
    by_cases named : pk = invoice
    · subst named
      simp [Function.comp_def, SaleInvoice.credit]
    · rw [Table.get?_modify_of_ne _ named]
      simp [Ne.symm named]

/-- The movements created so far, with what they bring in and pay. -/
structure Collecting (before : Counter) (customer treasury : ℕ)
    (allocated : List (ℕ × ℤ)) (left : ℤ)
    (parts : List (ℕ × FinancialTransaction)) (counter : Counter) : Prop where
  outstanding : Outstanding before customer treasury parts 0 counter
  rows : counter.cash.payments.rows = before.cash.payments.rows ++ parts
  next : before.cash.payments.next ≤ counter.cash.payments.next
  recent : ∀ part ∈ parts, before.cash.payments.next ≤ part.1
  total : broughtIn parts = (allocated.map Prod.snd).sum + left
  paid : ∀ invoice, paidOn parts invoice = share allocated invoice

namespace Collecting

variable {before counter after : Counter} {customer treasury : ℕ}
  {allocated rest : List (ℕ × ℤ)} {left : ℤ} {base : String}
  {parts : List (ℕ × FinancialTransaction)} {ft : FinancialTransaction}

theorem start (links : Linked before.cash) :
    Collecting before customer treasury [] 0 [] before where
  outstanding := .start links
  rows := by simp
  next := Nat.le_refl _
  recent := by simp
  total := by simp [broughtIn]
  paid := by simp [paidOn, share]

theorem payPart (collecting : Collecting before customer treasury allocated 0
      parts counter)
    {invoice : ℕ} {part : ℤ} (positive : 0 < part) {row : SaleInvoice}
    (found : before.invoices.get? invoice = some row)
    (isSale : row.isReturn = false) (settled : Settled before invoice row)
    (paid : Sales.payPart customer treasury base invoice part counter =
      .ok ⟨⟩ after) :
    ∃ more, Collecting before customer treasury (allocated ++ [(invoice, part)])
      0 more after := by
  obtain ⟨_, returned, created, customers, credited⟩ :=
    payPart_ok customer treasury base invoice part counter
  rw [paid, EStateM.Result.ok.injEq] at returned
  obtain ⟨-, rfl⟩ := returned
  refine ⟨_, collecting.outstanding.record ?_ created customers credited, ?_,
    ?_, ?_, ?_, ?_⟩
  · exact
      { transactionType := rfl
        treasury := rfl
        customer := rfl
        positive
        invoice := by
          intro pk named
          obtain rfl := Option.some.inj named
          exact ⟨row, found, isSale, settled⟩ }
  · rw [created.payments]
    simp [Table.insert, collecting.rows]
  · rw [created.next]
    exact Nat.le_succ_of_le collecting.next
  · intro part member
    rcases List.mem_append.mp member with old | new
    · exact collecting.recent part old
    · rw [List.mem_singleton] at new
      exact new ▸ collecting.next
  · have total := collecting.total
    simp [broughtIn, partPayment] at total ⊢
    omega
  · intro other
    have earlier := collecting.paid other
    simp [paidOn, share, partPayment] at earlier ⊢
    omega

theorem payParts {more : List (ℕ × ℤ)}
    (collecting : Collecting before customer treasury allocated 0 parts counter)
    (payable : ∀ part ∈ more, 0 < part.2 ∧ ∃ row,
      before.invoices.get? part.1 = some row ∧ row.isReturn = false ∧
        Settled before part.1 row)
    (paid : (forM more fun part =>
      Sales.payPart customer treasury base part.1 part.2) counter =
      .ok ⟨⟩ after) :
    ∃ all, Collecting before customer treasury (allocated ++ more) 0 all
      after := by
  induction more generalizing allocated parts counter with
  | nil =>
      obtain ⟨-, rfl⟩ := Txn.pure_eq_ok.mp paid
      exact ⟨parts, by simpa using collecting⟩
  | cons first others induction =>
      obtain ⟨⟨⟩, middle, one, rest⟩ := Txn.bind_eq_ok.mp paid
      obtain ⟨positive, row, found, isSale, settled⟩ :=
        payable first List.mem_cons_self
      obtain ⟨_, later⟩ := collecting.payPart positive found isSale settled one
      have done := induction later
        (fun part member => payable part (List.mem_cons_of_mem _ member)) rest
      simpa using done

theorem payOnAccount
    (collecting : Collecting before customer treasury allocated 0 parts counter)
    (nonneg : 0 ≤ left)
    (paid : Sales.payOnAccount customer treasury base left counter =
      .ok ⟨⟩ after) :
    ∃ all, Collecting before customer treasury allocated left all after := by
  unfold Sales.payOnAccount at paid
  rw [Txn.get_bind] at paid
  rcases nonneg.eq_or_lt with rfl | positive
  · rw [if_neg (lt_irrefl 0)] at paid
    obtain ⟨-, rfl⟩ := Txn.pure_eq_ok.mp paid
    exact ⟨parts, collecting⟩
  · rw [if_pos positive] at paid
    obtain ⟨desk, returned, created⟩ := createFinancialTransaction_ok
      (accountPayment customer treasury base counter.cash.books.today left)
      counter
    rw [paid, EStateM.Result.ok.injEq] at returned
    obtain ⟨-, rfl⟩ := returned
    refine ⟨_, collecting.outstanding.record ?_ created rfl ?_, ?_, ?_, ?_, ?_,
      ?_⟩
    · exact
        { transactionType := rfl
          treasury := rfl
          customer := rfl
          positive
          invoice := by
            intro pk named
            cases named }
    · intro pk
      simp [accountPayment]
    · rw [created.payments]
      simp [Table.insert, collecting.rows]
    · rw [created.next]
      exact Nat.le_succ_of_le collecting.next
    · intro part member
      rcases List.mem_append.mp member with old | new
      · exact collecting.recent part old
      · rw [List.mem_singleton] at new
        exact new ▸ collecting.next
    · have total := collecting.total
      simp [broughtIn, accountPayment] at total ⊢
      omega
    · intro other
      have earlier := collecting.paid other
      simpa [paidOn, accountPayment] using earlier

theorem recentKeys (collecting : Collecting before customer treasury allocated
      left parts counter) :
    (counter.cash.payments.rows.map Prod.fst).filter
        (fun pk => before.cash.payments.next ≤ pk) = parts.map Prod.fst := by
  rw [collecting.rows, List.map_append, List.filter_append]
  have old : ((before.cash.payments.rows.map Prod.fst).filter
      fun pk => before.cash.payments.next ≤ pk) = [] := by
    rw [List.filter_eq_nil_iff]
    intro pk member
    obtain ⟨row, stored, rfl⟩ := List.mem_map.mp member
    have earlier := before.cash.payments.fresh row stored
    simpa using earlier
  have new : ((parts.map Prod.fst).filter
      fun pk => before.cash.payments.next ≤ pk) = parts.map Prod.fst := by
    rw [List.filter_eq_self]
    intro pk member
    obtain ⟨part, listed, rfl⟩ := List.mem_map.mp member
    simpa using collecting.recent part listed
  rw [old, new, List.nil_append]

end Collecting

/-- What a collection did when it returned. -/
structure Collected (before : Counter) (customer : ℕ) (amount : ℤ)
    (treasury : ℕ) (allocated : List (ℕ × ℤ)) (left : ℤ) (after : Counter) :
    Prop where
  positive : 0 < amount
  known : ∃ row, before.customers.get? customer = some row ∧
    row.isWalkIn = false ∧ amount ≤ row.balance
  till : ∃ till, before.cash.treasuries.get? treasury = some till ∧
    till.isActive = true
  split : (allocated, left) =
    spread (openDues before.invoices customer) amount
  paid : ∃ base middle last,
    (forM allocated fun part => payPart customer treasury base part.1 part.2)
      before = .ok ⟨⟩ middle ∧
    payOnAccount customer treasury base left middle = .ok ⟨⟩ last ∧
    after = last.addBalance customer (-amount)

theorem collect_returns {customer treasury : ℕ} {amount : ℚ} {note : String}
    {allocated : List (ℕ × ℤ)} {left : ℤ} {before after : Counter}
    (collected : collect customer amount treasury note before =
      .ok (allocated, left) after) :
    Collected before customer (qEven amount) treasury allocated left after := by
  unfold collect at collected
  simp only [Txn.atomic_eq_ok, Txn.bind_eq_ok, Txn.require_eq_ok,
    getCustomer_eq_ok, getTreasury_eq_ok, Txn.get_eq_ok, payInOrder_eq_ok,
    Txn.modify_eq_ok, Txn.pure_eq_ok] at collected
  obtain ⟨_, _, ⟨positive, rfl⟩, row, _, ⟨found, rfl⟩, _, _, ⟨isKnown, rfl⟩, _,
    _, ⟨owes, rfl⟩, till, _, ⟨stocked, rfl⟩, _, _, ⟨active, rfl⟩, _, _,
    ⟨rfl, rfl⟩, _, middle, ⟨split, paid⟩, _, last, onAccount, _, _, rfl, result,
    rfl⟩ := collected
  obtain ⟨rfl, rfl⟩ := Prod.mk.inj result
  exact
    { positive
      known := ⟨row, found, isKnown, owes⟩
      till := ⟨till, stocked, active⟩
      split
      paid := ⟨_, middle, last, paid, onAccount, rfl⟩ }

def newPayments (before after : Counter) : List ℕ :=
  (after.cash.payments.rows.map Prod.fst).filter fun pk =>
    before.cash.payments.next ≤ pk

/-- Balances and paid amounts are what they were. -/
structure Restored (before after : Counter) : Prop where
  customers : after.customers = before.customers
  paid : ∀ pk, (after.invoices.get? pk).map SaleInvoice.paidAmount =
    (before.invoices.get? pk).map SaleInvoice.paidAmount
  treasuries : after.cash.treasuries = before.cash.treasuries

namespace Outstanding

variable {before counter : Counter} {customer treasury : ℕ}
  {parts : List (ℕ × FinancialTransaction)} {owed : ℤ}

theorem charge (outstanding : Outstanding before customer treasury parts owed
    counter) (amount : ℤ) :
    Outstanding before customer treasury parts (owed + amount)
      (counter.addBalance customer (-amount)) :=
  { outstanding with
    customers := by
      have charged : (counter.addBalance customer (-amount)).customers =
          counter.customers.modify customer fun row =>
            { row with balance := row.balance + -amount } := rfl
      rw [charged, outstanding.customers, Table.modify_modify]
      congr 1
      funext row
      congr 1
      ring }

theorem paid (outstanding : Outstanding before customer treasury parts owed
    counter) (pk : ℕ) :
    (counter.invoices.get? pk).map SaleInvoice.paidAmount =
      (before.invoices.get? pk).map fun invoice =>
        invoice.paidAmount + paidOn parts pk := by
  have figures := congrArg (Option.map Prod.snd) (outstanding.invoices pk)
  simpa [Option.map_map, Function.comp_def] using figures

theorem restored (outstanding : Outstanding before customer treasury [] 0
    counter) : Restored before counter where
  customers := by
    rw [outstanding.customers]
    exact Table.modify_eq_self _ _ (by simp)
  paid pk := by
    rw [outstanding.paid]
    simp [paidOn]
  treasuries := by
    rw [outstanding.treasuries]
    exact Table.modify_eq_self _ _ (by simp [broughtIn])

end Outstanding

theorem share_openDues_le (invoices : Table SaleInvoice) (customer pk : ℕ)
    {row : SaleInvoice} (found : invoices.get? pk = some row) :
    share (openDues invoices customer) pk ≤ openDue invoices pk row := by
  have keys : (openDues invoices customer).map Prod.fst =
      (openInvoices invoices customer).map Prod.fst := by
    simp [openDues]
  have nodup := openInvoices_nodup invoices customer
  rw [← keys] at nodup
  by_cases listed : pk ∈ (openDues invoices customer).map Prod.fst
  · obtain ⟨⟨key, due⟩, member, rfl⟩ := List.mem_map.mp listed
    rw [share_of_mem nodup member]
    obtain ⟨⟨other, stored⟩, isOpen, same⟩ := List.mem_map.mp member
    obtain ⟨rfl, rfl⟩ := Prod.mk.inj same
    have known := (mem_openInvoices.mp isOpen).1
    rw [found, Option.some.injEq] at known
    exact known ▸ le_refl _
  · rw [share_of_notMem listed]
    exact openDue_nonneg invoices pk row

/-- A collection is split oldest first, within what is due on each invoice,
and voiding its movements in any order restores the counter. -/
theorem collect_voidAll {customer treasury : ℕ} {amount : ℚ} {note : String}
    {allocated : List (ℕ × ℤ)} {left : ℤ} {before after : Counter}
    (links : Linked before.cash)
    (settled : ∀ pk row, before.invoices.get? pk = some row →
      row.customer = customer → row.isReturn = false → Settled before pk row)
    (covered : ∀ till, before.cash.treasuries.get? treasury = some till →
      0 ≤ till.balance)
    (collected : collect customer amount treasury note before =
      .ok (allocated, left) after) :
    OldestFirst (openDues before.invoices customer) (qEven amount) allocated
        left ∧
      (openInvoices before.invoices customer).Pairwise olderThan ∧
      (∀ pk row, before.invoices.get? pk = some row →
        ∃ later, after.invoices.get? pk = some later ∧
          later.paidAmount = row.paidAmount + share allocated pk ∧
          share allocated pk ≤ openDue before.invoices pk row) ∧
      ∀ order : List ℕ, order.Perm (newPayments before after) →
        ∃ final, voidAll order after = .ok ⟨⟩ final ∧
          Restored before final := by
  obtain ⟨positive, ⟨person, known, notWalkIn, -⟩, ⟨till, stocked, -⟩, split,
    base, middle, last, paid, onAccount, rfl⟩ := collect_returns collected
  have allocation := spread_oldestFirst
    (openDues_positive before.invoices customer) positive.le
  rw [← split] at allocation
  have payable : ∀ part ∈ allocated, 0 < part.2 ∧ ∃ row,
      before.invoices.get? part.1 = some row ∧ row.isReturn = false ∧
        Settled before part.1 row := by
    intro part member
    refine ⟨allocation.positive part member, ?_⟩
    obtain ⟨due, listed, same⟩ :=
      List.mem_map.mp (allocation.keys part member)
    obtain ⟨row, isOpen, rfl⟩ := List.mem_map.mp listed
    obtain ⟨found, collectible, -⟩ := mem_openInvoices.mp isOpen
    simp only [collectable, decide_eq_true_eq] at collectible
    obtain ⟨own, isSale, -⟩ := collectible
    have notReturn : row.2.isReturn = false := by simpa using isSale
    exact ⟨row.2, same ▸ found, notReturn,
      same ▸ settled row.1 row.2 found own notReturn⟩
  obtain ⟨_, paying⟩ := (Collecting.start links).payParts payable paid
  rw [List.nil_append] at paying
  obtain ⟨parts, collecting⟩ := paying.payOnAccount allocation.nonneg onAccount
  have total : broughtIn parts = qEven amount :=
    collecting.total.trans allocation.exact
  have outstanding := collecting.outstanding.charge (qEven amount)
  refine ⟨allocation, openInvoices_sorted _ _, ?_, ?_⟩
  · intro pk row found
    have figures := outstanding.paid pk
    rw [found] at figures
    obtain ⟨later, stored, figure⟩ := Option.map_eq_some_iff.mp figures
    refine ⟨later, stored, ?_, ?_⟩
    · rw [figure, collecting.paid]
    · exact (allocation.share_le (fun row member =>
        (openDues_positive before.invoices customer row member).le) pk).trans
        (share_openDues_le before.invoices customer pk found)
  · intro order listed
    have keys : newPayments before (last.addBalance customer (-qEven amount)) =
        parts.map Prod.fst := collecting.recentKeys
    rw [keys] at listed
    obtain ⟨final, voided, rest⟩ := outstanding.takeAllOut
      (fun row found => by
        rw [known, Option.some.injEq] at found
        exact found ▸ notWalkIn)
      stocked (covered till stocked) listed
    rw [total, zero_add, sub_self] at rest
    exact ⟨final, voided, rest.restored⟩

/-- A customer with two open invoices, the second of them older and the first
partly paid. -/
def twoInvoices : Counter where
  customers := Table.empty.insert ⟨"أحمد", "+201000000001", 2500⟩
  invoices := (Table.empty.insert
    { status := .posted, customer := 0, dateCreated := 5, totalAmount := 2000
      paidAmount := 500, isApplied := true }).insert
    { status := .posted, customer := 0, dateCreated := 3, totalAmount := 1000
      isApplied := true }
  cash :=
    { treasuries := Table.empty.insert { name := "الخزنة", balance := 500 }
      payments := Table.empty.insert
        { treasury := 0, transactionType := .cashIn, amount := 500, date := 5
          saleInvoice := some 0, customer := some 0 }
      extraCosts := Table.empty
      books := ⟨Chart.empty, Table.empty, Table.empty, 7⟩ }

def twoPaid : Counter :=
  (collect 0 1800 0).final twoInvoices

theorem collect_voidAll_twoInvoices :
    OldestFirst (openDues twoInvoices.invoices 0) 1800 [(1, 1000), (0, 800)] 0 ∧
      ∃ final, voidAll [2, 1] twoPaid = .ok ⟨⟩ final ∧
        Restored twoInvoices final := by
  have collected : collect 0 1800 0 "" twoInvoices =
      .ok ([(1, 1000), (0, 800)], 0) twoPaid :=
    Txn.eq_ok_of_result? (by decide +kernel)
  obtain ⟨allocation, -, -, voids⟩ := collect_voidAll
    (by
      intro key entry pk stored
      cases stored)
    (by
      intro pk row stored _ _
      have listed := Table.get?_eq_some.mp stored
      have rows : twoInvoices.invoices.rows.all fun row =>
          decide (Settled twoInvoices row.1 row.2) = true := by decide +kernel
      simpa using List.all_eq_true.mp rows (pk, row) listed)
    (by
      intro till stored
      cases stored
      decide)
    collected
  have cents : qEven 1800 = 1800 := by decide +kernel
  rw [cents] at allocation
  exact ⟨allocation, voids [2, 1] (by decide +kernel)⟩

def overdrawn : Counter where
  customers := Table.empty.insert ⟨"أحمد", "+201000000001", 500⟩
  invoices := Table.empty
  cash :=
    { treasuries := Table.empty.insert { name := "الخزنة", balance := -1000 }
      payments := Table.empty
      extraCosts := Table.empty
      books := ⟨Chart.empty, Table.empty, Table.empty, 7⟩ }

def paidOut : Counter where
  customers := Table.empty.insert ⟨"أحمد", "+201000000001", 500⟩
  invoices := Table.empty.insert
    { status := .posted, customer := 0, dateCreated := 5, totalAmount := 200
      paidAmount := -300, isApplied := true }
  cash :=
    { treasuries := Table.empty.insert { name := "الخزنة" }
      payments := Table.empty.insert
        { treasury := 0, transactionType := .cashOut, amount := 300, date := 5
          saleInvoice := some 0, customer := some 0 }
      extraCosts := Table.empty
      books := ⟨Chart.empty, Table.empty, Table.empty, 7⟩ }

/-- What is collected into an overdrawn treasury cannot be voided, and voiding
leaves an invoice that was paid out at zero. -/
theorem collect_not_restored :
    ((∀ pk row, overdrawn.invoices.get? pk = some row →
        row.paidAmount = linkedNet overdrawn.cash.payments pk) ∧
      (collect 0 500 0).result? overdrawn = some ([], 500) ∧
      ∃ order : List ℕ,
        order.Perm (newPayments overdrawn ((collect 0 500 0).final overdrawn)) ∧
        ¬ ∃ final, voidAll order ((collect 0 500 0).final overdrawn) =
          .ok ⟨⟩ final) ∧
    (∀ pk row, paidOut.invoices.get? pk = some row →
        row.paidAmount = linkedNet paidOut.cash.payments pk) ∧
      (collect 0 500 0).result? paidOut = some ([(0, 500)], 0) ∧
      ∃ order : List ℕ,
        order.Perm (newPayments paidOut ((collect 0 500 0).final paidOut)) ∧
        ¬ ∃ final, voidAll order ((collect 0 500 0).final paidOut) =
          .ok ⟨⟩ final ∧ Restored paidOut final := by
  refine ⟨⟨?_, by decide +kernel, [0], by decide +kernel, ?_⟩, ?_,
    by decide +kernel, [1], by decide +kernel, ?_⟩
  · intro pk row stored
    cases stored
  · rintro ⟨final, voided⟩
    have stuck : (voidAll [0]).result?
        ((collect 0 500 0).final overdrawn) = none := by decide +kernel
    rw [Txn.result?, voided] at stuck
    cases stuck
  · intro pk row stored
    have listed := Table.get?_eq_some.mp stored
    have rows : paidOut.invoices.rows.all fun row => decide
        (row.2.paidAmount = linkedNet paidOut.cash.payments row.1) = true := by
      decide +kernel
    simpa using List.all_eq_true.mp rows (pk, row) listed
  · rintro ⟨final, voided, restored⟩
    have zero : (((voidAll [1]).final ((collect 0 500 0).final
        paidOut)).invoices.get? 0).map SaleInvoice.paidAmount = some 0 := by
      decide +kernel
    rw [Txn.final_of_ok voided, restored.paid] at zero
    exact absurd zero (by decide +kernel)

end Mousstec.Sales
