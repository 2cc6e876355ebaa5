import Mousstec.Accounting.LedgerFacts
import Mousstec.Cash.Payments

/-!
# What creating and deleting a movement does

Creating a movement never fails: a posting that is refused is logged, and the
treasury moves all the same.  Deleting one fails only where an entry of a
closed period has to be reversed into another closed period, so a movement
whose entries all lie in open periods can always be taken back.
-/

namespace Mousstec.Cash

open Library Accounting

theorem categoryAccountCode_ne {category : ℕ} {code : Account}
    (other : code.toList.head? ≠ some '5') :
    categoryAccountCode category ≠ code := by
  rintro rfl
  apply other
  simp [categoryAccountCode]

theorem allowedType_category (category : ℕ) :
    AllowedType (categoryAccountCode category) .expense := by
  intro closing
  have summary : categoryAccountCode category ≠
      AccountKey.incomeSummary.code := categoryAccountCode_ne (by decide)
  have retained : categoryAccountCode category ≠
      AccountKey.retainedEarnings.code := categoryAccountCode_ne (by decide)
  rcases closing with same | same
  · exact absurd same summary
  · exact absurd same retained

theorem expenseAccount_ok (standard : AccountKey) (category : Option ℕ)
    (before : Books) :
    ∃ counter after, expenseAccount standard category before =
      .ok counter after ∧ ChartOnly before after := by
  cases category with
  | none =>
      obtain ⟨after, resolved, grown, -⟩ :=
        getOrCreateAccount_ok (allowedType_key standard) before
      refine ⟨.row standard.code, after, ?_, grown⟩
      simp only [expenseAccount, Txn.bind_eq_ok, Txn.pure_eq_ok]
      exact ⟨_, _, resolved, rfl, rfl⟩
  | some pk =>
      obtain ⟨after, resolved, grown, -⟩ :=
        getOrCreateAccount_ok (allowedType_category pk) before
      refine ⟨.row (categoryAccountCode pk), after, ?_, grown⟩
      simp only [expenseAccount, Txn.bind_eq_ok, Txn.pure_eq_ok]
      exact ⟨_, _, resolved, rfl, rfl⟩

theorem counterAccount_ok (extra : Option PurchaseInvoiceExtraCost)
    (ft : FinancialTransaction) (before : Books) :
    ∃ counter after, counterAccount extra ft before = .ok counter after ∧
      ChartOnly before after := by
  have direct : ∀ key : AccountKey, ∃ counter after,
      (pure (.key key) : LedgerTxn AccountRef) before = .ok counter after ∧
        ChartOnly before after :=
    fun key => ⟨.key key, before, rfl, .refl before⟩
  unfold counterAccount
  cases extra with
  | some cost =>
      simp only
      split
      · exact direct _
      · exact expenseAccount_ok _ _ before
  | none =>
      simp only
      repeat' split
      all_goals first | exact direct _ | exact expenseAccount_ok _ _ before

/-- What a movement leaves in the ledger: new accounts, and its entry unless
it was refused or already there. -/
inductive Recorded (pk : ℕ) (ft : FinancialTransaction)
    (before after : Books) : Prop
  | nothing (grown : ChartOnly before after)
  | entry {cashKey : AccountKey} {counter : AccountRef} {middle : Books}
      {entry : JournalEntry} (grown : ChartOnly before middle)
      (posted : Posted (paymentDraft pk ft cashKey counter) middle after entry)

private theorem recorded_of_posting {pk : ℕ} {ft : FinancialTransaction}
    {cashKey : AccountKey} {counter : AccountRef} {before middle : Books}
    (grown : ChartOnly before middle) :
    Recorded pk ft before
      ((postJournal (paymentDraft pk ft cashKey counter)).final middle) := by
  refine Txn.final_of (Recorded pk ft before) ?_ ?_
  · intro result after returned
    rcases postJournal_returns returned with ⟨-, -, more⟩ | ⟨entry, -, posted⟩
    · exact .nothing (grown.trans more)
    · exact .entry grown posted
  · intro raised after failed
    exact .nothing (grown.trans (postJournal_raises failed))

theorem postPayment_recorded (pk : ℕ) (ft : FinancialTransaction)
    (treasury : Option Treasury) (extra : Option PurchaseInvoiceExtraCost)
    (before : Books) :
    Recorded pk ft before ((postPayment pk ft treasury extra).final before) := by
  unfold postPayment
  rw [Txn.final, Txn.get_bind]
  change Recorded pk ft before (Txn.final _ before)
  split
  · exact .nothing (.refl before)
  · split
    · exact .nothing (.refl before)
    · obtain ⟨counter, middle, resolved, grown⟩ :=
        counterAccount_ok extra ft before
      rw [Txn.final_bind_of_ok resolved]
      exact recorded_of_posting grown

structure Created (ft : FinancialTransaction) (before after : CashDesk) :
    Prop where
  treasuries : after.treasuries =
    before.treasuries.modify ft.treasury fun stored =>
      { stored with balance := stored.balance + ft.signed }
  payments : after.payments = before.payments.insert ft
  extraCosts : after.extraCosts = before.extraCosts
  books : Recorded before.payments.next ft before.books after.books

private theorem logFailure_ok (pk : ℕ)
    (posted : Except LedgerError (Option ℕ)) (before : CashDesk) :
    ∃ failures, logFailure pk posted before =
      .ok ⟨⟩ { before with failures := failures } := by
  cases posted with
  | ok posted => exact ⟨before.failures, rfl⟩
  | error raised => exact ⟨_, rfl⟩

def postedBooks (ft : FinancialTransaction) (before : CashDesk) : Books :=
  (postPayment before.payments.next ft (before.treasuries.get? ft.treasury)
    (ft.purchaseExtraCost.bind before.extraCosts.get?)).final before.books

private theorem generateAccountingEntries_ok (pk : ℕ)
    (ft : FinancialTransaction) (before : CashDesk) :
    ∃ failures, generateAccountingEntries pk ft before =
      .ok ⟨⟩ { before with
        books := (postPayment pk ft (before.treasuries.get? ft.treasury)
          (ft.purchaseExtraCost.bind before.extraCosts.get?)).final before.books
        failures := failures } := by
  obtain ⟨posted, attempted⟩ := Txn.attempt_zoom CashDesk.ledger id
    (postPayment pk ft (before.treasuries.get? ft.treasury)
      (ft.purchaseExtraCost.bind before.extraCosts.get?)) before
  obtain ⟨failures, logged⟩ := logFailure_ok pk posted
    (CashDesk.ledger.set ((postPayment pk ft
      (before.treasuries.get? ft.treasury)
      (ft.purchaseExtraCost.bind before.extraCosts.get?)).final before.books)
      before)
  refine ⟨failures, ?_⟩
  unfold generateAccountingEntries
  rw [Txn.get_bind, Txn.bind_eq_ok]
  exact ⟨posted, _, attempted, logged⟩

theorem createPayment_books (ft : FinancialTransaction) (before : CashDesk) :
    ∃ failures, createPayment ft before = .ok before.payments.next
      (({ before with
          payments := before.payments.insert ft
          books := postedBooks ft before
          failures := failures } : CashDesk).addBalance ft.treasury
        ft.signed) := by
  obtain ⟨failures, generated⟩ :=
    generateAccountingEntries_ok before.payments.next ft
      { before with payments := before.payments.insert ft }
  refine ⟨failures, ?_⟩
  unfold createPayment
  rw [Txn.get_bind, Txn.bind_eq_ok]
  refine ⟨⟨⟩, _, rfl, ?_⟩
  rw [Txn.bind_eq_ok]
  refine ⟨⟨⟩, _, generated, ?_⟩
  rw [Txn.bind_eq_ok]
  exact ⟨⟨⟩, _, rfl, rfl⟩

theorem createPayment_ok (ft : FinancialTransaction) (before : CashDesk) :
    ∃ after, createPayment ft before = .ok before.payments.next after ∧
      Created ft before after := by
  obtain ⟨failures, created⟩ := createPayment_books ft before
  refine ⟨_, created, ?_⟩
  exact
    { treasuries := rfl
      payments := rfl
      extraCosts := rfl
      books := postPayment_recorded _ ft _ _ _ }

/-- Every link from an entry to a movement names a movement that exists or
existed. -/
def Linked (desk : CashDesk) : Prop :=
  ∀ key entry pk, desk.books.content? key = some entry →
    entry.source = some (.financialTransaction pk) → pk < desk.payments.next

/-- The entries of a movement are reversed already or lie in open periods. -/
def Removable (desk : CashDesk) (pk : ℕ) : Prop :=
  ∀ key entry, desk.books.content? key = some entry →
    entry.source = some (.financialTransaction pk) →
    entry.status ≠ .reversed → isOpen desk.books entry = true

namespace Recorded

variable {pk : ℕ} {ft : FinancialTransaction} {before after : Books}

theorem periods (recorded : Recorded pk ft before after) :
    after.periods = before.periods := by
  cases recorded with
  | nothing grown => exact grown.periods
  | entry grown posted => exact posted.periods.trans grown.periods

theorem today (recorded : Recorded pk ft before after) :
    after.today = before.today := by
  cases recorded with
  | nothing grown => exact grown.today
  | entry grown posted => exact posted.today.trans grown.today

/-- Every entry was there before or is the movement's own, in an open
period. -/
theorem content? (recorded : Recorded pk ft before after) {key : ℕ}
    {entry : JournalEntry} (stored : after.content? key = some entry) :
    before.content? key = some entry ∨
      entry.source = some (.financialTransaction pk) ∧
        isOpen after entry = true := by
  cases recorded with
  | nothing grown => exact .inl (grown.content? key ▸ stored)
  | entry grown posted =>
      rw [posted.content?] at stored
      split at stored
      · rw [Option.some.injEq] at stored
        subst stored
        right
        refine ⟨posted.source, ?_⟩
        rw [isOpen_content, isOpen_congr posted.periods]
        exact posted.isOpen
      · exact .inl (grown.content? key ▸ stored)

end Recorded

namespace Created

variable {ft : FinancialTransaction} {before after : CashDesk}

theorem next (created : Created ft before after) :
    after.payments.next = before.payments.next + 1 := by
  rw [created.payments, Table.insert_next]

theorem linked (created : Created ft before after) (links : Linked before) :
    Linked after := by
  intro key entry pk stored sourced
  rw [created.next]
  rcases created.books.content? stored with old | ⟨own, -⟩
  · exact Nat.lt_succ_of_lt (links key entry pk old sourced)
  · rw [own, Option.some.injEq, Source.financialTransaction.injEq] at sourced
    exact sourced ▸ Nat.lt_succ_self _

theorem removable (created : Created ft before after) (links : Linked before) :
    Removable after before.payments.next := by
  intro key entry stored sourced _
  rcases created.books.content? stored with old | ⟨-, opened⟩
  · exact absurd (links key entry _ old sourced) (Nat.lt_irrefl _)
  · exact opened

theorem removable_old (created : Created ft before after) {pk : ℕ}
    (older : pk ≠ before.payments.next) (kept : Removable before pk) :
    Removable after pk := by
  intro key entry stored sourced active
  rcases created.books.content? stored with old | ⟨own, -⟩
  · rw [isOpen_congr created.books.periods]
    exact kept key entry old sourced active
  · rw [own, Option.some.injEq, Source.financialTransaction.injEq] at sourced
    exact absurd sourced.symm older

end Created

def ownedBy (pk : ℕ) (entry : JournalEntry) : Bool :=
  entry.source = some (.financialTransaction pk) ∧ entry.status ≠ .reversed

/-- The effect of deleting a movement whose entries can be taken out. -/
structure Removed (pk : ℕ) (ft : FinancialTransaction)
    (before after : CashDesk) : Prop where
  treasuries : after.treasuries =
    before.treasuries.modify ft.treasury fun stored =>
      { stored with balance := stored.balance + -ft.signed }
  payments : after.payments = before.payments.erase pk
  extraCosts : after.extraCosts = before.extraCosts
  failures : after.failures = before.failures
  chart : after.books.chart = before.books.chart
  periods : after.books.periods = before.books.periods
  today : after.books.today = before.books.today
  entries : ∀ key, after.books.content? key =
    ((before.books.content? key).filter fun entry => !ownedBy pk entry).map
      (unlink pk)

theorem mem_activeKeys_entriesOf {books : Books} {pk key : ℕ} :
    key ∈ activeKeys (entriesOf books (.financialTransaction pk)) ↔
      ∃ entry, books.content? key = some entry ∧ ownedBy pk entry := by
  simp only [activeKeys, entriesOf, List.mem_map, List.mem_filter, ownedBy,
    decide_eq_true_eq, Books.content?, Option.map_eq_some_iff]
  constructor
  · rintro ⟨⟨other, entry⟩, ⟨⟨member, sourced⟩, active⟩, rfl⟩
    exact ⟨entry.content, ⟨entry, Table.get?_eq_some.mpr member, rfl⟩,
      sourced, active⟩
  · rintro ⟨_, ⟨entry, found, rfl⟩, sourced, active⟩
    exact ⟨(key, entry), ⟨⟨Table.get?_eq_some.mp found, sourced⟩, active⟩,
      rfl⟩

private theorem content_unlink (pk : ℕ) (entry : JournalEntry) :
    (unlink pk entry).content = unlink pk entry.content := by
  unfold unlink JournalEntry.content
  split
  · rfl
  · rfl

theorem content?_unlinked (books : Books) (pk key : ℕ) :
    ({ books with entries := books.entries.map fun _ => unlink pk } :
      Books).content? key = (books.content? key).map (unlink pk) := by
  unfold Books.content?
  rw [Table.get?_map, Option.map_map, Option.map_map]
  congr 1
  funext entry
  exact content_unlink pk entry

theorem content?_unposted (books : Books) (pk key : ℕ) :
    (books.deleteEntries (activeKeys
        (entriesOf books (.financialTransaction pk)))).content? key =
      (books.content? key).filter fun entry => !ownedBy pk entry := by
  rw [content?_deleteEntries]
  by_cases active : key ∈ activeKeys
      (entriesOf books (.financialTransaction pk))
  · obtain ⟨entry, found, owned⟩ := mem_activeKeys_entriesOf.mp active
    rw [if_pos active, found, Option.filter_some]
    simp [owned]
  · rw [if_neg active]
    cases found : books.content? key with
    | none => rfl
    | some entry =>
        have free : ownedBy pk entry = false := by
          rw [← Bool.not_eq_true]
          exact fun owned => active
            (mem_activeKeys_entriesOf.mpr ⟨entry, found, owned⟩)
        rw [Option.filter_some, free]
        rfl

theorem deletePayment_ok {pk : ℕ} {ft : FinancialTransaction}
    {before : CashDesk} (stored : before.payments.get? pk = some ft)
    (removable : Removable before pk) :
    ∃ after, deletePayment pk before = .ok ⟨⟩ after ∧
      Removed pk ft before after := by
  have opened : ∀ row ∈ entriesOf before.books (.financialTransaction pk),
      row.2.status ≠ .reversed → isOpen before.books row.2 = true := by
    intro row member active
    simp only [entriesOf, List.mem_filter, decide_eq_true_eq] at member
    have found := content?_of_get? (Table.get?_eq_some.mpr member.1)
    rw [← isOpen_content]
    exact removable row.1 _ found member.2 active
  have unposted := unpost_open opened
  obtain ⟨chart, periods, today, -⟩ := deleteEntries_frame before.books
    (activeKeys (entriesOf before.books (.financialTransaction pk)))
  have deleted : deletePayment pk before = .ok ⟨⟩
      (((CashDesk.ledger.set (before.books.deleteEntries (activeKeys
          (entriesOf before.books (.financialTransaction pk)))) before).dropPayment
        pk).addBalance ft.treasury (-ft.signed)) := by
    unfold deletePayment
    rw [Txn.get_bind, stored]
    simp only
    rw [Txn.bind_eq_ok]
    refine ⟨_, _, Txn.zoom_eq_ok.mpr ⟨_, unposted, rfl⟩, ?_⟩
    rw [Txn.bind_eq_ok]
    exact ⟨⟨⟩, _, rfl, rfl⟩
  refine ⟨_, deleted, ?_⟩
  exact
    { treasuries := rfl
      payments := rfl
      extraCosts := rfl
      failures := rfl
      chart
      periods
      today
      entries := fun key => (content?_unlinked _ pk key).trans
        (congrArg _ (content?_unposted before.books pk key)) }

namespace Removed

variable {pk : ℕ} {ft : FinancialTransaction} {before after : CashDesk}

theorem next (removed : Removed pk ft before after) :
    after.payments.next = before.payments.next := by
  rw [removed.payments, Table.erase_next]

theorem content? (removed : Removed pk ft before after) {key : ℕ}
    {entry : JournalEntry} (stored : after.books.content? key = some entry) :
    ∃ old, before.books.content? key = some old ∧ entry = unlink pk old := by
  rw [removed.entries, Option.map_eq_some_iff] at stored
  obtain ⟨old, found, rfl⟩ := stored
  exact ⟨old, (Option.filter_eq_some_iff.mp found).1, rfl⟩

private theorem source_of_unlink {entry : JournalEntry} {source : Source}
    (sourced : (unlink pk entry).source = some source) :
    unlink pk entry = entry := by
  unfold unlink at sourced ⊢
  split
  · rename_i own
    rw [if_pos own] at sourced
    cases sourced
  · rfl

theorem linked (removed : Removed pk ft before after) (links : Linked before) :
    Linked after := by
  intro key entry other stored sourced
  obtain ⟨old, found, rfl⟩ := removed.content? stored
  rw [source_of_unlink sourced] at sourced
  rw [removed.next]
  exact links key old other found sourced

theorem removable (removed : Removed pk ft before after) {other : ℕ}
    (kept : Removable before other) : Removable after other := by
  intro key entry stored sourced active
  obtain ⟨old, found, rfl⟩ := removed.content? stored
  have same := source_of_unlink sourced
  rw [same] at sourced active ⊢
  rw [isOpen_congr removed.periods]
  exact kept key old found sourced active

end Removed

end Mousstec.Cash
