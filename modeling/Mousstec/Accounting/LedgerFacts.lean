import Mathlib.Tactic.Linarith
import Mousstec.Accounting.Ledger

/-!
# What the ledger operations do

Each operation of the ledger has one lemma for the runs that return and one
for the runs that raise.  Later modules cite these and never unfold the
operations.
-/

namespace Mousstec.Accounting

open Library

/-- The chart gains rows at the end and loses none. -/
def Chart.Extends (before after : Chart) : Prop :=
  before.rows <+: after.rows

namespace Chart

@[refl] theorem Extends.refl (chart : Chart) : chart.Extends chart :=
  List.prefix_refl _

theorem Extends.trans {first second third : Chart}
    (left : first.Extends second) (right : second.Extends third) :
    first.Extends third :=
  List.IsPrefix.trans left right

theorem Extends.codes {before after : Chart} (grown : before.Extends after)
    {code : Account} (listed : code ∈ before.codes) : code ∈ after.codes := by
  obtain ⟨row, member, rfl⟩ := List.mem_map.mp listed
  exact List.mem_map_of_mem (grown.subset member)

theorem getOrCreate_extends (chart : Chart) (code : Account)
    (accountType : AccountType) :
    chart.Extends (chart.getOrCreate code accountType) := by
  unfold getOrCreate
  split
  · exact .refl chart
  · exact List.prefix_append _ _

theorem mem_getOrCreate (chart : Chart) (code : Account)
    (accountType : AccountType) :
    code ∈ (chart.getOrCreate code accountType).codes := by
  unfold getOrCreate
  split
  · assumption
  · simp [codes]

end Chart

/-- An account whose balance is swept when a period closes. -/
def ChartOfAccount.IsPnl (row : ChartOfAccount) : Prop :=
  row.accountType = .revenue ∨ row.accountType = .expense

instance (row : ChartOfAccount) : Decidable row.IsPnl :=
  inferInstanceAs (Decidable (_ ∨ _))

/-- The two accounts a closing goes through are not swept themselves. -/
def Chart.Standard (chart : Chart) : Prop :=
  ∀ row ∈ chart.rows,
    row.code = AccountKey.incomeSummary.code ∨
      row.code = AccountKey.retainedEarnings.code → ¬ row.IsPnl

/-- The books differ by new accounts only. -/
structure ChartOnly (before after : Books) : Prop where
  chart : before.chart.Extends after.chart
  standard : before.chart.Standard → after.chart.Standard
  periods : after.periods = before.periods
  entries : after.entries = before.entries
  today : after.today = before.today

namespace ChartOnly

@[refl] theorem refl (books : Books) : ChartOnly books books :=
  ⟨.refl _, id, rfl, rfl, rfl⟩

theorem trans {first second third : Books}
    (left : ChartOnly first second) (right : ChartOnly second third) :
    ChartOnly first third where
  chart := left.chart.trans right.chart
  standard standard := right.standard (left.standard standard)
  periods := right.periods.trans left.periods
  entries := right.entries.trans left.entries
  today := right.today.trans left.today

end ChartOnly

/-- A type that keeps the chart standard when an account is created with it. -/
def AllowedType (code : Account) (accountType : AccountType) : Prop :=
  code = AccountKey.incomeSummary.code ∨
    code = AccountKey.retainedEarnings.code →
  ¬ (⟨code, accountType⟩ : ChartOfAccount).IsPnl

theorem allowedType_key (logical : AccountKey) :
    AllowedType logical.code (ACCOUNTS logical).2 := by
  unfold AllowedType
  cases logical <;> decide

theorem allowedType_asset (code : Account) : AllowedType code .asset := by
  intro _
  simp [ChartOfAccount.IsPnl]

theorem chartOnly_getOrCreate (before : Books) {code : Account}
    {accountType : AccountType} (allowed : AllowedType code accountType) :
    ChartOnly before
      { before with chart := before.chart.getOrCreate code accountType } where
  chart := Chart.getOrCreate_extends _ _ _
  standard standard := by
    intro row member
    unfold Chart.getOrCreate at member
    split at member
    · exact standard row member
    · rcases List.mem_append.mp member with old | new
      · exact standard row old
      · rw [List.mem_singleton] at new
        exact new ▸ allowed
  periods := rfl
  entries := rfl
  today := rfl

theorem getOrCreateAccount_ok {code : Account} {accountType : AccountType}
    (allowed : AllowedType code accountType) (before : Books) :
    ∃ after, getOrCreateAccount code accountType before = .ok code after ∧
      ChartOnly before after ∧ code ∈ after.chart.codes :=
  ⟨_, rfl, chartOnly_getOrCreate before allowed, Chart.mem_getOrCreate _ _ _⟩

theorem account_returns {ref : AccountRef} {result : Account}
    {before after : Books} (returned : account ref before = .ok result after) :
    result = ref.account ∧ ChartOnly before after ∧
      ref.account ∈ after.chart.codes := by
  cases ref with
  | key logical =>
      obtain ⟨_, done, grown, known⟩ :=
        getOrCreateAccount_ok (allowedType_key logical) before
      rw [account, done, EStateM.Result.ok.injEq] at returned
      obtain ⟨rfl, rfl⟩ := returned
      exact ⟨rfl, grown, known⟩
  | code raw =>
      obtain ⟨_, done, grown, known⟩ :=
        getOrCreateAccount_ok (allowedType_asset raw) before
      rw [account, done, EStateM.Result.ok.injEq] at returned
      obtain ⟨rfl, rfl⟩ := returned
      exact ⟨rfl, grown, known⟩
  | row stored =>
      simp only [account, Txn.bind_eq_ok, Txn.get_eq_ok, Txn.require_eq_ok,
        Txn.pure_eq_ok] at returned
      obtain ⟨_, _, ⟨rfl, rfl⟩, _, _, ⟨listed, rfl⟩, rfl, rfl⟩ := returned
      exact ⟨rfl, .refl _, listed⟩

theorem account_raises {ref : AccountRef} {raised : LedgerError}
    {before after : Books} (failed : account ref before = .error raised after) :
    after = before := by
  cases ref with
  | key logical =>
      obtain ⟨_, done, _⟩ :=
        getOrCreateAccount_ok (allowedType_key logical) before
      rw [account, done] at failed
      cases failed
  | code raw =>
      obtain ⟨_, done, _⟩ :=
        getOrCreateAccount_ok (allowedType_asset raw) before
      rw [account, done] at failed
      cases failed
  | row stored =>
      simp only [account, Txn.bind_eq_error, Txn.get_eq_error,
        Txn.get_eq_ok, Txn.require_eq_error, Txn.require_eq_ok,
        Txn.pure_eq_error, false_or] at failed
      obtain ⟨_, _, ⟨rfl, rfl⟩, ⟨_, _, rfl⟩ | ⟨_, _, _, impossible⟩⟩ := failed
      · rfl
      · exact impossible.elim

theorem mem_of_earliestPeriod {rows : List (ℕ × AccountingPeriod)}
    {row : ℕ × AccountingPeriod} (found : earliestPeriod rows = some row) :
    row ∈ rows := by
  induction rows generalizing row with
  | nil => cases found
  | cons first rest induction =>
      unfold earliestPeriod at found
      cases later : earliestPeriod rest with
      | none =>
          rw [later] at found
          obtain rfl := Option.some.inj found
          exact List.mem_cons_self
      | some other =>
          rw [later] at found
          simp only at found
          split at found
          · obtain rfl := Option.some.inj found
            exact List.mem_cons_of_mem _ (induction later)
          · obtain rfl := Option.some.inj found
            exact List.mem_cons_self

theorem earliestPeriod_eq_none {rows : List (ℕ × AccountingPeriod)} :
    earliestPeriod rows = none ↔ rows = [] := by
  cases rows with
  | nil => simp [earliestPeriod]
  | cons first rest =>
      unfold earliestPeriod
      cases earliestPeriod rest with
      | none => simp
      | some other =>
          simp only
          split
          · simp
          · simp

theorem forDate_covers {books : Books} {day : ℤ} {row : ℕ × AccountingPeriod}
    (found : forDate books day = some row) :
    books.periods.get? row.1 = some row.2 ∧ row.2.Covers day := by
  have member := mem_of_earliestPeriod found
  rw [List.mem_filter] at member
  exact ⟨Table.get?_eq_some.mpr member.1, by simpa using member.2⟩

theorem forDate_eq_none {books : Books} {day : ℤ} :
    forDate books day = none ↔
      ∀ pk period, books.periods.get? pk = some period →
        ¬ period.Covers day := by
  unfold forDate
  rw [earliestPeriod_eq_none, List.filter_eq_nil_iff]
  constructor
  · intro uncovered pk period stored
    simpa using uncovered (pk, period) (Table.get?_eq_some.mp stored)
  · intro uncovered row member
    simpa using uncovered row.1 row.2 (Table.get?_eq_some.mpr member)

theorem forDate_congr {left right : Books} (same : left.periods = right.periods)
    (day : ℤ) : forDate left day = forDate right day := by
  unfold forDate
  rw [same]

theorem periodOf_congr {left right : Books} (same : left.periods = right.periods)
    (entry : JournalEntry) : periodOf left entry = periodOf right entry := by
  unfold periodOf
  rw [same, forDate_congr same]

theorem isOpen_congr {left right : Books} (same : left.periods = right.periods)
    (entry : JournalEntry) : isOpen left entry = isOpen right entry := by
  unfold isOpen
  rw [periodOf_congr same]

theorem resolvePeriod_returns {day : ℤ} {result : Option ℕ}
    {before after : Books} (returned : resolvePeriod day before = .ok result after) :
    after = before ∧ result = (forDate before day).map Prod.fst ∧
      isOpenPeriod ((forDate before day).map Prod.snd) = true := by
  simp only [resolvePeriod, Txn.bind_eq_ok, Txn.get_eq_ok] at returned
  obtain ⟨_, _, ⟨rfl, rfl⟩, resolved⟩ := returned
  cases found : forDate before day with
  | none =>
      simp only [found, Txn.pure_eq_ok] at resolved
      obtain ⟨rfl, rfl⟩ := resolved
      simp [isOpenPeriod]
  | some row =>
      simp only [found, Txn.bind_eq_ok, Txn.require_eq_ok,
        Txn.pure_eq_ok] at resolved
      obtain ⟨_, _, ⟨notClosed, rfl⟩, rfl, rfl⟩ := resolved
      simp [isOpenPeriod, notClosed]

theorem resolvePeriod_raises {day : ℤ} {raised : LedgerError}
    {before after : Books}
    (failed : resolvePeriod day before = .error raised after) :
    after = before := by
  simp only [resolvePeriod, Txn.bind_eq_error, Txn.get_eq_error,
    Txn.get_eq_ok, false_or] at failed
  obtain ⟨_, _, ⟨rfl, rfl⟩, refused⟩ := failed
  cases found : forDate before day with
  | none => simp [found] at refused
  | some row =>
      simp only [found, Txn.bind_eq_error, Txn.require_eq_error,
        Txn.require_eq_ok, Txn.pure_eq_error] at refused
      rcases refused with ⟨_, _, rfl⟩ | ⟨_, _, _, impossible⟩
      · rfl
      · exact impossible.elim

def JournalLine.posting? (line : JournalLine) : Option (Posting Account) :=
  if q line.debit = 0 ∧ q line.credit = 0 then none
  else some ⟨line.account.account, q line.debit, q line.credit⟩

def postings (lines : List JournalLine) : List (Posting Account) :=
  lines.filterMap JournalLine.posting?

def SingleSided (line : Posting Account) : Prop :=
  ¬ (0 < line.debit ∧ 0 < line.credit) ∧
    ¬ (line.debit = 0 ∧ line.credit = 0)

theorem normalise_returns {lines : List JournalLine}
    {norm : List (Posting Account)} {before after : Books}
    (returned : normalise lines before = .ok norm after) :
    norm = postings lines ∧ ChartOnly before after ∧
      ∀ line ∈ norm, SingleSided line ∧ line.account ∈ after.chart.codes := by
  induction lines generalizing before norm with
  | nil =>
      simp only [normalise, Txn.pure_eq_ok] at returned
      obtain ⟨rfl, rfl⟩ := returned
      exact ⟨rfl, .refl _, by simp⟩
  | cons line rest induction =>
      by_cases blank : q line.debit = 0 ∧ q line.credit = 0
      · simp only [normalise, blank, and_self, if_true] at returned
        obtain ⟨same, kept, sound⟩ := induction returned
        refine ⟨?_, kept, sound⟩
        rw [same]
        simp [postings, JournalLine.posting?, blank]
      · simp only [normalise, blank, if_false, Txn.bind_eq_ok,
          Txn.require_eq_ok, Txn.pure_eq_ok] at returned
        obtain ⟨_, _, ⟨oneSide, rfl⟩, acct, middle, resolved, later, final,
          normalised, rfl, rfl⟩ := returned
        obtain ⟨rfl, first, known⟩ := account_returns resolved
        obtain ⟨same, kept, sound⟩ := induction normalised
        refine ⟨?_, first.trans kept, ?_⟩
        · rw [same]
          simp [postings, JournalLine.posting?, blank]
        · intro posting member
          rcases List.mem_cons.mp member with rfl | old
          · exact ⟨⟨oneSide, blank⟩, kept.chart.codes known⟩
          · exact sound posting old

def AccountRef.IsRow : AccountRef → Prop
  | .row _ => True
  | _ => False

theorem normalise_rows {lines : List JournalLine}
    {norm : List (Posting Account)} {before after : Books}
    (rows : ∀ line ∈ lines, line.account.IsRow)
    (returned : normalise lines before = .ok norm after) : after = before := by
  induction lines generalizing before norm with
  | nil => exact (Txn.pure_eq_ok.mp returned).2.symm
  | cons line rest induction =>
      have first := rows line List.mem_cons_self
      have others := fun other member =>
        rows other (List.mem_cons_of_mem line member)
      by_cases blank : q line.debit = 0 ∧ q line.credit = 0
      · simp only [normalise, blank, and_self, if_true] at returned
        exact induction others returned
      · simp only [normalise, blank, if_false, Txn.bind_eq_ok,
          Txn.require_eq_ok, Txn.pure_eq_ok] at returned
        obtain ⟨_, _, ⟨_, rfl⟩, _, middle, resolved, _, _, normalised, _,
          rfl⟩ := returned
        have unchanged : middle = before := by
          cases named : line.account with
          | key logical => simp [named, AccountRef.IsRow] at first
          | code raw => simp [named, AccountRef.IsRow] at first
          | row stored =>
              simp only [named, account, Txn.bind_eq_ok, Txn.get_eq_ok,
                Txn.require_eq_ok, Txn.pure_eq_ok] at resolved
              obtain ⟨_, _, ⟨rfl, rfl⟩, _, _, ⟨_, rfl⟩, _, rfl⟩ := resolved
              rfl
        rw [induction others normalised, unchanged]

theorem account_error {ref : AccountRef} {raised : LedgerError}
    {before after : Books}
    (failed : account ref before = .error raised after) :
    ∃ code, raised = .missingAccount code := by
  cases ref with
  | key logical =>
      simp only [account, getOrCreateAccount, Txn.bind_eq_error,
        Txn.modify_eq_error, Txn.pure_eq_error, and_false, exists_false,
        or_self] at failed
  | code raw =>
      simp only [account, getOrCreateAccount, Txn.bind_eq_error,
        Txn.modify_eq_error, Txn.pure_eq_error, and_false, exists_false,
        or_self] at failed
  | row stored =>
      simp only [account, Txn.get_bind, Txn.bind_eq_error, Txn.require_eq_error,
        Txn.pure_eq_error, and_false, exists_false, or_false] at failed
      exact ⟨stored, failed.2.1.symm⟩

theorem normalise_raises {lines : List JournalLine} {raised : LedgerError}
    {before after : Books}
    (failed : normalise lines before = .error raised after) :
    ChartOnly before after ∧
      (raised = .bothSides ∨ ∃ code, raised = .missingAccount code) := by
  induction lines generalizing before with
  | nil => simp [normalise] at failed
  | cons line rest induction =>
      by_cases blank : q line.debit = 0 ∧ q line.credit = 0
      · simp only [normalise, blank, and_self, if_true] at failed
        exact induction failed
      · simp only [normalise, blank, if_false, Txn.bind_eq_error,
          Txn.require_eq_error, Txn.require_eq_ok, Txn.pure_eq_error] at failed
        rcases failed with ⟨_, both, rfl⟩ | ⟨_, _, ⟨_, rfl⟩, failed⟩
        · exact ⟨.refl _, .inl both.symm⟩
        · rcases failed with unresolved | ⟨acct, middle, resolved, failed⟩
          · rw [account_raises unresolved]
            exact ⟨.refl _, .inr (account_error unresolved)⟩
          · have first := (account_returns resolved).2.1
            rcases failed with later | ⟨_, _, _, impossible⟩
            · obtain ⟨grown, named⟩ := induction later
              exact ⟨first.trans grown, named⟩
            · exact impossible.elim

/-- The effect of posting a draft: one new entry, in an open period, that
balances and moves an amount. -/
structure Posted (draft : JournalDraft) (before after : Books)
    (entry : JournalEntry) : Prop where
  chart : before.chart.Extends after.chart
  standard : before.chart.Standard → after.chart.Standard
  rows : (∀ line ∈ draft.lines, line.account.IsRow) →
    after.chart = before.chart
  periods : after.periods = before.periods
  today : after.today = before.today
  entries : after.entries = before.entries.insert entry
  date : entry.date = draft.date.getD before.today
  journalType : entry.journalType = draft.journalType
  reference : entry.reference = draft.reference
  status : entry.status = draft.status
  source : entry.source = draft.source
  reversalOf : entry.reversalOf = none
  lines : entry.lines = postings draft.lines
  balanced : totalDebit entry.lines = totalCredit entry.lines
  moves : totalDebit entry.lines ≠ 0
  known : ∀ line ∈ entry.lines,
    SingleSided line ∧ line.account ∈ after.chart.codes
  linked : entry.period = (forDate before entry.date).map Prod.fst
  unlocked : isOpenPeriod ((forDate before entry.date).map Prod.snd) = true

private theorem forM_clean_returns {lines : List (Posting Account)}
    {before after : Books} {result : PUnit}
    (returned : forM lines clean before = .ok result after) :
    after = before := by
  refine Txn.forM_invariant (fun books => books = before) ?_ rfl returned
  intro line _ first second same checked
  simp only [clean, Txn.bind_eq_ok, Txn.require_eq_ok] at checked
  obtain ⟨_, _, ⟨_, rfl⟩, _, rfl⟩ := checked
  exact same

theorem postJournal_returns {draft : JournalDraft} {result : Option ℕ}
    {before after : Books}
    (returned : postJournal draft before = .ok result after) :
    (result = none ∧ postings draft.lines = [] ∧ ChartOnly before after) ∨
      ∃ entry, result = some before.entries.next ∧
        Posted draft before after entry := by
  simp only [postJournal, Txn.bind_eq_ok, Txn.get_eq_ok] at returned
  obtain ⟨_, _, ⟨rfl, rfl⟩, norm, middle, normalised, returned⟩ := returned
  obtain ⟨normEq, grown, sound⟩ := normalise_returns normalised
  by_cases nothing : norm = []
  · simp only [nothing, if_true, Txn.pure_eq_ok] at returned
    obtain ⟨rfl, rfl⟩ := returned
    exact .inl ⟨rfl, normEq ▸ nothing, grown⟩
  · simp only [nothing, if_false, Txn.bind_eq_ok, Txn.require_eq_ok,
      Txn.atomic_eq_ok, Txn.get_eq_ok, Txn.set_eq_ok, Txn.pure_eq_ok,
      assertBalanced] at returned
    obtain ⟨_, _, ⟨balanced, rfl⟩, period, _, resolved, _, _, ⟨rfl, rfl⟩, _, _,
      rfl, _, _, cleaned, _, _, ⟨_, _, ⟨_, rfl⟩, moves, rfl⟩, rfl, rfl⟩ := returned
    obtain ⟨rfl, periodEq, unlocked⟩ := resolvePeriod_returns resolved
    have same := forM_clean_returns cleaned
    subst same
    right
    refine ⟨draft.entry (draft.date.getD before.today) period norm,
      congrArg (fun entries => some entries.next) grown.entries, ?_⟩
    exact
      { chart := grown.chart
        standard := grown.standard
        rows := by
          intro rows
          rw [← normalise_rows rows normalised]
        periods := grown.periods
        today := grown.today
        entries := by rw [← grown.entries]
        date := rfl
        journalType := rfl
        reference := rfl
        status := rfl
        source := rfl
        reversalOf := rfl
        lines := normEq
        balanced
        moves
        known := sound
        linked := periodEq.trans
          (congrArg (Option.map Prod.fst) (forDate_congr grown.periods _))
        unlocked := by
          rw [← forDate_congr grown.periods]
          exact unlocked }

theorem postJournal_raises {draft : JournalDraft} {raised : LedgerError}
    {before after : Books}
    (failed : postJournal draft before = .error raised after) :
    ChartOnly before after := by
  simp only [postJournal, Txn.bind_eq_error, Txn.get_eq_error,
    Txn.get_eq_ok, false_or] at failed
  obtain ⟨_, _, ⟨rfl, rfl⟩, failed⟩ := failed
  rcases failed with refused | ⟨norm, middle, normalised, failed⟩
  · exact (normalise_raises refused).1
  · obtain ⟨-, grown, -⟩ := normalise_returns normalised
    by_cases nothing : norm = []
    · simp [nothing] at failed
    · simp only [nothing, if_false, Txn.bind_eq_error, Txn.require_eq_error,
        Txn.require_eq_ok, Txn.atomic_eq_error] at failed
      rcases failed with ⟨_, _, rfl⟩ | ⟨_, _, ⟨_, rfl⟩, failed⟩
      · exact grown
      · rcases failed with refused | ⟨period, last, resolved, rfl, _⟩
        · rw [resolvePeriod_raises refused]
          exact grown
        · rw [(resolvePeriod_returns resolved).1]
          exact grown

theorem Posted.isOpen {draft : JournalDraft} {before after : Books}
    {entry : JournalEntry} (posted : Posted draft before after entry) :
    isOpen before entry = true := by
  have unlocked := posted.unlocked
  unfold Accounting.isOpen periodOf
  rw [posted.linked]
  cases found : forDate before entry.date with
  | none => rfl
  | some row =>
      rw [found] at unlocked
      simpa [(forDate_covers found).1] using unlocked

theorem net_postings (lines : List JournalLine) (acct : Account) :
    net (postings lines) acct =
      (lines.map fun line =>
        if line.account.account = acct then q line.debit - q line.credit
        else 0).sum := by
  induction lines with
  | nil => rfl
  | cons line rest induction =>
      unfold postings at induction ⊢
      by_cases blank : q line.debit = 0 ∧ q line.credit = 0
      · simp [JournalLine.posting?, blank, induction]
      · simp [JournalLine.posting?, blank, induction, Posting.signed]

def signedTotal (lines : List JournalLine) : ℤ :=
  (lines.map fun line => q line.debit - q line.credit).sum

theorem totalDebit_sub_totalCredit_postings (lines : List JournalLine) :
    totalDebit (postings lines) - totalCredit (postings lines) =
      signedTotal lines := by
  rw [totalDebit_sub_totalCredit]
  induction lines with
  | nil => rfl
  | cons line rest induction =>
      unfold postings signedTotal at induction ⊢
      by_cases blank : q line.debit = 0 ∧ q line.credit = 0
      · simp [JournalLine.posting?, blank, induction]
      · simp [JournalLine.posting?, blank, induction, Posting.signed]

theorem signedTotal_append (left right : List JournalLine) :
    signedTotal (left ++ right) = signedTotal left + signedTotal right := by
  simp [signedTotal]

theorem resolvePeriod_error {day : ℤ} {raised : LedgerError}
    {before after : Books}
    (failed : resolvePeriod day before = .error raised after) :
    ∃ name, raised = .closedPeriod name := by
  simp only [resolvePeriod, Txn.get_bind] at failed
  cases found : forDate before day with
  | none => simp [found] at failed
  | some row =>
      simp only [found, Txn.bind_eq_error, Txn.require_eq_error,
        Txn.pure_eq_error, and_false, exists_false, or_false] at failed
      exact ⟨row.2.name, failed.2.1.symm⟩

theorem clean_error {lines : List (Posting Account)} {raised : LedgerError}
    {before after : Books} (failed : forM lines clean before =
      .error raised after) : raised = .lineBothSides ∨ raised = .lineEmpty := by
  induction lines generalizing before with
  | nil => cases failed
  | cons line rest induction =>
      rw [List.forM_cons, Txn.bind_eq_error] at failed
      rcases failed with refused | ⟨_, _, _, later⟩
      · simp only [clean, Txn.bind_eq_error, Txn.require_eq_error,
          Txn.require_eq_ok] at refused
        rcases refused with ⟨-, rfl, -⟩ | ⟨_, _, -, -, rfl, -⟩
        · exact .inl rfl
        · exact .inr rfl
      · exact induction later

/-- A draft whose lines balance is never refused as unbalanced. -/
theorem postJournal_balanced {draft : JournalDraft}
    (flat : totalDebit (postings draft.lines) =
      totalCredit (postings draft.lines)) {debit credit : ℤ}
    {before after : Books} :
    postJournal draft before ≠ .error (.unbalanced debit credit) after := by
  intro failed
  simp only [postJournal, Txn.get_bind, Txn.bind_eq_error] at failed
  rcases failed with refused | ⟨norm, middle, normalised, failed⟩
  · rcases (normalise_raises refused).2 with same | ⟨code, same⟩
    · cases same
    · cases same
  · obtain ⟨rfl, -, -⟩ := normalise_returns normalised
    split at failed
    · simp at failed
    · simp only [Txn.bind_eq_error, Txn.require_eq_error, Txn.require_eq_ok,
        Txn.atomic_eq_error] at failed
      rcases failed with ⟨uneven, -⟩ | ⟨_, _, -, failed⟩
      · exact uneven flat
      · rcases failed with refused | ⟨_, last, -, -, final, failed⟩
        · obtain ⟨name, same⟩ := resolvePeriod_error refused
          cases same
        · simp only [Txn.get_eq_error, Txn.set_eq_error, Txn.pure_eq_error,
            and_false, exists_false, or_false, false_or] at failed
          obtain ⟨_, _, -, _, _, -, failed⟩ := failed
          rcases failed with refused | ⟨_, _, -, refused⟩
          · rcases clean_error refused with same | same
            · cases same
            · cases same
          · simp only [assertBalanced, Txn.bind_eq_error, Txn.require_eq_error,
              Txn.require_eq_ok] at refused
            rcases refused with ⟨-, same, -⟩ | ⟨_, _, -, -, same, -⟩
            · cases same
            · cases same

theorem net_postings_ofPosting (lines : List (Posting Account))
    (acct : Account) :
    net (postings (lines.map JournalLine.ofPosting)) acct = net lines acct := by
  rw [net_postings]
  induction lines with
  | nil => rfl
  | cons line rest induction =>
      simp only [List.map_cons, List.sum_cons, induction, net_cons,
        JournalLine.ofPosting, AccountRef.account_row, q_intCast,
        Posting.signed]

def Books.netOf (books : Books) (select : ℕ → JournalEntry → Bool)
    (acct : Account) : ℤ :=
  books.entries.total fun pk entry =>
    if select pk entry then net entry.lines acct else 0

def Books.balance (books : Books) (acct : Account) : ℤ :=
  books.netOf (fun _ _ => true) acct

theorem ChartOnly.netOf {before after : Books} (grown : ChartOnly before after)
    (select : ℕ → JournalEntry → Bool) (acct : Account) :
    after.netOf select acct = before.netOf select acct := by
  unfold Books.netOf
  rw [grown.entries]

theorem Posted.netOf {draft : JournalDraft} {before after : Books}
    {entry : JournalEntry} (posted : Posted draft before after entry)
    (select : ℕ → JournalEntry → Bool) (acct : Account) :
    after.netOf select acct = before.netOf select acct +
      if select before.entries.next entry then net (postings draft.lines) acct
      else 0 := by
  unfold Books.netOf
  rw [posted.entries, Table.total_insert, posted.lines]

/-- A test on entries that does not read the link to a reversed entry. -/
def IgnoresLink (select : ℕ → JournalEntry → Bool) : Prop :=
  ∀ pk entry link, select pk { entry with reversalOf := link } = select pk entry

theorem get?_deleteEntry (books : Books) (pk key : ℕ) :
    (books.deleteEntry pk).entries.get? key =
      if key = pk then none
      else (books.entries.get? key).map fun stored =>
        if stored.reversalOf = some pk then { stored with reversalOf := none }
        else stored := by
  unfold Books.deleteEntry
  rw [Table.get?_map, Table.get?_erase]
  split
  · rfl
  · rfl

/-- An entry without the links other documents keep on it: everything that is
posted, and when. -/
def JournalEntry.content (entry : JournalEntry) : JournalEntry :=
  { entry with reversalOf := none, printBranch := none }

def Books.content? (books : Books) (pk : ℕ) : Option JournalEntry :=
  (books.entries.get? pk).map JournalEntry.content

theorem isOpen_content (books : Books) (entry : JournalEntry) :
    isOpen books entry.content = isOpen books entry := rfl

theorem content_reference {left right : JournalEntry}
    (same : left.content = right.content) : left.reference = right.reference := by
  have fields : left.content.reference = right.content.reference :=
    congrArg JournalEntry.reference same
  exact fields

theorem content?_of_get? {books : Books} {pk : ℕ} {entry : JournalEntry}
    (stored : books.entries.get? pk = some entry) :
    books.content? pk = some entry.content := by
  rw [Books.content?, stored, Option.map_some]

/-- Sums that read contents only agree on books with the same contents. -/
theorem netOf_eq_of_content {left right : Books}
    {select : ℕ → JournalEntry → Bool}
    (reads : ∀ pk entry, select pk entry.content = select pk entry)
    (same : ∀ pk, (left.content? pk).filter (select pk) =
      (right.content? pk).filter (select pk)) (acct : Account) :
    left.netOf select acct = right.netOf select acct := by
  have contents : ∀ books : Books, books.netOf select acct =
      (books.entries.map fun _ entry => entry.content).total fun pk entry =>
        if select pk entry then net entry.lines acct else 0 := by
    intro books
    unfold Books.netOf
    rw [Table.total_map]
    apply Table.total_congr
    intro pk entry _
    rw [reads]
    rfl
  rw [contents, contents]
  apply Table.total_eq_of_filter
  intro pk
  rw [Table.get?_map, Table.get?_map]
  exact same pk

def Books.deleteEntries (books : Books) (pks : List ℕ) : Books :=
  pks.foldl Books.deleteEntry books

@[simp] theorem deleteEntry_periods (books : Books) (pk : ℕ) :
    (books.deleteEntry pk).periods = books.periods := rfl

theorem content?_deleteEntry (books : Books) (pk key : ℕ) :
    (books.deleteEntry pk).content? key =
      if key = pk then none else books.content? key := by
  unfold Books.content?
  rw [get?_deleteEntry]
  split
  · rfl
  · rw [Option.map_map]
    congr 1
    funext entry
    simp only [Function.comp_apply]
    split
    · rfl
    · rfl

theorem deleteEntries_frame (books : Books) (pks : List ℕ) :
    (books.deleteEntries pks).chart = books.chart ∧
      (books.deleteEntries pks).periods = books.periods ∧
      (books.deleteEntries pks).today = books.today ∧
      (books.deleteEntries pks).entries.next = books.entries.next := by
  induction pks generalizing books with
  | nil => exact ⟨rfl, rfl, rfl, rfl⟩
  | cons pk pks induction => exact induction (books.deleteEntry pk)

theorem content?_deleteEntries (books : Books) (pks : List ℕ) (key : ℕ) :
    (books.deleteEntries pks).content? key =
      if key ∈ pks then none else books.content? key := by
  induction pks generalizing books with
  | nil => simp [Books.deleteEntries]
  | cons pk pks induction =>
      change ((books.deleteEntry pk).deleteEntries pks).content? key = _
      rw [induction, content?_deleteEntry]
      by_cases first : key = pk
      · simp [first]
      · simp [first]

theorem Posted.content? {draft : JournalDraft} {before after : Books}
    {entry : JournalEntry} (posted : Posted draft before after entry)
    (key : ℕ) :
    after.content? key =
      if key = before.entries.next then some entry.content
      else before.content? key := by
  unfold Books.content?
  rw [posted.entries, Table.get?_insert]
  split
  · rfl
  · rfl

theorem ChartOnly.content? {before after : Books}
    (grown : ChartOnly before after) (key : ℕ) :
    after.content? key = before.content? key := by
  unfold Books.content?
  rw [grown.entries]

/-- The draft `reverse_journal` posts for an entry. -/
def mirrorDraft (entry : JournalEntry) (date : Option ℤ) : JournalDraft where
  lines := mirrorLines entry.lines
  date
  journalType := entry.journalType
  reference := entry.reference

def Books.modifyEntry (books : Books) (pk : ℕ)
    (change : JournalEntry → JournalEntry) : Books :=
  { books with entries := books.entries.modify pk change }

def Books.markReversed (books : Books) (mirror pk : ℕ) : Books :=
  (books.modifyEntry mirror fun stored =>
      { stored with reversalOf := some pk }).modifyEntry pk fun stored =>
    { stored with status := .reversed }

/-- A reversal that returns finds the entry reversed, finds no amount to
mirror, or posts one mirror entry. -/
theorem reverseJournal_returns {pk : ℕ} {entry : JournalEntry}
    {date : Option ℤ} {result : Option ℕ} {before after : Books}
    (returned : reverseJournal pk entry date before = .ok result after) :
    (entry.status = .reversed ∧ result = none ∧ after = before) ∨
      (entry.status ≠ .reversed ∧ result = none ∧
        postings (mirrorLines entry.lines) = [] ∧ ChartOnly before after) ∨
      entry.status ≠ .reversed ∧ ∃ mirror middle,
        result = some before.entries.next ∧
          Posted (mirrorDraft entry date) before middle mirror ∧
          after = middle.markReversed before.entries.next pk := by
  unfold reverseJournal at returned
  by_cases already : entry.status = .reversed
  · simp only [already, if_true, Txn.pure_eq_ok] at returned
    obtain ⟨rfl, rfl⟩ := returned
    exact .inl ⟨already, rfl, rfl⟩
  · simp only [already, if_false, Txn.bind_eq_ok] at returned
    obtain ⟨rev, middle, posting, returned⟩ := returned
    right
    rcases postJournal_returns posting with
      ⟨rfl, nothing, grown⟩ | ⟨mirror, rfl, posted⟩
    · simp only [Txn.pure_eq_ok] at returned
      obtain ⟨rfl, rfl⟩ := returned
      exact .inl ⟨already, rfl, nothing, grown⟩
    · simp only [Txn.bind_eq_ok, Txn.modify_eq_ok, Txn.pure_eq_ok] at returned
      obtain ⟨_, _, rfl, rfl, rfl⟩ := returned
      exact .inr ⟨already, mirror, middle, rfl, posted, rfl⟩

theorem reverseJournal_raises {pk : ℕ} {entry : JournalEntry}
    {date : Option ℤ} {raised : LedgerError} {before after : Books}
    (failed : reverseJournal pk entry date before = .error raised after) :
    ChartOnly before after := by
  unfold reverseJournal at failed
  by_cases already : entry.status = .reversed
  · simp [already] at failed
  · simp only [already, if_false, Txn.bind_eq_error] at failed
    rcases failed with refused | ⟨rev, middle, posting, failed⟩
    · exact postJournal_raises refused
    · cases rev with
      | none => simp at failed
      | some mirror =>
          simp only [Txn.bind_eq_error, Txn.modify_eq_error,
            Txn.pure_eq_error, and_false, exists_false, or_self] at failed

def activeKeys (rows : List (ℕ × JournalEntry)) : List ℕ :=
  (rows.filter fun row => row.2.status ≠ .reversed).map Prod.fst

theorem unpost_open {rows : List (ℕ × JournalEntry)} {before : Books}
    (opened : ∀ row ∈ rows, row.2.status ≠ .reversed →
      isOpen before row.2 = true) :
    unpost rows before = .ok ((activeKeys rows).length, 0)
      (before.deleteEntries (activeKeys rows)) := by
  induction rows generalizing before with
  | nil => rfl
  | cons row rest induction =>
      obtain ⟨pk, entry⟩ := row
      by_cases already : entry.status = .reversed
      · have skipped : activeKeys ((pk, entry) :: rest) = activeKeys rest := by
          simp [activeKeys, already]
        rw [skipped, unpost, if_pos already]
        exact induction fun row member => opened row (.tail _ member)
      · have kept : activeKeys ((pk, entry) :: rest) =
            pk :: activeKeys rest := by
          simp [activeKeys, already]
        have first := opened (pk, entry) (.head _) already
        have others := @induction (before.deleteEntry pk) (by
          intro row member active
          rw [isOpen_congr (deleteEntry_periods before pk)]
          exact opened row (.tail _ member) active)
        rw [kept, unpost, if_neg already, Txn.bind_eq_ok]
        refine ⟨before, before, rfl, ?_⟩
        rw [if_pos first, Txn.bind_eq_ok]
        refine ⟨⟨⟩, before.deleteEntry pk, rfl, ?_⟩
        rw [Txn.bind_eq_ok]
        exact ⟨_, _, others, rfl⟩

end Mousstec.Accounting
