import Mousstec.Accounting.LedgerFacts

/-!
# Closing and re-opening a period

Closing sweeps every revenue and expense account of a period into income
summary, moves the result on to retained earnings and locks the period.
Re-opening removes the two closing entries and unlocks it.
-/

namespace Mousstec.Accounting

open Library

def periodNet (books : Books) (period : AccountingPeriod) (acct : Account) : ℤ :=
  books.netOf (fun _ entry => period.Covers entry.date) acct

def pnlBalance (books : Books) (period : AccountingPeriod)
    (row : ChartOfAccount) : ℤ :=
  match row.accountType with
  | .revenue => -periodNet books period row.code
  | .expense => periodNet books period row.code
  | _ => 0

def closingLine (books : Books) (period : AccountingPeriod)
    (row : ChartOfAccount) : Option (Posting Account) :=
  let bal := pnlBalance books period row
  if bal = 0 then none
  else
    match row.accountType with
    | .revenue =>
        some ⟨row.code, if 0 < bal then bal else 0, if bal < 0 then -bal else 0⟩
    | .expense =>
        some ⟨row.code, if bal < 0 then -bal else 0, if 0 < bal then bal else 0⟩
    | _ => none

def closingLines (books : Books) (period : AccountingPeriod) :
    List (Posting Account) :=
  books.chart.rows.filterMap (closingLine books period)

def netIncome (books : Books) (period : AccountingPeriod) : ℤ :=
  (books.chart.rows.map fun row =>
    match row.accountType with
    | .revenue => pnlBalance books period row
    | .expense => -pnlBalance books period row
    | _ => 0).sum

def summaryLines (incomeSummary : Account) (income : ℤ) :
    List (Posting Account) :=
  if 0 < income then [⟨incomeSummary, 0, income⟩]
  else if income < 0 then [⟨incomeSummary, -income, 0⟩]
  else []

def transferLines (incomeSummary retained : Account) (income : ℤ) :
    List (Posting Account) :=
  if 0 < income then [⟨incomeSummary, income, 0⟩, ⟨retained, 0, income⟩]
  else [⟨retained, -income, 0⟩, ⟨incomeSummary, 0, -income⟩]

def closingDraft (period : AccountingPeriod) (reference : Reference)
    (lines : List (Posting Account)) : JournalDraft where
  lines := lines.map JournalLine.ofPosting
  date := some period.endDate
  journalType := .closing
  reference

def Books.setClosed (books : Books) (pk : ℕ) (closed : Bool) : Books :=
  { books with
    periods := books.periods.modify pk fun period =>
      { period with isClosed := closed } }

def rollIncome (pk : ℕ) (period : AccountingPeriod)
    (incomeSummary retained : Account) (income : ℤ) : LedgerTxn PUnit :=
  if income = 0 then pure ⟨⟩
  else do
    let _ ← postJournal (closingDraft period (.closingTransfer pk)
      (transferLines incomeSummary retained income))
    pure ⟨⟩

/-- `close_period`. -/
def closePeriod (pk : ℕ) (period : AccountingPeriod) :
    LedgerTxn (Option ℕ) := do
  Txn.require (period.isClosed = false) .alreadyClosed
  let incomeSummary ← account (.key .incomeSummary)
  let retained ← account (.key .retainedEarnings)
  let books ← get
  let lines := closingLines books period
  let income := netIncome books period
  if lines = [] then do
    -- Nothing to close, but the period is locked all the same.
    modify fun books => books.setClosed pk true
    pure none
  else
    Txn.atomic do
      let je ← postJournal (closingDraft period (.closing pk)
        (lines ++ summaryLines incomeSummary income))
      rollIncome pk period incomeSummary retained income
      modify fun books => books.setClosed pk true
      pure je

def closingEntries (books : Books) (accepts : JournalType → Bool) (pk : ℕ) :
    List ℕ :=
  (books.entries.rows.filter fun row =>
    (row.2.reference = .closing pk ∨ row.2.reference = .closingTransfer pk) ∧
      accepts row.2.journalType = true).map Prod.fst

def laterClosed (books : Books) (period : AccountingPeriod) : Bool :=
  books.periods.rows.any fun row =>
    period.endDate < row.2.startDate ∧ row.2.isClosed = true

/-- The re-opening of the two accounting screens, which differ in the entry
types they remove; says whether the period was re-opened. -/
def reopenWith (accepts : JournalType → Bool) (pk : ℕ)
    (period : AccountingPeriod) : LedgerTxn Bool := do
  let books ← get
  if period.isClosed = false ∨ laterClosed books period = true then pure false
  else do
    set ((books.deleteEntries (closingEntries books accepts pk)).setClosed pk
      false)
    pure true

def reopenPeriod : ℕ → AccountingPeriod → LedgerTxn Bool :=
  reopenWith fun journalType => journalType = .closing

def reopenPrintingPeriod : ℕ → AccountingPeriod → LedgerTxn Bool :=
  reopenWith fun _ => true

def Chart.pnlCodes (chart : Chart) : List Account :=
  (chart.rows.filter fun row => row.IsPnl).map ChartOfAccount.code

theorem Chart.pnlCodes_nodup (chart : Chart) : chart.pnlCodes.Nodup :=
  chart.unique.sublist (List.filter_sublist.map _)

theorem Chart.mem_pnlCodes {chart : Chart} {code : Account} :
    code ∈ chart.pnlCodes ↔ ∃ row ∈ chart.rows, row.IsPnl ∧ row.code = code := by
  simp [pnlCodes, and_assoc]

theorem closingLine_eq (books : Books) (period : AccountingPeriod)
    (row : ChartOfAccount) :
    closingLine books period row =
      if row.IsPnl ∧ periodNet books period row.code ≠ 0 then
        some (.ofSigned row.code (-periodNet books period row.code))
      else none := by
  obtain ⟨code, accountType⟩ := row
  cases accountType with
  | revenue =>
      by_cases flat : periodNet books period code = 0
      · simp [closingLine, pnlBalance, flat]
      · have swept : (⟨code, .revenue⟩ : ChartOfAccount).IsPnl := .inl rfl
        rw [if_pos ⟨swept, flat⟩]
        exact if_neg fun zero : -periodNet books period code = 0 =>
          flat (neg_eq_zero.mp zero)
  | expense =>
      by_cases flat : periodNet books period code = 0
      · simp [closingLine, pnlBalance, flat]
      · have swept : (⟨code, .expense⟩ : ChartOfAccount).IsPnl := .inr rfl
        rw [if_pos ⟨swept, flat⟩, Posting.ofSigned_neg]
        exact if_neg flat
  | asset => simp [closingLine, pnlBalance, ChartOfAccount.IsPnl]
  | liability => simp [closingLine, pnlBalance, ChartOfAccount.IsPnl]
  | equity => simp [closingLine, pnlBalance, ChartOfAccount.IsPnl]

theorem closingLines_eq_settle (books : Books) (period : AccountingPeriod) :
    closingLines books period =
      settle books.chart.pnlCodes (fun _ => 0) (periodNet books period) := by
  unfold closingLines settle Chart.pnlCodes
  rw [List.filterMap_map]
  induction books.chart.rows with
  | nil => rfl
  | cons row rows induction =>
      rw [List.filterMap_cons, closingLine_eq, induction]
      by_cases swept : row.IsPnl
      · by_cases flat : periodNet books period row.code = 0
        · simp [swept, flat]
        · simp [swept, flat]
      · simp [swept]

theorem netIncome_eq (books : Books) (period : AccountingPeriod) :
    netIncome books period =
      (books.chart.pnlCodes.map fun code => -periodNet books period code).sum := by
  unfold netIncome Chart.pnlCodes
  induction books.chart.rows with
  | nil => rfl
  | cons row rows induction =>
      rw [List.map_cons, List.sum_cons, induction]
      unfold pnlBalance
      by_cases swept : row.IsPnl
      · rcases swept with revenue | expense
        · simp [ChartOfAccount.IsPnl, revenue]
        · simp [ChartOfAccount.IsPnl, expense]
      · simp only [swept, decide_false, Bool.false_eq_true,
          not_false_eq_true, List.filter_cons_of_neg, add_eq_right]
        unfold ChartOfAccount.IsPnl at swept
        split
        · rename_i revenue
          exact absurd (.inl revenue) swept
        · rename_i expense
          exact absurd (.inr expense) swept
        · rfl

theorem net_summaryLines (incomeSummary : Account) (income : ℤ)
    (acct : Account) :
    net (summaryLines incomeSummary income) acct =
      if incomeSummary = acct then -income else 0 := by
  unfold summaryLines
  by_cases same : incomeSummary = acct
  · split_ifs <;> simp [same, Posting.signed]
    omega
  · split_ifs <;> simp [same]

theorem net_transferLines (incomeSummary retained : Account) (income : ℤ)
    (acct : Account) :
    net (transferLines incomeSummary retained income) acct =
      (if incomeSummary = acct then income else 0) +
        if retained = acct then -income else 0 := by
  unfold transferLines
  split
  · simp [Posting.signed]
  · simp [Posting.signed, add_comm]

theorem summary_ne_retained :
    AccountKey.incomeSummary.code ≠ AccountKey.retainedEarnings.code := by
  decide

def sweepLines (books : Books) (period : AccountingPeriod) :
    List (Posting Account) :=
  closingLines books period ++
    summaryLines AccountKey.incomeSummary.code (netIncome books period)

def rollLines (income : ℤ) : List (Posting Account) :=
  transferLines AccountKey.incomeSummary.code
    AccountKey.retainedEarnings.code income

/-- A closing that returns locks the period, after posting the sweep and, when
there is a result, its transfer to retained earnings. -/
inductive Closed (pk : ℕ) (period : AccountingPeriod) (start after : Books) :
    Prop where
  | nothing (empty : closingLines start period = [])
      (locked : after = start.setClosed pk true)
  | even {sweep : JournalEntry} {swept : Books}
      (zero : netIncome start period = 0)
      (first : Posted (closingDraft period (.closing pk)
        (sweepLines start period)) start swept sweep)
      (locked : after = swept.setClosed pk true)
  | rolled {sweep roll : JournalEntry} {swept final : Books}
      (result : netIncome start period ≠ 0)
      (first : Posted (closingDraft period (.closing pk)
        (sweepLines start period)) start swept sweep)
      (second : Posted (closingDraft period (.closingTransfer pk)
        (rollLines (netIncome start period))) swept final roll)
      (locked : after = final.setClosed pk true)

theorem postings_ofPosting {lines : List (Posting Account)}
    (nonempty : ∀ line ∈ lines, ¬ (line.debit = 0 ∧ line.credit = 0)) :
    postings (lines.map JournalLine.ofPosting) = lines := by
  induction lines with
  | nil => rfl
  | cons line rest induction =>
      have first := nonempty line List.mem_cons_self
      have later := induction fun other member =>
        nonempty other (List.mem_cons_of_mem _ member)
      unfold postings at later ⊢
      simp [JournalLine.posting?, JournalLine.ofPosting, first] at later ⊢
      exact later

private theorem sweepLines_nonempty {books : Books} {period : AccountingPeriod}
    (some : closingLines books period ≠ []) :
    postings ((sweepLines books period).map JournalLine.ofPosting) ≠ [] := by
  obtain ⟨line, member⟩ := List.exists_mem_of_ne_nil _ some
  have settled := member
  rw [closingLines_eq_settle] at settled
  obtain ⟨_, moves, shape⟩ := mem_settle settled
  intro nothing
  have kept : line ∈ postings
      ((sweepLines books period).map JournalLine.ofPosting) := by
    unfold postings sweepLines
    rw [List.mem_filterMap]
    refine ⟨.ofPosting line, List.mem_map_of_mem (List.mem_append_left _ member), ?_⟩
    have amount : ¬ (line.debit = 0 ∧ line.credit = 0) := by
      rintro ⟨noDebit, noCredit⟩
      have flat : line.signed = 0 := by
        rw [Posting.signed, noDebit, noCredit, sub_zero]
      rw [shape, Posting.ofSigned_signed] at flat
      omega
    simp [JournalLine.posting?, JournalLine.ofPosting, amount]
  rw [nothing] at kept
  cases kept

private theorem rollIncome_returns {pk : ℕ} {period : AccountingPeriod}
    {income : ℤ} {before after : Books} {result : PUnit}
    (returned : rollIncome pk period AccountKey.incomeSummary.code
      AccountKey.retainedEarnings.code income before = .ok result after) :
    (income = 0 ∧ after = before) ∨ income ≠ 0 ∧ ∃ roll,
      Posted (closingDraft period (.closingTransfer pk) (rollLines income))
        before after roll := by
  unfold rollIncome at returned
  split at returned
  · rename_i zero
    obtain ⟨_, rfl⟩ := Txn.pure_eq_ok.mp returned
    exact .inl ⟨zero, rfl⟩
  · rename_i result
    rw [Txn.bind_eq_ok] at returned
    obtain ⟨_, middle, posting, finished⟩ := returned
    obtain ⟨_, rfl⟩ := Txn.pure_eq_ok.mp finished
    refine .inr ⟨result, ?_⟩
    rcases postJournal_returns posting with ⟨_, nothing, _⟩ | ⟨roll, _, posted⟩
    · rw [closingDraft, postings_ofPosting] at nothing
      · unfold transferLines at nothing
        split at nothing <;> simp at nothing
      · intro line member
        unfold transferLines at member
        split at member <;> simp at member <;>
          rcases member with rfl | rfl <;> simp <;> omega
    · exact ⟨roll, posted⟩

theorem closePeriod_returns {pk : ℕ} {period : AccountingPeriod}
    {result : Option ℕ} {before after : Books}
    (returned : closePeriod pk period before = .ok result after) :
    period.isClosed = false ∧ ∃ start, ChartOnly before start ∧
      AccountKey.incomeSummary.code ∈ start.chart.codes ∧
      AccountKey.retainedEarnings.code ∈ start.chart.codes ∧
      Closed pk period start after := by
  simp only [closePeriod, Txn.bind_eq_ok, Txn.require_eq_ok,
    Txn.get_eq_ok] at returned
  obtain ⟨_, _, ⟨notClosed, rfl⟩, _, first, summary, _, start, retained, _, _,
    ⟨rfl, rfl⟩, returned⟩ := returned
  obtain ⟨rfl, grown, knownSummary⟩ := account_returns summary
  obtain ⟨rfl, grownAgain, knownRetained⟩ := account_returns retained
  refine ⟨notClosed, start, grown.trans grownAgain,
    grownAgain.chart.codes knownSummary, knownRetained, ?_⟩
  split at returned
  · rename_i empty
    simp only [Txn.bind_eq_ok, Txn.modify_eq_ok, Txn.pure_eq_ok] at returned
    obtain ⟨_, _, rfl, _, rfl⟩ := returned
    exact .nothing empty rfl
  · rename_i some
    simp only [Txn.atomic_eq_ok, Txn.bind_eq_ok, Txn.modify_eq_ok,
      Txn.pure_eq_ok] at returned
    obtain ⟨_, swept, posting, _, final, rolling, _, _, rfl, _, rfl⟩ := returned
    rcases postJournal_returns posting with ⟨_, nothing, _⟩ | ⟨sweep, _, posted⟩
    · exact absurd nothing (sweepLines_nonempty some)
    · rcases rollIncome_returns rolling with ⟨zero, rfl⟩ | ⟨result, roll, second⟩
      · exact .even zero posted rfl
      · exact .rolled result posted second rfl

theorem closePeriod_raises {pk : ℕ} {period : AccountingPeriod}
    {raised : LedgerError} {before after : Books}
    (failed : closePeriod pk period before = .error raised after) :
    ChartOnly before after := by
  simp only [closePeriod, Txn.bind_eq_error, Txn.require_eq_error,
    Txn.require_eq_ok, Txn.get_eq_error, Txn.get_eq_ok] at failed
  rcases failed with ⟨_, _, rfl⟩ | ⟨_, _, ⟨_, rfl⟩, failed⟩
  · exact .refl _
  · rcases failed with failed | ⟨_, first, summary, failed⟩
    · rw [account_raises failed]
    · have grown := (account_returns summary).2.1
      rcases failed with failed | ⟨_, second, retained, failed⟩
      · rw [account_raises failed]
        exact grown
      · have grownAgain := grown.trans (account_returns retained).2.1
        rcases failed with impossible | ⟨_, _, ⟨rfl, rfl⟩, failed⟩
        · exact impossible.elim
        · split at failed
          · simp only [Txn.bind_eq_error, Txn.modify_eq_error,
              Txn.pure_eq_error, and_false, exists_false, or_self] at failed
          · rw [(Txn.atomic_eq_error.mp failed).1]
            exact grownAgain

end Mousstec.Accounting
