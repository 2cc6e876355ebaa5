import Mousstec.Accounting.ClosedPeriods

/-!
# Runs of closings and re-openings

The closing entries of a period are followed through a run: whatever is posted
in between, and however often the period is re-opened, income summary nets to
zero over them and what they moved to retained earnings is what they took off
the revenue and expense accounts.  So a closing, first or repeated, leaves the
period's accounts at zero and its whole result in retained earnings.
-/

namespace Mousstec.Accounting

open Library

theorem Sound.pnl_ne_summary {books : Books} (sound : Sound books)
    {code : Account} (swept : code ∈ books.chart.pnlCodes) :
    AccountKey.incomeSummary.code ≠ code := by
  obtain ⟨row, member, pnl, rfl⟩ := Chart.mem_pnlCodes.mp swept
  exact fun same => sound.standard row member (.inl same.symm) pnl

theorem Sound.pnl_ne_retained {books : Books} (sound : Sound books)
    {code : Account} (swept : code ∈ books.chart.pnlCodes) :
    AccountKey.retainedEarnings.code ≠ code := by
  obtain ⟨row, member, pnl, rfl⟩ := Chart.mem_pnlCodes.mp swept
  exact fun same => sound.standard row member (.inr same.symm) pnl

theorem net_closingLines (books : Books) (period : AccountingPeriod)
    (acct : Account) :
    net (closingLines books period) acct =
      if acct ∈ books.chart.pnlCodes then -periodNet books period acct else 0 := by
  rw [closingLines_eq_settle, net_settle books.chart.pnlCodes_nodup]
  split
  · ring
  · rfl

def closingEffect (books : Books) (period : AccountingPeriod)
    (acct : Account) : ℤ :=
  net (sweepLines books period) acct +
    net (rollLines (netIncome books period)) acct

section Effect

variable {books : Books} (sound : Sound books) (period : AccountingPeriod)

include sound

theorem closingEffect_pnl {code : Account}
    (swept : code ∈ books.chart.pnlCodes) :
    closingEffect books period code = -periodNet books period code := by
  unfold closingEffect sweepLines rollLines
  rw [net_append, net_closingLines, if_pos swept, net_summaryLines,
    if_neg (sound.pnl_ne_summary swept), net_transferLines,
    if_neg (sound.pnl_ne_summary swept), if_neg (sound.pnl_ne_retained swept)]
  ring

theorem closingEffect_summary :
    closingEffect books period AccountKey.incomeSummary.code = 0 := by
  have outside : AccountKey.incomeSummary.code ∉ books.chart.pnlCodes :=
    fun swept => sound.pnl_ne_summary swept rfl
  unfold closingEffect sweepLines rollLines
  rw [net_append, net_closingLines, if_neg outside, net_summaryLines,
    if_pos rfl, net_transferLines, if_pos rfl,
    if_neg summary_ne_retained.symm]
  ring

theorem closingEffect_retained :
    closingEffect books period AccountKey.retainedEarnings.code =
      -netIncome books period := by
  have outside : AccountKey.retainedEarnings.code ∉ books.chart.pnlCodes :=
    fun swept => sound.pnl_ne_retained swept rfl
  unfold closingEffect sweepLines rollLines
  rw [net_append, net_closingLines, if_neg outside, net_summaryLines,
    if_neg summary_ne_retained, net_transferLines, if_neg summary_ne_retained,
    if_pos rfl]
  ring

theorem sum_closingEffect :
    (books.chart.pnlCodes.map fun code => closingEffect books period code).sum =
      netIncome books period := by
  rw [netIncome_eq]
  congr 1
  apply List.map_congr_left
  intro code swept
  exact closingEffect_pnl sound period swept

end Effect

theorem closingDraft_rows (period : AccountingPeriod) (reference : Reference)
    (lines : List (Posting Account)) :
    ∀ line ∈ (closingDraft period reference lines).lines,
      line.account.IsRow := by
  intro line member
  obtain ⟨posting, _, rfl⟩ := List.mem_map.mp member
  trivial

/-- An entry one of the two closing drafts of a period became. -/
structure ClosingEntry (pk : ℕ) (period : AccountingPeriod)
    (entry : JournalEntry) : Prop where
  reference : entry.reference = .closing pk ∨
    entry.reference = .closingTransfer pk
  journalType : entry.journalType = .closing
  date : entry.date = period.endDate

theorem closingEntry_of_posted {pk : ℕ} {period : AccountingPeriod}
    {reference : Reference} {lines : List (Posting Account)}
    {before after : Books} {entry : JournalEntry}
    (kind : reference = .closing pk ∨ reference = .closingTransfer pk)
    (posted : Posted (closingDraft period reference lines) before after entry) :
    ClosingEntry pk period entry where
  reference := by
    rw [posted.reference]
    exact kind
  journalType := posted.journalType
  date := posted.date

theorem netIncome_of_nothing {books : Books} {period : AccountingPeriod}
    (empty : closingLines books period = []) :
    netIncome books period = 0 ∧
      ∀ code ∈ books.chart.pnlCodes, periodNet books period code = 0 := by
  rw [closingLines_eq_settle, settle_eq_nil] at empty
  have flat : ∀ code ∈ books.chart.pnlCodes, periodNet books period code = 0 :=
    fun code swept => (empty code swept).symm
  refine ⟨?_, flat⟩
  rw [netIncome_eq]
  apply List.sum_eq_zero
  intro value member
  obtain ⟨code, swept, rfl⟩ := List.mem_map.mp member
  rw [flat code swept, neg_zero]

theorem net_rollLines_zero (acct : Account) : net (rollLines 0) acct = 0 := by
  unfold rollLines
  rw [net_transferLines]
  simp

namespace Closed

variable {pk : ℕ} {period : AccountingPeriod} {start after : Books}
  (closed : Closed pk period start after)

include closed

theorem chart : after.chart = start.chart := by
  cases closed with
  | nothing empty locked => rw [locked]; rfl
  | even zero sweep locked =>
      rw [locked]
      exact sweep.rows (closingDraft_rows _ _ _)
  | rolled income sweep roll locked =>
      rw [locked]
      exact (roll.rows (closingDraft_rows _ _ _)).trans
        (sweep.rows (closingDraft_rows _ _ _))

theorem periods : after.periods = (start.setClosed pk true).periods := by
  cases closed with
  | nothing empty locked => rw [locked]
  | even zero sweep locked =>
      rw [locked, Books.setClosed, sweep.periods]
      rfl
  | rolled income sweep roll locked =>
      rw [locked, Books.setClosed, roll.periods, sweep.periods]
      rfl

/-- A closing keeps every entry and adds closing entries only. -/
theorem entries {key : ℕ} {entry : JournalEntry}
    (found : after.entries.get? key = some entry) :
    start.entries.get? key = some entry ∨
      start.entries.next ≤ key ∧ ClosingEntry pk period entry := by
  cases closed with
  | nothing empty locked =>
      rw [locked] at found
      exact .inl found
  | even zero sweep locked =>
      rw [locked] at found
      change _ = some entry at found
      rw [Books.setClosed, sweep.entries, Table.get?_insert] at found
      split at found
      · rename_i new
        cases found
        exact .inr ⟨Nat.le_of_eq new.symm, closingEntry_of_posted (.inl rfl) sweep⟩
      · exact .inl found
  | rolled income sweep roll locked =>
      rw [locked] at found
      rw [Books.setClosed, roll.entries, sweep.entries, Table.get?_insert] at found
      split at found
      · rename_i new
        cases found
        rw [Table.insert_next] at new
        exact .inr ⟨by omega, closingEntry_of_posted (.inr rfl) roll⟩
      · rcases Table.get?_insert_cases found with ⟨new, rfl⟩ | found
        · exact .inr ⟨Nat.le_of_eq new.symm,
            closingEntry_of_posted (.inl rfl) sweep⟩
        · exact .inl found

theorem next : start.entries.next ≤ after.entries.next := by
  cases closed with
  | nothing empty locked => rw [locked]; exact Nat.le_refl _
  | even zero sweep locked =>
      rw [locked, Books.setClosed, sweep.entries, Table.insert_next]
      omega
  | rolled income sweep roll locked =>
      rw [locked, Books.setClosed, roll.entries, sweep.entries,
        Table.insert_next, Table.insert_next]
      omega

/-- Selected sums change by the effect of the closing if its entries are
selected, and not at all if they are not. -/
theorem netOf {select : ℕ → JournalEntry → Bool} {verdict : Bool}
    (uniform : ∀ key entry, after.entries.get? key = some entry →
      start.entries.next ≤ key → select key entry = verdict) (acct : Account) :
    after.netOf select acct = start.netOf select acct +
      if verdict then closingEffect start period acct else 0 := by
  cases closed with
  | nothing empty locked =>
      have flat : closingEffect start period acct = 0 := by
        unfold closingEffect sweepLines
        rw [empty, (netIncome_of_nothing empty).1, net_rollLines_zero]
        simp [summaryLines]
      rw [locked, flat, ite_self, add_zero]
      rfl
  | @even sweepEntry swept zero sweep locked =>
      have chosen : select start.entries.next sweepEntry = verdict := by
        apply uniform _ _ _ (Nat.le_refl _)
        rw [locked, Books.setClosed, sweep.entries, Table.get?_insert_next]
      have sum := sweep.netOf select acct
      rw [chosen, closingDraft, net_postings_ofPosting] at sum
      rw [locked]
      change swept.netOf select acct = _
      rw [sum, closingEffect, zero, net_rollLines_zero, add_zero]
  | @rolled sweepEntry rollEntry swept final income sweep roll locked =>
      have later : swept.entries.next = start.entries.next + 1 := by
        rw [sweep.entries, Table.insert_next]
      have chosenRoll : select swept.entries.next rollEntry = verdict := by
        apply uniform _ _ _ (by omega)
        rw [locked, Books.setClosed, roll.entries, Table.get?_insert_next]
      have chosenSweep : select start.entries.next sweepEntry = verdict := by
        apply uniform _ _ _ (Nat.le_refl _)
        rw [locked, Books.setClosed, roll.entries]
        apply Table.get?_insert_of_some
        rw [sweep.entries, Table.get?_insert_next]
      have first := sweep.netOf select acct
      have second := roll.netOf select acct
      rw [chosenSweep, closingDraft, net_postings_ofPosting] at first
      rw [chosenRoll, closingDraft, net_postings_ofPosting] at second
      rw [locked]
      change final.netOf select acct = _
      rw [second, first, closingEffect]
      cases verdict
      · simp
      · simp [add_assoc]

end Closed

def newKeys (before after : Books) : List ℕ :=
  List.range' before.entries.next (after.entries.next - before.entries.next)

/-- What the closing entries of a period, given by period and entry key, add
to an account. -/
def closingNet (books : Books) (closings : List (ℕ × ℕ)) (pk : ℕ)
    (acct : Account) : ℤ :=
  books.netOf (fun key _ => decide ((pk, key) ∈ closings)) acct

/-- The closing entries sum to nothing on income summary, and on retained
earnings to what they took off the revenue and expense accounts. -/
structure ClosingsBalance (books : Books) (closings : List (ℕ × ℕ)) :
    Prop where
  used : ∀ pk key, (pk, key) ∈ closings → key < books.entries.next
  shaped : ∀ pk key entry, (pk, key) ∈ closings →
    books.entries.get? key = some entry →
    ∃ period, books.periods.get? pk = some period ∧
      ClosingEntry pk period entry ∧ period.Covers period.endDate
  summary : ∀ pk,
    closingNet books closings pk AccountKey.incomeSummary.code = 0
  retained : ∀ pk,
    closingNet books closings pk AccountKey.retainedEarnings.code +
      (books.chart.pnlCodes.map fun code =>
        closingNet books closings pk code).sum = 0

theorem sum_pnlCodes_of_extends {before after : Chart} {amount : Account → ℤ}
    (grown : before.Extends after)
    (silent : ∀ code, code ∉ before.codes → amount code = 0) :
    (after.pnlCodes.map amount).sum = (before.pnlCodes.map amount).sum := by
  obtain ⟨extra, rows⟩ := grown
  have split : after.pnlCodes = before.pnlCodes ++
      (extra.filter fun row => row.IsPnl).map ChartOfAccount.code := by
    rw [Chart.pnlCodes, ← rows, List.filter_append, List.map_append]
    rfl
  have unique := after.unique
  rw [← rows, List.map_append, List.nodup_append] at unique
  have nothing : (((extra.filter fun row => row.IsPnl).map
      ChartOfAccount.code).map amount).sum = 0 := by
    apply List.sum_eq_zero
    intro value member
    obtain ⟨code, listed, rfl⟩ := List.mem_map.mp member
    obtain ⟨row, kept, rfl⟩ := List.mem_map.mp listed
    apply silent
    intro known
    exact unique.2.2 _ known _
      (List.mem_map_of_mem (List.mem_of_mem_filter kept)) rfl
  rw [split, List.map_append, List.sum_append, nothing, add_zero]

theorem frozen_journal {left right : JournalEntry}
    (same : left.frozen = right.frozen) :
    left.reference = right.reference ∧ left.journalType = right.journalType := by
  have references : left.frozen.reference = right.frozen.reference :=
    congrArg JournalEntry.reference same
  have types : left.frozen.journalType = right.frozen.journalType :=
    congrArg JournalEntry.journalType same
  exact ⟨references, types⟩

theorem ClosingEntry.of_frozen {pk : ℕ} {period later : AccountingPeriod}
    {stored entry : JournalEntry} (closing : ClosingEntry pk period stored)
    (same : stored.frozen = entry.frozen)
    (dates : later.endDate = period.endDate) :
    ClosingEntry pk later entry where
  reference := by
    rw [← (frozen_journal same).1]
    exact closing.reference
  journalType := by
    rw [← (frozen_journal same).2]
    exact closing.journalType
  date := by
    rw [← frozen_date same, dates]
    exact closing.date

def SameDays (before after : Books) : Prop :=
  ∀ pk, (after.periods.get? pk).map (fun period =>
      { period with isClosed := false }) =
    (before.periods.get? pk).map fun period => { period with isClosed := false }

theorem SameDays.of_eq {before after : Books}
    (same : after.periods = before.periods) : SameDays before after := by
  intro pk
  rw [same]

theorem sameDays_setClosed (books : Books) (pk : ℕ) (closed : Bool) :
    SameDays books (books.setClosed pk closed) := by
  intro key
  unfold Books.setClosed
  rw [Table.get?_modify]
  split
  · rename_i same
    subst same
    rw [Option.map_map]
    rfl
  · rfl

theorem SameDays.get? {before after : Books} (same : SameDays before after)
    {pk : ℕ} {period : AccountingPeriod}
    (stored : before.periods.get? pk = some period) :
    ∃ later, after.periods.get? pk = some later ∧
      later.startDate = period.startDate ∧ later.endDate = period.endDate := by
  have days := same pk
  rw [stored, Option.map_some, Option.map_eq_some_iff] at days
  obtain ⟨later, found, dates⟩ := days
  simp only [AccountingPeriod.mk.injEq, and_true] at dates
  exact ⟨later, found, dates.2.1, dates.2.2⟩

/-- What keeps the closing entries, or removes all of a period, keeps their
balance. -/
theorem ClosingsBalance.carry {before after : Books} {closings : List (ℕ × ℕ)}
    (balance : ClosingsBalance before closings) (sound : Sound before)
    (chart : before.chart.Extends after.chart)
    (next : before.entries.next ≤ after.entries.next)
    (days : SameDays before after)
    (old : ∀ key entry, key < before.entries.next →
      after.entries.get? key = some entry →
      ∃ stored, before.entries.get? key = some stored ∧
        stored.frozen = entry.frozen)
    (nets : ∀ pk,
      (∀ acct, closingNet after closings pk acct =
        closingNet before closings pk acct) ∨
      ∀ acct, closingNet after closings pk acct = 0) :
    ClosingsBalance after closings where
  used pk key listed := Nat.lt_of_lt_of_le (balance.used pk key listed) next
  shaped pk key entry listed found := by
    obtain ⟨stored, original, same⟩ :=
      old key entry (balance.used pk key listed) found
    obtain ⟨period, foundPeriod, closing, proper⟩ :=
      balance.shaped pk key stored listed original
    obtain ⟨later, foundLater, starts, ends⟩ := days.get? foundPeriod
    refine ⟨later, foundLater, closing.of_frozen same ends, ?_⟩
    unfold AccountingPeriod.Covers
    rw [starts, ends]
    exact proper
  summary pk := by
    rcases nets pk with same | gone
    · rw [same, balance.summary]
    · exact gone _
  retained pk := by
    rcases nets pk with same | gone
    · have sums : (after.chart.pnlCodes.map fun code =>
          closingNet after closings pk code) =
          after.chart.pnlCodes.map fun code =>
            closingNet before closings pk code :=
        List.map_congr_left fun code _ => same code
      rw [same, sums, sum_pnlCodes_of_extends chart, balance.retained]
      intro code unknown
      exact sound.netOf_unknown unknown _
    · rw [gone, zero_add]
      apply List.sum_eq_zero
      intro value member
      obtain ⟨code, _, rfl⟩ := List.mem_map.mp member
      exact gone code

theorem ClosingsBalance.of_grown {before after : Books}
    {closings : List (ℕ × ℕ)} (balance : ClosingsBalance before closings)
    (sound : Sound before) (grown : ChartOnly before after) :
    ClosingsBalance after closings := by
  refine balance.carry sound grown.chart (by rw [grown.entries])
    (.of_eq grown.periods) ?_ fun pk => .inl (grown.netOf _)
  intro key entry _ found
  exact ⟨entry, by rw [← grown.entries, found], rfl⟩

theorem ClosingsBalance.of_posting {draft : JournalDraft} {before after : Books}
    {closings : List (ℕ × ℕ)} (balance : ClosingsBalance before closings)
    (sound : Sound before)
    (written : after = (postJournal draft).final before) :
    ClosingsBalance after closings := by
  subst written
  refine Txn.final_of (fun after => ClosingsBalance after closings) ?_ ?_
  · intro result after returned
    rcases postJournal_returns returned with ⟨_, _, grown⟩ | ⟨entry, _, posted⟩
    · exact balance.of_grown sound grown
    · refine balance.carry sound posted.chart ?_ (.of_eq posted.periods) ?_ ?_
      · rw [posted.entries, Table.insert_next]
        omega
      · intro key stored used found
        rw [posted.entries, Table.get?_insert, if_neg (by omega)] at found
        exact ⟨stored, found, rfl⟩
      · intro pk
        left
        intro acct
        have unlisted : (pk, before.entries.next) ∉ closings := fun listed =>
          Nat.lt_irrefl _ (balance.used pk _ listed)
        unfold closingNet
        rw [posted.netOf]
        simp [unlisted]
  · intro error after failed
    exact balance.of_grown sound (postJournal_raises failed)

theorem sound_setClosed {books : Books} (sound : Sound books) (pk : ℕ)
    (closed : Bool) : Sound (books.setClosed pk closed) := by
  have earlier : ∀ key period,
      (books.setClosed pk closed).periods.get? key = some period →
      ∃ stored, books.periods.get? key = some stored ∧
        ∀ day, stored.Covers day ↔ period.Covers day := by
    intro key period found
    unfold Books.setClosed at found
    rcases Table.get?_modify_cases found with ⟨rfl, stored, original, rfl⟩ | found
    · exact ⟨stored, original, fun _ => Iff.rfl⟩
    · exact ⟨period, found, fun _ => Iff.rfl⟩
  refine ⟨?_, ?_, sound.balanced, sound.known, sound.standard⟩
  · intro left right first second day foundFirst foundSecond
      coversFirst coversSecond
    obtain ⟨stored, original, same⟩ := earlier left first foundFirst
    obtain ⟨storedToo, originalToo, sameToo⟩ := earlier right second foundSecond
    exact sound.apart left right stored storedToo day original originalToo
      ((same day).mpr coversFirst) ((sameToo day).mpr coversSecond)
  · intro key entry link found linked
    obtain ⟨stored, original, covers⟩ := sound.linked key entry link found linked
    obtain ⟨later, foundLater, starts, ends⟩ :=
      (sameDays_setClosed books pk closed).get? original
    refine ⟨later, foundLater, ?_⟩
    unfold AccountingPeriod.Covers at covers ⊢
    rw [starts, ends]
    exact covers

theorem ClosingsBalance.of_setClosed {books : Books} {closings : List (ℕ × ℕ)}
    (balance : ClosingsBalance books closings) (sound : Sound books) (pk : ℕ)
    (closed : Bool) : ClosingsBalance (books.setClosed pk closed) closings :=
  balance.carry sound (.refl _) (Nat.le_refl _)
    (sameDays_setClosed books pk closed) (fun _ entry _ found => ⟨entry, found, rfl⟩)
    fun _ => .inl fun _ => rfl

theorem deleteEntries_old {books : Books} {pks : List ℕ} {key : ℕ}
    {entry : JournalEntry}
    (found : (books.deleteEntries pks).entries.get? key = some entry) :
    key ∉ pks ∧ ∃ stored, books.entries.get? key = some stored ∧
      stored.frozen = entry.frozen := by
  have same := content?_deleteEntries books pks key
  rw [content?_of_get? found] at same
  split at same
  · cases same
  · rename_i kept
    obtain ⟨stored, original, content⟩ := Option.map_eq_some_iff.mp same.symm
    exact ⟨kept, stored, original, frozen_of_content content⟩

theorem sound_deleteEntries {books : Books} (sound : Sound books)
    (pks : List ℕ) : Sound (books.deleteEntries pks) :=
  sound_of_frozen sound (deleteEntries_frame books pks).1
    (deleteEntries_frame books pks).2.1 fun _ _ found =>
      (deleteEntries_old found).2

theorem mem_closingEntries {books : Books} {accepts : JournalType → Bool}
    {pk key : ℕ} :
    key ∈ closingEntries books accepts pk ↔
      ∃ entry, books.entries.get? key = some entry ∧
        (entry.reference = .closing pk ∨ entry.reference = .closingTransfer pk) ∧
        accepts entry.journalType = true := by
  unfold closingEntries
  simp only [List.mem_map, List.mem_filter, Bool.decide_and, Bool.decide_or,
    Bool.decide_eq_true, Bool.and_eq_true, Bool.or_eq_true, decide_eq_true_eq]
  constructor
  · rintro ⟨row, ⟨member, kind, accepted⟩, rfl⟩
    exact ⟨row.2, Table.get?_eq_some.mpr member, kind, accepted⟩
  · rintro ⟨entry, found, kind, accepted⟩
    exact ⟨(key, entry), ⟨Table.get?_eq_some.mp found, kind, accepted⟩, rfl⟩

theorem reopenWith_returns {accepts : JournalType → Bool} {pk : ℕ}
    {period : AccountingPeriod} {result : Bool} {before after : Books}
    (returned : reopenWith accepts pk period before = .ok result after) :
    after = before ∨ after =
      (before.deleteEntries (closingEntries before accepts pk)).setClosed pk
        false := by
  rw [reopenWith, Txn.get_bind] at returned
  split at returned
  · exact .inl (Txn.pure_eq_ok.mp returned).2.symm
  · simp only [Txn.bind_eq_ok, Txn.set_eq_ok, Txn.pure_eq_ok] at returned
    obtain ⟨_, _, rfl, _, rfl⟩ := returned
    exact .inr rfl

theorem ClosingsBalance.of_reopening {accepts : JournalType → Bool} {pk : ℕ}
    {before : Books} {closings : List (ℕ × ℕ)}
    (balance : ClosingsBalance before closings) (sound : Sound before)
    (closing : accepts .closing = true) :
    ClosingsBalance
      (before.deleteEntries (closingEntries before accepts pk)) closings := by
  obtain ⟨chart, periods, -, next⟩ := deleteEntries_frame before
    (closingEntries before accepts pk)
  refine balance.carry sound (by rw [chart]) (by rw [next]) (.of_eq periods)
    (fun _ _ _ found => (deleteEntries_old found).2) ?_
  intro other
  by_cases same : other = pk
  · right
    intro acct
    unfold closingNet Books.netOf
    apply Table.total_eq_zero
    intro key entry found
    rw [if_neg]
    intro listed
    obtain ⟨kept, stored, original, _⟩ := deleteEntries_old found
    obtain ⟨period, _, shape, _⟩ :=
      balance.shaped other key stored (of_decide_eq_true listed) original
    apply kept
    rw [mem_closingEntries]
    refine ⟨stored, original, same ▸ shape.reference, ?_⟩
    rw [shape.journalType, closing]
  · left
    intro acct
    refine netOf_eq_of_content (fun _ _ => rfl) ?_ acct
    intro key
    by_cases listed : (other, key) ∈ closings
    · rw [content?_deleteEntries, if_neg]
      rw [mem_closingEntries]
      rintro ⟨stored, original, kind, _⟩
      obtain ⟨period, _, shape, _⟩ :=
        balance.shaped other key stored listed original
      rcases shape.reference with first | first
      all_goals
        rcases kind with second | second
      all_goals
        rw [first] at second
        cases second
        try exact same rfl
    · simp [listed]

/-- A balance means an entry, and an entry of the period means the period has
a day. -/
theorem proper_of_balance {books : Books} {period : AccountingPeriod}
    {code : Account} (balance : periodNet books period code ≠ 0) :
    period.Covers period.endDate := by
  by_contra improper
  apply balance
  unfold periodNet Books.netOf
  apply Table.total_eq_zero
  intro key entry _
  rw [if_neg]
  intro covers
  apply improper
  obtain ⟨starts, ends⟩ := of_decide_eq_true covers
  exact ⟨starts.trans ends, Int.le_refl _⟩

theorem proper_of_lines {books : Books} {period : AccountingPeriod}
    (lines : closingLines books period ≠ []) :
    period.Covers period.endDate := by
  obtain ⟨line, member⟩ := List.exists_mem_of_ne_nil _ lines
  rw [closingLines_eq_settle] at member
  exact proper_of_balance (mem_settle member).2.1.symm

theorem Closed.proper {pk : ℕ} {period : AccountingPeriod}
    {start after : Books} (closed : Closed pk period start after) :
    after.entries.next = start.entries.next ∨
      period.Covers period.endDate := by
  by_cases empty : closingLines start period = []
  · left
    have none := (netIncome_of_nothing empty).1
    have blank : sweepLines start period = [] := by
      simp [sweepLines, empty, none, summaryLines]
    cases closed with
    | nothing empty locked => rw [locked]; rfl
    | even zero sweep locked =>
        exact absurd (by rw [sweep.lines, closingDraft, blank]; rfl) sweep.moves
    | rolled income sweep roll locked => exact absurd none income
  · exact .inr (proper_of_lines empty)

theorem mem_newKeys {before after : Books} {key : ℕ} :
    key ∈ newKeys before after ↔
      before.entries.next ≤ key ∧ key < after.entries.next := by
  unfold newKeys
  rw [List.mem_range'_1]
  omega

def addClosing (closings : List (ℕ × ℕ)) (pk : ℕ) (before after : Books) :
    List (ℕ × ℕ) :=
  closings ++ (newKeys before after).map fun key => (pk, key)

theorem mem_addClosing {closings : List (ℕ × ℕ)} {pk other key : ℕ}
    {before after : Books} :
    (other, key) ∈ addClosing closings pk before after ↔
      (other, key) ∈ closings ∨ other = pk ∧ key ∈ newKeys before after := by
  unfold addClosing
  rw [List.mem_append, List.mem_map]
  constructor
  · rintro (old | ⟨added, new, same⟩)
    · exact .inl old
    · cases same
      exact .inr ⟨rfl, new⟩
  · rintro (old | ⟨rfl, new⟩)
    · exact .inl old
    · exact .inr ⟨key, new, rfl⟩

section Closing

variable {pk : ℕ} {period : AccountingPeriod} {start after : Books}
  {closings : List (ℕ × ℕ)}

theorem closingNet_addClosing (balance : ClosingsBalance start closings)
    (closed : Closed pk period start after) (other : ℕ) (acct : Account) :
    closingNet after (addClosing closings pk start after) other acct =
      closingNet start closings other acct +
        if other = pk then closingEffect start period acct else 0 := by
  have uniform : ∀ key entry, after.entries.get? key = some entry →
      start.entries.next ≤ key →
      decide ((other, key) ∈ addClosing closings pk start after) =
        decide (other = pk) := by
    intro key entry found new
    have listed : key ∈ newKeys start after :=
      mem_newKeys.mpr ⟨new, Table.get?_lt found⟩
    have unlisted : (other, key) ∉ closings := fun old =>
      Nat.lt_irrefl _ (Nat.lt_of_lt_of_le (balance.used other key old) new)
    simp [mem_addClosing, listed, unlisted]
  have earlier : start.netOf (fun key _ =>
      decide ((other, key) ∈ addClosing closings pk start after)) acct =
      closingNet start closings other acct := by
    unfold closingNet Books.netOf
    apply Table.total_congr
    intro key entry found
    have old : key ∉ newKeys start after := fun new =>
      Nat.lt_irrefl _ (Nat.lt_of_lt_of_le (Table.get?_lt found)
        (mem_newKeys.mp new).1)
    simp [mem_addClosing, old]
  have sum := closed.netOf uniform acct
  unfold closingNet at earlier ⊢
  rw [sum, earlier]
  simp

theorem ClosingsBalance.of_closing (sound : Sound start)
    (balance : ClosingsBalance start closings)
    (stored : start.periods.get? pk = some period)
    (closed : Closed pk period start after) :
    ClosingsBalance after (addClosing closings pk start after) where
  used other key listed := by
    rcases mem_addClosing.mp listed with old | ⟨_, new⟩
    · exact Nat.lt_of_lt_of_le (balance.used other key old) closed.next
    · exact (mem_newKeys.mp new).2
  shaped other key entry listed found := by
    have days : SameDays start after := by
      intro link
      rw [closed.periods]
      exact sameDays_setClosed start pk true link
    rcases closed.entries found with old | ⟨new, shape⟩
    · have listedOld : (other, key) ∈ closings := by
        rcases mem_addClosing.mp listed with before | ⟨_, new⟩
        · exact before
        · exact absurd (mem_newKeys.mp new).1 (Nat.not_le_of_lt (Table.get?_lt old))
      obtain ⟨earlier, foundEarlier, shape, proper⟩ :=
        balance.shaped other key entry listedOld old
      obtain ⟨later, foundLater, starts, ends⟩ := days.get? foundEarlier
      refine ⟨later, foundLater, shape.of_frozen rfl ends, ?_⟩
      unfold AccountingPeriod.Covers
      rw [starts, ends]
      exact proper
    · have same : other = pk := by
        rcases mem_addClosing.mp listed with before | ⟨same, _⟩
        · exact absurd (balance.used other key before) (Nat.not_lt_of_le new)
        · exact same
      subst same
      obtain ⟨later, foundLater, starts, ends⟩ := days.get? stored
      refine ⟨later, foundLater, shape.of_frozen rfl ends, ?_⟩
      have used := Table.get?_lt found
      rcases closed.proper with none | proper
      · omega
      · unfold AccountingPeriod.Covers
        rw [starts, ends]
        exact proper
  summary other := by
    rw [closingNet_addClosing balance closed, balance.summary,
      closingEffect_summary sound, ite_self, add_zero]
  retained other := by
    have sums : (after.chart.pnlCodes.map fun code =>
        closingNet after (addClosing closings pk start after) other code).sum =
        (start.chart.pnlCodes.map fun code =>
          closingNet start closings other code).sum +
          if other = pk then netIncome start period else 0 := by
      rw [closed.chart]
      simp only [closingNet_addClosing balance closed, List.sum_map_add]
      congr 1
      split
      · exact sum_closingEffect sound period
      · simp
    have old := balance.retained other
    rw [sums, closingNet_addClosing balance closed,
      closingEffect_retained sound]
    split
    · linarith
    · linarith

/-- After a closing, every revenue and expense account is flat in the period. -/
theorem periodNet_of_closing (sound : Sound start)
    (closed : Closed pk period start after) {code : Account}
    (swept : code ∈ start.chart.pnlCodes) : periodNet after period code = 0 := by
  have uniform : ∀ key entry, after.entries.get? key = some entry →
      start.entries.next ≤ key →
      decide (period.Covers entry.date) =
        decide (period.Covers period.endDate) := by
    intro key entry found new
    rcases closed.entries found with old | ⟨_, shape⟩
    · exact absurd (Table.get?_lt old) (Nat.not_lt_of_le new)
    · rw [shape.date]
  have sum := closed.netOf uniform code
  unfold periodNet
  rw [sum, closingEffect_pnl sound period swept]
  by_cases flat : periodNet start period code = 0
  · rw [flat, neg_zero, ite_self, add_zero]
    exact flat
  · simp only [proper_of_balance flat, decide_true, if_true]
    unfold periodNet
    ring

end Closing

/-- A run of postings, closings, re-openings and passing days, with the
closing entries it made.  A posting or closing may also be refused, and a
period's lock may be taken off without removing its closing entries. -/
inductive PeriodRun (start : Books) : Books → List (ℕ × ℕ) → Prop where
  | start : PeriodRun start start []
  | posted (run : PeriodRun start before closings) (draft : JournalDraft)
      (written : after = (postJournal draft).final before) :
      PeriodRun start after closings
  | closed (run : PeriodRun start before closings)
      (stored : before.periods.get? pk = some period)
      (returned : closePeriod pk period before = .ok result after) :
      PeriodRun start after (addClosing closings pk before after)
  | refused (run : PeriodRun start before closings)
      (failed : closePeriod pk period before = .error raised after) :
      PeriodRun start after closings
  | reopened (run : PeriodRun start before closings)
      (accepts : JournalType → Bool) (closing : accepts .closing = true)
      (returned : reopenWith accepts pk period before = .ok result after) :
      PeriodRun start after closings
  | unlocked (run : PeriodRun start before closings) (pk : ℕ)
      (written : after = before.setClosed pk false) :
      PeriodRun start after closings
  | day (run : PeriodRun start before closings) (today : ℤ)
      (written : after = { before with today }) :
      PeriodRun start after closings

theorem sound_of_day {books : Books} (sound : Sound books) (today : ℤ) :
    Sound { books with today } :=
  ⟨sound.apart, sound.linked, sound.balanced, sound.known, sound.standard⟩

theorem ClosingsBalance.of_day {books : Books} {closings : List (ℕ × ℕ)}
    (balance : ClosingsBalance books closings) (today : ℤ) :
    ClosingsBalance { books with today } closings :=
  ⟨balance.used, balance.shaped, balance.summary, balance.retained⟩

theorem closingsBalance_nil (books : Books) : ClosingsBalance books [] := by
  have flat : ∀ pk acct, closingNet books [] pk acct = 0 := by
    intro pk acct
    unfold closingNet Books.netOf
    apply Table.total_eq_zero
    intro key entry _
    simp
  refine ⟨by simp, by simp, fun pk => flat pk _, ?_⟩
  intro pk
  simp [flat]

theorem addClosing_of_grown {closings : List (ℕ × ℕ)} {pk : ℕ}
    {before start after : Books} (grown : ChartOnly before start) :
    addClosing closings pk start after = addClosing closings pk before after := by
  unfold addClosing newKeys
  rw [grown.entries]

theorem PeriodRun.invariant {start books : Books} {closings : List (ℕ × ℕ)}
    (run : PeriodRun start books closings) (sound : Sound start) :
    Sound books ∧ ClosingsBalance books closings := by
  induction run with
  | start => exact ⟨sound, closingsBalance_nil start⟩
  | posted run draft written induction =>
      obtain ⟨soundBefore, balance⟩ := induction
      refine ⟨?_, balance.of_posting soundBefore written⟩
      rw [written]
      exact moves_sound (postJournal_moves draft _) soundBefore
  | closed run stored returned induction =>
      obtain ⟨soundBefore, balance⟩ := induction
      obtain ⟨_, opened, grown, _, _, closed⟩ := closePeriod_returns returned
      obtain ⟨middle, moves, locked⟩ := moves_of_closing returned
      constructor
      · rw [locked]
        exact sound_setClosed (moves_sound moves soundBefore) _ true
      · rw [← addClosing_of_grown grown]
        refine (balance.of_grown soundBefore grown).of_closing
          (sound_of_grown soundBefore grown) ?_ closed
        rw [grown.periods]
        exact stored
  | refused run failed induction =>
      obtain ⟨soundBefore, balance⟩ := induction
      have grown := closePeriod_raises failed
      exact ⟨sound_of_grown soundBefore grown, balance.of_grown soundBefore grown⟩
  | reopened run accepts closing returned induction =>
      obtain ⟨soundBefore, balance⟩ := induction
      rcases reopenWith_returns returned with rfl | rfl
      · exact ⟨soundBefore, balance⟩
      · exact ⟨sound_setClosed (sound_deleteEntries soundBefore _) _ _,
          (balance.of_reopening soundBefore closing).of_setClosed
            (sound_deleteEntries soundBefore _) _ _⟩
  | unlocked run pk written induction =>
      obtain ⟨soundBefore, balance⟩ := induction
      subst written
      exact ⟨sound_setClosed soundBefore pk false,
        balance.of_setClosed soundBefore pk false⟩
  | day run today written induction =>
      obtain ⟨soundBefore, balance⟩ := induction
      subst written
      exact ⟨sound_of_day soundBefore today, balance.of_day today⟩

end Mousstec.Accounting
