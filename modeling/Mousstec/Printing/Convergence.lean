import Mousstec.Printing.Sync

/-!
# The printing ledger converges

Whatever mixture of originals, adjustments and moved entries stands under a
reference, a `sync` that returns leaves their sum equal to the target.  It
touches neither other references nor entries of locked periods, and doing it
again changes no amount.  A document's ledger therefore always shows the last
target that was synchronised, however edits and period closings interleave.
-/

namespace Mousstec.Printing

open Library Accounting

def targetNet (target : Target) (acct : Account) : ℤ :=
  (target.map fun item => if item.1.account = acct then q item.2 else 0).sum

def roundedTarget (target : Target) : List (Account × ℤ) :=
  target.filterMap fun item =>
    if q item.2 = 0 then none else some (item.1.account, q item.2)

theorem tally_roundedTarget (target : Target) (acct : Account) :
    tally (roundedTarget target) acct = targetNet target acct := by
  induction target with
  | nil => rfl
  | cons item rest induction =>
      unfold roundedTarget targetNet at induction ⊢
      by_cases nothing : q item.2 = 0
      · simp [nothing, induction]
      · simp [nothing, induction]

theorem allowedType_print (logical : PrintAccountKey) :
    AllowedType (PRINT_ACCOUNTS logical).1 (PRINT_ACCOUNTS logical).2 := by
  unfold AllowedType
  cases logical <;> decide

theorem account_ok (ref : PrintAccountRef) (before : Books) :
    ∃ after, account ref before = .ok ref.account after ∧
      ChartOnly before after := by
  cases ref with
  | key logical =>
      exact ⟨_, rfl, chartOnly_getOrCreate before (allowedType_print logical)⟩
  | row stored => exact ⟨before, rfl, .refl _⟩

theorem wantedAmounts_ok (target : Target) (before : Books) :
    ∃ after, wantedAmounts target before = .ok (roundedTarget target) after ∧
      ChartOnly before after := by
  induction target generalizing before with
  | nil => exact ⟨before, rfl, .refl _⟩
  | cons item rest induction =>
      by_cases nothing : q item.2 = 0
      · obtain ⟨after, returned, grown⟩ := induction before
        refine ⟨after, ?_, grown⟩
        simpa [wantedAmounts, roundedTarget, nothing] using returned
      · obtain ⟨middle, resolved, first⟩ := account_ok item.1 before
        obtain ⟨after, returned, grown⟩ := induction middle
        refine ⟨after, ?_, first.trans grown⟩
        simp only [wantedAmounts, nothing, if_false, Txn.bind_eq_ok,
          Txn.pure_eq_ok]
        refine ⟨_, middle, resolved, _, after, returned, ?_, rfl⟩
        simp [roundedTarget, nothing]

theorem mem_existing {books : Books} {reference : Reference} {pk : ℕ}
    {entry : JournalEntry} :
    (pk, entry) ∈ existing books reference ↔
      books.entries.get? pk = some entry ∧ entry.reference = reference := by
  rw [existing, List.mem_filter, Table.get?_eq_some]
  simp

theorem ledgerByAccount_eq_zero {books : Books} {reference : Reference}
    {acct : Account} (absent : acct ∉ ledgerAccounts books reference) :
    ledgerByAccount books reference acct = 0 := by
  unfold ledgerByAccount Books.netOf
  apply Table.total_eq_zero
  intro pk entry stored
  by_cases under : entry.reference = reference
  · simp only [under, decide_true, if_true]
    apply net_eq_zero
    intro line member same
    apply absent
    rw [ledgerAccounts, List.mem_flatMap]
    exact ⟨(pk, entry), mem_existing.mpr ⟨stored, under⟩,
      List.mem_map.mpr ⟨line, member, same⟩⟩
  · simp [under]

theorem ledgerByAccount_of_chartOnly {before after : Books}
    (grown : ChartOnly before after) (reference : Reference) (acct : Account) :
    ledgerByAccount after reference acct =
      ledgerByAccount before reference acct :=
  grown.netOf _ acct

/-- A posting under the reference adds its lines to the sum and leaves every
stored entry alone. -/
theorem postJournal_under {draft : JournalDraft} {result : Option ℕ}
    {before after : Books}
    (returned : postJournal draft before = .ok result after) :
    (∀ acct, ledgerByAccount after draft.reference acct =
      ledgerByAccount before draft.reference acct +
        net (postings draft.lines) acct) ∧
      (∀ pk entry, before.entries.get? pk = some entry →
        after.content? pk = before.content? pk) ∧
      (∀ pk entry, after.entries.get? pk = some entry →
        entry.reference ≠ draft.reference →
        after.content? pk = before.content? pk) ∧
      after.periods = before.periods ∧ after.today = before.today := by
  rcases postJournal_returns returned with
    ⟨rfl, nothing, grown⟩ | ⟨posted, rfl, effect⟩
  · refine ⟨?_, ?_, ?_, grown.periods, grown.today⟩
    · intro acct
      simp [ledgerByAccount_of_chartOnly grown, nothing]
    · intro pk entry _
      exact grown.content? pk
    · intro pk entry _ _
      exact grown.content? pk
  · refine ⟨?_, ?_, ?_, effect.periods, effect.today⟩
    · intro acct
      have sum := effect.netOf
        (fun _ entry => entry.reference = draft.reference) acct
      simpa [ledgerByAccount, effect.reference] using sum
    · intro pk entry stored
      rw [effect.content?, if_neg (Nat.ne_of_lt (Table.get?_lt stored))]
    · intro pk entry stored other
      rw [effect.content?, if_neg]
      rintro rfl
      rw [effect.entries, Table.get?_insert_next, Option.some.injEq] at stored
      exact other (stored ▸ effect.reference)

/-- The entries were rewritten in place: amounts and references all stay, and
what is under another reference or locked changes its links at most. -/
structure Rewritten (reference : Reference) (before after : Books) : Prop where
  chart : after.chart = before.chart
  periods : after.periods = before.periods
  today : after.today = before.today
  entries : ∃ change : ℕ → JournalEntry → JournalEntry,
    after.entries = before.entries.map change ∧
      ∀ pk entry, (change pk entry).lines = entry.lines ∧
        (change pk entry).reference = entry.reference ∧
        (entry.reference ≠ reference ∨
            before.entries.get? pk = some entry ∧ isOpen before entry = false →
          (change pk entry).content = entry.content)

namespace Rewritten

variable {reference : Reference} {before after : Books}

theorem refl (reference : Reference) (books : Books) :
    Rewritten reference books books := by
  refine ⟨rfl, rfl, rfl, fun _ entry => entry, ?_, fun _ _ => ⟨rfl, rfl, fun _ => rfl⟩⟩
  apply Table.ext
  · simp [Table.map]
  · rfl

theorem ledgerByAccount (rewritten : Rewritten reference before after)
    (acct : Account) :
    ledgerByAccount after reference acct =
      Printing.ledgerByAccount before reference acct := by
  obtain ⟨change, entries, same⟩ := rewritten.entries
  unfold Printing.ledgerByAccount Books.netOf
  rw [entries, Table.total_map]
  apply Table.total_congr
  intro pk entry _
  simp only [(same pk entry).1, (same pk entry).2.1]

theorem lines (rewritten : Rewritten reference before after) (pk : ℕ) :
    (after.entries.get? pk).map JournalEntry.lines =
      (before.entries.get? pk).map JournalEntry.lines := by
  obtain ⟨change, entries, same⟩ := rewritten.entries
  rw [entries, Table.get?_map, Option.map_map]
  congr 1
  funext entry
  exact (same pk entry).1

theorem next (rewritten : Rewritten reference before after) :
    after.entries.next = before.entries.next := by
  obtain ⟨change, entries, _⟩ := rewritten.entries
  rw [entries, Table.map_next]

theorem content? (rewritten : Rewritten reference before after) {pk : ℕ}
    {entry : JournalEntry} (stored : before.entries.get? pk = some entry)
    (fixed : entry.reference ≠ reference ∨ isOpen before entry = false) :
    after.content? pk = before.content? pk := by
  obtain ⟨change, entries, same⟩ := rewritten.entries
  unfold Books.content?
  rw [entries, Table.get?_map, stored]
  simp only [Option.map_some, Option.some.injEq]
  exact (same pk entry).2.2 (fixed.imp id fun locked => ⟨stored, locked⟩)

theorem reference_ne (rewritten : Rewritten reference before after) {pk : ℕ}
    {entry : JournalEntry} (stored : after.entries.get? pk = some entry)
    (other : entry.reference ≠ reference) :
    after.content? pk = before.content? pk := by
  obtain ⟨change, entries, same⟩ := rewritten.entries
  rw [entries, Table.get?_map, Option.map_eq_some_iff] at stored
  obtain ⟨old, found, rfl⟩ := stored
  refine rewritten.content? found (.inl ?_)
  rwa [(same pk old).2.1] at other

end Rewritten

theorem redate_eq_of_locked {reference : Reference} {day : ℤ}
    {before : Books} {period : Option ℕ} {pk : ℕ} {entry : JournalEntry}
    (stored : before.entries.get? pk = some entry)
    (locked : isOpen before entry = false)
    (allOpen : ∀ row ∈ (existing before reference).filter
      fun row => row.2.date ≠ day, isOpen before row.2 = true) :
    redate reference day period entry = entry := by
  unfold redate
  rw [if_neg]
  rintro ⟨under, elsewhere⟩
  have member : (pk, entry) ∈
      (existing before reference).filter fun row => row.2.date ≠ day := by
    rw [List.mem_filter, mem_existing]
    exact ⟨⟨stored, under⟩, by simpa using elsewhere⟩
  have unlocked := allOpen (pk, entry) member
  rw [locked] at unlocked
  exact Bool.false_ne_true unlocked

theorem moveDates_ok (reference : Reference) (day : ℤ) (before : Books) :
    ∃ after, moveDates reference day before = .ok ⟨⟩ after ∧
      Rewritten reference before after := by
  unfold moveDates
  simp only [Txn.get_bind]
  split
  · exact ⟨before, rfl, .refl _ _⟩
  · rename_i movable
    simp only [not_or, Bool.not_eq_false, List.all_eq_true] at movable
    split
    · refine ⟨_, rfl, rfl, rfl, rfl,
        fun _ => redate reference day ((forDate before day).map Prod.fst),
        rfl, ?_⟩
      intro pk entry
      have posted : (redate reference day
          ((forDate before day).map Prod.fst) entry).lines = entry.lines ∧
          (redate reference day ((forDate before day).map Prod.fst)
            entry).reference = entry.reference := by
        unfold redate
        split
        · exact ⟨rfl, rfl⟩
        · exact ⟨rfl, rfl⟩
      refine ⟨posted.1, posted.2, ?_⟩
      rintro (other | ⟨stored, locked⟩)
      · simp [redate, other]
      · exact congrArg JournalEntry.content
          (redate_eq_of_locked stored locked movable.2)
    · exact ⟨before, rfl, .refl _ _⟩

theorem followDate_ok (reference : Reference) (date : Option ℤ)
    (before : Books) :
    ∃ after, followDate reference before date before = .ok ⟨⟩ after ∧
      Rewritten reference before after := by
  cases date with
  | none => exact ⟨before, rfl, .refl _ _⟩
  | some day =>
      unfold followDate
      split
      · exact moveDates_ok reference day before
      · exact ⟨before, rfl, .refl _ _⟩

theorem retag_content (books : Books) (branch : Option ℕ)
    (entry : JournalEntry) :
    (retag books branch entry).content = entry.content := by
  unfold retag
  split
  · rfl
  · split <;> rfl
  · rfl
  · split <;> rfl

theorem tagBranch_ok (reference : Reference) (branch : Option ℕ)
    (before : Books) :
    ∃ after, tagBranch reference branch before = .ok ⟨⟩ after ∧
      Rewritten reference before after := by
  refine ⟨_, rfl, rfl, rfl, rfl, fun _ entry =>
    if entry.reference = reference then retag before branch entry else entry,
    rfl, ?_⟩
  intro pk entry
  have same : (if entry.reference = reference then retag before branch entry
      else entry).content = entry.content := by
    split
    · exact retag_content before branch entry
    · rfl
  have lines := congrArg JournalEntry.lines same
  have references := congrArg JournalEntry.reference same
  exact ⟨lines, references, fun _ => same⟩

/-- The effect of a `sync` that returns. -/
structure Synced (reference : Reference) (target : Target)
    (before after : Books) : Prop where
  converged : ∀ acct,
    ledgerByAccount after reference acct = targetNet target acct
  kept : ∀ pk entry, before.entries.get? pk = some entry →
    entry.reference ≠ reference ∨ isOpen before entry = false →
    after.content? pk = before.content? pk
  elsewhere : ∀ pk entry, after.entries.get? pk = some entry →
    entry.reference ≠ reference → after.content? pk = before.content? pk
  periods : after.periods = before.periods
  today : after.today = before.today

namespace Synced

variable {reference : Reference} {target : Target}
  {before middle after : Books}

theorem afterChart (grown : ChartOnly before middle)
    (synced : Synced reference target middle after) :
    Synced reference target before after where
  converged := synced.converged
  kept pk entry stored fixed := by
    rw [← grown.content?]
    apply synced.kept pk entry
    · rw [grown.entries, stored]
    · rwa [isOpen_congr grown.periods]
  elsewhere pk entry stored other := by
    rw [← grown.content?]
    exact synced.elsewhere pk entry stored other
  periods := synced.periods.trans grown.periods
  today := synced.today.trans grown.today

theorem thenRewritten (synced : Synced reference target before middle)
    (rewritten : Rewritten reference middle after) :
    Synced reference target before after where
  converged acct := by
    rw [rewritten.ledgerByAccount, synced.converged]
  kept pk entry stored fixed := by
    have same := synced.kept pk entry stored fixed
    rw [← same]
    rw [content?_of_get? stored] at same
    obtain ⟨later, found, content⟩ := Option.map_eq_some_iff.mp same
    apply rewritten.content? found
    rw [← isOpen_content, content, isOpen_content,
      isOpen_congr synced.periods]
    rwa [content_reference content]
  elsewhere pk entry stored other := by
    have same := rewritten.reference_ne stored other
    rw [content?_of_get? stored] at same
    obtain ⟨earlier, found, content⟩ := Option.map_eq_some_iff.mp same.symm
    rw [content?_of_get? stored, same]
    apply synced.elsewhere pk earlier found
    rwa [content_reference content]
  periods := rewritten.periods.trans synced.periods
  today := rewritten.today.trans synced.today

end Synced

private theorem agree_elsewhere {books : Books} {reference : Reference}
    {wanted : List (Account × ℤ)} {acct : Account}
    (absent : acct ∉
      (wanted.map Prod.fst ++ ledgerAccounts books reference).eraseDups) :
    tally wanted acct = ledgerByAccount books reference acct := by
  rw [List.mem_eraseDups, List.mem_append, not_or] at absent
  rw [tally_eq_zero absent.1, ledgerByAccount_eq_zero absent.2]

/-- Once nothing is left to post, only days may still move. -/
private theorem synced_of_equal {reference : Reference} {target : Target}
    {before after : Books}
    (equal : ∀ acct ∈ ((roundedTarget target).map Prod.fst ++
      ledgerAccounts before reference).eraseDups,
      tally (roundedTarget target) acct -
        ledgerByAccount before reference acct = 0)
    (rewritten : Rewritten reference before after) :
    Synced reference target before after := by
  have already : Synced reference target before before := by
    refine ⟨?_, fun _ _ _ _ => rfl, fun _ _ _ _ => rfl, rfl, rfl⟩
    intro acct
    rw [← tally_roundedTarget]
    by_cases listed : acct ∈ ((roundedTarget target).map Prod.fst ++
        ledgerAccounts before reference).eraseDups
    · have none := equal acct listed
      omega
    · exact (agree_elsewhere listed).symm
  exact already.thenRewritten rewritten

private theorem ledgerByAccount_deleteEntries (books : Books)
    (reference : Reference) (acct : Account) :
    ledgerByAccount
      (books.deleteEntries ((existing books reference).map Prod.fst))
      reference acct = 0 := by
  unfold ledgerByAccount Books.netOf
  apply Table.total_eq_zero
  intro pk entry stored
  rw [if_neg]
  simp only [decide_eq_true_eq]
  intro under
  have same := content?_deleteEntries books
    ((existing books reference).map Prod.fst) pk
  rw [content?_of_get? stored] at same
  split at same
  · cases same
  · rename_i kept
    obtain ⟨old, found, content⟩ := Option.map_eq_some_iff.mp same.symm
    apply kept
    exact List.mem_map.mpr
      ⟨(pk, old),
        mem_existing.mpr ⟨found, (content_reference content).trans under⟩, rfl⟩

/-- Writing the document's entry again: all old entries go, the target's
lines come. -/
private theorem synced_of_rewrite {reference : Reference} {target : Target}
    {before after : Books}
    (allOpen : ∀ row ∈ existing before reference, isOpen before row.2 = true)
    (sum : ∀ acct, ledgerByAccount after reference acct =
      ledgerByAccount
          (before.deleteEntries ((existing before reference).map Prod.fst))
          reference acct +
        net (settle ((roundedTarget target).map Prod.fst).eraseDups
          (tally (roundedTarget target)) fun _ => 0) acct)
    (kept : ∀ pk entry,
      (before.deleteEntries ((existing before reference).map
        Prod.fst)).entries.get? pk = some entry →
      after.content? pk = (before.deleteEntries
        ((existing before reference).map Prod.fst)).content? pk)
    (elsewhere : ∀ pk entry, after.entries.get? pk = some entry →
      entry.reference ≠ reference →
      after.content? pk = (before.deleteEntries
        ((existing before reference).map Prod.fst)).content? pk)
    (periods : after.periods = before.periods)
    (today : after.today = before.today) :
    Synced reference target before after where
  converged acct := by
    rw [sum, ledgerByAccount_deleteEntries, ← tally_roundedTarget]
    refine net_settle_add (nodup_eraseDups _) _ (fun _ => 0) ?_ acct
    intro other absent
    rw [List.mem_eraseDups] at absent
    exact tally_eq_zero absent
  kept pk entry stored fixed := by
    have outside : pk ∉ (existing before reference).map Prod.fst := by
      intro listed
      obtain ⟨row, member, rfl⟩ := List.mem_map.mp listed
      obtain ⟨found, under⟩ := mem_existing.mp member
      rw [found, Option.some.injEq] at stored
      subst stored
      rcases fixed with other | locked
      · exact other under
      · rw [allOpen row member] at locked
        cases locked
    have same := content?_deleteEntries before
      ((existing before reference).map Prod.fst) pk
    rw [if_neg outside] at same
    rw [← same]
    rw [content?_of_get? stored] at same
    obtain ⟨left, found, _⟩ := Option.map_eq_some_iff.mp same
    exact kept pk left found
  elsewhere pk entry stored other := by
    have same := elsewhere pk entry stored other
    rw [same]
    rw [content?_of_get? stored, content?_deleteEntries] at same
    rw [content?_deleteEntries]
    split at same
    · cases same
    · rename_i outside
      rw [if_neg outside]
  periods := periods
  today := today

/-- Posting the difference only adds an entry. -/
private theorem synced_of_difference {reference : Reference} {target : Target}
    {before after : Books}
    (sum : ∀ acct, ledgerByAccount after reference acct =
      ledgerByAccount before reference acct +
        net (settle ((roundedTarget target).map Prod.fst ++
            ledgerAccounts before reference).eraseDups
          (tally (roundedTarget target))
          (ledgerByAccount before reference)) acct)
    (kept : ∀ pk entry, before.entries.get? pk = some entry →
      after.content? pk = before.content? pk)
    (elsewhere : ∀ pk entry, after.entries.get? pk = some entry →
      entry.reference ≠ reference → after.content? pk = before.content? pk)
    (periods : after.periods = before.periods)
    (today : after.today = before.today) :
    Synced reference target before after where
  converged acct := by
    rw [sum, ← tally_roundedTarget]
    exact net_settle_add (nodup_eraseDups _) _ _
      (fun _ absent => agree_elsewhere absent) acct
  kept pk entry stored _ := kept pk entry stored
  elsewhere := elsewhere
  periods := periods
  today := today

theorem syncEntries_returns {reference : Reference} {target : Target}
    {journalType : JournalType} {date : Option ℤ} {result : Option ℕ}
    {before after : Books}
    (returned : syncEntries reference target journalType date before =
      .ok result after) :
    Synced reference target before after := by
  obtain ⟨first, resolved, grown⟩ := wantedAmounts_ok target before
  simp only [syncEntries, Txn.bind_eq_ok, resolved, EStateM.Result.ok.injEq,
    Txn.get_eq_ok] at returned
  obtain ⟨_, _, ⟨rfl, rfl⟩, _, _, ⟨rfl, rfl⟩, returned⟩ := returned
  refine Synced.afterChart grown ?_
  split at returned
  · rename_i equal
    rw [Txn.bind_eq_ok] at returned
    obtain ⟨_, middle, moved, finished⟩ := returned
    obtain ⟨rfl, rfl⟩ := Txn.pure_eq_ok.mp finished
    obtain ⟨_, done, rewritten⟩ := followDate_ok reference date first
    rw [done, EStateM.Result.ok.injEq] at moved
    exact synced_of_equal equal (moved.2 ▸ rewritten)
  · rw [Txn.atomic_eq_ok] at returned
    split at returned
    · rename_i allOpen
      rw [Txn.bind_eq_ok] at returned
      obtain ⟨_, cleared, deleted, returned⟩ := returned
      rw [Txn.forM_modify, EStateM.Result.ok.injEq] at deleted
      have folded : cleared =
          first.deleteEntries ((existing first reference).map Prod.fst) := by
        rw [← deleted.2, Books.deleteEntries, List.foldl_map]
      subst folded
      obtain ⟨-, periods, today, -⟩ := deleteEntries_frame first
        ((existing first reference).map Prod.fst)
      split at returned
      · rename_i nothing
        obtain ⟨_, rfl⟩ := Txn.pure_eq_ok.mp returned
        refine synced_of_rewrite allOpen ?_ (fun _ _ _ => rfl)
          (fun _ _ _ _ => rfl) periods today
        simp [nothing]
      · obtain ⟨sum, kept, elsewhere, samePeriods, sameToday⟩ :=
          postJournal_under returned
        refine synced_of_rewrite allOpen ?_ kept elsewhere
          (samePeriods.trans periods) (sameToday.trans today)
        intro acct
        rw [sum, net_postings_ofPosting]
    · obtain ⟨sum, kept, elsewhere, samePeriods, sameToday⟩ :=
        postJournal_under returned
      refine synced_of_difference ?_ kept elsewhere samePeriods sameToday
      intro acct
      rw [sum, net_postings_ofPosting]

theorem syncEntries_raises {reference : Reference} {target : Target}
    {journalType : JournalType} {date : Option ℤ} {raised : LedgerError}
    {before after : Books}
    (failed : syncEntries reference target journalType date before =
      .error raised after) :
    ChartOnly before after := by
  obtain ⟨first, resolved, grown⟩ := wantedAmounts_ok target before
  simp only [syncEntries, Txn.bind_eq_error, resolved, Txn.get_eq_error,
    Txn.get_eq_ok, EStateM.Result.ok.injEq, reduceCtorEq, false_or] at failed
  obtain ⟨_, _, ⟨rfl, rfl⟩, _, _, ⟨rfl, rfl⟩, failed⟩ := failed
  split at failed
  · rw [Txn.bind_eq_error] at failed
    rcases failed with failed | ⟨_, _, _, failed⟩
    · obtain ⟨_, done, _⟩ := followDate_ok reference date first
      rw [done] at failed
      cases failed
    · exact (Txn.pure_eq_error failed).elim
  · rw [(Txn.atomic_eq_error.mp failed).1]
    exact grown

theorem sync_returns {reference : Reference} {target : Target}
    {options : SyncOptions} {result : Option ℕ} {before after : Books}
    (returned : sync reference target options before = .ok result after) :
    Synced reference target before after := by
  simp only [sync, Txn.bind_eq_ok] at returned
  obtain ⟨_, middle, synced, _, tagged, tagging, finished⟩ := returned
  obtain ⟨_, rfl⟩ := Txn.pure_eq_ok.mp finished
  obtain ⟨_, done, rewritten⟩ := tagBranch_ok reference options.branch middle
  rw [done, EStateM.Result.ok.injEq] at tagging
  exact (syncEntries_returns synced).thenRewritten (tagging.2 ▸ rewritten)

theorem sync_raises {reference : Reference} {target : Target}
    {options : SyncOptions} {raised : LedgerError} {before after : Books}
    (failed : sync reference target options before = .error raised after) :
    ChartOnly before after := by
  simp only [sync, Txn.bind_eq_error] at failed
  rcases failed with failed | ⟨_, middle, _, failed⟩
  · exact syncEntries_raises failed
  · obtain ⟨_, done, _⟩ := tagBranch_ok reference options.branch middle
    rcases failed with failed | ⟨_, _, _, failed⟩
    · rw [done] at failed
      cases failed
    · exact (Txn.pure_eq_error failed).elim

/-- The entries are the same up to where they stand: same keys, same lines. -/
def SameAmounts (before after : Books) : Prop :=
  after.entries.next = before.entries.next ∧
    ∀ pk, (after.entries.get? pk).map JournalEntry.lines =
      (before.entries.get? pk).map JournalEntry.lines

theorem sync_settled {reference : Reference} {target : Target}
    (options : SyncOptions) {books : Books}
    (settled : ∀ acct,
      ledgerByAccount books reference acct = targetNet target acct) :
    ∃ again, sync reference target options books = .ok none again ∧
      SameAmounts books again := by
  obtain ⟨first, resolved, grown⟩ := wantedAmounts_ok target books
  have equal : ∀ acct ∈ ((roundedTarget target).map Prod.fst ++
      ledgerAccounts first reference).eraseDups,
      tally (roundedTarget target) acct -
        ledgerByAccount first reference acct = 0 := by
    intro acct _
    rw [tally_roundedTarget, ledgerByAccount_of_chartOnly grown, settled,
      sub_self]
  obtain ⟨middle, done, moved⟩ := followDate_ok reference options.date first
  have returned : syncEntries reference target options.journalType
      options.date books = .ok none middle := by
    simp only [syncEntries, Txn.bind_eq_ok, Txn.get_bind]
    refine ⟨_, first, resolved, ?_⟩
    rw [if_pos equal, Txn.bind_eq_ok]
    exact ⟨_, middle, done, rfl⟩
  obtain ⟨again, tagging, second⟩ :=
    tagBranch_ok reference options.branch middle
  refine ⟨again, ?_, ?_, ?_⟩
  · simp only [sync, Txn.bind_eq_ok]
    exact ⟨none, middle, returned, _, again, tagging, rfl⟩
  · rw [second.next, moved.next, grown.entries]
  · intro pk
    rw [second.lines, moved.lines, grown.entries]

/-- The entry belongs to a closed period: the one it is linked to or, without
a link, the one its day falls in. -/
def InClosedPeriod (books : Books) (entry : JournalEntry) : Prop :=
  ∃ period, periodOf books entry = some period ∧ period.isClosed = true

theorem isOpen_eq_false {books : Books} {entry : JournalEntry} :
    isOpen books entry = false ↔ InClosedPeriod books entry := by
  unfold isOpen InClosedPeriod
  cases periodOf books entry with
  | none => simp [isOpenPeriod]
  | some period => simp [isOpenPeriod]

def SameUnder (reference : Reference) (before after : Books) : Prop :=
  ∀ pk, ((after.entries.get? pk).filter fun entry =>
      entry.reference = reference) =
    (before.entries.get? pk).filter fun entry => entry.reference = reference

theorem SameUnder.ledgerByAccount {reference : Reference} {before after : Books}
    (same : SameUnder reference before after) (acct : Account) :
    ledgerByAccount after reference acct =
      Printing.ledgerByAccount before reference acct := by
  unfold Printing.ledgerByAccount Books.netOf
  exact Table.total_eq_of_filter same

/-- The life of a document's entries, with the target last synchronised.
Between two calls anything may happen elsewhere: days pass, other documents
post, periods are closed, re-opened or edited. -/
inductive DocumentRun (reference : Reference) (start : Books) :
    Books → Option Target → Prop where
  | start : DocumentRun reference start start none
  | synced (run : DocumentRun reference start before last)
      (returned : sync reference target options before = .ok result after) :
      DocumentRun reference start after (some target)
  | refused (run : DocumentRun reference start before last)
      (failed : sync reference target options before = .error raised after) :
      DocumentRun reference start after last
  | elsewhere (run : DocumentRun reference start before last)
      (same : SameUnder reference before after) :
      DocumentRun reference start after last

private theorem DocumentRun.converged {reference : Reference}
    {start final : Books} {last : Option Target}
    (run : DocumentRun reference start final last) :
    ∀ target, last = some target → ∀ acct,
      ledgerByAccount final reference acct = targetNet target acct := by
  induction run with
  | start =>
      intro target last
      cases last
  | synced run returned induction =>
      intro target last acct
      cases last
      exact (sync_returns returned).converged acct
  | refused run failed induction =>
      intro target last acct
      rw [ledgerByAccount_of_chartOnly (sync_raises failed)]
      exact induction target last acct
  | elsewhere run same induction =>
      intro target last acct
      rw [same.ledgerByAccount]
      exact induction target last acct

/-- One call of `sync` converges, respects closed periods and other documents
and settles, or raises and leaves every entry as it was; over a whole run the
ledger shows the last target. -/
theorem sync_convergence (reference : Reference) :
    (∀ target options before,
      match sync reference target options before with
      | .ok _ after =>
          (∀ acct, ledgerByAccount after reference acct =
            targetNet target acct) ∧
          (∀ pk entry, before.entries.get? pk = some entry →
            entry.reference ≠ reference ∨ InClosedPeriod before entry →
            after.content? pk = some entry.content) ∧
          (∀ pk entry, after.entries.get? pk = some entry →
            entry.reference ≠ reference →
            before.content? pk = some entry.content) ∧
          ∃ again, sync reference target options after = .ok none again ∧
            SameAmounts after again
      | .error _ after => ChartOnly before after) ∧
    ∀ start final target, DocumentRun reference start final (some target) →
      ∀ acct, ledgerByAccount final reference acct = targetNet target acct := by
  constructor
  · intro target options before
    cases called : sync reference target options before with
    | ok result after =>
        have synced := sync_returns called
        refine ⟨synced.converged, ?_, ?_, sync_settled options synced.converged⟩
        · intro pk entry stored fixed
          rw [synced.kept pk entry stored (fixed.imp id isOpen_eq_false.mpr),
            content?_of_get? stored]
        · intro pk entry stored other
          rw [← synced.elsewhere pk entry stored other,
            content?_of_get? stored]
    | error raised after => exact sync_raises called
  · intro start final target run
    exact run.converged target rfl

end Mousstec.Printing
