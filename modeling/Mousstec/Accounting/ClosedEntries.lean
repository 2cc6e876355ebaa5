import Mousstec.Accounting.PeriodRuns

/-!
# The entries of a closed period

While a period is closed, posting, reversing and deleting leave its entries
where they are.  An entry may only be marked reversed, when its mirror is
posted in an open period, or lose its link to an original that was deleted.
Together with the closings of a run this is the effect of closing a period.
-/

namespace Mousstec.Accounting

open Library

/-- One ledger operation while a period stays closed: posting, reversing any
stored entry on any day, taking stored entries out, closing a period, or the
day passing.  The step leads to the state the operation leaves behind, also
when it is refused. -/
inductive LedgerStep (before after : Books) : Prop where
  | posted (draft : JournalDraft)
      (written : after = (postJournal draft).final before)
  | reversed {pk : ℕ} {entry : JournalEntry}
      (stored : before.entries.get? pk = some entry) (date : Option ℤ)
      (written : after = (reverseJournal pk entry date).final before)
  | unposted (rows : List (ℕ × JournalEntry))
      (distinct : (rows.map Prod.fst).Nodup)
      (stored : ∀ row ∈ rows, before.entries.get? row.1 = some row.2)
      (written : after = (unpost rows).final before)
  | closed {pk : ℕ} {period : AccountingPeriod}
      (stored : before.periods.get? pk = some period)
      (written : after = (closePeriod pk period).final before)
  | day (today : ℤ) (written : after = { before with today })

/-- The changes the operations are made of while no period is re-opened. -/
inductive Edit (before after : Books) : Prop where
  | move (move : Move before after)
  | locked (pk : ℕ) (written : after = before.setClosed pk true)
  | day (today : ℤ) (written : after = { before with today })

abbrev Edits := Relation.ReflTransGen Edit

theorem edits_of_moves {before after : Books} (moves : Moves before after) :
    Edits before after := by
  induction moves with
  | refl => exact .refl
  | tail _ move induction => exact induction.tail (.move move)

theorem edits_of_step {before after : Books} (step : LedgerStep before after) :
    Edits before after := by
  cases step with
  | posted draft written =>
      subst written
      exact edits_of_moves (postJournal_moves draft before)
  | reversed found date written =>
      subst written
      exact edits_of_moves (reverseJournal_moves found date)
  | unposted rows distinct found written =>
      subst written
      exact edits_of_moves (unpost_moves rows before distinct fun row member =>
        ⟨row.2, found row member, rfl⟩)
  | @closed pk period found written =>
      subst written
      refine Txn.final_of (Edits before) ?_ ?_
      · intro result after returned
        obtain ⟨middle, moves, rfl⟩ := moves_of_closing returned
        exact (edits_of_moves moves).tail (.locked pk rfl)
      · intro error after failed
        exact .single (.move (.grown (closePeriod_raises failed)))
  | day today written => exact .single (.day today written)

theorem edits_of_steps {before after : Books}
    (steps : Relation.ReflTransGen LedgerStep before after) :
    Edits before after := by
  induction steps with
  | refl => exact .refl
  | tail _ step induction => exact induction.trans (edits_of_step step)

theorem sound_of_edit {before after : Books} (sound : Sound before)
    (edit : Edit before after) : Sound after := by
  cases edit with
  | move move => exact sound_of_move sound move
  | locked pk written =>
      subst written
      exact sound_setClosed sound pk true
  | day today written =>
      subst written
      exact sound_of_day sound today

/-- A period that is closed stays closed. -/
theorem closed_of_edit {before after : Books} {link : ℕ}
    {period : AccountingPeriod}
    (stored : before.periods.get? link = some period)
    (closed : period.isClosed = true) (edit : Edit before after) :
    after.periods.get? link = some period := by
  cases edit with
  | move move =>
      rw [periods_of_move move]
      exact stored
  | locked pk written =>
      subst written
      unfold Books.setClosed
      rw [Table.get?_modify]
      split
      · rename_i same
        subst same
        rw [stored, Option.map_some, ← closed]
      · exact stored
  | day today written =>
      subst written
      exact stored

/-- Between the two states the mirror image of an entry was posted, in a period
open then, and the entry was marked. -/
def Mirrored (before after : Books) (key : ℕ) (entry : JournalEntry) : Prop :=
  ∃ start middle mirror date, Edits before start ∧
    Posted (mirrorDraft entry date) start middle mirror ∧
    isOpenPeriod ((forDate start mirror.date).map Prod.snd) = true ∧
    Edits (middle.markReversed start.entries.next key) after

/-- Between the two states the entry under a key was deleted, in a period open
then. -/
def Deleted (before after : Books) (key : ℕ) : Prop :=
  ∃ start entry, Edits before start ∧ start.entries.get? key = some entry ∧
    isOpen start entry = true ∧ Edits (start.deleteEntry key) after

/-- What may have become of an entry: all of it is as it was, but for the mark
of a reversal and a link to a deleted original. -/
structure Kept (before after : Books) (key : ℕ) (entry later : JournalEntry) :
    Prop where
  same : later =
    { entry with status := later.status, reversalOf := later.reversalOf }
  status : later.status = entry.status ∨
    later.status = .reversed ∧ Mirrored before after key entry
  link : later.reversalOf = entry.reversalOf ∨
    later.reversalOf = none ∧
      ∃ original, entry.reversalOf = some original ∧
        Deleted before after original

/-- The entries dated in a period are all there, each with only the changes
`Kept` allows, and there is no other. -/
structure KeepsEntries (period : AccountingPeriod) (before after : Books) :
    Prop where
  kept : ∀ key entry, before.entries.get? key = some entry →
    period.Covers entry.date →
    ∃ later, after.entries.get? key = some later ∧
      Kept before after key entry later
  added : ∀ key later, after.entries.get? key = some later →
    period.Covers later.date →
    ∃ entry, before.entries.get? key = some entry ∧ period.Covers entry.date

theorem Kept.unchanged (before after : Books) (key : ℕ)
    (entry : JournalEntry) : Kept before after key entry entry where
  same := rfl
  status := .inl rfl
  link := .inl rfl

theorem Kept.date {before after : Books} {key : ℕ}
    {entry later : JournalEntry} (kept : Kept before after key entry later) :
    later.date = entry.date := by
  rw [kept.same]

theorem Kept.mirrorDraft {before after : Books} {key : ℕ}
    {entry later : JournalEntry} (kept : Kept before after key entry later)
    (date : Option ℤ) :
    Accounting.mirrorDraft later date = Accounting.mirrorDraft entry date := by
  rw [kept.same]
  rfl

theorem KeepsEntries.of_entries {period : AccountingPeriod}
    {before after : Books} (entries : after.entries = before.entries) :
    KeepsEntries period before after where
  kept key entry found _ := ⟨entry, by rw [entries, found], .unchanged _ _ _ _⟩
  added key later found covers := ⟨later, by rw [← entries, found], covers⟩

theorem not_covers_of_posted {draft : JournalDraft} {entry : JournalEntry}
    {before after : Books} (sound : Sound before) {link : ℕ}
    {period : AccountingPeriod}
    (stored : before.periods.get? link = some period)
    (closed : period.isClosed = true)
    (posted : Posted draft before after entry) : ¬ period.Covers entry.date := by
  intro covers
  have resolved := sound.forDate_of_covers stored covers
  have unlocked := posted.unlocked
  rw [resolved] at unlocked
  simp [isOpenPeriod, closed] at unlocked

theorem keeps_of_posted {draft : JournalDraft} {entry : JournalEntry}
    {before after : Books} (sound : Sound before) {link : ℕ}
    {period : AccountingPeriod}
    (stored : before.periods.get? link = some period)
    (closed : period.isClosed = true)
    (posted : Posted draft before after entry) :
    KeepsEntries period before after where
  kept key old found covers := by
    refine ⟨old, ?_, .unchanged _ _ _ _⟩
    rw [posted.entries]
    exact Table.get?_insert_of_some found entry
  added key later found covers := by
    rw [posted.entries, Table.get?_insert] at found
    split at found
    · cases found
      exact absurd covers (not_covers_of_posted sound stored closed posted)
    · exact ⟨later, found, covers⟩

theorem keeps_of_mirrored {before middle : Books} {pk : ℕ}
    {entry mirror : JournalEntry} {date : Option ℤ} (sound : Sound before)
    {link : ℕ} {period : AccountingPeriod}
    (stored : before.periods.get? link = some period)
    (closed : period.isClosed = true)
    (found : before.entries.get? pk = some entry)
    (posted : Posted (mirrorDraft entry date) before middle mirror) :
    KeepsEntries period before
      (middle.markReversed before.entries.next pk) where
  kept key old foundOld covers := by
    have used := Table.get?_lt foundOld
    have inserted : middle.entries.get? key = some old := by
      rw [posted.entries]
      exact Table.get?_insert_of_some foundOld mirror
    rw [get?_markReversed, inserted, Option.map_some]
    refine ⟨_, rfl, ?_⟩
    rw [if_neg (Nat.ne_of_lt used)]
    refine ⟨rfl, ?_, .inl rfl⟩
    by_cases same : key = pk
    · subst same
      rw [found, Option.some.injEq] at foundOld
      subst foundOld
      rw [if_pos rfl]
      exact .inr ⟨rfl, before, middle, mirror, date, .refl, posted,
        posted.unlocked, .refl⟩
    · rw [if_neg same]
      exact .inl rfl
  added key later foundLater covers := by
    obtain ⟨marked, foundMarked, same⟩ := marked_old key later foundLater
    rw [← frozen_date same] at covers
    exact (keeps_of_posted sound stored closed posted).added key marked
      foundMarked covers

theorem keeps_of_deleted {before : Books} {pk : ℕ} {entry : JournalEntry}
    (sound : Sound before) {link : ℕ} {period : AccountingPeriod}
    (stored : before.periods.get? link = some period)
    (closed : period.isClosed = true)
    (found : before.entries.get? pk = some entry)
    (unlocked : isOpen before entry = true) :
    KeepsEntries period before (before.deleteEntry pk) where
  kept key old foundOld covers := by
    have different : key ≠ pk := by
      intro same
      subst same
      rw [found, Option.some.injEq] at foundOld
      subst foundOld
      have resolved := sound.periodOf_of_covers found stored covers
      simp [isOpen, resolved, isOpenPeriod, closed] at unlocked
    rw [get?_deleteEntry, if_neg different, foundOld, Option.map_some]
    refine ⟨_, rfl, ?_⟩
    split
    · rename_i linked
      exact ⟨rfl, .inl rfl, .inr ⟨rfl, pk, linked, before, entry, .refl, found,
        unlocked, .refl⟩⟩
    · exact .unchanged _ _ _ _
  added key later foundLater covers := by
    obtain ⟨_, old, foundOld, same⟩ := deleted_old key later foundLater
    rw [← frozen_date same] at covers
    exact ⟨old, foundOld, covers⟩

theorem keeps_of_edit {before after : Books} (sound : Sound before)
    {link : ℕ} {period : AccountingPeriod}
    (stored : before.periods.get? link = some period)
    (closed : period.isClosed = true) (edit : Edit before after) :
    KeepsEntries period before after := by
  cases edit with
  | move move =>
      cases move with
      | grown grown => exact .of_entries grown.entries
      | posted posted => exact keeps_of_posted sound stored closed posted
      | mirrored found posted written =>
          subst written
          exact keeps_of_mirrored sound stored closed found posted
      | deleted found unlocked written =>
          subst written
          exact keeps_of_deleted sound stored closed found unlocked
  | locked pk written =>
      subst written
      exact .of_entries rfl
  | day today written =>
      subst written
      exact .of_entries rfl

theorem Mirrored.widen {first before after last : Books} {key : ℕ}
    {entry : JournalEntry} (mirrored : Mirrored before after key entry)
    (earlier : Edits first before) (further : Edits after last) :
    Mirrored first last key entry := by
  obtain ⟨start, middle, mirror, date, reached, posted, unlocked, rest⟩ :=
    mirrored
  exact ⟨start, middle, mirror, date, earlier.trans reached, posted, unlocked,
    rest.trans further⟩

theorem Deleted.widen {first before after last : Books} {key : ℕ}
    (deleted : Deleted before after key) (earlier : Edits first before)
    (further : Edits after last) : Deleted first last key := by
  obtain ⟨start, entry, reached, found, unlocked, rest⟩ := deleted
  exact ⟨start, entry, earlier.trans reached, found, unlocked,
    rest.trans further⟩

theorem Kept.trans {first middle last : Books} {key : ℕ}
    {entry between later : JournalEntry}
    (left : Kept first middle key entry between)
    (right : Kept middle last key between later)
    (earlier : Edits first middle) (further : Edits middle last) :
    Kept first last key entry later where
  same := by
    rw [right.same, left.same]
  status := by
    rcases right.status with same | ⟨marked, mirrored⟩
    · rcases left.status with sameToo | ⟨marked, mirrored⟩
      · exact .inl (same.trans sameToo)
      · exact .inr ⟨same.trans marked, mirrored.widen .refl further⟩
    · refine .inr ⟨marked, ?_⟩
      obtain ⟨start, posting, mirror, date, reached, posted, rest⟩ := mirrored
      rw [left.mirrorDraft] at posted
      exact ⟨start, posting, mirror, date, earlier.trans reached, posted, rest⟩
  link := by
    rcases right.link with same | ⟨cleared, original, linked, deleted⟩
    · rcases left.link with sameToo | ⟨cleared, original, linked, deleted⟩
      · exact .inl (same.trans sameToo)
      · exact .inr ⟨same.trans cleared, original, linked,
          deleted.widen .refl further⟩
    · rcases left.link with same | ⟨clearedBefore, _⟩
      · exact .inr ⟨cleared, original, same.symm.trans linked,
          deleted.widen earlier .refl⟩
      · rw [clearedBefore] at linked
        cases linked

theorem KeepsEntries.trans {period : AccountingPeriod}
    {first middle last : Books} (left : KeepsEntries period first middle)
    (right : KeepsEntries period middle last) (earlier : Edits first middle)
    (further : Edits middle last) : KeepsEntries period first last where
  kept key entry found covers := by
    obtain ⟨between, foundBetween, keptFirst⟩ := left.kept key entry found covers
    rw [← keptFirst.date] at covers
    obtain ⟨later, foundLater, keptThen⟩ :=
      right.kept key between foundBetween covers
    exact ⟨later, foundLater, keptFirst.trans keptThen earlier further⟩
  added key later found covers := by
    obtain ⟨between, foundBetween, coversToo⟩ := right.added key later found covers
    exact left.added key between foundBetween coversToo

theorem keeps_of_edits {before after : Books} (sound : Sound before)
    {link : ℕ} {period : AccountingPeriod}
    (stored : before.periods.get? link = some period)
    (closed : period.isClosed = true) (edits : Edits before after) :
    Sound after ∧ after.periods.get? link = some period ∧
      KeepsEntries period before after := by
  induction edits with
  | refl => exact ⟨sound, stored, .of_entries rfl⟩
  | tail edits edit induction =>
      obtain ⟨soundMiddle, storedMiddle, kept⟩ := induction
      exact ⟨sound_of_edit soundMiddle edit,
        closed_of_edit storedMiddle closed edit,
        kept.trans (keeps_of_edit soundMiddle storedMiddle closed edit) edits
          (.single edit)⟩

def resultOf (books : Books) (select : ℕ → JournalEntry → Bool) : ℤ :=
  (books.chart.pnlCodes.map fun code => -books.netOf select code).sum

theorem netOf_split {books : Books} {select part : ℕ → JournalEntry → Bool}
    (within : ∀ key entry, books.entries.get? key = some entry →
      part key entry = true → select key entry = true) (acct : Account) :
    books.netOf select acct =
      books.netOf (fun key entry => select key entry && !part key entry) acct +
        books.netOf part acct := by
  unfold Books.netOf
  rw [← Table.total_add]
  apply Table.total_congr
  intro key entry found
  by_cases chosen : part key entry = true
  · simp [chosen, within key entry found chosen]
  · simp [chosen]

/-- After a closing the period is flat, income summary is flat over the
period's closings, retained earnings has moved over them by the period's
result, the ledger balances, and its entries are kept until it is re-opened. -/
theorem closePeriod_effect {start before after : Books}
    {closings : List (ℕ × ℕ)} {pk : ℕ} {period : AccountingPeriod}
    {result : Option ℕ} (sound : Sound start)
    (run : PeriodRun start before closings)
    (stored : before.periods.get? pk = some period)
    (returned : closePeriod pk period before = .ok result after) :
    (∀ code ∈ after.chart.pnlCodes, periodNet after period code = 0) ∧
      closingNet after (addClosing closings pk before after) pk
        AccountKey.incomeSummary.code = 0 ∧
      -closingNet after (addClosing closings pk before after) pk
          AccountKey.retainedEarnings.code =
        resultOf after (fun key entry => decide (period.Covers entry.date) &&
          !decide ((pk, key) ∈ addClosing closings pk before after)) ∧
      ((after.entries.total fun _ entry => totalDebit entry.lines) =
        after.entries.total fun _ entry => totalCredit entry.lines) ∧
      ∀ later, Relation.ReflTransGen LedgerStep after later →
        KeepsEntries period after later := by
  obtain ⟨soundBefore, balanceBefore⟩ := run.invariant sound
  obtain ⟨soundAfter, balance⟩ :=
    (PeriodRun.closed run stored returned).invariant sound
  obtain ⟨_, opened, grown, _, _, closed⟩ := closePeriod_returns returned
  have soundOpened := sound_of_grown soundBefore grown
  have storedOpened : opened.periods.get? pk = some period := by
    rw [grown.periods]
    exact stored
  have storedAfter : after.periods.get? pk =
      some { period with isClosed := true } := by
    rw [closed.periods, Books.setClosed, Table.get?_modify_self, storedOpened]
    rfl
  have flat : ∀ code ∈ after.chart.pnlCodes, periodNet after period code = 0 := by
    intro code swept
    rw [closed.chart] at swept
    exact periodNet_of_closing soundOpened closed swept
  refine ⟨flat, balance.summary pk, ?_, soundAfter.totals, ?_⟩
  · have within : ∀ key entry, after.entries.get? key = some entry →
        decide ((pk, key) ∈ addClosing closings pk before after) = true →
        decide (period.Covers entry.date) = true := by
      intro key entry found listed
      obtain ⟨other, foundOther, shape, proper⟩ :=
        balance.shaped pk key entry (of_decide_eq_true listed) found
      rw [storedAfter, Option.some.injEq] at foundOther
      subst foundOther
      rw [shape.date]
      exact decide_eq_true proper
    have shares : ∀ code ∈ after.chart.pnlCodes,
        -after.netOf (fun key entry => decide (period.Covers entry.date) &&
            !decide ((pk, key) ∈ addClosing closings pk before after)) code =
          closingNet after (addClosing closings pk before after) pk code := by
      intro code swept
      have whole := flat code swept
      unfold periodNet at whole
      rw [netOf_split within] at whole
      unfold closingNet
      linarith
    have total := balance.retained pk
    unfold resultOf
    rw [List.map_congr_left shares]
    linarith
  · intro later steps
    obtain ⟨_, _, kept, added⟩ :=
      keeps_of_edits soundAfter storedAfter rfl (edits_of_steps steps)
    exact ⟨kept, added⟩

def month : AccountingPeriod :=
  ⟨"1", 1, 31, false⟩

def monthBooks : Books where
  chart := Chart.empty
  periods := Table.empty.insert month
  entries := Table.empty
  today := 40

def monthSold : Books :=
  (postJournal
    { lines := [⟨.key .ar, 10000, 0⟩, ⟨.key .salesRevenue, 0, 10000⟩]
      date := some 5 }).final monthBooks

def monthClosed : Books :=
  (closePeriod 0 month).final monthSold

theorem sound_monthBooks : Sound monthBooks where
  apart left right first second day foundFirst foundSecond _ _ := by
    have only : ∀ key period, monthBooks.periods.get? key = some period →
        key = 0 := by
      intro key period found
      have used := Table.get?_lt found
      change key < 1 at used
      omega
    rw [only left first foundFirst, only right second foundSecond]
  linked pk entry _ found := by cases found
  balanced pk entry found := by cases found
  known pk entry found := by cases found
  standard row member := by cases member

theorem monthSold_run : PeriodRun monthBooks monthSold [] :=
  .posted .start _ rfl

theorem monthSold_month : monthSold.periods.get? 0 = some month := by
  decide +kernel

theorem monthClosed_returned :
    closePeriod 0 month monthSold = .ok (some 1) monthClosed :=
  Txn.eq_ok_of_result? (by decide +kernel)

theorem closePeriod_effect_month :
    (∀ code ∈ monthClosed.chart.pnlCodes,
        periodNet monthClosed month code = 0) ∧
      closingNet monthClosed (addClosing [] 0 monthSold monthClosed) 0
        AccountKey.incomeSummary.code = 0 ∧
      -closingNet monthClosed (addClosing [] 0 monthSold monthClosed) 0
          AccountKey.retainedEarnings.code =
        resultOf monthClosed (fun key entry =>
          decide (month.Covers entry.date) &&
            !decide ((0, key) ∈ addClosing [] 0 monthSold monthClosed)) ∧
      ((monthClosed.entries.total fun _ entry => totalDebit entry.lines) =
        monthClosed.entries.total fun _ entry => totalCredit entry.lines) ∧
      ∀ later, Relation.ReflTransGen LedgerStep monthClosed later →
        KeepsEntries month monthClosed later :=
  closePeriod_effect sound_monthBooks monthSold_run monthSold_month
    monthClosed_returned

/-- Taking out an entry of a closed period does change it: the entry stays in
the period, marked reversed. -/
theorem unpost_changes_closed_entry :
    ¬ ∀ (books : Books) (link : ℕ) (period : AccountingPeriod) (pk : ℕ)
        (entry : JournalEntry), Sound books →
      books.periods.get? link = some period → period.isClosed = true →
      books.entries.get? pk = some entry → period.Covers entry.date →
      ((unpost [(pk, entry)]).final books).entries.get? pk = some entry := by
  intro unchanged
  have sound : Sound monthClosed :=
    (PeriodRun.invariant (.closed monthSold_run monthSold_month
      monthClosed_returned) sound_monthBooks).1
  have sale : (monthClosed.entries.get? 0).isSome = true := by decide +kernel
  obtain ⟨entry, found⟩ := Option.isSome_iff_exists.mp sale
  have dated : (monthClosed.entries.get? 0).all
      (fun entry => month.Covers entry.date) = true := by
    decide +kernel
  have marked : (monthClosed.entries.get? 0).all (fun entry =>
      ((unpost [(0, entry)]).final monthClosed).entries.get? 0 ≠ some entry) =
        true := by
    decide +kernel
  rw [found] at dated marked
  have same := unchanged monthClosed 0 { month with isClosed := true } 0 entry
    sound (by decide +kernel) rfl found (of_decide_eq_true dated)
  exact of_decide_eq_true marked same

end Mousstec.Accounting
