import Mathlib.Logic.Relation
import Mousstec.Accounting.PeriodClose

/-!
# Closed periods

Two facts about period closing.  Closing brings every revenue and expense
account of the period to zero and moves exactly the period's result to
retained earnings, however often it is closed and re-opened.  And while a
period is closed, posting, reversing and deleting leave its entries where they
are; at most an entry is marked reversed or loses its link to a deleted one.
-/

namespace Mousstec.Accounting

open Library

/-- Periods do not overlap, an entry's linked period covers its day, entries
balance, and their accounts are in a standard chart. -/
structure Sound (books : Books) : Prop where
  apart : ∀ left right first second day,
    books.periods.get? left = some first →
    books.periods.get? right = some second →
    first.Covers day → second.Covers day → left = right
  linked : ∀ pk entry link, books.entries.get? pk = some entry →
    entry.period = some link →
    ∃ period, books.periods.get? link = some period ∧ period.Covers entry.date
  balanced : ∀ pk entry, books.entries.get? pk = some entry →
    totalDebit entry.lines = totalCredit entry.lines
  known : ∀ pk entry, books.entries.get? pk = some entry →
    ∀ line ∈ entry.lines, line.account ∈ books.chart.codes
  standard : books.chart.Standard

namespace Sound

variable {books : Books} (sound : Sound books)

include sound

theorem forDate_of_covers {pk : ℕ} {period : AccountingPeriod} {day : ℤ}
    (stored : books.periods.get? pk = some period) (covers : period.Covers day) :
    forDate books day = some (pk, period) := by
  cases found : forDate books day with
  | none => exact absurd covers (forDate_eq_none.mp found pk period stored)
  | some row =>
      obtain ⟨resolved, coversToo⟩ := forDate_covers found
      have same := sound.apart row.1 pk row.2 period day resolved stored
        coversToo covers
      subst same
      rw [resolved, Option.some.injEq] at stored
      subst stored
      rfl

theorem periodOf_of_covers {key pk : ℕ} {entry : JournalEntry}
    {period : AccountingPeriod} (posted : books.entries.get? key = some entry)
    (stored : books.periods.get? pk = some period)
    (covers : period.Covers entry.date) :
    periodOf books entry = some period := by
  unfold periodOf
  cases link : entry.period with
  | none => rw [sound.forDate_of_covers stored covers]; rfl
  | some linked =>
      obtain ⟨other, resolved, coversToo⟩ :=
        sound.linked key entry linked posted link
      have same := sound.apart linked pk other period entry.date resolved
        stored coversToo covers
      subst same
      exact stored

theorem netOf_unknown {acct : Account} (unknown : acct ∉ books.chart.codes)
    (select : ℕ → JournalEntry → Bool) : books.netOf select acct = 0 := by
  unfold Books.netOf
  apply Table.total_eq_zero
  intro pk entry stored
  have absent : net entry.lines acct = 0 := by
    apply net_eq_zero
    rintro line member rfl
    exact unknown (sound.known pk entry stored line member)
  rw [absent, ite_self]

theorem totals :
    (books.entries.total fun _ entry => totalDebit entry.lines) =
      books.entries.total fun _ entry => totalCredit entry.lines :=
  Table.total_congr sound.balanced

end Sound

def JournalEntry.frozen (entry : JournalEntry) : JournalEntry :=
  { entry.content with status := .posted }

/-- The elementary changes the posting operations are made of. -/
inductive Move (before after : Books) : Prop where
  | grown (grown : ChartOnly before after)
  | posted {draft : JournalDraft} {entry : JournalEntry}
      (posted : Posted draft before after entry)
  | mirrored {pk : ℕ} {entry mirror : JournalEntry} {date : Option ℤ}
      {middle : Books} (stored : before.entries.get? pk = some entry)
      (posted : Posted (mirrorDraft entry date) before middle mirror)
      (written : after = middle.markReversed before.entries.next pk)
  | deleted {pk : ℕ} {entry : JournalEntry}
      (stored : before.entries.get? pk = some entry)
      (unlocked : isOpen before entry = true)
      (written : after = before.deleteEntry pk)

abbrev Moves := Relation.ReflTransGen Move

theorem frozen_date {left right : JournalEntry}
    (same : left.frozen = right.frozen) : left.date = right.date := by
  have fields : left.frozen.date = right.frozen.date :=
    congrArg JournalEntry.date same
  exact fields

theorem frozen_period {left right : JournalEntry}
    (same : left.frozen = right.frozen) : left.period = right.period := by
  have fields : left.frozen.period = right.frozen.period :=
    congrArg JournalEntry.period same
  exact fields

theorem frozen_lines {left right : JournalEntry}
    (same : left.frozen = right.frozen) : left.lines = right.lines := by
  have fields : left.frozen.lines = right.frozen.lines :=
    congrArg JournalEntry.lines same
  exact fields

theorem frozen_of_content {left right : JournalEntry}
    (same : left.content = right.content) : left.frozen = right.frozen := by
  unfold JournalEntry.frozen
  rw [same]

theorem isOpen_of_frozen (books : Books) {left right : JournalEntry}
    (same : left.frozen = right.frozen) :
    isOpen books left = isOpen books right := by
  unfold isOpen periodOf
  rw [frozen_date same, frozen_period same]

theorem sound_of_grown {before after : Books} (sound : Sound before)
    (grown : ChartOnly before after) : Sound after where
  apart := by
    rw [grown.periods]
    exact sound.apart
  linked := by
    rw [grown.periods, grown.entries]
    exact sound.linked
  balanced := by
    rw [grown.entries]
    exact sound.balanced
  known := by
    rw [grown.entries]
    intro pk entry stored line member
    exact grown.chart.codes (sound.known pk entry stored line member)
  standard := grown.standard sound.standard

theorem sound_of_posted {draft : JournalDraft} {entry : JournalEntry}
    {before after : Books} (sound : Sound before)
    (posted : Posted draft before after entry) : Sound after where
  apart := by
    rw [posted.periods]
    exact sound.apart
  linked := by
    rw [posted.periods, posted.entries]
    intro pk stored link found linked
    rcases Table.get?_insert_cases found with ⟨-, rfl⟩ | found
    · rw [posted.linked, Option.map_eq_some_iff] at linked
      obtain ⟨row, resolved, rfl⟩ := linked
      exact ⟨row.2, forDate_covers resolved⟩
    · exact sound.linked pk stored link found linked
  balanced := by
    rw [posted.entries]
    intro pk stored found
    rcases Table.get?_insert_cases found with ⟨-, rfl⟩ | found
    · exact posted.balanced
    · exact sound.balanced pk stored found
  known := by
    rw [posted.entries]
    intro pk stored found line member
    rcases Table.get?_insert_cases found with ⟨-, rfl⟩ | found
    · exact (posted.known line member).2
    · exact posted.chart.codes (sound.known pk stored found line member)
  standard := posted.standard sound.standard

/-- Rewriting or removing entries keeps the books sound as long as every entry
left is an old one up to its links and its mark. -/
theorem sound_of_frozen {before after : Books} (sound : Sound before)
    (chart : after.chart = before.chart) (periods : after.periods = before.periods)
    (old : ∀ pk entry, after.entries.get? pk = some entry →
      ∃ stored, before.entries.get? pk = some stored ∧
        stored.frozen = entry.frozen) : Sound after where
  apart := by
    rw [periods]
    exact sound.apart
  linked pk entry link found linked := by
    obtain ⟨stored, original, same⟩ := old pk entry found
    rw [periods, ← frozen_date same]
    exact sound.linked pk stored link original ((frozen_period same).trans linked)
  balanced pk entry found := by
    obtain ⟨stored, original, same⟩ := old pk entry found
    rw [← frozen_lines same]
    exact sound.balanced pk stored original
  known pk entry found := by
    obtain ⟨stored, original, same⟩ := old pk entry found
    rw [← frozen_lines same, chart]
    exact sound.known pk stored original
  standard := by
    rw [chart]
    exact sound.standard

theorem get?_markReversed (books : Books) (mirror pk key : ℕ) :
    (books.markReversed mirror pk).entries.get? key =
      (books.entries.get? key).map fun stored =>
        { stored with
          status := if key = pk then .reversed else stored.status
          reversalOf := if key = mirror then some pk else stored.reversalOf } := by
  unfold Books.markReversed Books.modifyEntry
  by_cases original : key = pk
  · subst original
    rw [Table.get?_modify_self]
    by_cases posted : key = mirror
    · subst posted
      rw [Table.get?_modify_self, Option.map_map]
      simp [Function.comp_def]
    · rw [Table.get?_modify_of_ne _ posted]
      simp [posted]
  · rw [Table.get?_modify_of_ne _ original]
    by_cases posted : key = mirror
    · subst posted
      rw [Table.get?_modify_self]
      simp [original]
    · rw [Table.get?_modify_of_ne _ posted]
      simp [original, posted]

theorem marked_old {before : Books} {mirror pk : ℕ} (key : ℕ)
    (entry : JournalEntry)
    (found : (before.markReversed mirror pk).entries.get? key = some entry) :
    ∃ stored, before.entries.get? key = some stored ∧
      stored.frozen = entry.frozen := by
  rw [get?_markReversed, Option.map_eq_some_iff] at found
  obtain ⟨stored, original, rfl⟩ := found
  exact ⟨stored, original, rfl⟩

theorem deleted_old {before : Books} {pk : ℕ} (key : ℕ) (entry : JournalEntry)
    (found : (before.deleteEntry pk).entries.get? key = some entry) :
    key ≠ pk ∧ ∃ stored, before.entries.get? key = some stored ∧
      stored.frozen = entry.frozen := by
  rw [get?_deleteEntry] at found
  split at found
  · cases found
  · rename_i different
    obtain ⟨stored, original, rfl⟩ := Option.map_eq_some_iff.mp found
    refine ⟨different, stored, original, ?_⟩
    split
    · rfl
    · rfl

theorem sound_of_move {before after : Books} (sound : Sound before)
    (move : Move before after) : Sound after := by
  cases move with
  | grown grown => exact sound_of_grown sound grown
  | posted posted => exact sound_of_posted sound posted
  | mirrored stored posted written =>
      subst written
      exact sound_of_frozen (sound_of_posted sound posted) rfl rfl marked_old
  | deleted stored unlocked written =>
      subst written
      exact sound_of_frozen sound rfl rfl fun key entry found =>
        (deleted_old key entry found).2

theorem periods_of_move {before after : Books} (move : Move before after) :
    after.periods = before.periods := by
  cases move with
  | grown grown => exact grown.periods
  | posted posted => exact posted.periods
  | mirrored stored posted written =>
      rw [written]
      exact posted.periods
  | deleted stored unlocked written => rw [written, deleteEntry_periods]

theorem moves_sound {before after : Books} (moves : Moves before after)
    (sound : Sound before) : Sound after := by
  induction moves with
  | refl => exact sound
  | tail _ move induction => exact sound_of_move induction move

theorem moves_of_posting {draft : JournalDraft} {result : Option ℕ}
    {before after : Books}
    (returned : postJournal draft before = .ok result after) :
    Moves before after := by
  rcases postJournal_returns returned with ⟨_, _, grown⟩ | ⟨entry, _, posted⟩
  · exact .single (.grown grown)
  · exact .single (.posted posted)

theorem postJournal_moves (draft : JournalDraft) (before : Books) :
    Moves before ((postJournal draft).final before) := by
  apply Txn.final_of
  · intro result after returned
    exact moves_of_posting returned
  · intro error after failed
    exact .single (.grown (postJournal_raises failed))

/-- The mirror of an entry only reads what its mark and links leave alone. -/
theorem mirrorDraft_of_frozen {left right : JournalEntry}
    (same : left.frozen = right.frozen) (date : Option ℤ) :
    mirrorDraft left date = mirrorDraft right date := by
  have journalType : left.frozen.journalType = right.frozen.journalType :=
    congrArg JournalEntry.journalType same
  have reference : left.frozen.reference = right.frozen.reference :=
    congrArg JournalEntry.reference same
  have types : left.journalType = right.journalType := journalType
  have references : left.reference = right.reference := reference
  unfold mirrorDraft
  rw [frozen_lines same, types, references]

theorem moves_of_reversal {pk : ℕ} {entry stored : JournalEntry}
    {date : Option ℤ} {result : Option ℕ} {before after : Books}
    (found : before.entries.get? pk = some stored)
    (same : stored.frozen = entry.frozen)
    (returned : reverseJournal pk entry date before = .ok result after) :
    Moves before after := by
  rcases reverseJournal_returns returned with
    ⟨_, _, rfl⟩ | ⟨_, _, _, grown⟩ | ⟨_, mirror, middle, _, posted, written⟩
  · exact .refl
  · exact .single (.grown grown)
  · rw [← mirrorDraft_of_frozen same] at posted
    exact .single (.mirrored found posted written)

theorem reverseJournal_moves {pk : ℕ} {entry : JournalEntry} {before : Books}
    (found : before.entries.get? pk = some entry) (date : Option ℤ) :
    Moves before ((reverseJournal pk entry date).final before) := by
  apply Txn.final_of
  · intro result after returned
    exact moves_of_reversal found rfl returned
  · intro error after failed
    exact .single (.grown (reverseJournal_raises failed))

/-- The listed entries are stored, up to their links and the mark of a
reversal. -/
def Listed (books : Books) (rows : List (ℕ × JournalEntry)) : Prop :=
  ∀ row ∈ rows, ∃ stored, books.entries.get? row.1 = some stored ∧
    stored.frozen = row.2.frozen

theorem Listed.of_frozen {before after : Books}
    {rows : List (ℕ × JournalEntry)} (listed : Listed before rows)
    (kept : ∀ row ∈ rows, ∀ stored, before.entries.get? row.1 = some stored →
      ∃ later, after.entries.get? row.1 = some later ∧
        later.frozen = stored.frozen) : Listed after rows := by
  intro row member
  obtain ⟨stored, found, same⟩ := listed row member
  obtain ⟨later, foundLater, sameLater⟩ := kept row member stored found
  exact ⟨later, foundLater, sameLater.trans same⟩

theorem kept_of_reversal {pk : ℕ} {entry : JournalEntry} {date : Option ℤ}
    {result : Option ℕ} {before after : Books}
    (returned : reverseJournal pk entry date before = .ok result after)
    {key : ℕ} {stored : JournalEntry}
    (found : before.entries.get? key = some stored) :
    ∃ later, after.entries.get? key = some later ∧
      later.frozen = stored.frozen := by
  rcases reverseJournal_returns returned with
    ⟨_, _, rfl⟩ | ⟨_, _, _, grown⟩ | ⟨_, mirror, middle, _, posted, rfl⟩
  · exact ⟨stored, found, rfl⟩
  · exact ⟨stored, by rw [grown.entries, found], rfl⟩
  · have inserted : middle.entries.get? key = some stored := by
      rw [posted.entries]
      exact Table.get?_insert_of_some found mirror
    rw [get?_markReversed, inserted]
    exact ⟨_, rfl, rfl⟩

theorem unpost_moves (rows : List (ℕ × JournalEntry)) (before : Books)
    (distinct : (rows.map Prod.fst).Nodup) (listed : Listed before rows) :
    Moves before ((unpost rows).final before) := by
  induction rows generalizing before with
  | nil => exact .refl
  | cons row rest induction =>
      obtain ⟨pk, entry⟩ := row
      rw [List.map_cons, List.nodup_cons] at distinct
      obtain ⟨absent, distinct⟩ := distinct
      have listedRest : Listed before rest := fun row member =>
        listed row (List.mem_cons_of_mem _ member)
      by_cases already : entry.status = .reversed
      · rw [unpost, if_pos already]
        exact induction before distinct listedRest
      · rw [unpost, if_neg already]
        change Moves before (Txn.final (get >>= _) before)
        rw [Txn.final_bind_of_ok (Txn.get_eq_ok.mpr ⟨rfl, rfl⟩)]
        split
        · rename_i unlocked
          have step : (modify fun books => books.deleteEntry pk :
              LedgerTxn PUnit) before = .ok ⟨⟩ (before.deleteEntry pk) := rfl
          rw [Txn.final_bind_of_ok step, Txn.final_bind_pure]
          obtain ⟨stored, found, same⟩ := listed (pk, entry) List.mem_cons_self
          rw [← isOpen_of_frozen before same] at unlocked
          refine .head (.deleted found unlocked rfl)
            (induction _ distinct (listedRest.of_frozen ?_))
          intro row member later foundLater
          have different : row.1 ≠ pk := fun same =>
            absent (List.mem_map.mpr ⟨row, member, same⟩)
          rw [get?_deleteEntry, if_neg different, foundLater]
          refine ⟨_, rfl, ?_⟩
          beta_reduce
          split
          · rfl
          · rfl
        · cases called : reverseJournal pk entry none before with
          | ok result middle =>
              rw [Txn.final_bind_of_ok called, Txn.final_bind_pure]
              obtain ⟨stored, found, same⟩ := listed (pk, entry) List.mem_cons_self
              refine (moves_of_reversal found same called).trans
                (induction middle distinct (listedRest.of_frozen ?_))
              intro row _ stored found
              exact kept_of_reversal called found
          | error error middle =>
              rw [Txn.final_bind_of_error called]
              exact .single (.grown (reverseJournal_raises called))

theorem moves_of_closing {pk : ℕ} {period : AccountingPeriod}
    {result : Option ℕ} {before after : Books}
    (returned : closePeriod pk period before = .ok result after) :
    ∃ middle, Moves before middle ∧ after = middle.setClosed pk true := by
  obtain ⟨_, start, grown, _, _, closed⟩ := closePeriod_returns returned
  have first : Moves before start := .single (.grown grown)
  cases closed with
  | nothing empty locked => exact ⟨start, first, locked⟩
  | even zero sweep locked => exact ⟨_, first.tail (.posted sweep), locked⟩
  | rolled income sweep roll locked =>
      exact ⟨_, (first.tail (.posted sweep)).tail (.posted roll), locked⟩

end Mousstec.Accounting
