import Mousstec.Robot.Counter
import Mousstec.Robot.OutboxRuns
import Mathlib.Algebra.Order.BigOperators.Group.List
import Mathlib.Algebra.BigOperators.Group.List.Basic
import Mathlib.Algebra.Order.Ring.Nat

/-!
# A part that is out is not sold

No branch sells more of a part than it had, in every run in which nobody asks
what is left, and the robot is not started again, between the rewriting of the
outbox and its report; what is left of a part is asked in the catalog it was
found in; no sale is given up that no catalog shows; no catalog gives way to an
older one or clears the ledger of sales that it does not show; and a session is
left alone while its sale is confirmed.
-/

namespace Mousstec

namespace Robot

open Library

/-- No branch sells more of a part than it had, and what is left is never put
higher than the server's stock less the sales it has not booked. -/
structure NeverOversold (world : CounterWorld) : Prop where
  sold : ∀ branchId partNumber,
    soldQty world.confirmed branchId partNumber ≤
      world.initial branchId partNumber
  left : ∀ ask ∈ world.asked, ask.1 ≤ ask.2

def FlushStage.reported {α : Type} : FlushStage α → List (StoredEvent α)
  | reading => []
  | pushing _ => []
  | writing _ _ => []
  | reporting batch => batch

def Outbox.reporting {α : Type} (box : Outbox α) : List (Event α) :=
  box.flushes.rows.flatMap fun row =>
    row.2.stage.reported.map StoredEvent.event

def Catalog.Shows (catalog : Catalog) (event : Event CounterPayload) : Bool :=
  !event.isSale || catalog.seen.contains event

def CounterWorld.free (world : CounterWorld) (key : ℕ) : Bool :=
  world.selling.all fun confirming => confirming.session != key

def givenUp {α : Type} (ids failed : List ℕ) (stored : StoredEvent α) : Bool :=
  decide (stored.uid ∈ ids) && !failed.isEmpty &&
    decide (maxTries ≤ stored.tries + 1)

def CounterOp.careful (op : CounterOp) (world : CounterWorld) : Bool :=
  match op with
  | add adding =>
      world.free adding.session &&
        world.box.reporting.all world.memory.Shows &&
        world.memory.part adding.part.partNumber == some adding.part
  | checkLine =>
      world.box.reporting.all world.memory.Shows &&
        world.selling.all fun confirming =>
          confirming.part.all fun part =>
            (confirming.lines[confirming.checked]?.bind fun line =>
              world.memory.part line.partNumber) == some part
  | restart => world.box.reporting.all world.disk.Shows
  | pickBranch key _ => world.free key
  | remove key _ => world.free key
  | finish key => world.free key
  | logout key => world.free key
  | record texts =>
      (world.selling.bind fun confirming =>
        world.sessions.get? confirming.session).all fun session =>
          world.branchOf session == session.branchId &&
            !splits
              { branchId := world.branchOf session
                items := session.cart
                texts : CounterPayload }
  | other _ payload => !splits payload
  | write key =>
      match world.box.flushes.get? key with
      | some { stage := .writing batch failed, .. } =>
          world.box.file.events.all fun stored =>
            !givenUp (batchIds batch) failed stored ||
              world.memory.Shows stored.event && world.disk.Shows stored.event
      | _ => true
  | keep key =>
      (world.fetches.get? key).all fun fetch =>
        world.memory.seen.all fetch.catalog.Shows
  | save key =>
      (world.fetches.get? key).all fun fetch =>
        world.disk.seen.all fetch.catalog.Shows
  | clear _ =>
      world.waiting.all fun event =>
        world.memory.Shows event && world.disk.Shows event
  | _ => true

def CounterOp.Careful (op : CounterOp) (world : CounterWorld) : Prop :=
  op.careful world = true

instance (op : CounterOp) (world : CounterWorld) :
    Decidable (op.Careful world) :=
  inferInstanceAs (Decidable (_ = true))

section Quantities

variable {branchId : Option ℕ} {partNumber : String}
  {first second : List (Event CounterPayload)}

theorem soldQty_append : soldQty (first ++ second) branchId partNumber =
    soldQty first branchId partNumber + soldQty second branchId partNumber := by
  simp [soldQty]

theorem soldQty_cons {event : Event CounterPayload} :
    soldQty (event :: first) branchId partNumber =
      event.sells branchId partNumber + soldQty first branchId partNumber := by
  simp [soldQty]

/-- Only sales sell. -/
theorem soldQty_filter : soldQty (first.filter Event.isSale) branchId partNumber =
    soldQty first branchId partNumber := by
  induction first with
  | nil => rfl
  | cons event first induction =>
      rw [soldQty_cons, ← induction]
      by_cases sale : event.isSale
      · rw [List.filter_cons_of_pos sale, soldQty_cons]
      · rw [List.filter_cons_of_neg sale]
        simp [Event.sells, sale]

/-- Fewer events sell less. -/
theorem soldQty_le_of_subset (branchId : Option ℕ) (partNumber : String)
    (nodup : first.Nodup) (subset : first ⊆ second) :
    soldQty first branchId partNumber ≤ soldQty second branchId partNumber := by
  obtain ⟨some, perm, sublist⟩ := List.subperm_of_subset nodup subset
  unfold soldQty
  rw [← (perm.map _).sum_eq]
  exact (sublist.map _).sum_le_sum fun _ _ => Nat.zero_le _

theorem countOf_append {first second : List (String × ℕ)} {key : String} :
    countOf (first ++ second) key = countOf first key + countOf second key := by
  simp [countOf]

theorem soldItems_append (first second : List (Event CounterPayload)) :
    soldItems (first ++ second) = soldItems first ++ soldItems second := by
  simp [soldItems]

theorem countOf_lines (lines : List SaleLine) :
    lineQty partNumber lines ≤ countOf (lines.map fun item =>
      (soldKey item.partNumber branchId, item.qty))
        (soldKey partNumber branchId) := by
  induction lines with
  | nil => exact Nat.zero_le _
  | cons line lines induction =>
      unfold lineQty countOf at *
      by_cases same : line.partNumber = partNumber
      · simp only [same, List.filter_cons, List.map_cons, beq_self_eq_true,
          if_true, List.sum_cons]
        omega
      · rw [List.filter_cons_of_neg (by simpa using same)]
        rw [List.map_cons]
        by_cases key : soldKey line.partNumber branchId =
            soldKey partNumber branchId
        · simp only [key, List.filter_cons, List.map_cons, beq_self_eq_true,
            if_true, List.sum_cons]
          omega
        · rw [List.filter_cons_of_neg (by simpa using key)]
          exact induction

theorem soldQty_le_countOf (branchId : Option ℕ) (partNumber : String)
    (events : List (Event CounterPayload)) :
    soldQty events branchId partNumber ≤
      countOf (soldItems events) (soldKey partNumber branchId) := by
  induction events with
  | nil => exact Nat.zero_le _
  | cons event events induction =>
      have split : soldItems (event :: events) =
          soldItems [event] ++ soldItems events :=
        soldItems_append [event] events
      rw [soldQty_cons, split, countOf_append]
      apply Nat.add_le_add _ induction
      unfold Event.sells
      split
      · rename_i sells
        simp only [Bool.and_eq_true, beq_iff_eq] at sells
        obtain ⟨sale, rfl⟩ := sells
        simp only [soldItems, List.filter_cons, sale, if_true, List.filter_nil,
          List.flatMap_cons, List.flatMap_nil, List.append_nil]
        exact countOf_lines event.payload.items
      · exact Nat.zero_le _

theorem lineQty_eraseIdx {lines : List SaleLine} {i : ℕ} {line : SaleLine}
    (found : lines[i]? = some line) : lineQty line.partNumber lines =
      line.qty + lineQty line.partNumber (lines.eraseIdx i) := by
  induction lines generalizing i with
  | nil => cases found
  | cons first lines induction =>
      cases i with
      | zero =>
          obtain rfl := Option.some.inj found
          simp [lineQty]
      | succ i =>
          have rest := induction (i := i) (by simpa using found)
          unfold lineQty at *
          rw [List.eraseIdx_cons_succ]
          by_cases same : first.partNumber = line.partNumber
          · simp only [same, List.filter_cons, beq_self_eq_true, if_true,
              List.map_cons, List.sum_cons]
            omega
          · rw [List.filter_cons_of_neg (by simpa using same),
              List.filter_cons_of_neg (by simpa using same)]
            exact rest

theorem lineQty_pos {lines : List SaleLine}
    (sells : lineQty partNumber lines ≠ 0) :
    ∃ (i : ℕ) (line : SaleLine), lines[i]? = some line ∧
      line.partNumber = partNumber := by
  induction lines with
  | nil => exact absurd rfl sells
  | cons first lines induction =>
      by_cases same : first.partNumber = partNumber
      · exact ⟨0, first, rfl, same⟩
      · unfold lineQty at sells induction
        rw [List.filter_cons_of_neg (by simpa using same)] at sells
        obtain ⟨i, line, found, named⟩ := induction sells
        exact ⟨i + 1, line, by simpa using found, named⟩

end Quantities

def FlushStage.batch {α : Type} : FlushStage α → List (StoredEvent α)
  | reading => []
  | pushing batch => batch
  | writing batch _ => batch
  | reporting batch => batch

/-- A catalog shows what there was less the sales it has seen. -/
structure Catalog.Truthful (catalog : Catalog)
    (initial : Option ℕ → String → ℕ) : Prop where
  stock : ∀ part ∈ catalog.parts, part.stock =
    initial none part.partNumber - soldQty catalog.seen none part.partNumber
  elsewhere : ∀ part ∈ catalog.parts, ∀ row ∈ part.elsewhere, row.2 =
    initial (some row.1) part.partNumber -
      soldQty catalog.seen (some row.1) part.partNumber

/-- A sale is counted somewhere: a catalog shows it, it is on disk, it waits for
a catalog, or it is about to be reported. -/
def CounterWorld.Counted (world : CounterWorld) (catalog : Catalog)
    (event : Event CounterPayload) : Prop :=
  catalog.Shows event = true ∨
    event ∈ world.box.file.events.map StoredEvent.event ∨
    event ∈ world.waiting ∨ event ∈ world.box.reporting

/-- The lines that a confirm has checked do not sell more than there is. -/
structure CounterWorld.Covers (world : CounterWorld) (confirming : Confirming)
    (session : Session) : Prop where
  cart : session.cart = confirming.lines
  checked : ∀ i line, i < confirming.checked → confirming.lines[i]? = some line →
    soldQty world.confirmed session.branchId line.partNumber +
        lineQty line.partNumber confirming.lines ≤
      world.initial session.branchId line.partNumber

/-- What holds of the outbox at the counter. -/
structure Outbox.AtCounter (box : Outbox CounterPayload) : Prop where
  sound : Sound box
  ended : box.file.tail = none
  same : box.written = box.added
  batched : ∀ key flush, box.flushes.get? key = some flush →
    ∀ stored ∈ flush.stage.batch, stored.event ∈ box.written

/-- What holds after every careful operation. -/
structure SoundCounter (world : CounterWorld) : Prop where
  box : world.box.AtCounter
  once : world.booked.Nodup
  booked : ∀ event ∈ world.booked, event ∈ world.box.written
  memory : world.memory.Truthful world.initial
  disk : world.disk.Truthful world.initial
  fetches : ∀ key fetch, world.fetches.get? key = some fetch →
    fetch.catalog.Truthful world.initial
  ledger : world.sent = soldItems world.waiting
  inMemory : ∀ event ∈ world.confirmed, world.Counted world.memory event
  onDisk : ∀ event ∈ world.confirmed, world.Counted world.disk event
  sold : ∀ branchId partNumber,
    soldQty world.confirmed branchId partNumber ≤
      world.initial branchId partNumber
  left : ∀ ask ∈ world.asked, ask.1 ≤ ask.2
  held : ∀ confirming, world.selling = some confirming → ∃ session,
    world.sessions.get? confirming.session = some session ∧
      world.Covers confirming session

theorem SoundCounter.neverOversold {world : CounterWorld}
    (sound : SoundCounter world) : NeverOversold world :=
  ⟨sound.sold, sound.left⟩

theorem SoundCounter.stillHeld {world other : CounterWorld}
    (sound : SoundCounter world) (selling : other.selling = world.selling)
    (sessions : other.sessions = world.sessions)
    (confirmed : other.confirmed = world.confirmed)
    (initial : other.initial = world.initial) (confirming : Confirming)
    (still : other.selling = some confirming) : ∃ session,
      other.sessions.get? confirming.session = some session ∧
        other.Covers confirming session := by
  obtain ⟨session, found, cart, checked⟩ :=
    sound.held confirming (selling.symm.trans still)
  refine ⟨session, sessions ▸ found, cart, ?_⟩
  rw [confirmed, initial]
  exact checked

section Left

variable {world : CounterWorld} (sound : SoundCounter world)

include sound

theorem SoundCounter.events_nodup : world.box.added.Nodup := by
  rw [← sound.box.same]
  exact sound.box.sound.unique.of_map _

/-- The server's stock less the sales it has not booked is what there was less
the confirmed sales. -/
theorem SoundCounter.unsold_le (branchId : Option ℕ) (partNumber : String) :
    (world.initial branchId partNumber : ℤ) -
        soldQty world.confirmed branchId partNumber ≤
      world.serverStock branchId partNumber -
        soldQty world.unbooked branchId partNumber := by
  have nodup : (world.booked ++ world.unbooked).Nodup := by
    rw [List.nodup_append]
    refine ⟨sound.once, (sound.events_nodup.filter _).filter _, ?_⟩
    intro event booked other unbooked same
    subst same
    have absent := (List.mem_filter.mp unbooked).2
    simp only [decide_eq_true_eq] at absent
    exact absent booked
  have subset : world.booked ++ world.unbooked ⊆ world.box.added := by
    intro event member
    rcases List.mem_append.mp member with booked | unbooked
    · rw [← sound.box.same]
      exact sound.booked event booked
    · exact List.mem_of_mem_filter (List.mem_of_mem_filter unbooked)
  have less : soldQty (world.booked ++ world.unbooked) branchId partNumber ≤
      soldQty world.box.added branchId partNumber :=
    soldQty_le_of_subset branchId partNumber nodup subset
  rw [soldQty_append] at less
  have all : soldQty world.confirmed branchId partNumber =
      soldQty world.box.added branchId partNumber := soldQty_filter
  rw [CounterWorld.serverStock, all]
  omega

/-- What is left is at most what there was less the confirmed sales, when
nothing is about to be reported that the catalog does not show. -/
theorem SoundCounter.left_le
    (settled : world.box.reporting.all world.memory.Shows = true) {part : Part}
    (listed : part ∈ world.memory.parts) (cart : List SaleLine)
    (branchId : Option ℕ) : world.left part cart branchId ≤
      world.initial branchId part.partNumber -
        soldQty world.confirmed branchId part.partNumber -
        lineQty part.partNumber cart := by
  have subset : world.confirmed ⊆ world.memory.seen ++
      (world.box.file.events.map StoredEvent.event ++ world.waiting) := by
    intro event member
    have sale : event.isSale = true := (List.mem_filter.mp member).2
    have seen : world.memory.Shows event = true →
        event ∈ world.memory.seen := by
      intro shows
      simpa [Catalog.Shows, sale] using shows
    rcases sound.inMemory event member with shown | file | waits | reports
    · exact List.mem_append_left _ (seen shown)
    · exact List.mem_append_right _ (List.mem_append_left _ file)
    · exact List.mem_append_right _ (List.mem_append_right _ waits)
    · exact List.mem_append_left _
        (seen (List.all_eq_true.mp settled event reports))
  have nodup : world.confirmed.Nodup := sound.events_nodup.filter _
  have covered : soldQty world.confirmed branchId part.partNumber ≤
      soldQty world.memory.seen branchId part.partNumber +
        countOf world.sold (soldKey part.partNumber branchId) := by
    have less := soldQty_le_of_subset branchId part.partNumber nodup subset
    have counted := soldQty_le_countOf branchId part.partNumber
      (world.box.file.events.map StoredEvent.event ++ world.waiting)
    rw [soldQty_append] at less
    rw [soldItems_append, ← sound.ledger] at counted
    rw [CounterWorld.sold]
    omega
  have stock : part.stockIn branchId ≤
        world.initial branchId part.partNumber -
          soldQty world.memory.seen branchId part.partNumber ∨
      part.stockIn branchId = 0 := by
    cases branchId with
    | none => exact .inl (sound.memory.stock part listed).le
    | some id =>
        rw [Part.stockIn]
        cases found : part.elsewhere.find? (·.1 == id) with
        | none => exact .inr rfl
        | some row =>
            have named := List.find?_some found
            simp only [beq_iff_eq] at named
            have shows := sound.memory.elsewhere part listed row
              (List.mem_of_find?_eq_some found)
            rw [named] at shows
            exact .inl shows.le
  have sold := sound.sold branchId part.partNumber
  unfold CounterWorld.left
  rcases stock with shown | none
  · omega
  · omega

end Left

namespace Outbox

section Reporting

variable {α : Type} {box : Outbox α} {key : ℕ} {old new : Flush α}
  {event : Event α}

theorem mem_reporting : event ∈ box.reporting ↔ ∃ key flush,
    box.flushes.get? key = some flush ∧
      event ∈ flush.stage.reported.map StoredEvent.event := by
  rw [reporting, List.mem_flatMap]
  constructor
  · rintro ⟨⟨key, flush⟩, listed, member⟩
    exact ⟨key, flush, Table.get?_eq_some.mpr listed, member⟩
  · rintro ⟨key, flush, found, member⟩
    exact ⟨(key, flush), Table.get?_eq_some.mp found, member⟩

theorem reporting_staged (found : box.flushes.get? key = some old)
    (silent : old.stage.reported = []) (reports : event ∈ box.reporting) :
    event ∈ (box.staged key new).reporting := by
  obtain ⟨other, flush, there, member⟩ := mem_reporting.mp reports
  refine mem_reporting.mpr ⟨other, flush, ?_, member⟩
  have different : other ≠ key := by
    rintro rfl
    rw [found] at there
    obtain rfl := Option.some.inj there
    rw [silent] at member
    cases member
  exact (Table.get?_modify_of_ne _ different _).trans there

theorem reporting_ended (found : box.flushes.get? key = some old)
    (silent : old.stage.reported = []) (reports : event ∈ box.reporting) :
    event ∈ (box.ended key).reporting := by
  obtain ⟨other, flush, there, member⟩ := mem_reporting.mp reports
  refine mem_reporting.mpr ⟨other, flush, ?_, member⟩
  have different : other ≠ key := by
    rintro rfl
    rw [found] at there
    obtain rfl := Option.some.inj there
    rw [silent] at member
    cases member
  rw [ended, Table.get?_erase, if_neg different]
  exact there

end Reporting

namespace AtCounter

variable {box : Outbox CounterPayload} (here : box.AtCounter) {key : ℕ}

include here

theorem reflush {flushes : Table (Flush CounterPayload)}
    (sound : Sound { box with flushes })
    (batched : ∀ key flush, flushes.get? key = some flush →
      ∀ stored ∈ flush.stage.batch, stored.event ∈ box.written) :
    AtCounter { box with flushes } :=
  ⟨sound, here.ended, here.same, batched⟩

theorem ended_at (key : ℕ) : (box.ended key).AtCounter := by
  apply here.reflush (here.sound.ended key)
  intro other flush found
  exact here.batched other flush (Table.get?_erase_eq_some.mp found).2

theorem staged_at {flush : Flush CounterPayload}
    (sound : Sound (box.staged key flush))
    (batched : ∀ stored ∈ flush.stage.batch, stored.event ∈ box.written) :
    (box.staged key flush).AtCounter := by
  apply here.reflush sound
  intro other found there
  rcases Table.get?_modify_cases there with ⟨-, earlier, -, rfl⟩ | there
  · exact batched
  · exact here.batched other found there

theorem add {kind : String} {payload : CounterPayload}
    (whole : splits payload = false) : (box.add kind payload).AtCounter where
  sound := here.sound.add here.ended whole
  ended := OutboxFile.append_tail here.ended
  same := congrArg (List.cons _) here.same
  batched other flush found stored member :=
    List.mem_cons_of_mem _ (here.batched other flush found stored member)

theorem flush : (OutboxOp.flush.step box).AtCounter := by
  have careful : OutboxOp.flush.Careful box := trivial
  have sound : Sound (OutboxOp.flush.step box) := here.sound.step careful
  apply here.reflush sound
  intro other flush found
  rcases Table.get?_insert_cases found with ⟨-, rfl⟩ | found
  · intro stored member
    cases member
  · exact here.batched other flush found

theorem cut : box.cut.AtCounter := by
  apply here.reflush here.sound.cut
  intro other flush found
  rw [Table.get?_filter] at found
  simp at found

end AtCounter

/-- A statement of a flush that leaves the disk alone. -/
structure Quiet (before after : Outbox CounterPayload) : Prop where
  here : after.AtCounter
  file : after.file = before.file
  added : after.added = before.added
  reports : ∀ event ∈ before.reporting, event ∈ after.reporting

namespace AtCounter

variable {box : Outbox CounterPayload} (here : box.AtCounter) {key : ℕ}

include here

theorem quiet : Quiet box box := ⟨here, rfl, rfl, fun _ reports => reports⟩

theorem quiet_ended {old : Flush CounterPayload}
    (found : box.flushes.get? key = some old)
    (silent : old.stage.reported = []) : Quiet box (box.ended key) :=
  ⟨here.ended_at key, rfl, rfl,
    fun _ reports => reporting_ended found silent reports⟩

theorem flush_quiet : Quiet box (OutboxOp.flush.step box) := by
  refine ⟨here.flush, rfl, rfl, ?_⟩
  intro event reports
  obtain ⟨other, flush, found, member⟩ := mem_reporting.mp reports
  exact mem_reporting.mpr
    ⟨other, flush, Table.get?_insert_of_some found _, member⟩

theorem batched_staged {flush : Flush CounterPayload}
    (batched : ∀ stored ∈ flush.stage.batch, stored.event ∈ box.written) :
    ∀ other found, (box.staged key flush).flushes.get? other = some found →
      ∀ stored ∈ found.stage.batch, stored.event ∈ box.written := by
  intro other found there
  rw [Outbox.staged, Table.get?_modify] at there
  split at there
  · obtain ⟨earlier, -, rfl⟩ := Option.map_eq_some_iff.mp there
    exact batched
  · exact here.batched other found there

theorem read_quiet : Quiet box (box.read key) := by
  have sound : Sound (box.read key) := here.sound.read
  cases found : box.flushes.get? key with
  | none =>
      have same : box.read key = box := by simp [Outbox.read, found]
      rw [same]
      exact here.quiet
  | some flush =>
      obtain ⟨sent, rounds, stage⟩ := flush
      cases stage with
      | reading =>
          by_cases empty : box.file.events.take batchSize = []
          · have same : box.read key = box.ended key := by
              simp [Outbox.read, found, OutboxFile.read, here.sound.decodes,
                empty]
            rw [same]
            exact here.quiet_ended found rfl
          · have same : box.read key =
                { box.staged key
                    { sent, rounds,
                      stage := .pushing (box.file.events.take batchSize) } with
                  pushed := (box.file.events.take batchSize).map
                    StoredEvent.event :: box.pushed } := by
              simp [Outbox.read, found, OutboxFile.read, here.sound.decodes,
                empty]
            rw [same] at sound ⊢
            refine ⟨⟨sound, here.ended, here.same, here.batched_staged ?_⟩, rfl,
              rfl, fun _ reports => reporting_staged found rfl reports⟩
            exact fun stored member =>
              here.sound.stored stored (List.mem_of_mem_take member)
      | pushing batch =>
          have same : box.read key = box := by simp [Outbox.read, found]
          rw [same]
          exact here.quiet
      | writing batch failed =>
          have same : box.read key = box := by simp [Outbox.read, found]
          rw [same]
          exact here.quiet
      | reporting batch =>
          have same : box.read key = box := by simp [Outbox.read, found]
          rw [same]
          exact here.quiet

theorem lose_quiet : Quiet box (box.lose key) := by
  unfold Outbox.lose
  split
  · rename_i found
    exact here.quiet_ended found rfl
  · exact here.quiet

theorem answer_quiet {failed : List ℕ} : Quiet box (box.answer key failed) := by
  have sound : Sound (box.answer key failed) := here.sound.answer
  unfold Outbox.answer at *
  split at sound
  · rename_i sent rounds batch found
    refine ⟨⟨sound, here.ended, here.same, here.batched_staged ?_⟩, rfl, rfl,
      fun _ reports => reporting_staged found rfl reports⟩
    exact fun stored member => here.batched key _ found stored member
  · exact here.quiet

end AtCounter

end Outbox

section Frames

variable {world : CounterWorld} (sound : SoundCounter world)

include sound

theorem SoundCounter.rebox {box : Outbox CounterPayload}
    (quiet : Outbox.Quiet world.box box) : SoundCounter { world with box } := by
  have counted : ∀ catalog event, world.Counted catalog event →
      CounterWorld.Counted { world with box } catalog event := by
    intro catalog event shown
    rcases shown with seen | file | waits | reports
    · exact .inl seen
    · exact .inr (.inl (by rw [quiet.file]; exact file))
    · exact .inr (.inr (.inl waits))
    · exact .inr (.inr (.inr (quiet.reports event reports)))
  have confirmed : CounterWorld.confirmed { world with box } =
      world.confirmed := by
    rw [CounterWorld.confirmed, CounterWorld.confirmed, quiet.added]
  constructor
  · exact quiet.here
  · exact sound.once
  · intro event booked
    rw [quiet.here.same, quiet.added, ← sound.box.same]
    exact sound.booked event booked
  · exact sound.memory
  · exact sound.disk
  · exact sound.fetches
  · exact sound.ledger
  · intro event member
    rw [confirmed] at member
    exact counted _ _ (sound.inMemory event member)
  · intro event member
    rw [confirmed] at member
    exact counted _ _ (sound.onDisk event member)
  · rw [confirmed]
    exact sound.sold
  · exact sound.left
  · intro confirming selling
    obtain ⟨session, found, covers⟩ := sound.held confirming selling
    refine ⟨session, found, covers.cart, ?_⟩
    rw [confirmed]
    exact covers.checked

theorem SoundCounter.resession {sessions : Table Session} {finishing : List ℕ}
    (others : ∀ confirming, world.selling = some confirming →
      sessions.get? confirming.session =
        world.sessions.get? confirming.session) :
    SoundCounter { world with sessions, finishing } :=
  { sound with
    held := fun confirming selling => by
      obtain ⟨session, found, covers⟩ := sound.held confirming selling
      exact ⟨session, (others confirming selling).trans found, covers.cart,
        covers.checked⟩ }

theorem SoundCounter.asks {part : Part}
    (settled : world.box.reporting.all world.memory.Shows = true)
    (listed : part ∈ world.memory.parts) (cart : List SaleLine)
    (branchId : Option ℕ) : SoundCounter (world.asks part cart branchId) :=
  { sound with
    left := by
      have bound := sound.left_le settled listed cart branchId
      have unsold := sound.unsold_le branchId part.partNumber
      refine List.forall_mem_cons.mpr ⟨?_, sound.left⟩
      simp only
      omega
    held := sound.stillHeld rfl rfl rfl rfl }

theorem SoundCounter.adds {adding : List Adding} :
    SoundCounter { world with adding } :=
  { sound with
    held := sound.stillHeld rfl rfl rfl rfl }

end Frames

section Phones

variable {world : CounterWorld} (sound : SoundCounter world) {key : ℕ}

theorem CounterWorld.ne_of_free (free : world.free key = true)
    {confirming : Confirming} (selling : world.selling = some confirming) :
    confirming.session ≠ key := by
  unfold CounterWorld.free at free
  rw [selling] at free
  simpa using free

include sound

theorem SoundCounter.changed (free : world.free key = true)
    (change : Session → Session) {finishing : List ℕ} :
    SoundCounter { world with
      sessions := world.sessions.modify key change
      finishing } := by
  apply sound.resession
  intro confirming selling
  exact Table.get?_modify_of_ne _ (world.ne_of_free free selling) _

theorem SoundCounter.login {maySell : Bool} :
    SoundCounter { world with sessions := world.sessions.insert { maySell } } :=
  sound.resession fun confirming selling => by
    obtain ⟨session, found, -⟩ := sound.held confirming selling
    rw [found]
    exact Table.get?_insert_of_some found _

theorem SoundCounter.logout (free : world.free key = true) :
    SoundCounter { world with sessions := world.sessions.erase key } :=
  sound.resession fun confirming selling => by
    rw [Table.get?_erase, if_neg (world.ne_of_free free selling)]

theorem SoundCounter.pickBranch (free : world.free key = true)
    {branchId : Option ℕ} : SoundCounter (world.pickBranch key branchId) := by
  unfold CounterWorld.pickBranch
  cases world.sessions.get? key with
  | none => exact sound
  | some session =>
      have either : ∀ (refused : Bool) (picked : Option ℕ), SoundCounter
          (if refused then world
          else if picked = session.branchId then world
          else
            { world with
              sessions := world.sessions.modify key fun session =>
                { session with
                  branchId := picked
                  cart := [] } }) := by
        intro refused picked
        split
        · exact sound
        · split
          · exact sound
          · exact sound.changed free _
      exact either _ _

theorem SoundCounter.find {partNumber : String} {qty : ℕ} :
    SoundCounter (world.find key partNumber qty) := by
  unfold CounterWorld.find
  split
  · split
    · exact sound
    · exact sound.adds
  · exact sound

theorem SoundCounter.add {adding : Adding}
    (free : world.free adding.session = true)
    (settled : world.box.reporting.all world.memory.Shows = true)
    (found : world.memory.part adding.part.partNumber = some adding.part) :
    SoundCounter (world.add adding) := by
  have listed : adding.part ∈ world.memory.parts :=
    List.mem_of_find?_eq_some found
  unfold CounterWorld.add
  cases world.sessions.get? adding.session with
  | none => exact sound
  | some session =>
      simp only
      split
      · have taken : SoundCounter
            { world with adding := world.adding.erase adding } := sound.adds
        have asked := taken.asks settled listed session.cart session.branchId
        split
        · exact asked
        · exact asked.changed free _
      · exact sound

theorem SoundCounter.finish (free : world.free key = true) :
    SoundCounter (world.finish key) := by
  unfold CounterWorld.finish
  split
  · exact sound.changed free _
  · exact sound

theorem SoundCounter.confirm : SoundCounter (world.confirm key) := by
  unfold CounterWorld.confirm
  split
  · rename_i session found free
    split
    · exact sound
    · exact
        { sound with
          held := fun confirming selling => by
            obtain rfl := Option.some.inj selling
            exact ⟨session, found, rfl,
              fun i line less => absurd less (Nat.not_lt_zero i)⟩ }
  · exact sound

theorem SoundCounter.released : SoundCounter { world with selling := none } :=
  { sound with held := fun confirming selling => by cases selling }

theorem SoundCounter.findLine : SoundCounter world.findLine := by
  unfold CounterWorld.findLine
  split
  · exact sound
  · rename_i confirming selling
    split
    · exact sound
    · split
      · exact sound.released
      · obtain ⟨session, found, covers⟩ := sound.held confirming selling
        exact
          { sound with
            held := fun other selling' => by
              obtain rfl := Option.some.inj selling'
              exact ⟨session, found, covers.cart, covers.checked⟩ }

theorem SoundCounter.checkLine
    (settled : world.box.reporting.all world.memory.Shows = true)
    (current : ∀ confirming part line, world.selling = some confirming →
      confirming.part = some part →
      confirming.lines[confirming.checked]? = some line →
      world.memory.part line.partNumber = some part) :
    SoundCounter world.checkLine := by
  unfold CounterWorld.checkLine
  split
  · exact sound
  · rename_i confirming selling
    obtain ⟨session, found, covers⟩ := sound.held confirming selling
    rw [found]
    split
    · rename_i other line part same there taken
      obtain rfl := Option.some.inj same
      have found' := current confirming part line selling taken there
      have listed : part ∈ world.memory.parts :=
        List.mem_of_find?_eq_some found'
      have named : part.partNumber = line.partNumber := by
        have matched := List.find?_some found'
        simpa using matched
      have asked := sound.asks settled listed
        (session.cart.eraseIdx confirming.checked) session.branchId
      simp only
      split
      · exact asked.released
      · rename_i enough
        have bound := sound.left_le settled listed
          (session.cart.eraseIdx confirming.checked) session.branchId
        have whole := lineQty_eraseIdx there
        rw [covers.cart] at bound enough
        rw [named] at bound
        have checked : soldQty world.confirmed session.branchId
            line.partNumber + lineQty line.partNumber confirming.lines ≤
              world.initial session.branchId line.partNumber := by
          omega
        exact
          { asked with
            held := fun other selling' => by
              obtain rfl := Option.some.inj selling'
              refine ⟨session, found, covers.cart, ?_⟩
              intro i earlier less found'
              rcases Nat.lt_succ_iff_lt_or_eq.mp less with before | rfl
              · exact covers.checked i earlier before found'
              · rw [there] at found'
                obtain rfl := Option.some.inj found'
                exact checked }
    · exact sound

end Phones

section Disk

variable {world : CounterWorld} (sound : SoundCounter world) {key : ℕ}

theorem soldQty_confirmed (branchId : Option ℕ) (partNumber : String) :
    soldQty world.confirmed branchId partNumber =
      soldQty world.box.added branchId partNumber :=
  soldQty_filter

include sound

/-- An event is added that does not sell more than there is. -/
theorem SoundCounter.addEvent (kind : String) {payload : CounterPayload}
    (whole : splits payload = false)
    (fits : ∀ branchId partNumber,
      Event.sells branchId partNumber ⟨world.box.next, kind, payload⟩ +
          soldQty world.confirmed branchId partNumber ≤
        world.initial branchId partNumber)
    (held : ∀ confirming, world.selling = some confirming →
      ∀ branchId partNumber,
        Event.sells branchId partNumber
          ⟨world.box.next, kind, payload⟩ = 0) :
    SoundCounter { world with box := world.box.add kind payload } := by
  have sells : ∀ branchId partNumber,
      soldQty (CounterWorld.confirmed
          { world with box := world.box.add kind payload }) branchId
          partNumber =
        Event.sells branchId partNumber ⟨world.box.next, kind, payload⟩ +
          soldQty world.confirmed branchId partNumber := by
    intro branchId partNumber
    rw [soldQty_confirmed, soldQty_confirmed]
    exact soldQty_cons
  have events : (world.box.file.append
      ⟨world.box.next, kind, payload⟩).events = world.box.file.events ++
        [⟨⟨world.box.next, kind, payload⟩, 0⟩] :=
    OutboxFile.events_append sound.box.ended whole
  have counted : ∀ catalog event,
      event ∈ CounterWorld.confirmed
        { world with box := world.box.add kind payload } →
      (event ∈ world.confirmed → world.Counted catalog event) →
      CounterWorld.Counted { world with box := world.box.add kind payload }
        catalog event := by
    intro catalog event member earlier
    obtain ⟨added, sale⟩ := List.mem_filter.mp member
    rcases List.mem_cons.mp added with rfl | there
    · refine .inr (.inl ?_)
      simp only [Outbox.add, events, List.map_append]
      exact List.mem_append_right _ List.mem_cons_self
    · rcases earlier (List.mem_filter.mpr ⟨there, sale⟩) with seen | file |
        waits | reports
      · exact .inl seen
      · refine .inr (.inl ?_)
        simp only [Outbox.add, events, List.map_append]
        exact List.mem_append_left _ file
      · exact .inr (.inr (.inl waits))
      · exact .inr (.inr (.inr reports))
  constructor
  · exact sound.box.add whole
  · exact sound.once
  · exact fun event booked => List.mem_cons_of_mem _ (sound.booked event booked)
  · exact sound.memory
  · exact sound.disk
  · exact sound.fetches
  · exact sound.ledger
  · exact fun event member => counted _ event member (sound.inMemory event)
  · exact fun event member => counted _ event member (sound.onDisk event)
  · intro branchId partNumber
    rw [sells]
    exact fits branchId partNumber
  · exact sound.left
  · intro confirming selling
    obtain ⟨session, found, covers⟩ := sound.held confirming selling
    refine ⟨session, found, covers.cart, ?_⟩
    intro i line less there
    rw [sells, held confirming selling, Nat.zero_add]
    exact covers.checked i line less there

theorem SoundCounter.other {kind : String} {payload : CounterPayload}
    (whole : splits payload = false) (other : kind ≠ "sale") :
    SoundCounter { world with box := world.box.add kind payload } := by
  have sells : ∀ branchId partNumber, Event.sells branchId partNumber
      ⟨world.box.next, kind, payload⟩ = 0 := by
    intro branchId partNumber
    simp [Event.sells, Event.isSale, other]
  apply sound.addEvent kind whole
  · intro branchId partNumber
    rw [sells, Nat.zero_add]
    exact sound.sold branchId partNumber
  · exact fun _ _ => sells

theorem SoundCounter.record {texts : List String}
    (careful : (CounterOp.record texts).Careful world) :
    SoundCounter (world.record texts) := by
  unfold CounterWorld.record
  split
  · exact sound
  · rename_i confirming selling
    obtain ⟨session, found, covers⟩ := sound.held confirming selling
    simp only [CounterOp.Careful, CounterOp.careful, selling, Option.bind_some,
      found, Option.all_some, Bool.and_eq_true, beq_iff_eq,
      Bool.not_eq_true'] at careful
    obtain ⟨stays, whole⟩ := careful
    rw [found]
    simp only
    split
    · exact sound
    · rename_i done
      have recorded := sound.released.addEvent "sale" whole ?_ ?_
      · exact recorded.resession fun confirming selling => rfl
      · intro branchId partNumber
        have sold := sound.sold branchId partNumber
        unfold Event.sells
        split
        · rename_i sells
          simp only [Bool.and_eq_true, beq_iff_eq] at sells
          obtain ⟨-, rfl⟩ := sells
          rw [stays] at sold ⊢
          by_cases none : lineQty partNumber session.cart = 0
          · rw [none, Nat.zero_add]
            exact sold
          · obtain ⟨i, line, there, rfl⟩ := lineQty_pos none
            rw [covers.cart] at there ⊢
            obtain ⟨inside, -⟩ := List.getElem?_eq_some_iff.mp there
            have checked := covers.checked i line (by omega) there
            rw [Nat.add_comm]
            exact checked
        · rw [Nat.zero_add]
          exact sold
      · exact fun confirming selling => by cases selling

theorem SoundCounter.write (careful : (CounterOp.write key).Careful world) :
    SoundCounter { world with box := world.box.write key } := by
  have after : Sound (world.box.write key) := sound.box.sound.write
  simp only [CounterOp.Careful, CounterOp.careful] at careful
  unfold Outbox.write at *
  split at after
  · rename_i sent rounds batch failed found
    rw [found] at careful
    simp only [OutboxFile.read, if_pos sound.box.sound.decodes] at after ⊢
    have remained : ∀ flushes : Table (Flush CounterPayload),
        Sound { world.box.answered (batchIds batch) failed with flushes } →
        (∀ other flush, flushes.get? other = some flush →
          ∀ stored ∈ flush.stage.batch, stored.event ∈ world.box.written) →
        (∀ event ∈ world.box.reporting, event ∈ Outbox.reporting
          { world.box.answered (batchIds batch) failed with flushes }) →
        (failed = [] → ∀ stored ∈ batch, stored.event ∈ Outbox.reporting
          { world.box.answered (batchIds batch) failed with flushes }) →
        SoundCounter { world with
          box := { world.box.answered (batchIds batch) failed with
            flushes } } := by
      intro flushes sound' batched reports taken
      have counted : ∀ catalog event,
          (∀ stored ∈ world.box.file.events,
            givenUp (batchIds batch) failed stored = true →
              catalog.Shows stored.event = true) →
          world.Counted catalog event →
          CounterWorld.Counted { world with
            box := { world.box.answered (batchIds batch) failed with
              flushes } } catalog event := by
        intro catalog event shown counted
        rcases counted with seen | file | waits | reporting
        · exact .inl seen
        · obtain ⟨stored, there, rfl⟩ := List.mem_map.mp file
          have onDisk : ∀ later,
              keptEvent (batchIds batch) failed.length stored = some later →
              stored.event ∈ (world.box.answered (batchIds batch)
                failed).file.events.map StoredEvent.event := by
            intro later kept
            rw [← keptEvent_event kept, Outbox.answered,
              OutboxFile.events_rewritten]
            exact List.mem_map_of_mem
              (List.mem_filterMap.mpr ⟨stored, there, kept⟩)
          rcases keptEvent_cases (batchIds batch) failed.length stored with
            ⟨-, kept⟩ | ⟨listed, none, -⟩ | ⟨listed, some, often, -⟩ |
            ⟨-, -, kept⟩
          · exact .inr (.inl (onDisk _ kept))
          · obtain ⟨sent, member, same⟩ := List.mem_map.mp listed
            have event : sent.event = stored.event :=
              List.inj_on_of_nodup_map sound.box.sound.unique
                (sound.box.batched key _ found sent member)
                (sound.box.sound.stored stored there) same
            rw [← event]
            exact .inr (.inr (.inr (taken (List.length_eq_zero_iff.mp none)
              sent member)))
          · refine .inl (shown stored there ?_)
            have failing : failed.isEmpty = false := by
              cases failed with
              | nil => exact absurd rfl some
              | cons first rest => rfl
            simp [givenUp, listed, often, failing]
          · exact .inr (.inl (onDisk _ kept))
        · exact .inr (.inr (.inl waits))
        · exact .inr (.inr (.inr (reports event reporting)))
      have shows : ∀ stored ∈ world.box.file.events,
          givenUp (batchIds batch) failed stored = true →
            world.memory.Shows stored.event = true ∧
              world.disk.Shows stored.event = true := by
        intro stored there given
        have either := List.all_eq_true.mp careful stored there
        simpa [given] using either
      constructor
      · exact ⟨sound', rfl, sound.box.same, batched⟩
      · exact sound.once
      · exact sound.booked
      · exact sound.memory
      · exact sound.disk
      · exact sound.fetches
      · exact sound.ledger
      · exact fun event member => counted _ event
          (fun stored there given => (shows stored there given).1)
          (sound.inMemory event member)
      · exact fun event member => counted _ event
          (fun stored there given => (shows stored there given).2)
          (sound.onDisk event member)
      · exact sound.sold
      · exact sound.left
      · intro confirming selling
        obtain ⟨session, found, covers⟩ := sound.held confirming selling
        exact ⟨session, found, covers.cart, covers.checked⟩
    split at after
    · rename_i none
      rw [if_pos none]
      refine remained _ after ?_ ?_ ?_
      · exact sound.box.batched_staged
          fun stored member => sound.box.batched key _ found stored member
      · intro event reports
        have there : event ∈
            (world.box.answered (batchIds batch) failed).reporting := reports
        exact Outbox.reporting_staged found rfl there
      · intro _ stored member
        refine Outbox.mem_reporting.mpr ⟨key,
          { sent := sent + (batch.length - failed.length)
            rounds := rounds + 1
            stage := .reporting batch }, ?_, List.mem_map_of_mem member⟩
        rw [Table.get?_modify_self, found]
        rfl
    · rename_i some
      rw [if_neg some]
      refine remained _ after ?_ ?_ ?_
      · exact (sound.box.ended_at key).batched
      · intro event reports
        have there : event ∈
            (world.box.answered (batchIds batch) failed).reporting := reports
        exact Outbox.reporting_ended found rfl there
      · exact fun none => absurd none some
  · exact sound

theorem SoundCounter.report : SoundCounter (world.report key) := by
  have after : Sound (world.box.report key) := sound.box.sound.report
  unfold CounterWorld.report
  split
  · rename_i sent rounds batch found
    have restaged : world.box.report key =
        world.box.staged key { sent, rounds, stage := .reading } := by
      simp [Outbox.report, found]
    rw [restaged] at after ⊢
    have counted : ∀ catalog event, world.Counted catalog event →
        CounterWorld.Counted { world with
          box := world.box.staged key { sent, rounds, stage := .reading }
          sent := world.sent ++ soldItems (batch.map StoredEvent.event)
          waiting := world.waiting ++ batch.map StoredEvent.event } catalog
            event := by
      intro catalog event counted
      rcases counted with seen | file | waits | reports
      · exact .inl seen
      · exact .inr (.inl file)
      · exact .inr (.inr (.inl (List.mem_append_left _ waits)))
      · obtain ⟨other, flush, there, member⟩ :=
          Outbox.mem_reporting.mp reports
        by_cases same : other = key
        · subst same
          rw [found] at there
          obtain rfl := Option.some.inj there
          exact .inr (.inr (.inl (List.mem_append_right _ member)))
        · exact .inr (.inr (.inr (Outbox.mem_reporting.mpr ⟨other, flush,
            (Table.get?_modify_of_ne _ same _).trans there, member⟩)))
    exact
      { sound with
        box := sound.box.staged_at after fun stored member => by cases member
        ledger := by rw [soldItems_append, sound.ledger]
        inMemory := fun event member => counted _ event
          (sound.inMemory event member)
        onDisk := fun event member => counted _ event
          (sound.onDisk event member)
        held := sound.stillHeld rfl rfl rfl rfl }
  · exact sound

end Disk

theorem Catalog.shows_of_seen {before after : Catalog}
    (seen : before.seen.all after.Shows = true) (event : Event CounterPayload)
    (shows : before.Shows event = true) : after.Shows event = true := by
  by_cases sale : event.isSale
  · have there : event ∈ before.seen := by
      simpa [Catalog.Shows, sale] using shows
    exact List.all_eq_true.mp seen event there
  · simp [Catalog.Shows, sale]

section Server

variable {world : CounterWorld} (sound : SoundCounter world) {key : ℕ}

include sound

theorem SoundCounter.book {event : Event CounterPayload} :
    SoundCounter (world.book event) := by
  unfold CounterWorld.book
  split
  · exact sound
  · rename_i unknown
    rw [not_or] at unknown
    obtain ⟨new, pushed⟩ := unknown
    obtain ⟨batch, there, member⟩ : ∃ batch ∈ world.box.pushed,
        event ∈ batch := by
      simpa using pushed
    exact
      { sound with
        once := List.nodup_cons.mpr ⟨new, sound.once⟩
        booked := List.forall_mem_cons.mpr
          ⟨sound.box.sound.sent batch there event member, sound.booked⟩
        held := sound.stillHeld rfl rfl rfl rfl }

theorem SoundCounter.recatalog {memory disk : Catalog} {fetches : Table Fetch}
    (truthful : memory.Truthful world.initial ∧ disk.Truthful world.initial)
    (fetched : ∀ key fetch, fetches.get? key = some fetch →
      fetch.catalog.Truthful world.initial)
    (inMemory : ∀ event, world.memory.Shows event = true →
      memory.Shows event = true)
    (onDisk : ∀ event, world.disk.Shows event = true →
      disk.Shows event = true) :
    SoundCounter { world with
      memory
      disk
      fetches } :=
  { sound with
    memory := truthful.1
    disk := truthful.2
    fetches := fetched
    inMemory := fun event member =>
      (sound.inMemory event member).imp_left (inMemory event)
    onDisk := fun event member =>
      (sound.onDisk event member).imp_left (onDisk event)
    held := sound.stillHeld rfl rfl rfl rfl }

theorem SoundCounter.fetch {branchId : Option ℕ} {branches : List ℕ}
    {parts : List Part} :
    SoundCounter (world.fetch branchId branches parts) := by
  unfold CounterWorld.fetch
  split
  · rename_i kept
    simp only [CounterWorld.shown, Bool.and_eq_true, List.all_eq_true,
      beq_iff_eq] at kept
    obtain ⟨shown, -⟩ := kept
    refine sound.recatalog ⟨sound.memory, sound.disk⟩ ?_ (fun _ => id)
      fun _ => id
    intro other fetch found
    rcases Table.get?_insert_cases found with ⟨-, rfl⟩ | found
    · exact ⟨fun part listed => (shown part listed).1,
        fun part listed row there => (shown part listed).2 row there⟩
    · exact sound.fetches other fetch found
  · exact sound

theorem SoundCounter.keep (careful : (CounterOp.keep key).Careful world) :
    SoundCounter (world.keep key) := by
  unfold CounterWorld.keep
  split
  · rename_i catalog found
    simp only [CounterOp.Careful, CounterOp.careful, found,
      Option.all_some] at careful
    have truthful : catalog.Truthful world.initial :=
      sound.fetches key _ found
    refine sound.recatalog ⟨truthful, sound.disk⟩ ?_
      (Catalog.shows_of_seen careful) fun _ => id
    intro other fetch there
    rcases Table.get?_modify_cases there with ⟨-, earlier, -, rfl⟩ | there
    · exact truthful
    · exact sound.fetches other fetch there
  · exact sound

theorem SoundCounter.save (careful : (CounterOp.save key).Careful world) :
    SoundCounter (world.save key) := by
  unfold CounterWorld.save
  split
  · rename_i catalog found
    simp only [CounterOp.Careful, CounterOp.careful, found,
      Option.all_some] at careful
    have truthful : catalog.Truthful world.initial :=
      sound.fetches key _ found
    refine sound.recatalog ⟨sound.memory, truthful⟩ ?_ (fun _ => id)
      (Catalog.shows_of_seen careful)
    intro other fetch there
    rcases Table.get?_modify_cases there with ⟨-, earlier, -, rfl⟩ | there
    · exact truthful
    · exact sound.fetches other fetch there
  · exact sound

theorem SoundCounter.clear (careful : (CounterOp.clear key).Careful world) :
    SoundCounter (world.clear key) := by
  simp only [CounterOp.Careful, CounterOp.careful, List.all_eq_true,
    Bool.and_eq_true] at careful
  unfold CounterWorld.clear
  split
  · have fetched : ∀ other fetch,
        (world.fetches.erase key).get? other = some fetch →
          fetch.catalog.Truthful world.initial := by
      intro other fetch there
      exact sound.fetches other fetch (Table.get?_erase_eq_some.mp there).2
    exact
      { sound with
        fetches := fetched
        ledger := rfl
        inMemory := fun event member => by
          rcases sound.inMemory event member with seen | file | waits | reports
          · exact .inl seen
          · exact .inr (.inl file)
          · exact .inl (careful event waits).1
          · exact .inr (.inr (.inr reports))
        onDisk := fun event member => by
          rcases sound.onDisk event member with seen | file | waits | reports
          · exact .inl seen
          · exact .inr (.inl file)
          · exact .inl (careful event waits).2
          · exact .inr (.inr (.inr reports))
        held := sound.stillHeld rfl rfl rfl rfl }
  · exact sound

theorem SoundCounter.restart (careful : CounterOp.restart.Careful world) :
    SoundCounter world.restart := by
  simp only [CounterOp.Careful, CounterOp.careful, List.all_eq_true] at careful
  have counted : ∀ event ∈ world.confirmed,
      world.restart.Counted world.disk event := by
    intro event member
    rcases sound.onDisk event member with seen | file | waits | reports
    · exact .inl seen
    · exact .inr (.inl file)
    · exact .inr (.inr (.inl waits))
    · exact .inl (careful event reports)
  constructor
  · exact sound.box.cut
  · exact sound.once
  · exact sound.booked
  · exact sound.disk
  · exact sound.disk
  · exact fun key fetch found => by cases found
  · exact sound.ledger
  · exact counted
  · exact counted
  · exact sound.sold
  · exact sound.left
  · exact fun confirming selling => by cases selling

end Server

theorem SoundCounter.step {world : CounterWorld} (sound : SoundCounter world)
    {op : CounterOp} (careful : op.Careful world) :
    SoundCounter (op.step world) := by
  cases op with
  | login maySell => exact sound.login
  | logout key => exact sound.logout careful
  | pickBranch key branchId => exact sound.pickBranch careful
  | find key partNumber qty => exact sound.find
  | add adding =>
      simp only [CounterOp.Careful, CounterOp.careful, Bool.and_eq_true,
        beq_iff_eq] at careful
      exact sound.add careful.1.1 careful.1.2 careful.2
  | remove key partNumber => exact sound.changed careful _
  | confirm key => exact sound.confirm
  | findLine => exact sound.findLine
  | checkLine =>
      simp only [CounterOp.Careful, CounterOp.careful, Bool.and_eq_true]
        at careful
      apply sound.checkLine careful.1
      intro confirming part line selling taken there
      simpa [selling, taken, there] using careful.2
  | record texts => exact sound.record careful
  | finish key => exact sound.finish careful
  | other kind payload =>
      simp only [CounterOp.step]
      split
      · exact sound
      · rename_i other
        refine sound.other ?_ other
        simpa [CounterOp.Careful, CounterOp.careful] using careful
  | flush => exact sound.rebox sound.box.flush_quiet
  | read key => exact sound.rebox sound.box.read_quiet
  | lose key => exact sound.rebox sound.box.lose_quiet
  | answer key failed => exact sound.rebox sound.box.answer_quiet
  | write key => exact sound.write careful
  | report key => exact sound.report
  | book event => exact sound.book
  | fetch branchId branches parts => exact sound.fetch
  | keep key => exact sound.keep careful
  | save key => exact sound.save careful
  | clear key => exact sound.clear careful
  | restart => exact sound.restart careful

theorem sound_opened {initial : Option ℕ → String → ℕ} {catalog : Catalog}
    (truthful : catalog.Truthful initial) :
    SoundCounter (openedCounter initial catalog) where
  box :=
    { sound := sound_empty
      ended := rfl
      same := rfl
      batched := fun _ _ found => by cases found }
  once := List.nodup_nil
  booked _ member := by cases member
  memory := truthful
  disk := truthful
  fetches _ _ found := by cases found
  ledger := rfl
  inMemory _ member := by cases member
  onDisk _ member := by cases member
  sold _ _ := Nat.zero_le _
  left _ member := by cases member
  held _ selling := by cases selling

/-- Nothing is sold that is out, in every careful run of a counter that opens
with the stock of the server. -/
theorem counter_neverOversold (initial : Option ℕ → String → ℕ)
    (catalog : Catalog) (truthful : catalog.Truthful initial)
    (ops : List CounterOp)
    (careful : Txn.Throughout CounterOp.run CounterOp.Careful ops
      (openedCounter initial catalog)) :
    NeverOversold
      (Txn.after CounterOp.run ops (openedCounter initial catalog)) := by
  apply SoundCounter.neverOversold
  refine Txn.after_of_throughout SoundCounter ?_ ?_ ops _
    (sound_opened truthful) careful
  · intro op before error after returned
    cases returned
  · intro op before after sound met returned
    obtain rfl := Txn.modify_eq_ok.mp returned
    exact sound.step met

def onePad (branchId : Option ℕ) (partNumber : String) : ℕ :=
  if partNumber = "pad" ∧ (branchId = none ∨ branchId = some 2) then 1 else 0

def padCatalog : Catalog where
  branchId := some 1
  branches := [1, 2]
  parts := [{ partNumber := "pad", stock := 1, elsewhere := [(2, 1)] }]

theorem padCatalog_truthful : padCatalog.Truthful onePad where
  stock := by decide
  elsewhere := by decide

def wants (session : ℕ) (stock elsewhere : ℤ) : List CounterOp :=
  [.find session "pad" 1,
    .add
      { session
        part := { partNumber := "pad", stock, elsewhere := [(2, elsewhere)] }
        qty := 1 }]

def sells (session : ℕ) : List CounterOp :=
  [.confirm session, .findLine, .checkLine, .record [], .finish session]

/-- A pad is sold in each branch; the sales are sent, booked and shown by the
next catalog, and another phone asks in vain before and after. -/
def padsSold : List CounterOp :=
  [.login true, .login true, .pickBranch 1 (some 2)] ++ wants 0 1 1 ++ sells 0 ++
    wants 1 1 1 ++ sells 1 ++ wants 0 1 1 ++
    [.flush, .read 0, .answer 0 [], .write 0, .report 0,
      .book
        { clientUid := 0
          kind := "sale"
          payload := { items := [⟨"pad", 1⟩] } },
      .book
        { clientUid := 1
          kind := "sale"
          payload :=
            { branchId := some 2
              items := [⟨"pad", 1⟩] } },
      .fetch (some 1) [1, 2]
        [{ partNumber := "pad", stock := 0, elsewhere := [(2, 0)] }],
      .keep 0, .save 0, .clear 0, .restart, .login true] ++
    wants 0 0 0 ++ sells 0

theorem counter_neverOversold_padsSold : NeverOversold
    (Txn.after CounterOp.run padsSold (openedCounter onePad padCatalog)) :=
  counter_neverOversold onePad padCatalog padCatalog_truthful padsSold
    (Txn.throughout_of_checks (by decide +kernel))

def padSoldTwice : List CounterOp :=
  [.login true, .login true] ++ wants 0 1 1 ++ sells 0 ++
    [.flush, .read 0, .answer 0 [], .write 0] ++ wants 1 1 1 ++ sells 1

theorem counter_sellsTwice : ¬ ∀ ops : List CounterOp,
    NeverOversold
      (Txn.after CounterOp.run ops (openedCounter onePad padCatalog)) := by
  intro never
  have sold := (never padSoldTwice).sold none "pad"
  revert sold
  decide +kernel

end Robot

end Mousstec
