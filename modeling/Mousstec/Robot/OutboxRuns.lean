import Mousstec.Robot.Outbox

/-!
# The outbox loses nothing

Every event that was added stays on disk until the server has taken its batch or
has failed it as often as the outbox tries, in every run in which no event is
added behind a line that was cut off, no text holds a line separator and no cut
halves a character.
-/

namespace Mousstec

namespace Robot

open Library

variable {α : Type}

/-- An event was in a batch that the server took. -/
def Outbox.Taken (box : Outbox α) (uid : ℕ) : Prop :=
  ∃ answer ∈ box.answers, uid ∈ answer.ids ∧ answer.failed = []

def Outbox.timesFailed (box : Outbox α) (uid : ℕ) : ℕ :=
  box.answers.countP fun answer => decide (uid ∈ answer.failed)

def Outbox.batchesFailed (box : Outbox α) (uid : ℕ) : ℕ :=
  box.answers.countP fun answer =>
    decide (uid ∈ answer.ids) && decide (answer.failed ≠ [])

/-- The outbox loses no event before it may give it up. -/
structure LosesNothing (tries : Outbox α → ℕ → ℕ) (box : Outbox α) :
    Prop where
  kept : ∀ event ∈ box.added,
    (∃ pending, box.file.read = some pending ∧
        event ∈ pending.map StoredEvent.event) ∨
      box.Taken event.clientUid ∨ maxTries ≤ tries box event.clientUid
  unique : (box.written.map Event.clientUid).Nodup
  sent : ∀ batch ∈ box.pushed, ∀ event ∈ batch, event ∈ box.written
  ends : ∀ key flush, box.flushes.get? key = some flush →
    flush.rounds ≤ box.written.length

def Cut.halves : Cut → Bool
  | nothing => false
  | piece halvesCharacter => halvesCharacter
  | unended => false

/-- No event is added behind a line that was cut off, no text holds a line
separator, and no cut halves a character. -/
def OutboxOp.Careful [Texts α] (op : OutboxOp α) (box : Outbox α) : Prop :=
  match op with
  | add _ payload => (box.file.tail.isNone && !splits payload) = true
  | cutAdd _ _ how => how.halves = false
  | _ => True

instance [Texts α] (op : OutboxOp α) (box : Outbox α) :
    Decidable (op.Careful box) :=
  match op with
  | .add _ _ => inferInstanceAs (Decidable (_ = true))
  | .cutAdd _ _ _ => inferInstanceAs (Decidable (_ = false))
  | .cut => .isTrue trivial
  | .flush => .isTrue trivial
  | .read _ => .isTrue trivial
  | .lose _ => .isTrue trivial
  | .answer _ _ => .isTrue trivial
  | .write _ => .isTrue trivial
  | .report _ => .isTrue trivial

namespace OutboxFile

variable {file : OutboxFile α} {event : Event α}

theorem mem_events {stored : StoredEvent α} : stored ∈ file.events ↔
    .event stored ∈ file.lines ++ file.tail.toList := by
  rw [events, List.mem_filterMap]
  constructor
  · rintro ⟨line, member, found⟩
    cases line with
    | dropped => cases found
    | event other =>
        obtain rfl := Option.some.inj found
        exact member
  · exact fun member => ⟨_, member, rfl⟩

theorem events_append [Texts α] (ended : file.tail = none)
    (whole : splits event.payload = false) :
    (file.append event).events = file.events ++ [⟨event, 0⟩] := by
  simp [append, events, rendered, ended, whole, Line.event?]

theorem append_tail [Texts α] (ended : file.tail = none) :
    (file.append event).tail = none := by
  simp [append, ended]

theorem append_decodes [Texts α] :
    (file.append event).decodes = file.decodes := by
  unfold append
  split <;> rfl

theorem cutAppend_decodes [Texts α] {how : Cut} (whole : how.halves = false) :
    (file.cutAppend event how).decodes = file.decodes := by
  cases how with
  | nothing => rfl
  | piece halves =>
      obtain rfl : halves = false := whole
      simp [cutAppend]
  | unended => rfl

@[simp] theorem cutAppend_lines [Texts α] (how : Cut) :
    (file.cutAppend event how).lines = file.lines := by
  cases how with
  | nothing => rfl
  | piece halves => rfl
  | unended => rfl

/-- What a cut append leaves among the events: some of them, and perhaps the
event itself. -/
theorem events_cutAppend [Texts α] (file : OutboxFile α) (event : Event α)
    (how : Cut) : ∃ earlier rest : List (StoredEvent α),
      earlier.Sublist file.events ∧ (rest = [] ∨ rest = [⟨event, 0⟩]) ∧
        (file.cutAppend event how).events = earlier ++ rest := by
  have onLines : (file.lines.filterMap Line.event?).Sublist file.events :=
    (List.sublist_append_left _ _).filterMap _
  cases how with
  | nothing => exact ⟨file.events, [], .refl _, .inl rfl, by simp [cutAppend]⟩
  | piece halves =>
      exact ⟨_, [], onLines, .inl rfl, by simp [cutAppend, events, Line.event?]⟩
  | unended =>
      by_cases merged : file.tail.isSome || splits event.payload
      · exact ⟨_, [], onLines, .inl rfl,
          by simp [cutAppend, events, merged, Line.event?]⟩
      · exact ⟨_, [⟨event, 0⟩], onLines, .inr rfl,
          by simp [cutAppend, events, merged, Line.event?]⟩

theorem events_rewritten (keep : List (StoredEvent α)) :
    (rewritten keep).events = keep := by
  simp [rewritten, events, Line.event?, Function.comp_def, List.filterMap_map]

@[simp] theorem rewritten_lines (keep : List (StoredEvent α)) :
    (rewritten keep).lines = keep.map .event :=
  rfl

end OutboxFile

section Kept

variable {ids : List ℕ} {failed : ℕ} {stored later : StoredEvent α}

theorem keptEvent_event (kept : keptEvent ids failed stored = some later) :
    later.event = stored.event := by
  unfold keptEvent at kept
  split at kept
  · split at kept
    · cases kept
    · split at kept
      · cases kept
      · obtain rfl := Option.some.inj kept
        rfl
  · obtain rfl := Option.some.inj kept
    rfl

/-- An event outlives an answer, or its batch was taken, or it was tried often
enough. -/
theorem keptEvent_cases (ids : List ℕ) (failed : ℕ) (stored : StoredEvent α) :
    (stored.uid ∉ ids ∧ keptEvent ids failed stored = some stored) ∨
      (stored.uid ∈ ids ∧ failed = 0 ∧ keptEvent ids failed stored = none) ∨
      (stored.uid ∈ ids ∧ failed ≠ 0 ∧ maxTries ≤ stored.tries + 1 ∧
        keptEvent ids failed stored = none) ∨
      (stored.uid ∈ ids ∧ failed ≠ 0 ∧ keptEvent ids failed stored =
        some { stored with tries := stored.tries + 1 }) := by
  unfold keptEvent
  split
  · rename_i member
    split
    · rename_i zero
      exact .inr (.inl ⟨member, zero, rfl⟩)
    · rename_i failed
      split
      · rename_i often
        exact .inr (.inr (.inl ⟨member, failed, often, rfl⟩))
      · exact .inr (.inr (.inr ⟨member, failed, rfl⟩))
  · rename_i other
    exact .inl ⟨other, rfl⟩

theorem keptEvents_uids (events : List (StoredEvent α)) :
    ((events.filterMap (keptEvent ids failed)).map StoredEvent.uid).Sublist
      (events.map StoredEvent.uid) := by
  induction events with
  | nil => exact .refl _
  | cons first events induction =>
      cases kept : keptEvent ids failed first with
      | none =>
          rw [List.filterMap_cons_none kept]
          exact induction.cons _
      | some later =>
          rw [List.filterMap_cons_some kept, List.map_cons, List.map_cons,
            StoredEvent.uid, keptEvent_event kept]
          exact induction.cons_cons _

end Kept

def FlushStage.held : FlushStage α → List (StoredEvent α)
  | reading => []
  | pushing batch => batch
  | writing batch _ => batch
  | reporting _ => []

def FlushStage.holds : FlushStage α → Bool
  | reading => false
  | pushing _ => true
  | writing _ _ => true
  | reporting _ => false

/-- Each round of a flush has taken an event off the disk for good. -/
structure Counted (box : Outbox α) (flush : Flush α) (gone : List ℕ) : Prop where
  nodup : gone.Nodup
  rounds : flush.rounds = gone.length
  known : ∀ uid ∈ gone, uid ∈ box.written.map Event.clientUid
  left : ∀ uid ∈ gone, uid ∉ box.file.events.map StoredEvent.uid
  held : ∀ stored ∈ flush.stage.held, stored.uid ∉ gone ∧
    stored.uid ∈ box.written.map Event.clientUid
  some : flush.stage.holds = true → flush.stage.held ≠ []

/-- What holds of the outbox after every careful operation. -/
structure Sound (box : Outbox α) : Prop where
  decodes : box.file.decodes = true
  numbered : ∀ event ∈ box.written, event.clientUid < box.next
  unique : (box.written.map Event.clientUid).Nodup
  listed : ∀ event ∈ box.added, event ∈ box.written
  stored : ∀ stored ∈ box.file.events, stored.event ∈ box.written
  once : (box.file.events.map StoredEvent.uid).Nodup
  sent : ∀ batch ∈ box.pushed, ∀ event ∈ batch, event ∈ box.written
  kept : ∀ event ∈ box.added,
    (∃ stored, .event stored ∈ box.file.lines ∧ stored.event = event) ∨
      box.Taken event.clientUid ∨
      maxTries ≤ box.batchesFailed event.clientUid
  tries : ∀ stored ∈ box.file.events,
    stored.tries ≤ box.batchesFailed stored.uid
  ends : ∀ key flush, box.flushes.get? key = some flush →
    ∃ gone, Counted box flush gone

theorem Counted.mono {before after : Outbox α} {flush : Flush α}
    {gone : List ℕ} (counted : Counted before flush gone)
    (numbered : ∀ event ∈ before.written, event.clientUid < before.next)
    (written : ∀ event ∈ before.written, event ∈ after.written)
    (events : ∀ stored ∈ after.file.events,
      stored.uid ∈ before.file.events.map StoredEvent.uid ∨
        before.next ≤ stored.uid) : Counted after flush gone where
  nodup := counted.nodup
  rounds := counted.rounds
  known uid member := by
    obtain ⟨event, listed, rfl⟩ := List.mem_map.mp (counted.known uid member)
    exact List.mem_map_of_mem (written event listed)
  left uid member there := by
    obtain ⟨stored, listed, rfl⟩ := List.mem_map.mp there
    obtain ⟨event, known, same⟩ :=
      List.mem_map.mp (counted.known stored.uid member)
    rcases events stored listed with earlier | new
    · exact counted.left stored.uid member earlier
    · have less := numbered event known
      omega
  held stored member := by
    obtain ⟨absent, known⟩ := counted.held stored member
    obtain ⟨event, listed, same⟩ := List.mem_map.mp known
    exact ⟨absent, List.mem_map.mpr ⟨event, written event listed, same⟩⟩
  some := counted.some

theorem Counted.rounds_le {box : Outbox α} {flush : Flush α} {gone : List ℕ}
    (counted : Counted box flush gone) : flush.rounds ≤ box.written.length := by
  have within := (List.subperm_of_subset counted.nodup
    fun uid member => counted.known uid member).length_le
  rw [List.length_map] at within
  rw [counted.rounds]
  exact within

theorem Sound.losesNothing {box : Outbox α} (sound : Sound box) :
    LosesNothing Outbox.batchesFailed box where
  kept event added := by
    rcases sound.kept event added with ⟨stored, there, rfl⟩ | rest
    · left
      refine ⟨box.file.events, if_pos sound.decodes, ?_⟩
      exact List.mem_map_of_mem (OutboxFile.mem_events.mpr
        (List.mem_append_left _ there))
    · exact .inr rest
  unique := sound.unique
  sent := sound.sent
  ends key flush found := by
    obtain ⟨gone, counted⟩ := sound.ends key flush found
    exact counted.rounds_le

section Steps

variable {box : Outbox α} {key : ℕ}

/-- Only the rounds under way change. -/
theorem Sound.reflush (sound : Sound box) {flushes : Table (Flush α)}
    (ends : ∀ key flush, flushes.get? key = some flush →
      ∃ gone, Counted box flush gone) : Sound { box with flushes } where
  decodes := sound.decodes
  numbered := sound.numbered
  unique := sound.unique
  listed := sound.listed
  stored := sound.stored
  once := sound.once
  sent := sound.sent
  kept := sound.kept
  tries := sound.tries
  ends key flush found := by
    obtain ⟨gone, counted⟩ := ends key flush found
    exact ⟨gone, counted.nodup, counted.rounds, counted.known, counted.left,
      counted.held, counted.some⟩

theorem Sound.ended (sound : Sound box) (key : ℕ) : Sound (box.ended key) := by
  apply sound.reflush
  intro other flush found
  exact sound.ends other flush (Table.get?_erase_eq_some.mp found).2

theorem Sound.staged (sound : Sound box) {flush : Flush α}
    (counted : ∃ gone, Counted box flush gone) :
    Sound (box.staged key flush) := by
  apply sound.reflush
  intro other found there
  rcases Table.get?_modify_cases there with ⟨-, earlier, -, rfl⟩ | there
  · exact counted
  · exact sound.ends other found there

/-- A new event is written, and what was on the lines stays. -/
theorem Sound.grown (sound : Sound box) {file : OutboxFile α} {kind : String}
    {payload : α} {added : List (Event α)} {flushes : Table (Flush α)}
    (decodes : file.decodes = true)
    (lines : ∀ line ∈ box.file.lines, line ∈ file.lines)
    {earlier rest : List (StoredEvent α)}
    (old : earlier.Sublist box.file.events)
    (new : rest = [] ∨ rest = [⟨⟨box.next, kind, payload⟩, 0⟩])
    (events : file.events = earlier ++ rest)
    (adds : ∀ event ∈ added, event ∈ box.added ∨
      event = ⟨box.next, kind, payload⟩ ∧
        .event ⟨⟨box.next, kind, payload⟩, 0⟩ ∈ file.lines)
    (under : ∀ key flush, flushes.get? key = some flush →
      box.flushes.get? key = some flush) :
    Sound { box with
      file
      next := box.next + 1
      flushes
      written := ⟨box.next, kind, payload⟩ :: box.written
      added } := by
  have found : ∀ stored ∈ file.events, stored ∈ box.file.events ∨
      stored = ⟨⟨box.next, kind, payload⟩, 0⟩ := by
    intro stored member
    rw [events] at member
    rcases List.mem_append.mp member with there | there
    · exact .inl (old.subset there)
    · rcases new with rfl | rfl
      · cases there
      · exact .inr (List.mem_singleton.mp there)
  have fresh : ∀ event ∈ box.written, event.clientUid ≠ box.next :=
    fun event member => (sound.numbered event member).ne
  constructor
  · exact decodes
  · intro event member
    rcases List.mem_cons.mp member with rfl | there
    · exact Nat.lt_succ_self _
    · exact (sound.numbered event there).trans (Nat.lt_succ_self _)
  · rw [List.map_cons, List.nodup_cons]
    refine ⟨?_, sound.unique⟩
    intro member
    obtain ⟨event, there, same⟩ := List.mem_map.mp member
    exact fresh event there same
  · intro event member
    rcases adds event member with there | ⟨rfl, -⟩
    · exact List.mem_cons_of_mem _ (sound.listed event there)
    · exact List.mem_cons_self
  · intro stored member
    rcases found stored member with there | rfl
    · exact List.mem_cons_of_mem _ (sound.stored stored there)
    · exact List.mem_cons_self
  · rw [events, List.map_append]
    have once : (earlier.map StoredEvent.uid).Nodup :=
      sound.once.sublist (old.map _)
    rcases new with rfl | rfl
    · rwa [List.map_nil, List.append_nil]
    · rw [List.nodup_append]
      refine ⟨once, List.nodup_singleton _, ?_⟩
      intro uid member other single same
      obtain rfl := List.mem_singleton.mp single
      obtain ⟨stored, there, rfl⟩ := List.mem_map.mp member
      exact fresh stored.event (sound.stored stored (old.subset there)) same
  · exact fun batch pushed event member =>
      List.mem_cons_of_mem _ (sound.sent batch pushed event member)
  · intro event member
    rcases adds event member with there | ⟨rfl, onLine⟩
    · rcases sound.kept event there with ⟨stored, line, rfl⟩ | rest
      · exact .inl ⟨stored, lines _ line, rfl⟩
      · exact .inr rest
    · exact .inl ⟨_, onLine, rfl⟩
  · intro stored member
    rcases found stored member with there | rfl
    · exact sound.tries stored there
    · exact Nat.zero_le _
  · intro key flush under'
    obtain ⟨gone, counted⟩ := sound.ends key flush (under key flush under')
    refine ⟨gone, counted.mono sound.numbered
      (fun event member => List.mem_cons_of_mem _ member) ?_⟩
    intro stored member
    rcases found stored member with there | rfl
    · exact .inl (List.mem_map_of_mem there)
    · exact .inr le_rfl

theorem Sound.add [Texts α] (sound : Sound box) {kind : String} {payload : α}
    (ended : box.file.tail = none) (whole : splits payload = false) :
    Sound (box.add kind payload) := by
  have decodes :
      (box.file.append ⟨box.next, kind, payload⟩).decodes = true := by
    rw [OutboxFile.append_decodes]
    exact sound.decodes
  have lines : ∀ line ∈ box.file.lines,
      line ∈ (box.file.append ⟨box.next, kind, payload⟩).lines := by
    intro line member
    simp only [OutboxFile.append, ended]
    exact List.mem_append_left _ member
  refine sound.grown decodes lines (.refl _) (.inr rfl)
    (OutboxFile.events_append ended whole) ?_ fun key flush found => found
  intro event member
  rcases List.mem_cons.mp member with rfl | there
  · refine .inr ⟨rfl, ?_⟩
    simp [OutboxFile.append, OutboxFile.rendered, ended, whole]
  · exact .inl there

private theorem no_flush {key : ℕ} {flush : Flush α}
    (found : box.cut.flushes.get? key = some flush) : False := by
  rw [Outbox.cut, Table.get?_filter] at found
  simp at found

theorem Sound.cut (sound : Sound box) : Sound box.cut :=
  sound.reflush fun _ _ found => (no_flush found).elim

theorem Sound.cutAdd [Texts α] (sound : Sound box) {kind : String} {payload : α}
    {how : Cut} (whole : how.halves = false) :
    Sound (box.cutAdd kind payload how) := by
  obtain ⟨earlier, rest, old, new, events⟩ := OutboxFile.events_cutAppend
    box.file ⟨box.next, kind, payload⟩ how
  have decodes :
      (box.file.cutAppend ⟨box.next, kind, payload⟩ how).decodes = true := by
    rw [OutboxFile.cutAppend_decodes whole]
    exact sound.decodes
  have lines : ∀ line ∈ box.file.lines,
      line ∈ (box.file.cutAppend ⟨box.next, kind, payload⟩ how).lines := by
    intro line member
    rwa [OutboxFile.cutAppend_lines]
  exact sound.grown decodes lines old new events
    (fun event member => .inl member) fun _ _ found => (no_flush found).elim

theorem Sound.read (sound : Sound box) : Sound (box.read key) := by
  unfold Outbox.read
  split
  · rename_i sent rounds found
    rw [OutboxFile.read, if_pos sound.decodes]
    simp only
    split
    · exact sound.ended key
    · rename_i some
      obtain ⟨gone, counted⟩ := sound.ends key _ found
      have onDisk : ∀ stored ∈ box.file.events.take batchSize,
          stored ∈ box.file.events :=
        fun stored member => List.mem_of_mem_take member
      have staged : Sound (box.staged key
          { sent, rounds, stage := .pushing (box.file.events.take batchSize) }) := by
        apply sound.staged
        refine ⟨gone, counted.nodup, counted.rounds, counted.known, counted.left,
          ?_, fun _ => some⟩
        intro stored member
        refine ⟨?_, List.mem_map_of_mem
          (sound.stored stored (onDisk stored member))⟩
        intro taken
        exact counted.left stored.uid taken
          (List.mem_map_of_mem (onDisk stored member))
      refine ⟨staged.decodes, staged.numbered, staged.unique, staged.listed,
        staged.stored, staged.once, ?_, staged.kept, staged.tries, ?_⟩
      · intro batch pushed event member
        rcases List.mem_cons.mp pushed with rfl | earlier
        · obtain ⟨stored, there, rfl⟩ := List.mem_map.mp member
          exact sound.stored stored (onDisk stored there)
        · exact sound.sent batch earlier event member
      · intro other flush there
        obtain ⟨gone, counted⟩ := staged.ends other flush there
        exact ⟨gone, counted.nodup, counted.rounds, counted.known, counted.left,
          counted.held, counted.some⟩
  · exact sound

theorem Sound.lose (sound : Sound box) : Sound (box.lose key) := by
  unfold Outbox.lose
  split
  · exact sound.ended key
  · exact sound

theorem Sound.answer (sound : Sound box) {failed : List ℕ} :
    Sound (box.answer key failed) := by
  unfold Outbox.answer
  split
  · rename_i sent rounds batch found
    obtain ⟨gone, counted⟩ := sound.ends key _ found
    exact sound.staged ⟨gone, counted.nodup, counted.rounds, counted.known,
      counted.left, counted.held, counted.some⟩
  · exact sound

theorem Sound.report (sound : Sound box) : Sound (box.report key) := by
  unfold Outbox.report
  split
  · rename_i sent rounds batch found
    obtain ⟨gone, counted⟩ := sound.ends key _ found
    refine sound.staged ⟨gone, counted.nodup, counted.rounds, counted.known,
      counted.left, ?_, ?_⟩
    · intro stored member
      cases member
    · intro holds
      cases holds
  · exact sound

def Outbox.answered (box : Outbox α) (ids failed : List ℕ) : Outbox α :=
  { box with
    file := .rewritten
      (box.file.events.filterMap (keptEvent ids failed.length))
    answers := { ids, failed } :: box.answers }

theorem Outbox.batchesFailed_answered (box : Outbox α) (ids failed : List ℕ) (uid : ℕ) :
    (box.answered ids failed).batchesFailed uid =
      box.batchesFailed uid + if uid ∈ ids ∧ failed ≠ [] then 1 else 0 := by
  rw [batchesFailed, answered, List.countP_cons]
  congr 1
  by_cases member : uid ∈ ids
  · by_cases none : failed = []
    · simp [member, none]
    · simp [member, none]
  · simp [member]

theorem Sound.answered (sound : Sound box) (ids failed : List ℕ) :
    Sound (box.answered ids failed) := by
  have uids : ((box.answered ids failed).file.events.map
      StoredEvent.uid).Sublist (box.file.events.map StoredEvent.uid) := by
    rw [Outbox.answered, OutboxFile.events_rewritten]
    exact keptEvents_uids box.file.events
  have found : ∀ later ∈ (box.answered ids failed).file.events,
      ∃ stored ∈ box.file.events,
        keptEvent ids failed.length stored = some later := by
    intro later member
    rw [Outbox.answered, OutboxFile.events_rewritten] at member
    exact List.mem_filterMap.mp member
  refine ⟨rfl, sound.numbered, sound.unique, sound.listed, ?_,
    sound.once.sublist uids, sound.sent, ?_, ?_, ?_⟩
  · intro later member
    obtain ⟨stored, there, kept⟩ := found later member
    rw [keptEvent_event kept]
    exact sound.stored stored there
  · intro event added
    have fails := box.batchesFailed_answered ids failed event.clientUid
    rcases sound.kept event added with ⟨stored, line, rfl⟩ | taken | often
    · have there := OutboxFile.mem_events.mpr (List.mem_append_left _ line)
      have onLine : ∀ later, keptEvent ids failed.length stored = some later →
          .event later ∈ (box.answered ids failed).file.lines := by
        intro later kept
        rw [Outbox.answered, OutboxFile.rewritten_lines]
        exact List.mem_map_of_mem (List.mem_filterMap.mpr ⟨stored, there, kept⟩)
      rcases keptEvent_cases ids failed.length stored with ⟨-, kept⟩ |
        ⟨member, zero, -⟩ | ⟨member, some, often, -⟩ | ⟨-, -, kept⟩
      · exact .inl ⟨stored, onLine _ kept, rfl⟩
      · exact .inr (.inl ⟨_, List.mem_cons_self, member,
          List.length_eq_zero_iff.mp zero⟩)
      · have tried : stored.tries ≤
            box.batchesFailed stored.event.clientUid := sound.tries stored there
        have failing : failed ≠ [] := by
          rintro rfl
          exact some rfl
        rw [if_pos ⟨member, failing⟩] at fails
        exact .inr (.inr (by omega))
      · exact .inl ⟨_, onLine _ kept, rfl⟩
    · obtain ⟨answer, given, taken⟩ := taken
      exact .inr (.inl ⟨answer, List.mem_cons_of_mem _ given, taken⟩)
    · exact .inr (.inr (by omega))
  · intro later member
    obtain ⟨stored, there, kept⟩ := found later member
    have tried := sound.tries stored there
    have fails := box.batchesFailed_answered ids failed stored.uid
    have uid : later.uid = stored.uid :=
      congrArg Event.clientUid (keptEvent_event kept)
    rw [uid]
    rcases keptEvent_cases ids failed.length stored with ⟨-, same⟩ |
      ⟨-, -, none⟩ | ⟨-, -, -, none⟩ | ⟨listed, some, same⟩
    · rw [kept] at same
      obtain rfl := Option.some.inj same
      omega
    · rw [kept] at none
      cases none
    · rw [kept] at none
      cases none
    · rw [kept] at same
      obtain rfl := Option.some.inj same
      have failing : failed ≠ [] := by
        rintro rfl
        exact some rfl
      rw [if_pos ⟨listed, failing⟩] at fails
      simp only
      omega
  · intro key flush under
    obtain ⟨gone, counted⟩ := sound.ends key flush under
    refine ⟨gone, counted.mono sound.numbered (fun event member => member) ?_⟩
    intro stored member
    exact .inl (uids.subset (List.mem_map_of_mem member))

theorem Sound.write (sound : Sound box) : Sound (box.write key) := by
  unfold Outbox.write
  split
  · rename_i sent rounds batch failed found
    rw [OutboxFile.read, if_pos sound.decodes]
    simp only
    have after := sound.answered (batchIds batch) failed
    split
    · rename_i none
      obtain ⟨gone, counted⟩ := sound.ends key _ found
      obtain ⟨first, rest, some⟩ := List.exists_cons_of_ne_nil
        (counted.some rfl)
      obtain ⟨absent, known⟩ := counted.held first (by simp [some])
      have dropped : first.uid ∉ (box.answered (batchIds batch)
          failed).file.events.map StoredEvent.uid := by
        intro member
        obtain ⟨later, there, same⟩ := List.mem_map.mp member
        rw [Outbox.answered, OutboxFile.events_rewritten] at there
        obtain ⟨stored, -, kept⟩ := List.mem_filterMap.mp there
        have listed : stored.uid ∈ batchIds batch := by
          have uid : stored.uid = first.uid := by
            rw [← same, StoredEvent.uid, StoredEvent.uid, keptEvent_event kept]
          rw [uid]
          apply List.mem_map_of_mem
          have head : first ∈ FlushStage.held (.writing batch failed) := by
            simp [some]
          exact head
        rw [keptEvent, if_pos listed, if_pos (by simp [none])] at kept
        cases kept
      apply after.staged
      have remained : ∀ stored ∈
          (box.answered (batchIds batch) failed).file.events,
          stored.uid ∈ box.file.events.map StoredEvent.uid ∨
            box.next ≤ stored.uid := by
        intro stored member
        rw [Outbox.answered, OutboxFile.events_rewritten] at member
        exact .inl ((keptEvents_uids box.file.events).subset
          (List.mem_map_of_mem member))
      have later : Counted (box.answered (batchIds batch) failed) _ gone :=
        counted.mono sound.numbered (fun event member => member) remained
      refine ⟨first.uid :: gone, ?_, ?_, ?_, ?_, ?_, ?_⟩
      · exact List.nodup_cons.mpr ⟨absent, later.nodup⟩
      · have made := later.rounds
        simp only at made ⊢
        rw [List.length_cons, made]
      · exact List.forall_mem_cons.mpr ⟨known, later.known⟩
      · exact List.forall_mem_cons.mpr ⟨dropped, later.left⟩
      · intro stored member
        cases member
      · intro holds
        cases holds
    · exact after.ended key
  · exact sound

theorem Sound.step [Texts α] (sound : Sound box) {op : OutboxOp α}
    (careful : op.Careful box) : Sound (op.step box) := by
  cases op with
  | add kind payload =>
      simp only [OutboxOp.Careful, Bool.and_eq_true, Option.isNone_iff_eq_none,
        Bool.not_eq_true'] at careful
      exact sound.add careful.1 careful.2
  | cutAdd kind payload how => exact sound.cutAdd careful
  | cut => exact sound.cut
  | flush =>
      apply sound.reflush
      intro key flush found
      rcases Table.get?_insert_cases found with ⟨-, rfl⟩ | found
      · refine ⟨[], List.nodup_nil, rfl, ?_, ?_, ?_, ?_⟩
        · exact fun uid member => by cases member
        · exact fun uid member => by cases member
        · exact fun stored member => by cases member
        · exact fun holds => by cases holds
      · exact sound.ends key flush found
  | read key => exact sound.read
  | lose key => exact sound.lose
  | answer key failed => exact sound.answer
  | write key => exact sound.write
  | report key => exact sound.report

end Steps

theorem sound_empty : Sound ({} : Outbox α) where
  decodes := rfl
  numbered _ member := by cases member
  unique := List.nodup_nil
  listed _ member := by cases member
  stored _ member := by cases member
  once := List.nodup_nil
  sent _ member := by cases member
  kept _ member := by cases member
  tries _ member := by cases member
  ends _ _ found := by cases found

/-- The outbox loses nothing, in every careful run. -/
theorem outbox_losesNothing [Texts α] (ops : List (OutboxOp α))
    (careful : Txn.Throughout OutboxOp.run OutboxOp.Careful ops {}) :
    LosesNothing Outbox.batchesFailed (Txn.after OutboxOp.run ops {}) := by
  apply Sound.losesNothing
  refine Txn.after_of_throughout Sound ?_ ?_ ops _ sound_empty careful
  · intro op before error after returned
    cases returned
  · intro op before after sound met returned
    obtain rfl := Txn.modify_eq_ok.mp returned
    exact sound.step met

/-- Five rounds in which the server fails the second of two events, between cuts
of the power. -/
def badNeighbour : List (OutboxOp String) :=
  [.add "sale" "good", .cutAdd "sale" "half" (.piece false), .flush, .read 0,
    .lose 0, .cut, .flush, .read 1, .answer 1 [], .write 1, .report 1, .read 1,
    .add "sale" "good", .add "sale" "bad"] ++
    ((List.range 5).map (· + 2)).flatMap fun key =>
      [.flush, .read key, .answer key [3], .write key]

theorem outbox_losesNothing_badNeighbour : LosesNothing Outbox.batchesFailed
    (Txn.after OutboxOp.run badNeighbour {}) :=
  outbox_losesNothing badNeighbour
    (Txn.throughout_of_checks (by decide +kernel))

/-- The good event is given up though the server never failed it. -/
theorem outbox_dropsNeighbour : ¬ ∀ ops : List (OutboxOp String),
    LosesNothing Outbox.timesFailed (Txn.after OutboxOp.run ops {}) := by
  intro kept
  have added : (⟨2, "sale", "good"⟩ : Event String) ∈
      (Txn.after OutboxOp.run badNeighbour {}).added := by
    decide +kernel
  rcases (kept badNeighbour).kept _ added with ⟨pending, read, there⟩ |
    ⟨answer, given, listed, none⟩ | often
  · have gone : (Txn.after OutboxOp.run badNeighbour {}).file.read =
        some [] := by
      decide +kernel
    rw [gone] at read
    obtain rfl := Option.some.inj read
    cases there
  · have failing : ((Txn.after OutboxOp.run badNeighbour {}).answers.all
        fun answer => decide (answer.failed = [] → 2 ∉ answer.ids)) = true := by
      decide +kernel
    exact of_decide_eq_true (List.all_eq_true.mp failing answer given) none
      listed
  · revert often
    decide +kernel

end Robot

end Mousstec
