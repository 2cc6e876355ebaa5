import Mousstec.Ecu.FlashSteps
import Mousstec.Library.Runs

/-!
# Runs of a flash session

Over any sequence of events and any environment, the unit is erased only with
a backup of the region in hand, a flash that fails writes it back once, and
what a session that got through has sent is the checked payload.  Three things
are outside the machine's care: whether the backup it was given is as long as
the payload, whether the restore went through, and what an event does to a
session that is done.
-/

namespace Mousstec

namespace Flash

open Library

variable {world : World flashInterface FlashRaised} {guarded : Bool}

/-- Every erase comes behind a backup of its region of a given length. -/
def ErasesBackedUp (length : Nat) (log : List FlashExchange) : Prop :=
  ∀ before addr outcome after,
    log = before ++ ⟨.erase addr, outcome⟩ :: after →
      ∃ size image,
        (⟨.readBackup addr size, .ok image⟩ : FlashExchange) ∈ before ∧
          image.size = length

theorem not_writing_erase {addr : Nat} {outcome : Except FlashRaised Unit} :
    ¬ Writing ⟨.erase addr, outcome⟩ :=
  fun writing => writing

theorem erasesBackedUp_of_writing {length : Nat} {log : List FlashExchange}
    (writing : ∀ exchange ∈ log, Writing exchange) :
    ErasesBackedUp length log := by
  intro before addr outcome after split
  have member : (⟨.erase addr, outcome⟩ : FlashExchange) ∈ log := by
    rw [split]
    exact List.mem_append_right _ List.mem_cons_self
  exact absurd (writing _ member) not_writing_erase

theorem ErasesBackedUp.append {length : Nat} {log added : List FlashExchange}
    (backed : ErasesBackedUp length log)
    (others : ∀ exchange ∈ added, ∀ addr outcome,
      exchange ≠ ⟨.erase addr, outcome⟩) :
    ErasesBackedUp length (log ++ added) := by
  intro before addr outcome after split
  rcases List.append_eq_append_iff.mp split with
    ⟨middle, rfl, rest⟩ | ⟨middle, rfl, rest⟩
  · refine absurd rfl (others _ ?_ addr outcome)
    rw [rest]
    exact List.mem_append_right _ List.mem_cons_self
  · cases middle with
    | nil =>
        refine absurd rfl (others _ ?_ addr outcome)
        rw [List.nil_append] at rest
        rw [← rest]
        exact List.mem_cons_self
    | cons exchange middle =>
        obtain ⟨rfl, -⟩ := List.cons.inj rest
        exact backed before addr outcome middle rfl

theorem ne_erase_of_writing {exchange : FlashExchange}
    (writing : Writing exchange) (addr : Nat)
    (outcome : Except FlashRaised Unit) :
    exchange ≠ ⟨.erase addr, outcome⟩ := by
  rintro rfl
  exact writing

theorem erasesBackedUp_erase {length size addr : Nat}
    {log : List FlashExchange} {image : FlashBackup}
    {outcome : Except FlashRaised Unit}
    (untouched : ∀ exchange ∈ log, Writing exchange)
    (read : (⟨.readBackup addr size, .ok image⟩ : FlashExchange) ∈ log)
    (enough : image.size = length) :
    ErasesBackedUp length (log ++ [⟨.erase addr, outcome⟩]) := by
  intro before other otherOutcome after split
  rcases List.append_eq_append_iff.mp split with
    ⟨middle, rfl, rest⟩ | ⟨middle, rfl, rest⟩
  · cases middle with
    | nil =>
        obtain ⟨same, -⟩ := List.cons.inj rest
        cases same
        exact ⟨size, image, List.mem_append_left _ read, enough⟩
    | cons exchange middle => simp at rest
  · cases middle with
    | nil =>
        obtain ⟨same, -⟩ := List.cons.inj rest
        cases same
        rw [List.append_nil] at read
        exact ⟨size, image, read, enough⟩
    | cons exchange middle =>
        obtain ⟨rfl, -⟩ := List.cons.inj rest
        exact absurd
          (untouched _ (List.mem_append_right _ List.mem_cons_self))
          not_writing_erase

/-- What holds of a session after any run whose steps meet the condition. -/
structure Sound (session : FlashSession) : Prop where
  untouched : session.machine.state = .idle ∨ session.machine.state = .ready ∨
    session.machine.state = .backedUp →
      ∀ exchange ∈ session.log, Quiet exchange
  waiting : session.machine.state ≠ .failed →
    session.machine.data.rolledBack = false
  loaded : session.machine.state ≠ .idle → session.machine.state ≠ .failed →
    Loaded session.machine
  backed : session.machine.state = .backedUp →
    ∃ job image, session.machine.job = some job ∧
      session.machine.backup = some image ∧
      (⟨.readBackup job.targetAddr session.machine.data.payloadLen,
        .ok image⟩ : FlashExchange) ∈ session.log
  erases : ErasesBackedUp session.machine.payload.length session.log
  restored : session.machine.data.rolledBack = true →
    ∃ image, session.machine.backup = some image ∧
      (⟨.restoreBackup image, .ok ()⟩ : FlashExchange) ∈ session.log
  written : session.machine.state = .flashed ∨ session.machine.state = .done →
    (transferred session.log).flatten = session.machine.payload

theorem Sound.holding {session : FlashSession} (sound : Sound session) :
    Holding session.machine := by
  intro backedUp
  obtain ⟨job, image, -, held, -⟩ := sound.backed backedUp
  refine ⟨image, held, sound.waiting ?_⟩
  rw [backedUp]
  decide

theorem sound_newSession : Sound newSession :=
  { untouched := fun _ => nofun
    waiting := fun _ => rfl
    loaded := fun started => absurd rfl started
    backed := nofun
    erases := erasesBackedUp_of_writing nofun
    restored := nofun
    written := nofun }

/-- What a step must find: a session that is not done, before a flash a backup
as long as the payload, and a restore that does not raise. -/
structure Meets (world : World flashInterface FlashRaised) (guarded : Bool)
    (event : FlashEvent) (session : FlashSession) : Prop where
  notDone : session.machine.state ≠ .done
  fullBackup : event = .flash → session.machine.state = .backedUp →
    ∀ image, session.machine.backup = some image →
      image.size = session.machine.data.payloadLen
  restores : ∀ image error,
    (⟨.restoreBackup image, .error error⟩ : FlashExchange) ∉
      ((handle world guarded event).final session).log

theorem payload_of_task {machine other : FlashMachine}
    (same : task machine = task other) : machine.payload = other.payload :=
  (Prod.mk.inj (Prod.mk.inj same).2).1

theorem erases_of_quiet {length : Nat} {log added : List FlashExchange}
    (backed : ErasesBackedUp length log)
    (quiet : ∀ exchange ∈ added, Quiet exchange) :
    ErasesBackedUp length (log ++ added) :=
  backed.append fun exchange member =>
    ne_erase_of_writing (quiet exchange member).writing

section Step

variable {event : FlashEvent} {before after : FlashSession}

theorem Sound.untouched_early (sound : Sound before)
    (early : before.machine.state = .idle ∨ before.machine.state = .ready)
    (calls : Session.Grows Quiet (fun machine => machine.data.rolledBack)
      before after) :
    (∀ exchange ∈ after.log, Quiet exchange) ∧
      after.machine.data.rolledBack = false := by
  obtain ⟨rolledBack, added, log, quiet⟩ := calls
  constructor
  · intro exchange member
    rw [log] at member
    rcases List.mem_append.mp member with member | member
    · exact sound.untouched (early.imp_right .inl) exchange member
    · exact quiet exchange member
  · refine rolledBack.trans (sound.waiting ?_)
    rcases early with idle | ready
    · rw [idle]
      decide
    · rw [ready]
      decide

theorem sound_failed_early
    (failed : after.machine.state = .failed)
    (quiet : ∀ exchange ∈ after.log, Quiet exchange)
    (waiting : after.machine.data.rolledBack = false) : Sound after := by
  refine
    { untouched := fun _ => quiet
      waiting := fun _ => waiting
      loaded := fun _ other => absurd failed other
      backed := fun backedUp => ?_
      erases := erasesBackedUp_of_writing fun exchange member =>
        (quiet exchange member).writing
      restored := fun back => ?_
      written := fun finished => ?_ }
  · rw [failed] at backedUp
    cases backedUp
  · rw [waiting] at back
    cases back
  · rw [failed] at finished
    rcases finished with finished | finished <;> cases finished

theorem sound_refused (sound : Sound before)
    (failed : after.machine.state = .failed)
    (calls : Session.Grows Quiet (fun machine => machine.data.rolledBack)
      before after)
    (kept : before.machine.state = .idle ∨ before.machine.state = .ready ∨
      task after.machine = task before.machine ∧
        after.machine.backup = before.machine.backup) : Sound after := by
  rcases or_assoc.mpr kept with early | ⟨sameTask, sameBackup⟩
  · obtain ⟨quiet, waiting⟩ := sound.untouched_early early calls
    exact sound_failed_early failed quiet waiting
  obtain ⟨rolledBack, added, log, quiet⟩ := calls
  refine
    { untouched := fun early => ?_
      waiting := fun other => absurd failed other
      loaded := fun _ other => absurd failed other
      backed := fun backedUp => ?_
      erases := ?_
      restored := fun back => ?_
      written := fun finished => ?_ }
  · rw [failed] at early
    rcases early with early | early | early <;> cases early
  · rw [failed] at backedUp
    cases backedUp
  · rw [payload_of_task sameTask, log]
    exact erases_of_quiet sound.erases quiet
  · obtain ⟨image, held, restore⟩ := sound.restored (rolledBack.symm.trans back)
    exact ⟨image, sameBackup.trans held, log ▸ List.mem_append_left _ restore⟩
  · rw [failed] at finished
    rcases finished with finished | finished <;> cases finished

theorem sound_started (sound : Sound before)
    (idle : before.machine.state = .idle)
    (ready : after.machine.state = .ready) (loaded : Loaded after.machine)
    (calls : Session.Grows Quiet saved before after) : Sound after := by
  obtain ⟨all, waiting⟩ := sound.untouched_early (.inl idle)
    ⟨(Prod.mk.inj calls.1).2, calls.2⟩
  refine
    { untouched := fun _ => all
      waiting := fun _ => waiting
      loaded := fun _ _ => loaded
      backed := fun backedUp => ?_
      erases := erasesBackedUp_of_writing fun exchange member =>
        (all exchange member).writing
      restored := fun back => ?_
      written := fun finished => ?_ }
  · rw [ready] at backedUp
    cases backedUp
  · rw [waiting] at back
    cases back
  · rw [ready] at finished
    rcases finished with finished | finished <;> cases finished

theorem sound_tookBackup (sound : Sound before) (job : FlashJob)
    (image : FlashBackup) (ready : before.machine.state = .ready)
    (backedUp : after.machine.state = .backedUp)
    (held : before.machine.job = some job)
    (backup : after.machine.backup = some image)
    (same : task after.machine = task before.machine)
    (calls : Session.Grows Quiet (fun machine => machine.data.rolledBack)
      before after)
    (read : (⟨.readBackup job.targetAddr before.machine.data.payloadLen,
      .ok image⟩ : FlashExchange) ∈ after.log) : Sound after := by
  obtain ⟨all, waiting⟩ := sound.untouched_early (.inr ready) calls
  have loaded : Loaded before.machine := by
    apply sound.loaded
    · rw [ready]
      decide
    · rw [ready]
      decide
  have parts := same
  simp only [task, Prod.mk.injEq] at parts
  obtain ⟨sameJob, -, length, -⟩ := parts
  refine
    { untouched := fun _ => all
      waiting := fun _ => waiting
      loaded := fun _ _ => loaded_of_task same loaded
      backed := fun _ => ⟨job, image, sameJob.trans held, backup, ?_⟩
      erases := erasesBackedUp_of_writing fun exchange member =>
        (all exchange member).writing
      restored := fun back => ?_
      written := fun finished => ?_ }
  · rw [length]
    exact read
  · rw [waiting] at back
    cases back
  · rw [backedUp] at finished
    rcases finished with finished | finished <;> cases finished

theorem sound_failed_restored (failed : after.machine.state = .failed)
    {image : FlashBackup} (backup : after.machine.backup = some image)
    (restore : (⟨.restoreBackup image, .ok ()⟩ : FlashExchange) ∈ after.log)
    (erases : ErasesBackedUp after.machine.payload.length after.log) :
    Sound after := by
  refine
    { untouched := fun early => ?_
      waiting := fun other => absurd failed other
      loaded := fun _ other => absurd failed other
      backed := fun backedUp => ?_
      erases := erases
      restored := fun _ => ⟨image, backup, restore⟩
      written := fun finished => ?_ }
  · rw [failed] at early
    rcases early with early | early | early <;> cases early
  · rw [failed] at backedUp
    cases backedUp
  · rw [failed] at finished
    rcases finished with finished | finished <;> cases finished

theorem restore_ne_erase {image : FlashBackup}
    {outcome : Except FlashRaised Unit} (addr : Nat)
    (other : Except FlashRaised Unit) :
    (⟨.restoreBackup image, outcome⟩ : FlashExchange) ≠
      ⟨.erase addr, other⟩ := by
  rintro ⟨⟩

theorem sound_wroteBack (sound : Sound before) (image : FlashBackup)
    (outcome : Except FlashRaised Unit)
    (failed : after.machine.state = .failed)
    (same : task after.machine = task before.machine)
    (savedAfter : saved after.machine = (some image, true))
    (log : after.log = before.log ++ [⟨.restoreBackup image, outcome⟩])
    (completes : ∀ error,
      (⟨.restoreBackup image, .error error⟩ : FlashExchange) ∉ after.log) :
    Sound after := by
  have restore : (⟨.restoreBackup image, outcome⟩ : FlashExchange) ∈
      after.log := by
    rw [log]
    exact List.mem_append_right _ (List.mem_singleton.mpr rfl)
  cases outcome with
  | error error => exact absurd restore (completes error)
  | ok answer =>
      refine sound_failed_restored failed (Prod.mk.inj savedAfter).1 restore ?_
      rw [payload_of_task same, log]
      refine sound.erases.append fun exchange member addr other => ?_
      rw [List.mem_singleton] at member
      exact member ▸ restore_ne_erase addr other

theorem erases_flash (sound : Sound before) {job : FlashJob}
    {outcome : Except FlashRaised Unit} {added : List FlashExchange}
    (backedUp : before.machine.state = .backedUp)
    (held : before.machine.job = some job)
    (writing : ∀ exchange ∈ added, Writing exchange)
    (full : ∀ image, before.machine.backup = some image →
      image.size = before.machine.data.payloadLen) :
    ErasesBackedUp before.machine.payload.length
      (before.log ++ ⟨.erase job.targetAddr, outcome⟩ :: added) := by
  obtain ⟨other, image, sameJob, backup, read⟩ := sound.backed backedUp
  have equal : other = job := Option.some.inj (sameJob.symm.trans held)
  subst equal
  have loaded : Loaded before.machine := by
    apply sound.loaded
    · rw [backedUp]
      decide
    · rw [backedUp]
      decide
  obtain ⟨-, -, length, -⟩ := loaded
  have erased : ErasesBackedUp before.machine.payload.length
      (before.log ++ [⟨.erase other.targetAddr, outcome⟩]) :=
    erasesBackedUp_erase
      (fun exchange member =>
        (sound.untouched (.inr (.inr backedUp)) exchange member).writing)
      read ((full image backup).trans length)
  have whole := erased.append fun exchange member =>
    ne_erase_of_writing (writing exchange member)
  rw [List.append_assoc] at whole
  exact whole

theorem sound_flashed (sound : Sound before) {job : FlashJob}
    {outcome : Except FlashRaised Unit} {added : List FlashExchange}
    (backedUp : before.machine.state = .backedUp)
    (flashed : after.machine.state = .flashed)
    (held : before.machine.job = some job)
    (same : task after.machine = task before.machine)
    (sameSaved : saved after.machine = saved before.machine)
    (log : after.log = before.log ++ ⟨.erase job.targetAddr, outcome⟩ :: added)
    (writing : ∀ exchange ∈ added, Writing exchange)
    (sent : (transferred added).flatten = before.machine.payload)
    (full : ∀ image, before.machine.backup = some image →
      image.size = before.machine.data.payloadLen) : Sound after := by
  obtain ⟨-, rolledBack⟩ := Prod.mk.inj sameSaved
  have waiting : after.machine.data.rolledBack = false := by
    refine rolledBack.trans (sound.waiting ?_)
    rw [backedUp]
    decide
  have loaded : Loaded before.machine := by
    apply sound.loaded
    · rw [backedUp]
      decide
    · rw [backedUp]
      decide
  have none_ : transferred before.log = [] :=
    transferred_of_quiet (sound.untouched (.inr (.inr backedUp)))
  refine
    { untouched := fun early => ?_
      waiting := fun _ => waiting
      loaded := fun _ _ => loaded_of_task same loaded
      backed := fun again => ?_
      erases := ?_
      restored := fun back => ?_
      written := fun _ => ?_ }
  · rw [flashed] at early
    rcases early with early | early | early <;> cases early
  · rw [flashed] at again
    cases again
  · rw [payload_of_task same, log]
    exact erases_flash sound backedUp held writing full
  · rw [waiting] at back
    cases back
  · rw [payload_of_task same, log, transferred_append, none_, List.nil_append,
      ← List.singleton_append, transferred_append, transferred_singleton]
    exact sent

theorem sound_flashFailed (sound : Sound before) {job : FlashJob}
    {image : FlashBackup} {outcome restored : Except FlashRaised Unit}
    {added : List FlashExchange}
    (backedUp : before.machine.state = .backedUp)
    (failed : after.machine.state = .failed)
    (held : before.machine.job = some job)
    (same : task after.machine = task before.machine)
    (savedAfter : saved after.machine = (some image, true))
    (log : after.log = before.log ++
      ⟨.erase job.targetAddr, outcome⟩ :: (added ++
        [⟨.restoreBackup image, restored⟩]))
    (writing : ∀ exchange ∈ added, Writing exchange)
    (full : ∀ image, before.machine.backup = some image →
      image.size = before.machine.data.payloadLen)
    (completes : ∀ error,
      (⟨.restoreBackup image, .error error⟩ : FlashExchange) ∉ after.log) :
    Sound after := by
  have restore : (⟨.restoreBackup image, restored⟩ : FlashExchange) ∈
      after.log := by
    rw [log]
    exact List.mem_append_right _ (List.mem_cons_of_mem _
      (List.mem_append_right _ (List.mem_singleton.mpr rfl)))
  cases restored with
  | error error => exact absurd restore (completes error)
  | ok answer =>
      refine sound_failed_restored failed (Prod.mk.inj savedAfter).1 restore ?_
      have erased : ErasesBackedUp before.machine.payload.length
          (before.log ++ ⟨.erase job.targetAddr, outcome⟩ :: added) :=
        erases_flash sound backedUp held writing full
      have whole : ErasesBackedUp before.machine.payload.length
          (_ ++ [⟨.restoreBackup image, .ok answer⟩]) :=
        erased.append fun exchange member addr other => by
          rw [List.mem_singleton] at member
          exact member ▸ restore_ne_erase addr other
      rw [payload_of_task same, log]
      rw [List.append_assoc, List.cons_append] at whole
      exact whole

theorem sound_finished (sound : Sound before)
    (flashed : before.machine.state = .flashed)
    (done : after.machine.state = .done)
    (calls : Session.Grows Quiet (fun machine =>
      (task machine, saved machine)) before after) : Sound after := by
  obtain ⟨kept, added, log, quiet⟩ := calls
  obtain ⟨same, sameSaved⟩ := Prod.mk.inj kept
  obtain ⟨-, rolledBack⟩ := Prod.mk.inj sameSaved
  have waiting : after.machine.data.rolledBack = false := by
    refine rolledBack.trans (sound.waiting ?_)
    rw [flashed]
    decide
  have loaded : Loaded before.machine := by
    apply sound.loaded
    · rw [flashed]
      decide
    · rw [flashed]
      decide
  refine
    { untouched := fun early => ?_
      waiting := fun _ => waiting
      loaded := fun _ _ => loaded_of_task same loaded
      backed := fun backedUp => ?_
      erases := ?_
      restored := fun back => ?_
      written := fun _ => ?_ }
  · rw [done] at early
    rcases early with early | early | early <;> cases early
  · rw [done] at backedUp
    cases backedUp
  · rw [payload_of_task same, log]
    exact erases_of_quiet sound.erases quiet
  · rw [waiting] at back
    cases back
  · rw [payload_of_task same, log, transferred_append,
      transferred_of_quiet quiet, List.append_nil]
    exact sound.written (.inl flashed)

/-- A step that meets the condition keeps the invariant. -/
theorem sound_step (sound : Sound before)
    (meets : Meets world guarded event before) :
    Sound ((handle world guarded event).final before) := by
  have completes := meets.restores
  cases handle_move event sound.holding with
  | refused failed calls kept => exact sound_refused sound failed calls kept
  | started idle ready loaded calls =>
      exact sound_started sound idle ready loaded calls
  | tookBackup job image ready backedUp held backup same calls read =>
      exact sound_tookBackup sound job image ready backedUp held backup same
        calls read
  | wroteBack image outcome backedUp failed held same savedAfter log =>
      exact sound_wroteBack sound image outcome failed same savedAfter log
        (completes image)
  | flashed job outcome added flash backedUp done held same sameSaved log
      writing sent =>
      exact sound_flashed sound backedUp done held same sameSaved log writing
        sent (meets.fullBackup flash backedUp)
  | flashFailed job image outcome restored added flash backedUp failed heldJob
      held same savedAfter log writing =>
      exact sound_flashFailed sound backedUp failed heldJob same savedAfter log
        writing (meets.fullBackup flash backedUp) (completes image)
  | finished flashed done calls =>
      exact sound_finished sound flashed done calls

end Step

theorem handle_returns (event : FlashEvent) (session : FlashSession) :
    ∃ after, handle world guarded event session = .ok ⟨⟩ after := by
  cases dispatched : dispatch world guarded event session with
  | ok value after =>
      have attempted : (Txn.attempt (dispatch world guarded event) :
          FlashTxn _) session = .ok (.ok ⟨⟩) after :=
        Txn.attempt_eq_ok.mpr (.inl ⟨⟨⟩, rfl, dispatched⟩)
      exact ⟨after, Txn.bind_eq_ok.mpr ⟨_, _, attempted, rfl⟩⟩
  | error error middle =>
      have attempted : (Txn.attempt (dispatch world guarded event) :
          FlashTxn _) session = .ok (.error error) middle :=
        Txn.attempt_eq_ok.mpr (.inr ⟨error, rfl, dispatched⟩)
      obtain ⟨after, rolledBack⟩ : ∃ after,
          rollbackBackedUp world middle = .ok ⟨⟩ after :=
        rollbackBackedUp_returns middle
      exact ⟨_, Txn.bind_eq_ok.mpr ⟨_, _, attempted,
        Txn.bind_eq_ok.mpr ⟨⟨⟩, after, rolledBack, rfl⟩⟩⟩

theorem handle_rollsBack (event : FlashEvent) :
    Txn.RollsBack (handle world guarded event) := by
  intro session error final failed
  obtain ⟨after, returned⟩ : ∃ after,
      handle world guarded event session = .ok ⟨⟩ after :=
    handle_returns event session
  rw [returned] at failed
  cases failed

abbrev runEvents (world : World flashInterface FlashRaised) (guarded : Bool)
    (events : List FlashEvent) : FlashSession :=
  Txn.after (handle world guarded) events newSession

theorem sound_run (events : List FlashEvent)
    (meets : Txn.Throughout (handle world guarded) (Meets world guarded) events
      newSession) : Sound (runEvents world guarded events) := by
  refine Txn.after_of_throughout Sound handle_rollsBack ?_ events newSession
    sound_newSession meets
  intro event before final sound met returned
  have kept := sound_step sound met
  rwa [Txn.final_of_ok returned] at kept

/-- A step that failed after an erase call of its own. -/
def FailsAfterErase (before after : FlashSession) : Prop :=
  after.machine.state = .failed ∧
    ∃ calls addr outcome added, after.log =
      before.log ++ (calls ++ ⟨.erase addr, outcome⟩ :: added)

theorem not_erase_of_grows {before after : FlashSession} {τ : Type}
    {view : FlashMachine → τ}
    (grows : Session.Grows Writing view before after) :
    ¬ FailsAfterErase before after := by
  rintro ⟨-, calls, addr, outcome, rest, split⟩
  obtain ⟨-, added, log, writing⟩ := grows
  rw [log] at split
  have same := List.append_cancel_left split
  have member : (⟨.erase addr, outcome⟩ : FlashExchange) ∈ added := by
    rw [same]
    exact List.mem_append_right _ List.mem_cons_self
  exact not_writing_erase (writing _ member)

theorem grows_writing {before after : FlashSession} {τ : Type}
    {view : FlashMachine → τ}
    (grows : Session.Grows Quiet view before after) :
    Session.Grows Writing view before after := by
  obtain ⟨kept, added, log, quiet⟩ := grows
  exact ⟨kept, added, log, fun exchange member =>
    (quiet exchange member).writing⟩

/-- Only a FLASH fails after an erase, and it ends with the restore. -/
theorem flashFailed_of_failsAfterErase {event : FlashEvent}
    {before after : FlashSession} (move : Move event before after)
    (fails : FailsAfterErase before after) :
    event = .flash ∧ before.machine.state = .backedUp ∧
      ∃ job image outcome restored added,
        before.machine.job = some job ∧ before.machine.backup = some image ∧
        after.log = before.log ++ ⟨.erase job.targetAddr, outcome⟩ ::
          (added ++ [⟨.restoreBackup image, restored⟩]) ∧
        ∀ exchange ∈ added, Writing exchange := by
  cases move with
  | refused failed calls kept =>
      exact absurd fails (not_erase_of_grows (grows_writing calls))
  | started idle ready loaded calls =>
      exact absurd fails (not_erase_of_grows (grows_writing calls))
  | tookBackup job image ready backedUp held backup same calls read =>
      exact absurd fails (not_erase_of_grows (grows_writing calls))
  | wroteBack image outcome backedUp failed held same savedAfter log =>
      obtain ⟨-, calls, addr, other, rest, split⟩ := fails
      rw [log] at split
      have shape := List.append_cancel_left split
      cases calls with
      | nil =>
          exact absurd (List.cons.inj shape).1 (restore_ne_erase addr other)
      | cons call calls => simp at shape
  | flashed job outcome added flash backedUp flashed held same sameSaved log
      writing sent =>
      rw [fails.1] at flashed
      cases flashed
  | flashFailed job image outcome restored added flash backedUp failed heldJob
      held same savedAfter log writing =>
      exact ⟨flash, backedUp, job, image, outcome, restored, added, heldJob,
        held, log, writing⟩
  | finished flashed done calls =>
      rw [fails.1] at done
      cases done

theorem failed_stays (events : List FlashEvent) {session : FlashSession}
    (failed : session.machine.state = .failed) :
    ∃ added, (Txn.after (handle world guarded) events session).log =
      session.log ++ added ∧ ∀ exchange ∈ added, Quiet exchange := by
  induction events generalizing session with
  | nil => exact ⟨[], (List.append_nil _).symm, nofun⟩
  | cons event events induction =>
      have holding : Holding session.machine := by
        intro backedUp
        rw [failed] at backedUp
        cases backedUp
      have step : ((handle world guarded event).final session).machine.state =
          .failed ∧ ∃ added, ((handle world guarded event).final session).log =
            session.log ++ added ∧ ∀ exchange ∈ added, Quiet exchange := by
        cases (handle_move event holding : Move event session
            ((handle world guarded event).final session)) with
        | refused failed calls kept => exact ⟨failed, calls.2⟩
        | started idle => rw [failed] at idle; cases idle
        | tookBackup _ _ ready => rw [failed] at ready; cases ready
        | wroteBack _ _ backedUp => rw [failed] at backedUp; cases backedUp
        | flashed _ _ _ _ backedUp => rw [failed] at backedUp; cases backedUp
        | flashFailed _ _ _ _ _ _ backedUp =>
            rw [failed] at backedUp; cases backedUp
        | finished flashed => rw [failed] at flashed; cases flashed
      obtain ⟨stays, added, log, quiet⟩ := step
      obtain ⟨more, logToo, quietToo⟩ := induction stays
      refine ⟨added ++ more, ?_, ?_⟩
      · change (Txn.after (handle world guarded) events _).log = _
        rw [logToo, log, List.append_assoc]
      · intro exchange member
        rcases List.mem_append.mp member with member | member
        · exact quiet exchange member
        · exact quietToo exchange member

/-- What a flash session should keep to over a run. -/
structure NeverBricks (world : World flashInterface FlashRaised)
    (guarded : Bool) (events : List FlashEvent) : Prop where
  /-- Every erase comes behind a backup of its region, as long as what will be
  overwritten. -/
  backedUp : ErasesBackedUp
    (runEvents world guarded events).machine.payload.length
    (runEvents world guarded events).log
  /-- A step that fails after its erase is followed by one restore, of the
  image read from that region. -/
  restoredOnce : ∀ first event last, events = first ++ event :: last →
    FailsAfterErase (runEvents world guarded first)
      (runEvents world guarded (first ++ [event])) →
    ∃ image, (runEvents world guarded first).machine.backup = some image ∧
      ∀ calls addr outcome added,
        (runEvents world guarded events).log =
          (runEvents world guarded first).log ++
            (calls ++ ⟨.erase addr, outcome⟩ :: added) →
        (∃ size, (⟨.readBackup addr size, .ok image⟩ : FlashExchange) ∈
            (runEvents world guarded first).log) ∧
          restores added = [image]
  /-- The image counts as rolled back only when its restore completed. -/
  rolledBack :
    (runEvents world guarded events).machine.data.rolledBack = true →
      ∃ image, (runEvents world guarded events).machine.backup = some image ∧
        (⟨.restoreBackup image, .ok ()⟩ : FlashExchange) ∈
          (runEvents world guarded events).log
  /-- A session that got through has sent the payload of the recorded
  checksum. -/
  written : (runEvents world guarded events).machine.state = .flashed ∨
      (runEvents world guarded events).machine.state = .done →
    (transferred (runEvents world guarded events).log).flatten =
        (runEvents world guarded events).machine.payload ∧
      Loaded (runEvents world guarded events).machine
  /-- An event leaves a session that is done, and its unit, alone. -/
  doneStays : ∀ first event last, events = first ++ event :: last →
    (runEvents world guarded first).machine.state = .done →
      (runEvents world guarded (first ++ [event])).machine.state = .done ∧
        (runEvents world guarded (first ++ [event])).log =
          (runEvents world guarded first).log

theorem runEvents_append (first last : List FlashEvent) :
    runEvents world guarded (first ++ last) =
      Txn.after (handle world guarded) last (runEvents world guarded first) :=
  Txn.after_append first last newSession

theorem restores_at_erase {log : List FlashExchange} {image : FlashBackup}
    {restored : Except FlashRaised Unit} {outcome other : Except FlashRaised Unit}
    {addr otherAddr : Nat} {writing quiet calls added : List FlashExchange}
    (writes : ∀ exchange ∈ writing, Writing exchange)
    (quiets : ∀ exchange ∈ quiet, Quiet exchange)
    (split : log ++ ⟨.erase addr, outcome⟩ :: (writing ++
        [⟨.restoreBackup image, restored⟩]) ++ quiet =
      log ++ (calls ++ ⟨.erase otherAddr, other⟩ :: added)) :
    otherAddr = addr ∧ restores added = [image] := by
  rw [List.append_assoc] at split
  have shape := List.append_cancel_left split
  have noErase : ∀ exchange ∈ writing ++
      [⟨.restoreBackup image, restored⟩] ++ quiet, ∀ addr outcome,
        exchange ≠ (⟨.erase addr, outcome⟩ : FlashExchange) := by
    intro exchange member
    rcases List.mem_append.mp member with member | member
    · rcases List.mem_append.mp member with member | member
      · exact ne_erase_of_writing (writes exchange member)
      · rw [List.mem_singleton] at member
        exact fun addr outcome => member ▸ restore_ne_erase addr outcome
    · exact ne_erase_of_writing (quiets exchange member).writing
  rw [List.cons_append] at shape
  cases calls with
  | nil =>
      obtain ⟨same, rest⟩ := List.cons.inj shape
      cases same
      refine ⟨rfl, ?_⟩
      rw [← rest, restores_append, restores_append,
        restores_of_writing writes, restores_of_writing fun exchange member =>
          (quiets exchange member).writing]
      rfl
  | cons call calls =>
      rw [List.cons_append] at shape
      obtain ⟨-, rest⟩ := List.cons.inj shape
      refine absurd rfl (noErase ⟨.erase otherAddr, other⟩ ?_ otherAddr other)
      rw [rest]
      exact List.mem_append_right _ List.mem_cons_self

/-- The flash session keeps to its contract in every run whose steps meet the
condition. -/
theorem neverBricks_of_meets (world : World flashInterface FlashRaised)
    (guarded : Bool) (events : List FlashEvent)
    (meets : Txn.Throughout (handle world guarded) (Meets world guarded) events
      newSession) : NeverBricks world guarded events := by
  have sound := sound_run events meets
  refine
    { backedUp := sound.erases
      restoredOnce := ?_
      rolledBack := sound.restored
      written := ?_
      doneStays := ?_ }
  · rintro first event last rfl fails
    obtain ⟨early, -⟩ := Txn.throughout_append.mp meets
    have before := sound_run first early
    rw [runEvents_append] at fails
    obtain ⟨-, backedUp, job, image, outcome, restored, added, held, backup,
      log, writing⟩ := flashFailed_of_failsAfterErase
        (handle_move event before.holding) fails
    obtain ⟨other, read, sameJob, sameBackup, reads⟩ := before.backed backedUp
    have equal : other = job := Option.some.inj (sameJob.symm.trans held)
    have same : read = image := Option.some.inj (sameBackup.symm.trans backup)
    subst equal same
    obtain ⟨quiet, final, quiets⟩ :
        ∃ quiet, (Txn.after (handle world guarded) last _).log = _ ∧ _ :=
      failed_stays last fails.1
    refine ⟨read, backup, fun calls addr otherOutcome rest split => ?_⟩
    rw [runEvents_append] at split
    have whole := final.symm.trans split
    change ((handle world guarded event).final _).log ++ _ = _ at whole
    change ((handle world guarded event).final _).log = _ at log
    rw [log] at whole
    obtain ⟨sameAddr, restore⟩ := restores_at_erase writing quiets whole
    exact ⟨⟨_, sameAddr ▸ reads⟩, restore⟩
  · intro finished
    refine ⟨sound.written finished, sound.loaded ?_ ?_⟩
    · rcases finished with flashed | done
      · rw [flashed]
        decide
      · rw [done]
        decide
    · rcases finished with flashed | done
      · rw [flashed]
        decide
      · rw [done]
        decide
  · rintro first event last rfl done
    obtain ⟨-, met, -⟩ := Txn.throughout_append.mp meets
    have notDone := (met (handle_returns event _)).notDone
    exact absurd done notDone

section Cluster

variable (backup : FlashBackup) (restore : Except FlashRaised Unit)

/-- A cluster that gives out a backup, refuses the erase, and takes a restore
or not. -/
def clusterWorld : World flashInterface FlashRaised := fun _ call =>
  match call with
  | .probe _ => .ok { voltageV := 135 / 10, refusalReasons := [] }
  | .check => .ok (true, "entitled")
  | .consume _ _ => .ok true
  | .readCurrentVersion => .ok "SW_01"
  | .enterProgrammingSession => .ok ()
  | .unlockSecurity _ => .ok ()
  | .readBackup _ _ => .ok backup
  | .erase _ => .error (.rejected "NRC=0x22")
  | .requestDownload _ _ => .ok (0x400 : Int)
  | .transferBlock _ _ => .ok ()
  | .requestTransferExit => .ok ()
  | .checkDependencies => .ok ()
  | .ecuReset => .ok ()
  | .restoreBackup _ => restore

def clusterJob : FlashJob :=
  catalogJob "kombi_update" "kombi" 0x00040000 false 64 1024

def clusterStart (image : List UInt8) : FlashEvent :=
  .start
    { jobCode := "kombi_update"
      vin := "WBA0000TEST00000"
      technicianId := ""
      image := some image }

def clusterData (image : List UInt8) : FlashData :=
  { jobCode := "kombi_update"
    vin := "WBA0000TEST00000"
    safetyVoltageV := 135 / 10
    payloadLen := image.length
    payloadChecksum := crc32 image
    currentVersion := "SW_01" }

def clusterStartLog : List FlashExchange :=
  [⟨.probe flashSafety,
      .ok { voltageV := 135 / 10, refusalReasons := [] }⟩,
    ⟨.readCurrentVersion, .ok "SW_01"⟩]

def clusterReady (image : List UInt8) : FlashSession :=
  { machine :=
      { state := .ready
        data := clusterData image
        job := some clusterJob
        payload := image }
    log := clusterStartLog }

def clusterBackupLog (image : List UInt8) : List FlashExchange :=
  clusterStartLog ++
    [⟨.enterProgrammingSession, .ok ()⟩,
      ⟨.readBackup 0x00040000 image.length, .ok backup⟩]

def clusterBackedUp (image : List UInt8) : FlashSession :=
  { machine :=
      { state := .backedUp
        data := { clusterData image with backupSize := backup.size }
        job := some clusterJob
        payload := image
        backup := some backup }
    log := clusterBackupLog backup image }

def clusterFailed (image : List UInt8) : FlashSession :=
  { machine :=
      { state := .failed
        data :=
          { clusterData image with
            backupSize := backup.size
            rolledBack := true
            error := some (.raised (.rejected "NRC=0x22")) }
        job := some clusterJob
        payload := image
        backup := some backup }
    log := clusterBackupLog backup image ++
      [⟨.erase 0x00040000, .error (.rejected "NRC=0x22")⟩,
        ⟨.restoreBackup backup, restore⟩] }

theorem cluster_start {image : List UInt8} (length : image.length = 65536) :
    (handle (clusterWorld backup restore) false (clusterStart image)).final
      newSession = clusterReady image := by
  apply handle_final_of_ok
  have fits : clusterJob.sizeOk image.length := by
    rw [length]
    decide
  change startImage _ false clusterJob image _ = _
  rw [startImage, if_neg (not_not.mpr fits)]
  rfl

theorem cluster_backup (image : List UInt8) :
    (handle (clusterWorld backup restore) false .backup).final
      (clusterReady image) = clusterBackedUp backup image := by
  apply handle_final_of_ok
  rfl

def clusterErased (image : List UInt8) : FlashSession :=
  { machine := (clusterBackedUp backup image).machine
    log := clusterBackupLog backup image ++
      [⟨.erase 0x00040000, .error (.rejected "NRC=0x22")⟩] }

theorem cluster_rollback (image : List UInt8) :
    rollbackBackedUp (clusterWorld backup restore)
      (clusterErased backup image) =
        .ok ⟨⟩ (restoredWith (clusterErased backup image) backup restore) := by
  rw [rollbackBackedUp, Txn.get_bind]
  exact rollback_eq_ok rfl rfl

theorem cluster_flash (image : List UInt8) :
    (handle (clusterWorld backup restore) false .flash).final
      (clusterBackedUp backup image) = clusterFailed backup restore image := by
  have dispatched : dispatch (clusterWorld backup restore) false .flash
      (clusterBackedUp backup image) = .error (.rejected "NRC=0x22")
        (clusterErased backup image) := rfl
  rw [handle_final_of_error .flash dispatched,
    Txn.final_of_ok (cluster_rollback backup restore image), failedWith,
    restoredWith, clusterErased, clusterFailed, List.append_assoc]
  rfl

theorem cluster_run {image : List UInt8} (length : image.length = 65536) :
    runEvents (clusterWorld backup restore) false
      [clusterStart image, .backup, .flash] =
        clusterFailed backup restore image := by
  rw [runEvents, Txn.after, Txn.after, Txn.after, Txn.after,
    cluster_start backup restore length, cluster_backup, cluster_flash]

end Cluster

def backupRead : FlashExchange → Option FlashBackup
  | ⟨.readBackup _ _, .ok image⟩ => some image
  | _ => none

def restoreError : FlashExchange → Option FlashRaised
  | ⟨.restoreBackup _, .error error⟩ => some error
  | _ => none

def shortBackup : FlashBackup :=
  { ecuName := "kombi"
    vin := ""
    originAddr := 0x00040000
    data := [0xFF] }

def clusterImage : List UInt8 :=
  List.replicate 65536 0

theorem clusterImage_length : clusterImage.length = 65536 :=
  List.length_replicate

/-- The cluster is erased with a backup of one byte in hand, counts as rolled
back though its restore raised, and a session that is done fails at the next
event. -/
theorem flash_contract_fails :
    (runEvents (clusterWorld shortBackup (.error (.rejected "NRC=0x31"))) false
        [clusterStart clusterImage, .backup, .flash]).machine.data.rolledBack =
      true ∧
    ¬ NeverBricks (clusterWorld shortBackup (.error (.rejected "NRC=0x31")))
      false [clusterStart clusterImage, .backup, .flash] ∧
    ((handle (clusterWorld shortBackup (.ok ())) false .abort).final
      { machine := { state := .done }, log := [] }).machine.state =
        .failed := by
  have run := cluster_run shortBackup (.error (.rejected "NRC=0x31"))
    clusterImage_length
  refine ⟨?_, fun contract => ?_, rfl⟩
  · rw [run]
    rfl
  · have backed := contract.backedUp
    rw [run] at backed
    obtain ⟨size, image, read, enough⟩ := backed
      (clusterBackupLog shortBackup clusterImage) 0x00040000
      (.error (.rejected "NRC=0x22")) _ rfl
    have member : image ∈
        (clusterBackupLog shortBackup clusterImage).filterMap backupRead :=
      List.mem_filterMap.mpr ⟨_, read, rfl⟩
    have same : image = shortBackup := List.mem_singleton.mp member
    have payload : image.size = 65536 := enough.trans clusterImage_length
    rw [same] at payload
    exact absurd payload (by decide)

def fullBackup : FlashBackup :=
  { ecuName := "kombi"
    vin := ""
    originAddr := 0x00040000
    data := List.replicate 65536 0xFF }

/-- A refused erase of a cluster whose backup is full and whose restore goes
through. -/
theorem neverBricks_cluster :
    NeverBricks (clusterWorld fullBackup (.ok ())) false
      [clusterStart clusterImage, .backup, .flash] := by
  have start := cluster_start fullBackup (.ok ()) clusterImage_length
  have backup := cluster_backup fullBackup (.ok ()) clusterImage
  have flash := cluster_flash fullBackup (.ok ()) clusterImage
  apply neverBricks_of_meets
  refine ⟨fun _ => ?_, fun _ => ?_, fun _ => ?_, trivial⟩
  · refine ⟨by decide, nofun, fun image error => ?_⟩
    rw [start]
    simp [clusterReady, clusterStartLog]
  · rw [start]
    refine ⟨by decide, nofun, fun image error => ?_⟩
    rw [backup]
    simp [clusterBackedUp, clusterBackupLog, clusterStartLog]
  · rw [start, backup]
    refine ⟨by decide, fun _ _ image held => ?_, fun image error => ?_⟩
    · cases held
      exact List.length_replicate.trans clusterImage_length.symm
    · rw [flash]
      intro raised
      have member : error ∈ (clusterFailed fullBackup (.ok ())
          clusterImage).log.filterMap restoreError :=
        List.mem_filterMap.mpr ⟨_, raised, rfl⟩
      exact List.not_mem_nil member

end Flash

end Mousstec
