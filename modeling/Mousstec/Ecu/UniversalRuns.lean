import Mathlib.Data.List.Induction
import Mousstec.Ecu.UniversalSteps
import Mousstec.Library.Runs

/-!
# Runs of the smart flow

Over any sequence of events, with the session stored and continued anywhere,
the unit is worked on only behind its saved coding, only that coding is
written back, and once.  The rollback does not look at the state: of a session
that is done it writes the saved coding over the work that was finished.
-/

namespace Mousstec

namespace Universal

open Library

variable {world : World uInterface URaised}

def Secured (backup : EcuBackup) (log : List UExchange) : Prop :=
  ∃ earlier later, log = earlier ++ backupCalls backup ++ later

def Restored (log : List UExchange) : Prop :=
  ∃ data, (⟨.writeCodingSnapshot data, .ok ()⟩ : UExchange) ∈ log

def Synced (log : List UExchange) : Prop :=
  ∃ module, (⟨.syncModule module, .ok ()⟩ : UExchange) ∈ log

theorem Secured.later {backup : EcuBackup} {log : List UExchange}
    (secured : Secured backup log) (added : List UExchange) :
    Secured backup (log ++ added) := by
  obtain ⟨earlier, later, rfl⟩ := secured
  exact ⟨earlier, later ++ added, List.append_assoc ..⟩

theorem restored_append {log added : List UExchange} :
    Restored (log ++ added) ↔ Restored log ∨ Restored added := by
  simp only [Restored, List.mem_append, exists_or]

theorem synced_append {log added : List UExchange} :
    Synced (log ++ added) ↔ Synced log ∨ Synced added := by
  simp only [Synced, List.mem_append, exists_or]

theorem not_restored_of_quiet {log : List UExchange}
    (quiet : ∀ exchange ∈ log, Quiet exchange) : ¬ Restored log := by
  rintro ⟨data, member⟩
  exact Bool.noConfusion (quiet _ member).1

theorem not_synced_of_quiet {log : List UExchange}
    (quiet : ∀ exchange ∈ log, Quiet exchange) : ¬ Synced log := by
  rintro ⟨module, member⟩
  exact Bool.noConfusion (quiet _ member).1

theorem not_restored_of_working {log : List UExchange}
    (working : ∀ exchange ∈ log, Working exchange) : ¬ Restored log :=
  fun ⟨_, member⟩ => working _ member

theorem not_synced_of_working {log : List UExchange}
    (working : ∀ exchange ∈ log, Working exchange) : ¬ Synced log :=
  fun ⟨_, member⟩ => working _ member

theorem not_restored_backupCalls (backup : EcuBackup) :
    ¬ Restored (backupCalls backup) := by
  rintro ⟨data, member⟩
  simp [backupCalls] at member

theorem not_synced_backupCalls (backup : EcuBackup) :
    ¬ Synced (backupCalls backup) := by
  rintro ⟨module, member⟩
  simp [backupCalls] at member

theorem stored_backupCalls (backup : EcuBackup) :
    stored (backupCalls backup) = [backup] :=
  rfl

def Names (record : SmartSessionRecord) (backup : EcuBackup) : Prop :=
  record = { backupSha256 := backup.sha256
             backupEcuName := backup.ecuName
             vin := backup.vin }

/-- What holds of a session after any run. -/
structure Sound (session : USession) : Prop where
  /-- Without a backup nothing was written or saved. -/
  untouched : session.machine.backup = none →
    (∀ exchange ∈ session.log, Quiet exchange) ∧
      (session.machine.state = .idle ∨ session.machine.state = .detected ∨
        session.machine.state = .failed)
  /-- A backup is the one that was read and saved. -/
  secured : ∀ backup, session.machine.backup = some backup →
    Secured backup session.log ∧ stored session.log = [backup] ∧
      Names session.machine.record backup ∧
      (backup.sha256 ≠ "" ∧ backup.vin ≠ "" ∧ backup.ecuName ≠ "") ∧
      orDefault session.machine.data.vin backup.vin = backup.vin
  /-- Before the backup there is none. -/
  early : session.machine.state = .idle ∨ session.machine.state = .detected →
    session.machine.backup = none
  rolled : session.machine.data.rolledBack = true ↔ Restored session.log
  ended : session.machine.data.rolledBack = true →
    session.machine.state = .rolledBack ∨ session.machine.state = .failed
  finished : Synced session.log → session.machine.state = .done ∨
    session.machine.state = .rolledBack ∨ session.machine.state = .failed
  done : session.machine.state = .done → Synced session.log

theorem sound_newSession (vin : String) : Sound (newSession vin) where
  untouched := fun _ => ⟨nofun, .inl rfl⟩
  secured := nofun
  early := fun _ => rfl
  rolled := ⟨nofun, fun ⟨_, member⟩ => absurd member List.not_mem_nil⟩
  ended := nofun
  finished := fun ⟨_, member⟩ => absurd member List.not_mem_nil
  done := nofun

section Step

variable {asked : UEvent} {before after : USession}

theorem Sound.kept (sound : Sound before)
    (same : saved after.machine = saved before.machine)
    (vin : after.machine.data.vin = before.machine.data.vin ∨
      before.machine.backup = none)
    {added : List UExchange} (log : after.log = before.log ++ added)
    (unsaved : stored added = []) (unrestored : ¬ Restored added)
    (unsynced : ¬ Synced added)
    (quiet : before.machine.backup = none →
      (∀ exchange ∈ added, Quiet exchange) ∧
        (after.machine.state = .idle ∨ after.machine.state = .detected ∨
          after.machine.state = .failed))
    (early : after.machine.state = .idle ∨ after.machine.state = .detected →
      before.machine.backup = none)
    (ended : before.machine.data.rolledBack = true →
      after.machine.state = .rolledBack ∨ after.machine.state = .failed)
    (finished : Synced before.log → after.machine.state = .done ∨
      after.machine.state = .rolledBack ∨ after.machine.state = .failed)
    (undone : after.machine.state ≠ .done) : Sound after := by
  simp only [saved, Prod.mk.injEq] at same
  obtain ⟨backup, rolled, record⟩ := same
  constructor
  · intro none
    rw [backup] at none
    obtain ⟨calls, state⟩ := quiet none
    refine ⟨?_, state⟩
    rw [log]
    intro exchange member
    rcases List.mem_append.mp member with member | member
    · exact (sound.untouched none).1 exchange member
    · exact calls exchange member
  · intro image found
    rw [backup] at found
    obtain ⟨secured, only, names, named, default⟩ := sound.secured image found
    refine ⟨log ▸ secured.later added, ?_, record ▸ names, named, ?_⟩
    · rw [log, stored_append, only, unsaved, List.append_nil]
    · rcases vin with vin | none
      · rw [vin, default]
      · rw [none] at found
        cases found
  · intro state
    rw [backup]
    exact early state
  · rw [rolled, log, restored_append, sound.rolled, or_iff_left unrestored]
  · rw [rolled]
    exact ended
  · rw [log, synced_append, or_iff_left unsynced]
    exact finished
  · exact fun state => absurd state undone

theorem Sound.tookBackup (sound : Sound before) {backup : EcuBackup}
    {added : List UExchange} (detected : before.machine.state = .detected)
    (log : after.log = before.log ++ backupCalls backup ++ added)
    (quiet : ∀ exchange ∈ added, Quiet exchange)
    (named : backup.sha256 ≠ "" ∧ backup.vin ≠ "" ∧ backup.ecuName ≠ "")
    (vin : backup.vin = orDefault before.machine.data.vin backup.vin)
    (kept : held after.machine =
      ((some backup, before.machine.data.rolledBack,
        { backupSha256 := backup.sha256
          backupEcuName := backup.ecuName
          vin := backup.vin }), before.machine.data.vin))
    (state : after.machine.state = .failed ∨
      after.machine.state = .backedUp ∨
      after.machine.state = .benchHalted) : Sound after := by
  simp only [held, saved, Prod.mk.injEq] at kept
  obtain ⟨⟨found, rolled, record⟩, sameVin⟩ := kept
  have none := sound.early (.inr detected)
  have calls := (sound.untouched none).1
  have unrestored : ¬ Restored after.log := by
    rw [log, restored_append, restored_append]
    rintro ((restored | restored) | restored)
    · exact not_restored_of_quiet calls restored
    · exact not_restored_backupCalls backup restored
    · exact not_restored_of_quiet quiet restored
  have unsynced : ¬ Synced after.log := by
    rw [log, synced_append, synced_append]
    rintro ((synced | synced) | synced)
    · exact not_synced_of_quiet calls synced
    · exact not_synced_backupCalls backup synced
    · exact not_synced_of_quiet quiet synced
  have fresh : after.machine.data.rolledBack = false := by
    rw [rolled, ← Bool.not_eq_true, sound.rolled]
    exact not_restored_of_quiet calls
  constructor
  · intro none
    rw [found] at none
    cases none
  · intro image other
    obtain rfl := Option.some.inj (found.symm.trans other)
    refine ⟨⟨before.log, added, log⟩, ?_, record, named, ?_⟩
    · rw [log, stored_append, stored_append, stored_of_quiet calls,
        stored_backupCalls, stored_of_quiet quiet]
      rfl
    · rw [sameVin, ← vin]
  · intro early
    rcases state with state | state | state <;> simp [state] at early
  · rw [fresh]
    exact iff_of_false Bool.false_ne_true unrestored
  · rw [fresh]
    exact fun rolled => absurd rolled Bool.false_ne_true
  · exact fun synced => absurd synced unsynced
  · intro done
    rcases state with state | state | state <;> simp [state] at done

theorem Sound.synchronised (sound : Sound before)
    {outcome : Except URaised Unit}
    (worked : before.machine.state = .coded ∨
      before.machine.state = .extracted)
    (log : after.log = before.log ++
      [⟨.syncModule before.machine.data.bodyModule, outcome⟩])
    (kept : held after.machine = held before.machine)
    (state : after.machine.state =
      if outcome = .ok () then .done else .failed) : Sound after := by
  simp only [held, saved, Prod.mk.injEq] at kept
  obtain ⟨⟨backup, rolled, record⟩, sameVin⟩ := kept
  have found : before.machine.backup ≠ none := by
    intro none
    have early := (sound.untouched none).2
    rcases worked with state | state <;> simp [state] at early
  have ends : after.machine.state = .done ∨ after.machine.state = .failed := by
    rw [state]
    split
    · exact .inl rfl
    · exact .inr rfl
  constructor
  · intro none
    rw [backup] at none
    exact absurd none found
  · intro image other
    rw [backup] at other
    obtain ⟨secured, only, names, named, default⟩ := sound.secured image other
    refine ⟨log ▸ secured.later _, ?_, record ▸ names, named, ?_⟩
    · rw [log, stored_append, only]
      rfl
    · rw [sameVin, default]
  · intro early
    rcases ends with state | state <;> simp [state] at early
  · have unrestored : ¬ Restored
        [⟨.syncModule before.machine.data.bodyModule, outcome⟩] := by
      rintro ⟨data, member⟩
      cases List.mem_singleton.mp member
    rw [rolled, log, restored_append, sound.rolled, or_iff_left unrestored]
  · intro rolledBack
    rw [rolled] at rolledBack
    have ended := sound.ended rolledBack
    rcases worked with state | state <;> simp [state] at ended
  · exact fun _ => ends.imp_right .inr
  · intro done
    rw [log, synced_append]
    refine .inr ⟨before.machine.data.bodyModule, ?_⟩
    rw [state] at done
    split at done
    · rename_i went
      rw [went]
      exact List.mem_singleton_self _
    · cases done

theorem Sound.wroteBack (sound : Sound before) {backup : EcuBackup}
    {outcome : Except URaised Unit}
    (found : before.machine.backup = some backup)
    (fresh : before.machine.data.rolledBack = false)
    (log : after.log = before.log ++
      [⟨.writeCodingSnapshot backup.data, outcome⟩])
    (kept : held after.machine =
      ((some backup, decide (outcome = .ok ()), before.machine.record),
        before.machine.data.vin))
    (state : after.machine.state =
      if outcome = .ok () then .rolledBack else .failed) : Sound after := by
  simp only [held, saved, Prod.mk.injEq] at kept
  obtain ⟨⟨same, rolled, record⟩, sameVin⟩ := kept
  have unrestored : ¬ Restored before.log := by
    rw [← sound.rolled, fresh]
    exact Bool.false_ne_true
  have ends : after.machine.state = .rolledBack ∨
      after.machine.state = .failed := by
    rw [state]
    split
    · exact .inl rfl
    · exact .inr rfl
  constructor
  · intro none
    rw [same] at none
    cases none
  · intro image other
    obtain rfl := Option.some.inj (same.symm.trans other)
    obtain ⟨secured, only, names, named, default⟩ := sound.secured _ found
    refine ⟨log ▸ secured.later _, ?_, record ▸ names, named, ?_⟩
    · rw [log, stored_append, only]
      rfl
    · rw [sameVin, default]
  · intro early
    rcases ends with state | state <;> simp [state] at early
  · rw [rolled, log, restored_append, or_iff_right unrestored,
      decide_eq_true_eq]
    constructor
    · rintro rfl
      exact ⟨backup.data, List.mem_singleton_self _⟩
    · rintro ⟨data, member⟩
      cases List.mem_singleton.mp member
      rfl
  · exact fun _ => ends
  · exact fun _ => .inr ends
  · intro done
    rcases ends with state | state <;> simp [state] at done

theorem Sound.move (sound : Sound before) (move : Move asked before after) :
    Sound after := by
  cases move with
  | quiet calls vin state =>
      obtain ⟨same, added, log, quiet⟩ := calls
      refine sound.kept same (vin.imp_right fun idle => sound.early (.inl idle))
        log (stored_of_quiet quiet) (not_restored_of_quiet quiet)
        (not_synced_of_quiet quiet) ?_ ?_ ?_ ?_ ?_
      · intro none
        refine ⟨quiet, ?_⟩
        rcases state with failed | ⟨-, detected⟩ | ⟨halted, -⟩
        · exact .inr (.inr failed)
        · exact .inr (.inl detected)
        · have early := (sound.untouched none).2
          simp [halted] at early
      · intro early
        rcases state with failed | ⟨idle, -⟩ | ⟨-, ready⟩
        · simp [failed] at early
        · exact sound.early (.inl idle)
        · simp [ready] at early
      · intro rolled
        rcases state with failed | ⟨idle, -⟩ | ⟨halted, -⟩
        · exact .inr failed
        · have ended := sound.ended rolled
          simp [idle] at ended
        · have ended := sound.ended rolled
          simp [halted] at ended
      · intro synced
        rcases state with failed | ⟨idle, -⟩ | ⟨halted, -⟩
        · exact .inr (.inr failed)
        · have ended := sound.finished synced
          simp [idle] at ended
        · have ended := sound.finished synced
          simp [halted] at ended
      · rcases state with failed | ⟨-, detected⟩ | ⟨-, ready⟩
        · simp [failed]
        · simp [detected]
        · simp [ready]
  | stayed same => rwa [same]
  | backedUp backup added detected log quiet named vin kept state =>
      exact sound.tookBackup detected log quiet named vin kept state
  | worked calls ready state =>
      obtain ⟨same, added, log, working⟩ := calls
      obtain ⟨same, vin⟩ := Prod.mk.inj same
      have backup : before.machine.backup ≠ none := by
        intro none
        have early := (sound.untouched none).2
        rcases ready with state | state <;> simp [state] at early
      refine sound.kept same (.inl vin)
        log (stored_of_working working) (not_restored_of_working working)
        (not_synced_of_working working) (fun none => absurd none backup)
        ?_ ?_ ?_ ?_
      · intro early
        rcases state with state | state | state <;> simp [state] at early
      · intro rolled
        have ended := sound.ended rolled
        rcases ready with state | state <;> simp [state] at ended
      · intro synced
        have ended := sound.finished synced
        rcases ready with state | state <;> simp [state] at ended
      · rcases state with state | state | state <;> simp [state]
  | synced outcome worked log kept state =>
      exact sound.synchronised worked log kept state
  | restored backup outcome rollback found fresh log kept state =>
      exact sound.wroteBack found fresh log kept state

end Step

theorem Sound.reload {session : USession} (sound : Sound session) :
    reload (stored session.log) session.machine.record =
      session.machine.backup := by
  cases found : session.machine.backup with
  | none =>
      rw [stored_of_quiet (sound.untouched found).1, Universal.reload]
      split <;> rfl
  | some backup =>
      obtain ⟨-, only, names, ⟨sha, vin, ecu⟩, -⟩ := sound.secured backup found
      rw [only, names, Universal.reload, if_pos ⟨sha, vin, ecu⟩, loadBackup,
        List.find?_cons_of_pos]
      simp

/-- The machine after a stop and a start: only whether the fault memory was
cleared is forgotten. -/
def resumed (machine : UMachine) : UMachine :=
  machine.withData fun data => { data with dtcsCleared := false }

theorem Sound.resume {session : USession} (sound : Sound session) :
    resume session =
      .ok ⟨⟩ { session with machine := resumed session.machine } := by
  rw [Universal.resume, Txn.get_bind]
  refine Txn.bind_eq_ok.mpr ⟨resumed session.machine, session, ?_, rfl⟩
  refine Txn.expect_eq_ok.mpr ⟨?_, rfl⟩
  rw [sound.reload, restore, snapshot, UState.ofValue_value]
  rfl

theorem Sound.resumed {session : USession} (sound : Sound session) :
    Sound { session with machine := resumed session.machine } where
  untouched := sound.untouched
  secured := sound.secured
  early := sound.early
  rolled := sound.rolled
  ended := sound.ended
  finished := sound.finished
  done := sound.done

theorem Sound.noted {session : USession} (sound : Sound session) :
    Sound { session with machine := noteVin session.machine } where
  untouched := sound.untouched
  secured := by
    intro backup found
    obtain ⟨secured, only, names, named, default⟩ :=
      sound.secured backup found
    refine ⟨secured, only, ?_, named, default⟩
    rw [Names] at names ⊢
    simp only [noteVin, names, default]
  early := sound.early
  rolled := sound.rolled
  ended := sound.ended
  finished := sound.finished
  done := sound.done

/-- An event of the driven session: its move, and the VIN noted. -/
theorem drive_move (world : World uInterface URaised) (event : UEvent)
    (before : USession) :
    ∃ prompt after, Move event before after ∧ Offers prompt after.machine ∧
      drive world event before =
        .ok prompt { after with machine := noteVin after.machine } := by
  obtain ⟨prompt, after, handled, move, offers⟩ :=
    handle_move world event before
  refine ⟨prompt, after, move, offers, ?_⟩
  exact Txn.bind_eq_ok.mpr ⟨prompt, after, handled, rfl⟩

theorem runStep_event {event : UEvent} {prompt : UPrompt}
    {before after : USession}
    (driven : drive world event before = .ok prompt after) :
    (runStep world (.event event)).final before = after :=
  Txn.final_of_ok (Txn.bind_eq_ok.mpr ⟨prompt, after, driven, rfl⟩)

theorem Sound.step (world : World uInterface URaised) {before : USession}
    (sound : Sound before) (step : UStep) :
    Sound ((runStep world step).final before) := by
  cases step with
  | event event =>
      obtain ⟨prompt, after, move, -, driven⟩ :=
        drive_move world event before
      rw [runStep_event driven]
      exact (sound.move move).noted
  | resume =>
      rw [runStep, Txn.final_of_ok sound.resume]
      exact sound.resumed

theorem sound_after (world : World uInterface URaised) (steps : List UStep)
    {session : USession}
    (sound : Sound session) :
    Sound (Txn.after (runStep world) steps session) := by
  induction steps generalizing session with
  | nil => exact sound
  | cons step steps induction => exact induction (sound.step world step)

def runFrom (world : World uInterface URaised) (vin : String)
    (steps : List UStep) : USession :=
  Txn.after (runStep world) steps (newSession vin)

theorem sound_runFrom (world : World uInterface URaised) (vin : String)
    (steps : List UStep) :
    Sound (runFrom world vin steps) :=
  sound_after world steps (sound_newSession vin)

/-- The session was done at some point of the run. -/
def WasDone (world : World uInterface URaised) (vin : String)
    (steps : List UStep) : Prop :=
  ∃ earlier later, steps = earlier ++ later ∧
    (runFrom world vin earlier).machine.state = .done

theorem Move.grows {asked : UEvent} {before after : USession} (move : Move asked before after) :
    ∃ added, after.log = before.log ++ added := by
  cases move with
  | quiet calls _ _ => exact ⟨_, calls.2.choose_spec.1⟩
  | stayed same => exact ⟨[], by rw [same, List.append_nil]⟩
  | backedUp backup added _ log _ _ _ _ _ =>
      exact ⟨_, log.trans (List.append_assoc ..)⟩
  | worked calls _ _ => exact ⟨_, calls.2.choose_spec.1⟩
  | synced _ _ log _ _ => exact ⟨_, log⟩
  | restored _ _ _ _ _ log _ _ => exact ⟨_, log⟩

theorem Move.synced_or {asked : UEvent} {before after : USession} (move : Move asked before after)
    (synced : Synced after.log) :
    Synced before.log ∨ after.machine.state = .done := by
  cases move with
  | quiet calls _ _ =>
      obtain ⟨-, added, log, quiet⟩ := calls
      rw [log, synced_append] at synced
      exact .inl (synced.resolve_right (not_synced_of_quiet quiet))
  | stayed same => exact .inl (same ▸ synced)
  | backedUp backup added _ log quiet _ _ _ _ =>
      rw [log, synced_append, synced_append] at synced
      exact .inl ((synced.resolve_right (not_synced_of_quiet quiet)).resolve_right
        (not_synced_backupCalls backup))
  | worked calls _ _ =>
      obtain ⟨-, added, log, working⟩ := calls
      rw [log, synced_append] at synced
      exact .inl (synced.resolve_right (not_synced_of_working working))
  | synced outcome _ log _ state =>
      rw [log, synced_append] at synced
      refine synced.imp_right ?_
      rintro ⟨module, member⟩
      cases List.mem_singleton.mp member
      exact state.trans (if_pos rfl)
  | restored backup outcome _ _ _ log _ _ =>
      rw [log, synced_append] at synced
      refine .inl (synced.resolve_right ?_)
      rintro ⟨module, member⟩
      cases List.mem_singleton.mp member

theorem step_grows (world : World uInterface URaised) {before : USession}
    (sound : Sound before) (step : UStep) :
    ∃ added, ((runStep world step).final before).log = before.log ++ added := by
  cases step with
  | event event =>
      obtain ⟨prompt, after, move, -, driven⟩ :=
        drive_move world event before
      rw [runStep_event driven]
      exact move.grows
  | resume =>
      rw [runStep, Txn.final_of_ok sound.resume]
      exact ⟨[], (List.append_nil _).symm⟩

theorem step_synced {before : USession} (sound : Sound before) (step : UStep)
    (synced : Synced ((runStep world step).final before).log) :
    Synced before.log ∨
      ((runStep world step).final before).machine.state = .done := by
  cases step with
  | event event =>
      obtain ⟨prompt, after, move, -, driven⟩ :=
        drive_move world event before
      rw [runStep_event driven] at synced ⊢
      exact move.synced_or synced
  | resume =>
      rw [runStep, Txn.final_of_ok sound.resume] at synced
      exact .inl synced

theorem runFrom_snoc (vin : String) (steps : List UStep) (step : UStep) :
    runFrom world vin (steps ++ [step]) =
      (runStep world step).final (runFrom world vin steps) :=
  Txn.after_append ..

theorem wasDone_iff (vin : String) (steps : List UStep) :
    WasDone world vin steps ↔ Synced (runFrom world vin steps).log := by
  induction steps using List.reverseRecOn with
  | nil =>
      constructor
      · rintro ⟨earlier, later, split, done⟩
        obtain ⟨rfl, rfl⟩ := List.append_eq_nil_iff.mp split.symm
        cases done
      · rintro ⟨module, member⟩
        cases member
  | append_singleton steps step induction =>
      have sound := sound_runFrom world vin steps
      constructor
      · rintro ⟨earlier, later, split, done⟩
        rcases List.eq_nil_or_concat later with rfl | ⟨later, last, rfl⟩
        · rw [List.append_nil] at split
          rw [split]
          exact (sound_runFrom world vin earlier).done done
        · rw [List.concat_eq_append, ← List.append_assoc] at split
          obtain ⟨rfl, -⟩ := List.append_inj' split rfl
          obtain ⟨added, log⟩ := step_grows world sound step
          rw [runFrom_snoc, log, synced_append]
          exact .inl (induction.mp ⟨earlier, later, rfl, done⟩)
      · intro synced
        rw [runFrom_snoc] at synced
        rcases step_synced sound step synced with synced | done
        · obtain ⟨earlier, later, split, done⟩ := induction.mpr synced
          exact ⟨earlier, later ++ [step], by rw [split, List.append_assoc],
            done⟩
        · exact ⟨steps ++ [step], [], (List.append_nil _).symm,
            by rw [runFrom_snoc, done]⟩

theorem backup_of_stored {session : USession} (sound : Sound session)
    {backup : EcuBackup} (member : backup ∈ stored session.log) :
    session.machine.backup = some backup := by
  cases found : session.machine.backup with
  | none =>
      rw [stored_of_quiet (sound.untouched found).1] at member
      cases member
  | some image =>
      rw [(sound.secured image found).2.1, List.mem_singleton] at member
      rw [member]

theorem fresh_of_not_restored {session : USession} (sound : Sound session)
    (unrestored : ¬ Restored session.log) :
    session.machine.data.rolledBack = false := by
  rw [← Bool.not_eq_true, sound.rolled]
  exact unrestored

theorem rollbackStep_eq {session : USession} {backup : EcuBackup}
    (found : session.machine.backup = some backup)
    (fresh : session.machine.data.rolledBack = false) :
    rollbackStep world session = writeBack world backup session := by
  rw [rollbackStep, Txn.get_bind]
  simp only [found, fresh, Bool.false_eq_true, if_false]

def wroteBack (session : USession) (backup : EcuBackup) : USession :=
  { machine :=
      { session.machine with
        state := .rolledBack
        data := { session.machine.data with rolledBack := true } }
    log := session.log ++ [⟨.writeCodingSnapshot backup.data, .ok ()⟩] }

theorem rollback_of_ok {session : USession} {backup : EcuBackup}
    (found : session.machine.backup = some backup)
    (fresh : session.machine.data.rolledBack = false)
    (answered : world session.log (.writeCodingSnapshot backup.data) =
      .ok ()) :
    handle world .rollback session =
      .ok (endPrompt .rolledBack) (wroteBack session backup) := by
  refine Guided.recovering_of_ok ((rollbackStep_eq found fresh).trans ?_)
  refine Txn.bind_eq_ok.mpr ⟨(), _, Session.ask_eq_ok.mpr ⟨answered, rfl⟩, ?_⟩
  rfl

def refusedBack (session : USession) (backup : EcuBackup) (error : URaised) :
    USession :=
  { machine := session.machine.fail (.raised error)
    log := session.log ++
      [⟨.writeCodingSnapshot backup.data, .error error⟩] }

theorem rollback_of_error {session : USession} {backup : EcuBackup}
    {error : URaised} (found : session.machine.backup = some backup)
    (fresh : session.machine.data.rolledBack = false)
    (answered : world session.log (.writeCodingSnapshot backup.data) =
      .error error) :
    handle world .rollback session =
      .ok (failPrompt (refusedBack session backup error).machine)
        (refusedBack session backup error) := by
  have failed : rollbackStep world session = .error error
      { session with
        log := session.log ++
          [⟨.writeCodingSnapshot backup.data, .error error⟩] } := by
    rw [rollbackStep_eq found fresh]
    exact Txn.bind_eq_error.mpr (.inl (Session.ask_eq_error.mpr ⟨answered, rfl⟩))
  exact (Guided.recovering_of_error failed).trans (fail_eq_ok.mpr ⟨rfl, rfl⟩)

/-- What a call finds in the transcript: the work on the unit a saved backup,
a write of a coding the saved backup with that coding. -/
def Guarded (log : List UExchange) (call : UCall) : Prop :=
  (changes call = true → ∃ backup, Secured backup log) ∧
    ∀ data, call = .writeCodingSnapshot data →
      ∃ backup, Secured backup log ∧ stored log = [backup] ∧
        data = backup.data

/-- What the flow promises of an event of a session. -/
structure GoesBack (world : World uInterface URaised) (session : USession)
    (wasDone : Prop) (event : UEvent) : Prop where
  answers : ∃ prompt after, drive world event session = .ok prompt after
  /-- Every call finds its backup. -/
  guarded : ∀ prompt after prior exchange later,
    drive world event session = .ok prompt after →
    after.log = session.log ++ (prior ++ exchange :: later) →
    Guarded (session.log ++ prior) exchange.call
  /-- A failed session with a backup that was not written back offers the
  rollback. -/
  offered : ∀ prompt after, drive world event session = .ok prompt after →
    after.machine.state = .failed → stored after.log ≠ [] →
    ¬ Restored after.log → "rollback" ∈ prompt.actions
  /-- A rollback whose I/O succeeds writes the saved coding back. -/
  restores : session.machine.state = .failed →
    ∀ backup ∈ stored session.log, ¬ Restored session.log →
    world session.log (.writeCodingSnapshot backup.data) = .ok () →
    ∃ prompt after, drive world .rollback session = .ok prompt after ∧
      after.machine.state = .rolledBack ∧
      after.log = session.log ++
        [⟨.writeCodingSnapshot backup.data, .ok ()⟩]
  /-- A rollback whose I/O fails is offered again. -/
  retries : ∀ backup ∈ stored session.log, ¬ Restored session.log →
    ∀ error, world session.log (.writeCodingSnapshot backup.data) =
      .error error →
    ∃ prompt after, drive world .rollback session = .ok prompt after ∧
      after.machine.state = .failed ∧ "rollback" ∈ prompt.actions
  /-- After a rollback nothing is written. -/
  keeps : Restored session.log → ∀ prompt after added,
    drive world event session = .ok prompt after →
    after.log = session.log ++ added →
    ∀ exchange ∈ added, writes exchange.call = false
  /-- A session that is done writes nothing more. -/
  rests : wasDone → ∀ prompt after added,
    drive world event session = .ok prompt after →
    after.log = session.log ++ added →
    ∀ exchange ∈ added, writes exchange.call = false

theorem guarded_of_quiet {log : List UExchange} {exchange : UExchange}
    (quiet : Quiet exchange) : Guarded log exchange.call := by
  obtain ⟨call, outcome⟩ := exchange
  obtain ⟨unwritten, -⟩ := quiet
  constructor
  · intro changed
    cases call <;> simp_all [writes, changes]
  · rintro data same
    cases call <;> simp_all [writes]

theorem mem_middle {α : Type} {added prior later : List α} {item : α}
    (split : added = prior ++ item :: later) : item ∈ added := by
  rw [split]
  exact List.mem_append_right _ List.mem_cons_self

section Contract

variable {session after : USession} {asked : UEvent}

theorem Sound.guarded (sound : Sound session) (move : Move asked session after)
    {prior later : List UExchange} {exchange : UExchange}
    (log : after.log = session.log ++ (prior ++ exchange :: later)) :
    Guarded (session.log ++ prior) exchange.call := by
  cases move with
  | quiet calls _ _ =>
      obtain ⟨-, added, grown, quiet⟩ := calls
      have split := List.append_cancel_left (grown.symm.trans log)
      exact guarded_of_quiet (quiet exchange (mem_middle split))
  | stayed same =>
      rw [same] at log
      have empty := List.self_eq_append_right.mp log
      simp at empty
  | backedUp backup added _ grown quiet _ _ _ _ =>
      rw [grown, List.append_assoc] at log
      have split := List.append_cancel_left log
      have member := mem_middle split
      rcases List.mem_append.mp member with member | member
      · constructor
        · intro changed
          simp only [backupCalls, List.mem_cons, List.not_mem_nil,
            or_false] at member
          rcases member with rfl | rfl <;> cases changed
        · intro data same
          simp only [backupCalls, List.mem_cons, List.not_mem_nil,
            or_false] at member
          rcases member with rfl | rfl <;> cases same
      · exact guarded_of_quiet (quiet exchange member)
  | worked calls ready _ =>
      obtain ⟨-, added, grown, working⟩ := calls
      have split := List.append_cancel_left (grown.symm.trans log)
      have works := working exchange (mem_middle split)
      obtain ⟨backup, found⟩ : ∃ backup,
          session.machine.backup = some backup := by
        refine Option.ne_none_iff_exists'.mp fun none => ?_
        have early := (sound.untouched none).2
        rcases ready with state | state <;> simp [state] at early
      refine ⟨fun _ => ⟨backup, (sound.secured backup found).1.later prior⟩, ?_⟩
      intro data same
      rw [Working, same] at works
      exact works.elim
  | synced outcome ready grown _ _ =>
      have split := List.append_cancel_left (grown.symm.trans log)
      have same := List.mem_singleton.mp (mem_middle split)
      obtain ⟨backup, found⟩ : ∃ backup,
          session.machine.backup = some backup := by
        refine Option.ne_none_iff_exists'.mp fun none => ?_
        have early := (sound.untouched none).2
        rcases ready with state | state <;> simp [state] at early
      refine ⟨fun _ => ⟨backup, (sound.secured backup found).1.later prior⟩, ?_⟩
      intro data other
      rw [same] at other
      cases other
  | restored backup outcome _ found _ grown _ _ =>
      have split := List.append_cancel_left (grown.symm.trans log)
      have same := List.mem_singleton.mp (mem_middle split)
      have empty : prior = [] := by
        cases prior with
        | nil => rfl
        | cons first prior => simp at split
      subst empty
      rw [List.append_nil, same]
      obtain ⟨secured, only, -⟩ := sound.secured backup found
      refine ⟨nofun, ?_⟩
      rintro data ⟨⟩
      exact ⟨backup, secured, only, rfl⟩

/-- Once the session is over, only a rollback writes. -/
theorem Move.unwritten (move : Move asked session after)
    (ended : session.machine.state = .done ∨
      session.machine.state = .rolledBack ∨ session.machine.state = .failed)
    (kept : asked = .rollback → session.machine.data.rolledBack = true)
    {added : List UExchange} (log : after.log = session.log ++ added) :
    ∀ exchange ∈ added, writes exchange.call = false := by
  cases move with
  | quiet calls _ _ =>
      obtain ⟨-, calls, grown, quiet⟩ := calls
      obtain rfl := List.append_cancel_left (grown.symm.trans log)
      exact fun exchange member => (quiet exchange member).1
  | stayed same =>
      rw [same] at log
      rw [List.self_eq_append_right.mp log]
      nofun
  | backedUp backup added detected _ _ _ _ _ _ => simp [detected] at ended
  | worked _ ready _ =>
      rcases ready with state | state <;> simp [state] at ended
  | synced outcome ready _ _ _ =>
      rcases ready with state | state <;> simp [state] at ended
  | restored backup outcome rollback _ fresh _ _ _ =>
      rw [kept rollback] at fresh
      cases fresh

end Contract

theorem drive_of_handle {event : UEvent} {prompt : UPrompt}
    {session after : USession}
    (handled : handle world event session = .ok prompt after) :
    drive world event session =
      .ok prompt { after with machine := noteVin after.machine } :=
  Txn.bind_eq_ok.mpr ⟨prompt, after, handled, rfl⟩

theorem mem_rollbackAction {machine : UMachine}
    (found : machine.backup ≠ none) (fresh : machine.data.rolledBack = false) :
    "rollback" ∈ rollbackAction machine := by
  rw [rollbackAction, if_neg]
  · exact List.mem_singleton_self _
  · rintro (none | rolled)
    · exact found none
    · rw [fresh] at rolled
      cases rolled

/-- A session that is done and can still be rolled back writes on a rollback,
whatever becomes of it. -/
theorem rollback_writes (world : World uInterface URaised)
    {session : USession} (sound : Sound session)
    (synced : Synced session.log) (unrestored : ¬ Restored session.log) :
    ∃ prompt after exchange, drive world .rollback session = .ok prompt after ∧
      after.log = session.log ++ [exchange] ∧
      writes exchange.call = true := by
  obtain ⟨backup, found⟩ : ∃ backup, session.machine.backup = some backup := by
    refine Option.ne_none_iff_exists'.mp fun none => ?_
    exact not_synced_of_quiet (sound.untouched none).1 synced
  have fresh := fresh_of_not_restored sound unrestored
  cases answered : world session.log (.writeCodingSnapshot backup.data) with
  | ok done =>
      exact ⟨_, _, _, drive_of_handle (rollback_of_ok found fresh answered),
        rfl, rfl⟩
  | error error =>
      exact ⟨_, _, _,
        drive_of_handle (rollback_of_error found fresh answered), rfl, rfl⟩

/-- Over every run, with the session stored and continued anywhere, an event
is handled as promised exactly when it is no rollback of a session that was
done and not rolled back. -/
theorem goesBack_iff (world : World uInterface URaised) (vin : String)
    (steps : List UStep) (event : UEvent) :
    GoesBack world (runFrom world vin steps) (WasDone world vin steps) event ↔
      ¬ (event = .rollback ∧ WasDone world vin steps ∧
        ¬ Restored (runFrom world vin steps).log) := by
  have sound := sound_runFrom world vin steps
  rw [wasDone_iff]
  constructor
  · rintro promised ⟨rfl, synced, unrestored⟩
    obtain ⟨prompt, after, exchange, driven, log, written⟩ :=
      rollback_writes world sound synced unrestored
    have unwritten := promised.rests synced prompt after _ driven log exchange
      (List.mem_singleton_self _)
    rw [written] at unwritten
    cases unwritten
  · intro allowed
    obtain ⟨prompt, middle, move, offers, driven⟩ :=
      drive_move world event (runFrom world vin steps)
    have only : ∀ other after, drive world event (runFrom world vin steps) =
        .ok other after →
        other = prompt ∧
          after = { middle with machine := noteVin middle.machine } := by
      intro other after again
      rw [driven] at again
      obtain ⟨rfl, rfl⟩ := again
      exact ⟨rfl, rfl⟩
    have moved := (sound.move move).noted
    constructor
    · exact ⟨prompt, _, driven⟩
    · rintro other after prior exchange later again log
      obtain ⟨-, rfl⟩ := only other after again
      exact sound.guarded move log
    · intro other after again failed saved unrestored
      obtain ⟨rfl, rfl⟩ := only other after again
      refine offers failed _ (mem_rollbackAction ?_
        (fresh_of_not_restored (sound.move move) unrestored))
      intro none
      exact saved (stored_of_quiet (moved.untouched none).1)
    · intro failed backup member unrestored answered
      refine ⟨_, _, drive_of_handle (rollback_of_ok
        (backup_of_stored sound member)
        (fresh_of_not_restored sound unrestored) answered), rfl, rfl⟩
    · intro backup member unrestored error answered
      have found := backup_of_stored sound member
      have fresh := fresh_of_not_restored sound unrestored
      refine ⟨_, _, drive_of_handle (rollback_of_error found fresh answered),
        rfl, List.mem_append_left _ (mem_rollbackAction ?_ fresh)⟩
      exact fun none => Option.some_ne_none _ (found.symm.trans none)
    · intro restored other after added again log
      obtain ⟨-, rfl⟩ := only other after again
      have rolled := sound.rolled.mpr restored
      exact move.unwritten (.inr (sound.ended rolled)) (fun _ => rolled) log
    · intro synced other after added again log
      obtain ⟨-, rfl⟩ := only other after again
      refine move.unwritten (sound.finished synced) (fun rollback => ?_) log
      by_contra fresh
      exact allowed ⟨rollback, synced, fun restored =>
        fresh (sound.rolled.mpr restored)⟩

def openUnit : World uInterface URaised
  | _, .detectTransport => .ok "doip"
  | _, .readVin => .ok "WBAUNIVERSAL00001"
  | _, .probeDmeLocked => .ok false
  | _, .readCodingSnapshot => .ok [0xCA, 0xFD]
  | _, .saveBackup _ => .ok ()
  | _, .benchPinout => .ok false
  | _, .clearDtcs => .ok true
  | _, .codeDme _ => .ok (some 1)
  | _, .extractBench => .ok ()
  | _, .syncModule _ => .ok ()
  | _, .writeCodingSnapshot _ => .ok ()

def codedAndSynced : List UStep :=
  [.event (.start (some "T1") (some "")), .event .backup, .event (.code []),
    .event .sync]

/-- The session is done, and a rollback writes to the unit. -/
theorem done_rollback_writes :
    ¬ ∀ (world : World uInterface URaised) vin steps event,
      GoesBack world (runFrom world vin steps) (WasDone world vin steps)
        event := by
  intro promised
  have sound := sound_runFrom openUnit "" codedAndSynced
  have done : (runFrom openUnit "" codedAndSynced).machine.state = .done := by
    decide +kernel
  have fresh : (runFrom openUnit "" codedAndSynced).machine.data.rolledBack =
      false := by
    decide +kernel
  have unrestored : ¬ Restored (runFrom openUnit "" codedAndSynced).log := by
    rw [← sound.rolled, fresh]
    exact Bool.false_ne_true
  obtain ⟨prompt, after, exchange, driven, log, written⟩ :=
    rollback_writes openUnit sound (sound.done done) unrestored
  have unwritten :=
    (promised openUnit "" codedAndSynced .rollback).rests
      ⟨codedAndSynced, [], (List.append_nil _).symm, done⟩ prompt after _
      driven log exchange (List.mem_singleton_self _)
  rw [written] at unwritten
  cases unwritten

end Universal

end Mousstec
