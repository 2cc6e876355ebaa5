import Mousstec.Ecu.FlashRuns
import Mousstec.Library.Guided

/-!
# Interrupted flashes

The image and the backup live on the orchestrator and are not stored.  A
session that is continued goes on in its old state without them: a flash that
is interrupted before it has written its image writes an empty one, and has
nothing to write back when it fails.
-/

namespace Mousstec

namespace Flash

open Library

/-- `FlashState(text)`. -/
def FlashState.ofValue (text : String) : Option FlashState :=
  [idle, ready, backedUp, flashed, done, failed].find? fun state =>
    state.value = text

@[simp] theorem FlashState.ofValue_value (state : FlashState) :
    FlashState.ofValue state.value = some state := by
  cases state <;> decide +kernel

structure FlashSnapshot where
  state : String
  data : FlashData

/-- `snapshot`. -/
def snapshot (machine : FlashMachine) : FlashSnapshot :=
  { state := machine.state.value
    data := machine.data }

/-- `restore`: the job is looked up again, the image and the backup are
gone. -/
def restore (stored : FlashSnapshot) : Option FlashMachine := do
  let state ← FlashState.ofValue stored.state
  pure
    { state
      data := stored.data
      job :=
        if stored.data.jobCode = "" then none
        else getFlashJob stored.data.jobCode
      payload := []
      backup := none }

def resume : FlashTxn PUnit := do
  let session ← get
  let machine ← Txn.expect (restore (snapshot session.machine))
    (.other "ValueError")
  Session.update fun _ => machine

def handled (world : World flashInterface FlashRaised) (guarded : Bool)
    (event : FlashEvent) (session : FlashSession) : FlashSession :=
  (handle world guarded event).final session

def resumed (session : FlashSession) : FlashSession :=
  (resume : FlashTxn PUnit).final session

def FlashMachine.forget (machine : FlashMachine) : FlashMachine :=
  { machine with
    payload := []
    backup := none }

def forget (session : FlashSession) : FlashSession :=
  { session with machine := session.machine.forget }

/-- The job is the one its code names, and a new session holds nothing. -/
structure Restorable (machine : FlashMachine) : Prop where
  job : machine.job = getFlashJob machine.data.jobCode
  fresh : machine.state = .idle → machine.payload = [] ∧ machine.backup = none

theorem restore_snapshot {machine : FlashMachine}
    (restorable : Restorable machine) :
    restore (snapshot machine) = some machine.forget := by
  have job : (if machine.data.jobCode = "" then none
      else getFlashJob machine.data.jobCode) = machine.job := by
    rw [restorable.job]
    split
    · rename_i unnamed
      rw [unnamed]
      decide
    · rfl
  simp only [restore, snapshot, FlashState.ofValue_value, Option.bind_eq_bind,
    Option.bind_some]
  exact congrArg (fun job => some { machine.forget with job }) job

theorem resumed_eq {session : FlashSession}
    (restorable : Restorable session.machine) :
    resumed session = forget session := by
  refine Txn.final_of_ok (?_ : resume session = .ok ⟨⟩ _)
  rw [resume, Txn.get_bind]
  refine Txn.bind_eq_ok.mpr ⟨_, session, ?_, rfl⟩
  exact Txn.expect_eq_ok.mpr ⟨restore_snapshot restorable, rfl⟩

variable {world : World flashInterface FlashRaised} {guarded : Bool}

def HoldsJob (session : FlashSession) : Prop :=
  session.machine.job = getFlashJob session.machine.data.jobCode

/-- The job stays the one its code names, and the transcript the
environment's. -/
structure Keeps (world : World flashInterface FlashRaised)
    (before after : FlashSession) : Prop where
  job : HoldsJob before → HoldsJob after
  honest : Honest world before.log → Honest world after.log

instance : Std.Refl (Keeps world) := ⟨fun _ => ⟨id, id⟩⟩

instance : IsTrans FlashSession (Keeps world) :=
  ⟨fun _ _ _ first second =>
    ⟨second.job ∘ first.job, second.honest ∘ first.honest⟩⟩

theorem ask_keeps (call : FlashCall) :
    Txn.Follows (Session.ask world call : FlashTxn _) (Keeps world) := by
  intro session
  rw [Session.final_ask]
  exact ⟨id, fun honest => honest.ask call⟩

theorem update_keeps (change : FlashMachine → FlashMachine)
    (kept : ∀ machine, (change machine).job = machine.job ∧
      (change machine).data.jobCode = machine.data.jobCode) :
    Txn.Follows (Session.update change : FlashTxn PUnit) (Keeps world) := by
  intro session
  refine ⟨fun holds => ?_, id⟩
  exact (kept _).1.trans (holds.trans (congrArg getFlashJob (kept _).2.symm))

theorem advance_keeps (target : FlashState) :
    Txn.Follows (advance target) (Keeps world) :=
  Txn.follows_bind Txn.follows_get fun _ =>
    Txn.follows_bind (Txn.follows_require _ _) fun _ =>
    update_keeps _ fun _ => ⟨rfl, rfl⟩

theorem startProbed_keeps (job : FlashJob) :
    Txn.Follows (startProbed world job) (Keeps world) :=
  Txn.follows_bind (ask_keeps _) fun _ =>
    Txn.follows_bind (update_keeps _ fun _ => ⟨rfl, rfl⟩) fun _ =>
    Txn.follows_ite (update_keeps _ fun _ => ⟨rfl, rfl⟩)
      (Txn.follows_bind (ask_keeps _) fun _ =>
        Txn.follows_bind (update_keeps _ fun _ => ⟨rfl, rfl⟩) fun _ =>
        advance_keeps _)

theorem startImage_keeps (job : FlashJob) (image : List UInt8) :
    Txn.Follows (startImage world guarded job image) (Keeps world) := by
  refine Txn.follows_ite (update_keeps _ fun _ => ⟨rfl, rfl⟩) ?_
  refine Txn.follows_bind (update_keeps _ fun _ => ⟨rfl, rfl⟩) fun _ =>
    Txn.follows_bind (Txn.follows_expect _ _) fun _ =>
    Txn.follows_bind (update_keeps _ fun _ => ⟨rfl, rfl⟩) fun _ =>
    Txn.follows_ite ?_ (startProbed_keeps job)
  exact Txn.follows_bind (ask_keeps _) fun _ =>
    Txn.follows_ite (startProbed_keeps job)
      (update_keeps _ fun _ => ⟨rfl, rfl⟩)

theorem start_keeps (payload : StartPayload) :
    Txn.Follows (start world guarded payload) (Keeps world) := by
  refine Txn.follows_bind Txn.follows_get fun _ =>
    Txn.follows_bind (Txn.follows_require _ _) fun _ => ?_
  split
  · exact update_keeps _ fun _ => ⟨rfl, rfl⟩
  · rename_i found
    refine Txn.follows_bind (fun _ => ⟨fun _ => found.symm, id⟩) fun _ => ?_
    split
    · exact update_keeps _ fun _ => ⟨rfl, rfl⟩
    · exact startImage_keeps _ _

theorem backupStep_keeps : Txn.Follows (backupStep world) (Keeps world) := by
  refine Txn.follows_bind Txn.follows_get fun _ =>
    Txn.follows_bind (Txn.follows_require _ _) fun _ =>
    Txn.follows_bind (Txn.follows_expect _ _) fun _ =>
    Txn.follows_bind (ask_keeps _) fun _ =>
    Txn.follows_bind (Txn.follows_ite ?_ (Txn.follows_pure _)) fun _ =>
    Txn.follows_bind (ask_keeps _) fun _ =>
    Txn.follows_bind (update_keeps _ fun _ => ⟨rfl, rfl⟩) fun _ =>
    advance_keeps _
  exact Txn.follows_bind (ask_keeps _) fun _ => Txn.follows_pure _

theorem transferBlocks_keeps (seq : Nat) (blocks : List (List UInt8)) :
    Txn.Follows (transferBlocks world seq blocks) (Keeps world) := by
  induction blocks generalizing seq with
  | nil => exact Txn.follows_pure _
  | cons block blocks induction =>
      exact Txn.follows_bind (ask_keeps _) fun _ => induction (seq + 1)

theorem writeImage_keeps (job : FlashJob) (machine : FlashMachine) :
    Txn.Follows (writeImage world job machine) (Keeps world) :=
  Txn.follows_bind (ask_keeps _) fun _ =>
    Txn.follows_bind (transferBlocks_keeps _ _) fun _ =>
    Txn.follows_bind (update_keeps _ fun _ => ⟨rfl, rfl⟩) fun _ =>
    Txn.follows_bind (ask_keeps _) fun _ =>
    Txn.follows_bind (ask_keeps _) fun _ =>
    Txn.follows_bind (ask_keeps _) fun _ =>
    Txn.follows_bind (ask_keeps _) fun _ => Txn.follows_pure _

theorem flashStep_keeps : Txn.Follows (flashStep world) (Keeps world) :=
  Txn.follows_bind Txn.follows_get fun _ =>
    Txn.follows_bind (Txn.follows_require _ _) fun _ =>
    Txn.follows_bind (Txn.follows_expect _ _) fun _ =>
    Txn.follows_bind (ask_keeps _) fun _ =>
    Txn.follows_bind (writeImage_keeps _ _) fun _ => advance_keeps _

theorem finish_keeps : Txn.Follows (finish world guarded) (Keeps world) :=
  Txn.follows_bind Txn.follows_get fun _ =>
    Txn.follows_bind (Txn.follows_require _ _) fun _ =>
    Txn.follows_bind (advance_keeps _) fun _ =>
    Txn.follows_bind (Txn.follows_expect _ _) fun _ =>
    Txn.follows_ite
      (Txn.follows_bind (ask_keeps _) fun _ => Txn.follows_pure _)
      (Txn.follows_pure _)

theorem rollbackBackedUp_keeps :
    Txn.Follows (rollbackBackedUp world) (Keeps world) := by
  refine Txn.follows_bind Txn.follows_get fun _ =>
    Txn.follows_ite ?_ (Txn.follows_pure _)
  refine Txn.follows_bind Txn.follows_get fun session => ?_
  split
  · exact Txn.follows_bind (Txn.follows_attempt (ask_keeps _)) fun _ =>
      update_keeps _ fun _ => ⟨rfl, rfl⟩
  · exact Txn.follows_pure _

theorem dispatch_keeps (event : FlashEvent) :
    Txn.Follows (dispatch world guarded event) (Keeps world) := by
  cases event with
  | start payload => exact start_keeps payload
  | backup => exact backupStep_keeps
  | flash => exact flashStep_keeps
  | finish => exact finish_keeps
  | abort =>
      exact Txn.follows_bind rollbackBackedUp_keeps fun _ =>
        update_keeps _ fun _ => ⟨rfl, rfl⟩
  | unknown text => exact update_keeps _ fun _ => ⟨rfl, rfl⟩

theorem handle_keeps (event : FlashEvent) :
    Txn.Follows (handle world guarded event) (Keeps world) := by
  refine Txn.follows_bind (Txn.follows_attempt (dispatch_keeps event))
    fun outcome => ?_
  cases outcome with
  | ok value => exact Txn.follows_pure _
  | error error =>
      exact Txn.follows_bind rollbackBackedUp_keeps fun _ =>
        update_keeps _ fun _ => ⟨rfl, rfl⟩

/-- The transcript of a run is the environment's. -/
theorem transcript_honest (flash : World flashInterface FlashRaised)
    (guarded : Bool) (events : List FlashEvent) :
    Honest flash (runEvents flash guarded events).log := by
  refine Txn.after_invariant (fun session => Honest flash session.log)
    handle_rollsBack ?_ events ?_
  · intro event before final honest returned
    exact ((handle_keeps event).of_ok returned).honest honest
  · exact .nil

/-- No event leaves a session new. -/
theorem handled_ne_idle (event : FlashEvent) (session : FlashSession) :
    (handled world guarded event session).machine.state ≠ .idle := by
  cases dispatched : dispatch world guarded event session with
  | error error after =>
      rw [handled, handle_final_of_error event dispatched]
      exact nofun
  | ok value after =>
      rw [handled, handle_final_of_ok event dispatched]
      cases event with
      | start payload =>
          rcases (start_eq_ok dispatched).2 with failed | ⟨ready, -⟩
          · rw [failed]; decide
          · rw [ready]; decide
      | backup =>
          obtain ⟨-, job, image, added, -, backedUp, -⟩ :=
            backupStep_eq_ok dispatched
          rw [backedUp]
          decide
      | flash =>
          obtain ⟨-, job, outcome, added, -, -, -, -, flashed, -⟩ :=
            flashStep_eq_ok dispatched
          rw [flashed]
          decide
      | finish =>
          rw [(finish_eq_ok dispatched).2]
          decide
      | abort =>
          obtain ⟨_, middle, _, failed⟩ := Txn.bind_eq_ok.mp dispatched
          rw [Session.update_eq_ok] at failed
          rw [← failed]
          exact nofun
      | unknown text =>
          rw [dispatch, Session.update_eq_ok] at dispatched
          rw [← dispatched]
          exact nofun

theorem restorable_handled (event : FlashEvent) {session : FlashSession}
    (restorable : Restorable session.machine) :
    Restorable (handled world guarded event session).machine where
  job := (handle_keeps event session).job restorable.job
  fresh idle := absurd idle (handled_ne_idle event session)

theorem restorable_forget {session : FlashSession}
    (restorable : Restorable session.machine) :
    Restorable (forget session).machine where
  job := restorable.job
  fresh _ := ⟨rfl, rfl⟩

theorem restorable_newSession : Restorable newSession.machine where
  job := by decide
  fresh _ := ⟨rfl, rfl⟩

/-- A state in which neither the image nor the backup is needed any more. -/
def FlashState.Over (state : FlashState) : Prop :=
  state = .flashed ∨ state = .done ∨ state = .failed

theorem FlashState.Over.ne {state other : FlashState} (ended : state.Over)
    (running : other ≠ .flashed ∧ other ≠ .done ∧ other ≠ .failed) :
    state ≠ other := by
  rintro rfl
  exact ended.elim running.1 fun ended => ended.elim running.2.1 running.2.2

/-- A refused event fails the session. -/
theorem handled_of_refused {event : FlashEvent} {session : FlashSession}
    {error : FlashRaised} (ended : session.machine.state.Over)
    (refused : dispatch world guarded event session =
      .error error session) :
    handled world guarded event session =
      failedWith (.raised error) session := by
  rw [handled, handle_final_of_error event refused,
    rollbackBackedUp_final_of_ne (ended.ne (by decide))]

theorem flashStep_refuses {session : FlashSession}
    (other : session.machine.state ≠ .backedUp) :
    flashStep world session =
      .error (outOfState "FLASH" "BACKED_UP" session.machine.state)
        session := by
  rw [flashStep, Txn.get_bind, Txn.require, if_neg other]
  rfl

theorem finish_refuses {session : FlashSession}
    (other : session.machine.state ≠ .flashed) :
    finish world guarded session =
      .error (outOfState "FINISH" "FLASHED" session.machine.state)
        session := by
  rw [finish, Txn.get_bind, Txn.require, if_neg other]
  rfl

theorem handled_abort {session : FlashSession}
    (ended : session.machine.state.Over) :
    handled world guarded .abort session =
      failedWith .abortedByUser session := by
  have kept : rollbackBackedUp world session = .ok ⟨⟩ session := by
    rw [rollbackBackedUp, Txn.get_bind, if_neg (ended.ne (by decide))]
    rfl
  have aborted : dispatch world guarded .abort session =
      .ok ⟨⟩ (failedWith .abortedByUser session) :=
    Txn.bind_eq_ok.mpr ⟨⟨⟩, session, kept, rfl⟩
  rw [handled, handle_final_of_ok .abort aborted]

/-- What an event makes of a session that is over depends neither on the image
nor on the backup. -/
structure Forgets (world : World flashInterface FlashRaised) (guarded : Bool)
    (event : FlashEvent) (session : FlashSession) : Prop where
  same : forget (handled world guarded event session) =
    handled world guarded event (forget session)
  ended : (handled world guarded event session).machine.state.Over

theorem forgets_of_refused {event : FlashEvent} {session : FlashSession}
    {error : FlashRaised} (ended : session.machine.state.Over)
    (refused : dispatch world guarded event session = .error error session)
    (refusedToo : dispatch world guarded event (forget session) =
      .error error (forget session)) : Forgets world guarded event session := by
  have overToo : (forget session).machine.state.Over := ended
  constructor
  · rw [handled_of_refused ended refused, handled_of_refused overToo refusedToo]
    rfl
  · rw [handled_of_refused ended refused]
    exact .inr (.inr rfl)

def countCall (job : FlashJob) (data : FlashData) : FlashCall :=
  .consume data.vin (job.code ++ "-" ++ orDefault data.vin "no-vin")

def counted (machine : FlashMachine) (log : List FlashExchange)
    (exchange : FlashExchange) : FlashSession :=
  { machine := { machine with state := .done }
    log := log ++ [exchange] }

theorem finish_eq_count (world : World flashInterface FlashRaised)
    {machine : FlashMachine} (log : List FlashExchange) {job : FlashJob}
    (flashed : machine.state = .flashed)
    (held : machine.job = some job) :
    dispatch world true .finish { machine, log } =
      (do
        let _ : Bool ← Session.ask world (countCall job machine.data)
        pure ⟨⟩ : FlashTxn PUnit)
        { machine := { machine with state := .done }, log } := by
  obtain ⟨state, data, job, payload, backup⟩ := machine
  cases flashed
  cases held
  rfl

def finishedWith (machine : FlashMachine) (log : List FlashExchange)
    (call : FlashCall) : Except FlashRaised (call.Answer) → FlashSession
  | .ok taken => counted machine log ⟨call, .ok taken⟩
  | .error error =>
      failedWith (.raised error) (counted machine log ⟨call, .error error⟩)

theorem forget_finishedWith (machine : FlashMachine)
    (log : List FlashExchange) (call : FlashCall)
    (outcome : Except FlashRaised call.Answer) :
    forget (finishedWith machine log call outcome) =
      finishedWith machine.forget log call outcome := by
  cases outcome with
  | ok taken => rfl
  | error error => rfl

theorem finishedWith_over (machine : FlashMachine)
    (log : List FlashExchange) (call : FlashCall)
    (outcome : Except FlashRaised call.Answer) :
    (finishedWith machine log call outcome).machine.state.Over := by
  cases outcome with
  | ok taken => exact .inr (.inl rfl)
  | error error => exact .inr (.inr rfl)

theorem handled_finish (world : World flashInterface FlashRaised)
    (machine : FlashMachine) (log : List FlashExchange) {job : FlashJob}
    (flashed : machine.state = .flashed)
    (held : machine.job = some job) :
    handled world true .finish { machine, log } =
      finishedWith machine log (countCall job machine.data)
        (world log (countCall job machine.data)) := by
  have finishes := finish_eq_count world log flashed held
  cases answered : world log (countCall job machine.data) with
  | ok taken =>
      refine handle_final_of_ok .finish (finishes.trans ?_)
      exact Txn.bind_eq_ok.mpr ⟨taken, _,
        Session.ask_eq_ok.mpr ⟨answered, rfl⟩, rfl⟩
  | error error =>
      have failed := finishes.trans (Txn.bind_eq_error.mpr
        (.inl (Session.ask_eq_error.mpr ⟨answered, rfl⟩)))
      rw [handled, handle_final_of_error .finish failed,
        rollbackBackedUp_final_of_ne (by exact nofun)]
      rfl

theorem forgets_finish {session : FlashSession}
    (flashed : session.machine.state = .flashed) :
    Forgets world guarded .finish session := by
  obtain ⟨machine, log⟩ := session
  cases guarded with
  | false =>
      obtain ⟨state, data, job, payload, backup⟩ := machine
      cases flashed
      cases job with
      | none => exact ⟨rfl, .inr (.inr rfl)⟩
      | some job => exact ⟨rfl, .inr (.inl rfl)⟩
  | true =>
      cases held : machine.job with
      | none =>
          obtain ⟨state, data, job, payload, backup⟩ := machine
          cases flashed
          cases held
          exact ⟨rfl, .inr (.inr rfl)⟩
      | some job =>
          constructor
          · rw [handled_finish world machine log flashed held]
            exact (forget_finishedWith machine log _ _).trans
              (handled_finish world machine.forget log flashed held).symm
          · rw [handled_finish world machine log flashed held]
            exact finishedWith_over machine log _ _

theorem forgets_handled (event : FlashEvent) {session : FlashSession}
    (ended : session.machine.state.Over) :
    Forgets world guarded event session := by
  have overToo : (forget session).machine.state.Over := ended
  cases event with
  | start payload =>
      exact forgets_of_refused ended (start_refuses (ended.ne (by decide)))
        (start_refuses (overToo.ne (by decide)))
  | backup =>
      exact forgets_of_refused ended (backupStep_refuses (ended.ne (by decide)))
        (backupStep_refuses (overToo.ne (by decide)))
  | flash =>
      exact forgets_of_refused ended (flashStep_refuses (ended.ne (by decide)))
        (flashStep_refuses (overToo.ne (by decide)))
  | finish =>
      by_cases flashed : session.machine.state = .flashed
      · exact forgets_finish flashed
      · have other : (forget session).machine.state ≠ .flashed := flashed
        exact forgets_of_refused ended (finish_refuses flashed)
          (finish_refuses other)
  | abort =>
      constructor
      · rw [handled_abort ended, handled_abort overToo]
        rfl
      · rw [handled_abort ended]
        exact .inr (.inr rfl)
  | unknown text => exact ⟨rfl, .inr (.inr rfl)⟩

def flashKinds : Guided.Kinds flashInterface where
  hardware
    | .check => false
    | .consume _ _ => false
    | _ => true
  consume
    | .consume _ _ => true
    | _ => false

/-- What a run shows: its state, the calls that reached the unit, and how many
uses were counted. -/
def shown (session : FlashSession) : FlashState × List FlashExchange × Nat :=
  (session.machine.state, flashKinds.shown session.log)

/-- An interruption that does not cost an image that is still needed. -/
def KeepsImage (session : FlashSession) : Prop :=
  session.machine.state ≠ .ready ∧ session.machine.state ≠ .backedUp

/-- After a flash the image is written, or given up. -/
theorem keepsImage_flash (session : FlashSession) :
    KeepsImage (handled world guarded .flash session) := by
  rw [handled]
  cases dispatched : dispatch world guarded .flash session with
  | ok value after =>
      obtain ⟨-, _, _, _, -, -, -, -, flashed, -⟩ := flashStep_eq_ok dispatched
      rw [handle_final_of_ok .flash dispatched, KeepsImage, flashed]
      exact ⟨nofun, nofun⟩
  | error error after =>
      rw [handle_final_of_error .flash dispatched]
      exact ⟨nofun, nofun⟩

theorem forget_fresh {session : FlashSession}
    (restorable : Restorable session.machine)
    (idle : session.machine.state = .idle) : forget session = session := by
  obtain ⟨payload, backup⟩ := restorable.fresh idle
  obtain ⟨⟨state, data, job, image, saved⟩, log⟩ := session
  cases payload
  cases backup
  rfl

/-- Interrupting a flash does not show, when it had not started or had written
its image whenever it was interrupted. -/
theorem shown_runSteps (steps : List (Guided.Step FlashEvent))
    (when : Guided.ResumedWhen (handled world guarded) resumed KeepsImage steps
      newSession) :
    shown (Guided.runSteps (handled world guarded) resumed steps newSession) =
      shown (Guided.runEvents (handled world guarded) (Guided.events steps)
        newSession) := by
  have overHandle : ∀ event (state other : FlashSession),
      state.machine.state.Over → other.machine.state.Over →
      forget state = forget other →
      ((handled world guarded event state).machine.state.Over ∧
        (handled world guarded event other).machine.state.Over) ∧
      forget (handled world guarded event state) =
        forget (handled world guarded event other) := by
    intro event state other ended overToo same
    have first : Forgets world guarded event state := forgets_handled event ended
    have second : Forgets world guarded event other :=
      forgets_handled event overToo
    exact ⟨⟨first.ended, second.ended⟩, by rw [first.same, second.same, same]⟩
  have resumedOver : ∀ state : FlashSession, Restorable state.machine →
      KeepsImage state → resumed state = state ∨
        (state.machine.state.Over ∧ (resumed state).machine.state.Over) ∧
          forget (resumed state) = forget state := by
    rintro state restorable ⟨notReady, notBackedUp⟩
    rw [resumed_eq restorable]
    cases stage : state.machine.state with
    | idle => exact .inl (forget_fresh restorable stage)
    | ready => exact absurd stage notReady
    | backedUp => exact absurd stage notBackedUp
    | flashed => exact .inr ⟨⟨.inl rfl, .inl stage⟩, rfl⟩
    | done => exact .inr ⟨⟨.inr (.inl rfl), .inr (.inl stage)⟩, rfl⟩
    | failed => exact .inr ⟨⟨.inr (.inr rfl), .inr (.inr stage)⟩, rfl⟩
  have soundResume : ∀ state : FlashSession, Restorable state.machine →
      Restorable (resumed state).machine := by
    intro state restorable
    rw [resumed_eq restorable]
    exact restorable_forget restorable
  have same := Guided.runSteps_observe
    (fun event _ => restorable_handled event) soundResume overHandle
    resumedOver steps newSession restorable_newSession when
  exact congrArg (fun session => (session.machine.state,
    flashKinds.shown session.log)) same

end Flash

end Mousstec
