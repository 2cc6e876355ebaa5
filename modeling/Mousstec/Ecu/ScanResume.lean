import Mousstec.Ecu.FullScan

/-!
# Interrupted scans

Of a scan only the report is not stored, and once it is made nothing reads it
again: a scan may be interrupted anywhere.
-/

namespace Mousstec

namespace Scan

open Library

def scanKinds : Guided.Kinds scanInterface where
  hardware := ScanCall.isHardware
  consume := ScanCall.isConsume

/-- What a run shows: its state, the calls that reached the car, and how many
uses were counted. -/
abbrev shown : ScanSession →
    ScanState × List (Exchange scanInterface ScanRaised) × Nat :=
  Guided.shown scanStages scanKinds

def handled (world : World scanInterface ScanRaised) (event : ScanEvent)
    (session : ScanSession) : ScanSession :=
  (handle world event).final session

def resumed (session : ScanSession) : ScanSession :=
  (resume : ScanTxn PUnit).final session

def forget (session : ScanSession) : ScanSession :=
  { session with machine := session.machine.forget }

theorem resumed_eq (session : ScanSession) : resumed session = forget session := by
  refine Txn.final_of_ok (?_ : resume session = .ok ⟨⟩ _)
  rw [resume, Txn.get_bind]
  refine Txn.bind_eq_ok.mpr ⟨_, session, ?_, rfl⟩
  exact Txn.expect_eq_ok.mpr ⟨restore_snapshot session.machine, rfl⟩

def failedWith (fault : ScanFault) (session : ScanSession) : ScanSession :=
  { session with machine := session.machine.fail fault }

variable {world : World scanInterface ScanRaised}

theorem handled_of_error {event : ScanEvent} {error : ScanRaised}
    {before after : ScanSession}
    (failed : dispatch world event before = .error error after) :
    handled world event before = failedWith (.raised error) after :=
  Guided.final_recovering_of_error failed

theorem handled_of_ok {event : ScanEvent} {before after : ScanSession}
    (returned : dispatch world event before = .ok ⟨⟩ after) :
    handled world event before = after :=
  Guided.final_recovering_of_ok returned

/-- A state in which the report has been made, or never will be. -/
def ScanState.Over (state : ScanState) : Prop :=
  state = .reportReady ∨ state = .done ∨ state = .failed

theorem ScanState.Over.ne {state other : ScanState} (ended : state.Over)
    (running : other ≠ .reportReady ∧ other ≠ .done ∧ other ≠ .failed) :
    state ≠ other := by
  rintro rfl
  exact ended.elim running.1 fun ended => ended.elim running.2.1 running.2.2

/-- What an event makes of a session that is over does not depend on the
report. -/
structure Forgets (world : World scanInterface ScanRaised)
    (event : ScanEvent) (session : ScanSession) : Prop where
  same : forget (handled world event session) =
    handled world event (forget session)
  ended : (handled world event session).machine.state.Over

theorem onlyIn_refuses {event : String} {only : ScanState}
    {next : PUnit → ScanTxn PUnit} {session : ScanSession}
    (other : session.machine.state ≠ only) :
    (onlyIn event only >>= next) session =
      .error (.illegalTransition (event ++ " only valid in " ++
        only.value.toUpper ++ " (now " ++ session.machine.state.value ++ ")"))
        session := by
  refine Txn.bind_eq_error.mpr (.inl ?_)
  rw [onlyIn, Guided.within, Txn.get_bind]
  exact Txn.require_eq_error.mpr ⟨other, rfl, rfl⟩

theorem forgets_of_refused {event : ScanEvent} {session : ScanSession}
    {error : ScanRaised}
    (refused : dispatch world event session = .error error session)
    (refusedToo : dispatch world event (forget session) =
      .error error (forget session)) : Forgets world event session := by
  constructor
  · rw [handled_of_error refused, handled_of_error refusedToo]
    rfl
  · rw [handled_of_error refused]
    exact .inr (.inr rfl)

def counted (machine : ScanMachine)
    (log : List (Exchange scanInterface ScanRaised))
    (exchange : Exchange scanInterface ScanRaised) : ScanSession :=
  { machine := { machine with state := .done }
    log := log ++ [exchange] }

def finishedWith (machine : ScanMachine)
    (log : List (Exchange scanInterface ScanRaised)) (call : ScanCall) :
    Except ScanRaised call.Answer → ScanSession
  | .ok taken => counted machine log ⟨call, .ok taken⟩
  | .error error =>
      failedWith (.raised error) (counted machine log ⟨call, .error error⟩)

theorem forget_finishedWith (machine : ScanMachine)
    (log : List (Exchange scanInterface ScanRaised)) (call : ScanCall)
    (outcome : Except ScanRaised call.Answer) :
    forget (finishedWith machine log call outcome) =
      finishedWith machine.forget log call outcome := by
  cases outcome with
  | ok taken => rfl
  | error error => rfl

theorem finishedWith_over (machine : ScanMachine)
    (log : List (Exchange scanInterface ScanRaised)) (call : ScanCall)
    (outcome : Except ScanRaised call.Answer) :
    (finishedWith machine log call outcome).machine.state.Over := by
  cases outcome with
  | ok taken => exact .inr (.inl rfl)
  | error error => exact .inr (.inr rfl)

theorem finish_eq_count (world : World scanInterface ScanRaised)
    {machine : ScanMachine} (log : List (Exchange scanInterface ScanRaised))
    (ready : machine.state = .reportReady) (guarded : machine.guarded = true) :
    dispatch world .finish { machine, log } =
      (do
        let _ : Bool ← Session.ask world (countCall machine.data)
        pure ⟨⟩ : ScanTxn PUnit)
        { machine := { machine with state := .done }, log } := by
  obtain ⟨state, data, guard⟩ := machine
  cases ready
  cases guarded
  rfl

theorem handled_finish (world : World scanInterface ScanRaised)
    (machine : ScanMachine) (log : List (Exchange scanInterface ScanRaised))
    (ready : machine.state = .reportReady) (guarded : machine.guarded = true) :
    handled world .finish { machine, log } =
      finishedWith machine log (countCall machine.data)
        (world log (countCall machine.data)) := by
  have finishes := finish_eq_count world log ready guarded
  cases answered : world log (countCall machine.data) with
  | ok taken =>
      refine handled_of_ok (finishes.trans ?_)
      exact Txn.bind_eq_ok.mpr ⟨taken, _,
        Session.ask_eq_ok.mpr ⟨answered, rfl⟩, rfl⟩
  | error error =>
      exact handled_of_error (finishes.trans (Txn.bind_eq_error.mpr
        (.inl (Session.ask_eq_error.mpr ⟨answered, rfl⟩))))

theorem forgets_finish {session : ScanSession}
    (ready : session.machine.state = .reportReady) :
    Forgets world .finish session := by
  obtain ⟨machine, log⟩ := session
  cases guarded : machine.guarded with
  | false =>
      obtain ⟨state, data, guard⟩ := machine
      cases ready
      cases guarded
      exact ⟨rfl, .inr (.inl rfl)⟩
  | true =>
      constructor
      · rw [handled_finish world machine log ready guarded]
        exact (forget_finishedWith machine log _ _).trans
          (handled_finish world machine.forget log ready guarded).symm
      · rw [handled_finish world machine log ready guarded]
        exact finishedWith_over machine log _ _

theorem forgets_handled (event : ScanEvent) {session : ScanSession}
    (ended : session.machine.state.Over) : Forgets world event session := by
  have overToo : (forget session).machine.state.Over := ended
  cases event with
  | connect chassisFamily technicianId =>
      exact forgets_of_refused (onlyIn_refuses (ended.ne (by decide)))
        (onlyIn_refuses (overToo.ne (by decide)))
  | scanAll =>
      exact forgets_of_refused (onlyIn_refuses (ended.ne (by decide)))
        (onlyIn_refuses (overToo.ne (by decide)))
  | finish =>
      by_cases ready : session.machine.state = .reportReady
      · exact forgets_finish ready
      · have other : (forget session).machine.state ≠ .reportReady := ready
        exact forgets_of_refused (onlyIn_refuses ready) (onlyIn_refuses other)
  | abort => exact ⟨rfl, .inr (.inr rfl)⟩
  | unknown text => exact ⟨rfl, .inr (.inr rfl)⟩

def Unreported (session : ScanSession) : Prop :=
  session.machine.state.Over ∨ session.machine.data.report = none

abbrev SameReport : ScanSession → ScanSession → Prop :=
  Session.Grows (fun _ => True) fun machine => machine.data.report

theorem connectEntitled_sameReport :
    Txn.Follows (connectEntitled world) SameReport :=
  Txn.follows_bind (Session.follows_ask _ _ fun _ => trivial) fun _ =>
    Txn.follows_bind (Session.follows_update _ fun _ => rfl) fun _ =>
    Txn.follows_bind (Session.follows_ask _ _ fun _ => trivial) fun _ =>
    Txn.follows_bind (Session.follows_update _ fun _ => rfl) fun _ =>
    Guided.advance_follows fun _ => rfl

theorem connect_sameReport (chassisFamily technicianId : Option String) :
    Txn.Follows (connect world chassisFamily technicianId) SameReport := by
  refine Txn.follows_bind Guided.within_follows fun _ =>
    Txn.follows_bind (Txn.follows_expect _ _) fun _ =>
    Txn.follows_bind (Session.follows_update _ fun _ => rfl) fun _ =>
    Txn.follows_bind (Txn.follows_expect _ _) fun _ =>
    Txn.follows_bind (Session.follows_update _ fun _ => rfl) fun _ =>
    Txn.follows_bind Txn.follows_get fun _ =>
    Txn.follows_ite ?_ connectEntitled_sameReport
  exact Txn.follows_bind (Session.follows_ask _ _ fun _ => trivial) fun _ =>
    Txn.follows_ite connectEntitled_sameReport
      (Session.follows_update _ fun _ => rfl)

theorem over_of_advance {target : ScanState} {before after : ScanSession}
    (ended : target.Over) (returned : advance target before = .ok ⟨⟩ after) :
    after.machine.state.Over := by
  obtain ⟨-, rfl⟩ := Guided.advance_eq_ok.mp returned
  exact ended

theorem scanAll_over {before after : ScanSession}
    (returned : scanAll world before = .ok ⟨⟩ after) :
    after.machine.state.Over := by
  obtain ⟨⟨⟩, _, _, returned⟩ := Txn.bind_eq_ok.mp returned
  rw [Txn.get_bind] at returned
  obtain ⟨results, _, _, returned⟩ := Txn.bind_eq_ok.mp returned
  obtain ⟨⟨⟩, _, _, returned⟩ := Txn.bind_eq_ok.mp returned
  exact over_of_advance (.inl rfl) returned

theorem finish_over {before after : ScanSession}
    (returned : finish world before = .ok ⟨⟩ after) :
    after.machine.state.Over := by
  obtain ⟨⟨⟩, _, _, returned⟩ := Txn.bind_eq_ok.mp returned
  obtain ⟨⟨⟩, _, advanced, returned⟩ := Txn.bind_eq_ok.mp returned
  have ended := over_of_advance (.inr (.inl rfl)) advanced
  rw [Txn.get_bind] at returned
  split at returned
  · obtain ⟨taken, -, returned⟩ := Session.ask_bind_eq_ok.mp returned
    obtain ⟨-, rfl⟩ := Txn.pure_eq_ok.mp returned
    exact ended
  · obtain ⟨-, rfl⟩ := Txn.pure_eq_ok.mp returned
    exact ended

theorem unreported_handled (world : World scanInterface ScanRaised)
    (event : ScanEvent) (session : ScanSession)
    (unreported : Unreported session) :
    Unreported (handled world event session) := by
  by_cases ended : session.machine.state.Over
  · exact .inl (forgets_handled event ended).ended
  cases dispatched : dispatch world event session with
  | error error after =>
      rw [handled_of_error dispatched]
      exact .inl (.inr (.inr rfl))
  | ok value after =>
      rw [handled_of_ok dispatched]
      cases event with
      | connect chassisFamily technicianId =>
          have same := (connect_sameReport chassisFamily technicianId).of_ok
            dispatched
          exact .inr (same.1.trans (unreported.resolve_left ended))
      | scanAll => exact .inl (scanAll_over dispatched)
      | finish => exact .inl (finish_over dispatched)
      | abort =>
          rw [dispatch, fail, Session.update_eq_ok] at dispatched
          exact .inl (.inr (.inr (dispatched ▸ rfl)))
      | unknown text =>
          rw [dispatch, fail, Session.update_eq_ok] at dispatched
          exact .inl (.inr (.inr (dispatched ▸ rfl)))

theorem forget_unreported {session : ScanSession}
    (none : session.machine.data.report = none) :
    forget session = session := by
  obtain ⟨⟨state, data, guard⟩, log⟩ := session
  obtain ⟨vin, chassis, technician, modules, report, error⟩ := data
  cases none
  rfl

/-- Interrupting a scan never shows. -/
theorem shown_runSteps (steps : List (Guided.Step ScanEvent))
    (guarded : Bool) :
    shown (Guided.runSteps (handled world) resumed steps
        (newSession guarded)) =
      shown (Guided.runEvents (handled world) (Guided.events steps)
        (newSession guarded)) := by
  have overHandle : ∀ event (state other : ScanSession),
      state.machine.state.Over → other.machine.state.Over →
      forget state = forget other →
      ((handled world event state).machine.state.Over ∧
        (handled world event other).machine.state.Over) ∧
      forget (handled world event state) =
        forget (handled world event other) := by
    intro event state other ended overToo same
    have first : Forgets world event state := forgets_handled event ended
    have second : Forgets world event other := forgets_handled event overToo
    exact ⟨⟨first.ended, second.ended⟩, by rw [first.same, second.same, same]⟩
  have resumedOver : ∀ state : ScanSession, Unreported state → True →
      resumed state = state ∨
        (state.machine.state.Over ∧ (resumed state).machine.state.Over) ∧
          forget (resumed state) = forget state := by
    rintro state (ended | none) -
    · rw [resumed_eq]
      exact .inr ⟨⟨ended, ended⟩, rfl⟩
    · rw [resumed_eq]
      exact .inl (forget_unreported none)
  have soundResume : ∀ state : ScanSession, Unreported state →
      Unreported (resumed state) := by
    intro state _
    rw [resumed_eq]
    exact .inr rfl
  have always : Guided.ResumedWhen (handled world) resumed (fun _ => True)
      steps (newSession guarded) :=
    Guided.resumedWhen_of (fun _ => trivial) steps (newSession guarded)
  have same := Guided.runSteps_observe (unreported_handled world) soundResume
    overHandle resumedOver steps (newSession guarded) (.inr rfl) always
  exact congrArg (fun session => (session.machine.state,
    scanKinds.shown session.log)) same

end Scan

end Mousstec
