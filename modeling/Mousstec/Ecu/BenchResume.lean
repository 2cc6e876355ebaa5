import Mousstec.Ecu.BenchKeys

/-!
# Interrupted bench sessions

As with a recovery, everything of a bench session is stored but the guard: a
key that is programmed after a resumption is not counted.
-/

namespace Mousstec

namespace Bench

open Library

def benchKinds : Guided.Kinds benchInterface where
  hardware := BenchCall.isHardware
  consume := BenchCall.isConsume

/-- What a run shows: its state, the calls that reached the harness, and how
many uses were counted. -/
abbrev shown : BenchSession →
    BenchState × List (Exchange benchInterface BenchRaised) × Nat :=
  Guided.shown benchStages benchKinds

def BenchState.Over (state : BenchState) : Prop :=
  state = .done ∨ state = .failed

theorem BenchState.Over.ne {state other : BenchState} (ended : state.Over)
    (running : other ≠ .done ∧ other ≠ .failed) : state ≠ other := by
  rintro rfl
  exact ended.elim running.1 running.2

def answer : BenchEvent → BenchState → BenchState
  | .injectIsn _, state => state
  | _, _ => .failed

theorem answer_over (event : BenchEvent) {state : BenchState}
    (ended : state.Over) : (answer event state).Over := by
  cases event
  case injectIsn isn => exact ended
  all_goals exact .inr rfl

def handled (world : World benchInterface BenchRaised) (event : BenchEvent)
    (session : BenchSession) : BenchSession :=
  (handle world event).final session

def resumed (session : BenchSession) : BenchSession :=
  (resume : BenchTxn PUnit).final session

theorem resumed_eq (session : BenchSession) :
    resumed session =
      { session with machine := { session.machine with guarded := false } } := by
  refine Txn.final_of_ok (?_ : resume session = .ok ⟨⟩ _)
  rw [resume, Txn.get_bind]
  refine Txn.bind_eq_ok.mpr ⟨_, session, ?_, rfl⟩
  exact Txn.expect_eq_ok.mpr ⟨restore_snapshot session.machine, rfl⟩

variable {world : World benchInterface BenchRaised}

def BenchMachine.Failed (machine : BenchMachine) : Prop :=
  machine.state = .failed

abbrev Refuses (block : BenchTxn PUnit) (before : BenchSession) : Prop :=
  Guided.Refuses benchKinds BenchMachine.Failed block before

abbrev Asked : BenchSession → BenchSession → Prop :=
  Session.Grows benchKinds.Quiet fun _ => ()

theorem failed_fail (fault : BenchFault) (machine : BenchMachine) :
    (machine.fail fault).Failed := rfl

theorem refuses_fail (fault : BenchFault) (before : BenchSession) :
    Refuses (fail fault) before :=
  Guided.refuses_update (failed_fail fault) before

theorem selectEntitled_follows (family : ModuleFamily)
    (vin technicianId : Option String) :
    Txn.Follows (selectEntitled family vin technicianId) Asked :=
  Txn.follows_bind (Session.follows_update _ fun _ => rfl) fun _ =>
    Txn.follows_bind (Txn.follows_expect _ _) fun _ =>
    Txn.follows_bind (Session.follows_update _ fun _ => rfl) fun _ =>
    Txn.follows_bind (Txn.follows_expect _ _) fun _ =>
    Txn.follows_bind (Session.follows_update _ fun _ => rfl) fun _ =>
    Guided.advance_follows fun _ => rfl

theorem selectProfile_follows (family vin technicianId : Option String) :
    Txn.Follows (selectProfile world family vin technicianId) Asked := by
  refine Txn.follows_bind (Txn.follows_expect _ _) fun text =>
    Txn.follows_ite (Session.follows_update _ fun _ => rfl) ?_
  split
  · exact Session.follows_update _ fun _ => rfl
  · refine Txn.follows_bind Txn.follows_get fun _ =>
      Txn.follows_ite ?_ (selectEntitled_follows _ _ _)
    exact Txn.follows_bind (Session.follows_ask _ _ fun _ => ⟨rfl, rfl⟩) fun _ =>
      Txn.follows_ite (selectEntitled_follows _ _ _)
        (Session.follows_update _ fun _ => rfl)

/-- A selection gets through in an idle session only. -/
theorem selectEntitled_eq_ok {family : ModuleFamily}
    {vin technicianId : Option String} {before after : BenchSession}
    (returned : selectEntitled family vin technicianId before =
      .ok ⟨⟩ after) : before.machine.state = .idle := by
  simp only [selectEntitled, payloadText, Session.update_bind,
    Txn.expect_bind_eq_ok] at returned
  obtain ⟨text, -, name, -, returned⟩ := returned
  obtain ⟨permitted, -⟩ := Guided.advance_eq_ok.mp returned
  change .profileSelected ∈ before.machine.state.allowed at permitted
  cases state : before.machine.state
  case idle => rfl
  all_goals
    rw [state] at permitted
    simp [BenchState.allowed] at permitted

theorem selectKnown_fails {family : ModuleFamily}
    {vin technicianId : Option String} {before after : BenchSession}
    (ended : before.machine.state.Over)
    (returned : selectKnown world family vin technicianId before =
      .ok ⟨⟩ after) : after.machine.state = .failed := by
  have running : before.machine.state ≠ .idle := ended.ne (by decide)
  rw [selectKnown, Txn.get_bind] at returned
  split at returned
  · obtain ⟨entitled, -, returned⟩ := Session.ask_bind_eq_ok.mp returned
    split at returned
    · exact absurd (selectEntitled_eq_ok returned) running
    · rw [fail, Session.update_eq_ok] at returned
      subst returned
      rfl
  · exact absurd (selectEntitled_eq_ok returned) running

theorem refuses_selectProfile {family vin technicianId : Option String}
    {before : BenchSession} (ended : before.machine.state.Over) :
    Refuses (selectProfile world family vin technicianId) before := by
  refine ⟨selectProfile_follows _ _ _ before, ?_⟩
  intro after returned
  obtain ⟨text, -, returned⟩ := Txn.expect_bind_eq_ok.mp returned
  split at returned
  · exact (refuses_fail _ before).fails after returned
  · cases named : ModuleFamily.ofValue text with
    | none =>
        simp only [named] at returned
        exact (refuses_fail _ before).fails after returned
    | some family =>
        simp only [named] at returned
        exact selectKnown_fails ended returned

/-- Every event but an ISN that is handed in is refused. -/
theorem refuses_dispatch {event : BenchEvent}
    (asked : ∀ isn, event ≠ .injectIsn isn) {before : BenchSession}
    (ended : before.machine.state.Over) :
    Refuses (dispatch world event) before := by
  cases event with
  | selectProfile family vin technicianId => exact refuses_selectProfile ended
  | confirmWiring => exact Guided.refuses_within (ended.ne (by decide))
  | powerOn => exact Guided.refuses_within (ended.ne (by decide))
  | enterBench => exact Guided.refuses_within (ended.ne (by decide))
  | dumpNow => exact Guided.refuses_within (ended.ne (by decide))
  | extractIsn => exact Guided.refuses_within (ended.ne (by decide))
  | pickKeySlot occupied slot =>
      exact Guided.refuses_within (ended.ne (by decide))
  | burnKey seedHex => exact Guided.refuses_within (ended.ne (by decide))
  | verify => exact Guided.refuses_within (ended.ne (by decide))
  | finish => exact Guided.refuses_within (ended.ne (by decide))
  | abort => exact refuses_fail _ before
  | unknown text => exact refuses_fail _ before
  | injectIsn isn => exact absurd rfl (asked isn)

theorem handled_injectIsn {isn : List UInt8} {session : BenchSession}
    (ended : session.machine.state.Over) :
    handled world (.injectIsn isn) session = session := by
  have ignored : dispatch world (.injectIsn isn) session = .ok ⟨⟩ session := by
    rw [dispatch, injectIsn, Txn.get_bind, if_neg (ended.ne (by decide))]
    rfl
  exact Guided.final_recovering_of_ok ignored

/-- An event of a session that is over shows nothing but its answer. -/
theorem shown_handled (event : BenchEvent) (session : BenchSession)
    (ended : session.machine.state.Over) :
    shown (handled world event session) =
      (answer event session.machine.state, benchKinds.shown session.log) := by
  by_cases handedIn : ∃ isn, event = .injectIsn isn
  · obtain ⟨isn, rfl⟩ := handedIn
    rw [handled_injectIsn ended]
    rfl
  · rw [not_exists] at handedIn
    have refused := (refuses_dispatch handedIn ended : Refuses (dispatch world event) session)
    obtain ⟨failed, same⟩ := refused.recovering
      fun error => failed_fail (.raised error)
    refine Prod.ext (failed.trans ?_) same
    cases event
    case injectIsn isn => exact absurd rfl (handedIn isn)
    all_goals rfl

/-- An interruption that does not cost a guard that is still needed. -/
def KeepsGuard (session : BenchSession) : Prop :=
  session.machine.guarded = false ∨ session.machine.state.Over

/-- Interrupting a bench session does not show, when it had no guard or was
over whenever it was interrupted. -/
theorem shown_runSteps (steps : List (Guided.Step BenchEvent))
    (session : BenchSession)
    (when : Guided.ResumedWhen (handled world) resumed KeepsGuard steps
      session) :
    shown (Guided.runSteps (handled world) resumed steps session) =
      shown (Guided.runEvents (handled world) (Guided.events steps)
        session) := by
  refine Guided.runSteps_shown BenchState.Over answer shown_handled
    (fun event _ => answer_over event) ?_ steps session when
  rintro session (unguarded | ended)
  · rw [resumed_eq, ← unguarded]
    exact .inl rfl
  · rw [resumed_eq]
    exact .inr ⟨ended, rfl⟩

end Bench

end Mousstec
