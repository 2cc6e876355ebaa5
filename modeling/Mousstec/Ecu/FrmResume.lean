import Mousstec.Ecu.FrmRecovery

/-!
# Interrupted recoveries

A recovery that is stored and continued goes on as it was, but the guard is
gone: a resumed session is neither asked for a grant nor counted.  Only a
session that had no guard, or was over, does not show the interruption.
-/

namespace Mousstec

namespace Frm

open Library

def frmKinds : Guided.Kinds frmInterface where
  hardware := FrmCall.isHardware
  consume := FrmCall.isConsume

/-- What a run shows: its state, the calls that reached the module, and how
many uses were counted. -/
abbrev shown : FrmSession →
    FrmState × List (Exchange frmInterface FrmRaised) × Nat :=
  Guided.shown frmStages frmKinds

def FrmState.Over (state : FrmState) : Prop :=
  state = .done ∨ state = .failed

theorem FrmState.Over.ne {state other : FrmState} (ended : state.Over)
    (running : other ≠ .done ∧ other ≠ .failed) : state ≠ other := by
  rintro rfl
  exact ended.elim running.1 running.2

def handled (world : World frmInterface FrmRaised) (event : FrmEvent)
    (session : FrmSession) : FrmSession :=
  (handle world event).final session

def resumed (session : FrmSession) : FrmSession :=
  (resume : FrmTxn PUnit).final session

theorem resumed_eq (session : FrmSession) :
    resumed session =
      { session with machine := { session.machine with guarded := false } } := by
  refine Txn.final_of_ok (?_ : resume session = .ok ⟨⟩ _)
  rw [resume, Txn.get_bind]
  refine Txn.bind_eq_ok.mpr ⟨_, session, ?_, rfl⟩
  exact Txn.expect_eq_ok.mpr ⟨restore_snapshot session.machine, rfl⟩

variable {world : World frmInterface FrmRaised}

def FrmMachine.Failed (machine : FrmMachine) : Prop :=
  machine.state = .failed

abbrev Refuses (block : FrmTxn PUnit) (before : FrmSession) : Prop :=
  Guided.Refuses frmKinds FrmMachine.Failed block before

abbrev Asked : FrmSession → FrmSession → Prop :=
  Session.Grows frmKinds.Quiet fun _ => ()

theorem failed_fail (fault : FrmFault) (machine : FrmMachine) :
    (machine.fail fault).Failed := rfl

theorem refuses_fail (fault : FrmFault) (before : FrmSession) :
    Refuses (fail fault) before :=
  Guided.refuses_update (failed_fail fault) before

theorem selectEntitled_follows (variant : FrmVariant)
    (vin technicianId : Option String) :
    Txn.Follows (selectEntitled variant vin technicianId) Asked :=
  Txn.follows_bind (Session.follows_update _ fun _ => rfl) fun _ =>
    Txn.follows_bind (Txn.follows_expect _ _) fun _ =>
    Txn.follows_bind (Session.follows_update _ fun _ => rfl) fun _ =>
    Txn.follows_bind (Txn.follows_expect _ _) fun _ =>
    Txn.follows_bind (Session.follows_update _ fun _ => rfl) fun _ =>
    Guided.advance_follows fun _ => rfl

theorem selectModel_follows (variant vin technicianId : Option String) :
    Txn.Follows (selectModel world variant vin technicianId) Asked := by
  refine Txn.follows_bind (Txn.follows_expect _ _) fun text =>
    Txn.follows_ite (Session.follows_update _ fun _ => rfl) ?_
  split
  · exact Session.follows_update _ fun _ => rfl
  · refine Txn.follows_bind Txn.follows_get fun _ =>
      Txn.follows_ite ?_ (selectEntitled_follows _ _ _)
    exact Txn.follows_bind (Session.follows_ask _ _ fun _ => ⟨rfl, rfl⟩) fun _ =>
      Txn.follows_ite (selectEntitled_follows _ _ _)
        (Session.follows_update _ fun _ => rfl)

/-- A selection gets through in an idle session only. -/
theorem selectEntitled_eq_ok {variant : FrmVariant}
    {vin technicianId : Option String} {before after : FrmSession}
    (returned : selectEntitled variant vin technicianId before =
      .ok ⟨⟩ after) : before.machine.state = .idle := by
  simp only [selectEntitled, payloadText, Session.update_bind,
    Txn.expect_bind_eq_ok] at returned
  obtain ⟨text, -, name, -, returned⟩ := returned
  obtain ⟨permitted, -⟩ := Guided.advance_eq_ok.mp returned
  change .modelSelected ∈ before.machine.state.allowed at permitted
  cases state : before.machine.state
  case idle => rfl
  all_goals
    rw [state] at permitted
    simp [FrmState.allowed] at permitted

theorem selectKnown_fails {variant : FrmVariant}
    {vin technicianId : Option String} {before after : FrmSession}
    (ended : before.machine.state.Over)
    (returned : selectKnown world variant vin technicianId before =
      .ok ⟨⟩ after) : after.machine.state = .failed := by
  have running : before.machine.state ≠ .idle := ended.ne (by decide)
  rw [selectKnown, Txn.get_bind] at returned
  split at returned
  · obtain ⟨entitled, -, returned⟩ := Session.ask_bind_eq_ok.mp returned
    split at returned
    · exact absurd (selectEntitled_eq_ok returned) running
    · rw [fail, Session.update_eq_ok] at returned
      subst returned
      rfl
  · exact absurd (selectEntitled_eq_ok returned) running

theorem refuses_selectModel {variant vin technicianId : Option String}
    {before : FrmSession} (ended : before.machine.state.Over) :
    Refuses (selectModel world variant vin technicianId) before := by
  refine ⟨selectModel_follows _ _ _ before, ?_⟩
  intro after returned
  obtain ⟨text, -, returned⟩ := Txn.expect_bind_eq_ok.mp returned
  split at returned
  · exact (refuses_fail _ before).fails after returned
  · cases named : FrmVariant.ofValue text with
    | none =>
        simp only [named] at returned
        exact (refuses_fail _ before).fails after returned
    | some variant =>
        simp only [named] at returned
        exact selectKnown_fails ended returned

theorem refuses_dispatch (event : FrmEvent) {before : FrmSession}
    (ended : before.machine.state.Over) :
    Refuses (dispatch world event) before := by
  cases event with
  | selectModel variant vin technicianId => exact refuses_selectModel ended
  | connectBdm => exact Guided.refuses_within (ended.ne (by decide))
  | readDflash => exact Guided.refuses_within (ended.ne (by decide))
  | analyze => exact Guided.refuses_within (ended.ne (by decide))
  | rebuild vin => exact Guided.refuses_within (ended.ne (by decide))
  | flashBack => exact Guided.refuses_within (ended.ne (by decide))
  | injectVoFa codes => exact Guided.refuses_within (ended.ne (by decide))
  | verify => exact Guided.refuses_within (ended.ne (by decide))
  | finish => exact Guided.refuses_within (ended.ne (by decide))
  | abort => exact refuses_fail _ before
  | unknown text => exact refuses_fail _ before

/-- An event of a session that is over fails it and shows nothing else. -/
theorem shown_handled (event : FrmEvent) (session : FrmSession)
    (ended : session.machine.state.Over) :
    shown (handled world event session) =
      (.failed, frmKinds.shown session.log) := by
  obtain ⟨failed, same⟩ := (refuses_dispatch event ended).recovering
    fun error => failed_fail (.raised error)
  exact Prod.ext failed same

/-- An interruption that does not cost a guard that is still needed. -/
def KeepsGuard (session : FrmSession) : Prop :=
  session.machine.guarded = false ∨ session.machine.state.Over

/-- Interrupting a recovery does not show, when it had no guard or was over
whenever it was interrupted. -/
theorem shown_runSteps (steps : List (Guided.Step FrmEvent))
    (session : FrmSession)
    (when : Guided.ResumedWhen (handled world) resumed KeepsGuard steps
      session) :
    shown (Guided.runSteps (handled world) resumed steps session) =
      shown (Guided.runEvents (handled world) (Guided.events steps)
        session) := by
  refine Guided.runSteps_shown FrmState.Over (fun _ _ => .failed)
    shown_handled (fun _ _ _ => .inr rfl) ?_ steps session when
  rintro session (unguarded | ended)
  · rw [resumed_eq, ← unguarded]
    exact .inl rfl
  · rw [resumed_eq]
    exact .inr ⟨ended, rfl⟩

end Frm

end Mousstec
