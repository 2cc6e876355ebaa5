import Mousstec.Library.Transaction

/-!
# Runs

A run carries out a list of operations one after the other.  An operation may
raise; the run goes on from the state it leaves.  When every operation leaves
nothing behind on an error, a property that every accepted operation keeps
holds after every run.
-/

namespace Library

namespace Txn

variable {Op ε σ : Type}

/-- The state after a run. -/
def after (run : Op → Txn ε σ PUnit) : List Op → σ → σ
  | [], state => state
  | op :: ops, state => after run ops ((run op).final state)

/-- Every operation of the run that is accepted meets a condition on the state
before it. -/
def Throughout (run : Op → Txn ε σ PUnit) (meets : Op → σ → Prop) :
    List Op → σ → Prop
  | [], _ => True
  | op :: ops, state =>
      ((∃ final, run op state = .ok ⟨⟩ final) → meets op state) ∧
        Throughout run meets ops ((run op).final state)

/-- Every operation of a run is checked on the state before it. -/
def checks (run : Op → Txn ε σ PUnit) (meets : Op → σ → Prop)
    [∀ op state, Decidable (meets op state)] : List Op → σ → Bool
  | [], _ => true
  | op :: ops, state =>
      decide (meets op state) && checks run meets ops ((run op).final state)

variable {run : Op → Txn ε σ PUnit}

theorem throughout_of_checks {meets : Op → σ → Prop}
    [∀ op state, Decidable (meets op state)] {ops : List Op} {state : σ}
    (checked : checks run meets ops state = true) :
    Throughout run meets ops state := by
  induction ops generalizing state with
  | nil => trivial
  | cons op ops induction =>
      rw [checks, Bool.and_eq_true] at checked
      exact ⟨fun _ => of_decide_eq_true checked.1, induction checked.2⟩

theorem after_append (first second : List Op) (state : σ) :
    after run (first ++ second) state =
      after run second (after run first state) := by
  induction first generalizing state with
  | nil => rfl
  | cons op ops induction => exact induction _

theorem throughout_append {meets : Op → σ → Prop} {first second : List Op}
    {state : σ} : Throughout run meets (first ++ second) state ↔
      Throughout run meets first state ∧
        Throughout run meets second (after run first state) := by
  induction first generalizing state with
  | nil => simp [Throughout, after]
  | cons op ops induction =>
      rw [List.cons_append, Throughout, induction, Throughout, after, and_assoc]

/-- The run rule under a condition on the accepted operations. -/
theorem after_of_throughout {meets : Op → σ → Prop} (invariant : σ → Prop)
    (rollsBack : ∀ op, RollsBack (run op))
    (step : ∀ op before final, invariant before → meets op before →
      run op before = .ok ⟨⟩ final → invariant final) :
    ∀ ops state, invariant state → Throughout run meets ops state →
      invariant (after run ops state) := by
  intro ops
  induction ops with
  | nil =>
      intro state holds _
      exact holds
  | cons op ops induction =>
      intro state holds throughout
      obtain ⟨met, rest⟩ := throughout
      refine induction _ ?_ rest
      apply final_of invariant
      · rintro ⟨⟩ final returned
        exact step op state final holds (met ⟨final, returned⟩) returned
      · intro error final failed
        rw [rollsBack op state error final failed]
        exact holds

theorem throughout_true (ops : List Op) (state : σ) :
    Throughout run (fun _ _ => True) ops state := by
  induction ops generalizing state with
  | nil => trivial
  | cons op ops induction => exact ⟨fun _ => trivial, induction _⟩

theorem throughout_and {meets : Op → σ → Prop} {holds : Op → Prop}
    {ops : List Op} {state : σ} (throughout : Throughout run meets ops state)
    (all : ∀ op ∈ ops, holds op) :
    Throughout run (fun op state => holds op ∧ meets op state) ops state := by
  induction ops generalizing state with
  | nil => trivial
  | cons op ops induction =>
      obtain ⟨met, rest⟩ := throughout
      refine ⟨fun accepted => ⟨all op List.mem_cons_self, met accepted⟩, ?_⟩
      exact induction rest fun other member =>
        all other (List.mem_cons_of_mem op member)

/-- The run rule. -/
theorem after_invariant (invariant : σ → Prop)
    (rollsBack : ∀ op, RollsBack (run op))
    (step : ∀ op before final, invariant before →
      run op before = .ok ⟨⟩ final → invariant final)
    (ops : List Op) {state : σ} (holds : invariant state) :
    invariant (after run ops state) :=
  after_of_throughout invariant rollsBack
    (fun op before final kept _ => step op before final kept) ops state holds
    (throughout_true ops state)

end Txn

end Library
