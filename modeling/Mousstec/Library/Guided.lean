import Mousstec.Library.Transcript

/-!
# Guided sessions

A guided session walks through stages.  A table says which stage may follow
which, a step advances to its next stage or raises, and the handler of an event
turns whatever a step raises into a stage of its own.  Between two events the
session may be stored and continued from what was stored.
-/

namespace Library

namespace Guided

/-- Where a machine keeps its stage, and the table of the stages. -/
structure Stages (σ Stage ε : Type) where
  stage : σ → Stage
  enter : Stage → σ → σ
  allowed : Stage → List Stage
  illegal : Stage → Stage → ε

variable {I : Interface} {ε σ τ Stage Event : Type} [DecidableEq Stage]
  (stages : Stages σ Stage ε)

/-- Enters a stage that may follow the present one. -/
def advance (target : Stage) : Txn ε (Session I ε σ) PUnit := do
  let session ← get
  Txn.require (target ∈ stages.allowed (stages.stage session.machine))
    (stages.illegal (stages.stage session.machine) target)
  Session.update (stages.enter target)

/-- Raises unless the session is in a stage. -/
def within (stage : Stage) (refused : Stage → ε) :
    Txn ε (Session I ε σ) PUnit := do
  let session ← get
  Txn.require (stages.stage session.machine = stage)
    (refused (stages.stage session.machine))

variable {stages}

theorem advance_eq_ok {target : Stage} {session after : Session I ε σ} :
    advance stages target session = .ok ⟨⟩ after ↔
      target ∈ stages.allowed (stages.stage session.machine) ∧
        after = { session with
                  machine := stages.enter target session.machine } := by
  rw [advance, Txn.get_bind]
  simp only [Txn.bind_eq_ok, Txn.require_eq_ok, Session.update_eq_ok]
  constructor
  · rintro ⟨⟨⟩, _, ⟨permitted, rfl⟩, rfl⟩
    exact ⟨permitted, rfl⟩
  · rintro ⟨permitted, rfl⟩
    exact ⟨⟨⟩, session, ⟨permitted, rfl⟩, rfl⟩

theorem advance_eq_error {target : Stage} {error : ε}
    {session after : Session I ε σ}
    (failed : advance stages target session = .error error after) :
    target ∉ stages.allowed (stages.stage session.machine) ∧
      after = session := by
  rw [advance, Txn.get_bind] at failed
  rcases Txn.bind_eq_error.mp failed with failed | ⟨_, _, -, failed⟩
  · obtain ⟨refused, -, same⟩ := Txn.require_eq_error.mp failed
    exact ⟨refused, same.symm⟩
  · exact absurd failed Session.update_eq_error

theorem within_eq_ok {stage : Stage} {refused : Stage → ε}
    {session after : Session I ε σ} :
    within stages stage refused session = .ok ⟨⟩ after ↔
      stages.stage session.machine = stage ∧ session = after := by
  rw [within, Txn.get_bind, Txn.require_eq_ok]

theorem within_eq_error {stage : Stage} {refused : Stage → ε} {error : ε}
    {session after : Session I ε σ}
    (failed : within stages stage refused session = .error error after) :
    after = session := by
  rw [within, Txn.get_bind] at failed
  exact (Txn.require_eq_error.mp failed).2.2.symm

/-- A step out of its stage raises at its head. -/
theorem within_refuses {α : Type} {stage : Stage} {refused : Stage → ε}
    {next : PUnit → Txn ε (Session I ε σ) α} {session : Session I ε σ}
    (other : stages.stage session.machine ≠ stage) :
    ∃ error, (within stages stage refused >>= next) session =
      .error error session := by
  refine ⟨refused (stages.stage session.machine), ?_⟩
  refine Txn.bind_eq_error.mpr (.inl ?_)
  rw [within, Txn.get_bind]
  exact Txn.require_eq_error.mpr ⟨other, rfl, rfl⟩

/-- An advance keeps what does not depend on the stage. -/
theorem advance_follows {target : Stage} {view : σ → τ}
    {allowed : Exchange I ε → Prop}
    (kept : ∀ machine, view (stages.enter target machine) = view machine) :
    Txn.Follows (advance stages target) (Session.Grows allowed view) :=
  Txn.follows_bind Txn.follows_get fun _ =>
    Txn.follows_bind (Txn.follows_require _ _) fun _ =>
    Session.follows_update _ kept

theorem within_follows {stage : Stage} {refused : Stage → ε} {view : σ → τ}
    {allowed : Exchange I ε → Prop} :
    Txn.Follows (within stages stage refused)
      (Session.Grows allowed view) :=
  Txn.follows_bind Txn.follows_get fun _ => Txn.follows_require _ _

section Handlers

variable {ε' S α : Type}

/-- Carries out a step; what it raises is taken care of. -/
def recovering (step : Txn ε S α) (recover : ε → Txn ε' S α) :
    Txn ε' S α := do
  let outcome : Except ε α ← Txn.attempt step
  match outcome with
  | .ok value => pure value
  | .error error => recover error

variable {step : Txn ε S α} {recover : ε → Txn ε' S α} {before middle : S}

theorem recovering_of_ok {value : α}
    (returned : step before = .ok value middle) :
    recovering step recover before = .ok value middle :=
  Txn.bind_eq_ok.mpr ⟨.ok value, middle,
    Txn.attempt_eq_ok.mpr (.inl ⟨value, rfl, returned⟩), rfl⟩

theorem recovering_of_error {error : ε}
    (failed : step before = .error error middle) :
    recovering step recover before = recover error middle := by
  have attempted : (Txn.attempt step : Txn ε' S _) before =
      .ok (.error error) middle :=
    Txn.attempt_eq_ok.mpr (.inr ⟨error, rfl, failed⟩)
  rw [recovering]
  simp only [bind, EStateM.bind, attempted]

theorem final_recovering_of_ok {value : α}
    (returned : step before = .ok value middle) :
    (recovering step recover).final before = middle :=
  Txn.final_of_ok (recovering_of_ok returned)

theorem final_recovering_of_error {error : ε}
    (failed : step before = .error error middle) :
    (recovering step recover).final before =
      (recover error).final middle := by
  rw [Txn.final, recovering_of_error failed, Txn.final]

end Handlers

section Interrupted

variable {S : Type}

/-- What happens to a session: an event, or a stop and a later start. -/
inductive Step (Event : Type)
  | event (event : Event)
  | resume
  deriving DecidableEq

/-- The events of a run. -/
def events : List (Step Event) → List Event
  | [] => []
  | .event event :: steps => event :: events steps
  | .resume :: steps => events steps

variable (handle : Event → S → S) (resume : S → S)

/-- A run without interruptions. -/
def runEvents (list : List Event) (state : S) : S :=
  list.foldl (fun state event => handle event state) state

/-- A run with interruptions. -/
def runSteps : List (Step Event) → S → S
  | [], state => state
  | .event event :: steps, state => runSteps steps (handle event state)
  | .resume :: steps, state => runSteps steps (resume state)

/-- Every interruption of the run finds the session as a condition asks. -/
def ResumedWhen (meets : S → Prop) : List (Step Event) → S → Prop
  | [], _ => True
  | .event event :: steps, state => ResumedWhen meets steps (handle event state)
  | .resume :: steps, state =>
      meets state ∧ ResumedWhen meets steps (resume state)

variable {handle resume}

/-- A condition that always holds is no condition. -/
theorem resumedWhen_of {meets : S → Prop} (always : ∀ state, meets state)
    (steps : List (Step Event)) (state : S) :
    ResumedWhen handle resume meets steps state := by
  induction steps generalizing state with
  | nil => trivial
  | cons step steps induction =>
      cases step with
      | event event => exact induction (handle event state)
      | resume => exact ⟨always state, induction (resume state)⟩

/-- An interruption does not show when it either changes nothing or finds the
session over, where what an event does depends on what shows only. -/
theorem runSteps_observe {O : Type} {sound meets ended : S → Prop}
    {observe : S → O}
    (soundHandle : ∀ event state, sound state → sound (handle event state))
    (soundResume : ∀ state, sound state → sound (resume state))
    (overHandle : ∀ event state other, ended state → ended other →
      observe state = observe other →
      (ended (handle event state) ∧ ended (handle event other)) ∧
        observe (handle event state) = observe (handle event other))
    (resumed : ∀ state, sound state → meets state → resume state = state ∨
      (ended state ∧ ended (resume state)) ∧
        observe (resume state) = observe state)
    (steps : List (Step Event)) (state : S) (holds : sound state)
    (when : ResumedWhen handle resume meets steps state) :
    observe (runSteps handle resume steps state) =
      observe (runEvents handle (events steps) state) := by
  suffices alike : ∀ other, state = other ∨ (ended state ∧ ended other) ∧
      observe state = observe other →
      observe (runSteps handle resume steps state) =
        observe (runEvents handle (events steps) other) from
    alike state (.inl rfl)
  induction steps generalizing state with
  | nil =>
      rintro other (rfl | ⟨-, same⟩)
      · rfl
      · exact same
  | cons step steps induction =>
      intro other alike
      cases step with
      | event event =>
          refine induction (handle event state) (soundHandle event state holds)
            when (handle event other) ?_
          rcases alike with rfl | ⟨⟨first, second⟩, same⟩
          · exact .inl rfl
          · exact .inr (overHandle event state other first second same)
      | resume =>
          obtain ⟨met, when⟩ := when
          refine induction (resume state) (soundResume state holds) when other ?_
          rcases alike with rfl | ⟨⟨first, second⟩, same⟩
          · exact (resumed state holds met).imp_right fun ⟨⟨before, after⟩,
              shown⟩ => ⟨⟨after, before⟩, shown⟩
          · rcases resumed state holds met with stayed | ⟨⟨-, after⟩, shown⟩
            · rw [stayed]
              exact .inr ⟨⟨first, second⟩, same⟩
            · exact .inr ⟨⟨after, second⟩, shown.trans same⟩

end Interrupted

/-- Which calls reach the hardware, and which are counted as a use. -/
structure Kinds (I : Interface) where
  hardware : I.Call → Bool
  consume : I.Call → Bool

namespace Kinds

/-- A call that neither reaches the hardware nor is counted. -/
def Quiet (kinds : Kinds I) (exchange : Exchange I ε) : Prop :=
  kinds.hardware exchange.call = false ∧ kinds.consume exchange.call = false

/-- The calls of a transcript that reached the hardware, and the number of
uses that were counted. -/
def shown (kinds : Kinds I) (log : List (Exchange I ε)) :
    List (Exchange I ε) × Nat :=
  (log.filter fun exchange => kinds.hardware exchange.call,
    log.countP fun exchange => kinds.consume exchange.call)

/-- Quiet calls do not show. -/
theorem shown_append {kinds : Kinds I} {log added : List (Exchange I ε)}
    (quiet : ∀ exchange ∈ added, kinds.Quiet exchange) :
    kinds.shown (log ++ added) = kinds.shown log := by
  have unseen : added.filter (fun exchange => kinds.hardware exchange.call) =
      [] := by
    rw [List.filter_eq_nil_iff]
    intro exchange member
    rw [(quiet exchange member).1]
    decide
  have uncounted : added.countP (fun exchange => kinds.consume exchange.call) =
      0 := by
    rw [List.countP_eq_zero]
    intro exchange member
    rw [(quiet exchange member).2]
    decide
  rw [shown, List.filter_append, List.countP_append, unseen, uncounted,
    List.append_nil, Nat.add_zero]
  rfl

end Kinds

section Over

variable {kinds : Kinds I} {failed : σ → Prop}

/-- A block that makes quiet calls at most, and fails if it returns. -/
structure Refuses (kinds : Kinds I) (failed : σ → Prop)
    (block : Txn ε (Session I ε σ) PUnit) (before : Session I ε σ) : Prop where
  quiet : Session.Grows kinds.Quiet (fun _ => ()) before (block.final before)
  fails : ∀ after, block before = .ok ⟨⟩ after → failed after.machine

/-- A step out of its stage is refused. -/
theorem refuses_within {stage : Stage} {refused : Stage → ε}
    {next : PUnit → Txn ε (Session I ε σ) PUnit} {before : Session I ε σ}
    (other : stages.stage before.machine ≠ stage) :
    Refuses kinds failed (within stages stage refused >>= next) before := by
  obtain ⟨error, raised⟩ : ∃ error,
      (within stages stage refused >>= next) before = .error error before :=
    within_refuses other
  constructor
  · rw [Txn.final_of_error raised]
    exact Std.Refl.refl before
  · intro after returned
    rw [raised] at returned
    cases returned

theorem refuses_update {change : σ → σ}
    (fails : ∀ machine, failed (change machine)) (before : Session I ε σ) :
    Refuses kinds failed (Session.update change) before := by
  refine ⟨Session.follows_update change (fun _ => rfl) before, ?_⟩
  intro after returned
  rw [Session.update_eq_ok] at returned
  rw [← returned]
  exact fails before.machine

/-- A refused step fails the session when what it raises does, and shows
nothing else. -/
theorem Refuses.recovering {block : Txn ε (Session I ε σ) PUnit}
    {recover : ε → σ → σ} {before : Session I ε σ}
    (refuses : Refuses kinds failed block before)
    (fails : ∀ error machine, failed (recover error machine)) :
    let after := (recovering block fun error =>
      (Session.update (recover error) : Txn ε (Session I ε σ) PUnit)).final before
    failed after.machine ∧ kinds.shown after.log = kinds.shown before.log := by
  obtain ⟨⟨-, added, log, quiet⟩, failing⟩ := refuses
  cases called : block before with
  | ok value middle =>
      rw [Txn.final_of_ok called] at log
      simp only [final_recovering_of_ok called]
      rw [log]
      exact ⟨failing middle called, Kinds.shown_append quiet⟩
  | error error middle =>
      rw [Txn.final_of_error called] at log
      simp only [final_recovering_of_error called]
      refine ⟨fails error middle.machine, ?_⟩
      change kinds.shown middle.log = _
      rw [log]
      exact Kinds.shown_append quiet

end Over

/-- What a run shows: its stage, the calls that reached the hardware, and how
many uses were counted. -/
def shown (stages : Stages σ Stage ε) (kinds : Kinds I)
    (session : Session I ε σ) : Stage × List (Exchange I ε) × Nat :=
  (stages.stage session.machine, kinds.shown session.log)

omit [DecidableEq Stage] in
/-- Interruptions do not show, when each of them changes nothing or finds the
session over: in a stage where an event shows nothing but its answer. -/
theorem runSteps_shown {kinds : Kinds I}
    {handle : Event → Session I ε σ → Session I ε σ}
    {resume : Session I ε σ → Session I ε σ}
    {meets : Session I ε σ → Prop} (ended : Stage → Prop)
    (answer : Event → Stage → Stage)
    (answers : ∀ event session, ended (stages.stage session.machine) →
      shown stages kinds (handle event session) =
        (answer event (stages.stage session.machine), kinds.shown session.log))
    (stays : ∀ event stage, ended stage → ended (answer event stage))
    (resumed : ∀ session, meets session → resume session = session ∨
      ended (stages.stage session.machine) ∧
        shown stages kinds (resume session) = shown stages kinds session)
    (steps : List (Step Event)) (session : Session I ε σ)
    (when : ResumedWhen handle resume meets steps session) :
    shown stages kinds (runSteps handle resume steps session) =
      shown stages kinds (runEvents handle (events steps) session) := by
  have overHandle : ∀ event (state other : Session I ε σ),
      ended (stages.stage state.machine) → ended (stages.stage other.machine) →
      shown stages kinds state = shown stages kinds other →
      (ended (stages.stage (handle event state).machine) ∧
        ended (stages.stage (handle event other).machine)) ∧
      shown stages kinds (handle event state) =
        shown stages kinds (handle event other) := by
    intro event state other first second same
    obtain ⟨stage, log⟩ := Prod.mk.inj same
    have one := answers event state first
    have two := answers event other second
    have oneStage : stages.stage (handle event state).machine = _ :=
      congrArg Prod.fst one
    have twoStage : stages.stage (handle event other).machine = _ :=
      congrArg Prod.fst two
    refine ⟨⟨?_, ?_⟩, ?_⟩
    · rw [oneStage]
      exact stays event _ first
    · rw [twoStage]
      exact stays event _ second
    · rw [one, two, stage, log]
  have resumedOver : ∀ state : Session I ε σ, True → meets state →
      resume state = state ∨
        (ended (stages.stage state.machine) ∧
          ended (stages.stage (resume state).machine)) ∧
        shown stages kinds (resume state) = shown stages kinds state := by
    intro state _ met
    rcases resumed state met with stayed | ⟨finished, same⟩
    · exact .inl stayed
    · refine .inr ⟨⟨finished, ?_⟩, same⟩
      rw [(Prod.mk.inj same).1]
      exact finished
  exact runSteps_observe (fun _ _ _ => trivial) (fun _ _ => trivial) overHandle
    resumedOver steps session trivial when

end Guided

end Library
