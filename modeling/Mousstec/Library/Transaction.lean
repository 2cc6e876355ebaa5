import Mathlib.Tactic.Common

/-!
# Transactions

A transaction is a state-passing computation that may raise an error.  The
state survives an error, as it does in a program that writes before it fails;
`atomic` is the block that rolls its writes back.  The inversion lemmas say
when a composite returns and when it raises, so that a proof about a
procedure follows its statements without unfolding the monad.
-/

namespace Library

universe u

/-- A computation over a state `σ` that returns a value or raises an `ε`. -/
abbrev Txn (ε σ : Type u) (α : Type u) := EStateM ε σ α

namespace Txn

variable {ε ε' σ α β : Type u}

/-- Raises an error unless a check holds. -/
def require (check : Prop) [Decidable check] (error : ε) :
    Txn ε σ PUnit :=
  if check then pure ⟨⟩ else throw error

/-- The value of an option, or an error when there is none. -/
def expect (value : Option α) (error : ε) : Txn ε σ α :=
  match value with
  | some found => pure found
  | none => throw error

/-- Runs a block whose writes are undone when it raises. -/
def atomic (block : Txn ε σ α) : Txn ε σ α := fun state =>
  match block state with
  | .ok value final => .ok value final
  | .error error _ => .error error state

/-- Runs a block and hands its error to the caller as a value. -/
def attempt (block : Txn ε σ α) : Txn ε' σ (Except ε α) := fun state =>
  match block state with
  | .ok value final => .ok (.ok value) final
  | .error error final => .ok (.error error) final

/-- Raises another error where a block raises. -/
def mapError (change : ε → ε') (block : Txn ε σ α) : Txn ε' σ α := fun state =>
  match block state with
  | .ok value final => .ok value final
  | .error error final => .error (change error) final

/-- The state a transaction leaves behind, whether it returns or raises. -/
def final (block : Txn ε σ α) (state : σ) : σ :=
  match block state with
  | .ok _ final => final
  | .error _ final => final

/-- The value a transaction returns, if it does. -/
def result? (block : Txn ε σ α) (state : σ) : Option α :=
  match block state with
  | .ok value _ => some value
  | .error _ _ => none

/-- What holds after every return and every raise holds of the final state. -/
theorem final_of {block : Txn ε σ α} {state : σ} (holds : σ → Prop)
    (returns : ∀ value final, block state = .ok value final → holds final)
    (raises : ∀ error final, block state = .error error final → holds final) :
    holds (block.final state) := by
  unfold final
  cases called : block state with
  | ok value middle => exact returns value middle called
  | error error middle => exact raises error middle called

@[simp] theorem pure_eq_ok {value result : α} {state final : σ} :
    (pure value : Txn ε σ α) state = .ok result final ↔
      value = result ∧ state = final := by
  change EStateM.Result.ok value state = _ ↔ _
  simp

@[simp] theorem throw_eq_ok {error : ε} {result : α} {state final : σ} :
    ¬ (throw error : Txn ε σ α) state = .ok result final := by
  intro returned
  cases returned

@[simp] theorem get_eq_ok {state result final : σ} :
    (get : Txn ε σ σ) state = .ok result final ↔
      state = result ∧ state = final := by
  change EStateM.Result.ok state state = _ ↔ _
  simp

@[simp] theorem set_eq_ok {written state final : σ} {result : PUnit} :
    (set written : Txn ε σ PUnit) state = .ok result final ↔
      written = final := by
  change EStateM.Result.ok PUnit.unit written = _ ↔ _
  simp

@[simp] theorem modify_eq_ok {change : σ → σ} {state final : σ}
    {result : PUnit} :
    (modify change : Txn ε σ PUnit) state = .ok result final ↔
      change state = final := by
  change EStateM.Result.ok PUnit.unit (change state) = _ ↔ _
  simp

theorem bind_eq_ok {first : Txn ε σ α} {next : α → Txn ε σ β} {result : β}
    {state final : σ} :
    (first >>= next) state = .ok result final ↔
      ∃ value middle, first state = .ok value middle ∧
        next value middle = .ok result final := by
  change EStateM.bind first next state = _ ↔ _
  unfold EStateM.bind
  cases first state with
  | ok value middle => simp
  | error error middle => simp

theorem get_bind (next : σ → Txn ε σ β) (state : σ) :
    (get >>= next) state = next state state := rfl

@[simp] theorem require_eq_ok {check : Prop} [Decidable check] {error : ε}
    {result : PUnit} {state final : σ} :
    (require check error : Txn ε σ PUnit) state = .ok result final ↔
      check ∧ state = final := by
  unfold require
  split
  · rename_i holds
    simp [holds]
  · rename_i fails
    simp [fails]

@[simp] theorem expect_eq_ok {value : Option α} {error : ε} {result : α}
    {state final : σ} :
    (expect value error : Txn ε σ α) state = .ok result final ↔
      value = some result ∧ state = final := by
  cases value with
  | none => simp [expect]
  | some found => simp [expect]

theorem set_bind (written : σ) (next : PUnit → Txn ε σ β) (state : σ) :
    (set written >>= next) state = next ⟨⟩ written := rfl

theorem modify_bind (change : σ → σ) (next : PUnit → Txn ε σ β) (state : σ) :
    (modify change >>= next) state = next ⟨⟩ (change state) := rfl

/-- A check that is passed leaves the state to what comes next. -/
theorem require_bind_eq_ok {check : Prop} [Decidable check] {error : ε}
    {next : PUnit → Txn ε σ β} {result : β} {state final : σ} :
    (require check error >>= next) state = .ok result final ↔
      check ∧ next ⟨⟩ state = .ok result final := by
  constructor
  · intro returned
    obtain ⟨⟨⟩, _, passed, rest⟩ := bind_eq_ok.mp returned
    obtain ⟨holds, rfl⟩ := require_eq_ok.mp passed
    exact ⟨holds, rest⟩
  · rintro ⟨holds, rest⟩
    exact bind_eq_ok.mpr ⟨⟨⟩, state, require_eq_ok.mpr ⟨holds, rfl⟩, rest⟩

theorem expect_bind_eq_ok {value : Option α} {error : ε} {next : α → Txn ε σ β}
    {result : β} {state final : σ} :
    (expect value error >>= next) state = .ok result final ↔
      ∃ found, value = some found ∧ next found state = .ok result final := by
  simp [bind_eq_ok, and_assoc]

@[simp] theorem atomic_eq_ok {block : Txn ε σ α} {result : α}
    {state final : σ} :
    atomic block state = .ok result final ↔ block state = .ok result final := by
  unfold atomic
  cases block state with
  | ok value middle => simp
  | error error middle => simp

@[simp] theorem mapError_eq_ok {change : ε → ε'} {block : Txn ε σ α}
    {result : α} {state final : σ} :
    mapError change block state = .ok result final ↔
      block state = .ok result final := by
  unfold mapError
  cases block state with
  | ok value middle => simp
  | error error middle => simp

theorem attempt_eq_ok {block : Txn ε σ α} {result : Except ε α}
    {state final : σ} :
    (attempt block : Txn ε' σ _) state = .ok result final ↔
      (∃ value, result = .ok value ∧ block state = .ok value final) ∨
        ∃ error, result = .error error ∧ block state = .error error final := by
  unfold attempt
  cases block state with
  | ok value middle => simp [eq_comm]
  | error error middle => simp [eq_comm]

@[simp] theorem pure_eq_error {value : α} {raised : ε} {state final : σ} :
    ¬ (pure value : Txn ε σ α) state = .error raised final := by
  intro failed
  cases failed

@[simp] theorem throw_eq_error {error raised : ε} {state final : σ} :
    (throw error : Txn ε σ α) state = .error raised final ↔
      error = raised ∧ state = final := by
  change EStateM.Result.error error state = _ ↔ _
  simp

@[simp] theorem get_eq_error {raised : ε} {state final : σ} :
    ¬ (get : Txn ε σ σ) state = .error raised final := by
  intro failed
  cases failed

@[simp] theorem set_eq_error {written state final : σ} {raised : ε} :
    ¬ (set written : Txn ε σ PUnit) state = .error raised final := by
  intro failed
  cases failed

@[simp] theorem modify_eq_error {change : σ → σ} {state final : σ}
    {raised : ε} :
    ¬ (modify change : Txn ε σ PUnit) state = .error raised final := by
  intro failed
  cases failed

theorem bind_eq_error {first : Txn ε σ α} {next : α → Txn ε σ β} {raised : ε}
    {state final : σ} :
    (first >>= next) state = .error raised final ↔
      first state = .error raised final ∨
        ∃ value middle, first state = .ok value middle ∧
          next value middle = .error raised final := by
  change EStateM.bind first next state = _ ↔ _
  unfold EStateM.bind
  cases first state with
  | ok value middle => simp
  | error error middle => simp

@[simp] theorem require_eq_error {check : Prop} [Decidable check]
    {error raised : ε} {state final : σ} :
    (require check error : Txn ε σ PUnit) state = .error raised final ↔
      ¬ check ∧ error = raised ∧ state = final := by
  unfold require
  split
  · rename_i holds
    simp [holds]
  · rename_i fails
    simp [fails]

@[simp] theorem expect_eq_error {value : Option α} {error raised : ε}
    {state final : σ} :
    (expect value error : Txn ε σ α) state = .error raised final ↔
      value = none ∧ error = raised ∧ state = final := by
  cases value with
  | none => simp [expect]
  | some found => simp [expect]

/-- A block that raises leaves nothing behind. -/
theorem atomic_eq_error {block : Txn ε σ α} {raised : ε} {state final : σ} :
    atomic block state = .error raised final ↔
      final = state ∧ ∃ middle, block state = .error raised middle := by
  unfold atomic
  cases block state with
  | ok value middle => simp
  | error error middle => simp [and_comm, eq_comm]

@[simp] theorem attempt_eq_error {block : Txn ε σ α} {raised : ε'}
    {state final : σ} :
    ¬ (attempt block : Txn ε' σ _) state = .error raised final := by
  unfold attempt
  cases block state with
  | ok value middle => simp
  | error error middle => simp

theorem final_of_ok {block : Txn ε σ α} {value : α} {state final : σ}
    (returned : block state = .ok value final) : block.final state = final := by
  rw [Txn.final, returned]

theorem eq_ok_of_result? {block : Txn ε σ α} {value : α} {state : σ}
    (returned : block.result? state = some value) :
    block state = .ok value (block.final state) := by
  unfold result? at returned
  unfold final
  cases called : block state with
  | ok result middle =>
      rw [called, Option.some.injEq] at returned
      rw [returned]
  | error error middle => simp [called] at returned

theorem final_of_error {block : Txn ε σ α} {error : ε} {state final : σ}
    (failed : block state = .error error final) : block.final state = final := by
  rw [Txn.final, failed]

theorem final_bind_of_ok {first : Txn ε σ α} {next : α → Txn ε σ β}
    {value : α} {state middle : σ} (returned : first state = .ok value middle) :
    final (first >>= next) state = (next value).final middle := by
  change (match EStateM.bind first next state with
    | .ok _ final => final
    | .error _ final => final) = _
  rw [EStateM.bind, returned]
  rfl

theorem final_bind_of_error {first : Txn ε σ α} {next : α → Txn ε σ β}
    {error : ε} {state middle : σ}
    (failed : first state = .error error middle) :
    final (first >>= next) state = middle := by
  change (match EStateM.bind first next state with
    | .ok _ final => final
    | .error _ final => final) = _
  rw [EStateM.bind, failed]

/-- Computing a result from a returned value writes nothing. -/
theorem final_bind_pure {first : Txn ε σ α} {result : α → β} {state : σ} :
    final (first >>= fun value => pure (result value)) state =
      first.final state := by
  cases called : first state with
  | ok value middle => rw [final_bind_of_ok called, final_of_ok called]; rfl
  | error error middle =>
      rw [final_bind_of_error called, final_of_error called]

/-- A block that only looks at the state. -/
def Reads (block : Txn ε σ α) : Prop :=
  ∀ state value final, block state = .ok value final → final = state

/-- A block that leaves nothing behind when it raises. -/
def RollsBack (block : Txn ε σ α) : Prop :=
  ∀ state error final, block state = .error error final → final = state

theorem reads_get : Reads (get : Txn ε σ σ) :=
  fun _ _ _ returned => (get_eq_ok.mp returned).2.symm

theorem reads_pure (value : α) : Reads (pure value : Txn ε σ α) :=
  fun _ _ _ returned => (pure_eq_ok.mp returned).2.symm

theorem reads_require (check : Prop) [Decidable check] (error : ε) :
    Reads (require check error : Txn ε σ PUnit) :=
  fun _ _ _ returned => (require_eq_ok.mp returned).2.symm

theorem reads_expect (value : Option α) (error : ε) :
    Reads (expect value error : Txn ε σ α) :=
  fun _ _ _ returned => (expect_eq_ok.mp returned).2.symm

theorem reads_bind {first : Txn ε σ α} {next : α → Txn ε σ β}
    (reads : Reads first) (later : ∀ value, Reads (next value)) :
    Reads (first >>= next) := by
  intro state value final returned
  obtain ⟨found, middle, called, continued⟩ := bind_eq_ok.mp returned
  exact (later found middle value final continued).trans
    (reads state found middle called)

theorem rollsBack_get : RollsBack (get : Txn ε σ σ) :=
  fun _ _ _ failed => (get_eq_error failed).elim

theorem rollsBack_pure (value : α) : RollsBack (pure value : Txn ε σ α) :=
  fun _ _ _ failed => (pure_eq_error failed).elim

theorem rollsBack_throw (error : ε) : RollsBack (throw error : Txn ε σ α) :=
  fun _ _ _ failed => (throw_eq_error.mp failed).2.symm

theorem rollsBack_require (check : Prop) [Decidable check] (error : ε) :
    RollsBack (require check error : Txn ε σ PUnit) :=
  fun _ _ _ failed => (require_eq_error.mp failed).2.2.symm

theorem rollsBack_expect (value : Option α) (error : ε) :
    RollsBack (expect value error : Txn ε σ α) :=
  fun _ _ _ failed => (expect_eq_error.mp failed).2.2.symm

theorem rollsBack_atomic (block : Txn ε σ α) : RollsBack (atomic block) :=
  fun _ _ _ failed => (atomic_eq_error.mp failed).1

/-- Looking at the state first keeps a block all or nothing. -/
theorem rollsBack_bind {first : Txn ε σ α} {next : α → Txn ε σ β}
    (reads : Reads first) (rollsBack : RollsBack first)
    (later : ∀ value, RollsBack (next value)) : RollsBack (first >>= next) := by
  intro state error final failed
  rcases bind_eq_error.mp failed with failed | ⟨value, middle, called, failed⟩
  · exact rollsBack state error final failed
  · exact (later value middle error final failed).trans
      (reads state value middle called)

/-- So does computing a result from what the block returns. -/
theorem rollsBack_map {first : Txn ε σ α} {result : α → β}
    (rollsBack : RollsBack first) :
    RollsBack (first >>= fun value => pure (result value)) := by
  intro state error final failed
  rcases bind_eq_error.mp failed with failed | ⟨_, _, _, failed⟩
  · exact rollsBack state error final failed
  · exact (pure_eq_error failed).elim

/-- What every iteration of a loop preserves, the whole loop preserves. -/
theorem forM_invariant {body : α → Txn ε σ PUnit} (invariant : σ → Prop)
    {items : List α}
    (step : ∀ item ∈ items, ∀ before after, invariant before →
      body item before = .ok ⟨⟩ after → invariant after) :
    ∀ {state final : σ}, invariant state →
      forM items body state = .ok ⟨⟩ final → invariant final := by
  induction items with
  | nil =>
      intro state final holds returned
      rw [List.forM_nil, pure_eq_ok] at returned
      exact returned.2 ▸ holds
  | cons item items induction =>
      intro state final holds returned
      rw [List.forM_cons, bind_eq_ok] at returned
      obtain ⟨⟨⟩, middle, first, rest⟩ := returned
      apply induction
      · intro later member
        exact step later (List.mem_cons_of_mem _ member)
      · exact step item List.mem_cons_self state middle holds first
      · exact rest

/-- A loop over a body that never raises never raises. -/
theorem forM_returns {body : α → Txn ε σ PUnit} {items : List α}
    (returns : ∀ item ∈ items, ∀ state, ∃ final,
      body item state = .ok ⟨⟩ final) (state : σ) :
    ∃ final, forM items body state = .ok ⟨⟩ final := by
  induction items generalizing state with
  | nil => exact ⟨state, rfl⟩
  | cons item items induction =>
      obtain ⟨middle, first⟩ := returns item List.mem_cons_self state
      obtain ⟨final, rest⟩ := induction
        (fun later member => returns later (List.mem_cons_of_mem _ member))
        middle
      refine ⟨final, ?_⟩
      rw [List.forM_cons, bind_eq_ok]
      exact ⟨⟨⟩, middle, first, rest⟩

/-- A loop of plain updates is a fold. -/
theorem forM_modify (items : List α) (change : α → σ → σ) (state : σ) :
    (forM items fun item => (modify (change item) : Txn ε σ PUnit)) state =
      .ok ⟨⟩ (items.foldl (fun current item => change item current) state) := by
  induction items generalizing state with
  | nil => rfl
  | cons item items induction =>
      rw [List.forM_cons, List.foldl_cons, ← induction]
      rfl

end Txn

/-- A component of a larger state. -/
structure Component (σ τ : Type u) where
  get : σ → τ
  set : τ → σ → σ
  get_set : ∀ part whole, get (set part whole) = part
  set_get : ∀ whole, set (get whole) whole = whole

namespace Txn

variable {ε ε' σ τ α : Type u}

/-- Runs a transaction on a component, renaming its errors. -/
def zoom (component : Component σ τ) (wrap : ε → ε') (block : Txn ε τ α) :
    Txn ε' σ α := fun state =>
  match block (component.get state) with
  | .ok value part => .ok value (component.set part state)
  | .error error part => .error (wrap error) (component.set part state)

theorem zoom_eq_ok {component : Component σ τ} {wrap : ε → ε'}
    {block : Txn ε τ α} {result : α} {state final : σ} :
    zoom component wrap block state = .ok result final ↔
      ∃ part, block (component.get state) = .ok result part ∧
        final = component.set part state := by
  unfold zoom
  cases block (component.get state) with
  | ok value part => simp [eq_comm]
  | error error part => simp

/-- Attempting a block on a component never fails, and leaves the component
where the block left it. -/
theorem attempt_zoom {ε'' : Type u} (component : Component σ τ)
    (wrap : ε → ε') (block : Txn ε τ α) (state : σ) :
    ∃ outcome, (attempt (zoom component wrap block) : Txn ε'' σ _) state =
      .ok outcome (component.set (block.final (component.get state)) state) := by
  unfold attempt zoom final
  cases block (component.get state) with
  | ok value part => exact ⟨.ok value, rfl⟩
  | error error part => exact ⟨.error (wrap error), rfl⟩

end Txn

end Library
