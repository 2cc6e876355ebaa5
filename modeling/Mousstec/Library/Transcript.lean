import Mathlib.Order.Defs.Unbundled
import Mousstec.Library.Transaction

/-!
# Transcripts

A program that talks to an environment it does not control: the environment
answers every call, or raises, as it likes, and what it does may depend on
everything that was asked before.  A session is the program's own state with
the transcript of its calls.  `Follows` says that a block only moves along a
relation, whichever way it ends; it is closed under the statements of a
program when the relation is reflexive and transitive.
-/

namespace Library

/-- The calls an environment takes and what each of them returns. -/
structure Interface where
  Call : Type
  Answer : Call → Type

/-- A call with what came of it. -/
structure Exchange (I : Interface) (ε : Type) where
  call : I.Call
  outcome : Except ε (I.Answer call)

/-- An environment: what it answers to a call after the calls so far. -/
abbrev World (I : Interface) (ε : Type) :=
  List (Exchange I ε) → (call : I.Call) → Except ε (I.Answer call)

/-- A transcript of an environment, which answered every call after those
before it. -/
inductive Honest {I : Interface} {ε : Type} (world : World I ε) :
    List (Exchange I ε) → Prop
  | nil : Honest world []
  | ask {log : List (Exchange I ε)} (call : I.Call) (honest : Honest world log) :
      Honest world (log ++ [⟨call, world log call⟩])

theorem Honest.outcome_eq {I : Interface} {ε : Type} {world : World I ε}
    {log first last : List (Exchange I ε)} {exchange : Exchange I ε}
    (honest : Honest world log) (split : log = first ++ exchange :: last) :
    exchange.outcome = world first exchange.call := by
  induction honest generalizing last with
  | nil => simp at split
  | ask call honest induction =>
      rcases List.eq_nil_or_concat last with rfl | ⟨last, final, rfl⟩
      · obtain ⟨rfl, same⟩ := List.append_inj' split rfl
        cases same
        rfl
      · rw [List.concat_eq_append, ← List.cons_append, ← List.append_assoc]
          at split
        exact induction (List.append_inj' split rfl).1

/-- The state of a program and the transcript of its calls. -/
structure Session (I : Interface) (ε σ : Type) where
  machine : σ
  log : List (Exchange I ε)

namespace Session

variable {I : Interface} {ε ε' σ τ α β : Type}

/-- Makes a call.  The transcript keeps it also when it raises. -/
def ask (world : World I ε) (call : I.Call) :
    Txn ε (Session I ε σ) (I.Answer call) := fun session =>
  let outcome := world session.log call
  let after := { session with log := session.log ++ [⟨call, outcome⟩] }
  match outcome with
  | .ok answer => .ok answer after
  | .error error => .error error after

/-- Changes the program's own state. -/
def update (change : σ → σ) : Txn ε (Session I ε' σ) PUnit :=
  modify fun session => { session with machine := change session.machine }

theorem ask_eq_ok {world : World I ε} {call : I.Call} {answer : I.Answer call}
    {session after : Session I ε σ} :
    ask world call session = .ok answer after ↔
      world session.log call = .ok answer ∧
        after = { session with
                  log := session.log ++ [⟨call, .ok answer⟩] } := by
  unfold ask
  cases answered : world session.log call with
  | ok value =>
      simp only [EStateM.Result.ok.injEq, Except.ok.injEq]
      constructor
      · rintro ⟨rfl, rfl⟩
        exact ⟨rfl, rfl⟩
      · rintro ⟨rfl, rfl⟩
        exact ⟨rfl, rfl⟩
  | error error => simp

theorem ask_bind_eq_ok {world : World I ε} {call : I.Call}
    {next : I.Answer call → Txn ε (Session I ε σ) α} {result : α}
    {session after : Session I ε σ} :
    (ask world call >>= next) session = .ok result after ↔
      ∃ answer, world session.log call = .ok answer ∧
        next answer { session with
          log := session.log ++ [⟨call, .ok answer⟩] } = .ok result after := by
  simp only [Txn.bind_eq_ok, ask_eq_ok, and_assoc, exists_and_left,
    exists_eq_left]

theorem ask_eq_error {world : World I ε} {call : I.Call} {error : ε}
    {session after : Session I ε σ} :
    (ask world call : Txn ε (Session I ε σ) _) session = .error error after ↔
      world session.log call = .error error ∧
        after = { session with
                  log := session.log ++ [⟨call, .error error⟩] } := by
  unfold ask
  cases answered : world session.log call with
  | ok value => simp
  | error raised =>
      simp only [EStateM.Result.error.injEq, Except.error.injEq]
      constructor
      · rintro ⟨rfl, rfl⟩
        exact ⟨rfl, rfl⟩
      · rintro ⟨rfl, rfl⟩
        exact ⟨rfl, rfl⟩

/-- However a call ends, the transcript has it and the state is kept. -/
theorem final_ask (world : World I ε) (call : I.Call)
    (session : Session I ε σ) :
    (ask world call : Txn ε (Session I ε σ) _).final session =
      { session with
        log := session.log ++ [⟨call, world session.log call⟩] } := by
  unfold Txn.final ask
  cases answered : world session.log call with
  | ok value => rfl
  | error raised => rfl

theorem update_bind {change : σ → σ} {next : PUnit → Txn ε' (Session I ε σ) α}
    {session : Session I ε σ} :
    (update change >>= next) session =
      next ⟨⟩ { session with machine := change session.machine } := rfl

@[simp] theorem update_eq_ok {change : σ → σ} {result : PUnit}
    {session after : Session I ε' σ} :
    (update change : Txn ε (Session I ε' σ) PUnit) session = .ok result after ↔
      { session with machine := change session.machine } = after :=
  Txn.modify_eq_ok

@[simp] theorem update_eq_error {change : σ → σ} {raised : ε}
    {session after : Session I ε' σ} :
    ¬ (update change : Txn ε (Session I ε' σ) PUnit) session =
      .error raised after :=
  Txn.modify_eq_error

/-- The transcript grows by calls of a kind, and a view of the state is
kept. -/
def Grows (allowed : Exchange I ε → Prop) (view : σ → τ)
    (before after : Session I ε σ) : Prop :=
  view after.machine = view before.machine ∧
    ∃ added, after.log = before.log ++ added ∧
      ∀ exchange ∈ added, allowed exchange

instance {allowed : Exchange I ε → Prop} {view : σ → τ} :
    Std.Refl (Grows allowed view) :=
  ⟨fun _ => ⟨rfl, [], (List.append_nil _).symm, nofun⟩⟩

instance {allowed : Exchange I ε → Prop} {view : σ → τ} :
    IsTrans (Session I ε σ) (Grows allowed view) := by
  refine ⟨?_⟩
  rintro first second third ⟨kept, added, log, all⟩ ⟨keptToo, more, logToo, rest⟩
  refine ⟨keptToo.trans kept, added ++ more, ?_, ?_⟩
  · rw [logToo, log, List.append_assoc]
  · intro exchange member
    rcases List.mem_append.mp member with member | member
    · exact all exchange member
    · exact rest exchange member

end Session

namespace Txn

variable {ε ε' σ α β : Type}

/-- A block that moves the state along a relation, whichever way it ends. -/
def Follows (block : Txn ε σ α) (relation : σ → σ → Prop) : Prop :=
  ∀ state, relation state (block.final state)

theorem Follows.of_ok {block : Txn ε σ α} {relation : σ → σ → Prop}
    (follows : Follows block relation) {value : α} {state after : σ}
    (returned : block state = .ok value after) : relation state after := by
  have moved := follows state
  rwa [final_of_ok returned] at moved

theorem Follows.of_error {block : Txn ε σ α} {relation : σ → σ → Prop}
    (follows : Follows block relation) {error : ε} {state after : σ}
    (failed : block state = .error error after) : relation state after := by
  have moved := follows state
  rwa [final_of_error failed] at moved

theorem Follows.mono {block : Txn ε σ α} {relation weaker : σ → σ → Prop}
    (follows : Follows block relation)
    (weaken : ∀ {before after}, relation before after → weaker before after) :
    Follows block weaker :=
  fun state => weaken (follows state)

variable {relation : σ → σ → Prop}

theorem follows_attempt {block : Txn ε σ α} (follows : Follows block relation) :
    Follows (attempt block : Txn ε' σ _) relation := by
  intro state
  have moved := follows state
  unfold final attempt
  unfold final at moved
  cases called : block state with
  | ok value after =>
      rw [called] at moved
      exact moved
  | error error after =>
      rw [called] at moved
      exact moved

theorem follows_ite {check : Prop} [Decidable check] {first second : Txn ε σ α}
    (yes : Follows first relation) (no : Follows second relation) :
    Follows (if check then first else second) relation := by
  split
  · exact yes
  · exact no

theorem follows_bind [IsTrans σ relation] {first : Txn ε σ α}
    {next : α → Txn ε σ β} (follows : Follows first relation)
    (later : ∀ value, Follows (next value) relation) :
    Follows (first >>= next) relation := by
  intro state
  cases called : first state with
  | ok value middle =>
      rw [final_bind_of_ok called]
      exact IsTrans.trans _ _ _ (follows.of_ok called) (later value middle)
  | error error middle =>
      rw [final_bind_of_error called]
      exact follows.of_error called

/-- A block that, when it raises, has moved the state along a relation. -/
def RaisesWithin (block : Txn ε σ α) (relation : σ → σ → Prop) : Prop :=
  ∀ state error after, block state = .error error after → relation state after

theorem raisesWithin_bind [IsTrans σ relation] {first : Txn ε σ α}
    {next : α → Txn ε σ β} (follows : Follows first relation)
    (later : ∀ value, RaisesWithin (next value) relation) :
    RaisesWithin (first >>= next) relation := by
  intro state error after failed
  rcases bind_eq_error.mp failed with failed | ⟨value, middle, called, failed⟩
  · exact follows.of_error failed
  · exact IsTrans.trans _ _ _ (follows.of_ok called)
      (later value middle error after failed)

theorem raisesWithin_modify (change : σ → σ) :
    RaisesWithin (modify change : Txn ε σ PUnit) relation :=
  fun _ _ _ failed => (modify_eq_error failed).elim

theorem raisesWithin_ite {check : Prop} [Decidable check]
    {first second : Txn ε σ α} (yes : RaisesWithin first relation)
    (no : RaisesWithin second relation) :
    RaisesWithin (if check then first else second) relation := by
  split
  · exact yes
  · exact no

section Reflexive

variable [Std.Refl relation]

theorem follows_pure (value : α) :
    Follows (pure value : Txn ε σ α) relation :=
  fun state => Std.Refl.refl state

theorem follows_throw (error : ε) :
    Follows (throw error : Txn ε σ α) relation :=
  fun state => Std.Refl.refl state

theorem follows_get : Follows (get : Txn ε σ σ) relation :=
  fun state => Std.Refl.refl state

theorem follows_require (check : Prop) [Decidable check] (error : ε) :
    Follows (require check error : Txn ε σ PUnit) relation := by
  unfold require
  split
  · exact follows_pure _
  · exact follows_throw _

theorem follows_expect (value : Option α) (error : ε) :
    Follows (expect value error : Txn ε σ α) relation := by
  cases value with
  | none => exact follows_throw _
  | some found => exact follows_pure found

end Reflexive

end Txn

namespace Session

variable {I : Interface} {ε ε' σ τ : Type} {allowed : Exchange I ε → Prop}
  {view : σ → τ}

theorem follows_ask (world : World I ε) (call : I.Call)
    (permitted : ∀ outcome, allowed ⟨call, outcome⟩) :
    Txn.Follows (ask world call : Txn ε (Session I ε σ) _)
      (Grows allowed view) := by
  intro session
  rw [final_ask]
  refine ⟨rfl, [_], rfl, ?_⟩
  intro exchange member
  rw [List.mem_singleton] at member
  rw [member]
  exact permitted _

theorem follows_update (change : σ → σ)
    (kept : ∀ machine, view (change machine) = view machine) :
    Txn.Follows (update change : Txn ε' (Session I ε σ) PUnit)
      (Grows allowed view) :=
  fun session => ⟨kept session.machine, [], (List.append_nil _).symm, nofun⟩

end Session

end Library
