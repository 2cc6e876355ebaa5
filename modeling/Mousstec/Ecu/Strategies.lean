import Mathlib.Data.List.Count
import Mathlib.Data.List.Induction
import Mathlib.Data.List.Nodup

/-!
# Execution strategies

The manager picks the strategies that may work on a vehicle, tries them one
after the other, first to extract the secret of one unit and then to inject it
into another, and keeps a coordinator that rolls back what a strategy left
behind.  The coordinator learns of a strategy when its call returns, and rolls
back when a call raises.
-/

namespace Mousstec

namespace Execution

/-- `ProtectionLevel`. -/
inductive ProtectionLevel
  | open_
  | low
  | medium
  | high
  | critical
  deriving DecidableEq, Repr

def ProtectionLevel.value : ProtectionLevel → Nat
  | open_ => 0
  | low => 1
  | medium => 2
  | high => 3
  | critical => 4

/-- `EcuProfile`, what the selection reads of it. -/
structure EcuProfile where
  name : String
  protection : ProtectionLevel
  knownSoftwareExploitIds : List String
  requiresBench : Bool

/-- `supports_software_only`. -/
def EcuProfile.supportsSoftwareOnly (profile : EcuProfile) : Bool :=
  !profile.requiresBench &&
    decide (profile.protection.value ≤ ProtectionLevel.medium.value) &&
    !profile.knownSoftwareExploitIds.isEmpty

/-- `WorkshopCapabilities`. -/
structure WorkshopCapabilities where
  hasEnetCable : Bool
  hasKdcanCable : Bool
  hasSmartBreakoutBox : Bool
  hasBdmProbe : Bool
  technicianSkillLevel : Int

namespace WorkshopCapabilities

def canRunSoftwareOnly (caps : WorkshopCapabilities) : Bool :=
  caps.hasEnetCable || caps.hasKdcanCable

def canRunHardwareAutomation (caps : WorkshopCapabilities) : Bool :=
  caps.hasSmartBreakoutBox

def canRunInteractiveGuided (caps : WorkshopCapabilities) : Bool :=
  (caps.hasEnetCable || caps.hasKdcanCable) &&
    decide (2 ≤ caps.technicianSkillLevel)

end WorkshopCapabilities

/-- `StrategyContext`. -/
structure StrategyContext where
  vin : String
  profile : EcuProfile
  capabilities : WorkshopCapabilities
  targetIsn : Option (List UInt8)

/-- `StrategyOutcome`. -/
inductive StrategyOutcome
  | success
  | partial_
  | suspended
  | failedRolledBack
  | failedUnrecoverable
  deriving DecidableEq, Repr

/-- `StrategyResult`. -/
structure StrategyResult where
  outcome : StrategyOutcome
  strategyName : String
  isn : Option (List UInt8)
  errorCode : String
  errorMessage : String
  deriving DecidableEq, Repr

/-- `succeeded`. -/
def StrategyResult.succeeded (result : StrategyResult) : Bool :=
  result.outcome == .success

def StrategyResult.settles (result : StrategyResult) : Bool :=
  result.succeeded || result.outcome == .suspended

/-- An exception: its machine-readable code, if it has one, and its text. -/
structure Raised where
  code : Option String
  text : String
  deriving DecidableEq, Repr

abbrev Reply := Except Raised StrategyResult

def Reply.failed : Reply → Bool
  | .ok result => !result.settles
  | .error _ => true

inductive Phase
  | extract
  | inject
  deriving DecidableEq, Repr

variable {Strategy : Type}

/-- How the strategies of a manager behave, whatever the vehicle does. -/
structure Behaviour (Strategy : Type) where
  name : Strategy → String
  isEligible : Strategy → StrategyContext → Bool
  extractIsn : Strategy → StrategyContext → Reply
  injectIsn : Strategy → StrategyContext → Reply

def addIf (wanted : Bool) (strategy : Strategy) (chain : List Strategy) :
    List Strategy :=
  if wanted then chain ++ [strategy] else chain

theorem mem_addIf {wanted : Bool} {strategy other : Strategy}
    {chain : List Strategy} (member : other ∈ addIf wanted strategy chain) :
    other = strategy ∨ other ∈ chain := by
  unfold addIf at member
  split at member
  · rw [List.mem_append, List.mem_singleton] at member
    exact member.symm
  · exact .inr member

theorem addIf_nodup {wanted : Bool} {strategy : Strategy}
    {chain : List Strategy} (distinct : chain.Nodup)
    (new : wanted = true → strategy ∉ chain) :
    (addIf wanted strategy chain).Nodup := by
  unfold addIf
  split
  · rename_i added
    exact List.nodup_append.mpr ⟨distinct, List.nodup_singleton _,
      fun other member same joined => by
        rw [List.mem_singleton] at joined
        exact fun equal => new added (joined ▸ equal ▸ member)⟩
  · exact distinct

/-- What a run does to the vehicle: the calls of the strategies with what they
came to, and the rollbacks. -/
inductive Event (Strategy : Type)
  | ran (strategy : Strategy) (phase : Phase) (reply : Reply)
  | rolledBack (strategy : Strategy)
  deriving DecidableEq

/-- The coordinator's stack, last registered last, and what was done. -/
structure Session (Strategy : Type) where
  stack : List Strategy
  trace : List (Event Strategy)

namespace Session

def fresh : Session Strategy :=
  { stack := []
    trace := [] }

/-- `RollbackCoordinator.register`, after a call has returned. -/
def register [DecidableEq Strategy] (session : Session Strategy)
    (strategy : Strategy) : Session Strategy :=
  if strategy ∈ session.stack then session
  else { session with stack := session.stack ++ [strategy] }

/-- One turn of the loop of `rollback_all`: the strategy on top is taken off
and rolled back.  What the rollback raises is logged only. -/
def rollbackTop (session : Session Strategy) (top : Strategy) :
    Session Strategy :=
  { stack := session.stack.dropLast
    trace := session.trace ++ [.rolledBack top] }

/-- `RollbackCoordinator.rollback_all`, most recent first. -/
def rollbackAll (session : Session Strategy) : Session Strategy :=
  session.stack.reverse.foldl rollbackTop session

def record (session : Session Strategy) (event : Event Strategy) :
    Session Strategy :=
  { session with trace := session.trace ++ [event] }

@[simp] theorem register_trace [DecidableEq Strategy]
    (session : Session Strategy) (strategy : Strategy) :
    (session.register strategy).trace = session.trace := by
  unfold register
  split <;> rfl

private theorem foldl_rollbackTop (bottom below : List Strategy)
    (trace : List (Event Strategy)) :
    below.reverse.foldl rollbackTop
        ({ stack := bottom ++ below, trace := trace } : Session Strategy) =
      { stack := bottom
        trace := trace ++ below.reverse.map .rolledBack } := by
  induction below using List.reverseRecOn generalizing trace with
  | nil => simp
  | append_singleton below top induction =>
      rw [List.reverse_append, List.reverse_singleton, List.singleton_append,
        List.foldl_cons, rollbackTop]
      simp only
      rw [← List.append_assoc, List.dropLast_concat, induction]
      simp

theorem rollbackAll_eq (session : Session Strategy) :
    session.rollbackAll =
      { stack := []
        trace := session.trace ++
          session.stack.reverse.map .rolledBack } :=
  foldl_rollbackTop [] session.stack session.trace

end Session

variable [DecidableEq Strategy]

/-- `StrategyChoice`: no strategy is chosen twice. -/
structure StrategyChoice (Strategy : Type) where
  primary : Strategy
  fallbacks : List Strategy
  distinct : (primary :: fallbacks).Nodup

def failedResult (name : String) (raised : Raised) : StrategyResult :=
  { outcome := .failedRolledBack
    strategyName := name
    isn := none
    errorCode := raised.code.getD "UNCAUGHT"
    errorMessage := raised.text }

/-- One turn of the loop of `_with_fallback`: whether it returns, the result
with the strategy it is of, and the session after it. -/
def tryStrategy (name : Strategy → String) (phase : Phase)
    (run : Strategy → Reply) (strategy : Strategy)
    (session : Session Strategy) :
    Bool × (Strategy × StrategyResult) × Session Strategy :=
  let called := session.record (.ran strategy phase (run strategy))
  match run strategy with
  | .ok result => (result.settles, (strategy, result), called.register strategy)
  | .error raised =>
      (false, (strategy, failedResult (name strategy) raised),
        called.rollbackAll)

/-- `_with_fallback`, from the strategy at hand on. -/
def withFallback (name : Strategy → String) (phase : Phase)
    (run : Strategy → Reply) :
    Strategy → List Strategy → Session Strategy →
      (Strategy × StrategyResult) × Session Strategy
  | strategy, [], session =>
      (tryStrategy name phase run strategy session).2
  | strategy, next :: rest, session =>
      match tryStrategy name phase run strategy session with
      | (true, last, session) => (last, session)
      | (false, _, session) => withFallback name phase run next rest session

/-- `NoStrategyAvailable`, with the profile it names. -/
structure NoStrategyAvailable where
  profile : String
  deriving DecidableEq, Repr

/-- `NO_STRATEGY_AVAILABLE`'s text. -/
def NoStrategyAvailable.message (error : NoStrategyAvailable) : String :=
  "No execution strategy is viable for " ++ error.profile ++
    " with current workshop capabilities"

/-- `run_extract_then_inject`, over the manager's selection.  The result comes
with the strategy it is of. -/
def runExtractThenInject (behaviour : Behaviour Strategy)
    (select : StrategyContext →
      Except NoStrategyAvailable (StrategyChoice Strategy))
    (ctx : StrategyContext) (targetFemCtx : Option StrategyContext) :
    Except NoStrategyAvailable (Strategy × StrategyResult) ×
      Session Strategy :=
  match select ctx with
  | .error error => (.error error, .fresh)
  | .ok choice =>
      let (last, session) := withFallback behaviour.name .extract
        (behaviour.extractIsn · ctx) choice.primary choice.fallbacks .fresh
      if !last.2.succeeded then (.ok last, session)
      else
        match targetFemCtx, last.2.isn with
        | some targetCtx, some isn =>
            let targetCtx := { targetCtx with targetIsn := some isn }
            match select targetCtx with
            | .error error => (.error error, session)
            | .ok targetChoice =>
                let (last, session) := withFallback behaviour.name .inject
                  (behaviour.injectIsn · targetCtx) targetChoice.primary
                  targetChoice.fallbacks session
                (.ok last, session)
        | _, _ => (.ok last, session)

/-- `ExecutionStrategyManager`: three strategies of its own. -/
structure Manager (Strategy : Type) where
  softwareOnly : Strategy
  hardwareAutomation : Strategy
  interactiveGuided : Strategy
  distinct : [softwareOnly, hardwareAutomation, interactiveGuided].Nodup

namespace Manager

variable (manager : Manager Strategy)

def chain (ctx : StrategyContext) : List Strategy :=
  let caps := ctx.capabilities
  let bench := addIf (ctx.profile.requiresBench && caps.hasBdmProbe)
    manager.interactiveGuided []
  let software := addIf
    (ctx.profile.supportsSoftwareOnly && caps.canRunSoftwareOnly)
    manager.softwareOnly bench
  let hardware := addIf caps.canRunHardwareAutomation
    manager.hardwareAutomation software
  addIf (caps.canRunInteractiveGuided &&
      decide (manager.interactiveGuided ∉ hardware))
    manager.interactiveGuided hardware

def frontKey (strategy : Strategy) : Nat :=
  if strategy = manager.interactiveGuided then 0 else 1

def eligible (behaviour : Behaviour Strategy) (ctx : StrategyContext) :
    List Strategy :=
  (manager.chain ctx).filter fun strategy => behaviour.isEligible strategy ctx

/-- The eligible strategies as the manager will try them: on a protected unit
without a probe, the wizard first. -/
def arranged (behaviour : Behaviour Strategy) (ctx : StrategyContext) :
    List Strategy :=
  if ProtectionLevel.high.value ≤ ctx.profile.protection.value ∧
      ctx.capabilities.hasBdmProbe = false ∧
      manager.interactiveGuided ∈ manager.eligible behaviour ctx then
    (manager.eligible behaviour ctx).mergeSort fun first second =>
      decide (manager.frontKey first ≤ manager.frontKey second)
  else manager.eligible behaviour ctx

theorem chain_nodup (ctx : StrategyContext) : (manager.chain ctx).Nodup := by
  have distinct := manager.distinct
  simp only [List.nodup_cons, List.mem_cons, List.not_mem_nil, not_or,
    or_false] at distinct
  obtain ⟨⟨softwareHardware, softwareWizard⟩, hardwareWizard, -⟩ := distinct
  unfold chain
  refine addIf_nodup (addIf_nodup (addIf_nodup (addIf_nodup List.nodup_nil ?_)
    ?_) ?_) ?_
  · exact fun _ => List.not_mem_nil
  · intro _ member
    rcases mem_addIf member with same | none
    · exact softwareWizard same
    · exact List.not_mem_nil none
  · intro _ member
    rcases mem_addIf member with same | member
    · exact softwareHardware same.symm
    · rcases mem_addIf member with same | none
      · exact hardwareWizard same
      · exact List.not_mem_nil none
  · intro wanted
    rw [Bool.and_eq_true, decide_eq_true_iff] at wanted
    exact wanted.2

theorem arranged_nodup (behaviour : Behaviour Strategy)
    (ctx : StrategyContext) : (manager.arranged behaviour ctx).Nodup := by
  have eligible : (manager.eligible behaviour ctx).Nodup :=
    (manager.chain_nodup ctx).filter _
  unfold arranged
  split
  · exact (List.mergeSort_perm _ _).nodup_iff.mpr eligible
  · exact eligible

/-- `select`. -/
def select (behaviour : Behaviour Strategy) (ctx : StrategyContext) :
    Except NoStrategyAvailable (StrategyChoice Strategy) :=
  match manager.arranged behaviour ctx,
    manager.arranged_nodup behaviour ctx with
  | [], _ => .error { profile := ctx.profile.name }
  | primary :: fallbacks, distinct =>
      .ok { primary, fallbacks, distinct }

end Manager

/-- The strategies the execution view builds its manager of. -/
inductive Role
  | softwareOnly
  | hardwareAutomation
  | interactiveGuided
  deriving DecidableEq, Repr

namespace Role

/-- `ExecutionStrategy.name`. -/
def name : Role → String
  | softwareOnly => "software_only"
  | hardwareAutomation => "hardware_automation"
  | interactiveGuided => "interactive_guided"

/-- `is_eligible`, by what each strategy requires. -/
def isEligible (role : Role) (ctx : StrategyContext) : Bool :=
  match role with
  | softwareOnly => ctx.capabilities.canRunSoftwareOnly
  | hardwareAutomation => ctx.capabilities.canRunHardwareAutomation
  | interactiveGuided => ctx.capabilities.canRunInteractiveGuided

def manager : Manager Role :=
  { softwareOnly := softwareOnly
    hardwareAutomation := hardwareAutomation
    interactiveGuided := interactiveGuided
    distinct := by decide }

def behaviour (extractIsn injectIsn : Role → StrategyContext → Reply) :
    Behaviour Role :=
  { name, isEligible, extractIsn, injectIsn }

end Role

end Execution

end Mousstec
