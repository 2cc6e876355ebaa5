import Mousstec.Ecu.Strategies

/-!
# Rolling back before the next strategy

What a strategy left behind should be undone before the next one starts.  The
coordinator does so for a strategy it already knows when its call raises; a
call that returns a failure is registered and left, and a call that raises the
first time its strategy is used was never registered.
-/

namespace Mousstec

namespace Execution

variable {Strategy : Type} [DecidableEq Strategy]

/-- Every call that failed is rolled back exactly once before any later
strategy runs. -/
def CleansUp : List (Event Strategy) → Prop
  | [] => True
  | .rolledBack _ :: rest => CleansUp rest
  | .ran strategy _ reply :: rest =>
      (Reply.failed reply = true →
        ∀ middle next phase nextReply after,
          rest = middle ++ .ran next phase nextReply :: after →
            middle.count (.rolledBack strategy) = 1) ∧
      CleansUp rest

/-- When two failed strategies are both still to be rolled back, the later one
is rolled back first. -/
def RecentFirst (trace : List (Event Strategy)) : Prop :=
  ∀ first earlier earlierPhase earlierReply second later laterPhase laterReply
      middle last,
    trace = first ++ .ran earlier earlierPhase earlierReply ::
      (second ++ .ran later laterPhase laterReply ::
        (middle ++ .rolledBack earlier :: last)) →
    Reply.failed earlierReply = true → Reply.failed laterReply = true →
    Event.rolledBack earlier ∉ second ++ middle →
      Event.rolledBack later ∈ middle

/-- A strategy whose result is returned as a success is not rolled back. -/
def KeepsReturned {ε : Type} (trace : List (Event Strategy))
    (returned : Except ε (Strategy × StrategyResult)) : Prop :=
  ∀ strategy result, returned = .ok (strategy, result) →
    result.succeeded = true → Event.rolledBack strategy ∉ trace

theorem cleansUp_at {before middle after : List (Event Strategy)}
    {strategy next : Strategy} {phase nextPhase : Phase}
    {reply nextReply : Reply}
    (cleans : CleansUp (before ++ .ran strategy phase reply ::
      (middle ++ .ran next nextPhase nextReply :: after)))
    (failed : Reply.failed reply = true) :
    middle.count (.rolledBack strategy) = 1 := by
  induction before with
  | nil => exact cleans.1 failed middle next nextPhase nextReply after rfl
  | cons event before induction =>
      cases event with
      | ran => exact induction cleans.2
      | rolledBack => exact induction cleans

/-- The order of the rollbacks takes care of itself: an earlier failure is
undone before the later strategy starts. -/
theorem recentFirst_of_cleansUp {trace : List (Event Strategy)}
    (cleans : CleansUp trace) : RecentFirst trace := by
  intro first earlier _ _ second later _ _ middle last split failed _ pending
  subst split
  have once := cleansUp_at cleans failed
  have member : Event.rolledBack earlier ∈ second :=
    List.count_pos_iff.mp (by omega)
  exact absurd (List.mem_append_left middle member) pending

variable {name : Strategy → String} {phase : Phase} {run : Strategy → Reply}

def rollbacksOf (reply : Reply) (stack : List Strategy) :
    List (Event Strategy) :=
  match reply with
  | .ok _ => []
  | .error _ => stack.reverse.map .rolledBack

theorem tryStrategy_trace (strategy : Strategy) (session : Session Strategy) :
    (tryStrategy name phase run strategy session).2.2.trace =
      session.trace ++ .ran strategy phase (run strategy) ::
        rollbacksOf (run strategy) session.stack := by
  unfold tryStrategy rollbacksOf
  cases called : run strategy with
  | ok result => simp [Session.record]
  | error raised => simp [Session.rollbackAll_eq, Session.record]

theorem tryStrategy_returns (strategy : Strategy) (session : Session Strategy) :
    (tryStrategy name phase run strategy session).1 =
      !Reply.failed (run strategy) := by
  unfold tryStrategy Reply.failed
  cases run strategy with
  | ok result => simp
  | error raised => rfl

theorem withFallback_settled {strategy : Strategy} (rest : List Strategy)
    (session : Session Strategy) (settled : Reply.failed (run strategy) = false) :
    withFallback name phase run strategy rest session =
      (tryStrategy name phase run strategy session).2 := by
  have returns : (tryStrategy name phase run strategy session).1 = _ :=
    tryStrategy_returns strategy session
  rw [settled] at returns
  cases rest with
  | nil => rfl
  | cons next rest =>
      rw [withFallback]
      rcases tried : tryStrategy name phase run strategy session with
        ⟨returned, last, after⟩
      rw [tried] at returns
      cases returned with
      | true => rfl
      | false => cases returns

theorem withFallback_failed {strategy : Strategy} (next : Strategy)
    (rest : List Strategy) (session : Session Strategy)
    (failed : Reply.failed (run strategy) = true) :
    withFallback name phase run strategy (next :: rest) session =
      withFallback name phase run next rest
        (tryStrategy name phase run strategy session).2.2 := by
  have returns : (tryStrategy name phase run strategy session).1 = _ :=
    tryStrategy_returns strategy session
  rw [failed] at returns
  rw [withFallback]
  rcases tried : tryStrategy name phase run strategy session with
    ⟨returned, last, after⟩
  rw [tried] at returns
  cases returned with
  | true => cases returns
  | false => rfl

/-- A phase starts with its first strategy and only adds to the trace. -/
theorem withFallback_trace (strategy : Strategy) (rest : List Strategy)
    (session : Session Strategy) :
    ∃ more, (withFallback name phase run strategy rest session).2.trace =
      session.trace ++ .ran strategy phase (run strategy) ::
        (rollbacksOf (run strategy) session.stack ++ more) := by
  induction rest generalizing strategy session with
  | nil =>
      refine ⟨[], ?_⟩
      rw [withFallback, tryStrategy_trace, List.append_nil]
  | cons next rest induction =>
      cases settled : Reply.failed (run strategy) with
      | false =>
          refine ⟨[], ?_⟩
          rw [withFallback_settled _ _ settled, tryStrategy_trace,
            List.append_nil]
      | true =>
          obtain ⟨more, trace⟩ := induction next
            (tryStrategy name phase run strategy session).2.2
          rw [withFallback_failed _ _ _ settled, trace, tryStrategy_trace,
            List.append_assoc, List.cons_append]
          exact ⟨_, rfl⟩

theorem withFallback_extends (strategy : Strategy) (rest : List Strategy)
    (session : Session Strategy) :
    ∃ more, (withFallback name phase run strategy rest session).2.trace =
      session.trace ++ more := by
  obtain ⟨more, trace⟩ : ∃ more, (withFallback name phase run strategy rest
      session).2.trace = _ :=
    withFallback_trace strategy rest session
  exact ⟨_, trace⟩

/-- After a failure the next strategy runs behind the rollbacks of the
failure. -/
theorem withFallback_trace_failed {strategy : Strategy} (next : Strategy)
    (rest : List Strategy) (session : Session Strategy)
    (failed : Reply.failed (run strategy) = true) :
    ∃ more,
      (withFallback name phase run strategy (next :: rest) session).2.trace =
        session.trace ++ .ran strategy phase (run strategy) ::
          (rollbacksOf (run strategy) session.stack ++
            .ran next phase (run next) :: more) := by
  obtain ⟨more, trace⟩ : ∃ more, (withFallback name phase run next rest _).2.trace = _ :=
    withFallback_trace next rest (tryStrategy name phase run strategy session).2.2
  rw [withFallback_failed _ _ _ failed, trace, tryStrategy_trace,
    List.append_assoc, List.cons_append]
  exact ⟨_, rfl⟩

/-- No strategy fails while another one of its phase is left. -/
def FailsLast (run : Strategy → Reply) : List Strategy → Prop
  | strategy :: _ :: _ => Reply.failed (run strategy) = false
  | _ => True

theorem withFallback_of_failsLast {strategy : Strategy} {rest : List Strategy}
    (session : Session Strategy) (last : FailsLast run (strategy :: rest)) :
    withFallback name phase run strategy rest session =
      (tryStrategy name phase run strategy session).2 := by
  cases rest with
  | nil => rfl
  | cons next rest => exact withFallback_settled _ _ last

omit [DecidableEq Strategy] in
theorem exists_next_of_not_failsLast {strategy : Strategy}
    {rest : List Strategy} (broken : ¬ FailsLast run (strategy :: rest)) :
    ∃ next later, rest = next :: later ∧
      Reply.failed (run strategy) = true := by
  cases rest with
  | nil => exact absurd trivial broken
  | cons next later =>
      rw [FailsLast, Bool.not_eq_false] at broken
      exact ⟨next, later, rfl, broken⟩

theorem tryStrategy_ok {strategy : Strategy} {result : StrategyResult}
    (session : Session Strategy) (returned : run strategy = .ok result) :
    (tryStrategy name phase run strategy session).2 =
      ((strategy, result),
        (session.record (.ran strategy phase (.ok result))).register
          strategy) := by
  unfold tryStrategy
  rw [returned]

theorem tryStrategy_succeeded {strategy : Strategy}
    {session : Session Strategy}
    (succeeded : (tryStrategy name phase run strategy session).2.1.2.succeeded =
      true) :
    ∃ result, run strategy = .ok result ∧ result.succeeded = true := by
  unfold tryStrategy at succeeded
  cases called : run strategy with
  | ok result =>
      rw [called] at succeeded
      exact ⟨result, rfl, succeeded⟩
  | error raised =>
      rw [called] at succeeded
      cases succeeded

theorem tryStrategy_strategy (strategy : Strategy)
    (session : Session Strategy) :
    (tryStrategy name phase run strategy session).2.1.1 = strategy := by
  unfold tryStrategy
  cases run strategy <;> rfl

omit [DecidableEq Strategy] in
theorem ran_not_mem_rollbacksOf {reply ran : Reply} {stack : List Strategy}
    {strategy : Strategy} {phase : Phase} :
    Event.ran strategy phase ran ∉ rollbacksOf reply stack := by
  unfold rollbacksOf
  cases reply with
  | ok result => exact List.not_mem_nil
  | error raised => simp

variable (behaviour : Behaviour Strategy)
  (select : StrategyContext →
    Except NoStrategyAvailable (StrategyChoice Strategy))
  (ctx : StrategyContext) (targetFemCtx : Option StrategyContext)

/-- No strategy fails while another one of its phase is left, but for the
strategy that did the extraction: the coordinator knows it, so it may raise
when the injection tries it first. -/
def Undisturbed : Prop :=
  ∀ choice, select ctx = .ok choice →
    FailsLast (behaviour.extractIsn · ctx)
        (choice.primary :: choice.fallbacks) ∧
    ∀ result isn targetCtx targetChoice,
      behaviour.extractIsn choice.primary ctx = .ok result →
      result.succeeded = true → result.isn = some isn →
      targetFemCtx = some targetCtx →
      select { targetCtx with targetIsn := some isn } = .ok targetChoice →
      let inject := (behaviour.injectIsn ·
        { targetCtx with targetIsn := some isn })
      FailsLast inject (targetChoice.primary :: targetChoice.fallbacks) ∨
        targetChoice.primary = choice.primary ∧
          (∃ raised, inject targetChoice.primary = .error raised) ∧
          FailsLast inject targetChoice.fallbacks

def RollsBackBeforeNext : Prop :=
  let (returned, session) :=
    runExtractThenInject behaviour select ctx targetFemCtx
  CleansUp session.trace ∧ RecentFirst session.trace ∧
    KeepsReturned session.trace returned

variable {behaviour select ctx targetFemCtx}

section Injection

variable {choice : StrategyChoice Strategy} {result : StrategyResult}
  {isn : List UInt8} {targetCtx : StrategyContext}

def extracted (strategy : Strategy) (result : StrategyResult) :
    Session Strategy :=
  { stack := [strategy]
    trace := [.ran strategy .extract (.ok result)] }

theorem extraction_eq {name : Strategy → String} {run : Strategy → Reply}
    {strategy : Strategy} {rest : List Strategy} {result : StrategyResult}
    (returned : run strategy = .ok result) (settles : result.settles = true) :
    withFallback name .extract run strategy rest .fresh =
      ((strategy, result), extracted strategy result) := by
  have settled : Reply.failed (run strategy) = false := by
    rw [returned, Reply.failed, settles]
    rfl
  rw [withFallback_settled _ _ settled, tryStrategy_ok _ returned]
  rfl

theorem settles_of_succeeded {result : StrategyResult}
    (succeeded : result.succeeded = true) : result.settles = true := by
  rw [StrategyResult.settles, succeeded]
  rfl

theorem run_injects {targetChoice : StrategyChoice Strategy}
    (selected : select ctx = .ok choice)
    (returned : behaviour.extractIsn choice.primary ctx = .ok result)
    (succeeded : result.succeeded = true) (found : result.isn = some isn)
    (target : targetFemCtx = some targetCtx)
    (targeted : select { targetCtx with targetIsn := some isn } =
      .ok targetChoice) :
    runExtractThenInject behaviour select ctx targetFemCtx =
      let (last, session) := withFallback behaviour.name .inject
        (behaviour.injectIsn · { targetCtx with targetIsn := some isn })
        targetChoice.primary targetChoice.fallbacks
        (extracted choice.primary result)
      (.ok last, session) := by
  have extraction : withFallback behaviour.name .extract
      (behaviour.extractIsn · ctx) choice.primary choice.fallbacks .fresh =
        ((choice.primary, result), extracted choice.primary result) :=
    extraction_eq returned (settles_of_succeeded succeeded)
  subst target
  simp only [runExtractThenInject, selected, extraction, succeeded, found,
    targeted, Bool.not_true, Bool.false_eq_true, if_false]

end Injection

/-- A run only adds to the trace of its first phase. -/
theorem run_trace {choice : StrategyChoice Strategy}
    (selected : select ctx = .ok choice) :
    ∃ more, (runExtractThenInject behaviour select ctx targetFemCtx).2.trace =
      (withFallback behaviour.name .extract (behaviour.extractIsn · ctx)
        choice.primary choice.fallbacks .fresh).2.trace ++ more := by
  unfold runExtractThenInject
  rw [selected]
  simp only
  split
  · exact ⟨[], (List.append_nil _).symm⟩
  split
  · split
    · exact ⟨[], (List.append_nil _).symm⟩
    · exact withFallback_extends _ _ _
  · exact ⟨[], (List.append_nil _).symm⟩

omit [DecidableEq Strategy] in
theorem rollbacksOf_nil (reply : Reply) :
    rollbacksOf reply ([] : List Strategy) = [] := by
  cases reply <;> rfl

theorem extraction_failsLast {choice : StrategyChoice Strategy}
    (selected : select ctx = .ok choice)
    (cleans : CleansUp
      (runExtractThenInject behaviour select ctx targetFemCtx).2.trace) :
    FailsLast (behaviour.extractIsn · ctx)
      (choice.primary :: choice.fallbacks) := by
  by_contra broken
  obtain ⟨next, later, rest, failed⟩ := exists_next_of_not_failsLast broken
  obtain ⟨more, trace⟩ : ∃ more,
      (runExtractThenInject behaviour select ctx targetFemCtx).2.trace =
        _ ++ more := run_trace selected
  obtain ⟨further, extraction⟩ : ∃ further, (withFallback behaviour.name
      .extract (behaviour.extractIsn · ctx) choice.primary (next :: later)
        .fresh).2.trace = _ :=
    withFallback_trace_failed next later .fresh failed
  rw [trace, rest, extraction, List.append_assoc, List.cons_append,
    List.append_assoc, List.cons_append] at cleans
  have once := cleansUp_at cleans failed
  rw [Session.fresh, rollbacksOf_nil] at once
  cases once

theorem injection_failsLast {targetChoice : StrategyChoice Strategy}
    {name : Strategy → String} {inject : Strategy → Reply}
    {strategy : Strategy} {result : StrategyResult}
    (cleans : CleansUp (withFallback name .inject inject targetChoice.primary
      targetChoice.fallbacks (extracted strategy result)).2.trace) :
    FailsLast inject (targetChoice.primary :: targetChoice.fallbacks) ∨
      targetChoice.primary = strategy ∧
        (∃ raised, inject targetChoice.primary = .error raised) ∧
        FailsLast inject targetChoice.fallbacks := by
  by_contra neither
  rw [not_or] at neither
  obtain ⟨broken, other⟩ := neither
  apply other
  obtain ⟨next, later, rest, failed⟩ := exists_next_of_not_failsLast broken
  rw [rest] at cleans
  have first : Event.rolledBack targetChoice.primary ∈
      rollbacksOf (inject targetChoice.primary) [strategy] := by
    obtain ⟨more, trace⟩ : ∃ more, (withFallback name .inject inject
        targetChoice.primary (next :: later)
          (extracted strategy result)).2.trace = _ :=
      withFallback_trace_failed next later _ failed
    rw [trace] at cleans
    have once := cleansUp_at cleans failed
    change List.count _ (rollbacksOf _ [strategy]) = 1 at once
    exact List.count_pos_iff.mp (once ▸ Nat.one_pos)
  cases called : inject targetChoice.primary with
  | ok returned =>
      rw [called] at first
      exact absurd first List.not_mem_nil
  | error raised =>
      have same : targetChoice.primary = strategy := by
        rw [called] at first
        simpa [rollbacksOf] using first
      refine ⟨same, ⟨raised, rfl⟩, ?_⟩
      rw [rest]
      by_contra again
      obtain ⟨third, last, more, failedToo⟩ :=
        exists_next_of_not_failsLast again
      subst more
      rw [withFallback_failed _ _ _ failed] at cleans
      obtain ⟨further, trace⟩ : ∃ further, (withFallback name .inject inject
          next (third :: last) _).2.trace = _ :=
        withFallback_trace_failed third last (tryStrategy name .inject inject
          targetChoice.primary (extracted strategy result)).2.2 failedToo
      rw [trace] at cleans
      have once := cleansUp_at cleans failedToo
      have empty : (tryStrategy name .inject inject targetChoice.primary
          (extracted strategy result)).2.2.stack = [] := by
        unfold tryStrategy
        rw [called]
        simp [Session.rollbackAll_eq]
      rw [empty, rollbacksOf_nil] at once
      cases once

theorem undisturbed_of_cleansUp
    (cleans : CleansUp
      (runExtractThenInject behaviour select ctx targetFemCtx).2.trace) :
    Undisturbed behaviour select ctx targetFemCtx := by
  intro choice selected
  refine ⟨extraction_failsLast selected cleans, ?_⟩
  intro result isn targetCtx targetChoice returned succeeded found target
    targeted
  rw [run_injects selected returned succeeded found target targeted] at cleans
  exact injection_failsLast cleans

theorem cleansUp_settled {strategy : Strategy} {phase : Phase} {reply : Reply}
    {rest : List (Event Strategy)} (settled : Reply.failed reply = false)
    (cleans : CleansUp rest) : CleansUp (.ran strategy phase reply :: rest) := by
  refine ⟨fun failed => ?_, cleans⟩
  rw [settled] at failed
  cases failed

theorem cleansUp_rollbacks (reply : Reply) (stack : List Strategy) :
    CleansUp (rollbacksOf reply stack) := by
  unfold rollbacksOf
  cases reply with
  | ok result => trivial
  | error raised =>
      simp only
      induction stack.reverse with
      | nil => trivial
      | cons strategy stack induction => exact induction

theorem cleansUp_last (strategy : Strategy) (phase : Phase) (reply : Reply)
    (stack : List Strategy) :
    CleansUp (.ran strategy phase reply :: rollbacksOf reply stack) := by
  refine ⟨fun _ middle next nextPhase nextReply after split => ?_,
    cleansUp_rollbacks reply stack⟩
  have member : Event.ran next nextPhase nextReply ∈ rollbacksOf reply stack := by
    rw [split]
    exact List.mem_append_right _ List.mem_cons_self
  exact absurd member ran_not_mem_rollbacksOf

theorem cleansUp_only (strategy : Strategy) (phase : Phase) (reply : Reply) :
    CleansUp [.ran strategy phase reply] := by
  have cleans := cleansUp_last strategy phase reply []
  rw [rollbacksOf_nil] at cleans
  exact cleans

theorem cleansUp_rolledBack (strategy next : Strategy) (phase nextPhase : Phase)
    (reply nextReply : Reply) :
    CleansUp [.ran strategy phase reply, .rolledBack strategy,
      .ran next nextPhase nextReply] := by
  refine ⟨?_, cleansUp_only next nextPhase nextReply⟩
  intro _ middle following otherPhase otherReply after split
  cases middle with
  | nil => cases split
  | cons event middle =>
      obtain ⟨rfl, rest⟩ := List.cons.inj split
      cases middle with
      | nil => exact List.count_singleton_self
      | cons event middle =>
          obtain ⟨-, none⟩ := List.cons.inj rest
          exact absurd none.symm (by simp)

theorem failsLast_trace {name : Strategy → String} {phase : Phase}
    {run : Strategy → Reply} {strategy : Strategy} {rest : List Strategy}
    (session : Session Strategy) (last : FailsLast run (strategy :: rest)) :
    (withFallback name phase run strategy rest session).2.trace =
      session.trace ++ .ran strategy phase (run strategy) ::
        rollbacksOf (run strategy) session.stack := by
  rw [withFallback_of_failsLast session last, tryStrategy_trace]

/-- A phase that returns a success at its first strategy rolls nothing
back. -/
theorem rollbacksOf_of_succeeded {name : Strategy → String} {phase : Phase}
    {run : Strategy → Reply} {strategy : Strategy} {rest : List Strategy}
    {session : Session Strategy} {stack : List Strategy}
    (last : FailsLast run (strategy :: rest))
    (succeeded : (withFallback name phase run strategy rest
      session).1.2.succeeded = true) :
    rollbacksOf (run strategy) stack = [] := by
  rw [withFallback_of_failsLast session last] at succeeded
  obtain ⟨result, returned, -⟩ := tryStrategy_succeeded succeeded
  rw [returned]
  rfl

section Sufficient

variable {name : Strategy → String} {inject : Strategy → Reply}
  {strategy : Strategy} {result : StrategyResult}
  {targetChoice : StrategyChoice Strategy}

theorem injection_cleansUp (settles : result.settles = true)
    (undisturbed :
      FailsLast inject (targetChoice.primary :: targetChoice.fallbacks) ∨
        targetChoice.primary = strategy ∧
          (∃ raised, inject targetChoice.primary = .error raised) ∧
          FailsLast inject targetChoice.fallbacks) :
    CleansUp (withFallback name .inject inject targetChoice.primary
        targetChoice.fallbacks (extracted strategy result)).2.trace ∧
      ((withFallback name .inject inject targetChoice.primary
          targetChoice.fallbacks
          (extracted strategy result)).1.2.succeeded = true →
        Event.rolledBack (withFallback name .inject inject
            targetChoice.primary targetChoice.fallbacks
            (extracted strategy result)).1.1 ∉
          (withFallback name .inject inject targetChoice.primary
            targetChoice.fallbacks (extracted strategy result)).2.trace) := by
  have settled : Reply.failed (.ok result) = false := by
    rw [Reply.failed, settles]
    rfl
  rcases undisturbed with last | ⟨same, ⟨raised, called⟩, last⟩
  · rw [failsLast_trace _ last]
    refine ⟨cleansUp_settled settled (cleansUp_last _ _ _ _), ?_⟩
    intro succeeded
    rw [rollbacksOf_of_succeeded last succeeded]
    simp [extracted]
  · have failed : Reply.failed (inject targetChoice.primary) = true := by
      rw [called]
      rfl
    have distinct := targetChoice.distinct
    cases fallbacks : targetChoice.fallbacks with
    | nil =>
        have only : FailsLast inject [targetChoice.primary] := trivial
        rw [failsLast_trace _ only]
        refine ⟨cleansUp_settled settled (cleansUp_last _ _ _ _), ?_⟩
        intro succeeded
        rw [rollbacksOf_of_succeeded only succeeded]
        simp [extracted]
    | cons next rest =>
        rw [fallbacks] at last distinct
        have after : (tryStrategy name .inject inject targetChoice.primary
            (extracted strategy result)).2.2 =
              { stack := []
                trace := [.ran strategy .extract (.ok result),
                  .ran targetChoice.primary .inject (.error raised),
                  .rolledBack strategy] } := by
          unfold tryStrategy
          rw [called]
          simp [Session.rollbackAll_eq, Session.record, extracted]
        rw [withFallback_failed _ _ _ failed, after, failsLast_trace _ last,
          rollbacksOf_nil]
        constructor
        · rw [same]
          exact cleansUp_settled settled (cleansUp_rolledBack _ _ _ _ _ _)
        · intro _
          rw [withFallback_of_failsLast _ last, tryStrategy_strategy]
          have other : next ≠ strategy := by
            intro equal
            rw [equal, ← same] at distinct
            simp at distinct
          simp [other]

end Sufficient

theorem extraction_trace {choice : StrategyChoice Strategy}
    (last : FailsLast (behaviour.extractIsn · ctx)
      (choice.primary :: choice.fallbacks)) :
    (withFallback behaviour.name .extract (behaviour.extractIsn · ctx)
        choice.primary choice.fallbacks .fresh).2.trace =
      [.ran choice.primary .extract
        (behaviour.extractIsn choice.primary ctx)] := by
  rw [failsLast_trace _ last, Session.fresh, rollbacksOf_nil]
  rfl

theorem rollsBackBeforeNext_of_undisturbed
    (undisturbed : Undisturbed behaviour select ctx targetFemCtx) :
    RollsBackBeforeNext behaviour select ctx targetFemCtx := by
  suffices both : CleansUp
        (runExtractThenInject behaviour select ctx targetFemCtx).2.trace ∧
      KeepsReturned
        (runExtractThenInject behaviour select ctx targetFemCtx).2.trace
        (runExtractThenInject behaviour select ctx targetFemCtx).1 by
    exact ⟨both.1, recentFirst_of_cleansUp both.1, both.2⟩
  cases selected : select ctx with
  | error error =>
      rw [runExtractThenInject, selected]
      exact ⟨trivial, fun strategy result returned => nomatch returned⟩
  | ok choice =>
      obtain ⟨last, injection⟩ := undisturbed choice selected
      have only : ∀ returned : Except NoStrategyAvailable _,
          CleansUp (withFallback behaviour.name .extract
            (behaviour.extractIsn · ctx) choice.primary choice.fallbacks
            .fresh).2.trace ∧
          KeepsReturned (withFallback behaviour.name .extract
            (behaviour.extractIsn · ctx) choice.primary choice.fallbacks
            .fresh).2.trace returned := by
        intro returned
        rw [extraction_trace last]
        exact ⟨cleansUp_only _ _ _, fun strategy result _ _ => by simp⟩
      by_cases succeeded : (withFallback behaviour.name .extract
          (behaviour.extractIsn · ctx) choice.primary choice.fallbacks
          .fresh).1.2.succeeded = true
      · have first := succeeded
        rw [withFallback_of_failsLast _ last] at first
        obtain ⟨result, returned, succeeds⟩ := tryStrategy_succeeded first
        have extraction : withFallback behaviour.name .extract
            (behaviour.extractIsn · ctx) choice.primary choice.fallbacks
            .fresh = ((choice.primary, result), _) :=
          extraction_eq returned (settles_of_succeeded succeeds)
        cases target : targetFemCtx with
        | none =>
            simp only [runExtractThenInject, selected, succeeded,
              Bool.not_true, Bool.false_eq_true, if_false]
            exact only _
        | some targetCtx =>
            cases found : result.isn with
            | none =>
                simp only [runExtractThenInject, selected, extraction,
                  succeeds, found, Bool.not_true, Bool.false_eq_true, if_false]
                rw [extraction] at only
                exact only _
            | some isn =>
                cases targeted : select { targetCtx with targetIsn := some isn } with
                | error error =>
                    simp only [runExtractThenInject, selected, extraction,
                      succeeds, found, targeted, Bool.not_true,
                      Bool.false_eq_true, if_false]
                    rw [extraction] at only
                    exact only _
                | ok targetChoice =>
                    rw [run_injects selected returned succeeds found rfl
                      targeted]
                    obtain ⟨cleans, keeps⟩ :
                        CleansUp (withFallback behaviour.name _ _ _ _ _).2.trace ∧ _ :=
                      injection_cleansUp (settles_of_succeeded succeeds)
                        (injection result isn targetCtx targetChoice returned
                          succeeds found target targeted)
                    refine ⟨cleans, fun strategy success final successful => ?_⟩
                    have same := Except.ok.inj final
                    rw [same] at keeps
                    exact keeps successful
      · simp only [runExtractThenInject, selected, succeeded]
        exact only _

/-- A run rolls every failed strategy back before the next one starts exactly
when it is undisturbed. -/
theorem rollsBackBeforeNext_iff :
    RollsBackBeforeNext behaviour select ctx targetFemCtx ↔
      Undisturbed behaviour select ctx targetFemCtx :=
  ⟨fun cleans => undisturbed_of_cleansUp cleans.1,
    rollsBackBeforeNext_of_undisturbed⟩

def unitOnTheBench : StrategyContext :=
  { vin := "WBA0000TEST00000"
    profile :=
      { name := "FEM_F30"
        protection := .medium
        knownSoftwareExploitIds := ["FEM_PRE_2014_PRGSESS_BYPASS"]
        requiresBench := false }
    capabilities :=
      { hasEnetCable := true
        hasKdcanCable := false
        hasSmartBreakoutBox := true
        hasBdmProbe := false
        technicianSkillLevel := 1 }
    targetIsn := none }

def halfDone : StrategyResult :=
  { outcome := .failedUnrecoverable
    strategyName := "software_only"
    isn := none
    errorCode := "WRITE_ABORTED"
    errorMessage := "" }

def extractedByBox : StrategyResult :=
  { outcome := .success
    strategyName := "hardware_automation"
    isn := some [0x11, 0x22]
    errorCode := ""
    errorMessage := "" }

def softwareFails : Behaviour Role :=
  Role.behaviour
    (fun role _ => match role with
      | .softwareOnly => .ok halfDone
      | _ => .ok extractedByBox)
    (fun _ _ => .ok extractedByBox)

/-- The breakout box starts on a unit that the software strategy left in the
middle of its work. -/
theorem half_done_left_behind :
    (runExtractThenInject softwareFails (Role.manager.select softwareFails)
      unitOnTheBench none).2.trace =
        [.ran .softwareOnly .extract (.ok halfDone),
          .ran .hardwareAutomation .extract (.ok extractedByBox)] ∧
    ¬ RollsBackBeforeNext softwareFails (Role.manager.select softwareFails)
      unitOnTheBench none := by
  have trace : (runExtractThenInject softwareFails
      (Role.manager.select softwareFails) unitOnTheBench none).2.trace =
        [.ran .softwareOnly .extract (.ok halfDone),
          .ran .hardwareAutomation .extract (.ok extractedByBox)] := by
    decide +kernel
  refine ⟨trace, fun cleans => ?_⟩
  have owed : CleansUp (runExtractThenInject softwareFails
      (Role.manager.select softwareFails) unitOnTheBench none).2.trace :=
    cleans.1
  rw [trace] at owed
  have once := owed.1 rfl [] .hardwareAutomation .extract
    (.ok extractedByBox) [] rfl
  cases once

end Execution

end Mousstec
