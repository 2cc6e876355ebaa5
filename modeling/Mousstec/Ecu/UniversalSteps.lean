import Mousstec.Ecu.Universal

/-!
# What an event of the smart flow can do

An event only looks, saves the one backup, works on the unit, synchronises the
body module, or writes the backup back.  Whatever fails leaves a session that
offers the rollback as long as there is a backup that was not written back.
-/

namespace Mousstec

namespace Universal

open Library

abbrev UExchange := Exchange uInterface URaised

variable {world : World uInterface URaised}

def changes : UCall → Bool
  | .clearDtcs => true
  | .codeDme _ => true
  | .extractBench => true
  | .syncModule _ => true
  | _ => false

def writes : UCall → Bool
  | .writeCodingSnapshot _ => true
  | call => changes call

def Quiet (exchange : UExchange) : Prop :=
  writes exchange.call = false ∧ savedBy exchange = none

/-- The work on the unit before the synchronisation. -/
def Working (exchange : UExchange) : Prop :=
  match exchange.call with
  | .clearDtcs => True
  | .codeDme _ => True
  | .extractBench => True
  | _ => False

theorem stored_append (first second : List UExchange) :
    stored (first ++ second) = stored first ++ stored second :=
  List.filterMap_append

theorem stored_of_quiet {log : List UExchange}
    (quiet : ∀ exchange ∈ log, Quiet exchange) : stored log = [] := by
  rw [stored, List.filterMap_eq_nil_iff]
  exact fun exchange member => (quiet exchange member).2

theorem savedBy_of_working {exchange : UExchange}
    (working : Working exchange) : savedBy exchange = none := by
  obtain ⟨call, outcome⟩ := exchange
  cases call <;> first | rfl | exact working.elim

theorem stored_of_working {log : List UExchange}
    (working : ∀ exchange ∈ log, Working exchange) : stored log = [] := by
  rw [stored, List.filterMap_eq_nil_iff]
  exact fun exchange member => savedBy_of_working (working exchange member)

def saved (machine : UMachine) :
    Option EcuBackup × Bool × SmartSessionRecord :=
  (machine.backup, machine.data.rolledBack, machine.record)

def held (machine : UMachine) :
    (Option EcuBackup × Bool × SmartSessionRecord) × String :=
  (saved machine, machine.data.vin)

theorem advance_eq_ok {target : UState} {session after : USession} :
    advance target session = .ok ⟨⟩ after ↔
      target ∈ session.machine.state.allowed ∧
        after = { session with
                  machine := { session.machine with state := target } } :=
  Guided.advance_eq_ok

theorem goOn_eq_ok {expects : String} {actions : List String}
    {prompt : UPrompt} {session after : USession} :
    goOn expects actions session = .ok prompt after ↔
      prompt.state = session.machine.state ∧ prompt.expects = expects ∧
        prompt.actions = actions ++ rollbackAction session.machine ∧
        prompt.isTerminal = false ∧ prompt.isError = false ∧
        session = after := by
  obtain ⟨state, waits, offered, terminal, error⟩ := prompt
  rw [goOn, Txn.get_bind, Txn.pure_eq_ok]
  simp [eq_comm]
  tauto

theorem follows_goOn {relation : USession → USession → Prop}
    [Std.Refl relation] (expects : String) (actions : List String) :
    Txn.Follows (goOn expects actions) relation :=
  fun session => Std.Refl.refl session

theorem start_follows (technicianId gateway : Option String) :
    Txn.Follows (start world technicianId gateway)
      (Session.Grows Quiet saved) :=
  Txn.follows_bind Guided.within_follows fun _ =>
    Txn.follows_bind (Txn.follows_expect _ _) fun _ =>
    Txn.follows_bind (Session.follows_update _ fun _ => rfl) fun _ =>
    Txn.follows_bind (Txn.follows_expect _ _) fun _ =>
    Txn.follows_bind (Session.follows_update _ fun _ => rfl) fun _ =>
    Txn.follows_bind (Session.follows_ask _ _ fun _ => ⟨rfl, rfl⟩) fun _ =>
    Txn.follows_bind (Session.follows_ask _ _ fun _ => ⟨rfl, rfl⟩) fun _ =>
    Txn.follows_bind (Session.follows_ask _ _ fun _ => ⟨rfl, rfl⟩) fun _ =>
    Txn.follows_bind (Session.follows_update _ fun _ => rfl) fun _ =>
    Txn.follows_bind (Guided.advance_follows fun _ => rfl) fun _ =>
    follows_goOn _ _

theorem codeStep_follows (options : List (String × String)) :
    Txn.Follows (codeStep world options) (Session.Grows Working held) :=
  Txn.follows_bind Guided.within_follows fun _ =>
    Txn.follows_bind (Session.follows_ask _ _ fun _ => trivial) fun _ =>
    Txn.follows_bind (Session.follows_update _ fun _ => rfl) fun _ =>
    Txn.follows_bind (Session.follows_ask _ _ fun _ => trivial) fun _ =>
    Txn.follows_bind (Txn.follows_expect _ _) fun _ =>
    Txn.follows_bind (Session.follows_update _ fun _ => rfl) fun _ =>
    Txn.follows_bind (Guided.advance_follows fun _ => rfl) fun _ =>
    follows_goOn _ _

theorem extractStep_follows :
    Txn.Follows (extractStep world) (Session.Grows Working held) :=
  Txn.follows_bind Guided.within_follows fun _ =>
    Txn.follows_bind (Session.follows_ask _ _ fun _ => trivial) fun _ =>
    Txn.follows_bind (Guided.advance_follows fun _ => rfl) fun _ =>
    follows_goOn _ _

theorem readyStep_follows :
    Txn.Follows readyStep (Session.Grows Quiet held) :=
  Txn.follows_bind Guided.within_follows fun _ =>
    Txn.follows_bind (Guided.advance_follows fun _ => rfl) fun _ =>
    follows_goOn _ _

theorem branch_follows (locked : Bool) :
    Txn.Follows (branch world locked) (Session.Grows Quiet held) := by
  refine Txn.follows_ite ?_ (follows_goOn _ _)
  exact Txn.follows_bind (Guided.advance_follows fun _ => rfl) fun _ =>
    Txn.follows_bind (Session.follows_ask _ _ fun _ => ⟨rfl, rfl⟩) fun _ =>
    follows_goOn _ _

def backupCalls (backup : EcuBackup) : List UExchange :=
  [⟨.readCodingSnapshot, .ok backup.data⟩, ⟨.saveBackup backup, .ok ()⟩]

/-- The ways an event can move a session. -/
inductive Move (asked : UEvent) (before after : USession) : Prop
  /-- Nothing was written or saved. -/
  | quiet (calls : Session.Grows Quiet saved before after)
      (vin : after.machine.data.vin = before.machine.data.vin ∨
        before.machine.state = .idle)
      (state : after.machine.state = .failed ∨
        (before.machine.state = .idle ∧ after.machine.state = .detected) ∨
        (before.machine.state = .benchHalted ∧
          after.machine.state = .benchReady))
  /-- A rollback of what was rolled back. -/
  | stayed (same : after = before)
  /-- The backup was read and saved. -/
  | backedUp (backup : EcuBackup) (added : List UExchange)
      (detected : before.machine.state = .detected)
      (log : after.log = before.log ++ backupCalls backup ++ added)
      (quiet : ∀ exchange ∈ added, Quiet exchange)
      (named : backup.sha256 ≠ "" ∧ backup.vin ≠ "" ∧ backup.ecuName ≠ "")
      (vin : backup.vin = orDefault before.machine.data.vin backup.vin)
      (kept : held after.machine =
        ((some backup, before.machine.data.rolledBack,
          { backupSha256 := backup.sha256
            backupEcuName := backup.ecuName
            vin := backup.vin }), before.machine.data.vin))
      (state : after.machine.state = .failed ∨
        after.machine.state = .backedUp ∨ after.machine.state = .benchHalted)
  /-- The unit was worked on. -/
  | worked (calls : Session.Grows Working held before after)
      (ready : before.machine.state = .backedUp ∨
        before.machine.state = .benchReady)
      (state : after.machine.state = .failed ∨
        after.machine.state = .coded ∨ after.machine.state = .extracted)
  /-- The body module was synchronised, or the attempt failed. -/
  | synced (outcome : Except URaised Unit)
      (worked : before.machine.state = .coded ∨
        before.machine.state = .extracted)
      (log : after.log = before.log ++
        [⟨.syncModule before.machine.data.bodyModule, outcome⟩])
      (kept : held after.machine = held before.machine)
      (state : after.machine.state =
        if outcome = .ok () then .done else .failed)
  /-- The backup was written back, or the attempt failed. -/
  | restored (backup : EcuBackup) (outcome : Except URaised Unit)
      (rollback : asked = .rollback)
      (saved : before.machine.backup = some backup)
      (fresh : before.machine.data.rolledBack = false)
      (log : after.log = before.log ++
        [⟨.writeCodingSnapshot backup.data, outcome⟩])
      (kept : held after.machine =
        ((some backup, decide (outcome = .ok ()), before.machine.record),
          before.machine.data.vin))
      (state : after.machine.state =
        if outcome = .ok () then .rolledBack else .failed)

variable {asked : UEvent}

def Offers (prompt : UPrompt) (machine : UMachine) : Prop :=
  machine.state = .failed →
    ∀ action ∈ rollbackAction machine, action ∈ prompt.actions

theorem offers_of_ne {prompt : UPrompt} {machine : UMachine}
    (other : machine.state ≠ .failed) : Offers prompt machine :=
  fun failed => absurd failed other

/-- A block that moves a session and says so, or raises where the failed
session is a move. -/
structure Does (asked : UEvent) (block : UTxn UPrompt)
    (before : USession) : Prop where
  moves : ∀ prompt after, block before = .ok prompt after →
    Move asked before after ∧ Offers prompt after.machine
  raises : ∀ error after, block before = .error error after →
    ∀ fault, Move asked before { after with machine := after.machine.fail fault }

theorem fail_eq_ok {fault : UFault} {prompt : UPrompt}
    {session after : USession} :
    fail fault session = .ok prompt after ↔
      prompt = failPrompt (session.machine.fail fault) ∧
        after = { session with machine := session.machine.fail fault } := by
  constructor
  · rintro ⟨⟩
    exact ⟨rfl, rfl⟩
  · rintro ⟨rfl, rfl⟩
    rfl

theorem quiet_fail (before : USession) (fault : UFault) :
    Move asked before { before with machine := before.machine.fail fault } :=
  .quiet ⟨rfl, [], (List.append_nil _).symm, nofun⟩ (.inl rfl) (.inl rfl)

theorem offers_failPrompt (machine : UMachine) :
    Offers (failPrompt machine) machine :=
  fun _ _ member => List.mem_append_left _ member

theorem does_fail (fault : UFault) (before : USession) :
    Does asked (fail fault) before := by
  constructor
  · intro prompt after returned
    obtain ⟨rfl, rfl⟩ := fail_eq_ok.mp returned
    exact ⟨quiet_fail before fault, offers_failPrompt _⟩
  · rintro error after ⟨⟩

/-- An event out of its state moves nothing. -/
theorem does_onlyIn {event : String} {only : UState}
    {next : PUnit → UTxn UPrompt} {before : USession}
    (does : before.machine.state = only →
      Does asked (onlyIn event only >>= next) before) :
    Does asked (onlyIn event only >>= next) before := by
  by_cases state : before.machine.state = only
  · exact does state
  · constructor
    · intro prompt after returned
      obtain ⟨⟨⟩, _, entered, -⟩ := Txn.bind_eq_ok.mp returned
      exact absurd (Guided.within_eq_ok.mp entered).1 state
    · intro error after failed fault
      rcases Txn.bind_eq_error.mp failed with failed | ⟨⟨⟩, _, entered, -⟩
      · rw [Guided.within_eq_error failed]
        exact quiet_fail before fault
      · exact absurd (Guided.within_eq_ok.mp entered).1 state

theorem advance_goOn {target : UState} {expects : String}
    {actions : List String} {prompt : UPrompt} {session after : USession}
    (returned : (do advance target; goOn expects actions) session =
      .ok prompt after) :
    after.machine.state = target := by
  obtain ⟨⟨⟩, _, advanced, waited⟩ := Txn.bind_eq_ok.mp returned
  obtain ⟨-, rfl⟩ := advance_eq_ok.mp advanced
  obtain ⟨-, -, -, -, -, rfl⟩ := goOn_eq_ok.mp waited
  rfl

theorem grows_fail {allowed : UExchange → Prop} {τ : Type}
    {view : UMachine → τ} {before after : USession} (fault : UFault)
    (kept : ∀ machine : UMachine, view (machine.fail fault) = view machine)
    (grows : Session.Grows allowed view before after) :
    Session.Grows allowed view before
      { after with machine := after.machine.fail fault } :=
  ⟨(kept _).trans grows.1, grows.2⟩

theorem start_state {technicianId gateway : Option String} {prompt : UPrompt}
    {session after : USession}
    (returned : start world technicianId gateway session = .ok prompt after) :
    after.machine.state = .detected := by
  obtain ⟨_, _, -, returned⟩ := Txn.bind_eq_ok.mp returned
  obtain ⟨_, _, -, returned⟩ := Txn.bind_eq_ok.mp returned
  obtain ⟨_, _, -, returned⟩ := Txn.bind_eq_ok.mp returned
  obtain ⟨_, _, -, returned⟩ := Txn.bind_eq_ok.mp returned
  obtain ⟨_, _, -, returned⟩ := Txn.bind_eq_ok.mp returned
  obtain ⟨_, _, -, returned⟩ := Txn.bind_eq_ok.mp returned
  obtain ⟨_, _, -, returned⟩ := Txn.bind_eq_ok.mp returned
  obtain ⟨_, _, -, returned⟩ := Txn.bind_eq_ok.mp returned
  obtain ⟨_, _, -, returned⟩ := Txn.bind_eq_ok.mp returned
  exact advance_goOn returned

theorem does_start (technicianId gateway : Option String)
    (before : USession) : Does asked (start world technicianId gateway) before := by
  refine does_onlyIn fun idle => ⟨?_, ?_⟩
  · intro prompt after returned
    have detected := start_state returned
    refine ⟨.quiet ((start_follows _ _).of_ok returned) (.inr idle)
      (.inr (.inl ⟨idle, detected⟩)), offers_of_ne ?_⟩
    rw [detected]
    decide
  · intro error after failed fault
    exact .quiet (grows_fail fault (fun _ => rfl)
      ((start_follows _ _).of_error failed)) (.inr idle) (.inl rfl)

theorem code_state {options : List (String × String)} {prompt : UPrompt}
    {session after : USession}
    (returned : codeStep world options session = .ok prompt after) :
    after.machine.state = .coded := by
  obtain ⟨_, _, -, returned⟩ := Txn.bind_eq_ok.mp returned
  obtain ⟨_, _, -, returned⟩ := Txn.bind_eq_ok.mp returned
  obtain ⟨_, _, -, returned⟩ := Txn.bind_eq_ok.mp returned
  obtain ⟨_, _, -, returned⟩ := Txn.bind_eq_ok.mp returned
  obtain ⟨_, _, -, returned⟩ := Txn.bind_eq_ok.mp returned
  obtain ⟨_, _, -, returned⟩ := Txn.bind_eq_ok.mp returned
  exact advance_goOn returned

theorem does_code (options : List (String × String)) (before : USession) :
    Does asked (codeStep world options) before := by
  refine does_onlyIn fun backedUp => ⟨?_, ?_⟩
  · intro prompt after returned
    have coded := code_state returned
    refine ⟨.worked ((codeStep_follows _).of_ok returned) (.inl backedUp)
      (.inr (.inl coded)), offers_of_ne ?_⟩
    rw [coded]
    decide
  · intro error after failed fault
    exact .worked (grows_fail fault (fun _ => rfl)
      ((codeStep_follows _).of_error failed)) (.inl backedUp) (.inl rfl)

theorem does_extract (before : USession) :
    Does asked (extractStep world) before := by
  refine does_onlyIn fun ready => ⟨?_, ?_⟩
  · intro prompt after returned
    have calls := extractStep_follows.of_ok returned
    obtain ⟨_, _, -, returned⟩ := Txn.bind_eq_ok.mp returned
    obtain ⟨_, _, -, returned⟩ := Txn.bind_eq_ok.mp returned
    have extracted := advance_goOn returned
    refine ⟨.worked calls (.inr ready) (.inr (.inr extracted)),
      offers_of_ne ?_⟩
    rw [extracted]
    decide
  · intro error after failed fault
    exact .worked (grows_fail fault (fun _ => rfl)
      (extractStep_follows.of_error failed)) (.inr ready) (.inl rfl)

theorem does_ready (before : USession) : Does asked readyStep before := by
  refine does_onlyIn fun halted => ⟨?_, ?_⟩
  · intro prompt after returned
    have calls := readyStep_follows.of_ok returned
    obtain ⟨_, _, -, returned⟩ := Txn.bind_eq_ok.mp returned
    have ready := advance_goOn returned
    refine ⟨.quiet ⟨(Prod.mk.inj calls.1).1, calls.2⟩
      (.inl (Prod.mk.inj calls.1).2) (.inr (.inr ⟨halted, ready⟩)),
      offers_of_ne ?_⟩
    rw [ready]
    decide
  · intro error after failed fault
    have calls := readyStep_follows.of_error failed
    exact .quiet (grows_fail fault (fun _ => rfl)
      ⟨(Prod.mk.inj calls.1).1, calls.2⟩) (.inl (Prod.mk.inj calls.1).2)
      (.inl rfl)

def tookBackup (session : USession) (backup : EcuBackup) : USession :=
  { machine :=
      { state := .backedUp
        data :=
          { session.machine.data with
            backupSha256 := backup.sha256
            backupSize := backup.data.length }
        backup := some backup
        record :=
          { backupSha256 := backup.sha256
            backupEcuName := backup.ecuName
            vin := backup.vin } }
    log := session.log ++ backupCalls backup }

theorem sink_eq_ok {backup : EcuBackup} {session after : USession}
    (returned : sink world backup session = .ok ⟨⟩ after) :
    after =
      { machine :=
          { session.machine with
            record :=
              { backupSha256 := backup.sha256
                backupEcuName := backup.ecuName
                vin := backup.vin } }
        log := session.log ++ [⟨.saveBackup backup, .ok ()⟩] } := by
  obtain ⟨⟨⟩, -, returned⟩ := Session.ask_bind_eq_ok.mp returned
  rw [Session.update_eq_ok] at returned
  exact returned.symm

theorem sink_eq_error {backup : EcuBackup} {error : URaised}
    {session after : USession}
    (failed : sink world backup session = .error error after) :
    after = { session with
              log := session.log ++ [⟨.saveBackup backup, .error error⟩] } := by
  rcases Txn.bind_eq_error.mp failed with failed | ⟨⟨⟩, _, -, failed⟩
  · exact (Session.ask_eq_error.mp failed).2
  · exact absurd failed Session.update_eq_error

theorem backupStep_eq_ok {prompt : UPrompt} {session after : USession}
    (returned : backupStep world session = .ok prompt after) :
    ∃ raw, branch world session.machine.data.dmeLocked
      (tookBackup session (backupOf session.machine.data raw)) =
        .ok prompt after := by
  obtain ⟨⟨⟩, _, entered, returned⟩ := Txn.bind_eq_ok.mp returned
  obtain ⟨-, rfl⟩ := Guided.within_eq_ok.mp entered
  rw [Txn.get_bind] at returned
  obtain ⟨raw, -, returned⟩ := Session.ask_bind_eq_ok.mp returned
  obtain ⟨⟨⟩, _, sunk, returned⟩ := Txn.bind_eq_ok.mp returned
  obtain rfl := sink_eq_ok sunk
  rw [Session.update_bind] at returned
  obtain ⟨⟨⟩, _, advanced, returned⟩ := Txn.bind_eq_ok.mp returned
  obtain ⟨-, rfl⟩ := advance_eq_ok.mp advanced
  refine ⟨raw, ?_⟩
  rw [List.append_assoc] at returned
  exact returned

theorem backupStep_eq_error {error : URaised} {session after : USession}
    (detected : session.machine.state = .detected)
    (failed : backupStep world session = .error error after) :
    Session.Grows Quiet held session after ∨
      ∃ raw, branch world session.machine.data.dmeLocked
        (tookBackup session (backupOf session.machine.data raw)) =
          .error error after := by
  rcases Txn.bind_eq_error.mp failed with failed | ⟨⟨⟩, _, entered, failed⟩
  · rw [Guided.within_eq_error failed]
    exact .inl (Std.Refl.refl session)
  obtain ⟨-, rfl⟩ := Guided.within_eq_ok.mp entered
  rw [Txn.get_bind] at failed
  rcases Txn.bind_eq_error.mp failed with failed | ⟨raw, _, asked, failed⟩
  · obtain ⟨-, rfl⟩ := Session.ask_eq_error.mp failed
    refine .inl ⟨rfl, [_], rfl, ?_⟩
    intro exchange member
    rw [List.mem_singleton.mp member]
    exact ⟨rfl, rfl⟩
  obtain ⟨-, rfl⟩ := Session.ask_eq_ok.mp asked
  rcases Txn.bind_eq_error.mp failed with failed | ⟨⟨⟩, _, sunk, failed⟩
  · obtain rfl := sink_eq_error failed
    refine .inl ⟨rfl, [_, _], List.append_assoc .., ?_⟩
    intro exchange member
    rcases List.mem_cons.mp member with rfl | member
    · exact ⟨rfl, rfl⟩
    · rw [List.mem_singleton.mp member]
      exact ⟨rfl, rfl⟩
  obtain rfl := sink_eq_ok sunk
  rw [Session.update_bind] at failed
  rcases Txn.bind_eq_error.mp failed with failed | ⟨⟨⟩, _, advanced, failed⟩
  · refine absurd ?_ (Guided.advance_eq_error failed).1
    change UState.backedUp ∈ session.machine.state.allowed
    rw [detected]
    decide
  obtain ⟨-, rfl⟩ := advance_eq_ok.mp advanced
  refine .inr ⟨raw, ?_⟩
  rw [List.append_assoc] at failed
  exact failed

theorem branch_state {locked : Bool} {prompt : UPrompt}
    {session after : USession}
    (returned : branch world locked session = .ok prompt after) :
    after.machine.state = .benchHalted ∨
      after.machine.state = session.machine.state := by
  unfold branch at returned
  split at returned
  · obtain ⟨⟨⟩, _, advanced, returned⟩ := Txn.bind_eq_ok.mp returned
    obtain ⟨-, rfl⟩ := advance_eq_ok.mp advanced
    obtain ⟨pinout, -, returned⟩ := Session.ask_bind_eq_ok.mp returned
    obtain ⟨-, -, -, -, -, rfl⟩ := goOn_eq_ok.mp returned
    exact .inl rfl
  · obtain ⟨-, -, -, -, -, rfl⟩ := goOn_eq_ok.mp returned
    exact .inr rfl

theorem orDefault_orDefault (text fallback : String) :
    orDefault text (orDefault text fallback) = orDefault text fallback := by
  unfold orDefault
  split <;> rfl

theorem orDefault_ne_empty {text fallback : String} (other : fallback ≠ "") :
    orDefault text fallback ≠ "" := by
  unfold orDefault
  split
  · exact other
  · assumption

theorem move_tookBackup {before after : USession} {raw : List UInt8}
    (detected : before.machine.state = .detected)
    (calls : Session.Grows Quiet held
      (tookBackup before (backupOf before.machine.data raw)) after)
    (state : after.machine.state = .failed ∨
      after.machine.state = .backedUp ∨
      after.machine.state = .benchHalted) : Move asked before after := by
  obtain ⟨kept, added, log, quiet⟩ := calls
  refine .backedUp (backupOf before.machine.data raw) added detected log quiet
    ⟨Sha256.hexDigest_ne_empty raw, orDefault_ne_empty (by decide), ?_⟩
    (orDefault_orDefault _ _).symm kept state
  intro empty
  have length := congrArg String.length empty
  simp [backupOf, newBackup] at length

theorem does_backup (before : USession) :
    Does asked (backupStep world) before := by
  refine does_onlyIn fun detected => ⟨?_, ?_⟩
  · intro prompt after returned
    obtain ⟨raw, branched⟩ := backupStep_eq_ok returned
    have state : after.machine.state = .benchHalted ∨
        after.machine.state = .backedUp := branch_state branched
    refine ⟨move_tookBackup detected ((branch_follows _).of_ok branched)
      (.inr state.symm), offers_of_ne ?_⟩
    rcases state with state | state <;> rw [state] <;> decide
  · intro error after failed fault
    rcases backupStep_eq_error detected failed with calls | ⟨raw, branched⟩
    · exact .quiet (grows_fail fault (fun _ => rfl)
        ⟨(Prod.mk.inj calls.1).1, calls.2⟩) (.inl (Prod.mk.inj calls.1).2)
        (.inl rfl)
    · exact move_tookBackup detected (grows_fail fault (fun _ => rfl)
        ((branch_follows _).of_error branched)) (.inl rfl)

theorem does_sync (before : USession) : Does asked (syncStep world) before := by
  constructor
  · intro prompt after returned
    rw [syncStep, Txn.get_bind] at returned
    obtain ⟨worked, returned⟩ := Txn.require_bind_eq_ok.mp returned
    obtain ⟨⟨⟩, -, returned⟩ := Session.ask_bind_eq_ok.mp returned
    obtain ⟨⟨⟩, _, advanced, returned⟩ := Txn.bind_eq_ok.mp returned
    obtain ⟨-, rfl⟩ := advance_eq_ok.mp advanced
    obtain ⟨-, rfl⟩ := Txn.pure_eq_ok.mp returned
    exact ⟨.synced (.ok ()) worked rfl rfl rfl, offers_of_ne nofun⟩
  · intro error after failed fault
    rw [syncStep, Txn.get_bind] at failed
    rcases Txn.bind_eq_error.mp failed with failed | ⟨⟨⟩, _, required, failed⟩
    · obtain ⟨-, -, rfl⟩ := Txn.require_eq_error.mp failed
      exact quiet_fail before fault
    obtain ⟨worked, rfl⟩ := Txn.require_eq_ok.mp required
    rcases Txn.bind_eq_error.mp failed with failed | ⟨⟨⟩, _, asked, failed⟩
    · obtain ⟨-, rfl⟩ := Session.ask_eq_error.mp failed
      exact .synced (.error error) worked rfl rfl rfl
    obtain ⟨-, rfl⟩ := Session.ask_eq_ok.mp asked
    rcases Txn.bind_eq_error.mp failed with failed | ⟨⟨⟩, _, advanced, failed⟩
    · refine absurd ?_ (Guided.advance_eq_error failed).1
      change UState.done ∈ before.machine.state.allowed
      rcases worked with state | state <;> rw [state] <;> decide
    · exact absurd failed Txn.pure_eq_error

theorem does_writeBack {backup : EcuBackup} {before : USession}
    (saved : before.machine.backup = some backup)
    (fresh : before.machine.data.rolledBack = false) :
    Does .rollback (writeBack world backup) before := by
  constructor
  · intro prompt after returned
    obtain ⟨⟨⟩, -, returned⟩ := Session.ask_bind_eq_ok.mp returned
    rw [Session.update_bind] at returned
    rw [Session.update_bind] at returned
    obtain ⟨-, rfl⟩ := Txn.pure_eq_ok.mp returned
    refine ⟨.restored backup (.ok ()) rfl saved fresh rfl ?_ rfl,
      offers_of_ne nofun⟩
    simp only [held, Universal.saved, UMachine.withData, saved, decide_true]
  · intro error after failed fault
    rcases Txn.bind_eq_error.mp failed with failed | ⟨⟨⟩, _, asked, failed⟩
    · obtain ⟨-, rfl⟩ := Session.ask_eq_error.mp failed
      refine .restored backup (.error error) rfl saved fresh rfl ?_ rfl
      simp only [held, Universal.saved, UMachine.fail, saved, fresh,
        reduceCtorEq, decide_false]
    obtain ⟨-, rfl⟩ := Session.ask_eq_ok.mp asked
    rcases Txn.bind_eq_error.mp failed with failed | ⟨⟨⟩, _, -, failed⟩
    · exact absurd failed Session.update_eq_error
    rcases Txn.bind_eq_error.mp failed with failed | ⟨⟨⟩, _, -, failed⟩
    · exact absurd failed Session.update_eq_error
    · exact absurd failed Txn.pure_eq_error

theorem Does.of_eq {asked : UEvent} {block other : UTxn UPrompt}
    {before : USession} (does : Does asked other before)
    (same : block before = other before) : Does asked block before :=
  ⟨same ▸ does.moves, same ▸ does.raises⟩

theorem does_rollback (before : USession) :
    Does .rollback (rollbackStep world) before := by
  cases saved : before.machine.backup with
  | none =>
      refine (does_fail .noBackup before).of_eq ?_
      rw [rollbackStep, Txn.get_bind, saved]
  | some backup =>
      cases fresh : before.machine.data.rolledBack with
      | true =>
          have same : rollbackStep world before =
              (pure (endPrompt .rolledBack) : UTxn UPrompt) before := by
            rw [rollbackStep, Txn.get_bind, saved, fresh]
            rfl
          refine Does.of_eq ?_ same
          constructor
          · intro prompt after returned
            obtain ⟨-, rfl⟩ := Txn.pure_eq_ok.mp returned
            refine ⟨.stayed rfl, ?_⟩
            intro _ action member
            rw [rollbackAction, if_pos (.inr fresh)] at member
            cases member
          · intro error after failed
            exact absurd failed Txn.pure_eq_error
      | false =>
          have same : rollbackStep world before =
              writeBack world backup before := by
            rw [rollbackStep, Txn.get_bind, saved, fresh]
            rfl
          exact (does_writeBack saved fresh).of_eq same

theorem does_abort (before : USession) : Does asked abort before := by
  have follow : abort before =
      (if rollbackAction before.machine ≠ [] then fail .abortedByUser
      else do
        Session.update fun machine => { machine with state := .failed }
        pure (endPrompt .failed) : UTxn UPrompt) before := rfl
  suffices Does asked (if rollbackAction before.machine ≠ [] then
      fail .abortedByUser
      else do
        Session.update fun machine => { machine with state := .failed }
        pure (endPrompt .failed)) before from
    ⟨follow ▸ this.moves, follow ▸ this.raises⟩
  split
  · exact does_fail _ before
  · rename_i offered
    constructor
    · intro prompt after returned
      rw [Session.update_bind] at returned
      obtain ⟨-, rfl⟩ := Txn.pure_eq_ok.mp returned
      refine ⟨.quiet ⟨rfl, [], (List.append_nil _).symm, nofun⟩ (.inl rfl)
        (.inl rfl), ?_⟩
      intro _ action member
      have empty : rollbackAction before.machine = [] := not_not.mp offered
      have same : rollbackAction before.machine =
        rollbackAction { before.machine with state := .failed } := rfl
      rw [← same, empty] at member
      cases member
    · intro error after failed
      rcases Txn.bind_eq_error.mp failed with failed | ⟨⟨⟩, _, -, failed⟩
      · exact absurd failed Session.update_eq_error
      · exact absurd failed Txn.pure_eq_error

theorem does_dispatch (event : UEvent) (before : USession) :
    Does event (dispatch world event) before := by
  cases event with
  | start technicianId gateway => exact does_start technicianId gateway before
  | backup => exact does_backup before
  | code options => exact does_code options before
  | ready => exact does_ready before
  | extract => exact does_extract before
  | sync => exact does_sync before
  | abort => exact does_abort before
  | rollback => exact does_rollback before
  | unknown text => exact does_fail _ before

/-- Every event moves the session, and a failed session offers its rollback. -/
theorem handle_move (world : World uInterface URaised) (event : UEvent)
    (before : USession) :
    ∃ prompt after, handle world event before = .ok prompt after ∧
      Move event before after ∧ Offers prompt after.machine := by
  cases called : dispatch world event before with
  | ok prompt after =>
      exact ⟨prompt, after, Guided.recovering_of_ok called,
        (does_dispatch event before).moves prompt after called⟩
  | error error after =>
      refine ⟨_, _, (Guided.recovering_of_error called).trans
        (fail_eq_ok.mpr ⟨rfl, rfl⟩), ?_, offers_failPrompt _⟩
      exact (does_dispatch event before).raises error after called _

end Universal

end Mousstec
