import Mousstec.Ecu.Flash

/-!
# What a flash event can do

Every event moves the machine in one of seven ways: it is refused, it starts
the job, takes the backup, flashes, finishes, writes the backup back without
having flashed, or fails in the middle of flashing and writes the backup back.
-/

namespace Mousstec

namespace Flash

open Library

abbrev FlashExchange := Exchange flashInterface FlashRaised

/-- The calls that leave the flash memory of the unit alone. -/
def Quiet (exchange : FlashExchange) : Prop :=
  match exchange.call with
  | .erase _ => False
  | .transferBlock _ _ => False
  | .restoreBackup _ => False
  | _ => True

/-- The calls of a flash in progress, after its erase. -/
def Writing (exchange : FlashExchange) : Prop :=
  match exchange.call with
  | .erase _ => False
  | .restoreBackup _ => False
  | _ => True

theorem Quiet.writing {exchange : FlashExchange} (quiet : Quiet exchange) :
    Writing exchange := by
  obtain ⟨call, outcome⟩ := exchange
  cases call <;> trivial

def blockOf : FlashExchange → Option (List UInt8)
  | ⟨.transferBlock _ data, .ok _⟩ => some data
  | _ => none

def transferred (log : List FlashExchange) : List (List UInt8) :=
  log.filterMap blockOf

def restoreOf : FlashExchange → Option FlashBackup
  | ⟨.restoreBackup backup, _⟩ => some backup
  | _ => none

def restores (log : List FlashExchange) : List FlashBackup :=
  log.filterMap restoreOf

theorem restoreOf_of_writing {exchange : FlashExchange}
    (writing : Writing exchange) : restoreOf exchange = none := by
  obtain ⟨call, outcome⟩ := exchange
  cases call <;> first | rfl | exact writing.elim

theorem blockOf_of_quiet {exchange : FlashExchange} (quiet : Quiet exchange) :
    blockOf exchange = none := by
  obtain ⟨call, outcome⟩ := exchange
  cases call <;> first | rfl | exact quiet.elim

theorem restores_of_writing {log : List FlashExchange}
    (writing : ∀ exchange ∈ log, Writing exchange) : restores log = [] := by
  rw [restores, List.filterMap_eq_nil_iff]
  exact fun exchange member => restoreOf_of_writing (writing exchange member)

theorem transferred_of_quiet {log : List FlashExchange}
    (quiet : ∀ exchange ∈ log, Quiet exchange) : transferred log = [] := by
  rw [transferred, List.filterMap_eq_nil_iff]
  exact fun exchange member => blockOf_of_quiet (quiet exchange member)

theorem transferred_append (first second : List FlashExchange) :
    transferred (first ++ second) = transferred first ++ transferred second :=
  List.filterMap_append

theorem transferred_singleton (exchange : FlashExchange) :
    transferred [exchange] = (blockOf exchange).toList := by
  rw [transferred, List.filterMap_cons]
  cases blockOf exchange <;> rfl

theorem restores_append (first second : List FlashExchange) :
    restores (first ++ second) = restores first ++ restores second :=
  List.filterMap_append

theorem blocks_flatten (payload : List UInt8) (blockLen count : Nat) :
    ((List.range count).map fun index =>
      (payload.drop (index * blockLen)).take blockLen).flatten =
        payload.take (count * blockLen) := by
  induction count with
  | zero => simp
  | succ count induction =>
      rw [List.range_succ, List.map_append, List.flatten_append, induction,
        List.map_singleton, List.flatten_singleton, ← List.take_add]
      congr 1
      ring

theorem payloadBlocks_flatten (payload : List UInt8) {blockLen : Nat}
    (positive : 0 < blockLen) :
    (payloadBlocks payload blockLen).flatten = payload := by
  rw [payloadBlocks, blocks_flatten, List.take_of_length_le]
  have enough : payload.length + blockLen - 1 < _ :=
    Nat.lt_div_mul_add positive
  omega

def task (machine : FlashMachine) :
    Option FlashJob × List UInt8 × Nat × Nat :=
  (machine.job, machine.payload, machine.data.payloadLen,
    machine.data.payloadChecksum)

def saved (machine : FlashMachine) : Option FlashBackup × Bool :=
  (machine.backup, machine.data.rolledBack)

def core (machine : FlashMachine) :
    FlashState × (Option FlashJob × List UInt8 × Nat × Nat) ×
      (Option FlashBackup × Bool) :=
  (machine.state, task machine, saved machine)

variable {world : World flashInterface FlashRaised} {guarded : Bool}

theorem advance_follows {target : FlashState} {τ : Type}
    {view : FlashMachine → τ} {allowed : FlashExchange → Prop}
    (kept : ∀ machine : FlashMachine,
      view { machine with state := target } = view machine) :
    Txn.Follows (advance target) (Session.Grows allowed view) :=
  Txn.follows_bind Txn.follows_get fun _ =>
    Txn.follows_bind (Txn.follows_require _ _) fun _ =>
    Session.follows_update _ kept

theorem startProbed_follows (job : FlashJob) :
    Txn.Follows (startProbed world job)
      (Session.Grows Quiet fun machine => (task machine, saved machine)) := by
  refine Txn.follows_bind (Session.follows_ask _ _ fun _ => trivial) fun _ =>
    Txn.follows_bind (Session.follows_update _ fun _ => rfl) fun _ =>
    Txn.follows_ite (Session.follows_update _ fun _ => rfl) ?_
  exact Txn.follows_bind (Session.follows_ask _ _ fun _ => trivial) fun _ =>
    Txn.follows_bind (Session.follows_update _ fun _ => rfl) fun _ =>
    advance_follows fun _ => rfl

theorem startEntitled_follows (job : FlashJob) :
    Txn.Follows (startEntitled world guarded job)
      (Session.Grows Quiet fun machine => (task machine, saved machine)) := by
  refine Txn.follows_ite ?_ (startProbed_follows job)
  exact Txn.follows_bind (Session.follows_ask _ _ fun _ => trivial) fun _ =>
    Txn.follows_ite (startProbed_follows job)
      (Session.follows_update _ fun _ => rfl)

theorem start_follows (payload : StartPayload) :
    Txn.Follows (start world guarded payload) (Session.Grows Quiet saved) := by
  refine Txn.follows_bind Txn.follows_get fun _ =>
    Txn.follows_bind (Txn.follows_require _ _) fun _ => ?_
  split
  · exact Session.follows_update _ fun _ => rfl
  refine Txn.follows_bind (Session.follows_update _ fun _ => rfl) fun _ => ?_
  split
  · exact Session.follows_update _ fun _ => rfl
  refine Txn.follows_ite (Session.follows_update _ fun _ => rfl) ?_
  exact Txn.follows_bind (Session.follows_update _ fun _ => rfl) fun _ =>
    Txn.follows_bind (Txn.follows_expect _ _) fun _ =>
    Txn.follows_bind (Session.follows_update _ fun _ => rfl) fun _ =>
    (startEntitled_follows _).mono fun moved => ⟨(Prod.mk.inj moved.1).2, moved.2⟩

theorem unlockFor_follows (job : FlashJob) (vin : String) :
    Txn.Follows (unlockFor world job vin) (Session.Grows Quiet core) :=
  Txn.follows_ite
    (Txn.follows_bind (Session.follows_ask _ _ fun _ => trivial) fun _ =>
      Txn.follows_pure _)
    (Txn.follows_pure _)

theorem transferBlocks_follows (seq : Nat) (blocks : List (List UInt8)) :
    Txn.Follows (transferBlocks world seq blocks)
      (Session.Grows Writing core) := by
  induction blocks generalizing seq with
  | nil => exact Txn.follows_pure _
  | cons block blocks induction =>
      exact Txn.follows_bind (Session.follows_ask _ _ fun _ => trivial)
        fun _ => induction (seq + 1)

theorem writeImage_follows (job : FlashJob) (machine : FlashMachine) :
    Txn.Follows (writeImage world job machine)
      (Session.Grows Writing core) :=
  Txn.follows_bind (Session.follows_ask _ _ fun _ => trivial) fun _ =>
    Txn.follows_bind (transferBlocks_follows _ _) fun _ =>
    Txn.follows_bind (Session.follows_update _ fun _ => rfl) fun _ =>
    Txn.follows_bind (Session.follows_ask _ _ fun _ => trivial) fun _ =>
    Txn.follows_bind (Session.follows_ask _ _ fun _ => trivial) fun _ =>
    Txn.follows_bind (Session.follows_ask _ _ fun _ => trivial) fun _ =>
    Txn.follows_bind (Session.follows_ask _ _ fun _ => trivial) fun _ =>
    Txn.follows_pure _

theorem finish_follows :
    Txn.Follows (finish world guarded) (Session.Grows Quiet fun machine =>
      (machine.job, machine.payload, machine.data.payloadLen,
        machine.data.payloadChecksum, saved machine)) :=
  Txn.follows_bind Txn.follows_get fun _ =>
    Txn.follows_bind (Txn.follows_require _ _) fun _ =>
    Txn.follows_bind (advance_follows fun _ => rfl) fun _ =>
    Txn.follows_bind (Txn.follows_expect _ _) fun _ =>
    Txn.follows_ite
      (Txn.follows_bind (Session.follows_ask _ _ fun _ => trivial) fun _ =>
        Txn.follows_pure _)
      (Txn.follows_pure _)

theorem advance_eq_ok {target : FlashState} {session after : FlashSession} :
    advance target session = .ok ⟨⟩ after ↔
      target ∈ session.machine.state.allowed ∧
        after = { session with
                  machine := { session.machine with state := target } } := by
  rw [advance, Txn.get_bind]
  simp only [Txn.bind_eq_ok, Txn.require_eq_ok, Session.update_eq_ok]
  constructor
  · rintro ⟨⟨⟩, _, ⟨permitted, rfl⟩, rfl⟩
    exact ⟨permitted, rfl⟩
  · rintro ⟨permitted, rfl⟩
    exact ⟨⟨⟩, session, ⟨permitted, rfl⟩, rfl⟩

theorem advance_eq_error {target : FlashState} {error : FlashRaised}
    {session after : FlashSession}
    (failed : advance target session = .error error after) :
    target ∉ session.machine.state.allowed ∧ after = session := by
  rw [advance, Txn.get_bind] at failed
  rcases Txn.bind_eq_error.mp failed with failed | ⟨_, _, -, failed⟩
  · obtain ⟨refused, -, same⟩ := Txn.require_eq_error.mp failed
    exact ⟨refused, same.symm⟩
  · exact absurd failed Session.update_eq_error

theorem startProbed_eq_ok {job : FlashJob} {session after : FlashSession}
    (returned : startProbed world job session = .ok ⟨⟩ after) :
    after.machine.state = .failed ∨ after.machine.state = .ready := by
  obtain ⟨report, _, -, returned⟩ := Txn.bind_eq_ok.mp returned
  obtain ⟨⟨⟩, _, -, returned⟩ := Txn.bind_eq_ok.mp returned
  split at returned
  · rw [Session.update_eq_ok] at returned
    exact .inl (returned ▸ rfl)
  · obtain ⟨version, _, -, returned⟩ := Txn.bind_eq_ok.mp returned
    obtain ⟨⟨⟩, _, -, returned⟩ := Txn.bind_eq_ok.mp returned
    obtain ⟨-, rfl⟩ := advance_eq_ok.mp returned
    exact .inr rfl

theorem startEntitled_eq_ok {job : FlashJob} {session after : FlashSession}
    (returned : startEntitled world guarded job session = .ok ⟨⟩ after) :
    after.machine.state = .failed ∨ after.machine.state = .ready := by
  unfold startEntitled at returned
  split at returned
  · obtain ⟨verdict, _, -, returned⟩ := Txn.bind_eq_ok.mp returned
    split at returned
    · exact startProbed_eq_ok returned
    · rw [Session.update_eq_ok] at returned
      exact .inl (returned ▸ rfl)
  · exact startProbed_eq_ok returned

/-- The machine holds a job and an image with its length and its checksum. -/
def Loaded (machine : FlashMachine) : Prop :=
  ∃ job, machine.job = some job ∧
    machine.data.payloadLen = machine.payload.length ∧
    computeChecksum machine.payload job.checksumAlgo =
      some machine.data.payloadChecksum

theorem loaded_of_task {machine other : FlashMachine}
    (same : task machine = task other) (loaded : Loaded other) :
    Loaded machine := by
  simp only [task, Prod.mk.injEq] at same
  obtain ⟨job, payload, length, checksum⟩ := same
  rw [Loaded, job, payload, length, checksum]
  exact loaded

theorem startImage_eq_ok {job : FlashJob} {image : List UInt8}
    {session after : FlashSession} (held : session.machine.job = some job)
    (returned : startImage world guarded job image session = .ok ⟨⟩ after) :
    after.machine.state = .failed ∨
      after.machine.state = .ready ∧ Loaded after.machine := by
  unfold startImage at returned
  split at returned
  · rw [Session.update_eq_ok] at returned
    exact .inl (returned ▸ rfl)
  · simp only [Txn.bind_eq_ok, Session.update_eq_ok, Txn.expect_eq_ok]
      at returned
    obtain ⟨⟨⟩, _, rfl, checksum, _, ⟨computed, rfl⟩, ⟨⟩, _, rfl, returned⟩ :=
      returned
    refine (startEntitled_eq_ok returned).imp_right fun ready => ⟨ready, ?_⟩
    have same := ((startEntitled_follows job).of_ok returned).1
    exact loaded_of_task (Prod.mk.inj same).1 ⟨job, held, rfl, computed⟩

theorem start_eq_ok {payload : StartPayload} {session after : FlashSession}
    (returned : start world guarded payload session = .ok ⟨⟩ after) :
    session.machine.state = .idle ∧
      (after.machine.state = .failed ∨
        after.machine.state = .ready ∧ Loaded after.machine) := by
  rw [start, Txn.get_bind] at returned
  obtain ⟨idle, returned⟩ := Txn.require_bind_eq_ok.mp returned
  refine ⟨idle, ?_⟩
  cases found : getFlashJob payload.jobCode with
  | none =>
      simp only [found, Session.update_eq_ok] at returned
      exact .inl (returned ▸ rfl)
  | some job =>
      simp only [found] at returned
      rw [Session.update_bind] at returned
      cases given : payload.image with
      | none =>
          simp only [given, Session.update_eq_ok] at returned
          exact .inl (returned ▸ rfl)
      | some image =>
          simp only [given] at returned
          exact startImage_eq_ok rfl returned

def stateOf (machine : FlashMachine) : FlashState :=
  machine.state

theorem advance_raises {target : FlashState}
    {relation : FlashSession → FlashSession → Prop} [Std.Refl relation] :
    Txn.RaisesWithin (advance target) relation := by
  intro session error after failed
  rw [(advance_eq_error failed).2]
  exact Std.Refl.refl session

theorem startProbed_raises (job : FlashJob) :
    Txn.RaisesWithin (startProbed world job) (Session.Grows Quiet stateOf) :=
  Txn.raisesWithin_bind (Session.follows_ask _ _ fun _ => trivial) fun _ =>
    Txn.raisesWithin_bind (Session.follows_update _ fun _ => rfl) fun _ =>
    Txn.raisesWithin_ite (Txn.raisesWithin_modify _) <|
    Txn.raisesWithin_bind (Session.follows_ask _ _ fun _ => trivial) fun _ =>
    Txn.raisesWithin_bind (Session.follows_update _ fun _ => rfl) fun _ =>
    advance_raises

theorem startEntitled_raises (job : FlashJob) :
    Txn.RaisesWithin (startEntitled world guarded job)
      (Session.Grows Quiet stateOf) :=
  Txn.raisesWithin_ite
    (Txn.raisesWithin_bind (Session.follows_ask _ _ fun _ => trivial) fun _ =>
      Txn.raisesWithin_ite (startProbed_raises job)
        (Txn.raisesWithin_modify _))
    (startProbed_raises job)

theorem start_raises (payload : StartPayload) :
    Txn.RaisesWithin (start world guarded payload)
      (Session.Grows Quiet stateOf) := by
  refine Txn.raisesWithin_bind Txn.follows_get fun _ =>
    Txn.raisesWithin_bind (Txn.follows_require _ _) fun _ => ?_
  cases getFlashJob payload.jobCode with
  | none => exact Txn.raisesWithin_modify _
  | some job =>
      refine Txn.raisesWithin_bind (Session.follows_update _ fun _ => rfl)
        fun _ => ?_
      cases payload.image with
      | none => exact Txn.raisesWithin_modify _
      | some image =>
          exact Txn.raisesWithin_ite (Txn.raisesWithin_modify _) <|
            Txn.raisesWithin_bind (Session.follows_update _ fun _ => rfl)
              fun _ =>
            Txn.raisesWithin_bind (Txn.follows_expect _ _) fun _ =>
            Txn.raisesWithin_bind (Session.follows_update _ fun _ => rfl)
              fun _ => startEntitled_raises _

theorem backupStep_eq_ok {session after : FlashSession}
    (returned : backupStep world session = .ok ⟨⟩ after) :
    session.machine.state = .ready ∧
      ∃ job image added, session.machine.job = some job ∧
        after.machine.state = .backedUp ∧
        after.machine.backup = some image ∧
        task after.machine = task session.machine ∧
        after.machine.data.rolledBack = session.machine.data.rolledBack ∧
        after.log = session.log ++ added ∧
        (∀ exchange ∈ added, Quiet exchange) ∧
        (⟨.readBackup job.targetAddr session.machine.data.payloadLen,
          .ok image⟩ : FlashExchange) ∈ added := by
  rw [backupStep, Txn.get_bind] at returned
  obtain ⟨ready, returned⟩ := Txn.require_bind_eq_ok.mp returned
  obtain ⟨job, held, returned⟩ := Txn.expect_bind_eq_ok.mp returned
  obtain ⟨⟨⟩, -, returned⟩ := Session.ask_bind_eq_ok.mp returned
  obtain ⟨⟨⟩, unlocked, unlock, returned⟩ := Txn.bind_eq_ok.mp returned
  obtain ⟨kept, calls, log, quiet⟩ := (unlockFor_follows _ _).of_ok unlock
  obtain ⟨image, -, returned⟩ := Session.ask_bind_eq_ok.mp returned
  rw [Session.update_bind] at returned
  obtain ⟨-, rfl⟩ := advance_eq_ok.mp returned
  simp only [core, saved, Prod.mk.injEq] at kept
  obtain ⟨-, sameTask, -, rolledBack⟩ := kept
  refine ⟨ready, job, image, ⟨.enterProgrammingSession, .ok ()⟩ :: (calls ++
    [⟨.readBackup job.targetAddr session.machine.data.payloadLen, .ok image⟩]),
    held, rfl, rfl, sameTask, rolledBack, ?_, ?_, ?_⟩
  · simp only [log, List.append_assoc, List.cons_append, List.nil_append]
  · intro exchange member
    rcases List.mem_cons.mp member with rfl | member
    · trivial
    rcases List.mem_append.mp member with member | member
    · exact quiet exchange member
    · rw [List.mem_singleton] at member
      rw [member]
      trivial
  · exact List.mem_cons_of_mem _
      (List.mem_append_right _ (List.mem_singleton.mpr rfl))

theorem backupStep_raises :
    Txn.RaisesWithin (backupStep world) (Session.Grows Quiet fun machine =>
      (stateOf machine, machine.data.rolledBack)) :=
  Txn.raisesWithin_bind Txn.follows_get fun _ =>
    Txn.raisesWithin_bind (Txn.follows_require _ _) fun _ =>
    Txn.raisesWithin_bind (Txn.follows_expect _ _) fun _ =>
    Txn.raisesWithin_bind (Session.follows_ask _ _ fun _ => trivial) fun _ =>
    Txn.raisesWithin_bind ((unlockFor_follows _ _).mono fun moved => by
      have kept := moved.1
      simp only [core, saved, Prod.mk.injEq] at kept
      exact ⟨Prod.ext kept.1 kept.2.2.2, moved.2⟩) fun _ =>
    Txn.raisesWithin_bind (Session.follows_ask _ _ fun _ => trivial) fun _ =>
    Txn.raisesWithin_bind (Session.follows_update _ fun _ => rfl) fun _ =>
    advance_raises

theorem transferBlocks_eq_ok {seq next : Nat} {blocks : List (List UInt8)}
    {session after : FlashSession}
    (returned : transferBlocks world seq blocks session = .ok next after) :
    ∃ added, after.log = session.log ++ added ∧ transferred added = blocks := by
  induction blocks generalizing seq session with
  | nil =>
      obtain ⟨-, rfl⟩ := Txn.pure_eq_ok.mp returned
      exact ⟨[], (List.append_nil _).symm, rfl⟩
  | cons block blocks induction =>
      obtain ⟨⟨⟩, -, returned⟩ := Session.ask_bind_eq_ok.mp returned
      obtain ⟨added, log, blocksSent⟩ := induction returned
      refine ⟨⟨.transferBlock seq block, .ok ()⟩ :: added, ?_, ?_⟩
      · rw [log, List.append_assoc, List.singleton_append]
      · rw [← blocksSent]
        rfl

theorem writeImage_eq_ok {job : FlashJob} {machine : FlashMachine}
    {session after : FlashSession}
    (returned : writeImage world job machine session = .ok ⟨⟩ after) :
    (transferred after.log).flatten =
      (transferred session.log).flatten ++ machine.payload := by
  obtain ⟨(negotiated : ℤ), -, returned⟩ := Session.ask_bind_eq_ok.mp returned
  obtain ⟨next, sent, transfer, returned⟩ := Txn.bind_eq_ok.mp returned
  obtain ⟨added, log, blocks⟩ := transferBlocks_eq_ok transfer
  rw [Session.update_bind] at returned
  obtain ⟨⟨⟩, -, returned⟩ := Session.ask_bind_eq_ok.mp returned
  obtain ⟨⟨⟩, -, returned⟩ := Session.ask_bind_eq_ok.mp returned
  obtain ⟨⟨⟩, -, returned⟩ := Session.ask_bind_eq_ok.mp returned
  obtain ⟨version, -, returned⟩ := Session.ask_bind_eq_ok.mp returned
  obtain ⟨-, rfl⟩ := Txn.pure_eq_ok.mp returned
  have positive : 0 < (max 1 negotiated).toNat := by omega
  simp only [log, transferred_append, transferred_singleton, blockOf,
    Option.toList_none, List.append_nil, blocks, List.flatten_append,
    payloadBlocks_flatten _ positive]

theorem flashStep_eq_ok {session after : FlashSession}
    (returned : flashStep world session = .ok ⟨⟩ after) :
    session.machine.state = .backedUp ∧
      ∃ job outcome added, session.machine.job = some job ∧
        after.log = session.log ++
          ⟨.erase job.targetAddr, outcome⟩ :: added ∧
        (∀ exchange ∈ added, Writing exchange) ∧
        (transferred added).flatten = session.machine.payload ∧
        after.machine.state = .flashed ∧
        task after.machine = task session.machine ∧
        saved after.machine = saved session.machine := by
  rw [flashStep, Txn.get_bind] at returned
  obtain ⟨backedUp, returned⟩ := Txn.require_bind_eq_ok.mp returned
  obtain ⟨job, held, returned⟩ := Txn.expect_bind_eq_ok.mp returned
  obtain ⟨⟨⟩, erased, erase, returned⟩ := Txn.bind_eq_ok.mp returned
  obtain ⟨-, rfl⟩ := Session.ask_eq_ok.mp erase
  obtain ⟨⟨⟩, written, write, returned⟩ := Txn.bind_eq_ok.mp returned
  obtain ⟨kept, added, log, writing⟩ := (writeImage_follows _ _).of_ok write
  have sent := writeImage_eq_ok write
  obtain ⟨-, rfl⟩ := advance_eq_ok.mp returned
  rw [core, core, Prod.mk.injEq, Prod.mk.injEq] at kept
  obtain ⟨-, sameTask, sameSaved⟩ := kept
  refine ⟨backedUp, job, .ok (), added, held, ?_, writing, ?_, rfl, sameTask,
    sameSaved⟩
  · simp only [log, List.append_assoc, List.singleton_append]
  · rw [log, transferred_append, List.flatten_append] at sent
    exact List.append_cancel_left sent

/-- A flash that raises has its backup still in hand; unless nothing was done,
its erase is in the transcript. -/
theorem flashStep_eq_error {session after : FlashSession} {error : FlashRaised}
    (failed : flashStep world session = .error error after) :
    after = session ∨
      core after.machine = core session.machine ∧
        session.machine.state = .backedUp ∧
        ∃ job outcome added, session.machine.job = some job ∧
          after.log = session.log ++
            ⟨.erase job.targetAddr, outcome⟩ :: added ∧
          ∀ exchange ∈ added, Writing exchange := by
  rw [flashStep, Txn.get_bind] at failed
  rcases Txn.bind_eq_error.mp failed with failed | ⟨⟨⟩, _, required, failed⟩
  · obtain ⟨-, -, rfl⟩ := Txn.require_eq_error.mp failed
    exact .inl rfl
  obtain ⟨backedUp, rfl⟩ := Txn.require_eq_ok.mp required
  rcases Txn.bind_eq_error.mp failed with failed | ⟨job, _, expected, failed⟩
  · obtain ⟨-, -, rfl⟩ := Txn.expect_eq_error.mp failed
    exact .inl rfl
  obtain ⟨held, rfl⟩ := Txn.expect_eq_ok.mp expected
  rcases Txn.bind_eq_error.mp failed with failed | ⟨⟨⟩, _, erased, failed⟩
  · obtain ⟨-, rfl⟩ := Session.ask_eq_error.mp failed
    exact .inr ⟨rfl, backedUp, job, _, [], held, rfl, nofun⟩
  obtain ⟨-, rfl⟩ := Session.ask_eq_ok.mp erased
  have moved : Txn.RaisesWithin
      (do writeImage world job session.machine; advance .flashed)
      (Session.Grows Writing core) :=
    Txn.raisesWithin_bind (writeImage_follows _ _) fun _ => advance_raises
  obtain ⟨kept, added, log, writing⟩ := moved _ _ _ failed
  refine .inr ⟨kept, backedUp, job, .ok (), added, held, ?_, writing⟩
  rw [log, List.append_assoc, List.singleton_append]

theorem finish_eq_ok {session after : FlashSession}
    (returned : finish world guarded session = .ok ⟨⟩ after) :
    session.machine.state = .flashed ∧ after.machine.state = .done := by
  rw [finish, Txn.get_bind] at returned
  obtain ⟨flashed, returned⟩ := Txn.require_bind_eq_ok.mp returned
  obtain ⟨⟨⟩, _, advanced, returned⟩ := Txn.bind_eq_ok.mp returned
  obtain ⟨-, rfl⟩ := advance_eq_ok.mp advanced
  obtain ⟨job, -, returned⟩ := Txn.expect_bind_eq_ok.mp returned
  refine ⟨flashed, ?_⟩
  split at returned
  · obtain ⟨taken, -, returned⟩ := Session.ask_bind_eq_ok.mp returned
    obtain ⟨-, rfl⟩ := Txn.pure_eq_ok.mp returned
    rfl
  · obtain ⟨-, rfl⟩ := Txn.pure_eq_ok.mp returned
    rfl

/-- A FINISH never raises with the backup still waiting to be flashed. -/
theorem finish_eq_error {session after : FlashSession} {error : FlashRaised}
    (failed : finish world guarded session = .error error after) :
    after = session ∨ after.machine.state = .done := by
  rw [finish, Txn.get_bind] at failed
  rcases Txn.bind_eq_error.mp failed with failed | ⟨⟨⟩, _, required, failed⟩
  · obtain ⟨-, -, rfl⟩ := Txn.require_eq_error.mp failed
    exact .inl rfl
  obtain ⟨-, rfl⟩ := Txn.require_eq_ok.mp required
  rcases Txn.bind_eq_error.mp failed with failed | ⟨⟨⟩, _, advanced, failed⟩
  · exact .inl (advance_eq_error failed).2
  obtain ⟨-, rfl⟩ := advance_eq_ok.mp advanced
  rcases Txn.bind_eq_error.mp failed with failed | ⟨job, _, expected, failed⟩
  · obtain ⟨-, -, rfl⟩ := Txn.expect_eq_error.mp failed
    exact .inr rfl
  obtain ⟨-, rfl⟩ := Txn.expect_eq_ok.mp expected
  split at failed
  · rcases Txn.bind_eq_error.mp failed with failed | ⟨_, _, -, failed⟩
    · obtain ⟨-, rfl⟩ := Session.ask_eq_error.mp failed
      exact .inr rfl
    · exact absurd failed Txn.pure_eq_error
  · exact absurd failed Txn.pure_eq_error

def restoredWith (session : FlashSession) (image : FlashBackup)
    (outcome : Except FlashRaised Unit) : FlashSession :=
  { machine := session.machine.withData fun data =>
      { data with rolledBack := true }
    log := session.log ++ [⟨.restoreBackup image, outcome⟩] }

theorem rollback_eq_ok {session : FlashSession} {image : FlashBackup}
    (held : session.machine.backup = some image)
    (waiting : session.machine.data.rolledBack = false) :
    rollback world session =
      .ok ⟨⟩ (restoredWith session image
        (world session.log (.restoreBackup image))) := by
  obtain ⟨outcome, attempted⟩ : ∃ outcome : Except FlashRaised Unit,
      (Txn.attempt (Session.ask world (.restoreBackup image)) :
        FlashTxn _) session =
        .ok outcome { session with
                      log := session.log ++ [⟨.restoreBackup image,
                        world session.log (.restoreBackup image)⟩] } := by
    unfold Txn.attempt Session.ask
    cases world session.log (.restoreBackup image) with
    | ok answer => exact ⟨.ok answer, rfl⟩
    | error error => exact ⟨.error error, rfl⟩
  rw [rollback, Txn.get_bind, held, waiting]
  exact Txn.bind_eq_ok.mpr ⟨outcome, _, attempted, rfl⟩

theorem rollbackBackedUp_returns (session : FlashSession) :
    ∃ after, rollbackBackedUp world session = .ok ⟨⟩ after := by
  rw [rollbackBackedUp, Txn.get_bind]
  split
  · cases held : session.machine.backup with
    | none =>
        refine ⟨session, ?_⟩
        rw [rollback, Txn.get_bind, held]
        rfl
    | some image =>
        cases waiting : session.machine.data.rolledBack with
        | false => exact ⟨_, rollback_eq_ok held waiting⟩
        | true =>
            refine ⟨session, ?_⟩
            rw [rollback, Txn.get_bind, held, waiting]
            rfl
  · exact ⟨session, rfl⟩

/-- The machine holds its backup, which was not written back, until it
flashes. -/
def Holding (machine : FlashMachine) : Prop :=
  machine.state = .backedUp →
    ∃ image, machine.backup = some image ∧ machine.data.rolledBack = false

theorem rollbackBackedUp_final_of_ne {session : FlashSession}
    (other : session.machine.state ≠ .backedUp) :
    (rollbackBackedUp world).final session = session := by
  rw [rollbackBackedUp, Txn.final, Txn.get_bind, if_neg other]
  rfl

theorem rollbackBackedUp_final (world : World flashInterface FlashRaised)
    {session : FlashSession}
    (backedUp : session.machine.state = .backedUp)
    (holding : Holding session.machine) :
    ∃ image outcome, session.machine.backup = some image ∧
      (rollbackBackedUp world).final session =
        restoredWith session image outcome := by
  obtain ⟨image, held, waiting⟩ := holding backedUp
  refine ⟨image, world session.log (.restoreBackup image), held, ?_⟩
  rw [rollbackBackedUp, Txn.final, Txn.get_bind, if_pos backedUp]
  exact Txn.final_of_ok (rollback_eq_ok held waiting)

def failedWith (fault : FlashFault) (session : FlashSession) : FlashSession :=
  { session with machine := session.machine.fail fault }

theorem rollbackThenFail_final (fault : FlashFault) (session : FlashSession) :
    (do
      rollbackBackedUp world
      Session.update (·.fail fault) : FlashTxn PUnit).final session =
      failedWith fault ((rollbackBackedUp world).final session) := by
  obtain ⟨after, returned⟩ := (rollbackBackedUp_returns session :
    ∃ after, rollbackBackedUp world session = .ok ⟨⟩ after)
  rw [Txn.final_bind_of_ok returned, Txn.final_of_ok returned]
  rfl

theorem handle_final_of_ok (event : FlashEvent) {session after : FlashSession}
    (dispatched : dispatch world guarded event session = .ok ⟨⟩ after) :
    (handle world guarded event).final session = after := by
  have attempted : (Txn.attempt (dispatch world guarded event) :
      FlashTxn _) session = .ok (.ok ⟨⟩) after :=
    Txn.attempt_eq_ok.mpr (.inl ⟨⟨⟩, rfl, dispatched⟩)
  rw [handle, Txn.final_bind_of_ok attempted]
  rfl

theorem handle_final_of_error (event : FlashEvent) {error : FlashRaised}
    {session after : FlashSession}
    (dispatched : dispatch world guarded event session = .error error after) :
    (handle world guarded event).final session =
      failedWith (.raised error) ((rollbackBackedUp world).final after) := by
  have attempted : (Txn.attempt (dispatch world guarded event) :
      FlashTxn _) session = .ok (.error error) after :=
    Txn.attempt_eq_ok.mpr (.inr ⟨error, rfl, dispatched⟩)
  rw [handle, Txn.final_bind_of_ok attempted, ← rollbackThenFail_final]

/-- The ways an event can move a session. -/
inductive Move (event : FlashEvent) (before after : FlashSession) : Prop
  /-- Nothing was written, and the session failed. -/
  | refused (failed : after.machine.state = .failed)
      (calls : Session.Grows Quiet (fun machine => machine.data.rolledBack)
        before after)
      (kept : before.machine.state = .idle ∨ before.machine.state = .ready ∨
        task after.machine = task before.machine ∧
          after.machine.backup = before.machine.backup)
  /-- START. -/
  | started (idle : before.machine.state = .idle)
      (ready : after.machine.state = .ready) (loaded : Loaded after.machine)
      (calls : Session.Grows Quiet saved before after)
  /-- BACKUP. -/
  | tookBackup (job : FlashJob) (image : FlashBackup)
      (ready : before.machine.state = .ready)
      (backedUp : after.machine.state = .backedUp)
      (held : before.machine.job = some job)
      (backup : after.machine.backup = some image)
      (same : task after.machine = task before.machine)
      (calls : Session.Grows Quiet (fun machine => machine.data.rolledBack)
        before after)
      (read : (⟨.readBackup job.targetAddr before.machine.data.payloadLen,
        .ok image⟩ : FlashExchange) ∈ after.log)
  /-- The backup is written back though nothing was erased. -/
  | wroteBack (image : FlashBackup) (outcome : Except FlashRaised Unit)
      (backedUp : before.machine.state = .backedUp)
      (failed : after.machine.state = .failed)
      (held : before.machine.backup = some image)
      (same : task after.machine = task before.machine)
      (savedAfter : saved after.machine = (some image, true))
      (log : after.log = before.log ++ [⟨.restoreBackup image, outcome⟩])
  /-- FLASH. -/
  | flashed (job : FlashJob) (outcome : Except FlashRaised Unit)
      (added : List FlashExchange) (flash : event = .flash)
      (backedUp : before.machine.state = .backedUp)
      (after_ : after.machine.state = .flashed)
      (held : before.machine.job = some job)
      (same : task after.machine = task before.machine)
      (sameSaved : saved after.machine = saved before.machine)
      (log : after.log =
        before.log ++ ⟨.erase job.targetAddr, outcome⟩ :: added)
      (writing : ∀ exchange ∈ added, Writing exchange)
      (sent : (transferred added).flatten = before.machine.payload)
  /-- A FLASH that failed after its erase call. -/
  | flashFailed (job : FlashJob) (image : FlashBackup)
      (outcome restored : Except FlashRaised Unit)
      (added : List FlashExchange) (flash : event = .flash)
      (backedUp : before.machine.state = .backedUp)
      (failed : after.machine.state = .failed)
      (heldJob : before.machine.job = some job)
      (held : before.machine.backup = some image)
      (same : task after.machine = task before.machine)
      (savedAfter : saved after.machine = (some image, true))
      (log : after.log = before.log ++
        ⟨.erase job.targetAddr, outcome⟩ :: (added ++
          [⟨.restoreBackup image, restored⟩]))
      (writing : ∀ exchange ∈ added, Writing exchange)
  /-- FINISH. -/
  | finished (flashed : before.machine.state = .flashed)
      (done : after.machine.state = .done)
      (calls : Session.Grows Quiet (fun machine =>
        (task machine, saved machine)) before after)

/-- An event that changed nothing before it raised. -/
theorem move_of_unchanged (event : FlashEvent) {error : FlashRaised}
    {session : FlashSession} (holding : Holding session.machine)
    (dispatched : dispatch world guarded event session =
      .error error session) :
    Move event session ((handle world guarded event).final session) := by
  rw [handle_final_of_error event dispatched]
  by_cases backedUp : session.machine.state = .backedUp
  · obtain ⟨image, outcome, held, final⟩ :=
      rollbackBackedUp_final world backedUp holding
    rw [final]
    exact .wroteBack image outcome backedUp rfl held rfl
      (Prod.ext held rfl) rfl
  · rw [rollbackBackedUp_final_of_ne backedUp]
    exact .refused rfl ⟨rfl, [], (List.append_nil _).symm, nofun⟩
      (.inr (.inr ⟨rfl, rfl⟩))

/-- An event that raised when the backup is not waiting to be flashed. -/
theorem move_of_raised (event : FlashEvent) {error : FlashRaised}
    {session after : FlashSession}
    (dispatched : dispatch world guarded event session = .error error after)
    (other : after.machine.state ≠ .backedUp)
    (calls : Session.Grows Quiet (fun machine => machine.data.rolledBack)
      session after)
    (kept : session.machine.state = .idle ∨ session.machine.state = .ready ∨
      task after.machine = task session.machine ∧
        after.machine.backup = session.machine.backup) :
    Move event session ((handle world guarded event).final session) := by
  rw [handle_final_of_error event dispatched, rollbackBackedUp_final_of_ne other]
  exact .refused rfl calls kept

theorem start_refuses {payload : StartPayload} {session : FlashSession}
    (other : session.machine.state ≠ .idle) :
    start world guarded payload session =
      .error (outOfState "START" "IDLE" session.machine.state) session := by
  rw [start, Txn.get_bind, Txn.require, if_neg other]
  rfl

theorem backupStep_refuses {session : FlashSession}
    (other : session.machine.state ≠ .ready) :
    backupStep world session =
      .error (outOfState "BACKUP" "READY" session.machine.state) session := by
  rw [backupStep, Txn.get_bind, Txn.require, if_neg other]
  rfl

theorem finish_calls {session after : FlashSession}
    (moved : Session.Grows Quiet (fun machine : FlashMachine =>
      (machine.job, machine.payload, machine.data.payloadLen,
        machine.data.payloadChecksum, saved machine)) session after) :
    Session.Grows Quiet (fun machine => (task machine, saved machine))
      session after := by
  obtain ⟨kept, added⟩ := moved
  simp only [Prod.mk.injEq] at kept
  obtain ⟨job, payload, length, checksum, savedToo⟩ := kept
  exact ⟨by simp only [task, job, payload, length, checksum, savedToo], added⟩

theorem start_move {payload : StartPayload} {session : FlashSession}
    (holding : Holding session.machine) :
    Move (.start payload) session
      ((handle world guarded (.start payload)).final session) := by
  cases dispatched : start world guarded payload session with
  | ok value after =>
      obtain ⟨idle, outcome⟩ := start_eq_ok dispatched
      have calls := (start_follows payload).of_ok dispatched
      rw [handle_final_of_ok (.start payload) dispatched]
      rcases outcome with failed | ⟨ready, loaded⟩
      · exact .refused failed ⟨(Prod.mk.inj calls.1).2, calls.2⟩ (.inl idle)
      · exact .started idle ready loaded calls
  | error error after =>
      by_cases idle : session.machine.state = .idle
      · have calls := (start_follows payload).of_error dispatched
        have same := (start_raises payload _ _ _ dispatched).1
        refine move_of_raised (.start payload) dispatched ?_ ⟨(Prod.mk.inj calls.1).2, calls.2⟩
          (.inl idle)
        rw [stateOf, stateOf, idle] at same
        rw [same]
        decide
      · exact move_of_unchanged (.start payload) holding (start_refuses idle)

theorem backup_move {session : FlashSession}
    (holding : Holding session.machine) :
    Move .backup session ((handle world guarded .backup).final session) := by
  cases dispatched : backupStep world session with
  | ok value after =>
      obtain ⟨ready, job, image, added, held, backedUp, backup, same,
        rolledBack, log, quiet, read⟩ := backupStep_eq_ok dispatched
      rw [handle_final_of_ok .backup dispatched]
      refine .tookBackup job image ready backedUp held backup same
        ⟨rolledBack, added, log, quiet⟩ ?_
      rw [log]
      exact List.mem_append_right _ read
  | error error after =>
      by_cases ready : session.machine.state = .ready
      · have calls := backupStep_raises _ _ _ dispatched
        obtain ⟨kept, added⟩ := calls
        obtain ⟨same, rolledBack⟩ := Prod.mk.inj kept
        refine move_of_raised .backup dispatched ?_
          ⟨rolledBack, added⟩ (.inr (.inl ready))
        rw [stateOf, stateOf, ready] at same
        rw [same]
        decide
      · exact move_of_unchanged .backup holding
          (backupStep_refuses ready)

theorem flash_move {session : FlashSession}
    (holding : Holding session.machine) :
    Move .flash session ((handle world guarded .flash).final session) := by
  cases dispatched : flashStep world session with
  | ok value after =>
      obtain ⟨backedUp, job, outcome, added, held, log, writing, sent, flashed,
        same, sameSaved⟩ := flashStep_eq_ok dispatched
      rw [handle_final_of_ok .flash dispatched]
      exact .flashed job outcome added rfl backedUp flashed held same sameSaved log
        writing sent
  | error error after =>
      rcases flashStep_eq_error dispatched with
        rfl | ⟨kept, backedUp, job, outcome, added, held, log, writing⟩
      · exact move_of_unchanged .flash holding dispatched
      rw [core, core, Prod.mk.injEq, Prod.mk.injEq] at kept
      obtain ⟨state, sameTask, sameSaved⟩ := kept
      obtain ⟨sameBackup, rolledBack⟩ := Prod.mk.inj sameSaved
      have still := state.trans backedUp
      have holdingAfter : Holding after.machine := by
        intro _
        rw [sameBackup, rolledBack]
        exact holding backedUp
      obtain ⟨image, restored, backup, final⟩ :=
        rollbackBackedUp_final world still holdingAfter
      rw [handle_final_of_error .flash dispatched, final]
      refine .flashFailed job image outcome restored added rfl backedUp rfl held
        (sameBackup ▸ backup) sameTask (Prod.ext backup rfl) ?_ writing
      change after.log ++ _ = _
      rw [log, List.append_assoc, List.cons_append]

theorem finish_move {session : FlashSession}
    (holding : Holding session.machine) :
    Move .finish session ((handle world guarded .finish).final session) := by
  cases dispatched : finish world guarded session with
  | ok value after =>
      obtain ⟨flashed, done⟩ := finish_eq_ok dispatched
      rw [handle_final_of_ok .finish dispatched]
      exact .finished flashed done
        (finish_calls (finish_follows.of_ok dispatched))
  | error error after =>
      rcases finish_eq_error dispatched with rfl | done
      · exact move_of_unchanged .finish holding dispatched
      · obtain ⟨kept, calls⟩ := finish_calls (finish_follows.of_error dispatched)
        obtain ⟨sameTask, sameSaved⟩ := Prod.mk.inj kept
        obtain ⟨sameBackup, rolledBack⟩ := Prod.mk.inj sameSaved
        refine move_of_raised .finish dispatched ?_
          ⟨rolledBack, calls⟩ (.inr (.inr ⟨sameTask, sameBackup⟩))
        rw [done]
        decide

theorem abort_move {session : FlashSession}
    (holding : Holding session.machine) :
    Move .abort session ((handle world guarded .abort).final session) := by
  have dispatched : dispatch world guarded .abort session =
      .ok ⟨⟩ (failedWith .abortedByUser
        ((rollbackBackedUp world).final session)) := by
    obtain ⟨after, returned⟩ : ∃ after,
        rollbackBackedUp world session = .ok ⟨⟩ after :=
      rollbackBackedUp_returns session
    rw [Txn.final_of_ok returned]
    exact Txn.bind_eq_ok.mpr ⟨⟨⟩, after, returned, rfl⟩
  rw [handle_final_of_ok .abort dispatched]
  by_cases backedUp : session.machine.state = .backedUp
  · obtain ⟨image, outcome, held, final⟩ :=
      rollbackBackedUp_final world backedUp holding
    rw [final]
    exact .wroteBack image outcome backedUp rfl held rfl (Prod.ext held rfl) rfl
  · rw [rollbackBackedUp_final_of_ne backedUp]
    exact .refused rfl ⟨rfl, [], (List.append_nil _).symm, nofun⟩
      (.inr (.inr ⟨rfl, rfl⟩))

theorem unknown_move (text : String) (session : FlashSession) :
    Move (.unknown text) session
      ((handle world guarded (.unknown text)).final session) :=
  .refused rfl ⟨rfl, [], (List.append_nil _).symm, nofun⟩
    (.inr (.inr ⟨rfl, rfl⟩))

/-- Whatever the environment does, an event moves the session in one of these
ways. -/
theorem handle_move (event : FlashEvent) {session : FlashSession}
    (holding : Holding session.machine) :
    Move event session ((handle world guarded event).final session) := by
  cases event with
  | start payload => exact start_move holding
  | backup => exact backup_move holding
  | flash => exact flash_move holding
  | finish => exact finish_move holding
  | abort => exact abort_move holding
  | unknown text => exact unknown_move text session

end Flash

end Mousstec
