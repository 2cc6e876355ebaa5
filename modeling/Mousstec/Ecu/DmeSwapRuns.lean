import Mousstec.Ecu.DmeSwap
import Mousstec.Library.Runs

/-!
# Runs of a swap session

An event makes at most one call.  What the transcript must hold before the call
is read off the state of the machine: the ISN of the car is read once, the
backup follows the read, the writes follow the backup and carry the bytes that
were read, the read-back follows a write that went through and the alignment
follows a read-back that agreed.
-/

namespace Mousstec

namespace DmeSwap

open Library

abbrev SwapExchange := Exchange swapInterface SwapRaised

variable {world : World swapInterface SwapRaised}

def isRead (exchange : SwapExchange) : Bool :=
  match exchange.call with
  | .readCasIsn _ _ => true
  | _ => false

def reads (log : List SwapExchange) : List SwapExchange :=
  log.filter isRead

/-- The one read of the ISN of the car returned the bytes: as many as an ISN
has, neither all 0x00 nor all 0xFF. -/
structure Fetched (vin : String) (isn : List UInt8)
    (log : List SwapExchange) : Prop where
  length : isn.length = isnLength
  genuine : ¬ isVirgin isn
  read : ∃ family, reads log = [⟨.readCasIsn vin family, .ok isn⟩]

/-- After the one read of the ISN the DME was kept as a backup. -/
def Secured (vin dmeName : String) (isn : List UInt8)
    (log : List SwapExchange) : Prop :=
  ∃ earlier ref later,
    log = earlier ++ ⟨.backupDme vin dmeName, .ok ref⟩ :: later ∧
      ref ≠ "" ∧ Fetched vin isn earlier ∧ reads later = []

/-- The DME refused the write of the bytes over UDS. -/
def Rejected (vin dmeName : String) (isn : List UInt8)
    (log : List SwapExchange) : Prop :=
  ∃ bench nrc,
    (⟨.writeDmeIsn vin dmeName isn bench, .error (.dmeUdsWriteRejected nrc)⟩ :
      SwapExchange) ∈ log

/-- A write of the bytes went through, on either way. -/
def Written (vin dmeName : String) (isn : List UInt8)
    (log : List SwapExchange) : Prop :=
  (∃ bench, (⟨.writeDmeIsn vin dmeName isn bench, .ok ()⟩ : SwapExchange) ∈
      log) ∨
    ∃ family, (⟨.bslWriteDmeIsn vin dmeName family isn, .ok ()⟩ :
      SwapExchange) ∈ log

/-- After a write that went through, the bytes read back were the same. -/
def Checked (vin dmeName : String) (isn : List UInt8)
    (log : List SwapExchange) : Prop :=
  ∃ earlier later,
    log = earlier ++ ⟨.verifyDmeIsn vin dmeName isn, .ok true⟩ :: later ∧
      Secured vin dmeName isn earlier ∧ Written vin dmeName isn earlier

theorem reads_append (first second : List SwapExchange) :
    reads (first ++ second) = reads first ++ reads second :=
  List.filter_append ..

section Later

variable {vin dmeName : String} {isn : List UInt8} {log : List SwapExchange}
  {exchange : SwapExchange}

theorem Secured.later (secured : Secured vin dmeName isn log)
    (other : isRead exchange = false) :
    Secured vin dmeName isn (log ++ [exchange]) := by
  obtain ⟨earlier, ref, later, rfl, named, fetched, unread⟩ := secured
  refine ⟨earlier, ref, later ++ [exchange], ?_, named, fetched, ?_⟩
  · rw [List.append_assoc, List.cons_append]
  · rw [reads_append, unread, List.nil_append]
    exact List.filter_eq_nil_iff.mpr (by simp [other])

theorem Rejected.later (rejected : Rejected vin dmeName isn log) :
    Rejected vin dmeName isn (log ++ [exchange]) := by
  obtain ⟨bench, nrc, member⟩ := rejected
  exact ⟨bench, nrc, List.mem_append_left _ member⟩

end Later

/-- The calls the machine may make in its state. -/
inductive Issues (machine : SwapMachine) : SwapCall → Prop
  | read {profile : DmeSwapProfile}
      (state : machine.state = .profileSelected)
      (selected : getDmeSwapProfile machine.data.profileKey = some profile) :
      Issues machine (.readCasIsn machine.data.vin profile.casFamily)
  | backup {profile : DmeSwapProfile} (state : machine.state = .casIsnRead)
      (selected : getDmeSwapProfile machine.data.profileKey = some profile) :
      Issues machine (.backupDme machine.data.vin profile.dmeName)
  | write {profile : DmeSwapProfile} {isn : List UInt8}
      (state : machine.state = .dmeBackedUp)
      (selected : getDmeSwapProfile machine.data.profileKey = some profile)
      (spelled : Bytes.fromHex machine.data.casIsnHex = some isn) :
      Issues machine (.writeDmeIsn machine.data.vin profile.dmeName isn
        profile.requiresBench)
  | bslWrite {profile : DmeSwapProfile} {isn : List UInt8}
      (state : machine.state = .dmeBslFallback)
      (selected : getDmeSwapProfile machine.data.profileKey = some profile)
      (spelled : Bytes.fromHex machine.data.casIsnHex = some isn) :
      Issues machine (.bslWriteDmeIsn machine.data.vin profile.dmeName
        profile.dmeFamily isn)
  | verify {profile : DmeSwapProfile} {isn : List UInt8}
      (state : machine.state = .dmeIsnWritten)
      (selected : getDmeSwapProfile machine.data.profileKey = some profile)
      (spelled : Bytes.fromHex machine.data.casIsnHex = some isn) :
      Issues machine (.verifyDmeIsn machine.data.vin profile.dmeName isn)
  | align (state : machine.state = .verified) :
      Issues machine (.alignEws machine.data.vin)

/-- What the machine becomes when it goes on after a call. -/
inductive Accepts (machine : SwapMachine) : SwapExchange → SwapMachine → Prop
  | read {vin family : String} {isn : List UInt8}
      (length : isn.length = isnLength) (genuine : ¬ isVirgin isn) :
      Accepts machine ⟨.readCasIsn vin family, .ok isn⟩
        { state := .casIsnRead
          data := { machine.data with casIsnHex := Bytes.upperHex isn } }
  | backup {vin dmeName ref : String} (named : ref ≠ "") :
      Accepts machine ⟨.backupDme vin dmeName, .ok ref⟩
        { state := .dmeBackedUp
          data := { machine.data with backupRef := ref } }
  | write {vin dmeName : String} {isn : List UInt8} {bench : Bool} :
      Accepts machine ⟨.writeDmeIsn vin dmeName isn bench, .ok ()⟩
        { machine with state := .dmeIsnWritten }
  | divert {profile : DmeSwapProfile} {vin dmeName : String}
      {isn : List UInt8} {bench : Bool} {nrc : Option Nat}
      (selected : getDmeSwapProfile machine.data.profileKey = some profile)
      (tricore : profile.tricoreBsl = true) :
      Accepts machine
        ⟨.writeDmeIsn vin dmeName isn bench, .error (.dmeUdsWriteRejected nrc)⟩
        { state := .dmeBslFallback
          data := { machine.data with udsRejectNrc := nrcText nrc } }
  | bslWrite {vin dmeName family : String} {isn : List UInt8} :
      Accepts machine ⟨.bslWriteDmeIsn vin dmeName family isn, .ok ()⟩
        { machine with state := .dmeIsnWritten }
  | wait {vin dmeName family : String} {isn : List UInt8}
      {error : SwapRaised} :
      Accepts machine ⟨.bslWriteDmeIsn vin dmeName family isn, .error error⟩
        machine
  | verify {vin dmeName : String} {isn : List UInt8} :
      Accepts machine ⟨.verifyDmeIsn vin dmeName isn, .ok true⟩
        { machine with state := .verified }
  | align {vin : String} :
      Accepts machine ⟨.alignEws vin, .ok ()⟩ { machine with state := .aligned }

inductive Move (before after : SwapSession) : Prop
  /-- Nothing changed. -/
  | stayed (same : after = before)
  /-- The session failed without a call. -/
  | refused (failed : after.machine.state = .failed)
      (log : after.log = before.log)
  /-- A profile was selected. -/
  | selected (idle : before.machine.state = .idle)
      (state : after.machine.state = .profileSelected)
      (log : after.log = before.log)
  /-- One call was made. -/
  | asked {call : SwapCall} (outcome : Except SwapRaised call.Answer)
      (issued : Issues before.machine call)
      (log : after.log = before.log ++ [⟨call, outcome⟩])
      (ended : after.machine.state = .failed ∨
        Accepts before.machine ⟨call, outcome⟩ after.machine)
  /-- The session was finished. -/
  | finished (aligned : before.machine.state = .aligned)
      (done : after.machine.state = .done) (log : after.log = before.log)

def Asked (before after : SwapSession) : Prop :=
  after.log = before.log ∨
    ∃ (call : SwapCall) (outcome : Except SwapRaised call.Answer),
      Issues before.machine call ∧
        after.log = before.log ++ [⟨call, outcome⟩]

/-- A block that moves a session, or raises after one call at most. -/
structure Does (block : SwapTxn PUnit) (before : SwapSession) : Prop where
  moves : ∀ after, block before = .ok ⟨⟩ after → Move before after
  raises : ∀ error after, block before = .error error after →
    Asked before after

/-- A block that takes what came of a call, and makes none itself. -/
structure Takes (accepted : SwapMachine → Prop) (block : SwapTxn PUnit)
    (machine : SwapMachine) : Prop where
  ends : ∀ log after, block { machine, log } = .ok ⟨⟩ after →
    after.log = log ∧
      (after.machine.state = .failed ∨ accepted after.machine)
  raises : ∀ log error after, block { machine, log } = .error error after →
    after.log = log

theorem advance_eq_ok {target : SwapState} {session after : SwapSession} :
    advance target session = .ok ⟨⟩ after ↔
      target ∈ session.machine.state.allowed ∧
        after = { session with
                  machine := { session.machine with state := target } } :=
  Guided.advance_eq_ok

theorem does_fail (fault : SwapFault) (before : SwapSession) :
    Does (fail fault) before := by
  constructor
  · intro after returned
    rw [fail, Session.update_eq_ok] at returned
    subst returned
    exact .refused rfl rfl
  · intro error after failed
    exact absurd failed Session.update_eq_error

theorem does_get {next : SwapSession → SwapTxn PUnit} {before : SwapSession}
    (does : Does (next before) before) : Does (get >>= next) before :=
  ⟨does.moves, does.raises⟩

theorem does_expect {α : Type} {value : Option α} {error : SwapRaised}
    {next : α → SwapTxn PUnit} {before : SwapSession}
    (does : ∀ found, value = some found → Does (next found) before) :
    Does (Txn.expect value error >>= next) before := by
  constructor
  · intro after returned
    obtain ⟨found, held, returned⟩ := Txn.expect_bind_eq_ok.mp returned
    exact (does found held).moves after returned
  · intro raised after failed
    rcases Txn.bind_eq_error.mp failed with failed | ⟨found, _, expected, failed⟩
    · obtain ⟨-, -, same⟩ := Txn.expect_eq_error.mp failed
      exact .inl (congrArg Session.log same.symm)
    · obtain ⟨held, rfl⟩ := Txn.expect_eq_ok.mp expected
      exact (does found held).raises raised after failed

theorem does_onlyIn {event : String} {only : SwapState}
    {next : PUnit → SwapTxn PUnit} {before : SwapSession}
    (does : before.machine.state = only → Does (next ⟨⟩) before) :
    Does (onlyIn event only >>= next) before := by
  constructor
  · intro after returned
    obtain ⟨⟨⟩, _, entered, returned⟩ := Txn.bind_eq_ok.mp returned
    obtain ⟨state, rfl⟩ := Guided.within_eq_ok.mp entered
    exact (does state).moves after returned
  · intro raised after failed
    rcases Txn.bind_eq_error.mp failed with failed | ⟨⟨⟩, _, entered, failed⟩
    · exact .inl (congrArg Session.log (Guided.within_eq_error failed))
    · obtain ⟨state, rfl⟩ := Guided.within_eq_ok.mp entered
      exact (does state).raises raised after failed

theorem does_ask {call : SwapCall} {before : SwapSession}
    {next : call.Answer → SwapTxn PUnit} (issued : Issues before.machine call)
    (takes : ∀ answer,
      Takes (Accepts before.machine ⟨call, .ok answer⟩) (next answer)
        before.machine) :
    Does (Session.ask world call >>= next) before := by
  constructor
  · intro after returned
    obtain ⟨answer, middle, asked, returned⟩ := Txn.bind_eq_ok.mp returned
    obtain ⟨-, rfl⟩ := Session.ask_eq_ok.mp asked
    obtain ⟨log, ended⟩ := (takes answer).ends _ after returned
    exact .asked (.ok answer) issued log ended
  · intro raised after failed
    rcases Txn.bind_eq_error.mp failed with failed | ⟨answer, _, asked, failed⟩
    · obtain ⟨-, rfl⟩ := Session.ask_eq_error.mp failed
      exact .inr ⟨call, .error raised, issued, rfl⟩
    · obtain ⟨-, rfl⟩ := Session.ask_eq_ok.mp asked
      exact .inr ⟨call, .ok answer, issued,
        (takes answer).raises _ raised after failed⟩

theorem does_attempt {call : SwapCall} {before : SwapSession}
    {next : Except SwapRaised call.Answer → SwapTxn PUnit}
    (issued : Issues before.machine call)
    (takes : ∀ outcome,
      Takes (Accepts before.machine ⟨call, outcome⟩) (next outcome)
        before.machine) :
    Does (Txn.attempt (Session.ask world call) >>= next) before := by
  have asked : ∀ outcome middle,
      (Txn.attempt (Session.ask world call) : SwapTxn _) before =
        .ok outcome middle →
      middle = { before with log := before.log ++ [⟨call, outcome⟩] } := by
    intro outcome middle attempted
    rcases Txn.attempt_eq_ok.mp attempted with
      ⟨answer, rfl, answered⟩ | ⟨error, rfl, raised⟩
    · exact (Session.ask_eq_ok.mp answered).2
    · exact (Session.ask_eq_error.mp raised).2
  constructor
  · intro after returned
    obtain ⟨outcome, middle, attempted, returned⟩ :=
      Txn.bind_eq_ok.mp returned
    obtain rfl := asked outcome middle attempted
    obtain ⟨log, ended⟩ := (takes outcome).ends _ after returned
    exact .asked outcome issued log ended
  · intro raised after failed
    rcases Txn.bind_eq_error.mp failed with
      failed | ⟨outcome, middle, attempted, failed⟩
    · exact absurd failed Txn.attempt_eq_error
    · obtain rfl := asked outcome middle attempted
      exact .inr ⟨call, outcome, issued,
        (takes outcome).raises _ raised after failed⟩

section Takes

variable {machine : SwapMachine} {accepted : SwapMachine → Prop}

theorem takes_fail (fault : SwapFault) :
    Takes accepted (fail fault) machine := by
  constructor
  · intro log after returned
    rw [fail, Session.update_eq_ok] at returned
    subst returned
    exact ⟨rfl, .inl rfl⟩
  · intro log error after failed
    exact absurd failed Session.update_eq_error

theorem takes_throw (error : SwapRaised) :
    Takes accepted (throw error) machine := by
  constructor
  · intro log after returned
    exact absurd returned Txn.throw_eq_ok
  · intro log raised after failed
    obtain ⟨-, rfl⟩ := Txn.throw_eq_error.mp failed
    rfl

theorem takes_pure (accepts : accepted machine) :
    Takes accepted (pure ⟨⟩) machine := by
  constructor
  · intro log after returned
    obtain ⟨-, rfl⟩ := Txn.pure_eq_ok.mp returned
    exact ⟨rfl, .inr accepts⟩
  · intro log error after failed
    exact absurd failed Txn.pure_eq_error

theorem takes_advance {target : SwapState}
    (accepts : accepted { machine with state := target }) :
    Takes accepted (advance target) machine := by
  constructor
  · intro log after returned
    obtain ⟨-, rfl⟩ := advance_eq_ok.mp returned
    exact ⟨rfl, .inr accepts⟩
  · intro log error after failed
    rw [(Guided.advance_eq_error failed).2]

theorem takes_update {change : SwapData → SwapData}
    {next : PUnit → SwapTxn PUnit}
    (takes : Takes accepted (next ⟨⟩) (machine.withData change)) :
    Takes accepted (Session.update (·.withData change) >>= next)
      machine := by
  constructor
  · intro log after returned
    rw [Session.update_bind] at returned
    exact takes.ends log after returned
  · intro log error after failed
    rw [Session.update_bind] at failed
    exact takes.raises log error after failed

theorem takes_keepIsn (vin family : String) (isn : List UInt8) :
    Takes (Accepts machine ⟨.readCasIsn vin family, .ok isn⟩)
      (keepIsn isn) machine := by
  unfold keepIsn
  split
  · exact takes_fail _
  · rename_i length
    split
    · exact takes_fail _
    · rename_i genuine
      exact takes_update (takes_advance (.read (not_not.mp length) genuine))

theorem takes_keepBackup (vin dmeName ref : String) :
    Takes (Accepts machine ⟨.backupDme vin dmeName, .ok ref⟩)
      (keepBackup ref) machine := by
  unfold keepBackup
  split
  · exact takes_fail _
  · rename_i named
    exact takes_update (takes_advance (.backup named))

theorem takes_writeEnded {profile : DmeSwapProfile}
    (selected : getDmeSwapProfile machine.data.profileKey = some profile)
    (vin dmeName : String) (isn : List UInt8) (bench : Bool)
    (outcome : Except SwapRaised Unit) :
    Takes (Accepts machine ⟨.writeDmeIsn vin dmeName isn bench, outcome⟩)
      (writeEnded profile outcome) machine := by
  cases outcome with
  | ok done => exact takes_advance .write
  | error error =>
      cases error with
      | dmeUdsWriteRejected nrc =>
          refine takes_update ?_
          cases tricore : profile.tricoreBsl with
          | true => exact takes_advance (.divert selected tricore)
          | false => exact takes_fail _
      | illegalTransition text => exact takes_throw _
      | bslHandshakeFailed text => exact takes_throw _
      | bslNotConfigured text => exact takes_throw _
      | other text => exact takes_throw _

theorem takes_bslEnded (vin dmeName family : String) (isn : List UInt8)
    (outcome : Except SwapRaised Unit) :
    Takes (Accepts machine ⟨.bslWriteDmeIsn vin dmeName family isn, outcome⟩)
      (bslEnded outcome) machine := by
  cases outcome with
  | ok done => exact takes_advance .bslWrite
  | error error =>
      cases error with
      | bslHandshakeFailed text => exact takes_pure .wait
      | bslNotConfigured text => exact takes_pure .wait
      | dmeUdsWriteRejected nrc => exact takes_throw _
      | illegalTransition text => exact takes_throw _
      | other text => exact takes_throw _

end Takes

theorem does_advance {target : SwapState} {before : SwapSession}
    (moves : Move before
      { before with machine := { before.machine with state := target } }) :
    Does (advance target) before := by
  constructor
  · intro after returned
    obtain ⟨-, rfl⟩ := advance_eq_ok.mp returned
    exact moves
  · intro error after failed
    rw [(Guided.advance_eq_error failed).2]
    exact .inl rfl

theorem selectKnown_calls (key : String) (payload : SelectPayload) :
    Txn.Follows (selectKnown key payload)
      (Session.Grows (fun _ => False) fun _ => ()) :=
  Txn.follows_bind (Session.follows_update _ fun _ => rfl) fun _ =>
    Txn.follows_bind (Txn.follows_expect _ _) fun _ =>
    Txn.follows_bind (Session.follows_update _ fun _ => rfl) fun _ =>
    Txn.follows_bind (Txn.follows_expect _ _) fun _ =>
    Txn.follows_bind (Session.follows_update _ fun _ => rfl) fun _ =>
    Txn.follows_bind (Txn.follows_expect _ _) fun _ =>
    Txn.follows_bind (Session.follows_update _ fun _ => rfl) fun _ =>
    Guided.advance_follows fun _ => rfl

theorem log_of_grows {before after : SwapSession} {τ : Type}
    {view : SwapMachine → τ}
    (grows : Session.Grows (fun _ => False) view before after) :
    after.log = before.log := by
  obtain ⟨-, added, log, none⟩ := grows
  rw [log, List.eq_nil_iff_forall_not_mem.mpr none, List.append_nil]

theorem selectKnown_eq_ok {key : String} {payload : SelectPayload}
    {before after : SwapSession}
    (returned : selectKnown key payload before = .ok ⟨⟩ after) :
    before.machine.state = .idle ∧ after.machine.state = .profileSelected := by
  simp only [selectKnown, payloadText, Session.update_bind,
    Txn.expect_bind_eq_ok] at returned
  obtain ⟨vin, -, technicianId, -, gateway, -, returned⟩ := returned
  obtain ⟨permitted, rfl⟩ := advance_eq_ok.mp returned
  change .profileSelected ∈ before.machine.state.allowed at permitted
  refine ⟨?_, rfl⟩
  cases state : before.machine.state
  case idle => rfl
  all_goals
    rw [state] at permitted
    simp [SwapState.allowed] at permitted

theorem does_selectProfile (payload : SelectPayload) (before : SwapSession) :
    Does (selectProfile payload) before := by
  refine does_expect fun key _ => ?_
  split
  · exact does_fail _ before
  split
  · exact does_fail _ before
  constructor
  · intro after returned
    obtain ⟨idle, state⟩ := selectKnown_eq_ok returned
    exact .selected idle state
      (log_of_grows ((selectKnown_calls _ _).of_ok returned))
  · intro error after failed
    exact .inl (log_of_grows ((selectKnown_calls _ _).of_error failed))

theorem does_writeDmeIsn (before : SwapSession) :
    Does (writeDmeIsn world) before := by
  refine does_onlyIn fun state => does_get ?_
  split
  · exact does_fail _ before
  · exact does_get <| does_expect fun profile selected =>
      does_expect fun isn spelled =>
      does_attempt (.write state selected spelled) fun outcome =>
      takes_writeEnded selected _ _ isn _ outcome

/-- Every event makes one call at most, the one its state is for. -/
theorem does_dispatch (event : SwapEvent) (before : SwapSession) :
    Does (dispatch world event) before := by
  cases event with
  | selectProfile payload => exact does_selectProfile payload before
  | readCasIsn =>
      exact does_onlyIn fun state => does_get <|
        does_expect fun profile selected =>
        does_ask (.read state selected) fun isn => takes_keepIsn _ _ isn
  | backupDme =>
      exact does_onlyIn fun state => does_get <|
        does_expect fun profile selected =>
        does_ask (.backup state selected) fun ref => takes_keepBackup _ _ ref
  | writeDmeIsn => exact does_writeDmeIsn before
  | bslStart =>
      exact does_onlyIn fun state => does_get <|
        does_expect fun profile selected =>
        does_expect fun isn spelled =>
        does_attempt (.bslWrite state selected spelled) fun outcome =>
        takes_bslEnded _ _ _ isn outcome
  | verify =>
      refine does_onlyIn fun state => does_get <|
        does_expect fun profile selected =>
        does_expect fun isn spelled =>
        does_ask (.verify state selected spelled) fun same => ?_
      cases same with
      | false => exact takes_fail _
      | true => exact takes_advance .verify
  | align =>
      exact does_onlyIn fun state => does_get <|
        does_ask (.align state) fun _ => takes_advance .align
  | finish =>
      exact does_onlyIn fun state => does_advance (.finished state rfl rfl)
  | abort => exact does_fail _ before
  | unknown text => exact does_fail _ before

theorem handle_move (world : World swapInterface SwapRaised)
    (event : SwapEvent) (before : SwapSession) :
    Move before ((handle world event).final before) := by
  cases called : dispatch world event before with
  | ok value after =>
      rw [handle, Guided.final_recovering_of_ok called]
      exact (does_dispatch event before).moves after called
  | error error after =>
      rw [handle, Guided.final_recovering_of_error called]
      rcases (does_dispatch event before).raises error after called with
        log | ⟨call, outcome, issued, log⟩
      · exact .refused rfl log
      · exact .asked outcome issued log (.inl rfl)

theorem resume_eq_ok (before : SwapSession) :
    resume before = .ok ⟨⟩ before := by
  rw [resume, Txn.get_bind]
  refine Txn.bind_eq_ok.mpr ⟨before.machine, before, ?_, rfl⟩
  exact Txn.expect_eq_ok.mpr ⟨restore_snapshot before.machine, rfl⟩

theorem step_move (world : World swapInterface SwapRaised)
    (step : SwapStep) (before : SwapSession) :
    Move before ((runStep world step).final before) := by
  cases step with
  | event event => exact handle_move world event before
  | resume =>
      refine .stayed ?_
      rw [runStep, Txn.final_of_ok (resume_eq_ok before)]

def Held (log : List SwapExchange) (data : SwapData) : SwapState → Prop
  | .idle => reads log = []
  | .profileSelected => reads log = []
  | .casIsnRead => ∃ isn, data.casIsnHex = Bytes.upperHex isn ∧
      Fetched data.vin isn log
  | .dmeBackedUp => ∃ profile isn,
      getDmeSwapProfile data.profileKey = some profile ∧
        data.casIsnHex = Bytes.upperHex isn ∧
        Secured data.vin profile.dmeName isn log
  | .dmeBslFallback => ∃ profile isn,
      getDmeSwapProfile data.profileKey = some profile ∧
        data.casIsnHex = Bytes.upperHex isn ∧
        Secured data.vin profile.dmeName isn log ∧
        profile.tricoreBsl = true ∧
        Rejected data.vin profile.dmeName isn log
  | .dmeIsnWritten => ∃ profile isn,
      getDmeSwapProfile data.profileKey = some profile ∧
        data.casIsnHex = Bytes.upperHex isn ∧
        Secured data.vin profile.dmeName isn log ∧
        Written data.vin profile.dmeName isn log
  | .verified => ∃ dmeName isn, Checked data.vin dmeName isn log
  | .aligned => True
  | .done => True
  | .failed => True

def Sound (session : SwapSession) : Prop :=
  Held session.log session.machine.data session.machine.state

/-- What a call of the machine finds in the transcript. -/
def Permitted (machine : SwapMachine) (log : List SwapExchange) :
    SwapCall → Prop
  | .readCasIsn vin _ => vin = machine.data.vin ∧ reads log = []
  | .backupDme vin dmeName => vin = machine.data.vin ∧
      (∃ profile, getDmeSwapProfile machine.data.profileKey = some profile ∧
        profile.dmeName = dmeName) ∧ ∃ isn, Fetched vin isn log
  | .writeDmeIsn vin dmeName isn _ => vin = machine.data.vin ∧
      Secured vin dmeName isn log
  | .bslWriteDmeIsn vin dmeName family isn => vin = machine.data.vin ∧
      Secured vin dmeName isn log ∧ Rejected vin dmeName isn log ∧
        ∃ profile, getDmeSwapProfile machine.data.profileKey = some profile ∧
          profile.dmeName = dmeName ∧ profile.dmeFamily = family ∧
          profile.tricoreBsl = true
  | .verifyDmeIsn vin dmeName isn => vin = machine.data.vin ∧
      Secured vin dmeName isn log ∧ Written vin dmeName isn log
  | .alignEws vin => vin = machine.data.vin ∧
      ∃ dmeName isn, Checked vin dmeName isn log

theorem eq_of_spelled {text : String} {isn bytes : List UInt8}
    (hex : text = Bytes.upperHex isn)
    (spelled : Bytes.fromHex text = some bytes) : bytes = isn := by
  rw [hex, Bytes.fromHex_upperHex] at spelled
  exact (Option.some.inj spelled).symm

theorem Sound.permitted {session : SwapSession} (sound : Sound session)
    {call : SwapCall} (issued : Issues session.machine call) :
    Permitted session.machine session.log call := by
  unfold Sound at sound
  cases issued with
  | read state selected =>
      rw [state] at sound
      exact ⟨rfl, sound⟩
  | backup state selected =>
      rw [state] at sound
      obtain ⟨isn, -, fetched⟩ := sound
      exact ⟨rfl, ⟨_, selected, rfl⟩, isn, fetched⟩
  | write state selected spelled =>
      rw [state] at sound
      obtain ⟨profile, isn, same, hex, secured⟩ := sound
      obtain rfl := eq_of_spelled hex spelled
      obtain rfl := Option.some.inj (selected.symm.trans same)
      exact ⟨rfl, secured⟩
  | bslWrite state selected spelled =>
      rw [state] at sound
      obtain ⟨profile, isn, same, hex, secured, tricore, rejected⟩ := sound
      obtain rfl := eq_of_spelled hex spelled
      obtain rfl := Option.some.inj (selected.symm.trans same)
      exact ⟨rfl, secured, rejected, _, selected, rfl, rfl, tricore⟩
  | verify state selected spelled =>
      rw [state] at sound
      obtain ⟨profile, isn, same, hex, secured, written⟩ := sound
      obtain rfl := eq_of_spelled hex spelled
      obtain rfl := Option.some.inj (selected.symm.trans same)
      exact ⟨rfl, secured, written⟩
  | align state =>
      rw [state] at sound
      exact ⟨rfl, sound⟩

theorem Sound.accepts {before after : SwapSession} (sound : Sound before)
    {call : SwapCall} {outcome : Except SwapRaised call.Answer}
    (issued : Issues before.machine call)
    (log : after.log = before.log ++ [⟨call, outcome⟩])
    (accepted : Accepts before.machine ⟨call, outcome⟩ after.machine) :
    Sound after := by
  obtain ⟨machine, _⟩ := after
  dsimp only at log accepted
  subst log
  unfold Sound at *
  cases accepted with
  | read length genuine =>
      cases issued with
      | read state selected =>
          rename_i profile
          rw [state] at sound
          refine ⟨_, rfl, length, genuine, profile.casFamily, ?_⟩
          rw [reads_append, show reads before.log = [] from sound]
          rfl
  | backup named =>
      cases issued with
      | backup state selected =>
          rw [state] at sound
          obtain ⟨isn, hex, fetched⟩ := sound
          exact ⟨_, isn, selected, hex, before.log, _, [], rfl, named, fetched,
            rfl⟩
  | write =>
      cases issued with
      | write state selected spelled =>
          rw [state] at sound
          obtain ⟨profile, isn, same, hex, secured⟩ := sound
          obtain rfl := eq_of_spelled hex spelled
          obtain rfl := Option.some.inj (selected.symm.trans same)
          exact ⟨_, _, selected, hex, secured.later rfl,
            .inl ⟨_, List.mem_append_right _ List.mem_cons_self⟩⟩
  | divert chosen tricore =>
      cases issued with
      | write state selected spelled =>
          rw [state] at sound
          obtain ⟨profile, isn, same, hex, secured⟩ := sound
          obtain rfl := eq_of_spelled hex spelled
          obtain rfl := Option.some.inj (selected.symm.trans same)
          obtain rfl := Option.some.inj (selected.symm.trans chosen)
          exact ⟨_, _, selected, hex, secured.later rfl, tricore, _, _,
            List.mem_append_right _ List.mem_cons_self⟩
  | bslWrite =>
      cases issued with
      | bslWrite state selected spelled =>
          rw [state] at sound
          obtain ⟨profile, isn, same, hex, secured, -⟩ := sound
          obtain rfl := eq_of_spelled hex spelled
          obtain rfl := Option.some.inj (selected.symm.trans same)
          exact ⟨_, _, selected, hex, secured.later rfl,
            .inr ⟨_, List.mem_append_right _ List.mem_cons_self⟩⟩
  | wait =>
      cases issued with
      | bslWrite state selected spelled =>
          rw [state] at sound ⊢
          obtain ⟨profile, isn, same, hex, secured, tricore, rejected⟩ := sound
          exact ⟨profile, isn, same, hex, secured.later rfl, tricore,
            rejected.later⟩
  | verify =>
      cases issued with
      | verify state selected spelled =>
          rw [state] at sound
          obtain ⟨profile, isn, same, hex, secured, written⟩ := sound
          obtain rfl := eq_of_spelled hex spelled
          obtain rfl := Option.some.inj (selected.symm.trans same)
          exact ⟨_, _, before.log, [], rfl, secured, written⟩
  | align => trivial

theorem sound_newSession : Sound newSession :=
  rfl

theorem Sound.step (world : World swapInterface SwapRaised)
    {before : SwapSession} (sound : Sound before)
    (step : SwapStep) : Sound ((runStep world step).final before) := by
  cases step_move world step before with
  | stayed same => rwa [same]
  | refused failed log =>
      rw [Sound, failed]
      trivial
  | selected idle state log =>
      rw [Sound, idle] at sound
      rw [Sound, state, log]
      exact sound
  | asked outcome issued log ended =>
      rcases ended with failed | accepted
      · rw [Sound, failed]
        trivial
      · exact sound.accepts issued log accepted
  | finished aligned done log =>
      rw [Sound, done]
      trivial

theorem sound_after (world : World swapInterface SwapRaised)
    (steps : List SwapStep) {session : SwapSession}
    (sound : Sound session) :
    Sound (Txn.after (runStep world) steps session) := by
  induction steps generalizing session with
  | nil => exact sound
  | cons step steps induction => exact induction (sound.step world step)

def Ended (session : SwapSession) : Prop :=
  session.machine.state = .done ∨ session.machine.state = .failed

theorem Ended.not_issues {session : SwapSession} (ended : Ended session)
    {call : SwapCall} : ¬ Issues session.machine call := by
  intro issued
  unfold Ended at ended
  cases issued <;> simp_all

theorem Ended.step (world : World swapInterface SwapRaised)
    {before : SwapSession} (ended : Ended before)
    (step : SwapStep) :
    Ended ((runStep world step).final before) ∧
      ((runStep world step).final before).log = before.log := by
  cases step_move world step before with
  | stayed same =>
      rw [same]
      exact ⟨ended, rfl⟩
  | refused failed log => exact ⟨.inr failed, log⟩
  | selected idle state log =>
      rw [Ended, idle] at ended
      simp at ended
  | asked outcome issued log _ => exact absurd issued ended.not_issues
  | finished aligned done log => exact ⟨.inl done, log⟩

theorem Ended.after {session : SwapSession} (ended : Ended session)
    (steps : List SwapStep) :
    (Txn.after (runStep world) steps session).log = session.log := by
  induction steps generalizing session with
  | nil => rfl
  | cons step steps induction =>
      obtain ⟨ended, log⟩ := ended.step world step
      exact (induction ended).trans log

/-- What an event calls after a run: at most one call, with the VIN of the
session. A write has the bytes the one read of the CAS returned, with the
backup taken since; the boot loader is for a TriCore DME that refused them. An
ended session calls nothing more. -/
structure WritesOwnIsn (world : World swapInterface SwapRaised)
    (session : SwapSession) : Prop where
  calls : ∀ event,
    ((handle world event).final session).log = session.log ∨
      ∃ (call : SwapCall) (outcome : Except SwapRaised call.Answer),
        ((handle world event).final session).log =
            session.log ++ [⟨call, outcome⟩] ∧
          Permitted session.machine session.log call
  ends : Ended session → ∀ steps,
    (Txn.after (runStep world) steps session).log = session.log

/-- Over every run of events, with the session stored and continued anywhere,
only the ISN of the car is written, and only behind a backup. -/
theorem writesOwnIsn (world : World swapInterface SwapRaised)
    (steps : List SwapStep) :
    WritesOwnIsn world (Txn.after (runStep world) steps newSession) := by
  have sound := sound_after world steps sound_newSession
  constructor
  · intro event
    cases handle_move world event _ with
    | stayed same => exact .inl (congrArg Session.log same)
    | refused failed log => exact .inl log
    | selected idle state log => exact .inl log
    | asked outcome issued log _ =>
        exact .inr ⟨_, outcome, log, sound.permitted issued⟩
    | finished aligned done log => exact .inl log
  · exact fun ended steps => ended.after steps

def demoProvider : World swapInterface SwapRaised
  | _, .readCasIsn _ _ => .ok ((List.range 32).map fun byte => .ofNat (byte + 1))
  | _, .backupDme _ _ => .ok "sha256"
  | _, .writeDmeIsn _ _ _ _ => .error (.dmeUdsWriteRejected (some 0x33))
  | _, .verifyDmeIsn _ _ _ => .ok true
  | _, .bslWriteDmeIsn _ _ _ _ => .ok ()
  | _, .alignEws _ => .ok ()

/-- A session stored before the boot loader gets to its end. -/
example :
    (Txn.after (runStep demoProvider)
      [.event (.selectProfile
          { profileKey := some "R56_N18_MEVD17"
            vin := some "WMWZB"
            technicianId := some ""
            gateway := some "" }),
        .event .readCasIsn, .event .backupDme, .event .writeDmeIsn, .resume,
        .event .bslStart, .event .verify, .event .align, .event .finish]
      newSession).machine.state = .done := by
  decide +kernel

end DmeSwap

end Mousstec
