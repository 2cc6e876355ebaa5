import Mousstec.Ecu.Safety
import Mousstec.Library.Bytes
import Mousstec.Library.Transcript

/-!
# Guided flashing

A flash job is checked, its target region is read and kept as a backup, the
region is erased and written block by block, and the session is closed.  When
a step raises while the backup is in hand, the backup is written back.  The
provider of the hardware calls is the session's environment.
-/

namespace Mousstec

namespace Flash

open Library

/-- `FlashState`. -/
inductive FlashState
  | idle
  | ready
  | backedUp
  | flashed
  | done
  | failed
  deriving DecidableEq, Repr

namespace FlashState

def value : FlashState → String
  | idle => "idle"
  | ready => "ready"
  | backedUp => "backed_up"
  | flashed => "flashed"
  | done => "done"
  | failed => "failed"

/-- `_ALLOWED`. -/
def allowed : FlashState → List FlashState
  | idle => [ready, failed]
  | ready => [backedUp, failed]
  | backedUp => [flashed, failed]
  | flashed => [done, failed]
  | done => []
  | failed => []

end FlashState

/-- `FlashJob`, the fields the machine reads. -/
structure FlashJob where
  code : String
  targetModule : String
  targetAddr : Nat
  needsSecurity : Bool
  safety : SafetyRequirement
  expectedMinBytes : Nat
  expectedMaxBytes : Nat
  checksumAlgo : String
  deriving DecidableEq

/-- `size_ok`. -/
def FlashJob.sizeOk (job : FlashJob) (n : Nat) : Prop :=
  job.expectedMinBytes ≤ n ∧ n ≤ job.expectedMaxBytes

instance (job : FlashJob) (n : Nat) : Decidable (job.sizeOk n) :=
  inferInstanceAs (Decidable (_ ∧ _))

/-- `_FLASH_SAFETY`. -/
def flashSafety : SafetyRequirement :=
  { voltageMinV := 13
    voltageMaxV := 148 / 10
    ignitionIn := [.koeo] }

def catalogJob (code targetModule : String) (targetAddr : Nat)
    (needsSecurity : Bool) (minKib maxKib : Nat) : FlashJob :=
  { code, targetModule, targetAddr, needsSecurity
    safety := flashSafety
    expectedMinBytes := minKib * 1024
    expectedMaxBytes := maxKib * 1024
    checksumAlgo := "crc32" }

/-- `FLASH_CATALOG`. -/
def flashCatalog : List FlashJob :=
  [catalogJob "dme_sw_update" "dme" 0x00080000 true 256 4096,
    catalogJob "fem_bdc_update" "fem" 0x00100000 true 128 2048,
    catalogJob "kombi_update" "kombi" 0x00040000 false 64 1024,
    catalogJob "egs_update" "egs" 0x000C0000 true 128 2048]

/-- `get_flash_job`. -/
def getFlashJob (code : String) : Option FlashJob :=
  flashCatalog.find? fun job => job.code = code

def crc32Bit (crc : UInt32) : UInt32 :=
  if crc &&& 1 = 1 then (crc >>> 1) ^^^ 0xEDB88320 else crc >>> 1

def crc32Byte (crc : UInt32) (byte : UInt8) : UInt32 :=
  Nat.iterate crc32Bit 8 (crc ^^^ byte.toUInt32)

/-- `zlib.crc32`. -/
def crc32 (payload : List UInt8) : Nat :=
  (payload.foldl crc32Byte 0xFFFFFFFF ^^^ 0xFFFFFFFF).toNat

/-- `compute_checksum`, for the algorithms it knows. -/
def computeChecksum (payload : List UInt8) (algo : String) : Option Nat :=
  if algo = "crc32" then some (crc32 payload)
  else if algo = "sum16" then
    some ((payload.map UInt8.toNat).sum % 0x10000)
  else if algo = "xor8" then
    some (payload.foldl (· ^^^ ·) (0 : UInt8)).toNat
  else none

/-- The check value of CRC-32. -/
example : crc32 "123456789".toUTF8.toList = 0xCBF43926 := by decide +kernel

/-- `FlashBackup`. -/
structure FlashBackup where
  ecuName : String
  vin : String
  originAddr : Nat
  data : List UInt8
  deriving DecidableEq

/-- `FlashBackup.size`. -/
def FlashBackup.size (backup : FlashBackup) : Nat :=
  backup.data.length

/-- The calls to the safety gate, the entitlement guard and the provider. -/
inductive FlashCall
  | probe (require : SafetyRequirement)
  | check
  | consume (vin operationRef : String)
  | readCurrentVersion
  | enterProgrammingSession
  | unlockSecurity (vin : String)
  | readBackup (addr size : Nat)
  | erase (addr : Nat)
  | requestDownload (addr size : Nat)
  | transferBlock (seq : Nat) (data : List UInt8)
  | requestTransferExit
  | checkDependencies
  | ecuReset
  | restoreBackup (backup : FlashBackup)

def FlashCall.Answer : FlashCall → Type
  | probe _ => SafetyReport
  | check => Bool × String
  | consume _ _ => Bool
  | readCurrentVersion => String
  | readBackup _ _ => FlashBackup
  | requestDownload _ _ => Int
  | _ => Unit

abbrev flashInterface : Interface :=
  { Call := FlashCall
    Answer := FlashCall.Answer }

/-- The exceptions the handler tells apart, with their text. -/
inductive FlashRaised
  | illegalTransition (text : String)
  | transportError (text : String)
  | securityDenied (text : String)
  | rejected (text : String)
  | dependencyError (text : String)
  | other (text : String)
  deriving DecidableEq

/-- Why a session failed: what the error detail tells. -/
inductive FlashFault
  | unknownEvent (event : String)
  | unknownJob (code : String)
  | badPayload
  | badPayloadSize (size expectedMin expectedMax : Nat)
  | notEntitled (reason : String)
  | prereqFailed (reasons : List String)
  | abortedByUser
  | raised (error : FlashRaised)
  deriving DecidableEq

/-- `error_code`. -/
def FlashFault.code : FlashFault → String
  | unknownEvent _ => "unknown_event"
  | unknownJob _ => "unknown_job"
  | badPayload => "bad_payload"
  | badPayloadSize _ _ _ => "bad_payload_size"
  | notEntitled _ => "not_entitled"
  | prereqFailed _ => "prereq_failed"
  | abortedByUser => "aborted_by_user"
  | raised (.illegalTransition _) => "illegal_transition"
  | raised (.transportError _) => "transport_error"
  | raised (.securityDenied _) => "security_denied"
  | raised (.rejected _) => "flash_rejected"
  | raised (.dependencyError _) => "dependency_failed"
  | raised (.other _) => "unexpected"

/-- `FlashData`. -/
structure FlashData where
  jobCode : String := ""
  vin : String := ""
  technicianId : String := ""
  safetyVoltageV : ℚ := 0
  payloadLen : Nat := 0
  payloadChecksum : Nat := 0
  currentVersion : String := ""
  backupSize : Nat := 0
  blocksWritten : Nat := 0
  rolledBack : Bool := false
  error : Option FlashFault := none
  deriving DecidableEq

/-- `FlashOrchestrator`: the job, the payload and the backup are held beside
the data. -/
structure FlashMachine where
  state : FlashState := .idle
  data : FlashData := {}
  job : Option FlashJob := none
  payload : List UInt8 := []
  backup : Option FlashBackup := none

abbrev FlashSession := Session flashInterface FlashRaised FlashMachine

/-- The payload of a START event, its texts stripped and the VIN in upper
case; the image is absent when it is not a byte string. -/
structure StartPayload where
  jobCode : String
  vin : String
  technicianId : String
  image : Option (List UInt8)

/-- `FlashEvent`, or a text that is none. -/
inductive FlashEvent
  | start (payload : StartPayload)
  | backup
  | flash
  | finish
  | abort
  | unknown (text : String)

abbrev FlashTxn := Txn FlashRaised FlashSession

/-- `_fail`. -/
def FlashMachine.fail (fault : FlashFault) (machine : FlashMachine) :
    FlashMachine :=
  { machine with
    state := .failed
    data := { machine.data with error := some fault } }

def FlashMachine.withData (change : FlashData → FlashData)
    (machine : FlashMachine) : FlashMachine :=
  { machine with data := change machine.data }

def outOfState (event only : String) (state : FlashState) : FlashRaised :=
  .illegalTransition
    (event ++ " only valid in " ++ only ++ " (now " ++ state.value ++ ")")

/-- `_advance`. -/
def advance (target : FlashState) : FlashTxn PUnit := do
  let session ← get
  let from_ := session.machine.state
  Txn.require (target ∈ from_.allowed)
    (.illegalTransition
      (from_.value ++ " → " ++ target.value ++ " not allowed"))
  Session.update fun machine => { machine with state := target }

section Steps

variable (world : World flashInterface FlashRaised) (guarded : Bool)

def startProbed (job : FlashJob) : FlashTxn PUnit := do
  let report : SafetyReport ← Session.ask world (.probe job.safety)
  Session.update (·.withData fun data =>
    { data with safetyVoltageV := report.voltageV })
  if report.ok = false then
    Session.update (·.fail (.prereqFailed report.refusalReasons))
  else
    let version : String ← Session.ask world .readCurrentVersion
    Session.update (·.withData fun data =>
      { data with currentVersion := version })
    advance .ready

def startEntitled (job : FlashJob) : FlashTxn PUnit := do
  if guarded then
    let verdict : Bool × String ← Session.ask world .check
    if verdict.1 then startProbed world job
    else Session.update (·.fail (.notEntitled verdict.2))
  else startProbed world job

def startImage (job : FlashJob) (image : List UInt8) : FlashTxn PUnit := do
  if ¬ job.sizeOk image.length then
    Session.update (·.fail (.badPayloadSize image.length job.expectedMinBytes
      job.expectedMaxBytes))
  else
    Session.update fun machine =>
      { machine with
        payload := image
        data := { machine.data with payloadLen := image.length } }
    let checksum ← Txn.expect (computeChecksum image job.checksumAlgo)
      (.other ("Unknown checksum algo: " ++ job.checksumAlgo))
    Session.update (·.withData fun data =>
      { data with payloadChecksum := checksum })
    startEntitled world guarded job

/-- `_start`. -/
def start (payload : StartPayload) : FlashTxn PUnit := do
  let session ← get
  Txn.require (session.machine.state = .idle)
    (outOfState "START" "IDLE" session.machine.state)
  match getFlashJob payload.jobCode with
  | none => Session.update (·.fail (.unknownJob payload.jobCode))
  | some job =>
      Session.update fun machine =>
        { machine with
          job := some job
          data :=
            { machine.data with
              jobCode := payload.jobCode
              vin := payload.vin
              technicianId := payload.technicianId } }
      match payload.image with
      | none => Session.update (·.fail .badPayload)
      | some image => startImage world guarded job image

/-- `unlock_security`, for the jobs that need it. -/
def unlockFor (job : FlashJob) (vin : String) : FlashTxn PUnit :=
  if job.needsSecurity then do
    let _ : Unit ← Session.ask world (.unlockSecurity vin)
    pure ⟨⟩
  else pure ⟨⟩

/-- `_backup_step`. -/
def backupStep : FlashTxn PUnit := do
  let session ← get
  let machine := session.machine
  Txn.require (machine.state = .ready)
    (outOfState "BACKUP" "READY" machine.state)
  let job ← Txn.expect machine.job (.other "AssertionError()")
  let _ : Unit ← Session.ask world .enterProgrammingSession
  unlockFor world job machine.data.vin
  let backup : FlashBackup ← Session.ask world
    (.readBackup job.targetAddr machine.data.payloadLen)
  Session.update fun machine =>
    { machine with
      backup := some backup
      data := { machine.data with backupSize := backup.size } }
  advance .backedUp

/-- The slices of the payload at the offsets of
`range(0, len(payload), block_len)`. -/
def payloadBlocks (payload : List UInt8) (blockLen : Nat) :
    List (List UInt8) :=
  (List.range ((payload.length + blockLen - 1) / blockLen)).map fun index =>
    (payload.drop (index * blockLen)).take blockLen

def transferBlocks : Nat → List (List UInt8) → FlashTxn Nat
  | seq, [] => pure seq
  | seq, block :: blocks => do
      let _ : Unit ← Session.ask world (.transferBlock seq block)
      transferBlocks (seq + 1) blocks

def writeImage (job : FlashJob) (machine : FlashMachine) : FlashTxn PUnit := do
  let negotiated : Int ← Session.ask world
    (.requestDownload job.targetAddr machine.data.payloadLen)
  let blockLen := (max 1 negotiated).toNat
  let next ← transferBlocks world 1 (payloadBlocks machine.payload blockLen)
  Session.update (·.withData fun data => { data with blocksWritten := next - 1 })
  let _ : Unit ← Session.ask world .requestTransferExit
  let _ : Unit ← Session.ask world .checkDependencies
  let _ : Unit ← Session.ask world .ecuReset
  let _ : String ← Session.ask world .readCurrentVersion
  pure ⟨⟩

/-- `_flash_step`. -/
def flashStep : FlashTxn PUnit := do
  let session ← get
  let machine := session.machine
  Txn.require (machine.state = .backedUp)
    (outOfState "FLASH" "BACKED_UP" machine.state)
  let job ← Txn.expect machine.job (.other "AssertionError()")
  let _ : Unit ← Session.ask world (.erase job.targetAddr)
  writeImage world job machine
  advance .flashed

/-- `_finish`. -/
def finish : FlashTxn PUnit := do
  let session ← get
  let machine := session.machine
  Txn.require (machine.state = .flashed)
    (outOfState "FINISH" "FLASHED" machine.state)
  advance .done
  let job ← Txn.expect machine.job (.other "AssertionError()")
  if guarded then
    let _ : Bool ← Session.ask world
      (.consume machine.data.vin
        (job.code ++ "-" ++ orDefault machine.data.vin "no-vin"))
    pure ⟨⟩
  else pure ⟨⟩

/-- `_rollback`.  Whatever the restore comes to, the image counts as rolled
back. -/
def rollback : FlashTxn PUnit := do
  let session ← get
  match session.machine.backup, session.machine.data.rolledBack with
  | some backup, false =>
      let _ : Except FlashRaised Unit ← Txn.attempt
        (Session.ask world (.restoreBackup backup))
      Session.update (·.withData fun data => { data with rolledBack := true })
  | _, _ => pure ⟨⟩

def rollbackBackedUp : FlashTxn PUnit := do
  let session ← get
  if session.machine.state = .backedUp then rollback world else pure ⟨⟩

/-- `_dispatch`. -/
def dispatch : FlashEvent → FlashTxn PUnit
  | .start payload => start world guarded payload
  | .backup => backupStep world
  | .flash => flashStep world
  | .finish => finish world guarded
  | .abort => do
      rollbackBackedUp world
      Session.update (·.fail .abortedByUser)
  | .unknown text => Session.update (·.fail (.unknownEvent text))

/-- `handle`: what a step raises fails the session, after a rollback. -/
def handle (event : FlashEvent) : FlashTxn PUnit := do
  let outcome : Except FlashRaised PUnit ←
    Txn.attempt (dispatch world guarded event)
  match outcome with
  | .ok _ => pure ⟨⟩
  | .error error =>
      rollbackBackedUp world
      Session.update (·.fail (.raised error))

end Steps

def newSession : FlashSession :=
  { machine := {}
    log := [] }

end Flash

end Mousstec
