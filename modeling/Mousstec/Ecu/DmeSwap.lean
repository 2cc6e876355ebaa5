import Mousstec.Library.Bytes
import Mousstec.Library.Guided

/-!
# Fitting a used engine control unit

The ISN of the car is read from its CAS, the used DME is kept as a backup, the
ISN is written over UDS or, when the DME refuses and its processor has one,
over the boot loader, it is read back, and DME and CAS are aligned.  The
provider of the hardware calls is the session's environment.  A session may be
stored between two events and continued from what was stored.
-/

namespace Mousstec

namespace DmeSwap

open Library

/-- `ISN_LENGTH`. -/
def isnLength : Nat := 32

/-- `DmeSwapProfile`, the fields the machine reads. -/
structure DmeSwapProfile where
  key : String
  chassis : String
  dmeName : String
  dmeFamily : String
  casFamily : String
  requiresBench : Bool
  processor : String
  tricoreBsl : Bool
  deriving DecidableEq

/-- `DME_SWAP_PROFILES`. -/
def dmeSwapProfiles : List DmeSwapProfile :=
  [{ key := "R56_N18_MEVD17"
     chassis := "R56"
     dmeName := "MEVD17_2_2"
     dmeFamily := "MEVD17"
     casFamily := "CAS3+"
     requiresBench := true
     processor := "Infineon TriCore (Bosch MEVD17.2)"
     tricoreBsl := true },
    { key := "E8X_E9X_N55_MEVD172"
      chassis := "E82/E90"
      dmeName := "MEVD17_2"
      dmeFamily := "MEVD17"
      casFamily := "CAS3+"
      requiresBench := true
      processor := "Infineon TriCore (Bosch MEVD17.2)"
      tricoreBsl := true },
    { key := "E60_E90_N52_MSV80"
      chassis := "E60/E90"
      dmeName := "MSV80"
      dmeFamily := "MSV80"
      casFamily := "CAS3"
      requiresBench := true
      processor := "Siemens MSV80 (non-TriCore)"
      tricoreBsl := false },
    { key := "E9X_N54_MSD80"
      chassis := "E9X/E60"
      dmeName := "MSD80"
      dmeFamily := "MSD80"
      casFamily := "CAS3/CAS3+"
      requiresBench := true
      processor := "Siemens MSD80 (confirm MCU per board)"
      tricoreBsl := false },
    { key := "E9X_N54_MSD81"
      chassis := "E9X"
      dmeName := "MSD81"
      dmeFamily := "MSD81"
      casFamily := "CAS3+"
      requiresBench := true
      processor := "Siemens MSD81 (confirm MCU per board)"
      tricoreBsl := false }]

/-- `get_dme_swap_profile`. -/
def getDmeSwapProfile (key : String) : Option DmeSwapProfile :=
  dmeSwapProfiles.find? fun profile => profile.key = key

/-- `SwapState`. -/
inductive SwapState
  | idle
  | profileSelected
  | casIsnRead
  | dmeBackedUp
  | dmeBslFallback
  | dmeIsnWritten
  | verified
  | aligned
  | done
  | failed
  deriving DecidableEq, Repr

namespace SwapState

def value : SwapState → String
  | idle => "idle"
  | profileSelected => "profile_selected"
  | casIsnRead => "cas_isn_read"
  | dmeBackedUp => "dme_backed_up"
  | dmeBslFallback => "dme_bsl_fallback"
  | dmeIsnWritten => "dme_isn_written"
  | verified => "verified"
  | aligned => "aligned"
  | done => "done"
  | failed => "failed"

def all : List SwapState :=
  [idle, profileSelected, casIsnRead, dmeBackedUp, dmeBslFallback,
    dmeIsnWritten, verified, aligned, done, failed]

/-- `SwapState(text)`: the state of a value. -/
def ofValue (text : String) : Option SwapState :=
  all.find? fun state => state.value = text

/-- `_ALLOWED`. -/
def allowed : SwapState → List SwapState
  | idle => [profileSelected, failed]
  | profileSelected => [casIsnRead, failed]
  | casIsnRead => [dmeBackedUp, failed]
  | dmeBackedUp => [dmeIsnWritten, dmeBslFallback, failed]
  | dmeBslFallback => [dmeBslFallback, dmeIsnWritten, failed]
  | dmeIsnWritten => [verified, failed]
  | verified => [aligned, failed]
  | aligned => [done, failed]
  | done => []
  | failed => []

@[simp] theorem ofValue_value (state : SwapState) :
    ofValue state.value = some state := by
  cases state <;> decide +kernel

end SwapState

inductive SwapCall
  | readCasIsn (vin casFamily : String)
  | backupDme (vin dmeName : String)
  | writeDmeIsn (vin dmeName : String) (isn : List UInt8)
      (requiresBench : Bool)
  | bslWriteDmeIsn (vin dmeName dmeFamily : String) (isn : List UInt8)
  | verifyDmeIsn (vin dmeName : String) (isn : List UInt8)
  | alignEws (vin : String)

def SwapCall.Answer : SwapCall → Type
  | readCasIsn _ _ => List UInt8
  | backupDme _ _ => String
  | verifyDmeIsn _ _ _ => Bool
  | _ => Unit

abbrev swapInterface : Interface :=
  { Call := SwapCall
    Answer := SwapCall.Answer }

/-- The exceptions the machine tells apart, with their text. -/
inductive SwapRaised
  | illegalTransition (text : String)
  | dmeUdsWriteRejected (nrc : Option Nat)
  | bslHandshakeFailed (text : String)
  | bslNotConfigured (text : String)
  | other (text : String)
  deriving DecidableEq

/-- Why a session failed: what the error detail tells. -/
inductive SwapFault
  | unknownEvent (event : String)
  | missingProfile
  | unknownProfile (key : String)
  | badIsnLength (length : Nat)
  | virginIsn
  | backupEmpty
  | noBackup
  | benchWriteRequired (nrc dmeName processor : String)
  | verifyMismatch
  | abortedByUser
  | raised (error : SwapRaised)
  deriving DecidableEq

/-- `error_code`. -/
def SwapFault.code : SwapFault → String
  | unknownEvent _ => "unknown_event"
  | missingProfile => "missing_profile"
  | unknownProfile _ => "unknown_profile"
  | badIsnLength _ => "bad_isn_length"
  | virginIsn => "virgin_isn"
  | backupEmpty => "backup_empty"
  | noBackup => "no_backup"
  | benchWriteRequired _ _ _ => "bench_write_required"
  | verifyMismatch => "verify_mismatch"
  | abortedByUser => "aborted_by_user"
  | raised (.illegalTransition _) => "illegal_transition"
  | raised _ => "provider_error"

/-- `SwapData`. -/
structure SwapData where
  profileKey : String := ""
  vin : String := ""
  technicianId : String := ""
  gateway : String := ""
  casIsnHex : String := ""
  backupRef : String := ""
  udsRejectNrc : String := ""
  error : Option SwapFault := none
  deriving DecidableEq

/-- `DmeSwapOrchestrator`. -/
structure SwapMachine where
  state : SwapState := .idle
  data : SwapData := {}
  deriving DecidableEq

abbrev SwapSession := Session swapInterface SwapRaised SwapMachine

/-- The payload of a SELECT_PROFILE event, its texts stripped, VIN and gateway
in upper case; an entry that is no text is absent. -/
structure SelectPayload where
  profileKey : Option String
  vin : Option String
  technicianId : Option String
  gateway : Option String

/-- `SwapEvent`, or a text that is none. -/
inductive SwapEvent
  | selectProfile (payload : SelectPayload)
  | readCasIsn
  | backupDme
  | writeDmeIsn
  | bslStart
  | verify
  | align
  | finish
  | abort
  | unknown (text : String)

abbrev SwapTxn := Txn SwapRaised SwapSession

/-- `_is_virgin`. -/
def isVirgin (isn : List UInt8) : Prop :=
  (∀ byte ∈ isn, byte = 0) ∨ ∀ byte ∈ isn, byte = 0xFF

instance (isn : List UInt8) : Decidable (isVirgin isn) :=
  inferInstanceAs (Decidable (_ ∨ _))

def SwapMachine.withData (change : SwapData → SwapData)
    (machine : SwapMachine) : SwapMachine :=
  { machine with data := change machine.data }

/-- `_fail`. -/
def SwapMachine.fail (fault : SwapFault) (machine : SwapMachine) :
    SwapMachine :=
  { state := .failed
    data := { machine.data with error := some fault } }

def swapStages : Guided.Stages SwapMachine SwapState SwapRaised where
  stage := SwapMachine.state
  enter target machine := { machine with state := target }
  allowed := SwapState.allowed
  illegal from_ target := .illegalTransition
    (from_.value ++ " → " ++ target.value ++ " not allowed")

/-- `_advance`. -/
def advance (target : SwapState) : SwapTxn PUnit :=
  Guided.advance swapStages target

/-- `_fail`, as a statement. -/
def fail (fault : SwapFault) : SwapTxn PUnit :=
  Session.update (·.fail fault)

def onlyIn (event : String) (only : SwapState) : SwapTxn PUnit :=
  Guided.within swapStages only fun state => .illegalTransition
    (event ++ " only valid in " ++ only.value.toUpper ++
      " (now " ++ state.value ++ ")")

/-- `profile`. -/
def profileOf (machine : SwapMachine) : SwapTxn DmeSwapProfile :=
  Txn.expect (getDmeSwapProfile machine.data.profileKey)
    (.other "RuntimeError('profile not selected yet')")

def isnOf (machine : SwapMachine) : SwapTxn (List UInt8) :=
  Txn.expect (Bytes.fromHex machine.data.casIsnHex) (.other "ValueError")

def payloadText (text : Option String) : SwapTxn String :=
  Txn.expect text (.other "AttributeError")

/-- A byte in two digits, as `{nrc:02X}` writes it. -/
def nrcDigits (nrc : Nat) : String :=
  let digits := (Nat.toDigits 16 nrc).map Char.toUpper
  String.ofList (List.replicate (2 - digits.length) '0' ++ digits)

def nrcText : Option Nat → String
  | some nrc => "0x" ++ nrcDigits nrc
  | none => ""

example : nrcText (some 0x33) = "0x33" := by decide +kernel

/-- SELECT_PROFILE with a key of the catalog.  The data is written before the
transition is checked. -/
def selectKnown (key : String) (payload : SelectPayload) : SwapTxn PUnit := do
  Session.update (·.withData fun data => { data with profileKey := key })
  let vin ← payloadText payload.vin
  Session.update (·.withData fun data => { data with vin := vin })
  let technicianId ← payloadText payload.technicianId
  Session.update (·.withData fun data => { data with technicianId := technicianId })
  let gateway ← payloadText payload.gateway
  Session.update (·.withData fun data => { data with gateway := gateway })
  advance .profileSelected

/-- `_select_profile`. -/
def selectProfile (payload : SelectPayload) : SwapTxn PUnit := do
  let key ← payloadText payload.profileKey
  if key = "" then fail .missingProfile
  else if getDmeSwapProfile key = none then fail (.unknownProfile key)
  else selectKnown key payload

section Steps

variable (world : World swapInterface SwapRaised)

def keepIsn (isn : List UInt8) : SwapTxn PUnit :=
  if isn.length ≠ isnLength then fail (.badIsnLength isn.length)
  else if isVirgin isn then fail .virginIsn
  else do
    Session.update (·.withData fun data =>
      { data with casIsnHex := Bytes.upperHex isn })
    advance .casIsnRead

/-- `_read_cas_isn`. -/
def readCasIsn : SwapTxn PUnit := do
  onlyIn "READ_CAS_ISN" .profileSelected
  let session ← get
  let profile ← profileOf session.machine
  let isn : List UInt8 ← Session.ask world
    (.readCasIsn session.machine.data.vin profile.casFamily)
  keepIsn isn

def keepBackup (ref : String) : SwapTxn PUnit :=
  if ref = "" then fail .backupEmpty
  else do
    Session.update (·.withData fun data => { data with backupRef := ref })
    advance .dmeBackedUp

/-- `_backup_dme`. -/
def backupDme : SwapTxn PUnit := do
  onlyIn "BACKUP_DME" .casIsnRead
  let session ← get
  let profile ← profileOf session.machine
  let ref : String ← Session.ask world
    (.backupDme session.machine.data.vin profile.dmeName)
  keepBackup ref

def writeRefused (profile : DmeSwapProfile) (nrc : Option Nat) :
    SwapTxn PUnit := do
  Session.update (·.withData fun data =>
    { data with udsRejectNrc := nrcText nrc })
  if profile.tricoreBsl then advance .dmeBslFallback
  else
    fail (.benchWriteRequired (nrcText nrc) profile.dmeName profile.processor)

def writeEnded (profile : DmeSwapProfile) :
    Except SwapRaised Unit → SwapTxn PUnit
  | .ok _ => advance .dmeIsnWritten
  | .error (.dmeUdsWriteRejected nrc) => writeRefused profile nrc
  | .error error => throw error

/-- `_write_dme_isn`, once there is a backup. -/
def writeBackedUp : SwapTxn PUnit := do
  let session ← get
  let profile ← profileOf session.machine
  let isn ← isnOf session.machine
  let outcome : Except SwapRaised Unit ← Txn.attempt (Session.ask world
    (.writeDmeIsn session.machine.data.vin profile.dmeName isn
      profile.requiresBench))
  writeEnded profile outcome

/-- `_write_dme_isn`. -/
def writeDmeIsn : SwapTxn PUnit := do
  onlyIn "WRITE_DME_ISN" .dmeBackedUp
  let session ← get
  if session.machine.data.backupRef = "" then fail .noBackup
  else writeBackedUp world

/-- What the machine does when the write over the boot loader ends.  A missing
handshake or flash profile leaves the session where it is. -/
def bslEnded : Except SwapRaised Unit → SwapTxn PUnit
  | .ok _ => advance .dmeIsnWritten
  | .error (.bslHandshakeFailed _) => pure ⟨⟩
  | .error (.bslNotConfigured _) => pure ⟨⟩
  | .error error => throw error

/-- `_bsl_start`. -/
def bslStart : SwapTxn PUnit := do
  onlyIn "BSL_START" .dmeBslFallback
  let session ← get
  let profile ← profileOf session.machine
  let isn ← isnOf session.machine
  let outcome : Except SwapRaised Unit ← Txn.attempt (Session.ask world
    (.bslWriteDmeIsn session.machine.data.vin profile.dmeName
      profile.dmeFamily isn))
  bslEnded outcome

/-- `_verify`. -/
def verify : SwapTxn PUnit := do
  onlyIn "VERIFY" .dmeIsnWritten
  let session ← get
  let profile ← profileOf session.machine
  let isn ← isnOf session.machine
  let same : Bool ← Session.ask world
    (.verifyDmeIsn session.machine.data.vin profile.dmeName isn)
  if same then advance .verified else fail .verifyMismatch

/-- `_align`. -/
def align : SwapTxn PUnit := do
  onlyIn "ALIGN" .verified
  let session ← get
  let _ : Unit ← Session.ask world (.alignEws session.machine.data.vin)
  advance .aligned

/-- `_finish`. -/
def finish : SwapTxn PUnit := do
  onlyIn "FINISH" .aligned
  advance .done

/-- `_dispatch`. -/
def dispatch : SwapEvent → SwapTxn PUnit
  | .selectProfile payload => selectProfile payload
  | .readCasIsn => readCasIsn world
  | .backupDme => backupDme world
  | .writeDmeIsn => writeDmeIsn world
  | .bslStart => bslStart world
  | .verify => verify world
  | .align => align world
  | .finish => finish
  | .abort => fail .abortedByUser
  | .unknown text => fail (.unknownEvent text)

/-- `handle`: what a step raises fails the session. -/
def handle (event : SwapEvent) : SwapTxn PUnit :=
  Guided.recovering (dispatch world event) fun error => fail (.raised error)

end Steps

structure SwapSnapshot where
  state : String
  data : SwapData

/-- `snapshot`. -/
def snapshot (machine : SwapMachine) : SwapSnapshot :=
  { state := machine.state.value
    data :=
      { profileKey := machine.data.profileKey
        vin := machine.data.vin
        technicianId := machine.data.technicianId
        gateway := machine.data.gateway
        casIsnHex := machine.data.casIsnHex
        backupRef := machine.data.backupRef
        udsRejectNrc := machine.data.udsRejectNrc
        error := machine.data.error } }

/-- `restore`; a text that is no state is refused. -/
def restore (stored : SwapSnapshot) : Option SwapMachine :=
  (SwapState.ofValue stored.state).map fun state =>
    { state
      data :=
        { profileKey := stored.data.profileKey
          vin := stored.data.vin
          technicianId := stored.data.technicianId
          gateway := stored.data.gateway
          casIsnHex := stored.data.casIsnHex
          backupRef := stored.data.backupRef
          udsRejectNrc := stored.data.udsRejectNrc
          error := stored.data.error } }

@[simp] theorem restore_snapshot (machine : SwapMachine) :
    restore (snapshot machine) = some machine := by
  rw [restore, snapshot, SwapState.ofValue_value]
  rfl

/-- What happens to a session: an event, or a stop and a later start. -/
inductive SwapStep
  | event (event : SwapEvent)
  | resume

def resume : SwapTxn PUnit := do
  let session ← get
  let machine ← Txn.expect (restore (snapshot session.machine))
    (.other "ValueError")
  Session.update fun _ => machine

def runStep (world : World swapInterface SwapRaised) :
    SwapStep → SwapTxn PUnit
  | .event event => handle world event
  | .resume => resume

def newSession : SwapSession :=
  { machine := {}
    log := [] }

end DmeSwap

end Mousstec
