import Mousstec.Ecu.Safety
import Mousstec.Library.Bytes
import Mousstec.Library.Guided
import Mousstec.Library.Sha256

/-!
# Programming keys on the bench

An immobiliser module on the bench is wired, powered, put into bench mode and
dumped; its ISN is taken out of the dump or handed in, a free key slot is
picked, a fob payload is derived and the slot is verified.  The work is gated
by an entitlement guard as a recovery is.
-/

namespace Mousstec

namespace Bench

open Library

/-- `ModuleFamily`. -/
inductive ModuleFamily
  | cas3
  | cas3Plus
  | fem
  | bdc
  deriving DecidableEq, Repr

namespace ModuleFamily

def value : ModuleFamily → String
  | cas3 => "CAS3"
  | cas3Plus => "CAS3+"
  | fem => "FEM"
  | bdc => "BDC"

/-- `ModuleFamily(text)`. -/
def ofValue (text : String) : Option ModuleFamily :=
  [cas3, cas3Plus, fem, bdc].find? fun family => family.value = text

@[simp] theorem ofValue_value (family : ModuleFamily) :
    ofValue family.value = some family := by
  cases family <;> decide +kernel

end ModuleFamily

/-- `ReadFlow`. -/
inductive ReadFlow
  | eeprom
  | uds
  deriving DecidableEq

/-- `KeyLearningProfile`, the fields the flow reads; the pins with their
labels. -/
structure KeyLearningProfile where
  readFlow : ReadFlow
  pins : List (String × Nat)
  canSpeedKbps : Nat := 500
  eepromChip : String := ""
  eepromSize : Nat := 0
  isnLength : Nat := 32
  keyCount : Nat
  benchVoltage : ℚ := 12
  voltageTolerance : ℚ := 1 / 2

def eepromPins : List (String × Nat) :=
  [("12V", 1), ("GND", 2), ("SDA", 14), ("SCL", 15), ("WP", 16)]

def udsPins : List (String × Nat) :=
  [("12V", 1), ("GND", 2), ("CAN-H", 8), ("CAN-L", 9), ("BOOT", 12)]

/-- `get_profile`. -/
def getProfile : ModuleFamily → KeyLearningProfile
  | .cas3 =>
      { readFlow := .eeprom
        pins := eepromPins
        eepromChip := "M35080"
        eepromSize := 512
        keyCount := 4 }
  | .cas3Plus =>
      { readFlow := .eeprom
        pins := eepromPins
        eepromChip := "M35128"
        eepromSize := 1024
        keyCount := 8 }
  | .fem =>
      { readFlow := .uds
        pins := udsPins
        keyCount := 10 }
  | .bdc =>
      { readFlow := .uds
        pins := udsPins
        keyCount := 10 }

/-- `HarnessConnection`. -/
inductive HarnessConnection
  | ok
  | powerMissing
  | groundMissing
  | shortToGround
  | shortToPower
  | canOpen
  | eepromSdaNc
  | eepromSclNc
  | unknown
  deriving DecidableEq, Repr

def HarnessConnection.value : HarnessConnection → String
  | ok => "ok"
  | powerMissing => "power_missing"
  | groundMissing => "ground_missing"
  | shortToGround => "short_to_ground"
  | shortToPower => "short_to_power"
  | canOpen => "can_open"
  | eepromSdaNc => "eeprom_sda_nc"
  | eepromSclNc => "eeprom_scl_nc"
  | unknown => "unknown"

/-- The calls to the guard, to the harness and to the random source. -/
inductive BenchCall
  | check
  | consume (vin operationRef : String)
  | detectWiring (expectedPins : List (String × Nat))
  | powerOn (voltage tolerance : ℚ)
  | enterBenchMode (holdBootPin : Bool) (canSpeedKbps : Nat)
  | readEeprom (chip : String) (size : Nat)
  | tokenBytes (count : Nat)
  deriving DecidableEq

def BenchCall.Answer : BenchCall → Type
  | check => Bool × String
  | consume _ _ => Bool
  | detectWiring _ => HarnessConnection × String
  | powerOn _ _ => ℚ
  | readEeprom _ _ => List UInt8
  | tokenBytes _ => List UInt8
  | _ => Unit

def BenchCall.isHardware : BenchCall → Bool
  | check => false
  | consume _ _ => false
  | tokenBytes _ => false
  | _ => true

def BenchCall.isConsume : BenchCall → Bool
  | consume _ _ => true
  | _ => false

abbrev benchInterface : Interface :=
  { Call := BenchCall
    Answer := BenchCall.Answer }

/-- The exceptions the handler tells apart, with their text. -/
inductive BenchRaised
  | illegalTransition (text : String)
  | harnessFailure (text : String)
  | eepromParse (text : String)
  | isnMismatch (text : String)
  | keyAllocation (text : String)
  | other (text : String)
  deriving DecidableEq

/-- Why a session failed: what the error detail tells. -/
inductive BenchFault
  | unknownEvent (event : String)
  | missingFamily
  | unknownFamily (family : String)
  | notEntitled (reason : String)
  | abortedByUser
  | wiring (status : HarnessConnection) (detail : String)
  | badSlot
  | raised (error : BenchRaised)
  deriving DecidableEq

/-- `error_code`. -/
def BenchFault.code : BenchFault → String
  | unknownEvent _ => "unknown_event"
  | missingFamily => "missing_family"
  | unknownFamily _ => "unknown_family"
  | notEntitled _ => "not_entitled"
  | abortedByUser => "aborted_by_user"
  | wiring status _ => "wiring_" ++ status.value
  | badSlot => "bad_slot"
  | raised (.illegalTransition _) => "illegal_transition"
  | raised (.harnessFailure _) => "harness_failure"
  | raised (.eepromParse _) => "eeprom_parse_error"
  | raised (.isnMismatch _) => "isn_mismatch"
  | raised (.keyAllocation _) => "key_allocation_error"
  | raised (.other _) => "unexpected"

/-- A row of `_CHIP_LAYOUTS`. -/
structure ChipLayout where
  size : Nat
  isnOffset : Nat
  isnLength : Nat := 32
  keySlotsOffset : Nat
  keySlotStride : Nat := 32
  keySlotCount : Nat

/-- `_CHIP_LAYOUTS`. -/
def chipLayout (chip : String) : Option ChipLayout :=
  if chip = "M35080" then
    some
      { size := 512
        isnOffset := 0x20
        keySlotsOffset := 0x80
        keySlotCount := 4 }
  else if chip = "M35128" then
    some
      { size := 1024
        isnOffset := 0x40
        keySlotsOffset := 0x100
        keySlotCount := 8 }
  else none

def uniform (bytes : List UInt8) : Bool :=
  bytes.all (· = 0x00) || bytes.all (· = 0xFF)

/-- `EepromDump`. -/
structure EepromDump where
  raw : List UInt8
  layout : ChipLayout

namespace EepromDump

/-- `isn`. -/
def isn (dump : EepromDump) : List UInt8 :=
  (dump.raw.drop dump.layout.isnOffset).take dump.layout.isnLength

/-- `key_slot`. -/
def keySlot (dump : EepromDump) (index : Nat) : List UInt8 :=
  (dump.raw.drop
    (dump.layout.keySlotsOffset + index * dump.layout.keySlotStride)).take
    dump.layout.keySlotStride

/-- `is_key_slot_free`. -/
def isKeySlotFree (dump : EepromDump) (index : Nat) : Bool :=
  uniform (dump.keySlot index)

def occupied (dump : EepromDump) : List Int :=
  ((List.range dump.layout.keySlotCount).filter fun index =>
    ¬ dump.isKeySlotFree index).map Int.ofNat

end EepromDump

/-- `parse_dump`. -/
def parseDump (raw : List UInt8) (chip : String) :
    Except BenchRaised EepromDump :=
  match chipLayout chip with
  | none => .error (.eepromParse ("Unknown chip family: " ++ chip))
  | some layout =>
      let dump : EepromDump := { raw, layout }
      if raw.length ≠ layout.size then
        .error (.eepromParse ("Dump size mismatch for " ++ chip))
      else if uniform raw then
        .error (.eepromParse "Dump is uniformly 0x00 / 0xFF")
      else if uniform dump.isn then
        .error (.eepromParse "ISN window is virgin")
      else .ok dump

/-- `extract_isn_from_dump`. -/
def extractIsnFromDump (dump : EepromDump) (expectedLength : Nat) :
    Except BenchRaised (List UInt8) :=
  if dump.isn.length ≠ expectedLength then
    .error (.isnMismatch "ISN window length mismatch")
  else if uniform dump.isn then
    .error (.isnMismatch "ISN is virgin")
  else .ok dump.isn

/-- `_DEALER_RESERVED_SLOTS`. -/
def dealerReservedSlots (family : ModuleFamily) : List Int :=
  if family = .cas3Plus then [0] else []

/-- `allocate_key_slot`. -/
def allocateKeySlot (family : ModuleFamily) (occupied : List Int)
    (keyCount : Nat) (preferred : Option Int) : Except BenchRaised Int :=
  match preferred with
  | some slot =>
      if slot ∈ dealerReservedSlots family then
        .error (.keyAllocation "slot is dealer-reserved")
      else if slot ∈ occupied then
        .error (.keyAllocation "slot is already occupied")
      else if slot < 0 ∨ keyCount ≤ slot then
        .error (.keyAllocation "slot out of range")
      else .ok slot
  | none =>
      match ((List.range keyCount).map Int.ofNat).find? fun slot =>
          slot ∉ dealerReservedSlots family ∧ slot ∉ occupied with
      | some slot => .ok slot
      | none => .error (.keyAllocation "no free key slots")

/-- `KeyFob`, as it is kept. -/
structure KeyFob where
  familyCode : String
  slotIndex : Int
  fccId : String
  payloadHex : String
  deriving DecidableEq

def ascii (text : String) : List UInt8 :=
  text.toList.map fun char => UInt8.ofNat char.toNat

def fobMessage (isn : List UInt8) (slot : Int) (familyCode : String)
    (seed : List UInt8) : List UInt8 :=
  ascii "MOUSSTEC-KEYGEN-v1" ++ ascii familyCode ++
    [UInt8.ofNat slot.toNat] ++ isn ++ seed

/-- The fob `generate_key_fob` returns for a seed. -/
def keyFob (isn : List UInt8) (slot : Int) (familyCode : String)
    (seed : List UInt8) : KeyFob :=
  let payload := Sha256.hash (fobMessage isn slot familyCode seed)
  { familyCode
    slotIndex := slot
    fccId := Bytes.upperHex (payload.take 6)
    payloadHex := Bytes.upperHex payload }

/-- `BenchState`. -/
inductive BenchState
  | idle
  | profileSelected
  | wiringCheck
  | powerRamp
  | benchMode
  | dumpCaptured
  | isnExtracted
  | keySlotPicked
  | keyBurned
  | verified
  | done
  | failed
  deriving DecidableEq, Repr

namespace BenchState

def value : BenchState → String
  | idle => "idle"
  | profileSelected => "profile_selected"
  | wiringCheck => "wiring_check"
  | powerRamp => "power_ramp"
  | benchMode => "bench_mode"
  | dumpCaptured => "dump_captured"
  | isnExtracted => "isn_extracted"
  | keySlotPicked => "key_slot_picked"
  | keyBurned => "key_burned"
  | verified => "verified"
  | done => "done"
  | failed => "failed"

/-- `BenchState(text)`. -/
def ofValue (text : String) : Option BenchState :=
  [idle, profileSelected, wiringCheck, powerRamp, benchMode, dumpCaptured,
    isnExtracted, keySlotPicked, keyBurned, verified, done, failed].find?
    fun state => state.value = text

@[simp] theorem ofValue_value (state : BenchState) :
    ofValue state.value = some state := by
  cases state <;> decide +kernel

/-- `_ALLOWED`. -/
def allowed : BenchState → List BenchState
  | idle => [profileSelected, failed]
  | profileSelected => [wiringCheck, failed]
  | wiringCheck => [powerRamp, failed]
  | powerRamp => [benchMode, failed]
  | benchMode => [dumpCaptured, failed]
  | dumpCaptured => [isnExtracted, failed]
  | isnExtracted => [keySlotPicked, failed]
  | keySlotPicked => [keyBurned, failed]
  | keyBurned => [verified, failed]
  | verified => [done, failed]
  | done => []
  | failed => []

end BenchState

/-- `BenchData`, without its notes. -/
structure BenchData where
  family : Option ModuleFamily := none
  vin : String := ""
  technicianId : String := ""
  measuredVoltage : ℚ := 0
  rawDump : List UInt8 := []
  parsedDumpChip : String := ""
  isnHex : String := ""
  chosenSlot : Option Int := none
  burnedFob : Option KeyFob := none
  error : Option BenchFault := none
  deriving DecidableEq

/-- `BenchOrchestrator`, with whether it holds a guard. -/
structure BenchMachine where
  state : BenchState := .idle
  data : BenchData := {}
  guarded : Bool
  deriving DecidableEq

abbrev BenchSession := Session benchInterface BenchRaised BenchMachine

/-- `BenchEvent` with its payload, or a text that is none.  Texts come
stripped, VINs in upper case; an entry that is no text is absent.  A slot may
be asked for, by an entry that may be no number.  An ISN that is handed in for
the UDS flow counts as an event too. -/
inductive BenchEvent
  | selectProfile (family vin technicianId : Option String)
  | confirmWiring
  | powerOn
  | enterBench
  | dumpNow
  | extractIsn
  | pickKeySlot (occupied : List Int) (slot : Option (Option Int))
  | burnKey (seedHex : Option String)
  | verify
  | finish
  | abort
  | unknown (text : String)
  | injectIsn (isn : List UInt8)
  deriving DecidableEq

abbrev BenchTxn := Txn BenchRaised BenchSession

def BenchMachine.withData (change : BenchData → BenchData)
    (machine : BenchMachine) : BenchMachine :=
  { machine with data := change machine.data }

def BenchMachine.fail (fault : BenchFault) (machine : BenchMachine) :
    BenchMachine :=
  { machine with
    state := .failed
    data := { machine.data with error := some fault } }

def benchStages : Guided.Stages BenchMachine BenchState BenchRaised where
  stage := BenchMachine.state
  enter target machine := { machine with state := target }
  allowed := BenchState.allowed
  illegal from_ target := .illegalTransition
    (from_.value ++ " → " ++ target.value ++ " not allowed")

/-- `_advance`. -/
def advance (target : BenchState) : BenchTxn PUnit :=
  Guided.advance benchStages target

/-- `_fail`. -/
def fail (fault : BenchFault) : BenchTxn PUnit :=
  Session.update (·.fail fault)

def onlyIn (event : String) (only : BenchState) : BenchTxn PUnit :=
  Guided.within benchStages only fun state => .illegalTransition
    (event ++ " only valid in " ++ only.value.toUpper ++
      " (now " ++ state.value ++ ")")

def obtained {α : Type} : Except BenchRaised α → BenchTxn α
  | .ok value => pure value
  | .error error => throw error

def familyOf (machine : BenchMachine) : BenchTxn ModuleFamily :=
  Txn.expect machine.data.family
    (.other "RuntimeError('profile not selected yet')")

def payloadText (text : Option String) : BenchTxn String :=
  Txn.expect text (.other "AttributeError")

def bytesFromHex (text : String) : BenchTxn (List UInt8) :=
  Txn.expect (Bytes.fromHex text) (.other "ValueError")

section Steps

variable (world : World benchInterface BenchRaised)

/-- SELECT_PROFILE once the guard has let it pass.  The data is written before
the transition is checked. -/
def selectEntitled (family : ModuleFamily) (vin technicianId : Option String) :
    BenchTxn PUnit := do
  Session.update (·.withData fun data => { data with family := some family })
  let vin ← payloadText vin
  Session.update (·.withData fun data => { data with vin := vin })
  let technicianId ← payloadText technicianId
  Session.update (·.withData fun data => { data with technicianId := technicianId })
  advance .profileSelected

def selectKnown (family : ModuleFamily) (vin technicianId : Option String) :
    BenchTxn PUnit := do
  let session ← get
  if session.machine.guarded then
    let entitled : Bool × String ← Session.ask world .check
    if entitled.1 then selectEntitled family vin technicianId
    else fail (.notEntitled entitled.2)
  else selectEntitled family vin technicianId

/-- `_select_profile`. -/
def selectProfile (family vin technicianId : Option String) :
    BenchTxn PUnit := do
  let text ← payloadText family
  if text = "" then fail .missingFamily
  else
    match ModuleFamily.ofValue text with
    | none => fail (.unknownFamily text)
    | some family => selectKnown world family vin technicianId

/-- `_confirm_wiring`. -/
def confirmWiring : BenchTxn PUnit := do
  onlyIn "CONFIRM_WIRING" .profileSelected
  let session ← get
  let family ← familyOf session.machine
  let report : HarnessConnection × String ←
    Session.ask world (.detectWiring (getProfile family).pins)
  if report.1 ≠ .ok then fail (.wiring report.1 report.2)
  else advance .wiringCheck

/-- `_power_on`. -/
def powerOn : BenchTxn PUnit := do
  onlyIn "POWER_ON" .wiringCheck
  let session ← get
  let family ← familyOf session.machine
  let profile := getProfile family
  let measured : ℚ ← Session.ask world
    (.powerOn profile.benchVoltage profile.voltageTolerance)
  Session.update (·.withData fun data => { data with measuredVoltage := measured })
  advance .powerRamp

/-- `_enter_bench`. -/
def enterBench : BenchTxn PUnit := do
  onlyIn "ENTER_BENCH" .powerRamp
  let session ← get
  let family ← familyOf session.machine
  let profile := getProfile family
  let _ : Unit ← Session.ask world
    (.enterBenchMode (profile.readFlow = .uds) profile.canSpeedKbps)
  advance .benchMode

/-- `_dump_now` for a module with an EEPROM. -/
def dumpEeprom (profile : KeyLearningProfile) : BenchTxn PUnit := do
  let raw : List UInt8 ← Session.ask world
    (.readEeprom profile.eepromChip profile.eepromSize)
  let _ ← obtained (parseDump raw profile.eepromChip)
  Session.update (·.withData fun data =>
    { data with
      rawDump := raw
      parsedDumpChip := profile.eepromChip })
  advance .dumpCaptured

/-- `_dump_now` for a module with a UDS boot loader. -/
def dumpUds : BenchTxn PUnit := do
  Session.update (·.withData fun data =>
    { data with
      rawDump := []
      parsedDumpChip := "" })
  advance .dumpCaptured

/-- `_dump_now`. -/
def dumpNow : BenchTxn PUnit := do
  onlyIn "DUMP_NOW" .benchMode
  let session ← get
  let family ← familyOf session.machine
  match (getProfile family).readFlow with
  | .eeprom => dumpEeprom world (getProfile family)
  | .uds => dumpUds

def isnOfDump (profile : KeyLearningProfile) (data : BenchData) :
    BenchTxn (List UInt8) := do
  let dump ← obtained (parseDump data.rawDump data.parsedDumpChip)
  obtained (extractIsnFromDump dump profile.isnLength)

def isnHandedIn (data : BenchData) : BenchTxn (List UInt8) := do
  Txn.require (data.isnHex ≠ "") (.isnMismatch "ISN must be injected")
  bytesFromHex data.isnHex

/-- `_extract_isn`. -/
def extractIsn : BenchTxn PUnit := do
  onlyIn "EXTRACT_ISN" .dumpCaptured
  let session ← get
  let family ← familyOf session.machine
  let isn ← match (getProfile family).readFlow with
    | .eeprom => isnOfDump (getProfile family) session.machine.data
    | .uds => isnHandedIn session.machine.data
  Session.update (·.withData fun data =>
    { data with isnHex := Bytes.upperHex isn })
  advance .isnExtracted

/-- `inject_isn_for_uds_flow`. -/
def injectIsn (isn : List UInt8) : BenchTxn PUnit := do
  let session ← get
  if session.machine.state = .dumpCaptured then
    Session.update (·.withData fun data =>
      { data with isnHex := Bytes.upperHex isn })
  else pure ⟨⟩

def occupiedSlots (profile : KeyLearningProfile) (data : BenchData)
    (occupied : List Int) : BenchTxn (List Int) :=
  match profile.readFlow with
  | .eeprom => do
      let dump ← obtained (parseDump data.rawDump data.parsedDumpChip)
      pure dump.occupied
  | .uds => pure occupied

def pickAmong (family : ModuleFamily) (occupied : List Int)
    (preferred : Option Int) : BenchTxn PUnit := do
  let slot ← obtained (allocateKeySlot family occupied
    (getProfile family).keyCount preferred)
  Session.update (·.withData fun data => { data with chosenSlot := some slot })
  advance .keySlotPicked

/-- `_pick_slot`. -/
def pickSlot (occupied : List Int) (slot : Option (Option Int)) :
    BenchTxn PUnit := do
  onlyIn "PICK_KEY_SLOT" .isnExtracted
  let session ← get
  let family ← familyOf session.machine
  let occupied ← occupiedSlots (getProfile family) session.machine.data occupied
  match slot with
  | some none => fail .badSlot
  | some (some preferred) => pickAmong family occupied (some preferred)
  | none => pickAmong family occupied none

def seedOf (seed : Option (List UInt8)) : BenchTxn (List UInt8) :=
  match seed with
  | some seed => pure seed
  | none => Session.ask world (.tokenBytes 16)

/-- `generate_key_fob`. -/
def generateKeyFob (isn : List UInt8) (slot : Int) (familyCode : String)
    (seed : Option (List UInt8)) : BenchTxn KeyFob := do
  Txn.require (isn.length = 32) (.keyAllocation "ISN must be 32 bytes")
  Txn.require (0 ≤ slot ∧ slot ≤ 0xFF)
    (.keyAllocation "slot_index out of single-byte range")
  let seed ← seedOf world seed
  pure (keyFob isn slot familyCode seed)

def payloadSeed (seedHex : String) : BenchTxn (Option (List UInt8)) :=
  if seedHex = "" then pure none
  else do
    let seed ← bytesFromHex seedHex
    pure (some seed)

/-- `_burn_key`. -/
def burnKey (seedHex : Option String) : BenchTxn PUnit := do
  onlyIn "BURN_KEY" .keySlotPicked
  let session ← get
  let family ← familyOf session.machine
  let slot ← Txn.expect session.machine.data.chosenSlot
    (.illegalTransition "internal: chosen_slot missing")
  let text ← payloadText seedHex
  let seed ← payloadSeed text
  let isn ← bytesFromHex session.machine.data.isnHex
  let fob ← generateKeyFob world isn slot family.value seed
  Session.update (·.withData fun data => { data with burnedFob := some fob })
  advance .keyBurned

/-- `_verify`. -/
def verify : BenchTxn PUnit := do
  onlyIn "VERIFY" .keyBurned
  advance .verified

def operationRef (data : BenchData) : String :=
  "bench-" ++ orDefault data.vin "no-vin" ++ "-" ++
    (data.family.map ModuleFamily.value).getD "?" ++ "-slot" ++
    (data.chosenSlot.map toString).getD "?"

/-- `_finish`. -/
def finish : BenchTxn PUnit := do
  onlyIn "FINISH" .verified
  advance .done
  let session ← get
  if session.machine.guarded then
    let _ : Bool ← Session.ask world
      (.consume session.machine.data.vin (operationRef session.machine.data))
    pure ⟨⟩
  else pure ⟨⟩

/-- `_dispatch`. -/
def dispatch : BenchEvent → BenchTxn PUnit
  | .selectProfile family vin technicianId =>
      selectProfile world family vin technicianId
  | .confirmWiring => confirmWiring world
  | .powerOn => powerOn world
  | .enterBench => enterBench world
  | .dumpNow => dumpNow world
  | .extractIsn => extractIsn
  | .pickKeySlot occupied slot => pickSlot occupied slot
  | .burnKey seedHex => burnKey world seedHex
  | .verify => verify
  | .finish => finish world
  | .abort => fail .abortedByUser
  | .unknown text => fail (.unknownEvent text)
  | .injectIsn isn => injectIsn isn

/-- `handle`: what a step raises fails the session. -/
def handle (event : BenchEvent) : BenchTxn PUnit :=
  Guided.recovering (dispatch world event) fun error => fail (.raised error)

end Steps

structure BenchSnapshot where
  state : String
  family : Option String
  vin : String
  technicianId : String
  measuredVoltage : ℚ
  rawDumpHex : String
  parsedDumpChip : String
  isnHex : String
  chosenSlot : Option Int
  burnedFob : Option KeyFob
  error : Option BenchFault

/-- `snapshot`. -/
def snapshot (machine : BenchMachine) : BenchSnapshot :=
  { state := machine.state.value
    family := machine.data.family.map ModuleFamily.value
    vin := machine.data.vin
    technicianId := machine.data.technicianId
    measuredVoltage := machine.data.measuredVoltage
    rawDumpHex := Bytes.hex machine.data.rawDump
    parsedDumpChip := machine.data.parsedDumpChip
    isnHex := machine.data.isnHex
    chosenSlot := machine.data.chosenSlot
    burnedFob := machine.data.burnedFob
    error := machine.data.error }

def restoreFamily : Option String → Option (Option ModuleFamily)
  | none => some none
  | some text => (ModuleFamily.ofValue text).map some

/-- `restore`: it takes no guard. -/
def restore (stored : BenchSnapshot) : Option BenchMachine := do
  let family ← restoreFamily stored.family
  let rawDump ← Bytes.fromHex stored.rawDumpHex
  let state ← BenchState.ofValue stored.state
  pure
    { state
      data :=
        { family
          vin := stored.vin
          technicianId := stored.technicianId
          measuredVoltage := stored.measuredVoltage
          rawDump
          parsedDumpChip := stored.parsedDumpChip
          isnHex := stored.isnHex
          chosenSlot := stored.chosenSlot
          burnedFob := stored.burnedFob
          error := stored.error }
      guarded := false }

theorem restoreFamily_map (family : Option ModuleFamily) :
    restoreFamily (family.map ModuleFamily.value) = some family := by
  cases family with
  | none => rfl
  | some family => simp [restoreFamily]

theorem restore_snapshot (machine : BenchMachine) :
    restore (snapshot machine) = some { machine with guarded := false } := by
  simp only [restore, snapshot, restoreFamily_map, Bytes.fromHex_hex,
    BenchState.ofValue_value, Option.bind_eq_bind, Option.bind_some]
  rfl

def resume : BenchTxn PUnit := do
  let session ← get
  let machine ← Txn.expect (restore (snapshot session.machine))
    (.other "ValueError")
  Session.update fun _ => machine

def newSession (guarded : Bool) : BenchSession :=
  { machine := { guarded }
    log := [] }

end Bench

end Mousstec
