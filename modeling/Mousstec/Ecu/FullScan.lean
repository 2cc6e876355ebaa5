import Mousstec.Ecu.Safety
import Mousstec.Library.Guided

/-!
# Scanning the whole car

The fault memory of every module that answers is read and judged, in the order
of the modules expected of the chassis and then of those found beside them.
The report says how the car is; one report is one use of the grant.
-/

namespace Mousstec

namespace Scan

open Library

def normalizeCode (text : String) : String :=
  let front := text.toList.dropWhile Char.isWhitespace
  let both := (front.reverse.dropWhile Char.isWhitespace).reverse
  String.ofList (both.map Char.toUpper)

/-- `DtcSeverity`. -/
inductive DtcSeverity
  | info
  | soft
  | hard
  | safety
  deriving DecidableEq, Repr

/-- `SAFETY_CODES`. -/
def safetyCodes : List String :=
  ["B1000", "B1001", "B1010", "B1018", "B1024", "C1234", "C1000", "C1011",
    "C1012", "C1500", "C1510"]

/-- `_category_letter`. -/
def categoryLetter (code : String) : Char :=
  match code.toList.head? with
  | some letter => if letter ∈ ['P', 'C', 'B', 'U'] then letter else 'P'
  | none => 'P'

/-- `_classify`. -/
def classify (code : String) (safetyCritical confirmed pending : Bool) :
    DtcSeverity :=
  if code ∈ safetyCodes then .safety
  else if safetyCritical ∧ confirmed then .safety
  else if ¬ confirmed ∧ ¬ pending then .info
  else if pending ∧ ¬ confirmed then .soft
  else if categoryLetter code ∈ ['P', 'C'] then .hard
  else .soft

/-- `DecodedDtc`, without its descriptions. -/
structure DecodedDtc where
  code : String
  statusByte : Nat
  severity : DtcSeverity
  confirmed : Bool
  pending : Bool
  warningLamp : Bool

/-- `decode_dtc`. -/
def decodeDtc (code : String) (statusByte : Nat) (safetyCritical : Bool) :
    DecodedDtc :=
  let norm := normalizeCode code
  let confirmed := statusByte.testBit 3
  let pending := statusByte.testBit 2
  { code := norm
    statusByte := statusByte % 0x100
    severity := classify norm safetyCritical confirmed pending
    confirmed
    pending
    warningLamp := statusByte.testBit 7 }

/-- The modules of `MODULE_CATALOG` that are critical for safety. -/
def safetyModules : List String :=
  ["dsc", "eps", "epb", "acsm"]

/-- `is_safety_critical` of the module `describe_module` finds. -/
def isSafetyCritical (code : String) : Bool :=
  code ∈ safetyModules

/-- `expected_module_codes`; a chassis that is not known expects none. -/
def expectedModuleCodes (chassis : String) : List String :=
  if chassis = "e_series" then
    ["dme", "egs", "dsc", "eps", "acsm", "cas", "frm", "ihka", "rdc", "pdc",
      "kombi", "headunit"]
  else if chassis = "f_series" then
    ["dme", "egs", "dsc", "eps", "epb", "acsm", "fem", "ihka", "rdc", "pdc",
      "kombi", "zgw", "headunit"]
  else if chassis = "g_series" then
    ["dme", "egs", "vtg", "dsc", "eps", "epb", "edc", "acsm", "bdc", "ihka",
      "rdc", "pdc", "kombi", "zgw", "headunit", "kombi_hud"]
  else if chassis = "mini" then
    ["dme", "egs", "dsc", "eps", "acsm", "fem", "frm", "ihka", "rdc", "kombi",
      "headunit"]
  else []

/-- `ModuleScanResult`, without its note. -/
structure ModuleScanResult where
  module : String
  reachable : Bool
  dtcs : List DecodedDtc := []

/-- `OverallStatus`. -/
inductive OverallStatus
  | green
  | yellow
  | red
  deriving DecidableEq, Repr

/-- `HealthReport`. -/
structure HealthReport where
  vin : String
  chassisFamily : String
  results : List ModuleScanResult
  missingModules : List String
  counts : DtcSeverity → Nat
  overall : OverallStatus

def countOf (results : List ModuleScanResult) (severity : DtcSeverity) : Nat :=
  (results.flatMap ModuleScanResult.dtcs).countP fun dtc =>
    dtc.severity = severity

def missingOf (chassis : String) (results : List ModuleScanResult) :
    List String :=
  (expectedModuleCodes chassis).filter fun code =>
    code ∉ results.map ModuleScanResult.module

def safetyUnreachable (chassis : String) (results : List ModuleScanResult) :
    Bool :=
  results.any (fun result =>
    isSafetyCritical result.module ∧ ¬ result.reachable) ||
    (missingOf chassis results).any isSafetyCritical

def overallOf (chassis : String) (results : List ModuleScanResult) :
    OverallStatus :=
  if 0 < countOf results .safety ∨ 0 < countOf results .hard ∨
      safetyUnreachable chassis results then .red
  else if 0 < countOf results .soft then .yellow
  else .green

/-- `build_report`. -/
def buildReport (vin chassis : String) (results : List ModuleScanResult) :
    HealthReport :=
  { vin
    chassisFamily := chassis
    results
    missingModules := missingOf chassis results
    counts := countOf results
    overall := overallOf chassis results }

/-- The calls to the guard and to the scan provider. -/
inductive ScanCall
  | check
  | consume (vin operationRef : String)
  | readVin
  | listReachableModules
  | readModuleDtcs (code : String)
  deriving DecidableEq

def ScanCall.Answer : ScanCall → Type
  | check => Bool × String
  | consume _ _ => Bool
  | readVin => String
  | listReachableModules => List String
  | readModuleDtcs _ => List (String × Nat)

def ScanCall.isHardware : ScanCall → Bool
  | check => false
  | consume _ _ => false
  | _ => true

def ScanCall.isConsume : ScanCall → Bool
  | consume _ _ => true
  | _ => false

abbrev scanInterface : Interface :=
  { Call := ScanCall
    Answer := ScanCall.Answer }

/-- The exceptions the handler tells apart, with their text. -/
inductive ScanRaised
  | illegalTransition (text : String)
  | transport (text : String)
  | other (text : String)
  deriving DecidableEq

/-- Why a session failed: what the error detail tells. -/
inductive ScanFault
  | unknownEvent (event : String)
  | notEntitled (reason : String)
  | abortedByUser
  | raised (error : ScanRaised)
  deriving DecidableEq

/-- `error_code`. -/
def ScanFault.code : ScanFault → String
  | unknownEvent _ => "unknown_event"
  | notEntitled _ => "not_entitled"
  | abortedByUser => "aborted_by_user"
  | raised (.illegalTransition _) => "illegal_transition"
  | raised (.transport _) => "transport_error"
  | raised (.other _) => "unexpected"

/-- `ScanState`. -/
inductive ScanState
  | idle
  | connected
  | reportReady
  | done
  | failed
  deriving DecidableEq, Repr

namespace ScanState

def value : ScanState → String
  | idle => "idle"
  | connected => "connected"
  | reportReady => "report_ready"
  | done => "done"
  | failed => "failed"

/-- `ScanState(text)`. -/
def ofValue (text : String) : Option ScanState :=
  [idle, connected, reportReady, done, failed].find? fun state =>
    state.value = text

@[simp] theorem ofValue_value (state : ScanState) :
    ofValue state.value = some state := by
  cases state <;> decide +kernel

/-- `_ALLOWED`. -/
def allowed : ScanState → List ScanState
  | idle => [connected, failed]
  | connected => [reportReady, failed]
  | reportReady => [done, failed]
  | done => []
  | failed => []

end ScanState

/-- `ScanData`. -/
structure ScanData where
  vin : String := ""
  chassisFamily : String := ""
  technicianId : String := ""
  reachableModules : List String := []
  report : Option HealthReport := none
  error : Option ScanFault := none

/-- `FullScanOrchestrator`, with whether it holds a guard. -/
structure ScanMachine where
  state : ScanState := .idle
  data : ScanData := {}
  guarded : Bool

abbrev ScanSession := Session scanInterface ScanRaised ScanMachine

/-- `ScanEvent` with its payload, or a text that is none.  Texts come stripped,
the chassis in lower case; an entry that is no text is absent. -/
inductive ScanEvent
  | connect (chassisFamily technicianId : Option String)
  | scanAll
  | finish
  | abort
  | unknown (text : String)
  deriving DecidableEq

abbrev ScanTxn := Txn ScanRaised ScanSession

def ScanMachine.withData (change : ScanData → ScanData)
    (machine : ScanMachine) : ScanMachine :=
  { machine with data := change machine.data }

def ScanMachine.fail (fault : ScanFault) (machine : ScanMachine) :
    ScanMachine :=
  { machine with
    state := .failed
    data := { machine.data with error := some fault } }

def scanStages : Guided.Stages ScanMachine ScanState ScanRaised where
  stage := ScanMachine.state
  enter target machine := { machine with state := target }
  allowed := ScanState.allowed
  illegal from_ target := .illegalTransition
    (from_.value ++ " → " ++ target.value ++ " not allowed")

/-- `_advance`. -/
def advance (target : ScanState) : ScanTxn PUnit :=
  Guided.advance scanStages target

/-- `_fail`. -/
def fail (fault : ScanFault) : ScanTxn PUnit :=
  Session.update (·.fail fault)

def onlyIn (event : String) (only : ScanState) : ScanTxn PUnit :=
  Guided.within scanStages only fun state => .illegalTransition
    (event ++ " only valid in " ++ only.value.toUpper ++
      " (now " ++ state.value ++ ")")

def payloadText (text : Option String) : ScanTxn String :=
  Txn.expect text (.other "AttributeError")

section Steps

variable (world : World scanInterface ScanRaised)

def connectEntitled : ScanTxn PUnit := do
  let vin : String ← Session.ask world .readVin
  Session.update (·.withData fun data => { data with vin := normalizeCode vin })
  let modules : List String ← Session.ask world .listReachableModules
  Session.update (·.withData fun data => { data with reachableModules := modules })
  advance .connected

/-- `_connect`. -/
def connect (chassisFamily technicianId : Option String) : ScanTxn PUnit := do
  onlyIn "CONNECT" .idle
  let chassis ← payloadText chassisFamily
  Session.update (·.withData fun data => { data with chassisFamily := chassis })
  let technician ← payloadText technicianId
  Session.update (·.withData fun data => { data with technicianId := technician })
  let session ← get
  if session.machine.guarded then
    let entitled : Bool × String ← Session.ask world .check
    if entitled.1 then connectEntitled world
    else fail (.notEntitled entitled.2)
  else connectEntitled world

def scanCodes (data : ScanData) : List String :=
  (expectedModuleCodes data.chassisFamily ++ data.reachableModules).eraseDups

def unreachableResult (code : String) : ModuleScanResult :=
  { module := code
    reachable := false }

def reachableResult (code : String) (raw : List (String × Nat)) :
    ModuleScanResult :=
  { module := code
    reachable := true
    dtcs := raw.map fun entry =>
      decodeDtc entry.1 entry.2 (isSafetyCritical code) }

def scanModules (reachable : List String) :
    List String → ScanTxn (List ModuleScanResult)
  | [] => pure []
  | code :: codes =>
      if code ∈ reachable then do
        let raw : List (String × Nat) ←
          Session.ask world (.readModuleDtcs code)
        let results ← scanModules reachable codes
        pure (reachableResult code raw :: results)
      else do
        let results ← scanModules reachable codes
        pure (unreachableResult code :: results)

/-- `_scan_all`. -/
def scanAll : ScanTxn PUnit := do
  onlyIn "SCAN_ALL" .connected
  let session ← get
  let data := session.machine.data
  let results ← scanModules world data.reachableModules (scanCodes data)
  Session.update (·.withData fun data =>
    { data with
      report := some (buildReport data.vin data.chassisFamily results) })
  advance .reportReady

def countCall (data : ScanData) : ScanCall :=
  .consume data.vin ("scan-" ++ orDefault data.vin "no-vin")

/-- `_finish`. -/
def finish : ScanTxn PUnit := do
  onlyIn "FINISH" .reportReady
  advance .done
  let session ← get
  if session.machine.guarded then
    let _ : Bool ← Session.ask world (countCall session.machine.data)
    pure ⟨⟩
  else pure ⟨⟩

/-- `_dispatch`. -/
def dispatch : ScanEvent → ScanTxn PUnit
  | .connect chassisFamily technicianId =>
      connect world chassisFamily technicianId
  | .scanAll => scanAll world
  | .finish => finish world
  | .abort => fail .abortedByUser
  | .unknown text => fail (.unknownEvent text)

/-- `handle`: what a step raises fails the session. -/
def handle (event : ScanEvent) : ScanTxn PUnit :=
  Guided.recovering (dispatch world event) fun error => fail (.raised error)

end Steps

structure ScanSnapshot where
  state : String
  data : ScanData

/-- `snapshot`. -/
def snapshot (machine : ScanMachine) : ScanSnapshot :=
  { state := machine.state.value
    data := machine.data }

/-- `restore`: with the guard it is given, and without the report. -/
def restore (guarded : Bool) (stored : ScanSnapshot) : Option ScanMachine := do
  let state ← ScanState.ofValue stored.state
  pure
    { state
      data := { stored.data with report := none }
      guarded }

def ScanMachine.forget (machine : ScanMachine) : ScanMachine :=
  machine.withData fun data => { data with report := none }

theorem restore_snapshot (machine : ScanMachine) :
    restore machine.guarded (snapshot machine) = some machine.forget := by
  simp only [restore, snapshot, ScanState.ofValue_value, Option.bind_eq_bind,
    Option.bind_some]
  rfl

def resume : ScanTxn PUnit := do
  let session ← get
  let machine ← Txn.expect
    (restore session.machine.guarded (snapshot session.machine))
    (.other "ValueError")
  Session.update fun _ => machine

def newSession (guarded : Bool) : ScanSession :=
  { machine := { guarded }
    log := [] }

end Scan

end Mousstec
