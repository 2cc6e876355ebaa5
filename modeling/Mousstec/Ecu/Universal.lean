import Mousstec.Ecu.Safety
import Mousstec.Library.Guided
import Mousstec.Library.Sha256

/-!
# The universal smart flow

The car is detected, the coding of the DME is read and saved, and an open DME
is coded while a locked one is halted for the bench and extracted; then the
body module is synchronised.  From the backup on the saved coding can be
written back.  Between two events the driver of the session stores a snapshot
and the identity of the backup, and the next request continues from them with
the backup reloaded from its store.
-/

namespace Mousstec

namespace Universal

open Library

/-- `UState`. -/
inductive UState
  | idle
  | detected
  | backedUp
  | coded
  | benchHalted
  | benchReady
  | extracted
  | done
  | rolledBack
  | failed
  deriving DecidableEq, Repr

namespace UState

def value : UState → String
  | idle => "idle"
  | detected => "detected"
  | backedUp => "backed_up"
  | coded => "coded"
  | benchHalted => "bench_halted"
  | benchReady => "bench_ready"
  | extracted => "extracted"
  | done => "done"
  | rolledBack => "rolled_back"
  | failed => "failed"

def all : List UState :=
  [idle, detected, backedUp, coded, benchHalted, benchReady, extracted, done,
    rolledBack, failed]

/-- `UState(text)`: the state of a value. -/
def ofValue (text : String) : Option UState :=
  all.find? fun state => state.value = text

/-- `_ALLOWED`. -/
def allowed : UState → List UState
  | idle => [detected, failed]
  | detected => [backedUp, failed]
  | backedUp => [coded, benchHalted, failed, rolledBack]
  | coded => [done, failed, rolledBack]
  | benchHalted => [benchReady, failed, rolledBack]
  | benchReady => [extracted, failed, rolledBack]
  | extracted => [done, failed, rolledBack]
  | done => []
  | rolledBack => []
  | failed => [rolledBack]

@[simp] theorem ofValue_value (state : UState) :
    ofValue state.value = some state := by
  cases state <;> decide +kernel

end UState

/-- `infer_topology`: the series and the paired body module. -/
def inferTopology (transportKind : String) : String × String :=
  let kind := transportKind.toLower
  if kind = "doip" then ("F/G-Series", "FEM")
  else if kind = "kdcan" ∨ kind = "socketcan" ∨ kind = "kline" then
    ("R/E-Series", "CAS")
  else ("Unknown", "FEM")

/-- `EcuBackup`, without the time it was captured. -/
structure EcuBackup where
  vin : String
  ecuName : String
  memoryRegion : String
  data : List UInt8
  sha256 : String
  metadata : String × String × Bool
  deriving DecidableEq

def newBackup (vin ecuName memoryRegion : String) (data : List UInt8)
    (metadata : String × String × Bool) : EcuBackup :=
  { vin, ecuName, memoryRegion, data
    sha256 := Sha256.hexDigest data
    metadata }

/-- The calls to the I/O and to the sink of the backups. -/
inductive UCall
  | detectTransport
  | readVin
  | probeDmeLocked
  | readCodingSnapshot
  | saveBackup (backup : EcuBackup)
  | benchPinout
  | clearDtcs
  | codeDme (options : List (String × String))
  | extractBench
  | syncModule (module : String)
  | writeCodingSnapshot (data : List UInt8)

/-- What each call returns: of a pinout whether there is one, of the clearing
whether it cleared, of the coding the number of options when it is one. -/
def UCall.Answer : UCall → Type
  | detectTransport => String
  | readVin => String
  | probeDmeLocked => Bool
  | readCodingSnapshot => List UInt8
  | benchPinout => Bool
  | clearDtcs => Bool
  | codeDme _ => Option Int
  | _ => Unit

abbrev uInterface : Interface :=
  { Call := UCall
    Answer := UCall.Answer }

/-- The exceptions the handler tells apart, with their text. -/
inductive URaised
  | illegalTransition (text : String)
  | ioError (text : String)
  | other (text : String)
  deriving DecidableEq

/-- Why a session failed: what the error detail tells. -/
inductive UFault
  | unknownEvent (event : String)
  | noBackup
  | abortedByUser
  | raised (error : URaised)
  deriving DecidableEq

/-- `error_code`. -/
def UFault.code : UFault → String
  | unknownEvent _ => "unknown_event"
  | noBackup => "no_backup"
  | abortedByUser => "aborted_by_user"
  | raised (.illegalTransition _) => "illegal_transition"
  | raised (.ioError _) => "io_error"
  | raised (.other _) => "unexpected"

/-- `UData`. -/
structure UData where
  vin : String := ""
  technicianId : String := ""
  transportKind : String := ""
  gateway : String := ""
  series : String := ""
  bodyModule : String := ""
  dmeFamily : String := "MEVD17"
  dmeLocked : Bool := false
  backupSha256 : String := ""
  backupSize : Nat := 0
  rolledBack : Bool := false
  dtcsCleared : Bool := false
  codedOptions : Int := 0
  error : Option UFault := none
  deriving DecidableEq

/-- `SmartSessionRecord`, the identity of the backup in it. -/
structure SmartSessionRecord where
  backupSha256 : String := ""
  backupEcuName : String := ""
  vin : String := ""
  deriving DecidableEq

/-- `UniversalSmartOrchestrator`, with the driver's record of its session. -/
structure UMachine where
  state : UState := .idle
  data : UData := {}
  backup : Option EcuBackup := none
  record : SmartSessionRecord := {}
  deriving DecidableEq

abbrev USession := Session uInterface URaised UMachine

/-- `UPrompt`, without its texts. -/
structure UPrompt where
  state : UState
  expects : String
  actions : List String
  isTerminal : Bool := false
  isError : Bool := false
  deriving DecidableEq

/-- `UEvent` with its payload, or a text that is none.  The texts of a START
are stripped, the gateway is in upper case; an entry that is no text is
absent. -/
inductive UEvent
  | start (technicianId gateway : Option String)
  | backup
  | code (options : List (String × String))
  | ready
  | extract
  | sync
  | abort
  | rollback
  | unknown (text : String)
  deriving DecidableEq

abbrev UTxn := Txn URaised USession

def UMachine.withData (change : UData → UData) (machine : UMachine) :
    UMachine :=
  { machine with data := change machine.data }

def uStages : Guided.Stages UMachine UState URaised where
  stage := UMachine.state
  enter target machine := { machine with state := target }
  allowed := UState.allowed
  illegal from_ target := .illegalTransition
    (from_.value ++ " → " ++ target.value ++ " not allowed")

/-- `_advance`. -/
def advance (target : UState) : UTxn PUnit :=
  Guided.advance uStages target

def onlyIn (event : String) (only : UState) : UTxn PUnit :=
  Guided.within uStages only fun state => .illegalTransition
    (event ++ " only valid in " ++ only.value.toUpper ++
      " (now " ++ state.value ++ ")")

/-- `_rollback_action`. -/
def rollbackAction (machine : UMachine) : List String :=
  if machine.backup = none ∨ machine.data.rolledBack then [] else ["rollback"]

def UMachine.fail (fault : UFault) (machine : UMachine) : UMachine :=
  { machine with
    state := .failed
    data := { machine.data with error := some fault } }

def failPrompt (machine : UMachine) : UPrompt :=
  { state := .failed
    expects := if rollbackAction machine = [] then "" else "ROLLBACK"
    actions := rollbackAction machine ++ ["abort"]
    isTerminal := true
    isError := true }

/-- `_fail`. -/
def fail (fault : UFault) : UTxn UPrompt := do
  Session.update (·.fail fault)
  let session ← get
  pure (failPrompt session.machine)

def goOn (expects : String) (actions : List String) : UTxn UPrompt := do
  let session ← get
  pure
    { state := session.machine.state
      expects
      actions := actions ++ rollbackAction session.machine }

section Steps

variable (world : World uInterface URaised)

/-- `_start`. -/
def start (technicianId gateway : Option String) : UTxn UPrompt := do
  onlyIn "START" .idle
  let technicianId ← Txn.expect technicianId (.other "AttributeError")
  Session.update (·.withData fun data => { data with technicianId := technicianId })
  let gateway ← Txn.expect gateway (.other "AttributeError")
  Session.update (·.withData fun data => { data with gateway := gateway })
  let transport : String ← Session.ask world .detectTransport
  let vin : String ← Session.ask world .readVin
  let locked : Bool ← Session.ask world .probeDmeLocked
  Session.update (·.withData fun data =>
    { data with
      transportKind := transport
      vin := vin
      dmeLocked := locked
      series := (inferTopology transport).1
      bodyModule := (inferTopology transport).2 })
  advance .detected
  goOn "BACKUP" ["backup"]

def backupOf (data : UData) (raw : List UInt8) : EcuBackup :=
  newBackup (orDefault data.vin "UNKNOWN") ("DME_" ++ data.dmeFamily) "CODING"
    raw (data.series, data.bodyModule, data.dmeLocked)

/-- The sink of the driver: the store saves the backup and the record notes
its identity. -/
def sink (backup : EcuBackup) : UTxn PUnit := do
  let _ : Unit ← Session.ask world (.saveBackup backup)
  Session.update fun machine =>
    { machine with
      record :=
        { backupSha256 := backup.sha256
          backupEcuName := backup.ecuName
          vin := backup.vin } }

/-- `_halt_for_bench`. -/
def haltForBench : UTxn UPrompt := do
  advance .benchHalted
  let pinout : Bool ← Session.ask world .benchPinout
  goOn (if pinout then "READY" else "register_board")
    (if pinout then ["ready"] else [])

def branch (locked : Bool) : UTxn UPrompt :=
  if locked then haltForBench world else goOn "CODE" ["code"]

/-- `_backup_step`. -/
def backupStep : UTxn UPrompt := do
  onlyIn "BACKUP" .detected
  let session ← get
  let raw : List UInt8 ← Session.ask world .readCodingSnapshot
  let backup := backupOf session.machine.data raw
  sink world backup
  Session.update fun machine =>
    { machine with
      backup := some backup
      data :=
        { machine.data with
          backupSha256 := backup.sha256
          backupSize := backup.data.length } }
  advance .backedUp
  branch world session.machine.data.dmeLocked

/-- `_code_step`. -/
def codeStep (options : List (String × String)) : UTxn UPrompt := do
  onlyIn "CODE" .backedUp
  let cleared : Bool ← Session.ask world .clearDtcs
  Session.update (·.withData fun data => { data with dtcsCleared := cleared })
  let result : Option Int ← Session.ask world (.codeDme options)
  let coded ← Txn.expect result (.other "ValueError")
  Session.update (·.withData fun data => { data with codedOptions := coded })
  advance .coded
  goOn "SYNC" ["sync"]

/-- `_ready_step`. -/
def readyStep : UTxn UPrompt := do
  onlyIn "READY" .benchHalted
  advance .benchReady
  goOn "EXTRACT" ["extract"]

/-- `_extract_step`. -/
def extractStep : UTxn UPrompt := do
  onlyIn "EXTRACT" .benchReady
  let _ : Unit ← Session.ask world .extractBench
  advance .extracted
  goOn "SYNC" ["sync"]

def endPrompt (state : UState) : UPrompt :=
  { state
    expects := ""
    actions := []
    isTerminal := true }

/-- `_sync_step`. -/
def syncStep : UTxn UPrompt := do
  let session ← get
  let machine := session.machine
  Txn.require (machine.state = .coded ∨ machine.state = .extracted)
    (.illegalTransition ("SYNC only valid in CODED/EXTRACTED (now " ++
      machine.state.value ++ ")"))
  let _ : Unit ← Session.ask world (.syncModule machine.data.bodyModule)
  advance .done
  pure (endPrompt .done)

/-- `_do_rollback` of a backup, and the state after it: the table of the
transitions is looked up, but both branches of the check set the state. -/
def writeBack (backup : EcuBackup) : UTxn UPrompt := do
  let _ : Unit ← Session.ask world (.writeCodingSnapshot backup.data)
  Session.update (·.withData fun data => { data with rolledBack := true })
  Session.update fun machine => { machine with state := .rolledBack }
  pure (endPrompt .rolledBack)

/-- `_rollback_step`. -/
def rollbackStep : UTxn UPrompt := do
  let session ← get
  match session.machine.backup with
  | none => fail .noBackup
  | some backup =>
      if session.machine.data.rolledBack then pure (endPrompt .rolledBack)
      else writeBack world backup

/-- `_abort`. -/
def abort : UTxn UPrompt := do
  let session ← get
  if rollbackAction session.machine ≠ [] then fail .abortedByUser
  else
    Session.update fun machine => { machine with state := .failed }
    pure (endPrompt .failed)

/-- `_dispatch`. -/
def dispatch : UEvent → UTxn UPrompt
  | .start technicianId gateway => start world technicianId gateway
  | .backup => backupStep world
  | .code options => codeStep world options
  | .ready => readyStep
  | .extract => extractStep world
  | .sync => syncStep world
  | .abort => abort
  | .rollback => rollbackStep world
  | .unknown text => fail (.unknownEvent text)

/-- `handle`: what a step raises fails the session. -/
def handle (event : UEvent) : UTxn UPrompt :=
  Guided.recovering (dispatch world event) fun error => fail (.raised error)

end Steps

structure USnapshot where
  state : String
  vin : String
  technicianId : String
  transportKind : String
  gateway : String
  series : String
  bodyModule : String
  dmeFamily : String
  dmeLocked : Bool
  backupSha256 : String
  backupSize : Nat
  rolledBack : Bool
  codedOptions : Int
  error : Option UFault

/-- `snapshot`. -/
def snapshot (machine : UMachine) : USnapshot :=
  { state := machine.state.value
    vin := machine.data.vin
    technicianId := machine.data.technicianId
    transportKind := machine.data.transportKind
    gateway := machine.data.gateway
    series := machine.data.series
    bodyModule := machine.data.bodyModule
    dmeFamily := machine.data.dmeFamily
    dmeLocked := machine.data.dmeLocked
    backupSha256 := machine.data.backupSha256
    backupSize := machine.data.backupSize
    rolledBack := machine.data.rolledBack
    codedOptions := machine.data.codedOptions
    error := machine.data.error }

/-- `restore`; a text that is no state is refused. -/
def restore (stored : USnapshot) (backup : Option EcuBackup)
    (record : SmartSessionRecord) : Option UMachine :=
  (UState.ofValue stored.state).map fun state =>
    { state
      data :=
        { vin := stored.vin
          technicianId := stored.technicianId
          transportKind := stored.transportKind
          gateway := stored.gateway
          series := stored.series
          bodyModule := stored.bodyModule
          dmeFamily := stored.dmeFamily
          dmeLocked := stored.dmeLocked
          backupSha256 := stored.backupSha256
          backupSize := stored.backupSize
          rolledBack := stored.rolledBack
          codedOptions := stored.codedOptions
          error := stored.error }
      backup
      record }

def savedBy : Exchange uInterface URaised → Option EcuBackup
  | ⟨.saveBackup backup, .ok _⟩ => some backup
  | _ => none

def stored (log : List (Exchange uInterface URaised)) : List EcuBackup :=
  log.filterMap savedBy

/-- `BackupStore.load`: the backup of an identity. -/
def loadBackup (store : List EcuBackup) (vin ecuName sha256 : String) :
    Option EcuBackup :=
  store.find? fun backup =>
    backup.vin = vin ∧ backup.ecuName = ecuName ∧ backup.sha256 = sha256

def reload (store : List EcuBackup) (record : SmartSessionRecord) :
    Option EcuBackup :=
  if record.backupSha256 ≠ "" ∧ record.vin ≠ "" ∧ record.backupEcuName ≠ ""
  then loadBackup store record.vin record.backupEcuName record.backupSha256
  else none

/-- What happens to a session: an event, or a stop and a later start. -/
inductive UStep
  | event (event : UEvent)
  | resume
  deriving DecidableEq

def resume : UTxn PUnit := do
  let session ← get
  let record := session.machine.record
  let machine ← Txn.expect
    (restore (snapshot session.machine) (reload (stored session.log) record)
      record)
    (.other "ValueError")
  Session.update fun _ => machine

def noteVin (machine : UMachine) : UMachine :=
  { machine with
    record :=
      { machine.record with
        vin := orDefault machine.data.vin machine.record.vin } }

/-- `_drive`: an event of the session, and the record after it. -/
def drive (world : World uInterface URaised) (event : UEvent) :
    UTxn UPrompt := do
  let prompt ← handle world event
  Session.update noteVin
  pure prompt

def runStep (world : World uInterface URaised) : UStep → UTxn PUnit
  | .event event => do
      let _ ← drive world event
      pure ⟨⟩
  | .resume => resume

def newSession (vin : String) : USession :=
  { machine := { record := { vin } }
    log := [] }

end Universal

end Mousstec
