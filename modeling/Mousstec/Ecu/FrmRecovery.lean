import Mousstec.Ecu.Safety
import Mousstec.Library.Bytes
import Mousstec.Library.Guided

/-!
# Recovering a footwell module

The data flash of a footwell module is read over BDM, judged, rebuilt from a
template with the VIN of the job sheet, written back, given its option codes
and read back.  The work is gated by an entitlement guard: it is asked when a
model is selected and told when the session finishes.
-/

namespace Mousstec

namespace Frm

open Library

/-- `FrmVariant`. -/
inductive FrmVariant
  | e90
  | e70
  | r56
  deriving DecidableEq, Repr

namespace FrmVariant

def value : FrmVariant → String
  | e90 => "E90_FRM3"
  | e70 => "E70_FRM3"
  | r56 => "R56_FRM3"

/-- `FrmVariant(text)`. -/
def ofValue (text : String) : Option FrmVariant :=
  [e90, e70, r56].find? fun variant => variant.value = text

@[simp] theorem ofValue_value (variant : FrmVariant) :
    ofValue variant.value = some variant := by
  cases variant <;> decide +kernel

end FrmVariant

/-- `FrmProfile`, the fields the recovery reads. -/
structure FrmProfile where
  bdmClockKhz : Nat := 800
  resetLowMs : Nat := 100
  dflashSize : Nat := 8192
  dflashBase : Nat := 0x100000
  vinOffset : Nat := 0x0040
  vinLength : Nat := 17
  faOffset : Nat := 0x0200
  faLength : Nat := 256
  checksumOffset : Nat := 0x1FFF
  deriving DecidableEq

/-- `get_frm_profile`. -/
def getFrmProfile : FrmVariant → FrmProfile
  | .e90 => {}
  | .e70 => { faOffset := 0x0240 }
  | .r56 => { resetLowMs := 120, faLength := 192 }

/-- `CorruptionLevel`. -/
inductive CorruptionLevel
  | healthy
  | partially
  | severe
  | unreadable
  deriving DecidableEq, Repr

/-- `CorruptionReport`, without its notes. -/
structure CorruptionReport where
  level : CorruptionLevel
  vinRecoverable : Bool
  faRecoverable : Bool
  uniformRuns : Nat
  checksumOk : Bool
  confidence : ℚ
  deriving DecidableEq

def window (raw : List UInt8) (offset length : Nat) : List UInt8 :=
  (raw.drop offset).take length

/-- `_count_uniform_runs`: the runs of 0x00 or 0xFF that are long enough. -/
def countUniformRuns (raw : List UInt8) (minimum : Nat) : Nat :=
  (raw.splitBy (· == ·)).countP fun run =>
    (run.head? = some 0x00 ∨ run.head? = some 0xFF) ∧ minimum ≤ run.length

/-- `_looks_like_vin`. -/
def looksLikeVin (bytes : List UInt8) : Bool :=
  bytes.length = 17 ∧
    bytes.all fun byte => (0x30 ≤ byte ∧ byte ≤ 0x5A) ∨ byte = 0x2D

/-- `_looks_like_fa`: less than seven tenths of the window are 0xFF. -/
def looksLikeFa (bytes : List UInt8) : Bool :=
  bytes ≠ [] ∧ 10 * bytes.count 0xFF < 7 * bytes.length

/-- `_xor_checksum`. -/
def xorChecksum (bytes : List UInt8) : UInt8 :=
  bytes.foldl (· ^^^ ·) 0

/-- The verdict of `analyze_dflash` and its confidence. -/
def verdict (vinOk faOk checksumOk : Bool) (runs : Nat) :
    CorruptionLevel × ℚ :=
  if vinOk ∧ faOk ∧ checksumOk ∧ runs = 0 then (.healthy, 1)
  else if vinOk ∧ (faOk ∨ runs ≤ 2) ∧ runs ≤ 4 then
    (.partially, if runs ≤ 2 then 7 / 10 else 1 / 2)
  else if vinOk ∨ runs ≤ 6 then (.severe, 3 / 10)
  else (.unreadable, 0)

def unreadableReport (runs : Nat) : CorruptionReport :=
  { level := .unreadable
    vinRecoverable := false
    faRecoverable := false
    uniformRuns := runs
    checksumOk := false
    confidence := 0 }

/-- `analyze_dflash`. -/
def analyzeDflash (raw : List UInt8) (profile : FrmProfile) :
    CorruptionReport :=
  if raw.length ≠ profile.dflashSize then unreadableReport 0
  else if raw.all (· = 0xFF) ∨ raw.all (· = 0x00) then
    unreadableReport 1
  else
    let vinOk := looksLikeVin (window raw profile.vinOffset profile.vinLength)
    let faOk := looksLikeFa (window raw profile.faOffset profile.faLength)
    let runs := countUniformRuns raw 256
    let checksumOk := xorChecksum (raw.take profile.checksumOffset) ==
      raw.getD profile.checksumOffset 0
    { level := (verdict vinOk faOk checksumOk runs).1
      vinRecoverable := vinOk
      faRecoverable := faOk
      uniformRuns := runs
      checksumOk
      confidence := (verdict vinOk faOk checksumOk runs).2 }

/-- The calls to the guard and to the BDM pod. -/
inductive FrmCall
  | check
  | consume (vin operationRef : String)
  | connect (bdmClockKhz resetLowMs : Nat)
  | readDflash (address length : Nat)
  | writeDflash (address : Nat) (data : List UInt8)
  deriving DecidableEq

def FrmCall.Answer : FrmCall → Type
  | check => Bool × String
  | consume _ _ => Bool
  | readDflash _ _ => List UInt8
  | _ => Unit

def FrmCall.isHardware : FrmCall → Bool
  | check => false
  | consume _ _ => false
  | _ => true

def FrmCall.isConsume : FrmCall → Bool
  | consume _ _ => true
  | _ => false

abbrev frmInterface : Interface :=
  { Call := FrmCall
    Answer := FrmCall.Answer }

/-- The exceptions the handler tells apart, with their text. -/
inductive FrmRaised
  | illegalTransition (text : String)
  | bdmConnection (text : String)
  | bdmRead (text : String)
  | bdmWrite (text : String)
  | cloudRebuild (text : String)
  | salapa (text : String)
  | other (text : String)
  deriving DecidableEq

/-- Why a session failed: what the error detail tells. -/
inductive FrmFault
  | unknownEvent (event : String)
  | missingVariant
  | unknownVariant (variant : String)
  | notEntitled (reason : String)
  | abortedByUser
  | shortRead (got expected : Nat)
  | dumpUnreadable
  | missingVin
  | verifyMismatch
  | raised (error : FrmRaised)
  deriving DecidableEq

/-- `error_code`. -/
def FrmFault.code : FrmFault → String
  | unknownEvent _ => "unknown_event"
  | missingVariant => "missing_variant"
  | unknownVariant _ => "unknown_variant"
  | notEntitled _ => "not_entitled"
  | abortedByUser => "aborted_by_user"
  | shortRead _ _ => "short_read"
  | dumpUnreadable => "dump_unreadable"
  | missingVin => "missing_vin"
  | verifyMismatch => "verify_mismatch"
  | raised (.illegalTransition _) => "illegal_transition"
  | raised (.bdmConnection _) => "bdm_connection_error"
  | raised (.bdmRead _) => "bdm_read_error"
  | raised (.bdmWrite _) => "bdm_write_error"
  | raised (.cloudRebuild _) => "cloud_rebuild_error"
  | raised (.salapa _) => "salapa_error"
  | raised (.other _) => "unexpected"

def overlay (buffer : List UInt8) (offset : Nat) (bytes : List UInt8) :
    List UInt8 :=
  buffer.take offset ++ bytes ++ buffer.drop (offset + bytes.length)

def withChecksum (profile : FrmProfile) (buffer : List UInt8) : List UInt8 :=
  buffer.set profile.checksumOffset
    (xorChecksum (buffer.take profile.checksumOffset))

/-- `build_template_blob`. -/
def buildTemplateBlob (profile : FrmProfile) : List UInt8 :=
  let filler := List.replicate profile.dflashSize 0xCD
  let named := overlay filler profile.vinOffset
    (List.replicate profile.vinLength 0x58)
  let options := (List.range profile.faLength).map fun index =>
    UInt8.ofNat (index * 73) ^^^ 0x5A
  withChecksum profile (overlay named profile.faOffset options)

def isVinChar (char : Char) : Bool :=
  ('0' ≤ char ∧ char ≤ '9') ∨ ('A' ≤ char ∧ char ≤ 'Z')

/-- `_validate_vin`. -/
def validVin (vin : String) : Bool :=
  vin.length = 17 ∧ vin.toList.all isVinChar

/-- `CloudRebuildResult`, without its notes. -/
structure CloudRebuildResult where
  rebuiltBytes : List UInt8
  templateVersion : String
  vinUsed : String
  faCarriedOver : Bool
  deriving DecidableEq

/-- `rebuild_dflash` from the stub template. -/
def rebuildDflash (profile : FrmProfile) (corruptedDump : List UInt8)
    (vin : String) (faRecoverable : Bool) :
    Except FrmRaised CloudRebuildResult :=
  if ¬ validVin vin then .error (.cloudRebuild ("vin " ++ vin))
  else if corruptedDump.length ≠ profile.dflashSize then
    .error (.cloudRebuild "corrupted_dump length")
  else
    let named := overlay (buildTemplateBlob profile) profile.vinOffset
      (vin.toList.map fun char => UInt8.ofNat char.toNat)
    let carried :=
      if faRecoverable then overlay named profile.faOffset
        (window corruptedDump profile.faOffset profile.faLength)
      else named
    .ok
      { rebuiltBytes := withChecksum profile carried
        templateVersion := "stub_v1"
        vinUsed := vin
        faCarriedOver := faRecoverable }

def isSalapa (code : String) : Bool :=
  code.length = 3 ∧ code.toList.all isVinChar

/-- `build_fa_payload`: the sorted codes and their bytes.  The texts come
stripped and in upper case. -/
def buildFaPayload (texts : List String) (maxCodes maxBytes : Nat) :
    Except FrmRaised (List String × List UInt8) :=
  let codes := (texts.filter fun text => text ≠ "").eraseDups
  if ¬ codes.all isSalapa then .error (.salapa "SALAPA code")
  else if codes = [] then .error (.salapa "FA payload must contain ≥ 1 SALAPA code")
  else if maxCodes < codes.length then .error (.salapa "exceeds max_codes")
  else
    let sorted := codes.mergeSort fun first second => decide (first ≤ second)
    let bytes := (sorted.flatMap String.toList).map (fun char =>
      UInt8.ofNat char.toNat) ++ [0]
    if maxBytes < bytes.length then .error (.salapa "FA payload too long")
    else .ok (sorted, bytes)

/-- `FrmRecoveryState`. -/
inductive FrmState
  | idle
  | modelSelected
  | bdmConnected
  | dflashRead
  | corruptionAnalyzed
  | cloudRebuilt
  | dflashFlashed
  | voFaInjected
  | verified
  | done
  | failed
  deriving DecidableEq, Repr

namespace FrmState

def value : FrmState → String
  | idle => "idle"
  | modelSelected => "model_selected"
  | bdmConnected => "bdm_connected"
  | dflashRead => "dflash_read"
  | corruptionAnalyzed => "corruption_analyzed"
  | cloudRebuilt => "cloud_rebuilt"
  | dflashFlashed => "dflash_flashed"
  | voFaInjected => "vo_fa_injected"
  | verified => "verified"
  | done => "done"
  | failed => "failed"

/-- `FrmRecoveryState(text)`. -/
def ofValue (text : String) : Option FrmState :=
  [idle, modelSelected, bdmConnected, dflashRead, corruptionAnalyzed,
    cloudRebuilt, dflashFlashed, voFaInjected, verified, done, failed].find?
    fun state => state.value = text

@[simp] theorem ofValue_value (state : FrmState) :
    ofValue state.value = some state := by
  cases state <;> decide +kernel

/-- `_ALLOWED`. -/
def allowed : FrmState → List FrmState
  | idle => [modelSelected, failed]
  | modelSelected => [bdmConnected, failed]
  | bdmConnected => [dflashRead, failed]
  | dflashRead => [corruptionAnalyzed, failed]
  | corruptionAnalyzed => [cloudRebuilt, failed]
  | cloudRebuilt => [dflashFlashed, failed]
  | dflashFlashed => [voFaInjected, failed]
  | voFaInjected => [verified, failed]
  | verified => [done, failed]
  | done => []
  | failed => []

end FrmState

/-- `FrmRecoveryData`; of the rebuild result the metadata. -/
structure FrmData where
  variant : Option FrmVariant := none
  vin : String := ""
  technicianId : String := ""
  rawDump : List UInt8 := []
  analyzerReport : Option CorruptionReport := none
  rebuildResult : Option (String × String × Bool) := none
  rebuiltBytes : List UInt8 := []
  faCodes : List String := []
  faPayloadHex : String := ""
  error : Option FrmFault := none
  deriving DecidableEq

/-- `FrmRecoveryOrchestrator`, with whether it holds a guard. -/
structure FrmMachine where
  state : FrmState := .idle
  data : FrmData := {}
  guarded : Bool
  deriving DecidableEq

abbrev FrmSession := Session frmInterface FrmRaised FrmMachine

/-- `FrmRecoveryEvent` with its payload, or a text that is none.  Texts come
stripped, VINs in upper case; an entry that is no text is absent.  A REBUILD
may come without a VIN. -/
inductive FrmEvent
  | selectModel (variant vin technicianId : Option String)
  | connectBdm
  | readDflash
  | analyze
  | rebuild (vin : Option (Option String))
  | flashBack
  | injectVoFa (codes : List String)
  | verify
  | finish
  | abort
  | unknown (text : String)
  deriving DecidableEq

abbrev FrmTxn := Txn FrmRaised FrmSession

def FrmMachine.withData (change : FrmData → FrmData) (machine : FrmMachine) :
    FrmMachine :=
  { machine with data := change machine.data }

def FrmMachine.fail (fault : FrmFault) (machine : FrmMachine) : FrmMachine :=
  { machine with
    state := .failed
    data := { machine.data with error := some fault } }

def frmStages : Guided.Stages FrmMachine FrmState FrmRaised where
  stage := FrmMachine.state
  enter target machine := { machine with state := target }
  allowed := FrmState.allowed
  illegal from_ target := .illegalTransition
    (from_.value ++ " → " ++ target.value ++ " not allowed")

/-- `_advance`. -/
def advance (target : FrmState) : FrmTxn PUnit :=
  Guided.advance frmStages target

/-- `_fail`. -/
def fail (fault : FrmFault) : FrmTxn PUnit :=
  Session.update (·.fail fault)

def onlyIn (event : String) (only : FrmState) : FrmTxn PUnit :=
  Guided.within frmStages only fun state => .illegalTransition
    (event ++ " only valid in " ++ only.value.toUpper ++
      " (now " ++ state.value ++ ")")

/-- `profile`. -/
def profileOf (machine : FrmMachine) : FrmTxn FrmProfile :=
  Txn.expect (machine.data.variant.map getFrmProfile)
    (.other "RuntimeError('variant not selected yet')")

def payloadText (text : Option String) : FrmTxn String :=
  Txn.expect text (.other "AttributeError")

section Steps

variable (world : World frmInterface FrmRaised)

/-- SELECT_MODEL once the guard has let it pass.  The data is written before
the transition is checked. -/
def selectEntitled (variant : FrmVariant) (vin technicianId : Option String) :
    FrmTxn PUnit := do
  Session.update (·.withData fun data => { data with variant := some variant })
  let vin ← payloadText vin
  Session.update (·.withData fun data => { data with vin := vin })
  let technicianId ← payloadText technicianId
  Session.update (·.withData fun data => { data with technicianId := technicianId })
  advance .modelSelected

def selectKnown (variant : FrmVariant) (vin technicianId : Option String) :
    FrmTxn PUnit := do
  let session ← get
  if session.machine.guarded then
    let entitled : Bool × String ← Session.ask world .check
    if entitled.1 then selectEntitled variant vin technicianId
    else fail (.notEntitled entitled.2)
  else selectEntitled variant vin technicianId

/-- `_select_model`. -/
def selectModel (variant vin technicianId : Option String) : FrmTxn PUnit := do
  let text ← payloadText variant
  if text = "" then fail .missingVariant
  else
    match FrmVariant.ofValue text with
    | none => fail (.unknownVariant text)
    | some variant => selectKnown world variant vin technicianId

/-- `_connect_bdm`. -/
def connectBdm : FrmTxn PUnit := do
  onlyIn "CONNECT_BDM" .modelSelected
  let session ← get
  let profile ← profileOf session.machine
  let _ : Unit ← Session.ask world
    (.connect profile.bdmClockKhz profile.resetLowMs)
  advance .bdmConnected

/-- `_read_dflash`. -/
def readDflash : FrmTxn PUnit := do
  onlyIn "READ_DFLASH" .bdmConnected
  let session ← get
  let profile ← profileOf session.machine
  let raw : List UInt8 ← Session.ask world
    (.readDflash profile.dflashBase profile.dflashSize)
  if raw.length ≠ profile.dflashSize then
    fail (.shortRead raw.length profile.dflashSize)
  else
    Session.update (·.withData fun data => { data with rawDump := raw })
    advance .dflashRead

/-- `_analyze`. -/
def analyze : FrmTxn PUnit := do
  onlyIn "ANALYZE" .dflashRead
  let session ← get
  let profile ← profileOf session.machine
  let report := analyzeDflash session.machine.data.rawDump profile
  Session.update (·.withData fun data =>
    { data with analyzerReport := some report })
  if report.level = .unreadable then fail .dumpUnreadable
  else advance .corruptionAnalyzed

def faRecoverable (data : FrmData) : Bool :=
  data.analyzerReport.any CorruptionReport.faRecoverable

def rebuildFor (profile : FrmProfile) (data : FrmData) (vin : String) :
    FrmTxn PUnit := do
  if vin = "" then fail .missingVin
  else
    let result ← match rebuildDflash profile data.rawDump vin
        (faRecoverable data) with
      | .ok result => pure result
      | .error error => throw error
    Session.update (·.withData fun data =>
      { data with
        vin := vin
        rebuiltBytes := result.rebuiltBytes
        rebuildResult := some (result.templateVersion, result.vinUsed,
          result.faCarriedOver) })
    advance .cloudRebuilt

/-- `_rebuild`: with the VIN of the payload, or the one of the session. -/
def rebuild (vin : Option (Option String)) : FrmTxn PUnit := do
  onlyIn "REBUILD" .corruptionAnalyzed
  let session ← get
  let profile ← profileOf session.machine
  let text ← payloadText (vin.getD (some session.machine.data.vin))
  rebuildFor profile session.machine.data text

/-- `_flash_back`. -/
def flashBack : FrmTxn PUnit := do
  onlyIn "FLASH_BACK" .cloudRebuilt
  let session ← get
  let profile ← profileOf session.machine
  let _ : Unit ← Session.ask world
    (.writeDflash profile.dflashBase session.machine.data.rebuiltBytes)
  advance .dflashFlashed

/-- `_inject_vo_fa`. -/
def injectVoFa (codes : List String) : FrmTxn PUnit := do
  onlyIn "INJECT_VO_FA" .dflashFlashed
  let session ← get
  let profile ← profileOf session.machine
  let payload ← match buildFaPayload codes 80 profile.faLength with
    | .ok payload => pure payload
    | .error error => throw error
  Session.update (·.withData fun data =>
    { data with
      faCodes := payload.1
      faPayloadHex := Bytes.upperHex payload.2 })
  advance .voFaInjected

/-- `_verify`. -/
def verify : FrmTxn PUnit := do
  onlyIn "VERIFY" .voFaInjected
  let session ← get
  let profile ← profileOf session.machine
  let readback : List UInt8 ← Session.ask world
    (.readDflash profile.dflashBase profile.dflashSize)
  if readback ≠ session.machine.data.rebuiltBytes then fail .verifyMismatch
  else advance .verified

def operationRef (data : FrmData) : String :=
  "frm-" ++ orDefault data.vin "no-vin" ++ "-" ++
    (data.variant.map FrmVariant.value).getD "?"

/-- `_finish`. -/
def finish : FrmTxn PUnit := do
  onlyIn "FINISH" .verified
  advance .done
  let session ← get
  if session.machine.guarded then
    let _ : Bool ← Session.ask world
      (.consume session.machine.data.vin (operationRef session.machine.data))
    pure ⟨⟩
  else pure ⟨⟩

/-- `_dispatch`. -/
def dispatch : FrmEvent → FrmTxn PUnit
  | .selectModel variant vin technicianId =>
      selectModel world variant vin technicianId
  | .connectBdm => connectBdm world
  | .readDflash => readDflash world
  | .analyze => analyze
  | .rebuild vin => rebuild vin
  | .flashBack => flashBack world
  | .injectVoFa codes => injectVoFa codes
  | .verify => verify world
  | .finish => finish world
  | .abort => fail .abortedByUser
  | .unknown text => fail (.unknownEvent text)

/-- `handle`: what a step raises fails the session. -/
def handle (event : FrmEvent) : FrmTxn PUnit :=
  Guided.recovering (dispatch world event) fun error => fail (.raised error)

end Steps

structure FrmSnapshot where
  state : String
  variant : Option String
  vin : String
  technicianId : String
  rawDumpHex : String
  analyzerReport : Option CorruptionReport
  rebuildResult : Option (String × String × Bool)
  rebuiltBytesHex : String
  faCodes : List String
  faPayloadHex : String
  error : Option FrmFault

/-- `snapshot`. -/
def snapshot (machine : FrmMachine) : FrmSnapshot :=
  { state := machine.state.value
    variant := machine.data.variant.map FrmVariant.value
    vin := machine.data.vin
    technicianId := machine.data.technicianId
    rawDumpHex := Bytes.hex machine.data.rawDump
    analyzerReport := machine.data.analyzerReport
    rebuildResult := machine.data.rebuildResult
    rebuiltBytesHex := Bytes.hex machine.data.rebuiltBytes
    faCodes := machine.data.faCodes
    faPayloadHex := machine.data.faPayloadHex
    error := machine.data.error }

def restoreVariant : Option String → Option (Option FrmVariant)
  | none => some none
  | some text => (FrmVariant.ofValue text).map some

/-- `restore`: it takes no guard. -/
def restore (stored : FrmSnapshot) : Option FrmMachine := do
  let variant ← restoreVariant stored.variant
  let rawDump ← Bytes.fromHex stored.rawDumpHex
  let rebuiltBytes ← Bytes.fromHex stored.rebuiltBytesHex
  let state ← FrmState.ofValue stored.state
  pure
    { state
      data :=
        { variant
          vin := stored.vin
          technicianId := stored.technicianId
          rawDump
          analyzerReport := stored.analyzerReport
          rebuildResult := stored.rebuildResult
          rebuiltBytes
          faCodes := stored.faCodes
          faPayloadHex := stored.faPayloadHex
          error := stored.error }
      guarded := false }

theorem restoreVariant_map (variant : Option FrmVariant) :
    restoreVariant (variant.map FrmVariant.value) = some variant := by
  cases variant with
  | none => rfl
  | some variant => simp [restoreVariant]

theorem restore_snapshot (machine : FrmMachine) :
    restore (snapshot machine) = some { machine with guarded := false } := by
  simp only [restore, snapshot, restoreVariant_map, Bytes.fromHex_hex,
    FrmState.ofValue_value, Option.bind_eq_bind, Option.bind_some]
  rfl

def resume : FrmTxn PUnit := do
  let session ← get
  let machine ← Txn.expect (restore (snapshot session.machine))
    (.other "ValueError")
  Session.update fun _ => machine

def newSession (guarded : Bool) : FrmSession :=
  { machine := { guarded }
    log := [] }

end Frm

end Mousstec
