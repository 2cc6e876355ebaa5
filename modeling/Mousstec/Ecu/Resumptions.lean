import Mousstec.Ecu.BenchResume
import Mousstec.Ecu.FlashResume
import Mousstec.Ecu.FrmResume
import Mousstec.Ecu.ScanResume

/-!
# Interrupted sessions of every flow

A session of any of the guided flows may be stored between two events and
continued from what was stored.  A flash must not be caught between its start
and the end of its writing; a recovery and a bench session lose their guard; a
scan loses nothing that is read again.
-/

namespace Mousstec

open Library

section Flows

variable (flashWorld : World Flash.flashInterface Flash.FlashRaised)
  (frmWorld : World Frm.frmInterface Frm.FrmRaised)
  (benchWorld : World Bench.benchInterface Bench.BenchRaised)
  (scanWorld : World Scan.scanInterface Scan.ScanRaised)
  (flashGuarded frmGuarded benchGuarded scanGuarded : Bool)
  (flashSteps : List (Guided.Step Flash.FlashEvent))
  (frmSteps : List (Guided.Step Frm.FrmEvent))
  (benchSteps : List (Guided.Step Bench.BenchEvent))
  (scanSteps : List (Guided.Step Scan.ScanEvent))

/-- Sessions that are interrupted where the flow can bear it run as if they had
not been: the same states, the same calls to the hardware, the same number of
uses counted. -/
theorem resumption_transparent
    (flashWhen : Guided.ResumedWhen (Flash.handled flashWorld flashGuarded)
      Flash.resumed Flash.KeepsImage flashSteps Flash.newSession)
    (frmWhen : Guided.ResumedWhen (Frm.handled frmWorld) Frm.resumed
      Frm.KeepsGuard frmSteps (Frm.newSession frmGuarded))
    (benchWhen : Guided.ResumedWhen (Bench.handled benchWorld) Bench.resumed
      Bench.KeepsGuard benchSteps (Bench.newSession benchGuarded)) :
    Flash.shown (Guided.runSteps (Flash.handled flashWorld flashGuarded)
        Flash.resumed flashSteps Flash.newSession) =
      Flash.shown (Guided.runEvents (Flash.handled flashWorld flashGuarded)
        (Guided.events flashSteps) Flash.newSession) ∧
    Frm.shown (Guided.runSteps (Frm.handled frmWorld) Frm.resumed frmSteps
        (Frm.newSession frmGuarded)) =
      Frm.shown (Guided.runEvents (Frm.handled frmWorld)
        (Guided.events frmSteps) (Frm.newSession frmGuarded)) ∧
    Bench.shown (Guided.runSteps (Bench.handled benchWorld) Bench.resumed
        benchSteps (Bench.newSession benchGuarded)) =
      Bench.shown (Guided.runEvents (Bench.handled benchWorld)
        (Guided.events benchSteps) (Bench.newSession benchGuarded)) ∧
    Scan.shown (Guided.runSteps (Scan.handled scanWorld) Scan.resumed
        scanSteps (Scan.newSession scanGuarded)) =
      Scan.shown (Guided.runEvents (Scan.handled scanWorld)
        (Guided.events scanSteps) (Scan.newSession scanGuarded)) := by
  refine ⟨?_, ?_, ?_, ?_⟩
  · exact Flash.shown_runSteps flashSteps flashWhen
  · exact Frm.shown_runSteps frmSteps (Frm.newSession frmGuarded) frmWhen
  · exact Bench.shown_runSteps benchSteps (Bench.newSession benchGuarded)
      benchWhen
  · exact Scan.shown_runSteps scanSteps scanGuarded

end Flows

def ungrantedPod : World Frm.frmInterface Frm.FrmRaised
  | _, .check => .ok (false, "no active grant")
  | _, .consume _ _ => .ok false
  | _, .connect _ _ => .ok ()
  | _, .readDflash _ length => .ok (List.replicate length 0xFF)
  | _, .writeDflash _ _ => .ok ()

def workingHarness : World Bench.benchInterface Bench.BenchRaised
  | _, .check => .ok (true, "entitled")
  | _, .consume _ _ => .ok true
  | _, .detectWiring _ => .ok (Bench.HarnessConnection.ok, "")
  | _, .powerOn voltage _ => .ok voltage
  | _, .enterBenchMode _ _ => .ok ()
  | _, .readEeprom _ size => .ok (List.replicate size 0xAA)
  | _, .tokenBytes count => .ok (List.replicate count 0)

def cleanCar : World Scan.scanInterface Scan.ScanRaised
  | _, .check => .ok (true, "entitled")
  | _, .consume _ _ => .ok true
  | _, .readVin => .ok "WMWMINI0000000001"
  | _, .listReachableModules => .ok (Scan.expectedModuleCodes "mini")
  | _, .readModuleDtcs _ => .ok ([] : List (String × Nat))

def selectModel : Frm.FrmEvent :=
  .selectModel (some "E90_FRM3") (some "WBA0000TEST00000") (some "tech-1")

def femKey : List Bench.BenchEvent :=
  [.selectProfile (some "FEM") (some "WBA0000TEST00000") (some "tech-1"),
    .confirmWiring, .powerOn, .enterBench, .dumpNow,
    .injectIsn (List.replicate 32 0x5A), .extractIsn, .pickKeySlot [] none,
    .burnKey (some "00"), .verify]

def interruptedFlash (image : List UInt8) :
    List (Guided.Step Flash.FlashEvent) :=
  [.event (Flash.clusterStart image), .event .backup, .resume, .event .flash]

def interruptedKey : List (Guided.Step Bench.BenchEvent) :=
  femKey.map Guided.Step.event ++ [.resume, .event .finish]

abbrev cluster : World Flash.flashInterface Flash.FlashRaised :=
  Flash.clusterWorld Flash.fullBackup (.ok ())

section Cluster

variable {image : List UInt8} (length : image.length = 65536)

include length

theorem cluster_backedUp :
    Flash.handled cluster false .backup
        (Flash.handled cluster false (Flash.clusterStart image)
          Flash.newSession) =
      Flash.clusterBackedUp Flash.fullBackup image := by
  rw [Flash.handled, Flash.handled,
    Flash.cluster_start Flash.fullBackup (.ok ()) length, Flash.cluster_backup]

theorem uninterruptedFlash_eq :
    Guided.runEvents (Flash.handled cluster false)
        (Guided.events (interruptedFlash image)) Flash.newSession =
      Flash.clusterFailed Flash.fullBackup (.ok ()) image := by
  change Flash.handled cluster false .flash (Flash.handled cluster false
    .backup (Flash.handled cluster false (Flash.clusterStart image)
      Flash.newSession)) = _
  rw [cluster_backedUp length, Flash.handled, Flash.cluster_flash]

theorem interruptedFlash_eq :
    Guided.runSteps (Flash.handled cluster false) Flash.resumed
        (interruptedFlash image) Flash.newSession =
      Flash.failedWith (.raised (.rejected "NRC=0x22"))
        (Flash.forget (Flash.clusterErased Flash.fullBackup image)) := by
  change Flash.handled cluster false .flash (Flash.resumed
    (Flash.handled cluster false .backup (Flash.handled cluster false
      (Flash.clusterStart image) Flash.newSession))) = _
  have restorable : Flash.Restorable
      (Flash.clusterBackedUp Flash.fullBackup image).machine := by
    refine ⟨?_, nofun⟩
    change some Flash.clusterJob = Flash.getFlashJob "kombi_update"
    decide +kernel
  have erased : Flash.dispatch cluster false .flash
        (Flash.forget (Flash.clusterBackedUp Flash.fullBackup image)) =
      .error (.rejected "NRC=0x22")
        (Flash.forget (Flash.clusterErased Flash.fullBackup image)) := rfl
  rw [cluster_backedUp length, Flash.resumed_eq restorable, Flash.handled,
    Flash.handle_final_of_error .flash erased]
  rfl

theorem interruptedFlash_shows :
    Flash.shown (Guided.runSteps (Flash.handled cluster false) Flash.resumed
        (interruptedFlash image) Flash.newSession) ≠
      Flash.shown (Guided.runEvents (Flash.handled cluster false)
        (Guided.events (interruptedFlash image)) Flash.newSession) := by
  intro same
  rw [uninterruptedFlash_eq length, interruptedFlash_eq length] at same
  have calls : 5 = 6 := congrArg (fun shown => shown.2.1.length) same
  exact absurd calls (by decide)

end Cluster

/-- A cluster that takes what is written. -/
def willing : World Flash.flashInterface Flash.FlashRaised
  | _, .erase _ => .ok ()
  | log, call => cluster log call

def writtenFlash : List (Guided.Step Flash.FlashEvent) :=
  [.resume, .event (Flash.clusterStart Flash.clusterImage), .event .backup,
    .event .flash, .resume, .event .finish]

/-- A flash that is interrupted before its start and after it has written, a
recovery and a bench session that have no guard, and a scan. -/
theorem resumption_transparent_unguarded :
    Flash.shown (Guided.runSteps (Flash.handled willing false) Flash.resumed
        writtenFlash Flash.newSession) =
      Flash.shown (Guided.runEvents (Flash.handled willing false)
        (Guided.events writtenFlash) Flash.newSession) ∧
    Frm.shown (Guided.runSteps (Frm.handled ungrantedPod) Frm.resumed
        [.event selectModel, .resume, .event .connectBdm]
        (Frm.newSession false)) =
      Frm.shown (Guided.runEvents (Frm.handled ungrantedPod)
        (Guided.events [.event selectModel, .resume, .event .connectBdm])
        (Frm.newSession false)) ∧
    Bench.shown (Guided.runSteps (Bench.handled workingHarness) Bench.resumed
        interruptedKey (Bench.newSession false)) =
      Bench.shown (Guided.runEvents (Bench.handled workingHarness)
        (Guided.events interruptedKey) (Bench.newSession false)) ∧
    Scan.shown (Guided.runSteps (Scan.handled cleanCar) Scan.resumed
        [.event (.connect (some "mini") (some "")), .resume, .event .scanAll]
        (Scan.newSession true)) =
      Scan.shown (Guided.runEvents (Scan.handled cleanCar)
        (Guided.events [.event (.connect (some "mini") (some "")), .resume,
          .event .scanAll]) (Scan.newSession true)) := by
  refine resumption_transparent willing ungrantedPod workingHarness cleanCar
    false false false true _ _ _ _
    ⟨⟨nofun, nofun⟩, Flash.keepsImage_flash _, trivial⟩
    ⟨.inl rfl, trivial⟩ ⟨.inl ?_, trivial⟩
  decide +kernel

/-- Interrupted where it is backed up, a flash whose erase is refused writes
nothing back; interrupted before its selection, a recovery without a grant
goes on; interrupted before its end, a programmed key is not counted. -/
theorem resumption_shows :
    Flash.shown (Guided.runSteps (Flash.handled cluster false) Flash.resumed
        (interruptedFlash Flash.clusterImage) Flash.newSession) ≠
      Flash.shown (Guided.runEvents (Flash.handled cluster false)
        (Guided.events (interruptedFlash Flash.clusterImage))
        Flash.newSession) ∧
    Frm.shown (Guided.runSteps (Frm.handled ungrantedPod) Frm.resumed
        [.resume, .event selectModel] (Frm.newSession true)) ≠
      Frm.shown (Guided.runEvents (Frm.handled ungrantedPod)
        (Guided.events [.resume, .event selectModel])
        (Frm.newSession true)) ∧
    Bench.shown (Guided.runSteps (Bench.handled workingHarness) Bench.resumed
        interruptedKey (Bench.newSession true)) ≠
      Bench.shown (Guided.runEvents (Bench.handled workingHarness)
        (Guided.events interruptedKey) (Bench.newSession true)) := by
  refine ⟨interruptedFlash_shows Flash.clusterImage_length, fun same => ?_,
    fun same => ?_⟩
  · have states : Frm.FrmState.modelSelected = Frm.FrmState.failed :=
      congrArg Prod.fst same
    exact absurd states (by decide)
  · have interrupted : (Bench.shown (Guided.runSteps
        (Bench.handled workingHarness) Bench.resumed interruptedKey
        (Bench.newSession true))).2.2 = 0 := by decide +kernel
    have whole : (Bench.shown (Guided.runEvents (Bench.handled workingHarness)
        (Guided.events interruptedKey) (Bench.newSession true))).2.2 = 1 := by
      decide +kernel
    rw [same, whole] at interrupted
    exact absurd interrupted (by decide)

end Mousstec
