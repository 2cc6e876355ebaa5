import Mousstec.Ecu.FlashResume

/-!
# The flash provider on UDS

The provider reads a region in chunks, negotiates the length of a block and
writes an image back block by block.  On a unit that answers with what it holds
and writes the blocks it accepts where the download began, a restored backup
leaves the region as it was read, whatever happened in between.  As the
environment of a flash session the two undo a flash that fails after its erase.
-/

namespace Mousstec

namespace Flash

open Library Library.Bytes

inductive UdsCall
  | rawRequest (request : List UInt8)
  | routineControl (control routine : Nat) (data : List UInt8)

def UdsCall.Answer : UdsCall → Type
  | rawRequest _ => List UInt8
  | routineControl _ _ _ => Unit

abbrev udsInterface : Interface :=
  { Call := UdsCall
    Answer := UdsCall.Answer }

/-- `UdsNegativeResponse`, or any other exception of the client. -/
inductive UdsError
  | negativeResponse (sid nrc : UInt8)
  | other (text : String)
  deriving DecidableEq

def UdsError.text : UdsError → String
  | negativeResponse sid nrc =>
      "SID=0x" ++ (hex [sid]).toUpper ++ " NRC=0x" ++ (hex [nrc]).toUpper
  | other text => text

abbrev UdsExchange := Exchange udsInterface UdsError

abbrev UdsTxn := Txn FlashRaised (Session udsInterface UdsError Unit)

/-- `UdsFlashProvider`: both lengths are positive. -/
structure UdsFlashProvider where
  ecuName : String
  readBlockSize : Nat
  defaultMaxBlockLen : Nat
  readBlockSize_pos : 0 < readBlockSize
  defaultMaxBlockLen_pos : 0 < defaultMaxBlockLen

/-- `to_bytes(4, "big")`, for the numbers that fit. -/
def bytes4 (value : Nat) : List UInt8 :=
  [UInt8.ofNat (value / 2 ^ 24), UInt8.ofNat (value / 2 ^ 16),
    UInt8.ofNat (value / 2 ^ 8), UInt8.ofNat value]

/-- `0x{addr:08X}`. -/
def addrText (addr : Nat) : String :=
  "0x" ++ (hex (bytes4 addr)).toUpper

/-- A step of the unit that can be rejected: `FlashRejected` for a negative
response, `FlashTransportError` for everything else. -/
def rejectedOr (step place : String) (error : UdsError) : FlashRaised :=
  match error with
  | .negativeResponse _ nrc =>
      .rejected (step ++ " rejected" ++ place ++ ": NRC=0x" ++
        (hex [nrc]).toUpper)
  | .other text => .transportError (step ++ " failed: " ++ text)

namespace UdsFlashProvider

variable (provider : UdsFlashProvider) (world : World udsInterface UdsError)

/-- The overflow of `to_bytes` on an address or a size of five bytes. -/
def requireFits (value : Nat) : UdsTxn PUnit :=
  Txn.require (value < 2 ^ 32) (.other "int too big to convert")

def readRequest (addr n : Nat) : List UInt8 :=
  [0x23, 0x44] ++ bytes4 addr ++ bytes4 n

/-- `resp[1:] if resp and resp[0] == 0x63 else resp`. -/
def answeredData : List UInt8 → List UInt8
  | [] => []
  | first :: rest => if first = 0x63 then rest else first :: rest

/-- The loop of `read_backup` from an offset on. -/
def readChunks (addr size off : Nat) : UdsTxn (List UInt8) := do
  if _below : off < size then
    let n := min provider.readBlockSize (size - off)
    requireFits (addr + off)
    requireFits n
    let response : List UInt8 ← Txn.mapError
      (fun error => .transportError
        ("backup read failed @" ++ addrText (addr + off) ++ ": " ++ error.text))
      (Session.ask world (.rawRequest (readRequest (addr + off) n)))
    let rest ← readChunks addr size (off + n)
    return answeredData response ++ rest
  else return []
termination_by size - off
decreasing_by
  have positive := provider.readBlockSize_pos
  omega

/-- `read_backup`. -/
def readBackup (addr size : Nat) : UdsTxn FlashBackup := do
  let data ← provider.readChunks world addr size 0
  return { ecuName := provider.ecuName, vin := "", originAddr := addr, data }

/-- `erase`. -/
def erase (addr : Nat) : UdsTxn PUnit := do
  requireFits addr
  let _ : Unit ← Txn.mapError (rejectedOr "erase" (" @" ++ addrText addr))
    (Session.ask world (.routineControl 0x01 0xFF00 (bytes4 addr)))
  pure ⟨⟩

/-- `int.from_bytes(…, "big")`. -/
def fromBytes (bytes : List UInt8) : Nat :=
  bytes.foldl (fun value byte => 256 * value + byte.toNat) 0

/-- `_parse_max_block_len`. -/
def parseMaxBlockLen (response : List UInt8) : Nat :=
  match response with
  | first :: format :: rest =>
      let n := (format >>> 4).toNat
      if first ≠ 0x74 ∨ response.length < 3 ∨ n = 0 ∨
          response.length < 2 + n then
        provider.defaultMaxBlockLen
      else max 1 (fromBytes (rest.take n) - 2)
  | _ => provider.defaultMaxBlockLen

def downloadRequest (addr size : Nat) : List UInt8 :=
  [0x34, 0x00, 0x44] ++ bytes4 addr ++ bytes4 size

/-- `request_download`. -/
def requestDownload (addr size : Nat) : UdsTxn Nat := do
  requireFits addr
  requireFits size
  let response : List UInt8 ← Txn.mapError (rejectedOr "RequestDownload" "")
    (Session.ask world (.rawRequest (downloadRequest addr size)))
  return provider.parseMaxBlockLen response

/-- `transfer_block`. -/
def transferBlock (seq : Nat) (data : List UInt8) : UdsTxn PUnit := do
  let _ : List UInt8 ← Txn.mapError
    (rejectedOr ("TransferData seq " ++ toString seq) "")
    (Session.ask world (.rawRequest (0x36 :: UInt8.ofNat seq :: data)))
  pure ⟨⟩

/-- `request_transfer_exit`. -/
def requestTransferExit : UdsTxn PUnit := do
  let _ : List UInt8 ← Txn.mapError (rejectedOr "TransferExit" "")
    (Session.ask world (.rawRequest [0x37]))
  pure ⟨⟩

def sendBlocks : Nat → List (List UInt8) → UdsTxn PUnit
  | _, [] => pure ⟨⟩
  | seq, block :: blocks => do
      transferBlock world seq block
      sendBlocks (seq + 1) blocks

/-- `restore_backup`. -/
def restoreBackup (backup : FlashBackup) : UdsTxn PUnit := do
  erase world backup.originAddr
  let block ← provider.requestDownload world backup.originAddr backup.size
  sendBlocks world 1 (payloadBlocks backup.data block)
  requestTransferExit world

/-- A negotiated block is never empty. -/
theorem parseMaxBlockLen_pos (response : List UInt8) :
    0 < provider.parseMaxBlockLen response := by
  unfold parseMaxBlockLen
  split
  · simp only
    split
    · exact provider.defaultMaxBlockLen_pos
    · omega
  · exact provider.defaultMaxBlockLen_pos

def region (memory : Nat → UInt8) (addr size : Nat) : List UInt8 :=
  (List.range size).map fun off => memory (addr + off)

def write (memory : Nat → UInt8) (addr : Nat) (data : List UInt8) :
    Nat → UInt8 :=
  fun place =>
    if addr ≤ place then data.getD (place - addr) (memory place)
    else memory place

theorem region_append (memory : Nat → UInt8) (addr first second : Nat) :
    region memory addr (first + second) =
      region memory addr first ++ region memory (addr + first) second := by
  rw [region, List.range_add, List.map_append, List.map_map]
  simp only [region, Function.comp_def, Nat.add_assoc]

theorem region_length (memory : Nat → UInt8) (addr size : Nat) :
    (region memory addr size).length = size := by
  rw [region, List.length_map, List.length_range]

theorem region_write (memory : Nat → UInt8) (addr : Nat) (data : List UInt8) :
    region (write memory addr data) addr data.length = data := by
  apply List.ext_getElem (region_length _ _ _)
  intro off _ inside
  simp [region, write, inside]

/-- Two writes in a row are one. -/
theorem write_append (memory : Nat → UInt8) (addr : Nat)
    (first second : List UInt8) :
    write (write memory addr first) (addr + first.length) second =
      write memory addr (first ++ second) := by
  funext place
  simp only [write, List.getD_eq_getElem?_getD, List.getElem?_append]
  by_cases before : addr + first.length ≤ place
  · rw [if_pos before, if_pos (by omega), if_pos (by omega),
      if_neg (by omega), List.getElem?_eq_none (by omega : first.length ≤ _),
      Nat.sub_add_eq]
    rfl
  · rw [if_neg before]
    split
    · rw [if_pos (by omega)]
    · rfl

/-- A unit with its memory and the place of its download, after the calls so
far.  It answers a read with what it holds and writes an accepted block; what
erasing leaves, and what it did on any other call, is open. -/
structure FlashMemory (world : World udsInterface UdsError) where
  contents : List UdsExchange → Nat → UInt8
  place : List UdsExchange → Nat
  reads : ∀ log addr n response, addr < 2 ^ 32 → n < 2 ^ 32 →
    world log (.rawRequest (readRequest addr n)) = .ok response →
      answeredData response = region (contents log) addr n
  kept : ∀ log addr n outcome,
    contents (log ++ [⟨.rawRequest (readRequest addr n), outcome⟩]) =
      contents log
  downloads : ∀ log addr size response, addr < 2 ^ 32 →
    place (log ++ [⟨.rawRequest (downloadRequest addr size),
      .ok response⟩]) = addr
  transfers : ∀ log seq data response,
    contents (log ++ [⟨.rawRequest (0x36 :: seq :: data), .ok response⟩]) =
      write (contents log) (place log) data
  follows : ∀ log seq data response,
    place (log ++ [⟨.rawRequest (0x36 :: seq :: data), .ok response⟩]) =
      place log + data.length
  exits : ∀ log response,
    contents (log ++ [⟨.rawRequest [0x37], .ok response⟩]) = contents log

variable {provider world}

/-- The chunks are what the unit holds when the reading begins. -/
theorem readChunks_region (unit : FlashMemory world) {addr size off : Nat}
    {data : List UInt8} {session after : Session udsInterface UdsError Unit}
    (returned : provider.readChunks world addr size off session =
      .ok data after) :
    data = region (unit.contents session.log) (addr + off) (size - off) := by
  induction remaining : size - off using Nat.strong_induction_on
    generalizing off data session after with
  | _ remaining induction =>
      rw [readChunks] at returned
      split at returned
      · rename_i below
        have positive := provider.readBlockSize_pos
        obtain ⟨place, returned⟩ := Txn.require_bind_eq_ok.mp returned
        obtain ⟨few, returned⟩ := Txn.require_bind_eq_ok.mp returned
        obtain ⟨response, _, asked, returned⟩ := Txn.bind_eq_ok.mp returned
        obtain ⟨answered, rfl⟩ :=
          Session.ask_eq_ok.mp (Txn.mapError_eq_ok.mp asked)
        obtain ⟨rest, _, chunks, returned⟩ := Txn.bind_eq_ok.mp returned
        obtain ⟨rfl, -⟩ := Txn.pure_eq_ok.mp returned
        have tail := induction _ (by omega) chunks rfl
        rw [tail, unit.kept, unit.reads _ _ _ _ place few answered,
          ← Nat.add_assoc, ← region_append]
        congr 1
        omega
      · obtain ⟨rfl, -⟩ := Txn.pure_eq_ok.mp returned
        rw [← remaining, Nat.sub_eq_zero_of_le (by omega)]
        rfl

theorem sendBlocks_writes (unit : FlashMemory world) {seq : Nat}
    {blocks : List (List UInt8)}
    {session after : Session udsInterface UdsError Unit}
    (returned : sendBlocks world seq blocks session = .ok ⟨⟩ after) :
    unit.contents after.log = write (unit.contents session.log)
      (unit.place session.log) blocks.flatten := by
  induction blocks generalizing seq session with
  | nil =>
      obtain ⟨-, rfl⟩ := Txn.pure_eq_ok.mp returned
      funext place
      simp [write]
  | cons block blocks induction =>
      obtain ⟨⟨⟩, _, transferred, returned⟩ := Txn.bind_eq_ok.mp returned
      obtain ⟨response, _, asked, taken⟩ := Txn.bind_eq_ok.mp transferred
      obtain ⟨-, rfl⟩ := Session.ask_eq_ok.mp (Txn.mapError_eq_ok.mp asked)
      obtain ⟨-, rfl⟩ := Txn.pure_eq_ok.mp taken
      have wrote := unit.transfers session.log (UInt8.ofNat seq) block response
      have moved := unit.follows session.log (UInt8.ofNat seq) block response
      refine (induction returned).trans ?_
      refine (congrArg₂ (write · · blocks.flatten) wrote moved).trans ?_
      rw [write_append, List.flatten_cons]

/-- A restoration that got through has written the image at its address. -/
theorem restoreBackup_writes (unit : FlashMemory world) {backup : FlashBackup}
    {session after : Session udsInterface UdsError Unit}
    (returned : provider.restoreBackup world backup session = .ok ⟨⟩ after) :
    ∃ memory, unit.contents after.log =
      write memory backup.originAddr backup.data := by
  obtain ⟨⟨⟩, blank, -, returned⟩ := Txn.bind_eq_ok.mp returned
  obtain ⟨block, _, negotiated, returned⟩ := Txn.bind_eq_ok.mp returned
  obtain ⟨place, negotiated⟩ := Txn.require_bind_eq_ok.mp negotiated
  obtain ⟨-, negotiated⟩ := Txn.require_bind_eq_ok.mp negotiated
  obtain ⟨response, _, asked, negotiated⟩ := Txn.bind_eq_ok.mp negotiated
  obtain ⟨-, rfl⟩ := Session.ask_eq_ok.mp (Txn.mapError_eq_ok.mp asked)
  obtain ⟨rfl, rfl⟩ := Txn.pure_eq_ok.mp negotiated
  obtain ⟨⟨⟩, _, blocks, returned⟩ := Txn.bind_eq_ok.mp returned
  have written := sendBlocks_writes unit blocks
  obtain ⟨last, _, asked, returned⟩ := Txn.bind_eq_ok.mp returned
  obtain ⟨-, rfl⟩ := Session.ask_eq_ok.mp (Txn.mapError_eq_ok.mp asked)
  obtain ⟨-, rfl⟩ := Txn.pure_eq_ok.mp returned
  rw [payloadBlocks_flatten _ (provider.parseMaxBlockLen_pos response)]
    at written
  have start := unit.downloads blank.log backup.originAddr backup.size response place
  have whole := written.trans (congrArg (write _ · backup.data) start)
  exact ⟨_, (unit.exits _ last).trans whole⟩

end UdsFlashProvider

open UdsFlashProvider

/-- Four bytes are read back as the number that was written. -/
theorem fromBytes_bytes4 {value : Nat} (fits : value < 2 ^ 32) :
    fromBytes (bytes4 value) = value := by
  simp only [fromBytes, bytes4, List.foldl_cons, List.foldl_nil,
    UInt8.toNat_ofNat']
  omega

/-- `_FlashBus`: its memory and `_dl_addr`. -/
structure FlashBus where
  mem : Nat → UInt8
  dlAddr : Nat

def FlashBus.request (bus : FlashBus) : UdsExchange → FlashBus
  | ⟨.rawRequest (0x34 :: _ :: _ :: rest), _⟩ =>
      { bus with dlAddr := fromBytes (rest.take 4) }
  | ⟨.rawRequest (0x36 :: _ :: data), _⟩ =>
      { mem := write bus.mem bus.dlAddr data
        dlAddr := bus.dlAddr + data.length }
  | _ => bus

def FlashBus.state (start : Nat → UInt8) (log : List UdsExchange) : FlashBus :=
  log.foldl FlashBus.request { mem := start, dlAddr := 0 }

/-- The answers of the bus, with blocks of `0x100` bytes. -/
def FlashBus.world (start : Nat → UInt8) : World udsInterface UdsError
  | log, .rawRequest (0x23 :: _ :: rest) =>
      .ok (0x63 :: region (state start log).mem (fromBytes (rest.take 4))
        (fromBytes ((rest.drop 4).take 4)))
  | _, .rawRequest (0x34 :: _) => .ok [0x74, 0x20, 0x01, 0x00]
  | _, .rawRequest (0x36 :: seq :: _) => .ok [0x76, seq]
  | _, .rawRequest _ => .ok [0x77]
  | _, .routineControl _ _ _ => .ok ()

def FlashBus.memory (start : Nat → UInt8) : FlashMemory (world start) where
  contents log := (state start log).mem
  place log := (state start log).dlAddr
  reads log addr n response below few answered := by
    cases answered
    change region _ (fromBytes (bytes4 addr)) (fromBytes (bytes4 n)) = _
    rw [fromBytes_bytes4 below, fromBytes_bytes4 few]
  kept log addr n outcome := by
    rw [state, List.foldl_concat]
    rfl
  downloads log addr size response below := by
    rw [state, List.foldl_concat]
    exact fromBytes_bytes4 below
  transfers log seq data response := by
    rw [state, List.foldl_concat]
    rfl
  follows log seq data response := by
    rw [state, List.foldl_concat]
    rfl
  exits log response := by
    rw [state, List.foldl_concat]
    rfl

/-- A backup that is written back leaves its region as it was read, whatever
the unit was asked in between and whatever erasing left. -/
theorem backup_restored {provider : UdsFlashProvider}
    {world : World udsInterface UdsError} (unit : FlashMemory world)
    {addr size : Nat} {backup : FlashBackup}
    {session middle other after : Session udsInterface UdsError Unit}
    (saved : provider.readBackup world addr size session = .ok backup middle)
    (restored : provider.restoreBackup world backup other = .ok ⟨⟩ after) :
    region (unit.contents after.log) addr size =
      region (unit.contents session.log) addr size := by
  obtain ⟨data, _, chunks, saved⟩ := Txn.bind_eq_ok.mp saved
  obtain ⟨rfl, -⟩ := Txn.pure_eq_ok.mp saved
  obtain ⟨memory, written⟩ := restoreBackup_writes unit restored
  have read := readChunks_region unit chunks
  rw [Nat.add_zero, Nat.sub_zero] at read
  have long : data.length = size := by rw [read, region_length]
  rw [written, ← read, ← long]
  exact region_write memory addr data

section Served

variable (provider : UdsFlashProvider) (world : World udsInterface UdsError)
  (elsewhere : (call : FlashCall) → UdsTxn call.Answer)

/-- The calls of a flash session that read and write the unit's memory; the
others are answered elsewhere, through the same client or not. -/
def UdsFlashProvider.serve : (call : FlashCall) → UdsTxn call.Answer
  | .readBackup addr size => provider.readBackup world addr size
  | .erase addr => UdsFlashProvider.erase world addr
  | .requestDownload addr size =>
      Int.ofNat <$> provider.requestDownload world addr size
  | .transferBlock seq data => transferBlock world seq data
  | .requestTransferExit => requestTransferExit world
  | .restoreBackup backup => provider.restoreBackup world backup
  | call => elsewhere call

/-- The client after the calls of a flash session. -/
def UdsFlashProvider.served (log : List FlashExchange) :
    Session udsInterface UdsError Unit :=
  log.foldl (fun session exchange =>
    (provider.serve world elsewhere exchange.call).final session) ⟨(), []⟩

/-- The provider and its unit as the environment of a flash session. -/
def UdsFlashProvider.flashWorld : World flashInterface FlashRaised :=
  fun log call =>
    match provider.serve world elsewhere call
      (provider.served world elsewhere log) with
    | .ok answer _ => .ok answer
    | .error error _ => .error error

variable {provider world elsewhere}

theorem served_concat (log : List FlashExchange) (exchange : FlashExchange) :
    provider.served world elsewhere (log ++ [exchange]) =
      (provider.serve world elsewhere exchange.call).final
        (provider.served world elsewhere log) := by
  exact List.foldl_concat ..

theorem flashWorld_eq_ok {log : List FlashExchange} {call : FlashCall}
    {answer : call.Answer}
    (answered : provider.flashWorld world elsewhere log call = .ok answer) :
    provider.serve world elsewhere call (provider.served world elsewhere log) =
      .ok answer (provider.served world elsewhere
        (log ++ [⟨call, .ok answer⟩])) := by
  rw [served_concat, Txn.final]
  unfold UdsFlashProvider.flashWorld at answered
  cases called : provider.serve world elsewhere call
      (provider.served world elsewhere log) with
  | ok value after =>
      rw [called] at answered
      cases answered
      rfl
  | error error after =>
      rw [called] at answered
      cases answered

/-- In a run over the provider whose steps meet the condition, a flash that
fails after its erase leaves the region as it was when the backup was read. -/
theorem failure_undone {guarded : Bool} {flash : World flashInterface FlashRaised}
    (served : flash = provider.flashWorld world elsewhere)
    (unit : FlashMemory world) (events : List FlashEvent) (event : FlashEvent)
    (meets : Txn.Throughout (handle flash guarded) (Meets flash guarded)
      (events ++ [event]) newSession)
    (fails : FailsAfterErase (runEvents flash guarded events)
      (runEvents flash guarded (events ++ [event]))) :
    ∃ job size image before after,
      (runEvents flash guarded events).machine.job = some job ∧
      (runEvents flash guarded events).log =
        before ++ ⟨.readBackup job.targetAddr size, .ok image⟩ :: after ∧
      region (unit.contents (provider.served world elsewhere
          (runEvents flash guarded (events ++ [event])).log).log)
          job.targetAddr size =
        region (unit.contents (provider.served world elsewhere before).log)
          job.targetAddr size := by
  subst served
  obtain ⟨early, met, -⟩ := Txn.throughout_append.mp meets
  have sound := sound_run events early
  have last := transcript_honest (provider.flashWorld world elsewhere) guarded
    (events ++ [event])
  rw [runEvents_append] at fails last ⊢
  obtain ⟨-, backedUp, job, image, outcome, restored, added, held, backup, log,
    -⟩ := flashFailed_of_failsAfterErase (handle_move event sound.holding) fails
  obtain ⟨other, read, sameJob, sameBackup, reads⟩ := sound.backed backedUp
  obtain rfl : other = job := Option.some.inj (sameJob.symm.trans held)
  obtain rfl : read = image := Option.some.inj (sameBackup.symm.trans backup)
  obtain ⟨before, after, split⟩ := List.append_of_mem reads
  refine ⟨other, _, read, before, after, held, split, ?_⟩
  have saved := (transcript_honest _ _ events).outcome_eq split
  rw [← List.cons_append, ← List.append_assoc] at log
  have written := last.outcome_eq log
  change (Txn.after (handle _ guarded) [event] _).log = _ at log
  rw [log]
  cases restored with
  | ok value =>
      exact backup_restored unit (flashWorld_eq_ok saved.symm)
        (flashWorld_eq_ok written.symm)
  | error error =>
      refine absurd ?_ ((met (handle_returns event _)).restores read error)
      change _ ∈ (Txn.after (handle _ guarded) [event] (runEvents ..)).log
      rw [log]
      exact List.mem_append_right _ List.mem_cons_self

end Served

end Flash

end Mousstec
