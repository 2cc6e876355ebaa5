import Mathlib.Data.List.GetD
import Mousstec.Library.Bytes

/-!
# The K-Line transport

A KWP2000 frame is a format byte, a target and a source address, the data and
a checksum.  The length of the data is in the low six bits of the format byte;
when these are zero, it is in a byte of its own after the source address.  The
encoder writes every payload into a frame, also those that no length field can
describe.
-/

namespace Mousstec

open Library Library.Bytes

inductive KLineError
  /-- `ConnectionError_`: the port was never opened. -/
  | notOpen
  /-- `TransportTimeout`, with what the reader was waiting for. -/
  | timeout (waiting : String)
  /-- `ValueError`s of the decoder. -/
  | tooShort (frame : List UInt8)
  | notPhysical (fmt : UInt8)
  | truncated (have_ need : Nat)
  | mismatch (got want : UInt8)
  deriving DecidableEq, Repr

namespace KLineError

def message : KLineError → String
  | notOpen => "K-Line not open"
  | timeout waiting => "K-Line: " ++ waiting
  | tooShort frame => "KWP frame too short: " ++ hex frame
  | notPhysical fmt =>
      "Not a KWP physical frame (fmt=0x" ++ hex [fmt] ++ ")"
  | truncated have_ need =>
      "KWP frame truncated: have " ++ toString have_ ++ " need " ++
        toString need
  | mismatch got want =>
      "KWP checksum mismatch: got 0x" ++ hex [got] ++ " want 0x" ++ hex [want]

end KLineError

def byteAt (frame : List UInt8) (index : Nat) : UInt8 :=
  frame.getD index 0

@[simp] theorem byteAt_zero (first : UInt8) (rest : List UInt8) :
    byteAt (first :: rest) 0 = first := rfl

/-- `sum(frame) & 0xFF`. -/
def kwpChecksum (frame : List UInt8) : UInt8 :=
  UInt8.ofNat (frame.map UInt8.toNat).sum

/-- The header of a frame with `n` bytes of data. -/
def kwpHeader (target source : Int) (n : Nat) : List UInt8 :=
  if n ≤ 0x3F then
    [UInt8.ofNat (0x80 ||| n), UInt8.ofInt target, UInt8.ofInt source]
  else
    [0x80, UInt8.ofInt target, UInt8.ofInt source, UInt8.ofNat n]

/-- `encode_kwp`. -/
def encodeKwp (target source : Int) (data : List UInt8) : List UInt8 :=
  let frame := kwpHeader target source data.length ++ data
  frame ++ [kwpChecksum frame]

def declaredLength (frame : List UInt8) : Nat × Nat :=
  let n := (byteAt frame 0 &&& 0x3F).toNat
  if n = 0 then ((byteAt frame 3).toNat, 4) else (n, 3)

def expectedLength (frame : List UInt8) : Nat :=
  (declaredLength frame).2 + (declaredLength frame).1 + 1

/-- `decode_kwp`. -/
def decodeKwp (frame : List UInt8) : Except KLineError (List UInt8) :=
  if frame.length < 4 then .error (.tooShort frame)
  else
    let fmt := byteAt frame 0
    if fmt &&& 0xC0 ≠ 0x80 then .error (.notPhysical fmt)
    else
      let (n, dataStart) := declaredLength frame
      let expectedLen := dataStart + n + 1
      if frame.length < expectedLen then
        .error (.truncated frame.length expectedLen)
      else
        let body := frame.take (expectedLen - 1)
        let checksum := byteAt frame (expectedLen - 1)
        if kwpChecksum body ≠ checksum then
          .error (.mismatch checksum (kwpChecksum body))
        else .ok ((frame.drop dataStart).take n)

def readHeader (fmt : UInt8) :
    Txn KLineError (List UInt8) (List UInt8 × Nat) := do
  let n := (fmt &&& 0x3F).toNat
  if n = 0 then
    let hdrRest ← read 3
    Txn.require (¬ hdrRest.length < 3) (.timeout "truncated header")
    return (hdrRest, (byteAt hdrRest 2).toNat)
  else
    let hdrRest ← read 2
    Txn.require (¬ hdrRest.length < 2) (.timeout "truncated header")
    return (hdrRest, n)

/-- `KLineTransport._read_frame`. -/
def readFrame : Txn KLineError (List UInt8) (List UInt8) := do
  let head ← read 1
  Txn.require (head ≠ []) (.timeout "no response (header timeout)")
  let (hdrRest, n) ← readHeader (byteAt head 0)
  let body ← read (n + 1)
  Txn.require (¬ body.length < n + 1) (.timeout "truncated body")
  return head ++ hdrRest ++ body

/-- `TransportConfig`, the addresses of the line. -/
structure KLineConfig where
  targetAddr : Option Int
  sourceAddr : Option Int

/-- `_TESTER_DEFAULT_SRC`. -/
def testerDefaultSrc : Int := 0xF1

namespace KLineConfig

/-- Python's `or` on an optional number. -/
def orElse (pinned : Option Int) (fallback : Int) : Int :=
  match pinned with
  | some address => if address = 0 then fallback else address
  | none => fallback

/-- `_source`. -/
def source (config : KLineConfig) : Int :=
  orElse config.sourceAddr testerDefaultSrc

def target (config : KLineConfig) (targetAddr : Int) : Int :=
  orElse config.targetAddr (targetAddr % 256)

end KLineConfig

/-- The serial line: whether the port is open, the bytes received and not yet
read, and the frames written. -/
structure SerialLine where
  opened : Bool
  input : List UInt8
  written : List (List UInt8)
  deriving DecidableEq, Repr

namespace SerialLine

def receiving : Component SerialLine (List UInt8) :=
  { get := input
    set := fun input line => { line with input }
    get_set := fun _ _ => rfl
    set_get := fun _ => rfl }

/-- `KLineTransport.send`.  While the frame goes out, `arriving` comes in: the
echo of the half-duplex line and whatever the ECU answers. -/
def send (config : KLineConfig) (targetAddr : Int) (payload : List UInt8)
    (arriving : List UInt8) : Txn KLineError SerialLine PUnit := do
  let line ← get
  Txn.require (line.opened = true) .notOpen
  let frame := encodeKwp (config.target targetAddr) config.source payload
  set ({ line with
         input := arriving.drop frame.length
         written := line.written ++ [frame] } : SerialLine)

/-- `KLineTransport.recv`. -/
def recv : Txn KLineError SerialLine (List UInt8) := do
  let line ← get
  Txn.require (line.opened = true) .notOpen
  let frame ← Txn.zoom receiving id readFrame
  match decodeKwp frame with
  | .ok data => return data
  | .error error => throw error

end SerialLine

theorem shortFormat_length :
    ∀ n < 64, (UInt8.ofNat (0x80 ||| n) &&& 0x3F).toNat = n := by
  decide +kernel

theorem shortFormat_physical :
    ∀ n < 64, UInt8.ofNat (0x80 ||| n) &&& 0xC0 = 0x80 := by
  decide +kernel

theorem declaredLength_escaped {frame : List UInt8}
    (escaped : (byteAt frame 0 &&& 0x3F).toNat = 0) :
    declaredLength frame = ((byteAt frame 3).toNat, 4) :=
  if_pos escaped

theorem declaredLength_stated {frame : List UInt8}
    (stated : (byteAt frame 0 &&& 0x3F).toNat ≠ 0) :
    declaredLength frame = ((byteAt frame 0 &&& 0x3F).toNat, 3) :=
  if_neg stated

theorem declared_le (frame : List UInt8) : (declaredLength frame).1 ≤ 255 := by
  have bound (byte : UInt8) : byte.toNat ≤ 255 :=
    Nat.le_of_lt_succ byte.toNat_lt
  by_cases escaped : (byteAt frame 0 &&& 0x3F).toNat = 0
  · rw [declaredLength_escaped escaped]
    exact bound _
  · rw [declaredLength_stated escaped]
    exact bound _

theorem dataStart_le (frame : List UInt8) : (declaredLength frame).2 ≤ 4 := by
  by_cases escaped : (byteAt frame 0 &&& 0x3F).toNat = 0
  · rw [declaredLength_escaped escaped]
  · rw [declaredLength_stated escaped]
    exact show 3 ≤ 4 by decide

theorem three_le_dataStart (frame : List UInt8) :
    3 ≤ (declaredLength frame).2 := by
  by_cases escaped : (byteAt frame 0 &&& 0x3F).toNat = 0
  · rw [declaredLength_escaped escaped]
    exact show 3 ≤ 4 by decide
  · rw [declaredLength_stated escaped]

/-- A header declares the length it was built for when some length field can
hold it. -/
theorem declaredLength_header (target source : Int) {n : Nat}
    (positive : 1 ≤ n) (small : n ≤ 255) (rest : List UInt8) :
    declaredLength (kwpHeader target source n ++ rest) =
      (n, (kwpHeader target source n).length) := by
  unfold kwpHeader
  split
  · rename_i short
    have length := shortFormat_length n (by omega)
    have nonzero : n ≠ 0 := by omega
    rw [List.cons_append, declaredLength_stated, byteAt_zero, length]
    · rfl
    · rw [byteAt_zero, length]
      exact nonzero
  · have length : (UInt8.ofNat n).toNat = n := by
      rw [UInt8.toNat_ofNat']
      omega
    rw [List.cons_append, declaredLength_escaped]
    · simp [byteAt, length]
    · exact show ((0x80 : UInt8) &&& 0x3F).toNat = 0 by decide

theorem header_physical (target source : Int) (n : Nat) (rest : List UInt8) :
    byteAt (kwpHeader target source n ++ rest) 0 &&& 0xC0 = 0x80 := by
  unfold kwpHeader
  split
  · rename_i short
    exact shortFormat_physical n (by omega)
  · exact show (0x80 : UInt8) &&& 0xC0 = 0x80 by decide

theorem header_length (target source : Int) (n : Nat) :
    3 ≤ (kwpHeader target source n).length := by
  unfold kwpHeader
  split <;> simp

theorem decodeKwp_eq_ok {frame data : List UInt8} :
    decodeKwp frame = .ok data ↔
      4 ≤ frame.length ∧ byteAt frame 0 &&& 0xC0 = 0x80 ∧
        expectedLength frame ≤ frame.length ∧
        kwpChecksum (frame.take (expectedLength frame - 1)) =
          byteAt frame (expectedLength frame - 1) ∧
        (frame.drop (declaredLength frame).2).take (declaredLength frame).1 =
          data := by
  unfold decodeKwp
  change (if frame.length < 4 then _ else
    if byteAt frame 0 &&& 0xC0 ≠ 0x80 then _ else
    if frame.length < expectedLength frame then _ else
    if kwpChecksum (frame.take (expectedLength frame - 1)) ≠
      byteAt frame (expectedLength frame - 1) then _ else
    Except.ok ((frame.drop (declaredLength frame).2).take
      (declaredLength frame).1)) = _ ↔ _
  split
  · rename_i short
    simp [Nat.not_le.mpr short]
  rename_i long
  split
  · rename_i other
    simp [other]
  rename_i physical
  split
  · rename_i cut
    simp [Nat.not_le.mpr cut]
  rename_i whole
  split
  · rename_i wrong
    simp [wrong]
  rename_i right
  rw [not_not] at physical right
  simp only [Nat.not_lt] at long whole
  simp [long, physical, whole, right]

theorem length_of_decodeKwp {frame data : List UInt8}
    (accepted : decodeKwp frame = .ok data) :
    data.length = (declaredLength frame).1 := by
  obtain ⟨-, -, whole, -, rfl⟩ := decodeKwp_eq_ok.mp accepted
  rw [expectedLength] at whole
  rw [List.length_take, List.length_drop]
  omega

/-- A frame whose header declares its data and whose last byte is the checksum
decodes to the data. -/
theorem decodeKwp_framed {header data : List UInt8}
    (declared : ∀ rest, declaredLength (header ++ rest) =
      (data.length, header.length))
    (physical : ∀ rest, byteAt (header ++ rest) 0 &&& 0xC0 = 0x80)
    (long : 3 ≤ header.length) :
    decodeKwp (header ++ data ++ [kwpChecksum (header ++ data)]) = .ok data := by
  have known : declaredLength (header ++ data ++ [kwpChecksum (header ++ data)]) =
      (data.length, header.length) := by
    rw [List.append_assoc]
    exact declared _
  have expected : expectedLength
      (header ++ data ++ [kwpChecksum (header ++ data)]) =
        (header ++ data).length + 1 := by
    rw [expectedLength, known, List.length_append]
  rw [decodeKwp_eq_ok, expected, known, Nat.add_sub_cancel, List.take_left]
  refine ⟨?_, ?_, ?_, ?_, ?_⟩
  · rw [List.length_append, List.length_append, List.length_singleton]
    omega
  · rw [List.append_assoc]
    exact physical _
  · simp only [List.length_append, List.length_singleton]
    omega
  · rw [byteAt, List.getD_append_right _ _ _ _ (Nat.le_refl _), Nat.sub_self]
    rfl
  · rw [List.append_assoc, List.drop_left, List.take_left]

private theorem exists_cons_three {bytes : List UInt8}
    (long : 3 ≤ bytes.length) :
    ∃ first second third rest,
      bytes = first :: second :: third :: rest := by
  match bytes, long with
  | first :: second :: third :: rest, _ => exact ⟨_, _, _, _, rfl⟩
  | [_, _], short => simp at short
  | [_], short => simp at short
  | [], short => simp at short

theorem readHeader_eq_ok {fmt : UInt8} {stream hdrRest rest : List UInt8}
    {n : Nat} (returned : readHeader fmt stream = .ok (hdrRest, n) rest) :
    stream = hdrRest ++ rest ∧
      ∀ tail, declaredLength (fmt :: (hdrRest ++ tail)) =
        (n, hdrRest.length + 1) := by
  unfold readHeader at returned
  split at returned
  · rename_i escaped
    simp only [Txn.bind_eq_ok, read_eq_ok, Txn.require_eq_ok, Txn.pure_eq_ok]
      at returned
    obtain ⟨taken, left, ⟨rfl, rfl⟩, ⟨⟩, _, ⟨long, rfl⟩, ⟨⟩, rfl⟩ := returned
    refine ⟨(List.take_append_drop 3 stream).symm, fun tail => ?_⟩
    rw [List.length_take] at long
    obtain ⟨target, source, length, after, rfl⟩ :=
      exists_cons_three (show 3 ≤ stream.length by omega)
    exact declaredLength_escaped escaped
  · rename_i stated
    simp only [Txn.bind_eq_ok, read_eq_ok, Txn.require_eq_ok, Txn.pure_eq_ok]
      at returned
    obtain ⟨taken, left, ⟨rfl, rfl⟩, ⟨⟩, _, ⟨long, rfl⟩, ⟨⟩, rfl⟩ := returned
    refine ⟨(List.take_append_drop 2 stream).symm, fun tail => ?_⟩
    rw [List.length_take] at long ⊢
    have length : min 2 stream.length = 2 := by omega
    rw [length]
    exact declaredLength_stated stated

theorem readFrame_eq_ok {stream frame rest : List UInt8}
    (returned : readFrame stream = .ok frame rest) :
    stream = frame ++ rest ∧ frame.length = expectedLength frame := by
  simp only [readFrame, Txn.bind_eq_ok, read_eq_ok, Txn.require_eq_ok,
    Txn.pure_eq_ok, Prod.exists] at returned
  obtain ⟨_, _, ⟨rfl, rfl⟩, ⟨⟩, _, ⟨present, rfl⟩, hdrRest, n, after, header,
    _, _, ⟨rfl, rfl⟩, ⟨⟩, _, ⟨long, rfl⟩, rfl, rfl⟩ := returned
  obtain ⟨fmt, tail, rfl⟩ : ∃ fmt tail, stream = fmt :: tail := by
    cases stream with
    | nil => exact absurd rfl present
    | cons fmt tail => exact ⟨fmt, tail, rfl⟩
  change readHeader fmt tail = _ at header
  obtain ⟨split, declared⟩ := readHeader_eq_ok header
  subst split
  have body : (after.take (n + 1)).length = n + 1 := by
    rw [List.length_take] at long ⊢
    omega
  constructor
  · simp
  · have whole : List.take 1 (fmt :: (hdrRest ++ after)) ++ hdrRest ++
        after.take (n + 1) = fmt :: (hdrRest ++ after.take (n + 1)) := by
      simp
    rw [whole, expectedLength, declared, List.length_cons, List.length_append,
      body]
    omega

theorem readHeader_append {fmt : UInt8} {hdrRest : List UInt8} {n : Nat}
    (declared : ∀ tail, declaredLength (fmt :: (hdrRest ++ tail)) =
      (n, hdrRest.length + 1)) (rest : List UInt8) :
    readHeader fmt (hdrRest ++ rest) = .ok (hdrRest, n) rest := by
  have known := declared []
  rw [List.append_nil] at known
  unfold readHeader
  split
  · rename_i escaped
    have read := known.symm.trans (declaredLength_escaped escaped)
    rw [Prod.mk.injEq] at read
    have length : hdrRest.length = 3 := by omega
    simp only [Txn.bind_eq_ok, Txn.require_eq_ok, Txn.pure_eq_ok]
    refine ⟨hdrRest, rest, read_append rest length, ⟨⟩, rest, ⟨?_, rfl⟩, ?_, rfl⟩
    · rw [length]
      decide
    · rw [read.1]
      rfl
  · rename_i stated
    have read := known.symm.trans (declaredLength_stated stated)
    rw [Prod.mk.injEq] at read
    have length : hdrRest.length = 2 := by omega
    simp only [Txn.bind_eq_ok, Txn.require_eq_ok, Txn.pure_eq_ok]
    refine ⟨hdrRest, rest, read_append rest length, ⟨⟩, rest, ⟨?_, rfl⟩, ?_, rfl⟩
    · rw [length]
      decide
    · rw [read.1]
      rfl

theorem readFrame_append {fmt : UInt8} {hdrRest body : List UInt8} {n : Nat}
    (declared : ∀ tail, declaredLength (fmt :: (hdrRest ++ tail)) =
      (n, hdrRest.length + 1)) (length : body.length = n + 1) :
    Consumes readFrame (fmt :: (hdrRest ++ body)) := by
  intro rest
  simp only [readFrame, Txn.bind_eq_ok, read_eq_ok, Txn.require_eq_ok,
    Txn.pure_eq_ok, Prod.exists]
  refine ⟨[fmt], _, ⟨rfl, rfl⟩, ⟨⟩, _, ⟨List.cons_ne_nil _ _, rfl⟩, hdrRest, n,
    body ++ rest, ?_, body, rest, ?_, ⟨⟩, rest, ⟨?_, rfl⟩, rfl, rfl⟩
  · rw [List.cons_append, List.drop_succ_cons, List.drop_zero,
      List.append_assoc]
    exact readHeader_append declared _
  · rw [← length, List.take_left, List.drop_left]
    exact ⟨rfl, rfl⟩
  · rw [length]
    exact Nat.lt_irrefl _

/-- The reader consumes exactly the frames that are whole by their own
header. -/
theorem consumes_readFrame {frame : List UInt8} :
    Consumes readFrame frame ↔ frame.length = expectedLength frame := by
  constructor
  · intro consumes
    exact (readFrame_eq_ok (consumes [])).2
  intro whole
  rw [expectedLength] at whole
  have long : 3 ≤ frame.length := by
    have start := three_le_dataStart frame
    omega
  obtain ⟨fmt, target, source, after, rfl⟩ := exists_cons_three long
  by_cases escaped : (fmt &&& 0x3F).toNat = 0
  · have declared (tail : List UInt8) :
        declaredLength (fmt :: target :: source :: tail) =
          ((byteAt tail 0).toNat, 4) :=
      declaredLength_escaped escaped
    rw [declared] at whole
    cases after with
    | nil =>
        simp only [List.length_cons, List.length_nil] at whole
        omega
    | cons length body =>
        have header (tail : List UInt8) :
            declaredLength (fmt :: ([target, source, length] ++ tail)) =
              (length.toNat, [target, source, length].length + 1) :=
          declared (length :: tail)
        simp only [List.length_cons, byteAt_zero] at whole
        exact readFrame_append header (by omega)
  · have declared (tail : List UInt8) :
        declaredLength (fmt :: ([target, source] ++ tail)) =
          ((fmt &&& 0x3F).toNat, [target, source].length + 1) :=
      declaredLength_stated escaped
    have length := declared after
    rw [List.cons_append, List.cons_append, List.nil_append] at length
    rw [length] at whole
    simp only [List.length_cons, List.length_nil] at whole
    exact readFrame_append declared (by omega)

theorem encodeKwp_length (target source : Int) (data : List UInt8) :
    (encodeKwp target source data).length =
      (kwpHeader target source data.length).length + data.length + 1 := by
  rw [encodeKwp, List.length_append, List.length_append, List.length_singleton]

theorem declaredLength_encodeKwp {target source : Int} {data : List UInt8}
    (positive : 1 ≤ data.length) (small : data.length ≤ 255) :
    declaredLength (encodeKwp target source data) =
      (data.length, (kwpHeader target source data.length).length) := by
  rw [encodeKwp, List.append_assoc]
  exact declaredLength_header target source positive small _

/-- An empty payload leaves the length field empty, and the reader takes the
checksum for the length. -/
theorem expectedLength_encodeKwp_nil (target source : Int) :
    (encodeKwp target source []).length <
      expectedLength (encodeKwp target source []) := by
  have declared : declaredLength (encodeKwp target source []) =
      ((byteAt (encodeKwp target source []) 3).toNat, 4) := by
    apply declaredLength_escaped
    exact show ((0x80 : UInt8) &&& 0x3F).toNat = 0 by decide
  have length : (encodeKwp target source []).length = 4 := rfl
  rw [length, expectedLength, declared]
  simp only
  omega

/-- The encoder's frame is whole by its own header when a length field can
hold the length of its data. -/
theorem encodeKwp_whole {target source : Int} {data : List UInt8} :
    (encodeKwp target source data).length =
      expectedLength (encodeKwp target source data) ↔
        1 ≤ data.length ∧ data.length ≤ 255 := by
  constructor
  · intro whole
    by_contra outside
    have start : data.length = 0 ∨ 256 ≤ data.length := by omega
    rcases start with empty | large
    · rw [List.length_eq_zero_iff] at empty
      subst empty
      exact absurd whole
        (Nat.ne_of_lt (expectedLength_encodeKwp_nil target source))
    · have declared := declared_le (encodeKwp target source data)
      have header : (kwpHeader target source data.length).length = 4 := by
        rw [kwpHeader, if_neg (by omega)]
        rfl
      have start : (declaredLength (encodeKwp target source data)).2 ≤ 4 :=
        dataStart_le _
      rw [encodeKwp_length, expectedLength, header] at whole
      omega
  · rintro ⟨positive, small⟩
    rw [expectedLength, declaredLength_encodeKwp positive small,
      encodeKwp_length]

theorem decodeKwp_encodeKwp {target source : Int} {data : List UInt8}
    (positive : 1 ≤ data.length) (small : data.length ≤ 255) :
    decodeKwp (encodeKwp target source data) = .ok data :=
  decodeKwp_framed (declaredLength_header target source positive small)
    (header_physical target source data.length) (header_length _ _ _)

theorem length_of_decodeKwp_encodeKwp {target source : Int} {data : List UInt8}
    (accepted : decodeKwp (encodeKwp target source data) = .ok data) :
    1 ≤ data.length ∧ data.length ≤ 255 := by
  constructor
  · by_contra empty
    have nil : data = [] := List.length_eq_zero_iff.mp (by omega)
    subst nil
    have whole := (decodeKwp_eq_ok.mp accepted).2.2.1
    exact absurd whole
      (Nat.not_le.mpr (expectedLength_encodeKwp_nil target source))
  · rw [length_of_decodeKwp accepted]
    exact declared_le _

/-- The header fields a decoder reads its length from are both zero. -/
def ZeroLength (frame : List UInt8) : Prop :=
  byteAt frame 0 &&& 0x3F = 0 ∧ byteAt frame 3 = 0

instance (frame : List UInt8) : Decidable (ZeroLength frame) :=
  inferInstanceAs (Decidable (_ ∧ _))

theorem declaredLength_eq_zero {frame : List UInt8} :
    (declaredLength frame).1 = 0 ↔ ZeroLength frame := by
  have zero {byte : UInt8} : byte.toNat = 0 ↔ byte = 0 := by
    rw [← UInt8.toNat_inj]
    rfl
  rw [ZeroLength, ← zero, ← zero]
  by_cases escaped : (byteAt frame 0 &&& 0x3F).toNat = 0
  · rw [declaredLength_escaped escaped]
    exact ⟨fun length => ⟨escaped, length⟩, And.right⟩
  · rw [declaredLength_stated escaped]
    exact ⟨fun length => absurd length escaped,
      fun length => absurd length.1 escaped⟩

def reencoded (frame data : List UInt8) : Except KLineError (List UInt8) :=
  decodeKwp (encodeKwp (byteAt frame 1).toNat (byteAt frame 2).toNat data)

/-- The framing round trip holds for the payloads of 1 to 255 bytes: these
decode to themselves, and the stream reader consumes exactly their frames.  A
whole frame the decoder accepts re-encodes unless its length fields are
zero. -/
theorem kwp_roundTrip_iff (target source : Int) (data frame decoded : List UInt8) :
    ((decodeKwp (encodeKwp target source data) = .ok data ∧
        Consumes readFrame (encodeKwp target source data)) ↔
      1 ≤ data.length ∧ data.length ≤ 255) ∧
    (decodeKwp frame = .ok decoded → frame.length = expectedLength frame →
      (reencoded frame decoded = .ok decoded ↔ ¬ ZeroLength frame)) := by
  constructor
  · rw [consumes_readFrame, encodeKwp_whole]
    constructor
    · exact And.right
    · intro bounded
      exact ⟨decodeKwp_encodeKwp bounded.1 bounded.2, bounded⟩
  · intro accepted whole
    have length := length_of_decodeKwp accepted
    have small := declared_le frame
    rw [← declaredLength_eq_zero, ← length]
    constructor
    · intro roundTrip
      exact Nat.ne_of_gt (length_of_decodeKwp_encodeKwp roundTrip).1
    · intro positive
      exact decodeKwp_encodeKwp (Nat.pos_of_ne_zero positive) (by omega)

/-- An empty payload does not decode, and a payload of 256 bytes that starts
with its own header's checksum decodes to nothing. -/
theorem kwp_roundTrip_fails :
    decodeKwp (encodeKwp 0x12 0xF1 []) = .error (.truncated 4 136) ∧
    decodeKwp (encodeKwp 0x12 0xF1 (0x83 :: List.replicate 255 0)) = .ok [] ∧
    ¬ ∀ target source data,
      decodeKwp (encodeKwp target source data) = .ok data := by
  have empty : decodeKwp (encodeKwp 0x12 0xF1 []) =
      .error (.truncated 4 136) := by
    decide +kernel
  refine ⟨empty, by decide +kernel, fun roundTrip => ?_⟩
  rw [roundTrip 0x12 0xF1 []] at empty
  cases empty

theorem kwp_roundTrip_shortFrame :
    decodeKwp [0x83, 0x12, 0xF1, 0x22, 0xF1, 0x90, 0x29] =
        .ok [0x22, 0xF1, 0x90] ∧
      reencoded [0x83, 0x12, 0xF1, 0x22, 0xF1, 0x90, 0x29]
        [0x22, 0xF1, 0x90] = .ok [0x22, 0xF1, 0x90] := by
  have accepted : decodeKwp [0x83, 0x12, 0xF1, 0x22, 0xF1, 0x90, 0x29] =
      .ok [0x22, 0xF1, 0x90] := by
    decide +kernel
  refine ⟨accepted,
    ((kwp_roundTrip_iff 0x12 0xF1 [] _ _).2 accepted ?_).mpr ?_⟩
  · decide
  · decide

namespace SerialLine

/-- On a half-duplex line that echoes the request before the answer of the
ECU, a request is written as one frame and the answer's data come back. -/
theorem exchange (config : KLineConfig) (targetAddr : Int)
    (payload answer after : List UInt8) (ecu tester : Int) (line : SerialLine)
    (opened : line.opened = true) (positive : 1 ≤ answer.length)
    (small : answer.length ≤ 255) :
    (do
      send config targetAddr payload
        (encodeKwp (config.target targetAddr) config.source payload ++
          (encodeKwp tester ecu answer ++ after))
      recv : Txn KLineError SerialLine (List UInt8)) line =
      .ok answer
        { line with
          input := after
          written := line.written ++
            [encodeKwp (config.target targetAddr) config.source payload] } := by
  have whole : (encodeKwp tester ecu answer).length =
      expectedLength (encodeKwp tester ecu answer) :=
    encodeKwp_whole.mpr ⟨positive, small⟩
  simp only [send, recv, Txn.bind_eq_ok, Txn.get_bind, Txn.require_eq_ok,
    Txn.set_eq_ok]
  refine ⟨⟨⟩, _, ⟨⟨⟩, line, ⟨opened, rfl⟩, rfl⟩, ⟨⟩, _, ⟨opened, rfl⟩,
    encodeKwp tester ecu answer,
    { line with
      input := after
      written := line.written ++
        [encodeKwp (config.target targetAddr) config.source payload] },
    ?_, ?_⟩
  · rw [Txn.zoom_eq_ok]
    refine ⟨after, ?_, rfl⟩
    change readFrame (List.drop _ (_ ++ _)) = _
    rw [List.drop_left]
    exact consumes_readFrame.mpr whole after
  · rw [decodeKwp_encodeKwp positive small]
    rfl

end SerialLine

end Mousstec
