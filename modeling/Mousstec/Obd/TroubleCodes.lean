import Mousstec.Obd.Replies
import Mathlib.Data.Fin.Basic
import Mathlib.Data.List.Basic

/-!
# Trouble codes

What an adapter prints when it is asked for trouble codes, in each of the ways
in which a control unit frames its answer, and how the drivers read it.
-/

namespace Mousstec

namespace Obd

/-- A trouble code: two bytes that are not both zero. -/
structure TroubleCode where
  hi : Fin 256
  lo : Fin 256
  nonzero : ¬(hi = 0 ∧ lo = 0)
  deriving DecidableEq

def hexChar (digit : ℕ) : Char :=
  ['0', '1', '2', '3', '4', '5', '6', '7', '8', '9', 'A', 'B', 'C', 'D', 'E',
    'F'].getD digit '0'

def systemLetter (system : ℕ) : Char :=
  ['P', 'C', 'B', 'U'].getD system 'P'

/-- The standard text of a code: the system, a decimal digit and three
hexadecimal ones. -/
def TroubleCode.standardText (code : TroubleCode) : List Char :=
  [systemLetter (code.hi / 64), hexChar (code.hi / 16 % 4),
    hexChar (code.hi % 16), hexChar (code.lo / 16), hexChar (code.lo % 16)]

inductive Mode
  | stored
  | pending
  | permanent
  deriving DecidableEq

def Mode.cmd : Mode → List Char
  | stored => ['0', '3']
  | pending => ['0', '7']
  | permanent => ['0', 'A']

def Mode.answerByte : Mode → ℕ
  | stored => 0x43
  | pending => 0x47
  | permanent => 0x4A

def Mode.header : Mode → List Char
  | stored => ['4', '3']
  | pending => ['4', '7']
  | permanent => ['4', 'A']

def printByte (byte : ℕ) : List Char :=
  [hexChar (byte / 16), hexChar (byte % 16)]

def printBytes (spaces : Bool) (bytes : List ℕ) : List Char :=
  bytes.flatMap fun byte => printByte byte ++ if spaces then [' '] else []

def codeBytes (codes : List TroubleCode) : List ℕ :=
  codes.flatMap fun code => [code.hi.val, code.lo.val]

def padded (length filler : ℕ) (bytes : List ℕ) : List ℕ :=
  bytes ++ List.replicate (length - bytes.length) filler

/-- The lines of an answer that is not on a CAN bus: the answer byte and three
codes each, the last ones padded with zero codes. -/
def plainLines (answerByte : ℕ) : List TroubleCode → List (List ℕ)
  | first :: second :: third :: next :: codes =>
      (answerByte :: codeBytes [first, second, third]) ::
        plainLines answerByte (next :: codes)
  | codes => [answerByte :: padded 6 0 (codeBytes codes)]

def canBytes (answerByte : ℕ) (codes : List TroubleCode) : List ℕ :=
  answerByte :: codes.length :: codeBytes codes

def consecutive (filler : ℕ) : List ℕ → List (List ℕ)
  | [] => []
  | a :: b :: c :: d :: e :: f :: g :: bytes =>
      [a, b, c, d, e, f, g] :: consecutive filler bytes
  | bytes => [padded 7 filler bytes]

example (a b c d e f g filler : ℕ) :
    consecutive filler [a, b, c, d, e, f, g] = [[a, b, c, d, e, f, g]] := by
  simp [consecutive]

def printNumbered (spaces : Bool) (number : ℕ) (bytes : List ℕ) : List Char :=
  hexChar (number % 16) :: ':' :: (if spaces then [' '] else []) ++
    printBytes spaces bytes ++ ['\r']

def printConsecutive (spaces : Bool) (number : ℕ) :
    List (List ℕ) → List Char
  | [] => []
  | bytes :: lines =>
      printNumbered spaces number bytes ++
        printConsecutive spaces (number + 1) lines

/-- How a control unit frames its answer. -/
inductive Framing
  | plain
  | single
  | multi (filler : Fin 256)
  deriving DecidableEq

/-- An answer with some codes can be framed so: a single frame has room for two,
and the count is a byte. -/
def Framing.Fits (framing : Framing) (codes : List TroubleCode) : Prop :=
  match framing with
  | plain => True
  | single => codes.length ≤ 2
  | multi _ => 3 ≤ codes.length ∧ codes.length < 256

def Framing.print (framing : Framing) (mode : Mode) (spaces : Bool)
    (codes : List TroubleCode) : List Char :=
  match framing with
  | plain =>
      (plainLines mode.answerByte codes).flatMap fun bytes =>
        printBytes spaces bytes ++ ['\r']
  | single => printBytes spaces (canBytes mode.answerByte codes) ++ ['\r']
  | multi filler =>
      let bytes := canBytes mode.answerByte codes
      [hexChar (bytes.length / 256), hexChar (bytes.length / 16 % 16),
          hexChar (bytes.length % 16), '\r'] ++
        printNumbered spaces 0 (bytes.take 6) ++
        printConsecutive spaces 1 (consecutive filler (bytes.drop 6))

def Framing.answer (framing : Framing) (mode : Mode) (spaces echo : Bool)
    (codes : List TroubleCode) : List Char :=
  (if echo then mode.cmd ++ ['\r'] else []) ++
    framing.print mode spaces codes ++ ['\r']

def hexValue (character : Char) : Option ℕ :=
  if '0' ≤ character ∧ character ≤ '9' then
    some (character.toNat - '0'.toNat)
  else if 'A' ≤ character ∧ character ≤ 'F' then
    some (character.toNat - 'A'.toNat + 10)
  else if 'a' ≤ character ∧ character ≤ 'f' then
    some (character.toNat - 'a'.toNat + 10)
  else none

def readDigits (value : ℕ) : List Char → ℕ
  | [] => value
  | character :: text =>
      match hexValue character with
      | none => value
      | some digit => readDigits (16 * value + digit) text

def readNumber : List Char → Option ℕ
  | [] => none
  | character :: text =>
      (hexValue character).map fun digit => readDigits digit text

/-- `parseInt` to base 16, of a text without a sign. -/
def parseInt16 : List Char → Option ℕ
  | '0' :: 'X' :: text => readNumber text
  | text => readNumber text

/-- `_decodeDTCNibbles`. -/
def decodeDTCNibbles (hi lo : ℕ) : List Char :=
  [systemLetter ((hi >>> 6) &&& 3), hexChar ((hi >>> 4) &&& 3),
    hexChar (hi &&& 15), hexChar ((lo >>> 4) &&& 15), hexChar (lo &&& 15)]

/-- The loop of `_parseDTCResponseWithHeader`.  A number that is not one counts
as zero in `_decodeDTCNibbles`, but is not equal to it. -/
def readCodes : List Char → List (List Char)
  | a :: b :: c :: d :: cursor =>
      let hi := parseInt16 [a, b]
      let lo := parseInt16 [c, d]
      if hi = some 0 ∧ lo = some 0 then readCodes cursor
      else decodeDTCNibbles (hi.getD 0) (lo.getD 0) :: readCodes cursor
  | _ => []

def compact (text : List Char) : List Char :=
  toUpperCase (text.filter fun character => !isSpace character)

def sliceAfter (header : List Char) : List Char → Option (List Char)
  | [] => none
  | character :: text =>
      if header.isPrefixOf (character :: text) then some (text.drop 1)
      else sliceAfter header text

def includes (part : List Char) (text : List Char) : Bool :=
  text.tails.any part.isPrefixOf

/-- `_parseDTCResponseWithHeader`. -/
def parseDTCResponseWithHeader (raw header : List Char) : List (List Char) :=
  if raw = [] ∨ includes "NO DATA".toList raw then []
  else
    match sliceAfter header (compact raw) with
    | none => []
    | some cursor =>
        readCodes (if cursor.length % 4 ≠ 0 then cursor.drop 2 else cursor)

/-- The codes that `readDTCs` gets from a reply that arrives in pieces. -/
def Driver.readDTCs (driver : Driver) (mode : Mode)
    (pieces : List (List Char)) : Option (List (List Char)) :=
  (driver.heard [] pieces).map fun payload =>
    parseDTCResponseWithHeader (stripEcho mode.cmd payload) mode.header

end Obd

end Mousstec
