import Mousstec.Obd.PrintedReplies

/-!
# Replies with a VIN

What an adapter prints when it is asked for the VIN, and how the drivers read
it: line numbers and frame headers are deleted from the text, and what is left is
read as pairs of digits.
-/

namespace Mousstec

namespace Obd

def vinLetters : List Char := "0123456789ABCDEFGHJKLMNPRSTUVWXYZ".toList

structure Vin where
  chars : List Char
  length : chars.length = 17
  letters : ∀ character ∈ chars, character ∈ vinLetters
  deriving DecidableEq

def Vin.bytes (vin : Vin) : List ℕ :=
  vin.chars.map Char.toNat

/-- The lines of an answer that is not on a CAN bus: mode, PID, the number of the
line and four bytes. -/
def vinLines (number : ℕ) : List ℕ → List (List ℕ)
  | a :: b :: c :: d :: bytes =>
      [0x49, 0x02, number, a, b, c, d] :: vinLines (number + 1) bytes
  | _ => []

def Vin.frames (vin : Vin) : List (List ℕ) :=
  [[0x49, 0x02, 0x01] ++ vin.bytes.take 3, (vin.bytes.drop 3).take 7,
    vin.bytes.drop 10]

/-- How a control unit frames its answer; padding may fill further frames. -/
inductive VinFraming
  | plain
  | can (padding : List (List (Fin 256)))
  deriving DecidableEq

def VinFraming.print (framing : VinFraming) (spaces : Bool) (vin : Vin) :
    List Char :=
  match framing with
  | plain =>
      (vinLines 1 ([0, 0, 0] ++ vin.bytes)).flatMap fun bytes =>
        printBytes spaces bytes ++ ['\r']
  | can padding =>
      ['0', '1', '4', '\r'] ++ printConsecutive spaces 0
        (vin.frames ++ padding.map fun line => line.map Fin.val)

def vinCmd : List Char := ['0', '9', '0', '2']

def VinFraming.answer (framing : VinFraming) (spaces echo : Bool) (vin : Vin) :
    List Char :=
  (if echo then vinCmd ++ ['\r'] else []) ++ framing.print spaces vin ++ ['\r']

/-- The matches of a pattern are deleted from left to right; the pattern tells
how long its match at the beginning of a text is. -/
def deleteAll (pattern : List Char → Option ℕ) : ℕ → List Char → List Char
  | _, [] => []
  | skip + 1, _ :: text => deleteAll pattern skip text
  | 0, character :: text =>
      match pattern (character :: text) with
      | none => character :: deleteAll pattern 0 text
      | some length => deleteAll pattern (length - 1) text

/-- `\d+\s*:`. -/
def lineNumber (text : List Char) : Option ℕ :=
  let digits := text.takeWhile Char.isDigit
  let spaces := (text.dropWhile Char.isDigit).takeWhile isSpace
  let rest := (text.dropWhile Char.isDigit).dropWhile isSpace
  if digits ≠ [] ∧ rest.head? = some ':' then
    some (digits.length + spaces.length + 1)
  else none

def vinHeader : List Char := ['4', '9', '0', '2']

/-- `4902[0-9A-F]{2}`. -/
def frameHeader (text : List Char) : Option ℕ :=
  let number := (text.drop 4).take 2
  if vinHeader.isPrefixOf text ∧ number.length = 2 ∧
      number.all (· ∈ hexDigits) then
    some 6
  else none

def withoutNumbers (raw : List Char) : List Char :=
  deleteAll lineNumber 0 raw

def vinBody (raw : List Char) : List Char :=
  deleteAll frameHeader 0 (compact (withoutNumbers raw))

/-- `parseInt` to base 16. -/
def parseInt : List Char → Option ℤ
  | '+' :: text => (parseInt16 text).map Int.ofNat
  | '-' :: text => (parseInt16 text).map fun value => -Int.ofNat value
  | text => (parseInt16 text).map Int.ofNat

/-- The loop of `_parseVINResponse`. -/
def vinChars (vin : List Char) : List Char → List Char
  | first :: second :: body =>
      if 17 ≤ vin.length then vin
      else
        match parseInt [first, second] with
        | none => vinChars vin body
        | some b =>
            if b = 0 then vinChars vin body
            else if b < 0x20 ∨ 0x7E < b then vinChars vin body
            else vinChars (vin ++ [Char.ofNat b.toNat]) body
  | _ => vin

/-- `_parseVINResponse`. -/
def parseVINResponse (raw : List Char) : Option (List Char) :=
  if raw = [] ∨ includes "NO DATA".toList raw ∨ includes ['?'] raw then none
  else if !includes vinHeader (compact (withoutNumbers raw)) then none
  else
    let vin := vinChars [] (vinBody raw)
    if vin.length = 17 then some vin else none

/-- What `readVIN` gets from a reply that arrives in pieces. -/
def Driver.readVIN (driver : Driver) (pieces : List (List Char)) :
    Option (Option (List Char)) :=
  (driver.heard [] pieces).map fun payload =>
    parseVINResponse (stripEcho vinCmd payload)

def words : List Char → List (List Char)
  | [] => [[]]
  | character :: text =>
      if isSpace character then [] :: words text
      else
        match words text with
        | [] => [[character]]
        | word :: rest => (character :: word) :: rest

def WholeBytes (word : List Char) : Prop :=
  word.length % 2 = 0 ∧ ∀ digit ∈ word, (hexValue digit).isSome

instance (word : List Char) : Decidable (WholeBytes word) :=
  @instDecidableAnd _ _ _ (List.decidableBAll _ word)

def pairBytes : List Char → List ℕ
  | first :: second :: word =>
      (16 * (hexValue first).getD 0 + (hexValue second).getD 0) ::
        pairBytes word
  | _ => []

/-- A piece of a text without its spaces and line numbers: a byte of a word that
is made of whole bytes, or a character of another word. -/
inductive Cell
  | byte (value : ℕ)
  | other (character : Char)
  deriving DecidableEq

def wordCells (word : List Char) : List Cell :=
  if WholeBytes word then (pairBytes word).map .byte
  else (toUpperCase word).map .other

def textCells (raw : List Char) : List Cell :=
  (words (withoutNumbers raw)).flatMap wordCells

/-- The bytes of a text without its headers. -/
def payload : List Cell → List ℕ
  | .byte 0x49 :: .byte 0x02 :: .byte _ :: cells => payload cells
  | .byte value :: cells => value :: payload cells
  | .other _ :: cells => payload cells
  | [] => []

def vinPayload (raw : List Char) : List ℕ :=
  payload (textCells raw)

def printable (byte : ℕ) : Bool :=
  0x20 ≤ byte && byte ≤ 0x7E

end Obd

end Mousstec
