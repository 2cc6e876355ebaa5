import Mathlib.Data.List.Basic
import Mathlib.Data.Nat.Digits.Defs
import Mousstec.Library.Transaction

/-!
# Bytes

Byte strings as hexadecimal text, and byte streams read from the front.  A
read takes what the stream holds, up to the number of bytes asked for; a
reader consumes a frame when it returns the frame from every stream that
starts with it and leaves the rest.
-/

namespace Library

namespace Bytes

/-- The two digits of a byte. -/
def hexDigits (byte : UInt8) : List Char :=
  [Nat.digitChar (byte.toNat / 16), Nat.digitChar (byte.toNat % 16)]

/-- The text of a byte string, two digits a byte. -/
def hex (bytes : List UInt8) : String :=
  String.ofList (bytes.flatMap hexDigits)

/-- The value of a digit, in either case. -/
def digitValue (digit : Char) : Option Nat :=
  if '0' ≤ digit ∧ digit ≤ '9' then some (digit.toNat - 48)
  else if 'a' ≤ digit ∧ digit ≤ 'f' then some (digit.toNat - 87)
  else if 'A' ≤ digit ∧ digit ≤ 'F' then some (digit.toNat - 55)
  else none

/-- Reads pairs of digits, skipping white space between the bytes. -/
def parseHex : List Char → Option (List UInt8)
  | [] => some []
  | [last] => if last.isWhitespace then some [] else none
  | first :: second :: rest =>
      if first.isWhitespace then parseHex (second :: rest)
      else
        match digitValue first, digitValue second with
        | some high, some low =>
            (parseHex rest).map (UInt8.ofNat (16 * high + low) :: ·)
        | _, _ => none

/-- The bytes a text spells, if it spells any. -/
def fromHex (text : String) : Option (List UInt8) :=
  parseHex text.toList

theorem digitValue_digitChar :
    ∀ value < 16, digitValue (Nat.digitChar value) = some value := by
  decide

theorem digitChar_not_whitespace :
    ∀ value < 16, (Nat.digitChar value).isWhitespace = false := by
  decide

/-- Two digits for the halves of a byte are read as the byte. -/
theorem parseHex_digits {first second : Char} {byte : UInt8}
    (rest : List Char) (visible : first.isWhitespace = false)
    (high : digitValue first = some (byte.toNat / 16))
    (low : digitValue second = some (byte.toNat % 16)) :
    parseHex (first :: second :: rest) = (parseHex rest).map (byte :: ·) := by
  have value : UInt8.ofNat (16 * (byte.toNat / 16) + byte.toNat % 16) = byte := by
    rw [Nat.div_add_mod, UInt8.ofNat_toNat]
  simp only [parseHex, visible, high, low, value, Bool.false_eq_true, if_false]

theorem high_lt (byte : UInt8) : byte.toNat / 16 < 16 := by
  have bound := byte.toNat_lt
  omega

theorem low_lt (byte : UInt8) : byte.toNat % 16 < 16 :=
  Nat.mod_lt _ (by decide)

theorem parseHex_hexDigits (byte : UInt8) (rest : List Char) :
    parseHex (hexDigits byte ++ rest) = (parseHex rest).map (byte :: ·) :=
  parseHex_digits rest (digitChar_not_whitespace _ (high_lt byte))
    (digitValue_digitChar _ (high_lt byte))
    (digitValue_digitChar _ (low_lt byte))

/-- The text of a byte string spells it. -/
@[simp] theorem fromHex_hex (bytes : List UInt8) :
    fromHex (hex bytes) = some bytes := by
  rw [fromHex, hex, String.toList_ofList]
  induction bytes with
  | nil => rfl
  | cons byte bytes induction =>
      rw [List.flatMap_cons, parseHex_hexDigits, induction]
      rfl

/-- The text of a byte string in upper case. -/
def upperHex (bytes : List UInt8) : String :=
  String.ofList ((bytes.flatMap hexDigits).map Char.toUpper)

theorem digitValue_toUpper :
    ∀ value < 16, digitValue (Nat.digitChar value).toUpper = some value := by
  decide

theorem toUpper_not_whitespace :
    ∀ value < 16, (Nat.digitChar value).toUpper.isWhitespace = false := by
  decide

/-- So does its text in upper case. -/
@[simp] theorem fromHex_upperHex (bytes : List UInt8) :
    fromHex (upperHex bytes) = some bytes := by
  rw [fromHex, upperHex, String.toList_ofList]
  induction bytes with
  | nil => rfl
  | cons byte bytes induction =>
      rw [List.flatMap_cons, List.map_append]
      have read := parseHex_digits
        ((bytes.flatMap hexDigits).map Char.toUpper)
        (toUpper_not_whitespace _ (high_lt byte))
        (digitValue_toUpper _ (high_lt byte))
        (digitValue_toUpper _ (low_lt byte))
      rw [induction] at read
      exact read

universe u

variable {ε β : Type u}

/-- Takes up to a number of items from the front of a stream. -/
def read (count : Nat) : Txn ε (List β) (List β) := fun stream =>
  .ok (stream.take count) (stream.drop count)

@[simp] theorem read_eq_ok {count : Nat} {items stream rest : List β} :
    (read count : Txn ε (List β) _) stream = .ok items rest ↔
      stream.take count = items ∧ stream.drop count = rest := by
  rw [read]
  constructor
  · rintro ⟨⟩
    exact ⟨rfl, rfl⟩
  · rintro ⟨rfl, rfl⟩
    rfl

/-- A stream that starts with the items asked for gives them. -/
theorem read_append {count : Nat} {items : List β} (rest : List β)
    (length : items.length = count) :
    (read count : Txn ε (List β) _) (items ++ rest) = .ok items rest := by
  subst length
  rw [read_eq_ok, List.take_left, List.drop_left]
  exact ⟨rfl, rfl⟩

/-- The reader returns the frame from every stream that starts with it, and
consumes exactly the frame. -/
def Consumes (reader : Txn ε (List β) (List β)) (frame : List β) : Prop :=
  ∀ rest, reader (frame ++ rest) = .ok frame rest

end Bytes

end Library
