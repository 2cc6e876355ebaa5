import Mathlib.Data.List.TakeWhile
import Mathlib.Data.List.Infix

/-!
# Replies of the adapter

The adapter answers a command with a text and a prompt.  The text may arrive in
any pieces; the driver collects them, and hands on what stands before the
prompt.
-/

namespace Mousstec

namespace Obd

/-- The driver: Bluetooth writes to a characteristic, Wi-Fi to a bridge. -/
inductive Driver
  | bluetooth
  | wifi
  deriving DecidableEq

/-- What `\s` matches and `trim` removes. -/
def isSpace (character : Char) : Bool :=
  let code := character.val
  (0x9 ≤ code && code ≤ 0xD) || code == 0x20 || code == 0xA0 ||
    code == 0x1680 || (0x2000 ≤ code && code ≤ 0x200A) || code == 0x2028 ||
    code == 0x2029 || code == 0x202F || code == 0x205F || code == 0x3000 ||
    code == 0xFEFF

/-- `trim`. -/
def trim (text : List Char) : List Char :=
  ((text.dropWhile isSpace).reverse.dropWhile isSpace).reverse

/-- `toUpperCase`; the adapter speaks ASCII. -/
def toUpperCase (text : List Char) : List Char :=
  text.map Char.toUpper

def prompt : Char := '>'

def clean (text : List Char) : List Char :=
  trim (text.map fun character => if character = '\r' then ' ' else character)

/-- `_stripEcho`. -/
def stripEcho (cmd response : List Char) : List Char :=
  let r := trim response
  trim
    (if (toUpperCase cmd).isPrefixOf (toUpperCase r) then r.drop cmd.length
    else r)

inductive Heard
  | more (buffer : List Char)
  | reply (payload : List Char)
  | bridgeError
  deriving DecidableEq

def isBridgeError (piece : List Char) : Bool :=
  "BRIDGE_ERROR".toList.isPrefixOf piece

/-- `_onNotify` and `_onMessage`. -/
def Driver.hear (driver : Driver) (buffer piece : List Char) : Heard :=
  if driver = .wifi ∧ isBridgeError piece then .bridgeError
  else
    let rxBuffer := buffer ++ piece
    if prompt ∈ rxBuffer then
      .reply (clean (rxBuffer.takeWhile (· != prompt)))
    else .more rxBuffer

def Driver.heard (driver : Driver) (buffer : List Char) :
    List (List Char) → Option (List Char)
  | [] => none
  | piece :: pieces =>
      match driver.hear buffer piece with
      | .more buffer => driver.heard buffer pieces
      | .reply payload => some payload
      | .bridgeError => none

section Arrives

variable {driver : Driver} {buffer piece rest text : List Char}

/-- A piece ends a reply only if it is the last one of it. -/
theorem reply_of_prompt (unprompted : prompt ∉ text)
    (whole : buffer ++ piece ++ rest = text ++ [prompt])
    (ends : prompt ∈ buffer ++ piece) :
    rest = [] ∧ (buffer ++ piece).takeWhile (· != prompt) = text := by
  have isPrefix : buffer ++ piece <+: text ++ [prompt] := ⟨rest, whole⟩
  rcases List.prefix_concat_iff.mp isPrefix with same | shorter
  · rw [same] at whole
    refine ⟨List.append_right_eq_self.mp whole, ?_⟩
    rw [same, List.takeWhile_append_of_pos, List.takeWhile_cons_of_neg,
      List.append_nil]
    · simp
    · intro character member
      simp only [bne_iff_ne]
      rintro rfl
      exact unprompted member
  · exact absurd (shorter.subset ends) unprompted

/-- A driver makes of a piece of a reply more to wait for, the reply, or, when it
looks like one, an error of the bridge. -/
theorem Driver.hear_cases (driver : Driver) (unprompted : prompt ∉ text)
    (whole : buffer ++ piece ++ rest = text ++ [prompt]) :
    driver.hear buffer piece = .bridgeError ∨
      driver.hear buffer piece = .more (buffer ++ piece) ∨
      (rest = [] ∧ driver.hear buffer piece = .reply (clean text)) := by
  unfold Driver.hear
  split
  · exact .inl rfl
  · by_cases ends : prompt ∈ buffer ++ piece
    · obtain ⟨none, taken⟩ := reply_of_prompt unprompted whole ends
      refine .inr (.inr ⟨none, ?_⟩)
      simp only [if_pos ends, taken]
    · refine .inr (.inl ?_)
      simp only [if_neg ends]

theorem Driver.hear_nil : driver.hear [] [] = .more [] := by
  have quiet : isBridgeError [] = false := rfl
  simp [Driver.hear, quiet]

theorem Driver.hear_more {rxBuffer : List Char}
    (heard : driver.hear buffer piece = .more rxBuffer) :
    rxBuffer = buffer ++ piece ∧ prompt ∉ rxBuffer := by
  unfold Driver.hear at heard
  split at heard
  · cases heard
  · simp only at heard
    split at heard
    · cases heard
    · rename_i unended
      obtain rfl := Heard.more.inj heard
      exact ⟨rfl, unended⟩

/-- However a reply arrives, it is handed on as a whole; its pieces must not look
like an error of the bridge. -/
theorem Driver.heard_of_pieces (driver : Driver) {pieces : List (List Char)}
    (unprompted : prompt ∉ text) (plain : 'R' ∉ text)
    (waiting : prompt ∉ buffer)
    (whole : buffer ++ pieces.flatten = text ++ [prompt]) :
    driver.heard buffer pieces = some (clean text) := by
  induction pieces generalizing buffer with
  | nil =>
      rw [List.flatten_nil, List.append_nil] at whole
      rw [whole] at waiting
      exact absurd (List.mem_append_right _ List.mem_cons_self) waiting
  | cons piece pieces induction =>
      rw [List.flatten_cons, ← List.append_assoc] at whole
      unfold Driver.heard
      rcases driver.hear_cases unprompted whole with wrong | more | ⟨-, ends⟩
      · have starts : "BRIDGE_ERROR".toList <+: piece := by
          unfold Driver.hear at wrong
          split at wrong
          · rename_i error
            exact List.isPrefixOf_iff_prefix.mp error.2
          · simp only at wrong
            split at wrong
            · cases wrong
            · cases wrong
        have member : 'R' ∈ text ++ [prompt] := by
          rw [← whole]
          exact List.mem_append_left _ (List.mem_append_right _
            (starts.subset (by decide)))
        rcases List.mem_append.mp member with there | last
        · exact absurd there plain
        · exact absurd (List.mem_singleton.mp last) (by decide)
      · rw [more]
        exact induction (hear_more more).2 whole
      · rw [ends]

end Arrives

end Obd

end Mousstec
