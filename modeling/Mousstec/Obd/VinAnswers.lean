import Mousstec.Obd.VinReading

/-!
# Answers with a VIN

A driver gets the VIN out of every answer that is not on a CAN bus.  Out of an
answer on a CAN bus it gets something else, unless every character is a D: its
two digits are the same, and the same as the last digit of the length.  Where
another text is made of whole bytes, the ones that can be printed are searched.
-/

namespace Mousstec

namespace Obd

section Headers

variable {text rest : List Char}

theorem frameHeader_eq_some {length : ℕ} :
    frameHeader text = some length ↔ ∃ first second rest,
      text = '4' :: '9' :: '0' :: '2' :: first :: second :: rest ∧
        first ∈ hexDigits ∧ second ∈ hexDigits ∧ length = 6 := by
  constructor
  · intro found
    simp only [frameHeader] at found
    by_cases header : vinHeader.isPrefixOf text = true ∧
        ((text.drop 4).take 2).length = 2 ∧
          ((text.drop 4).take 2).all (· ∈ hexDigits) = true
    · rw [if_pos header] at found
      obtain ⟨starts, two, digits⟩ := header
      obtain ⟨tail, rfl⟩ := List.isPrefixOf_iff_prefix.mp starts
      have dropped : (vinHeader ++ tail).drop 4 = tail := rfl
      rw [dropped] at two digits
      obtain ⟨first, second, taken⟩ := List.length_eq_two.mp two
      have whole := List.take_append_drop 2 tail
      rw [taken] at whole digits
      have hex : first ∈ hexDigits ∧ second ∈ hexDigits := by
        simpa using digits
      refine ⟨first, second, tail.drop 2, ?_, hex.1, hex.2,
        (Option.some.inj found).symm⟩
      rw [← whole]
      rfl
    · rw [if_neg header] at found
      cases found
  · rintro ⟨first, second, rest, rfl, digit, digit', rfl⟩
    apply if_pos
    refine ⟨rfl, rfl, ?_⟩
    simp [digit, digit']

example : frameHeader ['4', '9', '0', '2', '0', 'A'] = some 6 := by
  decide +kernel

theorem frameHeader_none {first second : Char}
    (other : ¬(first = '4' ∧ second = '9')) :
    frameHeader (first :: second :: text) = none := by
  rw [Option.eq_none_iff_forall_ne_some]
  intro length found
  obtain ⟨_, _, _, same, -⟩ := frameHeader_eq_some.mp found
  injection same with same rest
  injection rest with same' rest
  exact other ⟨same, same'⟩

theorem frameHeader_one (character : Char) : frameHeader [character] = none := by
  rw [Option.eq_none_iff_forall_ne_some]
  intro length found
  obtain ⟨_, _, _, same, -⟩ := frameHeader_eq_some.mp found
  injection same with _ rest
  cases rest

end Headers

def Cell.print : Cell → List Char
  | .byte value => printByte value
  | .other character => [character]

def printCells (cells : List Cell) : List Char :=
  cells.flatMap Cell.print

/-- No header begins in the first two characters. -/
def clear (text : List Char) : Bool :=
  (frameHeader text).isNone && (frameHeader (text.drop 1)).isNone

/-- Two characters that are the digits of a byte that can be printed. -/
def shows (first second : Char) : Bool :=
  match hexValue first, hexValue second with
  | some hi, some lo => printable (16 * hi + lo)
  | _, _ => false

/-- The characters that do not belong to bytes come in pairs that show nothing,
and no header begins but as three bytes. -/
def aligned : List Cell → Bool
  | .byte 0x49 :: .byte 0x02 :: .byte _ :: cells => aligned cells
  | .byte value :: cells =>
      clear (printCells (.byte value :: cells)) && aligned cells
  | .other first :: .other second :: cells =>
      !shows first second &&
        clear (printCells (.other first :: .other second :: cells)) &&
        aligned cells
  | .other _ :: .byte _ :: _ => false
  | _ => true

section Characters

private theorem parseInt_digits : ∀ hi < 16, ∀ lo < 16,
    parseInt [hexChar hi, hexChar lo] = some ((16 * hi + lo : ℕ) : ℤ) := by
  decide +kernel

example : parseInt ['5', 'A'] = some 0x5A := by decide +kernel

theorem vinChars_full {vin : List Char} (full : 17 ≤ vin.length)
    (body : List Char) : vinChars vin body = vin := by
  cases body with
  | nil => rfl
  | cons first body =>
      cases body with
      | nil => rfl
      | cons second body => rw [vinChars, if_pos full]

theorem vinChars_digits {vin body : List Char} {hi lo : ℕ}
    (more : vin.length < 17) (high : hi < 16) (low : lo < 16) :
    vinChars vin (hexChar hi :: hexChar lo :: body) =
      vinChars (if printable (16 * hi + lo) then
        vin ++ [Char.ofNat (16 * hi + lo)] else vin) body := by
  rw [vinChars, if_neg (not_le.mpr more), parseInt_digits hi high lo low]
  simp only [printable, Bool.and_eq_true, decide_eq_true_eq, Int.toNat_natCast]
  by_cases shown : 0x20 ≤ 16 * hi + lo ∧ 16 * hi + lo ≤ 0x7E
  · rw [if_neg (by omega), if_neg (by omega), if_pos shown]
  · rw [if_neg shown]
    split
    · rfl
    · rw [if_pos (by omega)]

private theorem hexValue_ofNat : ∀ code < 128,
    (hexValue (Char.ofNat code)).isSome = true →
      (hexValue (Char.ofNat code)).getD 0 < 16 ∧ (Char.ofNat code).toUpper =
        hexChar ((hexValue (Char.ofNat code)).getD 0) := by
  decide +kernel

theorem hexValue_small {digit : Char}
    (hex : (hexValue digit).isSome = true) : digit.toNat < 128 := by
  have bound : ∀ last : Char, digit ≤ last → last.toNat < 128 →
      digit.toNat < 128 :=
    fun last below small => lt_of_le_of_lt below small
  unfold hexValue at hex
  split at hex
  · rename_i decimal
    exact bound '9' decimal.2 (by decide)
  · split at hex
    · rename_i upper
      exact bound 'F' upper.2 (by decide)
    · split at hex
      · rename_i lower
        exact bound 'f' lower.2 (by decide)
      · cases hex

theorem hexDigit_upper {digit : Char} (hex : (hexValue digit).isSome = true) :
    (hexValue digit).getD 0 < 16 ∧
      digit.toUpper = hexChar ((hexValue digit).getD 0) := by
  have known := hexValue_ofNat digit.toNat (hexValue_small hex)
  rw [Char.ofNat_toNat] at known
  exact known hex

private theorem parseInt16_one {digit : Char} {value : ℕ}
    (read : parseInt16 [digit] = some value) : value < 16 := by
  have number : parseInt16 [digit] = readNumber [digit] := by
    unfold parseInt16
    split
    · injections
    · rfl
  rw [number] at read
  obtain ⟨_, hex, rfl⟩ := Option.map_eq_some_iff.mp read
  have small := (hexDigit_upper (Option.isSome_of_eq_some hex)).1
  rwa [hex] at small

/-- Two characters make a small number, unless they are two digits. -/
theorem parseInt_two {first second : Char} {value : ℤ}
    (read : parseInt [first, second] = some value) :
    value < 16 ∨ ∃ hi lo, hexValue first = some hi ∧
      hexValue second = some lo ∧ value = ((16 * hi + lo : ℕ) : ℤ) := by
  unfold parseInt at read
  split at read
  · obtain ⟨number, digit, rfl⟩ := Option.map_eq_some_iff.mp read
    injections
    subst_vars
    exact .inl (Int.ofNat_lt.mpr (parseInt16_one digit))
  · obtain ⟨number, digit, rfl⟩ := Option.map_eq_some_iff.mp read
    exact .inl (by simp only [Int.ofNat_eq_natCast]; omega)
  · obtain ⟨number, digits, rfl⟩ := Option.map_eq_some_iff.mp read
    unfold parseInt16 at digits
    split at digits
    · injections
      subst_vars
      cases digits
    · obtain ⟨hi, hex, rfl⟩ := Option.map_eq_some_iff.mp digits
      have small := (hexDigit_upper (Option.isSome_of_eq_some hex)).1
      rw [hex, Option.getD_some] at small
      cases hex' : hexValue second with
      | none =>
          left
          have one : readDigits hi [second] = hi := by
            rw [readDigits, hex']
          rw [one]
          exact Int.ofNat_lt.mpr small
      | some lo =>
          right
          have two : readDigits hi [second] = 16 * hi + lo := by
            rw [readDigits, hex']
            rfl
          exact ⟨hi, lo, hex, rfl, by rw [two]; rfl⟩

theorem vinChars_hidden {vin body : List Char} {first second : Char}
    (hidden : shows first second = false) :
    vinChars vin (first :: second :: body) = vinChars vin body := by
  by_cases full : 17 ≤ vin.length
  · rw [vinChars_full full, vinChars_full full]
  · rw [vinChars, if_neg full]
    cases read : parseInt [first, second] with
    | none => rfl
    | some value =>
        have outside : value < 0x20 ∨ 0x7E < value := by
          rcases parseInt_two read with small | ⟨hi, lo, hex, hex', rfl⟩
          · omega
          · simp only [shows, hex, hex', printable, Bool.and_eq_false_iff,
              decide_eq_false_iff_not] at hidden
            omega
        simp only
        split
        · rfl
        · rfl

private theorem deleteHeaders_pair {first second : Char} {text : List Char}
    (free : clear (first :: second :: text) = true) :
    deleteAll frameHeader 0 (first :: second :: text) =
      first :: second :: deleteAll frameHeader 0 text := by
  rw [clear, Bool.and_eq_true, Option.isNone_iff_eq_none,
    Option.isNone_iff_eq_none] at free
  rw [deleteAll_none free.1, deleteAll_none free.2]

/-- Of an aligned text the bytes are read that can be printed. -/
theorem vinChars_aligned {cells : List Cell} (straight : aligned cells = true)
    (small : ∀ value, .byte value ∈ cells → value < 256) {vin : List Char}
    (short : vin.length ≤ 17) :
    vinChars vin (deleteAll frameHeader 0 (printCells cells)) = vin ++
      (((payload cells).filter printable).take (17 - vin.length)).map
        Char.ofNat := by
  induction cells using aligned.induct generalizing vin with
  | case1 number cells induction =>
      have header : frameHeader (printCells (.byte 0x49 :: .byte 0x02 ::
          .byte number :: cells)) = some (5 + 1) :=
        frameHeader_eq_some.mpr ⟨hexChar (number / 16), hexChar (number % 16),
          printCells cells, rfl, hexChar_mem _, hexChar_mem _, rfl⟩
      have deleted : deleteAll frameHeader 0 (printCells (.byte 0x49 ::
          .byte 0x02 :: .byte number :: cells)) =
            deleteAll frameHeader 0 (printCells cells) :=
        deleteAll_some header
      rw [deleted, payload]
      exact induction straight (fun value member => small value (by simp [member]))
        short
  | case2 value cells other induction =>
      rw [aligned, Bool.and_eq_true] at straight
      · obtain ⟨free, straight⟩ := straight
        have small' := fun value member =>
          small value (List.mem_cons_of_mem _ member)
        have within := small value List.mem_cons_self
        have passed : deleteAll frameHeader 0 (printCells (.byte value ::
            cells)) = hexChar (value / 16) :: hexChar (value % 16) ::
              deleteAll frameHeader 0 (printCells cells) :=
          deleteHeaders_pair free
        have left : payload (.byte value :: cells) = value :: payload cells := by
          rw [payload]
          exact other
        rw [passed, left]
        rcases short.eq_or_lt with full | more
        · rw [vinChars_full full.ge, full, Nat.sub_self, List.take_zero,
            List.map_nil, List.append_nil]
        · have whole : 16 * (value / 16) + value % 16 = value := by omega
          rw [vinChars_digits more (by omega) (by omega), whole]
          by_cases shown : printable value = true
          · have longer : (vin ++ [Char.ofNat value]).length ≤ 17 := by
              rw [List.length_append, List.length_singleton]
              omega
            have left : 17 - vin.length =
                17 - (vin ++ [Char.ofNat value]).length + 1 := by
              rw [List.length_append, List.length_singleton]
              omega
            rw [if_pos shown, induction straight small' longer,
              List.filter_cons_of_pos shown, left, List.take_succ_cons,
              List.map_cons, List.append_assoc, List.singleton_append]
          · rw [if_neg shown, induction straight small' short,
              List.filter_cons_of_neg shown]
      · exact other
  | case3 first second cells induction =>
      rw [aligned, Bool.and_eq_true, Bool.and_eq_true,
        Bool.not_eq_true'] at straight
      obtain ⟨⟨hidden, free⟩, straight⟩ := straight
      have passed : deleteAll frameHeader 0 (printCells (.other first ::
          .other second :: cells)) = first :: second ::
            deleteAll frameHeader 0 (printCells cells) :=
        deleteHeaders_pair free
      rw [passed, vinChars_hidden hidden, payload, payload]
      exact induction straight (fun value member => small value (by simp [member]))
        short
  | case4 character value cells =>
      cases straight
  | case5 cells headless byteless paired mixed =>
      rcases cells with _ | ⟨value | character, _ | ⟨value' | other, cells⟩⟩
      · simp [printCells, deleteAll, payload, vinChars]
      · exact absurd rfl (byteless value [])
      · exact absurd rfl (byteless value _)
      · exact absurd rfl (byteless value _)
      · have passed : deleteAll frameHeader 0 (printCells [.other character]) =
            [character] := deleteAll_none (frameHeader_one character)
        rw [passed, payload]
        simp [payload, vinChars]
      · exact absurd rfl (mixed character value' cells)
      · exact absurd rfl (paired character other cells)

theorem vinChars_prefix (vin body : List Char) :
    vin <+: vinChars vin body := by
  induction vin, body using vinChars.induct with
  | case1 vin first second body full =>
      rw [vinChars, if_pos full]
  | case2 vin first second body more unread induction =>
      rw [vinChars, if_neg more, unread]
      exact induction
  | case3 vin first second body more read induction =>
      rw [vinChars, if_neg more, read]
      exact induction
  | case4 vin first second body more b read some outside induction =>
      rw [vinChars, if_neg more, read]
      simp only [if_neg some, if_pos outside]
      exact induction
  | case5 vin first second body more b read some inside induction =>
      rw [vinChars, if_neg more, read]
      simp only [if_neg some, if_neg inside]
      exact (List.prefix_append vin _).trans induction
  | case6 vin body short =>
      rw [vinChars]
      exact short

end Characters

theorem Vin.length_bytes (vin : Vin) : vin.bytes.length = 17 := by
  rw [Vin.bytes, List.length_map, vin.length]

theorem Vin.bytes_between (vin : Vin) : ∀ byte ∈ vin.bytes,
    0x30 ≤ byte ∧ byte ≤ 0x5A ∧ byte ≠ 0x49 := by
  have between : vinLetters.all (fun character =>
      decide (0x30 ≤ character.toNat ∧ character.toNat ≤ 0x5A ∧
        character.toNat ≠ 0x49)) = true := by
    decide
  intro byte member
  obtain ⟨character, listed, rfl⟩ := List.mem_map.mp member
  exact of_decide_eq_true
    (List.all_eq_true.mp between character (vin.letters character listed))

theorem Vin.chars_bytes (vin : Vin) :
    vin.bytes.map Char.ofNat = vin.chars := by
  rw [Vin.bytes, List.map_map]
  have same : Char.ofNat ∘ Char.toNat = id := by
    funext character
    exact Char.ofNat_toNat character
  rw [same, List.map_id]

theorem Vin.printable_bytes (vin : Vin) :
    vin.bytes.filter printable = vin.bytes := by
  rw [List.filter_eq_self]
  intro byte member
  obtain ⟨low, high, -⟩ := vin.bytes_between byte member
  simp only [printable, Bool.and_eq_true, decide_eq_true_eq]
  omega

section Lines

variable {text rest : List Char}

theorem stripped_plain (plain : ':' ∉ text) : stripped text = compact text := by
  rw [stripped, withoutNumbers_plain plain]

theorem stripped_line {line : List Char} (plain : ':' ∉ line)
    (starts : ∀ character tail, rest = character :: tail →
      isSpace character = false ∧ character ≠ ':') :
    stripped (line ++ '\r' :: rest) = compact line ++ stripped rest := by
  cases rest with
  | nil =>
      rw [stripped_plain, compact_return, stripped, withoutNumbers, deleteAll]
      · exact (List.append_nil _).symm
      · intro member
        rcases List.mem_append.mp member with there | last
        · exact plain there
        · exact absurd (List.mem_singleton.mp last) (by decide)
  | cons character tail =>
      obtain ⟨letter, other⟩ := starts character tail rfl
      rw [stripped, withoutNumbers_line letter other plain, compact_append,
        compact_cons_space (by decide), stripped]

theorem stripped_return (text : List Char) :
    stripped (text ++ ['\r']) = stripped text := by
  have ends : withoutNumbers (text ++ ['\r']) = withoutNumbers text ++ ['\r'] :=
    deleteNumbers_concat (by decide) 0 (Nat.zero_le _)
  rw [stripped, stripped, ends, compact_return]

theorem printBytes_plain (spaces : Bool) (bytes : List ℕ) :
    ':' ∉ printBytes spaces bytes := by
  intro member
  obtain ⟨byte, -, there⟩ := List.mem_flatMap.mp member
  have digit : ∀ digit, ':' ≠ hexChar digit := by
    intro digit same
    have member := hexChar_mem digit
    rw [← same] at member
    revert member
    decide
  rcases List.mem_append.mp there with printed | space
  · rcases List.mem_cons.mp printed with same | last
    · exact digit _ same
    · exact digit _ (List.mem_singleton.mp last)
  · cases spaces with
    | false => cases space
    | true => exact absurd (List.mem_singleton.mp space) (by decide)

theorem hexChar_isDigit : ∀ number < 10,
    (hexChar number).isDigit = true := by
  decide

theorem stripped_numbered {number : ℕ} (small : number < 10) (spaces : Bool)
    (bytes : List ℕ) (starts : ∀ character tail, rest = character :: tail →
      isSpace character = false ∧ character ≠ ':') :
    stripped (printNumbered spaces number bytes ++ rest) =
      bytes.flatMap printByte ++ stripped rest := by
  have whole : printNumbered spaces number bytes ++ rest =
      hexChar number :: ':' ::
        (((if spaces then [' '] else []) ++ printBytes spaces bytes) ++
          '\r' :: rest) := by
    rw [printNumbered, Nat.mod_eq_of_lt (by omega)]
    simp
  have plain : ':' ∉ (if spaces then [' '] else []) ++
      printBytes spaces bytes := by
    intro member
    rcases List.mem_append.mp member with space | there
    · cases spaces with
      | false => cases space
      | true => exact absurd (List.mem_singleton.mp space) (by decide)
    · exact printBytes_plain spaces bytes there
  have line := stripped_line plain starts
  rw [compact_separated, compact_printBytes] at line
  rw [whole, ← line]
  exact congrArg compact
    (withoutNumbers_number (hexChar_isDigit number small) _)

theorem hexChar_starts {number : ℕ} {character : Char} {tail : List Char}
    (starts : hexChar number :: rest = character :: tail) :
    isSpace character = false ∧ character ≠ ':' := by
  injection starts with same
  have member := hexChar_mem number
  rw [same] at member
  refine ⟨(hexDigits_plain _ member).1, ?_⟩
  rintro rfl
  revert member
  decide

theorem printConsecutive_starts {spaces : Bool} {number : ℕ}
    {lines : List (List ℕ)} {character : Char} {tail : List Char}
    (starts : printConsecutive spaces number lines = character :: tail) :
    isSpace character = false ∧ character ≠ ':' := by
  cases lines with
  | nil => cases starts
  | cons bytes lines => exact hexChar_starts starts

end Lines

section Plain

variable {bytes : List ℕ}

theorem printCells_bytes (bytes : List ℕ) :
    printCells (bytes.map .byte) = bytes.flatMap printByte := by
  rw [printCells, List.flatMap_map]
  rfl

theorem clear_byte {byte : ℕ} (small : byte < 0x90) (other : byte ≠ 0x49)
    (low : ∀ next ∈ bytes, next < 0x90) :
    clear (printCells ((byte :: bytes).map .byte)) = true := by
  rw [printCells_bytes, clear, Bool.and_eq_true, Option.isNone_iff_eq_none,
    Option.isNone_iff_eq_none]
  constructor
  · apply frameHeader_none
    rintro ⟨four, nine⟩
    have four := hexChar_injective (by omega) (by omega : 4 < 16) four
    have nine := hexChar_injective (by omega) (by omega : 9 < 16) nine
    omega
  · cases bytes with
    | nil =>
        exact frameHeader_one _
    | cons next bytes =>
        apply frameHeader_none
        rintro ⟨-, nine⟩
        have below := low next List.mem_cons_self
        have nine := hexChar_injective (by omega) (by omega : 9 < 16) nine
        omega

/-- Bytes of a VIN and zeros are payload, whatever follows them. -/
theorem aligned_bytes {data rest : List ℕ}
    (plain : ∀ byte ∈ data, byte < 0x90 ∧ byte ≠ 0x49)
    (low : ∀ byte ∈ rest, byte < 0x90) :
    aligned ((data ++ rest).map .byte) = aligned (rest.map .byte) ∧
      payload ((data ++ rest).map .byte) = data ++ payload (rest.map .byte) := by
  induction data with
  | nil => exact ⟨rfl, rfl⟩
  | cons byte data induction =>
      rw [List.forall_mem_cons] at plain
      obtain ⟨⟨small, other⟩, plain⟩ := plain
      obtain ⟨same, left⟩ := induction plain
      have free := clear_byte small other fun next member =>
        (List.mem_append.mp member).elim (fun there => (plain next there).1)
          (low next)
      have apart : ∀ number cells, (data ++ rest).map Cell.byte =
          .byte 0x02 :: .byte number :: cells → byte = 0x49 → False :=
        fun _ _ _ mode => other mode
      rw [List.map_cons] at free
      rw [List.cons_append, List.map_cons, aligned, payload, free,
        Bool.true_and, same, left]
      · exact ⟨rfl, rfl⟩
      · exact apart
      · exact apart

theorem vinLines_flatten (number : ℕ) (few : number + bytes.length < 0x90)
    (four : bytes.length % 4 = 0)
    (plain : ∀ byte ∈ bytes, byte < 0x90 ∧ byte ≠ 0x49) :
    (∀ byte ∈ (vinLines number bytes).flatten, byte < 0x90) ∧
      aligned ((vinLines number bytes).flatten.map .byte) = true ∧
        payload ((vinLines number bytes).flatten.map .byte) = bytes := by
  induction number, bytes using vinLines.induct with
  | case1 number a b c d bytes induction =>
      simp only [List.length_cons] at four few
      obtain ⟨low, straight, left⟩ := induction (by omega) (by omega)
        fun byte member => plain byte (by simp [member])
      have data : ∀ byte ∈ [a, b, c, d], byte < 0x90 ∧ byte ≠ 0x49 :=
        fun byte member => plain byte (by
          simp only [List.mem_cons, List.not_mem_nil, or_false] at member ⊢
          tauto)
      obtain ⟨same, kept⟩ := aligned_bytes data low
      have whole : (vinLines number (a :: b :: c :: d :: bytes)).flatten =
          0x49 :: 0x02 :: number :: ([a, b, c, d] ++
            (vinLines (number + 1) bytes).flatten) := rfl
      refine ⟨?_, ?_, ?_⟩
      · intro byte member
        rw [whole, List.mem_cons, List.mem_cons, List.mem_cons,
          List.mem_append] at member
        rcases member with rfl | rfl | rfl | there | there
        · decide
        · decide
        · omega
        · exact (data byte there).1
        · exact low byte there
      · rw [whole, List.map_cons, List.map_cons, List.map_cons, aligned, same,
          straight]
      · rw [whole, List.map_cons, List.map_cons, List.map_cons, payload, kept,
          left]
        rfl
  | case2 bytes number short =>
      cases bytes with
      | nil =>
          rw [vinLines]
          · exact ⟨by simp, rfl, rfl⟩
          · exact short
      | cons a bytes =>
          rcases bytes with _ | ⟨b, _ | ⟨c, _ | ⟨d, bytes⟩⟩⟩
          · cases four
          · cases four
          · cases four
          · exact absurd rfl (short a b c d bytes)

end Plain

end Obd

end Mousstec
