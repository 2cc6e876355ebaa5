import Mousstec.Obd.VinReads

/-!
# VINs in any text

A text without a header is not read, and neither is one that is too short.  An
aligned text is read byte by byte, but the bytes that cannot be printed are
passed over, wherever they stand.
-/

namespace Mousstec

namespace Obd

section Whole

theorem words_ne_nil (text : List Char) : words text ≠ [] := by
  cases text with
  | nil => exact List.cons_ne_nil _ _
  | cons character text =>
      rw [words]
      split
      · exact List.cons_ne_nil _ _
      · split
        · exact List.cons_ne_nil _ _
        · exact List.cons_ne_nil _ _

theorem words_flatten (text : List Char) : (words text).flatten =
    text.filter fun character => !isSpace character := by
  induction text with
  | nil => rfl
  | cons character text induction =>
      rw [words]
      by_cases space : isSpace character = true
      · rw [if_pos space, List.flatten_cons, List.nil_append, induction,
          List.filter_cons_of_neg (by simpa using space)]
      · rw [if_neg space, List.filter_cons_of_pos (by simpa using space),
          ← induction]
        cases rest : words text with
        | nil => exact absurd rest (words_ne_nil text)
        | cons word rest => rfl

theorem pairBytes_whole {word : List Char} (whole : WholeBytes word) :
    toUpperCase word = (pairBytes word).flatMap printByte ∧
      ∀ byte ∈ pairBytes word, byte < 256 := by
  induction word using pairBytes.induct with
  | case1 first second word induction =>
      obtain ⟨even, digits⟩ := whole
      rw [List.length_cons, List.length_cons] at even
      obtain ⟨same, small⟩ := induction
        ⟨by omega, fun digit member => digits digit (by simp [member])⟩
      obtain ⟨high, upper⟩ := hexDigit_upper (digits first (by simp))
      obtain ⟨low, upper'⟩ := hexDigit_upper (digits second (by simp))
      have byte : printByte (16 * (hexValue first).getD 0 +
          (hexValue second).getD 0) = [first.toUpper, second.toUpper] := by
        have hi : (16 * (hexValue first).getD 0 +
            (hexValue second).getD 0) / 16 = (hexValue first).getD 0 := by
          omega
        have lo : (16 * (hexValue first).getD 0 +
            (hexValue second).getD 0) % 16 = (hexValue second).getD 0 := by
          omega
        rw [printByte, hi, lo, upper, upper']
      constructor
      · rw [pairBytes, List.flatMap_cons, byte, ← same]
        rfl
      · intro other member
        rcases List.mem_cons.mp member with rfl | there
        · omega
        · exact small other there
  | case2 word short =>
      rcases word with _ | ⟨digit, _ | ⟨second, word⟩⟩
      · exact ⟨rfl, by simp [pairBytes]⟩
      · cases whole.1
      · exact absurd rfl (short digit second word)

variable {raw : List Char}

theorem printCells_word (word : List Char) :
    printCells (wordCells word) = toUpperCase word := by
  unfold wordCells
  split
  · rename_i whole
    rw [printCells_bytes, (pairBytes_whole whole).1]
  · rw [printCells, List.flatMap_map]
    exact List.flatMap_singleton' _

/-- The cells of a text are the text without spaces and line numbers. -/
theorem printCells_text (raw : List Char) :
    printCells (textCells raw) = stripped raw := by
  rw [stripped, compact, ← words_flatten, textCells]
  induction words (withoutNumbers raw) with
  | nil => rfl
  | cons word all induction =>
      rw [List.flatMap_cons, printCells, List.flatMap_append, ← printCells,
        ← printCells, printCells_word, induction, List.flatten_cons]
      exact List.map_append.symm

theorem textCells_lt {value : ℕ} (member : .byte value ∈ textCells raw) :
    value < 256 := by
  obtain ⟨word, -, there⟩ := List.mem_flatMap.mp member
  unfold wordCells at there
  split at there
  · rename_i whole
    obtain ⟨_, listed, same⟩ := List.mem_map.mp there
    obtain rfl := Cell.byte.inj same
    exact (pairBytes_whole whole).2 _ listed
  · obtain ⟨_, -, same⟩ := List.mem_map.mp there
    cases same

end Whole

section Consecutive

variable {α : Type} {shows : α → Bool}

theorem infix_apart {part before after : List α} {value : α}
    (hidden : shows value = false) (shown : ∀ other ∈ part, shows other)
    (found : part <:+: before ++ value :: after) :
    part <:+: before ∨ part <:+: after := by
  have absent : value ∉ part := fun member => by
    rw [shown value member] at hidden
    cases hidden
  obtain ⟨start, rest, whole⟩ := found
  rcases List.append_eq_append_iff.mp whole with
    ⟨more, rfl, -⟩ | ⟨more, same, tail⟩
  · exact .inl ⟨start, more, rfl⟩
  · cases more with
    | nil =>
        rw [List.append_nil] at same
        exact .inl ⟨start, [], by rw [List.append_nil, same]⟩
    | cons first more =>
        injection tail with first' tail
        subst first'
        rcases List.append_eq_append_iff.mp same with
          ⟨more', -, inside⟩ | ⟨more', -, inside⟩
        · exact absurd (by rw [inside]; simp) absent
        · cases more' with
          | nil =>
              rw [List.nil_append] at inside
              exact absurd (by rw [← inside]; exact List.mem_cons_self) absent
          | cons first' more' =>
              injection inside with first' inside
              exact .inr ⟨more', rest, by rw [tail, inside]; rfl⟩

theorem infix_dropWhile {part values : List α}
    (shown : ∀ value ∈ part, shows value) (some : part ≠ [])
    (found : part <:+: values) :
    part <:+: values.dropWhile fun value => !shows value := by
  induction values with
  | nil => exact absurd (List.infix_nil.mp found) some
  | cons value values induction =>
      by_cases visible : shows value = true
      · rwa [List.dropWhile_cons_of_neg (by simp [visible])]
      · rw [Bool.not_eq_true] at visible
        rw [List.dropWhile_cons_of_pos (by simp [visible])]
        have apart : part <:+: [] ∨ part <:+: values :=
          infix_apart visible shown found
        rcases apart with none | later
        · exact absurd (List.infix_nil.mp none) some
        · exact induction later

theorem filter_dropWhile_not (values : List α) :
    (values.dropWhile fun value => !shows value).filter shows =
      values.filter shows := by
  induction values with
  | nil => rfl
  | cons value values induction =>
      by_cases visible : shows value = true
      · rw [List.dropWhile_cons_of_neg (by simp [visible])]
      · rw [List.dropWhile_cons_of_pos (by simp [visible]), induction,
          List.filter_cons_of_neg visible]

/-- From the first value that is shown on, no other value stands among that
many, or what is read stands once more after them. -/
def Unbroken (shows : α → Bool) (count : ℕ) (values : List α) : Prop :=
  let shown := values.dropWhile fun value => !shows value
  (∀ value ∈ shown.take count, shows value) ∨
    (values.filter shows).take count <:+: shown.dropWhile shows

instance [DecidableEq α] (count : ℕ) (values : List α) :
    Decidable (Unbroken shows count values) :=
  inferInstanceAs (Decidable ((∀ value ∈ _, _) ∨ _))

theorem infix_after {part values : List α}
    (shown : ∀ value ∈ part, shows value)
    (long : (values.takeWhile shows).length < part.length)
    (found : part <:+: values) : part <:+: values.dropWhile shows := by
  have parts : values.takeWhile shows ++ values.dropWhile shows = values :=
    List.takeWhile_append_dropWhile
  have short : ¬part <:+: values.takeWhile shows :=
    fun fits => not_le.mpr long fits.length_le
  cases rest : values.dropWhile shows with
  | nil =>
      rw [rest, List.append_nil] at parts
      rw [parts] at short
      exact absurd found short
  | cons value later =>
      have some : values.dropWhile shows ≠ [] := by
        rw [rest]
        exact List.cons_ne_nil _ _
      have hidden := List.head_dropWhile_not shows some
      simp only [rest, List.head_cons] at hidden
      rw [← parts, rest] at found
      rcases infix_apart hidden shown found with first | last
      · exact absurd first short
      · exact last.trans (List.suffix_cons _ _).isInfix

theorem take_filter {count : ℕ} {values : List α}
    (enough : count ≤ (values.filter shows).length)
    (all : ∀ value ∈ values.take count, shows value) :
    (values.filter shows).take count = values.take count := by
  have room : count ≤ values.length :=
    enough.trans (List.length_filter_le _ _)
  have front : (values.take count).filter shows = values.take count :=
    List.filter_eq_self.mpr all
  have parts : values.filter shows = values.take count ++
      (values.drop count).filter shows := by
    conv_lhs => rw [← List.take_append_drop count values]
    rw [List.filter_append, front]
  have length : (values.take count).length = count := by
    rw [List.length_take, Nat.min_eq_left room]
  rw [parts, List.take_left' length]

theorem infix_iff_unbroken {count : ℕ} {values : List α} (some : 0 < count)
    (enough : count ≤ (values.filter shows).length) :
    (values.filter shows).take count <:+: values ↔
      Unbroken shows count values := by
  have visible : ∀ value ∈ (values.filter shows).take count, shows value :=
    fun value member => List.of_mem_filter (List.mem_of_mem_take member)
  have length : ((values.filter shows).take count).length = count := by
    rw [List.length_take, Nat.min_eq_left enough]
  have filled : (values.filter shows).take count ≠ [] := by
    intro empty
    rw [empty] at length
    exact some.ne length
  have later : (values.dropWhile fun value => !shows value) <:+ values :=
    List.dropWhile_suffix _
  have same : (values.dropWhile fun value => !shows value).filter shows =
      values.filter shows := filter_dropWhile_not values
  unfold Unbroken
  simp only
  constructor
  · intro found
    have inside := infix_dropWhile visible filled found
    by_cases long : count ≤ ((values.dropWhile fun value =>
        !shows value).takeWhile shows).length
    · left
      have within : (values.dropWhile fun value =>
          !shows value).take count <+: (values.dropWhile fun value =>
            !shows value).takeWhile shows := by
        apply List.prefix_of_prefix_length_le (List.take_prefix _ _)
          (List.takeWhile_prefix _)
        exact (List.length_take_le _ _).trans long
      exact fun value member => List.mem_takeWhile_imp (within.subset member)
    · right
      rw [not_le] at long
      exact infix_after visible (by rwa [length]) inside
  · rintro (unbroken | repeated)
    · have front := take_filter (by rwa [same]) unbroken
      rw [same] at front
      rw [front]
      exact (List.take_prefix _ _).isInfix.trans later.isInfix
    · exact repeated.trans
        ((List.dropWhile_suffix _).isInfix.trans later.isInfix)

end Consecutive

/-- What is read of a text are seventeen characters that can be printed, and
they stand together in its payload. -/
def ReadTogether (raw : List Char) : Prop :=
  ∀ vin, parseVINResponse raw = some vin → vin.length = 17 ∧
    (∀ character ∈ vin, printable character.toNat = true) ∧
      vin.map Char.toNat <:+: vinPayload raw

/-- If there are enough characters, the first ones are unbroken. -/
def Standing (raw : List Char) : Prop :=
  17 ≤ ((vinPayload raw).filter printable).length →
    Unbroken printable 17 (vinPayload raw)

instance (raw : List Char) : Decidable (Standing raw) :=
  inferInstanceAs (Decidable (_ → Unbroken printable 17 _))

def Ascii (raw : List Char) : Prop :=
  ∀ character ∈ raw, character.toNat < 128

instance (raw : List Char) : Decidable (Ascii raw) :=
  List.decidableBAll _ raw

/-- The texts of which nothing is read but what stands together: the mute ones,
the short ones, and the aligned ones whose characters are unbroken. -/
def Sure (raw : List Char) : Prop :=
  Mute raw ∨ Ascii raw ∧ ((stripped raw).length < 34 ∨
    aligned (textCells raw) = true ∧ Standing raw)

instance (raw : List Char) : Decidable (Sure raw) :=
  inferInstanceAs (Decidable (_ ∨ _ ∧ (_ ∨ _ ∧ _)))

section Short

theorem length_deleteAll (pattern : List Char → Option ℕ) (skip : ℕ)
    (text : List Char) : (deleteAll pattern skip text).length ≤ text.length := by
  induction text generalizing skip with
  | nil =>
      cases skip with
      | zero => exact le_rfl
      | succ skip => exact le_rfl
  | cons character text induction =>
      rw [List.length_cons]
      cases skip with
      | succ skip => exact (induction skip).trans (Nat.le_succ _)
      | zero =>
          rw [deleteAll]
          cases pattern (character :: text) with
          | none => exact Nat.succ_le_succ (induction 0)
          | some length => exact (induction _).trans (Nat.le_succ _)

theorem length_vinChars (vin body : List Char) :
    2 * (vinChars vin body).length ≤ 2 * vin.length + body.length := by
  induction vin, body using vinChars.induct with
  | case1 vin first second body full =>
      rw [vinChars, if_pos full]
      exact Nat.le_add_right _ _
  | case2 vin first second body more unread induction =>
      rw [vinChars, if_neg more, unread]
      simp only [List.length_cons]
      omega
  | case3 vin first second body more read induction =>
      rw [vinChars, if_neg more, read]
      simp only [List.length_cons]
      exact induction.trans (by omega)
  | case4 vin first second body more b read some outside induction =>
      rw [vinChars, if_neg more, read]
      simp only [if_neg some, if_pos outside, List.length_cons]
      omega
  | case5 vin first second body more b read some inside induction =>
      rw [vinChars, if_neg more, read]
      simp only [if_neg some, if_neg inside, List.length_cons]
      rw [List.length_append, List.length_singleton] at induction
      omega
  | case6 vin body short =>
      rw [vinChars]
      · exact Nat.le_add_right _ _
      · exact short

theorem parse_short {raw : List Char} (short : (stripped raw).length < 34) :
    parseVINResponse raw = none := by
  by_cases mute : Mute raw
  · exact parse_mute mute
  · have body := length_deleteAll frameHeader 0 (stripped raw)
    have read : 2 * (vinChars [] (vinBody raw)).length ≤
        (vinBody raw).length := by
      simpa using length_vinChars [] (vinBody raw)
    have same : (vinBody raw).length =
        (deleteAll frameHeader 0 (stripped raw)).length := rfl
    rw [parse_eq mute, if_neg (by omega)]

end Short

private theorem printable_toNat : ∀ code < 128,
    (Char.ofNat code).toNat = code := by
  decide

theorem readTogether_iff {raw : List Char} (spoken : ¬Mute raw)
    (straight : aligned (textCells raw) = true) :
    ReadTogether raw ↔ Standing raw := by
  have read : vinChars [] (vinBody raw) =
      (((vinPayload raw).filter printable).take 17).map Char.ofNat := by
    have cells := @vinChars_aligned _ straight (fun _ => textCells_lt) []
      (Nat.zero_le _)
    rw [printCells_text] at cells
    exact cells
  have back : ((((vinPayload raw).filter printable).take 17).map
      Char.ofNat).map Char.toNat =
        ((vinPayload raw).filter printable).take 17 := by
    rw [List.map_map]
    apply (List.map_congr_left fun byte member => ?_).trans (List.map_id _)
    have shown := List.of_mem_filter (List.mem_of_mem_take member)
    simp only [printable, Bool.and_eq_true, decide_eq_true_eq] at shown
    exact printable_toNat byte (by omega)
  unfold ReadTogether Standing
  rw [parse_eq spoken, read]
  by_cases enough : 17 ≤ ((vinPayload raw).filter printable).length
  · have length : ((((vinPayload raw).filter printable).take 17).map
        Char.ofNat).length = 17 := by
      rw [List.length_map, List.length_take, Nat.min_eq_left enough]
    have shown : ∀ character ∈ (((vinPayload raw).filter
        printable).take 17).map Char.ofNat,
          printable character.toNat = true := by
      intro character member
      have there : character.toNat ∈ ((((vinPayload raw).filter
          printable).take 17).map Char.ofNat).map Char.toNat :=
        List.mem_map_of_mem member
      rw [back] at there
      exact List.of_mem_filter (List.mem_of_mem_take there)
    have unbroken : ((vinPayload raw).filter printable).take 17 <:+:
        vinPayload raw ↔ Unbroken printable 17 (vinPayload raw) :=
      infix_iff_unbroken (by decide) enough
    rw [if_pos length]
    constructor
    · intro together _
      obtain ⟨-, -, inside⟩ := together _ rfl
      rw [back] at inside
      exact unbroken.mp inside
    · intro standing vin same
      obtain rfl := Option.some.inj same
      refine ⟨length, shown, ?_⟩
      rw [back]
      exact unbroken.mpr (standing enough)
  · have length : ¬((((vinPayload raw).filter printable).take 17).map
        Char.ofNat).length = 17 := by
      rw [List.length_map, List.length_take]
      omega
    rw [if_neg length]
    exact iff_of_true (fun vin none => by cases none) fun more =>
      absurd more enough

theorem readTogether_of_none {raw : List Char}
    (unread : parseVINResponse raw = none) : ReadTogether raw := by
  intro vin read
  rw [unread] at read
  cases read

theorem readTogether_of_sure {raw : List Char} (sure : Sure raw) :
    ReadTogether raw := by
  by_cases mute : Mute raw
  · exact readTogether_of_none (parse_mute mute)
  · obtain ⟨-, short | ⟨straight, standing⟩⟩ := sure.resolve_left mute
    · exact readTogether_of_none (parse_short short)
    · exact (readTogether_iff mute straight).mpr standing

/-- A driver reads the VIN of an answer when it is not on a CAN bus, or when the
VIN is nothing but D.  Of any other text it reads only what stands together when
that is sure, and an aligned text must be sure for it. -/
theorem vin_read (driver : Driver) (framing : VinFraming) (spaces echo : Bool)
    (vin : Vin) (raw : List Char) :
    (driver.ReadsVin framing spaces echo vin ↔
      framing = .plain ∨ ∀ character ∈ vin.chars, character = 'D') ∧
    (Sure raw → ReadTogether raw) ∧
    (Ascii raw → aligned (textCells raw) = true →
      (ReadTogether raw ↔ Sure raw)) := by
  refine ⟨?_, readTogether_of_sure, ?_⟩
  · cases framing with
    | plain =>
        exact iff_of_true (plain_reads driver spaces echo vin) (.inl rfl)
    | can padding =>
        rw [can_reads_iff]
        constructor
        · exact .inr
        · rintro (plain | all)
          · cases plain
          · exact all
  · intro ascii straight
    refine ⟨fun together => ?_, readTogether_of_sure⟩
    by_cases mute : Mute raw
    · exact .inl mute
    · exact .inr ⟨ascii, .inr ⟨straight,
        (readTogether_iff mute straight).mp together⟩⟩

/-- `1D4GP00R55B123456`. -/
def dodgeVin : Vin where
  chars := "1D4GP00R55B123456".toList
  length := rfl
  letters := @of_decide_eq_true _ (List.decidableBAll _ _) rfl

/-- Its answer off a CAN bus, while the adapter still searches. -/
def searchedAnswer : List Char :=
  "SEARCHING...\r".toList ++ VinFraming.plain.print true dodgeVin

theorem vin_read_dodge :
    (Driver.bluetooth.ReadsVin (.can []) true true dodgeVin ↔
      VinFraming.can [] = .plain ∨
        ∀ character ∈ dodgeVin.chars, character = 'D') ∧
    ReadTogether searchedAnswer ∧ Sure searchedAnswer := by
  have read := vin_read .bluetooth (.can []) true true dodgeVin searchedAnswer
  have sure : Sure searchedAnswer := by decide +kernel
  exact ⟨read.1, read.2.1 sure,
    (read.2.2 (by decide +kernel) (by decide +kernel)).mp (read.2.1 sure)⟩

/-- The answer on a CAN bus is not read. -/
theorem vin_unread :
    ¬ ∀ (driver : Driver) (framing : VinFraming) (spaces echo : Bool)
      (vin : Vin), driver.ReadsVin framing spaces echo vin := by
  intro all
  have arrives : [(VinFraming.can []).answer true true dodgeVin ++
      [prompt]].flatten = (VinFraming.can []).answer true true dodgeVin ++
        [prompt] := by
    decide +kernel
  have read := all .bluetooth (.can []) true true dodgeVin _ arrives
  revert read
  decide +kernel

end Obd

end Mousstec
