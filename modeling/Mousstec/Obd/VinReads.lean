import Mousstec.Obd.VinAnswers

/-!
# When a VIN is read

What the drivers return for an answer in each framing, and for any other text:
nothing, or what the search finds in it.
-/

namespace Mousstec

namespace Obd

section Parser

variable {raw text part : List Char}

theorem includes_iff : includes part text = true ↔ part <:+: text := by
  rw [includes, List.any_eq_true, List.infix_iff_prefix_suffix]
  constructor
  · rintro ⟨tail, listed, starts⟩
    exact ⟨tail, List.isPrefixOf_iff_prefix.mp starts,
      (List.mem_tails tail text).mp listed⟩
  · rintro ⟨tail, starts, ends⟩
    exact ⟨tail, (List.mem_tails tail text).mpr ends,
      List.isPrefixOf_iff_prefix.mpr starts⟩

/-- The texts for which nothing is read. -/
def Mute (raw : List Char) : Prop :=
  raw = [] ∨ includes "NO DATA".toList raw ∨ includes ['?'] raw ∨
    ¬includes vinHeader (stripped raw)

instance (raw : List Char) : Decidable (Mute raw) :=
  inferInstanceAs (Decidable (_ ∨ _ ∨ _ ∨ ¬_))

theorem parse_mute (mute : Mute raw) : parseVINResponse raw = none := by
  unfold parseVINResponse
  split
  · rfl
  · rename_i talk
    rcases mute with empty | no | question | absent
    · exact absurd (.inl empty) talk
    · exact absurd (.inr (.inl no)) talk
    · exact absurd (.inr (.inr question)) talk
    · exact if_pos (by simpa [stripped] using absent)

theorem parse_eq (spoken : ¬Mute raw) :
    parseVINResponse raw =
      if (vinChars [] (vinBody raw)).length = 17 then
        some (vinChars [] (vinBody raw))
      else none := by
  unfold Mute at spoken
  push Not at spoken
  obtain ⟨some, data, question, header⟩ := spoken
  have talk : ¬(raw = [] ∨ includes "NO DATA".toList raw = true ∨
      includes ['?'] raw = true) := by
    rintro (none | no | unknown)
    · exact some none
    · exact data no
    · exact question unknown
  have found : ¬(!includes vinHeader (compact (withoutNumbers raw))) = true := by
    rw [Bool.not_eq_true', Bool.not_eq_false]
    exact header
  rw [parseVINResponse, if_neg talk, if_neg found]

theorem spoken_of_header (plain : 'N' ∉ raw) (known : '?' ∉ raw)
    (header : vinHeader <:+: stripped raw) : ¬Mute raw := by
  rintro (rfl | no | question | absent)
  · exact absurd header (by decide)
  · exact plain ((includes_iff.mp no).subset (by decide))
  · exact known ((includes_iff.mp question).subset (by decide))
  · exact absent (includes_iff.mpr header)

theorem parse_eq_some {vin : List Char} (plain : 'N' ∉ raw) (known : '?' ∉ raw)
    (header : vinHeader <:+: stripped raw) (length : vin.length = 17) :
    parseVINResponse raw = some vin ↔ vinChars [] (vinBody raw) = vin := by
  rw [parse_eq (spoken_of_header plain known header)]
  constructor
  · intro read
    split at read
    · exact Option.some.inj read
    · cases read
  · rintro rfl
    exact if_pos length

end Parser

theorem vinPrint_chars (framing : VinFraming) (spaces : Bool) (vin : Vin) :
    framing.print spaces vin ⊆ answerChars := by
  cases framing with
  | plain =>
      intro character member
      obtain ⟨bytes, -, there⟩ := List.mem_flatMap.mp member
      exact List.append_subset.mpr
        ⟨printBytes_chars spaces bytes, by decide⟩ there
  | can padding =>
      exact List.append_subset.mpr
        ⟨by decide, printConsecutive_chars spaces 0 _⟩

theorem vinAnswer_chars (framing : VinFraming) (spaces echo : Bool)
    (vin : Vin) : framing.answer spaces echo vin ⊆ answerChars := by
  refine List.append_subset.mpr ⟨List.append_subset.mpr
    ⟨?_, vinPrint_chars framing spaces vin⟩, by decide⟩
  cases echo with
  | false => exact List.nil_subset _
  | true => decide

theorem vinPrint_starts (framing : VinFraming) (spaces : Bool) (vin : Vin) :
    ∃ first second rest, framing.print spaces vin = first :: second :: rest ∧
      isSpace first = false ∧ isSpace second = false ∧
        ¬(first.toUpper = '0' ∧ second.toUpper = '9') := by
  cases framing with
  | can padding => exact ⟨'0', '1', _, rfl, by decide, by decide, by decide⟩
  | plain =>
      have length := vin.length_bytes
      cases bytes : vin.bytes with
      | nil =>
          rw [bytes] at length
          cases length
      | cons byte rest =>
          refine ⟨'4', '9', ?_, ?_, by decide, by decide, by decide⟩
          · exact ((VinFraming.plain).print spaces vin).drop 2
          · rw [VinFraming.print, bytes]
            rfl

theorem stripped_answer (framing : VinFraming) (spaces echo : Bool)
    (vin : Vin) :
    stripped (stripEcho vinCmd (clean (framing.answer spaces echo vin))) =
      stripped (framing.print spaces vin) := by
  cases echo with
  | true =>
      have whole : framing.answer spaces true vin =
          vinCmd ++ '\r' :: (framing.print spaces vin ++ ['\r']) := by
        simp [VinFraming.answer]
      rw [whole, stripped_echo, stripped_return]
  | false =>
      obtain ⟨first, second, rest, starts, letter, letter', other⟩ :=
        vinPrint_starts framing spaces vin
      have whole : framing.answer spaces false vin =
          first :: second :: (rest ++ ['\r']) := by
        simp [VinFraming.answer, starts]
      rw [whole, stripped_clean _ letter letter' other, starts]
      exact stripped_return (first :: second :: rest)

/-- A driver reads the VIN of an answer, however the answer arrives. -/
def Driver.ReadsVin (driver : Driver) (framing : VinFraming)
    (spaces echo : Bool) (vin : Vin) : Prop :=
  ∀ pieces : List (List Char),
    pieces.flatten = framing.answer spaces echo vin ++ [prompt] →
      driver.readVIN pieces = some (some vin.chars)

theorem readsVin_iff {driver : Driver} {framing : VinFraming}
    {spaces echo : Bool} {vin : Vin}
    (header : vinHeader <:+: stripped (framing.print spaces vin)) :
    driver.ReadsVin framing spaces echo vin ↔
      vinChars [] (deleteAll frameHeader 0
        (stripped (framing.print spaces vin))) = vin.chars := by
  have absent : ∀ character ∉ answerChars,
      character ∉ framing.answer spaces echo vin :=
    fun character foreign member =>
      foreign (vinAnswer_chars framing spaces echo vin member)
  have left : ∀ character ∉ answerChars, character ∉
      stripEcho vinCmd (clean (framing.answer spaces echo vin)) := by
    intro character foreign member
    rcases mem_stripEcho member with there | space
    · exact absent character foreign there
    · rw [space] at foreign
      exact foreign (by decide)
  have same := stripped_answer framing spaces echo vin
  have read : ∀ pieces : List (List Char),
      pieces.flatten = framing.answer spaces echo vin ++ [prompt] →
        (driver.readVIN pieces = some (some vin.chars) ↔
          vinChars [] (deleteAll frameHeader 0
            (stripped (framing.print spaces vin))) = vin.chars) := by
    intro pieces arrives
    have heard := driver.heard_of_pieces (absent prompt (by decide))
      (absent 'R' (by decide)) List.not_mem_nil arrives
    have body : vinBody (stripEcho vinCmd
        (clean (framing.answer spaces echo vin))) = deleteAll frameHeader 0
          (stripped (framing.print spaces vin)) :=
      congrArg (deleteAll frameHeader 0) same
    rw [Driver.readVIN, heard, Option.map_some, Option.some.injEq,
      parse_eq_some (left 'N' (by decide)) (left '?' (by decide))
        (by rw [same]; exact header) vin.length, body]
  constructor
  · intro reads
    have arrives : [framing.answer spaces echo vin ++ [prompt]].flatten =
        framing.answer spaces echo vin ++ [prompt] := by
      simp
    exact (read _ arrives).mp (reads _ arrives)
  · exact fun reads pieces arrives => (read pieces arrives).mpr reads

theorem plain_stripped (spaces : Bool) (vin : Vin) :
    stripped (VinFraming.plain.print spaces vin) =
      (vinLines 1 ([0, 0, 0] ++ vin.bytes)).flatten.flatMap printByte := by
  rw [VinFraming.print]
  generalize vinLines 1 ([0, 0, 0] ++ vin.bytes) = lines
  rw [stripped_plain]
  · induction lines with
    | nil => rfl
    | cons line lines induction =>
        rw [List.flatMap_cons, compact_append, compact_return,
          compact_printBytes, induction, List.flatten_cons,
          List.flatMap_append]
  · intro member
    obtain ⟨line, -, there⟩ := List.mem_flatMap.mp member
    rcases List.mem_append.mp there with printed | last
    · exact printBytes_plain spaces line printed
    · exact absurd (List.mem_singleton.mp last) (by decide)

theorem plain_reads (driver : Driver) (spaces echo : Bool) (vin : Vin) :
    driver.ReadsVin .plain spaces echo vin := by
  have length := vin.length_bytes
  have between := vin.bytes_between
  have plain : ∀ byte ∈ [0, 0, 0] ++ vin.bytes, byte < 0x90 ∧ byte ≠ 0x49 := by
    intro byte member
    rcases List.mem_append.mp member with zero | there
    · simp only [List.mem_cons, List.not_mem_nil, or_false] at zero
      omega
    · obtain ⟨-, high, other⟩ := between byte there
      exact ⟨by omega, other⟩
  have four : ([0, 0, 0] ++ vin.bytes).length % 4 = 0 := by
    rw [List.length_append, length]
    rfl
  have few : 1 + ([0, 0, 0] ++ vin.bytes).length < 0x90 := by
    rw [List.length_append, length]
    decide
  obtain ⟨low, straight, left⟩ := vinLines_flatten 1 few four plain
  have small : ∀ value, Cell.byte value ∈ (vinLines 1
      ([0, 0, 0] ++ vin.bytes)).flatten.map .byte → value < 256 := by
    intro value member
    obtain ⟨_, listed, same⟩ := List.mem_map.mp member
    obtain rfl := Cell.byte.inj same
    exact (low _ listed).trans (by decide)
  rw [readsVin_iff]
  · rw [plain_stripped, ← printCells_bytes,
      vinChars_aligned straight small (by decide), left, List.filter_append,
      vin.printable_bytes]
    have zeros : [0, 0, 0].filter printable = [] := by decide
    rw [zeros, List.nil_append, List.nil_append, List.length_nil, Nat.sub_zero,
      List.take_of_length_le length.le, vin.chars_bytes]
  · rw [plain_stripped]
    cases bytes : vin.bytes with
    | nil =>
        rw [bytes] at length
        cases length
    | cons byte rest => exact List.IsPrefix.isInfix ⟨_, rfl⟩

section Can

variable {bytes : List ℕ}

theorem printNumbered_starts {spaces : Bool} {number : ℕ} {rest tail : List Char}
    {character : Char}
    (starts : printNumbered spaces number bytes ++ rest = character :: tail) :
    isSpace character = false ∧ character ≠ ':' :=
  hexChar_starts starts

theorem can_stripped (padding : List (List (Fin 256))) (spaces : Bool)
    (vin : Vin) : ∃ rest,
      stripped ((VinFraming.can padding).print spaces vin) =
        ['0', '1', '4'] ++ ([0x49, 0x02, 0x01].flatMap printByte ++
          (vin.bytes.flatMap printByte ++ rest)) := by
  have parts : vin.bytes.take 3 ++ ((vin.bytes.drop 3).take 7 ++
      vin.bytes.drop 10) = vin.bytes := by
    have later : vin.bytes.drop 10 = (vin.bytes.drop 3).drop 7 := by
      rw [List.drop_drop]
    rw [later, List.take_append_drop, List.take_append_drop]
  refine ⟨stripped (printConsecutive spaces 3
    (padding.map fun line => line.map Fin.val)), ?_⟩
  have whole : (VinFraming.can padding).print spaces vin =
      ['0', '1', '4'] ++ '\r' ::
        (printNumbered spaces 0 ([0x49, 0x02, 0x01] ++ vin.bytes.take 3) ++
          (printNumbered spaces 1 ((vin.bytes.drop 3).take 7) ++
            (printNumbered spaces 2 (vin.bytes.drop 10) ++
              printConsecutive spaces 3
                (padding.map fun line => line.map Fin.val)))) := rfl
  have length : compact ['0', '1', '4'] = ['0', '1', '4'] := by decide
  rw [whole, stripped_line (by decide) fun _ _ => printNumbered_starts, length,
    stripped_numbered (by decide) spaces _ fun _ _ => printNumbered_starts,
    stripped_numbered (by decide) spaces _ fun _ _ => printNumbered_starts,
    stripped_numbered (by decide) spaces _ fun _ _ => printConsecutive_starts]
  conv_rhs => rw [← parts]
  simp only [List.flatMap_append, List.append_assoc]

private theorem ofNat_toNat : ∀ value < 128,
    (Char.ofNat value).toNat = value := by
  decide

/-- The bytes are read one digit early: right only if their digits are all the
same. -/
theorem shifted_iff (between : ∀ byte ∈ bytes,
      0x30 ≤ byte ∧ byte ≤ 0x5A ∧ byte ≠ 0x49) {vin : List Char}
    (length : vin.length + bytes.length = 17) (rest : List Char) :
    vinChars vin ('4' :: deleteAll frameHeader 0
        (bytes.flatMap printByte ++ rest)) = vin ++ bytes.map Char.ofNat ↔
      ∀ byte ∈ bytes, byte = 0x44 := by
  induction bytes generalizing vin with
  | nil =>
      rw [vinChars_full (Nat.le_of_eq length.symm)]
      simp
  | cons byte bytes induction =>
      obtain ⟨low, high, other⟩ := between byte List.mem_cons_self
      have between' := fun other member =>
        between other (List.mem_cons_of_mem byte member)
      rw [List.length_cons] at length
      have first : frameHeader (hexChar (byte / 16) :: hexChar (byte % 16) ::
          (bytes.flatMap printByte ++ rest)) = none := by
        apply frameHeader_none
        rintro ⟨four, nine⟩
        have four := hexChar_injective (by omega) (by omega : 4 < 16) four
        have nine := hexChar_injective (by omega) (by omega : 9 < 16) nine
        omega
      have shown : printable (16 * 4 + byte / 16) = true := by
        simp only [printable, Bool.and_eq_true, decide_eq_true_eq]
        omega
      have more : vin.length < 17 := by omega
      have turn : vinChars vin ('4' :: deleteAll frameHeader 0
          ((byte :: bytes).flatMap printByte ++ rest)) =
            vinChars (vin ++ [Char.ofNat (16 * 4 + byte / 16)])
              (deleteAll frameHeader 0 (hexChar (byte % 16) ::
                (bytes.flatMap printByte ++ rest))) := by
        have digits : vinChars vin (hexChar 4 :: hexChar (byte / 16) ::
            deleteAll frameHeader 0 (hexChar (byte % 16) ::
              (bytes.flatMap printByte ++ rest))) = _ :=
          vinChars_digits more (by omega) (by omega)
        rw [if_pos shown, ← deleteAll_none first] at digits
        exact digits
      rw [turn, List.forall_mem_cons]
      by_cases same : byte = 0x44
      · subst same
        have length' : (vin ++ [Char.ofNat 0x44]).length + bytes.length =
            17 := by
          rw [List.length_append, List.length_singleton]
          omega
        have next : vinChars (vin ++ [Char.ofNat 0x44]) (deleteAll frameHeader
            0 ('4' :: (bytes.flatMap printByte ++ rest))) =
              vinChars (vin ++ [Char.ofNat 0x44]) ('4' ::
                deleteAll frameHeader 0 (bytes.flatMap printByte ++ rest)) := by
          cases bytes with
          | nil =>
              rw [vinChars_full (Nat.le_of_eq length'.symm),
                vinChars_full (Nat.le_of_eq length'.symm)]
          | cons second bytes =>
              obtain ⟨low, high, -⟩ := between' second List.mem_cons_self
              congr 1
              apply deleteAll_none
              apply frameHeader_none
              rintro ⟨-, nine⟩
              have nine := hexChar_injective (by omega) (by omega : 9 < 16)
                nine
              omega
        have later := induction between' length'
        rw [List.append_assoc, List.singleton_append] at later
        exact (Eq.congr_left next).trans (later.trans (by simp))
      · refine iff_of_false (fun read => same ?_) fun all => same all.1
        have starts := vinChars_prefix
          (vin ++ [Char.ofNat (16 * 4 + byte / 16)])
          (deleteAll frameHeader 0 (hexChar (byte % 16) ::
            (bytes.flatMap printByte ++ rest)))
        rw [read, List.map_cons, List.prefix_append_right_inj,
          List.singleton_prefix_cons_iff] at starts
        have values := congrArg Char.toNat starts
        rw [ofNat_toNat _ (by omega), ofNat_toNat _ (by omega)] at values
        omega

theorem can_reads_iff (driver : Driver) (padding : List (List (Fin 256)))
    (spaces echo : Bool) (vin : Vin) :
    driver.ReadsVin (.can padding) spaces echo vin ↔
      ∀ character ∈ vin.chars, character = 'D' := by
  obtain ⟨rest, whole⟩ := can_stripped padding spaces vin
  have header : vinHeader <:+:
      stripped ((VinFraming.can padding).print spaces vin) := by
    rw [whole]
    exact ⟨['0', '1', '4'], _, rfl⟩
  have frames : frameHeader ([0x49, 0x02, 0x01].flatMap printByte ++
      (vin.bytes.flatMap printByte ++ rest)) = some (5 + 1) :=
    frameHeader_eq_some.mpr ⟨'0', '1', _, rfl, by decide, by decide, rfl⟩
  have deleted : deleteAll frameHeader 0 (['0', '1', '4'] ++
      ([0x49, 0x02, 0x01].flatMap printByte ++
        (vin.bytes.flatMap printByte ++ rest))) = '0' :: '1' :: '4' ::
          deleteAll frameHeader 0 (vin.bytes.flatMap printByte ++ rest) := by
    have first := deleteAll_some frames
    have passed : ∀ first second text, ¬(first = '4' ∧ second = '9') →
        deleteAll frameHeader 0 (first :: second :: text) =
          first :: deleteAll frameHeader 0 (second :: text) :=
      fun first second text other => deleteAll_none (frameHeader_none other)
    exact (passed '0' '1' _ (by decide)).trans (congrArg _
      ((passed '1' '4' _ (by decide)).trans (congrArg _
        ((passed '4' '4' _ (by decide)).trans (congrArg _ first)))))
  have length : vinChars [] ('0' :: '1' :: '4' :: deleteAll frameHeader 0
      (vin.bytes.flatMap printByte ++ rest)) = vinChars [] ('4' ::
        deleteAll frameHeader 0 (vin.bytes.flatMap printByte ++ rest)) :=
    vinChars_digits (by decide) (by decide : 0 < 16) (by decide : 1 < 16)
  have shifted := @shifted_iff vin.bytes vin.bytes_between []
    (by rw [vin.length_bytes]; rfl) rest
  rw [List.nil_append, vin.chars_bytes] at shifted
  rw [readsVin_iff header, whole, deleted, length, shifted, Vin.bytes,
    List.forall_mem_map]
  apply forall₂_congr
  intro character member
  constructor
  · intro same
    have back := congrArg Char.ofNat same
    rwa [Char.ofNat_toNat] at back
  · rintro rfl
    rfl

end Can

end Obd

end Mousstec
