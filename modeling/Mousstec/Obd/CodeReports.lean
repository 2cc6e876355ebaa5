import Mousstec.Obd.PlainAnswers

/-!
# Which answers are read right

On a CAN bus an answer in one frame is read as it is meant, and an answer in
several never is: the line numbers are read with the codes.
-/

namespace Mousstec

namespace Obd

def numberedValues (number : ℕ) : List (List ℕ) → List ℕ
  | [] => []
  | bytes :: lines =>
      (number % 16) :: bytes ++ numberedValues (number + 1) lines

theorem reads_printConsecutive (spaces : Bool) (number : ℕ)
    {lines : List (List ℕ)}
    (small : ∀ bytes ∈ lines, ∀ byte ∈ bytes, byte < 256) :
    Reads (compact (printConsecutive spaces number lines))
      (numberedValues number lines) := by
  induction lines generalizing number with
  | nil => exact .nil
  | cons bytes lines induction =>
      rw [printConsecutive, compact_append, compact_printNumbered]
      have numbered := reads_number (Nat.mod_lt number (by decide : 0 < 16))
      have line := numbered.append (reads_bytes (small bytes (.head _)))
      exact line.append
        (induction (number + 1) fun other there => small other (.tail _ there))

theorem consecutive_lt {filler : ℕ} (small : filler < 256) {bytes : List ℕ}
    (small' : ∀ byte ∈ bytes, byte < 256) :
    ∀ line ∈ consecutive filler bytes, ∀ byte ∈ line, byte < 256 := by
  induction bytes using consecutive.induct with
  | case1 =>
      intro line member
      cases member
  | case2 a b c d e f g bytes induction =>
      intro line member
      rw [consecutive] at member
      rcases List.mem_cons.mp member with rfl | there
      · intro byte inside
        exact small' byte (List.mem_append_left bytes inside)
      · exact induction (fun byte inside =>
          small' byte (List.mem_append_right [a, b, c, d, e, f, g] inside)) line
            there
  | case3 bytes some short =>
      intro line member
      rw [consecutive] at member
      · obtain rfl := List.mem_singleton.mp member
        intro byte inside
        rcases List.mem_append.mp inside with here | filled
        · exact small' byte here
        · rw [List.eq_of_mem_replicate filled]
          exact small
      · exact some
      · exact short

theorem consecutive_length (filler : ℕ) (bytes : List ℕ) :
    ∀ line ∈ consecutive filler bytes, line.length = 7 := by
  induction bytes using consecutive.induct with
  | case1 =>
      intro line member
      cases member
  | case2 a b c d e f g bytes induction =>
      intro line member
      rw [consecutive] at member
      rcases List.mem_cons.mp member with rfl | there
      · rfl
      · exact induction line there
  | case3 bytes some short =>
      intro line member
      rw [consecutive] at member
      · obtain rfl := List.mem_singleton.mp member
        apply length_padded
        by_contra long
        match bytes, short, long with
        | a :: b :: c :: d :: e :: f :: g :: rest, short, _ =>
            exact short a b c d e f g rest rfl
        | [], _, long => exact long (by simp)
        | [_], _, long => exact long (by simp)
        | [_, _], _, long => exact long (by simp)
        | [_, _, _], _, long => exact long (by simp)
        | [_, _, _, _], _, long => exact long (by simp)
        | [_, _, _, _, _], _, long => exact long (by simp)
        | [_, _, _, _, _, _], _, long => exact long (by simp)
      · exact some
      · exact short

theorem consecutive_ne_nil (filler : ℕ) {bytes : List ℕ}
    (some : bytes ≠ []) : consecutive filler bytes ≠ [] := by
  intro none
  unfold consecutive at none
  split at none
  · exact some rfl
  · cases none
  · cases none

theorem sum_consecutive (filler : ℕ) (bytes : List ℕ) :
    bytes.sum ≤ (consecutive filler bytes).flatten.sum := by
  induction bytes using consecutive.induct with
  | case1 => exact le_rfl
  | case2 a b c d e f g bytes induction =>
      rw [consecutive, List.flatten_cons, List.sum_append]
      simp only [List.sum_cons, List.sum_nil]
      omega
  | case3 bytes some short =>
      rw [consecutive]
      · rw [List.flatten_singleton, padded, List.sum_append]
        omega
      · exact some
      · exact short

theorem numberedValues_length (number : ℕ) {lines : List (List ℕ)}
    (seven : ∀ line ∈ lines, line.length = 7) :
    (numberedValues number lines).length = 8 * lines.length := by
  induction lines generalizing number with
  | nil => rfl
  | cons bytes lines induction =>
      have length := seven bytes (.head _)
      have rest : (numberedValues (number + 1) lines).length =
          8 * lines.length :=
        induction (number + 1) fun line there => seven line (.tail _ there)
      simp only [numberedValues, List.length_append, List.length_cons, length,
        rest]
      omega

theorem sum_numberedValues (number : ℕ) (lines : List (List ℕ)) :
    lines.flatten.sum ≤ (numberedValues number lines).sum := by
  induction lines generalizing number with
  | nil => exact le_rfl
  | cons bytes lines induction =>
      have rest := induction (number + 1)
      simp only [numberedValues, List.flatten_cons, List.sum_append,
        List.sum_cons]
      omega

theorem sliceAfter_header (mode : Mode) (text : List Char) :
    sliceAfter mode.header (mode.header ++ text) = some text := by
  cases mode <;> simp [sliceAfter, Mode.header]

theorem sliceAfter_digit (mode : Mode) (digit : Char) (text : List Char) :
    sliceAfter mode.header (digit :: '0' :: ':' :: mode.header ++ text) =
      some text := by
  cases mode <;> simp [sliceAfter, Mode.header, List.isPrefixOf]

theorem sliceAfter_length (mode : Mode) {first : Char} (low : first ≠ '4')
    (second third : Char) (text : List Char) :
    sliceAfter mode.header
        (first :: second :: third :: '0' :: ':' :: mode.header ++ text) =
      some text ∨
      sliceAfter mode.header
        (first :: second :: third :: '0' :: ':' :: mode.header ++ text) =
        some ('0' :: ':' :: mode.header ++ text) := by
  have begins : sliceAfter mode.header
      (first :: second :: third :: '0' :: ':' :: mode.header ++ text) =
        sliceAfter mode.header
          (second :: third :: '0' :: ':' :: mode.header ++ text) := by
    have other : ¬mode.header.isPrefixOf
        (first :: second :: third :: '0' :: ':' :: mode.header ++ text) := by
      cases mode <;> simp [Mode.header, List.isPrefixOf, Ne.symm low]
    simp only [List.cons_append, sliceAfter] at other ⊢
    rw [if_neg other]
  rw [begins, List.cons_append, sliceAfter]
  split
  · exact .inr rfl
  · exact .inl (sliceAfter_digit mode third text)

/-- A reply is read without its echo; a length that begins with the command loses
two digits. -/
theorem compact_answer {framing : Framing} {mode : Mode} {spaces : Bool}
    {codes : List TroubleCode} {first second : ℕ} {text : List Char}
    (echo : Bool) (begins : framing.print mode spaces codes =
      hexChar first :: hexChar second :: text) :
    compact (stripEcho mode.cmd
        (clean (framing.answer mode spaces echo codes))) =
      if echo = false ∧ mode.cmd = [hexChar first, hexChar second] then
        compact text
      else compact (framing.print mode spaces codes) := by
  obtain ⟨letter, upper, -⟩ := hexDigits_plain _ (hexChar_mem first)
  obtain ⟨letter', upper', -⟩ := hexDigits_plain _ (hexChar_mem second)
  have cmd : toUpperCase mode.cmd = mode.cmd := by cases mode <;> decide
  have two : mode.cmd.length = 2 := by cases mode <;> rfl
  cases echo with
  | false =>
      have whole : framing.answer mode spaces false codes =
          hexChar first :: hexChar second :: (text ++ ['\r']) := by
        simp [Framing.answer, begins]
      rw [whole, compact_stripEcho letter letter' _ two, cmd, upper, upper',
        compact_return, begins]
      by_cases same : mode.cmd = [hexChar first, hexChar second]
      · rw [if_pos same, if_pos ⟨rfl, same⟩]
      · rw [if_neg same, if_neg fun both => same both.2]
        exact compact_return (hexChar first :: hexChar second :: text)
  | true =>
      have none : ¬(true = false ∧
          mode.cmd = [hexChar first, hexChar second]) := fun both => by
        cases both.1
      rw [if_neg none]
      obtain ⟨a, b, same, letters⟩ : ∃ a b, mode.cmd = [a, b] ∧
          (isSpace a = false ∧ isSpace b = false) ∧
            toUpperCase mode.cmd = [a.toUpper, b.toUpper] := by
        cases mode with
        | stored => exact ⟨'0', '3', rfl, by decide, by decide⟩
        | pending => exact ⟨'0', '7', rfl, by decide, by decide⟩
        | permanent => exact ⟨'0', 'A', rfl, by decide, by decide⟩
      obtain ⟨⟨spaced, spaced'⟩, capital⟩ := letters
      have whole : framing.answer mode spaces true codes = a :: b ::
          ('\r' :: framing.print mode spaces codes ++ ['\r']) := by
        simp [Framing.answer, same]
      rw [whole, compact_stripEcho spaced spaced' _ two, if_pos capital,
        compact_return, compact_cons_space (by decide)]

section Answers

variable (mode : Mode) (spaces echo : Bool) (codes : List TroubleCode)

theorem slice_answer {framing : Framing} {bytes : List ℕ} {text : List Char}
    (begins : framing.print mode spaces codes =
      printBytes spaces [mode.answerByte] ++ text)
    (digits : compact (framing.print mode spaces codes) =
      (mode.answerByte :: bytes).flatMap printByte) :
    sliceAfter mode.header (compact (stripEcho mode.cmd
        (clean (framing.answer mode spaces echo codes)))) =
      some (bytes.flatMap printByte) := by
  have begins' : framing.print mode spaces codes =
      hexChar (mode.answerByte / 16) :: hexChar (mode.answerByte % 16) ::
        ((if spaces then [' '] else []) ++ text) := by
    rw [begins]
    simp [printBytes, printByte]
  have other : ¬(echo = false ∧ mode.cmd = [hexChar (mode.answerByte / 16),
      hexChar (mode.answerByte % 16)]) := by
    rintro ⟨-, same⟩
    revert same
    cases mode <;> decide
  rw [compact_answer echo begins', if_neg other, digits, List.flatMap_cons,
    printByte_answerByte]
  exact sliceAfter_header mode _

theorem slice_plain : sliceAfter mode.header (compact (stripEcho mode.cmd
    (clean (Framing.plain.answer mode spaces echo codes)))) =
      some ((plainRest mode codes).flatMap printByte) := by
  have digits : ∀ lines : List (List ℕ),
      compact (lines.flatMap fun bytes => printBytes spaces bytes ++ ['\r']) =
        lines.flatten.flatMap printByte := by
    intro lines
    induction lines with
    | nil => rfl
    | cons bytes lines induction =>
        rw [List.flatMap_cons, compact_append, compact_return,
          compact_printBytes, induction, List.flatten_cons, List.flatMap_append]
  obtain ⟨bytes, lines, begins⟩ : ∃ bytes lines, plainLines mode.answerByte
      codes = (mode.answerByte :: bytes) :: lines := by
    unfold plainLines
    split
    · exact ⟨_, _, rfl⟩
    · exact ⟨_, _, rfl⟩
  apply slice_answer mode spaces echo codes
  · have apart : printBytes spaces (mode.answerByte :: bytes) =
        printBytes spaces [mode.answerByte] ++ printBytes spaces bytes := by
      simp [printBytes]
    rw [Framing.print, begins, List.flatMap_cons, apart, List.append_assoc,
      List.append_assoc]
  · rw [Framing.print, digits, plainLines_flatten]

theorem slice_single : sliceAfter mode.header (compact (stripEcho mode.cmd
    (clean (Framing.single.answer mode spaces echo codes)))) =
      some ((codes.length :: codeBytes codes).flatMap printByte) := by
  apply slice_answer mode spaces echo codes
  · have apart : printBytes spaces (canBytes mode.answerByte codes) =
        printBytes spaces [mode.answerByte] ++
          printBytes spaces (codes.length :: codeBytes codes) := by
      simp [printBytes, canBytes]
    rw [Framing.print, apart, List.append_assoc]
  · rw [Framing.print, compact_return, compact_printBytes, canBytes]

def multiValues (filler : Fin 256) (codes : List TroubleCode) : List ℕ :=
  (codeBytes codes).take 4 ++
    numberedValues 1 (consecutive filler ((codeBytes codes).drop 4))

theorem multiValues_even (filler : Fin 256) :
    (multiValues filler codes).length % 2 = 0 := by
  have length := length_codeBytes codes
  have rest := numberedValues_length 1
    (consecutive_length filler.val ((codeBytes codes).drop 4))
  rw [multiValues, List.length_append, List.length_take, rest]
  omega

variable (filler : Fin 256) {codes} (several : 3 ≤ codes.length)

include several in
theorem multiValues_sum :
    (codeBytes codes).sum < (multiValues filler codes).sum := by
  have length := length_codeBytes codes
  have whole : (codeBytes codes).sum =
      ((codeBytes codes).take 4).sum + ((codeBytes codes).drop 4).sum := by
    rw [← List.sum_append, List.take_append_drop]
  have left : (codeBytes codes).drop 4 ≠ [] := by
    intro none
    have short := List.drop_eq_nil_iff.mp none
    omega
  obtain ⟨line, lines, listed⟩ := List.exists_cons_of_ne_nil
    (consecutive_ne_nil filler.val left)
  have filled := sum_consecutive filler.val ((codeBytes codes).drop 4)
  have rest := sum_numberedValues 2 lines
  rw [listed, List.flatten_cons, List.sum_append] at filled
  rw [multiValues, listed, List.sum_append, numberedValues, List.cons_append,
    List.sum_cons, List.sum_append]
  simp only [Nat.reduceMod, Nat.reduceAdd] at *
  omega

def multiRest (spaces : Bool) (filler : Fin 256) (codes : List TroubleCode) :
    List Char :=
  (codes.length :: (codeBytes codes).take 4).flatMap printByte ++
    compact (printConsecutive spaces 1
      (consecutive filler ((codeBytes codes).drop 4)))

variable (few : codes.length < 256)

include few in
theorem reads_multiRest : Reads (multiRest spaces filler codes)
    (codes.length :: multiValues filler codes) := by
  have first : Reads
      ((codes.length :: (codeBytes codes).take 4).flatMap printByte)
      (codes.length :: (codeBytes codes).take 4) := by
    apply reads_bytes
    intro byte member
    rcases List.mem_cons.mp member with rfl | there
    · exact few
    · exact codeBytes_lt byte (List.mem_of_mem_take there)
  exact first.append (reads_printConsecutive spaces 1 (consecutive_lt filler.isLt
    fun byte member => codeBytes_lt byte (List.mem_of_mem_drop member)))

include few in
/-- Several frames are read from their first answer byte on, or from before it
if their length looks like one. -/
theorem slice_multi : ∃ cursor, sliceAfter mode.header
      (compact (stripEcho mode.cmd (clean
        ((Framing.multi filler).answer mode spaces echo codes)))) =
        some cursor ∧
      (cursor = multiRest spaces filler codes ∨
        cursor = '0' :: ':' :: mode.header ++
          multiRest spaces filler codes) := by
  have length := length_codeBytes codes
  have bytes : (canBytes mode.answerByte codes).length =
      2 + 2 * codes.length := by
    simp only [canBytes, List.length_cons, length]
    omega
  have low : hexChar ((canBytes mode.answerByte codes).length / 256) ≠ '4' := by
    have all : ∀ digit < 3, hexChar digit ≠ '4' := by decide
    exact all _ (by omega)
  have lines : compact (printNumbered spaces 0
        ((canBytes mode.answerByte codes).take 6) ++
      printConsecutive spaces 1 (consecutive filler
        ((canBytes mode.answerByte codes).drop 6))) =
      '0' :: ':' :: mode.header ++ multiRest spaces filler codes := by
    rw [compact_append, compact_printNumbered, ← printByte_answerByte]
    simp [canBytes, multiRest, hexChar]
  have begins : (Framing.multi filler).print mode spaces codes =
      hexChar ((canBytes mode.answerByte codes).length / 256) ::
        hexChar ((canBytes mode.answerByte codes).length / 16 % 16) ::
          hexChar ((canBytes mode.answerByte codes).length % 16) :: '\r' ::
            (printNumbered spaces 0
                ((canBytes mode.answerByte codes).take 6) ++
              printConsecutive spaces 1 (consecutive filler
                ((canBytes mode.answerByte codes).drop 6))) := by
    simp [Framing.print]
  rw [compact_answer echo begins]
  split
  · rw [compact_hexChar, compact_cons_space (by decide), lines]
    exact ⟨_, sliceAfter_digit mode _ _, .inl rfl⟩
  · rw [begins, compact_hexChar, compact_hexChar, compact_hexChar,
      compact_cons_space (by decide), lines]
    rcases sliceAfter_length mode low _ _ (multiRest spaces filler codes) with
      later | early
    · exact ⟨_, later, .inl rfl⟩
    · exact ⟨_, early, .inr rfl⟩

theorem multiValues_lt (codes : List TroubleCode) :
    ∀ value ∈ multiValues filler codes, value < 256 := by
  have numbered : ∀ (number : ℕ) (lines : List (List ℕ)),
      (∀ line ∈ lines, ∀ byte ∈ line, byte < 256) →
        ∀ value ∈ numberedValues number lines, value < 256 := by
    intro number lines small
    induction lines generalizing number with
    | nil =>
        intro value member
        cases member
    | cons line lines induction =>
        intro value member
        rcases List.mem_append.mp member with here | later
        · rcases List.mem_cons.mp here with rfl | inside
          · have less := Nat.mod_lt number (by decide : 0 < 16)
            omega
          · exact small line (.head _) value inside
        · exact induction (number + 1)
            (fun other there => small other (.tail _ there)) value later
  intro value member
  rcases List.mem_append.mp member with first | rest
  · exact codeBytes_lt value (List.mem_of_mem_take first)
  · exact numbered 1 _ (consecutive_lt filler.isLt fun byte inside =>
      codeBytes_lt byte (List.mem_of_mem_drop inside)) value rest

include several few in
theorem multi_ne : ∃ cursor values, sliceAfter mode.header
      (compact (stripEcho mode.cmd (clean
        ((Framing.multi filler).answer mode spaces echo codes)))) =
        some cursor ∧ Reads cursor values ∧ (∀ value ∈ values, value < 256) ∧
      readPairs (withoutCount values) ≠ codePairs codes := by
  have even := multiValues_even codes filler
  have sum := multiValues_sum filler several
  have small := multiValues_lt filler codes
  have reads := reads_multiRest spaces filler few
  obtain ⟨cursor, found, rfl | rfl⟩ :=
    slice_multi mode spaces echo filler few
  · refine ⟨_, _, found, reads, List.forall_mem_cons.mpr ⟨few, small⟩, ?_⟩
    have odd : (codes.length :: multiValues filler codes).length % 2 = 1 := by
      rw [List.length_cons]
      omega
    rw [withoutCount, if_pos odd]
    exact readPairs_ne even sum
  · have header : Reads mode.header [mode.answerByte] := by
      rw [← printByte_answerByte]
      exact reads_byte (answerByte_lt mode)
    have number : Reads ['0', ':'] [0] := .cons (by decide) .nil
    refine ⟨_, _, found, (number.append header).append reads, ?_, ?_⟩
    · exact List.forall_mem_cons.mpr ⟨by decide, List.forall_mem_cons.mpr
        ⟨answerByte_lt mode, List.forall_mem_cons.mpr ⟨few, small⟩⟩⟩
    · have odd : ([0] ++ [mode.answerByte] ++
          codes.length :: multiValues filler codes).length % 2 = 1 := by
        simp only [List.length_append, List.length_cons, List.length_nil]
        omega
      rw [withoutCount, if_pos odd]
      apply readPairs_ne
      · simp only [List.cons_append, List.nil_append, List.tail_cons,
          List.length_cons]
        omega
      · simp only [List.cons_append, List.nil_append, List.tail_cons,
          List.sum_cons]
        omega

end Answers

/-- A reply in pieces is read as the standard texts of its codes, and distinct
codes have distinct texts. -/
def Driver.ReadsExactly (driver : Driver) (mode : Mode)
    (pieces : List (List Char)) (codes : List TroubleCode) : Prop :=
  driver.readDTCs mode pieces = some (codes.map TroubleCode.standardText) ∧
    Function.Injective TroubleCode.standardText

/-- An answer stands on one line, or on two of which the first holds nothing but
answer bytes. -/
def Framing.Readable (framing : Framing) (mode : Mode)
    (codes : List TroubleCode) : Prop :=
  match framing with
  | plain => codes.length ≤ 3 ∨ codes.length ≤ 6 ∧ ∀ code ∈ codes.take 3,
      code.hi.val = mode.answerByte ∧ code.lo.val = mode.answerByte
  | single => True
  | multi _ => False

theorem readsExactly_iff_pairs {driver : Driver} {framing : Framing}
    {mode : Mode} {spaces echo : Bool} {codes : List TroubleCode}
    {pieces : List (List Char)} {cursor : List Char} {values : List ℕ}
    (arrives : pieces.flatten =
      framing.answer mode spaces echo codes ++ [prompt])
    (found : sliceAfter mode.header (compact (stripEcho mode.cmd
      (clean (framing.answer mode spaces echo codes)))) = some cursor)
    (reads : Reads cursor values) (small : ∀ value ∈ values, value < 256) :
    driver.ReadsExactly mode pieces codes ↔
      readPairs (withoutCount values) = codePairs codes := by
  have small' : ∀ value ∈ withoutCount values, value < 256 := by
    intro value member
    unfold withoutCount at member
    split at member
    · exact small value (List.mem_of_mem_tail member)
    · exact small value member
  rw [Driver.ReadsExactly, driver.readDTCs_of_reads framing mode spaces echo
    codes arrives found reads, Option.some.injEq, texts_eq_iff small']
  exact and_iff_left standardText_injective

/-- An answer is read as its codes exactly when it is readable. -/
theorem readsExactly_iff (driver : Driver) (framing : Framing) (mode : Mode)
    (spaces echo : Bool) (codes : List TroubleCode) (pieces : List (List Char))
    (fits : framing.Fits codes)
    (arrives : pieces.flatten =
      framing.answer mode spaces echo codes ++ [prompt]) :
    driver.ReadsExactly mode pieces codes ↔ framing.Readable mode codes := by
  cases framing with
  | plain =>
      rw [readsExactly_iff_pairs arrives (slice_plain mode spaces echo codes)
        (reads_bytes (plainRest_lt codes)) (plainRest_lt codes)]
      exact plain_iff mode codes
  | single =>
      have fits : codes.length ≤ 2 := fits
      have small : ∀ value ∈ codes.length :: codeBytes codes, value < 256 :=
        List.forall_mem_cons.mpr ⟨by omega, codeBytes_lt⟩
      have odd : (codes.length :: codeBytes codes).length % 2 = 1 := by
        rw [List.length_cons, length_codeBytes]
        omega
      rw [readsExactly_iff_pairs arrives (slice_single mode spaces echo codes)
        (reads_bytes small) small, withoutCount, if_pos odd]
      exact iff_of_true (readPairs_codeBytes codes) trivial
  | multi filler =>
      obtain ⟨several, few⟩ := fits
      obtain ⟨cursor, values, found, reads, small, wrong⟩ :=
        multi_ne mode spaces echo filler several few
      rw [readsExactly_iff_pairs arrives found reads small]
      exact iff_of_false wrong id

private theorem byte_lt (value : ℕ) : value % 256 < 256 :=
  Nat.mod_lt value (by decide)

private def byte (value : ℕ) : Fin 256 := ⟨value % 256, byte_lt value⟩

private theorem p0133_nonzero : ¬(byte 0x01 = 0 ∧ byte 0x33 = 0) := by decide

private theorem p0301_nonzero : ¬(byte 0x03 = 0 ∧ byte 0x01 = 0) := by decide

private theorem p0171_nonzero : ¬(byte 0x01 = 0 ∧ byte 0x71 = 0) := by decide

def threeCodes : List TroubleCode :=
  [⟨byte 0x01, byte 0x33, p0133_nonzero⟩, ⟨byte 0x03, byte 0x01, p0301_nonzero⟩,
    ⟨byte 0x01, byte 0x71, p0171_nonzero⟩]

theorem readsExactly_iff_threeCodes : Driver.bluetooth.ReadsExactly .stored
    ["03\r43 01 3".toList, "3 03 01 01 71 \r".toList, "\r>".toList]
      threeCodes ↔ Framing.plain.Readable .stored threeCodes :=
  readsExactly_iff .bluetooth .plain .stored true true threeCodes _ trivial
    (by decide +kernel)

/-- In several frames the same codes are read as others. -/
theorem readsExactly_misreads : ¬ ∀ (driver : Driver) (framing : Framing)
    (mode : Mode) (spaces echo : Bool) (codes : List TroubleCode)
    (pieces : List (List Char)), framing.Fits codes →
      pieces.flatten = framing.answer mode spaces echo codes ++ [prompt] →
        driver.ReadsExactly mode pieces codes := by
  intro reads
  have read := (reads .wifi (.multi 0) .stored false false threeCodes
    ["008\r0:430301330301\r1:01710000000000\r\r>".toList] ⟨by decide, by decide⟩
    (by decide +kernel)).1
  revert read
  decide +kernel

end Obd

end Mousstec
