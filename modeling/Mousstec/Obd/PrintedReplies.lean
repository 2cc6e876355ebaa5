import Mousstec.Obd.TroubleCodes

/-!
# Printed replies

Spaces and line breaks mean nothing to the drivers: what they read of a reply is
its digits, and of its digits the numbers that pairs of them stand for.
-/

namespace Mousstec

namespace Obd

section Spaces

variable {text : List Char}

theorem compact_append (first second : List Char) :
    compact (first ++ second) = compact first ++ compact second := by
  simp [compact, toUpperCase]

theorem compact_cons_space {character : Char} (space : isSpace character = true)
    (text : List Char) : compact (character :: text) = compact text := by
  simp [compact, space]

theorem filter_dropWhile (text : List Char) :
    (text.dropWhile isSpace).filter (fun character => !isSpace character) =
      text.filter fun character => !isSpace character := by
  induction text with
  | nil => rfl
  | cons character text induction =>
      by_cases space : isSpace character
      · rw [List.dropWhile_cons_of_pos space, induction,
          List.filter_cons_of_neg (by simpa using space)]
      · rw [List.dropWhile_cons_of_neg space]

def trimEnd (text : List Char) : List Char :=
  (text.reverse.dropWhile isSpace).reverse

theorem compact_trimEnd (text : List Char) :
    compact (trimEnd text) = compact text := by
  unfold compact trimEnd
  rw [List.filter_reverse, filter_dropWhile, ← List.filter_reverse,
    List.reverse_reverse]

theorem compact_trim (text : List Char) : compact (trim text) = compact text := by
  have ended : compact (trim text) = compact (text.dropWhile isSpace) :=
    compact_trimEnd (text.dropWhile isSpace)
  rw [ended, compact, filter_dropWhile, compact]

theorem mem_trim {character : Char} (member : character ∈ trim text) :
    character ∈ text := by
  have there := (List.dropWhile_sublist _).subset (List.mem_reverse.mp member)
  exact (List.dropWhile_sublist _).subset (List.mem_reverse.mp there)

theorem trim_cons_cons {first second : Char} (letter : isSpace first = false)
    (letter' : isSpace second = false) (text : List Char) :
    trim (first :: second :: text) = first :: second :: trimEnd text := by
  unfold trim trimEnd
  rw [List.dropWhile_cons_of_neg (by simp [letter]), List.reverse_cons,
    List.reverse_cons, List.append_assoc, List.dropWhile_append]
  split
  · rename_i none
    rw [List.isEmpty_iff] at none
    rw [none]
    simp [List.dropWhile_cons_of_neg, letter']
  · simp

theorem compact_spaced (text : List Char) :
    compact (text.map fun character =>
      if character = '\r' then ' ' else character) = compact text := by
  induction text with
  | nil => rfl
  | cons character text induction =>
      rw [List.map_cons]
      by_cases returns : character = '\r'
      · subst returns
        rw [if_pos rfl, compact_cons_space (by decide),
          compact_cons_space (by decide), induction]
      · rw [if_neg returns]
        unfold compact at *
        by_cases space : isSpace character
        · rw [List.filter_cons_of_neg (by simpa using space),
            List.filter_cons_of_neg (by simpa using space), induction]
        · rw [List.filter_cons_of_pos (by simpa using space),
            List.filter_cons_of_pos (by simpa using space)]
          unfold toUpperCase at *
          rw [List.map_cons, List.map_cons, induction]

theorem mem_clean {character : Char} (member : character ∈ clean text) :
    character ∈ text ∨ character = ' ' := by
  obtain ⟨earlier, there, rfl⟩ := List.mem_map.mp (mem_trim member)
  split
  · exact .inr rfl
  · exact .inl there

theorem mem_stripEcho {cmd : List Char} {character : Char}
    (member : character ∈ stripEcho cmd (clean text)) :
    character ∈ text ∨ character = ' ' := by
  have there := mem_trim member
  split at there
  · exact mem_clean (mem_trim (List.mem_of_mem_drop there))
  · exact mem_clean (mem_trim there)

theorem compact_stripEcho {first second : Char} (letter : isSpace first = false)
    (letter' : isSpace second = false) (cmd : List Char)
    (two : cmd.length = 2) (text : List Char) :
    compact (stripEcho cmd (clean (first :: second :: text))) =
      if toUpperCase cmd = [first.toUpper, second.toUpper] then compact text
      else compact (first :: second :: text) := by
  have stays : ∀ {character : Char}, isSpace character = false →
      (if character = '\r' then ' ' else character) = character := by
    intro character letter
    apply if_neg
    rintro rfl
    revert letter
    decide
  have cleaned : clean (first :: second :: text) = first :: second ::
      trimEnd (text.map fun character =>
        if character = '\r' then ' ' else character) := by
    rw [clean, List.map_cons, List.map_cons, stays letter, stays letter',
      trim_cons_cons letter letter']
  have left : compact (trimEnd (trimEnd (text.map fun character =>
      if character = '\r' then ' ' else character))) = compact text := by
    rw [compact_trimEnd, compact_trimEnd, compact_spaced]
  have echoed : (toUpperCase cmd).isPrefixOf (toUpperCase (first :: second ::
      trimEnd (trimEnd (text.map fun character =>
        if character = '\r' then ' ' else character)))) = true ↔
      toUpperCase cmd = [first.toUpper, second.toUpper] := by
    obtain ⟨a, b, rfl⟩ := List.length_eq_two.mp two
    simp [toUpperCase]
  unfold stripEcho
  rw [cleaned, trim_cons_cons letter letter', compact_trim]
  by_cases same : toUpperCase cmd = [first.toUpper, second.toUpper]
  · rw [if_pos (echoed.mpr same), if_pos same, two]
    exact left
  · rw [if_neg (fun echo => same (echoed.mp echo)), if_neg same]
    have apart : ∀ rest, compact (first :: second :: rest) =
        compact [first, second] ++ compact rest :=
      fun rest => compact_append [first, second] rest
    rw [apart text, ← left]
    exact apart _

end Spaces

def hexDigits : List Char := "0123456789ABCDEF".toList

def answerChars : List Char := ':' :: ' ' :: '\r' :: hexDigits

theorem hexChar_mem (digit : ℕ) : hexChar digit ∈ hexDigits := by
  unfold hexChar
  rw [List.getD_eq_getElem?_getD]
  cases found : (['0', '1', '2', '3', '4', '5', '6', '7', '8', '9', 'A', 'B',
      'C', 'D', 'E', 'F'] : List Char)[digit]? with
  | none => decide
  | some character => exact List.mem_of_getElem? found

theorem hexDigits_plain : ∀ character ∈ hexDigits,
    isSpace character = false ∧ character.toUpper = character ∧
      character ∈ answerChars := by
  have plain : hexDigits.all (fun character =>
      decide (isSpace character = false ∧ character.toUpper = character ∧
        character ∈ answerChars)) = true := by decide
  intro character member
  exact of_decide_eq_true (List.all_eq_true.mp plain character member)

@[simp] theorem hexValue_hexChar {digit : ℕ} (small : digit < 16) :
    hexValue (hexChar digit) = some digit := by
  have all : ∀ digit < 16, hexValue (hexChar digit) = some digit := by decide
  exact all digit small

theorem hexChar_injective {first second : ℕ} (small : first < 16)
    (small' : second < 16) (same : hexChar first = hexChar second) :
    first = second := by
  have equal := hexValue_hexChar small
  rw [same, hexValue_hexChar small'] at equal
  exact (Option.some.inj equal).symm

theorem compact_hexChar (digit : ℕ) (text : List Char) :
    compact (hexChar digit :: text) = hexChar digit :: compact text := by
  obtain ⟨letter, upper, -⟩ := hexDigits_plain _ (hexChar_mem digit)
  unfold compact toUpperCase
  rw [List.filter_cons_of_pos (by simp [letter]), List.map_cons, upper]

theorem compact_colon (text : List Char) :
    compact (':' :: text) = ':' :: compact text := by
  have letter : isSpace ':' = false := by decide
  have upper : ':'.toUpper = ':' := by decide
  unfold compact toUpperCase
  rw [List.filter_cons_of_pos (by simp [letter]), List.map_cons, upper]

theorem compact_return (text : List Char) :
    compact (text ++ ['\r']) = compact text := by
  rw [compact_append, compact_cons_space (by decide)]
  exact List.append_nil _

theorem compact_separated (spaces : Bool) (text : List Char) :
    compact ((if spaces then [' '] else []) ++ text) = compact text := by
  cases spaces with
  | false => rfl
  | true => exact compact_cons_space (by decide) text

theorem compact_printBytes (spaces : Bool) (bytes : List ℕ) :
    compact (printBytes spaces bytes) = bytes.flatMap printByte := by
  induction bytes with
  | nil => rfl
  | cons byte bytes induction =>
      have apart : printBytes spaces (byte :: bytes) = hexChar (byte / 16) ::
          hexChar (byte % 16) :: ((if spaces then [' '] else []) ++
            printBytes spaces bytes) := by
        simp [printBytes, printByte]
      rw [apart, compact_hexChar, compact_hexChar, compact_separated,
        induction]
      rfl

theorem compact_printNumbered (spaces : Bool) (number : ℕ) (bytes : List ℕ) :
    compact (printNumbered spaces number bytes) =
      hexChar (number % 16) :: ':' :: bytes.flatMap printByte := by
  unfold printNumbered
  rw [compact_return, List.cons_append, compact_hexChar, List.cons_append,
    compact_colon, compact_separated, compact_printBytes]

theorem printBytes_chars (spaces : Bool) (bytes : List ℕ) :
    printBytes spaces bytes ⊆ answerChars := by
  intro character member
  obtain ⟨byte, -, there⟩ := List.mem_flatMap.mp member
  rcases List.mem_append.mp there with digit | space
  · have hex : ∀ digit, hexChar digit ∈ answerChars :=
      fun digit => (hexDigits_plain _ (hexChar_mem digit)).2.2
    rcases List.mem_cons.mp digit with rfl | last
    · exact hex _
    · rw [List.mem_singleton.mp last]
      exact hex _
  · cases spaces with
    | false => cases space
    | true =>
        rw [List.mem_singleton.mp space]
        decide

theorem printNumbered_chars (spaces : Bool) (number : ℕ) (bytes : List ℕ) :
    printNumbered spaces number bytes ⊆ answerChars := by
  unfold printNumbered
  refine List.append_subset.mpr ⟨List.append_subset.mpr ⟨?_, ?_⟩, by decide⟩
  · refine List.cons_subset.mpr
      ⟨(hexDigits_plain _ (hexChar_mem _)).2.2, List.cons_subset.mpr
        ⟨by decide, ?_⟩⟩
    cases spaces with
    | false => exact List.nil_subset _
    | true => decide
  · exact printBytes_chars spaces bytes

theorem printConsecutive_chars (spaces : Bool) (number : ℕ)
    (lines : List (List ℕ)) :
    printConsecutive spaces number lines ⊆ answerChars := by
  induction lines generalizing number with
  | nil => exact List.nil_subset _
  | cons bytes lines induction =>
      exact List.append_subset.mpr
        ⟨printNumbered_chars spaces number bytes, induction _⟩

theorem Framing.print_chars (framing : Framing) (mode : Mode) (spaces : Bool)
    (codes : List TroubleCode) :
    framing.print mode spaces codes ⊆ answerChars := by
  cases framing with
  | plain =>
      intro character member
      obtain ⟨bytes, -, there⟩ := List.mem_flatMap.mp member
      exact List.append_subset.mpr
        ⟨printBytes_chars spaces bytes, by decide⟩ there
  | single =>
      exact List.append_subset.mpr ⟨printBytes_chars spaces _, by decide⟩
  | multi filler =>
      have hex : ∀ digit, hexChar digit ∈ answerChars :=
        fun digit => (hexDigits_plain _ (hexChar_mem digit)).2.2
      refine List.append_subset.mpr ⟨List.append_subset.mpr ⟨?_,
        printNumbered_chars spaces 0 _⟩, printConsecutive_chars spaces 1 _⟩
      simp only [List.cons_subset, hex, true_and]
      decide

theorem Framing.answer_chars (framing : Framing) (mode : Mode)
    (spaces echo : Bool) (codes : List TroubleCode) :
    framing.answer mode spaces echo codes ⊆ answerChars := by
  refine List.append_subset.mpr ⟨List.append_subset.mpr
    ⟨?_, framing.print_chars mode spaces codes⟩, by decide⟩
  cases echo with
  | false => exact List.nil_subset _
  | true => cases mode <;> decide

/-- Pairs of characters that stand for numbers. -/
inductive Reads : List Char → List ℕ → Prop
  | nil : Reads [] []
  | cons {first second : Char} {text : List Char} {value : ℕ}
      {values : List ℕ} (number : parseInt16 [first, second] = some value)
      (rest : Reads text values) :
      Reads (first :: second :: text) (value :: values)

def readPairs : List ℕ → List (ℕ × ℕ)
  | hi :: lo :: values =>
      if hi = 0 ∧ lo = 0 then readPairs values
      else (hi, lo) :: readPairs values
  | _ => []

namespace Reads

variable {text rest : List Char} {values others : List ℕ}

theorem append (reads : Reads text values) (reads' : Reads rest others) :
    Reads (text ++ rest) (values ++ others) := by
  induction reads with
  | nil => exact reads'
  | cons number _ induction => exact cons number induction

theorem length (reads : Reads text values) :
    text.length = 2 * values.length := by
  induction reads with
  | nil => rfl
  | cons number _ induction =>
      simp only [List.length_cons, induction]
      omega

theorem readCodes (reads : Reads text values) : Obd.readCodes text =
    (readPairs values).map fun pair => decodeDTCNibbles pair.1 pair.2 := by
  induction values using readPairs.induct generalizing text with
  | case1 hi lo values zero induction =>
      obtain _ | ⟨number, _ | ⟨number', rest⟩⟩ := reads
      rw [Obd.readCodes, number, number', readPairs, if_pos zero]
      simp only [Option.some.injEq]
      rw [if_pos zero]
      exact induction rest
  | case2 hi lo values some induction =>
      obtain _ | ⟨number, _ | ⟨number', rest⟩⟩ := reads
      rw [Obd.readCodes, number, number', readPairs, if_neg some]
      simp only [Option.some.injEq, Option.getD_some]
      rw [if_neg some, List.map_cons, induction rest]
  | case3 values short =>
      cases reads with
      | nil => rfl
      | cons number rest =>
          cases rest with
          | nil => rfl
          | cons number' rest => exact absurd rfl (short _ _ _)

end Reads

private theorem parseInt16_digits : ∀ hi < 16, ∀ lo < 16,
    parseInt16 [hexChar hi, hexChar lo] = some (16 * hi + lo) := by
  decide +kernel

private theorem parseInt16_number : ∀ number < 16,
    parseInt16 [hexChar number, ':'] = some number := by
  decide +kernel

theorem reads_byte {byte : ℕ} (small : byte < 256) :
    Reads (printByte byte) [byte] := by
  refine .cons ?_ .nil
  rw [parseInt16_digits _ (by omega) _ (by omega)]
  congr 1
  omega

theorem reads_bytes {bytes : List ℕ} (small : ∀ byte ∈ bytes, byte < 256) :
    Reads (bytes.flatMap printByte) bytes := by
  induction bytes with
  | nil => exact .nil
  | cons byte bytes induction =>
      have first := reads_byte (small byte List.mem_cons_self)
      exact first.append
        (induction fun other member => small other (List.mem_cons_of_mem _ member))

theorem reads_number {number : ℕ} (small : number < 16) :
    Reads [hexChar number, ':'] [number] :=
  .cons (parseInt16_number number small) .nil

theorem includes_subset {part text : List Char}
    (included : includes part text = true) : part ⊆ text := by
  obtain ⟨tail, there, starts⟩ := List.any_eq_true.mp included
  have isSuffix := (List.mem_tails tail text).mp there
  exact fun character member => isSuffix.subset
    ((List.isPrefixOf_iff_prefix.mp starts).subset member)

def withoutCount (values : List ℕ) : List ℕ :=
  if values.length % 2 = 1 then values.tail else values

theorem parse_of_reads {raw header cursor : List Char} {values : List ℕ}
    (plain : 'N' ∉ raw)
    (found : sliceAfter header (compact raw) = some cursor)
    (reads : Reads cursor values) : parseDTCResponseWithHeader raw header =
      (readPairs (withoutCount values)).map fun pair =>
        decodeDTCNibbles pair.1 pair.2 := by
  have whole : ¬(raw = [] ∨ includes "NO DATA".toList raw = true) := by
    rintro (rfl | no)
    · cases found
    · exact plain (includes_subset no (by decide))
  have length := reads.length
  rw [parseDTCResponseWithHeader, if_neg whole, found]
  simp only
  unfold withoutCount
  by_cases odd : values.length % 2 = 1
  · rw [if_pos odd, if_pos (by omega)]
    cases reads with
    | nil => cases odd
    | cons number rest => exact rest.readCodes
  · rw [if_neg odd, if_neg (by omega)]
    exact reads.readCodes

/-- What the drivers read of an answer, however it arrives. -/
theorem Driver.readDTCs_of_reads (driver : Driver) (framing : Framing)
    (mode : Mode) (spaces echo : Bool) (codes : List TroubleCode)
    {pieces : List (List Char)} {cursor : List Char} {values : List ℕ}
    (arrives : pieces.flatten =
      framing.answer mode spaces echo codes ++ [prompt])
    (found : sliceAfter mode.header (compact (stripEcho mode.cmd
      (clean (framing.answer mode spaces echo codes)))) = some cursor)
    (reads : Reads cursor values) : driver.readDTCs mode pieces =
      some ((readPairs (withoutCount values)).map fun pair =>
        decodeDTCNibbles pair.1 pair.2) := by
  have chars := framing.answer_chars mode spaces echo codes
  have absent : ∀ character ∉ answerChars,
      character ∉ framing.answer mode spaces echo codes :=
    fun character foreign member => foreign (chars member)
  have heard := driver.heard_of_pieces (absent prompt (by decide))
    (absent 'R' (by decide)) List.not_mem_nil arrives
  rw [Driver.readDTCs, heard, Option.map_some]
  congr 1
  apply parse_of_reads _ found reads
  intro member
  rcases mem_stripEcho member with there | space
  · exact absent 'N' (by decide) there
  · exact absurd space (by decide)

end Obd

end Mousstec
