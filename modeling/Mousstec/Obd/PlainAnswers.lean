import Mousstec.Obd.PrintedReplies
import Mousstec.Library.Rounding
import Mathlib.Algebra.Order.Ring.Nat
import Mathlib.Algebra.BigOperators.Group.List.Basic

/-!
# Answers that are not on a CAN bus

An answer of one line is read as it is meant.  Of a longer one the drivers take
the answer bytes of the later lines for codes, and read it right only when it has
two lines and its first three codes are answer bytes themselves.
-/

namespace Mousstec

namespace Obd

theorem decodeDTCNibbles_eq (hi lo : ℕ) : decodeDTCNibbles hi lo =
    [systemLetter (hi / 64 % 4), hexChar (hi / 16 % 4), hexChar (hi % 16),
      hexChar (lo / 16 % 16), hexChar (lo % 16)] := by
  have two : ∀ number : ℕ, number &&& 3 = number % 4 :=
    fun number => Nat.and_two_pow_sub_one_eq_mod number 2
  have four : ∀ number : ℕ, number &&& 15 = number % 16 :=
    fun number => Nat.and_two_pow_sub_one_eq_mod number 4
  simp only [decodeDTCNibbles, two, four, Nat.shiftRight_eq_div_pow,
    Nat.reducePow]

theorem decode_code (code : TroubleCode) :
    decodeDTCNibbles code.hi code.lo = code.standardText := by
  have hi := code.hi.isLt
  have lo := code.lo.isLt
  rw [decodeDTCNibbles_eq, TroubleCode.standardText,
    Nat.mod_eq_of_lt (by omega : code.hi.val / 64 < 4),
    Nat.mod_eq_of_lt (by omega : code.lo.val / 16 < 16)]

private theorem systemLetter_injective : ∀ first < 4, ∀ second < 4,
    systemLetter first = systemLetter second → first = second := by
  decide

theorem decode_injective {hi lo hi' lo' : ℕ} (small : hi < 256 ∧ lo < 256)
    (small' : hi' < 256 ∧ lo' < 256)
    (same : decodeDTCNibbles hi lo = decodeDTCNibbles hi' lo') :
    hi = hi' ∧ lo = lo' := by
  rw [decodeDTCNibbles_eq, decodeDTCNibbles_eq] at same
  simp only [List.cons.injEq, and_true] at same
  obtain ⟨system, first, second, third, fourth⟩ := same
  have system := systemLetter_injective _ (by omega) _ (by omega) system
  have first := hexChar_injective (by omega) (by omega) first
  have second := hexChar_injective (by omega) (by omega) second
  have third := hexChar_injective (by omega) (by omega) third
  have fourth := hexChar_injective (by omega) (by omega) fourth
  omega

theorem standardText_injective :
    Function.Injective TroubleCode.standardText := by
  intro first second same
  rw [← decode_code, ← decode_code] at same
  obtain ⟨hi, lo⟩ := decode_injective ⟨first.hi.isLt, first.lo.isLt⟩
    ⟨second.hi.isLt, second.lo.isLt⟩ same
  obtain ⟨a, b, _⟩ := first
  obtain ⟨c, d, _⟩ := second
  obtain rfl := Fin.ext hi
  obtain rfl := Fin.ext lo
  rfl

def codePairs (codes : List TroubleCode) : List (ℕ × ℕ) :=
  codes.map fun code => (code.hi.val, code.lo.val)

theorem readPairs_append {values : List ℕ} (even : values.length % 2 = 0)
    (rest : List ℕ) : readPairs (values ++ rest) =
      readPairs values ++ readPairs rest := by
  induction values using readPairs.induct with
  | case1 hi lo values zero induction =>
      have even' : values.length % 2 = 0 := by
        simp only [List.length_cons] at even
        omega
      rw [List.cons_append, List.cons_append, readPairs, readPairs,
        if_pos zero, if_pos zero, induction even']
  | case2 hi lo values some induction =>
      have even' : values.length % 2 = 0 := by
        simp only [List.length_cons] at even
        omega
      rw [List.cons_append, List.cons_append, readPairs, readPairs,
        if_neg some, if_neg some, induction even', List.cons_append]
  | case3 values short =>
      rcases values with _ | ⟨hi, _ | ⟨lo, values⟩⟩
      · rfl
      · cases even
      · exact absurd rfl (short hi lo values)

theorem readPairs_codeBytes (codes : List TroubleCode) :
    readPairs (codeBytes codes) = codePairs codes := by
  induction codes with
  | nil => rfl
  | cons code codes induction =>
      have some : ¬(code.hi.val = 0 ∧ code.lo.val = 0) := fun zero =>
        code.nonzero ⟨Fin.ext zero.1, Fin.ext zero.2⟩
      have apart : codeBytes (code :: codes) =
          code.hi.val :: code.lo.val :: codeBytes codes := rfl
      rw [apart, readPairs, if_neg some, induction]
      rfl

theorem readPairs_zeros (length : ℕ) :
    readPairs (List.replicate length 0) = [] := by
  induction length using Nat.strong_induction_on with
  | h length induction =>
      match length with
      | 0 => rfl
      | 1 => rfl
      | length + 2 =>
          rw [List.replicate_succ, List.replicate_succ, readPairs,
            if_pos ⟨rfl, rfl⟩]
          exact induction length (by omega)

theorem sum_readPairs {values : List ℕ} (even : values.length % 2 = 0) :
    ((readPairs values).map fun pair => pair.1 + pair.2).sum = values.sum := by
  induction values using readPairs.induct with
  | case1 hi lo values zero induction =>
      obtain ⟨rfl, rfl⟩ := zero
      have rest := induction (by
        simp only [List.length_cons] at even
        omega)
      rw [readPairs, if_pos ⟨rfl, rfl⟩, rest]
      simp
  | case2 hi lo values some induction =>
      have rest := induction (by
        simp only [List.length_cons] at even
        omega)
      rw [readPairs, if_neg some, List.map_cons, List.sum_cons, rest]
      simp [Nat.add_assoc]
  | case3 values short =>
      rcases values with _ | ⟨hi, _ | ⟨lo, values⟩⟩
      · rfl
      · cases even
      · exact absurd rfl (short hi lo values)

theorem readPairs_mem {values : List ℕ} {pair : ℕ × ℕ}
    (member : pair ∈ readPairs values) :
    pair.1 ∈ values ∧ pair.2 ∈ values := by
  induction values using readPairs.induct with
  | case1 hi lo values zero induction =>
      rw [readPairs, if_pos zero] at member
      obtain ⟨first, second⟩ := induction member
      exact ⟨.tail _ (.tail _ first), .tail _ (.tail _ second)⟩
  | case2 hi lo values some induction =>
      rw [readPairs, if_neg some] at member
      rcases List.mem_cons.mp member with rfl | there
      · exact ⟨.head _, .tail _ (.head _)⟩
      · obtain ⟨first, second⟩ := induction there
        exact ⟨.tail _ (.tail _ first), .tail _ (.tail _ second)⟩
  | case3 values short =>
      rw [readPairs] at member
      · cases member
      · exact short

theorem length_codeBytes (codes : List TroubleCode) :
    (codeBytes codes).length = 2 * codes.length := by
  induction codes with
  | nil => rfl
  | cons code codes induction =>
      simp only [codeBytes, List.flatMap_cons, List.length_append,
        List.length_cons, List.length_nil] at *
      omega

theorem codeBytes_even (codes : List TroubleCode) :
    (codeBytes codes).length % 2 = 0 := by
  rw [length_codeBytes]
  omega

theorem codeBytes_lt {codes : List TroubleCode} :
    ∀ byte ∈ codeBytes codes, byte < 256 := by
  intro byte member
  obtain ⟨code, -, there⟩ := List.mem_flatMap.mp member
  rcases List.mem_cons.mp there with rfl | last
  · exact code.hi.isLt
  · rw [List.mem_singleton.mp last]
    exact code.lo.isLt

theorem readPairs_ne {values : List ℕ} {codes : List TroubleCode}
    (even : values.length % 2 = 0)
    (more : (codeBytes codes).sum < values.sum) :
    readPairs values ≠ codePairs codes := by
  intro same
  have sum := sum_readPairs even
  have bytes := sum_readPairs (codeBytes_even codes)
  rw [readPairs_codeBytes] at bytes
  rw [same] at sum
  omega

private theorem map_decode_inj {first second : List (ℕ × ℕ)}
    (small : ∀ pair ∈ first, pair.1 < 256 ∧ pair.2 < 256)
    (small' : ∀ pair ∈ second, pair.1 < 256 ∧ pair.2 < 256)
    (same : first.map (fun pair => decodeDTCNibbles pair.1 pair.2) =
      second.map fun pair => decodeDTCNibbles pair.1 pair.2) :
    first = second := by
  induction first generalizing second with
  | nil => exact (List.map_eq_nil_iff.mp same.symm).symm
  | cons pair first induction =>
      cases second with
      | nil => cases same
      | cons pair' second =>
          rw [List.map_cons, List.map_cons, List.cons.injEq] at same
          obtain ⟨hi, lo⟩ := decode_injective (small _ (.head _))
            (small' _ (.head _)) same.1
          rw [Prod.ext hi lo, induction (fun _ there => small _ (.tail _ there))
            (fun _ there => small' _ (.tail _ there)) same.2]

theorem texts_eq_iff {values : List ℕ} {codes : List TroubleCode}
    (small : ∀ value ∈ values, value < 256) :
    (readPairs values).map (fun pair => decodeDTCNibbles pair.1 pair.2) =
        codes.map TroubleCode.standardText ↔
      readPairs values = codePairs codes := by
  have texts : codes.map TroubleCode.standardText =
      (codePairs codes).map fun pair => decodeDTCNibbles pair.1 pair.2 := by
    simp [codePairs, decode_code, Function.comp_def]
  rw [texts]
  constructor
  · apply map_decode_inj
    · intro pair member
      obtain ⟨hi, lo⟩ := readPairs_mem member
      exact ⟨small _ hi, small _ lo⟩
    · intro pair member
      obtain ⟨code, -, rfl⟩ := List.mem_map.mp member
      exact ⟨code.hi.isLt, code.lo.isLt⟩
  · intro same
    rw [same]

section Plain

variable {mode : Mode}

theorem answerByte_pos (mode : Mode) : 0 < mode.answerByte := by
  cases mode <;> decide

theorem answerByte_lt (mode : Mode) : mode.answerByte < 256 := by
  cases mode <;> decide

theorem printByte_answerByte (mode : Mode) :
    printByte mode.answerByte = mode.header := by
  cases mode <;> decide

def plainRest (mode : Mode) (codes : List TroubleCode) : List ℕ :=
  (plainLines mode.answerByte codes).flatten.tail

theorem plainLines_short {codes : List TroubleCode} (short : codes.length ≤ 3) :
    plainLines mode.answerByte codes =
      [mode.answerByte :: padded 6 0 (codeBytes codes)] := by
  match codes, short with
  | [], _ => rfl
  | [_], _ => rfl
  | [_, _], _ => rfl
  | [_, _, _], _ => rfl

theorem plainLines_flatten (codes : List TroubleCode) :
    (plainLines mode.answerByte codes).flatten =
      mode.answerByte :: plainRest mode codes := by
  match codes with
  | [] => rfl
  | [_] => rfl
  | [_, _] => rfl
  | [_, _, _] => rfl
  | _ :: _ :: _ :: _ :: _ => rfl

theorem plainRest_short {codes : List TroubleCode} (short : codes.length ≤ 3) :
    plainRest mode codes = padded 6 0 (codeBytes codes) := by
  rw [plainRest, plainLines_short short]
  simp

theorem plainRest_long (first second third next : TroubleCode)
    (codes : List TroubleCode) :
    plainRest mode (first :: second :: third :: next :: codes) =
      codeBytes [first, second, third] ++
        mode.answerByte :: plainRest mode (next :: codes) := by
  rw [← plainLines_flatten]
  rfl

theorem length_padded {length filler : ℕ} {bytes : List ℕ}
    (fits : bytes.length ≤ length) :
    (padded length filler bytes).length = length := by
  simp only [padded, List.length_append, List.length_replicate]
  omega

theorem length_le_three {codes : List TroubleCode}
    (short : ∀ first second third next rest,
      codes = first :: second :: third :: next :: rest → False) :
    codes.length ≤ 3 := by
  by_contra long
  match codes, long with
  | first :: second :: third :: next :: rest, _ =>
      exact short first second third next rest rfl
  | [], long => exact long (Nat.zero_le _)
  | [_], long => exact long (by simp)
  | [_, _], long => exact long (by simp)
  | [_, _, _], long => exact long (by simp)

theorem length_plainRest (mode : Mode) (codes : List TroubleCode) :
    (plainRest mode codes).length + 1 =
      7 * (plainLines mode.answerByte codes).length := by
  induction codes using plainLines.induct with
  | case1 first second third next codes induction =>
      rw [plainRest_long, plainLines]
      simp only [List.length_append, length_codeBytes, List.length_cons,
        List.length_nil] at *
      omega
  | case2 codes short =>
      have few := length_le_three short
      have length := length_codeBytes codes
      rw [plainRest_short few, plainLines_short few,
        length_padded (by omega)]
      rfl

theorem sum_plainRest (mode : Mode) (codes : List TroubleCode) :
    (codeBytes codes).sum ≤ (plainRest mode codes).sum := by
  induction codes using plainLines.induct with
  | case1 first second third next codes induction =>
      have apart : codeBytes (first :: second :: third :: next :: codes) =
          codeBytes [first, second, third] ++ codeBytes (next :: codes) := by
        simp [codeBytes]
      rw [plainRest_long, apart, List.sum_append, List.sum_append,
        List.sum_cons]
      omega
  | case2 codes short =>
      have few := length_le_three short
      rw [plainRest_short few, padded, List.sum_append]
      omega

theorem plainRest_lt (codes : List TroubleCode) :
    ∀ byte ∈ plainRest mode codes, byte < 256 := by
  induction codes using plainLines.induct with
  | case1 first second third next codes induction =>
      intro byte member
      rw [plainRest_long] at member
      rcases List.mem_append.mp member with here | later
      · exact codeBytes_lt byte here
      · rcases List.mem_cons.mp later with rfl | there
        · exact answerByte_lt mode
        · exact induction byte there
  | case2 codes short =>
      intro byte member
      rw [plainRest_short (length_le_three short)] at member
      rcases List.mem_append.mp member with here | filler
      · exact codeBytes_lt byte here
      · rw [List.eq_of_mem_replicate filler]
        decide

theorem readPairs_plainRest_short {codes : List TroubleCode}
    (short : codes.length ≤ 3) :
    readPairs (plainRest mode codes) = codePairs codes := by
  rw [plainRest_short short, padded, readPairs_append (codeBytes_even codes),
    readPairs_codeBytes, readPairs_zeros, List.append_nil]

/-- An even number of lines is not read as its codes. -/
theorem readPairs_lines_ne {codes : List TroubleCode}
    (even : (plainLines mode.answerByte codes).length % 2 = 0) :
    readPairs (mode.answerByte :: plainRest mode codes) ≠ codePairs codes := by
  have length := length_plainRest mode codes
  apply readPairs_ne
  · rw [List.length_cons]
    omega
  · have sum := sum_plainRest mode codes
    have positive := answerByte_pos mode
    rw [List.sum_cons]
    omega

theorem shifted {first second third : TroubleCode} {rest others : List (ℕ × ℕ)}
    {byte : ℕ} (positive : 0 < byte)
    (same : readPairs [first.lo.val, second.hi.val, second.lo.val,
        third.hi.val] ++ (third.lo.val, byte) :: rest =
      codePairs [first, second, third] ++ others) :
    rest = others ∧ ∀ code ∈ [first, second, third],
      code.hi.val = byte ∧ code.lo.val = byte := by
  have some : ¬(third.hi.val = 0 ∧ third.lo.val = 0) := fun zero =>
    third.nonzero ⟨Fin.ext zero.1, Fin.ext zero.2⟩
  by_cases early : first.lo.val = 0 ∧ second.hi.val = 0
  · by_cases late : second.lo.val = 0 ∧ third.hi.val = 0
    · simp [readPairs, codePairs, early, late] at same
      omega
    · simp only [readPairs, codePairs, if_pos early, if_neg late,
        List.map_cons, List.cons_append, List.nil_append, List.cons.injEq,
        Prod.mk.injEq] at same
      omega
  · by_cases late : second.lo.val = 0 ∧ third.hi.val = 0
    · simp only [readPairs, codePairs, if_neg early, if_pos late,
        List.map_cons, List.cons_append, List.nil_append, List.cons.injEq,
        Prod.mk.injEq] at same
      omega
    · simp only [readPairs, codePairs, if_neg early, if_neg late,
        List.map_cons, List.map_nil, List.cons_append, List.nil_append,
        List.cons.injEq, Prod.mk.injEq] at same
      obtain ⟨a, b, c, rest⟩ := same
      refine ⟨rest, ?_⟩
      simp only [List.mem_cons, List.not_mem_nil, or_false, forall_eq_or_imp,
        forall_eq]
      omega

theorem shifted_same {first second third : TroubleCode} {byte : ℕ}
    (positive : 0 < byte) (all : ∀ code ∈ [first, second, third],
      code.hi.val = byte ∧ code.lo.val = byte) :
    readPairs [first.lo.val, second.hi.val, second.lo.val, third.hi.val] ++
      [(third.lo.val, byte)] = codePairs [first, second, third] := by
  obtain ⟨⟨a, b⟩, ⟨c, d⟩, e, f⟩ := by
    simpa only [List.mem_cons, List.not_mem_nil, or_false, forall_eq_or_imp,
      forall_eq] using all
  have some : ¬(byte = 0 ∧ byte = 0) := fun zero => by omega
  simp only [readPairs, codePairs, a, b, c, d, e, f, if_neg some,
    List.map_cons, List.map_nil, List.cons_append, List.nil_append]

/-- When the lines of an answer that is not on a CAN bus are read as its
codes. -/
theorem plain_iff (mode : Mode) (codes : List TroubleCode) :
    readPairs (withoutCount (plainRest mode codes)) = codePairs codes ↔
      codes.length ≤ 3 ∨ codes.length ≤ 6 ∧ ∀ code ∈ codes.take 3,
        code.hi.val = mode.answerByte ∧ code.lo.val = mode.answerByte := by
  have positive := answerByte_pos mode
  have length := length_plainRest mode codes
  by_cases short : codes.length ≤ 3
  · have even : ¬(plainRest mode codes).length % 2 = 1 := by
      rw [plainLines_short short] at length
      simp only [List.length_singleton] at length
      omega
    rw [withoutCount, if_neg even, readPairs_plainRest_short short]
    simp [short]
  · rcases codes with _ | ⟨first, _ | ⟨second, _ | ⟨third, _ | ⟨next, codes⟩⟩⟩⟩
    · exact absurd (Nat.zero_le _) short
    · exact absurd (by simp) short
    · exact absurd (by simp) short
    · exact absurd (by simp) short
    · clear short
      have later := length_plainRest mode (next :: codes)
      have apart : codePairs (first :: second :: third :: next :: codes) =
          codePairs [first, second, third] ++ codePairs (next :: codes) :=
        rfl
      have lines : (plainLines mode.answerByte
          (first :: second :: third :: next :: codes)).length =
            (plainLines mode.answerByte (next :: codes)).length + 1 := rfl
      rw [lines] at length
      by_cases even : (plainLines mode.answerByte
          (next :: codes)).length % 2 = 0
      · have aligned : ¬(plainRest mode
            (first :: second :: third :: next :: codes)).length % 2 = 1 := by
          omega
        rw [withoutCount, if_neg aligned, plainRest_long,
          readPairs_append (codeBytes_even _), readPairs_codeBytes, apart,
          List.append_cancel_left_eq]
        constructor
        · exact fun same => absurd same (readPairs_lines_ne even)
        · rintro (few | ⟨few, -⟩)
          · exact absurd few (by simp)
          · have single : (next :: codes).length ≤ 3 := by
              simp only [List.length_cons] at few ⊢
              omega
            rw [plainLines_short single] at even
            cases even
      · have aligned : (plainRest mode
            (first :: second :: third :: next :: codes)).length % 2 = 1 := by
          omega
        have tail : (plainRest mode
            (first :: second :: third :: next :: codes)).tail =
              [first.lo.val, second.hi.val, second.lo.val, third.hi.val] ++
                third.lo.val :: mode.answerByte ::
                  plainRest mode (next :: codes) := by
          rw [plainRest_long]
          rfl
        have some : ¬(third.lo.val = 0 ∧ mode.answerByte = 0) :=
          fun zero => by omega
        have last : readPairs (third.lo.val :: mode.answerByte ::
            plainRest mode (next :: codes)) =
              (third.lo.val, mode.answerByte) ::
                readPairs (plainRest mode (next :: codes)) := by
          rw [readPairs, if_neg some]
        have four : [first.lo.val, second.hi.val, second.lo.val,
            third.hi.val].length % 2 = 0 := by
          simp
        rw [withoutCount, if_pos aligned, tail, readPairs_append four, last,
          apart]
        constructor
        · intro same
          obtain ⟨rest, all⟩ := shifted positive same
          refine .inr ⟨?_, all⟩
          by_contra long
          rcases codes with _ | ⟨second', _ | ⟨third', _ | ⟨next', codes⟩⟩⟩
          · exact long (by simp)
          · exact long (by simp)
          · exact long (by simp)
          · rw [plainRest_long, readPairs_append (codeBytes_even _),
              readPairs_codeBytes] at rest
            have lines : (plainLines mode.answerByte
                (next' :: codes)).length % 2 = 0 := by
              simp only [plainLines, List.length_cons] at even
              omega
            exact readPairs_lines_ne lines
              (List.append_cancel_left rest)
        · rintro (few | ⟨few, all⟩)
          · exact absurd few (by simp)
          · have single : (next :: codes).length ≤ 3 := by
              simp only [List.length_cons] at few ⊢
              omega
            rw [readPairs_plainRest_short single, ← shifted_same positive all]
            simp

end Plain

end Obd

end Mousstec
