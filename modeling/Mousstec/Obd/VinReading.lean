import Mousstec.Obd.VinReplies

/-!
# Reading a VIN

The lines of an answer that is not on a CAN bus are read byte by byte.  On a CAN
bus the digits of the length stay in front of the frames: there are three of
them, so that every byte after them is read across a byte boundary.
-/

namespace Mousstec

namespace Obd

section Deleting

variable {pattern : List Char → Option ℕ} {character : Char}
  {text : List Char}

theorem deleteAll_skip (skip : ℕ) (text : List Char) :
    deleteAll pattern skip text = deleteAll pattern 0 (text.drop skip) := by
  induction skip generalizing text with
  | zero => rfl
  | succ skip induction =>
      cases text with
      | nil => rfl
      | cons character text =>
          rw [deleteAll, induction, List.drop_succ_cons]

theorem deleteAll_none (none : pattern (character :: text) = none) :
    deleteAll pattern 0 (character :: text) =
      character :: deleteAll pattern 0 text := by
  rw [deleteAll, none]

theorem deleteAll_some {length : ℕ}
    (found : pattern (character :: text) = some (length + 1)) :
    deleteAll pattern 0 (character :: text) =
      deleteAll pattern 0 (text.drop length) := by
  rw [deleteAll, found]
  exact deleteAll_skip length text

theorem deleteAll_append {rest : List Char}
    (apart : ∀ tail, tail <:+ text → tail ≠ [] →
      pattern (tail ++ rest) = none) :
    deleteAll pattern 0 (text ++ rest) = text ++ deleteAll pattern 0 rest := by
  induction text with
  | nil => rfl
  | cons character text induction =>
      have first : pattern (character :: (text ++ rest)) = none :=
        apart _ List.suffix_rfl (List.cons_ne_nil _ _)
      have later := induction fun tail ends =>
        apart tail (ends.trans (List.suffix_cons _ _))
      rw [List.cons_append, deleteAll_none first, later, List.cons_append]

theorem deleteAll_map {change : Char → Char}
    (same : ∀ text, pattern (text.map change) = pattern text) (skip : ℕ)
    (text : List Char) : deleteAll pattern skip (text.map change) =
      (deleteAll pattern skip text).map change := by
  induction text generalizing skip with
  | nil =>
      cases skip with
      | zero => rfl
      | succ skip => rfl
  | cons character text induction =>
      cases skip with
      | succ skip =>
          rw [List.map_cons, deleteAll, deleteAll]
          exact induction skip
      | zero =>
          have matched := same (character :: text)
          rw [List.map_cons] at matched ⊢
          rw [deleteAll, deleteAll, matched]
          cases pattern (character :: text) with
          | none => exact congrArg _ (induction 0)
          | some length => exact induction (length - 1)

end Deleting

theorem space_not_digit {character : Char} (space : isSpace character = true) :
    character.isDigit = false := by
  by_contra digit
  rw [Bool.not_eq_false] at digit
  have low : 48 ≤ character.val ∧ character.val ≤ 57 := by
    simpa [Char.isDigit] using digit
  simp only [UInt32.le_iff_toNat_le] at low
  simp only [isSpace, Bool.or_eq_true, Bool.and_eq_true, decide_eq_true_eq,
    beq_iff_eq, UInt32.le_iff_toNat_le, ← UInt32.toNat_inj] at space
  simp at low space
  omega

theorem lineNumber_eq_some {text : List Char} {length : ℕ} :
    lineNumber text = some length ↔ ∃ digits spaces rest,
      text = digits ++ spaces ++ ':' :: rest ∧ digits ≠ [] ∧
        (∀ character ∈ digits, character.isDigit = true) ∧
        (∀ character ∈ spaces, isSpace character = true) ∧
        length = digits.length + spaces.length + 1 := by
  constructor
  · intro found
    simp only [lineNumber] at found
    by_cases number : text.takeWhile Char.isDigit ≠ [] ∧
        ((text.dropWhile Char.isDigit).dropWhile isSpace).head? = some ':'
    · rw [if_pos number] at found
      obtain ⟨rest, colon⟩ := List.head?_eq_some_iff.mp number.2
      refine ⟨_, _, rest, ?_, number.1, fun character member =>
        List.mem_takeWhile_imp member, fun character member =>
        List.mem_takeWhile_imp member, (Option.some.inj found).symm⟩
      rw [← colon, List.append_assoc, List.takeWhile_append_dropWhile,
        List.takeWhile_append_dropWhile]
    · rw [if_neg number] at found
      cases found
  · rintro ⟨digits, spaces, rest, rfl, some, digit, space, rfl⟩
    have first : (spaces ++ ':' :: rest).takeWhile Char.isDigit = [] := by
      cases spaces with
      | nil => rfl
      | cons character spaces =>
          rw [List.cons_append, List.takeWhile_cons_of_neg]
          rw [space_not_digit (space character List.mem_cons_self)]
          exact Bool.false_ne_true
    have first' : (spaces ++ ':' :: rest).dropWhile Char.isDigit =
        spaces ++ ':' :: rest := by
      have whole : (spaces ++ ':' :: rest).takeWhile Char.isDigit ++
          (spaces ++ ':' :: rest).dropWhile Char.isDigit =
            spaces ++ ':' :: rest := List.takeWhile_append_dropWhile
      rwa [first, List.nil_append] at whole
    simp only [lineNumber]
    rw [List.append_assoc, List.takeWhile_append_of_pos digit,
      List.dropWhile_append_of_pos digit, first, first', List.append_nil,
      List.takeWhile_append_of_pos space, List.dropWhile_append_of_pos space,
      List.takeWhile_cons_of_neg (by decide),
      List.dropWhile_cons_of_neg (by decide), List.append_nil]
    exact if_pos ⟨some, rfl⟩

theorem lineNumber_none {text : List Char} (plain : ':' ∉ text) :
    lineNumber text = none := by
  rw [Option.eq_none_iff_forall_ne_some]
  intro length found
  obtain ⟨digits, spaces, rest, rfl, -⟩ := lineNumber_eq_some.mp found
  exact plain (List.mem_append_right _ List.mem_cons_self)

theorem withoutNumbers_plain {text : List Char} (plain : ':' ∉ text) :
    withoutNumbers text = text := by
  have whole : deleteAll lineNumber 0 (text ++ []) =
      text ++ deleteAll lineNumber 0 [] := by
    apply deleteAll_append
    intro tail ends _
    rw [List.append_nil]
    exact lineNumber_none fun member => plain (ends.subset member)
  rwa [List.append_nil, deleteAll, List.append_nil] at whole

theorem lineNumber_cons_none {character : Char} {text : List Char}
    (letter : character.isDigit = false) :
    lineNumber (character :: text) = none := by
  rw [lineNumber, List.takeWhile_cons_of_neg (by simp [letter])]
  exact if_neg fun number => number.1 rfl

theorem withoutNumbers_number {digit : Char} (isDigit : digit.isDigit = true)
    (text : List Char) :
    withoutNumbers (digit :: ':' :: text) = withoutNumbers text := by
  have found : lineNumber (digit :: ':' :: text) = some (1 + 1) :=
    lineNumber_eq_some.mpr ⟨[digit], [], text, rfl, by simp, by simpa,
      by simp, rfl⟩
  exact deleteAll_some found

private theorem takeWhile_colon {before rest : List Char}
    (plain : ':' ∉ before) :
    (before ++ ':' :: rest).takeWhile (· != ':') = before := by
  rw [List.takeWhile_append_of_pos, List.takeWhile_cons_of_neg (by simp),
    List.append_nil]
  intro character member
  simp only [bne_iff_ne]
  rintro rfl
  exact plain member

theorem lineNumber_line {line rest : List Char} {character : Char}
    (letter : isSpace character = false) (other : character ≠ ':')
    (plain : ':' ∉ line) :
    lineNumber (line ++ '\r' :: character :: rest) = none := by
  rw [Option.eq_none_iff_forall_ne_some]
  intro length found
  obtain ⟨digits, spaces, after, whole, -, digit, space, -⟩ :=
    lineNumber_eq_some.mp found
  have colonless : ':' ∉ digits ++ spaces := by
    intro member
    rcases List.mem_append.mp member with there | there
    · exact absurd (digit _ there) (by decide)
    · exact absurd (space _ there) (by decide)
  have cut := congrArg (List.takeWhile (· != ':')) whole
  have start : line ++ '\r' :: character :: rest =
      (line ++ ['\r', character]) ++ rest := by
    simp
  have passed : ∀ other ∈ line ++ ['\r', character],
      (other != ':') = true := by
    intro other' member
    simp only [bne_iff_ne]
    rintro rfl
    rcases List.mem_append.mp member with there | there
    · exact plain there
    · rcases List.mem_cons.mp there with wrong | last
      · cases wrong
      · exact other (List.mem_singleton.mp last).symm
  rw [takeWhile_colon colonless, start, List.takeWhile_append_of_pos passed,
    List.append_assoc] at cut
  -- The carriage return is among the spaces, and so is all that follows it.
  have returned : '\r' ∉ digits := fun member =>
    absurd (digit _ member) (by decide)
  rcases List.append_eq_append_iff.mp cut.symm with
    ⟨more, rfl, tail⟩ | ⟨more, rfl, tail⟩
  · have member : character ∈ spaces := by
      rw [tail]
      simp
    rw [space character member] at letter
    cases letter
  · cases more with
    | nil =>
        have member : character ∈ spaces := by
          rw [List.nil_append] at tail
          rw [← tail]
          simp
        rw [space character member] at letter
        cases letter
    | cons first more =>
        have same : '\r' = first := (List.cons.inj tail).1
        exact returned (by rw [same]; simp)

theorem withoutNumbers_line {line rest : List Char} {character : Char}
    (letter : isSpace character = false) (other : character ≠ ':')
    (plain : ':' ∉ line) :
    withoutNumbers (line ++ '\r' :: character :: rest) =
      line ++ '\r' :: withoutNumbers (character :: rest) := by
  have returned : lineNumber ('\r' :: character :: rest) = none :=
    lineNumber_cons_none (by decide)
  have passed : withoutNumbers (line ++ '\r' :: character :: rest) =
      line ++ withoutNumbers ('\r' :: character :: rest) :=
    deleteAll_append fun tail ends _ =>
      lineNumber_line letter other fun member => plain (ends.subset member)
  rw [passed]
  exact congrArg _ (deleteAll_none returned)

def stripped (raw : List Char) : List Char :=
  compact (withoutNumbers raw)

section Stripped

variable {text : List Char}

theorem withoutNumbers_space {character : Char}
    (space : isSpace character = true) (text : List Char) :
    withoutNumbers (character :: text) = character :: withoutNumbers text :=
  deleteAll_none (lineNumber_cons_none (space_not_digit space))

theorem lineNumber_concat {character : Char} (space : isSpace character = true)
    (text : List Char) : lineNumber (text ++ [character]) = lineNumber text := by
  apply Option.ext
  intro length
  rw [lineNumber_eq_some, lineNumber_eq_some]
  constructor
  · rintro ⟨digits, spaces, rest, whole, same⟩
    rcases List.eq_nil_or_concat rest with rfl | ⟨rest, last, rfl⟩
    · have ends := (List.append_inj' whole rfl).2
      rw [List.singleton_inj] at ends
      rw [ends] at space
      exact absurd space (by decide)
    · rw [List.concat_eq_append] at whole
      have ends : text ++ [character] =
          (digits ++ spaces ++ ':' :: rest) ++ [last] := by
        rw [whole]
        simp
      exact ⟨digits, spaces, rest, (List.append_inj' ends rfl).1, same⟩
  · rintro ⟨digits, spaces, rest, rfl, same⟩
    exact ⟨digits, spaces, rest ++ [character], by simp, same⟩

theorem lineNumber_length {length : ℕ} (found : lineNumber text = some length) :
    length ≤ text.length := by
  obtain ⟨digits, spaces, rest, rfl, -, -, -, rfl⟩ :=
    lineNumber_eq_some.mp found
  simp only [List.length_append, List.length_cons]
  omega

theorem deleteNumbers_concat {character : Char}
    (space : isSpace character = true) (skip : ℕ)
    (inside : skip ≤ text.length) :
    deleteAll lineNumber skip (text ++ [character]) =
      deleteAll lineNumber skip text ++ [character] := by
  induction text generalizing skip with
  | nil =>
      rw [Nat.le_zero.mp inside]
      exact withoutNumbers_space space []
  | cons first text induction =>
      cases skip with
      | succ skip => exact induction skip (Nat.le_of_succ_le_succ inside)
      | zero =>
          have same := lineNumber_concat space (first :: text)
          rw [List.cons_append] at same ⊢
          rw [deleteAll, deleteAll, same]
          cases found : lineNumber (first :: text) with
          | none => exact congrArg _ (induction 0 (Nat.zero_le _))
          | some length =>
              apply induction
              have short := lineNumber_length found
              rw [List.length_cons] at short
              omega

theorem stripped_trimEnd (text : List Char) :
    stripped (trimEnd text) = stripped text := by
  induction text using List.reverseRecOn with
  | nil => rfl
  | append_singleton text last induction =>
      by_cases space : isSpace last = true
      · have shorter : trimEnd (text ++ [last]) = trimEnd text := by
          rw [trimEnd, List.reverse_concat, List.dropWhile_cons_of_pos space,
            trimEnd]
        have ends : withoutNumbers (text ++ [last]) =
            withoutNumbers text ++ [last] :=
          deleteNumbers_concat space 0 (Nat.zero_le _)
        have dropped : compact [last] = [] := compact_cons_space space []
        rw [shorter, induction, stripped, stripped, ends, compact_append,
          dropped, List.append_nil]
      · have kept : trimEnd (text ++ [last]) = text ++ [last] := by
          rw [trimEnd, List.reverse_concat, List.dropWhile_cons_of_neg space,
            ← List.reverse_concat, List.reverse_reverse]
        rw [kept]

theorem stripped_trim (text : List Char) :
    stripped (trim text) = stripped text := by
  have ended : stripped (trim text) = stripped (text.dropWhile isSpace) :=
    stripped_trimEnd _
  rw [ended]
  induction text with
  | nil => rfl
  | cons character text induction =>
      by_cases space : isSpace character = true
      · rw [List.dropWhile_cons_of_pos space, stripped, stripped,
          withoutNumbers_space space, compact_cons_space space]
        exact induction (stripped_trimEnd _)
      · rw [List.dropWhile_cons_of_neg space]

def spaced (text : List Char) : List Char :=
  text.map fun character => if character = '\r' then ' ' else character

theorem stripped_spaced (text : List Char) :
    stripped (spaced text) = stripped text := by
  have digits : (Char.isDigit ∘ fun character : Char =>
      if character = '\r' then ' ' else character) = Char.isDigit := by
    funext character
    rw [Function.comp_apply]
    split
    · rename_i returns
      rw [returns]
      rfl
    · rfl
  have spaces : (isSpace ∘ fun character : Char =>
      if character = '\r' then ' ' else character) = isSpace := by
    funext character
    rw [Function.comp_apply]
    split
    · rename_i returns
      rw [returns]
      rfl
    · rfl
  have same : ∀ text, lineNumber (spaced text) = lineNumber text := by
    intro text
    have colon : ∀ rest : List Char, (spaced rest).head? = some ':' ↔
        rest.head? = some ':' := by
      intro rest
      cases rest with
      | nil => exact Iff.rfl
      | cons character rest =>
          rw [spaced, List.map_cons, List.head?_cons, List.head?_cons]
          split
          · rename_i returns
            rw [returns]
            decide
          · exact Iff.rfl
    simp only [lineNumber]
    unfold spaced at colon ⊢
    simp only [List.takeWhile_map, List.dropWhile_map, digits, spaces, colon,
      List.length_map, ne_eq, List.map_eq_nil_iff]
  rw [stripped, withoutNumbers, spaced, deleteAll_map same]
  exact compact_spaced _

theorem trimEnd_append {word : List Char}
    (letters : ∀ character ∈ word, isSpace character = false)
    (text : List Char) : trimEnd (word ++ text) = word ++ trimEnd text := by
  have kept : word.reverse.dropWhile isSpace = word.reverse := by
    cases reversed : word.reverse with
    | nil => rfl
    | cons character rest =>
        rw [List.dropWhile_cons_of_neg]
        rw [letters character (by
          rw [← List.mem_reverse, reversed]
          exact List.mem_cons_self)]
        exact Bool.false_ne_true
  unfold trimEnd
  rw [List.reverse_append, List.dropWhile_append]
  split
  · rename_i none
    rw [List.isEmpty_iff] at none
    rw [none, kept, List.reverse_reverse, List.reverse_nil, List.append_nil]
  · rw [List.reverse_append, List.reverse_reverse]

theorem trim_append {first : Char} {word : List Char}
    (letters : ∀ character ∈ first :: word, isSpace character = false)
    (text : List Char) :
    trim (first :: word ++ text) = first :: word ++ trimEnd text := by
  have starts : (first :: word ++ text).dropWhile isSpace =
      first :: word ++ text := by
    rw [List.cons_append, List.dropWhile_cons_of_neg]
    rw [letters first List.mem_cons_self]
    exact Bool.false_ne_true
  have same : trim (first :: word ++ text) =
      trimEnd ((first :: word ++ text).dropWhile isSpace) := rfl
  rw [same, starts, trimEnd_append letters]

theorem clean_append {first : Char} {word : List Char}
    (letters : ∀ character ∈ first :: word, isSpace character = false)
    (text : List Char) :
    clean (first :: word ++ text) =
      first :: word ++ trimEnd (spaced text) := by
  have stays : ∀ {some : List Char},
      (∀ character ∈ some, isSpace character = false) →
        spaced some = some := by
    intro some letters
    rw [spaced]
    apply (List.map_congr_left fun character member => ?_).trans
      (List.map_id some)
    apply if_neg
    rintro rfl
    exact absurd (letters _ member) (by decide)
  have same : clean (first :: word ++ text) =
      trim (first :: word ++ spaced text) := by
    have apart : spaced (first :: word ++ text) =
        spaced (first :: word) ++ spaced text := List.map_append
    rw [stays letters] at apart
    exact congrArg trim apart
  rw [same, trim_append letters]

theorem stripped_echo (text : List Char) :
    stripped (stripEcho vinCmd (clean (vinCmd ++ '\r' :: text))) =
      stripped text := by
  have letters : ∀ character ∈ vinCmd, isSpace character = false :=
    @of_decide_eq_true _ (List.decidableBAll _ _) rfl
  have cleaned : clean (vinCmd ++ '\r' :: text) =
      vinCmd ++ trimEnd (spaced ('\r' :: text)) := clean_append letters _
  have trimmed : trim (vinCmd ++ trimEnd (spaced ('\r' :: text))) =
      vinCmd ++ trimEnd (trimEnd (spaced ('\r' :: text))) :=
    trim_append letters _
  have echoed : (toUpperCase vinCmd).isPrefixOf (toUpperCase
      (vinCmd ++ trimEnd (trimEnd (spaced ('\r' :: text))))) = true := by
    rw [List.isPrefixOf_iff_prefix]
    exact ⟨toUpperCase (trimEnd (trimEnd (spaced ('\r' :: text)))),
      (List.map_append).symm⟩
  simp only [stripEcho]
  rw [cleaned, trimmed, if_pos echoed, List.drop_left, stripped_trim,
    stripped_trimEnd, stripped_trimEnd, stripped_spaced]
  exact congrArg _ (withoutNumbers_space (by decide) text) |>.trans
    (compact_cons_space (by decide) _)

theorem stripped_clean {first second : Char} (text : List Char)
    (letter : isSpace first = false) (letter' : isSpace second = false)
    (other : ¬(first.toUpper = '0' ∧ second.toUpper = '9')) :
    stripped (stripEcho vinCmd (clean (first :: second :: text))) =
      stripped (first :: second :: text) := by
  have letters : ∀ character ∈ [first, second],
      isSpace character = false := by
    simp [letter, letter']
  have cleaned : clean (first :: second :: text) =
      [first, second] ++ trimEnd (spaced text) := clean_append letters text
  have trimmed : trim ([first, second] ++ trimEnd (spaced text)) =
      [first, second] ++ trimEnd (trimEnd (spaced text)) :=
    trim_append letters _
  have silent : ¬(toUpperCase vinCmd).isPrefixOf (toUpperCase
      ([first, second] ++ trimEnd (trimEnd (spaced text)))) = true := by
    rw [List.isPrefixOf_iff_prefix]
    rintro ⟨rest, same⟩
    have parts : '0' = first.toUpper ∧ '9' = second.toUpper := by
      simp only [toUpperCase, vinCmd, List.map_cons, List.cons_append,
        List.cons.injEq] at same
      exact ⟨same.1, same.2.1⟩
    exact other ⟨parts.1.symm, parts.2.symm⟩
  simp only [stripEcho]
  rw [cleaned, trimmed, if_neg silent, stripped_trim, ← trimmed,
    stripped_trim, ← cleaned, clean, stripped_trim]
  exact stripped_spaced _

end Stripped

end Obd

end Mousstec
