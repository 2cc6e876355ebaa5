import Mousstec.Library.Calendar
import Mousstec.Library.Numerals
import Mousstec.Library.Transaction

/-!
# The numbers of documents

A document that is saved without a number gets the next one of its day.  The
last number of the day is the largest text, and a number that is taken is
tried again, up to five times.
-/

namespace Mousstec.Printing

open Library Library.Numerals

abbrev Number := List Char

inductive SaveError where
  | taken
  | dataError
  | integrityError (text : String)
  | validationError (text : String)
  deriving DecidableEq

/-- How the numbers of a kind of document begin, how long they may be and what
is raised when no number is found. -/
structure NumberScheme where
  mark : Number
  limit : ℕ := 30
  exhausted : SaveError := .validationError "تعذّر توليد رقم فريد — حاول مرة أخرى."

namespace NumberScheme

/-- `PrintOrder.order_number`. -/
def order : NumberScheme where
  mark := ['P', 'O', '-']
  exhausted := .integrityError "تعذّر توليد رقم طلب فريد — حاول مرة أخرى."

/-- `MaterialPurchase.number`. -/
def purchase : NumberScheme where
  mark := ['P', 'U', 'R', '-']

/-- `CustomerCreditNote.number`. -/
def creditNote : NumberScheme where
  mark := ['C', 'N', '-']

/-- `SupplierBill.number`. -/
def bill : NumberScheme where
  mark := ['E', 'X', 'P', '-']

/-- `MaterialPurchaseReturn.number`. -/
def purchaseReturn : NumberScheme where
  mark := ['P', 'R', 'T', '-']

/-- `day_prefix`. -/
def dayPrefix (scheme : NumberScheme) (today : Date) : Number :=
  scheme.mark ++ padded 2 (today.year % 100) ++ padded 2 today.month ++
    padded 2 today.day ++ ['-']

end NumberScheme

/-- `Max(number)`. -/
def textMax : List Number → Option Number
  | [] => none
  | number :: column =>
      match textMax column with
      | none => some number
      | some last => if last < number then some number else some last

/-- `text.split('-')[-1]`. -/
def lastPart (text : Number) : List Char :=
  (text.reverse.takeWhile (· ≠ '-')).reverse

/-- `int(text)` of a text without a dash. -/
def int? (text : List Char) : Option ℕ :=
  let left := text.dropWhile Char.isWhitespace
  let stripped := (left.reverse.dropWhile Char.isWhitespace).reverse
  let groups :=
    (if stripped.head? = some '+' then stripped.tail else stripped).splitOn '_'
  if ∀ group ∈ groups, group ≠ [] ∧ group.all Char.isDigit then
    some (Nat.ofDigitChars 10 groups.flatten 0)
  else none

def numberAt (dayPrefix : Number) (sequence : ℕ) : Number :=
  dayPrefix ++ padded 3 sequence

def nextNumber (dayPrefix : Number) (column : List Number) : Number :=
  numberAt dayPrefix <|
    match textMax (column.filter dayPrefix.isPrefixOf) with
    | none => 1
    | some last =>
        match int? (lastPart last) with
        | none => 1
        | some sequence => sequence + 1

def insertNumber (limit : ℕ) (number : Number) :
    Txn SaveError (List Number) Unit := do
  Txn.require (number.length ≤ limit) .dataError
  let column ← get
  Txn.require (number ∉ column) .taken
  set (column ++ [number])

def saveAttempts (scheme : NumberScheme) (dayPrefix : Number) :
    ℕ → Txn SaveError (List Number) Number
  | 0 => throw scheme.exhausted
  | attempts + 1 => do
      let column ← get
      let number := nextNumber dayPrefix column
      match ← Txn.attempt (Txn.atomic (insertNumber scheme.limit number)) with
      | .ok _ => pure number
      | .error .taken => saveAttempts scheme dayPrefix attempts
      | .error error => throw error

/-- `_save_with_number`, and the numbering of `PrintOrder.save`. -/
def saveWithNumber (scheme : NumberScheme) (today : Date) :
    Txn SaveError (List Number) Number :=
  saveAttempts scheme (scheme.dayPrefix today) 5

/-- `save` of a new document. -/
def saveDocument (scheme : NumberScheme) (today : Date) (given : Number) :
    Txn SaveError (List Number) Number :=
  if given = [] then saveWithNumber scheme today
  else do
    insertNumber scheme.limit given
    pure given

/-- The documents of the day have the numbers up to a count. -/
def Numbered (dayPrefix : Number) (count : ℕ) (column : List Number) : Prop :=
  (column.filter dayPrefix.isPrefixOf).Perm
    ((List.range count).map fun earlier => numberAt dayPrefix (earlier + 1))

instance (dayPrefix : Number) (count : ℕ) (column : List Number) :
    Decidable (Numbered dayPrefix count column) :=
  inferInstanceAs (Decidable (List.Perm _ _))

private theorem padded_digits (width sequence : ℕ) :
    ∀ digit ∈ padded width sequence, digit.isDigit = true := by
  intro digit member
  rcases List.mem_append.mp member with zero | digit'
  · rw [List.eq_of_mem_replicate zero]
    rfl
  · exact Nat.isDigit_of_mem_toDigits (by decide) (by decide) digit'

private theorem ofDigitChars_padded (width sequence : ℕ) :
    Nat.ofDigitChars 10 (padded width sequence) 0 = sequence := by
  rw [padded, Nat.ofDigitChars_append, Nat.ofDigitChars_replicate_zero,
    Nat.mul_zero, Nat.ofDigitChars_ten_toDigits]

private theorem dropWhile_digits {text : List Char}
    (digits : ∀ digit ∈ text, digit.isDigit = true) :
    text.dropWhile Char.isWhitespace = text := by
  cases text with
  | nil => rfl
  | cons digit text =>
      have shown := digits digit List.mem_cons_self
      apply List.dropWhile_cons_of_neg
      intro space
      simp only [Char.isWhitespace, Bool.or_eq_true, decide_eq_true_eq] at space
      rcases space with ((rfl | rfl) | rfl) | rfl <;> cases shown

theorem int?_digits {text : List Char} (some : text ≠ [])
    (digits : ∀ digit ∈ text, digit.isDigit = true) :
    int? text = Option.some (Nat.ofDigitChars 10 text 0) := by
  have stripped : (text.reverse.dropWhile Char.isWhitespace).reverse = text := by
    rw [dropWhile_digits fun digit member =>
      digits digit (List.mem_reverse.mp member), List.reverse_reverse]
  have unsigned : text.head? ≠ Option.some '+' := by
    intro sign
    cases digits '+' (List.mem_of_mem_head? sign)
  have whole : text.splitOn '_' = [text] := by
    apply List.splitOnP_eq_singleton
    intro digit member
    apply beq_eq_false_iff_ne.mpr
    rintro rfl
    cases digits '_' member
  simp only [int?, dropWhile_digits digits, stripped, unsigned, if_false, whole]
  rw [if_pos]
  · rw [List.flatten_cons, List.flatten_nil, List.append_nil]
  · intro group member
    rw [List.mem_singleton.mp member]
    exact ⟨some, List.all_eq_true.mpr digits⟩

section Scheme

variable {scheme : NumberScheme} {today : Date} {column : List Number}
  {count sequence : ℕ}

theorem int?_lastPart (sequence : ℕ) :
    int? (lastPart (numberAt (scheme.dayPrefix today) sequence)) =
      some sequence := by
  have digits := padded_digits 3 sequence
  have part : lastPart (numberAt (scheme.dayPrefix today) sequence) =
      padded 3 sequence := by
    rw [lastPart, numberAt, NumberScheme.dayPrefix, List.reverse_append,
      List.reverse_append, List.takeWhile_append_of_pos]
    · exact (congrArg List.reverse (List.append_nil _)).trans
        (List.reverse_reverse _)
    · intro digit member
      apply decide_eq_true
      rintro rfl
      cases digits '-' (List.mem_reverse.mp member)
  have some : padded 3 sequence ≠ [] := by
    intro none
    have length := congrArg List.length none
    rw [padded, List.length_append, List.length_nil] at length
    have positive := @Nat.length_toDigits_pos 10 sequence
    omega
  rw [part, int?_digits some digits, ofDigitChars_padded]

theorem numberAt_injective {first second : ℕ}
    (same : numberAt (scheme.dayPrefix today) first =
      numberAt (scheme.dayPrefix today) second) : first = second := by
  have read := @int?_lastPart scheme today first
  rw [same, int?_lastPart] at read
  exact (Option.some.inj read).symm

theorem textMax_eq {last : Number} (member : last ∈ column)
    (top : ∀ number ∈ column, number ≤ last) : textMax column = some last := by
  have spec : ∀ column, (column = [] ∧ textMax column = none) ∨
      ∃ last ∈ column, textMax column = some last ∧
        ∀ number ∈ column, number ≤ last := by
    intro column
    induction column with
    | nil => exact .inl ⟨rfl, rfl⟩
    | cons number column induction =>
        right
        rw [textMax]
        rcases induction with ⟨rfl, none⟩ | ⟨last, member, rest, top⟩
        · rw [none]
          exact ⟨number, List.mem_cons_self, rfl, by simp⟩
        · rw [rest]
          by_cases less : last < number
          · refine ⟨number, List.mem_cons_self, if_pos less, ?_⟩
            intro other among
            rcases List.mem_cons.mp among with rfl | among
            · exact le_refl _
            · exact le_trans (top other among) (le_of_lt less)
          · refine ⟨last, List.mem_cons_of_mem _ member, if_neg less, ?_⟩
            intro other among
            rcases List.mem_cons.mp among with rfl | among
            · exact not_lt.mp less
            · exact top other among
  rcases spec column with ⟨rfl, -⟩ | ⟨last', member', same, top'⟩
  · cases member
  · rw [same, le_antisymm (top last' member') (top' last member)]

section Day

variable (numbered : Numbered (scheme.dayPrefix today) count column)
include numbered

theorem Numbered.mem : numberAt (scheme.dayPrefix today) sequence ∈ column ↔
    1 ≤ sequence ∧ sequence ≤ count := by
  have begins : (scheme.dayPrefix today).isPrefixOf
      (numberAt (scheme.dayPrefix today) sequence) = true :=
    List.isPrefixOf_iff_prefix.mpr (List.prefix_append _ _)
  have filtered : numberAt (scheme.dayPrefix today) sequence ∈ column ↔
      numberAt (scheme.dayPrefix today) sequence ∈
        column.filter (scheme.dayPrefix today).isPrefixOf := by
    rw [List.mem_filter, begins, and_iff_left rfl]
  rw [filtered, List.Perm.mem_iff numbered, List.mem_map]
  constructor
  · rintro ⟨earlier, member, same⟩
    have within := List.mem_range.mp member
    have same := numberAt_injective same
    omega
  · rintro ⟨first, within⟩
    exact ⟨sequence - 1, List.mem_range.mpr (by omega), by
      rw [Nat.sub_add_cancel first]⟩

theorem Numbered.next {last : ℕ} (first : 1 ≤ last) (within : last ≤ count)
    (top : ∀ earlier ≤ count, padded 3 earlier ≤ padded 3 last) :
    nextNumber (scheme.dayPrefix today) column =
      numberAt (scheme.dayPrefix today) (last + 1) := by
  have largest : textMax (column.filter (scheme.dayPrefix today).isPrefixOf) =
      some (numberAt (scheme.dayPrefix today) last) := by
    apply textMax_eq
    · exact (List.Perm.mem_iff numbered).mpr (List.mem_map.mpr
        ⟨last - 1, List.mem_range.mpr (by omega), by
          rw [Nat.sub_add_cancel first]⟩)
    · intro number member
      obtain ⟨earlier, within, rfl⟩ :=
        List.mem_map.mp ((List.Perm.mem_iff numbered).mp member)
      exact append_le_append _ (top _ (List.mem_range.mp within))
  rw [nextNumber, largest]
  simp only [int?_lastPart]

end Day

private theorem insertNumber_eq (limit : ℕ) (number : Number)
    (column : List Number) : insertNumber limit number column =
      if number.length ≤ limit then
        if number ∈ column then .error .taken column
        else .ok () (column ++ [number])
      else .error .dataError column := by
  by_cases fits : number.length ≤ limit
  · rw [if_pos fits, insertNumber, Txn.require, if_pos fits]
    change (Txn.require (number ∉ column) SaveError.taken >>= fun _ =>
      set (column ++ [number])) column = _
    by_cases taken : number ∈ column
    · rw [if_pos taken, Txn.require, if_neg (not_not_intro taken)]
      rfl
    · rw [if_neg taken, Txn.require, if_pos taken]
      rfl
  · rw [if_neg fits, insertNumber, Txn.require, if_neg fits]
    rfl

section Attempts

variable {dayPrefix : Number} {attempts : ℕ}

theorem saveAttempts_fresh
    (fits : (nextNumber dayPrefix column).length ≤ scheme.limit)
    (fresh : nextNumber dayPrefix column ∉ column) :
    saveAttempts scheme dayPrefix (attempts + 1) column =
      .ok (nextNumber dayPrefix column)
        (column ++ [nextNumber dayPrefix column]) := by
  have inserted : (Txn.attempt (Txn.atomic (insertNumber scheme.limit
      (nextNumber dayPrefix column))) : Txn SaveError _ _) column =
        .ok (.ok ()) (column ++ [nextNumber dayPrefix column]) := by
    unfold Txn.attempt Txn.atomic
    rw [insertNumber_eq, if_pos fits, if_neg fresh]
  rw [saveAttempts, Txn.bind_eq_ok]
  exact ⟨column, column, rfl, Txn.bind_eq_ok.mpr ⟨_, _, inserted, rfl⟩⟩

theorem saveAttempts_taken (attempts : ℕ)
    (fits : (nextNumber dayPrefix column).length ≤ scheme.limit)
    (taken : nextNumber dayPrefix column ∈ column) :
    saveAttempts scheme dayPrefix attempts column =
      .error scheme.exhausted column := by
  have refused : (Txn.attempt (Txn.atomic (insertNumber scheme.limit
      (nextNumber dayPrefix column))) : Txn SaveError _ _) column =
        .ok (.error .taken) column := by
    unfold Txn.attempt Txn.atomic
    rw [insertNumber_eq, if_pos fits, if_pos taken]
  induction attempts with
  | zero => rfl
  | succ attempts induction =>
      rw [saveAttempts, Txn.bind_eq_error]
      exact .inr ⟨column, column, rfl,
        Txn.bind_eq_error.mpr (.inr ⟨_, _, refused, induction⟩)⟩

theorem saveAttempts_tooLong
    (long : ¬(nextNumber dayPrefix column).length ≤ scheme.limit) :
    saveAttempts scheme dayPrefix (attempts + 1) column =
      .error .dataError column := by
  have refused : (Txn.attempt (Txn.atomic (insertNumber scheme.limit
      (nextNumber dayPrefix column))) : Txn SaveError _ _) column =
        .ok (.error .dataError) column := by
    unfold Txn.attempt Txn.atomic
    rw [insertNumber_eq, if_neg long]
  rw [saveAttempts, Txn.bind_eq_error]
  exact .inr ⟨column, column, rfl,
    Txn.bind_eq_error.mpr (.inr ⟨_, _, refused, rfl⟩)⟩

end Attempts

section Saved

variable (numbered : Numbered (scheme.dayPrefix today) count column)
include numbered

theorem Numbered.next_of_tops (tops : Tops 3 count) :
    nextNumber (scheme.dayPrefix today) column =
      numberAt (scheme.dayPrefix today) (count + 1) := by
  rcases Nat.eq_zero_or_pos count with rfl | some
  · have none : column.filter (scheme.dayPrefix today).isPrefixOf = [] :=
      List.Perm.eq_nil numbered
    rw [nextNumber, none]
    rfl
  · exact numbered.next some le_rfl fun _ le =>
      padded_le_of_tops (by decide) tops le

theorem saveWithNumber_of_not_tops (tops : ¬Tops 3 count)
    (result : Number) (after : List Number) :
    saveDocument scheme today [] column ≠ .ok result after := by
  obtain ⟨last, first, within, top⟩ := padded_le_of_not_tops (by decide) tops
  have next := numbered.next first (by omega) top
  have taken : nextNumber (scheme.dayPrefix today) column ∈ column := by
    rw [next, numbered.mem]
    omega
  rw [saveDocument, if_pos rfl, saveWithNumber]
  intro returned
  by_cases fits :
      (nextNumber (scheme.dayPrefix today) column).length ≤ scheme.limit
  · rw [saveAttempts_taken 5 fits taken] at returned
    cases returned
  · rw [saveAttempts_tooLong fits] at returned
    cases returned

/-- A document gets the next number exactly when the last number of its day is
last as a text and the next one fits its column. -/
theorem saveDocument_next_iff :
    saveDocument scheme today [] column =
        .ok (numberAt (scheme.dayPrefix today) (count + 1))
          (column ++ [numberAt (scheme.dayPrefix today) (count + 1)]) ↔
      Tops 3 count ∧
        (numberAt (scheme.dayPrefix today) (count + 1)).length ≤
          scheme.limit := by
  by_cases tops : Tops 3 count
  · have next := numbered.next_of_tops tops
    rw [saveDocument, if_pos rfl, saveWithNumber, and_iff_right tops, ← next]
    have fresh : nextNumber (scheme.dayPrefix today) column ∉ column := by
      rw [next, numbered.mem]
      omega
    constructor
    · intro returned
      by_contra long
      rw [saveAttempts_tooLong long] at returned
      cases returned
    · intro fits
      exact saveAttempts_fresh fits fresh
  · exact ⟨fun returned =>
      absurd returned (saveWithNumber_of_not_tops numbered tops _ _),
      fun holds => absurd holds.1 tops⟩

end Saved

end Scheme

private def someDay : Date := ⟨2025, 1, 2, by decide, by decide⟩

private def firstTwo : List Number :=
  ["PO-250101-001".toList, "PO-250102-001".toList, "PO-250102-002".toList]

theorem saveDocument_next_third :
    saveDocument .order someDay [] firstTwo =
      .ok "PO-250102-003".toList (firstTwo ++ ["PO-250102-003".toList]) :=
  (@saveDocument_next_iff .order someDay firstTwo 2 (by decide)).mpr
    ⟨by decide, by decide⟩

/-- After a thousand documents of a day the last number as a text is that of
the document before, whose next one is taken. -/
theorem not_all_numbered : ¬∀ (scheme : NumberScheme) (today : Date)
    (column : List Number) (count : ℕ),
    Numbered (scheme.dayPrefix today) count column →
      saveDocument scheme today [] column =
        .ok (numberAt (scheme.dayPrefix today) (count + 1))
          (column ++ [numberAt (scheme.dayPrefix today) (count + 1)]) := by
  intro all
  let column := (List.range 1000).map fun earlier =>
    numberAt (NumberScheme.order.dayPrefix someDay) (earlier + 1)
  have numbered :
      Numbered (NumberScheme.order.dayPrefix someDay) 1000 column := by
    have begins : column.filter
        (NumberScheme.order.dayPrefix someDay).isPrefixOf = column := by
      apply List.filter_eq_self.mpr
      intro number member
      obtain ⟨earlier, -, rfl⟩ := List.mem_map.mp member
      exact List.isPrefixOf_iff_prefix.mpr (List.prefix_append _ _)
    rw [Numbered, begins]
  exact saveWithNumber_of_not_tops numbered (by decide) _ _
    (all .order someDay column 1000 numbered)

end Mousstec.Printing
