import Mathlib.Algebra.Order.Ring.Nat
import Mathlib.Data.Char
import Mathlib.Data.List.Lex

/-!
# Numerals and their order as texts

Numbers padded with zeros to a width are in order as texts as long as they fit
the width.  Beyond it a longer numeral can come before a shorter one.
-/

namespace Library

namespace Numerals

/-- A number in at least so many digits. -/
def padded (width number : ℕ) : List Char :=
  let digits := Nat.toDigits 10 number
  List.replicate (width - digits.length) '0' ++ digits

/-- The last digits of a number. -/
def places : ℕ → ℕ → List Char
  | 0, _ => []
  | width + 1, number =>
      places width (number / 10) ++ [Nat.digitChar (number % 10)]

theorem places_length (width number : ℕ) :
    (places width number).length = width := by
  induction width generalizing number with
  | zero => rfl
  | succ width induction => rw [places, List.length_append, induction]; rfl

theorem places_zero {width number : ℕ} (fits : number < 10 ^ width) :
    places (width + 1) number = '0' :: places width number := by
  induction width generalizing number with
  | zero =>
      obtain rfl : number = 0 := by simpa using fits
      rfl
  | succ width induction =>
      have fits' : number / 10 < 10 ^ width := by
        rw [Nat.pow_succ] at fits
        omega
      rw [places, induction fits']
      rfl

theorem places_toDigits (number : ℕ) :
    places (Nat.toDigits 10 number).length number = Nat.toDigits 10 number := by
  induction number using Nat.strongRecOn with
  | ind number induction =>
      by_cases small : number < 10
      · rw [Nat.toDigits_of_lt_base small]
        simp [places, Nat.mod_eq_of_lt small]
      · have large : 10 ≤ number := not_lt.mp small
        rw [Nat.toDigits_of_base_le (by decide) large, List.length_append,
          List.length_singleton, places, induction (number / 10) (by omega)]

theorem padded_eq (width number : ℕ) : padded width number =
    places (max width (Nat.toDigits 10 number).length) number := by
  have fits : number < 10 ^ (Nat.toDigits 10 number).length :=
    (Nat.length_toDigits_le_iff (by decide) Nat.length_toDigits_pos).mp le_rfl
  have more : ∀ zeros, places (zeros + (Nat.toDigits 10 number).length) number =
      List.replicate zeros '0' ++ Nat.toDigits 10 number := by
    intro zeros
    induction zeros with
    | zero => rw [Nat.zero_add, places_toDigits]; rfl
    | succ zeros induction =>
        have fits' : number < 10 ^ (zeros + (Nat.toDigits 10 number).length) :=
          fits.trans_le (Nat.pow_le_pow_right (by decide)
            (Nat.le_add_left _ zeros))
        rw [Nat.succ_add, places_zero fits', induction]
        rfl
  rw [padded, ← more, Nat.sub_add_eq_max]

theorem le_of_prefix {first second : List Char} (begins : first <+: second) :
    first ≤ second :=
  not_lt.mp fun less => List.IsPrefix.le begins less

theorem append_le_append (text : List Char) {first second : List Char}
    (le : first ≤ second) : text ++ first ≤ text ++ second :=
  not_lt.mp fun less => List.append_left_le (not_lt.mpr le) less

theorem lt_append {first second : List Char} (later : List Char)
    (length : first.length = second.length) (less : first < second)
    (rest : List Char) : first ++ later < second ++ rest := by
  induction first generalizing second with
  | nil =>
      obtain rfl := List.length_eq_zero_iff.mp length.symm
      exact absurd less (List.not_lt_nil [])
  | cons character first induction =>
      cases second with
      | nil => cases length
      | cons character' second =>
          rw [List.cons_append, List.cons_append, List.cons_lt_cons_iff]
          rcases List.cons_lt_cons_iff.mp less with less | ⟨same, less⟩
          · exact .inl less
          · exact .inr ⟨same, induction (Nat.succ.inj length) less⟩

theorem digitChar_lt : ∀ first < 10, ∀ second < 10, first < second →
    Nat.digitChar first < Nat.digitChar second := by
  decide

theorem places_lt {width first second : ℕ} (less : first < second)
    (fits : second < 10 ^ width) :
    places width first < places width second := by
  induction width generalizing first second with
  | zero => omega
  | succ width induction =>
      rw [Nat.pow_succ] at fits
      rw [places, places]
      by_cases same : first / 10 = second / 10
      · rw [same]
        apply List.append_left_lt
        rw [List.cons_lt_cons_iff]
        exact .inl (digitChar_lt _ (Nat.mod_lt _ (by decide)) _
          (Nat.mod_lt _ (by decide)) (by omega))
      · apply lt_append
        · rw [places_length, places_length]
        · exact induction (by omega) (by omega)

theorem places_le {width first second : ℕ} (le : first ≤ second)
    (fits : second < 10 ^ width) :
    places width first ≤ places width second := by
  rcases Nat.lt_or_eq_of_le le with less | rfl
  · exact le_of_lt (places_lt less fits)
  · exact le_refl _

/-- Nothing of the width comes after the nines. -/
theorem places_nines (width : ℕ) :
    places width (10 ^ width - 1) = List.replicate width '9' := by
  induction width with
  | zero => rfl
  | succ width induction =>
      have positive : 0 < 10 ^ width := Nat.pow_pos (by decide)
      have quotient : (10 ^ (width + 1) - 1) / 10 = 10 ^ width - 1 := by
        rw [Nat.pow_succ]
        omega
      have last : (10 ^ (width + 1) - 1) % 10 = 9 := by
        rw [Nat.pow_succ]
        omega
      rw [places, quotient, last, induction, List.replicate_succ']
      rfl

theorem nines_le {width more : ℕ} (le : width ≤ more) :
    places width (10 ^ width - 1) ≤ places more (10 ^ more - 1) := by
  apply le_of_prefix
  rw [places_nines, places_nines]
  exact List.prefix_replicate_iff.mpr (by simpa using le)

/-- A numeral that is one digit longer than the nines comes before them, unless
it begins with them. -/
theorem places_succ_lt {width number : ℕ}
    (other : number / 10 < 10 ^ width - 1) :
    places (width + 1) number < places width (10 ^ width - 1) := by
  have positive : 0 < 10 ^ width := Nat.pow_pos (by decide)
  have less : places width (number / 10) < places width (10 ^ width - 1) :=
    places_lt other (by omega)
  have length : (places width (number / 10)).length =
      (places width (10 ^ width - 1)).length := by
    rw [places_length, places_length]
  have longer := lt_append [Nat.digitChar (number % 10)] length less []
  rwa [List.append_nil] at longer

theorem nines_le_succ {width number : ℕ}
    (same : number / 10 = 10 ^ width - 1) :
    places width (10 ^ width - 1) ≤ places (width + 1) number := by
  apply le_of_prefix
  rw [places, same]
  exact List.prefix_append _ _

/-- The length of a numeral. -/
def count (number : ℕ) : ℕ :=
  (Nat.toDigits 10 number).length

theorem count_le_iff {width number : ℕ} (some : 0 < width) :
    count number ≤ width ↔ number < 10 ^ width :=
  Nat.length_toDigits_le_iff (by decide) some

theorem lt_pow_count (number : ℕ) : number < 10 ^ count number :=
  (count_le_iff Nat.length_toDigits_pos).mp le_rfl

/-- The numeral comes after all earlier ones: it still fits the width, or only
its last digit can differ from nine. -/
def Tops (width number : ℕ) : Prop :=
  number < 10 ^ width ∨ 10 ^ count number ≤ number + 10

instance (width number : ℕ) : Decidable (Tops width number) :=
  inferInstanceAs (Decidable (_ ∨ _))

section Last

variable {width number earlier : ℕ}

/-- A numeral beyond the width has one digit more than the nines below it. -/
theorem beyond (some : 0 < width) (wide : 10 ^ width ≤ number) :
    ∃ fewer, width ≤ fewer ∧ count number = fewer + 1 ∧ 10 ^ fewer ≤ number := by
  have longer : width < count number := by
    by_contra short
    exact absurd ((count_le_iff some).mp (not_lt.mp short)) (not_lt.mpr wide)
  refine ⟨count number - 1, by omega, by omega, ?_⟩
  by_contra less
  have short := (count_le_iff (by omega)).mpr (not_le.mp less)
  omega

theorem padded_count (width number : ℕ) :
    padded width number = places (max width (count number)) number :=
  padded_eq width number

/-- What is not longer than the nines does not come after them. -/
theorem padded_le_nines {fewer : ℕ} (within : width ≤ fewer)
    (short : count earlier ≤ fewer) :
    padded width earlier ≤ places fewer (10 ^ fewer - 1) := by
  rw [padded_count]
  have fits : earlier < 10 ^ max width (count earlier) :=
    (lt_pow_count earlier).trans_le
      (Nat.pow_le_pow_right (by decide) (le_max_right _ _))
  apply le_trans (places_le (Nat.le_sub_one_of_lt fits)
    (Nat.sub_lt (Nat.pow_pos (by decide)) Nat.one_pos))
  exact nines_le (max_le within short)

theorem count_mono (le : earlier ≤ number) : count earlier ≤ count number :=
  (count_le_iff Nat.length_toDigits_pos).mpr
    (le.trans_lt (lt_pow_count number))

theorem padded_le_of_tops (some : 0 < width) (tops : Tops width number)
    (le : earlier ≤ number) : padded width earlier ≤ padded width number := by
  by_cases small : number < 10 ^ width
  · have alike : ∀ {other}, other ≤ number → padded width other =
        places width other := by
      intro other le
      rw [padded_count, max_eq_left ((count_le_iff some).mpr (by omega))]
    rw [alike le, alike le_rfl]
    exact places_le le small
  · have last := tops.resolve_left small
    obtain ⟨fewer, within, length, -⟩ := beyond some (not_lt.mp small)
    have fits := lt_pow_count number
    have positive : 0 < 10 ^ fewer := Nat.pow_pos (by decide)
    rw [length, Nat.pow_succ] at last fits
    rw [padded_count width number, length, max_eq_right (by omega)]
    have order := count_mono le
    rw [length] at order
    by_cases short : count earlier ≤ fewer
    · exact le_trans (padded_le_nines within short)
        (nines_le_succ (by omega))
    · have same : count earlier = fewer + 1 := by omega
      rw [padded_count, same, max_eq_right (by omega)]
      exact places_le le (by rw [Nat.pow_succ]; exact fits)

/-- Otherwise the nines that have one digit less come last. -/
theorem padded_le_of_not_tops (some : 0 < width) (tops : ¬Tops width number) :
    ∃ last, 1 ≤ last ∧ last + 1 ≤ number ∧
      ∀ earlier ≤ number, padded width earlier ≤ padded width last := by
  rw [Tops, not_or, not_lt, not_le] at tops
  obtain ⟨fewer, within, length, large⟩ := beyond some tops.1
  have few := tops.2
  rw [length, Nat.pow_succ] at few
  have ten : 10 ^ 1 ≤ 10 ^ fewer :=
    Nat.pow_le_pow_right (by decide) (by omega)
  have nines : count (10 ^ fewer - 1) = fewer := by
    apply le_antisymm
    · exact (count_le_iff (by omega)).mpr (by omega)
    · by_contra short
      have less := lt_pow_count (10 ^ fewer - 1)
      have bound : 10 ^ (count (10 ^ fewer - 1) + 1) ≤ 10 ^ fewer :=
        Nat.pow_le_pow_right (by decide) (not_le.mp short)
      rw [Nat.pow_succ] at bound
      omega
  refine ⟨10 ^ fewer - 1, by omega, by omega, fun earlier le => ?_⟩
  rw [padded_count width (10 ^ fewer - 1), nines, max_eq_right within]
  have order := count_mono le
  rw [length] at order
  by_cases short : count earlier ≤ fewer
  · exact padded_le_nines within short
  · have same : count earlier = fewer + 1 := by omega
    rw [padded_count, same, max_eq_right (by omega)]
    exact le_of_lt (places_succ_lt (by omega))

end Last

end Numerals

end Library
