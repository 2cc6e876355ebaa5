import Mousstec.Stock.LandedCost
import Mathlib.Algebra.Order.BigOperators.Group.List
import Mathlib.Algebra.BigOperators.Group.List.Basic
import Mathlib.Algebra.BigOperators.Ring.List
import Mathlib.Algebra.Order.Group.Unbundled.Abs
import Mathlib.Data.List.Induction

/-!
# The shares of the automatic lines

The passes over the weights give whole parts that are close to the exact
proportions, and the last line with a weight takes what is left.  The shares are
then put between the ones that are set by hand.
-/

namespace Mousstec

namespace Stock

open Library

theorem mapM_eq_ok {α β ε : Type} {values : List α}
    {change : α → Except ε β} {result : α → β}
    (each : ∀ value ∈ values, change value = .ok (result value)) :
    values.mapM change = .ok (values.map result) := by
  induction values with
  | nil => rfl
  | cons value values induction =>
      rw [List.mapM_cons, each value List.mem_cons_self,
        induction fun other member => each other (List.mem_cons_of_mem _ member)]
      rfl

theorem filter_getElem? {α : Type} {values : List α} {keep : α → Bool}
    {i : ℕ} {value : α} (found : values[i]? = some value) (kept : keep value) :
    (values.filter keep)[(values.take i).countP keep]? = some value := by
  induction values generalizing i with
  | nil => cases found
  | cons first values induction =>
      cases i with
      | zero =>
          obtain rfl := Option.some.inj found
          simp [kept]
      | succ i =>
          have later := induction (i := i) (by simpa using found)
          by_cases holds : keep first
          · simpa [List.filter_cons, List.countP_cons, holds] using later
          · simpa [List.filter_cons, List.countP_cons, holds] using later

theorem zipIdx_getElem? {α : Type} {values : List α} {i : ℕ} {value : α}
    (found : values[i]? = some value) :
    values.zipIdx[i]? = some (value, i) := by
  rw [List.getElem?_zipIdx, found]
  simp

section Sums

variable (places : ℕ) {values : List ℚ}

theorem foldl_decimal {places : ℕ}
    (each : ∀ value ∈ values, HasPlaces places value)
    (total : ℚ) (exact : HasPlaces places total)
    (small : (|total| + (values.map abs).sum) * 10 ^ places <
      10 ^ decimalDigits) :
    values.foldl (fun total value => decimal (total + value)) total =
      total + values.sum := by
  induction values generalizing total with
  | nil => simp
  | cons value values induction =>
      rw [List.map_cons, List.sum_cons] at small
      have rest : 0 ≤ (values.map abs).sum := by
        apply List.sum_nonneg
        intro size member
        obtain ⟨other, -, rfl⟩ := List.mem_map.mp member
        exact abs_nonneg other
      have tens : (0 : ℚ) < 10 ^ places := by positivity
      have triangle := abs_add_le total value
      have added : HasPlaces places (total + value) :=
        exact.add (each value List.mem_cons_self)
      have stays : decimal (total + value) = total + value := by
        apply significant_of_places places added
        exact lt_of_le_of_lt
          (mul_le_mul_of_nonneg_right (by linarith) tens.le) small
      rw [List.foldl_cons, List.sum_cons, stays, induction
        (fun other member => each other (List.mem_cons_of_mem _ member)) _
          added]
      · ring
      · exact lt_of_le_of_lt
          (mul_le_mul_of_nonneg_right (by linarith) tens.le) small

theorem decimalSum_eq (each : ∀ value ∈ values, HasPlaces places value)
    (small : (values.map abs).sum * 10 ^ places < 10 ^ decimalDigits) :
    decimalSum values = values.sum := by
  have folded := foldl_decimal each 0 .zero (by simpa using small)
  rwa [zero_add] at folded

end Sums

section Parts

/-- A rounding of a quotient to whole cents. -/
structure CentRounding (rounding : ℚ → ℤ) : Prop where
  nonneg : ∀ value : ℚ, 0 ≤ value → 0 ≤ rounding value
  zero : rounding 0 = 0
  le_whole : ∀ value : ℚ, 0 ≤ value → ∀ bound : ℤ, value ≤ bound →
    rounding value ≤ bound
  near : ∀ value : ℚ, 0 ≤ value → value < 10 ^ 27 →
    |(rounding (decimal value) : ℚ) - value| < 1

variable {value : ℚ}

private theorem decimal_nonneg (sign : 0 ≤ value) : 0 ≤ decimal value :=
  significant_nonneg sign

private theorem decimal_near (sign : 0 ≤ value) :
    |decimal value - value| ≤ value / (2 * 10 ^ 27) :=
  significant_near sign

theorem roundHalfEven_cents : CentRounding roundHalfEven where
  nonneg value sign := roundHalfEven_nearest.nonneg sign
  zero := roundHalfEven_zero
  le_whole value _ bound upper := roundHalfEven_nearest.le_whole upper
  near value sign small := by
    have rounded := roundHalfEven_nearest.near (decimal value)
    have error := decimal_near sign
    have tiny : value / (2 * 10 ^ 27) < 1 / 2 := by
      rw [div_lt_div_iff₀ (by positivity) (by norm_num)]
      linarith
    have split := abs_sub_le (roundHalfEven (decimal value) : ℚ)
      (decimal value) value
    linarith

theorem roundDown_cents : CentRounding roundDown where
  nonneg value sign := by
    rw [roundDown, if_pos sign]
    exact Int.floor_nonneg.mpr sign
  zero := by simp [roundDown]
  le_whole value sign bound upper := by
    rw [roundDown, if_pos sign]
    exact_mod_cast (Int.floor_le value).trans upper
  near value sign small := by
    have signed := decimal_nonneg sign
    have error := (abs_le.mp (decimal_near sign)).2
    have tiny : value / (2 * 10 ^ 27) < 1 := by
      rw [div_lt_one (by positivity)]
      linarith
    have kept : (⌊value⌋ : ℚ) ≤ decimal value :=
      whole_le_significant sign
        (small.trans (by norm_num [decimalDigits])) (Int.floor_le value)
    have below : ((⌊value⌋ : ℤ) : ℚ) ≤ ⌊decimal value⌋ := by
      exact_mod_cast Int.le_floor.mpr kept
    have floor := Int.lt_floor_add_one value
    have upper := Int.floor_le (decimal value)
    rw [roundDown, if_pos signed, abs_lt]
    constructor <;> linarith

def part (rounding : ℚ → ℤ) (remainder total weight : ℚ) : ℚ :=
  rounding (decimal (remainder * weight / total))

variable {rounding : ℚ → ℤ} (cents : CentRounding rounding)
  {remainder total weight : ℚ}

include cents

theorem part_nonneg (rest : 0 ≤ remainder) (all : 0 ≤ total)
    (some : 0 ≤ weight) : 0 ≤ part rounding remainder total weight := by
  have quotient : 0 ≤ remainder * weight / total := by positivity
  rw [part]
  exact_mod_cast cents.nonneg _ (decimal_nonneg quotient)

theorem part_zero : part rounding remainder total 0 = 0 := by
  simp [part, decimal, cents.zero]

end Parts

theorem lastWeighted_eq {before after : List ℚ} {weight : ℚ}
    (positive : 0 < weight) (none : ∀ other ∈ after, ¬ 0 < other) :
    lastWeighted (before ++ weight :: after) = before.length := by
  have reversed : (before ++ weight :: after).reverse =
      after.reverse ++ weight :: before.reverse := by
    simp
  have skipped : after.reverse.findIdx (fun other => decide (0 < other)) =
      after.reverse.length := by
    rw [List.findIdx_eq_length]
    intro other member
    exact decide_eq_false (none other (List.mem_reverse.mp member))
  rw [lastWeighted, reversed, List.findIdx_append, skipped,
    if_neg (lt_irrefl _), List.findIdx_cons, decide_eq_true positive]
  simp only [List.length_append, List.length_cons, List.length_reverse,
    cond_true]
  omega

/-- The weights, split at the last one that is positive. -/
structure Weighted (before : List ℚ) (weight : ℚ) (after : List ℚ) : Prop where
  nonneg : ∀ other ∈ before, 0 ≤ other
  positive : 0 < weight
  none : ∀ other ∈ after, other = 0

namespace Weighted

variable {before after : List ℚ} {weight : ℚ}
  (weighted : Weighted before weight after)

include weighted

theorem last : lastWeighted (before ++ weight :: after) = before.length := by
  apply lastWeighted_eq weighted.positive
  intro other member
  rw [weighted.none other member]
  exact lt_irrefl 0

theorem sum_before_nonneg : 0 ≤ before.sum :=
  List.sum_nonneg weighted.nonneg

theorem sum : (before ++ weight :: after).sum = before.sum + weight := by
  have rest : after.sum = 0 := List.sum_eq_zero weighted.none
  rw [List.sum_append, List.sum_cons, rest, add_zero]

theorem sum_pos : 0 < (before ++ weight :: after).sum := by
  rw [weighted.sum]
  have earlier := weighted.sum_before_nonneg
  have positive := weighted.positive
  linarith

theorem each_nonneg : ∀ other ∈ before ++ weight :: after, 0 ≤ other := by
  intro other member
  rcases List.mem_append.mp member with earlier | later
  · exact weighted.nonneg other earlier
  · rcases List.mem_cons.mp later with rfl | later
    · exact weighted.positive.le
    · exact (weighted.none other later).ge

theorem le_sum {other : ℚ} (member : other ∈ before ++ weight :: after) :
    other ≤ (before ++ weight :: after).sum :=
  List.single_le_sum weighted.each_nonneg other member

end Weighted

section Pass

variable {rounding : ℚ → ℤ} (cents : CentRounding rounding)
  {before after : List ℚ} {weight : ℚ} (weighted : Weighted before weight after)
  {remainder : ℤ} (rest : 0 < remainder) (small : (remainder : ℚ) < 10 ^ 27)

private theorem quotient_le {total other : ℚ} (rest : 0 ≤ remainder)
    (all : 0 < total) (within : other ≤ total) :
    (remainder : ℚ) * other / total ≤ remainder := by
  rw [div_le_iff₀ all]
  have amount : (0 : ℚ) ≤ remainder := by exact_mod_cast rest
  gcongr

include cents rest in
theorem part_le {total other : ℚ} (sign : 0 ≤ other) (all : 0 < total)
    (within : other ≤ total) (small : (remainder : ℚ) < 10 ^ 27) :
    part rounding remainder total other ≤ remainder := by
  have amount : (0 : ℚ) ≤ remainder := by exact_mod_cast rest.le
  have quotient : 0 ≤ (remainder : ℚ) * other / total := by positivity
  have upper := quotient_le rest.le all within
  have kept : decimal ((remainder : ℚ) * other / total) ≤ remainder := by
    apply significant_le_whole quotient _ upper
    refine (upper.trans_lt small).trans ?_
    norm_num [decimalDigits]
  rw [part]
  exact_mod_cast cents.le_whole _ (decimal_nonneg quotient) remainder kept

include cents rest in
theorem part_near {total other : ℚ} (sign : 0 ≤ other) (all : 0 < total)
    (within : other ≤ total) (small : (remainder : ℚ) < 10 ^ 27) :
    |part rounding remainder total other - remainder * other / total| < 1 := by
  have amount : (0 : ℚ) ≤ remainder := by exact_mod_cast rest.le
  have quotient : 0 ≤ (remainder : ℚ) * other / total := by positivity
  exact cents.near _ quotient
    ((quotient_le rest.le all within).trans_lt small)

include cents weighted rest small in
theorem sum_parts_le : (before.map (part rounding remainder
    (before ++ weight :: after).sum)).sum ≤ remainder + before.length := by
  have all := weighted.sum_pos
  set total := (before ++ weight :: after).sum with totalled
  have each : ∀ other ∈ before, part rounding remainder total other ≤
      remainder * other / total + 1 := by
    intro other member
    have within : other ≤ total :=
      weighted.le_sum (List.mem_append_left _ member)
    have near := (abs_lt.mp (part_near cents rest (weighted.nonneg other member)
      all within small)).2
    linarith
  have quotients : (before.map fun other => remainder * other / total + 1).sum =
      remainder * before.sum / total + before.length := by
    clear each totalled
    clear_value total
    induction before with
    | nil => simp
    | cons other before induction =>
        rw [List.map_cons, List.sum_cons, List.sum_cons, induction]
        · push_cast [List.length_cons]
          ring
        · exact ⟨fun other member => weighted.nonneg other
            (List.mem_cons_of_mem _ member), weighted.positive, weighted.none⟩
  have upper : (remainder : ℚ) * before.sum / total ≤ remainder := by
    apply quotient_le rest.le all
    rw [totalled, weighted.sum]
    have positive := weighted.positive
    linarith
  calc
    (before.map (part rounding remainder total)).sum ≤
        (before.map fun other => remainder * other / total + 1).sum :=
      List.sum_le_sum each
    _ ≤ remainder + before.length := by
      rw [quotients]
      linarith

def passShares (rounding : ℚ → ℤ) (remainder : ℤ) (before : List ℚ) (weight : ℚ)
    (after : List ℚ) : List ℚ :=
  before.map (part rounding remainder (before ++ weight :: after).sum) ++
    (remainder - (before.map
      (part rounding remainder (before ++ weight :: after).sum)).sum) ::
      after.map fun _ => 0

include cents weighted rest small in
theorem roundedShares_eq
    (exact : ∀ other ∈ before ++ weight :: after,
      decimal (remainder * other) = remainder * other)
    (few : (before.length : ℚ) < 10 ^ 27) :
    roundedShares rounding remainder (before ++ weight :: after).sum
      (before ++ weight :: after) =
        .ok (passShares rounding remainder before weight after) := by
  have all := weighted.sum_pos
  have limit : (10 : ℚ) ^ 27 + 10 ^ 27 < 10 ^ decimalDigits := by
    norm_num [decimalDigits]
  set total := (before ++ weight :: after).sum with totalled
  have each : ∀ row ∈ (before ++ weight :: after).zipIdx,
      (if row.2 = lastWeighted (before ++ weight :: after) then .ok 0
        else quantize rounding
          (decimal (decimal (remainder * row.1) / total)) :
        Except DecimalError ℚ) =
        .ok (if row.2 = before.length then 0
          else part rounding remainder total row.1) := by
    intro row member
    have listed := List.fst_mem_of_mem_zipIdx member
    rw [weighted.last]
    split
    · rfl
    · have sign := weighted.each_nonneg row.1 listed
      have within := weighted.le_sum listed
      have upper := part_le cents rest sign all within small
      have lower : 0 ≤ part rounding remainder total row.1 :=
        part_nonneg cents (by exact_mod_cast rest.le) all.le sign
      rw [exact row.1 listed, quantize, if_pos]
      · rfl
      · rw [part] at upper lower
        have fits : |(rounding (decimal (remainder * row.1 / total)) : ℚ)| <
            10 ^ decimalDigits := by
          rw [abs_of_nonneg lower]
          linarith
        exact_mod_cast fits
  have earlier : before.zipIdx.map (fun row =>
      if row.2 = before.length then 0
      else part rounding remainder total row.1) =
        before.map (part rounding remainder total) := by
    calc
      _ = before.zipIdx.map (part rounding remainder total ∘ Prod.fst) := by
        apply List.map_congr_left
        intro row member
        have index := List.snd_lt_of_mem_zipIdx member
        rw [if_neg (by omega)]
        rfl
      _ = before.map (part rounding remainder total) := by
        rw [← List.map_map, List.zipIdx_map_fst]
  have later : (after.zipIdx (before.length + 1)).map (fun row =>
      if row.2 = before.length then 0
      else part rounding remainder total row.1) = after.map fun _ => 0 := by
    calc
      _ = (after.zipIdx (before.length + 1)).map ((fun _ => (0 : ℚ)) ∘ Prod.fst) := by
        apply List.map_congr_left
        intro row member
        have index := List.le_snd_of_mem_zipIdx member
        rw [if_neg (by omega), weighted.none row.1
          (List.fst_mem_of_mem_zipIdx member), part_zero cents]
        rfl
      _ = after.map fun _ => 0 := by
        rw [← List.map_map, List.zipIdx_map_fst]
  have parts : (before ++ weight :: after).zipIdx.map (fun row =>
      if row.2 = before.length then 0
      else part rounding remainder total row.1) =
        before.map (part rounding remainder total) ++
          (0 :: after.map fun _ => 0) := by
    rw [List.zipIdx_append, List.map_append, earlier, List.zipIdx_cons,
      List.map_cons, zero_add, later, if_pos rfl]
  have nonneg : ∀ share ∈ before.map (part rounding remainder total),
      0 ≤ share := by
    intro share member
    obtain ⟨other, listed, rfl⟩ := List.mem_map.mp member
    exact part_nonneg cents (by exact_mod_cast rest.le) all.le
      (weighted.nonneg other listed)
  have whole : ∀ share ∈ before.map (part rounding remainder total),
      HasPlaces 0 share := by
    intro share member
    obtain ⟨other, -, rfl⟩ := List.mem_map.mp member
    exact .whole _
  have sign := List.sum_nonneg nonneg
  have upper := sum_parts_le cents weighted rest small
  rw [← totalled] at upper
  have summed : decimalSum (before.map (part rounding remainder total) ++
      (0 :: after.map fun _ => 0)) =
        (before.map (part rounding remainder total)).sum := by
    rw [decimalSum_eq 0]
    · simp
    · intro share member
      rcases List.mem_append.mp member with listed | listed
      · exact whole share listed
      · rcases List.mem_cons.mp listed with rfl | zero
        · exact .zero
        · obtain ⟨other, -, rfl⟩ := List.mem_map.mp zero
          exact .zero
    · have sizes : (before.map (part rounding remainder total)).map abs =
          before.map (part rounding remainder total) := by
        rw [List.map_congr_left fun share member =>
          abs_of_nonneg (nonneg share member), List.map_id']
      rw [List.map_append, List.sum_append, sizes]
      simp only [List.map_cons, List.sum_cons, List.map_const',
        List.map_replicate, abs_zero, List.sum_replicate, nsmul_zero, add_zero, pow_zero, mul_one]
      linarith
  have left : decimal (remainder -
      (before.map (part rounding remainder total)).sum) =
        remainder - (before.map (part rounding remainder total)).sum := by
    apply significant_of_places 0
    · exact (HasPlaces.whole remainder).sub (HasPlaces.sum whole)
    · have amount : (0 : ℚ) ≤ remainder := by exact_mod_cast rest.le
      rw [pow_zero, mul_one, abs_lt]
      constructor <;> linarith
  rw [roundedShares, mapM_eq_ok each, parts]
  simp only [bind, Except.bind]
  rw [weighted.last, summed, left, passShares, ← totalled,
    List.set_append_right _ _ (by simp)]
  simp

end Pass

/-- The shares of the lines that are not set by hand. -/
structure ExactShares (remainder : ℤ) (weights shares : List ℚ) : Prop where
  length : shares.length = weights.length
  nonneg : ∀ share ∈ shares, 0 ≤ share
  sum : shares.sum = remainder
  unweighted : ∀ k : ℕ, weights[k]? = some 0 → shares[k]? = some 0
  near : ∀ (k : ℕ) weight share, weights[k]? = some weight →
    shares[k]? = some share →
      weight = 0 ∨ (∃ (l : ℕ) (other : ℚ), k < l ∧ weights[l]? = some other ∧ 0 < other) →
        |share - remainder * weight / weights.sum| < 1

section Passes

variable {before after : List ℚ} {weight : ℚ}
  (weighted : Weighted before weight after) {remainder : ℤ}
  (rest : 0 < remainder) (small : (remainder : ℚ) < 10 ^ 27)

include weighted rest small in
theorem passShares_exact {rounding : ℚ → ℤ} (cents : CentRounding rounding)
    (last : (before.map (part rounding remainder
      (before ++ weight :: after).sum)).sum ≤ remainder) :
    ExactShares remainder (before ++ weight :: after)
      (passShares rounding remainder before weight after) := by
  have all := weighted.sum_pos
  have amount : (0 : ℚ) ≤ remainder := by exact_mod_cast rest.le
  constructor
  · simp [passShares]
  · intro share member
    rcases List.mem_append.mp member with listed | listed
    · obtain ⟨other, there, rfl⟩ := List.mem_map.mp listed
      exact part_nonneg cents amount all.le (weighted.nonneg other there)
    · rcases List.mem_cons.mp listed with rfl | zero
      · linarith
      · obtain ⟨other, -, rfl⟩ := List.mem_map.mp zero
        exact le_rfl
  · rw [passShares, List.sum_append, List.sum_cons, List.map_const',
      List.sum_replicate, nsmul_zero]
    ring
  · intro k found
    rcases lt_trichotomy k before.length with earlier | rfl | later
    · rw [List.getElem?_append_left earlier] at found
      rw [passShares, List.getElem?_append_left (by simpa using earlier),
        List.getElem?_map, found, Option.map_some, part_zero cents]
    · rw [List.getElem?_append_right le_rfl, Nat.sub_self] at found
      obtain rfl := Option.some.inj found
      exact absurd weighted.positive (lt_irrefl 0)
    · obtain ⟨m, rfl⟩ : ∃ m, k = before.length + (m + 1) :=
        ⟨k - before.length - 1, by omega⟩
      rw [List.getElem?_append_right (by omega), Nat.add_sub_cancel_left,
        List.getElem?_cons_succ] at found
      rw [passShares, List.getElem?_append_right (by simp), List.length_map,
        Nat.add_sub_cancel_left, List.getElem?_cons_succ, List.getElem?_map,
        found, Option.map_some]
  · intro k other share found given other'
    rcases lt_trichotomy k before.length with earlier | rfl | later
    · rw [List.getElem?_append_left earlier] at found
      rw [passShares, List.getElem?_append_left (by simpa using earlier),
        List.getElem?_map, found, Option.map_some] at given
      obtain rfl := Option.some.inj given
      have member := List.mem_of_getElem? found
      exact part_near cents rest (weighted.nonneg other member) all
        (weighted.le_sum (List.mem_append_left _ member)) small
    · rw [List.getElem?_append_right le_rfl, Nat.sub_self] at found
      obtain rfl := Option.some.inj found
      rcases other' with zero | ⟨l, next, behind, there, positive⟩
      · exact absurd zero weighted.positive.ne'
      · obtain ⟨m, rfl⟩ : ∃ m, l = before.length + (m + 1) :=
          ⟨l - before.length - 1, by omega⟩
        rw [List.getElem?_append_right (by omega), Nat.add_sub_cancel_left,
          List.getElem?_cons_succ] at there
        exact absurd (weighted.none next (List.mem_of_getElem? there))
          positive.ne'
    · obtain ⟨m, rfl⟩ : ∃ m, k = before.length + (m + 1) :=
        ⟨k - before.length - 1, by omega⟩
      rw [List.getElem?_append_right (by omega), Nat.add_sub_cancel_left,
        List.getElem?_cons_succ] at found
      rw [passShares, List.getElem?_append_right (by simp), List.length_map,
        Nat.add_sub_cancel_left, List.getElem?_cons_succ, List.getElem?_map,
        found, Option.map_some] at given
      obtain rfl := Option.some.inj given
      rw [weighted.none other (List.mem_of_getElem? found)]
      simp

include weighted rest small in
theorem sum_down_le : (before.map (part roundDown remainder
    (before ++ weight :: after).sum)).sum ≤ remainder := by
  have all := weighted.sum_pos
  have amount : (0 : ℚ) ≤ remainder := by exact_mod_cast rest.le
  set total := (before ++ weight :: after).sum with totalled
  have each : ∀ other ∈ before, part roundDown remainder total other ≤
      remainder / total * (1 + 1 / (2 * 10 ^ 27)) * other := by
    intro other member
    have sign := weighted.nonneg other member
    have quotient : 0 ≤ (remainder : ℚ) * other / total := by positivity
    have error := (abs_le.mp (decimal_near quotient)).2
    have down : part roundDown remainder total other ≤
        decimal (remainder * other / total) := by
      rw [part, roundDown, if_pos (decimal_nonneg quotient)]
      exact Int.floor_le _
    calc
      part roundDown remainder total other ≤ remainder * other / total +
          remainder * other / total / (2 * 10 ^ 27) := by linarith
      _ = remainder / total * (1 + 1 / (2 * 10 ^ 27)) * other := by ring
  have whole : HasPlaces 0
      (before.map (part roundDown remainder total)).sum := by
    apply HasPlaces.sum
    intro share member
    obtain ⟨other, -, rfl⟩ := List.mem_map.mp member
    exact .whole _
  obtain ⟨sum, summed⟩ := whole
  rw [pow_zero, mul_one] at summed
  have upper : (sum : ℚ) < remainder + 1 := by
    have part_of : before.sum ≤ total := by
      rw [totalled, weighted.sum]
      have positive := weighted.positive
      linarith
    calc
      (sum : ℚ) = (before.map (part roundDown remainder total)).sum :=
        summed.symm
      _ ≤ (before.map fun other =>
          remainder / total * (1 + 1 / (2 * 10 ^ 27)) * other).sum :=
        List.sum_le_sum each
      _ = remainder / total * (1 + 1 / (2 * 10 ^ 27)) * before.sum := by
        rw [List.sum_map_mul_left, List.map_id']
      _ ≤ remainder / total * (1 + 1 / (2 * 10 ^ 27)) * total := by gcongr
      _ = remainder + remainder / (2 * 10 ^ 27) := by
        field_simp
      _ < remainder + 1 := by
        have tiny : (remainder : ℚ) / (2 * 10 ^ 27) < 1 := by
          rw [div_lt_one (by positivity)]
          linarith
        linarith
  rw [summed]
  have le : sum ≤ remainder := by
    have strict : sum < remainder + 1 := by exact_mod_cast upper
    omega
  exact_mod_cast le

include weighted rest small in
theorem weightedShares_exact
    (exact : ∀ other ∈ before ++ weight :: after,
      decimal (remainder * other) = remainder * other)
    (few : (before.length : ℚ) < 10 ^ 27) : ∃ shares,
      weightedShares remainder (before ++ weight :: after).sum
        (before ++ weight :: after) = .ok shares ∧
      ExactShares remainder (before ++ weight :: after) shares := by
  have even := roundedShares_eq roundHalfEven_cents weighted rest small exact few
  have down := roundedShares_eq roundDown_cents weighted rest small exact few
  have last : (passShares roundHalfEven remainder before weight
      after)[lastWeighted (before ++ weight :: after)]? =
        some (remainder - (before.map (part roundHalfEven remainder
          (before ++ weight :: after).sum)).sum) := by
    rw [weighted.last, passShares, List.getElem?_append_right (by simp)]
    simp
  rw [weightedShares, even]
  simp only [bind, Except.bind]
  rw [last, Option.getD_some]
  split
  · rename_i enough
    exact ⟨_, rfl, passShares_exact weighted rest small roundHalfEven_cents
      (by linarith)⟩
  · exact ⟨_, down, passShares_exact weighted rest small roundDown_cents
      (sum_down_le weighted rest small)⟩

end Passes

section Filling

variable {manual : List (Option ℚ)} {shares : List ℚ}

theorem fillShares_length (manual : List (Option ℚ)) (shares : List ℚ) :
    (fillShares manual shares).length = manual.length := by
  induction manual generalizing shares with
  | nil => rfl
  | cons first manual induction =>
      cases first with
      | some share => simp [fillShares, induction]
      | none =>
          cases shares with
          | nil => simp [fillShares, induction]
          | cons share shares => simp [fillShares, induction]

theorem fillShares_set {i : ℕ} {share : ℚ}
    (given : manual[i]? = some (some share)) :
    (fillShares manual shares)[i]? = some share := by
  induction manual generalizing shares i with
  | nil => cases given
  | cons first manual induction =>
      cases i with
      | zero =>
          obtain rfl := Option.some.inj given
          rfl
      | succ i =>
          have later : manual[i]? = some (some share) := by simpa using given
          cases first with
          | some other => simpa [fillShares] using induction later
          | none =>
              cases shares with
              | nil => simpa [fillShares] using induction later
              | cons other shares => simpa [fillShares] using induction later

theorem fillShares_automatic {i : ℕ} (given : manual[i]? = some none)
    (length : shares.length = manual.countP Option.isNone) :
    (fillShares manual shares)[i]? =
      shares[(manual.take i).countP Option.isNone]? := by
  induction manual generalizing shares i with
  | nil => cases given
  | cons first manual induction =>
      cases first with
      | some other =>
          cases i with
          | zero => cases given
          | succ i =>
              have later := induction (i := i) (by simpa using given)
                (by simpa using length)
              simpa [fillShares] using later
      | none =>
          cases shares with
          | nil => simp at length
          | cons share shares =>
              cases i with
              | zero => simp [fillShares]
              | succ i =>
                  have later := induction (i := i) (by simpa using given)
                    (by simpa using length)
                  simpa [fillShares] using later

theorem fillShares_nonneg (set : ∀ share, some share ∈ manual → 0 ≤ share)
    (nonneg : ∀ share ∈ shares, 0 ≤ share) :
    ∀ share ∈ fillShares manual shares, 0 ≤ share := by
  induction manual generalizing shares with
  | nil => exact fun share member => by cases member
  | cons first manual induction =>
      have others : ∀ share, some share ∈ manual → 0 ≤ share :=
        fun share member => set share (List.mem_cons_of_mem _ member)
      cases first with
      | some other =>
          refine List.forall_mem_cons.mpr ⟨set other List.mem_cons_self, ?_⟩
          exact induction others nonneg
      | none =>
          cases shares with
          | nil =>
              exact List.forall_mem_cons.mpr ⟨le_rfl, induction others nonneg⟩
          | cons share shares =>
              obtain ⟨first, rest⟩ := List.forall_mem_cons.mp nonneg
              exact List.forall_mem_cons.mpr ⟨first, induction others rest⟩

theorem fillShares_sum
    (length : shares.length = manual.countP Option.isNone) :
    (fillShares manual shares).sum =
      (manual.map (·.getD 0)).sum + shares.sum := by
  induction manual generalizing shares with
  | nil =>
      have none : shares = [] := by simpa using length
      simp [fillShares, none]
  | cons first manual induction =>
      cases first with
      | some other =>
          have later : (fillShares manual shares).sum =
              (manual.map (·.getD 0)).sum + shares.sum :=
            induction (by simpa using length)
          simp [fillShares, later]
          ring
      | none =>
          cases shares with
          | nil => simp at length
          | cons share shares =>
              have later : (fillShares manual shares).sum =
                  (manual.map (·.getD 0)).sum + shares.sum :=
                induction (by simpa using length)
              simp [fillShares, later]
              ring

end Filling

theorem exists_weighted {weights : List ℚ} (nonneg : ∀ other ∈ weights, 0 ≤ other)
    (positive : 0 < weights.sum) : ∃ before weight after,
      weights = before ++ weight :: after ∧ Weighted before weight after := by
  induction weights using List.reverseRecOn with
  | nil => simp at positive
  | append_singleton weights last induction =>
      have earlier : ∀ other ∈ weights, 0 ≤ other :=
        fun other member => nonneg other (List.mem_append_left _ member)
      rcases (nonneg last (by simp)).eq_or_lt with rfl | some
      · obtain ⟨before, weight, after, rfl, weighted⟩ :=
          induction earlier (by simpa using positive)
        refine ⟨before, weight, after ++ [0], by simp, weighted.nonneg,
          weighted.positive, ?_⟩
        intro other member
        rcases List.mem_append.mp member with listed | listed
        · exact weighted.none other listed
        · simpa using listed
      · exact ⟨weights, last, [], rfl, earlier, some,
          fun other member => by cases member⟩

end Stock

end Mousstec
