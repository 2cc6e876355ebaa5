import Mousstec.Stock.LandedShares

/-!
# Landed cost is allocated exactly

As long as the digits of the decimal context hold every sum and every product,
only the quotients are rounded, and the allocation is exact.
-/

namespace Mousstec

namespace Stock

open Library

def PurchaseLine.weight (line : PurchaseLine) : CostAllocation → ℚ
  | .value => line.qty * line.cost
  | .margin => line.qty * max (line.sell - line.cost) 0

def totalWeight (lines : List PurchaseLine) (fixed : ManualExpenses)
    (used : CostAllocation) : ℚ :=
  ((automaticLines lines fixed).map (·.weight used)).sum

/-- The method that is applied: by value when no line earns anything. -/
def appliedMethod (lines : List PurchaseLine) (fixed : ManualExpenses)
    (method : CostAllocation) : CostAllocation :=
  if method = .margin ∧ 0 < totalWeight lines fixed .margin then .margin
  else .value

def manualTotal (lines : List PurchaseLine) (fixed : ManualExpenses) : ℚ :=
  (lines.zipIdx.map fun row =>
    ((fixed row.2).map fun per =>
      (roundHalfEven (row.1.qty * per) : ℚ)).getD 0).sum

/-- An exact allocation beside the expenses that are set by hand. -/
structure ExactAllocation (lines : List PurchaseLine) (extraTotal : ℤ)
    (fixed : ManualExpenses) (used : CostAllocation) (shares : List ℚ) :
    Prop where
  length : shares.length = lines.length
  nonneg : ∀ share ∈ shares, 0 ≤ share
  manual : ∀ i line per, lines[i]? = some line → fixed i = some per →
    shares[i]? = some (roundHalfEven (line.qty * per) : ℚ)
  unweighted : ∀ i line, lines[i]? = some line → fixed i = none →
    line.weight used = 0 → shares[i]? = some 0
  total : 0 < totalWeight lines fixed used ∨
      manualTotal lines fixed = extraTotal →
    shares.sum = extraTotal
  near : ∀ i line share, lines[i]? = some line → fixed i = none →
    shares[i]? = some share → 0 < totalWeight lines fixed used →
      line.weight used = 0 ∨
        (∃ j other, i < j ∧ lines[j]? = some other ∧ fixed j = none ∧
          0 < other.weight used) →
        |share - (extraTotal - manualTotal lines fixed) * line.weight used /
          totalWeight lines fixed used| < 1

/-- The extra costs are allocated exactly: beside the expenses that are set by
hand if they are consistent, and otherwise as if none were set. -/
def AllocatesExactly (lines : List PurchaseLine) (extraTotal : ℤ)
    (method : CostAllocation) (fixed : ManualExpenses) : Prop :=
  ∃ problem shares used,
    manualProblem lines extraTotal fixed = .ok problem ∧
      used = appliedMethod lines (kept problem fixed) method ∧
      allocate lines extraTotal method fixed = .ok (shares, used) ∧
      ExactAllocation lines extraTotal (kept problem fixed) used shares ∧
      (problem.isSome → allocate lines extraTotal method noManual =
        .ok (shares, used))

def lineSize (fixed : ManualExpenses) (row : PurchaseLine × ℕ) : ℚ :=
  |row.1.sell - row.1.cost| + |row.1.qty * row.1.cost| +
    |row.1.qty * (row.1.sell - row.1.cost)| +
    |row.1.qty * (fixed row.2).getD 0| + 1

def allocationSize (lines : List PurchaseLine) (fixed : ManualExpenses) : ℚ :=
  (lines.zipIdx.map (lineSize fixed)).sum

/-- The digits of the decimal context hold every sum and every product. -/
structure Representable (places : ℕ) (lines : List PurchaseLine)
    (extraTotal : ℤ) (fixed : ManualExpenses) : Prop where
  margins : ∀ line ∈ lines, HasPlaces places (line.sell - line.cost)
  values : ∀ line ∈ lines, HasPlaces places (line.qty * line.cost)
  profits : ∀ line ∈ lines,
    HasPlaces places (line.qty * (line.sell - line.cost))
  manual : ∀ row ∈ lines.zipIdx,
    HasPlaces places (row.1.qty * (fixed row.2).getD 0)
  small : (extraTotal + 1) * (allocationSize lines fixed + 1) *
    10 ^ places < 10 ^ 27

theorem lineSize_pos (fixed : ManualExpenses) (row : PurchaseLine × ℕ) :
    1 ≤ lineSize fixed row := by
  have first := abs_nonneg (row.1.sell - row.1.cost)
  have second := abs_nonneg (row.1.qty * row.1.cost)
  have third := abs_nonneg (row.1.qty * (row.1.sell - row.1.cost))
  have fourth := abs_nonneg (row.1.qty * (fixed row.2).getD 0)
  unfold lineSize
  linarith

private theorem lineSizes_nonneg (lines : List PurchaseLine)
    (fixed : ManualExpenses) :
    ∀ size ∈ lines.zipIdx.map (lineSize fixed), 0 ≤ size := by
  intro size listed
  obtain ⟨row, -, rfl⟩ := List.mem_map.mp listed
  exact zero_le_one.trans (lineSize_pos fixed row)

theorem lineSize_le {lines : List PurchaseLine} (fixed : ManualExpenses)
    {row : PurchaseLine × ℕ} (member : row ∈ lines.zipIdx) :
    lineSize fixed row ≤ allocationSize lines fixed :=
  List.single_le_sum (lineSizes_nonneg lines fixed) _
    (List.mem_map_of_mem member)

theorem allocationSize_nonneg (lines : List PurchaseLine)
    (fixed : ManualExpenses) : 0 ≤ allocationSize lines fixed :=
  List.sum_nonneg (lineSizes_nonneg lines fixed)

theorem length_le_size (lines : List PurchaseLine) (fixed : ManualExpenses) :
    (lines.length : ℚ) ≤ allocationSize lines fixed := by
  have ones := List.card_nsmul_le_sum (lines.zipIdx.map (lineSize fixed)) 1 (by
    intro size listed
    obtain ⟨row, -, rfl⟩ := List.mem_map.mp listed
    exact lineSize_pos fixed row)
  rwa [List.length_map, List.length_zipIdx, nsmul_one] at ones

namespace PurchaseLine

variable {line : PurchaseLine}

theorem weight_nonneg (sign : 0 ≤ line.qty ∧ 0 ≤ line.cost)
    (used : CostAllocation) : 0 ≤ line.weight used := by
  cases used with
  | value => exact mul_nonneg sign.1 sign.2
  | margin => exact mul_nonneg sign.1 (le_max_right _ _)

theorem weight_le (used : CostAllocation) (fixed : ManualExpenses)
    (number : ℕ) :
    line.weight used ≤ lineSize fixed (line, number) := by
  have first := abs_nonneg (line.sell - line.cost)
  have second := le_abs_self (line.qty * line.cost)
  have third := abs_nonneg (line.qty * (line.sell - line.cost))
  have third' := le_abs_self (line.qty * (line.sell - line.cost))
  have second' := abs_nonneg (line.qty * line.cost)
  have fourth := abs_nonneg (line.qty * (fixed number).getD 0)
  unfold lineSize
  cases used with
  | value =>
      simp only [weight]
      linarith
  | margin =>
      simp only [weight]
      rcases le_total (line.sell - line.cost) 0 with loss | profit
      · rw [max_eq_right loss, mul_zero]
        linarith
      · rw [max_eq_left profit]
        linarith

end PurchaseLine

section Automatic

variable {lines : List PurchaseLine}
  (nonneg : ∀ line ∈ lines, 0 ≤ line.qty ∧ 0 ≤ line.cost)

theorem mem_of_automatic {other : ManualExpenses} {line : PurchaseLine}
    (member : line ∈ automaticLines lines other) : line ∈ lines := by
  obtain ⟨row, listed, rfl⟩ := List.mem_map.mp member
  exact List.fst_mem_of_mem_zipIdx (List.mem_of_mem_filter listed)

include nonneg in
theorem weights_nonneg (other : ManualExpenses) (used : CostAllocation) :
    ∀ weight ∈ (automaticLines lines other).map (·.weight used),
      0 ≤ weight := by
  intro weight member
  obtain ⟨line, listed, rfl⟩ := List.mem_map.mp member
  exact PurchaseLine.weight_nonneg (nonneg line (mem_of_automatic listed)) used

include nonneg in
theorem totalWeight_le (other fixed : ManualExpenses) (used : CostAllocation) :
    totalWeight lines other used ≤ allocationSize lines fixed := by
  have all : ∀ weight ∈ lines.zipIdx.map (·.1.weight used), 0 ≤ weight := by
    intro weight member
    obtain ⟨row, listed, rfl⟩ := List.mem_map.mp member
    exact PurchaseLine.weight_nonneg
      (nonneg row.1 (List.fst_mem_of_mem_zipIdx listed)) used
  calc
    totalWeight lines other used =
        ((lines.zipIdx.filter fun row => (other row.2).isNone).map
          (·.1.weight used)).sum := by
      rw [totalWeight, automaticLines, List.map_map]
      rfl
    _ ≤ (lines.zipIdx.map (·.1.weight used)).sum :=
      (List.filter_sublist.map _).sum_le_sum all
    _ ≤ allocationSize lines fixed := by
      apply List.sum_le_sum
      intro row member
      exact PurchaseLine.weight_le used fixed row.2

end Automatic

namespace Representable

variable {places : ℕ} {lines : List PurchaseLine} {extraTotal : ℤ}
  {fixed : ManualExpenses} (fits : Representable places lines extraTotal fixed)
  (extra : 0 ≤ extraTotal)
  (nonneg : ∀ line ∈ lines, 0 ≤ line.qty ∧ 0 ≤ line.cost)

include fits extra

omit extra in
theorem below (value : ℚ)
    (within : value ≤ (extraTotal + 1) * (allocationSize lines fixed + 1)) :
    value * 10 ^ places < 10 ^ 27 := by
  have tens : (0 : ℚ) < 10 ^ places := by positivity
  exact lt_of_le_of_lt (mul_le_mul_of_nonneg_right within tens.le) fits.small

omit extra in
theorem decimal_eq {value : ℚ} (exact : HasPlaces places value)
    (within : |value| ≤ (extraTotal + 1) * (allocationSize lines fixed + 1)) :
    decimal value = value := by
  apply significant_of_places places exact
  refine (fits.below _ within).trans ?_
  norm_num [decimalDigits]

omit fits in
theorem size_le {value : ℚ} (within : value ≤ allocationSize lines fixed + 1) :
    value ≤ (extraTotal + 1) * (allocationSize lines fixed + 1) := by
  have amount : (0 : ℚ) ≤ extraTotal := by exact_mod_cast extra
  have size := allocationSize_nonneg lines fixed
  nlinarith

omit extra in
theorem weight_places {line : PurchaseLine} (member : line ∈ lines)
    (used : CostAllocation) : HasPlaces places (line.weight used) := by
  cases used with
  | value => exact fits.values line member
  | margin =>
      rw [PurchaseLine.weight]
      rcases le_total (line.sell - line.cost) 0 with loss | profit
      · rw [max_eq_right loss, mul_zero]
        exact .zero
      · rw [max_eq_left profit]
        exact fits.profits line member

include nonneg in
theorem decimal_weight {line : PurchaseLine} (member : line ∈ lines)
    (used : CostAllocation) : decimal (line.weight used) = line.weight used := by
  obtain ⟨i, found⟩ := List.mem_iff_getElem?.mp member
  have listed := List.mem_of_getElem? (zipIdx_getElem? found)
  apply fits.decimal_eq (fits.weight_places member used)
  rw [abs_of_nonneg (PurchaseLine.weight_nonneg (nonneg line member) used)]
  apply Representable.size_le extra
  have first : line.weight used ≤ lineSize fixed (line, i) :=
    PurchaseLine.weight_le used fixed i
  have second := lineSize_le fixed listed
  linarith

theorem decimal_margin {line : PurchaseLine} (member : line ∈ lines) :
    decimal (line.sell - line.cost) = line.sell - line.cost := by
  obtain ⟨i, found⟩ := List.mem_iff_getElem?.mp member
  have listed := List.mem_of_getElem? (zipIdx_getElem? found)
  apply fits.decimal_eq (fits.margins line member)
  apply Representable.size_le extra
  have size := lineSize_le fixed listed
  have second := abs_nonneg (line.qty * line.cost)
  have third := abs_nonneg (line.qty * (line.sell - line.cost))
  have fourth := abs_nonneg (line.qty * (fixed i).getD 0)
  unfold lineSize at size
  linarith

include nonneg in
theorem decimalSum_weights (other : ManualExpenses) (used : CostAllocation) :
    decimalSum ((automaticLines lines other).map (·.weight used)) =
      totalWeight lines other used := by
  apply decimalSum_eq places
  · intro weight member
    obtain ⟨line, listed, rfl⟩ := List.mem_map.mp member
    exact fits.weight_places (mem_of_automatic listed) used
  · have sizes : ((automaticLines lines other).map (·.weight used)).map abs =
        (automaticLines lines other).map (·.weight used) := by
      rw [List.map_congr_left fun weight member =>
        abs_of_nonneg (weights_nonneg nonneg other used weight member),
        List.map_id']
    rw [sizes]
    have within := totalWeight_le nonneg other fixed used
    rw [totalWeight] at within
    refine (fits.below _ (Representable.size_le extra (by linarith))).trans ?_
    norm_num [decimalDigits]

include nonneg in
theorem lineWeights_eq (other : ManualExpenses) (method : CostAllocation) :
    lineWeights (automaticLines lines other) method =
      ((automaticLines lines other).map
        (·.weight (appliedMethod lines other method)),
        appliedMethod lines other method) := by
  have margins : ((automaticLines lines other).map fun line =>
      decimal (line.qty * max (decimal (line.sell - line.cost)) 0)) =
        (automaticLines lines other).map (·.weight .margin) := by
    apply List.map_congr_left
    intro line member
    have listed := mem_of_automatic member
    rw [fits.decimal_margin extra listed]
    exact fits.decimal_weight extra nonneg listed .margin
  have values : ((automaticLines lines other).map fun line =>
      decimal (line.qty * line.cost)) =
        (automaticLines lines other).map (·.weight .value) := by
    apply List.map_congr_left
    intro line member
    exact fits.decimal_weight extra nonneg (mem_of_automatic member) .value
  rw [lineWeights, margins, values, fits.decimalSum_weights extra nonneg,
    appliedMethod]
  split
  · rfl
  · rfl

end Representable

def setShares (lines : List PurchaseLine) (fixed : ManualExpenses) :
    List (Option ℚ) :=
  lines.zipIdx.map fun row =>
    (fixed row.2).map fun per => (roundHalfEven (row.1.qty * per) : ℚ)

theorem sum_setShares (lines : List PurchaseLine) (fixed : ManualExpenses) :
    ((setShares lines fixed).map (·.getD 0)).sum = manualTotal lines fixed := by
  rw [setShares, List.map_map]
  rfl

theorem setShares_getElem? {lines : List PurchaseLine} {fixed : ManualExpenses}
    {i : ℕ} {line : PurchaseLine} (found : lines[i]? = some line) :
    (setShares lines fixed)[i]? = some ((fixed i).map fun per =>
      (roundHalfEven (line.qty * per) : ℚ)) := by
  rw [setShares, List.getElem?_map, zipIdx_getElem? found, Option.map_some]

theorem setShares_whole (lines : List PurchaseLine) (fixed : ManualExpenses) :
    ∀ share ∈ (setShares lines fixed).map (·.getD 0), HasPlaces 0 share := by
  intro share member
  obtain ⟨given, listed, rfl⟩ := List.mem_map.mp member
  obtain ⟨row, -, rfl⟩ := List.mem_map.mp listed
  cases fixed row.2 with
  | none => exact .zero
  | some per => exact .whole _

theorem manualTotal_whole (lines : List PurchaseLine) (fixed : ManualExpenses) :
    ∃ total : ℤ, manualTotal lines fixed = total := by
  obtain ⟨total, summed⟩ := HasPlaces.sum (setShares_whole lines fixed)
  refine ⟨total, ?_⟩
  rw [← sum_setShares, ← summed, pow_zero, mul_one]

namespace Representable

variable {places : ℕ} {lines : List PurchaseLine} {extraTotal : ℤ}
  {fixed : ManualExpenses} (fits : Representable places lines extraTotal fixed)
  (extra : 0 ≤ extraTotal)

include fits in
theorem withoutManual (extra : 0 ≤ extraTotal) :
    Representable places lines extraTotal noManual where
  margins := fits.margins
  values := fits.values
  profits := fits.profits
  manual row _ := by
    rw [noManual, Option.getD_none, mul_zero]
    exact .zero
  small := by
    have amount : (0 : ℚ) ≤ extraTotal := by exact_mod_cast extra
    have less : allocationSize lines noManual ≤ allocationSize lines fixed := by
      apply List.sum_le_sum
      intro row _
      have part := abs_nonneg (row.1.qty * (fixed row.2).getD 0)
      simp only [lineSize, noManual, Option.getD_none, mul_zero, abs_zero]
      linarith
    refine lt_of_le_of_lt ?_ fits.small
    gcongr

include fits extra

omit fits extra in
theorem set_le {row : PurchaseLine × ℕ} {per : ℚ} (set : fixed row.2 = some per) :
    |row.1.qty * per| + 1 ≤ lineSize fixed row := by
  have first := abs_nonneg (row.1.sell - row.1.cost)
  have second := abs_nonneg (row.1.qty * row.1.cost)
  have third := abs_nonneg (row.1.qty * (row.1.sell - row.1.cost))
  unfold lineSize
  rw [set, Option.getD_some]
  linarith

omit fits extra in
private theorem abs_roundHalfEven_le (value : ℚ) :
    |(roundHalfEven value : ℚ)| ≤ |value| + 1 := by
  have near := roundHalfEven_nearest.near value
  have triangle := abs_add_le ((roundHalfEven value : ℚ) - value) value
  rw [sub_add_cancel] at triangle
  linarith

theorem manualShares_eq :
    manualShares lines fixed = .ok (setShares lines fixed) := by
  apply mapM_eq_ok
  intro row member
  cases set : fixed row.2 with
  | none => rfl
  | some per =>
      have size := set_le set
      have all := lineSize_le fixed member
      have held : |row.1.qty * per| ≤
          (extraTotal + 1) * (allocationSize lines fixed + 1) :=
        Representable.size_le extra (by linarith)
      have hand := fits.manual row member
      rw [set, Option.getD_some] at hand
      have exact := fits.decimal_eq hand held
      have rounded := abs_roundHalfEven_le (row.1.qty * per)
      have small : |(roundHalfEven (row.1.qty * per) : ℚ)| <
          10 ^ decimalDigits := by
        have tens : (1 : ℚ) ≤ 10 ^ places := one_le_pow₀ (by norm_num)
        have bound := fits.below _ held
        have grown := le_mul_of_one_le_right
          (abs_nonneg (row.1.qty * per)) tens
        have limit : (10 : ℚ) ^ 27 + 1 ≤ 10 ^ decimalDigits := by
          norm_num [decimalDigits]
        linarith
      simp only [exact]
      rw [quantize, if_pos (by exact_mod_cast small)]
      rfl

omit fits extra in
theorem sum_abs_set (lines : List PurchaseLine) (fixed : ManualExpenses) :
    (((setShares lines fixed).map (·.getD 0)).map abs).sum ≤
      allocationSize lines fixed := by
  rw [setShares, List.map_map, List.map_map]
  apply List.sum_le_sum
  intro row member
  simp only [Function.comp_apply]
  cases set : fixed row.2 with
  | none =>
      rw [Option.map_none, Option.getD_none, abs_zero]
      exact zero_le_one.trans (lineSize_pos fixed row)
  | some per =>
      rw [Option.map_some, Option.getD_some]
      exact (abs_roundHalfEven_le _).trans (set_le set)

theorem set_small : (((setShares lines fixed).map (·.getD 0)).map abs).sum *
    10 ^ 0 < 10 ^ decimalDigits := by
  have bound := fits.below _
    (Representable.size_le extra ((sum_abs_set lines fixed).trans (by linarith)))
  have tens : (1 : ℚ) ≤ 10 ^ places := one_le_pow₀ (by norm_num)
  have sign : 0 ≤ (((setShares lines fixed).map (·.getD 0)).map abs).sum := by
    apply List.sum_nonneg
    intro size member
    obtain ⟨share, -, rfl⟩ := List.mem_map.mp member
    exact abs_nonneg share
  have grown := le_mul_of_one_le_right sign tens
  have limit : (10 : ℚ) ^ 27 < 10 ^ decimalDigits := by
    norm_num [decimalDigits]
  rw [pow_zero, mul_one]
  linarith

theorem decimalSum_set :
    decimalSum ((setShares lines fixed).map (·.getD 0)) =
      manualTotal lines fixed := by
  rw [← sum_setShares]
  exact decimalSum_eq 0 (setShares_whole lines fixed) (fits.set_small extra)

omit fits extra in
private theorem sum_filterMap (given : List (Option ℚ)) (measure : ℚ → ℚ)
    (zero : measure 0 = 0) :
    ((given.filterMap id).map measure).sum =
      ((given.map (·.getD 0)).map measure).sum := by
  induction given with
  | nil => rfl
  | cons first given induction =>
      cases first with
      | none => simpa [zero] using induction
      | some share => simpa using induction

theorem decimalSum_fixed :
    decimalSum ((setShares lines fixed).filterMap id) =
      manualTotal lines fixed := by
  have same := sum_filterMap (setShares lines fixed) id rfl
  rw [List.map_id, List.map_id, sum_setShares] at same
  rw [← same]
  apply decimalSum_eq 0
  · intro share member
    apply setShares_whole lines fixed
    obtain ⟨given, listed, found⟩ := List.mem_filterMap.mp member
    obtain rfl : given = some share := found
    exact List.mem_map.mpr ⟨some share, listed, rfl⟩
  · rw [sum_filterMap _ _ abs_zero]
    exact fits.set_small extra

/-- The manual expenses are checked without an exception, and what passes is
within the extra costs. -/
theorem manualProblem_eq : ∃ problem,
    manualProblem lines extraTotal fixed = .ok problem ∧
      (problem = none → manualTotal lines fixed ≤ extraTotal ∧
        ∀ i per, i < lines.length → fixed i = some per → 0 ≤ per) := by
  have amount : (0 : ℚ) ≤ extraTotal := by exact_mod_cast extra
  rw [manualProblem]
  split
  · rename_i none
    have unset : ∀ i, i < lines.length → fixed i = .none := by
      intro i within
      exact List.filterMap_eq_nil_iff.mp none i (List.mem_range.mpr within)
    refine ⟨.none, rfl, fun _ => ⟨?_, ?_⟩⟩
    · have zero : manualTotal lines fixed = 0 := by
        apply List.sum_eq_zero
        intro share member
        obtain ⟨row, listed, rfl⟩ := List.mem_map.mp member
        rw [unset row.2 (by simpa using List.snd_lt_of_mem_zipIdx listed)]
        rfl
      rw [zero]
      exact amount
    · intro i per within set
      rw [unset i within] at set
      cases set
  · split
    · exact ⟨_, rfl, fun none => by cases none⟩
    · rename_i signs
      rw [fits.manualShares_eq extra]
      simp only [bind, Except.bind]
      rw [fits.decimalSum_fixed extra]
      split
      · exact ⟨_, rfl, fun none => by cases none⟩
      · rename_i within
        split
        · exact ⟨_, rfl, fun none => by cases none⟩
        · refine ⟨.none, rfl, fun _ => ⟨not_lt.mp within, ?_⟩⟩
          intro i per below set
          by_contra negative
          apply signs
          rw [List.any_eq_true]
          exact ⟨per, List.mem_filterMap.mpr
            ⟨i, List.mem_range.mpr below, set⟩,
            decide_eq_true (not_le.mp negative)⟩

end Representable

section Allocation

variable {places : ℕ} {lines : List PurchaseLine} {extraTotal : ℤ}
  {fixed : ManualExpenses} (fits : Representable places lines extraTotal fixed)
  (extra : 0 ≤ extraTotal)
  (nonneg : ∀ line ∈ lines, 0 ≤ line.qty ∧ 0 ≤ line.cost)
  (signs : ∀ i per, i < lines.length → fixed i = some per → 0 ≤ per)

include nonneg signs in
theorem setShares_nonneg : ∀ share, some share ∈ setShares lines fixed →
    0 ≤ share := by
  intro share member
  obtain ⟨row, listed, same⟩ := List.mem_map.mp member
  cases set : fixed row.2 with
  | none =>
      rw [set] at same
      cases same
  | some per =>
      rw [set, Option.map_some] at same
      obtain rfl := Option.some.inj same
      have sign := (nonneg row.1 (List.fst_mem_of_mem_zipIdx listed)).1
      have unit := signs row.2 per
        (by simpa using List.snd_lt_of_mem_zipIdx listed) set
      exact_mod_cast roundHalfEven_nearest.nonneg (mul_nonneg sign unit)

include nonneg signs in
theorem manualTotal_nonneg : 0 ≤ manualTotal lines fixed := by
  rw [← sum_setShares]
  apply List.sum_nonneg
  intro share member
  obtain ⟨given, listed, rfl⟩ := List.mem_map.mp member
  cases given with
  | none => exact le_rfl
  | some share => exact setShares_nonneg nonneg signs share listed

theorem countP_setShares (lines : List PurchaseLine) (fixed : ManualExpenses) :
    (setShares lines fixed).countP Option.isNone =
      (automaticLines lines fixed).length := by
  rw [setShares, automaticLines, List.length_map, ← List.countP_eq_length_filter,
    List.countP_map]
  congr 1
  funext row
  exact Option.isNone_map

def automaticPlace (lines : List PurchaseLine) (fixed : ManualExpenses)
    (i : ℕ) : ℕ :=
  ((setShares lines fixed).take i).countP Option.isNone

theorem automaticPlace_eq (lines : List PurchaseLine) (fixed : ManualExpenses)
    (i : ℕ) : automaticPlace lines fixed i =
      (lines.zipIdx.take i).countP fun row => (fixed row.2).isNone := by
  rw [automaticPlace, setShares, ← List.map_take, List.countP_map]
  congr 1
  funext row
  exact Option.isNone_map

theorem automaticLines_getElem? {i : ℕ} {line : PurchaseLine}
    (found : lines[i]? = some line) (unset : fixed i = none) :
    (automaticLines lines fixed)[automaticPlace lines fixed i]? = some line := by
  rw [automaticPlace_eq, automaticLines, List.getElem?_map,
    filter_getElem? (zipIdx_getElem? found) (by rw [unset]; rfl),
    Option.map_some]

theorem automaticPlace_lt {i j : ℕ} {line : PurchaseLine} (later : i < j)
    (found : lines[i]? = some line) (unset : fixed i = none) :
    automaticPlace lines fixed i < automaticPlace lines fixed j := by
  have given : (setShares lines fixed)[i]? = some none := by
    rw [setShares_getElem? found, unset]
    rfl
  have first : automaticPlace lines fixed (i + 1) =
      automaticPlace lines fixed i + 1 := by
    rw [automaticPlace, automaticPlace, List.take_add_one, given,
      List.countP_append]
    rfl
  have rest : automaticPlace lines fixed (i + 1) ≤
      automaticPlace lines fixed j :=
    (List.take_sublist_take_left later).countP_le
  omega

theorem exact_of_none {used : CostAllocation}
    (nothing : extraTotal - manualTotal lines fixed ≤ 0 ∨
      totalWeight lines fixed used ≤ 0)
    (within : manualTotal lines fixed ≤ extraTotal)
    (sign : ∀ share, some share ∈ setShares lines fixed → 0 ≤ share) :
    ExactAllocation lines extraTotal fixed used
      ((setShares lines fixed).map (·.getD 0)) where
  length := by simp [setShares]
  nonneg share member := by
    obtain ⟨given, listed, rfl⟩ := List.mem_map.mp member
    cases given with
    | none => exact le_rfl
    | some share => exact sign share listed
  manual i line per found set := by
    rw [List.getElem?_map, setShares_getElem? found, set]
    rfl
  unweighted i line found unset _ := by
    rw [List.getElem?_map, setShares_getElem? found, unset]
    rfl
  total some := by
    rw [sum_setShares]
    rcases some with weighted | same
    · rcases nothing with less | none
      · linarith
      · linarith
    · exact same
  near i line share found unset given weighted _ := by
    rw [List.getElem?_map, setShares_getElem? found, unset] at given
    obtain rfl : (0 : ℚ) = share := Option.some.inj given
    have rest : extraTotal - manualTotal lines fixed = 0 := by
      rcases nothing with less | none
      · linarith
      · linarith
    rw [rest]
    simp

theorem exact_of_shares {used : CostAllocation} {remainder : ℤ}
    (left : extraTotal - manualTotal lines fixed = (remainder : ℚ))
    (sign : ∀ share, some share ∈ setShares lines fixed → 0 ≤ share)
    {shares : List ℚ} (exact : ExactShares remainder
      ((automaticLines lines fixed).map (·.weight used)) shares) :
    ExactAllocation lines extraTotal fixed used
      (fillShares (setShares lines fixed) shares) := by
  have length : shares.length =
      (setShares lines fixed).countP Option.isNone := by
    rw [exact.length, List.length_map, countP_setShares]
  have filled : ∀ i line, lines[i]? = some line → fixed i = none →
      (fillShares (setShares lines fixed) shares)[i]? =
        shares[automaticPlace lines fixed i]? := by
    intro i line found unset
    apply fillShares_automatic _ length
    rw [setShares_getElem? found, unset]
    rfl
  have weight : ∀ i line, lines[i]? = some line → fixed i = none →
      ((automaticLines lines fixed).map (·.weight used))[
        automaticPlace lines fixed i]? = some (line.weight used) := by
    intro i line found unset
    rw [List.getElem?_map, automaticLines_getElem? found unset, Option.map_some]
  constructor
  · rw [fillShares_length, setShares]
    simp
  · exact fillShares_nonneg sign exact.nonneg
  · intro i line per found set
    apply fillShares_set
    rw [setShares_getElem? found, set]
    rfl
  · intro i line found unset zero
    rw [filled i line found unset]
    apply exact.unweighted
    rw [weight i line found unset, zero]
  · intro _
    rw [fillShares_sum length, sum_setShares, exact.sum, ← left]
    ring
  · intro i line share found unset given _ other
    rw [filled i line found unset] at given
    rw [left]
    apply exact.near _ _ _ (weight i line found unset) given
    rcases other with zero | ⟨j, next, later, there, open', positive⟩
    · exact .inl zero
    · exact .inr ⟨automaticPlace lines fixed j, next.weight used,
        automaticPlace_lt later found unset, weight j next there open', positive⟩

include fits extra nonneg signs in
theorem allocateBeside_exact (method : CostAllocation)
    (within : manualTotal lines fixed ≤ extraTotal) : ∃ shares,
      allocateBeside lines extraTotal method fixed =
          .ok (shares, appliedMethod lines fixed method) ∧
        ExactAllocation lines extraTotal fixed
          (appliedMethod lines fixed method) shares := by
  obtain ⟨total, whole⟩ := manualTotal_whole lines fixed
  have sign := setShares_nonneg nonneg signs
  have positive := manualTotal_nonneg nonneg signs
  have weights := fits.lineWeights_eq extra nonneg fixed method
  generalize appliedMethod lines fixed method = used at weights ⊢
  have amount : (0 : ℚ) ≤ extraTotal := by exact_mod_cast extra
  have size := allocationSize_nonneg lines fixed
  have small : (extraTotal : ℚ) < 10 ^ 27 := by
    have bound := fits.below extraTotal (by nlinarith)
    have tens : (1 : ℚ) ≤ 10 ^ places := one_le_pow₀ (by norm_num)
    exact (le_mul_of_one_le_right amount tens).trans_lt bound
  rw [whole] at positive
  have left : decimal (extraTotal -
      decimalSum ((setShares lines fixed).map (·.getD 0))) =
        ((extraTotal - total : ℤ) : ℚ) := by
    rw [fits.decimalSum_set extra, whole, ← Int.cast_sub]
    apply significant_intCast
    have limit : (10 : ℚ) ^ 27 < 10 ^ decimalDigits := by
      norm_num [decimalDigits]
    have held : |((extraTotal - total : ℤ) : ℚ)| < 10 ^ decimalDigits := by
      rw [Int.cast_sub, abs_lt]
      rw [whole] at within
      constructor <;> linarith
    exact_mod_cast held
  rw [allocateBeside, fits.manualShares_eq extra]
  simp only [bind, Except.bind]
  rw [left, weights, fits.decimalSum_weights extra nonneg]
  have rest : extraTotal - manualTotal lines fixed =
      ((extraTotal - total : ℤ) : ℚ) := by
    rw [whole, Int.cast_sub]
  split
  · rename_i nothing
    rw [← rest] at nothing
    exact ⟨_, rfl, exact_of_none nothing within sign⟩
  · rename_i something
    obtain ⟨some, weighty⟩ := not_or.mp something
    rw [not_le] at some weighty
    obtain ⟨before, weight, after, split, weighted⟩ := exists_weighted
      (weights_nonneg nonneg fixed used) weighty
    have all : totalWeight lines fixed used =
        (before ++ weight :: after).sum := by
      rw [totalWeight, split]
    have less : ((extraTotal - total : ℤ) : ℚ) ≤ extraTotal := by
      rw [Int.cast_sub]
      linarith
    have products : ∀ other ∈ before ++ weight :: after,
        decimal (((extraTotal - total : ℤ) : ℚ) * other) =
          ((extraTotal - total : ℤ) : ℚ) * other := by
      intro other member
      have bounded := weighted.le_sum member
      have sign := weighted.each_nonneg other member
      rw [← all] at bounded
      have within := totalWeight_le nonneg fixed fixed used
      rw [← split] at member
      obtain ⟨line, listed, rfl⟩ := List.mem_map.mp member
      apply fits.decimal_eq ((fits.weight_places
        (mem_of_automatic listed) used).whole_mul _)
      rw [abs_of_nonneg (mul_nonneg some.le sign)]
      exact mul_le_mul (by linarith) (by linarith) sign (by linarith)
    have few : (before.length : ℚ) < 10 ^ 27 := by
      have counted : before.length ≤ lines.length := by
        have lengths := congrArg List.length split
        rw [List.length_map, List.length_append] at lengths
        have kept : (automaticLines lines fixed).length ≤ lines.length := by
          rw [automaticLines, List.length_map]
          exact (List.length_filter_le _ _).trans_eq List.length_zipIdx
        omega
      have ones := length_le_size lines fixed
      have bound := fits.below (allocationSize lines fixed)
        (Representable.size_le extra (by linarith))
      have tens : (1 : ℚ) ≤ 10 ^ places := one_le_pow₀ (by norm_num)
      have grown := le_mul_of_one_le_right size tens
      have cast : (before.length : ℚ) ≤ lines.length := by exact_mod_cast counted
      linarith
    obtain ⟨shares, given, exact⟩ := weightedShares_exact weighted
      (by exact_mod_cast some) (less.trans_lt small) products few
    rw [split, all, given]
    rw [← split] at exact
    exact ⟨_, rfl, exact_of_shares rest sign exact⟩

end Allocation

/-- Landed cost is allocated exactly, as long as the digits of the decimal
context hold every sum and every product. -/
theorem landedCost_exact (places : ℕ) (lines : List PurchaseLine)
    (extraTotal : ℤ) (method : CostAllocation) (fixed : ManualExpenses)
    (nonneg : ∀ line ∈ lines, 0 ≤ line.qty ∧ 0 ≤ line.cost)
    (extra : 0 ≤ extraTotal)
    (fits : Representable places lines extraTotal fixed) :
    AllocatesExactly lines extraTotal method fixed := by
  obtain ⟨problem, checked, consistent⟩ := fits.manualProblem_eq extra
  have allocated : allocate lines extraTotal method fixed =
      allocateBeside lines extraTotal method (kept problem fixed) := by
    rw [allocate, checked]
    rfl
  rw [AllocatesExactly, allocated]
  cases problem with
  | none =>
      obtain ⟨within, signs⟩ := consistent rfl
      obtain ⟨shares, given, exact⟩ := allocateBeside_exact fits extra
        nonneg signs method within
      exact ⟨none, shares, _, checked, rfl, given, exact,
        fun some => by cases some⟩
  | some problem =>
      have plain := fits.withoutManual extra
      obtain ⟨free, unchecked, within⟩ := plain.manualProblem_eq extra
      have signs : ∀ i per, i < lines.length → noManual i = some per →
          0 ≤ per := by
        intro i per _ set
        cases set
      have zero : manualTotal lines noManual ≤ extraTotal := by
        have none : manualTotal lines noManual = 0 := by
          apply List.sum_eq_zero
          intro share member
          obtain ⟨row, -, rfl⟩ := List.mem_map.mp member
          rfl
        rw [none]
        exact_mod_cast extra
      obtain ⟨shares, given, exact⟩ := allocateBeside_exact plain extra
        nonneg signs method zero
      refine ⟨some problem, shares, _, checked, rfl, given, exact, fun _ => ?_⟩
      rw [allocate, unchecked]
      have kept : kept free noManual = noManual := by
        rw [kept, ite_self]
      simp only [bind, Except.bind]
      rw [kept]
      exact given

def threeLines : List PurchaseLine :=
  [⟨1, 400000, 500000⟩, ⟨1, 400000, 450000⟩, ⟨2, 42500, 40000⟩]

def firstByHand : ManualExpenses :=
  fun line => if line = 0 then some 5000 else none

theorem landedCost_exact_threeLines :
    AllocatesExactly threeLines 30000 .margin firstByHand :=
  landedCost_exact 0 threeLines 30000 .margin firstByHand (by decide +kernel)
    (by decide)
    { margins := by decide +kernel
      values := by decide +kernel
      profits := by decide +kernel
      manual := by decide +kernel
      small := by decide +kernel }

/-- Half of an amount of thirty digits does not fit the precision. -/
theorem landedCost_overflows : ¬ ∀ lines extraTotal method fixed,
    (∀ line ∈ lines, (0 : ℚ) ≤ PurchaseLine.qty line ∧ 0 ≤ line.cost) →
      0 ≤ extraTotal → AllocatesExactly lines extraTotal method fixed := by
  intro exact
  obtain ⟨problem, shares, used, -, -, given, -⟩ := exact
    [⟨1, 1, 0⟩, ⟨1, 1, 0⟩] (10 ^ 29) .value noManual (by decide +kernel)
    (by decide)
  have raised : allocate [⟨1, 1, 0⟩, ⟨1, 1, 0⟩] (10 ^ 29 : ℤ) .value noManual =
      .error .invalidOperation := by
    decide +kernel
  rw [raised] at given
  cases given

end Stock

end Mousstec
