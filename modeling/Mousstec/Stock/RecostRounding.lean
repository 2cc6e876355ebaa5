import Mathlib.Tactic.LinearCombination
import Mousstec.Stock.RecostValue

/-!
# Allocating anew without rounding

As long as no unit cost and no average has to be rounded, allocating anew changes
the value of the stock by what the lines gain, so that it stays just when they
take over from each other what they give.
-/

namespace Mousstec.Stock

open Library Accounting Cash

namespace SharedLine

/-- What the line costs with its share, less what it carries so far. -/
def gain (line : SharedLine) : ℚ :=
  line.exactCost - line.carriedCost

/-- The share is a whole number of cents for each unit. -/
def Whole (line : SharedLine) : Prop :=
  line.share = line.item.quantity * ⌊line.share / line.item.quantity⌋

/-- The gain is less than half a cent for each unit, in whole cents, so that the
line keeps its unit cost. -/
def Stays (line : SharedLine) : Prop :=
  2 * |line.gain| + 1 ≤ line.item.quantity

instance (line : SharedLine) : Decidable line.Whole :=
  inferInstanceAs (Decidable (_ = _))

instance (line : SharedLine) : Decidable line.Stays :=
  inferInstanceAs (Decidable (_ ≤ _))

/-- What the line takes over. -/
def moved (line : SharedLine) : ℚ :=
  if line.Stays then 0 else line.gain

def size (line : SharedLine) : ℚ :=
  |(line.item.quantity : ℚ)| * (|(line.item.costPrice : ℚ)| + |line.share| +
    |(line.item.effectiveUnitCost : ℚ)| + 1)

end SharedLine

/-- What the lines of a product take over. -/
def movedBy (lines : List SharedLine) (product : ℕ) : ℚ :=
  (lines.map fun line =>
    if line.item.product = product then line.moved else 0).sum

/-- The average of a product takes over a change to the cent: there is none, or
it is a whole number of cents for each counted unit and does not lead below
zero. -/
def PurchaseDesk.Takes (desk : PurchaseDesk) (product : ℕ) (change : ℚ) : Prop :=
  change = 0 ∨ 0 < desk.valuedQty product ∧
    change = desk.valuedQty product * ⌊change / desk.valuedQty product⌋ ∧
    ∃ stored ∈ desk.products.get? product,
      0 ≤ stored.averageCost + ⌊change / desk.valuedQty product⌋

instance (desk : PurchaseDesk) (product : ℕ) (change : ℚ) :
    Decidable (desk.Takes product change) :=
  inferInstanceAs (Decidable (_ ∨ _ ∧ _ ∧ _))

def PurchaseDesk.averageOf (desk : PurchaseDesk) (product : ℕ) : ℤ :=
  ((desk.products.get? product).map (·.averageCost)).getD 0

/-- No unit cost and no average of the purchase has to be rounded or cut off, and
the digits of the decimal context hold its amounts. -/
structure Unrounded (desk : PurchaseDesk) (lines : List SharedLine) : Prop where
  costs : ∀ line ∈ lines, line.Whole ∨ line.Stays
  averages : ∀ line ∈ lines,
    desk.Takes line.item.product (movedBy lines line.item.product)
  small : ∀ line ∈ lines,
    |((desk.valuedQty line.item.product * desk.averageOf line.item.product : ℤ)
        : ℚ)| + (lines.map (·.size)).sum < 10 ^ 26

private theorem decimal_whole {amount : ℤ} (small : |(amount : ℚ)| < 10 ^ 28) :
    decimal (amount : ℚ) = amount := by
  apply significant_intCast
  exact_mod_cast small

/-- Two roundings to the digits of the context do not reach the next half cent. -/
private theorem keeps_unit {units cost share : ℚ} {carried : ℤ}
    (one : 1 ≤ units) (small : units * (|cost| + |share| + 1) < 10 ^ 26)
    (near : 2 * |units * cost + share - units * carried| + 1 ≤ units) :
    roundHalfEven (decimal (cost + decimal (share / units))) = carried := by
  have positive : 0 < units := by linarith
  have back : units * (share / units) = share := mul_div_cancel₀ share positive.ne'
  generalize share / units = quotient at back ⊢
  have first : |decimal quotient - quotient| ≤ |quotient| / (2 * 10 ^ 27) :=
    significant_near_abs quotient
  have second : |decimal (cost + decimal quotient) - (cost + decimal quotient)| ≤
      |cost + decimal quotient| / (2 * 10 ^ 27) :=
    significant_near_abs (cost + decimal quotient)
  have parts : units * |quotient| = |share| := by
    rw [← back, abs_mul, abs_of_pos positive]
  have grown : |share| ≤ units * |share| :=
    le_mul_of_one_le_left (abs_nonneg share) one
  have wide := mul_nonneg positive.le (abs_nonneg cost)
  have error : units * |decimal quotient - quotient| ≤ 1 / 20 := by
    have scaled := mul_le_mul_of_nonneg_left first positive.le
    rw [← mul_div_assoc, parts] at scaled
    refine scaled.trans ?_
    rw [div_le_iff₀ (by norm_num)]
    linarith
  have reach : units * |cost + decimal quotient| ≤ 10 ^ 26 := by
    have split : |cost + decimal quotient| ≤
        |cost| + |quotient| + |decimal quotient - quotient| := by
      have triangle := abs_add_three cost quotient (decimal quotient - quotient)
      have same : cost + quotient + (decimal quotient - quotient) =
          cost + decimal quotient := by ring
      rwa [same] at triangle
    have scaled := mul_le_mul_of_nonneg_left split positive.le
    linarith
  have later : units * |decimal (cost + decimal quotient) -
      (cost + decimal quotient)| ≤ 1 / 20 := by
    have scaled := mul_le_mul_of_nonneg_left second positive.le
    rw [← mul_div_assoc] at scaled
    refine scaled.trans ?_
    rw [div_le_iff₀ (by norm_num)]
    linarith
  have exact : 2 * (units * |cost + quotient - carried|) + 1 ≤ units := by
    have same : units * cost + share - units * carried =
        units * (cost + quotient - carried) := by
      rw [← back]
      ring
    rwa [same, abs_mul, abs_of_pos positive] at near
  have apart : |decimal (cost + decimal quotient) - carried| < 1 / 2 := by
    have triangle := abs_add_three
      (decimal (cost + decimal quotient) - (cost + decimal quotient))
      (decimal quotient - quotient) (cost + quotient - carried)
    have same : decimal (cost + decimal quotient) - (cost + decimal quotient) +
        (decimal quotient - quotient) + (cost + quotient - carried) =
          decimal (cost + decimal quotient) - carried := by ring
    rw [same] at triangle
    have scaled := mul_le_mul_of_nonneg_left triangle positive.le
    by_contra far
    rw [not_lt] at far
    have least := mul_le_mul_of_nonneg_left far positive.le
    linarith
  have rounded := roundHalfEven_nearest.near (decimal (cost + decimal quotient))
  have close := abs_sub_le
    (roundHalfEven (decimal (cost + decimal quotient)) : ℚ)
    (decimal (cost + decimal quotient)) carried
  have less : |(roundHalfEven (decimal (cost + decimal quotient)) - carried : ℤ)| <
      1 := by
    have below : |((roundHalfEven (decimal (cost + decimal quotient)) -
        carried : ℤ) : ℚ)| < 1 := by
      rw [Int.cast_sub]
      linarith
    exact_mod_cast below
  exact sub_eq_zero.mp (Int.abs_lt_one_iff.mp less)

namespace SharedLine

variable {line : SharedLine}

theorem size_nonneg (line : SharedLine) : 0 ≤ line.size := by
  unfold size
  positivity

private theorem one_le_abs {amount : ℤ} (different : (amount : ℚ) ≠ 0) :
    (1 : ℚ) ≤ |(amount : ℚ)| := by
  have least : 1 ≤ |amount| := Int.one_le_abs (by exact_mod_cast different)
  exact_mod_cast least

/-- One unit at least carries every part of the size. -/
theorem parts_le (different : (line.item.quantity : ℚ) ≠ 0)
    (whole : line.Whole) : |(line.item.costPrice : ℚ)| +
        |((⌊line.share / line.item.quantity⌋ : ℤ) : ℚ)| +
        |(line.item.effectiveUnitCost : ℚ)| ≤ line.size := by
  have one := one_le_abs different
  have quotient : |((⌊line.share / line.item.quantity⌋ : ℤ) : ℚ)| ≤
      |line.share| := by
    conv_rhs => rw [whole, abs_mul]
    exact le_mul_of_one_le_left (abs_nonneg _) one
  have cost := abs_nonneg (line.item.costPrice : ℚ)
  have share := abs_nonneg line.share
  have carried := abs_nonneg (line.item.effectiveUnitCost : ℚ)
  have sized := le_mul_of_one_le_left (by linarith : 0 ≤
    |(line.item.costPrice : ℚ)| + |line.share| +
      |(line.item.effectiveUnitCost : ℚ)| + 1) one
  unfold size
  linarith

theorem gain_le (whole : line.Whole) : |line.gain| ≤ line.size := by
  have shares : |line.share| ≤ |(line.item.quantity : ℚ)| * |line.share| := by
    by_cases different : (line.item.quantity : ℚ) = 0
    · have nothing : line.share = 0 := by
        rw [whole, different, zero_mul]
      rw [nothing, abs_zero, mul_zero]
    · exact le_mul_of_one_le_left (abs_nonneg _) (one_le_abs different)
  have first := abs_add_le (line.item.quantity * line.item.costPrice : ℚ)
    line.share
  have second := abs_sub (line.item.quantity * line.item.costPrice + line.share : ℚ)
    (line.item.quantity * line.item.effectiveUnitCost)
  rw [abs_mul] at first second
  have units := abs_nonneg (line.item.quantity : ℚ)
  rw [gain, exactCost, carriedCost]
  unfold size
  linarith

theorem newUnit_of_stays (small : line.size < 10 ^ 26) (stays : line.Stays) :
    line.newUnit = line.item.effectiveUnitCost := by
  have sign := abs_nonneg line.gain
  have units : (1 : ℚ) ≤ line.item.quantity := by
    unfold Stays at stays
    linarith
  have different : (line.item.quantity : ℚ) ≠ 0 := by linarith
  unfold newUnit unitCost
  rw [if_neg different]
  apply keeps_unit units
  · have carried := abs_nonneg (line.item.effectiveUnitCost : ℚ)
    have positive : (0 : ℚ) ≤ line.item.quantity := by linarith
    refine lt_of_le_of_lt ?_ small
    unfold size
    rw [abs_of_nonneg positive]
    apply mul_le_mul_of_nonneg_left _ positive
    linarith
  · exact stays

theorem gain_of_whole (whole : line.Whole) :
    line.gain = ((line.item.quantity * (line.item.costPrice +
      ⌊line.share / line.item.quantity⌋ - line.item.effectiveUnitCost) : ℤ) :
        ℚ) := by
  unfold Whole at whole
  rw [gain, exactCost, carriedCost]
  push_cast
  linear_combination whole

theorem newUnit_of_whole (different : (line.item.quantity : ℚ) ≠ 0)
    (small : line.size < 10 ^ 26) (whole : line.Whole) :
    line.newUnit = line.item.costPrice + ⌊line.share / line.item.quantity⌋ := by
  have parts := parts_le different whole
  unfold Whole at whole
  have quotient : line.share / line.item.quantity =
      (⌊line.share / line.item.quantity⌋ : ℤ) := by
    rw [div_eq_iff different, mul_comm]
    exact whole
  have carried := abs_nonneg (line.item.effectiveUnitCost : ℚ)
  have cost := abs_nonneg (line.item.costPrice : ℚ)
  have sum : (line.item.costPrice : ℚ) +
      (⌊line.share / line.item.quantity⌋ : ℤ) =
        ((line.item.costPrice + ⌊line.share / line.item.quantity⌋ : ℤ) : ℚ) := by
    push_cast
    rfl
  have triangle := abs_add_le (line.item.costPrice : ℚ)
    (⌊line.share / line.item.quantity⌋ : ℤ)
  unfold newUnit unitCost
  rw [if_neg different, quotient, decimal_whole (by linarith), Int.floor_intCast,
    sum, decimal_whole (by rw [← sum]; linarith), roundHalfEven_intCast]

/-- Without rounding the line moves its average by what it takes over. -/
theorem delta_eq (small : line.size < 10 ^ 26)
    (unrounded : line.Whole ∨ line.Stays) : line.delta = line.moved := by
  unfold delta moved
  by_cases stays : line.Stays
  · rw [if_pos stays, newUnit_of_stays small stays, sub_self]
    simp [decimal]
  · have whole := unrounded.resolve_right stays
    rw [if_neg stays, gain_of_whole whole]
    by_cases different : (line.item.quantity : ℚ) = 0
    · have none : line.item.quantity = 0 := by exact_mod_cast different
      simp [none, decimal]
    · have parts := parts_le different whole
      have sized := gain_le whole
      have cost := abs_nonneg (line.item.costPrice : ℚ)
      rw [gain_of_whole whole] at sized
      set quotient := ⌊line.share / line.item.quantity⌋ with floored
      have change : (line.newUnit : ℚ) - line.item.effectiveUnitCost =
          ((line.item.costPrice + quotient - line.item.effectiveUnitCost : ℤ) :
            ℚ) := by
        rw [newUnit_of_whole different small whole]
        push_cast
        ring
      have bound : |((line.item.costPrice + quotient -
          line.item.effectiveUnitCost : ℤ) : ℚ)| < 10 ^ 28 := by
        have triangle := abs_sub (line.item.costPrice + quotient : ℚ)
          line.item.effectiveUnitCost
        have other := abs_add_le (line.item.costPrice : ℚ) quotient
        push_cast
        linarith
      rw [change, decimal_whole bound, ← Int.cast_mul, decimal_whole (by linarith)]

theorem moved_whole (unrounded : line.Whole ∨ line.Stays) :
    HasPlaces 0 line.moved := by
  unfold moved
  split
  · exact .zero
  · rename_i stays
    rw [gain_of_whole (unrounded.resolve_right stays)]
    exact .whole _

theorem moved_le (unrounded : line.Whole ∨ line.Stays) :
    |line.moved| ≤ line.size := by
  unfold moved
  split
  · rw [abs_zero]
    exact line.size_nonneg
  · rename_i stays
    exact gain_le (unrounded.resolve_right stays)

end SharedLine

section Averages

variable {desk : PurchaseDesk} {lines : List SharedLine} {product : ℕ}

theorem averageShift_of_takes {change : ℚ} (takes : desk.Takes product change)
    (small : |((desk.valuedQty product * desk.averageOf product : ℤ) : ℚ)| +
      |change| < 10 ^ 26) :
    (desk.averageShift (product, change) : ℚ) = change := by
  unfold PurchaseDesk.averageShift
  by_cases nothing : change = 0
  · simp [nothing]
  · obtain ⟨counted, whole, stored, found, least⟩ := takes.resolve_left nothing
    rw [Option.mem_def] at found
    unfold PurchaseDesk.averageOf at small
    rw [found] at small ⊢
    rw [if_pos ⟨nothing, counted⟩]
    simp only [Option.map_some, Option.getD_some] at small ⊢
    set units := desk.valuedQty product
    generalize ⌊change / (units : ℚ)⌋ = quotient at whole least
    have positive : (0 : ℚ) < units := by exact_mod_cast counted
    have start : decimal (stored.averageCost * units : ℚ) =
        ((units * stored.averageCost : ℤ) : ℚ) := by
      rw [← Int.cast_mul, mul_comm]
      apply decimal_whole
      linarith [abs_nonneg change]
    have added : ((units * stored.averageCost : ℤ) : ℚ) + change =
        ((units * (stored.averageCost + quotient) : ℤ) : ℚ) := by
      rw [whole]
      push_cast
      ring
    have bound : |((units * (stored.averageCost + quotient) : ℤ) : ℚ)| <
        10 ^ 26 := by
      rw [← added]
      exact (abs_add_le _ _).trans_lt small
    have average : ((units * (stored.averageCost + quotient) : ℤ) : ℚ) / units =
        ((stored.averageCost + quotient : ℤ) : ℚ) := by
      rw [Int.cast_mul]
      exact mul_div_cancel_left₀ _ positive.ne'
    have less : |((stored.averageCost + quotient : ℤ) : ℚ)| < 10 ^ 28 := by
      have one : (1 : ℚ) ≤ |(units : ℚ)| := by
        rw [abs_of_pos positive]
        exact_mod_cast counted
      rw [Int.cast_mul, abs_mul] at bound
      have grown := le_mul_of_one_le_left
        (abs_nonneg ((stored.averageCost + quotient : ℤ) : ℚ)) one
      linarith
    have moved : movedAverage stored.averageCost units change =
        stored.averageCost + quotient := by
      unfold movedAverage
      rw [start, added, decimal_whole (by linarith), average, decimal_whole less,
        max_eq_left (by exact_mod_cast least), roundHalfUp_intCast]
    rw [moved, whole]
    push_cast
    ring

theorem movedBy_le (costs : ∀ line ∈ lines, line.Whole ∨ line.Stays) :
    |movedBy lines product| ≤ (lines.map (·.size)).sum := by
  unfold movedBy
  induction lines with
  | nil => simp
  | cons line lines induction =>
      rw [List.forall_mem_cons] at costs
      simp only [List.map_cons, List.sum_cons]
      refine (abs_add_le _ _).trans (add_le_add ?_ (induction costs.2))
      split
      · exact SharedLine.moved_le costs.1
      · rw [abs_zero]
        exact line.size_nonneg

private theorem sum_filter_moved (lines : List SharedLine) (product : ℕ) :
    ((lines.filter fun line => line.item.product = product).map
      (·.moved)).sum = movedBy lines product := by
  unfold movedBy
  induction lines with
  | nil => rfl
  | cons line lines induction =>
      by_cases same : line.item.product = product
      · simp [same, induction]
      · simp [same, induction]

theorem productDeltas_moved (costs : ∀ line ∈ lines, line.Whole ∨ line.Stays)
    (small : (lines.map (·.size)).sum < 10 ^ 26) {row : ℕ × ℚ}
    (listed : row ∈ productDeltas lines) : row.2 = movedBy lines row.1 := by
  have sizes : ∀ line ∈ lines, line.size < 10 ^ 26 := by
    intro line member
    have part := List.single_le_sum (l := lines.map (·.size)) (by
      intro size present
      obtain ⟨other, -, rfl⟩ := List.mem_map.mp present
      exact other.size_nonneg) line.size (List.mem_map_of_mem member)
    linarith
  set own := lines.filter fun line => line.item.product = row.1 with chosen
  have within : ∀ line ∈ own, line ∈ lines := fun line member =>
    List.mem_of_mem_filter member
  have entries : (((lines.map fun line => (line.item.product, line.delta)).filter
      fun entry => entry.1 = row.1).map Prod.snd) = own.map (·.moved) := by
    rw [List.filter_map, List.map_map, chosen]
    apply List.map_congr_left
    intro line member
    exact SharedLine.delta_eq (sizes line (within line member))
      (costs line (within line member))
  have least : ((own.map (·.moved)).map abs).sum ≤ (lines.map (·.size)).sum := by
    rw [List.map_map]
    refine le_trans (List.sum_le_sum fun line member =>
      SharedLine.moved_le (costs line (within line member))) ?_
    apply ((List.filter_sublist).map _).sum_le_sum
    intro size present
    obtain ⟨line, -, rfl⟩ := List.mem_map.mp present
    exact line.size_nonneg
  have each : ∀ value ∈ own.map (·.moved), HasPlaces 0 value := by
    intro value present
    obtain ⟨line, member, rfl⟩ := List.mem_map.mp present
    exact SharedLine.moved_whole (costs line (within line member))
  rw [mem_totals listed, entries, foldl_decimal each 0 .zero, zero_add,
    sum_filter_moved]
  rw [abs_zero, zero_add, pow_zero, mul_one]
  refine lt_of_le_of_lt least (small.trans ?_)
  norm_num [decimalDigits]

/-- Without rounding the averages take over what the lines gain. -/
theorem sum_averageShift (unrounded : Unrounded desk lines) :
    ((((productDeltas lines).map desk.averageShift).sum : ℤ) : ℚ) =
      (lines.map (·.moved)).sum := by
  have bound : lines ≠ [] → (lines.map (·.size)).sum < 10 ^ 26 := by
    intro some
    obtain ⟨line, member⟩ := List.exists_mem_of_ne_nil lines some
    have least := unrounded.small line member
    linarith [abs_nonneg ((desk.valuedQty line.item.product *
      desk.averageOf line.item.product : ℤ) : ℚ)]
  by_cases none : lines = []
  · subst none
    rfl
  · have small := bound none
    have shifts : ∀ row ∈ productDeltas lines,
        (desk.averageShift row : ℚ) = movedBy lines row.1 := by
      intro row listed
      have change := productDeltas_moved unrounded.costs small listed
      obtain ⟨product, delta⟩ := row
      dsimp only at change
      subst change
      by_cases own : ∃ line ∈ lines, line.item.product = product
      · obtain ⟨line, member, rfl⟩ := own
        apply averageShift_of_takes (unrounded.averages line member)
        have least := unrounded.small line member
        have less : |movedBy lines line.item.product| ≤ _ :=
          movedBy_le unrounded.costs
        linarith
      · have zero : movedBy lines product = 0 := by
          apply List.sum_eq_zero
          intro value present
          obtain ⟨line, member, rfl⟩ := List.mem_map.mp present
          exact if_neg fun same => own ⟨line, member, same⟩
        simp [PurchaseDesk.averageShift, zero]
    have covers : ∀ line ∈ lines,
        line.item.product ∈ (productDeltas lines).map Prod.fst := by
      intro line member
      have entry : (line.item.product, line.delta) ∈
          lines.map fun line => (line.item.product, line.delta) :=
        List.mem_map.mpr ⟨line, member, rfl⟩
      exact mem_keys_totals entry
    have cast := map_list_sum (Int.castAddHom ℚ)
      ((productDeltas lines).map desk.averageShift)
    rw [List.map_map] at cast
    rw [← sum_by_keys (nodup_productDeltas lines)
      (fun line : SharedLine => line.item.product) covers, List.map_map]
    refine cast.trans (congrArg List.sum ?_)
    exact List.map_congr_left shifts

end Averages

/-- Nothing is posted, and without rounding the value of the stock stays just when
the lines take over from each other what they give. -/
theorem recostPurchase_value {pk : ℕ} {method : CostAllocation}
    {prices : ℕ → Option ℚ} {manual : Option (ℕ → Option ℚ)}
    {result : List RecostRow × CostAllocation} {before after : PurchaseDesk}
    (returned : recostPurchase pk method prices manual before =
      .ok result after) :
    after.cash = before.cash ∧
      (Unrounded before (before.sharedLines pk method prices manual) →
        (after.stockValue = before.stockValue ↔
          ((before.sharedLines pk method prices manual).map (·.moved)).sum =
            0)) := by
  obtain ⟨cash, value⟩ := recostPurchase_shift returned
  refine ⟨cash, fun unrounded => ?_⟩
  rw [← sum_averageShift unrounded, Int.cast_eq_zero, value]
  exact add_eq_left

/-- A thousand parts bought for 1.00 each and one for 1000.00, with landed costs that
were shared by value; only the first sells for more than it cost. -/
def sharedByValue (landed : ℤ) : PurchaseDesk where
  purchases := Table.empty.insert
    { vendor := 0
      branch := 0
      dateCreated := 0
      totalAmount := 200000
      status := .posted
      isApplied := true }
  items := (Table.empty.insert
    { invoice := 0
      product := 0
      quantity := 1000
      costPrice := 100
      landedUnitCost := 150 }).insert
    { invoice := 0
      product := 1
      quantity := 1
      costPrice := 100000
      landedUnitCost := 100000 + landed / 2 }
  vendors := Table.empty.insert
    { name := "vendor"
      balance := 200000 }
  products := (Table.empty.insert
    { name := "screw"
      averageCost := 150
      retailPrice := 200 }).insert
    { name := "engine"
      averageCost := 100000 + landed / 2
      retailPrice := 90000 }
  inventory := (Table.empty.insert
    { product := 0
      branch := 0
      quantity := 1000 }).insert
    { product := 1
      branch := 0
      quantity := 1 }
  transfers := Table.empty
  movements := Table.empty
  cash :=
    { treasuries := Table.empty
      payments := Table.empty
      extraCosts := Table.empty.insert
        { invoice := 0
          amount := landed }
      books :=
        { chart := Chart.empty
          periods := Table.empty
          entries := Table.empty
          today := 0 } }

/-- Landed costs of 1000.00 come to a whole cent for each part. -/
theorem sharedByValue_unrounded : Unrounded (sharedByValue 100000)
    ((sharedByValue 100000).sharedLines 0 .margin (fun _ => none) none) where
  costs := by decide +kernel
  averages := by decide +kernel
  small := by decide +kernel

theorem recostPurchase_value_whole :
    ((recostPurchase 0 .margin (fun _ => none) none).final
      (sharedByValue 100000)).stockValue = (sharedByValue 100000).stockValue := by
  have returned : (recostPurchase 0 .margin (fun _ => none) none).result?
      (sharedByValue 100000) =
      some ((((sharedByValue 100000).recostRows 0 .margin none).toOption).getD
        ([], .value)) := by decide +kernel
  have sound := (recostPurchase_value (Txn.eq_ok_of_result? returned)).2
  exact (sound sharedByValue_unrounded).mpr (by decide +kernel)

/-- Landed costs of 1004.00 lose 2.00: 0.4 of a cent is cut off each of the thousand
parts, where 0.2 was before. -/
theorem recostPurchase_value_falls :
    ¬ ∀ (pk : ℕ) (method : CostAllocation) (prices : ℕ → Option ℚ)
      (manual : Option (ℕ → Option ℚ))
      (result : List RecostRow × CostAllocation) (before after : PurchaseDesk),
      recostPurchase pk method prices manual before = .ok result after →
        after.stockValue = before.stockValue := by
  intro always
  have returned : (recostPurchase 0 .margin (fun _ => none) none).result?
      (sharedByValue 100400) =
      some ((((sharedByValue 100400).recostRows 0 .margin none).toOption).getD
        ([], .value)) := by decide +kernel
  have kept := always 0 .margin (fun _ => none) none _ (sharedByValue 100400) _
    (Txn.eq_ok_of_result? returned)
  exact absurd kept (by decide +kernel)

end Mousstec.Stock
