import Mathlib.Algebra.Order.Ring.Rat
import Mousstec.Library.Decimal
import Mousstec.Printing.Shop

/-!
# Shares of the value of a purchase

A purchase brings its lines less the discount into the stock.  Each line stands
for a part of that value by its own total.  The parts are rounded to the cent,
and the last line takes what rounding left.
-/

namespace Mousstec.Printing

open Library

def decimal (value : ℚ) : ℚ := significant 28 value

theorem decimal_nonneg {value : ℚ} (sign : 0 ≤ value) : 0 ≤ decimal value :=
  significant_nonneg sign

abbrev StoredLine := ℕ × MaterialPurchaseLine

def linesTotal (lines : List StoredLine) : ℤ :=
  (lines.map fun line => line.2.lineTotal).sum

namespace MaterialPurchase

def lineShare (purchase : MaterialPurchase) (total : ℤ) (line : StoredLine) : ℤ :=
  if total = 0 then 0
  else
    roundHalfEven
      (decimal (decimal (purchase.inventoryValue * line.2.lineTotal) / total))

/-- The loop of `effective_line_totals`. -/
def shareOut (purchase : MaterialPurchase) (total : ℤ) :
    ℤ → List StoredLine → List (ℕ × ℤ)
  | _, [] => []
  | remaining, [line] => [(line.1, remaining)]
  | remaining, line :: next :: lines =>
      let share := purchase.lineShare total line
      (line.1, share) :: purchase.shareOut total (remaining - share) (next :: lines)

/-- `effective_line_totals`. -/
def effectiveLineTotals (purchase : MaterialPurchase) (lines : List StoredLine) :
    List (ℕ × ℤ) :=
  purchase.shareOut (linesTotal lines) purchase.inventoryValue lines

/-- Every line has a share, none is negative, and they make up the value. -/
structure SplitExactly (purchase : MaterialPurchase) (lines : List StoredLine)
    (shares : List (ℕ × ℤ)) : Prop where
  keys : shares.map Prod.fst = lines.map Prod.fst
  nonneg : ∀ share ∈ shares, 0 ≤ share.2
  exact : (shares.map Prod.snd).sum = purchase.inventoryValue

/-- A discount between nothing and the total of the lines. -/
structure Discounted (purchase : MaterialPurchase) (lines : List StoredLine) :
    Prop where
  lineTotals : ∀ line ∈ lines, 0 ≤ line.2.lineTotal
  total : purchase.totalAmount = linesTotal lines
  discount : 0 ≤ purchase.discount
  within : purchase.discount ≤ purchase.totalAmount

instance decidableDiscounted (purchase : MaterialPurchase)
    (lines : List StoredLine) : Decidable (purchase.Discounted lines) :=
  decidable_of_iff
    ((lines.all fun line => 0 ≤ line.2.lineTotal) = true ∧
      purchase.totalAmount = linesTotal lines ∧ 0 ≤ purchase.discount ∧
      purchase.discount ≤ purchase.totalAmount)
    ⟨fun holds => ⟨by simpa using holds.1, holds.2.1, holds.2.2.1, holds.2.2.2⟩,
      fun holds => ⟨by simpa using holds.lineTotals, holds.total, holds.discount,
        holds.within⟩⟩

def part (purchase : MaterialPurchase) (total : ℤ) (line : StoredLine) : ℚ :=
  purchase.inventoryValue * line.2.lineTotal / total

def roundedUp (purchase : MaterialPurchase) (total : ℤ) (lines : List StoredLine) :
    ℚ :=
  (lines.map fun line =>
    (purchase.lineShare total line : ℚ) - purchase.part total line).sum

/-- What rounding adds to the other parts is no more than the last part. -/
def LastPartCovers (purchase : MaterialPurchase) (lines : List StoredLine) : Prop :=
  ∀ last ∈ lines.getLast?,
    purchase.roundedUp (linesTotal lines) lines.dropLast ≤
      purchase.part (linesTotal lines) last

instance decidableLastPartCovers (purchase : MaterialPurchase)
    (lines : List StoredLine) : Decidable (purchase.LastPartCovers lines) :=
  decidable_of_iff ((lines.getLast?.all fun last =>
      purchase.roundedUp (linesTotal lines) lines.dropLast ≤
        purchase.part (linesTotal lines) last) = true) (by
    simp [LastPartCovers, Option.all_eq_true])

section Shares

variable {purchase : MaterialPurchase} {total : ℤ}

theorem lineShare_nonneg (value : 0 ≤ purchase.inventoryValue) (sum : 0 ≤ total)
    {line : StoredLine} (nonneg : 0 ≤ line.2.lineTotal) :
    0 ≤ purchase.lineShare total line := by
  unfold lineShare
  split
  · exact le_refl 0
  · apply roundHalfEven_nearest.nonneg
    apply decimal_nonneg
    refine div_nonneg (decimal_nonneg ?_) (by exact_mod_cast sum)
    exact_mod_cast Int.mul_nonneg value nonneg

theorem lineShare_sum_nonneg (value : 0 ≤ purchase.inventoryValue)
    (sum : 0 ≤ total) {lines : List StoredLine}
    (nonneg : ∀ line ∈ lines, 0 ≤ line.2.lineTotal) :
    ∀ share ∈ lines.map fun line => (line.1, purchase.lineShare total line),
      0 ≤ share.2 := by
  intro share member
  obtain ⟨line, listed, rfl⟩ := List.mem_map.mp member
  exact lineShare_nonneg value sum (nonneg line listed)

theorem shareOut_append (last : StoredLine) (lines : List StoredLine)
    (remaining : ℤ) :
    purchase.shareOut total remaining (lines ++ [last]) =
      (lines.map fun line => (line.1, purchase.lineShare total line)) ++
        [(last.1, remaining - (lines.map (purchase.lineShare total)).sum)] := by
  induction lines generalizing remaining with
  | nil => simp [shareOut]
  | cons line lines induction =>
      obtain ⟨next, rest, nonempty⟩ : ∃ next rest, lines ++ [last] = next :: rest := by
        cases lines with
        | nil => exact ⟨last, [], rfl⟩
        | cons next lines => exact ⟨next, lines ++ [last], rfl⟩
      have tail := induction (remaining - purchase.lineShare total line)
      rw [nonempty] at tail
      rw [List.cons_append, nonempty]
      simp only [shareOut, List.map_cons, List.sum_cons, List.cons_append]
      rw [tail, sub_sub]

theorem roundedUp_eq (lines : List StoredLine) :
    purchase.roundedUp total lines =
      ((lines.map (purchase.lineShare total)).sum : ℤ) -
        purchase.inventoryValue * linesTotal lines / total := by
  induction lines with
  | nil => simp [roundedUp, linesTotal]
  | cons line lines induction =>
      have tail : purchase.roundedUp total (line :: lines) =
          ((purchase.lineShare total line : ℚ) - purchase.part total line) +
            purchase.roundedUp total lines := by
        simp [roundedUp]
      have sums : linesTotal (line :: lines) =
          line.2.lineTotal + linesTotal lines := by
        simp [linesTotal]
      rw [tail, induction, sums, List.map_cons, List.sum_cons, part]
      push_cast
      ring

end Shares

section Split

variable {purchase : MaterialPurchase}

theorem linesTotal_append (lines : List StoredLine) (last : StoredLine) :
    linesTotal (lines ++ [last]) = linesTotal lines + last.2.lineTotal := by
  simp [linesTotal]

theorem linesTotal_nonneg {lines : List StoredLine}
    (nonneg : ∀ line ∈ lines, 0 ≤ line.2.lineTotal) : 0 ≤ linesTotal lines := by
  apply List.sum_nonneg
  intro amount member
  obtain ⟨line, listed, rfl⟩ := List.mem_map.mp member
  exact nonneg line listed

theorem value_eq_parts {lines : List StoredLine} {last : StoredLine}
    (discounted : purchase.Discounted (lines ++ [last])) :
    (purchase.inventoryValue : ℚ) =
      purchase.inventoryValue * linesTotal lines /
          linesTotal (lines ++ [last]) +
        purchase.part (linesTotal (lines ++ [last])) last := by
  unfold part
  by_cases none : linesTotal (lines ++ [last]) = 0
  · have value : purchase.inventoryValue = 0 := by
      have total := discounted.total
      have discount := discounted.discount
      have within := discounted.within
      unfold inventoryValue
      omega
    rw [value]
    simp
  · have positive : ((linesTotal (lines ++ [last]) : ℤ) : ℚ) ≠ 0 := by
      exact_mod_cast none
    rw [← add_div, ← mul_add, eq_div_iff positive, linesTotal_append]
    push_cast
    ring

theorem lastShare_nonneg_iff {lines : List StoredLine} {last : StoredLine}
    (discounted : purchase.Discounted (lines ++ [last])) :
    0 ≤ purchase.inventoryValue - (lines.map
        (purchase.lineShare (linesTotal (lines ++ [last])))).sum ↔
      purchase.LastPartCovers (lines ++ [last]) := by
  have parts := value_eq_parts discounted
  have rounded : purchase.roundedUp (linesTotal (lines ++ [last])) lines = _ :=
    roundedUp_eq lines
  have covers : purchase.LastPartCovers (lines ++ [last]) ↔
      purchase.roundedUp (linesTotal (lines ++ [last])) lines ≤
        purchase.part (linesTotal (lines ++ [last])) last := by
    simp [LastPartCovers]
  rw [covers, rounded, Int.sub_nonneg]
  constructor
  · intro enough
    have enough : ((lines.map (purchase.lineShare
        (linesTotal (lines ++ [last])))).sum : ℤ) ≤
        (purchase.inventoryValue : ℚ) := by exact_mod_cast enough
    linarith
  · intro covered
    have enough : (((lines.map (purchase.lineShare
        (linesTotal (lines ++ [last])))).sum : ℤ) : ℚ) ≤
        (purchase.inventoryValue : ℚ) := by linarith
    exact_mod_cast enough

theorem effectiveLineTotals_keys (purchase : MaterialPurchase)
    (lines : List StoredLine) :
    (purchase.effectiveLineTotals lines).map Prod.fst = lines.map Prod.fst := by
  rcases lines.eq_nil_or_concat with rfl | ⟨lines, last, rfl⟩
  · rfl
  · rw [List.concat_eq_append, effectiveLineTotals, shareOut_append]
    simp [Function.comp_def]

/-- Only the value of the purchase is shared out. -/
theorem effectiveLineTotals_congr {first second : MaterialPurchase}
    (same : first.inventoryValue = second.inventoryValue)
    (lines : List StoredLine) :
    first.effectiveLineTotals lines = second.effectiveLineTotals lines := by
  rcases lines.eq_nil_or_concat with rfl | ⟨lines, last, rfl⟩
  · rfl
  · have shares : first.lineShare (linesTotal (lines ++ [last])) =
        second.lineShare (linesTotal (lines ++ [last])) := by
      funext line
      unfold lineShare
      rw [same]
    unfold effectiveLineTotals
    rw [List.concat_eq_append, shareOut_append, shareOut_append, shares, same]

theorem effectiveLineTotals_exact {lines : List StoredLine}
    (discounted : purchase.Discounted lines) :
    ((purchase.effectiveLineTotals lines).map Prod.snd).sum =
      purchase.inventoryValue := by
  rcases lines.eq_nil_or_concat with rfl | ⟨lines, last, rfl⟩
  · have total := discounted.total
    have discount := discounted.discount
    have within := discounted.within
    have none : linesTotal [] = 0 := rfl
    have value : purchase.inventoryValue = 0 := by
      unfold inventoryValue
      omega
    rw [value]
    rfl
  · rw [List.concat_eq_append, effectiveLineTotals, shareOut_append]
    simp [Function.comp_def]

theorem splitExactly_of_covers {lines : List StoredLine}
    (discounted : purchase.Discounted lines)
    (covers : purchase.LastPartCovers lines) :
    purchase.SplitExactly lines (purchase.effectiveLineTotals lines) := by
  have exact := effectiveLineTotals_exact discounted
  refine ⟨purchase.effectiveLineTotals_keys _, ?_, exact⟩
  rcases lines.eq_nil_or_concat with rfl | ⟨lines, last, rfl⟩
  · simp [effectiveLineTotals, shareOut]
  · rw [List.concat_eq_append] at discounted covers ⊢
    have value : 0 ≤ purchase.inventoryValue :=
      Int.sub_nonneg.mpr discounted.within
    have total := linesTotal_nonneg discounted.lineTotals
    rw [effectiveLineTotals, shareOut_append]
    intro share member
    rcases List.mem_append.mp member with earlier | rest
    · exact lineShare_sum_nonneg value total
        (fun line listed => discounted.lineTotals line
          (List.mem_append_left _ listed)) share earlier
    · obtain rfl := List.mem_singleton.mp rest
      exact (lastShare_nonneg_iff discounted).mpr covers

/-- No share is negative exactly when the last part covers what rounding adds to
the others. -/
theorem effectiveLineTotals_split_iff (purchase : MaterialPurchase)
    (lines : List StoredLine) (discounted : purchase.Discounted lines) :
    purchase.SplitExactly lines (purchase.effectiveLineTotals lines) ↔
      purchase.LastPartCovers lines := by
  constructor
  · intro split
    rcases lines.eq_nil_or_concat with rfl | ⟨lines, last, rfl⟩
    · intro last member
      cases member
    · rw [List.concat_eq_append] at discounted split ⊢
      rw [← lastShare_nonneg_iff discounted]
      apply split.nonneg (last.1, _)
      rw [effectiveLineTotals, shareOut_append]
      exact List.mem_append_right _ List.mem_cons_self
  · exact splitExactly_of_covers discounted

end Split

end MaterialPurchase

def equalLines (count : ℕ) (lineTotal : ℤ) : List StoredLine :=
  (List.range count).map fun key =>
    (key, { purchase := 0, material := key, quantity := 100, unitCost := lineTotal * 100, lineTotal })

/-- Three lines of ten pounds with a discount of one. -/
theorem effectiveLineTotals_split_thirds :
    (MaterialPurchase.SplitExactly
      { supplier := 0, totalAmount := 3000, discount := 100 } (equalLines 3 1000)
      (MaterialPurchase.effectiveLineTotals
        { supplier := 0, totalAmount := 3000, discount := 100 }
        (equalLines 3 1000))) :=
  (MaterialPurchase.effectiveLineTotals_split_iff _ _
    (by decide +kernel)).mpr (by decide +kernel)

/-- The four first lines take a cent each of a value of three cents. -/
theorem effectiveLineTotals_negative :
    ¬ ∀ (purchase : MaterialPurchase) (lines : List StoredLine),
      purchase.Discounted lines →
        purchase.SplitExactly lines (purchase.effectiveLineTotals lines) := by
  intro always
  have split := always { supplier := 0, totalAmount := 5, discount := 2 }
    (equalLines 5 1) (by decide +kernel)
  have last := split.nonneg (4, -1) (by decide +kernel)
  exact absurd last (by decide)

end Mousstec.Printing
