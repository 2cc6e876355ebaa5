import Mousstec.Stock.Shipments

/-!
# The shares of a shipment cost

The shares of all invoices but the last are rounded down, and together they are
never more than the cost.  So the last invoice gets what is left, and that is
not negative; the rounding of the decimal context does not change this as long
as its digits hold the sum and the products.
-/

namespace Mousstec

namespace Stock

namespace Shipments

open Library

/-- The digits of the decimal context hold the sum and the products. -/
structure Fits (amount : ℤ) (bases : List ℤ) : Prop where
  small : amount < 10 ^ 27
  total : bases.sum < 10 ^ decimalDigits
  products : ∀ base ∈ bases, amount * base < 10 ^ decimalDigits

def cents (amounts : List ℤ) : List ℚ :=
  amounts.map fun amount : ℤ => (amount : ℚ)

structure ExactShares (amount : ℤ) (bases shares : List ℤ) : Prop where
  length : shares.length = bases.length
  nonneg : ∀ share ∈ shares, 0 ≤ share
  sum : shares.sum = amount

/-- An amount is divided exactly over values of which one is positive. -/
def AllocatesExactly : Prop :=
  ∀ (amount : ℤ) (bases : List ℤ), 0 ≤ amount → (∀ base ∈ bases, 0 ≤ base) →
    0 < bases.sum → Fits amount bases →
      ∃ shares, allocate amount (cents bases) = .ok (cents shares) ∧
        ExactShares amount bases shares

section Parts

variable {amount total : ℤ}

def roundedPart (amount total base : ℤ) : ℤ :=
  roundDown (decimal ((amount * base : ℤ) / (total : ℚ)))

theorem cast_roundedPart (amount total base : ℤ) :
    (roundedPart amount total base : ℚ) =
      part roundDown amount total base := by
  rw [roundedPart, part, Int.cast_mul]

theorem roundedPart_nonneg {base : ℤ} (sign : 0 ≤ amount) (all : 0 < total)
    (worth : 0 ≤ base) : 0 ≤ roundedPart amount total base := by
  have cast : (0 : ℚ) ≤ roundedPart amount total base := by
    rw [cast_roundedPart]
    apply part_nonneg roundDown_cents
    · exact_mod_cast sign
    · exact_mod_cast all.le
    · exact_mod_cast worth
  exact_mod_cast cast

theorem roundedPart_le {base : ℤ} (sign : 0 ≤ amount) (all : 0 < total)
    (worth : 0 ≤ base) :
    (roundedPart amount total base : ℚ) ≤
      (amount * base / total : ℚ) + amount * base / total / (2 * 10 ^ 27) := by
  have quotient : (0 : ℚ) ≤ ((amount * base : ℤ) : ℚ) / total := by
    apply div_nonneg
    · exact_mod_cast mul_nonneg sign worth
    · exact_mod_cast all.le
  have rounded : 0 ≤ decimal (((amount * base : ℤ) : ℚ) / total) :=
    significant_nonneg quotient
  have close : |significant (27 + 1) (((amount * base : ℤ) : ℚ) / total) -
      ((amount * base : ℤ) : ℚ) / total| ≤
        ((amount * base : ℤ) : ℚ) / total / (2 * 10 ^ 27) :=
    significant_near quotient
  have near := (abs_le.mp close).2
  have below := Int.floor_le (decimal (((amount * base : ℤ) : ℚ) / total))
  rw [roundedPart, roundDown, if_pos rounded]
  push_cast at near below ⊢
  unfold decimal decimalDigits at below ⊢
  linarith

theorem sum_roundedParts_le {bases : List ℤ} (sign : 0 ≤ amount)
    (small : amount < 10 ^ 27) (all : 0 < total)
    (worth : ∀ base ∈ bases, 0 ≤ base) (within : bases.sum ≤ total) :
    (bases.map (roundedPart amount total)).sum ≤ amount := by
  have positive : (0 : ℚ) < total := by exact_mod_cast all
  have sign' : (0 : ℚ) ≤ amount := by exact_mod_cast sign
  have bound : ((bases.map (roundedPart amount total)).sum : ℚ) ≤
      amount * bases.sum / total +
        amount * bases.sum / total / (2 * 10 ^ 27) := by
    clear within
    induction bases with
    | nil => simp
    | cons base bases induction =>
        have first := roundedPart_le sign all (worth base List.mem_cons_self)
        have rest := induction fun other member =>
          worth other (List.mem_cons_of_mem _ member)
        rw [List.map_cons, List.sum_cons, List.sum_cons]
        rw [Int.cast_add, Int.cast_add, mul_add, add_div, add_div]
        linarith
  have quotient : (amount * bases.sum / total : ℚ) ≤ amount := by
    rw [div_le_iff₀ positive]
    exact mul_le_mul_of_nonneg_left (Int.cast_le.mpr within) sign'
  have tiny : (amount : ℚ) / (2 * 10 ^ 27) < 1 := by
    rw [div_lt_one (by norm_num)]
    have small' : (amount : ℚ) < 10 ^ 27 := by exact_mod_cast small
    linarith
  have error : (amount * bases.sum / total / (2 * 10 ^ 27) : ℚ) ≤
      amount / (2 * 10 ^ 27) :=
    div_le_div_of_nonneg_right quotient (by norm_num)
  have strict : ((bases.map (roundedPart amount total)).sum : ℚ) <
      ((amount + 1 : ℤ) : ℚ) := by
    rw [Int.cast_add, Int.cast_one]
    linarith
  have whole : (bases.map (roundedPart amount total)).sum < amount + 1 :=
    Int.cast_lt.mp strict
  omega

end Parts

section Loop

variable {amount total : ℤ}

theorem decimal_intCast {value : ℤ} (small : |value| < 10 ^ decimalDigits) :
    decimal (value : ℚ) = value :=
  significant_intCast small

private theorem held_of_le (small : amount < 10 ^ 27) {value : ℤ}
    (within : |value| ≤ amount) : |value| < 10 ^ decimalDigits := by
  calc |value| ≤ amount := within
    _ < 10 ^ 27 := small
    _ ≤ 10 ^ decimalDigits :=
      pow_le_pow_right₀ (by norm_num) (by norm_num [decimalDigits])

private theorem quantize_part (total : ℤ) (small : amount < 10 ^ 27)
    {base : ℤ}
    (share : 0 ≤ roundedPart amount total base)
    (within : roundedPart amount total base ≤ amount) :
    quantize roundDown (decimal (((amount * base : ℤ) : ℚ) / total)) =
      .ok (roundedPart amount total base : ℚ) := by
  have held : |roundedPart amount total base| < 10 ^ decimalDigits := by
    apply held_of_le small
    rw [abs_of_nonneg share]
    exact within
  rw [quantize, if_pos]
  · rfl
  · exact held

theorem sum_roundedParts_nonneg {bases : List ℤ} (sign : 0 ≤ amount)
    (all : 0 < total) (worth : ∀ base ∈ bases, 0 ≤ base) :
    0 ≤ (bases.map (roundedPart amount total)).sum := by
  apply List.sum_nonneg
  intro other member
  obtain ⟨found, listed, rfl⟩ := List.mem_map.mp member
  exact roundedPart_nonneg sign all (worth found listed)

theorem allocateFrom_one (amount total given base : ℚ) :
    allocateFrom amount total given [base] = .ok [decimal (amount - given)] :=
  rfl

theorem allocateFrom_more (amount total given base next : ℚ)
    (others : List ℚ) :
    allocateFrom amount total given (base :: next :: others) = (do
      let share ← quantize roundDown (decimal (decimal (amount * base) / total))
      let shares ← allocateFrom amount total (decimal (given + share))
        (next :: others)
      .ok (share :: shares)) :=
  rfl

theorem allocateFrom_cons {base given : ℤ} {rest shares : List ℚ}
    (more : rest ≠ []) (small : amount < 10 ^ 27) (sign : 0 ≤ given)
    (share : 0 ≤ roundedPart amount total base)
    (within : given + roundedPart amount total base ≤ amount)
    (product : |amount * base| < 10 ^ decimalDigits)
    (later : allocateFrom amount total
      ((given + roundedPart amount total base : ℤ) : ℚ) rest = .ok shares) :
    allocateFrom amount total given ((base : ℚ) :: rest) =
      .ok ((roundedPart amount total base : ℚ) :: shares) := by
  have exact : decimal ((amount : ℚ) * base) = ((amount * base : ℤ) : ℚ) := by
    rw [← Int.cast_mul]
    exact decimal_intCast product
  have added : decimal ((given : ℚ) + roundedPart amount total base) =
      ((given + roundedPart amount total base : ℤ) : ℚ) := by
    rw [← Int.cast_add]
    apply decimal_intCast
    apply held_of_le small
    rw [abs_of_nonneg (add_nonneg sign share)]
    exact within
  have quantized := quantize_part total small share
    (le_trans (le_add_of_nonneg_left sign) within)
  cases rest with
  | nil => exact absurd rfl more
  | cons next others =>
      rw [allocateFrom_more, exact, quantized]
      simp only [bind, Except.bind, added, later]

theorem allocateFrom_eq {bases : List ℤ} (last : ℤ) (sign : 0 ≤ amount)
    (small : amount < 10 ^ 27) (all : 0 < total) {given : ℤ}
    (before : 0 ≤ given) (worth : ∀ base ∈ bases, 0 ≤ base)
    (products : ∀ base ∈ bases, amount * base < 10 ^ decimalDigits)
    (within : given + (bases.map (roundedPart amount total)).sum ≤ amount) :
    allocateFrom amount total given (cents (bases ++ [last])) =
      .ok (cents (bases.map (roundedPart amount total) ++
        [amount - (given + (bases.map (roundedPart amount total)).sum)])) := by
  induction bases generalizing given with
  | nil =>
      rw [List.map_nil, List.sum_nil, add_zero] at within
      have held : |amount - given| ≤ amount := by
        rw [abs_of_nonneg (sub_nonneg.mpr within)]
        exact sub_le_self amount before
      have rest : decimal ((amount : ℚ) - given) =
          ((amount - given : ℤ) : ℚ) := by
        rw [← Int.cast_sub]
        exact decimal_intCast (held_of_le small held)
      simp only [cents, List.nil_append, List.map_cons, List.map_nil,
        allocateFrom_one, rest, List.sum_nil, add_zero]
  | cons base bases induction =>
      rw [List.map_cons, List.sum_cons, ← add_assoc] at within
      have value := worth base List.mem_cons_self
      have later := fun other member =>
        worth other (List.mem_cons_of_mem base member)
      have share := roundedPart_nonneg sign all value
      have parts := sum_roundedParts_nonneg sign all later
      have reached : given + roundedPart amount total base ≤ amount :=
        le_trans (le_add_of_nonneg_right parts) within
      have product : |amount * base| < 10 ^ decimalDigits := by
        rw [abs_of_nonneg (mul_nonneg sign value)]
        exact products base List.mem_cons_self
      have rest := induction (add_nonneg before share) later
        (fun other member => products other (List.mem_cons_of_mem base member))
        within
      have more : cents (bases ++ [last]) ≠ [] := by simp [cents]
      rw [List.cons_append, cents, List.map_cons, ← cents,
        allocateFrom_cons more small before share reached product rest,
        List.map_cons, List.sum_cons, List.cons_append, cents, cents,
        List.map_cons, add_assoc]

theorem sum_cents (amounts : List ℤ) : (cents amounts).sum = amounts.sum := by
  induction amounts with
  | nil => simp [cents]
  | cons amount amounts induction =>
      rw [cents, List.map_cons, ← cents, List.sum_cons, induction,
        List.sum_cons, Int.cast_add]

theorem decimalSum_cents {bases : List ℤ} (worth : ∀ base ∈ bases, 0 ≤ base)
    (small : bases.sum < 10 ^ decimalDigits) :
    decimalSum (cents bases) = bases.sum := by
  have whole : ∀ value ∈ cents bases, HasPlaces 0 value := by
    intro value member
    obtain ⟨base, -, rfl⟩ := List.mem_map.mp member
    exact .whole base
  have sizes : (cents bases).map abs = cents bases := by
    rw [cents, List.map_map]
    apply List.map_congr_left
    intro base member
    exact abs_of_nonneg (Int.cast_nonneg (worth base member))
  rw [decimalSum_eq 0 whole, sum_cents]
  rw [sizes, sum_cents, pow_zero, mul_one]
  exact_mod_cast small

end Loop

/-- Amounts that fit are divided exactly. -/
theorem allocate_exact : AllocatesExactly := by
  intro amount bases sign worth positive fits
  have total := decimalSum_cents worth fits.total
  rcases List.eq_nil_or_concat bases with rfl | ⟨init, last, rfl⟩
  · simp at positive
  · rw [List.concat_eq_append] at *
    have worth' : ∀ base ∈ init, 0 ≤ base := fun base member =>
      worth base (List.mem_append_left _ member)
    have final : 0 ≤ last := worth last (by simp)
    have within : init.sum ≤ (init ++ [last]).sum := by
      rw [List.sum_append, List.sum_singleton]
      exact le_add_of_nonneg_right final
    have below := sum_roundedParts_le sign fits.small positive worth' within
    have parts := sum_roundedParts_nonneg sign positive worth'
    by_cases none : amount = 0
    · subst none
      refine ⟨(init ++ [last]).map fun _ => 0, ?_, by simp, ?_, by simp⟩
      · rw [allocate, if_pos (.inl (by simp)), cents, cents, List.map_map,
          List.map_map]
        simp [Function.comp_def]
      · intro share member
        obtain ⟨_, -, rfl⟩ := List.mem_map.mp member
        exact le_rfl
    · have more : 0 < amount := lt_of_le_of_ne sign (Ne.symm none)
      refine ⟨init.map (roundedPart amount (init ++ [last]).sum) ++
        [amount - (init.map (roundedPart amount (init ++ [last]).sum)).sum],
        ?_, by simp, ?_, ?_⟩
      · have loop := allocateFrom_eq last sign fits.small positive
          le_rfl worth' (fun base member =>
            fits.products base (List.mem_append_left _ member))
          (by rw [zero_add]; exact below)
        rw [zero_add, Int.cast_zero] at loop
        rw [allocate, total, if_neg, loop]
        rw [not_or, not_le, not_le]
        exact ⟨by exact_mod_cast more, by exact_mod_cast positive⟩
      · intro share member
        rcases List.mem_append.mp member with earlier | rest
        · obtain ⟨base, listed, rfl⟩ := List.mem_map.mp earlier
          exact roundedPart_nonneg sign positive (worth' base listed)
        · rw [List.mem_singleton.mp rest]
          exact sub_nonneg.mpr below
      · rw [List.sum_append, List.sum_singleton]
        ring

theorem allocate_nothing {amount : ℚ} {bases : List ℚ}
    (nothing : amount ≤ 0 ∨ decimalSum bases ≤ 0) :
    allocate amount bases = .ok (bases.map fun _ => 0) := by
  rw [allocate, if_pos nothing]

end Shipments

end Stock

end Mousstec
