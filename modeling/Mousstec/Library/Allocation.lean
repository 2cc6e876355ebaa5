import Mathlib.Algebra.BigOperators.Group.List.Basic
import Mathlib.Algebra.Order.BigOperators.Group.List
import Mathlib.Algebra.Ring.Int.Defs
import Mathlib.Data.Int.Order.Basic
import Mathlib.Data.List.Forall2
import Mousstec.Library.Transaction

/-!
# Oldest-first allocation

An amount is spread over a list of dues in order: each due is paid in full
while the amount lasts, the due on which it runs out in part, and what no due
takes is left over.  `OldestFirst` says which allocations are allowed without
saying how one is found; `spread` finds it, and `payInOrder` is the program
that pays while it goes.
-/

namespace Library

variable {κ : Type}

/-- The parts of an oldest-first allocation, and what is left over. -/
structure OldestFirst (dues : List (κ × ℤ)) (amount : ℤ)
    (parts : List (κ × ℤ)) (left : ℤ) : Prop where
  /-- Nothing is lost. -/
  exact : (parts.map Prod.snd).sum + left = amount
  nonneg : 0 ≤ left
  /-- The parts go to the first dues, none beyond what is due. -/
  within : ∃ paid, paid <+: dues ∧
    List.Forall₂ (fun part due => part.1 = due.1 ∧ 0 < part.2 ∧ part.2 ≤ due.2)
      parts paid
  /-- Every part but the last pays its due in full. -/
  earlier : parts.dropLast <+: dues
  /-- Something is left over only once every due is paid in full. -/
  full : 0 < left → parts = dues

/-- Spreads an amount over dues in order; a due that is not positive is
skipped. -/
def spread : List (κ × ℤ) → ℤ → List (κ × ℤ) × ℤ
  | [], amount => ([], amount)
  | (key, due) :: rest, amount =>
      if amount ≤ 0 then ([], amount)
      else if due ≤ 0 then spread rest amount
      else
        let part := min due amount
        let paid := spread rest (amount - part)
        ((key, part) :: paid.1, paid.2)

namespace OldestFirst

variable {dues parts : List (κ × ℤ)} {amount left : ℤ}

theorem spent (dues : List (κ × ℤ)) : OldestFirst dues 0 [] 0 where
  exact := by simp
  nonneg := le_refl 0
  within := ⟨[], List.nil_prefix, .nil⟩
  earlier := List.nil_prefix
  full positive := absurd positive (lt_irrefl 0)

theorem noDues (nonneg : 0 ≤ amount) :
    OldestFirst ([] : List (κ × ℤ)) amount [] amount where
  exact := by simp
  nonneg
  within := ⟨[], List.nil_prefix, .nil⟩
  earlier := List.nil_prefix
  full _ := rfl

/-- The amount runs out on the first due. -/
theorem last {key : κ} {due : ℤ} (positive : 0 < amount)
    (enough : amount ≤ due) :
    OldestFirst ((key, due) :: dues) amount [(key, amount)] 0 where
  exact := by simp
  nonneg := le_refl 0
  within := ⟨[(key, due)], ⟨dues, rfl⟩, .cons ⟨rfl, positive, enough⟩ .nil⟩
  earlier := List.nil_prefix
  full positive := absurd positive (lt_irrefl 0)

/-- The first due is paid in full and the rest goes on. -/
theorem step {key : κ} {due : ℤ} (positive : 0 < due)
    (others : OldestFirst dues (amount - due) parts left) :
    OldestFirst ((key, due) :: dues) amount ((key, due) :: parts) left where
  exact := by
    have total := others.exact
    simp only [List.map_cons, List.sum_cons]
    omega
  nonneg := others.nonneg
  within := by
    obtain ⟨paid, first, matched⟩ := others.within
    exact ⟨(key, due) :: paid, List.prefix_cons_inj _ |>.mpr first,
      .cons ⟨rfl, positive, le_refl due⟩ matched⟩
  earlier := by
    cases parts with
    | nil => exact List.nil_prefix
    | cons part parts =>
        rw [List.dropLast_cons_cons, List.prefix_cons_inj]
        exact others.earlier
  full remains := by rw [others.full remains]

theorem positive (allocated : OldestFirst dues amount parts left) :
    ∀ part ∈ parts, 0 < part.2 := by
  obtain ⟨paid, -, matched⟩ := allocated.within
  have parted : List.Forall₂ (fun part due : κ × ℤ =>
      (0 : ℤ) < part.2 ∧ part.1 = due.1) parts paid :=
    matched.imp fun _ _ paid => ⟨paid.2.1, paid.1⟩
  exact ((List.forall₂_and_left _ _).mp parted).1

/-- Only dues are paid. -/
theorem keys (allocated : OldestFirst dues amount parts left) :
    ∀ part ∈ parts, part.1 ∈ dues.map Prod.fst := by
  obtain ⟨paid, ⟨unpaid, rfl⟩, matched⟩ := allocated.within
  have same : parts.map Prod.fst = paid.map Prod.fst := by
    clear allocated
    induction matched with
    | nil => rfl
    | cons first others induction =>
        rw [List.map_cons, List.map_cons, first.1, induction]
  intro part member
  rw [List.map_append, ← same]
  exact List.mem_append_left _ (List.mem_map_of_mem member)

end OldestFirst

section Shares

variable [DecidableEq κ]

/-- The sum of a key's parts. -/
def share (parts : List (κ × ℤ)) (key : κ) : ℤ :=
  (parts.map fun part => if part.1 = key then part.2 else 0).sum

theorem share_nonneg {parts : List (κ × ℤ)}
    (nonneg : ∀ part ∈ parts, 0 ≤ part.2) (key : κ) : 0 ≤ share parts key := by
  apply List.sum_nonneg
  intro amount member
  obtain ⟨part, listed, rfl⟩ := List.mem_map.mp member
  split
  · exact nonneg part listed
  · exact le_refl 0

theorem share_of_notMem {parts : List (κ × ℤ)} {key : κ}
    (absent : key ∉ parts.map Prod.fst) : share parts key = 0 := by
  apply List.sum_eq_zero
  intro amount member
  obtain ⟨part, listed, rfl⟩ := List.mem_map.mp member
  rw [if_neg]
  rintro rfl
  exact absent (List.mem_map_of_mem listed)

theorem share_of_mem {parts : List (κ × ℤ)} {key : κ} {part : ℤ}
    (nodup : (parts.map Prod.fst).Nodup) (listed : (key, part) ∈ parts) :
    share parts key = part := by
  induction parts with
  | nil => cases listed
  | cons first rest induction =>
      rw [List.map_cons, List.nodup_cons] at nodup
      obtain ⟨absent, nodup⟩ := nodup
      rcases List.mem_cons.mp listed with rfl | later
      · have others := share_of_notMem absent
        unfold share at others ⊢
        simp [others]
      · have other : first.1 ≠ key := by
          rintro rfl
          exact absent (List.mem_map.mpr ⟨_, later, rfl⟩)
        have tail := induction nodup later
        unfold share at tail ⊢
        simp [other, tail]

/-- No key gets more than its due. -/
theorem OldestFirst.share_le {dues parts : List (κ × ℤ)} {amount left : ℤ}
    (allocated : OldestFirst dues amount parts left)
    (nonneg : ∀ row ∈ dues, 0 ≤ row.2) (key : κ) :
    share parts key ≤ share dues key := by
  obtain ⟨paid, ⟨unpaid, rfl⟩, matched⟩ := allocated.within
  have rest : 0 ≤ share unpaid key :=
    share_nonneg (fun row member => nonneg row (List.mem_append_right _ member)) key
  have bounded : share parts key ≤ share paid key := by
    clear allocated nonneg rest
    induction matched with
    | nil => exact le_refl _
    | cons first others induction =>
        obtain ⟨same, -, within⟩ := first
        unfold share at induction ⊢
        rw [List.map_cons, List.map_cons, List.sum_cons, List.sum_cons, same]
        split
        · omega
        · omega
  have split : share (paid ++ unpaid) key = share paid key + share unpaid key := by
    simp [share]
  omega

end Shares

theorem spread_zero (dues : List (κ × ℤ)) : spread dues 0 = ([], 0) := by
  cases dues with
  | nil => rfl
  | cons row rest => simp [spread]

/-- Spreading an amount over positive dues is an oldest-first allocation. -/
theorem spread_oldestFirst {dues : List (κ × ℤ)} {amount : ℤ}
    (due : ∀ row ∈ dues, 0 < row.2) (nonneg : 0 ≤ amount) :
    OldestFirst dues amount (spread dues amount).1 (spread dues amount).2 := by
  induction dues generalizing amount with
  | nil => exact .noDues nonneg
  | cons row rest induction =>
      obtain ⟨key, first⟩ := row
      have positive : 0 < first := due (key, first) List.mem_cons_self
      have others := fun row member => due row (List.mem_cons_of_mem _ member)
      rcases nonneg.eq_or_lt with rfl | some
      · rw [spread_zero]
        exact .spent _
      · rw [spread, if_neg (not_le.mpr some), if_neg (not_le.mpr positive)]
        simp only
        rcases le_or_gt first amount with whole | short
        · rw [min_eq_left whole]
          exact .step positive (induction others (by omega))
        · rw [min_eq_right short.le, sub_self, spread_zero]
          exact .last some short.le

variable {ε σ : Type}

/-- Pays dues in order until the amount is used up. -/
def payInOrder (pay : κ → ℤ → Txn ε σ PUnit) :
    List (κ × ℤ) → ℤ → Txn ε σ (List (κ × ℤ) × ℤ)
  | [], left => pure ([], left)
  | (key, due) :: rest, left =>
      if left ≤ 0 then pure ([], left)
      else if due ≤ 0 then payInOrder pay rest left
      else do
        pay key (min due left)
        let paid ← payInOrder pay rest (left - min due left)
        pure ((key, min due left) :: paid.1, paid.2)

/-- Paying in order pays the parts of the allocation, in order. -/
theorem payInOrder_eq_ok {pay : κ → ℤ → Txn ε σ PUnit}
    {dues : List (κ × ℤ)} {amount : ℤ} {paid : List (κ × ℤ) × ℤ}
    {before after : σ} :
    payInOrder pay dues amount before = .ok paid after ↔
      paid = spread dues amount ∧
        (forM paid.1 fun part => pay part.1 part.2) before = .ok ⟨⟩ after := by
  induction dues generalizing amount paid before with
  | nil =>
      simp only [payInOrder, spread, Txn.pure_eq_ok]
      constructor
      · rintro ⟨rfl, rfl⟩
        exact ⟨rfl, rfl⟩
      · rintro ⟨rfl, done⟩
        exact ⟨rfl, (Txn.pure_eq_ok.mp done).2⟩
  | cons row rest induction =>
      obtain ⟨key, due⟩ := row
      unfold payInOrder spread
      split
      · rw [Txn.pure_eq_ok]
        constructor
        · rintro ⟨rfl, rfl⟩
          exact ⟨rfl, rfl⟩
        · rintro ⟨rfl, done⟩
          exact ⟨rfl, (Txn.pure_eq_ok.mp done).2⟩
      · split
        · exact induction
        · simp only [Txn.bind_eq_ok, Txn.pure_eq_ok]
          constructor
          · rintro ⟨_, middle, first, others, _, paid, rfl, rfl⟩
            obtain ⟨rfl, later⟩ := induction.mp paid
            exact ⟨rfl, Txn.bind_eq_ok.mpr ⟨_, middle, first, later⟩⟩
          · rintro ⟨rfl, done⟩
            obtain ⟨_, middle, first, later⟩ := Txn.bind_eq_ok.mp done
            exact ⟨_, middle, first, _, after, induction.mpr ⟨rfl, later⟩,
              rfl, rfl⟩

end Library
