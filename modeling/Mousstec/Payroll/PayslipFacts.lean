import Mathlib.Tactic.Ring
import Mathlib.Tactic.Linarith
import Mousstec.Payroll.Payslips

/-!
# What payslips do to installments

The sums the payroll has to keep are weighted sums over the installments: an
installment counts with its amount, by its advance, its status and its payslip.
Approving, releasing and allocating are described by what they do to every such
sum, and by which rows they write.
-/

namespace Mousstec.Payroll

open Library

abbrev Weight := ℕ → InstallmentStatus → Option ℕ → ℤ

def AdvanceInstallment.weigh (installment : AdvanceInstallment)
    (weight : Weight) : ℤ :=
  weight installment.advance installment.status installment.deductedInPayroll *
    installment.amount

def weighed (table : Table AdvanceInstallment) (weight : Weight) : ℤ :=
  table.total fun _ installment => installment.weigh weight

theorem weighed_insert (table : Table AdvanceInstallment)
    (installment : AdvanceInstallment) (weight : Weight) :
    weighed (table.insert installment) weight =
      weighed table weight + installment.weigh weight :=
  Table.total_insert _ _ _

theorem weighed_modify {table : Table AdvanceInstallment} {pk : ℕ}
    {installment : AdvanceInstallment} (found : table.get? pk = some installment)
    (change : AdvanceInstallment → AdvanceInstallment) (weight : Weight) :
    weighed (table.modify pk change) weight =
      weighed table weight - installment.weigh weight +
        (change installment).weigh weight := by
  unfold weighed
  rw [Table.total_modify found]
  ring

def ofAdvance (advance : ℕ) : Weight :=
  fun owner _ _ => if owner = advance then 1 else 0

def deductedIn (entry : ℕ) : Weight :=
  fun _ status link => if status = .deducted ∧ link = some entry then 1 else 0

section Schedule

variable {base amount : ℤ}

theorem sum_scheduleAmounts {count : ℕ} (positive : count ≠ 0)
    (scheduled : ℤ) :
    (scheduleAmounts base amount count scheduled).sum = amount - scheduled := by
  induction count generalizing scheduled with
  | zero => exact absurd rfl positive
  | succ count induction =>
      cases count with
      | zero => simp [scheduleAmounts]
      | succ count =>
          rw [scheduleAmounts, List.sum_cons,
            induction (Nat.succ_ne_zero count)]
          ring

theorem scheduleAmounts_nonneg (positive : 0 ≤ base) {count : ℕ}
    {scheduled : ℤ} (last : scheduled + base * (count - 1) ≤ amount) :
    ∀ part ∈ scheduleAmounts base amount count scheduled, 0 ≤ part := by
  induction count generalizing scheduled with
  | zero => simp [scheduleAmounts]
  | succ count induction =>
      cases count with
      | zero =>
          simp only [scheduleAmounts, List.mem_singleton, forall_eq]
          push_cast at last
          linarith
      | succ count =>
          intro part member
          rcases List.mem_cons.mp member with rfl | later
          · exact positive
          · refine induction ?_ part later
            push_cast at last ⊢
            linarith

def FreshOf (advance : ℕ) (installment : AdvanceInstallment) : Prop :=
  installment.advance = advance ∧ installment.status = .scheduled ∧
    installment.deductedInPayroll = none

theorem scheduleFrom_fresh {advance number month : ℕ} {amounts : List ℤ} :
    ∀ installment ∈ scheduleFrom advance number month amounts,
      FreshOf advance installment ∧ installment.amount ∈ amounts := by
  induction amounts generalizing number month with
  | nil => simp [scheduleFrom]
  | cons amount amounts induction =>
      intro installment member
      rcases List.mem_cons.mp member with rfl | later
      · exact ⟨⟨rfl, rfl, rfl⟩, List.mem_cons_self⟩
      · obtain ⟨fresh, among⟩ := induction installment later
        exact ⟨fresh, List.mem_cons_of_mem _ among⟩

theorem sum_scheduleFrom (advance number month : ℕ) (amounts : List ℤ) :
    ((scheduleFrom advance number month amounts).map
      AdvanceInstallment.amount).sum = amounts.sum := by
  induction amounts generalizing number month with
  | nil => rfl
  | cons amount amounts induction =>
      rw [scheduleFrom, List.map_cons, List.sum_cons, induction, List.sum_cons]

theorem weighed_insertAll (table : Table AdvanceInstallment)
    (added : List AdvanceInstallment) (weight : Weight) :
    weighed (insertAll table added) weight =
      weighed table weight +
        (added.map fun installment => installment.weigh weight).sum := by
  induction added generalizing table with
  | nil => simp [insertAll]
  | cons installment rest induction =>
      rw [insertAll, induction, weighed_insert, List.map_cons, List.sum_cons]
      ring

theorem get?_insertAll {table : Table AdvanceInstallment}
    {added : List AdvanceInstallment} {pk : ℕ} {row : AdvanceInstallment}
    (found : (insertAll table added).get? pk = some row) :
    table.get? pk = some row ∨ row ∈ added := by
  induction added generalizing table with
  | nil => exact .inl found
  | cons installment rest induction =>
      rcases induction found with stored | later
      · rcases Table.get?_insert_cases stored with ⟨-, rfl⟩ | stored
        · exact .inr List.mem_cons_self
        · exact .inl stored
      · exact .inr (List.mem_cons_of_mem _ later)

theorem insertAll_keeps {table : Table AdvanceInstallment}
    (added : List AdvanceInstallment) {pk : ℕ} {row : AdvanceInstallment}
    (found : table.get? pk = some row) :
    (insertAll table added).get? pk = some row := by
  induction added generalizing table with
  | nil => exact found
  | cons installment rest induction =>
      exact induction (Table.get?_insert_of_some found _)

end Schedule

section Allocation

variable {entry : ℕ} {due : List (ℕ × AdvanceInstallment)}
  {table : Table AdvanceInstallment} {left : ℤ}

def deductedAmount : List (ℕ × AdvanceInstallment) → ℤ → ℤ
  | [], _ => 0
  | (_, installment) :: rest, left =>
      if left ≥ installment.amount then
        installment.amount + deductedAmount rest (left - installment.amount)
      else if left > 0 then left + deductedAmount rest 0
      else deductedAmount rest left

/-- When no installment is negative, an amount within what is due is deducted
exactly. -/
theorem deductedAmount_eq (nonneg : ∀ row ∈ due, 0 ≤ row.2.amount)
    (lower : 0 ≤ left) (upper : left ≤ (due.map fun row => row.2.amount).sum) :
    deductedAmount due left = left := by
  induction due generalizing left with
  | nil =>
      simp only [List.map_nil, List.sum_nil] at upper
      rw [deductedAmount]
      omega
  | cons row rest induction =>
      obtain ⟨pk, installment⟩ := row
      have restNonneg : ∀ row ∈ rest, 0 ≤ row.2.amount :=
        fun row member => nonneg row (List.mem_cons_of_mem _ member)
      have total : 0 ≤ (rest.map fun row => row.2.amount).sum := by
        apply List.sum_nonneg
        intro amount member
        obtain ⟨row, among, rfl⟩ := List.mem_map.mp member
        exact restNonneg row among
      simp only [List.map_cons, List.sum_cons] at upper
      rw [deductedAmount]
      split
      · rename_i covered
        rw [induction restNonneg (by linarith) (by linarith)]
        ring
      · split
        · rw [induction restNonneg (le_refl 0) total, add_zero]
        · rename_i none
          have empty : left = 0 := le_antisymm (not_lt.mp none) lower
          subst empty
          exact induction restNonneg (le_refl 0) total

/-- The rows an allocation is for are stored, each once. -/
structure Listed (due : List (ℕ × AdvanceInstallment))
    (table : Table AdvanceInstallment) : Prop where
  stored : ∀ row ∈ due, table.get? row.1 = some row.2
  single : (due.map Prod.fst).Nodup

theorem Listed.modify {row : ℕ × AdvanceInstallment}
    (listed : Listed (row :: due) table)
    (change : AdvanceInstallment → AdvanceInstallment) :
    Listed due (table.modify row.1 change) where
  stored other member := by
    have different : other.1 ≠ row.1 := by
      intro same
      have absent := (List.nodup_cons.mp listed.single).1
      exact absent (same ▸ List.mem_map_of_mem member)
    rw [Table.get?_modify, if_neg different]
    exact listed.stored other (List.mem_cons_of_mem _ member)
  single := (List.nodup_cons.mp listed.single).2

theorem Listed.insert (listed : Listed due table)
    (installment : AdvanceInstallment) :
    Listed due (table.insert installment) where
  stored row member := Table.get?_insert_of_some (listed.stored row member) _
  single := listed.single

/-- A weight that gives the carried rows what they had, and the deducted ones a
constant more. -/
structure Tracks (weight : Weight) (entry : ℕ) (change : ℤ)
    (due : List (ℕ × AdvanceInstallment)) : Prop where
  carried : ∀ row ∈ due, weight row.2.advance .skipped (some entry) =
    weight row.2.advance row.2.status row.2.deductedInPayroll
  deducted : ∀ row ∈ due, weight row.2.advance .deducted (some entry) =
    weight row.2.advance row.2.status row.2.deductedInPayroll + change

theorem weighed_allocate {weight : Weight} {change : ℤ}
    (listed : Listed due table) (tracks : Tracks weight entry change due) :
    weighed (allocateInstallments entry due left table) weight =
      weighed table weight + change * deductedAmount due left := by
  induction due generalizing table left with
  | nil => simp [allocateInstallments, deductedAmount]
  | cons row rest induction =>
      have later : Tracks weight entry change rest :=
        ⟨fun row member => tracks.carried row (List.mem_cons_of_mem _ member),
          fun row member => tracks.deducted row (List.mem_cons_of_mem _ member)⟩
      have carried := tracks.carried row List.mem_cons_self
      have deducted := tracks.deducted row List.mem_cons_self
      have found := listed.stored row List.mem_cons_self
      obtain ⟨pk, installment⟩ := row
      rw [allocateInstallments, deductedAmount]
      split
      · rw [induction (listed.modify _) later, weighed_modify found]
        simp only [AdvanceInstallment.weigh] at carried deducted ⊢
        rw [deducted]
        ring
      · split
        · have inserted := listed.insert
            { advance := installment.advance
              installmentNumber := nextNumber table installment.advance
              amount := installment.amount - left
              dueMonth := installment.dueMonth
              status := .skipped
              deductedInPayroll := some entry }
          have stored := inserted.stored (pk, installment) List.mem_cons_self
          rw [induction (inserted.modify _) later, weighed_modify stored,
            weighed_insert]
          simp only [AdvanceInstallment.weigh] at carried deducted ⊢
          rw [deducted, carried]
          ring
        · rw [induction (listed.modify _) later, weighed_modify found]
          simp only [AdvanceInstallment.weigh] at carried deducted ⊢
          rw [carried]
          ring

/-- What an allocation writes: a row of one of the advances, linked to the
payslip. -/
structure Allocated (entry : ℕ) (due : List (ℕ × AdvanceInstallment))
    (row : AdvanceInstallment) : Prop where
  advance : ∃ old ∈ due, row.advance = old.2.advance
  link : row.deductedInPayroll = some entry
  closed : row.status ≠ .scheduled
  nonneg : (∀ old ∈ due, 0 ≤ old.2.amount) → 0 ≤ row.amount

theorem Allocated.cons {row : AdvanceInstallment}
    {head : ℕ × AdvanceInstallment} (written : Allocated entry due row) :
    Allocated entry (head :: due) row where
  advance := by
    obtain ⟨old, member, same⟩ := written.advance
    exact ⟨old, List.mem_cons_of_mem _ member, same⟩
  link := written.link
  closed := written.closed
  nonneg all := written.nonneg fun old member =>
    all old (List.mem_cons_of_mem _ member)

theorem get?_allocate (listed : Listed due table) {pk : ℕ}
    {row : AdvanceInstallment}
    (found : (allocateInstallments entry due left table).get? pk = some row) :
    (table.get? pk = some row ∧ pk ∉ due.map Prod.fst) ∨
      Allocated entry due row := by
  induction due generalizing table left with
  | nil => exact .inl ⟨found, by simp⟩
  | cons head rest induction =>
      have stored := listed.stored head List.mem_cons_self
      obtain ⟨key, installment⟩ := head
      -- One step writes the row under the key and at most adds one.
      have step : ∀ {change : AdvanceInstallment → AdvanceInstallment}
          {middle : Table AdvanceInstallment}
          (_ : Allocated entry ((key, installment) :: rest) (change installment))
          (_ : middle.get? key = some installment)
          (_ : ∀ other row, middle.get? other = some row →
            table.get? other = some row ∨
              Allocated entry ((key, installment) :: rest) row),
          ((middle.modify key change).get? pk = some row ∧
              pk ∉ rest.map Prod.fst) ∨ Allocated entry rest row →
            (table.get? pk = some row ∧
              pk ∉ ((key, installment) :: rest).map Prod.fst) ∨
                Allocated entry ((key, installment) :: rest) row := by
        intro change middle written held kept earlier
        rcases earlier with ⟨looked, absent⟩ | later
        · rw [Table.get?_modify] at looked
          split at looked
          · rename_i same
            subst same
            rw [held] at looked
            cases looked
            exact .inr written
          · rename_i different
            rcases kept pk row looked with before | new
            · exact .inl ⟨before, by simp [different, absent]⟩
            · exact .inr new
        · exact .inr later.cons
      rw [allocateInstallments] at found
      split at found
      · refine step ⟨⟨_, List.mem_cons_self, rfl⟩, rfl, by simp, ?_⟩ stored
          (fun _ _ looked => .inl looked) (induction (listed.modify _) found)
        exact fun all => all _ List.mem_cons_self
      · rename_i short
        split at found
        · rename_i some
          have inserted := listed.insert
            { advance := installment.advance
              installmentNumber := nextNumber table installment.advance
              amount := installment.amount - left
              dueMonth := installment.dueMonth
              status := .skipped
              deductedInPayroll := .some entry }
          refine step ⟨⟨_, List.mem_cons_self, rfl⟩, rfl, by simp, ?_⟩
            (inserted.stored (key, installment) List.mem_cons_self) ?_
            (induction (inserted.modify _) found)
          · exact fun _ => some.le
          · intro other looked held
            rcases Table.get?_insert_cases held with ⟨-, rfl⟩ | held
            · refine .inr ⟨⟨_, List.mem_cons_self, rfl⟩, rfl, by simp, ?_⟩
              intro _
              simp only
              linarith [not_le.mp short]
            · exact .inl held
        · refine step ⟨⟨_, List.mem_cons_self, rfl⟩, rfl, by simp, ?_⟩ stored
            (fun _ _ looked => .inl looked) (induction (listed.modify _) found)
          exact fun all => all _ List.mem_cons_self

theorem allocate_keeps (listed : Listed due table) {pk : ℕ}
    {row : AdvanceInstallment} (found : table.get? pk = some row)
    (other : pk ∉ due.map Prod.fst) :
    (allocateInstallments entry due left table).get? pk = some row := by
  induction due generalizing table left with
  | nil => exact found
  | cons head rest induction =>
      obtain ⟨key, installment⟩ := head
      simp only [List.map_cons, List.mem_cons, not_or] at other
      rw [allocateInstallments]
      split
      · refine induction (listed.modify _) ?_ other.2
        rw [Table.get?_modify, if_neg other.1, found]
      · split
        · refine induction ((listed.insert _).modify _) ?_ other.2
          rw [Table.get?_modify, if_neg other.1]
          exact Table.get?_insert_of_some found _
        · refine induction (listed.modify _) ?_ other.2
          rw [Table.get?_modify, if_neg other.1, found]

end Allocation

end Mousstec.Payroll
