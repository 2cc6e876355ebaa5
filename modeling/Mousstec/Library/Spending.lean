import Mousstec.Library.Table

/-!
# Spending

A balance says how often something can be spent.  It does when all that it
counts is reached, and when it does not, what is not reached stays in the way.
-/

namespace Library

universe u

section First

variable {α : Type u} {precedes : α → α → Prop} [DecidableRel precedes]

/-- The row that no other precedes. -/
def firstIn (precedes : α → α → Prop) [DecidableRel precedes] :
    List α → Option α
  | [] => none
  | row :: rows =>
      match firstIn precedes rows with
      | none => some row
      | some best => if precedes best row then some best else some row

theorem firstIn_cons_eq_some {row chosen : α} {rows : List α}
    (found : firstIn precedes (row :: rows) = some chosen) :
    (firstIn precedes rows = none ∧ chosen = row) ∨
      ∃ best, firstIn precedes rows = some best ∧
        (precedes best row ∧ chosen = best ∨
          ¬precedes best row ∧ chosen = row) := by
  unfold firstIn at found
  cases rest : firstIn precedes rows with
  | none =>
      simp only [rest, Option.some.injEq] at found
      exact .inl ⟨rfl, found.symm⟩
  | some best =>
      simp only [rest] at found
      refine .inr ⟨best, rfl, ?_⟩
      by_cases before : precedes best row
      · rw [if_pos before] at found
        exact .inl ⟨before, (Option.some.inj found).symm⟩
      · rw [if_neg before] at found
        exact .inr ⟨before, (Option.some.inj found).symm⟩

theorem firstIn_mem {rows : List α} {chosen : α}
    (found : firstIn precedes rows = some chosen) : chosen ∈ rows := by
  induction rows generalizing chosen with
  | nil => cases found
  | cons row rows induction =>
      rcases firstIn_cons_eq_some found with
        ⟨-, rfl⟩ | ⟨best, rest, ⟨-, rfl⟩ | ⟨-, rfl⟩⟩
      · exact List.mem_cons_self
      · exact List.mem_cons_of_mem row (induction rest)
      · exact List.mem_cons_self

theorem firstIn_eq_none {rows : List α} :
    firstIn precedes rows = none ↔ rows = [] := by
  cases rows with
  | nil => simp [firstIn]
  | cons row rows =>
      rw [firstIn]
      cases firstIn precedes rows with
      | none => simp
      | some best =>
          by_cases before : precedes best row
          · simp [before]
          · simp [before]

theorem exists_firstIn {rows : List α} {row : α} (member : row ∈ rows) :
    ∃ chosen, firstIn precedes rows = some chosen := by
  cases found : firstIn precedes rows with
  | some chosen => exact ⟨chosen, rfl⟩
  | none =>
      rw [firstIn_eq_none.mp found] at member
      cases member

/-- Nothing precedes the first row of rows in a total order. -/
theorem not_precedes_firstIn
    (trans : ∀ first second third, precedes first second →
      precedes second third → precedes first third)
    (irrefl : ∀ row, ¬precedes row row) {rows : List α}
    (total : ∀ first ∈ rows, ∀ second ∈ rows, first ≠ second →
      precedes first second ∨ precedes second first)
    {chosen : α} (found : firstIn precedes rows = some chosen)
    {other : α} (member : other ∈ rows) : ¬precedes other chosen := by
  induction rows generalizing chosen other with
  | nil => cases member
  | cons row rows induction =>
      have rule : ∀ {best : α}, firstIn precedes rows = some best →
          ∀ {other : α}, other ∈ rows → ¬precedes other best :=
        induction fun first left second right =>
          total first (List.mem_cons_of_mem row left) second
            (List.mem_cons_of_mem row right)
      rcases firstIn_cons_eq_some found with
        ⟨rest, rfl⟩ | ⟨best, rest, ⟨before, rfl⟩ | ⟨late, rfl⟩⟩
      · rw [firstIn_eq_none.mp rest, List.mem_singleton] at member
        rw [member]
        exact irrefl chosen
      · rcases List.mem_cons.mp member with rfl | later
        · exact fun after => irrefl _ (trans _ _ _ before after)
        · exact rule rest later
      · rcases List.mem_cons.mp member with rfl | later
        · exact irrefl other
        · intro earlier
          by_cases same : chosen = best
          · subst same
            exact rule rest later earlier
          · rcases total chosen List.mem_cons_self best
              (List.mem_cons_of_mem chosen (firstIn_mem rest)) same with
              first | second
            · exact rule rest later (trans _ _ _ earlier first)
            · exact late second

end First

section Spending

variable {σ : Type u}

/-- As many are spent as the balance says, each takes one off it, and no more. -/
def SpendsExactly (total : σ → ℤ) (spend : σ → Option σ) : ℕ → σ → Prop
  | 0, state => total state = 0 ∧ spend state = none
  | count + 1, state => total state = count + 1 ∧
      ∃ after, spend state = some after ∧ SpendsExactly total spend count after

/-- The balance is what can be spent. -/
def SpendsAll (total : σ → ℤ) (spend : σ → Option σ) (state : σ) : Prop :=
  ∀ count : ℕ, total state = count → SpendsExactly total spend count state

variable {total : σ → ℤ} {spend : σ → Option σ}

section Rule

variable (reached : σ → Prop) (nonneg : ∀ state, 0 ≤ total state)
  (lowers : ∀ state after, spend state = some after →
    total after = total state - 1)
  (keeps : ∀ state after, spend state = some after →
    (reached after ↔ reached state))
  (found : ∀ state, reached state → spend state = none → total state = 0)
  (hidden : ∀ state, ¬reached state → 0 < total state)

include nonneg lowers keeps found hidden

theorem spendsExactly_iff : ∀ (count : ℕ) (state : σ), total state = count →
    (SpendsExactly total spend count state ↔ reached state) := by
  intro count
  induction count with
  | zero =>
      intro state nothing
      constructor
      · intro exactly
        by_contra unreached
        have some := hidden state unreached
        omega
      · intro holds
        refine ⟨nothing, ?_⟩
        cases spent : spend state with
        | none => rfl
        | some after =>
            have lowered := lowers state after spent
            have rest := nonneg after
            omega
  | succ count induction =>
      intro state some
      constructor
      · rintro ⟨-, after, spent, rest⟩
        have lowered := lowers state after spent
        exact (keeps state after spent).mp
          ((induction after (by omega)).mp rest)
      · intro holds
        refine ⟨by omega, ?_⟩
        cases spent : spend state with
        | none =>
            have nothing := found state holds spent
            omega
        | some after =>
            have lowered := lowers state after spent
            refine ⟨after, rfl, (induction after (by omega)).mpr ?_⟩
            exact (keeps state after spent).mpr holds

/-- A balance can be spent exactly when whatever it counts is reached. -/
theorem spendsAll_iff (state : σ) :
    SpendsAll total spend state ↔ reached state := by
  have exactly := spendsExactly_iff reached nonneg lowers keeps found hidden
  have natural : total state = (total state).toNat :=
    (Int.toNat_of_nonneg (nonneg state)).symm
  constructor
  · exact fun spends => (exactly _ state natural).mp (spends _ natural)
  · exact fun holds count same => (exactly count state same).mpr holds

end Rule

end Spending

end Library
