import Mathlib.Algebra.BigOperators.Group.List.Basic
import Mathlib.Data.List.Induction
import Mathlib.Data.List.Nodup

/-!
# Totals by key

A dictionary of totals is a list of keys with their totals, in the order the keys
came first.  The addition is a parameter, as it may round.
-/

namespace Library

variable {α : Type*} (add : α → α → α) (zero : α)

/-- Adds a value to the total of a key; a new key starts from zero. -/
def accumulate (key : ℕ) (value : α) : List (ℕ × α) → List (ℕ × α)
  | [] => [(key, add zero value)]
  | row :: rows =>
      if row.1 = key then (key, add row.2 value) :: rows
      else row :: accumulate key value rows

/-- The totals of all entries. -/
def totals (entries : List (ℕ × α)) : List (ℕ × α) :=
  entries.foldl (fun rows entry => accumulate add zero entry.1 entry.2 rows) []

variable {add zero}

theorem mem_keys_accumulate {key other : ℕ} {value : α} {rows : List (ℕ × α)} :
    other ∈ (accumulate add zero key value rows).map Prod.fst ↔
      other = key ∨ other ∈ rows.map Prod.fst := by
  induction rows with
  | nil => simp [accumulate]
  | cons row rows induction =>
      unfold accumulate
      split
      · rename_i same
        simp [same]
      · rw [List.map_cons, List.mem_cons, List.map_cons, List.mem_cons, induction]
        tauto

theorem nodup_keys_accumulate {key : ℕ} {value : α} {rows : List (ℕ × α)}
    (nodup : (rows.map Prod.fst).Nodup) :
    ((accumulate add zero key value rows).map Prod.fst).Nodup := by
  induction rows with
  | nil => simp [accumulate]
  | cons row rows induction =>
      rw [List.map_cons, List.nodup_cons] at nodup
      unfold accumulate
      split
      · rename_i same
        rw [List.map_cons, List.nodup_cons]
        exact ⟨same ▸ nodup.1, nodup.2⟩
      · rename_i different
        rw [List.map_cons, List.nodup_cons, mem_keys_accumulate]
        exact ⟨by tauto, induction nodup.2⟩

theorem forall_accumulate {holds : α → Prop} {key : ℕ} {value : α}
    {rows : List (ℕ × α)} (start : holds (add zero value))
    (kept : ∀ total, holds total → holds (add total value))
    (all : ∀ row ∈ rows, holds row.2) :
    ∀ row ∈ accumulate add zero key value rows, holds row.2 := by
  induction rows with
  | nil =>
      intro row listed
      rw [accumulate, List.mem_singleton] at listed
      exact listed ▸ start
  | cons first rest induction =>
      rw [List.forall_mem_cons] at all
      unfold accumulate
      split
      · rw [List.forall_mem_cons]
        exact ⟨kept _ all.1, all.2⟩
      · rw [List.forall_mem_cons]
        exact ⟨all.1, induction all.2⟩

theorem mem_accumulate {key : ℕ} {value : α} {rows : List (ℕ × α)}
    (nodup : (rows.map Prod.fst).Nodup) {row : ℕ × α}
    (listed : row ∈ accumulate add zero key value rows) :
    row.1 = key ∧ (key ∉ rows.map Prod.fst ∧ row.2 = add zero value ∨
        ∃ total, (key, total) ∈ rows ∧ row.2 = add total value) ∨
      row.1 ≠ key ∧ row ∈ rows := by
  induction rows with
  | nil =>
      rw [accumulate, List.mem_singleton] at listed
      subst listed
      exact .inl ⟨rfl, .inl ⟨by simp, rfl⟩⟩
  | cons first rest induction =>
      rw [List.map_cons, List.nodup_cons] at nodup
      unfold accumulate at listed
      split at listed
      · rename_i same
        rcases List.mem_cons.mp listed with rfl | later
        · refine .inl ⟨rfl, .inr ⟨first.2, ?_, rfl⟩⟩
          rw [← same]
          exact List.mem_cons_self
        · refine .inr ⟨?_, List.mem_cons_of_mem _ later⟩
          intro again
          exact nodup.1 (same.trans again.symm ▸ List.mem_map_of_mem later)
      · rename_i different
        rcases List.mem_cons.mp listed with rfl | later
        · exact .inr ⟨different, List.mem_cons_self⟩
        · rcases induction nodup.2 later with
            ⟨same, ⟨absent, fresh⟩ | ⟨total, found, added⟩⟩ | ⟨other, found⟩
          · refine .inl ⟨same, .inl ⟨?_, fresh⟩⟩
            rw [List.map_cons, List.mem_cons, not_or]
            exact ⟨Ne.symm different, absent⟩
          · exact .inl ⟨same,
              .inr ⟨total, List.mem_cons_of_mem _ found, added⟩⟩
          · exact .inr ⟨other, List.mem_cons_of_mem _ found⟩

private theorem foldl_keys {entries rows : List (ℕ × α)}
    (nodup : (rows.map Prod.fst).Nodup) :
    ((entries.foldl (fun rows entry =>
        accumulate add zero entry.1 entry.2 rows) rows).map Prod.fst).Nodup ∧
      ∀ key, (key ∈ entries.map Prod.fst ∨ key ∈ rows.map Prod.fst) →
        key ∈ (entries.foldl (fun rows entry =>
          accumulate add zero entry.1 entry.2 rows) rows).map Prod.fst := by
  induction entries generalizing rows with
  | nil => exact ⟨nodup, by simp⟩
  | cons entry entries induction =>
      obtain ⟨distinct, covers⟩ := induction
        (nodup_keys_accumulate nodup)
      refine ⟨distinct, ?_⟩
      intro key listed
      apply covers
      rw [mem_keys_accumulate]
      rw [List.map_cons, List.mem_cons] at listed
      tauto

/-- Every key has one total. -/
theorem nodup_keys_totals (entries : List (ℕ × α)) :
    ((totals add zero entries).map Prod.fst).Nodup := by
  have none : (([] : List (ℕ × α)).map Prod.fst).Nodup := List.nodup_nil
  exact (foldl_keys none).1

theorem mem_keys_totals {entries : List (ℕ × α)} {entry : ℕ × α}
    (listed : entry ∈ entries) :
    entry.1 ∈ (totals add zero entries).map Prod.fst := by
  have none : (([] : List (ℕ × α)).map Prod.fst).Nodup := List.nodup_nil
  exact (foldl_keys none).2 _ (.inl (List.mem_map_of_mem listed))

/-- The total of a key adds up its values, in their order. -/
theorem mem_totals {entries : List (ℕ × α)} {row : ℕ × α}
    (listed : row ∈ totals add zero entries) :
    row.2 = ((entries.filter fun entry => entry.1 = row.1).map
      Prod.snd).foldl add zero := by
  induction entries using List.reverseRecOn generalizing row with
  | nil => cases listed
  | append_singleton entries entry induction =>
      rw [totals, List.foldl_append] at listed
      rw [List.filter_append, List.map_append, List.foldl_append]
      rcases mem_accumulate (nodup_keys_totals entries) listed with
        ⟨same, ⟨absent, fresh⟩ | ⟨total, found, added⟩⟩ | ⟨other, found⟩
      · have none : entries.filter (fun other => other.1 = row.1) = [] := by
          rw [List.filter_eq_nil_iff]
          intro other present key
          rw [same] at key
          exact absent (of_decide_eq_true key ▸ mem_keys_totals present)
        rw [none, fresh]
        simp [same]
      · have before := induction found
        dsimp only at before
        rw [same, added, before]
        simp
      · rw [induction found]
        simp [Ne.symm other]

variable {β κ M : Type*} [DecidableEq κ] [AddCommMonoid M]

private theorem sum_at_key {keys : List κ} (nodup : keys.Nodup) {key : κ}
    (listed : key ∈ keys) (value : M) :
    (keys.map fun other => if key = other then value else 0).sum = value := by
  induction keys with
  | nil => cases listed
  | cons head tail induction =>
      rw [List.nodup_cons] at nodup
      rw [List.map_cons, List.sum_cons]
      by_cases same : key = head
      · have rest : (tail.map fun other => if key = other then value else 0).sum =
            0 := by
          apply List.sum_eq_zero
          intro part member
          obtain ⟨other, present, rfl⟩ := List.mem_map.mp member
          rw [if_neg]
          rintro rfl
          exact nodup.1 (same ▸ present)
        rw [if_pos same, rest, add_zero]
      · rw [if_neg same, zero_add]
        exact induction nodup.2 ((List.mem_cons.mp listed).resolve_left same)

/-- Summing by keys that are all listed once is summing. -/
theorem sum_by_keys {keys : List κ} (nodup : keys.Nodup) {entries : List β}
    (keyOf : β → κ) (covers : ∀ entry ∈ entries, keyOf entry ∈ keys)
    (measure : β → M) :
    (keys.map fun key => (entries.map fun entry =>
        if keyOf entry = key then measure entry else 0).sum).sum =
      (entries.map measure).sum := by
  induction entries with
  | nil => simp
  | cons entry entries induction =>
      rw [List.forall_mem_cons] at covers
      simp only [List.map_cons, List.sum_cons]
      rw [List.sum_map_add, induction covers.2, sum_at_key nodup covers.1]

end Library
