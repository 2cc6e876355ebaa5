import Mathlib.Algebra.BigOperators.Group.List.Basic
import Mathlib.Algebra.Group.Basic
import Mathlib.Algebra.Order.BigOperators.Group.List
import Mathlib.Algebra.Order.Group.Unbundled.Basic
import Mathlib.Data.List.Nodup

/-!
# Tables with generated keys

A table holds its rows in ascending key order and gives every inserted row a
key above all earlier ones.  The two proof fields make a duplicate or reused
key impossible to write down.  Sums over all rows are the measure most
invariants are about; each operation has one lemma saying what it does to a
lookup and one saying what it does to a sum.
-/

namespace Library

universe u v w

structure Table (α : Type u) where
  rows : List (ℕ × α)
  next : ℕ
  ascending : (rows.map Prod.fst).Pairwise (· < ·)
  fresh : ∀ row ∈ rows, row.1 < next
  deriving DecidableEq

namespace Table

variable {α : Type u} {β : Type v} {M : Type w}

@[ext] theorem ext {left right : Table α} (rows : left.rows = right.rows)
    (next : left.next = right.next) : left = right := by
  cases left
  cases right
  simp_all

def empty : Table α where
  rows := []
  next := 0
  ascending := .nil
  fresh := by simp

/-- The row stored under a key. -/
def get? (table : Table α) (key : ℕ) : Option α :=
  (table.rows.find? fun row => row.1 = key).map Prod.snd

/-- Adds a row under the next key. -/
def insert (table : Table α) (value : α) : Table α where
  rows := table.rows ++ [(table.next, value)]
  next := table.next + 1
  ascending := by
    rw [List.map_append, List.pairwise_append]
    refine ⟨table.ascending, by simp, ?_⟩
    intro key stored added
    obtain ⟨row, member, rfl⟩ := List.mem_map.mp stored
    simpa using fun same => same ▸ table.fresh row member
  fresh := by
    intro row member
    rcases List.mem_append.mp member with old | new
    · exact Nat.lt_succ_of_lt (table.fresh row old)
    · simp only [List.mem_singleton] at new
      subst new
      exact Nat.lt_succ_self _

/-- Rewrites every row in place. -/
def map (table : Table α) (change : ℕ → α → β) : Table β where
  rows := table.rows.map fun row => (row.1, change row.1 row.2)
  next := table.next
  ascending := by
    simpa [List.map_map, Function.comp_def] using table.ascending
  fresh := by
    intro row member
    obtain ⟨old, stored, rfl⟩ := List.mem_map.mp member
    exact table.fresh old stored

/-- Rewrites the row under one key, if there is one. -/
def modify (table : Table α) (key : ℕ) (change : α → α) : Table α :=
  table.map fun other value => if other = key then change value else value

/-- Keeps the rows that satisfy a test. -/
def filter (table : Table α) (keep : ℕ → α → Bool) : Table α where
  rows := table.rows.filter fun row => keep row.1 row.2
  next := table.next
  ascending := table.ascending.sublist (List.filter_sublist.map _)
  fresh row member := table.fresh row (List.mem_of_mem_filter member)

/-- Removes the row under one key. -/
def erase (table : Table α) (key : ℕ) : Table α :=
  table.filter fun other _ => other ≠ key

/-- The sum of a measure over all rows. -/
def total [AddMonoid M] (table : Table α) (measure : ℕ → α → M) : M :=
  (table.rows.map fun row => measure row.1 row.2).sum

theorem keys_nodup (table : Table α) : (table.rows.map Prod.fst).Nodup :=
  table.ascending.imp fun less => Nat.ne_of_lt less

theorem get?_eq_some {table : Table α} {key : ℕ} {value : α} :
    table.get? key = some value ↔ (key, value) ∈ table.rows := by
  constructor
  · intro found
    obtain ⟨row, located, rfl⟩ := Option.map_eq_some_iff.mp found
    have keyed : row.1 = key := by simpa using List.find?_some located
    subst keyed
    exact List.mem_of_find?_eq_some located
  · intro member
    obtain ⟨row, located⟩ :
        ∃ row, (table.rows.find? fun row => row.1 = key) = some row := by
      rw [← Option.isSome_iff_exists, List.find?_isSome]
      exact ⟨(key, value), member, by simp⟩
    have keyed : row.1 = key := by simpa using List.find?_some located
    have same : row = (key, value) :=
      List.inj_on_of_nodup_map table.keys_nodup
        (List.mem_of_find?_eq_some located) member keyed
    simp [get?, located, same]

theorem forall_get? {table : Table α} {holds : ℕ → α → Prop} :
    (∀ key value, table.get? key = some value → holds key value) ↔
      ∀ row ∈ table.rows, holds row.1 row.2 :=
  ⟨fun all row member => all row.1 row.2 (get?_eq_some.mpr member),
    fun all key value found => all (key, value) (get?_eq_some.mp found)⟩

instance {table : Table α} {holds : ℕ → α → Prop}
    [∀ key value, Decidable (holds key value)] :
    Decidable (∀ key value, table.get? key = some value → holds key value) :=
  decidable_of_iff _ forall_get?.symm

theorem get?_lt {table : Table α} {key : ℕ} {value : α}
    (found : table.get? key = some value) : key < table.next :=
  table.fresh _ (get?_eq_some.mp found)

theorem get?_of_le {table : Table α} {key : ℕ} (unused : table.next ≤ key) :
    table.get? key = none := by
  rw [Option.eq_none_iff_forall_ne_some]
  intro value found
  have used := get?_lt found
  omega

@[simp] theorem get?_next (table : Table α) : table.get? table.next = none :=
  get?_of_le (Nat.le_refl _)

theorem get?_insert (table : Table α) (value : α) (key : ℕ) :
    (table.insert value).get? key =
      if key = table.next then some value else table.get? key := by
  apply Option.ext
  intro found
  rw [get?_eq_some]
  split
  · rename_i same
    subst same
    constructor
    · intro member
      rcases List.mem_append.mp member with old | new
      · exact absurd (table.fresh _ old) (Nat.lt_irrefl _)
      · simpa [eq_comm] using new
    · intro same
      simp only [Option.some.injEq] at same
      simp [insert, same]
  · rename_i other
    rw [get?_eq_some]
    simp [insert, other]

theorem get?_insert_cases {table : Table α} {value stored : α} {key : ℕ}
    (found : (table.insert value).get? key = some stored) :
    key = table.next ∧ value = stored ∨ table.get? key = some stored := by
  rw [get?_insert] at found
  split at found
  · exact .inl ⟨‹_›, Option.some.inj found⟩
  · exact .inr found

@[simp] theorem get?_insert_next (table : Table α) (value : α) :
    (table.insert value).get? table.next = some value := by
  simp [get?_insert]

theorem get?_insert_of_some {table : Table α} {key : ℕ} {stored : α}
    (found : table.get? key = some stored) (value : α) :
    (table.insert value).get? key = some stored := by
  have used := get?_lt found
  rw [get?_insert, if_neg (Nat.ne_of_lt used), found]

theorem get?_insert_iff {table : Table α} {value stored : α} {key : ℕ}
    (different : value ≠ stored) :
    (table.insert value).get? key = some stored ↔
      table.get? key = some stored := by
  constructor
  · intro found
    exact (get?_insert_cases found).resolve_left fun new => different new.2
  · exact fun found => get?_insert_of_some found value

@[simp] theorem insert_next (table : Table α) (value : α) :
    (table.insert value).next = table.next + 1 := rfl

@[simp] theorem map_next (table : Table α) (change : ℕ → α → β) :
    (table.map change).next = table.next := rfl

@[simp] theorem modify_next (table : Table α) (key : ℕ) (change : α → α) :
    (table.modify key change).next = table.next := rfl

@[simp] theorem filter_next (table : Table α) (keep : ℕ → α → Bool) :
    (table.filter keep).next = table.next := rfl

@[simp] theorem erase_next (table : Table α) (key : ℕ) :
    (table.erase key).next = table.next := rfl

@[simp] theorem get?_map (table : Table α) (change : ℕ → α → β) (key : ℕ) :
    (table.map change).get? key = (table.get? key).map (change key) := by
  apply Option.ext
  intro found
  rw [get?_eq_some, Option.map_eq_some_iff]
  constructor
  · intro member
    obtain ⟨row, stored, same⟩ := List.mem_map.mp member
    obtain ⟨rfl, rfl⟩ := Prod.mk.inj same
    exact ⟨row.2, get?_eq_some.mpr stored, rfl⟩
  · rintro ⟨value, stored, rfl⟩
    exact List.mem_map.mpr ⟨(key, value), get?_eq_some.mp stored, rfl⟩

theorem get?_modify (table : Table α) (key : ℕ) (change : α → α) (other : ℕ) :
    (table.modify key change).get? other =
      if other = key then (table.get? key).map change else table.get? other := by
  unfold modify
  rw [get?_map]
  split
  · rename_i same
    subst same
    simp
  · rename_i different
    simp

theorem get?_modify_cases {table : Table α} {key other : ℕ} {change : α → α}
    {stored : α} (found : (table.modify key change).get? other = some stored) :
    (other = key ∧ ∃ earlier, table.get? other = some earlier ∧
        change earlier = stored) ∨ table.get? other = some stored := by
  rw [get?_modify] at found
  split at found
  · rename_i same
    exact .inl ⟨same, Option.map_eq_some_iff.mp (same ▸ found)⟩
  · exact .inr found

theorem get?_modify_of_some {table : Table α} {key other : ℕ} {change : α → α}
    {row stored : α} (held : table.get? key = some row)
    (found : (table.modify key change).get? other = some stored) :
    other = key ∧ change row = stored ∨ table.get? other = some stored := by
  rcases get?_modify_cases found with ⟨rfl, earlier, there, same⟩ | found
  · obtain rfl := Option.some.inj (held.symm.trans there)
    exact .inl ⟨rfl, same⟩
  · exact .inr found

@[simp] theorem get?_modify_self (table : Table α) (key : ℕ) (change : α → α) :
    (table.modify key change).get? key = (table.get? key).map change := by
  simp [get?_modify]

theorem get?_modify_of_ne (table : Table α) {key other : ℕ}
    (different : other ≠ key) (change : α → α) :
    (table.modify key change).get? other = table.get? other := by
  simp [get?_modify, different]

/-- A rewrite changes nothing about a condition on all rows that the old row and
the new one meet. -/
theorem forall_get?_modify {table : Table α} {key : ℕ} {value : α}
    (found : table.get? key = some value) (change : α → α)
    (holds : ℕ → α → Prop) (before : holds key value)
    (changed : holds key (change value)) :
    (∀ other stored, (table.modify key change).get? other = some stored →
        holds other stored) ↔
      ∀ other stored, table.get? other = some stored → holds other stored := by
  constructor
  · intro all other stored present
    by_cases same : other = key
    · subst same
      rw [found] at present
      exact Option.some.inj present ▸ before
    · exact all other stored
        ((get?_modify_of_ne table same change).trans present)
  · intro all other stored present
    by_cases same : other = key
    · subst same
      rw [get?_modify_self, found] at present
      exact Option.some.inj present ▸ changed
    · exact all other stored
        ((get?_modify_of_ne table same change).symm.trans present)

/-- Two rewrites of one row are one. -/
theorem modify_modify (table : Table α) (key : ℕ) (first second : α → α) :
    (table.modify key first).modify key second =
      table.modify key fun value => second (first value) := by
  apply Table.ext
  · simp only [modify, map, List.map_map]
    apply List.map_congr_left
    intro row _
    by_cases same : row.1 = key
    · simp [same]
    · simp [same]
  · rfl

theorem modify_eq_self (table : Table α) (key : ℕ) {change : α → α}
    (keeps : ∀ value, change value = value) : table.modify key change = table := by
  apply Table.ext
  · simp [modify, map, keeps]
  · rfl

/-- Rewriting a row as it is stored changes nothing. -/
theorem modify_stored {table : Table α} {key : ℕ} {value : α}
    (stored : table.get? key = some value) :
    (table.modify key fun _ => value) = table := by
  apply Table.ext
  · simp only [modify, map]
    calc
      _ = table.rows.map id := by
        apply List.map_congr_left
        rintro ⟨other, found⟩ member
        by_cases same : other = key
        · subst same
          have kept : table.get? other = some found := get?_eq_some.mpr member
          rw [stored] at kept
          simp [Option.some.inj kept]
        · simp [same]
      _ = table.rows := List.map_id _
  · rfl

@[simp] theorem get?_filter (table : Table α) (keep : ℕ → α → Bool) (key : ℕ) :
    (table.filter keep).get? key = (table.get? key).filter (keep key) := by
  apply Option.ext
  intro found
  rw [get?_eq_some, Option.filter_eq_some_iff, get?_eq_some]
  simp [filter, List.mem_filter]

theorem get?_erase (table : Table α) (key other : ℕ) :
    (table.erase key).get? other =
      if other = key then none else table.get? other := by
  unfold erase
  rw [get?_filter]
  by_cases same : other = key
  · subst same
    cases table.get? other <;> simp
  · cases table.get? other <;> simp [same]

theorem get?_erase_eq_some {table : Table α} {key other : ℕ} {stored : α} :
    (table.erase key).get? other = some stored ↔
      other ≠ key ∧ table.get? other = some stored := by
  rw [get?_erase]
  split <;> simp [*]

/-- Tables with the same lookups have the same rows. -/
theorem rows_eq_of_get? {left right : Table α}
    (same : ∀ key, left.get? key = right.get? key) : left.rows = right.rows := by
  have members : ∀ row, row ∈ left.rows ↔ row ∈ right.rows := by
    intro row
    rw [← get?_eq_some, ← get?_eq_some, same]
  have permutation : left.rows.Perm right.rows :=
    (List.perm_ext_iff_of_nodup left.keys_nodup.of_map
      right.keys_nodup.of_map).mpr members
  refine List.Perm.eq_of_pairwise ?_ (List.pairwise_map.mp left.ascending)
    (List.pairwise_map.mp right.ascending) permutation
  intro first second _ _ less greater
  exact absurd greater (Nat.lt_asymm less)

/-- Nothing is erased under a key without a row. -/
theorem erase_eq_self {table : Table α} {key : ℕ}
    (absent : table.get? key = none) : table.erase key = table := by
  apply Table.ext
  · apply rows_eq_of_get?
    intro other
    rw [get?_erase]
    split
    · rename_i here
      rw [here, absent]
    · rfl
  · rfl

/-- Nothing is rewritten under a key without a row. -/
theorem modify_eq_of_none {table : Table α} {key : ℕ}
    (absent : table.get? key = none) (change : α → α) :
    table.modify key change = table := by
  apply Table.ext
  · apply rows_eq_of_get?
    intro other
    rw [get?_modify]
    split
    · rename_i here
      rw [here, absent]
      rfl
    · rfl
  · rfl

section Sums

variable [AddCommGroup M]

@[simp] theorem total_empty (measure : ℕ → α → M) :
    (empty : Table α).total measure = 0 := rfl

@[simp] theorem total_insert (table : Table α) (value : α)
    (measure : ℕ → α → M) :
    (table.insert value).total measure =
      table.total measure + measure table.next value := by
  simp [total, insert]

@[simp] theorem total_map (table : Table α) (change : ℕ → α → β)
    (measure : ℕ → β → M) :
    (table.map change).total measure =
      table.total fun key value => measure key (change key value) := by
  simp [total, map, List.map_map, Function.comp_def]

theorem total_congr {table : Table α} {left right : ℕ → α → M}
    (agree : ∀ key value, table.get? key = some value →
      left key value = right key value) :
    table.total left = table.total right := by
  unfold total
  congr 1
  apply List.map_congr_left
  intro row member
  exact agree row.1 row.2 (get?_eq_some.mpr member)

theorem total_eq_zero {table : Table α} {measure : ℕ → α → M}
    (vanish : ∀ key value, table.get? key = some value →
      measure key value = 0) :
    table.total measure = 0 := by
  have blank : table.total measure = table.total fun _ _ => (0 : M) :=
    total_congr vanish
  rw [blank]
  simp [total]

theorem total_add (table : Table α) (left right : ℕ → α → M) :
    table.total (fun key value => left key value + right key value) =
      table.total left + table.total right := by
  simp [total, List.sum_map_add]

theorem total_neg (table : Table α) (measure : ℕ → α → M) :
    table.total (fun key value => -measure key value) =
      -table.total measure := by
  unfold total
  induction table.rows with
  | nil => simp
  | cons row rows induction =>
      simp only [List.map_cons, List.sum_cons, induction]
      rw [neg_add]

theorem total_sub (table : Table α) (left right : ℕ → α → M) :
    table.total (fun key value => left key value - right key value) =
      table.total left - table.total right := by
  simp only [sub_eq_add_neg]
  rw [total_add, total_neg]

private theorem sum_filter (rows : List (ℕ × α)) (keep : ℕ → α → Bool)
    (measure : ℕ → α → M) :
    ((rows.filter fun row => keep row.1 row.2).map
        fun row => measure row.1 row.2).sum =
      (rows.map fun row =>
        if keep row.1 row.2 then measure row.1 row.2 else 0).sum := by
  induction rows with
  | nil => rfl
  | cons row rows induction =>
      by_cases kept : keep row.1 row.2 = true
      · simp [kept, induction]
      · simp [kept, induction]

theorem total_filter (table : Table α) (keep : ℕ → α → Bool)
    (measure : ℕ → α → M) :
    (table.filter keep).total measure =
      table.total fun key value =>
        if keep key value then measure key value else 0 :=
  sum_filter table.rows keep measure

/-- A sum only depends on the rows a measure does not send to zero. -/
theorem total_eq_of_filter {left right : Table α} {keep : ℕ → α → Bool}
    {measure : ℕ → α → M}
    (same : ∀ key, (left.get? key).filter (keep key) =
      (right.get? key).filter (keep key)) :
    (left.total fun key value => if keep key value then measure key value else 0) =
      right.total fun key value => if keep key value then measure key value else 0 := by
  have rows : (left.filter keep).rows = (right.filter keep).rows := by
    apply rows_eq_of_get?
    intro key
    simpa using same key
  rw [← total_filter, ← total_filter]
  unfold total
  rw [rows]

/-- A sum over the kept rows only depends on what a view shows of them. -/
theorem total_eq_of_view {left right : Table α} {keep : α → Bool}
    {view : α → β} (measure : ℕ → β → M)
    (same : ∀ key, ((left.get? key).filter keep).map view =
      ((right.get? key).filter keep).map view) :
    (left.total fun key value =>
        if keep value then measure key (view value) else 0) =
      right.total fun key value =>
        if keep value then measure key (view value) else 0 := by
  have rows : ((left.filter fun _ value => keep value).map
        fun _ value => view value).rows =
      ((right.filter fun _ value => keep value).map
        fun _ value => view value).rows := by
    apply rows_eq_of_get?
    intro key
    simpa using same key
  have sums : ∀ table : Table α, (table.total fun key value =>
      if keep value then measure key (view value) else 0) =
      ((table.filter fun _ value => keep value).map
        fun _ value => view value).total measure := by
    intro table
    rw [total_map, total_filter]
  rw [sums, sums]
  unfold total
  rw [rows]

private theorem sum_single (rows : List (ℕ × α)) (key : ℕ)
    (nodup : (rows.map Prod.fst).Nodup) (measure : α → M) :
    (rows.map fun row => if row.1 = key then measure row.2 else 0).sum =
      ((rows.find? fun row => row.1 = key).map
        fun row => measure row.2).getD 0 := by
  induction rows with
  | nil => rfl
  | cons row rows induction =>
      rw [List.map_cons, List.nodup_cons] at nodup
      obtain ⟨absent, nodup⟩ := nodup
      by_cases same : row.1 = key
      · have rest : (rows.map fun row =>
            if row.1 = key then measure row.2 else 0).sum = 0 := by
          apply List.sum_eq_zero
          intro value member
          obtain ⟨other, stored, rfl⟩ := List.mem_map.mp member
          rw [if_neg]
          rintro rfl
          exact absent (List.mem_map.mpr ⟨other, stored, same.symm⟩)
        simp [same, rest]
      · simp [same, induction nodup]

/-- A measure that looks at one key only sums to that row's value. -/
theorem total_single (table : Table α) (key : ℕ) (measure : α → M) :
    table.total (fun other value => if other = key then measure value else 0) =
      ((table.get? key).map measure).getD 0 := by
  unfold total get?
  rw [sum_single table.rows key table.keys_nodup, Option.map_map]
  rfl

theorem total_modify {table : Table α} {key : ℕ} {value : α}
    (found : table.get? key = some value) (change : α → α)
    (measure : ℕ → α → M) :
    (table.modify key change).total measure =
      table.total measure + (measure key (change value) - measure key value) := by
  have split : (table.modify key change).total measure =
      table.total fun other stored => measure other stored +
        if other = key then measure key (change stored) - measure key stored
        else 0 := by
    unfold modify
    rw [total_map]
    apply total_congr
    intro other stored _
    by_cases same : other = key
    · subst same
      simp
    · simp [same]
  rw [split, total_add,
    total_single table key fun stored =>
      measure key (change stored) - measure key stored]
  simp [found]

/-- The number of rows that satisfy a test, as a sum. -/
theorem countP_eq_total (table : Table α) (keep : ℕ → α → Bool) :
    ((table.rows.countP fun row => keep row.1 row.2 : ℕ) : ℤ) =
      table.total fun key value => if keep key value then (1 : ℤ) else 0 := by
  unfold total
  induction table.rows with
  | nil => rfl
  | cons row rows induction =>
      rw [List.countP_cons, Int.natCast_add, induction, List.map_cons,
        List.sum_cons, add_comm]
      cases kept : keep row.1 row.2 <;> simp [kept]

theorem total_erase {table : Table α} {key : ℕ} {value : α}
    (found : table.get? key = some value) (measure : ℕ → α → M) :
    (table.erase key).total measure = table.total measure - measure key value := by
  have split : (table.erase key).total measure =
      table.total fun other stored => measure other stored -
        if other = key then measure key stored else 0 := by
    unfold erase
    rw [total_filter]
    apply total_congr
    intro other stored _
    by_cases same : other = key
    · subst same
      simp
    · simp [same]
  rw [split, total_sub, total_single table key (measure key)]
  simp [found]

/-- Two sums may change places. -/
theorem total_comm (left : Table α) (right : Table β)
    (measure : ℕ → α → ℕ → β → M) :
    (left.total fun key value =>
        right.total fun other row => measure key value other row) =
      right.total fun other row =>
        left.total fun key value => measure key value other row := by
  unfold total
  induction left.rows with
  | nil => simp
  | cons row rows induction =>
      simp only [List.map_cons, List.sum_cons, induction]
      rw [← List.sum_map_add]

/-- What respects sums may be taken row by row. -/
theorem map_total {N : Type*} [AddCommGroup N] (change : M →+ N)
    (table : Table α) (measure : ℕ → α → M) :
    change (table.total measure) =
      table.total fun key value => change (measure key value) := by
  unfold total
  rw [map_list_sum, List.map_map]
  rfl

end Sums

section OrderedSums

variable [AddCommMonoid M] [PartialOrder M] [IsOrderedAddMonoid M]

theorem total_nonneg {table : Table α} {measure : ℕ → α → M}
    (nonneg : ∀ key value, table.get? key = some value →
      0 ≤ measure key value) :
    0 ≤ table.total measure := by
  apply List.sum_nonneg
  intro value member
  obtain ⟨row, stored, rfl⟩ := List.mem_map.mp member
  exact nonneg row.1 row.2 (get?_eq_some.mpr stored)

theorem total_le_total {table : Table α} {lower upper : ℕ → α → M}
    (below : ∀ key value, table.get? key = some value →
      lower key value ≤ upper key value) :
    table.total lower ≤ table.total upper := by
  apply List.sum_le_sum
  intro row member
  exact below row.1 row.2 (get?_eq_some.mpr member)

end OrderedSums

/-- Every part of a sum of nothing negative is at most the sum. -/
theorem le_total [AddCommGroup M] [PartialOrder M] [IsOrderedAddMonoid M]
    {table : Table α} {measure : ℕ → α → M}
    (nonneg : ∀ key value, table.get? key = some value →
      0 ≤ measure key value)
    {key : ℕ} {value : α} (found : table.get? key = some value) :
    measure key value ≤ table.total measure := by
  have rest : 0 ≤ (table.erase key).total measure := by
    apply total_nonneg
    intro other stored kept
    exact nonneg other stored (get?_erase_eq_some.mp kept).2
  rw [total_erase found] at rest
  exact sub_nonneg.mp rest

end Table

end Library
