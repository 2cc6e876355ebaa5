import Mousstec.Stock.Disassembly

/-!
# Disassembly trees conserve items and value

Executing an event takes the parent out of stock, divides its cost among the
children and books the scrap revenue.  Where every child was waiting for its
cost, nothing is lost; where a child has been taken apart or already carries a
cost, the item comes back or its cost is overwritten.
-/

namespace Mousstec.Stock

open Library

def inStockCost (item : InventoryItem) : ℤ :=
  if item.status = .inStock then item.cost else 0

def executedScrap (event : DisassemblyEvent) : ℤ :=
  if event.isExecuted then event.totalScrapRevenue else 0

def Workshop.value (workshop : Workshop) : ℤ :=
  (workshop.items.total fun _ item => inStockCost item) +
    workshop.events.total fun _ event => executedScrap event

/-- What the database guarantees of the results: an event names a child once,
and the child exists. -/
structure Integrity (workshop : Workshop) : Prop where
  unique : ∀ left right first second,
    workshop.results.get? left = some first →
    workshop.results.get? right = some second →
    first.event = second.event → first.childItem = second.childItem →
      left = right
  linked : ∀ key result, workshop.results.get? key = some result →
    ∃ child, workshop.items.get? result.childItem = some child

/-- No item is lost and none that was taken apart is back. -/
def KeepsDisassembled (before after : Workshop) : Prop :=
  ∀ key item, before.items.get? key = some item →
    ∃ later, after.items.get? key = some later ∧
      (item.status = .disassembled → later.status = .disassembled)

theorem KeepsDisassembled.trans {first second third : Workshop}
    (left : KeepsDisassembled first second)
    (right : KeepsDisassembled second third) : KeepsDisassembled first third := by
  intro key item stored
  obtain ⟨middle, found, kept⟩ := left key item stored
  obtain ⟨later, last, stays⟩ := right key middle found
  exact ⟨later, last, fun apart => stays (kept apart)⟩

theorem fetch_eq_ok {α : Type} {found : Option α} {row : α}
    {before after : Workshop} :
    fetch found before = .ok row after ↔ found = some row ∧ before = after := by
  cases found with
  | none => simp [fetch]
  | some value => simp [fetch]

/-- Items and events as they were, up to new items without a cost and new
drafts. -/
structure Drafted (before after : Workshop) : Prop where
  items : ∀ key item, before.items.get? key = some item →
    after.items.get? key = some item
  value : after.value = before.value
  integrity : Integrity before → Integrity after

theorem Drafted.refl (workshop : Workshop) : Drafted workshop workshop :=
  ⟨fun _ _ stored => stored, rfl, id⟩

theorem Drafted.trans {first second third : Workshop}
    (left : Drafted first second) (right : Drafted second third) :
    Drafted first third where
  items key item stored := right.items key item (left.items key item stored)
  value := right.value.trans left.value
  integrity sound := right.integrity (left.integrity sound)

theorem Drafted.keeps {before after : Workshop}
    (drafted : Drafted before after) : KeepsDisassembled before after :=
  fun key item stored => ⟨item, drafted.items key item stored, id⟩

theorem childOf_returns {parent : InventoryItem} {spec : ChildSpec}
    {child : ℕ} {before after : Workshop}
    (returned : childOf parent spec before = .ok child after) :
    Drafted before after ∧ after.results = before.results ∧
      ∃ item, after.items.get? child = some item := by
  rw [childOf, Txn.get_bind] at returned
  cases named : spec.childItem with
  | some existing =>
      simp only [named, Txn.bind_eq_ok, fetch_eq_ok, Txn.pure_eq_ok] at returned
      obtain ⟨item, _, ⟨stored, rfl⟩, rfl, rfl⟩ := returned
      exact ⟨.refl _, rfl, item, stored⟩
  | none =>
      simp only [named, Txn.bind_eq_ok, Txn.require_eq_ok, Txn.set_eq_ok,
        Txn.pure_eq_ok] at returned
      obtain ⟨_, _, ⟨_, rfl⟩, _, _, rfl, rfl, rfl⟩ := returned
      have items : ∀ key item, before.items.get? key = some item → ∀ new,
          (before.items.insert new).get? key = some item :=
        fun key item stored new => Table.get?_insert_of_some stored new
      refine ⟨⟨fun key item stored => items key item stored _, ?_, ?_⟩, rfl, _,
        Table.get?_insert_next _ _⟩
      · simp [Workshop.value, inStockCost]
      · intro sound
        refine ⟨sound.unique, ?_⟩
        intro key result stored
        obtain ⟨item, found⟩ := sound.linked key result stored
        exact ⟨item, items _ item found _⟩

theorem planChild_returns {event : ℕ} {parent : InventoryItem}
    {spec : ChildSpec} {before after : Workshop} {result : PUnit}
    (returned : planChild event parent spec before = .ok result after) :
    Drafted before after := by
  simp only [planChild, Txn.bind_eq_ok, Txn.get_eq_ok, Txn.require_eq_ok,
    Txn.set_eq_ok] at returned
  obtain ⟨child, middle, named, _, _, ⟨rfl, rfl⟩, _, _, ⟨fresh, rfl⟩, rfl⟩ :=
    returned
  obtain ⟨drafted, _, item, stored⟩ := childOf_returns named
  refine drafted.trans ⟨fun _ _ stored => stored, rfl, ?_⟩
  intro sound
  constructor
  · intro left right first second foundFirst foundSecond sameEvent sameChild
    rw [Table.get?_insert] at foundFirst foundSecond
    split at foundFirst
    · rename_i newLeft
      split at foundSecond
      · rename_i newRight
        exact newLeft.trans newRight.symm
      · rw [Option.some.injEq] at foundFirst
        subst foundFirst
        exact absurd sameChild.symm
          (fresh (right, second) (Table.get?_eq_some.mp foundSecond)
            sameEvent.symm)
    · split at foundSecond
      · rw [Option.some.injEq] at foundSecond
        subst foundSecond
        exact absurd sameChild
          (fresh (left, first) (Table.get?_eq_some.mp foundFirst) sameEvent)
      · exact sound.unique left right first second foundFirst foundSecond
          sameEvent sameChild
  · intro key result found
    rcases Table.get?_insert_cases found with ⟨-, rfl⟩ | found
    · exact ⟨item, stored⟩
    · exact sound.linked key result found

theorem planDisassembly_returns {parentItem event : ℕ}
    {children : List ChildSpec} {scrap : ℚ} {before after : Workshop}
    (returned : planDisassembly parentItem children scrap before =
      .ok event after) :
    Drafted before after := by
  simp only [planDisassembly, Txn.atomic_eq_ok, Txn.bind_eq_ok, Txn.get_eq_ok,
    fetch_eq_ok, Txn.require_eq_ok, Txn.set_eq_ok, Txn.pure_eq_ok] at returned
  obtain ⟨_, _, ⟨rfl, rfl⟩, parent, _, ⟨stored, rfl⟩, _, _, ⟨_, rfl⟩, _, _,
    ⟨_, rfl⟩, _, _, ⟨_, rfl⟩, _, _, ⟨_, rfl⟩, _, _, rfl, _, _, planned, rfl,
    rfl⟩ := returned
  refine Txn.forM_invariant (Drafted before) ?_ ?_ planned
  · intro spec _ first second drafted step
    exact drafted.trans (planChild_returns step)
  · refine ⟨fun _ _ stored => stored, ?_, fun sound => ⟨sound.unique, sound.linked⟩⟩
    simp [Workshop.value, executedScrap]

theorem settleResidual_fst (adjusted : ℤ) (allocations : List Allocation) :
    (settleResidual adjusted allocations).map Prod.fst =
      allocations.map Prod.fst := by
  unfold settleResidual
  dsimp only
  split
  · rfl
  · split
    · rfl
    · rw [List.map_map]
      apply List.map_congr_left
      intro pair _
      simp only [Function.comp_apply]
      split
      · rfl
      · rfl

theorem shares_fst (adjusted totalEst : ℤ)
    (results : List (ℕ × DisassemblyResult)) :
    (shares adjusted totalEst results).map Prod.fst = results := by
  simp [shares, List.map_map, Function.comp_def]

def Allocation.child (pair : Allocation) : ℕ :=
  pair.1.2.childItem

def writeAllocations (workshop : Workshop) (allocations : List Allocation) :
    Workshop :=
  allocations.foldl writeAllocation workshop

theorem writeAllocations_events (workshop : Workshop)
    (allocations : List Allocation) :
    (writeAllocations workshop allocations).events = workshop.events := by
  induction allocations generalizing workshop with
  | nil => rfl
  | cons pair rest induction => exact induction (writeAllocation workshop pair)

/-- Only allocated costs change in the results. -/
theorem writeAllocations_results (workshop : Workshop)
    (allocations : List Allocation) (key : ℕ) :
    ((writeAllocations workshop allocations).results.get? key).map
        (fun result => (result.event, result.childItem)) =
      (workshop.results.get? key).map
        fun result => (result.event, result.childItem) := by
  induction allocations generalizing workshop with
  | nil => rfl
  | cons pair rest induction =>
      refine (induction (writeAllocation workshop pair)).trans ?_
      unfold writeAllocation
      dsimp only
      rw [Table.get?_modify]
      split
      · rename_i same
        subst same
        rw [Option.map_map]
        rfl
      · rfl

theorem writeAllocations_item (workshop : Workshop)
    (allocations : List Allocation) {key : ℕ}
    (other : key ∉ allocations.map Allocation.child) :
    (writeAllocations workshop allocations).items.get? key =
      workshop.items.get? key := by
  induction allocations generalizing workshop with
  | nil => rfl
  | cons pair rest induction =>
      rw [List.map_cons, List.mem_cons, not_or] at other
      refine (induction (writeAllocation workshop pair) other.2).trans ?_
      exact Table.get?_modify_of_ne _ other.1 _

theorem writeAllocations_keeps (workshop : Workshop)
    (allocations : List Allocation) (key : ℕ) :
    ((writeAllocations workshop allocations).items.get? key).isSome =
      (workshop.items.get? key).isSome := by
  induction allocations generalizing workshop with
  | nil => rfl
  | cons pair rest induction =>
      refine (induction (writeAllocation workshop pair)).trans ?_
      unfold writeAllocation
      dsimp only
      rw [Table.get?_modify]
      split
      · rename_i same
        rw [same, Option.isSome_map]
      · rfl

/-- Children that had no cost in stock now carry exactly what was allocated. -/
theorem writeAllocations_total (workshop : Workshop)
    {allocations : List Allocation}
    (distinct : (allocations.map Allocation.child).Nodup)
    (waiting : ∀ pair ∈ allocations, ∃ item,
      workshop.items.get? pair.child = some item ∧ inStockCost item = 0) :
    ((writeAllocations workshop allocations).items.total
        fun _ item => inStockCost item) =
      (workshop.items.total fun _ item => inStockCost item) +
        totalAllocated allocations := by
  induction allocations generalizing workshop with
  | nil => simp [writeAllocations, totalAllocated]
  | cons pair rest induction =>
      rw [List.map_cons, List.nodup_cons] at distinct
      obtain ⟨item, stored, worthless⟩ := waiting pair List.mem_cons_self
      have others : ∀ next ∈ rest, ∃ item,
          (writeAllocation workshop pair).items.get? next.child = some item ∧
            inStockCost item = 0 := by
        intro next member
        obtain ⟨item, stored, worthless⟩ :=
          waiting next (List.mem_cons_of_mem _ member)
        refine ⟨item, ?_, worthless⟩
        have different : next.child ≠ pair.child := fun same =>
          distinct.1 (List.mem_map.mpr ⟨next, member, same⟩)
        rw [← stored]
        exact Table.get?_modify_of_ne _ different _
      have first : ((writeAllocation workshop pair).items.total
          fun _ item => inStockCost item) =
          (workshop.items.total fun _ item => inStockCost item) + pair.2 := by
        refine (Table.total_modify stored (fun child =>
          { child with cost := pair.2, status := .inStock })
          fun _ item => inStockCost item).trans ?_
        rw [worthless, sub_zero]
        rfl
      refine (induction (writeAllocation workshop pair) distinct.2 others).trans ?_
      rw [first, totalAllocated, totalAllocated, List.map_cons, List.sum_cons]
      ring

/-- Every child of an event waits for its cost: it has not been taken apart,
it costs nothing while in stock, and it is not the event's own parent. -/
def Clean (workshop : Workshop) (pk : ℕ) : Prop :=
  ∀ event, workshop.events.get? pk = some event →
    ∀ key result, workshop.results.get? key = some result → result.event = pk →
      result.childItem ≠ event.parentItem ∧
        ∀ child, workshop.items.get? result.childItem = some child →
          child.status ≠ .disassembled ∧
            (child.status = .inStock → child.cost = 0)

structure Executed (pk : ℕ) (event : DisassemblyEvent) (parent : InventoryItem)
    (allocations : List Allocation) (before after : Workshop) : Prop where
  foundEvent : before.events.get? pk = some event
  foundParent : before.items.get? event.parentItem = some parent
  draft : event.isExecuted = false
  inStock : parent.status = .inStock
  results : allocations.map Prod.fst =
    before.results.rows.filter fun row => row.2.event = pk
  balanced : totalAllocated allocations + event.totalScrapRevenue = parent.cost
  items : after.items =
    (writeAllocations before allocations).items.modify event.parentItem
      fun parent => { parent with status := .disassembled }
  events : after.events = before.events.modify pk fun planned =>
    { planned with
      parentCostSnapshot := some parent.cost
      adjustedParentCost := some (parent.cost - event.totalScrapRevenue)
      isExecuted := true }
  allocated : after.results = (writeAllocations before allocations).results

def Workshop.allocationsOf (workshop : Workshop) (pk : ℕ) (adjusted : ℤ) :
    List Allocation :=
  let results := workshop.results.rows.filter fun row => row.2.event = pk
  settleResidual adjusted (shares adjusted (results.map estimate).sum results)

theorem executeDisassembly_settles {pk : ℕ} {report : DisassemblyReport}
    {before after : Workshop}
    (returned : executeDisassembly pk before = .ok report after) :
    ∃ event parent, Executed pk event parent (before.allocationsOf pk
      (parent.cost - event.totalScrapRevenue)) before after := by
  simp only [executeDisassembly, Txn.atomic_eq_ok, Txn.bind_eq_ok,
    Txn.get_eq_ok, fetch_eq_ok, Txn.require_eq_ok, Txn.forM_modify,
    Txn.modify_eq_ok, Txn.pure_eq_ok, EStateM.Result.ok.injEq] at returned
  obtain ⟨_, _, ⟨rfl, rfl⟩, event, _, ⟨found, rfl⟩, parent, _, ⟨stored, rfl⟩,
    _, _, ⟨draft, rfl⟩, _, _, ⟨inStock, rfl⟩, _, _, ⟨_, rfl⟩, _, _, ⟨_, rfl⟩,
    _, _, ⟨_, rfl⟩, _, _, ⟨balanced, rfl⟩, _, _, rfl, _, rfl⟩ := returned
  refine ⟨event, parent, found, stored, draft, inStock, ?_, balanced, rfl,
    ?_, rfl⟩
  · rw [Workshop.allocationsOf, settleResidual_fst, shares_fst]
  · have unchanged : ∀ allocations : List Allocation, (allocations.foldl
        (fun current pair => writeAllocation current pair) before).events =
        before.events := writeAllocations_events before
    dsimp only
    rw [unchanged]

theorem executeDisassembly_returns {pk : ℕ} {report : DisassemblyReport}
    {before after : Workshop}
    (returned : executeDisassembly pk before = .ok report after) :
    ∃ event parent allocations,
      Executed pk event parent allocations before after := by
  obtain ⟨event, parent, executed⟩ := executeDisassembly_settles returned
  exact ⟨event, parent, _, executed⟩

theorem Executed.keys {pk : ℕ} {event : DisassemblyEvent}
    {parent : InventoryItem} {allocations : List Allocation}
    {before after : Workshop}
    (executed : Executed pk event parent allocations before after)
    {pair : Allocation} (member : pair ∈ allocations) :
    before.results.get? pair.1.1 = some pair.1.2 ∧ pair.1.2.event = pk := by
  have listed : pair.1 ∈ allocations.map Prod.fst :=
    List.mem_map_of_mem member
  rw [executed.results, List.mem_filter] at listed
  exact ⟨Table.get?_eq_some.mpr listed.1, by simpa using listed.2⟩

/-- The children of an event are all different. -/
theorem Executed.distinct {pk : ℕ} {event : DisassemblyEvent}
    {parent : InventoryItem} {allocations : List Allocation}
    {before after : Workshop}
    (executed : Executed pk event parent allocations before after)
    (sound : Integrity before) : (allocations.map Allocation.child).Nodup := by
  have rows : (allocations.map Prod.fst).Nodup := by
    rw [executed.results]
    exact (before.results.keys_nodup.of_map).filter _
  have keyed : allocations.map Allocation.child =
      (allocations.map Prod.fst).map fun row => row.2.childItem := by
    rw [List.map_map]
    rfl
  rw [keyed]
  refine List.Nodup.map_on ?_ rows
  intro left leftMember right rightMember same
  obtain ⟨first, firstMember, rfl⟩ := List.mem_map.mp leftMember
  obtain ⟨second, secondMember, rfl⟩ := List.mem_map.mp rightMember
  obtain ⟨firstStored, firstEvent⟩ := executed.keys firstMember
  obtain ⟨secondStored, secondEvent⟩ := executed.keys secondMember
  have key := sound.unique _ _ _ _ firstStored secondStored
    (firstEvent.trans secondEvent.symm) same
  rw [key, secondStored, Option.some.injEq] at firstStored
  exact Prod.ext key firstStored.symm

/-- Executing an event keeps what the database guarantees. -/
theorem Executed.integrity {pk : ℕ} {event : DisassemblyEvent}
    {parent : InventoryItem} {allocations : List Allocation}
    {before after : Workshop}
    (executed : Executed pk event parent allocations before after)
    (sound : Integrity before) : Integrity after := by
  have origin : ∀ key result, after.results.get? key = some result →
      ∃ old, before.results.get? key = some old ∧ old.event = result.event ∧
        old.childItem = result.childItem := by
    intro key result stored
    have same := writeAllocations_results before allocations key
    rw [← executed.allocated, stored, Option.map_some] at same
    obtain ⟨old, found, fields⟩ := Option.map_eq_some_iff.mp same.symm
    obtain ⟨sameEvent, sameChild⟩ := Prod.mk.inj fields
    exact ⟨old, found, sameEvent, sameChild⟩
  constructor
  · intro left right first second foundFirst foundSecond sameEvent sameChild
    obtain ⟨firstOld, firstFound, firstEvent, firstChild⟩ :=
      origin left first foundFirst
    obtain ⟨secondOld, secondFound, secondEvent, secondChild⟩ :=
      origin right second foundSecond
    exact sound.unique left right firstOld secondOld firstFound secondFound
      (firstEvent.trans (sameEvent.trans secondEvent.symm))
      (firstChild.trans (sameChild.trans secondChild.symm))
  · intro key result stored
    obtain ⟨old, found, _, sameChild⟩ := origin key result stored
    obtain ⟨child, present⟩ := sound.linked key old found
    rw [sameChild] at present
    rw [← Option.isSome_iff_exists, executed.items, Table.get?_modify]
    split
    · rename_i same
      rw [Option.isSome_map, writeAllocations_keeps, executed.foundParent]
      rfl
    · rw [writeAllocations_keeps, present]
      rfl

section CleanStep

variable {pk : ℕ} {event : DisassemblyEvent} {parent : InventoryItem}
  {allocations : List Allocation} {before after : Workshop}
  (executed : Executed pk event parent allocations before after)
  (sound : Integrity before) (clean : Clean before pk)

include executed sound clean

private theorem waiting {pair : Allocation} (member : pair ∈ allocations) :
    pair.child ≠ event.parentItem ∧ ∃ item,
      before.items.get? pair.child = some item ∧
        item.status ≠ .disassembled ∧ inStockCost item = 0 := by
  obtain ⟨stored, named⟩ := executed.keys member
  obtain ⟨different, free⟩ :=
    clean event executed.foundEvent pair.1.1 pair.1.2 stored named
  obtain ⟨item, found⟩ := sound.linked pair.1.1 pair.1.2 stored
  obtain ⟨whole, costless⟩ := free item found
  refine ⟨different, item, found, whole, ?_⟩
  unfold inStockCost
  split
  · rename_i inStock
    exact costless inStock
  · rfl

private theorem parent_not_child :
    event.parentItem ∉ allocations.map Allocation.child := by
  intro listed
  obtain ⟨pair, member, same⟩ := List.mem_map.mp listed
  exact (waiting executed sound clean member).1 same

theorem Executed.value : after.value = before.value := by
  have items := writeAllocations_total before (executed.distinct sound)
    fun pair member => by
      obtain ⟨-, item, found, -, costless⟩ :=
        waiting executed sound clean member
      exact ⟨item, found, costless⟩
  have stored : (writeAllocations before allocations).items.get?
      event.parentItem = some parent := by
    rw [writeAllocations_item _ _ (parent_not_child executed sound clean)]
    exact executed.foundParent
  have parentCost : inStockCost parent = parent.cost := if_pos executed.inStock
  have draftScrap : executedScrap event = 0 := by
    simp [executedScrap, executed.draft]
  unfold Workshop.value
  rw [executed.items, executed.events, Table.total_modify stored,
    Table.total_modify executed.foundEvent, items, parentCost, draftScrap]
  have balanced := executed.balanced
  simp only [inStockCost, executedScrap, reduceCtorEq, if_false, if_true]
  linarith

theorem Executed.keeps : KeepsDisassembled before after := by
  intro key item stored
  rw [executed.items, Table.get?_modify]
  by_cases isParent : key = event.parentItem
  · rw [if_pos isParent,
      writeAllocations_item _ _ (parent_not_child executed sound clean),
      executed.foundParent]
    exact ⟨_, rfl, fun _ => rfl⟩
  · rw [if_neg isParent]
    by_cases isChild : key ∈ allocations.map Allocation.child
    · obtain ⟨pair, member, rfl⟩ := List.mem_map.mp isChild
      obtain ⟨-, child, found, whole, -⟩ := waiting executed sound clean member
      rw [stored, Option.some.injEq] at found
      subst found
      have present := writeAllocations_keeps before allocations pair.child
      rw [stored, Option.isSome_some, Option.isSome_iff_exists] at present
      obtain ⟨later, found⟩ := present
      exact ⟨later, found, fun apart => absurd apart whole⟩
    · rw [writeAllocations_item _ _ isChild]
      exact ⟨item, stored, id⟩

end CleanStep

/-- A run of plans and executions, with the cost of the items added meanwhile;
only the executions that are allowed take part. -/
inductive DisassemblyRun (allowed : Workshop → ℕ → Prop) (start : Workshop) :
    Workshop → ℤ → Prop where
  | start : DisassemblyRun allowed start start 0
  | added (run : DisassemblyRun allowed start before gained)
      (item : InventoryItem) :
      DisassemblyRun allowed start
        { before with items := before.items.insert item }
        (gained + inStockCost item)
  | planned (run : DisassemblyRun allowed start before gained)
      (returned : planDisassembly parentItem children scrap before =
        .ok event after) :
      DisassemblyRun allowed start after gained
  | executed (run : DisassemblyRun allowed start before gained)
      (free : allowed before pk)
      (returned : executeDisassembly pk before = .ok report after) :
      DisassemblyRun allowed start after gained

/-- Items taken apart stay so, and value only grows by what was added. -/
def Conserves (allowed : Workshop → ℕ → Prop) (start : Workshop) : Prop :=
  ∀ now gained, DisassemblyRun allowed start now gained →
    now.value = start.value + gained ∧
      ∀ later more, DisassemblyRun allowed now later more →
        ∀ key item, now.items.get? key = some item →
          item.status = .disassembled →
          ∃ last, later.items.get? key = some last ∧
            last.status = .disassembled

private theorem DisassemblyRun.invariant {start now : Workshop} {gained : ℤ}
    (sound : Integrity start) (run : DisassemblyRun Clean start now gained) :
    Integrity now ∧ now.value = start.value + gained ∧
      KeepsDisassembled start now := by
  induction run with
  | start => exact ⟨sound, (add_zero _).symm, fun _ item stored => ⟨item, stored, id⟩⟩
  | added run item induction =>
      obtain ⟨sound, value, keeps⟩ := induction
      refine ⟨⟨sound.unique, ?_⟩, ?_, ?_⟩
      · intro key result stored
        obtain ⟨child, found⟩ := sound.linked key result stored
        exact ⟨child, Table.get?_insert_of_some found _⟩
      · unfold Workshop.value at value ⊢
        rw [Table.total_insert]
        linarith
      · refine keeps.trans fun key old stored => ⟨old, ?_, id⟩
        exact Table.get?_insert_of_some stored _
  | planned run returned induction =>
      obtain ⟨sound, value, keeps⟩ := induction
      have drafted := planDisassembly_returns returned
      exact ⟨drafted.integrity sound, drafted.value.trans value,
        keeps.trans drafted.keeps⟩
  | executed run clean returned induction =>
      obtain ⟨sound, value, keeps⟩ := induction
      obtain ⟨event, parent, allocations, executed⟩ :=
        executeDisassembly_returns returned
      exact ⟨executed.integrity sound,
        (executed.value sound clean).trans value,
        keeps.trans (executed.keeps sound clean)⟩

/-- In every run whose executions find their children waiting, no item comes
back and no value is lost. -/
theorem disassembly_conserves (start : Workshop) (sound : Integrity start) :
    Conserves Clean start := by
  intro now gained run
  obtain ⟨soundNow, value, -⟩ := run.invariant sound
  refine ⟨value, ?_⟩
  intro later more onward key item stored apart
  obtain ⟨last, found, stays⟩ := (onward.invariant soundNow).2.2 key item stored
  exact ⟨last, found, stays apart⟩

def yard : Workshop where
  items := (Table.empty.insert { sku := "HC", name := "Half-cut", cost := 10000 }
    ).insert { sku := "EN", name := "Engine", cost := 4000 }
  events := Table.empty
  results := Table.empty

theorem integrity_yard : Integrity yard where
  unique left right first second found := by cases found
  linked key result found := by cases found

def halfCutPlanned : Workshop :=
  (planDisassembly 0
    [ { sku := "GB", name := "Gearbox", estimatedSalesPrice := 20000 },
      { sku := "DR", name := "Door", estimatedSalesPrice := 10000 } ]
    1000).final yard

def halfCutExecuted : Workshop :=
  (executeDisassembly 0).final halfCutPlanned

theorem clean_halfCutPlanned : Clean halfCutPlanned 0 := by
  intro event found key result stored named
  have events : ∀ row ∈ halfCutPlanned.events.rows, row.1 = 0 →
      row.2.parentItem = 0 := by decide +kernel
  have results : ∀ row ∈ halfCutPlanned.results.rows,
      row.2.childItem ≠ 0 ∧ ∀ item ∈ halfCutPlanned.items.rows,
        item.1 = row.2.childItem →
          item.2.status ≠ .disassembled ∧
            (item.2.status = .inStock → item.2.cost = 0) := by decide +kernel
  have parent := events (0, event) (Table.get?_eq_some.mp found) rfl
  obtain ⟨different, free⟩ :=
    results (key, result) (Table.get?_eq_some.mp stored)
  refine ⟨fun same => different (same.trans parent), ?_⟩
  intro child present
  exact free (result.childItem, child) (Table.get?_eq_some.mp present) rfl

/-- The gearbox takes 60.00 and the door 30.00. -/
theorem disassembly_conserves_halfCut :
    halfCutExecuted.value = 14000 := by
  have planned : planDisassembly 0
      [ { sku := "GB", name := "Gearbox", estimatedSalesPrice := 20000 },
        { sku := "DR", name := "Door", estimatedSalesPrice := 10000 } ]
      1000 yard = .ok 0 halfCutPlanned :=
    Txn.eq_ok_of_result? (by decide +kernel)
  have executed : executeDisassembly 0 halfCutPlanned =
      .ok ((executeDisassembly 0).result? halfCutPlanned |>.getD
        ⟨0, 0, 0, 0, 0, [], false⟩) halfCutExecuted :=
    Txn.eq_ok_of_result? (by decide +kernel)
  have value := (disassembly_conserves yard integrity_yard _ _
    (.executed (.planned .start planned) clean_halfCutPlanned executed)).1
  rw [value]
  decide +kernel

def engineReused : Workshop :=
  (planDisassembly 1
    [{ sku := "HD", name := "Head", estimatedSalesPrice := 5000 }]).final
    ((planDisassembly 0
      [{ estimatedSalesPrice := 5000, childItem := some 1 }]).final yard)

def engineApart : Workshop :=
  (executeDisassembly 1).final engineReused

def engineBack : Workshop :=
  (executeDisassembly 0).final engineApart

/-- Executing the half-cut brings back the engine that was taken apart. -/
theorem disassembly_brings_back :
    ¬ ∀ start, Integrity start → Conserves (fun _ _ => True) start := by
  intro conserves
  have first : planDisassembly 0
      [{ estimatedSalesPrice := 5000, childItem := some 1 }] 0 yard =
      .ok 0 _ := Txn.eq_ok_of_result? (by decide +kernel)
  have second : planDisassembly 1
      [{ sku := "HD", name := "Head", estimatedSalesPrice := 5000 }] 0 _ =
      .ok 1 engineReused := Txn.eq_ok_of_result? (by decide +kernel)
  have apart : executeDisassembly 1 engineReused =
      .ok ((executeDisassembly 1).result? engineReused |>.getD
        ⟨0, 0, 0, 0, 0, [], false⟩) engineApart :=
    Txn.eq_ok_of_result? (by decide +kernel)
  have back : executeDisassembly 0 engineApart =
      .ok ((executeDisassembly 0).result? engineApart |>.getD
        ⟨0, 0, 0, 0, 0, [], false⟩) engineBack :=
    Txn.eq_ok_of_result? (by decide +kernel)
  have stays := (conserves yard integrity_yard engineApart 0
    (.executed (.planned (.planned .start first) second) trivial apart)).2
    engineBack 0 (.executed .start trivial back)
  have engine : engineApart.items.get? 1 = some
      { sku := "EN", name := "Engine", cost := 4000, status := .disassembled } := by
    decide +kernel
  obtain ⟨last, found, status⟩ := stays 1 _ engine rfl
  have inStock : (engineBack.items.get? 1).map InventoryItem.status =
      some .inStock := by decide +kernel
  rw [found, Option.map_some, status] at inStock
  cases inStock

end Mousstec.Stock
