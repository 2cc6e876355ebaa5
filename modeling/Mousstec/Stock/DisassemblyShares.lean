import Mousstec.Library.Decimal
import Mousstec.Stock.DisassemblyRuns

/-!
# The children's shares of a cost

Every child's part of the cost is rounded to the cent, and the dearest child
takes what is left.  The parts always make up the cost; whether they are all
costs depends on what rounding adds to the other children.
-/

namespace Mousstec.Stock

open Library

abbrev Child := ℕ × DisassemblyResult

/-- `total_est`. -/
def totalEstimate (children : List Child) : ℤ :=
  (children.map estimate).sum

def childPart (adjusted totalEst : ℤ) (child : Child) : ℚ :=
  adjusted * estimate child / totalEst

def roundedPart (adjusted totalEst : ℤ) (child : Child) : ℤ :=
  roundHalfUp (significant 28
    (adjusted * significant 28 ((estimate child : ℚ) / totalEst)))

def dearestOf : List Child → Option Child
  | [] => none
  | child :: rest =>
      match dearestOf rest with
      | none => some child
      | some other => if estimate child < estimate other then some other else some child

def othersThan (chosen : Child) (children : List Child) : List Child :=
  children.filter fun child => child.1 ≠ chosen.1

/-- No other child's part is below zero, and what rounding adds to the other
parts is no more than the part of the dearest child. -/
structure PartsCovered (adjusted : ℤ) (children : List Child) : Prop where
  others : ∀ dearest ∈ dearestOf children, ∀ child ∈ othersThan dearest children,
    0 ≤ roundedPart adjusted (totalEstimate children) child
  dearest : ∀ dearest ∈ dearestOf children,
    ((othersThan dearest children).map fun child =>
        (roundedPart adjusted (totalEstimate children) child : ℚ) -
          childPart adjusted (totalEstimate children) child).sum ≤
      childPart adjusted (totalEstimate children) dearest

instance decidablePartsCovered (adjusted : ℤ) (children : List Child) :
    Decidable (PartsCovered adjusted children) :=
  decidable_of_iff
    (((dearestOf children).all fun dearest =>
        (othersThan dearest children).all fun child =>
          0 ≤ roundedPart adjusted (totalEstimate children) child) = true ∧
      ((dearestOf children).all fun dearest =>
        ((othersThan dearest children).map fun child =>
            (roundedPart adjusted (totalEstimate children) child : ℚ) -
              childPart adjusted (totalEstimate children) child).sum ≤
          childPart adjusted (totalEstimate children) dearest) = true)
    ⟨fun holds => ⟨by simpa [Option.all_eq_true] using holds.1,
        by simpa [Option.all_eq_true] using holds.2⟩,
      fun holds => ⟨by simpa [Option.all_eq_true] using holds.others,
        by simpa [Option.all_eq_true] using holds.dearest⟩⟩

def Workshop.childrenOf (workshop : Workshop) (pk : ℕ) : List Child :=
  workshop.results.rows.filter fun row => row.2.event = pk

/-- An event that can be executed: some scrap of a parent in stock. -/
structure Executable (workshop : Workshop) (pk : ℕ) (event : DisassemblyEvent)
    (parent : InventoryItem) : Prop where
  integrity : Integrity workshop
  foundEvent : workshop.events.get? pk = some event
  foundParent : workshop.items.get? event.parentItem = some parent
  draft : event.isExecuted = false
  inStock : parent.status = .inStock
  scrap_nonneg : 0 ≤ event.totalScrapRevenue
  scrap_le : event.totalScrapRevenue ≤ parent.cost
  estimates : 0 < totalEstimate (workshop.childrenOf pk)

/-- The children have costs, and these make up the cost of the parent. -/
structure ZeroLeakage (pk : ℕ) (scrap cost : ℤ) (workshop : Workshop) : Prop where
  nonneg : ∀ key result, workshop.results.get? key = some result →
    result.event = pk → 0 ≤ result.allocatedCost
  items : ∀ key result, workshop.results.get? key = some result →
    result.event = pk → ∃ child,
      workshop.items.get? result.childItem = some child ∧
        child.cost = result.allocatedCost
  exact : (workshop.results.total fun _ result =>
      if result.event = pk then result.allocatedCost else 0) + scrap = cost

section Settling

variable {adjusted total : ℤ} {children : List Child}

theorem shares_eq (adjusted total : ℤ) (children : List Child) :
    shares adjusted total children =
      children.map fun child => (child, roundedPart adjusted total child) := rfl

theorem richestOf_map (amount : Child → ℤ) (children : List Child) :
    richestOf (children.map fun child => (child, amount child)) =
      (dearestOf children).map fun child => (child, amount child) := by
  induction children with
  | nil => rfl
  | cons child rest induction =>
      rw [List.map_cons, richestOf, dearestOf, induction]
      cases dearestOf rest with
      | none => rfl
      | some other =>
          simp only [Option.map_some]
          split
          · rfl
          · rfl

theorem dearestOf_mem {dearest : Child}
    (found : dearestOf children = some dearest) : dearest ∈ children := by
  induction children with
  | nil => cases found
  | cons child rest induction =>
      rw [dearestOf] at found
      cases later : dearestOf rest with
      | none =>
          rw [later] at found
          obtain rfl := Option.some.inj found
          exact List.mem_cons_self
      | some other =>
          rw [later] at found
          simp only at found
          split at found
          · obtain rfl := Option.some.inj found
            exact List.mem_cons_of_mem _ (induction later)
          · obtain rfl := Option.some.inj found
            exact List.mem_cons_self

theorem exists_dearest (nonempty : children ≠ []) :
    ∃ dearest, dearestOf children = some dearest := by
  cases children with
  | nil => exact absurd rfl nonempty
  | cons child rest =>
      rw [dearestOf]
      cases dearestOf rest with
      | none => exact ⟨child, rfl⟩
      | some other =>
          simp only
          split
          · exact ⟨other, rfl⟩
          · exact ⟨child, rfl⟩

theorem sum_othersThan {R : Type} [AddCommMonoid R] (amount : Child → R)
    (distinct : (children.map Prod.fst).Nodup) {chosen : Child}
    (member : chosen ∈ children) :
    (children.map amount).sum =
      amount chosen + ((othersThan chosen children).map amount).sum := by
  induction children with
  | nil => cases member
  | cons child rest induction =>
      rw [List.map_cons, List.nodup_cons] at distinct
      rw [List.map_cons, List.sum_cons, othersThan]
      rcases List.mem_cons.mp member with rfl | later
      · have rest' : rest.filter (fun child => child.1 ≠ chosen.1) = rest := by
          apply List.filter_eq_self.mpr
          intro other listed
          have different : other.1 ≠ chosen.1 := fun same =>
            distinct.1 (same ▸ List.mem_map_of_mem listed)
          simpa using different
        rw [List.filter_cons_of_neg (by simp), rest']
      · have different : child.1 ≠ chosen.1 := fun same =>
          distinct.1 (same ▸ List.mem_map_of_mem later)
        rw [List.filter_cons_of_pos (by simpa using different), List.map_cons,
          List.sum_cons, induction distinct.2 later, add_left_comm]
        rfl

theorem settleResidual_eq {dearest : Child}
    (found : dearestOf children = some dearest) (adjusted total : ℤ) :
    settleResidual adjusted (shares adjusted total children) =
      children.map fun child =>
        (child, if child.1 = dearest.1 then
            roundedPart adjusted total child +
              (adjusted - (children.map (roundedPart adjusted total)).sum)
          else roundedPart adjusted total child) := by
  have sum : totalAllocated (shares adjusted total children) =
      (children.map (roundedPart adjusted total)).sum := by
    rw [shares_eq, totalAllocated, List.map_map]
    rfl
  unfold settleResidual
  rw [sum, shares_eq]
  simp only [richestOf_map, found, Option.map_some]
  split
  · rename_i settled
    rw [settled]
    apply List.map_congr_left
    intro child _
    simp
  · rw [List.map_map]
    apply List.map_congr_left
    intro child _
    simp only [Function.comp_apply]
    split
    · rfl
    · rfl

variable (distinct : (children.map Prod.fst).Nodup)

theorem sum_childPart (positive : 0 < totalEstimate children) :
    (children.map (childPart adjusted (totalEstimate children))).sum =
      adjusted := by
  have scaled : ∀ total : ℤ, (children.map (childPart adjusted total)).sum =
      adjusted * totalEstimate children / total := by
    clear positive
    intro total
    unfold totalEstimate
    induction children with
    | nil => simp
    | cons child rest induction =>
        rw [List.map_cons, List.sum_cons, induction, List.map_cons,
          List.sum_cons, childPart]
        push_cast
        ring
  have nonzero : ((totalEstimate children : ℤ) : ℚ) ≠ 0 := by
    exact_mod_cast positive.ne'
  rw [scaled, mul_div_cancel_right₀ _ nonzero]

include distinct

theorem totalAllocated_settled (nonempty : children ≠ []) :
    totalAllocated (settleResidual adjusted (shares adjusted total children)) =
      adjusted := by
  obtain ⟨dearest, found⟩ := exists_dearest nonempty
  have member := dearestOf_mem found
  rw [settleResidual_eq found, totalAllocated, List.map_map]
  have settled := sum_othersThan (fun child : Child =>
    if child.1 = dearest.1 then
      roundedPart adjusted total child +
        (adjusted - (children.map (roundedPart adjusted total)).sum)
    else roundedPart adjusted total child) distinct member
  have rounded := sum_othersThan (roundedPart adjusted total) distinct member
  have others : (othersThan dearest children).map (fun child : Child =>
      if child.1 = dearest.1 then
        roundedPart adjusted total child +
          (adjusted - (children.map (roundedPart adjusted total)).sum)
      else roundedPart adjusted total child) =
        (othersThan dearest children).map (roundedPart adjusted total) := by
    apply List.map_congr_left
    intro child listed
    have different := (List.mem_filter.mp listed).2
    rw [if_neg (by simpa using different)]
  rw [others, if_pos rfl] at settled
  refine Eq.trans settled ?_
  omega

/-- No allocation is below zero exactly when the parts are covered. -/
theorem settled_nonneg_iff (positive : 0 < totalEstimate children) :
    (∀ pair ∈ settleResidual adjusted
        (shares adjusted (totalEstimate children) children), 0 ≤ pair.2) ↔
      PartsCovered adjusted children := by
  have nonempty : children ≠ [] := by
    rintro rfl
    exact absurd positive (by decide)
  obtain ⟨dearest, found⟩ := exists_dearest nonempty
  have member := dearestOf_mem found
  have parts := sum_othersThan (childPart adjusted (totalEstimate children))
    distinct member
  have rounded := sum_othersThan (roundedPart adjusted (totalEstimate children))
    distinct member
  have gains : ((othersThan dearest children).map fun child =>
      (roundedPart adjusted (totalEstimate children) child : ℚ) -
        childPart adjusted (totalEstimate children) child).sum =
      (((othersThan dearest children).map
        (roundedPart adjusted (totalEstimate children))).sum : ℤ) -
      ((othersThan dearest children).map
        (childPart adjusted (totalEstimate children))).sum := by
    induction othersThan dearest children with
    | nil => simp
    | cons child rest induction =>
        simp only [List.map_cons, List.sum_cons, induction]
        push_cast
        ring
  rw [sum_childPart positive] at parts
  rw [settleResidual_eq found]
  constructor
  · intro nonneg
    have last := nonneg _ (List.mem_map_of_mem member)
    simp only [if_true] at last
    constructor
    · intro other same child listed
      rw [found, Option.mem_def, Option.some.injEq] at same
      subst same
      have kept := List.mem_filter.mp listed
      have sign := nonneg _ (List.mem_map_of_mem kept.1)
      rwa [if_neg (by simpa using kept.2)] at sign
    · intro other same
      rw [found, Option.mem_def, Option.some.injEq] at same
      subst same
      rw [gains]
      have enough : (((othersThan dearest children).map
          (roundedPart adjusted (totalEstimate children))).sum : ℤ) ≤
            (adjusted : ℚ) := by
        exact_mod_cast (by omega : ((othersThan dearest children).map
          (roundedPart adjusted (totalEstimate children))).sum ≤ adjusted)
      linarith
  · intro covered pair listed
    obtain ⟨child, chosen, rfl⟩ := List.mem_map.mp listed
    by_cases same : child.1 = dearest.1
    · have equal : child = dearest :=
        List.inj_on_of_nodup_map distinct chosen member same
      subst equal
      have enough := covered.dearest child found
      rw [gains] at enough
      have whole : (((othersThan child children).map
          (roundedPart adjusted (totalEstimate children))).sum : ℤ) ≤
            (adjusted : ℚ) := by
        linarith
      have whole : ((othersThan child children).map
          (roundedPart adjusted (totalEstimate children))).sum ≤ adjusted := by
        exact_mod_cast whole
      simp only [if_true]
      omega
    · simp only [if_neg same]
      refine covered.others dearest found child ?_
      exact List.mem_filter.mpr ⟨chosen, by simpa using same⟩

end Settling

section Writing

theorem writeAllocations_otherResult (workshop : Workshop)
    {allocations : List Allocation} {key : ℕ}
    (other : key ∉ allocations.map fun pair => pair.1.1) :
    (writeAllocations workshop allocations).results.get? key =
      workshop.results.get? key := by
  induction allocations generalizing workshop with
  | nil => rfl
  | cons pair rest induction =>
      rw [List.map_cons, List.mem_cons, not_or] at other
      refine (induction (writeAllocation workshop pair) other.2).trans ?_
      exact Table.get?_modify_of_ne _ other.1 _

theorem writeAllocations_result (workshop : Workshop)
    {allocations : List Allocation}
    (distinct : (allocations.map fun pair => pair.1.1).Nodup)
    {pair : Allocation} (member : pair ∈ allocations)
    (stored : workshop.results.get? pair.1.1 = some pair.1.2) :
    (writeAllocations workshop allocations).results.get? pair.1.1 =
      some { pair.1.2 with allocatedCost := pair.2 } := by
  induction allocations generalizing workshop with
  | nil => cases member
  | cons first rest induction =>
      rw [List.map_cons, List.nodup_cons] at distinct
      rcases List.mem_cons.mp member with rfl | later
      · refine (writeAllocations_otherResult (writeAllocation workshop pair)
          distinct.1).trans ?_
        refine (Table.get?_modify_self _ _ _).trans ?_
        rw [stored]
        rfl
      · refine induction (writeAllocation workshop first) distinct.2 later ?_
        have different : pair.1.1 ≠ first.1.1 := fun same =>
          distinct.1 (same ▸ List.mem_map_of_mem later)
        rw [← stored]
        exact Table.get?_modify_of_ne _ different _

theorem writeAllocations_child (workshop : Workshop)
    {allocations : List Allocation}
    (distinct : (allocations.map Allocation.child).Nodup)
    {pair : Allocation} (member : pair ∈ allocations) {item : InventoryItem}
    (stored : workshop.items.get? pair.child = some item) :
    (writeAllocations workshop allocations).items.get? pair.child =
      some { item with cost := pair.2, status := .inStock } := by
  induction allocations generalizing workshop with
  | nil => cases member
  | cons first rest induction =>
      rw [List.map_cons, List.nodup_cons] at distinct
      rcases List.mem_cons.mp member with rfl | later
      · refine (writeAllocations_item (writeAllocation workshop pair) rest
          distinct.1).trans ?_
        refine (Table.get?_modify_self _ _ _).trans ?_
        exact congrArg _ stored
      · refine induction (writeAllocation workshop first) distinct.2 later ?_
        have different : pair.child ≠ first.child := fun same =>
          distinct.1 (same ▸ List.mem_map_of_mem later)
        rw [← stored]
        exact Table.get?_modify_of_ne _ different _

/-- The results of an event carry the allocated amounts. -/
theorem writeAllocations_allocated (workshop : Workshop) (pk : ℕ)
    {allocations : List Allocation}
    (distinct : (allocations.map fun pair => pair.1.1).Nodup)
    (stored : ∀ pair ∈ allocations,
      workshop.results.get? pair.1.1 = some pair.1.2 ∧ pair.1.2.event = pk) :
    ((writeAllocations workshop allocations).results.total fun _ result =>
        if result.event = pk then result.allocatedCost else 0) =
      (workshop.results.total fun _ result =>
          if result.event = pk then result.allocatedCost else 0) +
        (totalAllocated allocations -
          (allocations.map fun pair => pair.1.2.allocatedCost).sum) := by
  induction allocations generalizing workshop with
  | nil => simp [writeAllocations, totalAllocated]
  | cons pair rest induction =>
      rw [List.map_cons, List.nodup_cons] at distinct
      obtain ⟨found, named⟩ := stored pair List.mem_cons_self
      have others : ∀ next ∈ rest,
          (writeAllocation workshop pair).results.get? next.1.1 =
            some next.1.2 ∧ next.1.2.event = pk := by
        intro next member
        obtain ⟨found, named⟩ := stored next (List.mem_cons_of_mem _ member)
        have different : next.1.1 ≠ pair.1.1 := fun same =>
          distinct.1 (same ▸ List.mem_map.mpr ⟨next, member, rfl⟩)
        refine ⟨?_, named⟩
        rw [← found]
        exact Table.get?_modify_of_ne _ different _
      have first : ((writeAllocation workshop pair).results.total fun _ result =>
          if result.event = pk then result.allocatedCost else 0) =
          (workshop.results.total fun _ result =>
            if result.event = pk then result.allocatedCost else 0) +
            (pair.2 - pair.1.2.allocatedCost) := by
        refine (Table.total_modify found (fun result =>
          { result with allocatedCost := pair.2 }) fun _ result =>
            if result.event = pk then result.allocatedCost else 0).trans ?_
        simp only [named, if_true]
      refine (induction (writeAllocation workshop pair) distinct.2 others).trans ?_
      rw [first, totalAllocated, totalAllocated, List.map_cons, List.sum_cons,
        List.map_cons, List.sum_cons]
      ring

end Writing

section Executing

variable {pk : ℕ} {event : DisassemblyEvent} {parent : InventoryItem}
  {before : Workshop}

theorem childrenOf_nodup (workshop : Workshop) (pk : ℕ) :
    ((workshop.childrenOf pk).map Prod.fst).Nodup :=
  workshop.results.keys_nodup.sublist (List.filter_sublist.map Prod.fst)

/-- An executable event is executed. -/
theorem executeDisassembly_ok (executable : Executable before pk event parent) :
    ∃ report after, executeDisassembly pk before = .ok report after ∧
      Executed pk event parent (before.allocationsOf pk
        (parent.cost - event.totalScrapRevenue)) before after := by
  have nonempty : before.childrenOf pk ≠ [] := by
    intro none
    have positive := executable.estimates
    rw [none] at positive
    exact absurd positive (by decide)
  have total : totalAllocated (before.allocationsOf pk
      (parent.cost - event.totalScrapRevenue)) =
        parent.cost - event.totalScrapRevenue :=
    totalAllocated_settled (childrenOf_nodup before pk) nonempty
  have balanced : totalAllocated (before.allocationsOf pk
      (parent.cost - event.totalScrapRevenue)) + event.totalScrapRevenue =
        parent.cost := by
    rw [total]
    ring
  obtain ⟨report, after, returned⟩ : ∃ report after,
      executeDisassembly pk before = .ok report after := by
    apply Exists.intro
    apply Exists.intro
    simp only [executeDisassembly, Txn.atomic_eq_ok, Txn.bind_eq_ok,
      Txn.get_eq_ok, fetch_eq_ok, Txn.require_eq_ok, Txn.forM_modify,
      Txn.modify_eq_ok, Txn.pure_eq_ok, EStateM.Result.ok.injEq]
    exact ⟨_, _, ⟨rfl, rfl⟩, event, _, ⟨executable.foundEvent, rfl⟩, parent, _,
      ⟨executable.foundParent, rfl⟩, ⟨⟩, _, ⟨executable.draft, rfl⟩, ⟨⟩, _,
      ⟨executable.inStock, rfl⟩, ⟨⟩, _, ⟨nonempty, rfl⟩, ⟨⟩, _,
      ⟨executable.estimates, rfl⟩, ⟨⟩, _, ⟨trivial, rfl⟩, ⟨⟩, _, ⟨balanced, rfl⟩, ⟨⟩,
      _, rfl, rfl, rfl⟩
  obtain ⟨other, found, executed⟩ := executeDisassembly_settles returned
  have sameEvent := executed.foundEvent
  rw [executable.foundEvent, Option.some.injEq] at sameEvent
  subst sameEvent
  have sameParent := executed.foundParent
  rw [executable.foundParent, Option.some.injEq] at sameParent
  subst sameParent
  exact ⟨report, after, returned, executed⟩

theorem Executed.keys_nodup {allocations : List Allocation} {after : Workshop}
    (executed : Executed pk event parent allocations before after) :
    (allocations.map fun pair => pair.1.1).Nodup := by
  have keyed : allocations.map (fun pair => pair.1.1) =
      (allocations.map Prod.fst).map Prod.fst := by
    rw [List.map_map]
    rfl
  rw [keyed, executed.results]
  exact childrenOf_nodup before pk

theorem Executed.exact {allocations : List Allocation} {after : Workshop}
    (executed : Executed pk event parent allocations before after) :
    (after.results.total fun _ result =>
        if result.event = pk then result.allocatedCost else 0) =
      totalAllocated allocations := by
  have written := writeAllocations_allocated before pk executed.keys_nodup
    fun pair member => executed.keys member
  have earlier : (allocations.map fun pair => pair.1.2.allocatedCost).sum =
      before.results.total fun _ result =>
        if result.event = pk then result.allocatedCost else 0 := by
    have filtered := Table.total_filter before.results
      (fun _ result => result.event = pk) (fun _ result => result.allocatedCost)
    simp only [decide_eq_true_eq] at filtered
    rw [← filtered]
    have rows : (allocations.map fun pair => pair.1.2.allocatedCost) =
        (allocations.map Prod.fst).map fun row => row.2.allocatedCost := by
      rw [List.map_map]
      rfl
    rw [rows, executed.results]
    rfl
  rw [executed.allocated, written, earlier]
  ring

/-- Every result of an event is one of its allocations. -/
theorem Executed.allocation {allocations : List Allocation} {after : Workshop}
    (executed : Executed pk event parent allocations before after) {key : ℕ}
    {result : DisassemblyResult}
    (stored : after.results.get? key = some result) (named : result.event = pk) :
    ∃ pair ∈ allocations, pair.1.1 = key ∧
      result = { pair.1.2 with allocatedCost := pair.2 } := by
  have same := writeAllocations_results before allocations key
  rw [← executed.allocated, stored, Option.map_some] at same
  obtain ⟨old, found, fields⟩ := Option.map_eq_some_iff.mp same.symm
  have listed : (key, old) ∈ allocations.map Prod.fst := by
    rw [executed.results, List.mem_filter]
    refine ⟨Table.get?_eq_some.mp found, ?_⟩
    rw [← named, (Prod.mk.inj fields).1]
    exact decide_eq_true rfl
  obtain ⟨pair, member, equal⟩ := List.mem_map.mp listed
  have written := writeAllocations_result before executed.keys_nodup member
    (executed.keys member).1
  rw [← executed.allocated, equal, stored, Option.some.injEq] at written
  refine ⟨pair, member, by rw [equal], ?_⟩
  rw [written, equal]

/-- Executing gives costs that make up the parent's exactly when the parts are
covered. -/
theorem disassembly_zeroLeakage_iff (before : Workshop) (pk : ℕ)
    (event : DisassemblyEvent) (parent : InventoryItem)
    (executable : Executable before pk event parent) :
    (∃ report after, executeDisassembly pk before = .ok report after ∧
        ZeroLeakage pk event.totalScrapRevenue parent.cost after) ↔
      PartsCovered (parent.cost - event.totalScrapRevenue)
        (before.childrenOf pk) := by
  obtain ⟨report, after, returned, executed⟩ := executeDisassembly_ok executable
  rw [← settled_nonneg_iff (childrenOf_nodup before pk) executable.estimates]
  constructor
  · rintro ⟨_, _, again, leakage⟩ pair member
    rw [returned, EStateM.Result.ok.injEq] at again
    obtain ⟨rfl, rfl⟩ := again
    have stored := writeAllocations_result before executed.keys_nodup member
      (executed.keys member).1
    rw [← executed.allocated] at stored
    exact leakage.nonneg _ _ stored (executed.keys member).2
  · intro nonneg
    refine ⟨report, after, returned, ?_, ?_, ?_⟩
    · intro key result stored named
      obtain ⟨pair, member, -, rfl⟩ := executed.allocation stored named
      exact nonneg pair member
    · intro key result stored named
      obtain ⟨pair, member, -, rfl⟩ := executed.allocation stored named
      obtain ⟨item, present⟩ := executable.integrity.linked pair.1.1 pair.1.2
        (executed.keys member).1
      have child := writeAllocations_child before
        (executed.distinct executable.integrity) member present
      rw [executed.items, Table.get?_modify]
      split
      · rename_i same
        rw [← same]
        exact ⟨_, congrArg _ child, rfl⟩
      · exact ⟨_, child, rfl⟩
    · rw [executed.exact]
      exact executed.balanced

end Executing

theorem integrity_halfCutPlanned : Integrity halfCutPlanned := by
  have planned : planDisassembly 0
      [ { sku := "GB", name := "Gearbox", estimatedSalesPrice := 20000 },
        { sku := "DR", name := "Door", estimatedSalesPrice := 10000 } ]
      1000 yard = .ok 0 halfCutPlanned :=
    Txn.eq_ok_of_result? (by decide +kernel)
  exact (planDisassembly_returns planned).integrity integrity_yard

/-- The gearbox and the door of a half-cut with 10.00 of scrap. -/
theorem disassembly_zeroLeakage_halfCut :
    ∃ report after, executeDisassembly 0 halfCutPlanned = .ok report after ∧
      ZeroLeakage 0 1000 10000 after :=
  (disassembly_zeroLeakage_iff halfCutPlanned 0
    { parentItem := 0, totalScrapRevenue := 1000 }
    { sku := "HC", name := "Half-cut", cost := 10000 }
    { integrity := integrity_halfCutPlanned
      foundEvent := by decide +kernel
      foundParent := by decide +kernel
      draft := rfl
      inStock := rfl
      scrap_nonneg := by decide
      scrap_le := by decide
      estimates := by decide +kernel }).mpr (by decide +kernel)

def crumbs : List ChildSpec :=
  [ { sku := "C1", estimatedSalesPrice := 100 },
    { sku := "C2", estimatedSalesPrice := 100 },
    { sku := "C3", estimatedSalesPrice := 100 },
    { sku := "C4", estimatedSalesPrice := 100 } ]

def scrapYard : Workshop where
  items := Table.empty.insert { sku := "P", name := "Part", cost := 2 }
  events := Table.empty
  results := Table.empty

theorem integrity_scrapYard : Integrity scrapYard where
  unique left right first second found := by cases found
  linked key result found := by cases found

def crumbsPlanned : Workshop :=
  (planDisassembly 0 crumbs 0).final scrapYard

/-- Half a cent each is rounded up, and the first child pays for the others. -/
theorem disassembly_zeroLeakage_crumbs :
    ¬ ∀ before pk event parent, Executable before pk event parent →
      ∃ report after, executeDisassembly pk before = .ok report after ∧
        ZeroLeakage pk event.totalScrapRevenue parent.cost after := by
  intro always
  have planned : planDisassembly 0 crumbs 0 scrapYard = .ok 0 crumbsPlanned :=
    Txn.eq_ok_of_result? (by decide +kernel)
  have executable : Executable crumbsPlanned 0 { parentItem := 0 }
      { sku := "P", name := "Part", cost := 2 } :=
    { integrity :=
        (planDisassembly_returns planned).integrity integrity_scrapYard
      foundEvent := by decide +kernel
      foundParent := by decide +kernel
      draft := rfl
      inStock := rfl
      scrap_nonneg := by decide
      scrap_le := by decide
      estimates := by decide +kernel }
  obtain ⟨report, after, returned, leakage⟩ := always _ _ _ _ executable
  have final := Txn.final_of_ok returned
  have first : after.results.get? 0 = some
      { event := 0, childItem := 1, estimatedSalesPrice := 100,
        allocatedCost := -1 } := by
    rw [← final]
    decide +kernel
  exact absurd (leakage.nonneg 0 _ first rfl) (by decide)

end Mousstec.Stock
