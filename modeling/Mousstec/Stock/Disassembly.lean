import Mousstec.Library.Rounding
import Mousstec.Library.Table
import Mousstec.Library.Transaction

/-!
# Disassembly of items

An item is taken apart by an event: its cost, less the scrap revenue, is
divided among the child items in proportion to their estimated sales prices.
A child can be taken apart in turn, so the events form trees.  Planning writes
a draft; executing it moves the money.
-/

namespace Mousstec.Stock

open Library

inductive ItemStatus where
  | inStock
  | disassembled
  | sold
  deriving DecidableEq

/-- `get_status_display`. -/
def ItemStatus.text : ItemStatus → String
  | .inStock => "في المخزن"
  | .disassembled => "تم تفكيكه"
  | .sold => "تم بيعه"

structure InventoryItem where
  sku : String
  name : String
  cost : ℤ := 0
  estimatedSalesPrice : ℤ := 0
  status : ItemStatus := .inStock
  product : Option ℕ := none
  branch : Option ℕ := none
  deriving DecidableEq

structure DisassemblyEvent where
  parentItem : ℕ
  totalScrapRevenue : ℤ := 0
  isExecuted : Bool := false
  parentCostSnapshot : Option ℤ := none
  adjustedParentCost : Option ℤ := none
  deriving DecidableEq

structure DisassemblyResult where
  event : ℕ
  childItem : ℕ
  estimatedSalesPrice : ℤ := 0
  allocatedCost : ℤ := 0
  deriving DecidableEq

structure Workshop where
  items : Table InventoryItem
  events : Table DisassemblyEvent
  results : Table DisassemblyResult
  deriving DecidableEq

/-- A child to plan: an existing item, or the data of a new one. -/
structure ChildSpec where
  sku : String := ""
  name : String := ""
  estimatedSalesPrice : ℚ := 0
  product : Option ℕ := none
  branch : Option ℕ := none
  childItem : Option ℕ := none
  deriving DecidableEq

inductive DisassemblyError where
  | parentUnavailable (name : String) (status : ItemStatus)
  | noChildren
  | negativeScrap
  | scrapExceedsCost
  | alreadyExecuted
  | parentNotInStock (status : ItemStatus)
  | noResults
  | noEstimate
  | integrity (alloc scrap ledger cost : ℤ)
  | duplicateSku (sku : String)
  | duplicateChild
  | missingRow
  deriving DecidableEq

def DisassemblyError.text (money : ℤ → String) : DisassemblyError → String
  | .parentUnavailable name status =>
      s!"العنصر الأب '{name}' حالته '{status.text}' ولا يمكن فكّه."
  | .noChildren => "لازم تحدد عنصر ابن واحد على الأقل."
  | .negativeScrap => "إيراد الخردة لا يمكن أن يكون سالباً."
  | .scrapExceedsCost =>
      "إيراد الخردة أكبر من تكلفة الأب — راجع الأرقام (النزاهة المالية تمنع تكلفة أبناء سالبة)."
  | .alreadyExecuted => "حدث الفك ده اتنفّذ قبل كده."
  | .parentNotInStock status =>
      s!"العنصر الأب حالته '{status.text}' — لا يمكن تنفيذ الفك."
  | .noResults => "مفيش عناصر أبناء لتوزيع التكلفة عليها."
  | .noEstimate =>
      "إجمالي أسعار البيع التقديرية = صفر — طريقة القيمة البيعية محتاجة سعر تقديري موجب لواحد على الأقل من الأبناء."
  | .integrity alloc scrap ledger cost =>
      s!"فشل حارس النزاهة المالية: مجموع الأبناء ({money alloc}) + الخردة ({money scrap}) = {money ledger} ≠ تكلفة الأب ({money cost})."
  | .duplicateSku sku => s!"UNIQUE constraint failed: sku {sku}"
  | .duplicateChild => "UNIQUE constraint failed: uniq_event_child"
  | .missingRow => "matching query does not exist."

abbrev DisassemblyTxn (α : Type) := Txn DisassemblyError Workshop α

def fetch {α : Type} (found : Option α) : DisassemblyTxn α :=
  match found with
  | none => throw .missingRow
  | some row => pure row

def childOf (parent : InventoryItem) (spec : ChildSpec) : DisassemblyTxn ℕ := do
  let workshop ← get
  match spec.childItem with
  | some child => do
      let _ ← fetch (workshop.items.get? child)
      pure child
  | none => do
      Txn.require (∀ row ∈ workshop.items.rows, row.2.sku ≠ spec.sku)
        (.duplicateSku spec.sku)
      set { workshop with
        items := workshop.items.insert
          { sku := spec.sku
            name := spec.name
            estimatedSalesPrice := roundHalfUp spec.estimatedSalesPrice
            product := spec.product
            branch := spec.branch <|> parent.branch } }
      pure workshop.items.next

def planChild (event : ℕ) (parent : InventoryItem) (spec : ChildSpec) :
    DisassemblyTxn PUnit := do
  let child ← childOf parent spec
  let workshop ← get
  Txn.require (∀ row ∈ workshop.results.rows,
      row.2.event = event → row.2.childItem ≠ child) .duplicateChild
  set { workshop with
    results := workshop.results.insert
      { event
        childItem := child
        estimatedSalesPrice := roundHalfUp spec.estimatedSalesPrice } }

/-- `plan_disassembly`. -/
def planDisassembly (parentItem : ℕ) (children : List ChildSpec)
    (totalScrapRevenue : ℚ := 0) : DisassemblyTxn ℕ :=
  Txn.atomic do
    let workshop ← get
    let parent ← fetch (workshop.items.get? parentItem)
    Txn.require (parent.status = .inStock)
      (.parentUnavailable parent.name parent.status)
    Txn.require (children ≠ []) .noChildren
    let scrap := roundHalfUp totalScrapRevenue
    Txn.require (0 ≤ scrap) .negativeScrap
    Txn.require (scrap ≤ parent.cost) .scrapExceedsCost
    let event := workshop.events.next
    set { workshop with
      events := workshop.events.insert
        { parentItem, totalScrapRevenue := scrap } }
    forM children (planChild event parent)
    pure event

abbrev Allocation := (ℕ × DisassemblyResult) × ℤ

def estimate (row : ℕ × DisassemblyResult) : ℤ :=
  row.2.estimatedSalesPrice

def shares (adjusted totalEst : ℤ) (results : List (ℕ × DisassemblyResult)) :
    List Allocation :=
  results.map fun row =>
    let weight := significant 28 ((estimate row : ℚ) / totalEst)
    (row, roundHalfUp (significant 28 (adjusted * weight)))

def totalAllocated (allocations : List Allocation) : ℤ :=
  (allocations.map Prod.snd).sum

def richestOf : List Allocation → Option Allocation
  | [] => none
  | pair :: rest =>
      match richestOf rest with
      | none => some pair
      | some other =>
          if estimate pair.1 < estimate other.1 then some other else some pair

def settleResidual (adjusted : ℤ) (allocations : List Allocation) :
    List Allocation :=
  let residual := adjusted - totalAllocated allocations
  if residual = 0 then allocations
  else
    match richestOf allocations with
    | none => allocations
    | some richest =>
        allocations.map fun pair =>
          if pair.1.1 = richest.1.1 then (pair.1, pair.2 + residual) else pair

def writeAllocation (workshop : Workshop) (pair : Allocation) : Workshop :=
  { workshop with
    results := workshop.results.modify pair.1.1 fun result =>
      { result with allocatedCost := pair.2 }
    items := workshop.items.modify pair.1.2.childItem fun child =>
      { child with cost := pair.2, status := .inStock } }

structure ChildReport where
  sku : String
  name : String
  estimatedSalesPrice : ℤ
  allocatedCost : ℤ
  deriving DecidableEq

structure DisassemblyReport where
  eventId : ℕ
  parentCost : ℤ
  scrapRevenue : ℤ
  adjustedParentCost : ℤ
  totalAllocated : ℤ
  children : List ChildReport
  ledgerBalanced : Bool
  deriving DecidableEq

def childReport (workshop : Workshop) (pair : Allocation) : ChildReport :=
  let child := workshop.items.get? pair.1.2.childItem
  { sku := (child.map InventoryItem.sku).getD ""
    name := (child.map InventoryItem.name).getD ""
    estimatedSalesPrice := estimate pair.1
    allocatedCost := pair.2 }

/-- `execute_disassembly`. -/
def executeDisassembly (pk : ℕ) : DisassemblyTxn DisassemblyReport :=
  Txn.atomic do
    let workshop ← get
    let event ← fetch (workshop.events.get? pk)
    let parent ← fetch (workshop.items.get? event.parentItem)
    Txn.require (event.isExecuted = false) .alreadyExecuted
    Txn.require (parent.status = .inStock) (.parentNotInStock parent.status)
    let results := workshop.results.rows.filter fun row => row.2.event = pk
    Txn.require (results ≠ []) .noResults
    let scrap := event.totalScrapRevenue
    let adjusted := parent.cost - scrap
    let totalEst := (results.map estimate).sum
    Txn.require (0 < totalEst) .noEstimate
    let allocations := settleResidual adjusted (shares adjusted totalEst results)
    forM allocations fun pair =>
      modify fun workshop => writeAllocation workshop pair
    let totalAlloc := totalAllocated allocations
    let ledger := totalAlloc + scrap
    Txn.require (ledger = parent.cost)
      (.integrity totalAlloc scrap ledger parent.cost)
    modify fun workshop =>
      { workshop with
        events := workshop.events.modify pk fun event =>
          { event with
            parentCostSnapshot := some parent.cost
            adjustedParentCost := some adjusted
            isExecuted := true }
        items := workshop.items.modify event.parentItem fun parent =>
          { parent with status := .disassembled } }
    pure
      { eventId := pk
        parentCost := parent.cost
        scrapRevenue := scrap
        adjustedParentCost := adjusted
        totalAllocated := totalAlloc
        children := allocations.map (childReport workshop)
        ledgerBalanced := true }

end Mousstec.Stock
