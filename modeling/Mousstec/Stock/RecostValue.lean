import Mathlib.Algebra.BigOperators.Ring.List
import Mathlib.Tactic.Linarith
import Mousstec.Stock.LandedShares
import Mousstec.Stock.Recost

/-!
# The value of the stock after allocating anew

Allocating anew changes the value of the stock by what the averages of the
purchase's products move, each times its counted units, and posts nothing.
-/

namespace Mousstec.Stock

open Library Accounting Cash

def PurchaseDesk.averageShift (desk : PurchaseDesk) (row : ℕ × ℚ) : ℤ :=
  let onHand := desk.valuedQty row.1
  if row.2 ≠ 0 ∧ 0 < onHand then
    ((desk.products.get? row.1).map fun product =>
      onHand * (movedAverage product.averageCost onHand row.2 -
        product.averageCost)).getD 0
  else 0

/-- Two desks that count and value the same units of a product. -/
structure SameStock (product : ℕ) (before after : PurchaseDesk) : Prop where
  valued : after.valuedQty product = before.valuedQty product
  average : (after.products.get? product).map (·.averageCost) =
    (before.products.get? product).map (·.averageCost)

theorem SameStock.averageShift {product : ℕ} {before after : PurchaseDesk}
    (same : SameStock product before after) (delta : ℚ) :
    after.averageShift (product, delta) = before.averageShift (product, delta) := by
  have shift : ∀ desk : PurchaseDesk, desk.averageShift (product, delta) =
      if delta ≠ 0 ∧ 0 < desk.valuedQty product then
        (((desk.products.get? product).map (·.averageCost)).map fun average =>
          desk.valuedQty product * (movedAverage average (desk.valuedQty product)
            delta - average)).getD 0
      else 0 := by
    intro desk
    unfold PurchaseDesk.averageShift
    rw [Option.map_map]
    rfl
  rw [shift, shift, same.valued, same.average]

/-- What moving averages does to the desk. -/
structure AveragesMoved (keys : List ℕ) (shift : ℤ) (before after : PurchaseDesk) :
    Prop where
  value : after.stockValue = before.stockValue + shift
  others : ∀ product, product ∉ keys → SameStock product before after
  cash : after.cash = before.cash

theorem applyDelta_ok {row : ℕ × ℚ} {result : PUnit}
    {before after : PurchaseDesk}
    (returned : applyDelta row before = .ok result after) :
    AveragesMoved [row.1] (before.averageShift row) before after := by
  unfold applyDelta at returned
  by_cases nothing : row.2 = 0
  · rw [if_pos nothing, Txn.pure_eq_ok] at returned
    obtain ⟨-, rfl⟩ := returned
    exact
      { value := by simp [PurchaseDesk.averageShift, nothing]
        others := fun _ _ => ⟨rfl, rfl⟩
        cash := rfl }
  · simp only [if_neg nothing, Txn.bind_eq_ok, Txn.get_eq_ok,
      Txn.expect_eq_ok] at returned
    obtain ⟨_, _, ⟨rfl, rfl⟩, product, _, ⟨stored, rfl⟩, returned⟩ := returned
    by_cases counted : 0 < before.valuedQty row.1
    · simp only [if_pos counted, Txn.bind_eq_ok, Txn.require_eq_ok,
        Txn.set_eq_ok] at returned
      obtain ⟨_, _, ⟨_, rfl⟩, rfl⟩ := returned
      exact
        { value := by
            unfold PurchaseDesk.averageShift
            rw [if_pos ⟨nothing, counted⟩, stored]
            have moved := Table.total_modify stored
              (fun old => { old with
                averageCost := movedAverage product.averageCost
                  (before.valuedQty row.1) row.2 })
              (fun pk product => before.valuedQty pk * product.averageCost)
            have split : ∀ count new old : ℤ,
                count * new - count * old = count * (new - old) :=
              fun count new old => (mul_sub count new old).symm
            rw [split] at moved
            exact moved
          others := by
            intro other different
            refine ⟨rfl, ?_⟩
            rw [Table.get?_modify_of_ne _ (by simpa using different)]
          cash := rfl }
    · simp only [if_neg counted, Txn.pure_eq_ok] at returned
      obtain ⟨-, rfl⟩ := returned
      exact
        { value := by simp [PurchaseDesk.averageShift, counted]
          others := fun _ _ => ⟨rfl, rfl⟩
          cash := rfl }

theorem applyDeltas_ok {rows : List (ℕ × ℚ)} {result : PUnit}
    {before after : PurchaseDesk} (nodup : (rows.map Prod.fst).Nodup)
    (returned : applyDeltas rows before = .ok result after) :
    AveragesMoved (rows.map Prod.fst) (rows.map before.averageShift).sum before
      after := by
  induction rows generalizing before with
  | nil =>
      simp only [applyDeltas, Txn.pure_eq_ok] at returned
      obtain ⟨-, rfl⟩ := returned
      exact
        { value := by simp
          others := fun _ _ => ⟨rfl, rfl⟩
          cash := rfl }
  | cons row rows induction =>
      rw [List.map_cons, List.nodup_cons] at nodup
      simp only [applyDeltas, Txn.bind_eq_ok] at returned
      obtain ⟨_, middle, first, others⟩ := returned
      have moved := applyDelta_ok first
      have rest := induction nodup.2 others
      have shifts : rows.map middle.averageShift = rows.map before.averageShift := by
        apply List.map_congr_left
        intro other listed
        refine (moved.others other.1 ?_).averageShift other.2
        rw [List.mem_singleton]
        intro same
        exact nodup.1 (List.mem_map.mpr ⟨other, listed, same⟩)
      exact
        { value := by
            rw [rest.value, shifts, moved.value, List.map_cons, List.sum_cons]
            ring
          others := by
            intro other absent
            rw [List.map_cons, List.mem_cons, not_or] at absent
            have one := moved.others other (by simpa using absent.1)
            have two := rest.others other absent.2
            exact ⟨two.valued.trans one.valued, two.average.trans one.average⟩
          cash := rest.cash.trans moved.cash }

/-- A line of a purchase with its share of the landed costs. -/
structure SharedLine where
  item : PurchaseInvoiceItem
  share : ℚ

namespace SharedLine

def newUnit (line : SharedLine) : ℤ :=
  roundHalfEven (unitCost line.item.quantity line.item.costPrice line.share)

def exactCost (line : SharedLine) : ℚ :=
  line.item.quantity * line.item.costPrice + line.share

def carriedCost (line : SharedLine) : ℚ :=
  line.item.quantity * line.item.effectiveUnitCost

def delta (line : SharedLine) : ℚ :=
  decimal (line.item.quantity *
    decimal (line.newUnit - line.item.effectiveUnitCost))

end SharedLine

def PurchaseDesk.sharedLines (desk : PurchaseDesk) (pk : ℕ)
    (method : CostAllocation) (prices : ℕ → Option ℚ)
    (manual : Option (ℕ → Option ℚ)) : List SharedLine :=
  let shares := (allocate ((desk.withPrices pk prices).recostLines pk)
    (desk.landedCostsTotal pk) method (desk.recostFixed pk manual)).toOption
  List.zipWith (fun row share => ⟨row.2, share⟩) (desk.itemsOf pk)
    ((shares.map Prod.fst).getD [])

def productDeltas (lines : List SharedLine) : List (ℕ × ℚ) :=
  totals (fun total delta => decimal (total + delta)) 0
    (lines.map fun line => (line.item.product, line.delta))

theorem nodup_productDeltas (lines : List SharedLine) :
    ((productDeltas lines).map Prod.fst).Nodup :=
  nodup_keys_totals _

private theorem quantize_ok {value result : ℚ}
    (returned : quantize roundHalfEven value = .ok result) :
    result = roundHalfEven value := by
  unfold quantize at returned
  split at returned
  · exact (Except.ok.inj returned).symm
  · cases returned

private theorem mapM_quantize {α : Type} {values : List α} {cost : α → ℚ}
    {units : List ℚ}
    (returned : values.mapM (fun value => quantize roundHalfEven (cost value)) =
      .ok units) :
    units = values.map fun value => (roundHalfEven (cost value) : ℚ) := by
  induction values generalizing units with
  | nil => exact (Except.ok.inj returned).symm
  | cons value values induction =>
      rw [List.mapM_cons] at returned
      cases first : quantize roundHalfEven (cost value) with
      | error raised =>
          rw [first] at returned
          cases returned
      | ok unit =>
          cases rest : values.mapM
              (fun value => quantize roundHalfEven (cost value)) with
          | error raised =>
              rw [first, rest] at returned
              cases returned
          | ok others =>
              rw [first, rest] at returned
              have whole : units = unit :: others := (Except.ok.inj returned).symm
              rw [whole, quantize_ok first, induction rest]
              rfl

theorem landedUnits_ok {lines : List PurchaseLine} {extraTotal : ℚ}
    {method used : CostAllocation} {fixed : ManualExpenses} {units : List ℚ}
    (returned : landedUnits lines extraTotal method fixed = .ok (units, used)) :
    ∃ shares, allocate lines extraTotal method fixed = .ok (shares, used) ∧
      units = (lines.zip shares).map fun row =>
        (roundHalfEven (unitCost row.1.qty row.1.cost row.2) : ℚ) := by
  unfold landedUnits at returned
  cases allocated : allocate lines extraTotal method fixed with
  | error raised =>
      rw [allocated] at returned
      cases returned
  | ok result =>
      rw [allocated] at returned
      simp only [bind, Except.bind] at returned
      split at returned
      · cases returned
      · rename_i costs computed
        obtain ⟨rfl, rfl⟩ := Prod.mk.inj (Except.ok.inj returned)
        exact ⟨result.1, rfl, mapM_quantize computed⟩

private theorem zip_costs (items : List (ℕ × PurchaseInvoiceItem))
    (shares : List ℚ) (sell : PurchaseInvoiceItem → ℤ) :
    (List.zip items (((items.map fun row =>
        (⟨row.2.quantity, row.2.costPrice, sell row.2⟩ : PurchaseLine)).zip
          shares).map fun row =>
            (roundHalfEven (unitCost row.1.qty row.1.cost row.2) : ℚ))).map
        (fun row => (row.1.2, row.2)) =
      (List.zipWith (fun row share => (⟨row.2, share⟩ : SharedLine)) items
        shares).map fun line => (line.item, (line.newUnit : ℚ)) := by
  induction items generalizing shares with
  | nil => simp
  | cons row items induction =>
      cases shares with
      | nil => simp
      | cons share shares =>
          simp only [List.map_cons, List.zip_cons_cons, List.zipWith_cons_cons,
            induction]
          rfl

theorem recostRows_deltas {desk : PurchaseDesk} {pk : ℕ}
    {method used : CostAllocation} {prices : ℕ → Option ℚ}
    {manual : Option (ℕ → Option ℚ)} {rows : List RecostRow}
    (returned : (desk.withPrices pk prices).recostRows pk method manual =
      .ok (rows, used)) :
    deltas rows = productDeltas (desk.sharedLines pk method prices manual) := by
  unfold PurchaseDesk.recostRows at returned
  simp only [bind, Except.bind] at returned
  split at returned
  · cases returned
  · rename_i units computed
    obtain ⟨rfl, rfl⟩ := Prod.mk.inj (Except.ok.inj returned)
    obtain ⟨shares, allocated, costs⟩ := landedUnits_ok computed
    have shared : desk.sharedLines pk method prices manual =
        List.zipWith (fun row share => ⟨row.2, share⟩) (desk.itemsOf pk) shares := by
      unfold PurchaseDesk.sharedLines
      have same : allocate ((desk.withPrices pk prices).recostLines pk)
          (desk.landedCostsTotal pk) method (desk.recostFixed pk manual) =
          .ok (shares, units.2) := allocated
      rw [same]
      rfl
    have zipped := zip_costs (desk.itemsOf pk) shares
      (desk.withPrices pk prices).sellOf
    unfold deltas productDeltas
    congr 1
    rw [shared, List.map_map, costs]
    have pairs := congrArg (List.map fun pair : PurchaseInvoiceItem × ℚ =>
      (pair.1.product, decimal (pair.1.quantity *
        decimal (pair.2 - pair.1.effectiveUnitCost)))) zipped
    rw [List.map_map, List.map_map] at pairs
    exact pairs

private theorem computed_eq_ok {α : Type} {value : Except DecimalError α}
    {result : α} {before after : PurchaseDesk}
    (returned : computed value before = .ok result after) :
    value = .ok result ∧ after = before := by
  cases value with
  | ok stored =>
      obtain ⟨rfl, rfl⟩ := Txn.pure_eq_ok.mp returned
      exact ⟨rfl, rfl⟩
  | error raised => simp [computed] at returned

private theorem refuse_eq_ok {problem : Option RecostError} {result : PUnit}
    {before after : PurchaseDesk}
    (returned : refuse problem before = .ok result after) :
    problem = none ∧ after = before := by
  cases problem with
  | none =>
      obtain ⟨-, rfl⟩ := Txn.pure_eq_ok.mp returned
      exact ⟨rfl, rfl⟩
  | some problem => simp [refuse] at returned

private theorem withPrices_sameStock (desk : PurchaseDesk) (pk : ℕ)
    (prices : ℕ → Option ℚ) (product : ℕ) :
    SameStock product desk (desk.withPrices pk prices) where
  valued := rfl
  average := by
    unfold PurchaseDesk.withPrices
    rw [Table.get?_map, Option.map_map]
    congr 1
    funext stored
    simp only [Function.comp_apply]
    split
    · rfl
    · rfl

private theorem withPrices_stockValue (desk : PurchaseDesk) (pk : ℕ)
    (prices : ℕ → Option ℚ) :
    (desk.withPrices pk prices).stockValue = desk.stockValue := by
  unfold PurchaseDesk.stockValue PurchaseDesk.withPrices
  rw [Table.total_map]
  apply Table.total_congr
  intro key stored _
  split
  · rfl
  · rfl

/-- Nothing is posted, and the value of the stock changes by the moves of the
averages. -/
theorem recostPurchase_shift {pk : ℕ} {method : CostAllocation}
    {prices : ℕ → Option ℚ} {manual : Option (ℕ → Option ℚ)}
    {result : List RecostRow × CostAllocation} {before after : PurchaseDesk}
    (returned : recostPurchase pk method prices manual before =
      .ok result after) :
    after.cash = before.cash ∧ after.stockValue = before.stockValue +
      ((productDeltas (before.sharedLines pk method prices manual)).map
        before.averageShift).sum := by
  simp only [recostPurchase, Txn.atomic_eq_ok, Txn.bind_eq_ok, Txn.get_eq_ok,
    Txn.expect_eq_ok, Txn.require_eq_ok, Txn.set_eq_ok, Txn.modify_eq_ok,
    Txn.pure_eq_ok] at returned
  obtain ⟨_, _, ⟨rfl, rfl⟩, invoice, _, ⟨_, rfl⟩, _, desk, free, _, _, ⟨_, rfl⟩, _,
    _, rfl, problem, _, checked, _, _, consistent, rows, _, listed, _, moved,
    applied, _, _, ⟨_, rfl⟩, _, _, rfl, rfl, rfl⟩ := returned
  obtain ⟨-, rfl⟩ := refuse_eq_ok free
  obtain ⟨-, rfl⟩ := computed_eq_ok checked
  obtain ⟨-, rfl⟩ := refuse_eq_ok consistent
  obtain ⟨computed, rfl⟩ := computed_eq_ok listed
  rw [recostRows_deltas computed] at applied
  have done := applyDeltas_ok (nodup_productDeltas _) applied
  have shifts : (productDeltas (desk.sharedLines pk method prices manual)).map
      (desk.withPrices pk prices).averageShift =
      (productDeltas (desk.sharedLines pk method prices manual)).map
        desk.averageShift := by
    apply List.map_congr_left
    intro row _
    exact (withPrices_sameStock desk pk prices row.1).averageShift row.2
  have value := done.value
  rw [shifts, withPrices_stockValue] at value
  exact ⟨done.cash, value⟩

end Mousstec.Stock
