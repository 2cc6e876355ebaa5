import Mousstec.Library.Grouping
import Mousstec.Library.Transaction
import Mousstec.Stock.PurchaseInvoices

/-!
# Allocating the landed costs anew

The landed costs of a posted purchase are shared out again, by value or by
margin, at new selling prices or with expenses set by hand.  Quantities and
amounts stay, so the averages move by the difference and no entry is posted.
-/

namespace Mousstec.Stock

open Library Accounting Cash

/-- What keeps a purchase from being allocated anew. -/
inductive RecostBlocker where
  | notPosted
  | returned
  | sold (items : List (String × ℤ × ℤ))
  deriving DecidableEq

def RecostBlocker.text : RecostBlocker → String
  | .notPosted => "الفاتورة مش معتمدة — التوزيع بيتحسب لما تتعتمد."
  | .returned => "الفاتورة عليها مرتجع للمورد — مينفعش نغيّر توزيع تكلفتها."
  | .sold items =>
      "اتباع من أصناف الفاتورة دي، فتكلفتها دخلت في المبيعات خلاص: " ++
        "، ".intercalate ((items.take 6).map fun item =>
          s!"«{item.1}» (موجود {item.2.1} من {item.2.2})") ++
        if 6 < items.length then "…" else ""

inductive RecostError where
  | doesNotExist (model : String)
  | blocked (blocker : RecostBlocker)
  | manual (problem : ManualProblem)
  | decimal (raised : DecimalError)
  | outOfRange
  deriving DecidableEq

abbrev RecostTxn (α : Type) := Txn RecostError PurchaseDesk α

def computed {α : Type} : Except DecimalError α → RecostTxn α
  | .ok value => pure value
  | .error raised => throw (.decimal raised)

def refuse : Option RecostError → RecostTxn PUnit
  | none => pure ⟨⟩
  | some problem => throw problem

def PurchaseDesk.itemsOf (desk : PurchaseDesk) (pk : ℕ) :
    List (ℕ × PurchaseInvoiceItem) :=
  desk.items.rows.filter fun row => row.2.invoice = pk

/-- `landed_costs_total`. -/
def PurchaseDesk.landedCostsTotal (desk : PurchaseDesk) (pk : ℕ) : ℤ :=
  desk.cash.extraCosts.total fun _ cost =>
    if cost.invoice = pk ∧ cost.isLanded = true then cost.amount else 0

def PurchaseDesk.onHandAt (desk : PurchaseDesk) (product branch : ℕ) : ℤ :=
  desk.inventory.total fun _ row =>
    if row.product = product ∧ row.branch = branch then row.quantity else 0

def PurchaseDesk.soldItems (desk : PurchaseDesk) (pk branch : ℕ) :
    List (String × ℤ × ℤ) :=
  (totals (· + ·) 0 ((desk.itemsOf pk).map fun row =>
      (row.2.product, row.2.quantity))).filterMap fun need =>
    let onHand := desk.onHandAt need.1 branch
    if onHand < need.2 then
      some (((desk.products.get? need.1).map (·.name)).getD "", onHand, need.2)
    else none

/-- `recost_blockers`: at most one is found. -/
def PurchaseDesk.recostBlocker (desk : PurchaseDesk) (pk : ℕ)
    (invoice : PurchaseInvoice) : Option RecostBlocker :=
  if ¬ (invoice.status = .posted ∧ invoice.isApplied = true) then some .notPosted
  else if invoice.returnedAmount ≠ 0 ∨
      (desk.itemsOf pk).any (fun row => 0 < row.2.returnedQuantity) = true then
    some .returned
  else
    match desk.soldItems pk invoice.branch with
    | [] => none
    | items => some (.sold items)

def newRetail (prices : ℕ → Option ℚ) (pk : ℕ) (product : StockedProduct) : ℤ :=
  let price := (prices pk).getD 0
  if 0 < price ∧ price ≠ product.retailPrice then roundHalfUp price
  else product.retailPrice

def PurchaseDesk.withPrices (desk : PurchaseDesk) (pk : ℕ)
    (prices : ℕ → Option ℚ) : PurchaseDesk :=
  { desk with
    products := desk.products.map fun key product =>
      if (desk.itemsOf pk).any (fun row => row.2.product = key) = true then
        { product with retailPrice := newRetail prices key product }
      else product }

/-- The expense of a piece of a line that is set by hand; without a choice the
stored one. -/
def chosenManual (manual : Option (ℕ → Option ℚ))
    (row : ℕ × PurchaseInvoiceItem) : Option ℚ :=
  match manual with
  | none => row.2.manualExtraUnit.map fun unit => (unit : ℚ)
  | some chosen => chosen row.1

def PurchaseDesk.sellOf (desk : PurchaseDesk) (item : PurchaseInvoiceItem) : ℤ :=
  ((desk.products.get? item.product).map StockedProduct.retailPrice).getD 0

/-- `_recost_inputs`: the lines at the stored selling prices. -/
def PurchaseDesk.recostLines (desk : PurchaseDesk) (pk : ℕ) : List PurchaseLine :=
  (desk.itemsOf pk).map fun row =>
    ⟨row.2.quantity, row.2.costPrice, desk.sellOf row.2⟩

def PurchaseDesk.recostFixed (desk : PurchaseDesk) (pk : ℕ)
    (manual : Option (ℕ → Option ℚ)) : ManualExpenses :=
  fun line => ((desk.itemsOf pk)[line]?).bind (chosenManual manual)

def unitCost (qty cost share : ℚ) : ℚ :=
  decimal (cost + decimal (share / if qty = 0 then 1 else qty))

/-- `landed_units`. -/
def landedUnits (lines : List PurchaseLine) (extraTotal : ℚ)
    (method : CostAllocation) (fixed : ManualExpenses) :
    Except DecimalError (List ℚ × CostAllocation) := do
  let allocated ← allocate lines extraTotal method fixed
  let units ← (lines.zip allocated.1).mapM fun row =>
    quantize roundHalfEven (unitCost row.1.qty row.1.cost row.2)
  .ok (units, allocated.2)

/-- A row of `recost_rows`. -/
structure RecostRow where
  item : ℕ
  product : ℕ
  qty : ℤ
  cost : ℤ
  sell : ℤ
  oldUnit : ℤ
  newUnit : ℚ
  manual : Option ℚ
  extraUnit : ℚ
  oldProfit : ℚ
  newProfit : ℚ
  deriving DecidableEq

def PurchaseDesk.recostRow (desk : PurchaseDesk)
    (manual : Option (ℕ → Option ℚ)) (row : ℕ × PurchaseInvoiceItem)
    (newUnit : ℚ) : RecostRow :=
  let sell := desk.sellOf row.2
  let oldUnit := row.2.effectiveUnitCost
  { item := row.1
    product := row.2.product
    qty := row.2.quantity
    cost := row.2.costPrice
    sell
    oldUnit
    newUnit
    manual := chosenManual manual row
    extraUnit := decimal (newUnit - row.2.costPrice)
    oldProfit := decimal (sell - oldUnit)
    newProfit := decimal (sell - newUnit) }

/-- `recost_rows`. -/
def PurchaseDesk.recostRows (desk : PurchaseDesk) (pk : ℕ)
    (method : CostAllocation) (manual : Option (ℕ → Option ℚ)) :
    Except DecimalError (List RecostRow × CostAllocation) := do
  let units ← landedUnits (desk.recostLines pk) (desk.landedCostsTotal pk) method
    (desk.recostFixed pk manual)
  .ok ((List.zip (desk.itemsOf pk) units.1).map fun row =>
    desk.recostRow manual row.1 row.2, units.2)

def RecostRow.delta (row : RecostRow) : ℚ :=
  decimal (row.qty * decimal (row.newUnit - row.oldUnit))

def deltas (rows : List RecostRow) : List (ℕ × ℚ) :=
  totals (fun total delta => decimal (total + delta)) 0
    (rows.map fun row => (row.product, row.delta))

def movedAverage (average onHand : ℤ) (delta : ℚ) : ℤ :=
  roundHalfUp (max (decimal (decimal (decimal (average * onHand) + delta) / onHand)) 0)

def applyDelta (row : ℕ × ℚ) : RecostTxn PUnit :=
  if row.2 = 0 then pure ⟨⟩
  else do
    let desk ← get
    let product ← Txn.expect (desk.products.get? row.1) (.doesNotExist "Product")
    let onHand := desk.valuedQty row.1
    if 0 < onHand then do
      let average := movedAverage product.averageCost onHand row.2
      Txn.require (average < 10 ^ 10) .outOfRange
      set { desk with
        products := desk.products.modify row.1 fun stored =>
          { stored with averageCost := average } }
    else pure ⟨⟩

def applyDeltas : List (ℕ × ℚ) → RecostTxn PUnit
  | [] => pure ⟨⟩
  | row :: rows => do
      applyDelta row
      applyDeltas rows

def PurchaseDesk.withCosts (desk : PurchaseDesk) (rows : List RecostRow) :
    PurchaseDesk :=
  { desk with
    items := rows.foldl (fun items row => items.modify row.item fun stored =>
      { stored with
        landedUnitCost := roundHalfUp row.newUnit
        manualExtraUnit := row.manual.map roundHalfUp }) desk.items }

def RecostRow.fits (row : RecostRow) : Bool :=
  |roundHalfUp row.newUnit| < 10 ^ 10 ∧
    row.manual.all fun unit => |roundHalfUp unit| < 10 ^ 10

/-- `recost_purchase`; prices and manual expenses are in cents. -/
def recostPurchase (pk : ℕ) (method : CostAllocation) (prices : ℕ → Option ℚ)
    (manual : Option (ℕ → Option ℚ)) :
    RecostTxn (List RecostRow × CostAllocation) :=
  Txn.atomic do
    let desk ← get
    let invoice ← Txn.expect (desk.purchases.get? pk)
      (.doesNotExist "PurchaseInvoice")
    refuse ((desk.recostBlocker pk invoice).map .blocked)
    let priced := desk.withPrices pk prices
    Txn.require ((priced.products.rows.all fun row =>
      |row.2.retailPrice| < 10 ^ 10) = true) .outOfRange
    set priced
    let problem ← computed (manualProblem (priced.recostLines pk)
      (priced.landedCostsTotal pk) (priced.recostFixed pk manual))
    refuse (problem.map .manual)
    let result ← computed (priced.recostRows pk method manual)
    applyDeltas (deltas result.1)
    Txn.require (result.1.all RecostRow.fits = true) .outOfRange
    modify fun desk =>
      { desk.withCosts result.1 with
        purchases := desk.purchases.modify pk fun stored =>
          { stored with costAllocation := method } }
    pure result

end Mousstec.Stock
