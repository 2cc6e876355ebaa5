import Mousstec.Printing.DocumentFacts
import Mousstec.Printing.Transactions

/-!
# Fixed assets and their depreciation

An asset is written off in equal monthly installments until its life ends or it
is disposed of.  One entry for each month and branch carries the installments of
all assets, and a watermark remembers up to which month they were posted; a
disposal closes the cost of its asset against what was accumulated.
-/

namespace Mousstec.Printing

open Library Accounting

namespace PrintFixedAsset

/-- `start`. -/
def start (asset : PrintFixedAsset) : Date :=
  asset.depreciationStart.getD asset.purchaseDate

/-- `depreciable_base`. -/
def depreciableBase (asset : PrintFixedAsset) : ℤ :=
  max (asset.cost - asset.salvageValue - asset.openingAccumulated) 0

/-- `useful_life_months or 1`. -/
def life (asset : PrintFixedAsset) : ℕ :=
  if asset.usefulLifeMonths = 0 then 1 else asset.usefulLifeMonths

def installment (asset : PrintFixedAsset) : ℤ :=
  roundHalfEven (asset.depreciableBase / asset.life)

/-- `depreciation_for_month`, of a month by its index. -/
def depreciationForMonth (asset : PrintFixedAsset) (month : ℕ) : ℤ :=
  if asset.depreciableBase ≤ 0 ∨ month < asset.start.index ∨
      asset.start.index + asset.life ≤ month then 0
  else if asset.disposedOn.any fun day => day.index ≤ month then 0
  else if month + 1 = asset.start.index + asset.life then
    asset.depreciableBase - asset.installment * (asset.life - 1)
  else asset.installment

end PrintFixedAsset

/-- `_months`: the months from one day's to another's. -/
def months (first last : Date) : List (ℕ × ℕ) :=
  monthsFrom (last.index + 1 - first.index) first.year first.month

/-- `accumulated_until`: the loop leaves at a month the day does not complete. -/
def PrintFixedAsset.accumulatedUntil (asset : PrintFixedAsset) (onDate : Date) :
    ℤ :=
  asset.openingAccumulated +
    (((months asset.start onDate).takeWhile fun month =>
      ¬ (onDate.day < monthLength month.1 month.2 ∧
        monthIndex month.1 month.2 = onDate.index)).map fun month =>
      asset.depreciationForMonth (monthIndex month.1 month.2)).sum

/-- `asset_target`. -/
def assetTarget (asset : PrintFixedAsset) : Target :=
  match asset.funding with
  | .credit => [line .fixedAssets asset.cost, line .ap (-asset.cost)]
  | .opening =>
      [line .fixedAssets asset.cost,
        line .accumDepreciation (-asset.openingAccumulated),
        line .openingEquity (-(asset.cost - asset.openingAccumulated))]
  | .cash => []

def closingTarget (asset : PrintFixedAsset) (onDate : Date) : Target :=
  let accumulated := asset.accumulatedUntil onDate
  let gain := asset.disposalAmount - (asset.cost - accumulated)
  [line .accumDepreciation accumulated,
    line .assetDisposal asset.disposalAmount,
    line .fixedAssets (-asset.cost),
    line (if gain > 0 then .assetGain else .assetLoss) (-gain)]

/-- `disposal_target`. -/
def disposalTarget (asset : PrintFixedAsset) : Target :=
  match asset.disposedOn with
  | none => []
  | some day => closingTarget asset day

/-- `sync_fixed_asset`. -/
def syncFixedAsset (pk : ℕ) : PressTxn PUnit := do
  let press ← get
  syncStored (press.shop.fixedAssets.get? pk) fun asset => do
    syncDocument (.asset pk) (assetTarget asset)
      { journalType := if asset.funding = .opening then .opening else .purchase
        date := some asset.purchaseDate.ordinal
        branch := asset.branch }
    syncDocument (.assetDisposal pk) (disposalTarget asset)
      { journalType := .adjustment
        date := asset.disposedOn.map Date.ordinal
        branch := asset.branch }

def Shop.depreciationOf (shop : Shop) (branch : Option ℕ) (month : ℕ) : ℤ :=
  shop.fixedAssets.total fun _ asset =>
    if asset.branch = branch then asset.depreciationForMonth month else 0

def postedBranches (books : Books) (year month : ℕ) : List (Option ℕ) :=
  (books.entries.rows.map Prod.snd).filterMap fun entry =>
    match entry.reference with
    | .print (.depreciation y m (some branch)) =>
        if y = year ∧ m = month then some (some branch) else none
    | _ => none

def depreciationBranches (press : Press) (year month : ℕ) : List (Option ℕ) :=
  ((press.shop.fixedAssets.rows.map Prod.snd).map PrintFixedAsset.branch ++
    postedBranches press.books year month ++ [none]).eraseDups

def depreciationTarget (total : ℤ) : Target :=
  [line .depreciation total, line .accumDepreciation (-total)]

/-- `_month_end`. -/
def monthEndDay (year month : ℕ) : Option ℤ :=
  if valid : 1 ≤ month ∧ month ≤ 12 then some (Date.endOf year month valid).ordinal
  else none

/-- `sync_depreciation_month`. -/
def syncDepreciationMonth (year month : ℕ) : PressTxn PUnit := do
  let press ← get
  forM (depreciationBranches press year month) fun branch =>
    syncDocument (.depreciation year month branch)
      (depreciationTarget
        (press.shop.depreciationOf branch (monthIndex year month)))
      { journalType := .adjustment, date := monthEndDay year month, branch }

/-- `last_completed_month_end`. -/
def lastCompletedMonthEnd (today : Date) : Date :=
  if today = today.monthEnd then today.monthEnd else today.previousMonthEnd

def Shop.earliestStart (shop : Shop) : Option Date :=
  shop.fixedAssets.rows.foldr (fun row earliest =>
    match earliest with
    | none => some row.2.start
    | some day => some (Date.earlier row.2.start day)) none

def Press.depreciationFrom (press : Press) (through : Date) :
    Option Date → Option Date
  | some day => some day
  | none =>
      match press.depreciationThrough with
      | some watermark =>
          if through ≤ watermark then none else some watermark.next
      | none => press.shop.earliestStart

def monthsToPost (through : Date) : Option Date → List (ℕ × ℕ)
  | none => []
  | some day => if day ≤ through then months day through else []

def raisedWatermark (through : Date) : Option Date → Option Date
  | none => some through
  | some watermark =>
      if through ≤ watermark then some watermark else some through

/-- `ensure_depreciation`. -/
def ensureDepreciation (rebuildFrom : Option Date) : PressTxn PUnit := do
  let press ← get
  let through := lastCompletedMonthEnd press.today
  forM (monthsToPost through (press.depreciationFrom through rebuildFrom))
    fun month => safely (syncDepreciationMonth month.1 month.2)
  modify fun current =>
    { current with
      depreciationThrough := raisedWatermark through press.depreciationThrough }

/-- Validators and `clean`. -/
def cleanAsset (isNew : Bool) (asset : PrintFixedAsset) : ShopTxn PUnit := do
  Txn.require (1 ≤ asset.cost) (.belowMinimum "cost" "0.01")
  Txn.require (0 ≤ asset.salvageValue) (.belowMinimum "salvage_value" "0.00")
  Txn.require (1 ≤ asset.usefulLifeMonths)
    (.belowMinimum "useful_life_months" "1")
  Txn.require (0 ≤ asset.openingAccumulated)
    (.belowMinimum "opening_accumulated" "0.00")
  Txn.require (0 ≤ asset.disposalAmount)
    (.belowMinimum "disposal_amount" "0.00")
  Txn.require (asset.salvageValue ≤ asset.cost) .salvageAboveCost
  Txn.require (asset.openingAccumulated = 0 ∨ asset.funding = .opening)
    .openingFundingOnly
  Txn.require (asset.funding ≠ .credit ∨ asset.supplier.isSome)
    .creditWithoutSupplier
  Txn.require (asset.funding ≠ .cash ∨ isNew = false ∨ asset.treasury.isSome)
    .assetWithoutTreasury
  Txn.require (asset.disposalAmount = 0 ∨ asset.disposalTreasury.isSome)
    .disposalWithoutTreasury
  Txn.require ((asset.disposedOn.all fun day => asset.purchaseDate ≤ day) = true)
    .disposedBeforePurchase

def PrintFixedAsset.price (asset : PrintFixedAsset) :
    ℤ × AssetFunding × Option ℕ :=
  (asset.cost, asset.funding, asset.treasury)

def PrintFixedAsset.disposal (asset : PrintFixedAsset) :
    Option Date × ℤ × Option ℕ :=
  (asset.disposedOn, asset.disposalAmount, asset.disposalTreasury)

def refuseFixed (asset : PrintFixedAsset) :
    Option PrintFixedAsset → ShopTxn PUnit
  | none => pure ⟨⟩
  | some old => do
      Txn.require (old.funding ≠ .cash ∨ old.price = asset.price)
        .assetPriceFixed
      Txn.require (old.disposedOn = none ∨ old.disposal = asset.disposal)
        .disposalFixed

def storedAsset (shop : Shop) : Option ℕ → ShopTxn (Option PrintFixedAsset)
  | none => pure none
  | some pk => do
      let old ← Txn.expect (shop.fixedAssets.get? pk)
        (.doesNotExist "PrintFixedAsset")
      pure (some old)

inductive AssetField where
  | funding
  | treasury
  | cost
  | disposedOn
  | disposalAmount
  | disposalTreasury
  deriving DecidableEq

/-- `get_readonly_fields` of the admin's form, without the summary. -/
def getReadonlyFields : Option PrintFixedAsset → List AssetField
  | none => []
  | some old =>
      .funding ::
        ((if old.funding = .cash then [.treasury, .cost] else []) ++
          if old.disposedOn.isSome then
            [.disposedOn, .disposalAmount, .disposalTreasury]
          else [])

/-- What the form saves: a read-only field keeps its stored value, whatever
was sent. -/
def formAsset (asset : PrintFixedAsset) : Option PrintFixedAsset → PrintFixedAsset
  | none => asset
  | some old =>
      let fixed field := decide (field ∈ getReadonlyFields (some old))
      { asset with
        funding := if fixed .funding then old.funding else asset.funding
        treasury := if fixed .treasury then old.treasury else asset.treasury
        cost := if fixed .cost then old.cost else asset.cost
        disposedOn :=
          if fixed .disposedOn then old.disposedOn else asset.disposedOn
        disposalAmount :=
          if fixed .disposalAmount then old.disposalAmount
          else asset.disposalAmount
        disposalTreasury :=
          if fixed .disposalTreasury then old.disposalTreasury
          else asset.disposalTreasury }

@[simp] theorem formAsset_funding (asset old : PrintFixedAsset) :
    (formAsset asset (some old)).funding = old.funding := by
  simp [formAsset, getReadonlyFields]

def Shop.putAsset (shop : Shop) (pk : Option ℕ) (asset : PrintFixedAsset) :
    Shop :=
  { shop with
    fixedAssets :=
      match pk with
      | none => shop.fixedAssets.insert asset
      | some pk => shop.fixedAssets.modify pk fun _ => asset }

def earliestOf (first : Date) : Option Date → Date
  | none => first
  | some second => Date.earlier second first

/-- `on_asset_changed` of a stored asset: the depreciation comes first, so that
what a disposal closes is posted. -/
def onAssetChanged (pk : ℕ) (asset : PrintFixedAsset) (supplier : Option ℕ)
    (rebuildFrom : Option Date) : PressTxn PUnit := do
  ensureDepreciation (some (earliestOf asset.start rebuildFrom))
  safely (syncFixedAsset pk)
  forM (parties supplier asset.supplier) fun party =>
    safely (syncSupplier party)

/-- `except ValueError` around the payments of an asset. -/
def assetShortage : ShopError → ShopError
  | .insufficientBalance => .assetShort
  | raised => raised

/-- Creates a transaction of an asset and posts it.  Such a transaction
withholds no tax, so it has no companion. -/
def payAsset (txn : PrintTransaction) : PressTxn PUnit := do
  let pk ← onShop (Txn.mapError assetShortage (createTransaction txn))
  onTxnChanged pk none none

def PrintFixedAsset.payment (asset : PrintFixedAsset) (pk treasury : ℕ) :
    PrintTransaction where
  treasury
  transactionType := .moneyOut
  amount := asset.cost
  fixedAsset := some pk
  date := asset.purchaseDate.ordinal
  description := "شراء أصل ثابت — " ++ asset.name

def PrintFixedAsset.receipt (asset : PrintFixedAsset) (pk treasury : ℕ)
    (today : Date) : PrintTransaction where
  treasury
  transactionType := .moneyIn
  amount := asset.disposalAmount
  fixedAsset := some pk
  date := today.ordinal
  description := "بيع أصل ثابت — " ++ asset.name

def payPrice (pk : ℕ) (isNew : Bool) (asset : PrintFixedAsset) :
    PressTxn PUnit :=
  match asset.treasury with
  | none => pure ⟨⟩
  | some treasury =>
      if isNew = true ∧ asset.funding = .cash then
        payAsset (asset.payment pk treasury)
      else pure ⟨⟩

def PrintFixedAsset.sold (asset : PrintFixedAsset) : Bool :=
  asset.disposedOn.isSome && asset.disposalAmount ≠ 0

def receiveSale (pk : ℕ) (today : Date) (old : Option PrintFixedAsset)
    (asset : PrintFixedAsset) : PressTxn PUnit :=
  match asset.disposalTreasury with
  | none => pure ⟨⟩
  | some treasury =>
      if asset.sold = true ∧ old.any PrintFixedAsset.sold = false then
        payAsset (asset.receipt pk treasury today)
      else pure ⟨⟩

/-- `save`, with the form before it and the signals around it. -/
def saveAsset (pk : Option ℕ) (sent : PrintFixedAsset) : PressTxn ℕ :=
  Txn.atomic do
    let press ← get
    let old ← onShop (storedAsset press.shop pk)
    let asset := formAsset sent old
    onShop (cleanAsset pk.isNone asset)
    onShop (refuseFixed asset old)
    let key := pk.getD press.shop.fixedAssets.next
    onShop (modify fun shop => shop.putAsset pk asset)
    onAssetChanged key asset (old.bind PrintFixedAsset.supplier)
      (old.map PrintFixedAsset.start)
    payPrice key pk.isNone asset
    receiveSale key press.today old asset
    pure key

def Shop.assetPayments (shop : Shop) (pk : ℕ) : List (ℕ × PrintTransaction) :=
  shop.transactions.rows.filter fun row => row.2.fixedAsset = some pk

/-- `delete`: the payments go first, then the row and its entries. -/
def deleteAsset (pk : ℕ) : PressTxn PUnit := Txn.atomic do
  let press ← get
  let asset ← Txn.expect (press.shop.fixedAssets.get? pk)
    (.shop (.doesNotExist "PrintFixedAsset"))
  forM (press.shop.assetPayments pk) fun row => do
    onShop (deleteTransaction { deletingWithAsset := true } row.1)
    onTxnChanged row.1 row.2.customer row.2.supplier
  onShop (modify fun shop =>
    { shop with fixedAssets := shop.fixedAssets.erase pk })
  safely (unpostDocument (.asset pk))
  safely (unpostDocument (.assetDisposal pk))
  ensureDepreciation (some asset.start)
  followParty syncSupplier asset.supplier

end Mousstec.Printing
