import Mousstec.Printing.DepreciationRuns

/-!
# What a disposal leaves of an asset

The entries of an asset are its purchase and disposal, the payments linked to
it, and its share of the monthly installments.  After a disposal they cancel on
the accounts of assets, and what is left is the difference between what the
asset cost and what it brought.  The purchase price reaches the ledger either
with the asset's own entry or with its payment, by its funding, so an asset
whose funding becomes cash afterwards has neither.
-/

namespace Mousstec.Printing

open Library Accounting

def Press.paymentsOn (press : Press) (pk : ℕ) (acct : Account) : ℤ :=
  press.shop.transactions.total fun key txn =>
    if txn.fixedAsset = some pk then
      ledgerOf press.books (.transaction key) acct
    else 0

/-- What the entry of a month holds on an account beyond the installments of
the other assets. -/
def Press.shareOn (press : Press) (pk : ℕ) (asset : PrintFixedAsset)
    (acct : Account) (month : ℕ × ℕ) : ℤ :=
  ledgerOf press.books (.depreciation month.1 month.2 asset.branch) acct -
    targetNet (depreciationTarget
      (({ press.shop with fixedAssets := press.shop.fixedAssets.erase pk } :
        Shop).depreciationOf asset.branch (monthIndex month.1 month.2))) acct

def monthsBefore (first last : Date) : List (ℕ × ℕ) :=
  monthsFrom (last.index - first.index) first.year first.month

def Press.assetOn (press : Press) (pk : ℕ) (asset : PrintFixedAsset)
    (day : Date) (key : PrintAccountKey) : ℤ :=
  let acct := (PRINT_ACCOUNTS key).1
  ledgerOf press.books (.asset pk) acct +
    ledgerOf press.books (.assetDisposal pk) acct +
    press.paymentsOn pk acct +
    ((monthsBefore asset.start day).map (press.shareOn pk asset acct)).sum

/-- The entries of an asset are synchronised, and the months up to its disposal
are posted. -/
structure Settled (press : Press) (pk : ℕ) (asset : PrintFixedAsset)
    (day : Date) : Prop where
  purchase : Shows press.books (.asset pk) (assetTarget asset)
  disposal : Shows press.books (.assetDisposal pk) (disposalTarget asset)
  payments : ∀ key txn, press.shop.transactions.get? key = some txn →
    txn.fixedAsset = some pk → ∃ treasury,
      press.shop.treasuries.get? txn.treasury = some treasury ∧
        Shows press.books (.transaction key)
          (txnTarget txn (.row (treasuryCode txn.treasury treasury.kind)))
  months : ∀ month ∈ monthsBefore asset.start day,
    MonthPosted press month.1 month.2

structure Closed (press : Press) (pk : ℕ) (asset : PrintFixedAsset)
    (day : Date) : Prop where
  fixedAssets : press.assetOn pk asset day .fixedAssets = 0
  accumulated : press.assetOn pk asset day .accumDepreciation = 0
  clearing : press.assetOn pk asset day .assetDisposal = 0
  charged : press.assetOn pk asset day .depreciation +
      press.assetOn pk asset day .assetGain +
      press.assetOn pk asset day .assetLoss =
    asset.cost - asset.openingAccumulated - asset.disposalAmount

def PrintFixedAsset.writtenOff (asset : PrintFixedAsset) (day : Date) : ℤ :=
  ((monthsBefore asset.start day).map fun month =>
    asset.depreciationForMonth (monthIndex month.1 month.2)).sum

/-- The disposal entry takes out what was written off: its own rules of month
and day only differ on the month of the disposal, which has no installment. -/
theorem accumulatedUntil_disposal {asset : PrintFixedAsset} {day : Date}
    (disposed : asset.disposedOn = some day) :
    asset.accumulatedUntil day =
      asset.openingAccumulated + asset.writtenOff day := by
  unfold PrintFixedAsset.accumulatedUntil PrintFixedAsset.writtenOff
  congr 1
  rcases Nat.lt_or_ge day.index asset.start.index with future | started
  · have none : day.index + 1 - asset.start.index = 0 := by omega
    have none' : day.index - asset.start.index = 0 := by omega
    rw [months, monthsBefore, none, none']
    rfl
  · obtain ⟨last, split, index⟩ := monthsFrom_succ
      (day.index - asset.start.index) asset.start.year asset.start.month
    have count : day.index + 1 - asset.start.index =
        day.index - asset.start.index + 1 := by omega
    have lastIndex : monthIndex last.1 last.2 = day.index := by
      change _ = asset.start.index + _ at index
      omega
    have free : asset.depreciationForMonth (monthIndex last.1 last.2) = 0 := by
      simp [PrintFixedAsset.depreciationForMonth, disposed, lastIndex]
    rw [months, count, split, List.takeWhile_append_of_pos]
    · rw [List.map_append, List.sum_append, monthsBefore]
      have tail : ∀ keep : ℕ × ℕ → Bool,
          ((List.takeWhile keep [last]).map fun month =>
            asset.depreciationForMonth (monthIndex month.1 month.2)).sum = 0 := by
        intro keep
        by_cases kept : keep last = true
        · simp [kept, free]
        · simp [kept]
      rw [tail, add_zero]
    · intro month member
      rw [mem_monthsFrom asset.start.month_valid] at member
      obtain ⟨_, _, upper⟩ := member
      change _ < asset.start.index + _ at upper
      rw [decide_eq_true_eq]
      rintro ⟨_, same⟩
      omega

def assetCategory : TransactionType → Category
  | .moneyOut => .fixedAsset
  | .moneyIn => .assetSale

/-- The payments linked to assets carry the categories of assets, and nothing
is withheld from them. -/
def AssetPayments (shop : Shop) : Prop :=
  ∀ key txn, shop.transactions.get? key = some txn →
    ∀ owner, txn.fixedAsset = some owner →
      owner < shop.fixedAssets.next ∧ txn.withholdingTxn = none ∧
        txn.category = some (assetCategory txn.transactionType)

/-- The payments of an asset are its price, if it was bought for cash, and its
proceeds, if it is disposed of. -/
structure Financed (shop : Shop) (pk : ℕ) (asset : PrintFixedAsset) : Prop where
  opening : asset.openingAccumulated = 0 ∨ asset.funding = .opening
  paid : shop.outs (·.fixedAsset = some pk) =
    if asset.funding = .cash then asset.cost else 0
  received : shop.ins (·.fixedAsset = some pk) =
    if asset.disposedOn.isSome then asset.disposalAmount else 0

theorem paymentsOn_eq {press : Press} {pk : ℕ} {asset : PrintFixedAsset}
    {day : Date} (linked : AssetPayments press.shop)
    (settled : Settled press pk asset day) (key : PrintAccountKey) :
    press.paymentsOn pk (PRINT_ACCOUNTS key).1 =
      (if (PRINT_ACCOUNTS .fixedAssets).1 = (PRINT_ACCOUNTS key).1 then
        press.shop.outs (·.fixedAsset = some pk) else 0) -
      (if (PRINT_ACCOUNTS .assetDisposal).1 = (PRINT_ACCOUNTS key).1 then
        press.shop.ins (·.fixedAsset = some pk) else 0) := by
  have entry : press.paymentsOn pk (PRINT_ACCOUNTS key).1 =
      press.shop.transactions.total fun _ txn =>
        (if txn.fixedAsset = some pk ∧ txn.transactionType = .moneyOut then
          (if (PRINT_ACCOUNTS .fixedAssets).1 = (PRINT_ACCOUNTS key).1 then
            txn.amount else 0) else 0) -
        (if txn.fixedAsset = some pk ∧ txn.transactionType = .moneyIn then
          (if (PRINT_ACCOUNTS .assetDisposal).1 = (PRINT_ACCOUNTS key).1 then
            txn.amount else 0) else 0) := by
    apply Table.total_congr
    intro number txn stored
    by_cases own : txn.fixedAsset = some pk
    · obtain ⟨_, _, category⟩ := linked number txn stored pk own
      obtain ⟨treasury, _, shown⟩ := settled.payments number txn stored own
      rw [if_pos own, shown, targetNet_txnTarget]
      cases type : txn.transactionType with
      | moneyOut =>
          simp [PrintTransaction.counterAccount, category, type, assetCategory,
            TXN_COUNTER_ACCOUNT, PrintTransaction.effect, signed, own]
      | moneyIn =>
          simp [PrintTransaction.counterAccount, category, type, assetCategory,
            TXN_COUNTER_ACCOUNT, PrintTransaction.effect, signed, own]
          split <;> ring
    · simp [own]
  rw [entry, Table.total_sub]
  unfold Shop.outs Shop.ins
  congr 1
  · split
    · simp
    · simp [Table.total]
  · split
    · simp
    · simp [Table.total]

theorem shareOn_eq {press : Press} {pk : ℕ} {asset : PrintFixedAsset}
    {month : ℕ × ℕ} (stored : press.shop.fixedAssets.get? pk = some asset)
    (posted : MonthPosted press month.1 month.2) (acct : Account) :
    press.shareOn pk asset acct month =
      targetNet (depreciationTarget
        (asset.depreciationForMonth (monthIndex month.1 month.2))) acct := by
  have others : ({ press.shop with
      fixedAssets := press.shop.fixedAssets.erase pk } :
        Shop).depreciationOf asset.branch (monthIndex month.1 month.2) =
      press.shop.depreciationOf asset.branch (monthIndex month.1 month.2) -
        asset.depreciationForMonth (monthIndex month.1 month.2) := by
    rw [Shop.depreciationOf]
    simp only
    rw [Table.total_erase stored, if_pos rfl]
    rfl
  rw [Press.shareOn, posted, others]
  simp only [depreciationTarget, targetNet_line, targetNet_nil]
  split <;> split <;> ring

theorem sum_shareOn {press : Press} {pk : ℕ} {asset : PrintFixedAsset}
    {day : Date} (stored : press.shop.fixedAssets.get? pk = some asset)
    (settled : Settled press pk asset day) (acct : Account) :
    ((monthsBefore asset.start day).map (press.shareOn pk asset acct)).sum =
      targetNet (depreciationTarget (asset.writtenOff day)) acct := by
  have shares : (monthsBefore asset.start day).map
      (press.shareOn pk asset acct) =
      (monthsBefore asset.start day).map fun month =>
        targetNet (depreciationTarget
          (asset.depreciationForMonth (monthIndex month.1 month.2))) acct :=
    List.map_congr_left fun month member =>
      shareOn_eq stored (settled.months month member) acct
  rw [shares]
  unfold PrintFixedAsset.writtenOff
  induction monthsBefore asset.start day with
  | nil => simp [depreciationTarget]
  | cons month rest induction =>
      simp only [List.map_cons, List.sum_cons, induction]
      simp only [depreciationTarget, targetNet_line, targetNet_nil]
      split <;> split <;> ring

theorem targetNet_closingTarget (asset : PrintFixedAsset) (day : Date)
    {key : PrintAccountKey} (gain : key ≠ .assetGain) (loss : key ≠ .assetLoss) :
    targetNet (closingTarget asset day) (PRINT_ACCOUNTS key).1 =
      (if .accumDepreciation = key then asset.accumulatedUntil day else 0) +
        (if .assetDisposal = key then asset.disposalAmount else 0) -
        (if .fixedAssets = key then asset.cost else 0) := by
  have other : (if asset.disposalAmount -
      (asset.cost - asset.accumulatedUntil day) > 0 then
        PrintAccountKey.assetGain else .assetLoss) ≠ key := by
    split
    · exact Ne.symm gain
    · exact Ne.symm loss
  simp only [closingTarget, targetNet_line, targetNet_nil, account_inj,
    if_neg other]
  by_cases cost : PrintAccountKey.fixedAssets = key
  · rw [if_pos cost, if_pos cost]
    ring
  · rw [if_neg cost, if_neg cost]
    ring

theorem targetNet_closingTarget_result (asset : PrintFixedAsset) (day : Date) :
    targetNet (closingTarget asset day) (PRINT_ACCOUNTS .assetGain).1 +
        targetNet (closingTarget asset day) (PRINT_ACCOUNTS .assetLoss).1 =
      asset.cost - asset.accumulatedUntil day - asset.disposalAmount := by
  by_cases profit :
      asset.disposalAmount - (asset.cost - asset.accumulatedUntil day) > 0
  · simp only [closingTarget, if_pos profit, targetNet_line, targetNet_nil,
      account_inj]
    simp
  · simp only [closingTarget, if_neg profit, targetNet_line, targetNet_nil,
      account_inj]
    simp

theorem targetNet_assetTarget (asset : PrintFixedAsset) {key : PrintAccountKey}
    (payable : key ≠ .ap) (equity : key ≠ .openingEquity) :
    targetNet (assetTarget asset) (PRINT_ACCOUNTS key).1 =
      (if .fixedAssets = key then
        if asset.funding = .cash then 0 else asset.cost else 0) -
      (if .accumDepreciation = key then
        if asset.funding = .opening then asset.openingAccumulated else 0
        else 0) := by
  cases funding : asset.funding with
  | cash => simp [assetTarget, funding]
  | credit => simp [assetTarget, funding, Ne.symm payable]
  | opening =>
      simp only [assetTarget, funding, targetNet_line, targetNet_nil,
        account_inj, if_neg (Ne.symm equity)]
      by_cases accumulated : PrintAccountKey.accumDepreciation = key
      · simp [accumulated, sub_eq_add_neg]
      · simp [accumulated]

/-- Once everything is posted, the disposal of an asset whose payments match
closes it. -/
theorem Financed.closed {press : Press} {pk : ℕ} {asset : PrintFixedAsset}
    {day : Date} (financed : Financed press.shop pk asset)
    (linked : AssetPayments press.shop)
    (stored : press.shop.fixedAssets.get? pk = some asset)
    (disposed : asset.disposedOn = some day)
    (settled : Settled press pk asset day) : Closed press pk asset day := by
  have received := financed.received
  rw [disposed, Option.isSome_some, if_pos rfl] at received
  have own : ∀ key, press.assetOn pk asset day key =
      targetNet (assetTarget asset) (PRINT_ACCOUNTS key).1 +
        targetNet (closingTarget asset day) (PRINT_ACCOUNTS key).1 +
        ((if .fixedAssets = key then
            if asset.funding = .cash then asset.cost else 0 else 0) -
          (if .assetDisposal = key then asset.disposalAmount else 0)) +
        ((if .depreciation = key then asset.writtenOff day else 0) -
          (if .accumDepreciation = key then asset.writtenOff day else 0)) := by
    intro key
    have closing : disposalTarget asset = closingTarget asset day := by
      rw [disposalTarget, disposed]
    rw [Press.assetOn, sum_shareOn stored settled, settled.purchase,
      settled.disposal, closing, paymentsOn_eq linked settled, financed.paid,
      received]
    simp only [depreciationTarget, targetNet_line, targetNet_nil, account_inj]
    by_cases writing : PrintAccountKey.accumDepreciation = key
    · rw [if_pos writing, if_pos writing]
      ring
    · rw [if_neg writing, if_neg writing]
      ring
  have accumulated := accumulatedUntil_disposal disposed
  constructor
  · rw [own, targetNet_assetTarget, targetNet_closingTarget] <;> simp
    split <;> ring
  · rw [own, targetNet_assetTarget, targetNet_closingTarget] <;>
      simp [accumulated]
    rcases financed.opening with none | opening
    · rw [none]
      split <;> ring
    · rw [if_pos opening]
      ring
  · rw [own, targetNet_assetTarget, targetNet_closingTarget] <;> simp
  · have result := targetNet_closingTarget_result asset day
    rw [accumulated] at result
    rw [own, own, own, targetNet_assetTarget, targetNet_closingTarget,
      targetNet_assetTarget, targetNet_assetTarget] <;> simp
    linarith

def Shop.cashFlow (shop : Shop) (owner : ℕ) (type : TransactionType) : ℤ :=
  shop.sum fun txn =>
    if txn.fixedAsset = some owner ∧ txn.transactionType = type then txn.amount
    else 0

theorem Shop.outs_eq_cashFlow (shop : Shop) (owner : ℕ) :
    shop.outs (·.fixedAsset = some owner) = shop.cashFlow owner .moneyOut := by
  simp [Shop.outs, Shop.cashFlow, Shop.sum]

theorem Shop.ins_eq_cashFlow (shop : Shop) (owner : ℕ) :
    shop.ins (·.fixedAsset = some owner) = shop.cashFlow owner .moneyIn := by
  simp [Shop.ins, Shop.cashFlow, Shop.sum]

/-- No payment is linked to an asset that was never stored. -/
theorem AssetPayments.cashFlow_next {shop : Shop} (linked : AssetPayments shop)
    (type : TransactionType) : shop.cashFlow shop.fixedAssets.next type = 0 := by
  unfold Shop.cashFlow Shop.sum
  apply Table.total_eq_zero
  intro key txn stored
  refine if_neg ?_
  rintro ⟨own, -⟩
  exact Nat.lt_irrefl _ (linked key txn stored _ own).1

theorem payAsset_transactions {txn : PrintTransaction} {before after : Press}
    (returned : payAsset txn before = .ok ⟨⟩ after)
    (untaxed : txn.withholdingTax = 0) :
    after.shop.fixedAssets = before.shop.fixedAssets ∧
      after.shop.transactions = before.shop.transactions.insert
        (PrintTransaction.fillLinks { txn with withholdingTxn := none }
          before.shop) := by
  obtain ⟨shop, stored, posted⟩ := payAsset_ok returned untaxed
  have step := posts_onTxnChanged _ _ _ _ _ _ posted
  rw [step.shop]
  exact ⟨stored.documents.fixedAssets, stored.transactions⟩

/-- What a step adds to the cash flow of one asset; the assets stay. -/
structure Flows (owner : ℕ) (type : TransactionType) (amount : ℤ)
    (before after : Shop) : Prop where
  assets : after.fixedAssets = before.fixedAssets
  linked : AssetPayments before → owner < before.fixedAssets.next →
    AssetPayments after
  cashFlow : ∀ other kind, after.cashFlow other kind =
    before.cashFlow other kind +
      if other = owner ∧ kind = type then amount else 0

theorem Flows.nothing (owner : ℕ) (type : TransactionType) (shop : Shop) :
    Flows owner type 0 shop shop :=
  ⟨rfl, fun linked _ => linked, by simp⟩

theorem flows_insert {owner : ℕ} {row : PrintTransaction} {before after : Shop}
    (own : row.fixedAsset = some owner) (single : row.withholdingTxn = none)
    (category : row.category = some (assetCategory row.transactionType))
    (assets : after.fixedAssets = before.fixedAssets)
    (transactions : after.transactions = before.transactions.insert row) :
    Flows owner row.transactionType row.amount before after where
  assets
  linked := by
    intro linked stored key txn found other linkedTo
    rw [transactions, Table.get?_insert] at found
    rw [assets]
    split at found
    · rw [Option.some.injEq] at found
      subst found
      rw [own, Option.some.injEq] at linkedTo
      subst linkedTo
      exact ⟨stored, single, category⟩
    · exact linked key txn found other linkedTo
  cashFlow := by
    intro other kind
    unfold Shop.cashFlow Shop.sum
    rw [transactions, Table.total_insert]
    simp [own, eq_comm]

theorem payPrice_flows {pk : ℕ} {isNew : Bool} {asset : PrintFixedAsset}
    {before after : Press} (sound : Sound isNew asset)
    (returned : payPrice pk isNew asset before = .ok ⟨⟩ after) :
    Flows pk .moneyOut
      (if isNew = true ∧ asset.funding = .cash then asset.cost else 0)
      before.shop after.shop := by
  rcases payPrice_ok returned with ⟨treasury, fresh, cash, paid⟩ | ⟨rfl, free⟩
  · obtain ⟨assets, transactions⟩ := payAsset_transactions paid rfl
    rw [if_pos ⟨fresh, cash⟩]
    exact flows_insert rfl rfl rfl assets transactions
  · rw [if_neg]
    · exact .nothing _ _ _
    · rintro ⟨fresh, cash⟩
      rcases sound.treasury with other | old | treasury
      · exact other cash
      · rw [fresh] at old
        cases old
      · rw [free fresh cash] at treasury
        cases treasury

theorem receiveSale_flows {pk : ℕ} {today : Date} {isNew : Bool}
    {old : Option PrintFixedAsset} {asset : PrintFixedAsset}
    {before after : Press} (sound : Sound isNew asset)
    (returned : receiveSale pk today old asset before = .ok ⟨⟩ after) :
    Flows pk .moneyIn
      (if asset.sold = true ∧ old.any PrintFixedAsset.sold = false then
        asset.disposalAmount else 0)
      before.shop after.shop := by
  rcases receiveSale_ok returned with ⟨treasury, sold, fresh, paid⟩ | ⟨rfl, free⟩
  · obtain ⟨assets, transactions⟩ := payAsset_transactions paid rfl
    rw [if_pos ⟨sold, fresh⟩]
    exact flows_insert rfl rfl rfl assets transactions
  · rw [if_neg]
    · exact .nothing _ _ _
    · rintro ⟨sold, fresh⟩
      have price : asset.disposalAmount ≠ 0 := by
        simp only [PrintFixedAsset.sold, Bool.and_eq_true,
          decide_eq_true_eq] at sold
        exact sold.2
      rcases sound.disposalTreasury with none | treasury
      · exact price none
      · rw [free sold fresh] at treasury
        cases treasury

theorem deletePayment_ok {row : ℕ × PrintTransaction} {target : ℕ}
    {before after : Press}
    (returned : deletePayment row before = .ok ⟨⟩ after)
    (linked : AssetPayments before.shop)
    (own : ∀ txn, before.shop.transactions.get? row.1 = some txn →
      txn.fixedAsset = some target) :
    after.shop.fixedAssets = before.shop.fixedAssets ∧
      AssetPayments after.shop ∧
      (∀ owner type, owner ≠ target →
        after.shop.cashFlow owner type = before.shop.cashFlow owner type) ∧
      ∀ key txn, after.shop.transactions.get? key = some txn →
        ∃ old, before.shop.transactions.get? key = some old ∧
          old.fixedAsset = txn.fixedAsset := by
  have assets := (deletePayment_assetStep returned).assets
  obtain ⟨⟨⟩, middle, deleted, posted⟩ := Txn.bind_eq_ok.mp returned
  obtain ⟨shop, called, rfl⟩ := onShop_ok deleted
  have same := (posts_onTxnChanged _ _ _ _ _ _ posted).shop
  cases deleteTransaction_ok called with
  | @paired _ _ txn _ _ companion partner _ dropped pair rest =>
      obtain ⟨-, single, -⟩ := linked row.1 txn dropped.found target
        (own txn dropped.found)
      rw [Shop.companion, single] at pair
      cases pair
  | @alone _ _ txn _ middle dropped single =>
      have transactions : after.shop.transactions =
          (before.shop.dropTransaction row.1).transactions := by
        rw [same]
        exact dropped.transactions
      have kept : ∀ key txn, after.shop.transactions.get? key = some txn →
          ∃ old, before.shop.transactions.get? key = some old ∧
            txn = { old with
              withholdingTxn := clearLink row.1 old.withholdingTxn } := by
        intro key txn stored
        rw [transactions] at stored
        simp only [Shop.dropTransaction, Table.get?_map,
          Option.map_eq_some_iff, Table.get?_erase] at stored
        obtain ⟨old, stored, rfl⟩ := stored
        split at stored
        · cases stored
        · exact ⟨old, stored, rfl⟩
      refine ⟨assets, ?_, ?_, ?_⟩
      · intro key txn stored owner linkedTo
        obtain ⟨old, found, rfl⟩ := kept key txn stored
        obtain ⟨less, free, category⟩ := linked key old found owner linkedTo
        rw [assets]
        refine ⟨less, ?_, category⟩
        simp [free, clearLink]
      · intro owner type other
        have ignores : IgnoresCompanion fun txn =>
            if txn.fixedAsset = some owner ∧ txn.transactionType = type then
              txn.amount
            else 0 := fun _ _ => rfl
        have drop := sum_dropTransaction dropped.found ignores
        unfold Shop.cashFlow
        unfold Shop.sum at drop ⊢
        rw [transactions, drop, own txn dropped.found]
        simp [Ne.symm other]
      · intro key txn stored
        obtain ⟨old, found, rfl⟩ := kept key txn stored
        exact ⟨old, found, rfl⟩

/-- Payments carry the marks of assets, and those of one asset match it. -/
structure Ready (pk : ℕ) (shop : Shop) : Prop where
  linked : AssetPayments shop
  financed : ∀ asset, shop.fixedAssets.get? pk = some asset →
    Financed shop pk asset

/-- No asset is stored and no payment is linked to one. -/
structure Shop.WithoutAssets (shop : Shop) : Prop where
  assets : shop.fixedAssets.rows = []
  payments : ∀ key txn, shop.transactions.get? key = some txn →
    txn.fixedAsset = none

theorem Shop.WithoutAssets.ready {shop : Shop} (without : shop.WithoutAssets)
    (pk : ℕ) : Ready pk shop where
  linked := by
    intro key txn stored owner own
    rw [without.payments key txn stored] at own
    cases own
  financed := by
    intro asset stored
    have member := Table.get?_eq_some.mp stored
    rw [without.assets] at member
    cases member

theorem onAssetChanged_shop {pk : ℕ} {asset : PrintFixedAsset}
    {supplier : Option ℕ} {rebuildFrom : Option Date} {before after : Press}
    (returned : onAssetChanged pk asset supplier rebuildFrom before =
      .ok ⟨⟩ after) : after.shop = before.shop := by
  obtain ⟨middle, synced, caught, own, suppliers⟩ := onAssetChanged_ok returned
  obtain ⟨_, step, rfl, -⟩ := ensureDepreciation_ok caught
  have second := posts_safely (posts_syncFixedAsset pk) _ _ _ own
  exact suppliers.shop.trans (second.shop.trans step.shop)

theorem ensureDepreciation_shop {rebuildFrom : Option Date}
    {before after : Press}
    (returned : ensureDepreciation rebuildFrom before = .ok ⟨⟩ after) :
    after.shop = before.shop := by
  obtain ⟨_, step, rfl, -⟩ := ensureDepreciation_ok returned
  exact step.shop

theorem Financed.edit {shop after : Shop} {pk : ℕ} {isNew : Bool}
    {old asset : PrintFixedAsset} (financed : Financed shop pk old)
    (sound : Sound isNew asset) (keeping : Keeping old asset)
    (kept : asset.funding = old.funding)
    (paid : after.cashFlow pk .moneyOut = shop.cashFlow pk .moneyOut)
    (received : after.cashFlow pk .moneyIn = shop.cashFlow pk .moneyIn +
      if asset.sold = true ∧ old.sold = false then asset.disposalAmount else 0) :
    Financed after pk asset where
  opening := sound.opening
  paid := by
    have before := financed.paid
    rw [Shop.outs_eq_cashFlow] at before ⊢
    rw [paid, before, kept]
    by_cases cash : old.funding = .cash
    · have price := keeping.price.resolve_left (not_not_intro cash)
      simp only [PrintFixedAsset.price, Prod.mk.injEq] at price
      rw [price.1]
    · rw [if_neg cash, if_neg cash]
  received := by
    have before := financed.received
    rw [Shop.ins_eq_cashFlow] at before ⊢
    rw [received, before]
    cases disposed : old.disposedOn with
    | none =>
        simp only [PrintFixedAsset.sold, disposed]
        by_cases now : asset.disposedOn.isSome = true
        · by_cases free : asset.disposalAmount = 0
          · simp [now, free]
          · simp [now, free]
        · simp [now]
    | some day =>
        have same := keeping.disposal.resolve_left (by simp [disposed])
        simp only [PrintFixedAsset.disposal, Prod.mk.injEq] at same
        have sale : asset.sold = old.sold := by
          rw [PrintFixedAsset.sold, PrintFixedAsset.sold, same.1, same.2.1]
        rw [sale, ← same.1, ← same.2.1, disposed]
        cases old.sold <;> simp

theorem Financed.new {after : Shop} {pk : ℕ} {asset : PrintFixedAsset}
    (sound : Sound true asset)
    (paid : after.cashFlow pk .moneyOut =
      if asset.funding = .cash then asset.cost else 0)
    (received : after.cashFlow pk .moneyIn =
      if asset.sold = true then asset.disposalAmount else 0) :
    Financed after pk asset where
  opening := sound.opening
  paid := by
    rw [Shop.outs_eq_cashFlow, paid]
  received := by
    rw [Shop.ins_eq_cashFlow, received]
    by_cases free : asset.disposalAmount = 0
    · simp [free]
    · simp [PrintFixedAsset.sold, free]

theorem Ready.save {pk : ℕ} {target : Option ℕ} {asset : PrintFixedAsset}
    {key : ℕ} {before changed paid after : Press}
    (ready : Ready pk before.shop)
    (saved : Saved target asset key before changed paid after) :
    Ready pk after.shop := by
  have put := onAssetChanged_shop saved.changed_ok
  have price := payPrice_flows saved.sound saved.paid_ok
  have sale := receiveSale_flows saved.sound saved.received_ok
  have flows : ∀ owner type, changed.shop.cashFlow owner type =
      before.shop.cashFlow owner type := by
    intro owner type
    rw [put]
    rfl
  have assets : after.shop.fixedAssets =
      (before.shop.putAsset target asset).fixedAssets := by
    rw [sale.assets, price.assets, put]
  have stored : key < changed.shop.fixedAssets.next := by
    rw [put, saved.key_eq]
    cases target with
    | none => exact Nat.lt_succ_self _
    | some other =>
        obtain ⟨row, found⟩ := saved.found other rfl
        exact (Table.get?_lt found :)
  have linkedPut : AssetPayments changed.shop := by
    rw [put]
    intro number txn found owner own
    obtain ⟨less, rest⟩ := ready.linked number txn found owner own
    refine ⟨?_, rest⟩
    cases target with
    | none => exact Nat.lt_succ_of_lt less
    | some other => exact less
  refine ⟨sale.linked (price.linked linkedPut stored) (price.assets ▸ stored), ?_⟩
  have outs : ∀ owner, after.shop.cashFlow owner .moneyOut =
      before.shop.cashFlow owner .moneyOut +
        if owner = key ∧ target = none ∧ asset.funding = .cash then asset.cost
        else 0 := by
    intro owner
    rw [sale.cashFlow, price.cashFlow, flows]
    by_cases own : owner = key
    · simp [own]
    · simp [own]
  have ins : ∀ owner, after.shop.cashFlow owner .moneyIn =
      before.shop.cashFlow owner .moneyIn +
        if owner = key ∧ asset.sold = true ∧
          (before.shop.oldAsset target).any PrintFixedAsset.sold = false then
          asset.disposalAmount
        else 0 := by
    intro owner
    rw [sale.cashFlow, price.cashFlow, flows]
    by_cases own : owner = key
    · simp [own]
    · simp [own]
  intro found held
  rw [assets] at held
  by_cases own : pk = key
  · cases target with
    | none =>
        have fresh : key = before.shop.fixedAssets.next := saved.key_eq
        rw [own, fresh, Shop.putAsset, Table.get?_insert_next,
          Option.some.injEq] at held
        subst held
        refine .new saved.sound ?_ ?_
        · rw [outs, own, fresh, ready.linked.cashFlow_next]
          simp
        · rw [ins, own, fresh, ready.linked.cashFlow_next]
          simp [Shop.oldAsset]
    | some other =>
        have same : key = other := saved.key_eq
        subst same own
        obtain ⟨old, looked⟩ := saved.found pk rfl
        rw [Shop.putAsset, Table.get?_modify_self, looked, Option.map_some,
          Option.some.injEq] at held
        subst held
        refine (ready.financed old looked).edit saved.sound
          (saved.keeping old looked) (saved.funding old looked) ?_ ?_
        · rw [outs]
          simp
        · rw [ins, Shop.oldAsset]
          simp [looked]
  · have stays : before.shop.fixedAssets.get? pk = some found := by
      cases target with
      | none =>
          rw [Shop.putAsset, Table.get?_insert, if_neg] at held
          · exact held
          · rintro rfl
            exact own saved.key_eq.symm
      | some other =>
          have same : key = other := saved.key_eq
          rw [Shop.putAsset, Table.get?_modify_of_ne _ (same ▸ own)] at held
          exact held
    have financed := ready.financed found stays
    refine ⟨financed.opening, ?_, ?_⟩
    · rw [Shop.outs_eq_cashFlow, outs, if_neg (fun among => own among.1),
        add_zero, ← Shop.outs_eq_cashFlow]
      exact financed.paid
    · rw [Shop.ins_eq_cashFlow, ins, if_neg (fun among => own among.1),
        add_zero, ← Shop.ins_eq_cashFlow]
      exact financed.received

theorem deletePayments_ok {target : ℕ} {before after : Press}
    (linked : AssetPayments before.shop)
    (returned : (forM (before.shop.assetPayments target) deletePayment)
      before = .ok ⟨⟩ after) :
    after.shop.fixedAssets = before.shop.fixedAssets ∧
      AssetPayments after.shop ∧
      ∀ owner type, owner ≠ target →
        after.shop.cashFlow owner type = before.shop.cashFlow owner type := by
  have kept := Txn.forM_invariant (fun state : Press =>
    state.shop.fixedAssets = before.shop.fixedAssets ∧
      AssetPayments state.shop ∧
      (∀ owner type, owner ≠ target →
        state.shop.cashFlow owner type = before.shop.cashFlow owner type) ∧
      ∀ key txn, state.shop.transactions.get? key = some txn →
        ∃ old, before.shop.transactions.get? key = some old ∧
          old.fixedAsset = txn.fixedAsset) ?_
    ⟨rfl, linked, fun _ _ _ => rfl, fun key txn stored => ⟨txn, stored, rfl⟩⟩
    returned
  · exact ⟨kept.1, kept.2.1, kept.2.2.1⟩
  · rintro ⟨number, row⟩ member state final ⟨assets, marked, sums, origin⟩ deleted
    obtain ⟨listed, own⟩ := List.mem_filter.mp member
    have held := Table.get?_eq_some.mpr listed
    obtain ⟨assets', marked', sums', origin'⟩ := deletePayment_ok deleted marked (by
      intro txn stored
      obtain ⟨old, found, same⟩ := origin number txn stored
      rw [held, Option.some.injEq] at found
      rw [← same, ← found]
      simpa using own)
    refine ⟨assets'.trans assets, marked', ?_, ?_⟩
    · intro owner type other
      rw [sums' owner type other, sums owner type other]
    · intro key txn stored
      obtain ⟨middle, found, same⟩ := origin' key txn stored
      obtain ⟨old, first, same'⟩ := origin key middle found
      exact ⟨old, first, same'.trans same⟩

theorem Ready.delete {pk target : ℕ} {asset : PrintFixedAsset}
    {before paid cleared caught after : Press} (ready : Ready pk before.shop)
    (removed : Removed target asset before paid cleared caught after) :
    Ready pk after.shop := by
  obtain ⟨assets, linked, sums⟩ :=
    deletePayments_ok ready.linked removed.paid_ok
  have final : after.shop = { paid.shop with
      fixedAssets := paid.shop.fixedAssets.erase target } := by
    rw [removed.parties.shop, ensureDepreciation_shop removed.caught_ok,
      removed.own.shop]
  rw [final]
  refine ⟨linked, ?_⟩
  intro found held
  simp only [assets, Table.get?_erase] at held
  split at held
  · cases held
  · rename_i other
    have financed := ready.financed found held
    refine ⟨financed.opening, ?_, ?_⟩
    · have same := sums pk .moneyOut other
      rw [← Shop.outs_eq_cashFlow, ← Shop.outs_eq_cashFlow] at same
      exact same.trans financed.paid
    · have same := sums pk .moneyIn other
      rw [← Shop.ins_eq_cashFlow, ← Shop.ins_eq_cashFlow] at same
      exact same.trans financed.received

theorem Ready.run {pk : ℕ} {op : AssetOp} {before after : Press}
    (ready : Ready pk before.shop)
    (returned : op.run before = .ok ⟨⟩ after) : Ready pk after.shop := by
  cases op with
  | passDay today =>
      obtain rfl := Txn.modify_eq_ok.mp returned
      unfold Press.passDay
      split
      · exact ready
      · exact ready
  | setPeriods periods =>
      obtain rfl := Txn.modify_eq_ok.mp returned
      exact ready
  | save target asset =>
      obtain ⟨key, _, called, finished⟩ := Txn.bind_eq_ok.mp returned
      obtain ⟨-, rfl⟩ := Txn.pure_eq_ok.mp finished
      obtain ⟨changed, paid, saved⟩ := saveAsset_ok called
      exact ready.save saved
  | delete target =>
      obtain ⟨asset, paid, cleared, caught, removed⟩ := deleteAsset_ok returned
      exact ready.delete removed
  | catchUp rebuildFrom =>
      rw [ensureDepreciation_shop returned]
      exact ready

end Mousstec.Printing
