import Mousstec.Printing.FixedAssets
import Mousstec.Printing.TransactionFacts

/-!
# What saving and deleting an asset does

A month that is synchronised without a failure holds the installments of all
assets in every branch, and catching up does so for a range of months.  Saving
an asset catches up from its start, posts its own entries and then its
payments; deleting it takes all of them back.
-/

namespace Mousstec.Printing

open Library Accounting

theorem mem_months {first last : Date} {month : ℕ × ℕ} :
    month ∈ months first last ↔ (1 ≤ month.2 ∧ month.2 ≤ 12) ∧
      first.index ≤ monthIndex month.1 month.2 ∧
      monthIndex month.1 month.2 ≤ last.index := by
  rw [months, mem_monthsFrom first.month_valid]
  change _ ∧ first.index ≤ _ ∧ _ < first.index + _ ↔ _
  omega

theorem lastCompletedMonthEnd_end (today : Date) :
    (lastCompletedMonthEnd today).monthEnd = lastCompletedMonthEnd today := by
  unfold lastCompletedMonthEnd
  split
  · rfl
  · exact today.monthEnd_previousMonthEnd

theorem lastCompletedMonthEnd_mono {first second : Date}
    (started : 1 ≤ first.year) (ordered : first ≤ second) :
    lastCompletedMonthEnd first ≤ lastCompletedMonthEnd second := by
  have indices := Date.index_le ordered
  have started' : 1 ≤ second.year := by
    have valid := first.month_valid
    have valid' := second.month_valid
    unfold Date.index monthIndex at indices
    omega
  have before := Date.index_previousMonthEnd started
  have before' := Date.index_previousMonthEnd started'
  rw [Date.le_iff_index_le (lastCompletedMonthEnd_end second)]
  unfold lastCompletedMonthEnd
  split
  · rename_i ended
    split
    · exact indices
    · rename_i running
      rcases Date.le_def.mp ordered with less | ⟨same, days⟩
      · change first.index ≤ _
        omega
      · obtain ⟨years, months⟩ :=
          monthIndex_injective first.month_valid second.month_valid same
        have full := congrArg Date.day ended
        change first.day = monthLength first.year first.month at full
        rw [years, months] at full
        have most := second.day_valid.2
        have whole : second.day = monthLength second.year second.month := by
          omega
        have ends : second = second.monthEnd := Date.ext rfl rfl whole
        exact absurd ends running
  · split
    · change _ ≤ second.index
      omega
    · omega

theorem mem_monthsToPost {through day : Date}
    (last : through.monthEnd = through) {month : ℕ × ℕ} :
    month ∈ monthsToPost through (some day) ↔
      (1 ≤ month.2 ∧ month.2 ≤ 12) ∧
        day.index ≤ monthIndex month.1 month.2 ∧
        monthIndex month.1 month.2 ≤ through.index := by
  rw [monthsToPost]
  split
  · exact mem_months
  · rename_i future
    rw [Date.le_iff_index_le last] at future
    simp only [List.not_mem_nil, false_iff]
    omega

theorem shows_depreciation_zero {books : Books} {document : PrintDocument} :
    Shows books document (depreciationTarget 0) ↔
      ∀ acct, ledgerOf books document acct = 0 := by
  refine forall_congr' fun acct => ?_
  simp [depreciationTarget]

def ofMonth (year month : ℕ) : PrintDocument → Prop
  | .depreciation y m _ => y = year ∧ m = month
  | _ => False

theorem posts_syncDepreciationMonth (year month : ℕ) :
    Posts (ofMonth year month) (syncDepreciationMonth year month) := by
  refine posts_get fun press => posts_forM fun branch _ =>
    (posts_syncDocument _ _ _).mono ?_
  rintro document rfl
  exact ⟨rfl, rfl⟩

theorem ledgerOf_of_not_posted {books : Books} {year month branch : ℕ}
    (unposted : some branch ∉ postedBranches books year month)
    (acct : Account) :
    ledgerOf books (.depreciation year month (some branch)) acct = 0 := by
  apply ledgerByAccount_eq_zero
  intro member
  rw [ledgerAccounts, List.mem_flatMap] at member
  obtain ⟨⟨pk, entry⟩, found, -⟩ := member
  obtain ⟨stored, under⟩ := mem_existing.mp found
  apply unposted
  rw [postedBranches, List.mem_filterMap]
  refine ⟨entry, List.mem_map.mpr ⟨(pk, entry), Table.get?_eq_some.mp stored,
    rfl⟩, ?_⟩
  simp [under]

theorem syncDepreciationMonth_ok {year month : ℕ} {before after : Press}
    (returned : syncDepreciationMonth year month before = .ok ⟨⟩ after)
    (clean : after.failures ≤ before.failures) (branch : Option ℕ) :
    Shows after.books (.depreciation year month branch) (depreciationTarget
      (before.shop.depreciationOf branch (monthIndex year month))) := by
  rw [syncDepreciationMonth, Txn.get_bind] at returned
  by_cases listed : branch ∈ depreciationBranches before year month
  · refine forM_shows
      (fun branch document => document = .depreciation year month branch)
      (fun branch document target =>
        document = .depreciation year month branch ∧
          target = depreciationTarget (before.shop.depreciationOf branch
            (monthIndex year month)))
      (fun _ => posts_syncDocument _ _ _) ?_ ?_ rfl returned clean branch listed
      _ _ ⟨rfl, rfl⟩
    · rintro branch middle final - synced - _ _ ⟨rfl, rfl⟩
      exact (syncDocument_ok synced).2
    · rintro first second _ _ ⟨rfl, rfl⟩ same
      obtain rfl : first = second := by simpa using same
      exact ⟨rfl, rfl⟩
  · have step : LedgerStep (fun document =>
        ∃ other ∈ depreciationBranches before year month,
          document = .depreciation year month other) before after :=
      posts_forM (fun other member => (posts_syncDocument _ _ _).mono
        fun document touched => ⟨other, member, touched⟩) _ _ _ returned
    rw [depreciationBranches, List.mem_eraseDups] at listed
    simp only [List.mem_append, List.mem_singleton, not_or] at listed
    obtain ⟨⟨owned, unposted⟩, branched⟩ := listed
    obtain ⟨branch, rfl⟩ := Option.ne_none_iff_exists'.mp branched
    have nothing : before.shop.depreciationOf (some branch)
        (monthIndex year month) = 0 := by
      refine Table.total_eq_zero fun pk asset stored => if_neg ?_
      intro same
      apply owned
      rw [List.mem_map]
      exact ⟨asset, List.mem_map.mpr ⟨(pk, asset),
        Table.get?_eq_some.mp stored, rfl⟩, same⟩
    rw [nothing, shows_depreciation_zero]
    intro acct
    rw [step.elsewhere _ ?_, ledgerOf_of_not_posted unposted]
    rintro ⟨other, member, same⟩
    obtain rfl : some branch = other := by simpa using same
    rw [depreciationBranches, List.mem_eraseDups] at member
    simp only [List.mem_append, List.mem_singleton] at member
    rcases member with (owning | posted) | impossible
    · exact owned owning
    · exact unposted posted
    · cases impossible

def Press.catchUpMonths (press : Press) (rebuildFrom : Option Date) :
    List (ℕ × ℕ) :=
  monthsToPost (lastCompletedMonthEnd press.today)
    (press.depreciationFrom (lastCompletedMonthEnd press.today) rebuildFrom)

/-- Months that are synchronised one after the other without a failure all hold
their installments. -/
theorem syncMonths_ok {list : List (ℕ × ℕ)} {before after : Press}
    (returned : (forM list fun month =>
      safely (syncDepreciationMonth month.1 month.2)) before = .ok ⟨⟩ after)
    (clean : after.failures ≤ before.failures) {month : ℕ × ℕ}
    (member : month ∈ list) (branch : Option ℕ) :
    Shows after.books (.depreciation month.1 month.2 branch)
      (depreciationTarget (before.shop.depreciationOf branch
        (monthIndex month.1 month.2))) := by
  have posts : ∀ month : ℕ × ℕ, Posts (ofMonth month.1 month.2)
      (safely (syncDepreciationMonth month.1 month.2)) :=
    fun month => posts_safely (posts_syncDepreciationMonth _ _)
  have shows : ∀ (month : ℕ × ℕ) (start final : Press),
      start.shop = before.shop →
      safely (syncDepreciationMonth month.1 month.2) start = .ok ⟨⟩ final →
      final.failures ≤ start.failures → ∀ document target,
      (∃ branch, document = .depreciation month.1 month.2 branch ∧
        target = depreciationTarget (before.shop.depreciationOf branch
          (monthIndex month.1 month.2))) →
      Shows final.books document target := by
    rintro month start final same synced kept _ _ ⟨branch, rfl, rfl⟩
    obtain ⟨⟨⟩, called⟩ := safely_clean synced kept
    rw [← same]
    exact syncDepreciationMonth_ok called kept branch
  refine forM_shows _ _ posts shows ?_ rfl returned clean month member _ _
    ⟨branch, rfl, rfl⟩
  rintro first ⟨year, month⟩ _ _ ⟨branch, rfl, rfl⟩ ⟨years, months⟩
  simp only at years months
  subst years months
  exact ⟨branch, rfl, rfl⟩

theorem ensureDepreciation_ok {rebuildFrom : Option Date}
    {before after : Press}
    (returned : ensureDepreciation rebuildFrom before = .ok ⟨⟩ after) :
    ∃ middle, LedgerStep (fun document =>
        ∃ month ∈ before.catchUpMonths rebuildFrom,
          ofMonth month.1 month.2 document) before middle ∧
      after = { middle with
        depreciationThrough := raisedWatermark
          (lastCompletedMonthEnd before.today) before.depreciationThrough } ∧
      (middle.failures ≤ before.failures →
        ∀ month ∈ before.catchUpMonths rebuildFrom, ∀ branch,
          Shows middle.books (.depreciation month.1 month.2 branch)
            (depreciationTarget (before.shop.depreciationOf branch
              (monthIndex month.1 month.2)))) := by
  rw [ensureDepreciation, Txn.get_bind] at returned
  obtain ⟨⟨⟩, middle, posted, raised⟩ := Txn.bind_eq_ok.mp returned
  obtain rfl := Txn.modify_eq_ok.mp raised
  have posts : ∀ month ∈ before.catchUpMonths rebuildFrom,
      Posts (fun document => ∃ month ∈ before.catchUpMonths rebuildFrom,
        ofMonth month.1 month.2 document)
        (safely (syncDepreciationMonth month.1 month.2)) := by
    intro month member
    exact (posts_safely (posts_syncDepreciationMonth _ _)).mono
      fun document touched => ⟨month, member, touched⟩
  exact ⟨middle, posts_forM posts _ _ _ posted, rfl,
    fun clean month member branch => syncMonths_ok posted clean member branch⟩

/-- A step that keeps the assets, the day and the watermark, and posts under
some documents only. -/
structure AssetStep (documents : PrintDocument → Prop) (before after : Press) :
    Prop where
  assets : after.shop.fixedAssets = before.shop.fixedAssets
  today : after.today = before.today
  through : after.depreciationThrough = before.depreciationThrough
  failures : before.failures ≤ after.failures
  elsewhere : ∀ document, ¬ documents document → ∀ acct,
    ledgerOf after.books document acct = ledgerOf before.books document acct

namespace AssetStep

variable {documents others : PrintDocument → Prop}
  {before middle after : Press}

theorem refl (documents : PrintDocument → Prop) (press : Press) :
    AssetStep documents press press :=
  ⟨rfl, rfl, rfl, Nat.le_refl _, fun _ _ _ => rfl⟩

theorem trans (first : AssetStep documents before middle)
    (second : AssetStep documents middle after) :
    AssetStep documents before after where
  assets := second.assets.trans first.assets
  today := second.today.trans first.today
  through := second.through.trans first.through
  failures := first.failures.trans second.failures
  elsewhere document other acct :=
    (second.elsewhere document other acct).trans
      (first.elsewhere document other acct)

theorem mono (step : AssetStep documents before after)
    (more : ∀ document, documents document → others document) :
    AssetStep others before after where
  assets := step.assets
  today := step.today
  through := step.through
  failures := step.failures
  elsewhere document other := step.elsewhere document fun among =>
    other (more document among)

theorem shows (step : AssetStep documents before after)
    {document : PrintDocument} {target : Target}
    (other : ¬ documents document) (held : Shows before.books document target) :
    Shows after.books document target := by
  intro acct
  rw [step.elsewhere document other]
  exact held acct

end AssetStep

theorem LedgerStep.assetStep {documents : PrintDocument → Prop}
    {before after : Press} (step : LedgerStep documents before after) :
    AssetStep documents before after where
  assets := congrArg Shop.fixedAssets step.shop
  today := step.today
  through := step.through
  failures := step.failures
  elsewhere := step.elsewhere

def ofAsset (pk : ℕ) : PrintDocument → Prop
  | .asset key => key = pk
  | .assetDisposal key => key = pk
  | _ => False

def ofSupplier : PrintDocument → Prop
  | .supplier _ => True
  | _ => False

theorem posts_syncFixedAsset (pk : ℕ) :
    Posts (ofAsset pk) (syncFixedAsset pk) := by
  refine posts_get fun press => posts_syncStored fun asset =>
    posts_bind ((posts_syncDocument _ _ _).mono ?_) fun _ =>
      (posts_syncDocument _ _ _).mono ?_
  · rintro document rfl
    rfl
  · rintro document rfl
    rfl

theorem onAssetChanged_ok {pk : ℕ} {asset : PrintFixedAsset}
    {supplier : Option ℕ} {rebuildFrom : Option Date} {before after : Press}
    (returned : onAssetChanged pk asset supplier rebuildFrom before =
      .ok ⟨⟩ after) :
    ∃ middle synced,
      ensureDepreciation (some (earliestOf asset.start rebuildFrom)) before =
        .ok ⟨⟩ middle ∧
      safely (syncFixedAsset pk) middle = .ok ⟨⟩ synced ∧
      LedgerStep ofSupplier synced after := by
  obtain ⟨⟨⟩, middle, caught, rest⟩ := Txn.bind_eq_ok.mp returned
  obtain ⟨⟨⟩, synced, own, parties⟩ := Txn.bind_eq_ok.mp rest
  refine ⟨middle, synced, caught, own, ?_⟩
  refine posts_forM (fun party _ => posts_safely
    ((posts_syncSupplier party).mono ?_)) _ _ _ parties
  rintro document rfl
  trivial

theorem assetStep_onTxnChanged {pk : ℕ} {customer supplier : Option ℕ}
    {before after : Press}
    (returned : onTxnChanged pk customer supplier before = .ok ⟨⟩ after) :
    AssetStep (ofTransaction pk) before after :=
  (posts_onTxnChanged pk customer supplier _ _ _ returned).assetStep

theorem assetStep_shop {documents : PrintDocument → Prop} {before : Press}
    {shop : Shop} (assets : shop.fixedAssets = before.shop.fixedAssets) :
    AssetStep documents before { before with shop } :=
  ⟨assets, rfl, rfl, Nat.le_refl _, fun _ _ _ => rfl⟩

theorem payAsset_ok {txn : PrintTransaction} {before after : Press}
    (returned : payAsset txn before = .ok ⟨⟩ after)
    (untaxed : txn.withholdingTax = 0) :
    ∃ shop, Stored none { txn with withholdingTxn := none }
        before.shop.transactions.next
        (PrintTransaction.fillLinks { txn with withholdingTxn := none }
          before.shop) before.shop shop ∧
      onTxnChanged before.shop.transactions.next none none
        { before with shop } = .ok ⟨⟩ after := by
  obtain ⟨pk, middle, created, posted⟩ := Txn.bind_eq_ok.mp returned
  obtain ⟨shop, called, rfl⟩ := onShop_ok created
  have saving := save_ok (Txn.mapError_eq_ok.mp called)
  cases saving with
  | plain stored free single =>
      have key : pk = before.shop.transactions.next := stored.key_eq
      have row := stored.row_eq
      subst row key
      exact ⟨shop, stored, posted⟩
  | dropped stored free pair rest =>
      rw [stored.row_eq] at pair
      cases pair
  | raised stored taxed single walleted rest =>
      rw [stored.row_eq] at taxed
      change 0 < txn.withholdingTax at taxed
      omega
  | followed stored taxed pair walleted rest =>
      rw [stored.row_eq] at taxed
      change 0 < txn.withholdingTax at taxed
      omega

theorem payAsset_assetStep {txn : PrintTransaction} {before after : Press}
    (returned : payAsset txn before = .ok ⟨⟩ after)
    (untaxed : txn.withholdingTax = 0) :
    AssetStep (ofTransaction before.shop.transactions.next) before after := by
  obtain ⟨shop, stored, posted⟩ := payAsset_ok returned untaxed
  exact (assetStep_shop stored.documents.fixedAssets).trans
    (assetStep_onTxnChanged posted)

theorem payPrice_ok {pk : ℕ} {isNew : Bool} {asset : PrintFixedAsset}
    {before after : Press}
    (returned : payPrice pk isNew asset before = .ok ⟨⟩ after) :
    (∃ treasury, isNew = true ∧ asset.funding = .cash ∧
        payAsset (asset.payment pk treasury) before = .ok ⟨⟩ after) ∨
      after = before ∧
        (isNew = true → asset.funding = .cash → asset.treasury = none) := by
  cases paying : asset.treasury with
  | none =>
      rw [payPrice, paying] at returned
      obtain ⟨-, rfl⟩ := Txn.pure_eq_ok.mp returned
      exact .inr ⟨rfl, fun _ _ => rfl⟩
  | some treasury =>
      simp only [payPrice, paying] at returned
      split at returned
      · rename_i bought
        exact .inl ⟨treasury, bought.1, bought.2, returned⟩
      · rename_i free
        obtain ⟨-, rfl⟩ := Txn.pure_eq_ok.mp returned
        exact .inr ⟨rfl, fun fresh cash => absurd ⟨fresh, cash⟩ free⟩

theorem receiveSale_ok {pk : ℕ} {today : Date} {old : Option PrintFixedAsset}
    {asset : PrintFixedAsset} {before after : Press}
    (returned : receiveSale pk today old asset before = .ok ⟨⟩ after) :
    (∃ treasury, asset.sold = true ∧ old.any PrintFixedAsset.sold = false ∧
        payAsset (asset.receipt pk treasury today) before = .ok ⟨⟩ after) ∨
      after = before ∧ (asset.sold = true →
        old.any PrintFixedAsset.sold = false → asset.disposalTreasury = none) := by
  cases receiving : asset.disposalTreasury with
  | none =>
      rw [receiveSale, receiving] at returned
      obtain ⟨-, rfl⟩ := Txn.pure_eq_ok.mp returned
      exact .inr ⟨rfl, fun _ _ => rfl⟩
  | some treasury =>
      simp only [receiveSale, receiving] at returned
      split at returned
      · rename_i sale
        exact .inl ⟨treasury, sale.1, sale.2, returned⟩
      · rename_i kept
        obtain ⟨-, rfl⟩ := Txn.pure_eq_ok.mp returned
        exact .inr ⟨rfl, fun sold fresh => absurd ⟨sold, fresh⟩ kept⟩

/-- The documents of transactions and of the parties they change. -/
def ofMoney : PrintDocument → Prop
  | .transaction _ => True
  | .customer _ => True
  | .supplier _ => True
  | _ => False

theorem ofMoney_of_ofTransaction {pk : ℕ} {document : PrintDocument}
    (own : ofTransaction pk document) : ofMoney document := by
  cases document <;> trivial

theorem payPrice_assetStep {pk : ℕ} {isNew : Bool} {asset : PrintFixedAsset}
    {before after : Press}
    (returned : payPrice pk isNew asset before = .ok ⟨⟩ after) :
    AssetStep ofMoney before after := by
  rcases payPrice_ok returned with ⟨treasury, -, -, paid⟩ | ⟨rfl, -⟩
  · exact (payAsset_assetStep paid rfl).mono fun _ => ofMoney_of_ofTransaction
  · exact .refl _ _

theorem receiveSale_assetStep {pk : ℕ} {today : Date}
    {old : Option PrintFixedAsset} {asset : PrintFixedAsset}
    {before after : Press}
    (returned : receiveSale pk today old asset before = .ok ⟨⟩ after) :
    AssetStep ofMoney before after := by
  rcases receiveSale_ok returned with ⟨treasury, -, -, received⟩ | ⟨rfl, -⟩
  · exact (payAsset_assetStep received rfl).mono
      fun _ => ofMoney_of_ofTransaction
  · exact .refl _ _

structure Sound (isNew : Bool) (asset : PrintFixedAsset) : Prop where
  cost : 1 ≤ asset.cost
  disposalAmount : 0 ≤ asset.disposalAmount
  opening : asset.openingAccumulated = 0 ∨ asset.funding = .opening
  treasury : asset.funding ≠ .cash ∨ isNew = false ∨ asset.treasury.isSome
  disposalTreasury : asset.disposalAmount = 0 ∨ asset.disposalTreasury.isSome
  life : 1 ≤ asset.usefulLifeMonths

theorem cleanAsset_ok {isNew : Bool} {asset : PrintFixedAsset}
    {before after : Shop} (returned : cleanAsset isNew asset before =
      .ok ⟨⟩ after) : Sound isNew asset ∧ after = before := by
  simp only [cleanAsset, Txn.bind_eq_ok, Txn.require_eq_ok] at returned
  obtain ⟨_, _, ⟨cost, rfl⟩, _, _, ⟨-, rfl⟩, _, _, ⟨life, rfl⟩, _, _, ⟨-, rfl⟩,
    _, _, ⟨amount, rfl⟩, _, _, ⟨-, rfl⟩, _, _, ⟨opening, rfl⟩, _, _, ⟨-, rfl⟩,
    _, _, ⟨treasury, rfl⟩, _, _, ⟨receiving, rfl⟩, -, rfl⟩ := returned
  exact ⟨⟨cost, amount, opening, treasury, receiving, life⟩, rfl⟩

/-- What a save may not change of the stored version. -/
structure Keeping (old asset : PrintFixedAsset) : Prop where
  price : old.funding ≠ .cash ∨ old.price = asset.price
  disposal : old.disposedOn = none ∨ old.disposal = asset.disposal

theorem refuseFixed_ok {asset : PrintFixedAsset}
    {old : Option PrintFixedAsset} {before after : Shop}
    (returned : refuseFixed asset old before = .ok ⟨⟩ after) :
    (∀ stored, old = some stored → Keeping stored asset) ∧ after = before := by
  cases old with
  | none =>
      obtain ⟨-, rfl⟩ := Txn.pure_eq_ok.mp returned
      refine ⟨?_, rfl⟩
      rintro stored ⟨⟩
  | some old =>
      simp only [refuseFixed, Txn.bind_eq_ok, Txn.require_eq_ok] at returned
      obtain ⟨_, _, ⟨price, rfl⟩, disposal, rfl⟩ := returned
      refine ⟨?_, rfl⟩
      rintro _ ⟨⟩
      exact ⟨price, disposal⟩

def Shop.oldAsset (shop : Shop) (pk : Option ℕ) : Option PrintFixedAsset :=
  pk.bind shop.fixedAssets.get?

theorem storedAsset_ok {shop before after : Shop} {pk : Option ℕ}
    {old : Option PrintFixedAsset}
    (returned : storedAsset shop pk before = .ok old after) :
    old = shop.oldAsset pk ∧ after = before ∧
      ∀ key, pk = some key → ∃ stored, shop.fixedAssets.get? key = some stored := by
  cases pk with
  | none =>
      obtain ⟨rfl, rfl⟩ := Txn.pure_eq_ok.mp returned
      exact ⟨rfl, rfl, nofun⟩
  | some key =>
      simp only [storedAsset, Txn.bind_eq_ok, Txn.expect_eq_ok,
        Txn.pure_eq_ok] at returned
      obtain ⟨stored, _, ⟨found, rfl⟩, rfl, rfl⟩ := returned
      refine ⟨found.symm, rfl, ?_⟩
      rintro _ ⟨⟩
      exact ⟨stored, found⟩

/-- What a save of an asset does, statement by statement. -/
structure Saved (pk : Option ℕ) (asset : PrintFixedAsset) (key : ℕ)
    (before changed paid after : Press) : Prop where
  sound : Sound pk.isNone asset
  found : ∀ key, pk = some key →
    ∃ stored, before.shop.fixedAssets.get? key = some stored
  keeping : ∀ stored, before.shop.oldAsset pk = some stored →
    Keeping stored asset
  funding : ∀ stored, before.shop.oldAsset pk = some stored →
    asset.funding = stored.funding
  key_eq : key = pk.getD before.shop.fixedAssets.next
  changed_ok : onAssetChanged key asset
    ((before.shop.oldAsset pk).bind PrintFixedAsset.supplier)
    ((before.shop.oldAsset pk).map PrintFixedAsset.start)
    { before with shop := before.shop.putAsset pk asset } = .ok ⟨⟩ changed
  paid_ok : payPrice key pk.isNone asset changed = .ok ⟨⟩ paid
  received_ok : receiveSale key before.today (before.shop.oldAsset pk) asset
    paid = .ok ⟨⟩ after

/-- What the form saves, from what was sent. -/
def Shop.sentAsset (shop : Shop) (pk : Option ℕ) (sent : PrintFixedAsset) :
    PrintFixedAsset :=
  formAsset sent (shop.oldAsset pk)

theorem saveAsset_ok {pk : Option ℕ} {sent : PrintFixedAsset} {key : ℕ}
    {before after : Press}
    (returned : saveAsset pk sent before = .ok key after) :
    ∃ changed paid,
      Saved pk (before.shop.sentAsset pk sent) key before changed paid after := by
  rw [saveAsset, Txn.atomic_eq_ok, Txn.get_bind] at returned
  obtain ⟨old, _, looked, rest⟩ := Txn.bind_eq_ok.mp returned
  obtain ⟨_, read, rfl⟩ := onShop_ok looked
  obtain ⟨rfl, rfl, found⟩ := storedAsset_ok read
  obtain ⟨⟨⟩, _, checked, rest⟩ := Txn.bind_eq_ok.mp rest
  obtain ⟨_, cleaned, rfl⟩ := onShop_ok checked
  obtain ⟨sound, rfl⟩ := cleanAsset_ok cleaned
  obtain ⟨⟨⟩, _, allowed, rest⟩ := Txn.bind_eq_ok.mp rest
  obtain ⟨_, permitted, rfl⟩ := onShop_ok allowed
  obtain ⟨keeping, rfl⟩ := refuseFixed_ok permitted
  obtain ⟨⟨⟩, _, put, rest⟩ := Txn.bind_eq_ok.mp rest
  obtain ⟨_, written, rfl⟩ := onShop_ok put
  obtain rfl := Txn.modify_eq_ok.mp written
  obtain ⟨⟨⟩, changed, changing, rest⟩ := Txn.bind_eq_ok.mp rest
  obtain ⟨⟨⟩, paid, paying, rest⟩ := Txn.bind_eq_ok.mp rest
  obtain ⟨⟨⟩, _, receiving, finished⟩ := Txn.bind_eq_ok.mp rest
  obtain ⟨rfl, rfl⟩ := Txn.pure_eq_ok.mp finished
  exact ⟨changed, paid,
    { sound, found, keeping
      funding := by
        intro stored held
        rw [Shop.sentAsset, held, formAsset_funding]
      key_eq := rfl
      changed_ok := changing
      paid_ok := paying
      received_ok := receiving }⟩

theorem Deletion.assets {marks : DeletionMarks} {pk : ℕ}
    {before after : Shop} (deletion : Deletion marks pk before after) :
    after.fixedAssets = before.fixedAssets := by
  induction deletion with
  | alone dropped single => exact dropped.documents.fixedAssets
  | paired dropped pair rest induction =>
      exact induction.trans dropped.documents.fixedAssets

def deletePayment (row : ℕ × PrintTransaction) : PressTxn PUnit := do
  onShop (deleteTransaction { deletingWithAsset := true } row.1)
  onTxnChanged row.1 row.2.customer row.2.supplier

theorem deletePayment_assetStep {row : ℕ × PrintTransaction}
    {before after : Press}
    (returned : deletePayment row before = .ok ⟨⟩ after) :
    AssetStep (ofTransaction row.1) before after := by
  obtain ⟨⟨⟩, middle, deleted, posted⟩ := Txn.bind_eq_ok.mp returned
  obtain ⟨shop, called, rfl⟩ := onShop_ok deleted
  exact (assetStep_shop (deleteTransaction_ok called).assets).trans
    (assetStep_onTxnChanged posted)

/-- What deleting an asset does, statement by statement. -/
structure Removed (pk : ℕ) (asset : PrintFixedAsset)
    (before paid cleared caught after : Press) : Prop where
  found : before.shop.fixedAssets.get? pk = some asset
  paid_ok : (forM (before.shop.assetPayments pk) deletePayment) before =
    .ok ⟨⟩ paid
  own : LedgerStep (ofAsset pk)
    { paid with
      shop := { paid.shop with
        fixedAssets := paid.shop.fixedAssets.erase pk } } cleared
  caught_ok : ensureDepreciation (some asset.start) cleared = .ok ⟨⟩ caught
  parties : LedgerStep ofSupplier caught after

theorem deleteAsset_ok {pk : ℕ} {before after : Press}
    (returned : deleteAsset pk before = .ok ⟨⟩ after) :
    ∃ asset paid cleared caught,
      Removed pk asset before paid cleared caught after := by
  rw [deleteAsset, Txn.atomic_eq_ok, Txn.get_bind] at returned
  obtain ⟨asset, found, rest⟩ := Txn.expect_bind_eq_ok.mp returned
  obtain ⟨⟨⟩, paid, payments, rest⟩ := Txn.bind_eq_ok.mp rest
  obtain ⟨⟨⟩, _, erased, rest⟩ := Txn.bind_eq_ok.mp rest
  obtain ⟨_, written, rfl⟩ := onShop_ok erased
  obtain rfl := Txn.modify_eq_ok.mp written
  obtain ⟨⟨⟩, middle, bought, rest⟩ := Txn.bind_eq_ok.mp rest
  obtain ⟨⟨⟩, cleared, sold, rest⟩ := Txn.bind_eq_ok.mp rest
  obtain ⟨⟨⟩, caught, catching, parties⟩ := Txn.bind_eq_ok.mp rest
  have unposts : ∀ document, ofAsset pk document →
      Posts (ofAsset pk) (safely (unpostDocument document)) := by
    intro document own
    refine posts_safely ((posts_syncDocument _ _ _).mono ?_)
    rintro other rfl
    exact own
  refine ⟨asset, paid, cleared, caught,
    { found
      paid_ok := payments
      own := (unposts (.asset pk) rfl _ _ _ bought).trans
        (unposts (.assetDisposal pk) rfl _ _ _ sold)
      caught_ok := catching
      parties := ?_ }⟩
  cases supplied : asset.supplier with
  | none =>
      rw [supplied] at parties
      obtain ⟨-, rfl⟩ := Txn.pure_eq_ok.mp parties
      exact .refl _ _
  | some supplier =>
      rw [supplied] at parties
      refine posts_safely ((posts_syncSupplier supplier).mono ?_) _ _ _ parties
      rintro document rfl
      trivial

end Mousstec.Printing
