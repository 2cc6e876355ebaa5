import Mousstec.Library.Runs
import Mousstec.Printing.AssetFacts

/-!
# Depreciation over runs

The watermark moves to the last completed month with every catch-up, also with
one that starts at the first month of a changed asset.  Months between the old
watermark and that asset are then passed over, and later catch-ups start behind
them.  As long as nothing is to be written off in passed-over months, every
month up to the watermark holds the installments of the stored assets.
-/

namespace Mousstec.Printing

open Library Accounting

/-- What happens around the assets of a press. -/
inductive AssetOp where
  /-- The clock shows a day; it is never set back. -/
  | passDay (today : Date)
  /-- Accounting periods are opened, closed or edited. -/
  | setPeriods (periods : Table AccountingPeriod)
  | save (pk : Option ℕ) (asset : PrintFixedAsset)
  | delete (pk : ℕ)
  | catchUp (rebuildFrom : Option Date)

def Press.passDay (press : Press) (today : Date) : Press :=
  if press.today ≤ today then
    { press with today, books := { press.books with today := today.ordinal } }
  else press

def AssetOp.run : AssetOp → PressTxn PUnit
  | .passDay today => modify fun press => press.passDay today
  | .setPeriods periods =>
      modify fun press => { press with books := { press.books with periods } }
  | .save pk asset => do
      let _ ← saveAsset pk asset
  | .delete pk => deleteAsset pk
  | .catchUp rebuildFrom => ensureDepreciation rebuildFrom

/-- Posting under `_safe` never raises. -/
theorem safely_returns (block : PressTxn α) (press : Press) :
    ∃ final, safely block press = .ok ⟨⟩ final := by
  unfold safely
  split
  · exact ⟨_, rfl⟩
  · exact ⟨_, rfl⟩

theorem ensureDepreciation_returns (rebuildFrom : Option Date)
    (press : Press) :
    ∃ final, ensureDepreciation rebuildFrom press = .ok ⟨⟩ final := by
  have loop : ∀ month ∈ press.catchUpMonths rebuildFrom, ∀ state, ∃ final,
      safely (syncDepreciationMonth month.1 month.2) state = .ok ⟨⟩ final :=
    fun month _ => safely_returns _
  obtain ⟨middle, posted⟩ := Txn.forM_returns loop press
  refine ⟨{ middle with
    depreciationThrough := raisedWatermark (lastCompletedMonthEnd press.today)
      press.depreciationThrough }, ?_⟩
  rw [ensureDepreciation, Txn.get_bind]
  exact Txn.bind_eq_ok.mpr ⟨⟨⟩, middle, posted, rfl⟩

theorem rollsBack_assetOp (op : AssetOp) : Txn.RollsBack op.run := by
  cases op with
  | passDay today =>
      intro press error final failed
      exact (Txn.modify_eq_error failed).elim
  | setPeriods periods =>
      intro press error final failed
      exact (Txn.modify_eq_error failed).elim
  | save pk asset => exact Txn.rollsBack_map (Txn.rollsBack_atomic _)
  | delete pk => exact Txn.rollsBack_atomic _
  | catchUp rebuildFrom =>
      intro press error final failed
      obtain ⟨after, returned⟩ := ensureDepreciation_returns rebuildFrom press
      rw [AssetOp.run, returned] at failed
      cases failed

/-- The entries of a month hold the installments of the stored assets. -/
def MonthPosted (press : Press) (year month : ℕ) : Prop :=
  ∀ branch, Shows press.books (.depreciation year month branch)
    (depreciationTarget
      (press.shop.depreciationOf branch (monthIndex year month)))

/-- Every completed month from the earliest start of an asset up to the
watermark is posted. -/
def NoMonthSkipped (press : Press) : Prop :=
  ∀ start through, press.shop.earliestStart = some start →
    press.depreciationThrough = some through →
    ∀ year month, ∀ valid : 1 ≤ month ∧ month ≤ 12,
      start.index ≤ monthIndex year month →
      Date.endOf year month valid ≤ through → MonthPosted press year month

/-- The month is after the watermark, if there is one. -/
def Press.Unreached (press : Press) (month : ℕ) : Prop :=
  ∀ through, press.depreciationThrough = some through → through.index < month

/-- Up to the watermark everything is posted, after it nothing is. -/
structure CaughtUp (press : Press) : Prop where
  started : 1 ≤ press.today.year
  ended : ∀ through, press.depreciationThrough = some through →
    through.monthEnd = through ∧
      through ≤ lastCompletedMonthEnd press.today
  posted : ∀ through, press.depreciationThrough = some through →
    ∀ year month, 1 ≤ month ∧ month ≤ 12 →
      monthIndex year month ≤ through.index → MonthPosted press year month
  silent : ∀ year month, 1 ≤ month ∧ month ≤ 12 →
    press.Unreached (monthIndex year month) → ∀ branch acct,
      ledgerOf press.books (.depreciation year month branch) acct = 0
  unused : press.depreciationThrough = none → press.shop.fixedAssets.rows = []

theorem CaughtUp.noMonthSkipped {press : Press} (caught : CaughtUp press) :
    NoMonthSkipped press := by
  intro _ through _ reached year month valid _ completed
  have upTo := Date.index_le completed
  rw [Date.index_endOf] at upTo
  exact caught.posted through reached year month valid upTo

theorem CaughtUp.assetStep {documents : PrintDocument → Prop}
    {before after : Press} (caught : CaughtUp before)
    (step : AssetStep documents before after)
    (apart : ∀ year month branch,
      ¬ documents (.depreciation year month branch)) : CaughtUp after := by
  constructor
  · rw [step.today]
    exact caught.started
  · rw [step.through, step.today]
    exact caught.ended
  · intro through reached year month valid completed branch
    rw [step.through] at reached
    have held := caught.posted through reached year month valid completed branch
    unfold Shop.depreciationOf at held ⊢
    rw [step.assets]
    exact step.shows (apart year month branch) held
  · intro year month valid unreached branch acct
    unfold Press.Unreached at unreached
    rw [step.through] at unreached
    rw [step.elsewhere _ (apart year month branch)]
    exact caught.silent year month valid unreached branch acct
  · intro unreached
    rw [step.through] at unreached
    rw [step.assets]
    exact caught.unused unreached

theorem monthPosted_of_nothing {press : Press} {year month : ℕ}
    (free : ∀ branch,
      press.shop.depreciationOf branch (monthIndex year month) = 0)
    (silent : ∀ branch acct,
      ledgerOf press.books (.depreciation year month branch) acct = 0) :
    MonthPosted press year month := by
  intro branch
  rw [free, shows_depreciation_zero]
  exact silent branch

/-- The watermark never passes the last completed month, so a catch-up moves it
there. -/
theorem raisedWatermark_eq {through : Date} {watermark : Option Date}
    (last : through.monthEnd = through)
    (ended : ∀ day, watermark = some day → day.monthEnd = day ∧ day ≤ through) :
    raisedWatermark through watermark = some through := by
  cases watermark with
  | none => rfl
  | some day =>
      obtain ⟨dayLast, before⟩ := ended day rfl
      rw [raisedWatermark]
      split
      · rename_i after
        have same := Nat.le_antisymm (Date.index_le before) (Date.index_le after)
        rw [Date.eq_of_monthEnd dayLast last same]
      · rfl

theorem CaughtUp.of_ensureDepreciation {rebuildFrom : Option Date}
    {before after : Press}
    (returned : ensureDepreciation rebuildFrom before = .ok ⟨⟩ after)
    (clean : after.failures ≤ before.failures)
    (started : 1 ≤ before.today.year)
    (ended : ∀ through, before.depreciationThrough = some through →
      through.monthEnd = through ∧
        through ≤ lastCompletedMonthEnd before.today)
    (silent : ∀ year month, 1 ≤ month ∧ month ≤ 12 →
      before.Unreached (monthIndex year month) → ∀ branch acct,
        ledgerOf before.books (.depreciation year month branch) acct = 0)
    (rest : ∀ year month, 1 ≤ month ∧ month ≤ 12 →
      monthIndex year month ≤ (lastCompletedMonthEnd before.today).index →
      (year, month) ∉ before.catchUpMonths rebuildFrom →
      MonthPosted before year month)
    (within : ∀ month ∈ before.catchUpMonths rebuildFrom,
      monthIndex month.1 month.2 ≤
        (lastCompletedMonthEnd before.today).index) : CaughtUp after := by
  obtain ⟨middle, step, rfl, shown⟩ := ensureDepreciation_ok returned
  have last := lastCompletedMonthEnd_end before.today
  rw [raisedWatermark_eq last ended]
  have apart : ∀ year month branch,
      (year, month) ∉ before.catchUpMonths rebuildFrom →
      ¬ ∃ item ∈ before.catchUpMonths rebuildFrom,
        ofMonth item.1 item.2 (.depreciation year month branch) := by
    rintro year month branch absent ⟨⟨_, _⟩, member, rfl, rfl⟩
    exact absent member
  constructor
  · exact step.today ▸ started
  · rintro through ⟨⟩
    exact ⟨last, by rw [step.today]; exact Date.le_def.mpr (.inr ⟨rfl, le_rfl⟩)⟩
  · rintro through ⟨⟩ year month valid completed branch
    change Shows middle.books _ (depreciationTarget
      (middle.shop.depreciationOf branch (monthIndex year month)))
    rw [step.shop]
    by_cases listed : (year, month) ∈ before.catchUpMonths rebuildFrom
    · exact shown clean (year, month) listed branch
    · exact step.shows (apart year month branch listed)
        (rest year month valid completed listed branch)
  · intro year month valid unreached branch acct
    have beyond : (lastCompletedMonthEnd before.today).index <
        monthIndex year month := unreached _ rfl
    have absent : (year, month) ∉ before.catchUpMonths rebuildFrom := by
      intro member
      have := within _ member
      simp only at this
      omega
    change ledgerOf middle.books _ acct = 0
    rw [step.elsewhere _ (apart year month branch absent)]
    refine silent year month valid ?_ branch acct
    intro through reached
    have := Date.index_le (ended through reached).2
    omega
  · intro none
    cases none

/-- Nothing is to be written off in the completed months between the watermark
and a day. -/
def Press.Gapless (press : Press) (day : Date) : Prop :=
  ∀ year month, 1 ≤ month ∧ month ≤ 12 →
    press.Unreached (monthIndex year month) → monthIndex year month < day.index →
    monthIndex year month ≤ (lastCompletedMonthEnd press.today).index →
    ∀ branch, press.shop.depreciationOf branch (monthIndex year month) = 0

theorem CaughtUp.of_rebuild {day : Date} {before after : Press}
    (returned : ensureDepreciation (some day) before = .ok ⟨⟩ after)
    (clean : after.failures ≤ before.failures)
    (started : 1 ≤ before.today.year)
    (ended : ∀ through, before.depreciationThrough = some through →
      through.monthEnd = through ∧
        through ≤ lastCompletedMonthEnd before.today)
    (silent : ∀ year month, 1 ≤ month ∧ month ≤ 12 →
      before.Unreached (monthIndex year month) → ∀ branch acct,
        ledgerOf before.books (.depreciation year month branch) acct = 0)
    (posted : ∀ through, before.depreciationThrough = some through →
      ∀ year month, 1 ≤ month ∧ month ≤ 12 →
        monthIndex year month ≤ through.index →
        monthIndex year month < day.index → MonthPosted before year month)
    (gapless : before.Gapless day) : CaughtUp after := by
  have member : ∀ month, month ∈ before.catchUpMonths (some day) ↔ _ :=
    fun month => mem_monthsToPost (lastCompletedMonthEnd_end before.today)
  refine .of_ensureDepreciation returned clean started ended silent ?_ ?_
  · intro year month valid completed absent
    rw [member] at absent
    have early : monthIndex year month < day.index := by
      by_contra late
      exact absent ⟨valid, not_lt.mp late, completed⟩
    by_cases reached : ∃ through, before.depreciationThrough = some through ∧
        monthIndex year month ≤ through.index
    · obtain ⟨through, reached, upTo⟩ := reached
      exact posted through reached year month valid upTo early
    · have unreached : before.Unreached (monthIndex year month) := by
        intro through held
        by_contra upTo
        exact reached ⟨through, held, not_lt.mp upTo⟩
      exact monthPosted_of_nothing
        (gapless year month valid unreached early completed)
        (silent year month valid unreached)
  · intro month listed
    exact ((member month).mp listed).2.2

theorem depreciationForMonth_of_lt {asset : PrintFixedAsset} {month : ℕ}
    (early : month < asset.start.index) :
    asset.depreciationForMonth month = 0 := by
  simp [PrintFixedAsset.depreciationForMonth, early]

theorem index_earliestOf_le (first : Date) (second : Option Date) :
    (earliestOf first second).index ≤ first.index ∧
      ∀ day, second = some day → (earliestOf first second).index ≤ day.index := by
  cases second with
  | none => exact ⟨Nat.le_refl _, nofun⟩
  | some second =>
      rw [earliestOf, Date.index_earlier]
      refine ⟨Nat.min_le_right _ _, ?_⟩
      rintro day ⟨⟩
      exact Nat.min_le_left _ _

theorem depreciationOf_putAsset {shop : Shop} {pk : Option ℕ}
    {asset : PrintFixedAsset} {month : ℕ}
    (found : ∀ key, pk = some key →
      ∃ stored, shop.fixedAssets.get? key = some stored)
    (early : month < (earliestOf asset.start
      ((shop.oldAsset pk).map PrintFixedAsset.start)).index)
    (branch : Option ℕ) :
    (shop.putAsset pk asset).depreciationOf branch month =
      shop.depreciationOf branch month := by
  obtain ⟨lower, lowerOld⟩ := index_earliestOf_le asset.start
    ((shop.oldAsset pk).map PrintFixedAsset.start)
  have fresh := depreciationForMonth_of_lt (early.trans_le lower)
  cases pk with
  | none =>
      rw [Shop.depreciationOf, Shop.putAsset, Table.total_insert, fresh]
      simp [Shop.depreciationOf]
  | some key =>
      obtain ⟨stored, held⟩ := found key rfl
      have before : shop.oldAsset (some key) = some stored := held
      have old := depreciationForMonth_of_lt
        (early.trans_le (lowerOld stored.start (by rw [before]; rfl)))
      rw [Shop.depreciationOf, Shop.putAsset]
      simp only
      rw [Table.total_modify held, fresh, old]
      simp [Shop.depreciationOf]

theorem depreciationOf_erase {shop : Shop} {pk : ℕ} {asset : PrintFixedAsset}
    {month : ℕ} (stored : shop.fixedAssets.get? pk = some asset)
    (early : month < asset.start.index) (branch : Option ℕ) :
    ({ shop with fixedAssets := shop.fixedAssets.erase pk } :
      Shop).depreciationOf branch month = shop.depreciationOf branch month := by
  rw [Shop.depreciationOf]
  simp only
  rw [Table.total_erase stored, depreciationForMonth_of_lt early]
  simp [Shop.depreciationOf]

/-- The assets change in what concerns months from a day on, and a catch-up from
that day follows. -/
theorem CaughtUp.of_change {day : Date} {before changed after : Press}
    (caught : CaughtUp before) (today : changed.today = before.today)
    (through : changed.depreciationThrough = before.depreciationThrough)
    (ledger : ∀ year month branch acct,
      ledgerOf changed.books (.depreciation year month branch) acct =
        ledgerOf before.books (.depreciation year month branch) acct)
    (early : ∀ month, month < day.index → ∀ branch,
      changed.shop.depreciationOf branch month =
        before.shop.depreciationOf branch month)
    (returned : ensureDepreciation (some day) changed = .ok ⟨⟩ after)
    (clean : after.failures ≤ changed.failures)
    (gapless : changed.Gapless day) : CaughtUp after := by
  refine .of_rebuild returned clean (today ▸ caught.started) ?_ ?_ ?_ gapless
  · rw [through, today]
    exact caught.ended
  · intro year month valid unreached branch acct
    unfold Press.Unreached at unreached
    rw [through] at unreached
    rw [ledger]
    exact caught.silent year month valid unreached branch acct
  · intro watermark reached year month valid completed before branch acct
    rw [through] at reached
    rw [ledger, early _ before]
    exact caught.posted watermark reached year month valid completed branch acct

theorem CaughtUp.catchUp {before after : Press} (caught : CaughtUp before)
    (returned : ensureDepreciation none before = .ok ⟨⟩ after)
    (clean : after.failures ≤ before.failures) : CaughtUp after := by
  have last := lastCompletedMonthEnd_end before.today
  cases reached : before.depreciationThrough with
  | none =>
      have unused := caught.unused reached
      have nothing : before.catchUpMonths none = [] := by
        simp [Press.catchUpMonths, Press.depreciationFrom, reached,
          Shop.earliestStart, unused, monthsToPost]
      refine .of_ensureDepreciation returned clean caught.started caught.ended
        caught.silent ?_ ?_
      · intro year month valid _ _
        have unreached : before.Unreached (monthIndex year month) := by
          intro through held
          rw [reached] at held
          cases held
        refine monthPosted_of_nothing ?_ (caught.silent year month valid unreached)
        intro branch
        simp [Shop.depreciationOf, Table.total, unused]
      · intro month listed
        rw [nothing] at listed
        cases listed
  | some watermark =>
      obtain ⟨ended, behind⟩ := caught.ended watermark reached
      refine .of_ensureDepreciation returned clean caught.started caught.ended
        caught.silent ?_ ?_
      · intro year month valid completed absent
        refine caught.posted watermark reached year month valid ?_
        by_contra beyond
        apply absent
        rw [Press.catchUpMonths, Press.depreciationFrom, reached]
        simp only
        rw [if_neg, mem_monthsToPost last, Date.index_next ended]
        · refine ⟨valid, ?_, completed⟩
          simp only
          omega
        · intro done
          have := Date.index_le done
          omega
      · intro month listed
        rw [Press.catchUpMonths, Press.depreciationFrom, reached] at listed
        simp only at listed
        split at listed
        · cases listed
        · exact ((mem_monthsToPost last).mp listed).2.2

/-- Failures are only ever added. -/
theorem ensureDepreciation_failures {rebuildFrom : Option Date}
    {before after : Press}
    (returned : ensureDepreciation rebuildFrom before = .ok ⟨⟩ after) :
    before.failures ≤ after.failures := by
  obtain ⟨middle, step, rfl, -⟩ := ensureDepreciation_ok returned
  exact step.failures

theorem Saved.caughtUp {pk : Option ℕ} {asset : PrintFixedAsset} {key : ℕ}
    {before changed paid after : Press}
    (saved : Saved pk asset key before changed paid after) :
    ∃ middle, ensureDepreciation (some (earliestOf asset.start
        ((before.shop.oldAsset pk).map PrintFixedAsset.start)))
        { before with shop := before.shop.putAsset pk asset } = .ok ⟨⟩ middle ∧
      AssetStep (fun document => ∀ year month branch,
        document ≠ .depreciation year month branch) middle after := by
  obtain ⟨middle, synced, caught, own, suppliers⟩ :=
    onAssetChanged_ok saved.changed_ok
  refine ⟨middle, caught, ?_⟩
  have first := (posts_safely (posts_syncFixedAsset key) _ _ _ own).assetStep
  have second := suppliers.assetStep
  have third := payPrice_assetStep saved.paid_ok
  have fourth := receiveSale_assetStep saved.received_ok
  refine (((first.mono ?_).trans (second.mono ?_)).trans
    (third.mono ?_)).trans (fourth.mono ?_)
  all_goals
    rintro _ among year month branch rfl
    exact among.elim

theorem Removed.assetStep {pk : ℕ} {asset : PrintFixedAsset}
    {before paid cleared caught after : Press}
    (removed : Removed pk asset before paid cleared caught after) :
    AssetStep ofMoney before paid := by
  refine Txn.forM_invariant (AssetStep ofMoney before) ?_ (.refl _ _)
    removed.paid_ok
  intro row _ middle later step deleted
  exact step.trans ((deletePayment_assetStep deleted).mono
    fun _ => ofMoney_of_ofTransaction)

/-- When an operation passes over no month with installments. -/
def AssetOp.Gapless : AssetOp → Press → Prop
  | .save pk sent, press =>
      let asset := press.shop.sentAsset pk sent
      Press.Gapless { press with shop := press.shop.putAsset pk asset }
        (earliestOf asset.start
          ((press.shop.oldAsset pk).map PrintFixedAsset.start))
  | .delete pk, press =>
      ∀ asset, press.shop.fixedAssets.get? pk = some asset →
        Press.Gapless
          { press with
            shop := { press.shop with
              fixedAssets := press.shop.fixedAssets.erase pk } }
          asset.start
  | .catchUp (some day), press => press.Gapless day
  | _, _ => True

theorem assetOp_failures {op : AssetOp} {before after : Press}
    (returned : op.run before = .ok ⟨⟩ after) :
    before.failures ≤ after.failures := by
  cases op with
  | passDay today =>
      obtain rfl := Txn.modify_eq_ok.mp returned
      unfold Press.passDay
      split <;> exact Nat.le_refl _
  | setPeriods periods =>
      obtain rfl := Txn.modify_eq_ok.mp returned
      exact Nat.le_refl _
  | save pk asset =>
      obtain ⟨key, _, called, finished⟩ := Txn.bind_eq_ok.mp returned
      obtain ⟨-, rfl⟩ := Txn.pure_eq_ok.mp finished
      obtain ⟨changed, paid, saved⟩ := saveAsset_ok called
      obtain ⟨middle, caught, step⟩ := saved.caughtUp
      exact (ensureDepreciation_failures caught).trans step.failures
  | delete pk =>
      obtain ⟨asset, paid, cleared, caught, removed⟩ := deleteAsset_ok returned
      exact (removed.assetStep.failures.trans removed.own.failures).trans
        ((ensureDepreciation_failures removed.caught_ok).trans
          removed.parties.failures)
  | catchUp rebuildFrom => exact ensureDepreciation_failures returned

/-- An accepted operation that posts everything and passes over nothing leaves
all months posted. -/
theorem CaughtUp.run {op : AssetOp} {before after : Press}
    (caught : CaughtUp before) (gapless : op.Gapless before)
    (returned : op.run before = .ok ⟨⟩ after)
    (clean : after.failures ≤ before.failures) : CaughtUp after := by
  cases op with
  | passDay today =>
      obtain rfl := Txn.modify_eq_ok.mp returned
      unfold Press.passDay
      split
      · rename_i later
        have years : 1 ≤ today.year := by
          have indices := Date.index_le later
          have := before.today.month_valid
          have := today.month_valid
          have := caught.started
          unfold Date.index monthIndex at indices
          omega
        refine ⟨years, ?_, caught.posted, caught.silent, caught.unused⟩
        intro through reached
        obtain ⟨ended, behind⟩ := caught.ended through reached
        refine ⟨ended, ?_⟩
        rw [Date.le_iff_index_le (lastCompletedMonthEnd_end _)]
        exact (Date.index_le behind).trans (Date.index_le
          (lastCompletedMonthEnd_mono caught.started later))
      · exact caught
  | setPeriods periods =>
      obtain rfl := Txn.modify_eq_ok.mp returned
      exact ⟨caught.started, caught.ended, caught.posted, caught.silent,
        caught.unused⟩
  | save pk asset =>
      obtain ⟨key, _, called, finished⟩ := Txn.bind_eq_ok.mp returned
      obtain ⟨-, rfl⟩ := Txn.pure_eq_ok.mp finished
      obtain ⟨changed, paid, saved⟩ := saveAsset_ok called
      obtain ⟨middle, catching, step⟩ := saved.caughtUp
      have settled : CaughtUp middle := by
        refine caught.of_change ?_ ?_ ?_ ?_ catching
          (step.failures.trans clean) gapless
        · rfl
        · rfl
        · exact fun _ _ _ _ => rfl
        · exact fun month early branch =>
            depreciationOf_putAsset saved.found early branch
      exact settled.assetStep step fun year month branch apart =>
        apart year month branch rfl
  | delete pk =>
      obtain ⟨asset, paid, cleared, final, removed⟩ := deleteAsset_ok returned
      have payments := removed.assetStep
      have own := removed.own
      have assets : cleared.shop.fixedAssets =
          before.shop.fixedAssets.erase pk := by
        rw [own.shop]
        exact congrArg (Table.erase · pk) payments.assets
      have same : ∀ branch month, cleared.shop.depreciationOf branch month =
          ({ before.shop with
            fixedAssets := before.shop.fixedAssets.erase pk } :
              Shop).depreciationOf branch month := by
        intro branch month
        simp only [Shop.depreciationOf, assets]
      have today : cleared.today = before.today :=
        own.today.trans payments.today
      have through : cleared.depreciationThrough = before.depreciationThrough :=
        own.through.trans payments.through
      have settled : CaughtUp final := by
        refine caught.of_change today through ?_ ?_ removed.caught_ok ?_ ?_
        · intro year month branch acct
          rw [own.elsewhere _ (by simp [ofAsset])]
          exact payments.elsewhere _ (by simp [ofMoney]) acct
        · intro month early branch
          rw [same]
          exact depreciationOf_erase removed.found early branch
        · exact (removed.parties.failures.trans clean).trans
            (payments.failures.trans own.failures)
        · intro year month valid unreached early completed branch
          rw [same]
          unfold Press.Unreached at unreached
          rw [through] at unreached
          rw [today] at completed
          exact gapless asset removed.found year month valid unreached early
            completed branch
      exact settled.assetStep removed.parties.assetStep
        fun year month branch among => among.elim
  | catchUp rebuildFrom =>
      cases rebuildFrom with
      | none => exact caught.catchUp returned clean
      | some day =>
          exact caught.of_change rfl rfl (fun _ _ _ _ => rfl)
            (fun _ _ _ => rfl) returned clean gapless

/-- No asset is stored and nothing was ever written off. -/
structure Press.Unopened (press : Press) : Prop where
  started : 1 ≤ press.today.year
  unused : press.shop.fixedAssets.rows = []
  unreached : press.depreciationThrough = none
  silent : ∀ year month branch acct,
    ledgerOf press.books (.depreciation year month branch) acct = 0

theorem Press.Unopened.caughtUp {press : Press} (unopened : press.Unopened) :
    CaughtUp press where
  started := unopened.started
  ended through reached := by
    rw [unopened.unreached] at reached
    cases reached
  posted through reached := by
    rw [unopened.unreached] at reached
    cases reached
  silent year month _ _ := unopened.silent year month
  unused _ := unopened.unused

/-- In a run whose postings all succeed and whose catch-ups pass over no month
with installments, every month up to the watermark is posted. -/
theorem months_posted (press : Press) (unopened : press.Unopened)
    (ops : List AssetOp)
    (gapless : Txn.Throughout AssetOp.run AssetOp.Gapless ops press)
    (clean : (Txn.after AssetOp.run ops press).failures = press.failures) :
    NoMonthSkipped (Txn.after AssetOp.run ops press) := by
  have kept := Txn.after_of_throughout
    (fun state => press.failures ≤ state.failures ∧
      (state.failures ≤ press.failures → CaughtUp state))
    rollsBack_assetOp ?_ ops press ⟨Nat.le_refl _, fun _ => unopened.caughtUp⟩
    gapless
  · exact (kept.2 clean.le).noMonthSkipped
  · rintro op before final ⟨least, caught⟩ meets returned
    have more := assetOp_failures returned
    refine ⟨least.trans more, fun still => ?_⟩
    exact (caught (more.trans still)).run meets returned (still.trans least)

def februaryPress : Press where
  books :=
    { chart := .empty, periods := .empty, entries := .empty, today := 738926 }
  today := ⟨2024, 2, 10, by decide, by decide⟩

theorem februaryPress_unopened : februaryPress.Unopened where
  started := by decide
  unused := rfl
  unreached := rfl
  silent _ _ _ _ := rfl

private theorem firstMonth_valid : 1 ≤ 1 ∧ 1 ≤ 12 := by
  decide

private theorem fifteenth_valid : 1 ≤ 15 ∧ 15 ≤ 31 := by
  decide

def januaryMachine : PrintFixedAsset where
  purchaseDate := ⟨2024, 1, 15, firstMonth_valid, fifteenth_valid⟩
  cost := 120000
  usefulLifeMonths := 12
  funding := .opening

private theorem march_valid : 1 ≤ 3 ∧ 3 ≤ 12 := by
  decide

private theorem tenth_valid : 1 ≤ 10 ∧ 10 ≤ 31 := by
  decide

def marchMachine : PrintFixedAsset :=
  { januaryMachine with
    purchaseDate := ⟨2024, 3, 10, march_valid, tenth_valid⟩ }

def aprilSave : List AssetOp :=
  [.save none januaryMachine, .passDay ⟨2024, 4, 10, by decide, by decide⟩,
    .save none marchMachine]

/-- The first asset alone, caught up in April. -/
theorem months_posted_april :
    NoMonthSkipped (Txn.after AssetOp.run [.save none januaryMachine,
      .passDay ⟨2024, 4, 10, by decide, by decide⟩, .catchUp none]
      februaryPress) := by
  apply months_posted februaryPress februaryPress_unopened
  · refine ⟨fun _ => ?_, fun _ => trivial, fun _ => trivial, trivial⟩
    intro year month valid unreached early completed branch
    exact depreciationOf_putAsset (by rintro key ⟨⟩) early branch
  · decide +kernel

/-- In April the second asset moves the watermark over February, which the
first asset never gets. -/
theorem months_not_posted :
    ¬ ∀ press : Press, press.Unopened → ∀ ops,
      (Txn.after AssetOp.run ops press).failures = press.failures →
        NoMonthSkipped (Txn.after AssetOp.run ops press) := by
  intro always
  have posted := always februaryPress februaryPress_unopened aprilSave
    (by decide +kernel)
    ⟨2024, 1, 15, by decide, by decide⟩ ⟨2024, 3, 31, by decide, by decide⟩
    (by decide +kernel) (by decide +kernel) 2024 2 (by decide) (by decide)
    (by decide) none (PRINT_ACCOUNTS .depreciation).1
  revert posted
  decide +kernel

end Mousstec.Printing
