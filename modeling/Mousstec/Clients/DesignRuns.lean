import Mousstec.Clients.DesignBalance
import Mousstec.Clients.DesignRequests

/-!
# Requests for designs over runs

Under a row lock a row is read and charged by one request at a time.  What is
counted in the usage log or read from a loaded customer has to hold still until
it is charged, and a gift has to be taken when the plan is used up.
-/

namespace Mousstec

namespace Clients

open Library

def charged (usage : List UsageRow) (source : UsageSource) (action : AiAction)
    (month : Moment) : ℕ :=
  usage.countP fun row => decide (row.source = source ∧
    row.actionType = action ∧ row.usedAt.SameMonth month)

/-- Nothing of a company is used beyond what it grants. -/
structure DesignTenant.Within (tenant : DesignTenant) : Prop where
  plan : ∀ month, (charged tenant.usage .planMonthlyQuota .aiGeneration month : ℤ) ≤
    max tenant.planQuota 0
  addon : ∀ action month,
    (charged tenant.usage .subscription action month : ℤ) ≤
      max ((tenant.addonLimit action).getD 0) 0
  grants : ∀ key grant, tenant.grants.get? key = some grant → ∀ field,
    (grant.bonus field).consumed ≤ (grant.bonus field).granted
  topups : ∀ key topup, tenant.topups.get? key = some topup →
    topup.designsUsed ≤ topup.designsTotal

/-- Nothing of a customer is used beyond what it grants. -/
structure DesignCustomer.Within (customer : DesignCustomer) : Prop where
  free : customer.freeDesignsUsed ≤ customer.freeDesignsTotal
  purchases : ∀ key purchase, customer.purchases.get? key = some purchase →
    purchase.designsUsed ≤ purchase.designsTotal

/-- Nothing is overspent, and no design on a gift or a top-up has cost the plan
anything. -/
structure NeverOverspent (world : CreditWorld) : Prop where
  tenant : world.tenant.Within
  customer : world.customer.Within
  gifts : ∀ record ∈ world.gifts, record.allowedBefore ≤ record.allowedAfter

/-- The next statement of a request does not charge what it counted or loaded
after that has changed, nor a gift while the plan allows more. -/
def CreditStage.careful (world : CreditWorld) : CreditStage → Bool
  | counted _ used =>
      decide (world.tenant.planQuota ≤ used) ||
        getMonthlyUsage world.tenant.usage .aiGeneration world.now == used
  | allowed action _ used =>
      getMonthlyUsage world.tenant.usage action world.now == used
  | loaded total used =>
      decide (total ≤ used) ||
        world.customer.freeDesignsTotal == total &&
          world.customer.freeDesignsUsed == used
  | charging (.grant moment _) | charging (.topup moment _) =>
      decide (moment.SameMonth world.now)
  | charging (.bonus .aiGeneration _ _ _) =>
      world.tenant.planRemaining world.now == 0
  | _ => true

def CreditOp.Careful (op : CreditOp) (world : CreditWorld) : Prop :=
  match op with
  | statement key =>
      ((world.requests.get? key).all fun stage => stage.careful world) = true
  | _ => True

instance CreditOp.decidableCareful (op : CreditOp) (world : CreditWorld) :
    Decidable (op.Careful world) :=
  match op with
  | statement _ => inferInstanceAs (Decidable (_ = true))
  | clock _ | consumeTenantCredit | deduct _ | consumeCustomerCredit
  | rollBack _ => inferInstanceAs (Decidable True)

def CreditStage.Fits (tenant : DesignTenant) (customer : DesignCustomer) :
    CreditStage → Prop
  | counted now used => used ≤ tenant.used now
  | seekingGrant now | seekingTopup now => tenant.planQuota ≤ tenant.used now
  | allowed action _ used =>
      ∃ limit, tenant.addonLimit action = some limit ∧ (used : ℤ) < limit
  | charging (.grant moment key) =>
      tenant.planQuota ≤ tenant.used moment ∧
        ∃ grant, tenant.grants.get? key = some grant ∧
          grant.designs.consumed < grant.designs.granted
  | charging (.topup moment key) =>
      tenant.planQuota ≤ tenant.used moment ∧
        ∃ topup, tenant.topups.get? key = some topup ∧
          topup.designsUsed < topup.designsTotal
  | charging (.bonus _ field _ key) =>
      ∃ grant, tenant.grants.get? key = some grant ∧
        (grant.bonus field).consumed < (grant.bonus field).granted
  | charging (.purchase key) =>
      ∃ purchase, customer.purchases.get? key = some purchase ∧
        purchase.designsUsed < purchase.designsTotal
  | _ => True

/-- What holds after every careful operation. -/
structure SoundCredits (world : CreditWorld) : Prop where
  promised : NeverOverspent world
  alone : ∀ first left second right row,
    world.requests.get? first = some left →
      world.requests.get? second = some right →
        row ∈ left.locks → row ∈ right.locks → first = second
  fits : ∀ key stage, world.requests.get? key = some stage →
    stage.Fits world.tenant world.customer

theorem charged_le (usage : List UsageRow) (source : UsageSource)
    (action : AiAction) (month : Moment) :
    charged usage source action month ≤ getMonthlyUsage usage action month := by
  apply List.countP_mono_left
  intro row _ counts
  simp only [decide_eq_true_eq] at counts ⊢
  exact counts.2

theorem getMonthlyUsage_congr (usage : List UsageRow) (action : AiAction)
    {first second : Moment} (same : first.SameMonth second) :
    getMonthlyUsage usage action first = getMonthlyUsage usage action second := by
  apply List.countP_congr
  intro row _
  rw [decide_eq_true_iff, decide_eq_true_iff, Moment.SameMonth,
    Moment.SameMonth, same.1, same.2]

namespace DesignTenant

variable (tenant : DesignTenant) (now : Moment)

theorem charged_track_of_ne {source other : UsageSource}
    (different : source ≠ other) (action logged : AiAction) (month : Moment) :
    charged (tenant.track now logged source).usage other action month =
      charged tenant.usage other action month := by
  simp [charged, track, different]

theorem charged_track_le (source other : UsageSource)
    (action logged : AiAction) (month : Moment) :
    charged (tenant.track now logged source).usage other action month ≤
      charged tenant.usage other action month + 1 := by
  simp only [charged, track, List.countP_append, List.countP_singleton]
  split <;> omega

theorem charged_track_of_month {source : UsageSource} {action logged : AiAction}
    {month : Moment} (apart : ¬(logged = action ∧ now.SameMonth month)) :
    charged (tenant.track now logged source).usage source action month =
      charged tenant.usage source action month := by
  simp [charged, track, apart]

theorem usage_track_le (source : UsageSource) (action logged : AiAction)
    (month : Moment) :
    getMonthlyUsage tenant.usage action month ≤
      getMonthlyUsage (tenant.track now logged source).usage action month := by
  simp only [getMonthlyUsage, track, List.countP_append]
  omega

theorem usage_track_of_ne {action logged : AiAction} (different : logged ≠ action)
    (source : UsageSource) (month : Moment) :
    getMonthlyUsage (tenant.track now logged source).usage action month =
      getMonthlyUsage tenant.usage action month := by
  simp [getMonthlyUsage, track, different]

theorem planRemaining_of_usedUp {now : Moment} {tenant after : DesignTenant}
    (empty : tenant.planQuota ≤ tenant.used now)
    (quota : after.planQuota = tenant.planQuota)
    (more : tenant.used now ≤ after.used now) :
    tenant.planRemaining now ≤ after.planRemaining now := by
  unfold planRemaining used at *
  omega

end DesignTenant

def CreditRow.Kept (tenant after : DesignTenant)
    (customer afterwards : DesignCustomer) : CreditRow → Prop
  | grant key => after.grants.get? key = tenant.grants.get? key
  | topup key => after.topups.get? key = tenant.topups.get? key
  | purchase key =>
      afterwards.purchases.get? key = customer.purchases.get? key

theorem CreditStage.Fits.of_kept {tenant after : DesignTenant}
    {customer afterwards : DesignCustomer} {stage : CreditStage}
    (fits : stage.Fits tenant customer)
    (subscription : after.subscription = tenant.subscription)
    (more : ∀ moment, tenant.used moment ≤ after.used moment)
    (kept : ∀ row ∈ stage.locks, row.Kept tenant after customer afterwards) :
    stage.Fits after afterwards := by
  have quota : after.planQuota = tenant.planQuota := by
    unfold DesignTenant.planQuota
    rw [subscription]
  have still : ∀ moment, tenant.planQuota ≤ tenant.used moment →
      after.planQuota ≤ after.used moment := by
    intro moment empty
    have grown := more moment
    omega
  have addon : after.addonLimit = tenant.addonLimit := by
    funext action
    unfold DesignTenant.addonLimit
    rw [subscription]
  cases stage with
  | seekingGrant now => exact still now fits
  | seekingTopup now => exact still now fits
  | allowed action acquired used =>
      obtain ⟨limit, known, allowed⟩ := fits
      exact ⟨limit, addon ▸ known, allowed⟩
  | charging charge =>
      cases charge with
      | grant moment key =>
          obtain ⟨empty, grant, found, room⟩ := fits
          exact ⟨still moment empty, grant,
            (kept _ List.mem_cons_self).trans found, room⟩
      | topup moment key =>
          obtain ⟨empty, topup, found, room⟩ := fits
          exact ⟨still moment empty, topup,
            (kept _ List.mem_cons_self).trans found, room⟩
      | bonus action field acquired key =>
          obtain ⟨grant, found, room⟩ := fits
          exact ⟨grant, (kept _ List.mem_cons_self).trans found, room⟩
      | purchase key =>
          obtain ⟨purchase, found, room⟩ := fits
          exact ⟨purchase, (kept _ List.mem_cons_self).trans found, room⟩
  | opened now => trivial
  | counted now used => exact Nat.le_trans fits (more now)
  | locking action acquired => trivial
  | loaded total used => trivial
  | seekingPurchase now => trivial
  | finished => trivial

section Stages

variable {world : CreditWorld} {key : ℕ} {stage : CreditStage}

theorem CreditWorld.free_iff {row : CreditRow} : world.free key row = true ↔
    ∀ other stage, world.requests.get? other = some stage → other ≠ key →
      row ∉ stage.locks := by
  unfold CreditWorld.free
  rw [List.all_eq_true]
  constructor
  · intro free other stage found different held
    have unlocked := free _ (Table.get?_eq_some.mp found)
    simp [different, held] at unlocked
  · rintro free ⟨other, stage⟩ member
    by_cases same : other = key
    · simp [same]
    · simpa [same] using free other stage (Table.get?_eq_some.mpr member) same

variable (sound : SoundCredits world)
  (found : world.requests.get? key = some stage)

include sound found

theorem SoundCredits.free_of_held {row : CreditRow} (held : row ∈ stage.locks) :
    world.free key row = true := by
  rw [CreditWorld.free_iff]
  intro other stage' there different also
  exact different (sound.alone other stage' key stage row there found also held)

/-- A request goes on with rows that it had locked or that were free, and finds
what it relies on. -/
theorem SoundCredits.goOn {next : CreditStage}
    (locks : ∀ row ∈ next.locks, world.free key row = true)
    (fits : next.Fits world.tenant world.customer) :
    SoundCredits (world.goOn key next) where
  promised := ⟨sound.promised.tenant, sound.promised.customer,
    sound.promised.gifts⟩
  alone := by
    intro first left second right row leftFound rightFound leftHeld rightHeld
    simp only [CreditWorld.goOn, Table.get?_modify, found] at leftFound rightFound
    by_cases here : first = key
    · by_cases there : second = key
      · rw [here, there]
      · rw [if_pos here] at leftFound
        rw [if_neg there] at rightFound
        obtain rfl := Option.some.inj leftFound
        exact absurd rightHeld (CreditWorld.free_iff.mp (locks row leftHeld)
          second right rightFound there)
    · rw [if_neg here] at leftFound
      by_cases there : second = key
      · rw [if_pos there] at rightFound
        obtain rfl := Option.some.inj rightFound
        exact absurd leftHeld (CreditWorld.free_iff.mp (locks row rightHeld)
          first left leftFound here)
      · rw [if_neg there] at rightFound
        exact sound.alone first left second right row leftFound rightFound
          leftHeld rightHeld
  fits := by
    intro other stage' there
    rcases Table.get?_modify_of_some found there with ⟨-, rfl⟩ | there
    · exact fits
    · exact sound.fits other stage' there

theorem SoundCredits.finish : SoundCredits (world.goOn key .finished) :=
  sound.goOn found (fun _ held => by cases held) trivial

/-- A request commits a change that keeps the promise and touches no row that
another has locked. -/
theorem SoundCredits.commit {tenant : DesignTenant} {customer : DesignCustomer}
    {gifts : List GiftRecord}
    (promised : NeverOverspent { world with tenant, customer, gifts })
    (subscription : tenant.subscription = world.tenant.subscription)
    (more : ∀ moment, world.tenant.used moment ≤ tenant.used moment)
    (kept : ∀ row, row ∉ stage.locks →
      row.Kept world.tenant tenant world.customer customer) :
    SoundCredits
      ({ world with tenant, customer, gifts }.goOn key .finished) := by
  have finished := sound.finish found
  refine ⟨⟨promised.tenant, promised.customer, promised.gifts⟩, finished.alone,
    ?_⟩
  intro other stage' there
  simp only [CreditWorld.goOn, Table.get?_modify, found] at there
  by_cases here : other = key
  · rw [if_pos here] at there
    obtain rfl := Option.some.inj there
    trivial
  · rw [if_neg here] at there
    refine (sound.fits other stage' there).of_kept subscription more ?_
    intro row held
    exact kept row fun also =>
      here (sound.alone other stage' key stage row there found held also)

end Stages

namespace DesignTenant.Within

variable {tenant : DesignTenant} {now : Moment}

private theorem charged_track {source : UsageSource} {action : AiAction}
    {limit : ℤ} {used : ℕ}
    (before : ∀ month, (charged tenant.usage source action month : ℤ) ≤
      max limit 0)
    (allowed : (used : ℤ) < limit)
    (same : getMonthlyUsage tenant.usage action now = used) (month : Moment) :
    (charged (tenant.track now action source).usage source action month : ℤ) ≤
      max limit 0 := by
  by_cases here : now.SameMonth month
  · have one := tenant.charged_track_le now source source action action month
    have all := charged_le tenant.usage source action month
    have counted := getMonthlyUsage_congr tenant.usage action here
    omega
  · rw [tenant.charged_track_of_month now fun both => here both.2]
    exact before month

variable (within : tenant.Within)

include within

theorem trackPlan {used : ℕ} (allowed : (used : ℤ) < tenant.planQuota)
    (same : getMonthlyUsage tenant.usage .aiGeneration now = used) :
    (tenant.track now .aiGeneration .planMonthlyQuota).Within where
  plan := charged_track within.plan allowed same
  addon action month := by
    rw [tenant.charged_track_of_ne now (by decide)]
    exact within.addon action month
  grants := within.grants
  topups := within.topups

theorem trackAddon {action : AiAction} {limit : ℤ} {used : ℕ}
    (known : tenant.addonLimit action = some limit)
    (allowed : (used : ℤ) < limit)
    (same : getMonthlyUsage tenant.usage action now = used) :
    (tenant.track now action .subscription).Within where
  plan month := by
    rw [tenant.charged_track_of_ne now (by decide)]
    exact within.plan month
  addon other month := by
    have kept : (tenant.track now action .subscription).addonLimit other =
        tenant.addonLimit other := rfl
    rw [kept]
    by_cases here : action = other
    · subst here
      have before := within.addon action
      rw [known] at before ⊢
      exact charged_track before allowed same month
    · rw [tenant.charged_track_of_month now fun both => here both.1]
      exact within.addon other month
  grants := within.grants
  topups := within.topups

theorem trackGift {source : UsageSource} (plan : source ≠ .planMonthlyQuota)
    (addon : source ≠ .subscription) (action : AiAction) :
    (tenant.track now action source).Within where
  plan month := by
    rw [tenant.charged_track_of_ne now plan]
    exact within.plan month
  addon other month := by
    rw [tenant.charged_track_of_ne now addon]
    exact within.addon other month
  grants := within.grants
  topups := within.topups

theorem chargeBonus {key : ℕ} {grant : BonusGrant} {field : BonusField}
    (found : tenant.grants.get? key = some grant)
    (room : (grant.bonus field).consumed < (grant.bonus field).granted)
    (action : AiAction) {source : UsageSource}
    (plan : source ≠ .planMonthlyQuota) (addon : source ≠ .subscription) :
    (DesignTenant.track now
      { tenant with
        grants :=
          tenant.grants.modify key fun grant => grant.consume field }
      action source).Within := by
  have stored := within.grants key grant found
  have grants := (Table.forall_get?_modify found
    (fun grant => grant.consume field)
    (fun _ grant => ∀ field,
      (grant.bonus field).consumed ≤ (grant.bonus field).granted) stored
    (fun other => by
      have before := stored other
      cases field with
      | designs =>
          cases other with
          | designs => exact room
          | whatsapp => exact before
          | watermarks => exact before
      | whatsapp =>
          cases other with
          | designs => exact before
          | whatsapp => exact room
          | watermarks => exact before
      | watermarks =>
          cases other with
          | designs => exact before
          | whatsapp => exact before
          | watermarks => exact room)).mpr within.grants
  have changed : DesignTenant.Within
      { tenant with
        grants :=
          tenant.grants.modify key fun grant => grant.consume field } :=
    ⟨within.plan, within.addon, grants, within.topups⟩
  exact changed.trackGift plan addon action

theorem chargeTopup {key : ℕ} {topup : DesignPack}
    (found : tenant.topups.get? key = some topup)
    (room : topup.designsUsed < topup.designsTotal) :
    (tenant.chargeTopup now key).Within := by
  have topups := (Table.forall_get?_modify found DesignPack.consumeDesign
    (fun _ topup => topup.designsUsed ≤ topup.designsTotal)
    (Int.le_of_lt room) room).mpr within.topups
  have changed : DesignTenant.Within
      { tenant with
        topups := tenant.topups.modify key DesignPack.consumeDesign } :=
    ⟨within.plan, within.addon, within.grants, topups⟩
  exact changed.trackGift UsageSource.noConfusion UsageSource.noConfusion
    .aiGeneration

end DesignTenant.Within

theorem DesignCustomer.Within.chargePurchase {customer : DesignCustomer}
    (within : customer.Within) {key : ℕ} {purchase : DesignPack}
    (found : customer.purchases.get? key = some purchase)
    (room : purchase.designsUsed < purchase.designsTotal) :
    (customer.chargePurchase key).Within :=
  ⟨within.free, (Table.forall_get?_modify found DesignPack.consumeDesign
    (fun _ purchase => purchase.designsUsed ≤ purchase.designsTotal)
    (Int.le_of_lt room) room).mpr within.purchases⟩

namespace DesignTenant

variable {tenant : DesignTenant} {now : Moment} {action : AiAction}
  {field : BonusField}

theorem getBonusRemaining_of_none (known : fieldMap action = some field)
    (none : tenant.nextBonus now field = .none) :
    tenant.getBonusRemaining now action = 0 := by
  unfold getBonusRemaining
  rw [known]
  apply Table.total_eq_zero
  intro key grant found
  by_cases valid : grant.isValid now = true
  · have empty : ¬(grant.bonus field).consumed < (grant.bonus field).granted := by
      intro some
      have member : (key, grant) ∈ tenant.grants.rows.filter fun row =>
          row.2.isValid now &&
            decide ((row.2.bonus field).consumed < (row.2.bonus field).granted) :=
        List.mem_filter.mpr ⟨Table.get?_eq_some.mp found, by simp [valid, some]⟩
      rw [firstIn_eq_none.mp none] at member
      cases member
    rw [if_pos valid]
    omega
  · rw [if_neg valid]

theorem canUse_addon (none : tenant.getBonusRemaining now action = 0)
    (can : tenant.canUse now action = true) :
    ∃ limit, tenant.addonLimit action = some limit ∧
      (getMonthlyUsage tenant.usage action now : ℤ) < limit := by
  rw [canUse, none, Bool.or_eq_true, Option.any_eq_true] at can
  rcases can with positive | ⟨limit, known, allowed⟩
  · exact absurd (of_decide_eq_true positive) (Int.lt_irrefl 0)
  · exact ⟨limit, known, of_decide_eq_true allowed⟩

theorem nextBonus_eq_some {key : ℕ} {grant : BonusGrant}
    (chosen : tenant.nextBonus now field = some (key, grant)) :
    tenant.grants.get? key = some grant ∧ grant.isActive = true ∧
      (grant.bonus field).consumed < (grant.bonus field).granted := by
  have member := firstIn_mem chosen
  rw [List.mem_filter, Bool.and_eq_true, decide_eq_true_iff] at member
  obtain ⟨stored, valid, room⟩ := member
  have active : grant.isActive = true := (Bool.and_eq_true_iff.mp valid).1
  exact ⟨Table.get?_eq_some.mpr stored, active, room⟩

theorem acquired_of_nextToLock {acquired : List ℕ}
    (none : tenant.nextToLock acquired = .none) {key : ℕ} {grant : BonusGrant}
    (found : tenant.grants.get? key = some grant)
    (active : grant.isActive = true) : key ∈ acquired := by
  by_contra absent
  have member : (key, grant) ∈ tenant.grants.rows.filter fun row =>
      row.2.isActive && !acquired.contains row.1 :=
    List.mem_filter.mpr ⟨Table.get?_eq_some.mp found, by simp [active, absent]⟩
  rw [firstIn_eq_none.mp none] at member
  cases member

end DesignTenant

section Statements

variable {world : CreditWorld} (sound : SoundCredits world) {key : ℕ}

include sound

theorem SoundCredits.commitGift {stage : CreditStage}
    (found : world.requests.get? key = some stage) {tenant : DesignTenant}
    (within : tenant.Within)
    (subscription : tenant.subscription = world.tenant.subscription)
    (more : ∀ moment, world.tenant.used moment ≤ tenant.used moment)
    (kept : ∀ row, row ∉ stage.locks →
      row.Kept world.tenant tenant world.customer world.customer)
    (allowed : world.tenant.planRemaining world.now ≤
      tenant.planRemaining world.now) :
    SoundCredits (world.commitGift key tenant) := by
  have gifts : ∀ record ∈ world.gifts ++ [⟨world.tenant.planRemaining world.now,
      tenant.planRemaining world.now⟩],
      GiftRecord.allowedBefore record ≤ record.allowedAfter := by
    intro record member
    rcases List.mem_append.mp member with old | new
    · exact sound.promised.gifts record old
    · obtain rfl := List.mem_singleton.mp new
      exact allowed
  exact sound.commit found ⟨within, sound.promised.customer, gifts⟩ subscription
    more kept

theorem SoundCredits.charge {charge : Charge}
    (found : world.requests.get? key = some (.charging charge))
    (careful : (CreditStage.charging charge).careful world = true) :
    SoundCredits (world.charge key charge) := by
  have fits := sound.fits key _ found
  have within := sound.promised.tenant
  cases charge with
  | grant moment grant =>
      obtain ⟨empty, stored, there, room⟩ := fits
      have month : moment.SameMonth world.now := of_decide_eq_true careful
      have usedUp : world.tenant.planQuota ≤ world.tenant.used world.now := by
        have same :=
          getMonthlyUsage_congr world.tenant.usage .aiGeneration month
        unfold DesignTenant.used at empty ⊢
        omega
      have more : ∀ moment, world.tenant.used moment ≤
          (world.tenant.chargeGrant world.now grant).used moment :=
        DesignTenant.usage_track_le _ world.now _ .aiGeneration .aiGeneration
      refine sound.commitGift found ?_ rfl more ?_
        (DesignTenant.planRemaining_of_usedUp usedUp rfl (more world.now))
      · have design : (stored.bonus .designs).consumed <
            (stored.bonus .designs).granted := room
        exact within.chargeBonus there design .aiGeneration
          UsageSource.noConfusion UsageSource.noConfusion
      · intro row unlocked
        cases row with
        | grant other =>
            apply Table.get?_modify_of_ne
            rintro rfl
            exact unlocked List.mem_cons_self
        | topup other => rfl
        | purchase other => rfl
  | topup moment topup =>
      obtain ⟨empty, stored, there, room⟩ := fits
      have month : moment.SameMonth world.now := of_decide_eq_true careful
      have usedUp : world.tenant.planQuota ≤ world.tenant.used world.now := by
        have same :=
          getMonthlyUsage_congr world.tenant.usage .aiGeneration month
        unfold DesignTenant.used at empty ⊢
        omega
      have more : ∀ moment, world.tenant.used moment ≤
          (world.tenant.chargeTopup world.now topup).used moment :=
        DesignTenant.usage_track_le _ world.now _ .aiGeneration .aiGeneration
      refine sound.commitGift found (within.chargeTopup there room) rfl more ?_
        (DesignTenant.planRemaining_of_usedUp usedUp rfl (more world.now))
      intro row unlocked
      cases row with
      | grant other => rfl
      | topup other =>
          apply Table.get?_modify_of_ne
          rintro rfl
          exact unlocked List.mem_cons_self
      | purchase other => rfl
  | bonus action field acquired grant =>
      obtain ⟨stored, there, room⟩ := fits
      have more : ∀ moment, world.tenant.used moment ≤
          (world.tenant.chargeBonus world.now action field grant).used moment :=
        DesignTenant.usage_track_le _ world.now _ .aiGeneration action
      refine sound.commitGift found ?_ rfl more ?_ ?_
      · exact within.chargeBonus there room action UsageSource.noConfusion
          UsageSource.noConfusion
      · intro row unlocked
        cases row with
        | grant other =>
            apply Table.get?_modify_of_ne
            rintro rfl
            exact unlocked List.mem_cons_self
        | topup other => rfl
        | purchase other => rfl
      · by_cases design : action = .aiGeneration
        · subst design
          have nothing : world.tenant.planRemaining world.now = 0 :=
            eq_of_beq careful
          rw [nothing]
          exact le_max_right _ _
        · have same : (world.tenant.chargeBonus world.now action field
              grant).used world.now = world.tenant.used world.now :=
            DesignTenant.usage_track_of_ne _ world.now design _ world.now
          have quota : (world.tenant.chargeBonus world.now action field
              grant).planQuota = world.tenant.planQuota := rfl
          unfold DesignTenant.planRemaining
          unfold DesignTenant.used at same
          rw [same, quota]
  | purchase purchase =>
      obtain ⟨stored, there, room⟩ := fits
      refine sound.commit found
        ⟨within, sound.promised.customer.chargePurchase there room,
          sound.promised.gifts⟩ rfl (fun _ => Nat.le_refl _) ?_
      intro row unlocked
      cases row with
      | grant other => rfl
      | topup other => rfl
      | purchase other =>
          apply Table.get?_modify_of_ne
          rintro rfl
          exact unlocked List.mem_cons_self

theorem SoundCredits.checkUse {action : AiAction} {acquired : List ℕ}
    (found : world.requests.get? key = some (.locking action acquired))
    (none : world.tenant.getBonusRemaining world.now action = 0) :
    SoundCredits (world.checkUse key action acquired) := by
  unfold CreditWorld.checkUse
  split
  · rename_i can
    refine sound.goOn found ?_ (DesignTenant.canUse_addon none can)
    exact fun row held => sound.free_of_held found held
  · exact sound.finish found

theorem SoundCredits.lockOrTake {action : AiAction} {acquired : List ℕ}
    {field : BonusField} (known : fieldMap action = some field)
    (found : world.requests.get? key = some (.locking action acquired)) :
    SoundCredits (world.lockOrTake key action acquired field) := by
  unfold CreditWorld.lockOrTake
  cases lock : world.tenant.nextToLock acquired with
  | some next =>
      by_cases unlocked : world.free key (.grant next.1) = true
      · simp only [unlocked, if_true]
        refine sound.goOn found ?_ trivial
        intro row held
        rcases List.mem_cons.mp held with rfl | before
        · exact unlocked
        · exact sound.free_of_held found before
      · simp only [unlocked]
        exact sound
  | none =>
      cases taken : world.tenant.nextBonus world.now field with
      | some next =>
          obtain ⟨grant, there⟩ := next
          obtain ⟨stored, active, room⟩ :=
            DesignTenant.nextBonus_eq_some taken
          have locked : grant ∈ acquired :=
            DesignTenant.acquired_of_nextToLock lock stored active
          refine sound.goOn found ?_ ⟨there, stored, room⟩
          intro row held
          apply sound.free_of_held found
          rcases List.mem_cons.mp held with rfl | before
          · exact List.mem_map.mpr ⟨grant, locked, rfl⟩
          · exact before
      | none =>
          exact sound.checkUse found
            (DesignTenant.getBonusRemaining_of_none known taken)

theorem SoundCredits.statement {stage : CreditStage}
    (found : world.requests.get? key = some stage)
    (careful : stage.careful world = true) :
    SoundCredits (world.statement key stage) := by
  have fits := sound.fits key stage found
  have promised := sound.promised
  have unlocked : ∀ row ∈ ([] : List CreditRow), world.free key row = true :=
    fun row held => by cases held
  cases stage with
  | opened now => exact sound.goOn found unlocked (Nat.le_refl _)
  | counted now used =>
      by_cases allowed : (used : ℤ) < world.tenant.planQuota
      · have same : getMonthlyUsage world.tenant.usage .aiGeneration
            world.now = used := by
          have either := Bool.or_eq_true_iff.mp careful
          rcases either with empty | same
          · exact absurd (of_decide_eq_true empty) (by omega)
          · exact eq_of_beq same
        simp only [CreditWorld.statement, allowed, if_true]
        exact sound.commit found
          ⟨promised.tenant.trackPlan allowed same, promised.customer,
            promised.gifts⟩ rfl
          (DesignTenant.usage_track_le _ world.now _ .aiGeneration .aiGeneration)
          fun row _ => by cases row <;> rfl
      · simp only [CreditWorld.statement, allowed]
        have empty : world.tenant.planQuota ≤ world.tenant.used now := by
          have grown : used ≤ world.tenant.used now := fits
          omega
        exact sound.goOn found unlocked empty
  | seekingGrant now =>
      simp only [CreditWorld.statement]
      cases chosen : world.tenant.nextGrant now fun grant =>
          world.free key (.grant grant) with
      | none => exact sound.goOn found unlocked fits
      | some next =>
          obtain ⟨grant, stored⟩ := next
          obtain ⟨there, free, takeable⟩ := nextGrant_eq_some chosen
          refine sound.goOn found ?_ ⟨fits, stored, there,
            (DesignTenant.takeable_iff.mp takeable).2.1⟩
          intro row held
          obtain rfl := List.mem_singleton.mp held
          exact free
  | seekingTopup now =>
      simp only [CreditWorld.statement]
      cases chosen : world.tenant.nextTopup now fun topup =>
          world.free key (.topup topup) with
      | none => exact sound.finish found
      | some next =>
          obtain ⟨topup, stored⟩ := next
          obtain ⟨there, free, remains, -⟩ := nextTopup_eq_some chosen
          refine sound.goOn found ?_ ⟨fits, stored, there,
            (DesignPack.remains_iff.mp remains).2⟩
          intro row held
          obtain rfl := List.mem_singleton.mp held
          exact free
  | locking action acquired =>
      simp only [CreditWorld.statement]
      cases known : fieldMap action with
      | some field => exact sound.lockOrTake known found
      | none =>
          refine sound.checkUse found ?_
          unfold DesignTenant.getBonusRemaining
          rw [known]
  | allowed action acquired used =>
      obtain ⟨limit, known, below⟩ := fits
      exact sound.commit found
        ⟨promised.tenant.trackAddon known below (eq_of_beq careful),
          promised.customer, promised.gifts⟩ rfl
        (DesignTenant.usage_track_le _ world.now _ .aiGeneration action)
        fun row _ => by cases row <;> rfl
  | loaded total used =>
      by_cases free : 0 < max (total - used) 0
      · simp only [CreditWorld.statement, free, if_true]
        have same : world.customer.freeDesignsTotal = total ∧
            world.customer.freeDesignsUsed = used := by
          rcases Bool.or_eq_true_iff.mp careful with empty | same
          · exact absurd (of_decide_eq_true empty) (by omega)
          · rw [Bool.and_eq_true] at same
            exact ⟨eq_of_beq same.1, eq_of_beq same.2⟩
        refine sound.commit found ⟨promised.tenant, ⟨?_,
          promised.customer.purchases⟩, promised.gifts⟩ rfl
          (fun _ => Nat.le_refl _) fun row _ => by cases row <;> rfl
        simp only [DesignCustomer.chargeFree]
        omega
      · simp only [CreditWorld.statement, free]
        exact sound.goOn found unlocked trivial
  | seekingPurchase now =>
      simp only [CreditWorld.statement]
      cases chosen : world.customer.nextPurchase fun purchase =>
          world.free key (.purchase purchase) with
      | none => exact sound.finish found
      | some next =>
          obtain ⟨purchase, stored⟩ := next
          obtain ⟨there, free, remains⟩ := nextPurchase_eq_some chosen
          by_cases valid : notExpired stored.expiresAt now = true
          · simp only [valid, if_true]
            refine sound.goOn found ?_ ⟨stored, there,
              (DesignPack.remains_iff.mp remains).2⟩
            intro row held
            obtain rfl := List.mem_singleton.mp held
            exact free
          · simp only [valid]
            exact sound.finish found
  | charging charge => exact sound.charge found careful
  | finished => exact sound

theorem SoundCredits.begin {stage : CreditStage} (locks : stage.locks = [])
    (fits : stage.Fits world.tenant world.customer) :
    SoundCredits (world.begin stage) where
  promised := ⟨sound.promised.tenant, sound.promised.customer,
    sound.promised.gifts⟩
  alone := by
    intro first left second right row leftFound rightFound leftHeld rightHeld
    rcases Table.get?_insert_cases leftFound with ⟨-, rfl⟩ | leftFound
    · rw [locks] at leftHeld
      cases leftHeld
    · rcases Table.get?_insert_cases rightFound with ⟨-, rfl⟩ | rightFound
      · rw [locks] at rightHeld
        cases rightHeld
      · exact sound.alone first left second right row leftFound rightFound
          leftHeld rightHeld
  fits := by
    intro other stage' there
    rcases Table.get?_insert_cases there with ⟨-, rfl⟩ | there
    · exact fits
    · exact sound.fits other stage' there

theorem SoundCredits.step {op : CreditOp} (careful : op.Careful world) :
    SoundCredits (op.step world) := by
  cases op with
  | clock now =>
      exact ⟨⟨sound.promised.tenant, sound.promised.customer,
        sound.promised.gifts⟩, sound.alone, sound.fits⟩
  | consumeTenantCredit => exact sound.begin rfl trivial
  | deduct action => exact sound.begin rfl trivial
  | consumeCustomerCredit => exact sound.begin rfl trivial
  | statement key =>
      simp only [CreditOp.Careful] at careful
      simp only [CreditOp.step]
      cases found : world.requests.get? key with
      | none => exact sound
      | some stage =>
          rw [found] at careful
          exact sound.statement found careful
  | rollBack key =>
      simp only [CreditOp.step]
      cases found : world.requests.get? key with
      | some stage => exact sound.finish found
      | none =>
          have same : world.goOn key .finished = world := by
            unfold CreditWorld.goOn
            rw [Table.modify_eq_of_none found]
          rw [same]
          exact sound

end Statements

def openedCredits (now : Moment) (tenant : DesignTenant)
    (customer : DesignCustomer) : CreditWorld where
  now
  tenant
  customer

/-- Design credits are never overspent, in every careful run. -/
theorem credits_neverOverspent (now : Moment) (tenant : DesignTenant)
    (customer : DesignCustomer) (tenantWithin : tenant.Within)
    (customerWithin : customer.Within) (ops : List CreditOp)
    (careful : Txn.Throughout CreditOp.run CreditOp.Careful ops
      (openedCredits now tenant customer)) :
    NeverOverspent
      (Txn.after CreditOp.run ops (openedCredits now tenant customer)) := by
  apply SoundCredits.promised
  refine Txn.after_of_throughout SoundCredits ?_ ?_ ops _ ?_ careful
  · intro op before error after returned
    cases returned
  · intro op before after sound met returned
    obtain rfl := Txn.modify_eq_ok.mp returned
    exact sound.step met
  · exact
      { promised :=
          ⟨tenantWithin, customerWithin, fun _ member => by cases member⟩
        alone := fun _ _ _ _ _ found => by cases found
        fits := fun _ _ found => by cases found }

def smallTenant : DesignTenant where
  subscription := some ⟨true, some 1, some ⟨5, 5⟩⟩
  usage := []
  grants := Table.empty.insert
    { designs := ⟨2, 0⟩, grantedAt := 0, expiresAt := none, isActive := true }
  topups := Table.empty.insert
    { designsTotal := 1, designsUsed := 0, status := .paid, expiresAt := none,
      createdAt := 0, paidAt := some 1 }

def smallCustomer : DesignCustomer where
  freeDesignsTotal := 1
  freeDesignsUsed := 0
  purchases := .empty

/-- Two requests take the design of the plan and one of the gift's, a third one
locks the gift while a fourth takes the top-up, and a customer designs. -/
def mixedRequests : List CreditOp :=
  [.consumeTenantCredit, .statement 0, .statement 0, .consumeTenantCredit,
    .statement 1, .statement 1, .statement 1, .statement 1,
    .deduct .aiGeneration, .statement 2, .consumeTenantCredit, .statement 3,
    .statement 3, .statement 3, .statement 3, .statement 3, .statement 2,
    .statement 2, .consumeCustomerCredit, .statement 4, .statement 3,
    .clock ⟨900, 2026, 4⟩, .consumeTenantCredit, .statement 5, .statement 5]

theorem smallTenant_within : smallTenant.Within where
  plan month := le_max_right _ _
  addon action month := le_max_right _ _
  grants key grant found field := by
    obtain ⟨rfl, rfl⟩ := Prod.mk.inj
      (List.mem_singleton.mp (Table.get?_eq_some.mp found))
    cases field <;> decide
  topups := by decide

theorem smallCustomer_within : smallCustomer.Within := ⟨by decide, by decide⟩

theorem credits_neverOverspent_mixedRequests : NeverOverspent
    (Txn.after CreditOp.run mixedRequests
      (openedCredits ⟨100, 2026, 3⟩ smallTenant smallCustomer)) :=
  credits_neverOverspent ⟨100, 2026, 3⟩ smallTenant smallCustomer
    smallTenant_within smallCustomer_within mixedRequests
    (Txn.throughout_of_checks (by decide +kernel))

/-- Two requests count before either logs: a plan of one design a month gives
two. -/
theorem credits_countedTwice : ¬ ∀ (now : Moment) (tenant : DesignTenant)
    (customer : DesignCustomer) (ops : List CreditOp),
    tenant.Within → customer.Within → NeverOverspent
      (Txn.after CreditOp.run ops (openedCredits now tenant customer)) := by
  intro never
  have plan := (never ⟨100, 2026, 3⟩ smallTenant smallCustomer
    [.consumeTenantCredit, .consumeTenantCredit, .statement 0, .statement 1,
      .statement 0, .statement 1] smallTenant_within
    smallCustomer_within).tenant.plan ⟨100, 2026, 3⟩
  revert plan
  decide +kernel

end Clients

end Mousstec
