import Mathlib.Algebra.Order.Group.MinMax
import Mathlib.Algebra.Order.Ring.Rat
import Mathlib.Data.List.MinMax
import Mousstec.Clients.PlanServed
import Mousstec.Library.Decimal

/-!
# What an upgrade credits

An upgrade is quoted for the days that are left, less what was paid for them.
The quote credits all of them at one daily price, that of the plan and the cycle
of the subscription, although the days may belong to invoices of other plans and
cycles, or to none.  The two agree as long as no payment is made ahead at another
daily price.
-/

namespace Mousstec

namespace Clients

open Library

namespace Platform

variable (platform : Platform)

def planDaily (plan : Plan) (cycle : ℕ) (monthlyPrice : ℤ) : ℚ :=
  plan.priceForPeriod cycle monthlyPrice none / periodDays cycle

def creditDaily (subscription : TenantSubscription) : ℚ :=
  match subscription.plan.bind platform.plans.get? with
  | none => 0
  | some current =>
      planDaily current (cycleMonths subscription.billingCycleMonths)
        (platform.currentMonthly subscription)

def chargedDaily (invoice : PlatformInvoice) : ℚ :=
  match platform.plans.get? invoice.plan with
  | none => 0
  | some plan =>
      if invoice.total = 0 then 0
      else planDaily plan (cycleMonths invoice.billingCycleMonths)
        plan.monthlyPrice

/-- The settled invoice of a tenant whose period contains a day; of several, the
one that was paid last. -/
def settledFor (tenant day : ℕ) : Option PlatformInvoice :=
  ((platform.invoices.rows.map Prod.snd).filter fun invoice =>
    invoice.tenant == tenant && invoice.status == .paid &&
      invoice.covers day).argmax PlatformInvoice.settledAt

def paidDaily (tenant day : ℕ) : ℚ :=
  ((platform.settledFor tenant day).map platform.chargedDaily).getD 0

def upgradeDue (tenant : ℕ) (subscription : TenantSubscription)
    (ended key : ℕ) (plan : Plan) : ℚ :=
  let cycle := cycleMonths subscription.billingCycleMonths
  ((ended - platform.today : ℕ) : ℚ) *
      (platform.priceForPeriod key plan cycle / periodDays cycle) -
    ((List.range (ended - platform.today)).map fun ahead =>
      platform.paidDaily tenant (platform.today + ahead)).sum

/-- Daily prices and days left that the columns and the calendar hold. -/
def InRange (subscription : TenantSubscription) (ended key : ℕ) (plan : Plan) :
    Prop :=
  let cycle := cycleMonths subscription.billingCycleMonths
  |(platform.priceForPeriod key plan cycle : ℚ) / periodDays cycle| ≤ 10 ^ 18 ∧
    |platform.creditDaily subscription| ≤ 10 ^ 18 ∧
      ended - platform.today ≤ 10 ^ 7

instance (subscription : TenantSubscription) (ended key : ℕ) (plan : Plan) :
    Decidable (platform.InRange subscription ended key plan) :=
  inferInstanceAs (Decidable (_ ∧ _ ∧ _))

end Platform

/-- Each quote of an upgrade credits what was paid for the days left, within less
than a piastre, and asks for a piastre at least. -/
def UpgradesCredited (platform : Platform) : Prop :=
  ∀ tenant row subscription ended key plan months usage,
    platform.tenants.get? tenant = some row →
    row.subscription = some subscription →
    row.client.subscriptionEndDate = some ended →
    platform.plans.get? key = some plan →
    platform.InRange subscription ended key plan →
    (platform.quotePlanChange row key plan months usage).kind = .upgrade →
      |((platform.quotePlanChange row key plan months usage).total : ℚ) -
        max (platform.upgradeDue tenant subscription ended key plan) 1| < 1

/-- The daily price at which the payment of an invoice leaves the subscription
credited. -/
def Platform.leftDaily (platform : Platform) (invoice : PlatformInvoice) : ℚ :=
  match platform.tenants.get? invoice.tenant,
      platform.plans.get? invoice.plan with
  | some row, some target =>
      ((platform.paidTenant invoice row target).subscription.map
        platform.creditDaily).getD 0
  | _, _ => 0

/-- The invoice, and each day left before its period, is paid at the daily price
at which the subscription is credited from now on. -/
def Deed.KeepsPrice (platform : Platform) : Deed → Prop
  | discounts _ _ _ => True
  | pays _ invoice _ _ =>
      platform.chargedDaily invoice = platform.leftDaily invoice ∧
        ∀ ahead < invoice.periodStart - platform.today,
          platform.paidDaily invoice.tenant (platform.today + ahead) =
            platform.leftDaily invoice

instance (platform : Platform) : DecidablePred (Deed.KeepsPrice platform)
  | .discounts _ _ _ => isTrue trivial
  | .pays _ _ _ _ => inferInstanceAs (Decidable (_ ∧ _))

/-- The daily run switches a tenant only to a plan at the same daily price. -/
def Platform.SwitchesAlike (platform : Platform) : Prop :=
  ∀ row ∈ platform.tenants.rows,
    (platform.switched row.1 row.2).subscription.map platform.creditDaily =
      row.2.subscription.map platform.creditDaily

instance (platform : Platform) : Decidable platform.SwitchesAlike :=
  inferInstanceAs (Decidable (∀ row ∈ platform.tenants.rows, _))

/-- No payment and no switch of an operation changes the daily price of the days
left. -/
def BillingOp.KeepsPrice (op : BillingOp) (platform : Platform) : Prop :=
  (∀ deed ∈ op.deeds platform, deed.KeepsPrice platform) ∧
    (op = .daily → platform.SwitchesAlike)

instance (op : BillingOp) (platform : Platform) :
    Decidable (op.KeepsPrice platform) :=
  inferInstanceAs (Decidable (_ ∧ _))

/-- No two payments of a tenant are made at one instant. -/
def SettledApart (platform : Platform) : Prop :=
  ∀ tenant key other left right, PaidBy platform tenant key left →
    PaidBy platform tenant other right →
      left.settledAt = right.settledAt → left = right

section Days

variable {platform before after : Platform} {tenant day key : ℕ}
  {invoice : PlatformInvoice}

theorem mem_settled_iff :
    invoice ∈ (platform.invoices.rows.map Prod.snd).filter (fun invoice =>
        invoice.tenant == tenant && invoice.status == .paid &&
          invoice.covers day) ↔
      (∃ key, PaidBy platform tenant key invoice) ∧
        invoice.covers day = true := by
  rw [List.mem_filter, List.mem_map, Bool.and_eq_true, Bool.and_eq_true,
    beq_iff_eq, beq_iff_eq]
  constructor
  · rintro ⟨⟨row, member, rfl⟩, ⟨owner, paid⟩, covers⟩
    exact ⟨⟨row.1, Table.get?_eq_some.mpr member, paid, owner⟩, covers⟩
  · rintro ⟨⟨key, stored, paid, owner⟩, covers⟩
    exact ⟨⟨(key, invoice), Table.get?_eq_some.mp stored, rfl⟩,
      ⟨owner, paid⟩, covers⟩

theorem paidLast_of_settledFor
    (settled : platform.settledFor tenant day = some invoice) :
    ∃ key, PaidLast platform tenant day key invoice := by
  have member : invoice ∈ platform.settledFor tenant day := settled
  obtain ⟨⟨key, paid⟩, covers⟩ := mem_settled_iff.mp (List.argmax_mem member)
  refine ⟨key, paid, covers, fun other found paid' covers' => ?_⟩
  exact List.le_of_mem_argmax
    (mem_settled_iff.mpr ⟨⟨other, paid'⟩, covers'⟩) member

theorem settledFor_eq_some (apart : SettledApart platform) :
    platform.settledFor tenant day = some invoice ↔
      ∃ key, PaidLast platform tenant day key invoice := by
  constructor
  · exact paidLast_of_settledFor
  · rintro ⟨key, last⟩
    cases found : platform.settledFor tenant day with
    | none =>
        have member := mem_settled_iff.mpr ⟨⟨key, last.toPaidBy⟩, last.covers⟩
        rw [List.argmax_eq_none.mp found] at member
        cases member
    | some other =>
        obtain ⟨key', last'⟩ := paidLast_of_settledFor found
        have ordered := last.last key' other last'.toPaidBy last'.covers
        have ordered' := last'.last key invoice last.toPaidBy last.covers
        rw [apart tenant key' key other invoice last'.toPaidBy last.toPaidBy
          (le_antisymm ordered ordered')]

theorem settledFor_eq_of (apart : SettledApart before)
    (apart' : SettledApart after)
    (same : ∀ key invoice, PaidLast after tenant day key invoice ↔
      PaidLast before tenant day key invoice) :
    after.settledFor tenant day = before.settledFor tenant day := by
  apply Option.ext
  intro invoice
  rw [settledFor_eq_some apart', settledFor_eq_some apart]
  exact exists_congr fun key => same key invoice

theorem SamePaid.settledApart (same : SamePaid before after)
    (apart : SettledApart before) : SettledApart after :=
  fun tenant key other left right paid paid' =>
    apart tenant key other left right (same.symm.paidBy paid)
      (same.symm.paidBy paid')

theorem SamePaid.settledFor_eq (same : SamePaid before after)
    (apart : SettledApart before) :
    after.settledFor tenant day = before.settledFor tenant day :=
  settledFor_eq_of apart (same.settledApart apart) fun _ _ =>
    ⟨same.symm.paidLast, same.paidLast⟩

theorem paidDaily_congr (plans : after.plans = before.plans)
    (settled : after.settledFor tenant day = before.settledFor tenant day) :
    after.paidDaily tenant day = before.paidDaily tenant day := by
  unfold Platform.paidDaily Platform.chargedDaily
  rw [settled, plans]

theorem creditDaily_congr (plans : after.plans = before.plans)
    (subscription : TenantSubscription) :
    after.creditDaily subscription = before.creditDaily subscription := by
  unfold Platform.creditDaily Platform.currentMonthly Platform.ownPrice
  rw [plans]

end Days

section Quotes

variable {platform : Platform} {row : Tenant} {subscription : TenantSubscription}
  {ended key months : ℕ} {plan : Plan} {usage : Option UsageCounts}

/-- Only a running subscription to a listed plan is quoted an upgrade. -/
theorem quote_upgrade (held : row.subscription = some subscription)
    (ends : row.client.subscriptionEndDate = some ended)
    (upgrade : (platform.quotePlanChange row key plan months usage).kind =
      .upgrade) :
    ∃ current, subscription.plan.bind platform.plans.get? = some current ∧
      (platform.quotePlanChange row key plan months usage).total =
        platform.upgradeTotal subscription current key plan
          (cycleMonths subscription.billingCycleMonths)
          (ended - platform.today) := by
  simp only [Platform.quotePlanChange, held, ends] at upgrade ⊢
  cases listed : subscription.plan.bind platform.plans.get? with
  | none => simp [listed] at upgrade
  | some current =>
      refine ⟨current, rfl, ?_⟩
      simp only [listed] at upgrade ⊢
      split at upgrade
      · split at upgrade
        · cases upgrade
        · rename_i running other
          split at upgrade
          · rename_i dearer
            rw [if_pos running, if_neg other, if_pos dearer]
          · cases upgrade
      · cases upgrade

/-- The difference of two daily prices for the days left, as decimals. -/
def quotedCents (fresh old : ℚ) (remaining : ℕ) : ℤ :=
  roundHalfEven (significant 28
    (significant 28 (significant 28 fresh - significant 28 old) * remaining))

theorem significant_close {value bound : ℚ} (fits : |value| ≤ bound) :
    |significant 28 value - value| ≤ bound / 10 ^ 27 := by
  have near : |significant (27 + 1) value - value| ≤ |value| / (2 * 10 ^ 27) :=
    significant_near_abs value
  have sign := abs_nonneg value
  linarith

theorem quotedCents_near {fresh old : ℚ} {remaining : ℕ}
    (dear : |fresh| ≤ 10 ^ 18) (cheap : |old| ≤ 10 ^ 18)
    (few : remaining ≤ 10 ^ 7) :
    |(quotedCents fresh old remaining : ℚ) - (fresh - old) * remaining| < 1 := by
  have first := significant_close dear
  have second := significant_close cheap
  unfold quotedCents
  generalize significant 28 fresh = fresh' at first ⊢
  generalize significant 28 old = old' at second ⊢
  rw [abs_le] at dear cheap first second
  have wide : |fresh' - old'| ≤ 3 * 10 ^ 18 := by
    rw [abs_le]
    constructor <;> linarith
  have third := significant_close wide
  generalize significant 28 (fresh' - old') = apart at third ⊢
  rw [abs_le] at wide third
  have close : |apart - (fresh - old)| ≤ 1 / 10 ^ 8 := by
    rw [abs_le]
    constructor <;> linarith
  have days : (remaining : ℚ) ≤ 10 ^ 7 := by exact_mod_cast few
  have whole : |apart * remaining| ≤ 4 * 10 ^ 18 * 10 ^ 7 := by
    rw [abs_mul, Nat.abs_cast]
    refine mul_le_mul ?_ days (Nat.cast_nonneg _) (by norm_num)
    rw [abs_le]
    constructor <;> linarith
  have fourth := significant_close whole
  have scaled : |apart * remaining - (fresh - old) * remaining| ≤
      1 / 10 ^ 8 * 10 ^ 7 := by
    rw [← sub_mul, abs_mul, Nat.abs_cast]
    exact mul_le_mul close days (Nat.cast_nonneg _) (by norm_num)
  have rounded := roundHalfEven_nearest.near
    (significant 28 (apart * remaining))
  rw [abs_le] at fourth scaled rounded
  rw [abs_lt]
  constructor <;> linarith

theorem upgradeTotal_eq {current : Plan} {cycle remaining : ℕ}
    (listed : subscription.plan.bind platform.plans.get? = some current)
    (cycled : cycle = cycleMonths subscription.billingCycleMonths) :
    platform.upgradeTotal subscription current key plan cycle remaining =
      max (quotedCents (platform.priceForPeriod key plan cycle /
        periodDays cycle) (platform.creditDaily subscription) remaining) 1 := by
  subst cycled
  simp only [Platform.upgradeTotal, Platform.creditDaily, listed,
    Platform.planDaily, quotedCents]

theorem upgradeDue_eq {tenant : ℕ}
    (alike : ∀ day, platform.today ≤ day → day < ended →
      platform.paidDaily tenant day = platform.creditDaily subscription) :
    platform.upgradeDue tenant subscription ended key plan =
      (platform.priceForPeriod key plan
          (cycleMonths subscription.billingCycleMonths) /
        periodDays (cycleMonths subscription.billingCycleMonths) -
        platform.creditDaily subscription) *
          ((ended - platform.today : ℕ) : ℚ) := by
  have constant : (List.range (ended - platform.today)).map (fun ahead =>
      platform.paidDaily tenant (platform.today + ahead)) =
        List.replicate (ended - platform.today)
          (platform.creditDaily subscription) := by
    rw [List.eq_replicate_iff]
    refine ⟨by simp, fun price member => ?_⟩
    obtain ⟨ahead, within, rfl⟩ := List.mem_map.mp member
    rw [List.mem_range] at within
    exact alike _ (Nat.le_add_right _ _) (by omega)
  simp only [Platform.upgradeDue, constant, List.sum_replicate, nsmul_eq_mul]
  ring

end Quotes

/-- What every run without a refund keeps in which no price changes. -/
structure Credited (platform : Platform) : Prop where
  stacked : Stacked platform
  dated : ∀ tenant key invoice, PaidBy platform tenant key invoice →
    ∃ instant, invoice.paidAt = some instant ∧ instant ≤ platform.now
  apart : SettledApart platform
  alike : ∀ tenant row subscription ended,
    platform.tenants.get? tenant = some row →
    row.subscription = some subscription →
    row.client.subscriptionEndDate = some ended →
    ∀ day, platform.today ≤ day → day < ended →
      platform.paidDaily tenant day = platform.creditDaily subscription

theorem Credited.upgrades {platform : Platform} (credited : Credited platform) :
    UpgradesCredited platform := by
  intro tenant row subscription ended key plan months usage owner held ends
    listed range upgrade
  obtain ⟨current, on, total⟩ := quote_upgrade held ends upgrade
  obtain ⟨dear, cheap, few⟩ := range
  rw [total, upgradeTotal_eq on rfl, upgradeDue_eq
    (credited.alike tenant row subscription ended owner held ends),
    Int.cast_max, Int.cast_one]
  exact (abs_max_sub_max_le_abs _ _ _).trans_lt (quotedCents_near dear cheap few)

/-- A change that pays for nothing and leaves the subscriptions at their daily
prices. -/
theorem Credited.of_same {before after : Platform} (credited : Credited before)
    (same : SamePaid before after) (stacked : Stacked after)
    (now : before.now ≤ after.now) (today : before.today ≤ after.today)
    (plans : after.plans = before.plans)
    (rows : ∀ tenant later kept ended, after.tenants.get? tenant = some later →
      later.subscription = some kept →
      later.client.subscriptionEndDate = some ended →
      ∃ row subscription, before.tenants.get? tenant = some row ∧
        row.subscription = some subscription ∧
        row.client.subscriptionEndDate = some ended ∧
        before.creditDaily kept = before.creditDaily subscription) :
    Credited after where
  stacked := stacked
  dated tenant key invoice paid := by
    obtain ⟨instant, at', least⟩ :=
      credited.dated tenant key invoice (same.symm.paidBy paid)
    exact ⟨instant, at', least.trans now⟩
  apart := same.settledApart credited.apart
  alike tenant later kept ended owner held ends day ahead left := by
    obtain ⟨row, subscription, owned, has, dated, price⟩ :=
      rows tenant later kept ended owner held ends
    rw [paidDaily_congr plans (same.settledFor_eq credited.apart),
      creditDaily_congr plans, price]
    exact credited.alike tenant row subscription ended owned has dated day
      (today.trans ahead) left

theorem Credited.move {before after : Platform} (move : Move before after)
    (credited : Credited before) : Credited after := by
  obtain ⟨today, now, plans, -⟩ := move.frame
  apply credited.of_same move.samePaid
  · exact credited.stacked.move move
  · exact le_of_eq now.symm
  · exact le_of_eq today.symm
  · exact plans
  · intro tenant later kept ended owner held ends
    rcases move.tenant tenant with same | ⟨row, trial, owned, -, changed⟩
    · exact ⟨later, kept, same.symm.trans owner, held, ends, rfl⟩
    · rw [changed] at owner
      obtain rfl := Option.some.inj owner
      exact ⟨row, kept, owned, held, ends, rfl⟩

namespace Due

variable {platform : Platform} {key : ℕ} {stored invoice : PlatformInvoice}
  {row : Tenant} {target : Plan}

theorem paidLast_before (due : Due platform key stored invoice row target)
    (provider reference : String) {day other : ℕ} {found : PlatformInvoice}
    (begun : day < invoice.periodStart) :
    PaidLast (platform.finalized key invoice row target provider reference)
        invoice.tenant day other found ↔
      PaidLast platform invoice.tenant day other found := by
  constructor
  · intro last
    rcases due.paidLast_cases last with ⟨-, started, -⟩ | ⟨-, old⟩
    · omega
    · exact old
  · rintro ⟨paid, covers, last⟩
    refine ⟨due.paidBy_old provider reference paid, covers, ?_⟩
    intro next later settled within
    rcases due.paidBy_cases settled with ⟨-, rfl⟩ | old
    · simp only [PlatformInvoice.covers, paidInvoice_periodStart,
        Bool.and_eq_true, decide_eq_true_eq] at within
      omega
    · exact last next later old within

theorem paidLast_new (due : Due platform key stored invoice row target)
    (provider reference : String) {day : ℕ}
    (begun : invoice.periodStart ≤ day) (left : day < invoice.periodEnd) :
    PaidLast (platform.finalized key invoice row target provider reference)
      invoice.tenant day key
      (platform.paidInvoice invoice row target provider reference) := by
  refine ⟨due.paidBy_new provider reference, ?_, ?_⟩
  · simp [PlatformInvoice.covers, begun, left]
  · intro next later settled _
    rcases due.paidBy_cases settled with ⟨-, rfl⟩ | old
    · exact le_rfl
    · have before := due.latest next later old
      rw [PlatformInvoice.settledAt, PlatformInvoice.settledAt,
        paidInvoice_paidAt, Option.getD_some]
      exact le_of_lt before

theorem settledApart (due : Due platform key stored invoice row target)
    (provider reference : String) (apart : SettledApart platform) :
    SettledApart
      (platform.finalized key invoice row target provider reference) := by
  have instant : (platform.paidInvoice invoice row target provider
      reference).settledAt = platform.now := by
    rw [PlatformInvoice.settledAt, paidInvoice_paidAt, Option.getD_some]
  intro tenant first second left right paid paid' equal
  by_cases same : tenant = invoice.tenant
  · subst same
    rcases due.paidBy_cases paid with ⟨-, rfl⟩ | old
    · rcases due.paidBy_cases paid' with ⟨-, rfl⟩ | old'
      · rfl
      · have earlier := due.latest second right old'
        omega
    · rcases due.paidBy_cases paid' with ⟨-, rfl⟩ | old'
      · have earlier := due.latest first left old
        omega
      · exact apart invoice.tenant first second left right old old' equal
  · exact apart tenant first second left right
      ((finalized_paidBy due.located due.unpaid same).mp paid)
      ((finalized_paidBy due.located due.unpaid same).mp paid') equal

theorem leftDaily_eq (due : Due platform key stored invoice row target)
    {subscription : TenantSubscription}
    (held : (platform.paidTenant invoice row target).subscription =
      some subscription) :
    platform.leftDaily invoice = platform.creditDaily subscription := by
  simp only [Platform.leftDaily, due.owner, due.sold, held, Option.map_some,
    Option.getD_some]

end Due

theorem chargedDaily_paid (platform : Platform) (invoice : PlatformInvoice)
    (row : Tenant) (target : Plan) (provider reference : String) :
    platform.chargedDaily
        (platform.paidInvoice invoice row target provider reference) =
      platform.chargedDaily invoice := by
  unfold Platform.chargedDaily
  rw [paidInvoice_plan, paidInvoice_total, paidInvoice_cycle]

/-- A payment at one price keeps the days left at the price that is
credited. -/
theorem Credited.payment {platform : Platform} {key : ℕ}
    {stored : PlatformInvoice} {row : Tenant} {target : Plan}
    {provider reference : String} (credited : Credited platform)
    (located : platform.invoices.get? key = some stored)
    (owed : stored.status = .issued ∨ stored.status = .void)
    (owner : platform.tenants.get? stored.tenant = some row)
    (sold : platform.plans.get? stored.plan = some target)
    (free : platform.referenceFree key
      (stored.paidWith platform.now provider reference).paymentProvider
      (stored.paidWith platform.now provider reference).paymentReference = true)
    (keeps : (Deed.pays key (stored.reperiod row.client platform.today)
      provider reference).KeepsPrice platform)
    (latest : ∀ other found, PaidBy platform stored.tenant other found →
      found.settledAt < platform.now) :
    Credited (platform.finalized key
      (stored.reperiod row.client platform.today) row target provider
      reference) := by
  have done : Deed.Done platform _ _ := .pays located owed owner sold free
  have unpaid := unpaid_of_owed owed
  generalize paying : stored.reperiod row.client platform.today = invoice at *
  have tenant : invoice.tenant = stored.tenant := by
    rw [← paying, reperiod_tenant]
  have due : Due platform key stored invoice row target := by
    refine ⟨located, unpaid, tenant ▸ owner, ?_, ?_, tenant ▸ latest⟩
    · rw [← paying, reperiod_plan]
      exact sold
    · intro other found paid
      obtain ⟨holder, ended, owned, ends, least⟩ :=
        credited.stacked.ended other found paid.stored paid.paid
      rw [paid.owner, tenant, owner] at owned
      obtain rfl := Option.some.inj owned
      rw [← paying]
      exact least.trans (ended_le_reperiod ends)
  have apart := due.settledApart provider reference credited.apart
  obtain ⟨charged, earlier⟩ := keeps
  refine
    { stacked := credited.stacked.deed done
      dated := ?_
      apart
      alike := ?_ }
  · intro payer other found paid
    rcases due.paidBy_cases paid with ⟨rfl, rfl⟩ | old
    · exact ⟨platform.now, paidInvoice_paidAt, le_rfl⟩
    · exact credited.dated payer other found old
  · intro payer later kept ended owned held ends day ahead left
    by_cases same : payer = invoice.tenant
    · subst same
      rw [finalized_payer due.owner] at owned
      obtain rfl := Option.some.inj owned
      obtain rfl : invoice.periodEnd = ended := Option.some.inj ends
      have credit : (platform.finalized key invoice row target provider
          reference).creditDaily kept = platform.creditDaily kept :=
        creditDaily_congr rfl kept
      rw [credit, ← due.leftDaily_eq held]
      by_cases begun : invoice.periodStart ≤ day
      · have last := due.paidLast_new provider reference begun left
        rw [Platform.paidDaily, (settledFor_eq_some apart).mpr ⟨key, last⟩,
          Option.map_some, Option.getD_some, ← charged]
        exact chargedDaily_paid platform invoice row target provider reference
      · have before : day < invoice.periodStart := not_le.mp begun
        have settled : (platform.finalized key invoice row target provider
            reference).settledFor invoice.tenant day =
              platform.settledFor invoice.tenant day :=
          settledFor_eq_of credited.apart apart
            fun _ _ => due.paidLast_before provider reference before
        have paid : (platform.finalized key invoice row target provider
            reference).paidDaily invoice.tenant day =
              platform.paidDaily invoice.tenant day :=
          paidDaily_congr rfl settled
        rw [paid]
        have begun : platform.today ≤ day := ahead
        have price := earlier (day - platform.today) (by omega)
        rw [Nat.add_sub_cancel' begun] at price
        exact price
    · rw [finalized_bystander same] at owned
      have credit : (platform.finalized key invoice row target provider
          reference).creditDaily kept = platform.creditDaily kept :=
        creditDaily_congr rfl kept
      have settled : (platform.finalized key invoice row target provider
          reference).settledFor payer day = platform.settledFor payer day :=
        settledFor_eq_of credited.apart apart
          fun _ _ => finalized_paidLast located unpaid same
      have paid : (platform.finalized key invoice row target provider
          reference).paidDaily payer day = platform.paidDaily payer day :=
        paidDaily_congr rfl settled
      rw [credit, paid]
      exact credited.alike payer later kept ended owned held ends day ahead left

/-- The deed keeps the price, and its tenant has paid nothing at this
instant. -/
def Deed.Fair (platform : Platform) (deed : Deed) : Prop :=
  deed.KeepsPrice platform ∧ deed.Latest platform

theorem Credited.deed {before after : Platform} {deed : Deed}
    (done : deed.Done before after) (credited : Credited before)
    (fair : deed.Fair before) : Credited after := by
  cases done with
  | discounts stored issued plain stamped listed =>
      apply credited.of_same (discount_samePaid stored issued)
      · exact credited.stacked.deed
          (.discounts stored issued plain stamped listed)
      · exact le_rfl
      · exact le_rfl
      · rfl
      · exact fun tenant later kept ended owner held ends =>
          ⟨later, kept, owner, held, ends, rfl⟩
  | @pays key stored row target provider reference located owed owner sold
      free =>
      obtain ⟨keeps, latest⟩ := fair
      apply credited.payment located owed owner sold free keeps
      intro other found paid
      apply latest other found
      rw [reperiod_tenant]
      exact paid

/-- What a payment leaves depends on the subscription of its tenant and on the
plans. -/
theorem leftDaily_congr {before after : Platform} {invoice : PlatformInvoice}
    (today : after.today = before.today) (plans : after.plans = before.plans)
    (subscriptions : (after.tenants.get? invoice.tenant).map
        Tenant.subscription =
      (before.tenants.get? invoice.tenant).map Tenant.subscription) :
    after.leftDaily invoice = before.leftDaily invoice := by
  unfold Platform.leftDaily
  rw [plans]
  cases held : before.tenants.get? invoice.tenant with
  | none =>
      rw [held] at subscriptions
      rw [Option.map_eq_none_iff.mp subscriptions]
  | some row =>
      rw [held] at subscriptions
      obtain ⟨later, owner, same⟩ := Option.map_eq_some_iff.mp subscriptions
      rw [owner]
      cases before.plans.get? invoice.plan with
      | none => rfl
      | some target =>
          simp only [Platform.paidTenant, same, Option.map_some,
            Option.getD_some, creditDaily_congr plans,
            defers_today today plans]
          cases row.subscription <;> split <;> rfl

/-- A deed stays fair when its tenant keeps its payments and its
subscription. -/
theorem fair_kept {before after : Platform} {key : ℕ}
    {invoice : PlatformInvoice} {provider reference : String}
    (fair : (Deed.pays key invoice provider reference).Fair before)
    (paid : ∀ other found, PaidBy after invoice.tenant other found →
      PaidBy before invoice.tenant other found)
    (settled : ∀ day, after.settledFor invoice.tenant day =
      before.settledFor invoice.tenant day)
    (today : after.today = before.today) (now : after.now = before.now)
    (plans : after.plans = before.plans)
    (subscriptions : (after.tenants.get? invoice.tenant).map
        Tenant.subscription =
      (before.tenants.get? invoice.tenant).map Tenant.subscription) :
    (Deed.pays key invoice provider reference).Fair after := by
  obtain ⟨⟨charged, earlier⟩, latest⟩ := fair
  have left := leftDaily_congr today plans subscriptions
  refine ⟨⟨?_, ?_⟩, ?_⟩
  · rw [left, ← charged]
    unfold Platform.chargedDaily
    rw [plans]
  · intro ahead within
    rw [today] at within ⊢
    rw [left, paidDaily_congr plans (settled _)]
    exact earlier ahead within
  · intro other found before'
    rw [now]
    exact latest other found (paid other found before')

theorem Move.fair {before after : Platform} (move : Move before after)
    (credited : Credited before) {deed : Deed} (fair : deed.Fair before) :
    deed.Fair after := by
  cases deed with
  | discounts key invoice coupon => exact ⟨trivial, trivial⟩
  | pays key invoice provider reference =>
      obtain ⟨today, now, plans, -⟩ := move.frame
      apply fair_kept fair
      · exact fun other found => move.samePaid.symm.paidBy
      · exact fun day => move.samePaid.settledFor_eq credited.apart
      · exact today
      · exact now
      · exact plans
      · rcases move.tenant invoice.tenant with same |
          ⟨row, trial, owner, -, later⟩
        · rw [same]
        · rw [owner, later]
          rfl

theorem fair_later {before after : Platform} {deed next : Deed}
    (done : deed.Done before after) (credited : Credited before)
    (met : deed.Fair before) (ordered : deed.Before next)
    (fair : next.Fair before) : next.Fair after := by
  have kept := credited.deed done met
  cases next with
  | discounts key invoice coupon => exact ⟨trivial, trivial⟩
  | pays key invoice provider reference =>
      cases done with
      | discounts stored issued plain stamped listed =>
          apply fair_kept fair
          · exact fun other found =>
              (discount_samePaid stored issued).symm.paidBy
          · exact fun day =>
              (discount_samePaid stored issued).settledFor_eq credited.apart
          · rfl
          · rfl
          · rfl
          · rfl
      | pays located owed owner sold free =>
          have elsewhere := ordered.1.symm
          apply fair_kept fair
          · exact fun other found => (finalized_paidBy located
              (unpaid_of_owed owed) elsewhere).mp
          · exact fun day => settledFor_eq_of credited.apart kept.apart
              fun _ _ => finalized_paidLast located (unpaid_of_owed owed)
                elsewhere
          · rfl
          · rfl
          · rfl
          · exact congrArg (Option.map Tenant.subscription)
              (finalized_bystander elsewhere)

theorem Credited.course {before after : Platform} {deeds : List Deed}
    (course : Course before deeds after) (ordered : deeds.Pairwise Deed.Before)
    (credited : Credited before)
    (fair : ∀ deed ∈ deeds, deed.Fair before) : Credited after := by
  apply course.invariant Credited fun platform deed => deed.Fair platform
  · exact fun _ _ move credited => credited.move move
  · exact fun _ _ _ move credited fair => move.fair credited fair
  · exact fun _ _ _ done credited fair => credited.deed done fair
  · exact fun _ _ _ _ done credited met ordered fair =>
      fair_later done credited met ordered fair
  · exact ordered
  · exact credited
  · exact fair

/-- What the daily run makes of a subscription does not depend on who is
suspended. -/
theorem switched_subscription (platform : Platform) (tenants : Table Tenant)
    (key today : ℕ) (row : Tenant) :
    ({ platform with tenants }.switched key (row.suspended today)).subscription =
      (platform.switched key row).subscription := by
  have same := suspended_subscription row today
  have due : ({ platform with tenants } : Platform).dueDowngrades key =
      platform.dueDowngrades key := rfl
  have since : ∀ invoice, ({ platform with tenants } : Platform).changedSince
      invoice = platform.changedSince invoice := fun _ => rfl
  unfold Platform.switched
  simp only [same, due, since]
  split
  · rename_i subscription other invoice held found
    by_cases served : subscription.plan = some invoice.plan
    · rw [if_pos served, if_pos served, same]
    · rw [if_neg served, if_neg served]
      by_cases changed : platform.changedSince invoice = true
      · rw [if_pos changed, if_pos changed, same]
      · rw [if_neg changed, if_neg changed]
        split
        · exact same
        · rfl
  · exact same

theorem Credited.daily {platform final : Platform}
    (credited : Credited platform) (alike : platform.SwitchesAlike)
    (returned : orchestrateBillingAndSuspensions platform = .ok ⟨⟩ final) :
    Credited final := by
  have stacked : Stacked final :=
    Stacked.turn (show BillingOp.daily.turns = true from rfl) rfl
      credited.stacked returned
  have same : SamePaid platform final := by
    obtain ⟨halted, rfl, rfl⟩ := daily_eq_ok returned
    exact fun _ _ _ => Iff.rfl
  obtain ⟨halted, rfl, rfl⟩ := daily_eq_ok returned
  apply credited.of_same same
  · exact stacked
  · exact le_rfl
  · exact le_rfl
  · rfl
  · intro tenant later kept ended owner held ends
    simp only [Table.get?_map, Option.map_map] at owner
    obtain ⟨row, owned, rfl⟩ := Option.map_eq_some_iff.mp owner
    have dated : row.client.subscriptionEndDate = some ended := by
      rw [← suspended_end row platform.today, ← ends]
      exact congrArg Client.subscriptionEndDate
        (switched_client _ tenant _).symm
    have price := alike (tenant, row) (Table.get?_eq_some.mp owned)
    have switched : (platform.switched tenant row).subscription = some kept :=
      (switched_subscription platform _ tenant platform.today row).symm.trans
        held
    rw [switched, Option.map_some] at price
    obtain ⟨subscription, has, same⟩ := Option.map_eq_some_iff.mp price.symm
    exact ⟨row, subscription, owned, has, dated, same.symm⟩

/-- What is kept between operations: nothing was paid at this instant. -/
structure SoundCredit (platform : Platform) : Prop extends
    Credited platform where
  earlier : ∀ tenant key invoice, PaidBy platform tenant key invoice →
    invoice.settledAt < platform.now

theorem Credited.of_frame {before after : Platform}
    (credited : Credited before) (invoices : after.invoices = before.invoices)
    (tenants : after.tenants = before.tenants)
    (plans : after.plans = before.plans)
    (now : before.now ≤ after.now) (today : before.today ≤ after.today) :
    Credited after := by
  have same : SamePaid before after := fun key invoice _ => by rw [invoices]
  apply credited.of_same same
  · apply credited.stacked.of_kept
    · exact fun key invoice stored _ => invoices ▸ stored
    · intro key invoice stored
      rw [invoices] at stored
      apply (credited.stacked.issued key invoice stored).later
      intro row ended owner dated
      rw [tenants]
      exact ⟨row, ended, owner, dated⟩
    · intro tenant row owner
      rw [tenants]
      exact ⟨row, owner, rfl⟩
  · exact now
  · exact today
  · exact plans
  · intro tenant later kept ended owner held ends
    rw [tenants] at owner
    exact ⟨later, kept, owner, held, ends, rfl⟩

theorem SoundCredit.of_ticked {platform : Platform}
    (credited : Credited platform) : SoundCredit platform.ticked where
  toCredited := credited.of_frame rfl rfl rfl (Nat.le_succ _) le_rfl
  earlier tenant key invoice paid := by
    obtain ⟨instant, at', least⟩ := credited.dated tenant key invoice
      ⟨paid.stored, paid.paid, paid.owner⟩
    rw [PlatformInvoice.settledAt, at', Option.getD_some]
    exact Nat.lt_succ_of_le least

theorem Credited.turn {op : BillingOp} {before after : Platform}
    (turns : op.turns = true) (plain : op.refunds = false)
    (met : op.KeepsPrice before) (credited : Credited before)
    (returned : op.body before = .ok ⟨⟩ after) : Credited after := by
  rcases op.plain_cases turns plain with rfl | ⟨days, instants, rfl⟩
  · exact credited.daily (met.2 rfl) returned
  · obtain rfl := Txn.modify_eq_ok.mp returned
    exact credited.of_frame rfl rfl rfl (Nat.le_add_right _ _)
      (Nat.le_add_right _ _)

theorem SoundCredit.step {op : BillingOp} {before after : Platform}
    (plain : op.refunds = false) (sound : SoundCredit before)
    (met : op.KeepsPrice before) (returned : op.run before = .ok ⟨⟩ after) :
    SoundCredit after := by
  obtain ⟨done, body, rfl⟩ := run_eq_ok.mp returned
  apply SoundCredit.of_ticked
  cases turns : op.turns with
  | true => exact sound.toCredited.turn turns plain met body
  | false =>
      obtain ⟨middle, course, rfl⟩ := body_course turns body
      have kept : Credited middle := by
        apply sound.toCredited.course course (deeds_ordered op)
        intro deed member
        refine ⟨met.1 deed member, ?_⟩
        cases deed with
        | discounts key invoice coupon => trivial
        | pays key invoice provider reference =>
            exact fun other found => sound.earlier invoice.tenant other found
      exact kept.of_frame rfl rfl rfl le_rfl le_rfl

/-- In every run without coupons, promotions and refunds in which no payment and
no switch changes the daily price of the days left, each quote of an upgrade
credits what was paid for these days. -/
theorem upgrades_credited (now today : ℕ) (plans : Table Plan)
    (tenants : Table Tenant) (ops : List BillingOp)
    (unpaid : ∀ tenant row, tenants.get? tenant = some row →
      row.client.subscriptionEndDate = none)
    (plain : ∀ op ∈ ops, op.refunds = false)
    (keeps : Txn.Throughout BillingOp.run BillingOp.KeepsPrice ops
      (openedPlatform now today plans [] tenants .empty)) :
    UpgradesCredited (Txn.after BillingOp.run ops
      (openedPlatform now today plans [] tenants .empty)) := by
  apply Credited.upgrades
  apply SoundCredit.toCredited
  refine Txn.after_of_throughout SoundCredit billing_rollsBack ?_ ops _ ?_
    (Txn.throughout_and keeps plain)
  · exact fun op before after sound met returned =>
      sound.step met.1 met.2 returned
  · have none : ∀ tenant key invoice, ¬ PaidBy
        (openedPlatform now today plans [] tenants .empty) tenant key
        invoice := by
      intro tenant key invoice paid
      cases paid.stored
    exact
      { stacked := stacked_opened now today plans [] tenants .empty
        dated := fun _ _ _ paid => absurd paid (none _ _ _)
        apart := fun _ _ _ _ _ paid => absurd paid (none _ _ _)
        alike := fun tenant row _ _ owner _ ends => by
          cases (unpaid tenant row owner).symm.trans ends
        earlier := fun _ _ _ paid => absurd paid (none _ _ _) }

theorem unpaid_trial : ∀ tenant row,
    (Table.empty.insert trialTenant).get? tenant = some row →
      row.client.subscriptionEndDate = none := by
  intro tenant row owner
  rcases Table.get?_insert_cases owner with ⟨-, rfl⟩ | owner
  · rfl
  · cases owner

def monthsAhead : List BillingOp :=
  [.pass 20 0, .issue 0 0 1 true false "manual_admin" "A",
    .issue 0 0 1 true false "manual_admin" "B", .daily, .pass 5 0,
    .beginCheckout 0 1 1 none "", .endCheckout 0 "paymob" (some 7) none]

theorem upgrades_credited_monthsAhead :
    UpgradesCredited (Txn.after BillingOp.run monthsAhead
      (openedPlatform 0 100 twoPlans [] (Table.empty.insert trialTenant)
        .empty)) :=
  upgrades_credited 0 100 twoPlans (Table.empty.insert trialTenant) monthsAhead
    unpaid_trial (by decide)
    ⟨fun _ => (by decide +kernel), fun _ => (by decide +kernel),
      fun _ => (by decide +kernel), fun _ => (by decide +kernel),
      fun _ => (by decide +kernel), fun _ => (by decide +kernel),
      fun _ => (by decide +kernel), trivial⟩

def yearAhead : List BillingOp :=
  [.pass 20 0, .issue 0 0 1 true false "manual_admin" "A",
    .issue 0 0 12 true false "manual_admin" "B"]

def yearPaid : Platform :=
  Txn.after BillingOp.run yearAhead
    (openedPlatform 0 100 twoPlans [] (Table.empty.insert trialTenant) .empty)

/-- The tenant has paid a month and a year, and all days are credited at the
daily price of the year. -/
theorem upgrades_overcharged : ¬ ∀ ops : List BillingOp,
    (∀ op ∈ ops, op.refunds = false) →
      UpgradesCredited (Txn.after BillingOp.run ops
        (openedPlatform 0 100 twoPlans [] (Table.empty.insert trialTenant)
          .empty)) := by
  intro credited
  have quoted : (yearPaid.tenants.get? 0).any (fun row =>
      row.subscription.any fun subscription =>
        (yearPaid.plans.get? 1).any fun plan =>
          row.client.subscriptionEndDate == some 515 &&
            (yearPaid.quotePlanChange row 1 plan 1 none).kind == .upgrade &&
            decide (yearPaid.InRange subscription 515 1 plan ∧ 11602 <
              |((yearPaid.quotePlanChange row 1 plan 1 none).total : ℚ) -
                max (yearPaid.upgradeDue 0 subscription 515 1 plan) 1|)) =
        true := by
    decide +kernel
  obtain ⟨row, owner, quoted⟩ := (Option.any_eq_true _ _).mp quoted
  obtain ⟨subscription, held, quoted⟩ := (Option.any_eq_true _ _).mp quoted
  obtain ⟨plan, listed, quoted⟩ := (Option.any_eq_true _ _).mp quoted
  rw [Bool.and_eq_true, Bool.and_eq_true, beq_iff_eq, beq_iff_eq,
    decide_eq_true_eq] at quoted
  obtain ⟨⟨ends, upgrade⟩, range, more⟩ := quoted
  have near := credited yearAhead (by decide) 0 row subscription 515 1 plan 1
    none owner held ends listed range upgrade
  exact absurd (more.trans near) (by norm_num)

end Clients

end Mousstec
