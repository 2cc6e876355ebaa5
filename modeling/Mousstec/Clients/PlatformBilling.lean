import Mousstec.Clients.DiagnosticsQuota
import Mousstec.Library.Rounding

/-!
# Platform billing

The invoices of the platform to its tenants.  An invoice is issued for a cycle
of a plan, or for the rest of the current period when a tenant moves to a dearer
plan; it is settled by a receipt, by the owner or by the notification of a
gateway.  Settling it moves the end of the subscription and, unless the change
of plan has to wait, the plan.  Amounts are in piastres, dates are day numbers.
-/

namespace Mousstec

namespace Clients

open Library

/-- `INDUSTRY_CHOICES`. -/
inductive Industry
  | automotive
  | printing
  deriving DecidableEq, Repr

/-- `PERIOD_DAYS`. -/
def periodDays? : ℕ → Option ℕ
  | 1 => some 30
  | 3 => some 90
  | 6 => some 180
  | 12 => some 365
  | _ => none

def periodDays (months : ℕ) : ℕ :=
  (periodDays? months).getD 30

def cycleMonths (months : ℕ) : ℕ :=
  if (periodDays? months).isSome then months else 1

/-- `Plan`. -/
structure Plan where
  industry : Industry
  monthlyPrice : ℤ
  quarterlyDiscount : ℤ := 10
  semiAnnualDiscount : ℤ := 15
  annualDiscount : ℤ := 20
  maxBranches : ℤ := 1
  maxUsers : ℤ := 1
  maxTreasuries : ℤ := 1
  deriving DecidableEq

/-- `PlanPromotion`; a promotion without a plan is for all plans of its
industry, or of every industry. -/
structure PlanPromotion where
  plan : Option ℕ
  industry : Option Industry
  percentOff : ℕ
  quarterlyOff : Option ℕ
  semiAnnualOff : Option ℕ
  annualOff : Option ℕ
  startsAt : ℕ
  endsAt : ℕ
  isActive : Bool
  deriving DecidableEq

namespace PlanPromotion

def isPeriodOffer (offer : PlanPromotion) : Bool :=
  offer.quarterlyOff.isSome || offer.semiAnnualOff.isSome ||
    offer.annualOff.isSome

def periodPercent (offer : PlanPromotion) (months : ℕ) : ℕ :=
  if 12 ≤ months then offer.annualOff.getD 0
  else if 6 ≤ months then offer.semiAnnualOff.getD 0
  else if 3 ≤ months then offer.quarterlyOff.getD 0
  else 0

def covers (offer : PlanPromotion) (now key : ℕ) (plan : Plan) : Bool :=
  offer.isActive && decide (offer.startsAt ≤ now) && decide (now < offer.endsAt) &&
    match offer.plan with
    | some other => other == key
    | none => offer.industry.all (· == plan.industry)

/-- The order of `best_for`: the higher rate, then the earlier end. -/
def precedes (left right : PlanPromotion) : Bool :=
  right.percentOff < left.percentOff ||
    (left.percentOff == right.percentOff && decide (left.endsAt ≤ right.endsAt))

/-- The first of some promotions in the order of `best_for`. -/
def first : List PlanPromotion → Option PlanPromotion
  | [] => none
  | offer :: offers =>
      match first offers with
      | none => some offer
      | some other => if offer.precedes other then some offer else some other

end PlanPromotion

/-- `best_for`. -/
def bestPromotion (promotions : List PlanPromotion) (now key : ℕ)
    (plan : Plan) : Option PlanPromotion :=
  PlanPromotion.first (promotions.filter (·.covers now key plan))

namespace Plan

/-- `discount_for`. -/
def discountFor (plan : Plan) (months : ℕ) (active : Option PlanPromotion) : ℤ :=
  match active.filter (·.isPeriodOffer) with
  | some offer => offer.periodPercent months
  | none =>
      if 12 ≤ months then plan.annualDiscount
      else if 6 ≤ months then plan.semiAnnualDiscount
      else if 3 ≤ months then plan.quarterlyDiscount
      else 0

/-- `price_for_period` at a monthly price, under a promotion if there is one. -/
def priceForPeriod (plan : Plan) (months : ℕ) (monthlyPrice : ℤ)
    (active : Option PlanPromotion) : ℤ :=
  let total : ℚ :=
    monthlyPrice * months * (100 - plan.discountFor months active) / 100
  match active.filter (!·.isPeriodOffer) with
  | some offer => roundHalfEven (total * (100 - offer.percentOff) / 100)
  | none => roundHalfEven total

end Plan

/-- `Client`, as far as billing goes. -/
structure Client where
  status : AccountStatus := .trial
  isActive : Bool := true
  trialEndsAt : ℕ
  subscriptionEndDate : Option ℕ := none
  signupCoupon : String := ""
  extraUsersPurchased : ℤ := 0
  extraBranchesPurchased : ℤ := 0
  extraTreasuriesPurchased : ℤ := 0
  deriving DecidableEq

/-- `ADDON_PRICE_PER_MONTH`. -/
def addonPricePerMonth : ℤ := 12500

namespace Client

/-- `addons_amount`. -/
def addonsAmount (client : Client) (months : ℕ) : ℤ :=
  addonPricePerMonth * (client.extraUsersPurchased +
    client.extraBranchesPurchased + client.extraTreasuriesPurchased) * months

/-- `period_anchor`. -/
def periodAnchor (client : Client) (today : ℕ) : ℕ :=
  let start := max (client.subscriptionEndDate.getD today) today
  if client.status = .trial ∧ client.subscriptionEndDate = none then
    max start client.trialEndsAt
  else start

def extended (client : Client) (periodEnd : ℕ) : Client :=
  { client with
    subscriptionEndDate := some periodEnd
    status := .active
    isActive := true }

end Client

/-- `TenantSubscription`, as far as billing goes. -/
structure TenantSubscription where
  plan : Option ℕ
  billingCycleMonths : ℕ := 1
  currentPeriodStart : Option ℕ := none
  currentPeriodEnd : Option ℕ := none
  isActive : Bool := true
  lockedMonthlyPrice : Option ℤ := none
  lockedAt : Option ℕ := none
  autoRenew : Bool := false
  autoRenewFailures : ℕ := 0
  autoRenewLastAttempt : Option ℕ := none
  deriving DecidableEq

namespace TenantSubscription

/-- `snapshot_from_plan`. -/
def snapshot (subscription : TenantSubscription) (plan : Plan) (now : ℕ) :
    TenantSubscription :=
  { subscription with
    lockedMonthlyPrice := some plan.monthlyPrice
    lockedAt := some now }

def opened (key : ℕ) (plan : Plan) (now : ℕ) : TenantSubscription :=
  { plan := some key : TenantSubscription }.snapshot plan now

/-- `effective_monthly_price`, of a subscription whose plan costs `own`. -/
def effectiveMonthlyPrice (subscription : TenantSubscription) (own : ℤ) : ℤ :=
  match subscription.lockedAt, subscription.lockedMonthlyPrice with
  | some _, some price => price
  | _, _ => own

/-- `effective_monthly_price or plan.monthly_price`. -/
def currentMonthly (subscription : TenantSubscription) (own : ℤ) : ℤ :=
  if subscription.effectiveMonthlyPrice own = 0 then own
  else subscription.effectiveMonthlyPrice own

end TenantSubscription

/-- A `Client` with its `TenantSubscription`: the two are one to one. -/
structure Tenant where
  client : Client
  subscription : Option TenantSubscription := none
  deriving DecidableEq

/-- `STATUS_CHOICES` of an invoice. -/
inductive InvoiceStatus
  | issued
  | paid
  | failed
  | refunded
  | void
  deriving DecidableEq, Repr

/-- `KIND_CHOICES`. -/
inductive InvoiceKind
  | subscription
  | upgrade
  | downgrade
  deriving DecidableEq, Repr

/-- `PlatformInvoice`, with the plan of its revision.  Its subscription is the
one of its tenant, and is left out. -/
structure PlatformInvoice where
  tenant : ℕ
  plan : ℕ
  kind : InvoiceKind := .subscription
  periodStart : ℕ
  periodEnd : ℕ
  billingCycleMonths : ℕ
  total : ℤ
  coupon : Option ℕ := none
  status : InvoiceStatus := .issued
  paymentProvider : String := ""
  paymentReference : String := ""
  issuedAt : ℕ
  paidAt : Option ℕ := none
  deriving DecidableEq

namespace PlatformInvoice

def covers (invoice : PlatformInvoice) (day : ℕ) : Bool :=
  decide (invoice.periodStart ≤ day) && decide (day < invoice.periodEnd)

/-- The invoice as `mark_paid` saves it. -/
def paidWith (invoice : PlatformInvoice) (now : ℕ)
    (provider reference : String) : PlatformInvoice :=
  { invoice with
    status := .paid
    paidAt := some now
    paymentProvider :=
      if provider = "" then invoice.paymentProvider else provider
    paymentReference :=
      if reference = "" then invoice.paymentReference else reference }

def reperiod (invoice : PlatformInvoice) (client : Client) (today : ℕ) :
    PlatformInvoice :=
  if invoice.kind = .upgrade then
    { invoice with
      periodStart := today
      periodEnd := max (client.subscriptionEndDate.getD today)
        (today + (invoice.periodEnd - invoice.periodStart)) }
  else
    { invoice with
      periodStart := client.periodAnchor today
      periodEnd :=
        client.periodAnchor today + periodDays invoice.billingCycleMonths }

end PlatformInvoice

/-- `Coupon`; its code is in capitals, without blanks around it. -/
structure Coupon where
  code : String
  percentOff : ℕ := 0
  amountOff : ℤ := 0
  plan : Option ℕ := none
  industry : Option Industry := none
  startsAt : ℕ := 0
  endsAt : Option ℕ := none
  maxRedemptions : ℕ := 0
  newCustomersOnly : Bool := false
  minMonths : ℕ := 1
  referrer : Option ℕ := none
  isActive : Bool := true
  deriving DecidableEq

namespace Coupon

def monthsOrOne (months : ℕ) : ℕ :=
  if months = 0 then 1 else months

def allowsMonths (coupon : Coupon) (months : ℕ) : Bool :=
  decide (monthsOrOne coupon.minMonths ≤ monthsOrOne months)

/-- `discount_on`. -/
def discountOn (coupon : Coupon) (amount : ℤ) : ℤ :=
  if coupon.percentOff = 0 then min coupon.amountOff amount
  else min (roundHalfEven ((amount : ℚ) * coupon.percentOff / 100)) amount

end Coupon

/-- `apply_coupon`. -/
def PlatformInvoice.withCoupon (invoice : PlatformInvoice) :
    Option (ℕ × Coupon) → PlatformInvoice
  | none => invoice
  | some (key, coupon) =>
      if invoice.total ≤ 0 ∨ invoice.coupon.isSome then invoice
      else
        { invoice with
          total := invoice.total - coupon.discountOn invoice.total
          coupon := some key }

/-- `ReferralReward`. -/
structure ReferralReward where
  coupon : ℕ
  referrer : ℕ
  referred : ℕ
  invoice : ℕ
  giftInvoice : Option ℕ
  deriving DecidableEq

/-- A checkout that has resolved its coupon. -/
structure Checkout where
  tenant : ℕ
  plan : ℕ
  months : ℕ
  coupon : Option ℕ
  deriving DecidableEq

/-- An order of a gateway for which an invoice was opened. -/
structure GatewayOrder where
  provider : String
  order : ℕ
  invoice : ℕ
  deriving DecidableEq

/-- What `resolve_coupon` objects to. -/
inductive CouponRefusal
  | unknown
  | notRunning
  | otherPlan
  | tooShort (minMonths : ℕ)
  | ownCode
  | used
  | firstOnly
  | exhausted
  deriving DecidableEq, Repr

def CouponRefusal.message : CouponRefusal → String
  | unknown => "الكود ده مش صحيح."
  | notRunning => "الكود ده مش شغّال دلوقتي."
  | otherPlan => "الكود ده مش على الباقة دي."
  | tooShort 3 => "الكود ده على الاشتراك 3 شهور أو 6 شهور أو سنة — مش الشهري."
  | tooShort 6 => "الكود ده على الاشتراك 6 شهور أو سنة بس."
  | tooShort 12 => "الكود ده على الاشتراك السنوي بس."
  | tooShort _ => "الكود ده مش على المدة دي."
  | ownCode => "مينفعش تستخدم كود الإحالة بتاعك — ابعته لصحابك."
  | used => "استخدمت الكود ده قبل كده."
  | firstOnly => "الكود ده لأول اشتراك بس."
  | exhausted => "الكود ده خلص عدد استخداماته."

/-- The rows that billing works on, with the clock, the orders for which an
invoice was opened and the day of the last daily run. -/
structure Platform where
  now : ℕ
  today : ℕ
  plans : Table Plan
  promotions : List PlanPromotion
  tenants : Table Tenant
  coupons : Table Coupon
  invoices : Table PlatformInvoice := .empty
  rewards : List ReferralReward := []
  checkouts : Table Checkout := .empty
  orders : List GatewayOrder := []
  ranOn : Option ℕ := none

inductive BillingError
  | missing
  | blocked (blockers : List String)
  | coupon (refusal : CouponRefusal)
  | notOwed (status : InvoiceStatus)
  | referenceTaken (reference : String)
  | integrity
  deriving DecidableEq

abbrev BillingTxn := Txn BillingError Platform

namespace Platform

variable (platform : Platform)

/-- `price_for_period` of a plan today. -/
def priceForPeriod (key : ℕ) (plan : Plan) (months : ℕ) : ℤ :=
  plan.priceForPeriod months plan.monthlyPrice
    (bestPromotion platform.promotions platform.now key plan)

/-- `renewal_amount`. -/
def renewalAmount (client : Client) (key : ℕ) (plan : Plan) (months : ℕ) : ℤ :=
  platform.priceForPeriod key plan months + client.addonsAmount months

def ownPrice (subscription : TenantSubscription) : ℤ :=
  ((subscription.plan.bind platform.plans.get?).map Plan.monthlyPrice).getD 0

/-- `effective_monthly_price or plan.monthly_price` of a subscription. -/
def currentMonthly (subscription : TenantSubscription) : ℤ :=
  subscription.currentMonthly (platform.ownPrice subscription)

def referenceFree (key : ℕ) (provider reference : String) : Bool :=
  reference == "" || !platform.invoices.rows.any fun row =>
    row.1 != key && row.2.paymentProvider == provider &&
      row.2.paymentReference == reference

def invoiceFor (provider reference : String) : Option (ℕ × PlatformInvoice) :=
  platform.invoices.rows.reverse.find? fun row =>
    row.2.paymentProvider == provider && row.2.paymentReference == reference

/-- `_has_paid_before`. -/
def hasPaidBefore (tenant : ℕ) : Bool :=
  platform.invoices.rows.any fun row =>
    row.2.tenant == tenant && row.2.status == .paid && decide (0 < row.2.total) &&
      row.2.paymentProvider != "gift" && row.2.paymentProvider != "coupon"

def paidUses (coupon : ℕ) : ℕ :=
  platform.invoices.rows.countP fun row =>
    row.2.coupon == some coupon && row.2.status == .paid

def usedBy (coupon tenant : ℕ) : Bool :=
  platform.invoices.rows.any fun row =>
    row.2.coupon == some coupon && row.2.tenant == tenant &&
      row.2.status == .paid

def defers (subscription : Option TenantSubscription)
    (invoice : PlatformInvoice) (target : Plan) : Bool :=
  match subscription with
  | none => false
  | some subscription =>
      decide (platform.today < invoice.periodStart) &&
        subscription.plan.isSome && subscription.plan != some invoice.plan &&
        (invoice.kind == .downgrade ||
          decide (target.monthlyPrice < platform.currentMonthly subscription))

end Platform

def TenantSubscription.renewed (subscription : TenantSubscription)
    (invoice : PlatformInvoice) (target : Plan) (now : ℕ) :
    TenantSubscription :=
  { subscription with
    plan := some invoice.plan
    billingCycleMonths := invoice.billingCycleMonths
    currentPeriodStart := some invoice.periodStart
    currentPeriodEnd := some invoice.periodEnd
    isActive := true }.snapshot target now

/-- The invoice as `mark_paid` leaves it: a change of plan that waits is a
downgrade. -/
def Platform.paidInvoice (platform : Platform) (invoice : PlatformInvoice)
    (row : Tenant) (target : Plan) (provider reference : String) :
    PlatformInvoice :=
  let paid := invoice.paidWith platform.now provider reference
  if platform.defers row.subscription invoice target then
    { paid with kind := .downgrade }
  else paid

/-- The tenant as `mark_paid` leaves it. -/
def Platform.paidTenant (platform : Platform) (invoice : PlatformInvoice)
    (row : Tenant) (target : Plan) : Tenant :=
  let subscription := row.subscription.getD
    (.opened invoice.plan target platform.now)
  { client := row.client.extended invoice.periodEnd
    subscription := some
      (if platform.defers row.subscription invoice target then
        { subscription with isActive := true }
      else subscription.renewed invoice target platform.now) }

/-- The platform after `mark_paid`, before a referral is rewarded. -/
def Platform.finalized (platform : Platform) (key : ℕ)
    (invoice : PlatformInvoice) (row : Tenant) (target : Plan)
    (provider reference : String) : Platform :=
  { platform with
    invoices := platform.invoices.modify key fun _ =>
      platform.paidInvoice invoice row target provider reference
    tenants := platform.tenants.modify invoice.tenant fun _ =>
      platform.paidTenant invoice row target }

/-- `mark_paid`, before a referral is rewarded. -/
def finalizeInvoice (key : ℕ) (provider reference : String) :
    BillingTxn PUnit := do
  let platform ← get
  let invoice ← Txn.expect (platform.invoices.get? key) .missing
  let row ← Txn.expect (platform.tenants.get? invoice.tenant) .missing
  let target ← Txn.expect (platform.plans.get? invoice.plan) .missing
  let paid := invoice.paidWith platform.now provider reference
  Txn.require
    (platform.referenceFree key paid.paymentProvider paid.paymentReference)
    .integrity
  set (platform.finalized key invoice row target provider reference)

def createInvoice (invoice : PlatformInvoice) : BillingTxn ℕ := do
  let platform ← get
  Txn.require
    (platform.referenceFree platform.invoices.next invoice.paymentProvider
      invoice.paymentReference) .integrity
  set { platform with invoices := platform.invoices.insert invoice }
  pure platform.invoices.next

/-- The arguments of `issue_subscription_invoice`. -/
structure Issue where
  months : ℕ := 1
  paid : Bool := true
  gift : Bool := false
  provider : String := "manual_admin"
  reference : String := ""
  paymentProviderAlways : Bool := false
  kind : InvoiceKind := .subscription
  deriving DecidableEq

/-- The invoice that `issue_subscription_invoice` creates. -/
def Platform.issuedInvoice (platform : Platform) (tenant : ℕ) (client : Client)
    (key : ℕ) (plan : Plan) (issue : Issue) : PlatformInvoice :=
  let months := cycleMonths issue.months
  let start := client.periodAnchor platform.today
  let named := (issue.reference != "" || issue.paymentProviderAlways) &&
    !(issue.paid || issue.gift)
  { tenant
    plan := key
    kind := issue.kind
    periodStart := start
    periodEnd := start + periodDays months
    billingCycleMonths := months
    total :=
      if issue.gift then 0 else platform.renewalAmount client key plan months
    paymentProvider := if named then issue.provider else ""
    paymentReference := if named then issue.reference else ""
    issuedAt := platform.now }

/-- `get_or_create` of the subscription of a tenant. -/
def Platform.subscribed (platform : Platform) (tenant key : ℕ) (plan : Plan) :
    Platform :=
  { platform with
    tenants := platform.tenants.modify tenant fun row =>
      { row with
        subscription := some
          (row.subscription.getD (.opened key plan platform.now)) } }

/-- `issue_subscription_invoice`.  A new invoice has no coupon, so that settling
it rewards nobody. -/
def issueSubscriptionInvoice (tenant key : ℕ) (issue : Issue) :
    BillingTxn ℕ := do
  let platform ← get
  let row ← Txn.expect (platform.tenants.get? tenant) .missing
  let plan ← Txn.expect (platform.plans.get? key) .missing
  if issue.paid || issue.gift then do
    set (platform.subscribed tenant key plan)
    let invoice ← createInvoice
      (platform.issuedInvoice tenant row.client key plan issue)
    finalizeInvoice invoice (if issue.gift then "gift" else issue.provider)
      issue.reference
    pure invoice
  else createInvoice (platform.issuedInvoice tenant row.client key plan issue)

/-- `REFERRAL_REWARD_MONTHS`. -/
def referralRewardMonths : ℕ := 1

def Platform.rewarded (platform : Platform) (invoice : PlatformInvoice) :
    Option (ℕ × ℕ) :=
  match invoice.coupon with
  | none => none
  | some key =>
      match (platform.coupons.get? key).bind Coupon.referrer with
      | none => none
      | some referrer =>
          if referrer = invoice.tenant ∨
              platform.rewards.any (·.referred == invoice.tenant) then none
          else some (key, referrer)

def Platform.trialExtended (platform : Platform) (tenant : ℕ) : Platform :=
  { platform with
    tenants := platform.tenants.modify tenant fun row =>
      { row with
        client := { row.client with
          trialEndsAt := max row.client.trialEndsAt platform.today +
            periodDays referralRewardMonths } } }

def giveMonth (referrer : ℕ) : BillingTxn (Option ℕ) := do
  let platform ← get
  let row ← Txn.expect (platform.tenants.get? referrer) .missing
  match row.subscription.bind TenantSubscription.plan with
  | some plan => do
      let gift ← issueSubscriptionInvoice referrer plan
        { months := referralRewardMonths, gift := true }
      pure (some gift)
  | none => do
      set (platform.trialExtended referrer)
      pure none

/-- `reward_referrer`, where `mark_paid` calls it. -/
def rewardReferrer (key : ℕ) (invoice : PlatformInvoice) :
    BillingTxn PUnit := do
  let platform ← get
  match platform.rewarded invoice with
  | none => pure ⟨⟩
  | some (coupon, referrer) => do
      let giftInvoice ← giveMonth referrer
      modify fun platform =>
        { platform with
          rewards := platform.rewards ++
            [{ coupon
               referrer
               referred := invoice.tenant
               invoice := key
               giftInvoice }] }

/-- `settle_issued_invoice`. -/
def settleIssuedInvoice (key : ℕ) (provider reference : String) :
    BillingTxn PUnit := do
  let platform ← get
  let invoice ← Txn.expect (platform.invoices.get? key) .missing
  if invoice.status = .paid then pure ⟨⟩
  else do
    Txn.require (invoice.status = .issued ∨ invoice.status = .void)
      (.notOwed invoice.status)
    Txn.require (platform.referenceFree key provider reference)
      (.referenceTaken reference)
    let row ← Txn.expect (platform.tenants.get? invoice.tenant) .missing
    set
      { platform with
        invoices := platform.invoices.modify key fun _ =>
          invoice.reperiod row.client platform.today }
    finalizeInvoice key provider reference
    if provider = "gift" then pure ⟨⟩ else rewardReferrer key invoice

/-- `void_invoice`. -/
def voidInvoice (key : ℕ) : BillingTxn PUnit :=
  modify fun platform =>
    { platform with
      invoices := platform.invoices.modify key fun invoice =>
        if invoice.status = .issued then { invoice with status := .void }
        else invoice }

def Platform.superseded (platform : Platform) (tenant : ℕ) (provider : String) :
    Platform :=
  { platform with
    invoices := platform.invoices.map fun _ invoice =>
      if invoice.tenant = tenant ∧ invoice.status = .issued ∧
          invoice.paymentProvider = provider then
        { invoice with status := .void }
      else invoice }

/-- `refund_invoice`. -/
def refundInvoice (key : ℕ) (cutService : Bool) : BillingTxn PUnit := do
  let platform ← get
  let invoice ← Txn.expect (platform.invoices.get? key) .missing
  if invoice.status ≠ .paid then pure ⟨⟩
  else do
    modify fun platform =>
      { platform with
        invoices := platform.invoices.modify key fun invoice =>
          { invoice with status := .refunded } }
    if cutService then
      modify fun platform =>
        { platform with
          tenants := platform.tenants.modify invoice.tenant fun row =>
            { client := { row.client with
                subscriptionEndDate :=
                  row.client.subscriptionEndDate.map (min platform.today ·) }
              subscription := row.subscription.map fun subscription =>
                { subscription with
                  currentPeriodEnd :=
                    subscription.currentPeriodEnd.map
                      (min platform.today ·) } } }
    else pure ⟨⟩

/-- `open_gateway_invoice`. -/
def openGatewayInvoice (tenant key months : ℕ) (provider : String)
    (order : ℕ) : BillingTxn ℕ := do
  modify fun platform => platform.superseded tenant provider
  issueSubscriptionInvoice tenant key
    { months
      paid := false
      provider
      reference := toString order }

/-- The answers of `settle_gateway_invoice`. -/
inductive GatewayAnswer
  | paid
  | alreadyPaid
  | amountMismatch
  | notFound
  | badStatus
  deriving DecidableEq, Repr

/-- `settle_gateway_invoice`. -/
def settleGatewayInvoice (provider : String) (order : ℕ) (paidCents : ℤ) :
    BillingTxn GatewayAnswer := do
  let platform ← get
  match platform.invoiceFor provider (toString order) with
  | none => pure .notFound
  | some (key, invoice) =>
      if invoice.status = .paid then pure .alreadyPaid
      else if ¬ (invoice.status = .issued ∨ invoice.status = .void) then
        pure .badStatus
      else if paidCents < invoice.total then pure .amountMismatch
      else do
        settleIssuedInvoice key provider (toString order)
        pure .paid

structure UsageCounts where
  users : ℤ
  branches : ℤ
  treasuries : ℤ
  deriving DecidableEq

/-- One line of `_downgrade_blockers`. -/
def blocker (label : String) (used allowed : ℤ) : List String :=
  if 0 < allowed ∧ allowed < used then
    ["عندك " ++ toString used ++ " " ++ label ++ " والباقة الجديدة بتسمح بـ " ++
      toString allowed ++ " — قفّل " ++ toString (used - allowed) ++ " الأول."]
  else []

/-- `_downgrade_blockers`; a schema that cannot be counted blocks nothing. -/
def Client.downgradeBlockers (client : Client) (plan : Plan) :
    Option UsageCounts → List String
  | none => []
  | some used =>
      blocker "مستخدم نشط" used.users
          (plan.maxUsers + client.extraUsersPurchased) ++
        blocker "فرع" used.branches
          (plan.maxBranches + client.extraBranchesPurchased) ++
        blocker "خزينة" used.treasuries
          (plan.maxTreasuries + client.extraTreasuriesPurchased)

inductive QuoteKind
  | new
  | renewal
  | upgrade
  | downgrade
  deriving DecidableEq, Repr

/-- What `quote_plan_change` returns. -/
structure PlanQuote where
  kind : QuoteKind
  months : ℕ
  total : ℤ
  periodStart : ℕ
  periodEnd : ℕ
  remainingDays : ℕ
  blockers : List String
  deriving DecidableEq

def Platform.upgradeTotal (platform : Platform)
    (subscription : TenantSubscription) (current : Plan) (key : ℕ) (plan : Plan)
    (cycle remaining : ℕ) : ℤ :=
  let newDaily :=
    significant 28 (platform.priceForPeriod key plan cycle / periodDays cycle)
  let oldDaily := significant 28
    (current.priceForPeriod cycle (platform.currentMonthly subscription) none /
      periodDays cycle)
  max (roundHalfEven
    (significant 28 (significant 28 (newDaily - oldDaily) * remaining))) 1

/-- `quote_plan_change`. -/
def Platform.quotePlanChange (platform : Platform) (row : Tenant) (key : ℕ)
    (plan : Plan) (months : ℕ) (usage : Option UsageCounts) : PlanQuote :=
  let start := row.client.periodAnchor platform.today
  let quote : PlanQuote :=
    { kind := .new
      months := cycleMonths months
      total := platform.renewalAmount row.client key plan (cycleMonths months)
      periodStart := start
      periodEnd := start + periodDays (cycleMonths months)
      remainingDays := 0
      blockers := [] }
  match row.client.subscriptionEndDate, row.subscription with
  | some periodEnd, some subscription =>
      match subscription.plan.bind platform.plans.get? with
      | none => quote
      | some current =>
          if row.client.status = .active ∧ platform.today < periodEnd then
            if subscription.plan = some key then { quote with kind := .renewal }
            else if platform.currentMonthly subscription < plan.monthlyPrice then
              let cycle := cycleMonths subscription.billingCycleMonths
              let remaining := periodEnd - platform.today
              { kind := .upgrade
                months := cycle
                total := platform.upgradeTotal subscription current key plan
                  cycle remaining
                periodStart := platform.today
                periodEnd
                remainingDays := remaining
                blockers := [] }
            else
              { quote with
                kind := .downgrade
                blockers := row.client.downgradeBlockers plan usage }
          else quote
  | _, _ => quote

def Platform.planChangeInvoice (platform : Platform) (tenant : ℕ)
    (client : Client) (key : ℕ) (plan : Plan) (quote : PlanQuote)
    (provider reference : String) : PlatformInvoice :=
  if quote.kind = .upgrade then
    { tenant
      plan := key
      kind := .upgrade
      periodStart := quote.periodStart
      periodEnd := quote.periodEnd
      billingCycleMonths := quote.months
      total := quote.total
      paymentProvider := provider
      paymentReference := reference
      issuedAt := platform.now }
  else
    platform.issuedInvoice tenant client key plan
      { months := quote.months
        paid := false
        provider
        reference
        paymentProviderAlways := true
        kind := if quote.kind = .downgrade then .downgrade else .subscription }

def couponReference (coupon : Coupon) (key : ℕ) : String :=
  coupon.code ++ "-" ++ toString key

/-- `_finish_with_coupon`. -/
def finishWithCoupon (key : ℕ) (coupon : Option (ℕ × Coupon)) :
    BillingTxn PUnit := do
  modify fun platform =>
    { platform with
      invoices := platform.invoices.modify key (·.withCoupon coupon) }
  match coupon with
  | none => pure ⟨⟩
  | some (_, row) => do
      let platform ← get
      let invoice ← Txn.expect (platform.invoices.get? key) .missing
      if invoice.total ≤ 0 then
        settleIssuedInvoice key "coupon" (couponReference row key)
      else pure ⟨⟩

def supersede (tenant : ℕ) (provider : String) (order : Option ℕ) :
    BillingTxn PUnit :=
  modify fun platform =>
    if order.isSome then platform.superseded tenant provider else platform

/-- `open_plan_change_invoice`, of an order of the gateway or without one. -/
def openPlanChangeInvoice (tenant key months : ℕ) (provider : String)
    (order : Option ℕ) (usage : Option UsageCounts)
    (coupon : Option (ℕ × Coupon)) : BillingTxn ℕ := do
  let platform ← get
  let row ← Txn.expect (platform.tenants.get? tenant) .missing
  let plan ← Txn.expect (platform.plans.get? key) .missing
  let quote := platform.quotePlanChange row key plan months usage
  Txn.require (quote.blockers = []) (.blocked quote.blockers)
  supersede tenant provider order
  let invoice ← createInvoice
    (platform.planChangeInvoice tenant row.client key plan quote provider
      ((order.map toString).getD ""))
  finishWithCoupon invoice coupon
  pure invoice

namespace Platform

variable (platform : Platform)

def couponOf (code : String) : Option (ℕ × Coupon) :=
  platform.coupons.rows.find? (·.2.code == code)

/-- The objections of `resolve_coupon` to a coupon, in their order. -/
def couponRefusal (tenant key : ℕ) (plan : Plan) (months : Option ℕ)
    (couponKey : ℕ) (coupon : Coupon) : Option CouponRefusal :=
  if !coupon.isActive then some .unknown
  else if platform.now < coupon.startsAt ∨
      coupon.endsAt.any (decide <| · ≤ platform.now) then
    some .notRunning
  else if coupon.plan.any (· != key) ∨ coupon.industry.any (· != plan.industry) then
    some .otherPlan
  else if months.any (!coupon.allowsMonths ·) then
    some (.tooShort coupon.minMonths)
  else if coupon.referrer = some tenant then some .ownCode
  else if platform.usedBy couponKey tenant then some .used
  else if (coupon.newCustomersOnly ∨ coupon.referrer.isSome) ∧
      platform.hasPaidBefore tenant then
    some .firstOnly
  else if coupon.maxRedemptions ≠ 0 ∧
      coupon.maxRedemptions ≤ platform.paidUses couponKey then
    some .exhausted
  else none

/-- `resolve_coupon`, of a code that is in capitals already. -/
def resolveCoupon (code : String) (tenant key : ℕ) (plan : Plan)
    (months : Option ℕ) : Except CouponRefusal (Option ℕ) :=
  if code = "" then .ok none
  else
    match platform.couponOf code with
    | none => .error .unknown
    | some (couponKey, coupon) =>
        match platform.couponRefusal tenant key plan months couponKey coupon with
        | some refusal => .error refusal
        | none => .ok (some couponKey)

/-- `checkout_coupon`. -/
def checkoutCoupon (tenant : ℕ) (client : Client) (key : ℕ) (plan : Plan)
    (code : String) (months : Option ℕ) : Except CouponRefusal (Option ℕ) :=
  if code ≠ "" then platform.resolveCoupon code tenant key plan months
  else
    match platform.resolveCoupon client.signupCoupon tenant key plan months with
    | .ok coupon => .ok coupon
    | .error _ => .ok none

end Platform

def beginCheckout (tenant key months : ℕ) (usage : Option UsageCounts)
    (code : String) : BillingTxn ℕ := do
  let platform ← get
  let row ← Txn.expect (platform.tenants.get? tenant) .missing
  let plan ← Txn.expect (platform.plans.get? key) .missing
  let quote := platform.quotePlanChange row key plan months usage
  Txn.require (quote.blockers = []) (.blocked quote.blockers)
  match platform.checkoutCoupon tenant row.client key plan code
      (some quote.months) with
  | .error refusal => throw (.coupon refusal)
  | .ok coupon => do
      set
        { platform with
          checkouts := platform.checkouts.insert
            { tenant, plan := key, months, coupon } }
      pure platform.checkouts.next

def endCheckout (checkout : ℕ) (provider : String) (order : Option ℕ)
    (usage : Option UsageCounts) : BillingTxn ℕ := do
  let platform ← get
  let request ← Txn.expect (platform.checkouts.get? checkout) .missing
  set { platform with checkouts := platform.checkouts.erase checkout }
  match request.coupon with
  | none =>
      openPlanChangeInvoice request.tenant request.plan request.months provider
        order usage none
  | some key => do
      let coupon ← Txn.expect (platform.coupons.get? key) .missing
      openPlanChangeInvoice request.tenant request.plan request.months provider
        order usage (some (key, coupon))

/-- The earlier of two invoices in the order of `apply_scheduled_plan_changes`
is the one that starts later, or the later one of those. -/
def startsLater (left right : ℕ × PlatformInvoice) : Bool :=
  right.2.periodStart < left.2.periodStart ||
    (left.2.periodStart == right.2.periodStart && decide (right.1 < left.1))

def latestStart : List (ℕ × PlatformInvoice) → Option (ℕ × PlatformInvoice)
  | [] => none
  | row :: rows =>
      match latestStart rows with
      | none => some row
      | some other => if startsLater other row then some other else some row

namespace Platform

variable (platform : Platform)

def dueDowngrades (tenant : ℕ) : List (ℕ × PlatformInvoice) :=
  platform.invoices.rows.filter fun row =>
    row.2.tenant == tenant && row.2.status == .paid &&
      row.2.kind == .downgrade && row.2.covers platform.today

def changedSince (invoice : PlatformInvoice) : Bool :=
  platform.invoices.rows.any fun row =>
    row.2.tenant == invoice.tenant && row.2.status == .paid &&
      row.2.plan != invoice.plan &&
      match row.2.paidAt, invoice.paidAt with
      | some later, some earlier => decide (earlier < later)
      | _, _ => false

def switched (key : ℕ) (row : Tenant) : Tenant :=
  match row.subscription, latestStart (platform.dueDowngrades key) with
  | some subscription, some (_, invoice) =>
      if subscription.plan = some invoice.plan then row
      else if platform.changedSince invoice then row
      else
        match platform.plans.get? invoice.plan with
        | none => row
        | some target =>
            { row with
              subscription := some
                ({ subscription with
                  plan := some invoice.plan
                  billingCycleMonths := invoice.billingCycleMonths
                  currentPeriodStart := some invoice.periodStart
                  currentPeriodEnd := some invoice.periodEnd }.snapshot target
                    platform.now) }
  | _, _ => row

end Platform

/-- `apply_scheduled_plan_changes`. -/
def applyScheduledPlanChanges : BillingTxn PUnit :=
  modify fun platform =>
    { platform with tenants := platform.tenants.map platform.switched }

def graceDays : ℕ := 3

def Client.expired (client : Client) (today : ℕ) : Bool :=
  client.isActive &&
    match client.status with
    | .trial => decide (client.trialEndsAt < today)
    | .active => client.subscriptionEndDate.any (decide <| · + graceDays < today)
    | _ => false

def Tenant.suspended (row : Tenant) (today : ℕ) : Tenant :=
  if row.client.expired today then
    { row with client := { row.client with status := .suspended } }
  else row

/-- `orchestrate_billing_and_suspensions`. -/
def orchestrateBillingAndSuspensions : BillingTxn PUnit := do
  modify fun platform =>
    { platform with
      tenants := platform.tenants.map fun _ row => row.suspended platform.today }
  applyScheduledPlanChanges
  modify fun platform => { platform with ranOn := some platform.today }

/-- One transaction on the platform, or the passing of time. -/
inductive BillingOp
  | issue (tenant plan months : ℕ) (paid gift : Bool)
      (provider reference : String)
  | openGateway (tenant plan months : ℕ) (provider : String) (order : ℕ)
  | beginCheckout (tenant plan months : ℕ) (usage : Option UsageCounts)
      (code : String)
  | endCheckout (checkout : ℕ) (provider : String) (order : Option ℕ)
      (usage : Option UsageCounts)
  | settle (invoice : ℕ) (provider reference : String)
  | notify (provider : String) (order : ℕ) (paidCents : ℤ)
  | void (invoice : ℕ)
  | refund (invoice : ℕ) (cutService : Bool)
  | daily
  | pass (days instants : ℕ)
  deriving DecidableEq

def recordOrder (provider : String) (order : Option ℕ) (invoice : ℕ) :
    BillingTxn PUnit :=
  match order with
  | none => pure ⟨⟩
  | some order =>
      modify fun platform =>
        { platform with
          orders := platform.orders ++ [{ provider, order, invoice }] }

namespace BillingOp

def body : BillingOp → BillingTxn PUnit
  | issue tenant plan months paid gift provider reference => do
      let _ ← issueSubscriptionInvoice tenant plan
        { months, paid, gift, provider, reference }
      pure ⟨⟩
  | openGateway tenant plan months provider order => do
      let invoice ← openGatewayInvoice tenant plan months provider order
      recordOrder provider (some order) invoice
  | .beginCheckout tenant plan months usage code => do
      let _ ← Clients.beginCheckout tenant plan months usage code
      pure ⟨⟩
  | .endCheckout checkout provider order usage => do
      let invoice ← Clients.endCheckout checkout provider order usage
      recordOrder provider order invoice
  | settle invoice provider reference =>
      settleIssuedInvoice invoice provider reference
  | notify provider order paidCents => do
      let _ ← settleGatewayInvoice provider order paidCents
      pure ⟨⟩
  | void invoice => voidInvoice invoice
  | refund invoice cutService => refundInvoice invoice cutService
  | daily => orchestrateBillingAndSuspensions
  | pass days instants =>
      modify fun platform =>
        { platform with
          today := platform.today + days
          now := platform.now + instants }

def refunds : BillingOp → Bool
  | refund _ _ => true
  | _ => false

def run (op : BillingOp) : BillingTxn PUnit :=
  Txn.atomic do
    op.body
    modify fun platform => { platform with now := platform.now + 1 }

end BillingOp

def openedPlatform (now today : ℕ) (plans : Table Plan)
    (promotions : List PlanPromotion) (tenants : Table Tenant)
    (coupons : Table Coupon) : Platform :=
  { now, today, plans, promotions, tenants, coupons }

end Clients

end Mousstec
