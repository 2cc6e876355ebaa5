import Mousstec.Library.Spending
import Mousstec.Library.Table

/-!
# Design credits

A company designs on the monthly quota of its plan, on gifts of the platform and
on top-ups it has paid for; a customer of the marketplace on free designs and on
packages.  A design is taken from the first source that has one left, and every
design of a company leaves a row in the usage log, which is what the plan's
quota is counted against.
-/

namespace Mousstec

namespace Clients

open Library

/-- A moment, with the local month it falls in. -/
structure Moment where
  instant : ℤ
  year : ℤ
  month : ℕ
  deriving DecidableEq

def Moment.SameMonth (first second : Moment) : Prop :=
  first.year = second.year ∧ first.month = second.month

instance (first second : Moment) : Decidable (first.SameMonth second) :=
  inferInstanceAs (Decidable (_ ∧ _))

/-- `AILimitTracker.ACTION_CHOICES`. -/
inductive AiAction
  | aiGeneration
  | whatsappSend
  | smartWatermark
  | llmText
  | copilotQuestion
  deriving DecidableEq, Repr

/-- `metadata['source']`, with the key of the row that was charged. -/
inductive UsageSource
  | planMonthlyQuota
  | adminGrant (grantId : ℕ)
  | topup (topupId : ℕ)
  | bonusGrant (grantId : ℕ)
  | subscription
  | unnamed
  deriving DecidableEq, Repr

/-- `AILimitTracker`. -/
structure UsageRow where
  actionType : AiAction
  usedAt : Moment
  source : UsageSource
  deriving DecidableEq

/-- What a gift grants of one kind of action, and what was used of it. -/
structure Bonus where
  granted : ℤ := 0
  consumed : ℤ := 0
  deriving DecidableEq

/-- `AIBonusGrant`. -/
structure BonusGrant where
  designs : Bonus
  whatsapp : Bonus := {}
  watermarks : Bonus := {}
  grantedAt : ℤ
  expiresAt : Option ℤ
  isActive : Bool
  deriving DecidableEq

/-- `TenantDesignTopUp.STATUS_CHOICES` and `DesignPurchase.STATUS_CHOICES`. -/
inductive PackStatus
  | pending
  | awaitingConfirm
  | paid
  | rejected
  | exhausted
  | refunded
  | expired
  deriving DecidableEq, Repr

/-- `TenantDesignTopUp` and `DesignPurchase`: designs paid for together. -/
structure DesignPack where
  designsTotal : ℤ
  designsUsed : ℤ
  status : PackStatus
  expiresAt : Option ℤ
  createdAt : ℤ
  paidAt : Option ℤ
  deriving DecidableEq

/-- `AIAddonPackage`. -/
structure AiAddon where
  aiGenerationsLimit : ℤ
  whatsappMessagesLimit : ℤ
  deriving DecidableEq

/-- `TenantSubscription`; of its plan the `monthly_ai_designs_quota`. -/
structure DesignSubscription where
  isActive : Bool
  plan : Option ℤ
  aiAddon : Option AiAddon := none
  deriving DecidableEq

structure DesignTenant where
  subscription : Option DesignSubscription
  usage : List UsageRow
  grants : Table BonusGrant
  topups : Table DesignPack
  deriving DecidableEq

/-- `MarketplaceCustomer`, as far as free designs go. -/
structure DesignCustomer where
  freeDesignsTotal : ℤ
  freeDesignsUsed : ℤ
  purchases : Table DesignPack
  deriving DecidableEq

/-- What has no `expires_at` or one that is not before now. -/
def notExpired (expiresAt : Option ℤ) (now : Moment) : Bool :=
  expiresAt.all fun instant => decide (¬instant < now.instant)

/-- `Q(expires_at__isnull=True) | Q(expires_at__gt=now)`. -/
def expiresLater (expiresAt : Option ℤ) (now : Moment) : Bool :=
  expiresAt.all fun instant => decide (now.instant < instant)

/-- The gift counters that `deduct` and `_get_bonus_remaining` know. -/
inductive BonusField
  | designs
  | whatsapp
  | watermarks
  deriving DecidableEq, Repr

/-- `field_map`. -/
def fieldMap : AiAction → Option BonusField
  | .aiGeneration => some .designs
  | .whatsappSend => some .whatsapp
  | .smartWatermark => some .watermarks
  | .llmText | .copilotQuestion => none

namespace BonusGrant

def bonus (grant : BonusGrant) : BonusField → Bonus
  | .designs => grant.designs
  | .whatsapp => grant.whatsapp
  | .watermarks => grant.watermarks

def consume (grant : BonusGrant) : BonusField → BonusGrant
  | .designs => { grant with designs :=
      { grant.designs with consumed := grant.designs.consumed + 1 } }
  | .whatsapp => { grant with whatsapp :=
      { grant.whatsapp with consumed := grant.whatsapp.consumed + 1 } }
  | .watermarks => { grant with watermarks :=
      { grant.watermarks with consumed := grant.watermarks.consumed + 1 } }

/-- `is_valid`. -/
def isValid (grant : BonusGrant) (now : Moment) : Bool :=
  grant.isActive && notExpired grant.expiresAt now

def counted (grant : BonusGrant) (now : Moment) : ℤ :=
  if grant.isValid now then
    max (grant.designs.granted - grant.designs.consumed) 0
  else 0

/-- A gift that `consume_tenant_credit` may take. -/
def takeable (grant : BonusGrant) (now : Moment) : Bool :=
  grant.isActive && decide (grant.designs.consumed < grant.designs.granted) &&
    expiresLater grant.expiresAt now

end BonusGrant

/-- `order_by('granted_at')`; gifts of one moment are taken by their keys. -/
def GrantPrecedes (first second : ℕ × BonusGrant) : Prop :=
  first.2.grantedAt < second.2.grantedAt ∨
    first.2.grantedAt = second.2.grantedAt ∧ first.1 < second.1

instance : DecidableRel GrantPrecedes := fun _ _ =>
  inferInstanceAs (Decidable (_ ∨ _))

namespace DesignPack

def counted (pack : DesignPack) (now : Moment) : ℤ :=
  if pack.status = .paid ∧ notExpired pack.expiresAt now = true then
    max (pack.designsTotal - pack.designsUsed) 0
  else 0

def remains (pack : DesignPack) : Bool :=
  decide (pack.status = .paid) && decide (pack.designsUsed < pack.designsTotal)

/-- `consume_design`. -/
def consumeDesign (pack : DesignPack) : DesignPack :=
  { pack with
    designsUsed := pack.designsUsed + 1
    status :=
      if pack.designsTotal ≤ pack.designsUsed + 1 then .exhausted
      else pack.status }

end DesignPack

def NullsLast : Option ℤ → Option ℤ → Prop
  | some first, some second => first < second
  | some _, none => True
  | none, _ => False

instance : DecidableRel NullsLast
  | some first, some second => inferInstanceAs (Decidable (first < second))
  | some _, none => inferInstanceAs (Decidable True)
  | none, _ => inferInstanceAs (Decidable False)

/-- `order_by('paid_at', 'created_at')`; rows of one moment are taken by their
keys. -/
def PackPrecedes (first second : ℕ × DesignPack) : Prop :=
  NullsLast first.2.paidAt second.2.paidAt ∨
    first.2.paidAt = second.2.paidAt ∧
      (first.2.createdAt < second.2.createdAt ∨
        first.2.createdAt = second.2.createdAt ∧ first.1 < second.1)

instance : DecidableRel PackPrecedes := fun _ _ =>
  inferInstanceAs (Decidable (_ ∨ _))

/-- `get_monthly_usage`. -/
def getMonthlyUsage (usage : List UsageRow) (action : AiAction)
    (now : Moment) : ℕ :=
  usage.countP fun row =>
    decide (row.actionType = action ∧ row.usedAt.SameMonth now)

structure TenantBalance where
  planQuota : ℤ
  planUsedThisMonth : ℤ
  planRemaining : ℤ
  grantsRemaining : ℤ
  topupsRemaining : ℤ
  total : ℤ
  deriving DecidableEq

inductive CreditSource
  | plan
  | grant
  | topup
  | free
  | paid
  deriving DecidableEq, Repr

/-- The answer of a consume: no source is `no_credit`. -/
structure CreditAnswer where
  source : Option CreditSource
  remainingTotal : ℤ
  deriving DecidableEq

namespace DesignTenant

variable (now : Moment) (tenant : DesignTenant)

/-- `monthly_ai_designs_quota` of an active subscription's plan, or nothing. -/
def planQuota : ℤ :=
  match tenant.subscription with
  | none => 0
  | some sub => if sub.isActive then sub.plan.getD 0 else 0

def planRemaining : ℤ :=
  max (tenant.planQuota - getMonthlyUsage tenant.usage .aiGeneration now) 0

/-- `get_tenant_balance`. -/
def getTenantBalance : TenantBalance :=
  let used : ℤ := getMonthlyUsage tenant.usage .aiGeneration now
  let plan := tenant.planRemaining now
  let grants := tenant.grants.total fun _ grant => grant.counted now
  let topups := tenant.topups.total fun _ topup => topup.counted now
  { planQuota := tenant.planQuota
    planUsedThisMonth := used
    planRemaining := plan
    grantsRemaining := grants
    topupsRemaining := topups
    total := plan + grants + topups }

def nextGrant (free : ℕ → Bool) : Option (ℕ × BonusGrant) :=
  firstIn GrantPrecedes <| tenant.grants.rows.filter fun row =>
    free row.1 && row.2.takeable now

def nextTopup (free : ℕ → Bool) : Option (ℕ × DesignPack) :=
  firstIn PackPrecedes <| tenant.topups.rows.filter fun row =>
    free row.1 && row.2.remains && expiresLater row.2.expiresAt now

/-- `AILimitTracker.objects.create`. -/
def track (action : AiAction) (source : UsageSource) : DesignTenant :=
  { tenant with usage := tenant.usage ++ [⟨action, now, source⟩] }

def chargeGrant (key : ℕ) : DesignTenant :=
  { tenant with
    grants := tenant.grants.modify key fun grant => grant.consume .designs }.track
      now .aiGeneration (.adminGrant key)

def chargeTopup (key : ℕ) : DesignTenant :=
  { tenant with
    topups := tenant.topups.modify key DesignPack.consumeDesign }.track
      now .aiGeneration (.topup key)

def answered (source : Option CreditSource) : CreditAnswer × DesignTenant :=
  ({ source, remainingTotal := (tenant.getTenantBalance now).total }, tenant)

/-- `consume_tenant_credit`, with no other request under way. -/
def consumeTenantCredit : CreditAnswer × DesignTenant :=
  if (getMonthlyUsage tenant.usage .aiGeneration now : ℤ) < tenant.planQuota then
    (tenant.track now .aiGeneration .planMonthlyQuota).answered now (some .plan)
  else
    match tenant.nextGrant now fun _ => true with
    | some (key, _) => (tenant.chargeGrant now key).answered now (some .grant)
    | none =>
        match tenant.nextTopup now fun _ => true with
        | some (key, _) => (tenant.chargeTopup now key).answered now (some .topup)
        | none => tenant.answered now none

end DesignTenant

namespace DesignCustomer

variable (now : Moment) (customer : DesignCustomer)

def freeRemaining : ℤ :=
  max (customer.freeDesignsTotal - customer.freeDesignsUsed) 0

/-- The total of `get_customer_balance`. -/
def getCustomerBalance : ℤ :=
  customer.freeRemaining +
    customer.purchases.total fun _ purchase => purchase.counted now

def nextPurchase (free : ℕ → Bool) : Option (ℕ × DesignPack) :=
  firstIn PackPrecedes <| customer.purchases.rows.filter fun row =>
    free row.1 && row.2.remains

def chargeFree : DesignCustomer :=
  { customer with freeDesignsUsed := customer.freeDesignsUsed + 1 }

def chargePurchase (key : ℕ) : DesignCustomer :=
  { customer with
    purchases := customer.purchases.modify key DesignPack.consumeDesign }

def answered (source : Option CreditSource) : CreditAnswer × DesignCustomer :=
  ({ source, remainingTotal := customer.getCustomerBalance now }, customer)

/-- `consume_customer_credit`, with no other request under way. -/
def consumeCustomerCredit : CreditAnswer × DesignCustomer :=
  if 0 < customer.freeRemaining then
    customer.chargeFree.answered now (some .free)
  else
    match customer.nextPurchase fun _ => true with
    | some (key, purchase) =>
        if notExpired purchase.expiresAt now then
          (customer.chargePurchase key).answered now (some .paid)
        else customer.answered now none
    | none => customer.answered now none

end DesignCustomer

end Clients

end Mousstec
