import Mousstec.Clients.DesignCredits
import Mousstec.Library.Runs

/-!
# Requests for designs

Requests of one company and one customer run next to each other, statement by
statement.  A request sees what others have committed; the rows it selects for
update stay locked until it commits, and a select that skips locked rows passes
over what others hold.  The usage log and the free designs are under no lock.
-/

namespace Mousstec

namespace Clients

open Library

namespace DesignTenant

variable (tenant : DesignTenant) (now : Moment)

/-- `_get_bonus_remaining`. -/
def getBonusRemaining (action : AiAction) : ℤ :=
  match fieldMap action with
  | none => 0
  | some field => tenant.grants.total fun _ grant =>
      if grant.isValid now then
        max ((grant.bonus field).granted - (grant.bonus field).consumed) 0
      else 0

def addonLimit (action : AiAction) : Option ℤ :=
  (tenant.subscription.bind DesignSubscription.aiAddon).bind fun addon =>
    match action with
    | .aiGeneration => some addon.aiGenerationsLimit
    | .whatsappSend | .smartWatermark => some addon.whatsappMessagesLimit
    | .llmText | .copilotQuestion => none

/-- `can_use`. -/
def canUse (action : AiAction) : Bool :=
  decide (0 < tenant.getBonusRemaining now action) ||
    (tenant.addonLimit action).any fun limit =>
      decide ((getMonthlyUsage tenant.usage action now : ℤ) < limit)

/-- The next active gift in `granted_at` order that is not locked yet. -/
def nextToLock (acquired : List ℕ) : Option (ℕ × BonusGrant) :=
  firstIn GrantPrecedes <| tenant.grants.rows.filter fun row =>
    row.2.isActive && !acquired.contains row.1

/-- The first valid gift with something left, in `granted_at` order. -/
def nextBonus (field : BonusField) : Option (ℕ × BonusGrant) :=
  firstIn GrantPrecedes <| tenant.grants.rows.filter fun row =>
    row.2.isValid now &&
      decide ((row.2.bonus field).consumed < (row.2.bonus field).granted)

/-- A use of a gift in `deduct`. -/
def chargeBonus (action : AiAction) (field : BonusField) (key : ℕ) :
    DesignTenant :=
  { tenant with
    grants := tenant.grants.modify key fun grant => grant.consume field }.track
      now action (.bonusGrant key)

end DesignTenant

inductive CreditRow
  | grant (key : ℕ)
  | topup (key : ℕ)
  | purchase (key : ℕ)
  deriving DecidableEq, Repr

/-- A use of a locked row that is about to be committed.  `counted` is the
moment at which the plan was found used up. -/
inductive Charge
  | grant (counted : Moment) (key : ℕ)
  | topup (counted : Moment) (key : ℕ)
  | bonus (action : AiAction) (field : BonusField) (acquired : List ℕ) (key : ℕ)
  | purchase (key : ℕ)
  deriving DecidableEq

def Charge.row : Charge → CreditRow
  | grant _ key => .grant key
  | topup _ key => .topup key
  | bonus _ _ _ key => .grant key
  | purchase key => .purchase key

inductive CreditStage
  -- `consume_tenant_credit`
  | opened (now : Moment)
  | counted (now : Moment) (used : ℕ)
  | seekingGrant (now : Moment)
  | seekingTopup (now : Moment)
  -- `deduct`
  | locking (action : AiAction) (acquired : List ℕ)
  | allowed (action : AiAction) (acquired : List ℕ) (used : ℕ)
  -- `consume_customer_credit`
  | loaded (freeDesignsTotal freeDesignsUsed : ℤ)
  | seekingPurchase (now : Moment)
  -- a row is chosen and locked
  | charging (charge : Charge)
  | finished
  deriving DecidableEq

def CreditStage.locks : CreditStage → List CreditRow
  | locking _ acquired => acquired.map .grant
  | allowed _ acquired _ => acquired.map .grant
  | charging (.bonus _ _ acquired key) => .grant key :: acquired.map .grant
  | charging charge => [charge.row]
  | _ => []

/-- What a design on a gift or a top-up did to what the plan allows. -/
structure GiftRecord where
  allowedBefore : ℤ
  allowedAfter : ℤ
  deriving DecidableEq

/-- A company, a customer and the requests. -/
structure CreditWorld where
  now : Moment
  tenant : DesignTenant
  customer : DesignCustomer
  requests : Table CreditStage := .empty
  gifts : List GiftRecord := []
  deriving DecidableEq

namespace CreditWorld

variable (world : CreditWorld)

def free (key : ℕ) (row : CreditRow) : Bool :=
  world.requests.rows.all fun other =>
    other.1 == key || !other.2.locks.contains row

def goOn (key : ℕ) (stage : CreditStage) : CreditWorld :=
  { world with requests := world.requests.modify key fun _ => stage }

def commitTenant (key : ℕ) (tenant : DesignTenant) : CreditWorld :=
  { world with tenant }.goOn key .finished

def commitCustomer (key : ℕ) (customer : DesignCustomer) : CreditWorld :=
  { world with customer }.goOn key .finished

def commitGift (key : ℕ) (tenant : DesignTenant) : CreditWorld :=
  { world.commitTenant key tenant with
    gifts := world.gifts ++
      [⟨world.tenant.planRemaining world.now, tenant.planRemaining world.now⟩] }

def charge (key : ℕ) : Charge → CreditWorld
  | .grant _ grant =>
      world.commitGift key (world.tenant.chargeGrant world.now grant)
  | .topup _ topup =>
      world.commitGift key (world.tenant.chargeTopup world.now topup)
  | .bonus action field _ grant =>
      world.commitGift key
        (world.tenant.chargeBonus world.now action field grant)
  | .purchase purchase =>
      world.commitCustomer key (world.customer.chargePurchase purchase)

/-- `deduct` without a gift to take: what `can_use` says. -/
def checkUse (key : ℕ) (action : AiAction) (acquired : List ℕ) : CreditWorld :=
  if world.tenant.canUse world.now action then
    world.goOn key (.allowed action acquired
      (getMonthlyUsage world.tenant.usage action world.now))
  else world.goOn key .finished

/-- `deduct` locks the active gifts one after the other, waiting for each, and
takes the first that has something left. -/
def lockOrTake (key : ℕ) (action : AiAction) (acquired : List ℕ)
    (field : BonusField) : CreditWorld :=
  match world.tenant.nextToLock acquired with
  | some (grant, _) =>
      if world.free key (.grant grant) then
        world.goOn key (.locking action (grant :: acquired))
      else world
  | none =>
      match world.tenant.nextBonus world.now field with
      | some (grant, _) =>
          world.goOn key (.charging (.bonus action field acquired grant))
      | none => world.checkUse key action acquired

def statement (key : ℕ) : CreditStage → CreditWorld
  | .opened now =>
      world.goOn key (.counted now
        (getMonthlyUsage world.tenant.usage .aiGeneration now))
  | .counted now used =>
      if (used : ℤ) < world.tenant.planQuota then
        world.commitTenant key
          (world.tenant.track world.now .aiGeneration .planMonthlyQuota)
      else world.goOn key (.seekingGrant now)
  | .seekingGrant now =>
      match world.tenant.nextGrant now fun grant =>
          world.free key (.grant grant) with
      | some (grant, _) => world.goOn key (.charging (.grant now grant))
      | none => world.goOn key (.seekingTopup now)
  | .seekingTopup now =>
      match world.tenant.nextTopup now fun topup =>
          world.free key (.topup topup) with
      | some (topup, _) => world.goOn key (.charging (.topup now topup))
      | none => world.goOn key .finished
  | .locking action acquired =>
      match fieldMap action with
      | some field => world.lockOrTake key action acquired field
      | none => world.checkUse key action acquired
  | .allowed action _ _ =>
      world.commitTenant key
        (world.tenant.track world.now action .subscription)
  | .loaded total used =>
      if 0 < max (total - used) 0 then
        world.commitCustomer key world.customer.chargeFree
      else world.goOn key (.seekingPurchase world.now)
  | .seekingPurchase now =>
      match world.customer.nextPurchase fun purchase =>
          world.free key (.purchase purchase) with
      | some (key', purchase) =>
          if notExpired purchase.expiresAt now then
            world.goOn key (.charging (.purchase key'))
          else world.goOn key .finished
      | none => world.goOn key .finished
  | .charging charge => world.charge key charge
  | .finished => world

end CreditWorld

inductive CreditOp
  | clock (now : Moment)
  | consumeTenantCredit
  | deduct (action : AiAction)
  | consumeCustomerCredit
  | statement (request : ℕ)
  | rollBack (request : ℕ)

def CreditWorld.begin (world : CreditWorld) (stage : CreditStage) : CreditWorld :=
  { world with requests := world.requests.insert stage }

def CreditOp.step (op : CreditOp) (world : CreditWorld) : CreditWorld :=
  match op with
  | clock now => { world with now }
  | consumeTenantCredit => world.begin (.opened world.now)
  | deduct action => world.begin (.locking action [])
  | consumeCustomerCredit =>
      world.begin (.loaded world.customer.freeDesignsTotal
        world.customer.freeDesignsUsed)
  | statement key =>
      match world.requests.get? key with
      | some stage => world.statement key stage
      | none => world
  | rollBack key => world.goOn key .finished

def CreditOp.run (op : CreditOp) : Txn PUnit CreditWorld PUnit :=
  modify op.step

end Clients

end Mousstec
