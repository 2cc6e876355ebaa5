import Mousstec.Library.Runs
import Mousstec.Library.Table

/-!
# External lookups

Trouble codes and VINs that are not known are looked up outside, and paid for
with the units of a tenant.  A lookup searches what is known, checks and takes a
unit, calls the provider and stores what it answers, one statement at a time; a
refill reads the row of a subscription and saves it later.
-/

namespace Mousstec

namespace Obd

open Library

/-- What is looked up; codes and VINs are as `strip` and `upper` leave them. -/
inductive Lookup
  | dtc (code vehicleSignature : String)
  | vin (vin : String)
  deriving DecidableEq

/-- `TenantSubscription`, as far as external lookups go, with what was
refilled. -/
structure ApiAccount where
  subscribed : Bool := false
  diagApiQuotaRemaining : ℤ := 0
  diagApiScansUsedTotal : ℤ := 0
  refilled : ℤ := 0
  deriving DecidableEq

/-- How far a `resolve` has come. -/
inductive LookupStage
  | looking
  | searching
  | missed
  | gating
  | consuming
  | holding
  | calling
  | answered (provider : String)
  | failed
  deriving DecidableEq

/-- A `resolve` under way: the subscription it has loaded, whether the provider
is paid, and whether a unit was taken. -/
structure LookupRequest where
  tenant : ℕ
  lookup : Lookup
  provider : String
  allowExternal : Bool
  subscription : Option ApiAccount := none
  stage : LookupStage := .looking
  paid : Bool := false
  unit : Bool := false
  deriving DecidableEq

/-- A call of a provider: whether a unit was taken for it, and whether the lookup
had been answered before. -/
structure ProviderCall where
  lookup : Lookup
  paid : Bool
  unit : Bool
  known : Bool
  deriving DecidableEq

structure ProviderResult where
  tenant : ℕ
  lookup : Lookup
  paid : Bool
  deriving DecidableEq

inductive Refill
  | add (amount : ℕ)
  | reset (limit : ℤ)
  deriving DecidableEq

/-- A `refill_diag_api_quota` that has read its row. -/
structure OpenRefill where
  tenant : ℕ
  read : ℤ
  refill : Refill
  deriving DecidableEq

/-- The subscriptions and what is known, the requests and refills under way, and
the history of calls and results. -/
structure LookupDesk where
  accounts : ℕ → ApiAccount := fun _ => {}
  catalog : List String := []
  cache : List (String × String × String) := []
  vins : List String := []
  requests : Table LookupRequest := .empty
  refills : Table OpenRefill := .empty
  calls : List ProviderCall := []
  results : List ProviderResult := []

namespace LookupDesk

variable (desk : LookupDesk)

def done (key : ℕ) : LookupDesk :=
  { desk with requests := desk.requests.erase key }

def goOn (key : ℕ) (request : LookupRequest) : LookupDesk :=
  { desk with requests := desk.requests.modify key fun _ => request }

def charge (tenant : ℕ) (change : ApiAccount → ApiAccount) : LookupDesk :=
  { desk with
    accounts := fun other =>
      if other = tenant then change (desk.accounts tenant)
      else desk.accounts other }

def knows : Lookup → Bool
  | .dtc code _ => decide (code ∈ desk.catalog)
  | .vin vin => decide (vin ∈ desk.vins)

def look (key : ℕ) : LookupDesk :=
  match desk.requests.get? key with
  | none => desk
  | some request =>
      if request.stage = .looking then
        if desk.knows request.lookup then desk.done key
        else
          match request.lookup with
          | .dtc _ _ => desk.goOn key { request with stage := .searching }
          | .vin _ => desk.goOn key { request with stage := .missed }
      else desk

def search (key : ℕ) : LookupDesk :=
  match desk.requests.get? key with
  | none => desk
  | some request =>
      match request.lookup, request.stage with
      | .dtc code vehicleSignature, .searching =>
          if (code, vehicleSignature, request.provider) ∈ desk.cache then
            desk.done key
          else if request.allowExternal then
            desk.goOn key
              { request with
                stage := .gating
                paid := true }
          else desk.done key
      | _, _ => desk

def price (key : ℕ) (costs : Bool) : LookupDesk :=
  match desk.requests.get? key with
  | none => desk
  | some request =>
      if request.stage = .missed then
        if costs then
          desk.goOn key
            { request with
              stage := .gating
              paid := true }
        else desk.goOn key { request with stage := .holding }
      else desk

/-- `tenant.subscription` is loaded, once. -/
def load (key : ℕ) : LookupDesk :=
  match desk.requests.get? key with
  | none => desk
  | some request =>
      desk.goOn key
        { request with
          subscription := some
            (request.subscription.getD (desk.accounts request.tenant)) }

/-- `check_external_api_quota`, with the answer of `check_feature`. -/
def check (key : ℕ) (allowed : Bool) : LookupDesk :=
  match desk.requests.get? key with
  | none => desk
  | some request =>
      if request.stage = .gating then
        let subscription :=
          request.subscription.getD (desk.accounts request.tenant)
        if subscription.subscribed && allowed &&
            decide (0 < subscription.diagApiQuotaRemaining) then
          desk.goOn key
            { request with
              subscription := some subscription
              stage := .consuming }
        else desk.done key
      else desk

/-- `consume_external_api_quota`; of a VIN, nobody asks whether it took a
unit. -/
def consume (key : ℕ) : LookupDesk :=
  match desk.requests.get? key with
  | none => desk
  | some request =>
      if request.stage = .consuming then
        let account := desk.accounts request.tenant
        if account.subscribed ∧ 1 ≤ account.diagApiQuotaRemaining then
          (desk.charge request.tenant fun account =>
            { account with
              diagApiQuotaRemaining := account.diagApiQuotaRemaining - 1
              diagApiScansUsedTotal :=
                account.diagApiScansUsedTotal + 1 }).goOn key
            { request with
              stage := .holding
              unit := true }
        else
          match request.lookup with
          | .dtc _ _ => desk.done key
          | .vin _ => desk.goOn key { request with stage := .holding }
      else desk

def call (key : ℕ) : LookupDesk :=
  match desk.requests.get? key with
  | none => desk
  | some request =>
      if request.stage = .holding then
        { desk.goOn key { request with stage := .calling } with
          calls :=
            { lookup := request.lookup
              paid := request.paid
              unit := request.unit
              known := decide
                (request.lookup ∈ desk.results.map ProviderResult.lookup) } ::
              desk.calls }
      else desk

def answer (key : ℕ) (provider : String) : LookupDesk :=
  match desk.requests.get? key with
  | none => desk
  | some request =>
      if request.stage = .calling then
        { desk.goOn key { request with stage := .answered provider } with
          results :=
            { tenant := request.tenant
              lookup := request.lookup
              paid := request.paid } :: desk.results }
      else desk

def raise (key : ℕ) : LookupDesk :=
  match desk.requests.get? key with
  | none => desk
  | some request =>
      if request.stage = .calling then
        match request.lookup with
        | .dtc _ _ => desk.goOn key { request with stage := .failed }
        | .vin _ => desk.done key
      else desk

def refund (key : ℕ) : LookupDesk :=
  match desk.requests.get? key with
  | none => desk
  | some request =>
      if request.stage = .failed then
        (desk.charge request.tenant fun account =>
          { account with
            diagApiQuotaRemaining :=
              account.diagApiQuotaRemaining + 1 }).done key
      else desk

/-- `_persist_external_result`, or the row of a VIN is stored. -/
def persist (key : ℕ) : LookupDesk :=
  match desk.requests.get? key with
  | none => desk
  | some request =>
      match request.lookup, request.stage with
      | .dtc code vehicleSignature, .answered provider =>
          { desk.done key with
            catalog := code :: desk.catalog
            cache := (code, vehicleSignature, provider) :: desk.cache }
      | .vin vin, .answered _ =>
          { desk.done key with vins := vin :: desk.vins }
      | _, _ => desk

def loadRefill (tenant : ℕ) (refill : Refill) : LookupDesk :=
  if (desk.accounts tenant).subscribed then
    { desk with
      refills := desk.refills.insert
        { tenant
          read := (desk.accounts tenant).diagApiQuotaRemaining
          refill } }
  else desk

def saveRefill (key : ℕ) : LookupDesk :=
  match desk.refills.get? key with
  | none => desk
  | some { tenant, read, refill } =>
      let after := { desk with refills := desk.refills.erase key }
      match refill with
      | .add amount =>
          after.charge tenant fun account =>
            { account with
              diagApiQuotaRemaining := max 0 (read + amount)
              refilled := account.refilled + amount }
      | .reset limit =>
          after.charge tenant fun account =>
            { account with
              diagApiQuotaRemaining := max 0 limit
              refilled := account.refilled +
                (max 0 limit - account.diagApiQuotaRemaining) }

end LookupDesk

inductive LookupOp
  | subscribe (tenant : ℕ)
  | begin (tenant : ℕ) (lookup : Lookup) (provider : String)
      (allowExternal : Bool)
  | load (request : ℕ)
  | look (request : ℕ)
  | search (request : ℕ)
  | price (request : ℕ) (costs : Bool)
  | check (request : ℕ) (allowed : Bool)
  | consume (request : ℕ)
  | call (request : ℕ)
  | answer (request : ℕ) (provider : String)
  | raise (request : ℕ)
  | refund (request : ℕ)
  | persist (request : ℕ)
  | stop (request : ℕ)
  | loadRefill (tenant : ℕ) (refill : Refill)
  | saveRefill (refill : ℕ)

/-- What an operation does.  A request stops when its worker does, or when a
statement raises that it does not catch. -/
def LookupOp.step (op : LookupOp) (desk : LookupDesk) : LookupDesk :=
  match op with
  | subscribe tenant => desk.charge tenant ({ · with subscribed := true })
  | begin tenant lookup provider allowExternal =>
      { desk with
        requests := desk.requests.insert
          { tenant
            lookup
            provider
            allowExternal } }
  | load key => desk.load key
  | look key => desk.look key
  | search key => desk.search key
  | price key costs => desk.price key costs
  | check key allowed => desk.check key allowed
  | consume key => desk.consume key
  | call key => desk.call key
  | answer key provider => desk.answer key provider
  | raise key => desk.raise key
  | refund key => desk.refund key
  | persist key => desk.persist key
  | stop key => desk.done key
  | loadRefill tenant refill => desk.loadRefill tenant refill
  | saveRefill key => desk.saveRefill key

def LookupOp.run (op : LookupOp) : Txn PUnit LookupDesk PUnit :=
  modify op.step

def openedLookups (catalog : List String) (cache : List (String × String × String))
    (vins : List String) : LookupDesk where
  catalog
  cache
  vins

end Obd

end Mousstec
