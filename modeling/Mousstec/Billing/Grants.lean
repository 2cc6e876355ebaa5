import Mousstec.Library.Runs
import Mousstec.Library.Table

/-!
# Metered feature grants

A workshop holds grants of packages and of single features.  A check looks for
a grant of a feature that is valid; a consume takes one use of the grant a
check found and records it.  Whether a grant is valid depends on its billing
mode; the status that is written after a use does not.
-/

namespace Mousstec

namespace Billing

open Library

inductive GrantStatus
  | active
  | expired
  | exhausted
  | revoked
  deriving DecidableEq, Repr

inductive BillingMode
  | time
  | usage
  | hybrid
  | unlimited
  deriving DecidableEq, Repr

namespace BillingMode

def timed (mode : BillingMode) : Bool :=
  mode = time ∨ mode = hybrid

def metered (mode : BillingMode) : Bool :=
  mode = usage ∨ mode = hybrid

end BillingMode

/-- `Feature`. -/
structure Feature where
  code : String
  isActive : Bool := true
  deriving DecidableEq

/-- `SubscriptionPackage`, with the keys of its features. -/
structure SubscriptionPackage where
  code : String
  isActive : Bool := true
  features : List ℕ
  deriving DecidableEq

inductive GrantKind
  | package
  | feature
  deriving DecidableEq, Repr

/-- A row of either table: `TenantPackageGrant` or `TenantFeatureGrant`.  The
product is the package or the feature. -/
structure TenantGrant where
  product : ℕ
  tenantSchema : String
  status : GrantStatus := .active
  billingMode : BillingMode
  validUntil : Option ℤ
  usageQuota : ℕ
  usageUsed : ℕ := 0
  grantedAt : ℤ
  deriving DecidableEq

namespace TenantGrant

variable (now : ℤ) (grant : TenantGrant)

/-- `usage_remaining`. -/
def usageRemaining : Option ℕ :=
  if grant.usageQuota = 0 then none
  else some (grant.usageQuota - grant.usageUsed)

/-- `is_time_expired`. -/
def isTimeExpired : Bool :=
  grant.validUntil.any (· < now)

/-- `is_usage_exhausted`. -/
def isUsageExhausted : Bool :=
  0 < grant.usageQuota ∧ grant.usageQuota ≤ grant.usageUsed

/-- `is_currently_valid`. -/
def isCurrentlyValid : Bool :=
  if grant.status ≠ .active then false
  else if grant.billingMode.timed ∧ grant.isTimeExpired now then false
  else if grant.billingMode.metered ∧ grant.isUsageExhausted then false
  else true

def withUse : TenantGrant :=
  { grant with usageUsed := grant.usageUsed + 1 }

def afterUse : TenantGrant :=
  { grant.withUse with
    status :=
      if grant.withUse.isUsageExhausted then .exhausted
      else if grant.isTimeExpired now then .expired
      else grant.status }

end TenantGrant

/-- `FeatureUsageEvent`. -/
structure FeatureUsageEvent where
  tenantSchema : String
  feature : ℕ
  grantKind : GrantKind
  packageGrant : Option ℕ
  featureGrant : Option ℕ
  vin : String
  operationRef : String
  deriving DecidableEq

namespace FeatureUsageEvent

def grantOf (event : FeatureUsageEvent) : GrantKind → Option ℕ
  | .package => event.packageGrant
  | .feature => event.featureGrant

def isAbout (tenantSchema : String) (feature : ℕ) (operationRef : String)
    (event : FeatureUsageEvent) : Bool :=
  event.tenantSchema = tenantSchema ∧ event.feature = feature ∧
    event.operationRef = operationRef

end FeatureUsageEvent

structure Ledger where
  now : ℤ
  features : Table Feature
  packages : Table SubscriptionPackage
  packageGrants : Table TenantGrant := .empty
  featureGrants : Table TenantGrant := .empty
  events : List FeatureUsageEvent := []

namespace Ledger

def grants (ledger : Ledger) : GrantKind → Table TenantGrant
  | .package => ledger.packageGrants
  | .feature => ledger.featureGrants

def withGrants (ledger : Ledger) (kind : GrantKind)
    (table : Table TenantGrant) : Ledger :=
  match kind with
  | .package => { ledger with packageGrants := table }
  | .feature => { ledger with featureGrants := table }

def uses (ledger : Ledger) (kind : GrantKind) (pk : ℕ) : ℕ :=
  ledger.events.countP fun event => event.grantOf kind = some pk

def recorded (ledger : Ledger) (tenantSchema : String) (feature : ℕ)
    (operationRef : String) : ℕ :=
  ledger.events.countP (·.isAbout tenantSchema feature operationRef)

variable (ledger : Ledger) (kind : GrantKind) (table : Table TenantGrant)

@[simp] theorem grants_withGrants_self :
    (ledger.withGrants kind table).grants kind = table := by
  cases kind <;> rfl

@[simp] theorem grants_withGrants_of_ne {other : GrantKind}
    (different : other ≠ kind) :
    (ledger.withGrants kind table).grants other = ledger.grants other := by
  cases kind <;> cases other <;> first | rfl | exact absurd rfl different

@[simp] theorem now_withGrants :
    (ledger.withGrants kind table).now = ledger.now := by
  cases kind <;> rfl

@[simp] theorem events_withGrants :
    (ledger.withGrants kind table).events = ledger.events := by
  cases kind <;> rfl

@[simp] theorem features_withGrants :
    (ledger.withGrants kind table).features = ledger.features := by
  cases kind <;> rfl

def featureOf (code : String) : Option (ℕ × Feature) :=
  ledger.features.rows.find? fun row => row.2.code = code

def newestFirst (rows : List (ℕ × TenantGrant)) : List (ℕ × TenantGrant) :=
  rows.mergeSort fun first second => decide (second.2.grantedAt ≤ first.2.grantedAt)

def offers (package feature : ℕ) : Bool :=
  (ledger.packages.get? package).any fun found =>
    found.isActive ∧ feature ∈ found.features

def packageGrantsOf (tenantSchema : String) (feature : ℕ) :
    List (ℕ × TenantGrant) :=
  newestFirst (ledger.packageGrants.rows.filter fun row =>
    row.2.tenantSchema = tenantSchema ∧ row.2.status ≠ .revoked ∧
      ledger.offers row.2.product feature)

def featureGrantsOf (tenantSchema : String) (feature : ℕ) :
    List (ℕ × TenantGrant) :=
  newestFirst (ledger.featureGrants.rows.filter fun row =>
    row.2.tenantSchema = tenantSchema ∧ row.2.status ≠ .revoked ∧
      row.2.product = feature)

end Ledger

/-- `OperationType`. -/
inductive OperationType
  | isn
  | coding
  deriving DecidableEq, Repr

/-- `EntitlementVerdict`. -/
structure EntitlementVerdict where
  entitled : Bool
  operationType : OperationType
  mode : String
  subscriptionRef : String := ""
  reason : String := ""
  featureCode : String := ""
  grantKind : Option GrantKind := none
  grantPk : ℕ := 0
  usageRemaining : Option ℕ := none
  deriving DecidableEq

def packageVerdict (ledger : Ledger) (featureCode : String)
    (operationType : OperationType) (row : ℕ × TenantGrant) :
    EntitlementVerdict :=
  let code := ((ledger.packages.get? row.2.product).map
    SubscriptionPackage.code).getD ""
  { entitled := true
    operationType
    mode := "package"
    subscriptionRef := "pkg:" ++ code ++ "#" ++ toString row.1
    reason := "active package " ++ code
    featureCode
    grantKind := some .package
    grantPk := row.1
    usageRemaining := row.2.usageRemaining }

def featureVerdict (featureCode : String) (operationType : OperationType)
    (row : ℕ × TenantGrant) : EntitlementVerdict :=
  { entitled := true
    operationType
    mode := "feature_grant"
    subscriptionRef := "feat:" ++ featureCode ++ "#" ++ toString row.1
    reason := "active feature grant " ++ featureCode
    featureCode
    grantKind := some .feature
    grantPk := row.1
    usageRemaining := row.2.usageRemaining }

def deniedVerdict (featureCode : String) (operationType : OperationType) :
    EntitlementVerdict :=
  { entitled := false
    operationType
    mode := "denied"
    reason := "grant for " ++ featureCode ++ " is expired or exhausted"
    featureCode }

/-- `_check_granular_grant_sync`.  It reads only. -/
def checkGranularGrant (ledger : Ledger) (tenantSchema featureCode : String)
    (operationType : OperationType) : Option EntitlementVerdict :=
  match ledger.featureOf featureCode with
  | none => none
  | some (feature, row) =>
      if row.isActive = false then none
      else
        let packages := ledger.packageGrantsOf tenantSchema feature
        let features := ledger.featureGrantsOf tenantSchema feature
        match packages.find? (·.2.isCurrentlyValid ledger.now),
            features.find? (·.2.isCurrentlyValid ledger.now) with
        | some found, _ =>
            some (packageVerdict ledger featureCode operationType found)
        | none, some found =>
            some (featureVerdict featureCode operationType found)
        | none, none =>
            if packages = [] ∧ features = [] then none
            else some (deniedVerdict featureCode operationType)

inductive UsageError
  | integrity
  | data
  deriving DecidableEq

abbrev LedgerTxn := Txn UsageError Ledger

/-- The arguments of a consume.  A consume that raced did not see the event of
another one on its probe. -/
structure ConsumeCall where
  verdict : EntitlementVerdict
  tenantSchema : String
  vin : String := ""
  operationRef : String := ""
  raced : Bool := false

def eventOf (call : ConsumeCall) (kind : GrantKind) (feature : ℕ) :
    FeatureUsageEvent :=
  { tenantSchema := call.tenantSchema
    feature
    grantKind := kind
    packageGrant := if kind = .package then some call.verdict.grantPk else none
    featureGrant := if kind = .feature then some call.verdict.grantPk else none
    vin := call.vin
    operationRef := call.operationRef }

def ConsumeCall.isRecorded (call : ConsumeCall) (feature : ℕ)
    (ledger : Ledger) : Bool :=
  call.operationRef ≠ "" ∧
    0 < ledger.recorded call.tenantSchema feature call.operationRef

def maxPositiveInteger : ℕ := 2147483647

/-- `FeatureUsageEvent.objects.create`: the fields have their lengths, and no
operation is recorded twice. -/
def createEvent (call : ConsumeCall) (kind : GrantKind) (feature : ℕ) :
    LedgerTxn PUnit := do
  let ledger ← get
  Txn.require (call.vin.length ≤ 17 ∧ call.operationRef.length ≤ 64) .data
  Txn.require (call.isRecorded feature ledger = false) .integrity
  modify fun ledger =>
    { ledger with events := ledger.events ++ [eventOf call kind feature] }

def useGrant (call : ConsumeCall) (kind : GrantKind) (feature : ℕ)
    (grant : TenantGrant) : LedgerTxn Bool := do
  Txn.require (grant.withUse.usageUsed ≤ maxPositiveInteger) .data
  modify fun ledger => ledger.withGrants kind
    ((ledger.grants kind).modify call.verdict.grantPk fun grant =>
      grant.afterUse ledger.now)
  createEvent call kind feature
  pure true

def consumeLocked (call : ConsumeCall) (kind : GrantKind) (feature : ℕ) :
    LedgerTxn Bool := do
  let ledger ← get
  match (ledger.grants kind).get? call.verdict.grantPk with
  | none => pure false
  | some grant =>
      if call.raced = false ∧ call.isRecorded feature ledger then pure true
      else if grant.isCurrentlyValid ledger.now then
        useGrant call kind feature grant
      else pure false

def consumeCaught (call : ConsumeCall) (kind : GrantKind) (feature : ℕ) :
    LedgerTxn Bool := do
  let outcome : Except UsageError Bool ←
    Txn.attempt (Txn.atomic (consumeLocked call kind feature))
  match outcome with
  | .ok taken => pure taken
  | .error .integrity => pure true
  | .error .data => throw .data

def drawnOn (verdict : EntitlementVerdict) : Option GrantKind :=
  if verdict.entitled then verdict.grantKind else none

/-- `consume_feature_usage_sync`. -/
def consumeFeatureUsage (call : ConsumeCall) : LedgerTxn Bool := do
  let ledger ← get
  match drawnOn call.verdict with
  | none => pure true
  | some kind =>
      match ledger.featureOf call.verdict.featureCode with
      | none => pure false
      | some (feature, _) => consumeCaught call kind feature

/-- A new grant, as the owner of the platform or the storefront issues it. -/
structure GrantRequest where
  kind : GrantKind
  product : ℕ
  tenantSchema : String
  billingMode : BillingMode
  validUntil : Option ℤ
  usageQuota : ℕ

def Ledger.sells (ledger : Ledger) : GrantKind → ℕ → Bool
  | .package, pk => (ledger.packages.get? pk).any SubscriptionPackage.isActive
  | .feature, pk => (ledger.features.get? pk).any Feature.isActive

def GrantRequest.row (request : GrantRequest) (now : ℤ) : TenantGrant :=
  { product := request.product
    tenantSchema := request.tenantSchema
    billingMode := request.billingMode
    validUntil := request.validUntil
    usageQuota := request.usageQuota
    grantedAt := now }

/-- The POST of `grants_collection`. -/
def issueGrant (request : GrantRequest) : LedgerTxn PUnit := do
  let ledger ← get
  Txn.require (ledger.sells request.kind request.product) .data
  modify fun ledger => ledger.withGrants request.kind
    ((ledger.grants request.kind).insert (request.row ledger.now))

/-- `revoke_grant`. -/
def revokeGrant (kind : GrantKind) (pk : ℕ) : LedgerTxn PUnit :=
  modify fun ledger => ledger.withGrants kind
    ((ledger.grants kind).modify pk fun grant =>
      { grant with status := .revoked })

/-- What happens to the ledger: calls of the two functions, and around them new
grants, revocations and time. -/
inductive GrantOp
  | check (tenantSchema featureCode : String) (operationType : OperationType)
  | consume (call : ConsumeCall)
  | issue (request : GrantRequest)
  | revoke (kind : GrantKind) (pk : ℕ)
  | pass (later : ℕ)

def GrantOp.run : GrantOp → LedgerTxn PUnit
  | check _ _ _ => pure ⟨⟩
  | consume call => do
      let _ ← consumeFeatureUsage call
      pure ⟨⟩
  | issue request => issueGrant request
  | revoke kind pk => revokeGrant kind pk
  | pass later => modify fun ledger => { ledger with now := ledger.now + later }

end Billing

end Mousstec
