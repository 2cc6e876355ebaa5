import Mousstec.Library.Calendar
import Mousstec.Library.Runs
import Mousstec.Library.Table

/-!
# Diagnostics allowance

A subscription has a monthly allowance of scans and of bot turns, and a pool of
top-up uses that both draw on afterwards.  The counters roll over when the first
request of a month comes; a free trial has one allowance of scans that does not
roll over.  A consume works under the lock of the row, a check reads the row and
writes the rollover later.
-/

namespace Mousstec

namespace Clients

open Library

inductive QuotaKind
  | scan
  | bot
  deriving DecidableEq, Repr

/-- `Plan`, as far as the allowance goes. -/
structure DiagnosticsPlan where
  monthlyDiagnosticsScansQuota : ℤ
  monthlyDiagnosticsBotQuota : ℤ
  deriving DecidableEq

inductive AccountStatus
  | trial
  | active
  | suspended
  | cancelled
  deriving DecidableEq, Repr

/-- `Client`, as far as the trial goes. -/
structure TrialAccount where
  status : AccountStatus
  trialEndsAt : Option Date
  deriving DecidableEq

/-- `TenantSubscription`, as far as the allowance goes. -/
structure QuotaSubscription where
  plan : Option DiagnosticsPlan
  isActive : Bool
  diagScansUsedThisPeriod : ℤ := 0
  diagBotUsedThisPeriod : ℤ := 0
  diagTopupBalance : ℤ := 0
  diagPeriodStart : Option Date := none
  deriving DecidableEq

/-- `QuotaResult`. -/
structure QuotaResult where
  allowed : Bool
  reason : String
  planRemaining : ℤ
  topupRemaining : ℤ
  planLimit : ℤ
  usedThisPeriod : ℤ
  deriving DecidableEq

/-- `_period_start_for`. -/
def periodStartFor (date : Date) : Date :=
  { date with
    day := 1
    day_valid := ⟨le_refl 1, monthLength_pos date.year date.month⟩ }

/-- `TRIAL_DIAGNOSTICS_SCANS`. -/
def trialDiagnosticsScans : ℤ := 5

/-- `in_free_trial`. -/
def TrialAccount.inFreeTrial (account : TrialAccount) (today : Date) : Bool :=
  account.status = .trial ∧ account.trialEndsAt.all (today ≤ ·)

namespace QuotaSubscription

variable (account : TrialAccount) (today : Date) (row : QuotaSubscription)
  (kind : QuotaKind)

def onTrial : Bool :=
  !row.isActive && account.inFreeTrial today

def rolledOver : QuotaSubscription :=
  { row with
    diagPeriodStart := some (periodStartFor today)
    diagScansUsedThisPeriod := 0
    diagBotUsedThisPeriod := 0 }

/-- `_ensure_period_current` resets the counters. -/
def crossesMonth : Bool :=
  !row.onTrial account today &&
    decide (row.diagPeriodStart ≠ some (periodStartFor today))

/-- The row after `_ensure_period_current`. -/
def ensurePeriodCurrent : QuotaSubscription :=
  if row.crossesMonth account today then row.rolledOver today else row

def orElse (number other : ℤ) : ℤ :=
  if number = 0 then other else number

/-- `_plan_limit`. -/
def planLimit : ℤ :=
  match row.plan, kind with
  | none, _ => 0
  | some plan, .scan =>
      if row.onTrial account today then
        min trialDiagnosticsScans
          (orElse plan.monthlyDiagnosticsScansQuota trialDiagnosticsScans)
      else plan.monthlyDiagnosticsScansQuota
  | some plan, .bot => plan.monthlyDiagnosticsBotQuota

/-- `_used`. -/
def used : ℤ :=
  match kind with
  | .scan => row.diagScansUsedThisPeriod
  | .bot => row.diagBotUsedThisPeriod

/-- `_build_result`. -/
def buildResult (allowed : Bool) (reason : String) : QuotaResult :=
  { allowed
    reason
    planRemaining := max 0 (row.planLimit account today kind - row.used kind)
    topupRemaining := row.diagTopupBalance
    planLimit := row.planLimit account today kind
    usedThisPeriod := row.used kind }

def charged : QuotaSubscription :=
  match kind with
  | .scan => { row with diagScansUsedThisPeriod := row.diagScansUsedThisPeriod + 1 }
  | .bot => { row with diagBotUsedThisPeriod := row.diagBotUsedThisPeriod + 1 }

def drawn : QuotaSubscription :=
  { row with diagTopupBalance := row.diagTopupBalance - 1 }

end QuotaSubscription

/-- A check that has read the row and the account. -/
structure OpenCheck where
  kind : QuotaKind
  account : TrialAccount
  row : QuotaSubscription
  deriving DecidableEq

inductive ChargedTo
  | plan
  | topup
  deriving DecidableEq, Repr

/-- A consume that was allowed, kept as history. -/
structure QuotaUse where
  kind : QuotaKind
  chargedTo : ChargedTo
  month : ℕ
  onTrial : Bool
  deriving DecidableEq

/-- The tenant with its subscription, the checks that are under way, and the
history of uses and of top-ups. -/
structure QuotaDesk where
  today : Date
  symbol : String
  account : TrialAccount
  row : QuotaSubscription
  checks : Table OpenCheck := .empty
  uses : List QuotaUse := []
  added : ℤ := 0

inductive QuotaError
  | data
  deriving DecidableEq

abbrev QuotaTxn := Txn QuotaError QuotaDesk

def exhaustedReason (kind : QuotaKind) (limit : ℤ) (symbol : String) : String :=
  "انتهت حصة " ++ (match kind with
    | .scan => "الفحوصات"
    | .bot => "البوت") ++ " الشهرية (" ++ toString limit ++
    "/شهر). اشحن باقة 30 استخدام بـ 150 " ++ symbol ++ " للاستمرار."

/-- The answer of `check_quota` on the row as it has brought it up to date. -/
def OpenCheck.answer (check : OpenCheck) (today : Date) (symbol : String) :
    QuotaResult :=
  let row := check.row.ensurePeriodCurrent check.account today
  if row.used check.kind < row.planLimit check.account today check.kind then
    row.buildResult check.account today check.kind true "الحصة الشهرية متاحة"
  else if 0 < row.diagTopupBalance then
    row.buildResult check.account today check.kind true "استخدام من رصيد الشحن"
  else
    row.buildResult check.account today check.kind false
      (exhaustedReason check.kind
        (row.planLimit check.account today check.kind) symbol)

def OpenCheck.saved (check : OpenCheck) (today : Date)
    (row : QuotaSubscription) : QuotaSubscription :=
  if check.row.crossesMonth check.account today then
    let written := check.row.ensurePeriodCurrent check.account today
    { row with
      diagPeriodStart := written.diagPeriodStart
      diagScansUsedThisPeriod := written.diagScansUsedThisPeriod
      diagBotUsedThisPeriod := written.diagBotUsedThisPeriod }
  else row

/-- The first part of `check_quota`: it reads. -/
def beginCheck (kind : QuotaKind) : QuotaTxn PUnit :=
  modify fun desk =>
    { desk with
      checks := desk.checks.insert
        { kind, account := desk.account, row := desk.row } }

/-- The second part of `check_quota`: it saves a rollover and answers. -/
def endCheck (key : ℕ) : QuotaTxn (Option QuotaResult) := do
  let desk ← get
  match desk.checks.get? key with
  | none => pure none
  | some check => do
      modify fun desk =>
        { desk with
          row := check.saved desk.today desk.row
          checks := desk.checks.erase key }
      pure (some (check.answer desk.today desk.symbol))

def QuotaDesk.use (desk : QuotaDesk) (kind : QuotaKind)
    (chargedTo : ChargedTo) : QuotaUse :=
  { kind
    chargedTo
    month := desk.today.index
    onTrial := desk.row.onTrial desk.account desk.today }

/-- `consume_quota`. -/
def consumeQuota (kind : QuotaKind) : QuotaTxn QuotaResult := do
  let desk ← get
  let row := desk.row.ensurePeriodCurrent desk.account desk.today
  if row.used kind < row.planLimit desk.account desk.today kind then do
    set
      { desk with
        row := row.charged kind
        uses := desk.uses ++ [desk.use kind .plan] }
    pure ((row.charged kind).buildResult desk.account desk.today kind true
      "تم خصم 1 من الحصة الشهرية")
  else if 0 < row.diagTopupBalance then do
    -- only the balance is saved, not a rollover of the counters
    set
      { desk with
        row := desk.row.drawn
        uses := desk.uses ++ [desk.use kind .topup] }
    pure (row.drawn.buildResult desk.account desk.today kind true
      "تم خصم 1 من رصيد الشحن")
  else
    pure (row.buildResult desk.account desk.today kind false
      "الحصة منتهية ولا يوجد رصيد شحن")

def maxInteger : ℤ := 2147483647

/-- `add_topup`. -/
def addTopup (uses : ℤ) : QuotaTxn ℤ := do
  let desk ← get
  let balance := desk.row.diagTopupBalance + max 0 uses
  Txn.require (balance ≤ maxInteger) .data
  set
    { desk with
      row := { desk.row with diagTopupBalance := balance }
      added := desk.added + max 0 uses }
  pure balance

/-- What happens at the desk: the requests, and around them days that pass and
an account that leaves its trial or changes after it. -/
inductive QuotaOp
  | beginCheck (kind : QuotaKind)
  | endCheck (key : ℕ)
  | consume (kind : QuotaKind)
  | topup (uses : ℤ)
  | day (today : Date)
  | account (status : AccountStatus) (isActive : Bool)

/-- Carries out an operation.  Days do not go back, and an account does not go
back to its trial. -/
def QuotaOp.run : QuotaOp → QuotaTxn PUnit
  | beginCheck kind => Clients.beginCheck kind
  | endCheck key => do
      let _ ← Clients.endCheck key
      pure ⟨⟩
  | consume kind => do
      let _ ← consumeQuota kind
      pure ⟨⟩
  | topup uses => do
      let _ ← addTopup uses
      pure ⟨⟩
  | day today =>
      modify fun desk =>
        if desk.today ≤ today then { desk with today } else desk
  | account status isActive =>
      modify fun desk =>
        if status = .trial then desk
        else
          { desk with
            account := { desk.account with status }
            row := { desk.row with isActive } }

end Clients

end Mousstec
