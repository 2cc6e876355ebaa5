import Mousstec.Cash.PaymentFacts
import Mousstec.Library.Runs

/-!
# Commission payouts

A payout reads a treasury and the profiles of its employees, checks that the
treasury covers what they are owed, and then pays them in one transaction that
reads every profile again under its lock.  The treasury may have been emptied,
and commissions may have grown, between the two readings.
-/

namespace Mousstec.Cash

open Library

/-- `ROLE_CHOICES`. -/
inductive Role where
  | owner
  | admin
  | manager
  | supervisor
  | accountant
  | sales
  | purchasing
  | engineer
  | tech
  | cashier
  | stock
  | hr
  | viewer
  deriving DecidableEq

/-- `get_role_display`. -/
def Role.display : Role → String
  | .owner => "مالك المنشأة (Owner)"
  | .admin => "مدير عام (أدمن)"
  | .manager => "مدير فرع (Branch Manager)"
  | .supervisor => "مشرف (Supervisor)"
  | .accountant => "محاسب (Accountant)"
  | .sales => "مبيعات (Sales)"
  | .purchasing => "مشتريات (Procurement)"
  | .engineer => "مهندس تشخيص (Engineer)"
  | .tech => "فني / ميكانيكي (Technician)"
  | .cashier => "كاشير / استقبال (Cashier)"
  | .stock => "أمين مخزن (Warehouse)"
  | .hr => "موارد بشرية (HR)"
  | .viewer => "مراجع / عرض فقط (Auditor)"

structure PayUser where
  fullName : String := ""
  username : String
  deriving DecidableEq

structure EmployeeProfile where
  user : Option PayUser := none
  role : Role := .cashier
  commissionBalance : ℤ := 0
  deriving DecidableEq

def EmployeeProfile.displayName (pk : ℕ) (profile : EmployeeProfile) : String :=
  match profile.user with
  | none => "#" ++ toString pk
  | some user => if user.fullName = "" then user.username else user.fullName

/-- What a payout is asked for, with the objects it has read so far. -/
structure PayoutCall where
  treasury : Option (ℕ × Treasury)
  profiles : List (ℕ × EmployeeProfile) := []
  paidBy : Option String := none
  allowedRoles : Option (List Role) := none
  deriving DecidableEq

structure PaidCommission where
  employee : ℕ
  name : String
  role : Role
  amount : ℤ
  deriving DecidableEq

structure PayoutResult where
  paidCount : ℕ
  totalPaid : ℤ
  treasuryName : String
  breakdown : List PaidCommission
  deriving DecidableEq

/-- The cash desk with its employees; the payouts that are being prepared, the
results of those that are done, and the commissions that were booked. -/
structure PayDesk where
  cash : CashDesk
  profiles : Table EmployeeProfile
  calls : Table PayoutCall := .empty
  results : List PayoutResult := []
  booked : List (ℕ × ℤ) := []
  deriving DecidableEq

inductive PayoutError where
  | invalidTreasury
  | short (total balance : ℤ)
  | nothingOwed
  | doesNotExist (model : String)
  | tooLong (description : String)
  | cash (raised : CashError)
  | noCall
  | overdraft
  deriving DecidableEq

abbrev PayoutTxn (α : Type) := Txn PayoutError PayDesk α

def PayDesk.cashDesk : Component PayDesk CashDesk where
  get := cash
  set part whole := { whole with cash := part }
  get_set _ _ := rfl
  set_get _ := rfl

namespace PayoutCall

def roles (call : PayoutCall) : List Role :=
  call.allowedRoles.getD [.tech, .sales, .cashier, .manager, .admin]

def Owes (call : PayoutCall) (profile : EmployeeProfile) : Prop :=
  profile.role ∈ call.roles ∧ 0 < profile.commissionBalance

instance (call : PayoutCall) (profile : EmployeeProfile) :
    Decidable (call.Owes profile) :=
  inferInstanceAs (Decidable (_ ∧ _))

/-- `estimated_total`, of the profiles as they were read. -/
def estimatedTotal (call : PayoutCall) : ℤ :=
  ((call.profiles.filter fun read => call.Owes read.2).map
    (·.2.commissionBalance)).sum

def description (call : PayoutCall) (name : String) (role : Role) : String :=
  s!"{COMMISSION_PAYOUT_TAG} لـ «{name}» (دور: {role.display})" ++
    match call.paidBy with
    | none => ""
    | some username => s!" — معتمد من {username}"

def movement (call : PayoutCall) (treasury : ℕ) (now : ℤ)
    (paid : PaidCommission) : FinancialTransaction where
  treasury
  transactionType := .cashOut
  amount := paid.amount
  description := call.description paid.name paid.role
  date := now
  employee := some paid.employee

end PayoutCall

def EmployeeProfile.settle (profile : EmployeeProfile) : EmployeeProfile :=
  { profile with commissionBalance := 0 }

/-- Pays one employee, read again under the lock.  The database refuses a
description of more than 255 characters. -/
def payCommission (call : PayoutCall) (treasury : ℕ) (now : ℤ)
    (employee : ℕ) : PayoutTxn (List PaidCommission) := do
  let desk ← get
  let profile ← Txn.expect (desk.profiles.get? employee)
    (.doesNotExist "EmployeeProfile")
  if call.Owes profile then do
    let paid : PaidCommission :=
      { employee
        name := profile.displayName employee
        role := profile.role
        amount := profile.commissionBalance }
    let ft := call.movement treasury now paid
    Txn.require (ft.description.length ≤ 255) (.tooLong ft.description)
    let _ ← Txn.zoom PayDesk.cashDesk .cash (createPayment ft)
    modify fun desk =>
      { desk with profiles := desk.profiles.modify employee .settle }
    pure [paid]
  else pure []

def payProfiles (call : PayoutCall) (treasury : ℕ) (now : ℤ) :
    List ℕ → PayoutTxn (List PaidCommission)
  | [] => pure []
  | employee :: rest => do
      let paid ← payCommission call treasury now employee
      let later ← payProfiles call treasury now rest
      pure (paid ++ later)

def payLocked (call : PayoutCall) (treasury : ℕ) (now : ℤ) :
    PayoutTxn (List PaidCommission) := do
  let desk ← get
  let _ ← Txn.expect (desk.cash.treasuries.get? treasury)
    (.doesNotExist "Treasury")
  payProfiles call treasury now (call.profiles.map Prod.fst)

/-- `pay_commissions`.  Its check is on the objects as they were read. -/
def payCommissions (call : PayoutCall) (now : ℤ) : PayoutTxn PayoutResult := do
  let treasury ← Txn.expect call.treasury .invalidTreasury
  Txn.require (treasury.2.isActive = true) .invalidTreasury
  Txn.require (call.estimatedTotal ≤ treasury.2.balance)
    (.short call.estimatedTotal treasury.2.balance)
  let breakdown ← Txn.atomic (payLocked call treasury.1 now)
  Txn.require (breakdown ≠ []) .nothingOwed
  pure
    { paidCount := breakdown.length
      totalPaid := (breakdown.map PaidCommission.amount).sum
      treasuryName := treasury.2.name
      breakdown }

/-- A payout reads a treasury, then profiles one by one, and then pays.  In
between commissions are booked, roles change and other cash moves. -/
inductive PayoutOp where
  | start (treasury : Option ℕ) (paidBy : Option String)
      (allowedRoles : Option (List Role))
  | read (call employee : ℕ)
  | pay (call : ℕ) (now : ℤ)
  | book (employee : ℕ) (amount : ℤ)
  | assign (employee : ℕ) (role : Role)
  | move (ft : FinancialTransaction)

def startPayout (treasury : Option ℕ) (paidBy : Option String)
    (allowedRoles : Option (List Role)) : PayoutTxn PUnit :=
  modify fun desk =>
    let found := treasury.bind fun pk =>
      (desk.cash.treasuries.get? pk).map (pk, ·)
    { desk with
      calls := desk.calls.insert
        { treasury := found
          paidBy
          allowedRoles } }

def readProfile (call employee : ℕ) : PayoutTxn PUnit := do
  let desk ← get
  let profile ← Txn.expect (desk.profiles.get? employee)
    (.doesNotExist "EmployeeProfile")
  set
    { desk with
      calls := desk.calls.modify call fun stored =>
        { stored with profiles := stored.profiles ++ [(employee, profile)] } }

def pay (pk : ℕ) (now : ℤ) : PayoutTxn PUnit := do
  let desk ← get
  let call ← Txn.expect (desk.calls.get? pk) .noCall
  let result ← payCommissions call now
  modify fun desk =>
    { desk with
      calls := desk.calls.erase pk
      results := desk.results ++ [result] }

def bookCommission (employee : ℕ) (amount : ℤ) : PayoutTxn PUnit := do
  let desk ← get
  let _ ← Txn.expect (desk.profiles.get? employee)
    (.doesNotExist "EmployeeProfile")
  set
    { desk with
      profiles := desk.profiles.modify employee fun stored =>
        { stored with
          commissionBalance := stored.commissionBalance + amount }
      booked := desk.booked ++ [(employee, amount)] }

def assignRole (employee : ℕ) (role : Role) : PayoutTxn PUnit :=
  modify fun desk =>
    { desk with
      profiles := desk.profiles.modify employee fun stored =>
        { stored with role } }

def moveCash (ft : FinancialTransaction) : PayoutTxn PUnit := do
  let desk ← get
  let treasury ← Txn.expect (desk.cash.treasuries.get? ft.treasury)
    (.doesNotExist "Treasury")
  Txn.require (0 ≤ treasury.balance + ft.signed) .overdraft
  let _ ← Txn.zoom PayDesk.cashDesk .cash (createPayment ft)
  pure ⟨⟩

def PayoutOp.run : PayoutOp → PayoutTxn PUnit
  | start treasury paidBy allowedRoles =>
      Txn.atomic (startPayout treasury paidBy allowedRoles)
  | read call employee => Txn.atomic (readProfile call employee)
  | pay call now => Cash.pay call now
  | book employee amount => Txn.atomic (bookCommission employee amount)
  | assign employee role => Txn.atomic (assignRole employee role)
  | move ft => Txn.atomic (moveCash ft)

def PayoutCall.owedTo (call : PayoutCall) (employees : List ℕ)
    (profiles : Table EmployeeProfile) : ℤ :=
  profiles.total fun pk profile =>
    if pk ∈ employees ∧ call.Owes profile then profile.commissionBalance else 0

def PayoutCall.owed (call : PayoutCall) (desk : PayDesk) : ℤ :=
  call.owedTo (call.profiles.map Prod.fst) desk.profiles

/-- Every commission that a payout owes is paid once, as one movement of its
amount; the treasury falls by their sum and nobody else is touched. -/
structure PaysOnce (call : PayoutCall) (treasury : ℕ) (now : ℤ)
    (before : PayDesk) (result : PayoutResult) (after : PayDesk) : Prop where
  once : (result.breakdown.map PaidCommission.employee).Nodup
  paid : ∀ employee amount,
    (∃ paid ∈ result.breakdown,
      paid.employee = employee ∧ paid.amount = amount) ↔
      employee ∈ call.profiles.map Prod.fst ∧
        ∃ profile, before.profiles.get? employee = some profile ∧
          call.Owes profile ∧ amount = profile.commissionBalance
  count : result.paidCount = result.breakdown.length
  sum : result.totalPaid = (result.breakdown.map PaidCommission.amount).sum
  payments : after.cash.payments.rows.map Prod.snd =
    before.cash.payments.rows.map Prod.snd ++
      result.breakdown.map (call.movement treasury now)
  treasuries : after.cash.treasuries =
    before.cash.treasuries.modify treasury fun stored =>
      { stored with balance := stored.balance - result.totalPaid }
  profiles : ∀ employee, after.profiles.get? employee =
    (before.profiles.get? employee).map fun profile =>
      if employee ∈ result.breakdown.map PaidCommission.employee then
        profile.settle
      else profile

def Solvent (desk : PayDesk) : Prop :=
  ∀ pk treasury, desk.cash.treasuries.get? pk = some treasury →
    0 ≤ treasury.balance

instance (desk : PayDesk) : Decidable (Solvent desk) :=
  inferInstanceAs (Decidable (∀ _ treasury, _ = some treasury → _ ≤ _))

def PayDesk.opening (desk : PayDesk) (treasury : ℕ) : Option ℤ :=
  (desk.cash.treasuries.get? treasury).map fun stored =>
    stored.balance - desk.cash.payments.total fun _ ft =>
      if ft.treasury = treasury then ft.signed else 0

def PayDesk.paidTo (desk : PayDesk) (employee : ℕ) : ℤ :=
  (desk.results.map fun result =>
    (result.breakdown.map fun paid =>
      if paid.employee = employee then paid.amount else 0).sum).sum

def PayDesk.owedAtFirst (desk : PayDesk) (employee : ℕ) : Option ℤ :=
  (desk.profiles.get? employee).map fun profile =>
    profile.commissionBalance + desk.paidTo employee -
      (desk.booked.map fun row => if row.1 = employee then row.2 else 0).sum

/-- What holds in every state: no treasury is overdrawn, every treasury moves
with its movements, and every booked commission is outstanding or was paid. -/
structure Settled (base desk : PayDesk) : Prop where
  solvent : Solvent desk
  treasuries : ∀ treasury, desk.opening treasury = base.opening treasury
  commissions : ∀ employee, desk.owedAtFirst employee = base.owedAtFirst employee

/-- The treasury of a payout covers what it owes when it is carried out. -/
def Covered : PayoutOp → PayDesk → Prop
  | .pay pk _, desk =>
      ∀ call treasury stored, desk.calls.get? pk = some call →
        call.treasury.map Prod.fst = some treasury →
          desk.cash.treasuries.get? treasury = some stored →
            call.owed desk ≤ stored.balance
  | _, _ => True

theorem covered_pay {pk : ℕ} {now : ℤ} {desk : PayDesk} :
    Covered (.pay pk now) desk ↔
      (desk.calls.get? pk).all fun call =>
        (call.treasury.map Prod.fst).all fun treasury =>
          (desk.cash.treasuries.get? treasury).all fun stored =>
            decide (call.owed desk ≤ stored.balance) := by
  simp only [Covered, Option.all_eq_true, decide_eq_true_eq]
  exact ⟨fun all call found treasury known stored => all call treasury stored
    found known, fun all call treasury stored found known => all call found
      treasury known stored⟩

instance (op : PayoutOp) (desk : PayDesk) : Decidable (Covered op desk) :=
  match op with
  | .pay _ _ => decidable_of_iff _ covered_pay.symm
  | .start _ _ _ => isTrue trivial
  | .read _ _ => isTrue trivial
  | .book _ _ => isTrue trivial
  | .assign _ _ => isTrue trivial
  | .move _ => isTrue trivial

end Mousstec.Cash
