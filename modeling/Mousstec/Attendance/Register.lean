import Mousstec.Library.Runs
import Mousstec.Library.Table
import Mousstec.Payroll.Office

/-!
# The attendance register

A day without a clock-in is absent, excused or a holiday.  Four places write it:
the batch at the end of the day, the approval of a leave, and a public holiday
that is added, moved or deleted.  Days are ordinals.
-/

namespace Mousstec.Attendance

open Library
open Payroll (AttendanceStatus LeaveType LeaveStatus)

structure Employee where
  isActive : Bool := true
  isHrManager : Bool := false
  isSuperuser : Bool := false
  supervisor : Option ℕ := none
  deriving DecidableEq

structure WorkShift where
  isActive : Bool := true
  daysOfWeek : List String
  deriving DecidableEq

structure EmployeeShiftAssignment where
  employee : ℕ
  shift : ℕ
  effectiveFrom : ℤ
  effectiveTo : Option ℤ := none
  deriving DecidableEq

structure AttendanceRecord where
  employee : ℕ
  date : ℤ
  status : AttendanceStatus := .absent
  clockIn : Option ℤ := none
  notes : String := ""
  deriving DecidableEq

structure LeaveRequest where
  employee : ℕ
  leaveType : LeaveType
  fromDate : ℤ
  toDate : ℤ
  status : LeaveStatus := .pending
  reviewedBy : Option ℕ := none
  reviewedAt : Option ℤ := none
  reviewNotes : String := ""
  deriving DecidableEq

structure PublicHoliday where
  name : String
  fromDate : ℤ
  toDate : ℤ
  deriving DecidableEq

/-- The user who approves, beside the employee that may stand for him. -/
structure User where
  isSuperuser : Bool := false
  isAdminLike : Bool := false
  deriving DecidableEq

structure Register where
  employees : Table Employee
  shifts : Table WorkShift
  assignments : Table EmployeeShiftAssignment
  records : Table AttendanceRecord
  leaves : Table LeaveRequest
  holidays : Table PublicHoliday
  deriving DecidableEq

def dayCode (day : ℤ) : String :=
  (["mon", "tue", "wed", "thu", "fri", "sat", "sun"][((day + 6) % 7).toNat]?).getD ""

def daysFrom (first last : ℤ) : List ℤ :=
  (List.range (last - first + 1).toNat).map fun offset : ℕ => first + offset

namespace Register

/-- `is_holiday`. -/
def isHoliday (register : Register) (day : ℤ) : Bool :=
  register.holidays.rows.any fun row =>
    row.2.fromDate ≤ day ∧ day ≤ row.2.toDate

def onLeave (register : Register) (employee : ℕ) (day : ℤ) : Bool :=
  register.leaves.rows.any fun row =>
    row.2.status = .approved ∧ row.2.employee = employee ∧
      row.2.fromDate ≤ day ∧ day ≤ row.2.toDate

def hasShift (register : Register) (employee : ℕ) (day : ℤ) : Bool :=
  register.assignments.rows.any fun row =>
    (row.2.effectiveTo.all fun last => day ≤ last) ∧ row.2.employee = employee ∧
      row.2.effectiveFrom ≤ day ∧
      (register.shifts.get? row.2.shift).any fun shift =>
        shift.isActive ∧ shift.daysOfWeek.contains (dayCode day)

def recordOf (register : Register) (employee : ℕ) (day : ℤ) :
    Option (ℕ × AttendanceRecord) :=
  register.records.rows.find? fun row =>
    row.2.employee = employee ∧ row.2.date = day

def lawfulStatus (register : Register) (employee : ℕ) (day : ℤ) :
    AttendanceStatus :=
  if register.isHoliday day = true then .holiday
  else if register.onLeave employee day = true then .excused
  else .absent

end Register

def Register.isMissing (register : Register) (day : ℤ)
    (row : ℕ × Employee) : Bool :=
  row.2.isActive ∧ register.recordOf row.1 day = none ∧
    register.hasShift row.1 day = true

def Register.markMissing (day : ℤ) (register : Register)
    (row : ℕ × Employee) : Register :=
  if register.isMissing day row = true then
    { register with
      records := register.records.insert
        { employee := row.1
          date := day
          status := register.lawfulStatus row.1 day } }
  else register

/-- `mark_absent_employees`. -/
def Register.markAbsentEmployees (register : Register) (day : ℤ) : Register :=
  register.employees.rows.foldl (markMissing day) register

def Register.absentCount (register : Register) (day : ℤ) : ℕ :=
  register.employees.rows.countP fun row =>
    register.isMissing day row ∧ register.lawfulStatus row.1 day = .absent

/-- `get_leave_type_display`. -/
def leaveTypeDisplay : LeaveType → String
  | .annual => "سنوية"
  | .sick => "مرضية"
  | .personal => "شخصية"
  | .unpaid => "بدون راتب"
  | .emergency => "طارئة"

/-- `get_status_display`. -/
def leaveStatusDisplay : LeaveStatus → String
  | .pending => "قيد المراجعة"
  | .approved => "موافق عليه"
  | .rejected => "مرفوض"
  | .cancelled => "ملغي"

inductive LeaveError where
  | doesNotExist (model : String)
  | notPending (status : LeaveStatus)
  | mayNotReview
  deriving DecidableEq

def LeaveError.text : LeaveError → String
  | .doesNotExist model => model ++ " matching query does not exist."
  | .notPending status =>
      s!"الطلب حالته «{leaveStatusDisplay status}» — مينفعش يتوافق عليه."
  | .mayNotReview =>
      "الموافقة على الإجازات لمدير الموارد البشرية أو المدير المباشر أو الأدمن بس."

abbrev LeaveTxn (α : Type) := Txn LeaveError Register α

/-- `is_company_admin`. -/
def isCompanyAdmin : Option User → Bool
  | none => false
  | some user => user.isSuperuser || user.isAdminLike

/-- `_can_review`. -/
def Register.canReview (register : Register) (reviewer : Option ℕ)
    (byUser : Option User) (leave : LeaveRequest) : Bool :=
  isCompanyAdmin byUser ||
    reviewer.any fun pk =>
      (register.employees.get? pk).any fun employee =>
        employee.isHrManager || employee.isSuperuser ||
          (register.employees.get? leave.employee).any fun staff =>
            staff.supervisor = some pk

def Register.leaveDayStatus (register : Register) (day : ℤ) : AttendanceStatus :=
  if register.isHoliday day = true then .holiday else .excused

def LeaveRequest.dayNotes (leave : LeaveRequest) : String :=
  s!"إجازة: {leaveTypeDisplay leave.leaveType}"

/-- A day of an approved leave, as `mark_leave_days_excused` writes it. -/
def Register.markLeaveDay (leave : LeaveRequest) (register : Register)
    (day : ℤ) : Register :=
  match register.recordOf leave.employee day with
  | none =>
      { register with
        records := register.records.insert
          { employee := leave.employee
            date := day
            status := register.leaveDayStatus day
            notes := leave.dayNotes } }
  | some row =>
      if row.2.clockIn = none then
        { register with
          records := register.records.modify row.1 fun stored =>
            { stored with
              status := register.leaveDayStatus day
              notes := leave.dayNotes } }
      else register

/-- `mark_leave_days_excused`. -/
def Register.markLeaveDaysExcused (register : Register)
    (leave : LeaveRequest) : Register :=
  (daysFrom leave.fromDate leave.toDate).foldl (markLeaveDay leave) register

def Register.excuseAbsent (register : Register) (leave : LeaveRequest) :
    Register :=
  { register with
    records := register.records.map fun _ record =>
      if record.employee = leave.employee ∧ record.status = .absent ∧
          leave.fromDate ≤ record.date ∧ record.date ≤ leave.toDate then
        { record with status := .excused }
      else record }

def LeaveRequest.approved (leave : LeaveRequest) (reviewer : Option ℕ)
    (notes : String) (now : ℤ) : LeaveRequest :=
  { leave with
    status := .approved
    reviewedBy := reviewer
    reviewedAt := some now
    reviewNotes :=
      if notes = "" then leave.reviewNotes
      else String.ofList (notes.toList.take 1000) }

def Register.saveLeave (register : Register) (pk : ℕ) (leave : LeaveRequest) :
    Register :=
  { register with leaves := register.leaves.modify pk fun _ => leave }

def Register.withApproval (register : Register) (pk : ℕ)
    (approved : LeaveRequest) : Register :=
  ((register.saveLeave pk approved).markLeaveDaysExcused approved).excuseAbsent
    approved

/-- `approve_leave`. -/
def approveLeave (pk : ℕ) (reviewer : Option ℕ) (byUser : Option User)
    (notes : String) (now : ℤ) : LeaveTxn LeaveRequest :=
  Txn.atomic do
    let register ← get
    let leave ← Txn.expect (register.leaves.get? pk) (.doesNotExist "LeaveRequest")
    Txn.require (leave.status = .pending) (.notPending leave.status)
    Txn.require (register.canReview reviewer byUser leave = true) .mayNotReview
    let approved := leave.approved reviewer notes now
    set (register.withApproval pk approved)
    pure approved

/-- `apply_holiday`. -/
def Register.applyHoliday (register : Register) (first last : ℤ) : Register :=
  { register with
    records := register.records.map fun _ record =>
      if first ≤ record.date ∧ record.date ≤ last ∧ record.clockIn = none ∧
          (record.status = .absent ∨ record.status = .excused) then
        { record with status := .holiday }
      else record }

def Register.restoreDay (register : Register) (day : ℤ) : Register :=
  if register.isHoliday day = true then register
  else
    { register with
      records := register.records.map fun _ record =>
        if record.date = day ∧ record.clockIn = none ∧ record.status = .holiday then
          { record with
            status := if register.onLeave record.employee day = true then .excused
              else .absent }
        else record }

/-- `unapply_holiday`. -/
def Register.unapplyHoliday (register : Register) (first last : ℤ) : Register :=
  (daysFrom first last).foldl restoreDay register

def Register.addHoliday (register : Register) (name : String) (first : ℤ)
    (last : Option ℤ) : Register :=
  { register with
    holidays := register.holidays.insert ⟨name, first, last.getD first⟩ }.applyHoliday
      first (last.getD first)

def Register.changeHoliday (register : Register) (pk : ℕ) (old : PublicHoliday)
    (name : String) (first : ℤ) (last : Option ℤ) : Register :=
  let saved : PublicHoliday := ⟨name, first, last.getD first⟩
  let stored := { register with
    holidays := register.holidays.modify pk fun _ => saved }
  (if (old.fromDate, old.toDate) = (saved.fromDate, saved.toDate) then stored
    else stored.unapplyHoliday old.fromDate old.toDate).applyHoliday
      saved.fromDate saved.toDate

def Register.deleteHoliday (register : Register) (pk : ℕ) (old : PublicHoliday) :
    Register :=
  { register with
    holidays := register.holidays.erase pk }.unapplyHoliday old.fromDate old.toDate

/-- The days of absence, `days_absent`. -/
def Register.daysAbsent (register : Register) (employee : ℕ) (first last : ℤ) :
    ℕ :=
  register.records.rows.countP fun row =>
    row.2.employee = employee ∧ row.2.status = .absent ∧
      first ≤ row.2.date ∧ row.2.date ≤ last

def Register.onUnpaidLeave (register : Register) (employee : ℕ) (day : ℤ) :
    Bool :=
  register.leaves.rows.any fun row =>
    row.2.status = .approved ∧ row.2.leaveType = .unpaid ∧
      row.2.employee = employee ∧ row.2.fromDate ≤ day ∧ day ≤ row.2.toDate

/-- `unpaid_leave_days`. -/
def Register.unpaidLeaveDays (register : Register) (employee : ℕ)
    (first last : ℤ) : ℕ :=
  ((register.records.rows.filter fun row =>
    row.2.employee = employee ∧ row.2.status = .excused ∧
      first ≤ row.2.date ∧ row.2.date ≤ last ∧
      register.onUnpaidLeave employee row.2.date = true).map
        fun row => row.2.date).dedup.length

inductive AttendanceOp where
  | markAbsent (day : ℤ)
  | approveLeave (pk : ℕ) (reviewer : Option ℕ) (byUser : Option User)
      (notes : String) (now : ℤ)
  | addHoliday (name : String) (first : ℤ) (last : Option ℤ)
  | changeHoliday (pk : ℕ) (name : String) (first : ℤ) (last : Option ℤ)
  | deleteHoliday (pk : ℕ)
  deriving DecidableEq

def AttendanceOp.run : AttendanceOp → LeaveTxn PUnit
  | .markAbsent day => modify fun register => register.markAbsentEmployees day
  | .approveLeave pk reviewer byUser notes now => do
      let _ ← Attendance.approveLeave pk reviewer byUser notes now
  | .addHoliday name first last =>
      modify fun register => register.addHoliday name first last
  | .changeHoliday pk name first last => do
      let register ← get
      let old ← Txn.expect (register.holidays.get? pk)
        (.doesNotExist "PublicHoliday")
      set (register.changeHoliday pk old name first last)
  | .deleteHoliday pk => do
      let register ← get
      let old ← Txn.expect (register.holidays.get? pk)
        (.doesNotExist "PublicHoliday")
      set (register.deleteHoliday pk old)

end Mousstec.Attendance
