import Mousstec.Library.Calendar
import Mousstec.Library.Rounding
import Mousstec.Library.Table
import Mousstec.Library.Transaction

/-!
# The tables of the payroll office

Employees with their attendance, the advances they took and the installments
these are paid back in, and the monthly runs with one payslip for each
employee.  Amounts and percentages are whole hundredths, and a month is its
index.
-/

namespace Mousstec.Payroll

open Library

structure HRSettings where
  lateDeductionPerMinute : ℤ := 0
  lateDeductionPercentage : ℤ := 0
  /-- In tenths of a day. -/
  absenceDeductionDays : ℤ := 10
  workingDaysPerMonth : ℕ := 26
  deriving DecidableEq

structure Employee where
  baseSalary : ℤ
  dailyRate : ℤ := 0
  isActive : Bool := true
  deriving DecidableEq

inductive AttendanceStatus where
  | present
  | late
  | absent
  | excused
  | holiday
  deriving DecidableEq

structure AttendanceRecord where
  employee : ℕ
  date : Date
  status : AttendanceStatus := .absent
  lateMinutes : ℕ := 0
  workedHours : ℤ := 0
  overtimeHours : ℤ := 0
  deriving DecidableEq

inductive LeaveType where
  | annual
  | sick
  | personal
  | unpaid
  | emergency
  deriving DecidableEq

inductive LeaveStatus where
  | pending
  | approved
  | rejected
  | cancelled
  deriving DecidableEq

structure LeaveRequest where
  employee : ℕ
  leaveType : LeaveType
  fromDate : Date
  toDate : Date
  status : LeaveStatus := .pending
  deriving DecidableEq

inductive AdvanceStatus where
  | pending
  | approved
  | rejected
  | active
  | completed
  | cancelled
  deriving DecidableEq

structure Advance where
  employee : ℕ
  amount : ℤ
  installmentsCount : ℕ := 1
  status : AdvanceStatus := .pending
  approvedBy : Option ℕ := none
  remainingAmount : ℤ := 0
  deriving DecidableEq

inductive InstallmentStatus where
  | scheduled
  | deducted
  | skipped
  deriving DecidableEq

structure AdvanceInstallment where
  advance : ℕ
  installmentNumber : ℕ
  amount : ℤ
  /-- The index of the month whose first day is the due date. -/
  dueMonth : ℕ
  status : InstallmentStatus := .scheduled
  deductedInPayroll : Option ℕ := none
  deriving DecidableEq

inductive PayrollStatus where
  | draft
  | calculated
  | approved
  | paid
  deriving DecidableEq

structure PayrollRun where
  periodMonth : ℕ
  periodYear : ℕ
  status : PayrollStatus := .draft
  totalGross : ℤ := 0
  totalDeductions : ℤ := 0
  totalNet : ℤ := 0
  totalEmployees : ℕ := 0
  approvedBy : Option ℕ := none
  deriving DecidableEq

structure PayrollEntry where
  payrollRun : ℕ
  employee : ℕ
  baseSalary : ℤ
  daysPresent : ℕ := 0
  daysAbsent : ℕ := 0
  daysLate : ℕ := 0
  daysExcused : ℕ := 0
  totalLateMinutes : ℕ := 0
  totalWorkedHours : ℤ := 0
  lateDeduction : ℤ := 0
  absenceDeduction : ℤ := 0
  advanceDeduction : ℤ := 0
  otherDeductions : ℤ := 0
  bonuses : ℤ := 0
  overtimePay : ℤ := 0
  totalDeductions : ℤ := 0
  totalAdditions : ℤ := 0
  netSalary : ℤ := 0
  deriving DecidableEq

structure Office where
  settings : HRSettings := {}
  employees : Table Employee := .empty
  attendance : Table AttendanceRecord := .empty
  leaves : Table LeaveRequest := .empty
  advances : Table Advance := .empty
  installments : Table AdvanceInstallment := .empty
  runs : Table PayrollRun := .empty
  entries : Table PayrollEntry := .empty
  deriving DecidableEq

/-- What an operation on the office raises. -/
inductive HRError where
  | doesNotExist (model : String)
  | advanceNotPending (status : AdvanceStatus)
  | mayNotApprove
  | divisionByZero
  | badDate
  | yearOutOfRange
  | runNotOpen (month year : ℕ) (status : PayrollStatus)
  | runNotCalculated (status : PayrollStatus)
  | runNotApproved (status : PayrollStatus)
  | posting (text : String)
  deriving DecidableEq

/-- `get_status_display` of an advance. -/
def AdvanceStatus.text : AdvanceStatus → String
  | .pending => "قيد الموافقة"
  | .approved => "موافق عليه"
  | .rejected => "مرفوض"
  | .active => "جاري السداد"
  | .completed => "تم السداد بالكامل"
  | .cancelled => "ملغي"

/-- `get_status_display` of a run. -/
def PayrollStatus.text : PayrollStatus → String
  | .draft => "مسودة"
  | .calculated => "محسوب"
  | .approved => "معتمد"
  | .paid => "مصروف"

def HRError.text : HRError → String
  | .doesNotExist model => model ++ " matching query does not exist."
  | .advanceNotPending status => "لا يمكن الموافقة على سلفة بحالة: " ++ status.text
  | .mayNotApprove => "فقط مدير الموارد البشرية أو أدمن الشركة يمكنه الموافقة على السلف."
  | .divisionByZero => "division by zero"
  | .badDate => "month must be in 1..12"
  | .yearOutOfRange => "year 10000 is out of range"
  | .runNotOpen month year status =>
      "دورة رواتب " ++ toString month ++ "/" ++ toString year ++
        " موجودة بالفعل بحالة: " ++ status.text
  | .runNotCalculated status => "لا يمكن اعتماد دورة رواتب بحالة: " ++ status.text
  | .runNotApproved status =>
      "يجب اعتماد الدورة أولاً. الحالة الحالية: " ++ status.text
  | .posting text => text

abbrev HRTxn (α : Type) := Txn HRError Office α

structure MonthlySummary where
  daysPresent : ℕ
  daysLate : ℕ
  daysAbsent : ℕ
  daysExcused : ℕ
  totalLateMinutes : ℕ
  totalWorkedHours : ℤ
  totalOvertimeHours : ℤ

namespace Office

def monthRecords (office : Office) (employee month : ℕ) :
    List AttendanceRecord :=
  (office.attendance.rows.map Prod.snd).filter fun record =>
    record.employee = employee ∧ record.date.index = month

/-- `get_monthly_summary`. -/
def getMonthlySummary (office : Office) (employee month : ℕ) : MonthlySummary :=
  let records := office.monthRecords employee month
  let daysLate := records.countP fun record => record.status = .late
  { daysPresent :=
      (records.countP fun record => record.status = .present) + daysLate
    daysLate
    daysAbsent := records.countP fun record => record.status = .absent
    daysExcused := records.countP fun record =>
      record.status = .excused ∨ record.status = .holiday
    totalLateMinutes := (records.map AttendanceRecord.lateMinutes).sum
    totalWorkedHours := (records.map AttendanceRecord.workedHours).sum
    totalOvertimeHours := (records.map AttendanceRecord.overtimeHours).sum }

/-- `unpaid_leave_days`. -/
def unpaidLeaveDays (office : Office) (employee month : ℕ) : ℕ :=
  (((office.monthRecords employee month).filter fun record =>
    record.status = .excused ∧ office.leaves.rows.any fun row =>
      row.2.employee = employee ∧ row.2.status = .approved ∧
        row.2.leaveType = .unpaid ∧ row.2.fromDate ≤ record.date ∧
        record.date ≤ row.2.toDate).map AttendanceRecord.date).dedup.length

end Office

/-- `get_daily_rate`. -/
def Employee.getDailyRate (employee : Employee) (settings : HRSettings) : ℤ :=
  if employee.dailyRate > 0 then employee.dailyRate
  else if employee.baseSalary > 0 ∧ settings.workingDaysPerMonth > 0 then
    roundHalfEven (employee.baseSalary / settings.workingDaysPerMonth)
  else 0

end Mousstec.Payroll
