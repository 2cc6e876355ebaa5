import Mathlib.Data.List.Sort
import Mousstec.Payroll.Office

/-!
# Advances and payslips

An approved advance is cut into monthly installments.  Calculating a month
deducts what is due from each salary as far as the pay reaches; an installment
that is covered only in part is split, and the rest is carried over.
Calculating the month again first gives its installments back.  Paying a run
out closes the advances that have nothing left to deduct.
-/

namespace Mousstec.Payroll

open Library

def scheduleAmounts (base amount : ℤ) : ℕ → ℤ → List ℤ
  | 0, _ => []
  | 1, scheduled => [amount - scheduled]
  | count + 2, scheduled =>
      base :: scheduleAmounts base amount (count + 1) (scheduled + base)

def Advance.baseInstallment (advance : Advance) : ℤ :=
  roundHalfEven (advance.amount / advance.installmentsCount)

def scheduleFrom (advance : ℕ) : ℕ → ℕ → List ℤ → List AdvanceInstallment
  | _, _, [] => []
  | number, month, amount :: amounts =>
      { advance, installmentNumber := number, amount, dueMonth := month } ::
        scheduleFrom advance (number + 1) (month + 1) amounts

/-- `bulk_create`. -/
def insertAll (table : Table AdvanceInstallment) :
    List AdvanceInstallment → Table AdvanceInstallment
  | [] => table
  | installment :: rest => insertAll (table.insert installment) rest

def inCalendar (month : ℕ) : Prop :=
  month < monthIndex 10000 1

instance decidableInCalendar (month : ℕ) : Decidable (inCalendar month) :=
  inferInstanceAs (Decidable (_ < _))

/-- `_generate_installments`. -/
def generateInstallments (pk : ℕ) (advance : Advance) (today : Date) :
    HRTxn PUnit := do
  Txn.require (inCalendar (today.index + 1)) .yearOutOfRange
  Txn.require (advance.installmentsCount ≠ 0) .divisionByZero
  Txn.require (inCalendar (today.index + advance.installmentsCount))
    .yearOutOfRange
  modify fun office =>
    { office with
      installments := insertAll office.installments
        (scheduleFrom pk 1 (today.index + 1)
          (scheduleAmounts advance.baseInstallment advance.amount
            advance.installmentsCount 0)) }

/-- `approve_advance`. -/
def approveAdvance (pk : ℕ) (approvedBy : Option ℕ) (allowed : Bool)
    (today : Date) : HRTxn PUnit := Txn.atomic do
  let office ← get
  let advance ← Txn.expect (office.advances.get? pk) (.doesNotExist "Advance")
  Txn.require (advance.status = .pending) (.advanceNotPending advance.status)
  Txn.require (allowed = true) .mayNotApprove
  set { office with
    advances := office.advances.modify pk fun stored =>
      { stored with status := .approved, approvedBy } }
  generateInstallments pk advance today

/-- The deductions and additions of a payslip before advances. -/
structure PayslipFigures where
  lateDeduction : ℤ
  absenceDeduction : ℤ
  unpaidDeduction : ℤ
  overtimePay : ℤ

def lateDeduction (settings : HRSettings) (attendance : MonthlySummary)
    (dailyRate : ℤ) : ℤ :=
  if attendance.daysLate > 0 then
    if settings.lateDeductionPerMinute > 0 then
      attendance.totalLateMinutes * settings.lateDeductionPerMinute
    else if settings.lateDeductionPercentage > 0 then
      roundHalfEven (dailyRate * settings.lateDeductionPercentage / 10000 *
        attendance.daysLate)
    else 0
  else 0

def payslipFigures (settings : HRSettings) (attendance : MonthlySummary)
    (dailyRate : ℤ) (unpaidDays : ℕ) : PayslipFigures where
  lateDeduction := lateDeduction settings attendance dailyRate
  absenceDeduction :=
    if attendance.daysAbsent > 0 then
      roundHalfEven (dailyRate * settings.absenceDeductionDays / 10 *
        attendance.daysAbsent)
    else 0
  unpaidDeduction := if unpaidDays = 0 then 0 else dailyRate * unpaidDays
  overtimePay :=
    if attendance.totalOvertimeHours > 0 ∧ dailyRate > 0 then
      -- A day has eight hours, and overtime is paid one and a half times.
      roundHalfEven (dailyRate / 8 * (3 / 2) *
        (attendance.totalOvertimeHours / 100))
    else 0

def PayslipFigures.available (figures : PayslipFigures) (baseSalary : ℤ) : ℤ :=
  max (baseSalary + figures.overtimePay - figures.lateDeduction -
    figures.absenceDeduction - figures.unpaidDeduction) 0

/-- `calculate_totals`. -/
def PayrollEntry.calculateTotals (entry : PayrollEntry) : PayrollEntry :=
  let totalDeductions := entry.lateDeduction + entry.absenceDeduction +
    entry.advanceDeduction + entry.otherDeductions
  let totalAdditions := entry.bonuses + entry.overtimePay
  { entry with
    totalDeductions
    totalAdditions
    netSalary := max (entry.baseSalary - totalDeductions + totalAdditions) 0 }

def dueOrder (first second : ℕ × AdvanceInstallment) : Prop :=
  first.2.dueMonth < second.2.dueMonth ∨
    first.2.dueMonth = second.2.dueMonth ∧
      first.2.installmentNumber ≤ second.2.installmentNumber

instance : DecidableRel dueOrder := fun _ _ =>
  inferInstanceAs (Decidable (_ ∨ _ ∧ _))

def AdvanceInstallment.isDue (installment : AdvanceInstallment) (month : ℕ) :
    Bool :=
  (installment.status = .scheduled ∧ installment.dueMonth = month) ∨
    (installment.status = .skipped ∧ installment.dueMonth < month)

def Advance.isOpen (advance : Advance) : Bool :=
  advance.status = .approved ∨ advance.status = .active

def Office.dueInstallments (office : Office) (employee month : ℕ) :
    List (ℕ × AdvanceInstallment) :=
  (office.installments.rows.filter fun row =>
    row.2.isDue month ∧ (office.advances.get? row.2.advance).any fun advance =>
      advance.employee = employee ∧ advance.isOpen).insertionSort dueOrder

def nextNumber (table : Table AdvanceInstallment) (advance : ℕ) : ℕ :=
  ((table.rows.filter fun row => row.2.advance = advance).map
    fun row => row.2.installmentNumber).foldr max 0 + 1

/-- `_allocate_installments`: what is covered is deducted, an installment that
is covered in part is split, the others are carried over. -/
def allocateInstallments (entry : ℕ) :
    List (ℕ × AdvanceInstallment) → ℤ → Table AdvanceInstallment →
      Table AdvanceInstallment
  | [], _, table => table
  | (pk, installment) :: rest, left, table =>
      if left ≥ installment.amount then
        allocateInstallments entry rest (left - installment.amount)
          (table.modify pk fun stored =>
            { stored with status := .deducted, deductedInPayroll := some entry })
      else if left > 0 then
        allocateInstallments entry rest 0
          ((table.insert
            { advance := installment.advance
              installmentNumber := nextNumber table installment.advance
              amount := installment.amount - left
              dueMonth := installment.dueMonth
              status := .skipped
              deductedInPayroll := some entry }).modify pk fun stored =>
            { stored with
              amount := left
              status := .deducted
              deductedInPayroll := some entry })
      else
        allocateInstallments entry rest left
          (table.modify pk fun stored =>
            { stored with status := .skipped, deductedInPayroll := some entry })

def Office.payslip (office : Office) (run pk : ℕ) (employee : Employee)
    (month : ℕ) : PayrollEntry :=
  let attendance := office.getMonthlySummary pk month
  let figures := payslipFigures office.settings attendance
    (employee.getDailyRate office.settings) (office.unpaidLeaveDays pk month)
  PayrollEntry.calculateTotals
    { payrollRun := run
      employee := pk
      baseSalary := employee.baseSalary
      daysPresent := attendance.daysPresent
      daysAbsent := attendance.daysAbsent
      daysLate := attendance.daysLate
      daysExcused := attendance.daysExcused
      totalLateMinutes := attendance.totalLateMinutes
      totalWorkedHours := attendance.totalWorkedHours
      lateDeduction := figures.lateDeduction
      absenceDeduction := figures.absenceDeduction
      advanceDeduction :=
        min ((office.dueInstallments pk month).map fun row => row.2.amount).sum
          (figures.available employee.baseSalary)
      otherDeductions := figures.unpaidDeduction
      overtimePay := figures.overtimePay }

/-- `_calculate_employee_entry`. -/
def calculateEmployeeEntry (run pk : ℕ) (employee : Employee) (month : ℕ) :
    HRTxn (Option PayrollEntry) := do
  if employee.baseSalary ≤ 0 then pure none
  else
    let office ← get
    let entry := office.payslip run pk employee month
    set { office with
      entries := office.entries.insert entry
      installments := allocateInstallments office.entries.next
        (office.dueInstallments pk month) entry.advanceDeduction
        office.installments }
    pure (some entry)

/-- `release_installments` of the payslips of a run: what was due in the month
is scheduled again, what was carried over stays so. -/
def Office.releaseInstallments (office : Office) (run month : ℕ) : Office :=
  { office with
    installments := office.installments.map fun _ installment =>
      if (installment.deductedInPayroll.bind office.entries.get?).any
          fun entry => entry.payrollRun = run then
        { installment with
          status := if installment.dueMonth ≥ month then .scheduled else .skipped
          deductedInPayroll := none }
      else installment }

def Office.deleteEntries (office : Office) (run : ℕ) : Office :=
  { office with
    entries := office.entries.filter fun _ entry => entry.payrollRun ≠ run
    installments := office.installments.map fun _ installment =>
      if (installment.deductedInPayroll.bind office.entries.get?).any
          fun entry => entry.payrollRun = run then
        { installment with deductedInPayroll := none }
      else installment }

def Office.findRun (office : Office) (month year : ℕ) :
    Option (ℕ × PayrollRun) :=
  office.runs.rows.find? fun row =>
    row.2.periodMonth = month ∧ row.2.periodYear = year

/-- `update_or_create`: the run of the month as a draft without totals. -/
def resetRun (month year : ℕ) : Option (ℕ × PayrollRun) → HRTxn ℕ
  | none => do
      let office ← get
      set { office with
        runs := office.runs.insert { periodMonth := month, periodYear := year } }
      pure office.runs.next
  | some (pk, _) => do
      modify fun office => { office with
        runs := office.runs.modify pk fun stored =>
          { stored with
            status := .draft
            totalGross := 0
            totalDeductions := 0
            totalNet := 0
            totalEmployees := 0 } }
      pure pk

structure PayrollTotals where
  gross : ℤ := 0
  deductions : ℤ := 0
  net : ℤ := 0
  count : ℕ := 0

def PayrollTotals.add (totals : PayrollTotals) :
    Option PayrollEntry → PayrollTotals
  | none => totals
  | some entry =>
      { gross := totals.gross + entry.baseSalary
        deductions := totals.deductions + entry.totalDeductions
        net := totals.net + entry.netSalary
        count := totals.count + 1 }

def calculateEntries (run month : ℕ) :
    List (ℕ × Employee) → PayrollTotals → HRTxn PayrollTotals
  | [], totals => pure totals
  | (pk, employee) :: rest, totals => do
      let entry ← calculateEmployeeEntry run pk employee month
      calculateEntries run month rest (totals.add entry)

def Office.finishRun (office : Office) (run : ℕ) (totals : PayrollTotals) :
    Office :=
  { office with
    runs := office.runs.modify run fun stored =>
      { stored with
        totalGross := totals.gross
        totalDeductions := totals.deductions
        totalNet := totals.net
        totalEmployees := totals.count
        status := .calculated } }

def releaseExisting (month : ℕ) : Option (ℕ × PayrollRun) → HRTxn PUnit
  | none => pure ⟨⟩
  | some (pk, _) => modify fun office => office.releaseInstallments pk month

def PayrollRun.isOpen (run : PayrollRun) : Bool :=
  run.status = .draft ∨ run.status = .calculated

def refuseClosed (month year : ℕ) : Option (ℕ × PayrollRun) → HRTxn PUnit
  | none => pure ⟨⟩
  | some (_, run) =>
      Txn.require (run.isOpen = true) (.runNotOpen month year run.status)

/-- `generate_payroll`. -/
def generatePayroll (month year : ℕ) : HRTxn ℕ := do
  let office ← get
  let existing := office.findRun month year
  refuseClosed month year existing
  Txn.require (1 ≤ month ∧ month ≤ 12 ∧ 1 ≤ year ∧ year ≤ 9999) .badDate
  let due := monthIndex year month
  Txn.atomic do
    releaseExisting due existing
    let run ← resetRun month year existing
    modify fun office => office.deleteEntries run
    let totals ← calculateEntries run due
      (office.employees.rows.filter fun row => row.2.isActive) {}
    modify fun office => office.finishRun run totals
    pure run

/-- `approve_payroll`. -/
def approvePayroll (pk : ℕ) (approvedBy : Option ℕ) : HRTxn PUnit :=
  Txn.atomic do
    let office ← get
    let run ← Txn.expect (office.runs.get? pk) (.doesNotExist "PayrollRun")
    Txn.require (run.status = .calculated) (.runNotCalculated run.status)
    set { office with
      runs := office.runs.modify pk fun stored =>
        { stored with status := .approved, approvedBy } }

namespace Office

def countWith (office : Office) (advance : ℕ)
    (statuses : List InstallmentStatus) : ℕ :=
  (office.installments.rows.filter fun row =>
    row.2.advance = advance ∧ row.2.status ∈ statuses).length

def deductedTotal (office : Office) (advance : ℕ) : ℤ :=
  office.installments.total fun _ installment =>
    if installment.advance = advance ∧ installment.status = .deducted then
      installment.amount
    else 0

def settleAdvance (office : Office) (pk : ℕ) (advance : Advance) : Advance :=
  if office.countWith pk [.scheduled, .skipped] = 0 then
    { advance with status := .completed, remainingAmount := 0 }
  else
    { advance with
      status := .active
      remainingAmount := advance.amount - office.deductedTotal pk }

def settleEmployee (office : Office) (employee : ℕ) : Office :=
  { office with
    advances := office.advances.map fun pk advance =>
      if advance.employee = employee ∧ advance.isOpen then
        office.settleAdvance pk advance
      else advance }

def entriesOf (office : Office) (run : ℕ) : List PayrollEntry :=
  (office.entries.rows.map Prod.snd).filter fun entry => entry.payrollRun = run

def settleEntries (office : Office) (entries : List PayrollEntry) : Office :=
  entries.foldl (fun office entry => office.settleEmployee entry.employee) office

end Office

/-- `disburse_payroll`.  The payments and their journal entries are outside of
the office; they may raise an error. -/
def disbursePayroll (pk : ℕ) (postings : Option HRError) : HRTxn PUnit :=
  Txn.atomic do
    let office ← get
    let run ← Txn.expect (office.runs.get? pk) (.doesNotExist "PayrollRun")
    Txn.require (run.status = .approved) (.runNotApproved run.status)
    match postings with
    | some error => throw error
    | none =>
        set (office.settleEntries (office.entriesOf pk))
        modify fun office =>
          { office with
            runs := office.runs.modify pk fun stored =>
              { stored with status := .paid } }

end Mousstec.Payroll
