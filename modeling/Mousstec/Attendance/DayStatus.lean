import Mousstec.Attendance.Register

/-!
# The status of a day

What each place that writes the register does to the one record of an employee
for a day: the status it leaves a day without a clock-in, and that a record with
a clock-in stays as it is.
-/

namespace Mousstec.Attendance

open Library
open Payroll (AttendanceStatus LeaveStatus)

namespace Register

def Stored (register : Register) (employee : ℕ) (day : ℤ) (pk : ℕ)
    (record : AttendanceRecord) : Prop :=
  register.records.get? pk = some record ∧ record.employee = employee ∧
    record.date = day

def Recorded (register : Register) (employee : ℕ) (day : ℤ) : Prop :=
  ∃ pk record, register.Stored employee day pk record

/-- The table has one record for an employee and a day. -/
def Unique (register : Register) : Prop :=
  ∀ employee day first earlier second later,
    register.Stored employee day first earlier →
    register.Stored employee day second later → first = second

/-- The day has this status, if it is recorded without a clock-in. -/
def HasStatus (register : Register) (employee : ℕ) (day : ℤ)
    (status : AttendanceStatus) : Prop :=
  ∀ pk record, register.Stored employee day pk record →
    record.clockIn = none → record.status = status

theorem stored_of_recordOf {register : Register} {employee : ℕ} {day : ℤ}
    {row : ℕ × AttendanceRecord}
    (found : register.recordOf employee day = some row) :
    register.Stored employee day row.1 row.2 := by
  have member := List.mem_of_find?_eq_some found
  have meets := List.find?_some found
  rw [decide_eq_true_eq] at meets
  exact ⟨Table.get?_eq_some.mpr member, meets.1, meets.2⟩

theorem recordOf_eq_none {register : Register} {employee : ℕ} {day : ℤ} :
    register.recordOf employee day = none ↔ ¬ register.Recorded employee day := by
  constructor
  · rintro missing ⟨pk, record, stored, owner, dated⟩
    have differs := List.find?_eq_none.mp missing (pk, record)
      (Table.get?_eq_some.mp stored)
    exact differs (decide_eq_true ⟨owner, dated⟩)
  · intro missing
    cases found : register.recordOf employee day with
    | none => rfl
    | some row => exact absurd ⟨row.1, row.2, stored_of_recordOf found⟩ missing

theorem isHoliday_iff {register : Register} {day : ℤ} :
    register.isHoliday day = true ↔
      ∃ pk holiday, register.holidays.get? pk = some holiday ∧
        holiday.fromDate ≤ day ∧ day ≤ holiday.toDate := by
  simp only [isHoliday, List.any_eq_true, decide_eq_true_eq, Prod.exists,
    Table.get?_eq_some]

theorem onLeave_iff {register : Register} {employee : ℕ} {day : ℤ} :
    register.onLeave employee day = true ↔
      ∃ pk leave, register.leaves.get? pk = some leave ∧
        leave.status = .approved ∧ leave.employee = employee ∧
        leave.fromDate ≤ day ∧ day ≤ leave.toDate := by
  simp only [onLeave, List.any_eq_true, decide_eq_true_eq, Prod.exists,
    Table.get?_eq_some]

theorem onUnpaidLeave_iff {register : Register} {employee : ℕ} {day : ℤ} :
    register.onUnpaidLeave employee day = true ↔
      ∃ pk leave, register.leaves.get? pk = some leave ∧
        leave.status = .approved ∧ leave.leaveType = .unpaid ∧
        leave.employee = employee ∧ leave.fromDate ≤ day ∧
        day ≤ leave.toDate := by
  simp only [onUnpaidLeave, List.any_eq_true, decide_eq_true_eq, Prod.exists,
    Table.get?_eq_some]

end Register

theorem mem_daysFrom {first last day : ℤ} :
    day ∈ daysFrom first last ↔ first ≤ day ∧ day ≤ last := by
  simp only [daysFrom, List.mem_map, List.mem_range]
  constructor
  · rintro ⟨offset, bound, rfl⟩
    omega
  · rintro ⟨lower, upper⟩
    exact ⟨(day - first).toNat, by omega, by omega⟩

/-- Only records are written, and none that has a clock-in. -/
structure Keeps (before after : Register) : Prop where
  employees : after.employees = before.employees
  shifts : after.shifts = before.shifts
  assignments : after.assignments = before.assignments
  leaves : after.leaves = before.leaves
  holidays : after.holidays = before.holidays
  unique : before.Unique → after.Unique
  clocked : ∀ pk record, record.clockIn ≠ none →
    (after.records.get? pk = some record ↔ before.records.get? pk = some record)

namespace Keeps

variable {before middle after : Register}

theorem refl (register : Register) : Keeps register register :=
  ⟨rfl, rfl, rfl, rfl, rfl, id, fun _ _ _ => Iff.rfl⟩

theorem trans (first : Keeps before middle) (second : Keeps middle after) :
    Keeps before after where
  employees := second.employees.trans first.employees
  shifts := second.shifts.trans first.shifts
  assignments := second.assignments.trans first.assignments
  leaves := second.leaves.trans first.leaves
  holidays := second.holidays.trans first.holidays
  unique := second.unique ∘ first.unique
  clocked pk record present :=
    (second.clocked pk record present).trans (first.clocked pk record present)

theorem foldl {α : Type} {change : Register → α → Register}
    (step : ∀ register item, Keeps register (change register item))
    (items : List α) (register : Register) :
    Keeps register (items.foldl change register) := by
  induction items generalizing register with
  | nil => exact refl register
  | cons item items induction =>
      exact (step register item).trans (induction _)

theorem isHoliday (kept : Keeps before after) (day : ℤ) :
    after.isHoliday day = before.isHoliday day := by
  rw [Register.isHoliday, kept.holidays, ← Register.isHoliday]

theorem onLeave (kept : Keeps before after) (employee : ℕ) (day : ℤ) :
    after.onLeave employee day = before.onLeave employee day := by
  rw [Register.onLeave, kept.leaves, ← Register.onLeave]

theorem hasShift (kept : Keeps before after) (employee : ℕ) (day : ℤ) :
    after.hasShift employee day = before.hasShift employee day := by
  rw [Register.hasShift, kept.assignments, kept.shifts, ← Register.hasShift]

theorem lawfulStatus (kept : Keeps before after) (employee : ℕ) (day : ℤ) :
    after.lawfulStatus employee day = before.lawfulStatus employee day := by
  rw [Register.lawfulStatus, kept.isHoliday, kept.onLeave,
    ← Register.lawfulStatus]

end Keeps

/-- A rewrite that leaves a record on its day, with its clock-in. -/
structure Amends (change : ℕ → AttendanceRecord → AttendanceRecord) : Prop where
  employee : ∀ pk record, (change pk record).employee = record.employee
  date : ∀ pk record, (change pk record).date = record.date
  clockIn : ∀ pk record, (change pk record).clockIn = record.clockIn

namespace Amends

variable {change : ℕ → AttendanceRecord → AttendanceRecord}
variable {register : Register} {employee : ℕ} {day : ℤ}

theorem stored (amends : Amends change) {pk : ℕ} {record : AttendanceRecord} :
    ({ register with records := register.records.map change } : Register).Stored
        employee day pk record ↔
      ∃ old, register.Stored employee day pk old ∧ record = change pk old := by
  simp only [Register.Stored, Table.get?_map, Option.map_eq_some_iff]
  constructor
  · rintro ⟨⟨old, found, rfl⟩, owner, dated⟩
    rw [amends.employee] at owner
    rw [amends.date] at dated
    exact ⟨old, ⟨found, owner, dated⟩, rfl⟩
  · rintro ⟨old, ⟨found, owner, dated⟩, rfl⟩
    exact ⟨⟨old, found, rfl⟩, (amends.employee pk old).trans owner,
      (amends.date pk old).trans dated⟩

theorem recorded (amends : Amends change) :
    ({ register with records := register.records.map change } :
        Register).Recorded employee day ↔ register.Recorded employee day := by
  constructor
  · rintro ⟨pk, record, stored⟩
    obtain ⟨old, held, -⟩ := amends.stored.mp stored
    exact ⟨pk, old, held⟩
  · rintro ⟨pk, record, held⟩
    exact ⟨pk, change pk record, amends.stored.mpr ⟨record, held, rfl⟩⟩

theorem keeps (amends : Amends change)
    (clocked : ∀ pk record, register.records.get? pk = some record →
      record.clockIn ≠ none → change pk record = record) :
    Keeps register { register with records := register.records.map change } where
  employees := rfl
  shifts := rfl
  assignments := rfl
  leaves := rfl
  holidays := rfl
  unique := by
    intro unique employee day first earlier second later one other
    obtain ⟨old, held, -⟩ := amends.stored.mp one
    obtain ⟨new, stays, -⟩ := amends.stored.mp other
    exact unique employee day first old second new held stays
  clocked := by
    intro pk record present
    rw [Table.get?_map, Option.map_eq_some_iff]
    constructor
    · rintro ⟨old, found, rfl⟩
      rw [amends.clockIn] at present
      rw [clocked pk old found present]
      exact found
    · intro found
      exact ⟨record, found, clocked pk record found present⟩

theorem hasStatus (amends : Amends change) {status next : AttendanceStatus}
    (before : register.HasStatus employee day status)
    (changed : ∀ pk record, register.Stored employee day pk record →
      record.clockIn = none → record.status = status →
      (change pk record).status = next) :
    ({ register with records := register.records.map change } :
      Register).HasStatus employee day next := by
  intro pk record stored absent
  obtain ⟨old, held, rfl⟩ := amends.stored.mp stored
  rw [amends.clockIn] at absent
  exact changed pk old held absent (before pk old held absent)

end Amends

variable {register : Register} {employee : ℕ} {day : ℤ}
  {status : AttendanceStatus}

private theorem amends_status
    (next : ℕ → AttendanceRecord → AttendanceStatus) :
    Amends fun pk record => { record with status := next pk record } :=
  ⟨fun _ _ => rfl, fun _ _ => rfl, fun _ _ => rfl⟩

private theorem amends_if {change : ℕ → AttendanceRecord → AttendanceRecord}
    (amends : Amends change) (meets : ℕ → AttendanceRecord → Prop)
    [∀ pk record, Decidable (meets pk record)] :
    Amends fun pk record => if meets pk record then change pk record else record := by
  constructor
  · intro pk record
    split
    · exact amends.employee pk record
    · rfl
  · intro pk record
    split
    · exact amends.date pk record
    · rfl
  · intro pk record
    split
    · exact amends.clockIn pk record
    · rfl

theorem amends_applyHoliday (first last : ℤ) :
    Amends fun _ record =>
      if first ≤ record.date ∧ record.date ≤ last ∧ record.clockIn = none ∧
          (record.status = .absent ∨ record.status = .excused) then
        { record with status := .holiday }
      else record :=
  amends_if (amends_status fun _ _ => .holiday) _

theorem keeps_applyHoliday (register : Register) (first last : ℤ) :
    Keeps register (register.applyHoliday first last) := by
  apply (amends_applyHoliday first last).keeps
  intro pk record found present
  rw [if_neg]
  rintro ⟨-, -, absent, -⟩
  exact present absent

def holidayStatus (first last day : ℤ) (status : AttendanceStatus) :
    AttendanceStatus :=
  if first ≤ day ∧ day ≤ last ∧ (status = .absent ∨ status = .excused) then
    .holiday
  else status

theorem hasStatus_applyHoliday (first last : ℤ)
    (before : register.HasStatus employee day status) :
    (register.applyHoliday first last).HasStatus employee day
      (holidayStatus first last day status) := by
  apply (amends_applyHoliday first last).hasStatus before
  rintro pk record ⟨-, -, rfl⟩ absent rfl
  by_cases within : first ≤ record.date ∧ record.date ≤ last ∧
      (record.status = .absent ∨ record.status = .excused)
  · rw [holidayStatus, if_pos within,
      if_pos ⟨within.1, within.2.1, absent, within.2.2⟩]
  · rw [holidayStatus, if_neg within, if_neg]
    rintro ⟨lower, upper, -, marked⟩
    exact within ⟨lower, upper, marked⟩

def Register.workdayStatus (register : Register) (employee : ℕ) (day : ℤ) :
    AttendanceStatus :=
  if register.onLeave employee day = true then .excused else .absent

theorem Register.lawfulStatus_of_holiday
    (holiday : register.isHoliday day = true) :
    register.lawfulStatus employee day = .holiday := by
  rw [lawfulStatus, if_pos holiday]

theorem Register.lawfulStatus_of_workday
    (workday : ¬ register.isHoliday day = true) :
    register.lawfulStatus employee day = register.workdayStatus employee day := by
  rw [lawfulStatus, if_neg workday, workdayStatus]

theorem Register.workdayStatus_marked (register : Register) (employee : ℕ)
    (day : ℤ) : register.workdayStatus employee day = .absent ∨
      register.workdayStatus employee day = .excused := by
  rw [workdayStatus]
  split
  · exact .inr rfl
  · exact .inl rfl

theorem amends_restoreDay (register : Register) (left : ℤ) :
    Amends fun _ record =>
      if record.date = left ∧ record.clockIn = none ∧ record.status = .holiday then
        { record with
          status := if register.onLeave record.employee left = true then .excused
            else .absent }
      else record :=
  amends_if (amends_status fun _ record =>
    if register.onLeave record.employee left = true then .excused else .absent) _

theorem keeps_restoreDay (register : Register) (left : ℤ) :
    Keeps register (register.restoreDay left) := by
  rw [Register.restoreDay]
  split
  · exact Keeps.refl register
  · apply (amends_restoreDay register left).keeps
    intro pk record found present
    rw [if_neg]
    rintro ⟨-, absent, -⟩
    exact present absent

/-- The status that a day has when it is restored among others. -/
def restoredStatus (register : Register) (left : Prop) [Decidable left]
    (employee : ℕ) (day : ℤ) (status : AttendanceStatus) : AttendanceStatus :=
  if left ∧ ¬ register.isHoliday day = true ∧ status = .holiday then
    register.workdayStatus employee day
  else status

theorem hasStatus_restoreDay (left : ℤ)
    (before : register.HasStatus employee day status) :
    (register.restoreDay left).HasStatus employee day
      (restoredStatus register (day = left) employee day status) := by
  rw [Register.restoreDay]
  split
  next covered =>
    rw [restoredStatus, if_neg]
    · exact before
    · rintro ⟨rfl, free, -⟩
      exact free covered
  next free =>
    apply (amends_restoreDay register left).hasStatus before
    rintro pk record ⟨-, rfl, rfl⟩ absent rfl
    by_cases restored : record.date = left ∧ record.status = .holiday
    · obtain ⟨dated, marked⟩ := restored
      have written : record.date = left ∧ record.clockIn = none ∧
        record.status = .holiday := ⟨dated, absent, marked⟩
      have left_free : record.date = left ∧
          ¬ register.isHoliday record.date = true ∧ record.status = .holiday :=
        ⟨dated, dated.symm ▸ free, marked⟩
      rw [restoredStatus, if_pos left_free, if_pos written,
        Register.workdayStatus, dated]
    · rw [restoredStatus, if_neg, if_neg]
      · rintro ⟨dated, -, marked⟩
        exact restored ⟨dated, marked⟩
      · rintro ⟨dated, -, marked⟩
        exact restored ⟨dated, marked⟩

theorem keeps_unapplyHoliday (register : Register) (first last : ℤ) :
    Keeps register (register.unapplyHoliday first last) :=
  Keeps.foldl keeps_restoreDay (daysFrom first last) register

private theorem restoredStatus_cons (register : Register) (left : ℤ)
    (days : List ℤ) (employee : ℕ) (day : ℤ) (status : AttendanceStatus) :
    restoredStatus (register.restoreDay left) (day ∈ days) employee day
        (restoredStatus register (day = left) employee day status) =
      restoredStatus register (day ∈ left :: days) employee day status := by
  have kept := keeps_restoreDay register left
  have workday : (register.restoreDay left).workdayStatus employee day =
      register.workdayStatus employee day := by
    rw [Register.workdayStatus, kept.onLeave, ← Register.workdayStatus]
  have marked : register.workdayStatus employee day ≠ .holiday := by
    rcases register.workdayStatus_marked employee day with none | some
    · simp [none]
    · simp [some]
  simp only [restoredStatus, kept.isHoliday, workday, List.mem_cons]
  by_cases dated : day = left ∧ ¬ register.isHoliday day = true ∧
      status = .holiday
  · obtain ⟨rfl, free, rfl⟩ := dated
    simp [free, marked]
  · rw [if_neg dated]
    by_cases restored : ¬ register.isHoliday day = true ∧ status = .holiday
    · have other : day ≠ left := fun same => dated ⟨same, restored⟩
      simp [other]
    · rw [if_neg fun later => restored later.2,
        if_neg fun later => restored later.2]

private theorem hasStatus_restoreDays (days : List ℤ)
    (before : register.HasStatus employee day status) :
    (days.foldl Register.restoreDay register).HasStatus employee day
      (restoredStatus register (day ∈ days) employee day status) := by
  induction days generalizing register status with
  | nil => simpa [restoredStatus] using before
  | cons left days induction =>
      rw [← restoredStatus_cons]
      exact induction (hasStatus_restoreDay left before)

theorem hasStatus_unapplyHoliday (first last : ℤ)
    (before : register.HasStatus employee day status) :
    (register.unapplyHoliday first last).HasStatus employee day
      (restoredStatus register (first ≤ day ∧ day ≤ last) employee day
        status) := by
  have restored := hasStatus_restoreDays (daysFrom first last) before
  simpa only [Register.unapplyHoliday, restoredStatus, mem_daysFrom] using
    restored

private theorem stored_insert {added : AttendanceRecord} {pk : ℕ}
    {record : AttendanceRecord} :
    ({ register with records := register.records.insert added } :
        Register).Stored employee day pk record ↔
      register.Stored employee day pk record ∨
        pk = register.records.next ∧ record = added ∧
          added.employee = employee ∧ added.date = day := by
  simp only [Register.Stored, Table.get?_insert]
  split
  next same =>
    subst same
    constructor
    · rintro ⟨found, owner, dated⟩
      obtain rfl := Option.some.inj found
      exact .inr ⟨rfl, rfl, owner, dated⟩
    · rintro (⟨found, -⟩ | ⟨-, rfl, owner, dated⟩)
      · rw [Table.get?_next] at found
        cases found
      · exact ⟨rfl, owner, dated⟩
  next other =>
    constructor
    · exact .inl
    · rintro (held | ⟨same, -⟩)
      · exact held
      · exact absurd same other

private theorem recorded_insert {added : AttendanceRecord} :
    ({ register with records := register.records.insert added } :
        Register).Recorded employee day ↔
      register.Recorded employee day ∨
        added.employee = employee ∧ added.date = day := by
  constructor
  · rintro ⟨pk, record, stored⟩
    rcases stored_insert.mp stored with held | ⟨-, -, place⟩
    · exact .inl ⟨pk, record, held⟩
    · exact .inr place
  · rintro (⟨pk, record, held⟩ | place)
    · exact ⟨pk, record, stored_insert.mpr (.inl held)⟩
    · exact ⟨register.records.next, added, stored_insert.mpr
        (.inr ⟨rfl, rfl, place⟩)⟩

private theorem keeps_insert {added : AttendanceRecord}
    (missing : ¬ register.Recorded added.employee added.date)
    (absent : added.clockIn = none) :
    Keeps register
      { register with records := register.records.insert added } where
  employees := rfl
  shifts := rfl
  assignments := rfl
  leaves := rfl
  holidays := rfl
  unique := by
    intro unique employee day first earlier second later one other
    rcases stored_insert.mp one with held | ⟨place, -, rfl, rfl⟩ <;>
      rcases stored_insert.mp other with stays | ⟨here, -, owner, dated⟩
    · exact unique employee day first earlier second later held stays
    · subst owner dated
      exact absurd ⟨first, earlier, held⟩ missing
    · exact absurd ⟨second, later, stays⟩ missing
    · exact place.trans here.symm
  clocked := by
    intro pk record present
    rw [Table.get?_insert]
    split
    next same =>
      subst same
      rw [Table.get?_next]
      constructor
      · intro found
        obtain rfl := Option.some.inj found
        exact absurd absent present
      · intro found
        cases found
    next other => exact Iff.rfl

private theorem hasStatus_insert {added : AttendanceRecord}
    (before : register.HasStatus employee day status)
    (added_status : added.employee = employee → added.date = day →
      added.status = status) :
    ({ register with records := register.records.insert added } :
      Register).HasStatus employee day status := by
  intro pk record stored absent
  rcases stored_insert.mp stored with held | ⟨-, rfl, owner, dated⟩
  · exact before pk record held absent
  · exact added_status owner dated

private theorem amends_markLeaveDay (pk : ℕ) (next : AttendanceStatus)
    (notes : String) :
    Amends fun other record =>
      if other = pk then { record with status := next, notes := notes }
      else record := by
  have amends : Amends fun _ record =>
      { record with status := next, notes := notes } :=
    ⟨fun _ _ => rfl, fun _ _ => rfl, fun _ _ => rfl⟩
  exact amends_if amends fun other _ => other = pk

theorem keeps_markLeaveDay (leave : LeaveRequest) (register : Register)
    (left : ℤ) : Keeps register (register.markLeaveDay leave left) := by
  rw [Register.markLeaveDay]
  split
  next missing =>
    exact keeps_insert (Register.recordOf_eq_none.mp missing) rfl
  next row found =>
    split
    next absent =>
      apply (amends_markLeaveDay row.1 _ _).keeps
      intro pk record stored present
      rw [if_neg]
      rintro rfl
      obtain ⟨held, -⟩ := Register.stored_of_recordOf found
      rw [held] at stored
      obtain rfl := Option.some.inj stored
      exact present absent
    next present => exact Keeps.refl register

theorem hasStatus_markLeaveDay (leave : LeaveRequest) (left : ℤ)
    (unique : register.Unique)
    (before : register.HasStatus employee day status) :
    (register.markLeaveDay leave left).HasStatus employee day
      (if leave.employee = employee ∧ left = day then
        register.leaveDayStatus day else status) := by
  rw [Register.markLeaveDay]
  split
  next missing =>
    by_cases place : leave.employee = employee ∧ left = day
    · obtain ⟨rfl, rfl⟩ := place
      rw [if_pos ⟨rfl, rfl⟩]
      apply hasStatus_insert
      · intro pk record stored
        exact absurd ⟨pk, record, stored⟩ (Register.recordOf_eq_none.mp missing)
      · exact fun _ _ => rfl
    · rw [if_neg place]
      exact hasStatus_insert before fun owner dated =>
        absurd ⟨owner, dated⟩ place
  next row found =>
    have held := Register.stored_of_recordOf found
    split
    next absent =>
      apply (amends_markLeaveDay row.1 _ _).hasStatus before
      rintro pk record stored - rfl
      by_cases place : leave.employee = employee ∧ left = day
      · obtain ⟨rfl, rfl⟩ := place
        rw [if_pos (unique _ _ _ _ _ _ stored held), if_pos ⟨rfl, rfl⟩]
      · rw [if_neg place, if_neg]
        rintro rfl
        obtain ⟨looked, owner, dated⟩ := held
        rw [stored.1] at looked
        obtain rfl := Option.some.inj looked
        exact place ⟨owner.symm.trans stored.2.1, dated.symm.trans stored.2.2⟩
    next present =>
      intro pk record stored absent
      by_cases place : leave.employee = employee ∧ left = day
      · obtain ⟨rfl, rfl⟩ := place
        obtain rfl := unique _ _ _ _ _ _ stored held
        have looked := held.1
        rw [stored.1] at looked
        obtain rfl := Option.some.inj looked
        exact absurd absent present
      · rw [if_neg place]
        exact before pk record stored absent

theorem recorded_markLeaveDay (leave : LeaveRequest) (left : ℤ) :
    (register.markLeaveDay leave left).Recorded employee day ↔
      register.Recorded employee day ∨ leave.employee = employee ∧ left = day := by
  rw [Register.markLeaveDay]
  split
  next missing => exact recorded_insert
  next row found =>
    have here : leave.employee = employee ∧ left = day →
        register.Recorded employee day := by
      rintro ⟨rfl, rfl⟩
      exact ⟨row.1, row.2, Register.stored_of_recordOf found⟩
    split
    next absent =>
      rw [or_iff_left_of_imp here]
      exact (amends_markLeaveDay row.1 _ _).recorded
    next present => rw [or_iff_left_of_imp here]

theorem keeps_markLeaveDaysExcused (leave : LeaveRequest) (register : Register) :
    Keeps register (register.markLeaveDaysExcused leave) :=
  Keeps.foldl (keeps_markLeaveDay leave) _ register

private theorem hasStatus_markLeaveDays (leave : LeaveRequest) (days : List ℤ)
    (unique : register.Unique)
    (before : register.HasStatus employee day status) :
    (days.foldl (Register.markLeaveDay leave) register).HasStatus employee day
      (if leave.employee = employee ∧ day ∈ days then
        register.leaveDayStatus day else status) := by
  induction days generalizing register status with
  | nil => simpa using before
  | cons left days induction =>
      have kept := keeps_markLeaveDay leave register left
      have marked := induction (kept.unique unique)
        (hasStatus_markLeaveDay leave left unique before)
      have same : (register.markLeaveDay leave left).leaveDayStatus day =
          register.leaveDayStatus day := by
        rw [Register.leaveDayStatus, kept.isHoliday, ← Register.leaveDayStatus]
      rw [same] at marked
      rw [List.foldl_cons]
      by_cases later : leave.employee = employee ∧ day ∈ days
      · rw [if_pos later] at marked
        rw [if_pos ⟨later.1, List.mem_cons_of_mem left later.2⟩]
        exact marked
      · rw [if_neg later] at marked
        by_cases place : leave.employee = employee ∧ left = day
        · obtain ⟨owner, rfl⟩ := place
          rw [if_pos ⟨owner, rfl⟩] at marked
          rw [if_pos ⟨owner, List.mem_cons_self⟩]
          exact marked
        · rw [if_neg place] at marked
          rw [if_neg]
          · exact marked
          · rintro ⟨owner, member⟩
            rcases List.mem_cons.mp member with rfl | member
            · exact place ⟨owner, rfl⟩
            · exact later ⟨owner, member⟩

private theorem recorded_markLeaveDays (leave : LeaveRequest) (days : List ℤ) :
    (days.foldl (Register.markLeaveDay leave) register).Recorded employee day ↔
      register.Recorded employee day ∨
        leave.employee = employee ∧ day ∈ days := by
  induction days generalizing register with
  | nil => simp
  | cons left days induction =>
      rw [List.foldl_cons, induction, recorded_markLeaveDay, List.mem_cons,
        or_assoc, and_or_left, eq_comm (a := day)]

/-- An approved leave covers the day of the employee. -/
def LeaveRequest.Covers (leave : LeaveRequest) (employee : ℕ) (day : ℤ) : Prop :=
  leave.employee = employee ∧ leave.fromDate ≤ day ∧ day ≤ leave.toDate

instance LeaveRequest.decidableCovers (leave : LeaveRequest) (employee : ℕ)
    (day : ℤ) : Decidable (leave.Covers employee day) :=
  inferInstanceAs (Decidable (_ ∧ _ ∧ _))

theorem hasStatus_markLeaveDaysExcused (leave : LeaveRequest)
    (unique : register.Unique)
    (before : register.HasStatus employee day status) :
    (register.markLeaveDaysExcused leave).HasStatus employee day
      (if leave.Covers employee day then register.leaveDayStatus day
        else status) := by
  have marked := hasStatus_markLeaveDays leave
    (daysFrom leave.fromDate leave.toDate) unique before
  rw [Register.markLeaveDaysExcused]
  by_cases covered : leave.Covers employee day
  · rw [if_pos covered]
    rw [if_pos ⟨covered.1, mem_daysFrom.mpr covered.2⟩] at marked
    exact marked
  · rw [if_neg covered]
    rw [if_neg fun here => covered ⟨here.1, mem_daysFrom.mp here.2⟩] at marked
    exact marked

theorem recorded_markLeaveDaysExcused (leave : LeaveRequest) :
    (register.markLeaveDaysExcused leave).Recorded employee day ↔
      register.Recorded employee day ∨ leave.Covers employee day := by
  rw [Register.markLeaveDaysExcused, recorded_markLeaveDays, mem_daysFrom,
    LeaveRequest.Covers]

theorem amends_excuseAbsent (leave : LeaveRequest) :
    Amends fun _ record =>
      if record.employee = leave.employee ∧ record.status = .absent ∧
          leave.fromDate ≤ record.date ∧ record.date ≤ leave.toDate then
        { record with status := .excused }
      else record :=
  amends_if (amends_status fun _ _ => .excused) _

/-- No record with a clock-in is among the absent days of a leave. -/
def Register.ClearFor (register : Register) (leave : LeaveRequest) : Prop :=
  ∀ pk record, register.records.get? pk = some record →
    record.clockIn ≠ none → leave.Covers record.employee record.date →
    record.status ≠ .absent

instance Register.decidableClearFor (register : Register)
    (leave : LeaveRequest) : Decidable (register.ClearFor leave) :=
  inferInstanceAs (Decidable (∀ _ _, _ = some _ → _))

theorem keeps_excuseAbsent {leave : LeaveRequest}
    (clear : register.ClearFor leave) :
    Keeps register (register.excuseAbsent leave) := by
  apply (amends_excuseAbsent leave).keeps
  intro pk record found present
  rw [if_neg]
  rintro ⟨owner, marked, lower, upper⟩
  exact clear pk record found present ⟨owner.symm, lower, upper⟩ marked

theorem hasStatus_excuseAbsent (leave : LeaveRequest)
    (before : register.HasStatus employee day status)
    (excused : leave.Covers employee day → status ≠ .absent) :
    (register.excuseAbsent leave).HasStatus employee day status := by
  apply (amends_excuseAbsent leave).hasStatus before
  rintro pk record ⟨-, rfl, rfl⟩ - rfl
  rw [if_neg]
  rintro ⟨owner, marked, lower, upper⟩
  exact excused ⟨owner.symm, lower, upper⟩ marked

theorem keeps_markMissing (left : ℤ) (register : Register) (row : ℕ × Employee) :
    Keeps register (register.markMissing left row) := by
  rw [Register.markMissing]
  split
  next due =>
    rw [Register.isMissing, decide_eq_true_eq] at due
    exact keeps_insert (Register.recordOf_eq_none.mp due.2.1) rfl
  next other => exact Keeps.refl register

theorem hasStatus_markMissing (left : ℤ) (row : ℕ × Employee)
    (before : register.HasStatus employee day
      (register.lawfulStatus employee day)) :
    (register.markMissing left row).HasStatus employee day
      (register.lawfulStatus employee day) := by
  rw [Register.markMissing]
  split
  · apply hasStatus_insert before
    rintro rfl rfl
    rfl
  · exact before

/-- An employee who is marked at the end of the day if he is not recorded. -/
def Register.Due (register : Register) (day : ℤ) (row : ℕ × Employee) : Prop :=
  row.2.isActive = true ∧ register.hasShift row.1 day = true

theorem recorded_markMissing (left : ℤ) (row : ℕ × Employee) :
    (register.markMissing left row).Recorded employee day ↔
      register.Recorded employee day ∨
        register.Due left row ∧ row.1 = employee ∧ left = day := by
  rw [Register.markMissing]
  split
  next due =>
    rw [Register.isMissing, decide_eq_true_eq] at due
    rw [recorded_insert]
    constructor
    · rintro (held | place)
      · exact .inl held
      · exact .inr ⟨⟨due.1, due.2.2⟩, place⟩
    · rintro (held | ⟨-, place⟩)
      · exact .inl held
      · exact .inr place
  next other =>
    constructor
    · exact .inl
    · rintro (held | ⟨due, rfl, rfl⟩)
      · exact held
      · by_contra missing
        apply other
        rw [Register.isMissing, decide_eq_true_eq]
        exact ⟨due.1, Register.recordOf_eq_none.mpr missing, due.2⟩

theorem keeps_markAbsentEmployees (register : Register) (left : ℤ) :
    Keeps register (register.markAbsentEmployees left) :=
  Keeps.foldl (keeps_markMissing left) _ register

private theorem hasStatus_markRows (left : ℤ) (rows : List (ℕ × Employee))
    (before : register.HasStatus employee day
      (register.lawfulStatus employee day)) :
    (rows.foldl (Register.markMissing left) register).HasStatus employee day
      (register.lawfulStatus employee day) := by
  induction rows generalizing register with
  | nil => exact before
  | cons row rows induction =>
      have kept := keeps_markMissing left register row
      have marked := hasStatus_markMissing left row before
      rw [← kept.lawfulStatus] at marked ⊢
      exact induction marked

theorem hasStatus_markAbsentEmployees (left : ℤ)
    (before : register.HasStatus employee day
      (register.lawfulStatus employee day)) :
    (register.markAbsentEmployees left).HasStatus employee day
      (register.lawfulStatus employee day) :=
  hasStatus_markRows left register.employees.rows before

private theorem recorded_markRows (left : ℤ) (rows : List (ℕ × Employee)) :
    (rows.foldl (Register.markMissing left) register).Recorded employee day ↔
      register.Recorded employee day ∨
        ∃ row ∈ rows, register.Due left row ∧ row.1 = employee ∧ left = day := by
  induction rows generalizing register with
  | nil => simp
  | cons row rows induction =>
      have kept := keeps_markMissing left register row
      simp only [List.foldl_cons, induction, recorded_markMissing, Register.Due,
        kept.hasShift, List.exists_mem_cons_iff, or_assoc]

theorem recorded_markAbsentEmployees (left : ℤ) :
    (register.markAbsentEmployees left).Recorded employee day ↔
      register.Recorded employee day ∨
        ∃ row ∈ register.employees.rows,
          register.Due left row ∧ row.1 = employee ∧ left = day :=
  recorded_markRows left register.employees.rows

end Mousstec.Attendance
