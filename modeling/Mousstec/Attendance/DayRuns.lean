import Mousstec.Attendance.DayStatus
import Mousstec.Library.Runs

/-!
# Runs on the register

Whatever the order of the batches, the approvals and the moves of the holidays,
a day without a clock-in has the status that the holidays and the approved leaves
of the moment give it.  The approval of a leave ends with an update that does not
look at the clock-in: the law needs days without an absent record that has one.
-/

namespace Mousstec.Attendance

open Library
open Payroll (AttendanceStatus LeaveStatus)

variable {before after final : Register} {employee : ℕ} {day : ℤ}

structure Carries (before after : Register) : Prop where
  employees : after.employees = before.employees
  shifts : after.shifts = before.shifts
  assignments : after.assignments = before.assignments
  unique : before.Unique → after.Unique
  clocked : ∀ pk record, record.clockIn ≠ none →
    (after.records.get? pk = some record ↔ before.records.get? pk = some record)

theorem Keeps.carries (kept : Keeps before after) : Carries before after :=
  ⟨kept.employees, kept.shifts, kept.assignments, kept.unique, kept.clocked⟩

namespace Carries

variable {middle : Register}

theorem refl (register : Register) : Carries register register :=
  (Keeps.refl register).carries

theorem trans (first : Carries before middle) (second : Carries middle after) :
    Carries before after where
  employees := second.employees.trans first.employees
  shifts := second.shifts.trans first.shifts
  assignments := second.assignments.trans first.assignments
  unique := second.unique ∘ first.unique
  clocked pk record present :=
    (second.clocked pk record present).trans (first.clocked pk record present)

theorem hasShift (carried : Carries before after) (employee : ℕ) (day : ℤ) :
    after.hasShift employee day = before.hasShift employee day := by
  rw [Register.hasShift, carried.assignments, carried.shifts,
    ← Register.hasShift]

theorem due (carried : Carries before after) (day : ℤ) (row : ℕ × Employee) :
    after.Due day row ↔ before.Due day row := by
  rw [Register.Due, carried.hasShift, ← Register.Due]

end Carries

def Idle (status : AttendanceStatus) : Prop :=
  status = .absent ∨ status = .excused ∨ status = .holiday

theorem Register.workdayStatus_idle (register : Register) (employee : ℕ)
    (day : ℤ) : Idle (register.workdayStatus employee day) := by
  rcases register.workdayStatus_marked employee day with absent | excused
  · exact .inl absent
  · exact .inr (.inl excused)

theorem Register.lawfulStatus_idle (register : Register) (employee : ℕ)
    (day : ℤ) : Idle (register.lawfulStatus employee day) := by
  by_cases holiday : register.isHoliday day = true
  · exact .inr (.inr (lawfulStatus_of_holiday holiday))
  · rw [lawfulStatus_of_workday holiday]
    exact register.workdayStatus_idle employee day

private theorem workdayStatus_ne (register : Register) (employee : ℕ)
    (day : ℤ) : register.workdayStatus employee day ≠ .holiday := by
  intro holiday
  rcases register.workdayStatus_marked employee day with same | same
  · rw [same] at holiday
    cases holiday
  · rw [same] at holiday
    cases holiday

theorem lawful_applyHoliday {register : Register} {status : AttendanceStatus}
    {first last : ℤ} (stored : register.HasStatus employee day status)
    (idle : Idle status)
    (within : first ≤ day ∧ day ≤ last → register.isHoliday day = true)
    (outside : ¬ (first ≤ day ∧ day ≤ last) →
      status = register.lawfulStatus employee day) :
    (register.applyHoliday first last).HasStatus employee day
      ((register.applyHoliday first last).lawfulStatus employee day) := by
  have applied := hasStatus_applyHoliday first last stored
  rw [(keeps_applyHoliday register first last).lawfulStatus]
  by_cases covered : first ≤ day ∧ day ≤ last
  · rw [Register.lawfulStatus_of_holiday (within covered)]
    have same : holidayStatus first last day status = .holiday := by
      rcases idle with rfl | rfl | rfl
      · exact if_pos ⟨covered.1, covered.2, .inl rfl⟩
      · exact if_pos ⟨covered.1, covered.2, .inr rfl⟩
      · exact ite_self _
    rw [← same]
    exact applied
  · rw [← outside covered]
    rw [holidayStatus, if_neg fun marked => covered ⟨marked.1, marked.2.1⟩]
      at applied
    exact applied

theorem lawful_restored {moved : Register} {left : Prop} [Decidable left]
    {employee : ℕ} (leaves : moved.leaves = before.leaves)
    (came : moved.isHoliday day = true → before.isHoliday day = true)
    (went : before.isHoliday day = true → moved.isHoliday day = true ∨ left) :
    restoredStatus moved left employee day (before.lawfulStatus employee day) =
      moved.lawfulStatus employee day := by
  have workday : before.workdayStatus employee day =
      moved.workdayStatus employee day := by
    rw [Register.workdayStatus, Register.onLeave, ← leaves,
      ← Register.onLeave, ← Register.workdayStatus]
  rw [restoredStatus]
  by_cases stays : moved.isHoliday day = true
  · rw [if_neg fun restored => restored.2.1 stays,
      Register.lawfulStatus_of_holiday stays,
      Register.lawfulStatus_of_holiday (came stays)]
  · rw [Register.lawfulStatus_of_workday stays]
    by_cases held : before.isHoliday day = true
    · have gone := (went held).resolve_left stays
      rw [if_pos ⟨gone, stays, Register.lawfulStatus_of_holiday held⟩]
    · rw [Register.lawfulStatus_of_workday held, workday, if_neg]
      exact fun restored => workdayStatus_ne _ _ _ restored.2.2

theorem restoredStatus_idle {moved : Register} {left : Prop} [Decidable left]
    {status : AttendanceStatus} (idle : Idle status) :
    Idle (restoredStatus moved left employee day status) := by
  rw [restoredStatus]
  split
  · exact moved.workdayStatus_idle employee day
  · exact idle

theorem isHoliday_insert (register : Register) (holiday : PublicHoliday)
    (day : ℤ) :
    ({ register with holidays := register.holidays.insert holiday } :
        Register).isHoliday day = true ↔
      register.isHoliday day = true ∨
        holiday.fromDate ≤ day ∧ day ≤ holiday.toDate := by
  simp [Register.isHoliday, Table.insert, List.any_append]

theorem isHoliday_modify {register : Register} {old : PublicHoliday} {pk : ℕ}
    (found : register.holidays.get? pk = some old) (saved : PublicHoliday)
    (day : ℤ) :
    (({ register with holidays := register.holidays.modify pk fun _ => saved } :
        Register).isHoliday day = true →
      register.isHoliday day = true ∨ saved.fromDate ≤ day ∧ day ≤ saved.toDate) ∧
    (register.isHoliday day = true →
      ({ register with holidays := register.holidays.modify pk fun _ => saved } :
        Register).isHoliday day = true ∨
      old.fromDate ≤ day ∧ day ≤ old.toDate) ∧
    (saved.fromDate ≤ day ∧ day ≤ saved.toDate →
      ({ register with holidays := register.holidays.modify pk fun _ => saved } :
        Register).isHoliday day = true) := by
  simp only [Register.isHoliday_iff]
  refine ⟨?_, ?_, ?_⟩
  · rintro ⟨other, holiday, stored, covers⟩
    rcases Table.get?_modify_of_some found stored with ⟨-, rfl⟩ | stored
    · exact .inr covers
    · exact .inl ⟨other, holiday, stored, covers⟩
  · rintro ⟨other, holiday, stored, covers⟩
    by_cases same : other = pk
    · subst same
      rw [found] at stored
      obtain rfl := Option.some.inj stored
      exact .inr covers
    · exact .inl ⟨other, holiday,
        (Table.get?_modify_of_ne _ same _).trans stored, covers⟩
  · intro covers
    refine ⟨pk, saved, ?_, covers⟩
    rw [Table.get?_modify_self, found]
    rfl

theorem isHoliday_erase {register : Register} {old : PublicHoliday} {pk : ℕ}
    (found : register.holidays.get? pk = some old) (day : ℤ) :
    (({ register with holidays := register.holidays.erase pk } :
        Register).isHoliday day = true → register.isHoliday day = true) ∧
    (register.isHoliday day = true →
      ({ register with holidays := register.holidays.erase pk } :
        Register).isHoliday day = true ∨
      old.fromDate ≤ day ∧ day ≤ old.toDate) := by
  simp only [Register.isHoliday_iff, Table.get?_erase_eq_some]
  constructor
  · rintro ⟨other, holiday, ⟨-, stored⟩, covers⟩
    exact ⟨other, holiday, stored, covers⟩
  · rintro ⟨other, holiday, stored, covers⟩
    by_cases same : other = pk
    · subst same
      rw [found] at stored
      obtain rfl := Option.some.inj stored
      exact .inr covers
    · exact .inl ⟨other, holiday, ⟨same, stored⟩, covers⟩

theorem approveLeave_eq_ok {pk : ℕ} {reviewer : Option ℕ} {byUser : Option User}
    {notes : String} {now : ℤ} {approved : LeaveRequest} :
    approveLeave pk reviewer byUser notes now before = .ok approved final ↔
      ∃ leave, before.leaves.get? pk = some leave ∧ leave.status = .pending ∧
        before.canReview reviewer byUser leave = true ∧
        leave.approved reviewer notes now = approved ∧
        before.withApproval pk approved = final := by
  rw [approveLeave, Txn.atomic_eq_ok, Txn.get_bind, Txn.expect_bind_eq_ok]
  constructor
  · rintro ⟨leave, found, returned⟩
    rw [Txn.require_bind_eq_ok, Txn.require_bind_eq_ok, Txn.set_bind,
      Txn.pure_eq_ok] at returned
    obtain ⟨pending, reviewed, rfl, written⟩ := returned
    exact ⟨leave, found, pending, reviewed, rfl, written⟩
  · rintro ⟨leave, found, pending, reviewed, rfl, written⟩
    refine ⟨leave, found, ?_⟩
    rw [Txn.require_bind_eq_ok, Txn.require_bind_eq_ok, Txn.set_bind,
      Txn.pure_eq_ok]
    exact ⟨pending, reviewed, rfl, written⟩

namespace AttendanceOp

/-- An approval finds no absent record with a clock-in among its days. -/
def careful : AttendanceOp → Register → Prop
  | .approveLeave pk _ _ _ _, register =>
      ∀ leave, register.leaves.get? pk = some leave → register.ClearFor leave
  | _, _ => True

instance decidableCareful (op : AttendanceOp) (register : Register) :
    Decidable (op.careful register) :=
  match op with
  | .approveLeave pk _ _ _ _ =>
      inferInstanceAs (Decidable (∀ leave,
        register.leaves.get? pk = some leave → register.ClearFor leave))
  | .markAbsent _ => isTrue trivial
  | .addHoliday _ _ _ => isTrue trivial
  | .changeHoliday _ _ _ _ => isTrue trivial
  | .deleteHoliday _ => isTrue trivial

theorem rollsBack (op : AttendanceOp) : Txn.RollsBack op.run := by
  intro state error final failed
  cases op with
  | markAbsent day => exact absurd failed Txn.modify_eq_error
  | approveLeave pk reviewer byUser notes now =>
      rw [run, Txn.bind_eq_error] at failed
      rcases failed with failed | ⟨approved, middle, -, failed⟩
      · exact Txn.rollsBack_atomic _ state error final failed
      · exact absurd failed Txn.pure_eq_error
  | addHoliday name first last => exact absurd failed Txn.modify_eq_error
  | changeHoliday pk name first last =>
      simp only [run, Txn.get_bind, Txn.bind_eq_error, Txn.expect_eq_error,
        Txn.set_eq_error, and_false, exists_false, or_false] at failed
      exact failed.2.2.symm
  | deleteHoliday pk =>
      simp only [run, Txn.get_bind, Txn.bind_eq_error, Txn.expect_eq_error,
        Txn.set_eq_error, and_false, exists_false, or_false] at failed
      exact failed.2.2.symm

end AttendanceOp

theorem run_approveLeave {pk : ℕ} {reviewer : Option ℕ} {byUser : Option User}
    {notes : String} {now : ℤ} :
    (AttendanceOp.approveLeave pk reviewer byUser notes now).run before =
        .ok ⟨⟩ final ↔
      ∃ leave, before.leaves.get? pk = some leave ∧ leave.status = .pending ∧
        before.canReview reviewer byUser leave = true ∧
        before.withApproval pk (leave.approved reviewer notes now) = final := by
  rw [AttendanceOp.run, Txn.bind_eq_ok]
  constructor
  · rintro ⟨approved, middle, returned, done⟩
    obtain ⟨-, rfl⟩ := Txn.pure_eq_ok.mp done
    obtain ⟨leave, found, pending, reviewed, rfl, written⟩ :=
      approveLeave_eq_ok.mp returned
    exact ⟨leave, found, pending, reviewed, written⟩
  · rintro ⟨leave, found, pending, reviewed, written⟩
    refine ⟨_, final, approveLeave_eq_ok.mpr
      ⟨leave, found, pending, reviewed, rfl, written⟩, ?_⟩
    exact Txn.pure_eq_ok.mpr ⟨rfl, rfl⟩

theorem run_changeHoliday {pk : ℕ} {name : String} {first : ℤ} {last : Option ℤ} :
    (AttendanceOp.changeHoliday pk name first last).run before = .ok ⟨⟩ final ↔
      ∃ old, before.holidays.get? pk = some old ∧
        before.changeHoliday pk old name first last = final := by
  simp only [AttendanceOp.run, Txn.get_bind, Txn.expect_bind_eq_ok,
    Txn.set_eq_ok]

theorem run_deleteHoliday {pk : ℕ} :
    (AttendanceOp.deleteHoliday pk).run before = .ok ⟨⟩ final ↔
      ∃ old, before.holidays.get? pk = some old ∧
        before.deleteHoliday pk old = final := by
  simp only [AttendanceOp.run, Txn.get_bind, Txn.expect_bind_eq_ok,
    Txn.set_eq_ok]

theorem leaves_withApproval {pk : ℕ} {leave : LeaveRequest}
    (found : before.leaves.get? pk = some leave) (approved : LeaveRequest)
    (other : ℕ) :
    (before.withApproval pk approved).leaves.get? other =
      if other = pk then some approved else before.leaves.get? other := by
  have kept := keeps_markLeaveDaysExcused approved
    (before.saveLeave pk approved)
  calc (before.withApproval pk approved).leaves.get? other
      = ((before.saveLeave pk approved).markLeaveDaysExcused
          approved).leaves.get? other := rfl
    _ = (before.saveLeave pk approved).leaves.get? other := by rw [kept.leaves]
    _ = _ := by rw [Register.saveLeave, Table.get?_modify, found, Option.map_some]

theorem recorded_withApproval {pk : ℕ} {approved : LeaveRequest} :
    (before.withApproval pk approved).Recorded employee day ↔
      before.Recorded employee day ∨ approved.Covers employee day := by
  have excused : (before.withApproval pk approved).Recorded employee day ↔
      ((before.saveLeave pk approved).markLeaveDaysExcused approved).Recorded
        employee day := (amends_excuseAbsent approved).recorded
  rw [excused, recorded_markLeaveDaysExcused]
  exact Iff.rfl

theorem keeps_withApproval {pk : ℕ} {approved : LeaveRequest}
    (clear : before.ClearFor approved) :
    Keeps (before.saveLeave pk approved) (before.withApproval pk approved) := by
  have marked := keeps_markLeaveDaysExcused approved
    (before.saveLeave pk approved)
  apply marked.trans
  apply keeps_excuseAbsent
  intro other record found present
  exact clear other record ((marked.clocked other record present).mp found)
    present

theorem onLeave_saveLeave {leave approved : LeaveRequest} {pk : ℕ}
    (found : before.leaves.get? pk = some leave)
    (pending : leave.status ≠ .approved) (accepted : approved.status = .approved) :
    (before.saveLeave pk approved).onLeave employee day = true ↔
      before.onLeave employee day = true ∨ approved.Covers employee day := by
  simp only [Register.onLeave_iff, Register.saveLeave]
  constructor
  · rintro ⟨other, granted, stored, given⟩
    rcases Table.get?_modify_of_some found stored with ⟨-, rfl⟩ | stored
    · exact .inr given.2
    · exact .inl ⟨other, granted, stored, given⟩
  · rintro (⟨other, granted, stored, given⟩ | covers)
    · refine ⟨other, granted, ?_, given⟩
      rw [Table.get?_modify_of_ne]
      · exact stored
      · rintro rfl
        rw [found] at stored
        obtain rfl := Option.some.inj stored
        exact pending given.1
    · refine ⟨pk, approved, ?_, accepted, covers⟩
      rw [Table.get?_modify_self, found]
      rfl

theorem lawful_withApproval {leave approved : LeaveRequest} {pk : ℕ}
    (unique : before.Unique) (found : before.leaves.get? pk = some leave)
    (pending : leave.status ≠ .approved) (accepted : approved.status = .approved)
    (clear : before.ClearFor approved)
    (lawful : before.HasStatus employee day
      (before.lawfulStatus employee day)) :
    (before.withApproval pk approved).HasStatus employee day
      ((before.withApproval pk approved).lawfulStatus employee day) := by
  have granted : _ ↔ before.onLeave employee day = true ∨ _ :=
    onLeave_saveLeave found pending accepted
  rw [(keeps_withApproval clear).lawfulStatus]
  have saved : (before.saveLeave pk approved).HasStatus employee day
    (before.lawfulStatus employee day) := lawful
  have marked := hasStatus_markLeaveDaysExcused approved
    (show (before.saveLeave pk approved).Unique from unique) saved
  by_cases covered : approved.Covers employee day
  · have same : (before.saveLeave pk approved).leaveDayStatus day =
        (before.saveLeave pk approved).lawfulStatus employee day := by
      rw [Register.leaveDayStatus, Register.lawfulStatus,
        if_pos (granted.mpr (.inr covered))]
    rw [if_pos covered] at marked
    rw [← same]
    apply hasStatus_excuseAbsent approved marked
    intro _
    rw [Register.leaveDayStatus]
    split
    · exact AttendanceStatus.noConfusion
    · exact AttendanceStatus.noConfusion
  · have same : before.lawfulStatus employee day =
        (before.saveLeave pk approved).lawfulStatus employee day := by
      rw [or_iff_left covered] at granted
      simp only [Register.lawfulStatus, granted]
      rfl
    rw [if_neg covered] at marked
    rw [← same]
    apply hasStatus_excuseAbsent approved marked
    intro covers
    exact absurd covers covered

variable {op : AttendanceOp}

theorem carries_step (careful : op.careful before)
    (returned : op.run before = .ok ⟨⟩ final) : Carries before final := by
  cases op with
  | markAbsent day =>
      obtain rfl := Txn.modify_eq_ok.mp returned
      exact (keeps_markAbsentEmployees before day).carries
  | approveLeave pk reviewer byUser notes now =>
      obtain ⟨leave, found, -, -, rfl⟩ := run_approveLeave.mp returned
      have saved : Carries before
          (before.saveLeave pk (leave.approved reviewer notes now)) :=
        ⟨rfl, rfl, rfl, id, fun _ _ _ => Iff.rfl⟩
      have clear : before.ClearFor (leave.approved reviewer notes now) :=
        careful leave found
      exact saved.trans (keeps_withApproval clear).carries
  | addHoliday name first last =>
      obtain rfl := Txn.modify_eq_ok.mp returned
      have saved : Carries before { before with
          holidays := before.holidays.insert ⟨name, first, last.getD first⟩ } :=
        ⟨rfl, rfl, rfl, id, fun _ _ _ => Iff.rfl⟩
      exact saved.trans (keeps_applyHoliday _ _ _).carries
  | changeHoliday pk name first last =>
      obtain ⟨old, found, rfl⟩ := run_changeHoliday.mp returned
      have saved : Carries before { before with
          holidays := before.holidays.modify pk fun _ =>
            ⟨name, first, last.getD first⟩ } :=
        ⟨rfl, rfl, rfl, id, fun _ _ _ => Iff.rfl⟩
      rw [Register.changeHoliday]
      split
      · exact saved.trans (keeps_applyHoliday _ _ _).carries
      · exact saved.trans ((keeps_unapplyHoliday _ _ _).trans
          (keeps_applyHoliday _ _ _)).carries
  | deleteHoliday pk =>
      obtain ⟨old, found, rfl⟩ := run_deleteHoliday.mp returned
      have saved : Carries before { before with
          holidays := before.holidays.erase pk } :=
        ⟨rfl, rfl, rfl, id, fun _ _ _ => Iff.rfl⟩
      exact saved.trans (keeps_unapplyHoliday _ _ _).carries

private theorem lawful_addHoliday (name : String) (first : ℤ) (last : Option ℤ)
    (lawful : before.HasStatus employee day
      (before.lawfulStatus employee day)) :
    (before.addHoliday name first last).HasStatus employee day
      ((before.addHoliday name first last).lawfulStatus employee day) := by
  apply lawful_applyHoliday
    (show Register.HasStatus { before with
      holidays := before.holidays.insert ⟨name, first, last.getD first⟩ }
        employee day (before.lawfulStatus employee day) from lawful)
    (before.lawfulStatus_idle employee day)
  · intro covered
    exact (isHoliday_insert _ _ _).mpr (.inr covered)
  · intro outside
    have same := isHoliday_insert before ⟨name, first, last.getD first⟩ day
    rw [or_iff_left outside] at same
    simp only [Register.lawfulStatus, same]
    rfl

private theorem lawful_changeHoliday {pk : ℕ} {old : PublicHoliday}
    (found : before.holidays.get? pk = some old) (name : String) (first : ℤ)
    (last : Option ℤ)
    (lawful : before.HasStatus employee day
      (before.lawfulStatus employee day)) :
    (before.changeHoliday pk old name first last).HasStatus employee day
      ((before.changeHoliday pk old name first last).lawfulStatus employee
        day) := by
  obtain ⟨came, went, within⟩ :=
    isHoliday_modify found ⟨name, first, last.getD first⟩ day
  set moved : Register := { before with
    holidays := before.holidays.modify pk fun _ =>
      ⟨name, first, last.getD first⟩ } with moved_eq
  have stored : moved.HasStatus employee day
    (before.lawfulStatus employee day) := lawful
  have idle := before.lawfulStatus_idle employee day
  simp only [Register.changeHoliday, ← moved_eq]
  split
  next same =>
    obtain ⟨sameFirst, sameLast⟩ := Prod.mk.inj same
    refine lawful_applyHoliday stored idle within ?_
    intro outside
    have gone : before.isHoliday day = true →
        moved.isHoliday day = true ∨ False := by
      intro holds
      rcases went holds with stays | covered
      · exact .inl stays
      · rw [sameFirst, sameLast] at covered
        exact absurd covered outside
    have leaves : moved.leaves = before.leaves := rfl
    rw [← lawful_restored leaves (fun holds => (came holds).resolve_right outside)
      gone, restoredStatus, if_neg fun left => left.1]
  next =>
    have kept := keeps_unapplyHoliday moved old.fromDate old.toDate
    refine lawful_applyHoliday
      (hasStatus_unapplyHoliday old.fromDate old.toDate stored)
      (restoredStatus_idle idle) ?_ ?_
    · intro covered
      rw [kept.isHoliday]
      exact within covered
    · intro outside
      rw [kept.lawfulStatus]
      exact lawful_restored rfl
        (fun holds => (came holds).resolve_right outside) went

theorem lawful_step (unique : before.Unique) (careful : op.careful before)
    (returned : op.run before = .ok ⟨⟩ final)
    (lawful : before.HasStatus employee day
      (before.lawfulStatus employee day)) :
    final.HasStatus employee day (final.lawfulStatus employee day) := by
  cases op with
  | markAbsent day =>
      obtain rfl := Txn.modify_eq_ok.mp returned
      rw [(keeps_markAbsentEmployees before day).lawfulStatus]
      exact hasStatus_markAbsentEmployees day lawful
  | approveLeave pk reviewer byUser notes now =>
      obtain ⟨leave, found, pending, -, rfl⟩ := run_approveLeave.mp returned
      refine lawful_withApproval unique found ?_ rfl (careful leave found) lawful
      rw [pending]
      exact LeaveStatus.noConfusion
  | addHoliday name first last =>
      obtain rfl := Txn.modify_eq_ok.mp returned
      exact lawful_addHoliday name first last lawful
  | changeHoliday pk name first last =>
      obtain ⟨old, found, rfl⟩ := run_changeHoliday.mp returned
      exact lawful_changeHoliday found name first last lawful
  | deleteHoliday pk =>
      obtain ⟨old, found, rfl⟩ := run_deleteHoliday.mp returned
      obtain ⟨came, went⟩ := isHoliday_erase found day
      set moved : Register := { before with
        holidays := before.holidays.erase pk } with moved_eq
      have leaves : moved.leaves = before.leaves := rfl
      have stored : moved.HasStatus employee day
        (before.lawfulStatus employee day) := lawful
      rw [Register.deleteHoliday, ← moved_eq,
        (keeps_unapplyHoliday _ _ _).lawfulStatus,
        ← lawful_restored leaves came went]
      exact hasStatus_unapplyHoliday old.fromDate old.toDate stored

/-- What holds of every register that a run goes through. -/
structure Lawful (start register : Register) : Prop where
  carries : Carries start register
  unique : register.Unique
  lawful : ∀ employee day, start.HasStatus employee day
      (start.lawfulStatus employee day) →
    register.HasStatus employee day (register.lawfulStatus employee day)

theorem lawful_of_run (ops : List AttendanceOp) (start : Register)
    (unique : start.Unique)
    (careful : Txn.Throughout AttendanceOp.run AttendanceOp.careful ops start) :
    Lawful start (Txn.after AttendanceOp.run ops start) := by
  apply Txn.after_of_throughout (Lawful start) AttendanceOp.rollsBack _ ops start
    ⟨Carries.refl start, unique, fun _ _ lawful => lawful⟩ careful
  intro op before final kept met returned
  have carried := carries_step met returned
  exact ⟨kept.carries.trans carried, carried.unique kept.unique,
    fun employee day lawful => lawful_step kept.unique met returned
      (kept.lawful employee day lawful)⟩

end Mousstec.Attendance
