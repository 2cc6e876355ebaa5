import Mathlib.Data.List.Dedup
import Mousstec.Attendance.DayRuns

/-!
# The order of the events

Which days are recorded and which leaves are approved after a run is read from
the register before it and from the events, in whatever order they came.  With
the same holidays at the end, the days that a payslip deducts are the same.
-/

namespace Mousstec.Attendance

open Library
open Payroll (AttendanceStatus LeaveStatus)

variable {before after final : Register} {op : AttendanceOp}

def Register.Granted (register : Register) (pk : ℕ) : Prop :=
  ∃ leave, register.leaves.get? pk = some leave ∧ leave.status = .approved

/-- The leave covers the day of the employee, approved or not. -/
def Register.Spans (register : Register) (pk employee : ℕ) (day : ℤ) : Prop :=
  ∃ leave, register.leaves.get? pk = some leave ∧ leave.Covers employee day

def LeaveRequest.request (leave : LeaveRequest) : LeaveRequest :=
  { leave with
    status := .pending
    reviewedBy := none
    reviewedAt := none
    reviewNotes := "" }

namespace AttendanceOp

/-- The event approves a leave that waits for it. -/
def Accepts (register : Register) (pk : ℕ) : AttendanceOp → Prop
  | .approveLeave other reviewer byUser _ _ =>
      other = pk ∧ ∃ leave, register.leaves.get? pk = some leave ∧
        leave.status = .pending ∧
        register.canReview reviewer byUser leave = true
  | _ => False

/-- The event writes a record for the day if there is none. -/
def Records (register : Register) (employee : ℕ) (day : ℤ) :
    AttendanceOp → Prop
  | .markAbsent left =>
      ∃ row ∈ register.employees.rows,
        register.Due left row ∧ row.1 = employee ∧ left = day
  | .approveLeave pk reviewer byUser notes now =>
      (approveLeave pk reviewer byUser notes now).Accepts register pk ∧
        register.Spans pk employee day
  | _ => False

end AttendanceOp

/-- What one event does to the leaves and to the set of recorded days. -/
structure Advances (op : AttendanceOp) (before after : Register) : Prop where
  employees : after.employees = before.employees
  requests : ∀ pk, (after.leaves.get? pk).map LeaveRequest.request =
    (before.leaves.get? pk).map LeaveRequest.request
  due : ∀ day row, after.Due day row ↔ before.Due day row
  granted : ∀ pk, after.Granted pk ↔ before.Granted pk ∨ op.Accepts before pk
  waiting : ∀ pk (other : AttendanceOp), other.Accepts after pk ↔
    other.Accepts before pk ∧ ¬ op.Accepts before pk
  recorded : ∀ employee day, after.Recorded employee day ↔
    before.Recorded employee day ∨ op.Records before employee day

theorem LeaveRequest.request_eq {earlier later : LeaveRequest}
    (same : later.request = earlier.request) :
    later.employee = earlier.employee ∧ later.leaveType = earlier.leaveType ∧
      later.fromDate = earlier.fromDate ∧ later.toDate = earlier.toDate := by
  cases earlier
  cases later
  injection same with employee leaveType fromDate toDate
  exact ⟨employee, leaveType, fromDate, toDate⟩

theorem leave_of_requests {pk : ℕ} {leave : LeaveRequest}
    (requests : (after.leaves.get? pk).map LeaveRequest.request =
      (before.leaves.get? pk).map LeaveRequest.request)
    (found : before.leaves.get? pk = some leave) :
    ∃ later, after.leaves.get? pk = some later ∧
      later.request = leave.request := by
  rw [found, Option.map_some, Option.map_eq_some_iff] at requests
  exact requests

theorem spans_of_requests {pk employee : ℕ} {day : ℤ}
    (requests : (after.leaves.get? pk).map LeaveRequest.request =
      (before.leaves.get? pk).map LeaveRequest.request)
    (spans : before.Spans pk employee day) : after.Spans pk employee day := by
  obtain ⟨leave, found, owner, lower, upper⟩ := spans
  obtain ⟨later, stored, same⟩ := leave_of_requests requests found
  obtain ⟨employees, -, first, last⟩ := LeaveRequest.request_eq same
  exact ⟨later, stored, employees.trans owner, first.trans_le lower,
    upper.trans_eq last.symm⟩

theorem Register.canReview_congr {earlier later : LeaveRequest}
    (employees : after.employees = before.employees)
    (same : later.employee = earlier.employee) (reviewer : Option ℕ)
    (byUser : Option User) :
    after.canReview reviewer byUser later =
      before.canReview reviewer byUser earlier := by
  rw [canReview, employees, same, ← canReview]

/-- An event that leaves the leaves as they are. -/
private theorem advances_of_leaves (carried : Carries before after)
    (leaves : after.leaves = before.leaves)
    (accepts : ∀ pk, ¬ op.Accepts before pk)
    (recorded : ∀ employee day, after.Recorded employee day ↔
      before.Recorded employee day ∨ op.Records before employee day) :
    Advances op before after where
  employees := carried.employees
  requests pk := by rw [leaves]
  due := carried.due
  granted pk := by
    rw [or_iff_left (accepts pk), Register.Granted, leaves, ← Register.Granted]
  waiting pk other := by
    rw [and_iff_left (accepts pk)]
    cases other with
    | approveLeave key reviewer byUser notes now =>
        simp only [AttendanceOp.Accepts, leaves,
          Register.canReview_congr carried.employees rfl]
    | markAbsent day => exact Iff.rfl
    | addHoliday name first last => exact Iff.rfl
    | changeHoliday key name first last => exact Iff.rfl
    | deleteHoliday key => exact Iff.rfl
  recorded := recorded

private theorem recorded_applyHoliday {register : Register} {employee : ℕ}
    {day first last : ℤ} :
    (register.applyHoliday first last).Recorded employee day ↔
      register.Recorded employee day :=
  (amends_applyHoliday first last).recorded

private theorem recorded_restoreDay {register : Register} {employee : ℕ}
    {day left : ℤ} :
    (register.restoreDay left).Recorded employee day ↔
      register.Recorded employee day := by
  rw [Register.restoreDay]
  split
  · exact Iff.rfl
  · exact (amends_restoreDay register left).recorded

private theorem recorded_unapplyHoliday {register : Register} {employee : ℕ}
    {day first last : ℤ} :
    (register.unapplyHoliday first last).Recorded employee day ↔
      register.Recorded employee day := by
  rw [Register.unapplyHoliday]
  induction daysFrom first last generalizing register with
  | nil => exact Iff.rfl
  | cons left days induction =>
      rw [List.foldl_cons, induction, recorded_restoreDay]

private theorem advances_withApproval {pk : ℕ} {reviewer : Option ℕ}
    {byUser : Option User} {notes : String} {now : ℤ} {leave : LeaveRequest}
    (found : before.leaves.get? pk = some leave)
    (pending : leave.status = .pending)
    (allowed : before.canReview reviewer byUser leave = true)
    (carried : Carries before
      (before.withApproval pk (leave.approved reviewer notes now))) :
    Advances (.approveLeave pk reviewer byUser notes now) before
      (before.withApproval pk (leave.approved reviewer notes now)) := by
  have leaves := leaves_withApproval found (leave.approved reviewer notes now)
  have accepts : ∀ other, (AttendanceOp.approveLeave pk reviewer byUser notes
      now).Accepts before other ↔ other = pk := by
    intro other
    constructor
    · rintro ⟨same, -⟩
      exact same.symm
    · rintro rfl
      exact ⟨rfl, leave, found, pending, allowed⟩
  set final := before.withApproval pk (leave.approved reviewer notes now)
    with final_eq
  constructor
  · exact carried.employees
  · intro other
    rw [leaves]
    split
    next same =>
      subst same
      rw [found]
      rfl
    next => rfl
  · exact carried.due
  · intro other
    rw [accepts, Register.Granted, leaves]
    split
    next same =>
      rw [or_iff_right_of_imp fun _ => same]
      exact ⟨fun _ => same, fun _ => ⟨_, rfl, rfl⟩⟩
    next differs => rw [or_iff_left differs, Register.Granted]
  · intro key other
    rw [accepts]
    cases other with
    | approveLeave third otherReviewer otherUser otherNotes later =>
        simp only [AttendanceOp.Accepts, leaves,
          Register.canReview_congr carried.employees rfl]
        split
        next same =>
          subst same
          constructor
          · rintro ⟨-, granted, stored, waits, -⟩
            obtain rfl := Option.some.inj stored
            cases waits
          · rintro ⟨-, differs⟩
            exact absurd rfl differs
        next differs => rw [and_iff_left differs]
    | markAbsent day => exact iff_of_eq (false_and _).symm
    | addHoliday name first last => exact iff_of_eq (false_and _).symm
    | changeHoliday third name first last => exact iff_of_eq (false_and _).symm
    | deleteHoliday third => exact iff_of_eq (false_and _).symm
  · intro employee day
    rw [recorded_withApproval]
    constructor
    · rintro (held | covers)
      · exact .inl held
      · exact .inr ⟨(accepts pk).mpr rfl, leave, found, covers⟩
    · rintro (held | ⟨-, stored, looked, covers⟩)
      · exact .inl held
      · rw [found] at looked
        obtain rfl := Option.some.inj looked
        exact .inr covers

theorem advances_step (careful : op.careful before)
    (returned : op.run before = .ok ⟨⟩ final) : Advances op before final := by
  have carried := carries_step careful returned
  cases op with
  | markAbsent day =>
      obtain rfl := Txn.modify_eq_ok.mp returned
      exact advances_of_leaves carried
        (keeps_markAbsentEmployees before day).leaves (fun _ => id)
        fun _ _ => recorded_markAbsentEmployees day
  | approveLeave pk reviewer byUser notes now =>
      obtain ⟨leave, found, pending, allowed, rfl⟩ :=
        run_approveLeave.mp returned
      exact advances_withApproval found pending allowed carried
  | addHoliday name first last =>
      obtain rfl := Txn.modify_eq_ok.mp returned
      refine advances_of_leaves carried (keeps_applyHoliday _ _ _).leaves
        (fun _ => id) fun employee day => ?_
      rw [Register.addHoliday, recorded_applyHoliday]
      exact (or_iff_left id).symm
  | changeHoliday pk name first last =>
      obtain ⟨old, -, rfl⟩ := run_changeHoliday.mp returned
      simp only [Register.changeHoliday] at carried ⊢
      split at carried
      next same =>
        rw [if_pos same]
        refine advances_of_leaves carried (keeps_applyHoliday _ _ _).leaves
          (fun _ => id) fun employee day => ?_
        rw [recorded_applyHoliday]
        exact (or_iff_left id).symm
      next differs =>
        rw [if_neg differs]
        refine advances_of_leaves carried ((keeps_unapplyHoliday _ _ _).trans
          (keeps_applyHoliday _ _ _)).leaves (fun _ => id) fun employee day => ?_
        rw [recorded_applyHoliday, recorded_unapplyHoliday]
        exact (or_iff_left id).symm
  | deleteHoliday pk =>
      obtain ⟨old, -, rfl⟩ := run_deleteHoliday.mp returned
      refine advances_of_leaves carried (keeps_unapplyHoliday _ _ _).leaves
        (fun _ => id) fun employee day => ?_
      rw [Register.deleteHoliday, recorded_unapplyHoliday]
      exact (or_iff_left id).symm

/-- An event that is refused would have approved nothing. -/
theorem advances_refused
    (refused : ∀ final, op.run before ≠ .ok ⟨⟩ final) :
    Advances op before before := by
  have accepts : ∀ pk, ¬ op.Accepts before pk := by
    intro pk accepted
    cases op with
    | approveLeave other reviewer byUser notes now =>
        obtain ⟨rfl, leave, found, pending, allowed⟩ := accepted
        exact refused _ (run_approveLeave.mpr
          ⟨leave, found, pending, allowed, rfl⟩)
    | markAbsent day => exact accepted
    | addHoliday name first last => exact accepted
    | changeHoliday other name first last => exact accepted
    | deleteHoliday other => exact accepted
  refine advances_of_leaves (Carries.refl before) rfl accepts ?_
  intro employee day
  refine (or_iff_left ?_).symm
  intro records
  cases op with
  | markAbsent left => exact refused _ (Txn.modify_eq_ok.mpr rfl)
  | approveLeave pk reviewer byUser notes now => exact accepts pk records.1
  | addHoliday name first last => exact records
  | changeHoliday pk name first last => exact records
  | deleteHoliday pk => exact records

theorem advances_final
    (careful : (∃ final, op.run before = .ok ⟨⟩ final) → op.careful before) :
    Advances op before (op.run.final before) := by
  cases returned : op.run before with
  | ok value final =>
      rw [Txn.final_of_ok returned]
      exact advances_step (careful ⟨final, returned⟩) returned
  | error error final =>
      rw [Txn.final_of_error returned, op.rollsBack _ _ _ returned]
      apply advances_refused
      intro other accepted
      rw [returned] at accepted
      cases accepted

namespace Advances

/-- What a later event records was to be recorded before, or just has been. -/
theorem records (advances : Advances op before after) (other : AttendanceOp)
    (employee : ℕ) (day : ℤ) :
    op.Records before employee day ∨ other.Records after employee day ↔
      op.Records before employee day ∨ other.Records before employee day := by
  cases other with
  | markAbsent left =>
      simp only [AttendanceOp.Records, advances.employees, advances.due]
  | approveLeave pk reviewer byUser notes now =>
      have waiting := advances.waiting pk
        (.approveLeave pk reviewer byUser notes now)
      constructor
      · rintro (records | ⟨accepted, spans⟩)
        · exact .inl records
        · exact .inr ⟨(waiting.mp accepted).1,
            spans_of_requests (advances.requests pk).symm spans⟩
      · rintro (records | ⟨accepted, spans⟩)
        · exact .inl records
        · by_cases taken : op.Accepts before pk
          · cases op with
            | approveLeave key otherReviewer otherUser otherNotes later =>
                obtain ⟨rfl, granted⟩ := taken
                exact .inl ⟨⟨rfl, granted⟩, spans⟩
            | markAbsent left => exact taken.elim
            | addHoliday name first last => exact taken.elim
            | changeHoliday key name first last => exact taken.elim
            | deleteHoliday key => exact taken.elim
          · exact .inr ⟨waiting.mpr ⟨accepted, taken⟩,
              spans_of_requests (advances.requests pk) spans⟩
  | addHoliday name first last => exact Iff.rfl
  | changeHoliday pk name first last => exact Iff.rfl
  | deleteHoliday pk => exact Iff.rfl

end Advances

/-- What a run does to the leaves and to the set of recorded days, read from the
register before it. -/
structure Outcome (ops : List AttendanceOp) (start register : Register) :
    Prop where
  requests : ∀ pk, (register.leaves.get? pk).map LeaveRequest.request =
    (start.leaves.get? pk).map LeaveRequest.request
  granted : ∀ pk, register.Granted pk ↔
    start.Granted pk ∨ ∃ op ∈ ops, op.Accepts start pk
  recorded : ∀ employee day, register.Recorded employee day ↔
    start.Recorded employee day ∨ ∃ op ∈ ops, op.Records start employee day

theorem outcome_of_run (ops : List AttendanceOp) (start : Register)
    (careful : Txn.Throughout AttendanceOp.run AttendanceOp.careful ops start) :
    Outcome ops start (Txn.after AttendanceOp.run ops start) := by
  induction ops generalizing start with
  | nil =>
      refine ⟨fun _ => rfl, fun pk => ?_, fun employee day => ?_⟩
      · simp [Txn.after]
      · simp [Txn.after]
  | cons op ops induction =>
      have advances := advances_final careful.1
      have later := induction _ careful.2
      refine ⟨fun pk => (later.requests pk).trans (advances.requests pk), ?_, ?_⟩
      · intro pk
        rw [Txn.after, later.granted, advances.granted, List.exists_mem_cons_iff,
          or_assoc]
        simp only [advances.waiting]
        by_cases accepted : op.Accepts start pk
        · simp [accepted]
        · simp [accepted]
      · intro employee day
        rw [Txn.after, later.recorded, advances.recorded,
          List.exists_mem_cons_iff, or_assoc]
        apply or_congr_right
        constructor
        · rintro (records | ⟨other, member, records⟩)
          · exact .inl records
          · rcases (advances.records other employee day).mp (.inr records)
              with first | second
            · exact .inl first
            · exact .inr ⟨other, member, second⟩
        · rintro (records | ⟨other, member, records⟩)
          · exact .inl records
          · rcases (advances.records other employee day).mpr (.inr records)
              with first | second
            · exact .inl first
            · exact .inr ⟨other, member, second⟩

section TwoOrders

variable {ops others : List AttendanceOp} {start one other : Register}
variable {employee : ℕ} {day : ℤ}

private theorem leave_agrees (permuted : ops.Perm others)
    (left : Outcome ops start one) (right : Outcome others start other) {pk : ℕ}
    {leave : LeaveRequest} (found : one.leaves.get? pk = some leave)
    (approved : leave.status = .approved) :
    ∃ later, other.leaves.get? pk = some later ∧ later.status = .approved ∧
      later.request = leave.request := by
  have granted : other.Granted pk := by
    rw [right.granted]
    simpa only [permuted.mem_iff] using
      (left.granted pk).mp ⟨leave, found, approved⟩
  obtain ⟨later, stored, same⟩ := leave_of_requests
    ((right.requests pk).trans (left.requests pk).symm) found
  obtain ⟨held, looked, accepted⟩ := granted
  rw [stored] at looked
  obtain rfl := Option.some.inj looked
  exact ⟨later, stored, accepted, same⟩

private theorem onLeave_agrees (permuted : ops.Perm others)
    (left : Outcome ops start one) (right : Outcome others start other)
    (covered : one.onLeave employee day = true) :
    other.onLeave employee day = true := by
  obtain ⟨pk, leave, found, approved, owner, lower, upper⟩ :=
    Register.onLeave_iff.mp covered
  obtain ⟨later, stored, accepted, same⟩ :=
    leave_agrees permuted left right found approved
  obtain ⟨employees, -, first, last⟩ := LeaveRequest.request_eq same
  exact Register.onLeave_iff.mpr ⟨pk, later, stored, accepted,
    employees.trans owner, first.trans_le lower, upper.trans_eq last.symm⟩

private theorem onUnpaidLeave_agrees (permuted : ops.Perm others)
    (left : Outcome ops start one) (right : Outcome others start other)
    (covered : one.onUnpaidLeave employee day = true) :
    other.onUnpaidLeave employee day = true := by
  obtain ⟨pk, leave, found, approved, unpaid, owner, lower, upper⟩ :=
    Register.onUnpaidLeave_iff.mp covered
  obtain ⟨later, stored, accepted, same⟩ :=
    leave_agrees permuted left right found approved
  obtain ⟨employees, types, first, last⟩ := LeaveRequest.request_eq same
  exact Register.onUnpaidLeave_iff.mpr ⟨pk, later, stored, accepted,
    types.trans unpaid, employees.trans owner, first.trans_le lower,
    upper.trans_eq last.symm⟩

private theorem recorded_agrees (permuted : ops.Perm others)
    (left : Outcome ops start one) (right : Outcome others start other)
    (recorded : one.Recorded employee day) : other.Recorded employee day := by
  rw [right.recorded]
  simpa only [permuted.mem_iff] using
    (left.recorded employee day).mp recorded

/-- Two registers that a payslip cannot tell apart. -/
structure Agrees (start one other : Register) : Prop where
  left : Lawful start one
  right : Lawful start other
  recorded : ∀ employee day, one.Recorded employee day →
    other.Recorded employee day
  status : ∀ employee day,
    one.lawfulStatus employee day = other.lawfulStatus employee day
  unpaid : ∀ employee day, one.onUnpaidLeave employee day = true →
    other.onUnpaidLeave employee day = true

theorem agrees_of_perm {ops others : List AttendanceOp} {start : Register}
    (permuted : ops.Perm others) (unique : start.Unique)
    (careful : Txn.Throughout AttendanceOp.run AttendanceOp.careful ops start)
    (again : Txn.Throughout AttendanceOp.run AttendanceOp.careful others start)
    (holidays : ∀ day, (Txn.after AttendanceOp.run ops start).isHoliday day =
      (Txn.after AttendanceOp.run others start).isHoliday day) :
    Agrees start (Txn.after AttendanceOp.run ops start)
      (Txn.after AttendanceOp.run others start) where
  left := lawful_of_run ops start unique careful
  right := lawful_of_run others start unique again
  recorded employee day := recorded_agrees permuted
    (outcome_of_run ops start careful) (outcome_of_run others start again)
  status employee day := by
    have left := outcome_of_run ops start careful
    have right := outcome_of_run others start again
    have leaves : (Txn.after AttendanceOp.run ops start).onLeave employee day =
        (Txn.after AttendanceOp.run others start).onLeave employee day := by
      rw [Bool.eq_iff_iff]
      exact ⟨onLeave_agrees permuted left right,
        onLeave_agrees permuted.symm right left⟩
    rw [Register.lawfulStatus, Register.lawfulStatus, holidays, leaves]
  unpaid employee day := onUnpaidLeave_agrees permuted
    (outcome_of_run ops start careful) (outcome_of_run others start again)

def Register.Shows (register : Register) (employee : ℕ) (day : ℤ)
    (status : AttendanceStatus) : Prop :=
  ∃ pk record, register.Stored employee day pk record ∧ record.status = status

theorem Agrees.shows (agrees : Agrees start one other)
    (lawful : start.HasStatus employee day (start.lawfulStatus employee day))
    {status : AttendanceStatus} (shown : one.Shows employee day status) :
    other.Shows employee day status := by
  obtain ⟨pk, record, stored, rfl⟩ := shown
  by_cases absent : record.clockIn = none
  · obtain ⟨key, later, held⟩ := agrees.recorded employee day
      ⟨pk, record, stored⟩
    have unclocked : later.clockIn = none := by
      by_contra present
      have kept := (agrees.right.carries.clocked key later present).mp held.1
      have carried := (agrees.left.carries.clocked key later present).mpr kept
      obtain rfl := agrees.left.unique employee day pk record key later stored
        ⟨carried, held.2⟩
      rw [stored.1] at carried
      obtain rfl := Option.some.inj carried
      exact present absent
    refine ⟨key, later, held, ?_⟩
    rw [agrees.right.lawful employee day lawful key later held unclocked,
      agrees.left.lawful employee day lawful pk record stored absent,
      agrees.status]
  · have kept := (agrees.left.carries.clocked pk record absent).mp stored.1
    have carried := (agrees.right.carries.clocked pk record absent).mpr kept
    exact ⟨pk, record, ⟨carried, stored.2⟩, rfl⟩

end TwoOrders

namespace Register

variable {register : Register} {employee : ℕ} {first last : ℤ}

def daysWith (register : Register) (employee : ℕ) (status : AttendanceStatus)
    (first last : ℤ) : List ℤ :=
  (register.records.rows.filter fun row =>
    row.2.employee = employee ∧ row.2.status = status ∧
      first ≤ row.2.date ∧ row.2.date ≤ last).map fun row => row.2.date

theorem mem_daysWith {status : AttendanceStatus} {day : ℤ} :
    day ∈ register.daysWith employee status first last ↔
      register.Shows employee day status ∧ first ≤ day ∧ day ≤ last := by
  simp only [daysWith, List.mem_map, List.mem_filter, decide_eq_true_eq]
  constructor
  · rintro ⟨row, ⟨member, owner, marked, lower, upper⟩, rfl⟩
    exact ⟨⟨row.1, row.2, ⟨Table.get?_eq_some.mpr member, owner, rfl⟩, marked⟩,
      lower, upper⟩
  · rintro ⟨⟨pk, record, ⟨stored, owner, rfl⟩, marked⟩, lower, upper⟩
    exact ⟨(pk, record),
      ⟨Table.get?_eq_some.mp stored, owner, marked, lower, upper⟩, rfl⟩

theorem nodup_daysWith (unique : register.Unique) (status : AttendanceStatus) :
    (register.daysWith employee status first last).Nodup := by
  apply List.Nodup.map_on
  · intro row member later also same
    rw [List.mem_filter, decide_eq_true_eq] at member also
    have keys : row.1 = later.1 := unique employee row.2.date row.1 row.2
      later.1 later.2
      ⟨Table.get?_eq_some.mpr member.1, member.2.1, rfl⟩
      ⟨Table.get?_eq_some.mpr also.1, also.2.1, same.symm⟩
    exact List.inj_on_of_nodup_map register.records.keys_nodup member.1 also.1
      keys
  · exact (List.Nodup.of_map _ register.records.keys_nodup).filter _

theorem daysAbsent_eq : register.daysAbsent employee first last =
    (register.daysWith employee .absent first last).length := by
  rw [daysAbsent, daysWith, List.length_map, List.countP_eq_length_filter]

theorem mem_unpaid {day : ℤ} :
    day ∈ ((register.records.rows.filter fun row =>
      row.2.employee = employee ∧ row.2.status = .excused ∧
        first ≤ row.2.date ∧ row.2.date ≤ last ∧
        register.onUnpaidLeave employee row.2.date = true).map
          fun row => row.2.date).dedup ↔
      day ∈ register.daysWith employee .excused first last ∧
        register.onUnpaidLeave employee day = true := by
  simp only [daysWith, List.mem_dedup, List.mem_map, List.mem_filter,
    decide_eq_true_eq]
  constructor
  · rintro ⟨row, ⟨member, owner, marked, lower, upper, covered⟩, rfl⟩
    exact ⟨⟨row, ⟨member, owner, marked, lower, upper⟩, rfl⟩, covered⟩
  · rintro ⟨⟨row, ⟨member, owner, marked, lower, upper⟩, rfl⟩, covered⟩
    exact ⟨row, ⟨member, owner, marked, lower, upper, covered⟩, rfl⟩

end Register

theorem Agrees.daysWith {start one other : Register} {employee : ℕ}
    {first last : ℤ} (agrees : Agrees start one other)
    (lawful : ∀ day, first ≤ day → day ≤ last →
      start.HasStatus employee day (start.lawfulStatus employee day))
    {status : AttendanceStatus} {day : ℤ}
    (member : day ∈ one.daysWith employee status first last) :
    day ∈ other.daysWith employee status first last := by
  obtain ⟨shown, lower, upper⟩ := Register.mem_daysWith.mp member
  exact Register.mem_daysWith.mpr
    ⟨agrees.shows (lawful day lower upper) shown, lower, upper⟩

theorem deductions_eq {start one other : Register} {employee : ℕ}
    {first last : ℤ} (agrees : Agrees start one other)
    (back : Agrees start other one)
    (lawful : ∀ day, first ≤ day → day ≤ last →
      start.HasStatus employee day (start.lawfulStatus employee day)) :
    one.daysAbsent employee first last = other.daysAbsent employee first last ∧
      one.unpaidLeaveDays employee first last =
        other.unpaidLeaveDays employee first last := by
  constructor
  · rw [Register.daysAbsent_eq, Register.daysAbsent_eq]
    apply List.Perm.length_eq
    rw [List.perm_ext_iff_of_nodup
      (Register.nodup_daysWith agrees.left.unique _)
      (Register.nodup_daysWith agrees.right.unique _)]
    exact fun day => ⟨agrees.daysWith lawful, back.daysWith lawful⟩
  · apply List.Perm.length_eq
    rw [List.perm_ext_iff_of_nodup (List.nodup_dedup _) (List.nodup_dedup _)]
    intro day
    rw [Register.mem_unpaid, Register.mem_unpaid]
    constructor
    · rintro ⟨member, covered⟩
      exact ⟨agrees.daysWith lawful member, agrees.unpaid employee day covered⟩
    · rintro ⟨member, covered⟩
      exact ⟨back.daysWith lawful member, back.unpaid employee day covered⟩

/-- After every run whose approvals are careful, a day that started in order
has the status that the holidays and the leaves of the moment give it, no
record with a clock-in is changed, and another order of the same events deducts
the same days. -/
theorem dayStatus_of_run (ops : List AttendanceOp) (start : Register)
    (unique : start.Unique)
    (careful : Txn.Throughout AttendanceOp.run AttendanceOp.careful ops start) :
    (∀ employee day,
      start.HasStatus employee day (start.lawfulStatus employee day) →
      (Txn.after AttendanceOp.run ops start).HasStatus employee day
        ((Txn.after AttendanceOp.run ops start).lawfulStatus employee day)) ∧
    (∀ pk record, record.clockIn ≠ none →
      ((Txn.after AttendanceOp.run ops start).records.get? pk = some record ↔
        start.records.get? pk = some record)) ∧
    ∀ others : List AttendanceOp, ops.Perm others →
      Txn.Throughout AttendanceOp.run AttendanceOp.careful others start →
      (∀ day, (Txn.after AttendanceOp.run ops start).isHoliday day =
        (Txn.after AttendanceOp.run others start).isHoliday day) →
      ∀ employee first last,
        (∀ day, first ≤ day → day ≤ last →
          start.HasStatus employee day (start.lawfulStatus employee day)) →
        (Txn.after AttendanceOp.run ops start).daysAbsent employee first last =
          (Txn.after AttendanceOp.run others start).daysAbsent employee first
            last ∧
        (Txn.after AttendanceOp.run ops start).unpaidLeaveDays employee first
            last =
          (Txn.after AttendanceOp.run others start).unpaidLeaveDays employee
            first last := by
  have kept := lawful_of_run ops start unique careful
  refine ⟨kept.lawful, kept.carries.clocked, ?_⟩
  intro others permuted again holidays employee first last lawful
  exact deductions_eq
    (agrees_of_perm permuted unique careful again holidays)
    (agrees_of_perm permuted.symm unique again careful fun day =>
      (holidays day).symm) lawful

theorem Register.unique_of_rows {register : Register}
    (apart : ∀ row ∈ register.records.rows, ∀ other ∈ register.records.rows,
      row.2.employee = other.2.employee → row.2.date = other.2.date →
      row.1 = other.1) : register.Unique := by
  intro employee day first earlier second later one other
  obtain ⟨found, rfl, rfl⟩ := one
  obtain ⟨stored, owner, dated⟩ := other
  exact apart (first, earlier) (Table.get?_eq_some.mp found) (second, later)
    (Table.get?_eq_some.mp stored) owner.symm dated.symm

theorem Register.lawful_of_rows {register : Register}
    (lawful : ∀ row ∈ register.records.rows, row.2.clockIn = none →
      row.2.status = register.lawfulStatus row.2.employee row.2.date)
    (employee : ℕ) (day : ℤ) :
    register.HasStatus employee day (register.lawfulStatus employee day) := by
  rintro pk record ⟨found, rfl, rfl⟩ absent
  exact lawful (pk, record) (Table.get?_eq_some.mp found) absent

/-- Two employees with a shift on every day; the first one clocked in on the
third day and waits for two leaves, one of them unpaid. -/
def registerOpened : Register where
  employees := (Table.empty.insert { isHrManager := true }).insert {}
  shifts := Table.empty.insert
    { daysOfWeek := ["sat", "sun", "mon", "tue", "wed", "thu", "fri"] }
  assignments := (Table.empty.insert ⟨0, 0, 0, none⟩).insert ⟨1, 0, 0, none⟩
  records := (Table.empty.insert
    { employee := 0
      date := 3
      status := .present
      clockIn := some 540 }).insert
    { employee := 1
      date := 2 }
  leaves := (Table.empty.insert
    { employee := 0
      leaveType := .unpaid
      fromDate := 2
      toDate := 5 }).insert
    { employee := 0
      leaveType := .annual
      fromDate := 5
      toDate := 6 }
  holidays := Table.empty

def lateApprovals : List AttendanceOp :=
  [.markAbsent 4, .addHoliday "عيد" 4 (some 5), .markAbsent 6,
    .changeHoliday 0 "عيد" 5 none, .approveLeave 0 (some 0) none "" 600,
    .approveLeave 1 (some 0) none "" 601]

def earlyApprovals : List AttendanceOp :=
  [.approveLeave 1 (some 0) none "" 601, .approveLeave 0 (some 0) none "" 600,
    .addHoliday "عيد" 4 (some 5), .markAbsent 6,
    .changeHoliday 0 "عيد" 5 none, .markAbsent 4]

theorem dayStatus_of_lateApprovals :
    (Txn.after AttendanceOp.run lateApprovals registerOpened).HasStatus 0 4
      ((Txn.after AttendanceOp.run lateApprovals registerOpened).lawfulStatus
        0 4) ∧
    (Txn.after AttendanceOp.run lateApprovals registerOpened).unpaidLeaveDays
        0 1 30 =
      (Txn.after AttendanceOp.run earlyApprovals registerOpened).unpaidLeaveDays
        0 1 30 := by
  have unique : registerOpened.Unique :=
    Register.unique_of_rows (by decide +kernel)
  have lawful := Register.lawful_of_rows
    (show ∀ row ∈ registerOpened.records.rows, row.2.clockIn = none →
      row.2.status = registerOpened.lawfulStatus row.2.employee row.2.date by
        decide +kernel)
  have careful : Txn.Throughout AttendanceOp.run AttendanceOp.careful
    lateApprovals registerOpened := Txn.throughout_of_checks (by decide +kernel)
  have again : Txn.Throughout AttendanceOp.run AttendanceOp.careful
    earlyApprovals registerOpened := Txn.throughout_of_checks (by decide +kernel)
  have holidays : (Txn.after AttendanceOp.run lateApprovals
      registerOpened).holidays = (Txn.after AttendanceOp.run earlyApprovals
        registerOpened).holidays := by decide +kernel
  obtain ⟨status, -, deductions⟩ :=
    dayStatus_of_run lateApprovals registerOpened unique careful
  refine ⟨status 0 4 (lawful 0 4), (deductions earlyApprovals (by decide +kernel)
    again ?_ 0 1 30 fun day _ _ => lawful 0 day).2⟩
  intro day
  rw [Register.isHoliday, holidays, ← Register.isHoliday]

def registerEntered : Register :=
  { registerOpened with
    records := Table.empty.insert
      { employee := 0
        date := 3
        clockIn := some 540 } }

/-- The approval of the leave excuses a day that has a clock-in. -/
theorem approveLeave_excuses_clocked :
    ¬ ∀ (ops : List AttendanceOp) (start : Register), start.Unique →
      ∀ pk record, record.clockIn ≠ none →
        start.records.get? pk = some record →
        (Txn.after AttendanceOp.run ops start).records.get? pk =
          some record := by
  intro kept
  have stays := kept [.approveLeave 0 (some 0) none "" 600] registerEntered
    (Register.unique_of_rows (by decide +kernel)) 0
    { employee := 0
      date := 3
      clockIn := some 540 } (by decide) (by decide +kernel)
  revert stays
  decide +kernel

end Mousstec.Attendance
