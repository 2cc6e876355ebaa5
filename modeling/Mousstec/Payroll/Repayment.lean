import Mousstec.Payroll.PayrollRuns

/-!
# Repayment of advances

An approved advance is cut into installments, and paying a run out closes the
advances of its employees that have nothing left to deduct.  Over any run of
the payroll the installments of an advance keep adding up to it.  That every
payslip deducts what is marked with it needs schedules without a negative
installment, and that an advance is only closed by money withheld needs that a
run is paid out before a later month counts the same installments.
-/

namespace Mousstec.Payroll

open Library

section Approval

variable {before after : Office} {pk : ℕ} {advance : Advance} {today : Date}

def Advance.schedule (advance : Advance) (pk : ℕ) (today : Date) :
    List AdvanceInstallment :=
  scheduleFrom pk 1 (today.index + 1)
    (scheduleAmounts advance.baseInstallment advance.amount
      advance.installmentsCount 0)

structure Approved (pk : ℕ) (today : Date) (before after : Office)
    (advance : Advance) : Prop where
  stored : before.advances.get? pk = some advance
  pending : advance.status = .pending
  count : advance.installmentsCount ≠ 0
  advances : ∃ approvedBy, after.advances = before.advances.modify pk
    fun stored => { stored with status := .approved, approvedBy }
  installments : after.installments =
    insertAll before.installments (advance.schedule pk today)
  entries : after.entries = before.entries
  runs : after.runs = before.runs

theorem approveAdvance_eq_ok {approvedBy : Option ℕ} {allowed : Bool} :
    approveAdvance pk approvedBy allowed today before = .ok ⟨⟩ after ↔
      ∃ advance, before.advances.get? pk = some advance ∧
        advance.status = .pending ∧ allowed = true ∧
        inCalendar (today.index + 1) ∧ advance.installmentsCount ≠ 0 ∧
        inCalendar (today.index + advance.installmentsCount) ∧
        { before with
          advances := before.advances.modify pk fun stored =>
            { stored with status := .approved, approvedBy }
          installments :=
            insertAll before.installments (advance.schedule pk today) } =
          after := by
  rw [approveAdvance, Txn.atomic_eq_ok, Txn.get_bind, Txn.expect_bind_eq_ok]
  simp only [Txn.require_bind_eq_ok, Txn.set_bind, generateInstallments,
    Txn.modify_eq_ok]
  exact Iff.rfl

theorem approveAdvance_ok {approvedBy : Option ℕ} {allowed : Bool}
    (returned : approveAdvance pk approvedBy allowed today before =
      .ok ⟨⟩ after) :
    ∃ advance, Approved pk today before after advance := by
  obtain ⟨advance, stored, pending, -, -, count, -, rfl⟩ :=
    approveAdvance_eq_ok.mp returned
  exact ⟨advance, stored, pending, count, ⟨approvedBy, rfl⟩, rfl, rfl, rfl⟩

theorem schedule_fresh {row : AdvanceInstallment}
    (member : row ∈ advance.schedule pk today) :
    FreshOf pk row ∧ row.amount ∈ scheduleAmounts advance.baseInstallment
      advance.amount advance.installmentsCount 0 :=
  scheduleFrom_fresh row member

private theorem sum_weigh_fresh {rows : List AdvanceInstallment}
    (fresh : ∀ row ∈ rows, FreshOf pk row) (weight : Weight) :
    (rows.map fun row => row.weigh weight).sum =
      weight pk .scheduled none *
        (rows.map AdvanceInstallment.amount).sum := by
  induction rows with
  | nil => simp
  | cons row rest induction =>
      obtain ⟨owner, status, link⟩ := fresh row List.mem_cons_self
      rw [List.map_cons, List.sum_cons, List.map_cons, List.sum_cons,
        induction fun row member => fresh row (List.mem_cons_of_mem _ member),
        AdvanceInstallment.weigh, owner, status, link]
      ring

theorem weighed_schedule (count : advance.installmentsCount ≠ 0)
    (table : Table AdvanceInstallment) (weight : Weight) :
    weighed (insertAll table (advance.schedule pk today)) weight =
      weighed table weight + weight pk .scheduled none * advance.amount := by
  rw [weighed_insertAll,
    sum_weigh_fresh (fun row member => (schedule_fresh member).1),
    Advance.schedule, sum_scheduleFrom, sum_scheduleAmounts count, sub_zero]

namespace Approved

variable (approved : Approved pk today before after advance)
include approved

theorem get?_advances {other : ℕ} {later : Advance}
    (found : after.advances.get? other = some later) :
    (other = pk ∧ later.status = .approved ∧ later.amount = advance.amount ∧
        later.isGranted = true) ∨
      (other ≠ pk ∧ before.advances.get? other = some later) := by
  obtain ⟨approvedBy, written⟩ := approved.advances
  rw [written, Table.get?_modify] at found
  split at found
  · rename_i same
    rw [approved.stored] at found
    cases found
    exact .inl ⟨same, rfl, rfl, by simp [Advance.isGranted, Advance.isOpen]⟩
  · rename_i other
    exact .inr ⟨other, found⟩

theorem advances_of_ne {other : ℕ} (different : other ≠ pk) :
    after.advances.get? other = before.advances.get? other := by
  obtain ⟨approvedBy, written⟩ := approved.advances
  rw [written, Table.get?_modify, if_neg different]

theorem get?_self : ∃ later, after.advances.get? pk = some later ∧
    later.isGranted = true ∧ later.employee = advance.employee := by
  obtain ⟨approvedBy, written⟩ := approved.advances
  rw [written, Table.get?_modify_self, approved.stored]
  exact ⟨_, rfl, by simp [Advance.isGranted, Advance.isOpen], rfl⟩

theorem unused (kept : Kept before) {key : ℕ} {row : AdvanceInstallment}
    (found : before.installments.get? key = some row) : row.advance ≠ pk := by
  intro owned
  obtain ⟨stored, held, granted⟩ := kept.granted key row found
  rw [owned, approved.stored] at held
  cases held
  simp [Advance.isGranted, Advance.isOpen, approved.pending] at granted

theorem kept (kept : Kept before) : Kept after where
  granted key row found := by
    rw [approved.installments] at found
    rcases get?_insertAll found with stored | added
    · rw [approved.advances_of_ne (approved.unused kept stored)]
      exact kept.granted key row stored
    · obtain ⟨later, held, granted, -⟩ := approved.get?_self
      exact ⟨later, (schedule_fresh added).1.1 ▸ held, granted⟩
  sums other later found granted := by
    rw [approved.installments, weighed_schedule approved.count]
    rcases approved.get?_advances found with ⟨rfl, -, amount, -⟩ | ⟨different, stored⟩
    · have none : weighed before.installments (ofAdvance other) = 0 := by
        apply weighed_eq_zero
        intro key row stored
        exact if_neg (approved.unused kept stored)
      rw [none, amount, ofAdvance, if_pos rfl, zero_add, one_mul]
    · rw [kept.sums other later stored granted, ofAdvance,
        if_neg (Ne.symm different), zero_mul, add_zero]
  deducted key row found closed := by
    rw [approved.installments] at found
    rcases get?_insertAll found with stored | added
    · exact kept.deducted key row stored closed
    · rw [(schedule_fresh added).1.2.1] at closed
      cases closed
  linked key row link found linked := by
    rw [approved.installments] at found
    rcases get?_insertAll found with stored | added
    · rw [approved.entries,
        approved.advances_of_ne (approved.unused kept stored)]
      exact kept.linked key row link stored linked
    · rw [(schedule_fresh added).1.2.2] at linked
      cases linked
  runs := by
    rw [approved.entries, approved.runs]
    exact kept.runs
  affordable := by
    rw [approved.entries]
    exact kept.affordable

theorem exact (exact : ExactAll before)
    (even : 0 ≤ advance.amount ∧ advance.baseInstallment *
      (advance.installmentsCount - 1) ≤ advance.amount) : ExactAll after where
  nonneg key row found := by
    rw [approved.installments] at found
    rcases get?_insertAll found with stored | added
    · exact exact.nonneg key row stored
    · refine scheduleAmounts_nonneg ?_ ?_ _ (schedule_fresh added).2
      · apply roundHalfEven_nearest.nonneg
        have amount : (0 : ℚ) ≤ advance.amount := by exact_mod_cast even.1
        positivity
      · rw [zero_add]
        exact even.2
  deduction key entry found _ := by
    rw [approved.entries] at found
    rw [approved.installments, weighed_schedule approved.count,
      exact.deduction key entry found id]
    simp [deductedIn]

theorem isPaid : after.isPaid = before.isPaid := by
  refine isPaid_congr approved.entries fun other => ?_
  rw [approved.runs]

theorem repaid (repaid : Repaid before) : Repaid after where
  completed other later found closed key row stored owned := by
    rw [approved.installments] at stored
    unfold Office.PaidOut
    rw [approved.isPaid]
    rcases approved.get?_advances found with ⟨-, open_, -⟩ | ⟨different, held⟩
    · rw [open_] at closed
      cases closed
    · rcases get?_insertAll stored with stored | added
      · exact repaid.completed other later held closed key row stored owned
      · exact absurd (owned.symm.trans (schedule_fresh added).1.1) different
  remaining other later found status := by
    rcases approved.get?_advances found with ⟨-, open_, -⟩ | ⟨different, held⟩
    · rw [open_] at status
      rcases status with status | status
      · cases status
      · cases status
    · rw [approved.isPaid, approved.installments,
        weighed_schedule approved.count,
        repaid.remaining other later held status]
      simp [paidFor]

theorem carries : Carries before after where
  closed other later stored completed := by
    rw [approved.advances_of_ne]
    · exact stored
    · rintro rfl
      rw [approved.stored] at stored
      cases stored
      rw [approved.pending] at completed
      cases completed
  paidOut key row stored held := by
    refine ⟨?_, held.1, approved.isPaid ▸ held.2⟩
    rw [approved.installments]
    exact insertAll_keeps _ stored

end Approved

end Approval

section Disbursement

variable {before after : Office} {pk : ℕ}

theorem approvePayroll_ok {approvedBy : Option ℕ}
    (returned : approvePayroll pk approvedBy before = .ok ⟨⟩ after) :
    ∃ run, before.runs.get? pk = some run ∧ run.status = .calculated ∧
      after = { before with
        runs := before.runs.modify pk fun stored =>
          { stored with status := .approved, approvedBy } } := by
  rw [approvePayroll, Txn.atomic_eq_ok, Txn.get_bind] at returned
  simp only [Txn.bind_eq_ok, Txn.expect_eq_ok, Txn.require_eq_ok,
    Txn.set_eq_ok] at returned
  obtain ⟨run, _, ⟨stored, rfl⟩, -, _, ⟨calculated, rfl⟩, rfl⟩ := returned
  exact ⟨run, stored, calculated, rfl⟩

/-- An approval writes the status of its run only. -/
theorem approvePayroll_frame {approvedBy : Option ℕ}
    (returned : approvePayroll pk approvedBy before = .ok ⟨⟩ after) :
    after.installments = before.installments ∧
      after.advances = before.advances ∧ after.entries = before.entries ∧
      after.isPaid = before.isPaid ∧
      ∀ key run, before.runs.get? key = some run →
        ∃ later, after.runs.get? key = some later := by
  obtain ⟨run, stored, calculated, rfl⟩ := approvePayroll_ok returned
  refine ⟨rfl, rfl, rfl, isPaid_congr rfl fun other => ?_, ?_⟩
  · rw [Table.get?_modify]
    split
    · rename_i same
      simp [same, stored, calculated]
    · rfl
  · intro key other held
    rw [Table.get?_modify]
    split
    · rw [stored]
      exact ⟨_, rfl⟩
    · exact ⟨other, held⟩

def Office.settled (office : Office) (entries : List PayrollEntry) (pk : ℕ)
    (advance : Advance) : Advance :=
  if advance.isOpen ∧ entries.any fun entry =>
      entry.employee = advance.employee then
    office.settleAdvance pk advance
  else advance

theorem settleAdvance_keeps (office : Office) (pk : ℕ) (advance : Advance) :
    (office.settleAdvance pk advance).employee = advance.employee ∧
      (office.settleAdvance pk advance).amount = advance.amount ∧
      (office.settleAdvance pk advance).isGranted = true ∧
      office.settleAdvance pk (office.settleAdvance pk advance) =
        office.settleAdvance pk advance := by
  unfold Office.settleAdvance
  split
  · simp [Advance.isGranted]
  · simp [Advance.isGranted, Advance.isOpen]

theorem settleEntries_eq (office : Office) (entries : List PayrollEntry) :
    office.settleEntries entries = { office with
      advances := office.advances.map (office.settled entries) } := by
  induction entries generalizing office with
  | nil =>
      have same : office.advances.map (office.settled []) = office.advances := by
        apply Table.ext
        · simp [Table.map, Office.settled]
        · rfl
      rw [same]
      rfl
  | cons entry rest induction =>
      have once : office.settleEntries (entry :: rest) =
          (office.settleEmployee entry.employee).settleEntries rest := rfl
      rw [once, induction]
      refine congrArg (fun advances => { office with advances }) ?_
      apply Table.ext
      · simp only [Office.settleEmployee, Table.map, List.map_map]
        apply List.map_congr_left
        rintro ⟨key, advance⟩ _
        obtain ⟨employee, -, -, again⟩ := settleAdvance_keeps office key advance
        have frame : ∀ advances, Office.settleAdvance
            { office with advances } key = office.settleAdvance key :=
          fun _ => rfl
        simp only [Function.comp_apply, Prod.mk.injEq, true_and,
          Office.settled, frame, List.any_cons]
        by_cases own : advance.employee = entry.employee ∧ advance.isOpen = true
        · rw [if_pos own, again, ite_self]
          simp [own.1, own.2]
        · rw [if_neg own]
          refine if_congr (and_congr_right fun open_ => ?_) rfl rfl
          have other : entry.employee ≠ advance.employee :=
            fun same => own ⟨same.symm, open_⟩
          simp [other]
      · rfl

/-- What paying a run out found and wrote. -/
structure PaidOff (pk : ℕ) (before after : Office) : Prop where
  run : ∃ run, before.runs.get? pk = some run ∧ run.status = .approved
  office : after = { before with
    advances := before.advances.map (before.settled (before.entriesOf pk))
    runs := before.runs.modify pk fun stored => { stored with status := .paid } }

theorem disbursePayroll_ok {postings : Option HRError}
    (returned : disbursePayroll pk postings before = .ok ⟨⟩ after) :
    PaidOff pk before after := by
  rw [disbursePayroll, Txn.atomic_eq_ok, Txn.get_bind] at returned
  cases postings with
  | some error =>
      simp [Txn.bind_eq_ok] at returned
  | none =>
      simp only [Txn.bind_eq_ok, Txn.expect_eq_ok, Txn.require_eq_ok,
        Txn.set_eq_ok, Txn.modify_eq_ok, settleEntries_eq] at returned
      obtain ⟨run, _, ⟨stored, rfl⟩, -, _, ⟨approved, rfl⟩, -, _, rfl, rfl⟩ :=
        returned
      exact ⟨⟨run, stored, approved⟩, rfl⟩

/-- Whatever the open advances of the employees of a run had deducted was
deducted in it or in a run paid before. -/
def Office.Withheld (office : Office) (run : ℕ) : Prop :=
  ∀ pk advance, office.advances.get? pk = some advance →
    advance.isOpen = true →
    (office.entriesOf run).any (fun entry =>
      entry.employee = advance.employee) = true →
    ∀ key row, office.installments.get? key = some row → row.advance = pk →
      row.status = .deducted → office.PaidOut row ∨ office.isOf run row = true

instance (office : Office) (row : AdvanceInstallment) :
    Decidable (office.PaidOut row) :=
  inferInstanceAs (Decidable (_ ∧ _))

instance (office : Office) (run : ℕ) : Decidable (office.Withheld run) :=
  inferInstanceAs (Decidable (∀ pk advance,
    office.advances.get? pk = some advance → _ → _ → ∀ key row,
      office.installments.get? key = some row → _ → _ → _))

namespace PaidOff

variable (paidOff : PaidOff pk before after)
include paidOff

theorem isPaid_iff {key : ℕ} : after.isPaid key = true ↔
    before.isPaid key = true ∨ ∃ entry,
      before.entries.get? key = some entry ∧ entry.payrollRun = pk := by
  obtain ⟨⟨run, stored, -⟩, rfl⟩ := paidOff
  unfold Office.isPaid
  cases held : before.entries.get? key with
  | none => simp
  | some entry =>
      by_cases own : entry.payrollRun = pk
      · simp [own, stored, Table.get?_modify]
      · simp [own, Table.get?_modify]

theorem paidOut_iff {row : AdvanceInstallment} : after.PaidOut row ↔
    before.PaidOut row ∨ row.status = .deducted ∧ before.isOf pk row = true := by
  unfold Office.PaidOut
  rw [isOf_iff, ← and_or_left]
  refine and_congr_right fun _ => ?_
  cases row.deductedInPayroll with
  | none => simp
  | some key =>
      rw [Option.any_some, Option.any_some, paidOff.isPaid_iff]
      simp

theorem get?_advances {key : ℕ} {advance : Advance}
    (found : after.advances.get? key = some advance) :
    ∃ old, before.advances.get? key = some old ∧
      advance = before.settled (before.entriesOf pk) key old := by
  obtain ⟨-, rfl⟩ := paidOff
  rw [Table.get?_map, Option.map_eq_some_iff] at found
  obtain ⟨old, stored, rfl⟩ := found
  exact ⟨old, stored, rfl⟩

omit paidOff in
theorem settled_keeps (entries : List PayrollEntry) (key : ℕ)
    (advance : Advance) :
    (before.settled entries key advance).employee = advance.employee ∧
      (before.settled entries key advance).amount = advance.amount ∧
      (before.settled entries key advance).isGranted = advance.isGranted := by
  unfold Office.settled
  split
  · rename_i closes
    obtain ⟨employee, amount, granted, -⟩ :=
      settleAdvance_keeps before key advance
    refine ⟨employee, amount, ?_⟩
    rw [granted]
    simp [Advance.isGranted, closes.1]
  · exact ⟨rfl, rfl, rfl⟩

theorem kept (kept : Kept before) : Kept after := by
  obtain ⟨⟨run, stored, -⟩, rfl⟩ := paidOff
  constructor
  · intro key row found
    obtain ⟨advance, held, granted⟩ := kept.granted key row found
    refine ⟨_, by rw [Table.get?_map, held]; rfl, ?_⟩
    rw [(settled_keeps _ _ _).2.2]
    exact granted
  · intro key advance found granted
    rw [Table.get?_map, Option.map_eq_some_iff] at found
    obtain ⟨old, held, rfl⟩ := found
    obtain ⟨-, amount, same⟩ : _ ∧
        (before.settled (before.entriesOf pk) key old).amount = old.amount ∧ _ :=
      settled_keeps (before.entriesOf pk) key old
    rw [amount]
    exact kept.sums key old held (same ▸ granted)
  · exact kept.deducted
  · intro key row link found linked
    obtain ⟨entry, advance, looked, held, owner⟩ :=
      kept.linked key row link found linked
    refine ⟨entry, _, looked, by rw [Table.get?_map, held]; rfl, ?_⟩
    rw [(settled_keeps _ _ _).1]
    exact owner
  · intro key entry found
    obtain ⟨other, held⟩ := kept.runs key entry found
    rw [Table.get?_modify]
    split
    · rw [stored]
      exact ⟨_, rfl⟩
    · exact ⟨other, held⟩
  · exact kept.affordable

theorem exact (exact : ExactAll before) : ExactAll after := by
  obtain ⟨-, rfl⟩ := paidOff
  exact exact.congr rfl rfl

theorem carries : Carries before after where
  closed key advance stored completed := by
    obtain ⟨-, rfl⟩ := paidOff
    rw [Table.get?_map, stored, Option.map_some, Office.settled, if_neg]
    simp [Advance.isOpen, completed]
  paidOut key row stored held := by
    refine ⟨?_, paidOff.paidOut_iff.mpr (.inl held)⟩
    obtain ⟨-, rfl⟩ := paidOff
    exact stored

omit paidOff in
theorem countWith_eq_zero {statuses : List InstallmentStatus} {owner key : ℕ}
    {row : AdvanceInstallment} (none : before.countWith owner statuses = 0)
    (stored : before.installments.get? key = some row)
    (owned : row.advance = owner) : row.status ∉ statuses := by
  intro among
  unfold Office.countWith at none
  rw [List.length_eq_zero_iff, List.filter_eq_nil_iff] at none
  have excluded := none (key, row) (Table.get?_eq_some.mp stored)
  simp [owned, among] at excluded

/-- The rows of an advance that is counted anew are paid out as far as they are
deducted. -/
theorem paidOut_of_withheld (withheld : before.Withheld pk) {owner : ℕ}
    {old : Advance} (held : before.advances.get? owner = some old)
    (closes : old.isOpen = true ∧ (before.entriesOf pk).any (fun entry =>
      entry.employee = old.employee) = true) {key : ℕ}
    {row : AdvanceInstallment}
    (stored : before.installments.get? key = some row)
    (owned : row.advance = owner) (deducted : row.status = .deducted) :
    after.PaidOut row := by
  rw [paidOff.paidOut_iff]
  rcases withheld owner old held closes.1 closes.2 key row stored owned deducted
    with paid | own
  · exact .inl paid
  · exact .inr ⟨deducted, own⟩

theorem paidOut_of_other (kept : Kept before) (repaid : Repaid before)
    {owner : ℕ} {old : Advance} (held : before.advances.get? owner = some old)
    (status : old.status = .active ∨ old.status = .completed)
    (stays : ¬ (old.isOpen = true ∧ (before.entriesOf pk).any (fun entry =>
      entry.employee = old.employee) = true)) {key : ℕ}
    {row : AdvanceInstallment}
    (stored : before.installments.get? key = some row)
    (owned : row.advance = owner) : after.PaidOut row ↔ before.PaidOut row := by
  rw [paidOff.paidOut_iff, or_iff_left_iff_imp]
  rintro ⟨deducted, own⟩
  rcases status with active | completed
  · refine absurd ⟨by simp [Advance.isOpen, active], ?_⟩ stays
    obtain ⟨link, entry, linked, looked, ofRun⟩ := isOf_iff.mp own
    obtain ⟨payslip, advance, found, owner, employee⟩ :=
      kept.linked key row link stored linked
    rw [looked] at found
    cases found
    rw [owned, held] at owner
    cases owner
    rw [List.any_eq_true]
    refine ⟨entry, ?_, by simp [employee]⟩
    unfold Office.entriesOf
    rw [List.mem_filter]
    exact ⟨List.mem_map_of_mem (Table.get?_eq_some.mp looked), by simp [ofRun]⟩
  · exact repaid.completed owner old held completed key row stored owned

theorem repaid (repaid : Repaid before) (kept : Kept before)
    (withheld : before.Withheld pk) : Repaid after where
  completed owner advance found completed key row stored owned := by
    have same : after.installments = before.installments := by
      obtain ⟨-, rfl⟩ := paidOff
      rfl
    rw [same] at stored
    obtain ⟨old, held, rfl⟩ := paidOff.get?_advances found
    by_cases closes : old.isOpen = true ∧ (before.entriesOf pk).any (fun entry =>
      entry.employee = old.employee) = true
    · rw [Office.settled, if_pos closes, Office.settleAdvance] at completed
      split at completed
      · rename_i none
        have excluded := countWith_eq_zero none stored owned
        refine paidOff.paidOut_of_withheld withheld held closes stored owned ?_
        cases status : row.status with
        | scheduled => simp [status] at excluded
        | deducted => rfl
        | skipped => simp [status] at excluded
      · cases completed
    · rw [Office.settled, if_neg closes] at completed
      rw [paidOff.paidOut_of_other kept repaid held (.inr completed) closes
        stored owned]
      exact repaid.completed owner old held completed key row stored owned
  remaining owner advance found status := by
    have same : after.installments = before.installments := by
      obtain ⟨-, rfl⟩ := paidOff
      rfl
    rw [same]
    obtain ⟨old, held, rfl⟩ := paidOff.get?_advances found
    by_cases closes : old.isOpen = true ∧ (before.entriesOf pk).any (fun entry =>
      entry.employee = old.employee) = true
    · have rows : ∀ key row, before.installments.get? key = some row →
          row.advance = owner → row.status = .deducted → after.PaidOut row :=
        fun key row stored owned =>
          paidOff.paidOut_of_withheld withheld held closes stored owned
      rw [Office.settled, if_pos closes]
      unfold Office.settleAdvance
      split
      · rename_i none
        -- Everything is deducted, so the paid part is the whole amount.
        have granted : old.isGranted = true := by
          simp [Advance.isGranted, closes.1]
        have whole : weighed before.installments (paidFor after.isPaid owner) =
            weighed before.installments (ofAdvance owner) := by
          apply weighed_congr
          intro key row stored
          refine if_congr ⟨And.left, fun owned => ⟨owned, ?_⟩⟩ rfl rfl
          have excluded := countWith_eq_zero none stored owned
          refine rows key row stored owned ?_
          cases status : row.status with
          | scheduled => simp [status] at excluded
          | deducted => rfl
          | skipped => simp [status] at excluded
        rw [whole, kept.sums owner old held granted]
        simp
      · have part : before.deductedTotal owner =
            weighed before.installments (paidFor after.isPaid owner) := by
          apply Table.total_congr
          intro key row stored
          unfold AdvanceInstallment.weigh paidFor
          by_cases deducted : row.advance = owner ∧ row.status = .deducted
          · rw [if_pos deducted, if_pos, one_mul]
            exact ⟨deducted.1, rows key row stored deducted.1 deducted.2⟩
          · rw [if_neg deducted, if_neg, zero_mul]
            exact fun counted => deducted ⟨counted.1, counted.2.1⟩
        rw [part]
    · rw [Office.settled, if_neg closes] at status ⊢
      have same : weighed before.installments (paidFor after.isPaid owner) =
          weighed before.installments (paidFor before.isPaid owner) := by
        apply weighed_congr
        intro key row stored
        refine if_congr (and_congr_right fun owned => ?_) rfl rfl
        exact paidOff.paidOut_of_other kept repaid held status closes stored
          owned
      rw [same]
      exact repaid.remaining owner old held status

end PaidOff

end Disbursement

/-- What happens in the payroll office: staff, attendance and leaves change, and
advances and months are approved, calculated and paid. -/
inductive PayrollOp where
  | staff (settings : HRSettings) (employees : Table Employee)
      (attendance : Table AttendanceRecord) (leaves : Table LeaveRequest)
  | grant (pk : ℕ) (approvedBy : Option ℕ) (allowed : Bool) (today : Date)
  | calculate (month year : ℕ)
  | confirm (pk : ℕ) (approvedBy : Option ℕ)
  | pay (pk : ℕ) (postings : Option HRError)

namespace PayrollOp

def run : PayrollOp → HRTxn PUnit
  | staff settings employees attendance leaves =>
      modify fun office =>
        { office with settings, employees, attendance, leaves }
  | grant pk approvedBy allowed today =>
      approveAdvance pk approvedBy allowed today
  | calculate month year => do
      let _ ← generatePayroll month year
      pure ⟨⟩
  | confirm pk approvedBy => approvePayroll pk approvedBy
  | pay pk postings => disbursePayroll pk postings

/-- No approval cuts its advance into a negative installment. -/
def Even : PayrollOp → Office → Prop
  | grant pk _ _ _, office =>
      ∀ advance, office.advances.get? pk = some advance →
        0 ≤ advance.amount ∧ advance.baseInstallment *
          (advance.installmentsCount - 1) ≤ advance.amount
  | _, _ => True

/-- No run is paid while a run that is not paid holds installments of the
advances it settles. -/
def Withheld : PayrollOp → Office → Prop
  | pay pk _, office => office.Withheld pk
  | _, _ => True

end PayrollOp

theorem rollsBack_generatePayroll (month year : ℕ) :
    Txn.RollsBack (generatePayroll month year) := by
  unfold generatePayroll
  refine Txn.rollsBack_bind Txn.reads_get Txn.rollsBack_get fun office => ?_
  refine Txn.rollsBack_bind ?_ ?_ fun _ => Txn.rollsBack_bind
    (Txn.reads_require _ _) (Txn.rollsBack_require _ _)
    fun _ => Txn.rollsBack_atomic _
  · cases office.findRun month year with
    | none => exact Txn.reads_pure _
    | some row => exact Txn.reads_require _ _
  · cases office.findRun month year with
    | none => exact Txn.rollsBack_pure _
    | some row => exact Txn.rollsBack_require _ _

theorem PayrollOp.rollsBack (op : PayrollOp) : Txn.RollsBack op.run := by
  cases op with
  | staff settings employees attendance leaves =>
      exact fun _ _ _ failed => (Txn.modify_eq_error failed).elim
  | grant pk approvedBy allowed today => exact Txn.rollsBack_atomic _
  | calculate month year =>
      exact Txn.rollsBack_map (rollsBack_generatePayroll month year)
  | confirm pk approvedBy => exact Txn.rollsBack_atomic _
  | pay pk postings => exact Txn.rollsBack_atomic _

/-- An office before any advance is approved or month is calculated. -/
structure Office.Fresh (office : Office) : Prop where
  installments : ∀ key, office.installments.get? key = none
  entries : ∀ key, office.entries.get? key = none
  advances : ∀ pk advance, office.advances.get? pk = some advance →
    advance.isGranted = false

section Runs

variable {before after : Office}

private theorem calculate_ok {month year : ℕ}
    (returned : (PayrollOp.calculate month year).run before = .ok ⟨⟩ after) :
    ∃ pk, generatePayroll month year before = .ok pk after := by
  obtain ⟨pk, middle, generated, continued⟩ := Txn.bind_eq_ok.mp returned
  obtain ⟨-, rfl⟩ := Txn.pure_eq_ok.mp continued
  exact ⟨pk, generated⟩

theorem Kept.step (kept : Kept before) {op : PayrollOp}
    (returned : op.run before = .ok ⟨⟩ after) : Kept after := by
  cases op with
  | staff settings employees attendance leaves =>
      obtain rfl := Txn.modify_eq_ok.mp returned
      exact kept.congrRuns rfl rfl rfl fun _ run stored => ⟨run, stored⟩
  | grant pk approvedBy allowed today =>
      obtain ⟨advance, approved⟩ := approveAdvance_ok returned
      exact approved.kept kept
  | calculate month year =>
      obtain ⟨pk, generated⟩ := calculate_ok returned
      exact kept.generate generated
  | confirm pk approvedBy =>
      obtain ⟨installments, advances, entries, -, runs⟩ :=
        approvePayroll_frame returned
      exact kept.congrRuns installments entries advances runs
  | pay pk postings => exact (disbursePayroll_ok returned).kept kept

theorem ExactAll.step (exact : ExactAll before) (kept : Kept before)
    {op : PayrollOp} (even : op.Even before)
    (returned : op.run before = .ok ⟨⟩ after) : ExactAll after := by
  cases op with
  | staff settings employees attendance leaves =>
      obtain rfl := Txn.modify_eq_ok.mp returned
      exact exact.congr rfl rfl
  | grant pk approvedBy allowed today =>
      obtain ⟨advance, approved⟩ := approveAdvance_ok returned
      exact approved.exact exact (even advance approved.stored)
  | calculate month year =>
      obtain ⟨pk, generated⟩ := calculate_ok returned
      exact ExactAll.generate generated exact kept
  | confirm pk approvedBy =>
      obtain ⟨installments, -, entries, -⟩ := approvePayroll_frame returned
      exact exact.congr installments entries
  | pay pk postings => exact (disbursePayroll_ok returned).exact exact

theorem Repaid.step (repaid : Repaid before) (kept : Kept before)
    {op : PayrollOp} (withheld : op.Withheld before)
    (returned : op.run before = .ok ⟨⟩ after) : Repaid after := by
  cases op with
  | staff settings employees attendance leaves =>
      obtain rfl := Txn.modify_eq_ok.mp returned
      exact repaid.congr rfl rfl rfl
  | grant pk approvedBy allowed today =>
      obtain ⟨advance, approved⟩ := approveAdvance_ok returned
      exact approved.repaid repaid
  | calculate month year =>
      obtain ⟨pk, generated⟩ := calculate_ok returned
      exact repaid.generate generated kept
  | confirm pk approvedBy =>
      obtain ⟨installments, advances, -, paid, -⟩ :=
        approvePayroll_frame returned
      exact repaid.congr installments advances paid
  | pay pk postings =>
      exact (disbursePayroll_ok returned).repaid repaid kept withheld

theorem carries_step (kept : Kept before) {op : PayrollOp}
    (returned : op.run before = .ok ⟨⟩ after) : Carries before after := by
  cases op with
  | staff settings employees attendance leaves =>
      obtain rfl := Txn.modify_eq_ok.mp returned
      exact Carries.congr rfl rfl rfl
  | grant pk approvedBy allowed today =>
      obtain ⟨advance, approved⟩ := approveAdvance_ok returned
      exact approved.carries
  | calculate month year =>
      obtain ⟨pk, generated⟩ := calculate_ok returned
      exact carries_generate generated kept
  | confirm pk approvedBy =>
      obtain ⟨installments, advances, -, paid, -⟩ :=
        approvePayroll_frame returned
      exact Carries.congr installments advances paid
  | pay pk postings => exact (disbursePayroll_ok returned).carries

variable {start : Office}

theorem Office.Fresh.kept (fresh : start.Fresh) : Kept start where
  granted key row found := by
    rw [fresh.installments] at found
    cases found
  sums pk advance found granted := by
    rw [fresh.advances pk advance found] at granted
    cases granted
  deducted key row found := by
    rw [fresh.installments] at found
    cases found
  linked key row link found := by
    rw [fresh.installments] at found
    cases found
  runs key entry found := by
    rw [fresh.entries] at found
    cases found
  affordable key entry found := by
    rw [fresh.entries] at found
    cases found

theorem Office.Fresh.exact (fresh : start.Fresh) : ExactAll start where
  nonneg key row found := by
    rw [fresh.installments] at found
    cases found
  deduction key entry found := by
    rw [fresh.entries] at found
    cases found

theorem Office.Fresh.repaid (fresh : start.Fresh) : Repaid start where
  completed pk advance found completed := by
    have pending := fresh.advances pk advance found
    simp [Advance.isGranted, completed] at pending
  remaining pk advance found status := by
    have pending := fresh.advances pk advance found
    rcases status with active | completed
    · simp [Advance.isGranted, Advance.isOpen, active] at pending
    · simp [Advance.isGranted, completed] at pending

theorem carries_after (kept : Kept before) (ops : List PayrollOp) :
    Carries before (Txn.after PayrollOp.run ops before) := by
  have through := Txn.after_invariant
    (fun office => Kept office ∧ Carries before office) PayrollOp.rollsBack
    (fun op middle final both returned =>
      ⟨both.1.step returned, both.2.trans (carries_step both.1 returned)⟩)
    ops ⟨kept, Carries.congr rfl rfl rfl⟩
  exact through.2

end Runs

/-- Over every run whose approvals cut no advance into a negative installment,
the installments of an advance add up to it, every payslip deducts exactly the
installments marked with it, within what the pay leaves, and a month that
cannot be calculated changes no installment. -/
theorem advances_collected {start : Office} (fresh : start.Fresh)
    (ops : List PayrollOp)
    (even : Txn.Throughout PayrollOp.run PayrollOp.Even ops start) :
    (∀ pk advance,
        (Txn.after PayrollOp.run ops start).advances.get? pk = some advance →
        advance.isGranted = true →
        weighed (Txn.after PayrollOp.run ops start).installments
          (ofAdvance pk) = advance.amount) ∧
      (∀ pk row key,
        (Txn.after PayrollOp.run ops start).installments.get? pk = some row →
        row.deductedInPayroll = some key →
        ∃ entry,
          (Txn.after PayrollOp.run ops start).entries.get? key = some entry) ∧
      (∀ key entry,
        (Txn.after PayrollOp.run ops start).entries.get? key = some entry →
        weighed (Txn.after PayrollOp.run ops start).installments
            (deductedIn key) = entry.advanceDeduction ∧
          entry.advanceDeduction ≤ entry.available) ∧
      ∀ month year error final,
        generatePayroll month year (Txn.after PayrollOp.run ops start) =
          .error error final →
        final.installments =
          (Txn.after PayrollOp.run ops start).installments := by
  obtain ⟨kept, exact⟩ := Txn.after_of_throughout
    (fun office => Kept office ∧ ExactAll office) PayrollOp.rollsBack
    (fun op before final both met returned =>
      ⟨both.1.step returned, both.2.step both.1 met returned⟩)
    ops start ⟨fresh.kept, fresh.exact⟩ even
  refine ⟨kept.sums, ?_, ?_, ?_⟩
  · intro pk row key found linked
    obtain ⟨entry, -, stored, -⟩ := kept.linked pk row key found linked
    exact ⟨entry, stored⟩
  · intro key entry found
    exact ⟨exact.deduction key entry found id, kept.affordable key entry found⟩
  · intro month year error final failed
    rw [rollsBack_generatePayroll month year _ error final failed]

def oneAdvance (amount : ℤ) (installmentsCount : ℕ)
    (attendance : Table AttendanceRecord) : Office where
  employees := Table.empty.insert { baseSalary := 260000, dailyRate := 260000 }
  attendance := attendance
  advances := Table.empty.insert { employee := 0, amount, installmentsCount }

theorem oneAdvance_advances {amount : ℤ} {installmentsCount pk : ℕ}
    {attendance : Table AttendanceRecord} {advance : Advance}
    (found : (oneAdvance amount installmentsCount attendance).advances.get? pk =
      some advance) :
    advance = { employee := 0, amount, installmentsCount } := by
  rw [oneAdvance, Table.get?_insert] at found
  split at found
  · exact (Option.some.inj found).symm
  · cases found

theorem oneAdvance_fresh (amount : ℤ) (installmentsCount : ℕ)
    (attendance : Table AttendanceRecord) :
    (oneAdvance amount installmentsCount attendance).Fresh where
  installments _ := rfl
  entries _ := rfl
  advances pk advance found := by
    rw [oneAdvance_advances found]
    rfl

/-- The advance is approved and the first two months are calculated, the first
of them twice. -/
def twoMonths : List PayrollOp :=
  [.grant 0 none true ⟨2023, 12, 5, by decide, by decide⟩, .calculate 1 2024,
    .calculate 2 2024, .calculate 1 2024]

/-- 100.00 in three installments is cut into 33.33, 33.33 and 33.34. -/
theorem advances_collected_thirds :
    (oneAdvance 10000 3 .empty).Fresh ∧
    ∀ key entry, (Txn.after PayrollOp.run twoMonths
        (oneAdvance 10000 3 .empty)).entries.get? key = some entry →
      weighed (Txn.after PayrollOp.run twoMonths
          (oneAdvance 10000 3 .empty)).installments (deductedIn key) =
        entry.advanceDeduction ∧ entry.advanceDeduction ≤ entry.available := by
  have even : Txn.Throughout PayrollOp.run PayrollOp.Even twoMonths
      (oneAdvance 10000 3 .empty) := by
    refine ⟨fun _ advance found => ?_, fun _ => trivial, fun _ => trivial,
      fun _ => trivial, trivial⟩
    rw [oneAdvance_advances found]
    decide +kernel
  have fresh := oneAdvance_fresh 10000 3 .empty
  exact ⟨fresh, (advances_collected fresh twoMonths even).2.2.1⟩

def lateAbsences : Table AttendanceRecord :=
  (Table.empty.insert
    { employee := 0, date := ⟨2025, 10, 5, by decide, by decide⟩ }).insert
    { employee := 0, date := ⟨2025, 11, 5, by decide, by decide⟩ }

def lastMonths : List PayrollOp :=
  [.grant 0 none true ⟨2023, 12, 5, by decide, by decide⟩, .calculate 10 2025,
    .calculate 11 2025, .calculate 12 2025]

/-- 1.10 in twenty-four installments ends with one of -0.05; the payslip that
deducts 0.05 is marked on installments that add up to nothing. -/
theorem advances_not_collected :
    (oneAdvance 110 24 lateAbsences).Fresh ∧
      ∃ entry, (Txn.after PayrollOp.run lastMonths
          (oneAdvance 110 24 lateAbsences)).entries.get? 2 = some entry ∧
        entry.advanceDeduction = 5 ∧
        weighed (Txn.after PayrollOp.run lastMonths
          (oneAdvance 110 24 lateAbsences)).installments (deductedIn 2) = 0 := by
  refine ⟨oneAdvance_fresh 110 24 lateAbsences, ?_⟩
  have found : ((Txn.after PayrollOp.run lastMonths
      (oneAdvance 110 24 lateAbsences)).entries.get? 2).map
        PayrollEntry.advanceDeduction = some 5 := by
    decide +kernel
  obtain ⟨entry, stored, deduction⟩ := Option.map_eq_some_iff.mp found
  exact ⟨entry, stored, deduction, by decide +kernel⟩

/-- Over every run that pays no month while an unpaid run holds installments of
the advances it settles, a completed advance was withheld in full by paid runs,
its installments stay deducted whatever comes later, and what remains of an
advance is what paid runs did not deduct. -/
theorem advances_repaid {start : Office} (fresh : start.Fresh)
    (earlier later : List PayrollOp)
    (withheld : Txn.Throughout PayrollOp.run PayrollOp.Withheld
      (earlier ++ later) start) :
    (∀ pk advance,
        (Txn.after PayrollOp.run earlier start).advances.get? pk =
          some advance →
        advance.status = .completed →
        weighed (Txn.after PayrollOp.run earlier start).installments
            (paidFor (Txn.after PayrollOp.run earlier start).isPaid pk) =
          advance.amount ∧
        ∀ key row,
          (Txn.after PayrollOp.run earlier start).installments.get? key =
            some row →
          row.advance = pk → row.status = .deducted ∧
            (Txn.after PayrollOp.run (earlier ++ later) start).installments.get?
              key = some row) ∧
      ∀ pk advance,
        (Txn.after PayrollOp.run earlier start).advances.get? pk =
          some advance →
        advance.status = .active ∨ advance.status = .completed →
        advance.remainingAmount = advance.amount -
          weighed (Txn.after PayrollOp.run earlier start).installments
            (paidFor (Txn.after PayrollOp.run earlier start).isPaid pk) := by
  obtain ⟨kept, repaid⟩ := Txn.after_of_throughout
    (fun office => Kept office ∧ Repaid office) PayrollOp.rollsBack
    (fun op before final both met returned =>
      ⟨both.1.step returned, both.2.step both.1 met returned⟩)
    earlier start ⟨fresh.kept, fresh.repaid⟩ (Txn.throughout_append.mp withheld).1
  refine ⟨?_, repaid.remaining⟩
  intro pk advance found completed
  have rows := repaid.completed pk advance found completed
  constructor
  · have granted : advance.isGranted = true := by
      simp [Advance.isGranted, completed]
    rw [← kept.sums pk advance found granted]
    apply weighed_congr
    intro key row stored
    exact if_congr ⟨And.left, fun owned => ⟨owned, rows key row stored owned⟩⟩
      rfl rfl
  · intro key row stored owned
    have paid := rows key row stored owned
    rw [Txn.after_append]
    exact ⟨paid.1, ((carries_after kept later).paidOut key row stored paid).1⟩

def paidInTurn : List PayrollOp :=
  [.grant 0 none true ⟨2023, 12, 5, by decide, by decide⟩, .calculate 1 2024,
    .confirm 0 none, .pay 0 none, .calculate 2 2024, .confirm 1 none, .pay 1 none]

/-- The advance is closed by the second payment, and stays paid when the month
is calculated again. -/
theorem advances_repaid_inTurn :
    (oneAdvance 20000 2 .empty).Fresh ∧
    ∀ pk advance, (Txn.after PayrollOp.run paidInTurn
        (oneAdvance 20000 2 .empty)).advances.get? pk = some advance →
      advance.status = .active ∨ advance.status = .completed →
      advance.remainingAmount = advance.amount -
        weighed (Txn.after PayrollOp.run paidInTurn
          (oneAdvance 20000 2 .empty)).installments
          (paidFor (Txn.after PayrollOp.run paidInTurn
            (oneAdvance 20000 2 .empty)).isPaid pk) := by
  have withheld : Txn.Throughout PayrollOp.run PayrollOp.Withheld
      (paidInTurn ++ [.calculate 2 2024]) (oneAdvance 20000 2 .empty) := by
    refine ⟨fun _ => trivial, fun _ => trivial, fun _ => trivial, fun _ => ?_,
      fun _ => trivial, fun _ => trivial, fun _ => ?_, fun _ => trivial, trivial⟩
    · change Office.Withheld _ 0
      decide +kernel
    · change Office.Withheld _ 1
      decide +kernel
  have fresh := oneAdvance_fresh 20000 2 .empty
  exact ⟨fresh,
    (advances_repaid fresh paidInTurn [.calculate 2 2024] withheld).2⟩

def paidAhead : List PayrollOp :=
  [.grant 0 none true ⟨2023, 12, 5, by decide, by decide⟩, .calculate 1 2024,
    .calculate 2 2024, .confirm 0 none, .pay 0 none]

/-- The advance of 200.00 is completed with 100.00 withheld, and calculating
the second month again schedules its installment for good. -/
theorem advances_closed_early :
    (oneAdvance 20000 2 .empty).Fresh ∧
      ((Txn.after PayrollOp.run paidAhead
          (oneAdvance 20000 2 .empty)).advances.get? 0).map
        (fun advance => (advance.status, advance.amount)) =
          some (.completed, 20000) ∧
      weighed (Txn.after PayrollOp.run paidAhead
          (oneAdvance 20000 2 .empty)).installments
        (paidFor (Txn.after PayrollOp.run paidAhead
          (oneAdvance 20000 2 .empty)).isPaid 0) = 10000 ∧
      ((Txn.after PayrollOp.run (paidAhead ++ [.calculate 2 2024])
          (oneAdvance 20000 2 .empty)).installments.get? 1).map
        AdvanceInstallment.status = some .scheduled := by
  refine ⟨oneAdvance_fresh 20000 2 .empty, ?_⟩
  decide +kernel

end Mousstec.Payroll
