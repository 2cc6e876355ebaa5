import Mousstec.Library.Runs
import Mousstec.Payroll.PayslipFacts

/-!
# Runs of the payroll

Whatever order months are calculated, approved and paid in, the installments of
an advance keep adding up to it, and each payslip deducts exactly the
installments that are marked with it, as long as no advance was cut into a
negative installment.
-/

namespace Mousstec.Payroll

open Library

def Advance.isGranted (advance : Advance) : Bool :=
  advance.isOpen ∨ advance.status = .completed

def PayrollEntry.available (entry : PayrollEntry) : ℤ :=
  max (entry.baseSalary + entry.overtimePay - entry.lateDeduction -
    entry.absenceDeduction - entry.otherDeductions) 0

/-- The links between advances, installments, payslips and runs. -/
structure Kept (office : Office) : Prop where
  granted : ∀ pk row, office.installments.get? pk = some row →
    ∃ advance, office.advances.get? row.advance = some advance ∧
      advance.isGranted = true
  sums : ∀ pk advance, office.advances.get? pk = some advance →
    advance.isGranted = true →
    weighed office.installments (ofAdvance pk) = advance.amount
  deducted : ∀ pk row, office.installments.get? pk = some row →
    row.status = .deducted → ∃ key, row.deductedInPayroll = some key
  linked : ∀ pk row key, office.installments.get? pk = some row →
    row.deductedInPayroll = some key →
    ∃ entry advance, office.entries.get? key = some entry ∧
      office.advances.get? row.advance = some advance ∧
      advance.employee = entry.employee
  runs : ∀ key entry, office.entries.get? key = some entry →
    ∃ run, office.runs.get? entry.payrollRun = some run
  affordable : ∀ key entry, office.entries.get? key = some entry →
    entry.advanceDeduction ≤ entry.available

/-- No installment is negative, and every payslip, but for those of some runs,
deducts the installments marked with it. -/
structure Exact (skipped : ℕ → Prop) (office : Office) : Prop where
  nonneg : ∀ pk row, office.installments.get? pk = some row → 0 ≤ row.amount
  deduction : ∀ key entry, office.entries.get? key = some entry →
    ¬ skipped entry.payrollRun →
    weighed office.installments (deductedIn key) = entry.advanceDeduction

/-- Every payslip deducts the installments marked with it. -/
abbrev ExactAll (office : Office) : Prop :=
  Exact (fun _ => False) office

def Office.isPaid (office : Office) (key : ℕ) : Bool :=
  ((office.entries.get? key).bind fun entry =>
    office.runs.get? entry.payrollRun).any fun run => run.status = .paid

def Office.PaidOut (office : Office) (row : AdvanceInstallment) : Prop :=
  row.status = .deducted ∧ row.deductedInPayroll.any office.isPaid = true

def paidFor (paid : ℕ → Bool) (advance : ℕ) : Weight :=
  fun owner status link =>
    if owner = advance ∧ status = .deducted ∧ link.any paid = true then 1 else 0

/-- Advances are closed and counted down by paid runs only. -/
structure Repaid (office : Office) : Prop where
  completed : ∀ pk advance, office.advances.get? pk = some advance →
    advance.status = .completed →
    ∀ key row, office.installments.get? key = some row → row.advance = pk →
      office.PaidOut row
  remaining : ∀ pk advance, office.advances.get? pk = some advance →
    advance.status = .active ∨ advance.status = .completed →
    advance.remainingAmount =
      advance.amount - weighed office.installments (paidFor office.isPaid pk)

/-- Completed advances and the installments that were paid out stay. -/
structure Carries (before after : Office) : Prop where
  closed : ∀ pk advance, before.advances.get? pk = some advance →
    advance.status = .completed → after.advances.get? pk = some advance
  paidOut : ∀ key row, before.installments.get? key = some row →
    before.PaidOut row →
    after.installments.get? key = some row ∧ after.PaidOut row

theorem Carries.trans {before middle after : Office}
    (first : Carries before middle) (second : Carries middle after) :
    Carries before after where
  closed pk advance stored completed :=
    second.closed pk advance (first.closed pk advance stored completed) completed
  paidOut key row stored paid := by
    obtain ⟨kept, still⟩ := first.paidOut key row stored paid
    exact second.paidOut key row kept still

section Frames

variable {before after : Office} {skipped : ℕ → Prop}

theorem weighed_congr {table : Table AdvanceInstallment}
    {left right : Weight}
    (same : ∀ pk row, table.get? pk = some row →
      left row.advance row.status row.deductedInPayroll =
        right row.advance row.status row.deductedInPayroll) :
    weighed table left = weighed table right := by
  apply Table.total_congr
  intro pk row found
  unfold AdvanceInstallment.weigh
  rw [same pk row found]

theorem weighed_eq_zero {table : Table AdvanceInstallment} {weight : Weight}
    (none : ∀ pk row, table.get? pk = some row →
      weight row.advance row.status row.deductedInPayroll = 0) :
    weighed table weight = 0 := by
  apply Table.total_eq_zero
  intro pk row found
  rw [AdvanceInstallment.weigh, none pk row found, zero_mul]

theorem Exact.congr (exact : Exact skipped before)
    (installments : after.installments = before.installments)
    (entries : after.entries = before.entries) : Exact skipped after := by
  constructor
  · rw [installments]
    exact exact.nonneg
  · rw [installments, entries]
    exact exact.deduction

/-- What a step that only writes runs keeps. -/
theorem Kept.congrRuns (kept : Kept before)
    (installments : after.installments = before.installments)
    (entries : after.entries = before.entries)
    (advances : after.advances = before.advances)
    (runs : ∀ pk run, before.runs.get? pk = some run →
      ∃ later, after.runs.get? pk = some later) : Kept after where
  granted := by
    rw [installments, advances]
    exact kept.granted
  sums := by
    rw [installments, advances]
    exact kept.sums
  deducted := by
    rw [installments]
    exact kept.deducted
  linked := by
    rw [installments, entries, advances]
    exact kept.linked
  runs key entry found := by
    rw [entries] at found
    obtain ⟨run, stored⟩ := kept.runs key entry found
    exact runs _ run stored
  affordable := by
    rw [entries]
    exact kept.affordable

theorem Repaid.congr (repaid : Repaid before)
    (installments : after.installments = before.installments)
    (advances : after.advances = before.advances)
    (paid : after.isPaid = before.isPaid) : Repaid after := by
  constructor
  · unfold Office.PaidOut
    rw [installments, advances, paid]
    exact repaid.completed
  · rw [installments, advances, paid]
    exact repaid.remaining

theorem Carries.congr (installments : after.installments = before.installments)
    (advances : after.advances = before.advances)
    (paid : after.isPaid = before.isPaid) : Carries before after where
  closed _ _ stored _ := advances ▸ stored
  paidOut _ _ stored held := ⟨installments ▸ stored, held.1, paid ▸ held.2⟩

theorem isPaid_congr (entries : after.entries = before.entries)
    (runs : ∀ pk, ((after.runs.get? pk).any fun run => run.status = .paid) =
      (before.runs.get? pk).any fun run => run.status = .paid) :
    after.isPaid = before.isPaid := by
  funext key
  unfold Office.isPaid
  rw [entries]
  cases before.entries.get? key with
  | none => rfl
  | some entry => exact runs entry.payrollRun

end Frames

/-- The run of a payslip that is calculated is stored and not paid. -/
def Office.isUnpaid (office : Office) (run : ℕ) : Prop :=
  ∃ stored, office.runs.get? run = some stored ∧ stored.status ≠ .paid

section Payslip

variable {before after : Office} {run pk month : ℕ} {employee : Employee}

theorem mem_dueInstallments {office : Office} {row : ℕ × AdvanceInstallment}
    (member : row ∈ office.dueInstallments pk month) :
    office.installments.get? row.1 = some row.2 ∧
      row.2.status ≠ .deducted ∧
      ∃ advance, office.advances.get? row.2.advance = some advance ∧
        advance.employee = pk ∧ advance.isOpen = true := by
  unfold Office.dueInstallments at member
  rw [List.mem_insertionSort, List.mem_filter] at member
  obtain ⟨stored, fits⟩ := member
  simp only [decide_eq_true_eq, Bool.decide_and, Bool.and_eq_true] at fits
  obtain ⟨due, owned⟩ := fits
  refine ⟨Table.get?_eq_some.mpr stored, ?_, ?_⟩
  · intro deducted
    simp [AdvanceInstallment.isDue, deducted] at due
  · cases found : office.advances.get? row.2.advance with
    | none =>
        rw [found] at owned
        cases owned
    | some advance =>
        rw [found] at owned
        simp only [Option.any_some, Bool.and_eq_true,
          decide_eq_true_eq] at owned
        exact ⟨advance, rfl, owned⟩

theorem listed_dueInstallments (office : Office) (pk month : ℕ) :
    Listed (office.dueInstallments pk month) office.installments where
  stored row member := (mem_dueInstallments member).1
  single := by
    unfold Office.dueInstallments
    have sorted := List.perm_insertionSort dueOrder
      (office.installments.rows.filter fun row =>
        row.2.isDue month ∧ (office.advances.get? row.2.advance).any
          fun advance => advance.employee = pk ∧ advance.isOpen)
    rw [(sorted.map Prod.fst).nodup_iff]
    exact office.installments.keys_nodup.sublist (List.filter_sublist.map _)

/-- What a calculated payslip is, and what calculating it writes. -/
structure Calculated (run pk month : ℕ) (before after : Office)
    (entry : PayrollEntry) : Prop where
  run : entry.payrollRun = run
  employee : entry.employee = pk
  deduction : entry.advanceDeduction =
    min ((before.dueInstallments pk month).map fun row => row.2.amount).sum
      entry.available
  office : after = { before with
    entries := before.entries.insert entry
    installments := allocateInstallments before.entries.next
      (before.dueInstallments pk month) entry.advanceDeduction
      before.installments }

theorem calculateEmployeeEntry_ok {result : Option PayrollEntry}
    (returned : calculateEmployeeEntry run pk employee month before =
      .ok result after) :
    after = before ∨ ∃ entry, Calculated run pk month before after entry := by
  unfold calculateEmployeeEntry at returned
  split at returned
  · exact .inl (Txn.pure_eq_ok.mp returned).2.symm
  · rw [Txn.get_bind] at returned
    simp only [Txn.bind_eq_ok, Txn.set_eq_ok, Txn.pure_eq_ok] at returned
    obtain ⟨-, middle, rfl, rfl, rfl⟩ := returned
    exact .inr ⟨before.payslip run pk employee month, rfl, rfl, rfl, rfl⟩

variable {entry : PayrollEntry}

private theorem tracks_ofAdvance (advance key : ℕ)
    (due : List (ℕ × AdvanceInstallment)) :
    Tracks (ofAdvance advance) key 0 due where
  carried _ _ := rfl
  deducted _ _ := (add_zero _).symm

theorem Kept.calculated (kept : Kept before) (unpaid : before.isUnpaid run)
    (calculated : Calculated run pk month before after entry) : Kept after := by
  have listed := listed_dueInstallments before pk month
  obtain ⟨ofRun, ofEmployee, deduction, rfl⟩ := calculated
  constructor
  · intro key row found
    rcases get?_allocate listed found with ⟨stored, -⟩ | written
    · exact kept.granted key row stored
    · obtain ⟨old, member, same⟩ := written.advance
      obtain ⟨-, -, advance, held, -, isOpen⟩ := mem_dueInstallments member
      exact ⟨advance, same ▸ held, by simp [Advance.isGranted, isOpen]⟩
  · intro key advance stored granted
    rw [weighed_allocate listed (tracks_ofAdvance key _ _), zero_mul, add_zero]
    exact kept.sums key advance stored granted
  · intro key row found closed
    rcases get?_allocate listed found with ⟨stored, -⟩ | written
    · exact kept.deducted key row stored closed
    · exact ⟨_, written.link⟩
  · intro key row link found linked
    rcases get?_allocate listed found with ⟨stored, -⟩ | written
    · obtain ⟨payslip, advance, held, owned⟩ :=
        kept.linked key row link stored linked
      exact ⟨payslip, advance, Table.get?_insert_of_some held _, owned⟩
    · obtain ⟨old, member, same⟩ := written.advance
      obtain ⟨-, -, advance, held, owner, -⟩ := mem_dueInstallments member
      rw [written.link, Option.some.injEq] at linked
      subst linked
      refine ⟨entry, advance, Table.get?_insert_next _ _, same ▸ held, ?_⟩
      exact owner.trans ofEmployee.symm
  · intro key payslip found
    simp only [Table.get?_insert] at found
    split at found
    · cases found
      obtain ⟨stored, looked, -⟩ := unpaid
      exact ⟨stored, ofRun ▸ looked⟩
    · exact kept.runs key payslip found
  · intro key payslip found
    simp only [Table.get?_insert] at found
    split at found
    · cases found
      exact deduction ▸ min_le_right _ _
    · exact kept.affordable key payslip found

theorem Exact.calculated {skipped : ℕ → Prop} (exact : Exact skipped before)
    (kept : Kept before)
    (calculated : Calculated run pk month before after entry) :
    Exact skipped after := by
  have listed := listed_dueInstallments before pk month
  have dueNonneg : ∀ row ∈ before.dueInstallments pk month, 0 ≤ row.2.amount :=
    fun row member => exact.nonneg _ _ (mem_dueInstallments member).1
  obtain ⟨-, -, deduction, rfl⟩ := calculated
  constructor
  · intro key row found
    rcases get?_allocate listed found with ⟨stored, -⟩ | written
    · exact exact.nonneg key row stored
    · exact written.nonneg dueNonneg
  · intro key payslip found other
    simp only [Table.get?_insert] at found
    split at found
    · rename_i fresh
      cases found
      subst fresh
      -- No installment is marked with a payslip that is not stored yet.
      have unused : weighed before.installments
          (deductedIn before.entries.next) = 0 := by
        apply weighed_eq_zero
        intro key row stored
        refine if_neg fun marked => ?_
        obtain ⟨payslip, -, held, -⟩ := kept.linked key row _ stored marked.2
        rw [Table.get?_next] at held
        cases held
      have tracks : Tracks (deductedIn before.entries.next)
          before.entries.next 1 (before.dueInstallments pk month) := by
        constructor
        · intro row member
          simp [deductedIn, (mem_dueInstallments member).2.1]
        · intro row member
          simp [deductedIn, (mem_dueInstallments member).2.1]
      have due : 0 ≤ ((before.dueInstallments pk month).map
          fun row => row.2.amount).sum := by
        apply List.sum_nonneg
        intro amount member
        obtain ⟨row, among, rfl⟩ := List.mem_map.mp member
        exact dueNonneg row among
      rw [weighed_allocate listed tracks, unused, zero_add, one_mul]
      apply deductedAmount_eq dueNonneg
      · rw [deduction]
        exact le_min due (le_max_right _ _)
      · rw [deduction]
        exact min_le_left _ _
    · rename_i stored
      have tracks : Tracks (deductedIn key) before.entries.next 0
          (before.dueInstallments pk month) := by
        constructor
        · intro row member
          simp [deductedIn, (mem_dueInstallments member).2.1]
        · intro row member
          simp [deductedIn, (mem_dueInstallments member).2.1, Ne.symm stored]
      rw [weighed_allocate listed tracks, zero_mul, add_zero]
      exact exact.deduction key payslip found other

theorem isPaid_calculated (unpaid : before.isUnpaid run)
    (calculated : Calculated run pk month before after entry) :
    after.isPaid = before.isPaid := by
  obtain ⟨ofRun, -, -, rfl⟩ := calculated
  obtain ⟨stored, looked, open_⟩ := unpaid
  funext key
  simp only [Office.isPaid, Table.get?_insert]
  split
  · rename_i fresh
    simp [fresh, ofRun, looked, open_]
  · rfl

theorem Repaid.calculated (repaid : Repaid before)
    (unpaid : before.isUnpaid run)
    (calculated : Calculated run pk month before after entry) :
    Repaid after := by
  have listed := listed_dueInstallments before pk month
  have paid := isPaid_calculated unpaid calculated
  have notPaid : before.isPaid before.entries.next = false := by
    simp [Office.isPaid]
  obtain ⟨-, -, -, rfl⟩ := calculated
  constructor
  · intro key advance stored completed other row found owned
    unfold Office.PaidOut
    rw [paid]
    rcases get?_allocate listed found with ⟨before, -⟩ | written
    · exact repaid.completed key advance stored completed other row before owned
    · obtain ⟨old, member, same⟩ := written.advance
      obtain ⟨-, -, open_, held, -, isOpen⟩ := mem_dueInstallments member
      rw [← same, owned, stored] at held
      cases held
      simp [Advance.isOpen, completed] at isOpen
  · intro key advance stored status
    have tracks : Tracks (paidFor before.isPaid key) before.entries.next 0
        (before.dueInstallments pk month) := by
      constructor
      · intro row member
        simp [paidFor, (mem_dueInstallments member).2.1]
      · intro row member
        simp [paidFor, (mem_dueInstallments member).2.1, notPaid]
    rw [paid, weighed_allocate listed tracks, zero_mul, add_zero]
    exact repaid.remaining key advance stored status

theorem carries_calculated (unpaid : before.isUnpaid run)
    (calculated : Calculated run pk month before after entry) :
    Carries before after := by
  have listed := listed_dueInstallments before pk month
  have paid := isPaid_calculated unpaid calculated
  obtain ⟨-, -, -, rfl⟩ := calculated
  constructor
  · intro key advance stored _
    exact stored
  · intro key row stored held
    refine ⟨allocate_keeps listed stored ?_, held.1, paid ▸ held.2⟩
    intro due
    obtain ⟨⟨same, other⟩, member, rfl⟩ := List.mem_map.mp due
    obtain ⟨found, notDeducted, -⟩ := mem_dueInstallments member
    rw [stored] at found
    cases found
    exact notDeducted held.1

end Payslip

section Month

variable {before after : Office} {run month : ℕ}

theorem not_paidOut {office : Office} {row : AdvanceInstallment} {key : ℕ}
    {entry : PayrollEntry} (unpaid : office.isUnpaid entry.payrollRun)
    (linked : row.deductedInPayroll = some key)
    (stored : office.entries.get? key = some entry) : ¬ office.PaidOut row := by
  rintro ⟨-, paid⟩
  obtain ⟨run, looked, open_⟩ := unpaid
  rw [linked] at paid
  simp [Office.isPaid, stored, looked, open_] at paid

theorem isUnpaid_calculated {pk : ℕ} {entry : PayrollEntry}
    (unpaid : before.isUnpaid run)
    (calculated : Calculated run pk month before after entry) :
    after.isUnpaid run := by
  obtain ⟨-, -, -, rfl⟩ := calculated
  exact unpaid

theorem calculateEntries_invariant (invariant : Office → Prop)
    (step : ∀ before after pk entry, invariant before →
      before.isUnpaid run → Calculated run pk month before after entry →
      invariant after) {employees : List (ℕ × Employee)}
    {totals result : PayrollTotals}
    (returned : calculateEntries run month employees totals before =
      .ok result after)
    (unpaid : before.isUnpaid run) (holds : invariant before) :
    invariant after ∧ after.isUnpaid run := by
  induction employees generalizing before totals with
  | nil =>
      obtain ⟨-, rfl⟩ := Txn.pure_eq_ok.mp returned
      exact ⟨holds, unpaid⟩
  | cons row rest induction =>
      obtain ⟨pk, employee⟩ := row
      rw [calculateEntries, Txn.bind_eq_ok] at returned
      obtain ⟨entry, middle, first, later⟩ := returned
      rcases calculateEmployeeEntry_ok first with rfl | ⟨payslip, calculated⟩
      · exact induction later unpaid holds
      · exact induction later (isUnpaid_calculated unpaid calculated)
          (step _ _ pk payslip holds unpaid calculated)

def Office.isOf (office : Office) (run : ℕ) (row : AdvanceInstallment) : Bool :=
  (row.deductedInPayroll.bind office.entries.get?).any
    fun entry => entry.payrollRun = run

theorem isOf_iff {office : Office} {row : AdvanceInstallment} :
    office.isOf run row = true ↔ ∃ key entry,
      row.deductedInPayroll = some key ∧
        office.entries.get? key = some entry ∧ entry.payrollRun = run := by
  unfold Office.isOf
  cases row.deductedInPayroll with
  | none => simp
  | some key =>
      cases stored : office.entries.get? key with
      | none => simp [stored]
      | some entry => simp [stored]

theorem get?_release {key : ℕ} {row : AdvanceInstallment}
    (found : (before.releaseInstallments run month).installments.get? key =
      some row) :
    ∃ old, before.installments.get? key = some old ∧
      row.advance = old.advance ∧ row.amount = old.amount ∧
      ((row = old ∧ before.isOf run old = false) ∨
        (before.isOf run old = true ∧ row.status ≠ .deducted ∧
          row.deductedInPayroll = none)) := by
  unfold Office.releaseInstallments at found
  rw [Table.get?_map, Option.map_eq_some_iff] at found
  obtain ⟨old, stored, rfl⟩ := found
  refine ⟨old, stored, ?_⟩
  cases marked : before.isOf run old with
  | false =>
      have other := marked
      unfold Office.isOf at other
      simp [other]
  | true =>
      have own := marked
      unfold Office.isOf at own
      simp only [own, if_true, true_and]
      refine .inr ⟨?_, trivial⟩
      split
      · simp
      · simp

theorem weighed_release (weight : Weight)
    (same : ∀ key row, before.installments.get? key = some row →
      before.isOf run row = true → ∀ status, status ≠ .deducted →
        weight row.advance status none =
          weight row.advance row.status row.deductedInPayroll) :
    weighed (before.releaseInstallments run month).installments weight =
      weighed before.installments weight := by
  unfold weighed Office.releaseInstallments
  rw [Table.total_map]
  apply Table.total_congr
  intro key row stored
  unfold AdvanceInstallment.weigh
  split
  · rename_i marked
    dsimp only
    rw [same key row stored marked]
    split
    · simp
    · simp
  · rfl

theorem released_release {key : ℕ} {row : AdvanceInstallment}
    (found : (before.releaseInstallments run month).installments.get? key =
      some row) :
    (before.releaseInstallments run month).isOf run row = false := by
  obtain ⟨old, -, -, -, ⟨rfl, other⟩ | ⟨-, -, free⟩⟩ := get?_release found
  · exact other
  · simp [Office.isOf, free]

theorem Kept.release (kept : Kept before) :
    Kept (before.releaseInstallments run month) where
  granted key row found := by
    obtain ⟨old, stored, owner, -, -⟩ := get?_release found
    exact owner ▸ kept.granted key old stored
  sums key advance stored granted := by
    rw [weighed_release _ fun _ _ _ _ _ _ => rfl]
    exact kept.sums key advance stored granted
  deducted key row found closed := by
    obtain ⟨old, stored, -, -, ⟨rfl, -⟩ | ⟨-, open_, -⟩⟩ := get?_release found
    · exact kept.deducted key row stored closed
    · exact absurd closed open_
  linked key row link found linked := by
    obtain ⟨old, stored, -, -, ⟨rfl, -⟩ | ⟨-, -, free⟩⟩ := get?_release found
    · exact kept.linked key row link stored linked
    · rw [free] at linked
      cases linked
  runs := kept.runs
  affordable := kept.affordable

theorem ExactAll.release (exact : ExactAll before) :
    Exact (fun other => other = run) (before.releaseInstallments run month) where
  nonneg key row found := by
    obtain ⟨old, stored, -, amount, -⟩ := get?_release found
    exact amount ▸ exact.nonneg key old stored
  deduction key entry stored other := by
    rw [weighed_release]
    · exact exact.deduction key entry stored id
    · intro pk row found marked status open_
      obtain ⟨link, payslip, linked, held, own⟩ := isOf_iff.mp marked
      have different : link ≠ key := by
        rintro rfl
        change before.entries.get? link = some entry at stored
        rw [held] at stored
        cases stored
        exact other own
      simp [deductedIn, linked, different]

theorem Repaid.release (repaid : Repaid before) (unpaid : before.isUnpaid run) :
    Repaid (before.releaseInstallments run month) where
  completed key advance stored closed other row found owned := by
    obtain ⟨old, looked, owner, -, ⟨rfl, -⟩ | ⟨marked, -, -⟩⟩ :=
      get?_release found
    · exact repaid.completed key advance stored closed other row looked owned
    · obtain ⟨link, payslip, linked, held, own⟩ := isOf_iff.mp marked
      exact absurd (repaid.completed key advance stored closed other old looked
        (owner ▸ owned)) (not_paidOut (own ▸ unpaid) linked held)
  remaining key advance stored status := by
    rw [weighed_release]
    · exact repaid.remaining key advance stored status
    · intro pk row found marked status open_
      obtain ⟨link, payslip, linked, held, own⟩ := isOf_iff.mp marked
      have notPaid := not_paidOut (own ▸ unpaid) linked held
      have left : ¬ (row.advance = key ∧ status = .deducted ∧
          (none : Option ℕ).any
            (before.releaseInstallments run month).isPaid = true) :=
        fun counted => open_ counted.2.1
      have right : ¬ (row.advance = key ∧ row.status = .deducted ∧
          row.deductedInPayroll.any
            (before.releaseInstallments run month).isPaid = true) :=
        fun counted => notPaid counted.2
      unfold paidFor
      rw [if_neg left, if_neg right]

theorem carries_release (unpaid : before.isUnpaid run) :
    Carries before (before.releaseInstallments run month) where
  closed _ _ stored _ := stored
  paidOut key row stored held := by
    have kept : before.isOf run row = false := by
      apply Bool.eq_false_iff.mpr
      intro marked
      obtain ⟨link, payslip, linked, found, own⟩ := isOf_iff.mp marked
      exact not_paidOut (own ▸ unpaid) linked found held
    refine ⟨?_, held⟩
    unfold Office.isOf at kept
    simp [Office.releaseInstallments, stored, kept]

/-- No installment is marked with a payslip of the run. -/
def Office.Free (run : ℕ) (office : Office) : Prop :=
  ∀ key row, office.installments.get? key = some row →
    office.isOf run row = false

theorem free_release : (before.releaseInstallments run month).Free run :=
  fun _ _ found => released_release found

theorem deleteEntries_installments (free : before.Free run) :
    (before.deleteEntries run).installments = before.installments := by
  have same : ∀ key, (before.deleteEntries run).installments.get? key =
      before.installments.get? key := by
    intro key
    unfold Office.deleteEntries
    rw [Table.get?_map]
    cases stored : before.installments.get? key with
    | none => rfl
    | some row =>
        have other := free key row stored
        unfold Office.isOf at other
        simp [other]
  exact Table.ext (Table.rows_eq_of_get? same) rfl

theorem get?_deleteEntries {key : ℕ} {entry : PayrollEntry} :
    (before.deleteEntries run).entries.get? key = some entry ↔
      before.entries.get? key = some entry ∧ entry.payrollRun ≠ run := by
  simp [Office.deleteEntries, Option.filter_eq_some_iff]

theorem isPaid_deleteEntries (unpaid : before.isUnpaid run) :
    (before.deleteEntries run).isPaid = before.isPaid := by
  obtain ⟨stored, looked, open_⟩ := unpaid
  funext key
  unfold Office.isPaid Office.deleteEntries
  rw [Table.get?_filter]
  cases before.entries.get? key with
  | none => rfl
  | some entry =>
      by_cases own : entry.payrollRun = run
      · simp [Option.filter, own, looked, open_]
      · simp [Option.filter, own]

theorem Kept.delete (kept : Kept before) (free : before.Free run) :
    Kept (before.deleteEntries run) := by
  have same := deleteEntries_installments free
  constructor
  · rw [same]
    exact kept.granted
  · rw [same]
    exact kept.sums
  · rw [same]
    exact kept.deducted
  · rw [same]
    intro key row link found linked
    obtain ⟨entry, advance, held, owned⟩ :=
      kept.linked key row link found linked
    refine ⟨entry, advance, get?_deleteEntries.mpr ⟨held, ?_⟩, owned⟩
    intro own
    have marked := isOf_iff.mpr ⟨link, entry, linked, held, own⟩
    rw [free key row found] at marked
    cases marked
  · intro key entry found
    exact kept.runs key entry (get?_deleteEntries.mp found).1
  · intro key entry found
    exact kept.affordable key entry (get?_deleteEntries.mp found).1

theorem Exact.delete (exact : Exact (fun other => other = run) before)
    (free : before.Free run) : ExactAll (before.deleteEntries run) := by
  have same := deleteEntries_installments free
  constructor
  · rw [same]
    exact exact.nonneg
  · rw [same]
    intro key entry found _
    obtain ⟨stored, other⟩ := get?_deleteEntries.mp found
    exact exact.deduction key entry stored other

/-- The office in which the payslips of a run are calculated. -/
inductive Prepared (month : ℕ) (before : Office) : ℕ → Office → Prop where
  | first {stored : PayrollRun} (draft : stored.status = .draft) :
      Prepared month before before.runs.next
        ({ before with runs := before.runs.insert stored }.deleteEntries
          before.runs.next)
  | again {pk : ℕ} {stored : PayrollRun} {reset : PayrollRun → PayrollRun}
      (found : before.runs.get? pk = some stored)
      (open_ : stored.isOpen = true)
      (draft : ∀ run, (reset run).status = .draft) :
      Prepared month before pk
        ({ before.releaseInstallments pk month with
          runs := before.runs.modify pk reset }.deleteEntries pk)

theorem findRun_get? {office : Office} {month year pk : ℕ} {stored : PayrollRun}
    (found : office.findRun month year = some (pk, stored)) :
    office.runs.get? pk = some stored :=
  Table.get?_eq_some.mpr (List.mem_of_find?_eq_some found)

theorem generatePayroll_ok {year result : ℕ}
    (returned : generatePayroll month year before = .ok result after) :
    ∃ prepared calculated totals,
      Prepared (monthIndex year month) before result prepared ∧
        calculateEntries result (monthIndex year month)
          (prepared.employees.rows.filter fun row => row.2.isActive) {}
          prepared = .ok totals calculated ∧
        after = calculated.finishRun result totals := by
  rw [generatePayroll, Txn.get_bind] at returned
  simp only [Txn.bind_eq_ok, Txn.require_eq_ok, Txn.atomic_eq_ok,
    Txn.modify_eq_ok, Txn.pure_eq_ok] at returned
  obtain ⟨⟨⟩, _, refused, -, _, ⟨-, rfl⟩, ⟨⟩, _, release, run, _, restarted, -,
    _, rfl, totals, calculated, entries, -, _, rfl, rfl, rfl⟩ := returned
  cases existing : before.findRun month year with
  | none =>
      rw [existing] at refused release restarted
      obtain ⟨-, rfl⟩ := Txn.pure_eq_ok.mp refused
      obtain ⟨-, rfl⟩ := Txn.pure_eq_ok.mp release
      rw [resetRun, Txn.get_bind] at restarted
      simp only [Txn.bind_eq_ok, Txn.set_eq_ok, Txn.pure_eq_ok] at restarted
      obtain ⟨-, _, rfl, rfl, rfl⟩ := restarted
      exact ⟨_, calculated, totals, .first rfl, entries, rfl⟩
  | some row =>
      obtain ⟨pk, stored⟩ := row
      rw [existing] at refused release restarted
      obtain ⟨open_, rfl⟩ := Txn.require_eq_ok.mp refused
      obtain rfl := Txn.modify_eq_ok.mp release
      simp only [resetRun, Txn.bind_eq_ok, Txn.modify_eq_ok,
        Txn.pure_eq_ok] at restarted
      obtain ⟨-, _, rfl, rfl, rfl⟩ := restarted
      exact ⟨_, calculated, totals,
        .again (findRun_get? existing) open_ fun _ => rfl, entries, rfl⟩

variable {ready : Office}

theorem Prepared.unpaid (prepares : Prepared month before run ready) :
    ready.isUnpaid run := by
  cases prepares with
  | first draft =>
      refine ⟨_, Table.get?_insert_next _ _, ?_⟩
      rw [draft]
      decide
  | @again _ stored reset found _ draft =>
      refine ⟨reset stored, ?_, ?_⟩
      · simp [Office.deleteEntries, found]
      · rw [draft]
        decide

private theorem isUnpaid_of_isOpen {pk : ℕ} {stored : PayrollRun}
    (found : before.runs.get? pk = some stored) (open_ : stored.isOpen = true) :
    before.isUnpaid pk := by
  refine ⟨stored, found, ?_⟩
  intro paid
  simp [PayrollRun.isOpen, paid] at open_

private theorem free_of_next (kept : Kept before) {stored : PayrollRun} :
    Office.Free before.runs.next
      { before with runs := before.runs.insert stored } := by
  intro key row found
  apply Bool.eq_false_iff.mpr
  intro marked
  obtain ⟨link, entry, linked, held, own⟩ := isOf_iff.mp marked
  obtain ⟨payslipRun, looked⟩ := kept.runs link entry held
  rw [own, Table.get?_next] at looked
  cases looked

private theorem isPaid_insert {stored : PayrollRun}
    (draft : stored.status = .draft) :
    Office.isPaid { before with runs := before.runs.insert stored } =
      before.isPaid := by
  refine isPaid_congr rfl fun pk => ?_
  rw [Table.get?_insert]
  split
  · rename_i fresh
    simp [fresh, draft]
  · rfl

private theorem isPaid_reset {pk : ℕ} {stored : PayrollRun}
    {reset : PayrollRun → PayrollRun}
    (found : before.runs.get? pk = some stored) (open_ : stored.isOpen = true)
    (draft : ∀ run, (reset run).status = .draft) :
    Office.isPaid { before.releaseInstallments pk month with
      runs := before.runs.modify pk reset } = before.isPaid := by
  refine isPaid_congr rfl fun other => ?_
  rw [Table.get?_modify]
  split
  · rename_i same
    have notPaid : stored.status ≠ .paid := by
      intro paid
      simp [PayrollRun.isOpen, paid] at open_
    simp [same, found, draft, notPaid]
  · rfl

theorem Kept.prepared (kept : Kept before)
    (prepares : Prepared month before run ready) : Kept ready := by
  cases prepares with
  | first draft =>
      refine Kept.delete ?_ (free_of_next kept)
      exact kept.congrRuns rfl rfl rfl
        fun pk run stored => ⟨run, Table.get?_insert_of_some stored _⟩
  | @again _ stored reset found open_ draft =>
      refine Kept.delete ?_ free_release
      refine kept.release.congrRuns rfl rfl rfl fun other run held => ?_
      rw [Table.get?_modify]
      split
      · rw [found]
        exact ⟨reset stored, rfl⟩
      · exact ⟨run, held⟩

theorem ExactAll.prepared (exact : ExactAll before) (kept : Kept before)
    (prepares : Prepared month before run ready) : ExactAll ready := by
  cases prepares with
  | first draft =>
      refine Exact.delete ?_ (free_of_next kept)
      exact ⟨exact.nonneg, fun key entry found _ =>
        exact.deduction key entry found id⟩
  | @again _ stored reset found open_ draft =>
      refine Exact.delete ?_ free_release
      exact (ExactAll.release exact).congr rfl rfl

theorem Prepared.paid (prepares : Prepared month before run ready) :
    ready.isPaid = before.isPaid := by
  cases prepares with
  | @first stored draft =>
      have unpaid : Office.isUnpaid
          { before with runs := before.runs.insert stored }
          before.runs.next := by
        refine ⟨stored, Table.get?_insert_next _ _, ?_⟩
        rw [draft]
        decide
      exact (isPaid_deleteEntries unpaid).trans (isPaid_insert draft)
  | @again _ stored reset found open_ draft =>
      have unpaid : Office.isUnpaid
          { before.releaseInstallments run month with
            runs := before.runs.modify run reset } run := by
        refine ⟨reset stored, by simp [found], ?_⟩
        rw [draft]
        decide
      exact (isPaid_deleteEntries unpaid).trans (isPaid_reset found open_ draft)

theorem Repaid.prepared (repaid : Repaid before) (kept : Kept before)
    (prepares : Prepared month before run ready) : Repaid ready := by
  have paid := prepares.paid
  cases prepares with
  | first draft =>
      exact repaid.congr (deleteEntries_installments (free_of_next kept)) rfl paid
  | again found open_ draft =>
      have released : Repaid (before.releaseInstallments run month) :=
        repaid.release (isUnpaid_of_isOpen found open_)
      exact released.congr (deleteEntries_installments free_release) rfl paid

theorem Prepared.carries (prepares : Prepared month before run ready)
    (kept : Kept before) : Carries before ready := by
  have paid := prepares.paid
  cases prepares with
  | first draft =>
      exact Carries.congr (deleteEntries_installments (free_of_next kept)) rfl paid
  | again found open_ draft =>
      have released : Carries before (before.releaseInstallments run month) :=
        carries_release (isUnpaid_of_isOpen found open_)
      exact released.trans
        (Carries.congr (deleteEntries_installments free_release) rfl paid)

theorem isPaid_finishRun {totals : PayrollTotals} (unpaid : before.isUnpaid run) :
    (before.finishRun run totals).isPaid = before.isPaid := by
  obtain ⟨stored, found, open_⟩ := unpaid
  refine isPaid_congr rfl fun other => ?_
  rw [Office.finishRun, Table.get?_modify]
  split
  · rename_i same
    simp [same, found, open_]
  · rfl

theorem Kept.finish {totals : PayrollTotals} (kept : Kept before) :
    Kept (before.finishRun run totals) := by
  refine kept.congrRuns rfl rfl rfl fun other stored held => ?_
  rw [Office.finishRun, Table.get?_modify]
  split
  · rename_i same
    subst same
    exact ⟨_, by rw [held]; rfl⟩
  · exact ⟨stored, held⟩

section Generate

variable {year result : ℕ}
  (returned : generatePayroll month year before = .ok result after)

include returned

theorem Kept.generate (kept : Kept before) : Kept after := by
  obtain ⟨prepared, calculated, totals, prepares, entries, rfl⟩ :=
    generatePayroll_ok returned
  have through := calculateEntries_invariant Kept
    (fun _ _ _ _ kept unpaid calculated => kept.calculated unpaid calculated)
    entries prepares.unpaid (kept.prepared prepares)
  exact through.1.finish

theorem ExactAll.generate (exact : ExactAll before) (kept : Kept before) :
    ExactAll after := by
  obtain ⟨prepared, calculated, totals, prepares, entries, rfl⟩ :=
    generatePayroll_ok returned
  have through := calculateEntries_invariant
    (fun office => Kept office ∧ ExactAll office)
    (fun _ _ _ _ both unpaid calculated =>
      ⟨both.1.calculated unpaid calculated, both.2.calculated both.1 calculated⟩)
    entries prepares.unpaid
    ⟨kept.prepared prepares, exact.prepared kept prepares⟩
  exact through.1.2.congr rfl rfl

theorem Repaid.generate (repaid : Repaid before) (kept : Kept before) :
    Repaid after := by
  obtain ⟨prepared, calculated, totals, prepares, entries, rfl⟩ :=
    generatePayroll_ok returned
  have through := calculateEntries_invariant Repaid
    (fun _ _ _ _ repaid unpaid calculated =>
      repaid.calculated unpaid calculated)
    entries prepares.unpaid (repaid.prepared kept prepares)
  exact through.1.congr rfl rfl (isPaid_finishRun through.2)

theorem carries_generate (kept : Kept before) : Carries before after := by
  obtain ⟨prepared, calculated, totals, prepares, entries, rfl⟩ :=
    generatePayroll_ok returned
  have through := calculateEntries_invariant (Carries before)
    (fun _ _ _ _ carries unpaid calculated =>
      carries.trans (carries_calculated unpaid calculated))
    entries prepares.unpaid (prepares.carries kept)
  exact through.1.trans (Carries.congr rfl rfl (isPaid_finishRun through.2))

end Generate

end Month

end Mousstec.Payroll
