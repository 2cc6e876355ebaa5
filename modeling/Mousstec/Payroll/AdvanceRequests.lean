import Mousstec.Payroll.Repayment

/-!
# Requests for advances

A request is checked against the settings of the office, which bound the amount
by a share of the salary and the number of installments from above only.  The
amounts of the installments are the rounded share, and the last one absorbs what
is left, which may be nothing or less.
-/

namespace Mousstec.Payroll

open Library

/-- The settings a request is checked against; the percentage is in
hundredths. -/
structure AdvancePolicy where
  maxAdvancePercentage : ℤ := 5000
  maxInstallments : ℕ := 6
  deriving DecidableEq

inductive RequestError where
  | doesNotExist (model : String)
  | notPositive
  | overMaximum (amount : ℤ) (maximum : ℚ) (percentage : ℤ)
  | tooManyInstallments (count : ℤ) (maximum : ℕ)
  | openAdvance
  | invalidOperation
  | integrity
  deriving DecidableEq

private def groupDigits : List Char → List Char
  | first :: second :: third :: fourth :: rest =>
      first :: second :: third :: ',' :: groupDigits (fourth :: rest)
  | few => few

private def hundredths (amount : ℤ) : String :=
  (if amount.natAbs % 100 < 10 then "0" else "") ++ toString (amount.natAbs % 100)

/-- `:,.2f`. -/
def moneyText (amount : ℤ) : String :=
  (if amount < 0 then "-" else "") ++
    String.ofList (groupDigits
      (toString (amount.natAbs / 100)).toList.reverse).reverse ++
    "." ++ hundredths amount

def RequestError.text (symbol : String) : RequestError → String
  | .doesNotExist model => model ++ " matching query does not exist."
  | .notPositive => "مبلغ السلفة يجب أن يكون أكبر من صفر."
  | .overMaximum amount maximum percentage =>
      "مبلغ السلفة (" ++ moneyText amount ++ ") يتجاوز الحد الأقصى المسموح (" ++
        moneyText (roundHalfEven maximum) ++ " " ++ symbol ++ " — " ++
        toString (percentage / 100) ++ "." ++ hundredths percentage ++
        "% من الراتب)."
  | .tooManyInstallments count maximum =>
      "عدد الأقساط (" ++ toString count ++ ") يتجاوز الحد الأقصى (" ++
        toString maximum ++ ")."
  | .openAdvance =>
      "لديك سلفة قائمة بالفعل. يجب انتهاء السلفة الحالية أو إلغاؤها قبل طلب سلفة جديدة."
  | .invalidOperation => "InvalidOperation"
  | .integrity => "IntegrityError"

def AdvancePolicy.maxAllowed (policy : AdvancePolicy) (employee : Employee) : ℚ :=
  employee.baseSalary * policy.maxAdvancePercentage / 10000

def Office.hasActiveAdvance (office : Office) (employee : ℕ) : Bool :=
  office.advances.rows.any fun row =>
    row.2.employee = employee ∧ (row.2.status = .pending ∨
      row.2.status = .approved ∨ row.2.status = .active)

/-- `request_advance`; the last two checks are the columns of the table. -/
def requestAdvance (policy : AdvancePolicy) (employee : ℕ) (amount count : ℤ) :
    Txn RequestError Office ℕ := do
  let office ← get
  let staff ← Txn.expect (office.employees.get? employee) (.doesNotExist "Employee")
  Txn.require (0 < amount) .notPositive
  Txn.require ((amount : ℚ) ≤ policy.maxAllowed staff)
    (.overMaximum amount (policy.maxAllowed staff) policy.maxAdvancePercentage)
  Txn.require (count ≤ policy.maxInstallments)
    (.tooManyInstallments count policy.maxInstallments)
  Txn.require (office.hasActiveAdvance employee = false) .openAdvance
  Txn.require (amount < 10 ^ 12) .invalidOperation
  Txn.require (0 ≤ count ∧ count < 2 ^ 31) .integrity
  set { office with
    advances := office.advances.insert
      { employee
        amount
        installmentsCount := count.toNat
        remainingAmount := amount } }
  pure office.advances.next

theorem requestAdvance_stores {policy : AdvancePolicy} {employee pk : ℕ}
    {amount count : ℤ} {office after : Office}
    (returned : requestAdvance policy employee amount count office =
      .ok pk after) :
    0 < amount ∧ after.advances.get? pk = some
      { employee
        amount
        installmentsCount := count.toNat
        remainingAmount := amount } := by
  rw [requestAdvance, Txn.get_bind, Txn.expect_bind_eq_ok] at returned
  obtain ⟨staff, -, returned⟩ := returned
  simp only [Txn.require_bind_eq_ok, Txn.set_bind, Txn.pure_eq_ok] at returned
  obtain ⟨positive, -, -, -, -, -, rfl, rfl⟩ := returned
  exact ⟨positive, Table.get?_insert_next _ _⟩

def createdInstallments (before after : Office) : List AdvanceInstallment :=
  (after.installments.rows.drop before.installments.rows.length).map Prod.snd

/-- As many positive installments as asked for, one a month from the next month
on, that add up to the advance. -/
structure SoundSchedule (created : List AdvanceInstallment) (advance : ℕ)
    (amount : ℤ) (count : ℕ) (today : Date) : Prop where
  length : created.length = count
  owner : ∀ row ∈ created, row.advance = advance
  months : created.map AdvanceInstallment.dueMonth =
    (List.range count).map fun place => today.index + 1 + place
  positive : ∀ row ∈ created, 0 < row.amount
  total : (created.map AdvanceInstallment.amount).sum = amount

/-- A share that is rounded down is positive; one that is rounded up leaves
something to the last installment. -/
def Schedulable (amount : ℤ) (count : ℕ) : Prop :=
  1 ≤ count ∧
    if 2 * (amount % count) < count ∨
        2 * (amount % count) = count ∧ amount / count % 2 = 0 then
      count ≤ amount
    else count ≤ amount / count + amount % count

instance decidableSchedulable (amount : ℤ) (count : ℕ) :
    Decidable (Schedulable amount count) :=
  inferInstanceAs (Decidable (_ ∧ ite _ _ _))

theorem rows_insertAll (table : Table AdvanceInstallment)
    (added : List AdvanceInstallment) :
    ∃ keyed : List (ℕ × AdvanceInstallment),
      (insertAll table added).rows = table.rows ++ keyed ∧
        keyed.map Prod.snd = added := by
  induction added generalizing table with
  | nil => exact ⟨[], by simp [insertAll]⟩
  | cons installment rest induction =>
      obtain ⟨keyed, rows, values⟩ := induction (table.insert installment)
      refine ⟨(table.next, installment) :: keyed, ?_, ?_⟩
      · rw [insertAll, rows]
        simp [Table.insert]
      · rw [List.map_cons, values]

theorem length_scheduleAmounts (base amount : ℤ) (count : ℕ) (scheduled : ℤ) :
    (scheduleAmounts base amount count scheduled).length = count := by
  induction count generalizing scheduled with
  | zero => rfl
  | succ count induction =>
      cases count with
      | zero => rfl
      | succ count => rw [scheduleAmounts, List.length_cons, induction]

theorem scheduleAmounts_pos_iff (base amount : ℤ) (count : ℕ) (scheduled : ℤ) :
    (∀ part ∈ scheduleAmounts base amount (count + 1) scheduled, 0 < part) ↔
      (count = 0 ∨ 0 < base) ∧ scheduled + base * count < amount := by
  induction count generalizing scheduled with
  | zero => simp [scheduleAmounts]
  | succ count induction =>
      rw [scheduleAmounts, List.forall_mem_cons, induction]
      push_cast
      constructor
      · rintro ⟨first, -, last⟩
        exact ⟨.inr first, by linarith⟩
      · rintro ⟨none | positive, last⟩
        · exact none.elim
        · exact ⟨positive, .inr positive, by linarith⟩

private theorem shares_down {amount share rest count : ℤ}
    (whole : (count + 1) * share + rest = amount) (positive : 0 < amount)
    (start : 0 ≤ count) (nonneg : 0 ≤ rest) (below : rest < count + 1)
    (quotient : 0 ≤ share) :
    (count = 0 ∨ 0 < share) ∧ share * count < amount ↔ count + 1 ≤ amount := by
  constructor
  · rintro ⟨single | more, -⟩
    · omega
    · nlinarith
  · intro enough
    have more : 0 < share := by
      by_contra none
      have nothing : share = 0 := by omega
      rw [nothing, mul_zero, zero_add] at whole
      omega
    exact ⟨.inr more, by nlinarith⟩

private theorem shares_up {amount share rest count : ℤ}
    (whole : (count + 1) * share + rest = amount) (quotient : 0 ≤ share) :
    (count = 0 ∨ 0 < share + 1) ∧ (share + 1) * count < amount ↔
      count + 1 ≤ share + rest := by
  have last : amount - (share + 1) * count = share + rest - count := by
    rw [← whole]
    ring
  constructor
  · rintro ⟨-, less⟩
    omega
  · intro enough
    exact ⟨.inr (by omega), by omega⟩

theorem schedulable_iff {advance : Advance} (positive : 0 < advance.amount) :
    advance.installmentsCount ≠ 0 ∧ (∀ part ∈ scheduleAmounts
        advance.baseInstallment advance.amount advance.installmentsCount 0,
        0 < part) ↔
      Schedulable advance.amount advance.installmentsCount := by
  rw [Advance.baseInstallment]
  generalize advance.amount = amount at positive
  cases advance.installmentsCount with
  | zero => simp [Schedulable]
  | succ count =>
      have some : count + 1 ≠ 0 := Nat.succ_ne_zero count
      have more : 1 ≤ count + 1 := Nat.succ_pos count
      have divisor : (0 : ℤ) < ((count + 1 : ℕ) : ℤ) := by omega
      have whole := Int.mul_ediv_add_emod amount ((count + 1 : ℕ) : ℤ)
      have below := Int.emod_lt_of_pos amount divisor
      have nonneg := Int.emod_nonneg amount divisor.ne'
      have quotient := Int.ediv_nonneg positive.le divisor.le
      have start : (count = 0) = ((count : ℤ) = 0) := by simp
      rw [Schedulable, and_iff_right some, and_iff_right more,
        scheduleAmounts_pos_iff, roundHalfEven_div amount some, zero_add, start]
      generalize amount / ((count + 1 : ℕ) : ℤ) = share at *
      generalize amount % ((count + 1 : ℕ) : ℤ) = rest at *
      rw [Nat.cast_succ] at whole below ⊢
      split
      next =>
        exact shares_down whole positive (Int.natCast_nonneg count) nonneg below
          quotient
      next => exact shares_up whole quotient

private theorem months_scheduleFrom (advance number month : ℕ)
    (amounts : List ℤ) :
    (scheduleFrom advance number month amounts).map
        AdvanceInstallment.dueMonth =
      (List.range amounts.length).map fun place => month + place := by
  induction amounts generalizing number month with
  | nil => rfl
  | cons amount amounts induction =>
      rw [scheduleFrom, List.map_cons, induction, List.length_cons,
        List.range_succ_eq_map, List.map_cons, List.map_map]
      congr 1
      apply List.map_congr_left
      intro place _
      simp only [Function.comp_apply, Nat.succ_eq_add_one]
      omega

private theorem amounts_scheduleFrom (advance number month : ℕ)
    (amounts : List ℤ) :
    (scheduleFrom advance number month amounts).map
      AdvanceInstallment.amount = amounts := by
  induction amounts generalizing number month with
  | nil => rfl
  | cons amount amounts induction =>
      rw [scheduleFrom, List.map_cons, induction]

theorem createdInstallments_insertAll {before after : Office}
    {added : List AdvanceInstallment}
    (written : after.installments = insertAll before.installments added) :
    createdInstallments before after = added := by
  obtain ⟨keyed, rows, values⟩ := rows_insertAll before.installments added
  rw [createdInstallments, written, rows, List.drop_left, values]

/-- The schedule of an advance is sound when its parts are positive. -/
theorem schedule_sound_iff (advance : Advance) (pk : ℕ) (today : Date)
    (some : advance.installmentsCount ≠ 0) :
    SoundSchedule (advance.schedule pk today) pk advance.amount
        advance.installmentsCount today ↔
      ∀ part ∈ scheduleAmounts advance.baseInstallment advance.amount
        advance.installmentsCount 0, 0 < part := by
  have amounts : (advance.schedule pk today).map AdvanceInstallment.amount =
      scheduleAmounts advance.baseInstallment advance.amount
        advance.installmentsCount 0 := amounts_scheduleFrom _ _ _ _
  have length := length_scheduleAmounts advance.baseInstallment advance.amount
    advance.installmentsCount 0
  constructor
  · intro sound part member
    rw [← amounts] at member
    obtain ⟨row, among, rfl⟩ := List.mem_map.mp member
    exact sound.positive row among
  · intro positive
    constructor
    · rw [← List.length_map AdvanceInstallment.amount, amounts, length]
    · intro row member
      exact (schedule_fresh member).1.1
    · rw [Advance.schedule, months_scheduleFrom, length]
    · intro row member
      apply positive
      rw [← amounts]
      exact List.mem_map_of_mem member
    · rw [amounts, sum_scheduleAmounts some, sub_zero]

/-- Approving a requested advance creates a sound schedule exactly when the amount
can be cut into that many installments and the last of them has a date. -/
theorem approveAdvance_sound_iff {policy : AdvancePolicy} {employee pk : ℕ}
    {amount count : ℤ} {office middle before : Office}
    (requested : requestAdvance policy employee amount count office =
      .ok pk middle)
    (stored : before.advances.get? pk = middle.advances.get? pk)
    (approvedBy : Option ℕ) (today : Date) :
    (∃ after, approveAdvance pk approvedBy true today before = .ok ⟨⟩ after ∧
        SoundSchedule (createdInstallments before after) pk amount count.toNat
          today) ↔
      Schedulable amount count.toNat ∧
        inCalendar (today.index + count.toNat) := by
  obtain ⟨positive, found⟩ := requestAdvance_stores requested
  rw [← stored] at found
  have cut := schedulable_iff (show 0 < Advance.amount
    { employee
      amount
      installmentsCount := count.toNat
      remainingAmount := amount } from positive)
  constructor
  · rintro ⟨after, approved, sound⟩
    obtain ⟨advance, held, -, -, -, some, dated, rfl⟩ :=
      approveAdvance_eq_ok.mp approved
    rw [found] at held
    obtain rfl := Option.some.inj held
    rw [createdInstallments_insertAll rfl] at sound
    exact ⟨cut.mp ⟨some, (schedule_sound_iff _ pk today some).mp sound⟩, dated⟩
  · rintro ⟨schedulable, dated⟩
    obtain ⟨some, positives⟩ := cut.mpr schedulable
    have next : inCalendar (today.index + 1) := by
      apply lt_of_le_of_lt _ dated
      exact Nat.add_le_add_left schedulable.1 _
    refine ⟨_, approveAdvance_eq_ok.mpr
      ⟨_, found, rfl, rfl, next, some, dated, rfl⟩, ?_⟩
    rw [createdInstallments_insertAll rfl]
    exact (schedule_sound_iff _ pk today some).mpr positives

def oneEmployee : Office where
  employees := Table.empty.insert { baseSalary := 1000000 }

private theorem december_valid : 1 ≤ 12 ∧ 12 ≤ 12 := by
  decide

private theorem lastDay_valid : 1 ≤ 31 ∧ 31 ≤ 31 := by
  decide

def lastOfYear : Date where
  year := 2025
  month := 12
  day := 31
  month_valid := december_valid
  day_valid := lastDay_valid

/-- 1000.00 in three installments of 333.33, 333.33 and 333.34. -/
theorem approveAdvance_sound_thirds :
    ∃ after, approveAdvance 0 none true lastOfYear
        ((requestAdvance {} 0 100000 3).final oneEmployee) = .ok ⟨⟩ after ∧
      SoundSchedule (createdInstallments
        ((requestAdvance {} 0 100000 3).final oneEmployee) after) 0 100000 3
          lastOfYear := by
  have requested : requestAdvance {} 0 100000 3 oneEmployee =
      .ok 0 ((requestAdvance {} 0 100000 3).final oneEmployee) :=
    Txn.eq_ok_of_result? (by decide +kernel)
  exact (approveAdvance_sound_iff requested rfl none lastOfYear).mpr
    (by decide +kernel)

/-- 1.09 in 24 installments: 23 of 0.05, and -0.06. -/
theorem approveAdvance_negative :
    ¬ ∀ (policy : AdvancePolicy) (employee pk : ℕ) (amount count : ℤ)
      (office middle : Office),
      requestAdvance policy employee amount count office = .ok pk middle →
      ∀ (approvedBy : Option ℕ) (today : Date),
      ∃ after, approveAdvance pk approvedBy true today middle = .ok ⟨⟩ after ∧
        SoundSchedule (createdInstallments middle after) pk amount count.toNat
          today := by
  intro sound
  have requested : requestAdvance { maxInstallments := 24 } 0 109 24
      oneEmployee = .ok 0
        ((requestAdvance { maxInstallments := 24 } 0 109 24).final
          oneEmployee) :=
    Txn.eq_ok_of_result? (by decide +kernel)
  obtain ⟨after, approved, schedule⟩ :=
    sound _ 0 0 109 24 oneEmployee _ requested none lastOfYear
  have evaluated : (approveAdvance 0 none true lastOfYear).final
      ((requestAdvance { maxInstallments := 24 } 0 109 24).final oneEmployee) =
        after := Txn.final_of_ok approved
  have negative : ¬ ∀ row ∈ createdInstallments
      ((requestAdvance { maxInstallments := 24 } 0 109 24).final oneEmployee)
      ((approveAdvance 0 none true lastOfYear).final
        ((requestAdvance { maxInstallments := 24 } 0 109 24).final
          oneEmployee)), 0 < row.amount := by
    decide +kernel
  rw [evaluated] at negative
  exact negative schedule.positive

end Mousstec.Payroll
