import Mathlib.Algebra.Order.Ring.Int
import Mathlib.Data.List.Nodup
import Mousstec.Cash.CommissionPayouts

/-!
# What one payout does

Under the locks a payout pays every employee on its list once, however often he
is on it: when he comes up again his balance is zero.
-/

namespace Mousstec.Cash

open Library

def paidCommission (employee : ℕ) (profile : EmployeeProfile) :
    PaidCommission where
  employee
  name := profile.displayName employee
  role := profile.role
  amount := profile.commissionBalance

section PayOne

variable {call : PayoutCall} {treasury employee : ℕ} {now : ℤ}
  {before after : PayDesk} {paid : List PaidCommission}

structure PaidOne (call : PayoutCall) (treasury : ℕ) (now : ℤ)
    (entry : PaidCommission) (before after : PayDesk) : Prop where
  treasuries : after.cash.treasuries =
    before.cash.treasuries.modify treasury fun stored =>
      { stored with balance := stored.balance - entry.amount }
  payments : after.cash.payments =
    before.cash.payments.insert (call.movement treasury now entry)
  profiles : after.profiles =
    before.profiles.modify entry.employee .settle
  calls : after.calls = before.calls
  results : after.results = before.results
  booked : after.booked = before.booked

theorem payCommission_ok
    (returned : payCommission call treasury now employee before =
      .ok paid after) :
    ∃ profile, before.profiles.get? employee = some profile ∧
      (call.Owes profile ∧ paid = [paidCommission employee profile] ∧
          PaidOne call treasury now (paidCommission employee profile) before
            after ∨
        ¬call.Owes profile ∧ paid = [] ∧ after = before) := by
  unfold payCommission at returned
  rw [Txn.get_bind, Txn.expect_bind_eq_ok] at returned
  obtain ⟨profile, found, returned⟩ := returned
  refine ⟨profile, found, ?_⟩
  by_cases owes : call.Owes profile
  · left
    rw [if_pos owes] at returned
    rw [Txn.require_bind_eq_ok, Txn.bind_eq_ok] at returned
    obtain ⟨-, pk, middle, moved, returned⟩ := returned
    obtain ⟨cash, created, rfl⟩ := Txn.zoom_eq_ok.mp moved
    rw [Txn.modify_bind] at returned
    obtain ⟨rfl, rfl⟩ := Txn.pure_eq_ok.mp returned
    obtain ⟨cash', created', effect⟩ := createPayment_ok
      (call.movement treasury now (paidCommission employee profile))
      before.cash
    have same := created.symm.trans created'
    injection same with _ same
    subst same
    refine ⟨owes, rfl, ?_⟩
    exact
      { treasuries := effect.treasuries
        payments := effect.payments
        profiles := rfl
        calls := rfl
        results := rfl
        booked := rfl }
  · right
    rw [if_neg owes] at returned
    obtain ⟨rfl, rfl⟩ := Txn.pure_eq_ok.mp returned
    exact ⟨owes, rfl, rfl⟩

end PayOne

/-- What the loop has done for some employees. -/
structure PaidAll (call : PayoutCall) (treasury : ℕ) (now : ℤ)
    (employees : List ℕ) (before : PayDesk) (breakdown : List PaidCommission)
    (after : PayDesk) : Prop where
  once : (breakdown.map PaidCommission.employee).Nodup
  paid : ∀ employee amount,
    (∃ paid ∈ breakdown, paid.employee = employee ∧ paid.amount = amount) ↔
      employee ∈ employees ∧
        ∃ profile, before.profiles.get? employee = some profile ∧
          call.Owes profile ∧ amount = profile.commissionBalance
  owed : (breakdown.map PaidCommission.amount).sum =
    call.owedTo employees before.profiles
  payments : after.cash.payments.rows.map Prod.snd =
    before.cash.payments.rows.map Prod.snd ++
      breakdown.map (call.movement treasury now)
  treasuries : after.cash.treasuries =
    before.cash.treasuries.modify treasury fun stored =>
      { stored with
        balance :=
          stored.balance - (breakdown.map PaidCommission.amount).sum }
  profiles : ∀ employee, after.profiles.get? employee =
    (before.profiles.get? employee).map fun profile =>
      if employee ∈ breakdown.map PaidCommission.employee then profile.settle
      else profile
  calls : after.calls = before.calls
  results : after.results = before.results
  booked : after.booked = before.booked

section PayAll

variable {call : PayoutCall} {treasury employee : ℕ} {now : ℤ}
  {employees : List ℕ} {before middle after : PayDesk}
  {breakdown : List PaidCommission} {profile : EmployeeProfile}

theorem paidAll_nil : PaidAll call treasury now [] before [] before where
  once := List.nodup_nil
  paid employee amount := by simp
  owed := by
    symm
    apply Table.total_eq_zero
    intro pk profile _
    exact if_neg fun there => List.not_mem_nil there.1
  payments := (List.append_nil _).symm
  treasuries := by
    symm
    apply Table.modify_eq_self
    intro stored
    simp
  profiles employee := by simp
  calls := rfl
  results := rfl
  booked := rfl

theorem PaidAll.pass (found : before.profiles.get? employee = some profile)
    (owes : ¬call.Owes profile)
    (rest : PaidAll call treasury now employees before breakdown after) :
    PaidAll call treasury now (employee :: employees) before breakdown after where
  once := rest.once
  paid other amount := by
    rw [rest.paid]
    refine and_congr_left fun there => ?_
    obtain ⟨profile', found', owes', -⟩ := there
    constructor
    · exact List.mem_cons_of_mem employee
    · intro member
      rcases List.mem_cons.mp member with rfl | member
      · rw [found] at found'
        obtain rfl := Option.some.inj found'
        exact absurd owes' owes
      · exact member
  owed := by
    rw [rest.owed]
    apply Table.total_congr
    intro pk profile' found'
    by_cases same : pk = employee
    · subst same
      rw [found] at found'
      obtain rfl := Option.some.inj found'
      rw [if_neg fun there => owes there.2, if_neg fun there => owes there.2]
    · simp [same]
  payments := rest.payments
  treasuries := rest.treasuries
  profiles := rest.profiles
  calls := rest.calls
  results := rest.results
  booked := rest.booked

theorem not_owes_settle (profile : EmployeeProfile) :
    ¬call.Owes profile.settle :=
  fun owes => absurd owes.2 (lt_irrefl 0)

theorem owedTo_cons (found : before.profiles.get? employee = some profile)
    (owes : call.Owes profile) :
    call.owedTo (employee :: employees) before.profiles =
      profile.commissionBalance +
        call.owedTo employees (before.profiles.modify employee .settle) := by
  have without : call.owedTo employees
      (before.profiles.modify employee .settle) =
        call.owedTo (employee :: employees)
          (before.profiles.modify employee .settle) := by
    apply Table.total_congr
    intro pk stored there
    by_cases same : pk = employee
    · subst same
      rw [Table.get?_modify_self, found] at there
      obtain rfl := Option.some.inj there
      rw [if_neg fun owed => not_owes_settle profile owed.2,
        if_neg fun owed => not_owes_settle profile owed.2]
    · simp [same]
  have there : employee ∈ employee :: employees := List.mem_cons_self
  have settled : ¬call.Owes profile.settle := not_owes_settle profile
  rw [without, PayoutCall.owedTo, PayoutCall.owedTo, Table.total_modify found]
  simp [there, owes, settled]

theorem PaidAll.pay (found : before.profiles.get? employee = some profile)
    (owes : call.Owes profile)
    (first : PaidOne call treasury now (paidCommission employee profile) before
      middle)
    (rest : PaidAll call treasury now employees middle breakdown after) :
    PaidAll call treasury now (employee :: employees) before
      (paidCommission employee profile :: breakdown) after := by
  have profiles : middle.profiles =
      before.profiles.modify employee .settle := first.profiles
  have settled : middle.profiles.get? employee = some profile.settle := by
    rw [profiles, Table.get?_modify_self, found]
    rfl
  have fresh : employee ∉ breakdown.map PaidCommission.employee := by
    intro again
    obtain ⟨paid, member, same⟩ := List.mem_map.mp again
    obtain ⟨-, profile', found', owes', -⟩ :=
      (rest.paid employee paid.amount).mp ⟨paid, member, same, rfl⟩
    rw [settled] at found'
    obtain rfl := Option.some.inj found'
    exact not_owes_settle profile owes'
  have other : ∀ {pk : ℕ}, pk ≠ employee →
      middle.profiles.get? pk = before.profiles.get? pk := by
    intro pk different
    rw [profiles, Table.get?_modify_of_ne _ different]
  constructor
  · exact List.nodup_cons.mpr ⟨fresh, rest.once⟩
  · intro pk amount
    rw [List.exists_mem_cons_iff, rest.paid]
    by_cases same : pk = employee
    · subst same
      rw [settled]
      constructor
      · rintro (⟨-, rfl⟩ | ⟨-, profile', found', owes', -⟩)
        · exact ⟨List.mem_cons_self, profile, found, owes, rfl⟩
        · obtain rfl := Option.some.inj found'
          exact absurd owes' (not_owes_settle profile)
      · rintro ⟨-, profile', found', -, rfl⟩
        rw [found] at found'
        obtain rfl := Option.some.inj found'
        exact .inl ⟨rfl, rfl⟩
    · rw [other same, List.mem_cons, or_iff_right same]
      refine or_iff_right fun there => same there.1.symm
  · rw [List.map_cons, List.sum_cons, rest.owed, profiles]
    exact (owedTo_cons found owes).symm
  · rw [rest.payments, first.payments]
    simp [Table.insert]
  · rw [rest.treasuries, first.treasuries, Table.modify_modify]
    simp [paidCommission, sub_sub]
  · intro pk
    rw [rest.profiles]
    by_cases same : pk = employee
    · subst same
      rw [settled, found]
      simp [fresh, paidCommission]
    · rw [other same]
      simp [same, paidCommission]
  · exact rest.calls.trans first.calls
  · exact rest.results.trans first.results
  · exact rest.booked.trans first.booked

theorem payProfiles_ok
    (returned : payProfiles call treasury now employees before =
      .ok breakdown after) :
    PaidAll call treasury now employees before breakdown after := by
  induction employees generalizing before breakdown with
  | nil =>
      obtain ⟨rfl, rfl⟩ := Txn.pure_eq_ok.mp returned
      exact paidAll_nil
  | cons employee employees induction =>
      rw [payProfiles, Txn.bind_eq_ok] at returned
      obtain ⟨paid, middle, first, returned⟩ := returned
      obtain ⟨later, after', rest, returned⟩ := Txn.bind_eq_ok.mp returned
      obtain ⟨rfl, rfl⟩ := Txn.pure_eq_ok.mp returned
      obtain ⟨profile, found, ⟨owes, rfl, one⟩ | ⟨owes, rfl, rfl⟩⟩ :=
        payCommission_ok first
      · exact (induction rest).pay found owes one
      · exact (induction rest).pass found owes

theorem payProfiles_nil
    (returned : payProfiles call treasury now employees before =
      .ok [] after) : after = before := by
  induction employees generalizing before with
  | nil => exact (Txn.pure_eq_ok.mp returned).2.symm
  | cons employee employees induction =>
      rw [payProfiles, Txn.bind_eq_ok] at returned
      obtain ⟨paid, middle, first, returned⟩ := returned
      obtain ⟨later, after', rest, returned⟩ := Txn.bind_eq_ok.mp returned
      obtain ⟨empty, rfl⟩ := Txn.pure_eq_ok.mp returned
      obtain ⟨rfl, rfl⟩ := List.append_eq_nil_iff.mp empty
      obtain ⟨profile, -, ⟨-, wrong, -⟩ | ⟨-, -, rfl⟩⟩ := payCommission_ok first
      · cases wrong
      · exact induction rest

end PayAll

section Payouts

variable {call : PayoutCall} {now : ℤ} {before after : PayDesk}
  {result : PayoutResult}

/-- What a payout that returns leaves behind. -/
structure Carried (call : PayoutCall) (treasury : ℕ) (now : ℤ)
    (before : PayDesk) (result : PayoutResult) (after : PayDesk) : Prop where
  pays : PaysOnce call treasury now before result after
  owed : result.totalPaid = call.owed before
  booked : after.booked = before.booked

theorem payCommissions_ok
    (returned : payCommissions call now before = .ok result after) :
    ∃ treasury, call.treasury.map Prod.fst = some treasury ∧
      (∃ stored, before.cash.treasuries.get? treasury = some stored) ∧
        Carried call treasury now before result after ∧
          after.results = before.results := by
  unfold payCommissions at returned
  rw [Txn.expect_bind_eq_ok] at returned
  obtain ⟨treasury, known, returned⟩ := returned
  rw [Txn.require_bind_eq_ok, Txn.require_bind_eq_ok,
    Txn.bind_eq_ok] at returned
  obtain ⟨-, -, breakdown, middle, paid, returned⟩ := returned
  rw [Txn.require_bind_eq_ok] at returned
  obtain ⟨-, returned⟩ := returned
  obtain ⟨rfl, rfl⟩ := Txn.pure_eq_ok.mp returned
  rw [Txn.atomic_eq_ok, payLocked, Txn.get_bind,
    Txn.expect_bind_eq_ok] at paid
  obtain ⟨stored, locked, paid⟩ := paid
  have all := payProfiles_ok paid
  refine ⟨treasury.1, by rw [known]; rfl, ⟨stored, locked⟩, ?_, all.results⟩
  exact
    { pays :=
        { once := all.once
          paid := all.paid
          count := rfl
          sum := rfl
          payments := all.payments
          treasuries := all.treasuries
          profiles := all.profiles }
      owed := all.owed
      booked := all.booked }

theorem pay_ok {pk : ℕ} (returned : pay pk now before = .ok ⟨⟩ after) :
    ∃ call treasury result, before.calls.get? pk = some call ∧
      call.treasury.map Prod.fst = some treasury ∧
        (∃ stored, before.cash.treasuries.get? treasury = some stored) ∧
          Carried call treasury now before result after ∧
            after.results = before.results ++ [result] := by
  unfold pay at returned
  rw [Txn.get_bind, Txn.expect_bind_eq_ok] at returned
  obtain ⟨call, found, returned⟩ := returned
  obtain ⟨result, middle, paid, returned⟩ := Txn.bind_eq_ok.mp returned
  obtain rfl := Txn.modify_eq_ok.mp returned
  obtain ⟨treasury, known, locked, carried, same⟩ := payCommissions_ok paid
  refine ⟨call, treasury, result, found, known, locked, ?_, ?_⟩
  · exact { carried with pays := { carried.pays with } }
  · rw [← same]

/-- A payout that raises changes nothing, also when it finds nothing to pay
after its transaction. -/
theorem rollsBack_payCommissions (call : PayoutCall) (now : ℤ) :
    Txn.RollsBack (payCommissions call now) := by
  unfold payCommissions
  apply Txn.rollsBack_bind (Txn.reads_expect _ _) (Txn.rollsBack_expect _ _)
  intro treasury
  apply Txn.rollsBack_bind (Txn.reads_require _ _) (Txn.rollsBack_require _ _)
  intro _
  apply Txn.rollsBack_bind (Txn.reads_require _ _) (Txn.rollsBack_require _ _)
  intro _ state error final failed
  rcases Txn.bind_eq_error.mp failed with failed | ⟨breakdown, middle, paid, failed⟩
  · exact Txn.rollsBack_atomic _ state error final failed
  · rcases Txn.bind_eq_error.mp failed with failed | ⟨_, _, _, failed⟩
    · obtain ⟨empty, -, rfl⟩ := Txn.require_eq_error.mp failed
      rw [not_not] at empty
      subst empty
      rw [Txn.atomic_eq_ok, payLocked, Txn.get_bind,
        Txn.expect_bind_eq_ok] at paid
      obtain ⟨_, -, paid⟩ := paid
      exact payProfiles_nil paid
    · exact (Txn.pure_eq_error failed).elim

theorem rollsBack_pay (pk : ℕ) (now : ℤ) : Txn.RollsBack (pay pk now) := by
  apply Txn.rollsBack_bind Txn.reads_get Txn.rollsBack_get
  intro desk
  apply Txn.rollsBack_bind (Txn.reads_expect _ _) (Txn.rollsBack_expect _ _)
  intro call state error final failed
  rcases Txn.bind_eq_error.mp failed with failed | ⟨_, _, _, failed⟩
  · exact rollsBack_payCommissions call now state error final failed
  · exact (Txn.modify_eq_error failed).elim

end Payouts

end Mousstec.Cash
