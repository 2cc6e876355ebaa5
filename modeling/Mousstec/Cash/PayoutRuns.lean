import Mousstec.Cash.PayoutFacts

/-!
# Payouts at the same time

Every interleaving of payouts pays each commission once.  A treasury can still
be overdrawn, when it no longer covers what a payout owes once the payout has
the locks; while every payout is covered then, none is.
-/

namespace Mousstec.Cash

open Library

section Sums

variable {call : PayoutCall} {treasury : ℕ} {now : ℤ}

theorem movements_sum (breakdown : List PaidCommission) (pk : ℕ) :
    ((breakdown.map (call.movement treasury now)).map fun ft =>
      if ft.treasury = pk then ft.signed else 0).sum =
        if treasury = pk then -(breakdown.map PaidCommission.amount).sum
        else 0 := by
  induction breakdown with
  | nil => simp
  | cons paid breakdown induction =>
      rw [List.map_cons, List.map_cons, List.sum_cons, induction]
      by_cases same : treasury = pk
      · simp [same, PayoutCall.movement, FinancialTransaction.signed]
        omega
      · simp [same, PayoutCall.movement]

theorem paid_sum {breakdown : List PaidCommission}
    (once : (breakdown.map PaidCommission.employee).Nodup)
    {paid : PaidCommission} (member : paid ∈ breakdown) :
    (breakdown.map fun other =>
      if other.employee = paid.employee then other.amount else 0).sum =
        paid.amount := by
  induction breakdown with
  | nil => cases member
  | cons first breakdown induction =>
      rw [List.map_cons, List.nodup_cons] at once
      rw [List.map_cons, List.sum_cons]
      rcases List.mem_cons.mp member with rfl | member
      · rw [if_pos rfl, List.sum_eq_zero, add_zero]
        intro amount there
        obtain ⟨other, listed, rfl⟩ := List.mem_map.mp there
        apply if_neg
        intro same
        exact once.1 (List.mem_map.mpr ⟨other, listed, same⟩)
      · rw [induction once.2 member, if_neg, zero_add]
        intro same
        exact once.1 (List.mem_map.mpr ⟨paid, member, same.symm⟩)

theorem unpaid_sum {breakdown : List PaidCommission} {employee : ℕ}
    (absent : employee ∉ breakdown.map PaidCommission.employee) :
    (breakdown.map fun other =>
      if other.employee = employee then other.amount else 0).sum = 0 := by
  apply List.sum_eq_zero
  intro amount there
  obtain ⟨other, listed, rfl⟩ := List.mem_map.mp there
  apply if_neg
  intro same
  exact absent (List.mem_map.mpr ⟨other, listed, same⟩)

theorem total_values (payments : Table FinancialTransaction)
    (measure : FinancialTransaction → ℤ) :
    (payments.total fun _ ft => measure ft) =
      ((payments.rows.map Prod.snd).map measure).sum := by
  rw [Table.total, List.map_map]
  rfl

end Sums

section Steps

variable {base before after : PayDesk}

/-- A covered payout overdraws no treasury, and only a covered one. -/
theorem Carried.solvent_iff {call : PayoutCall} {treasury : ℕ} {now : ℤ}
    {result : PayoutResult} {stored : Treasury}
    (carried : Carried call treasury now before result after)
    (solvent : Solvent before)
    (locked : before.cash.treasuries.get? treasury = some stored) :
    Solvent after ↔ call.owed before ≤ stored.balance := by
  have treasuries := carried.pays.treasuries
  rw [carried.owed] at treasuries
  constructor
  · intro holds
    have left := holds treasury
      { stored with balance := stored.balance - call.owed before }
      (by rw [treasuries, Table.get?_modify_self, locked]; rfl)
    exact Int.sub_nonneg.mp left
  · intro covered pk other found
    rw [treasuries] at found
    by_cases same : pk = treasury
    · subst same
      rw [Table.get?_modify_self, locked] at found
      obtain rfl := Option.some.inj found
      exact Int.sub_nonneg.mpr covered
    · rw [Table.get?_modify_of_ne _ same] at found
      exact solvent pk other found

theorem Carried.opening {call : PayoutCall} {treasury : ℕ} {now : ℤ}
    {result : PayoutResult}
    (carried : Carried call treasury now before result after) (pk : ℕ) :
    after.opening pk = before.opening pk := by
  have pays := carried.pays
  have moved : (after.cash.payments.total fun _ ft =>
      if ft.treasury = pk then ft.signed else 0) =
        (before.cash.payments.total fun _ ft =>
          if ft.treasury = pk then ft.signed else 0) +
            if treasury = pk then -result.totalPaid else 0 := by
    rw [total_values, total_values, pays.payments, List.map_append,
      List.sum_append, movements_sum, pays.sum]
  rw [PayDesk.opening, PayDesk.opening, moved, pays.treasuries]
  by_cases same : treasury = pk
  · subst same
    rw [Table.get?_modify_self, Option.map_map]
    congr 1
    funext stored
    simp
    omega
  · rw [Table.get?_modify_of_ne _ (Ne.symm same), if_neg same, add_zero]

theorem Carried.owedAtFirst {call : PayoutCall} {treasury : ℕ} {now : ℤ}
    {result : PayoutResult}
    (carried : Carried call treasury now before result after)
    (results : after.results = before.results ++ [result]) (employee : ℕ) :
    after.owedAtFirst employee = before.owedAtFirst employee := by
  have pays := carried.pays
  have paidTo : after.paidTo employee = before.paidTo employee +
      (result.breakdown.map fun paid =>
        if paid.employee = employee then paid.amount else 0).sum := by
    simp [PayDesk.paidTo, results]
  rw [PayDesk.owedAtFirst, PayDesk.owedAtFirst, paidTo, carried.booked,
    pays.profiles, Option.map_map]
  by_cases listed : employee ∈ result.breakdown.map PaidCommission.employee
  · obtain ⟨paid, member, same⟩ := List.mem_map.mp listed
    obtain ⟨-, profile, found, -, amount⟩ :=
      (pays.paid employee paid.amount).mp ⟨paid, member, same, rfl⟩
    have sum := paid_sum pays.once member
    rw [same] at sum
    rw [found, Option.map_some, Option.map_some, Option.some.injEq, sum, amount]
    simp only [Function.comp, if_pos listed, EmployeeProfile.settle]
    omega
  · rw [unpaid_sum listed, add_zero]
    congr 1
    funext profile
    simp [listed]

theorem Settled.pay {pk : ℕ} {now : ℤ} (settled : Settled base before)
    (covered : Covered (.pay pk now) before)
    (returned : Cash.pay pk now before = .ok ⟨⟩ after) : Settled base after := by
  obtain ⟨call, treasury, result, found, known, ⟨stored, locked⟩, carried,
    results⟩ := pay_ok returned
  constructor
  · exact (carried.solvent_iff settled.solvent locked).mpr
      (covered call treasury stored found known locked)
  · intro pk
    rw [carried.opening, settled.treasuries]
  · intro employee
    rw [carried.owedAtFirst results, settled.commissions]

theorem Settled.book {employee : ℕ} {amount : ℤ}
    (settled : Settled base before)
    (returned : bookCommission employee amount before = .ok ⟨⟩ after) :
    Settled base after := by
  unfold bookCommission at returned
  rw [Txn.get_bind, Txn.expect_bind_eq_ok] at returned
  obtain ⟨profile, found, returned⟩ := returned
  obtain rfl := Txn.set_eq_ok.mp returned
  refine ⟨settled.solvent, settled.treasuries, fun other => ?_⟩
  rw [← settled.commissions, PayDesk.owedAtFirst, PayDesk.owedAtFirst,
    PayDesk.paidTo, PayDesk.paidTo, List.map_append, List.sum_append]
  by_cases same : other = employee
  · subst same
    rw [Table.get?_modify_self, Option.map_map]
    congr 1
    funext stored
    simp
    omega
  · rw [Table.get?_modify_of_ne _ same]
    simp [Ne.symm same]

theorem Settled.assign {employee : ℕ} {role : Role}
    (settled : Settled base before)
    (returned : assignRole employee role before = .ok ⟨⟩ after) :
    Settled base after := by
  obtain rfl := Txn.modify_eq_ok.mp returned
  refine ⟨settled.solvent, settled.treasuries, fun other => ?_⟩
  rw [← settled.commissions, PayDesk.owedAtFirst, PayDesk.owedAtFirst,
    PayDesk.paidTo, PayDesk.paidTo]
  by_cases same : other = employee
  · subst same
    rw [Table.get?_modify_self, Option.map_map]
    rfl
  · rw [Table.get?_modify_of_ne _ same]

theorem Settled.move {ft : FinancialTransaction}
    (settled : Settled base before)
    (returned : moveCash ft before = .ok ⟨⟩ after) : Settled base after := by
  unfold moveCash at returned
  rw [Txn.get_bind, Txn.expect_bind_eq_ok] at returned
  obtain ⟨treasury, found, returned⟩ := returned
  rw [Txn.require_bind_eq_ok, Txn.bind_eq_ok] at returned
  obtain ⟨enough, pk, middle, moved, returned⟩ := returned
  obtain ⟨-, rfl⟩ := Txn.pure_eq_ok.mp returned
  obtain ⟨cash, created, rfl⟩ := Txn.zoom_eq_ok.mp moved
  obtain ⟨cash', created', effect⟩ := createPayment_ok ft before.cash
  have same := created.symm.trans created'
  injection same with _ same
  subst same
  refine ⟨?_, fun pk => ?_, settled.commissions⟩
  · intro pk stored there
    change cash.treasuries.get? pk = some stored at there
    rw [effect.treasuries] at there
    by_cases same : pk = ft.treasury
    · subst same
      rw [Table.get?_modify_self, found] at there
      obtain rfl := Option.some.inj there
      exact enough
    · rw [Table.get?_modify_of_ne _ same] at there
      exact settled.solvent pk stored there
  · rw [← settled.treasuries]
    change (cash.treasuries.get? pk).map (fun stored => stored.balance -
      cash.payments.total _) = _
    rw [PayDesk.opening, effect.treasuries, effect.payments, Table.total_insert]
    by_cases same : ft.treasury = pk
    · subst same
      rw [Table.get?_modify_self, Option.map_map]
      congr 1
      funext stored
      simp
    · rw [Table.get?_modify_of_ne _ (Ne.symm same), if_neg same, add_zero]

end Steps

theorem rollsBack_run (op : PayoutOp) : Txn.RollsBack op.run := by
  cases op with
  | pay pk now => exact rollsBack_pay pk now
  | start treasury paidBy allowedRoles =>
      exact Txn.rollsBack_atomic (startPayout treasury paidBy allowedRoles)
  | read call employee => exact Txn.rollsBack_atomic (readProfile call employee)
  | book employee amount =>
      exact Txn.rollsBack_atomic (bookCommission employee amount)
  | assign employee role => exact Txn.rollsBack_atomic (assignRole employee role)
  | move ft => exact Txn.rollsBack_atomic (moveCash ft)

theorem Settled.step {base before after : PayDesk} {op : PayoutOp}
    (settled : Settled base before) (covered : Covered op before)
    (returned : op.run before = .ok ⟨⟩ after) : Settled base after := by
  cases op with
  | pay pk now => exact settled.pay covered returned
  | book employee amount => exact settled.book (Txn.atomic_eq_ok.mp returned)
  | assign employee role => exact settled.assign (Txn.atomic_eq_ok.mp returned)
  | move ft => exact settled.move (Txn.atomic_eq_ok.mp returned)
  | start treasury paidBy allowedRoles =>
      have returned : startPayout treasury paidBy allowedRoles before =
          .ok ⟨⟩ after := Txn.atomic_eq_ok.mp returned
      obtain rfl := Txn.modify_eq_ok.mp returned
      exact ⟨settled.solvent, settled.treasuries, settled.commissions⟩
  | read call employee =>
      have returned : readProfile call employee before = .ok ⟨⟩ after :=
        Txn.atomic_eq_ok.mp returned
      unfold readProfile at returned
      rw [Txn.get_bind, Txn.expect_bind_eq_ok] at returned
      obtain ⟨profile, -, returned⟩ := returned
      obtain rfl := Txn.set_eq_ok.mp returned
      exact ⟨settled.solvent, settled.treasuries, settled.commissions⟩

/-- In every run in which every payout is covered when it has the locks, no
treasury is overdrawn, treasuries move with their movements and every booked
commission is outstanding or paid; a payout that returns pays what it owes once,
and an operation that raises changes nothing. -/
theorem payouts_settled (ops : List PayoutOp) (base : PayDesk)
    (solvent : Solvent base)
    (covered : Txn.Throughout PayoutOp.run Covered ops base) :
    Settled base (Txn.after PayoutOp.run ops base) ∧
      (∀ pk now after,
        pay pk now (Txn.after PayoutOp.run ops base) = .ok ⟨⟩ after →
          ∃ call treasury result,
            (Txn.after PayoutOp.run ops base).calls.get? pk = some call ∧
              call.treasury.map Prod.fst = some treasury ∧
                PaysOnce call treasury now (Txn.after PayoutOp.run ops base)
                  result after ∧
                    after.results = (Txn.after PayoutOp.run ops base).results ++
                      [result]) ∧
        ∀ op raised after, PayoutOp.run op (Txn.after PayoutOp.run ops base) =
          .error raised after → after = Txn.after PayoutOp.run ops base := by
  refine ⟨?_, fun pk now after returned => ?_, fun op raised after failed => ?_⟩
  · refine Txn.after_of_throughout (Settled base) rollsBack_run
      (fun op before after settled met returned => settled.step met returned)
      ops base ?_ covered
    exact ⟨solvent, fun _ => rfl, fun _ => rfl⟩
  · obtain ⟨call, treasury, result, found, known, -, carried, results⟩ :=
      pay_ok returned
    exact ⟨call, treasury, result, found, known, carried.pays, results⟩
  · exact rollsBack_run op _ raised after failed

def twoTechnicians : PayDesk where
  cash :=
    { treasuries :=
        Table.empty.insert
          { name := "main"
            balance := 100000 }
      payments := .empty
      extraCosts := .empty
      books :=
        { chart := ⟨[], .nil⟩
          periods := .empty
          entries := .empty
          today := 0 } }
  profiles :=
    (Table.empty.insert
      { role := .tech
        commissionBalance := 60000 }).insert
      { role := .tech
        commissionBalance := 60000 }

def overlapping : List PayoutOp :=
  [.book 0 (-40000), .start (some 0) none none, .read 0 0,
    .start (some 0) none none, .read 1 1, .pay 0 0, .pay 1 0]

theorem payouts_settled_twoTechnicians :
    Settled twoTechnicians
      (Txn.after PayoutOp.run overlapping twoTechnicians) :=
  (payouts_settled overlapping twoTechnicians (by decide +kernel)
    (Txn.throughout_of_checks (by decide +kernel))).1

/-- Both payouts read the till before either pays. -/
theorem not_all_solvent :
    ¬∀ ops base, Solvent base → Solvent (Txn.after PayoutOp.run ops base) := by
  intro all
  have solvent := all [.start (some 0) none none, .read 0 0,
    .start (some 0) none none, .read 1 1, .pay 0 0, .pay 1 0] twoTechnicians
    (by decide +kernel)
  revert solvent
  decide +kernel

end Mousstec.Cash
