import Mousstec.Billing.FeeGate

/-!
# Payments of a charge

The debits and gift usages that bear the reference of a charge are what was
paid for it.  One transaction of a settlement pays at most once, and what it
awaits afterwards says so.
-/

namespace Mousstec

namespace Billing

open Library

inductive Payment
  | debit (before after amount : ℤ)
  | gift (pk : ℕ)
  deriving DecidableEq

def WalletDebit.payment (debit : WalletDebit) : Payment :=
  .debit debit.before debit.after debit.amount

def GiftCreditUsage.payment (usage : GiftCreditUsage) : Payment :=
  .gift usage.gift

def Gate.paymentsOf (gate : Gate) (reference : String) : List Payment :=
  (gate.debits.filter (·.reference = reference)).map WalletDebit.payment ++
    (gate.usages.filter (·.reference = reference)).map GiftCreditUsage.payment

def BmwEcuSettlement.payments (row : BmwEcuSettlement) : List Payment :=
  match row.mode, row.succeeded, row.walletBefore, row.walletAfter, row.gift with
  | .wallet, true, some before, some after, _ =>
      [.debit before after row.amount]
  | .gift, true, _, _, some pk => [.gift pk]
  | _, _, _, _, _ => []

theorem paymentsOf_nil {gate : Gate} {reference : String}
    (unpaid : gate.paymentsOf reference = []) :
    gate.debits.filter (·.reference = reference) = [] ∧
      gate.usages.filter (·.reference = reference) = [] := by
  rw [Gate.paymentsOf, List.append_eq_nil_iff, List.map_eq_nil_iff,
    List.map_eq_nil_iff] at unpaid
  exact unpaid

theorem exists_of_paymentsOf {gate : Gate} {reference : String}
    (paid : gate.paymentsOf reference ≠ []) :
    (∃ debit ∈ gate.debits, debit.reference = reference) ∨
      ∃ usage ∈ gate.usages, usage.reference = reference := by
  by_contra none
  rw [not_or] at none
  obtain ⟨noDebit, noUsage⟩ := none
  apply paid
  rw [Gate.paymentsOf, List.append_eq_nil_iff, List.map_eq_nil_iff,
    List.map_eq_nil_iff, List.filter_eq_nil_iff, List.filter_eq_nil_iff]
  constructor
  · intro debit member same
    exact noDebit ⟨debit, member, of_decide_eq_true same⟩
  · intro usage member same
    exact noUsage ⟨usage, member, of_decide_eq_true same⟩

def debitedGate (gate : Gate) (balance : ℤ) (debit : WalletDebit) : Gate :=
  { gate with wallet := some balance, debits := gate.debits ++ [debit] }

def giftedGate (gate : Gate) (usage : GiftCreditUsage) : Gate :=
  { gate with
    gifts := gate.gifts.modify usage.gift GiftCredit.used
    usages := gate.usages ++ [usage] }

theorem paymentsOf_debited_self {gate : Gate} {balance : ℤ}
    {debit : WalletDebit} (unpaid : gate.paymentsOf debit.reference = []) :
    (debitedGate gate balance debit).paymentsOf debit.reference =
      [debit.payment] := by
  obtain ⟨noDebit, noUsage⟩ := paymentsOf_nil unpaid
  rw [Gate.paymentsOf, debitedGate, List.filter_append, noDebit, noUsage]
  simp

theorem paymentsOf_debited_of_ne {gate : Gate} {balance : ℤ}
    {debit : WalletDebit} {other : String} (different : debit.reference ≠ other) :
    (debitedGate gate balance debit).paymentsOf other =
      gate.paymentsOf other := by
  rw [Gate.paymentsOf, debitedGate, List.filter_append]
  simp [Gate.paymentsOf, different]

theorem paymentsOf_gifted_self {gate : Gate} {usage : GiftCreditUsage}
    (unpaid : gate.paymentsOf usage.reference = []) :
    (giftedGate gate usage).paymentsOf usage.reference = [usage.payment] := by
  obtain ⟨noDebit, noUsage⟩ := paymentsOf_nil unpaid
  rw [Gate.paymentsOf, giftedGate, List.filter_append, noDebit, noUsage]
  simp

theorem paymentsOf_gifted_of_ne {gate : Gate} {usage : GiftCreditUsage}
    {other : String} (different : usage.reference ≠ other) :
    (giftedGate gate usage).paymentsOf other = gate.paymentsOf other := by
  rw [Gate.paymentsOf, giftedGate, List.filter_append]
  simp [Gate.paymentsOf, different]

namespace Awaits

def moved : Awaits → List Payment
  | saving _ outcome => outcome.row.payments
  | _ => []

/-- The settlement is one of a charge and an amount. -/
def Agrees (pk : ℕ) (amount : ℤ) : Awaits → Prop
  | charge => True
  | gift other _ _ => other = pk
  | wallet other _ _ _ => other = pk
  | iframe other _ _ => other = pk
  | saving other outcome => other = pk ∧ outcome.amount = amount

end Awaits

/-- What a transaction of a settlement does, and awaits. -/
inductive Settles (reference : String) (amount : ℤ) (gate : Gate) :
    Awaits → Option Awaits → Gate → Prop
  | found {pk : ℕ} {charge : DiagnosticFeeCharge} :
      gate.chargeOf reference = some (pk, charge) →
      Settles reference amount gate .charge
        (some (gate.provider.begins pk charge.vin charge.currency)) gate
  | lost : Settles reference amount gate .charge none gate
  | onward {first second : Awaits} :
      first.moved = [] → second.moved = [] →
      (∀ pk, first.Agrees pk amount → second.Agrees pk amount) →
      Settles reference amount gate first (some second) gate
  | given {pk : ℕ} {vin currency : String} {usage : GiftCreditUsage}
      {outcome : SettlementOutcome} :
      usage.reference = reference → outcome.amount = amount →
      outcome.row.payments = [usage.payment] →
      Settles reference amount gate (.gift pk vin currency)
        (some (.saving pk outcome)) (giftedGate gate usage)
  | debited {pk : ℕ} {vin currency : String} {thenPaymob : Bool} {balance : ℤ}
      {debit : WalletDebit} {outcome : SettlementOutcome} :
      gate.wallet = some debit.before → balance = debit.after →
      debit.reference = reference → debit.amount = amount →
      debit.after = debit.before - debit.amount → outcome.amount = amount →
      outcome.row.payments = [debit.payment] →
      Settles reference amount gate (.wallet pk vin currency thenPaymob)
        (some (.saving pk outcome)) (debitedGate gate balance debit)
  | saved {pk : ℕ} {outcome : SettlementOutcome} :
      Settles reference amount gate (.saving pk outcome) none
        { gate with
          settlements := Function.update gate.settlements pk (some outcome.row) }

section Step

variable {reference : String} {amount : ℤ} {reply : CardReply}
  {before after : Gate}

theorem consumeGift_eq_ok {call : GiftCall} {consumption : GiftConsumption}
    (returned : consumeGift call before = .ok consumption after) :
    (consumption.consumed = false ∧ after = before) ∨
      ∃ pk, consumption.consumed = true ∧ consumption.giftPk = some pk ∧
        after = giftedGate before (call.usage pk) := by
  rw [consumeGift, Txn.get_bind] at returned
  cases found : call.found before with
  | none =>
      simp only [found, Txn.pure_eq_ok] at returned
      obtain ⟨rfl, rfl⟩ := returned
      exact .inl ⟨rfl, rfl⟩
  | some row =>
      obtain ⟨pk, gift⟩ := row
      simp only [found, Txn.bind_eq_ok, Txn.modify_eq_ok,
        Txn.pure_eq_ok] at returned
      obtain ⟨⟨⟩, _, rfl, rfl, rfl⟩ := returned
      exact .inr ⟨pk, rfl, rfl, rfl⟩

theorem deduct_eq_ok {balances : ℤ × ℤ}
    (returned : deduct reference amount before = .ok balances after) :
    before.wallet = some balances.1 ∧ balances.2 = balances.1 - amount ∧
      after = debitedGate before balances.2
        { reference, before := balances.1, after := balances.2, amount } := by
  rw [deduct, Txn.get_bind] at returned
  simp only [Txn.bind_eq_ok, Txn.expect_eq_ok, Txn.require_eq_ok,
    Txn.modify_eq_ok, Txn.pure_eq_ok] at returned
  obtain ⟨schema, _, ⟨-, rfl⟩, balance, _, ⟨stored, rfl⟩, ⟨⟩, _, ⟨-, rfl⟩, ⟨⟩, _,
    ⟨-, rfl⟩, ⟨⟩, _, rfl, rfl, rfl⟩ := returned
  exact ⟨stored, rfl, rfl⟩

theorem walletSettle_eq_ok {currency : String} {outcome : SettlementOutcome}
    (returned : walletSettle reference amount currency before =
      .ok outcome after) :
    outcome.amount = amount ∧
      ((outcome.succeeded = false ∧ outcome.row.payments = [] ∧
          after = before) ∨
        ∃ debit, outcome.succeeded = true ∧
          outcome.row.payments = [debit.payment] ∧
          before.wallet = some debit.before ∧ debit.reference = reference ∧
          debit.amount = amount ∧
          debit.after = debit.before - debit.amount ∧
          after = debitedGate before debit.after debit) := by
  rw [walletSettle] at returned
  split at returned
  · obtain ⟨rfl, rfl⟩ := Txn.pure_eq_ok.mp returned
    exact ⟨rfl, .inl ⟨rfl, rfl, rfl⟩⟩
  · obtain ⟨result, middle, attempted, returned⟩ := Txn.bind_eq_ok.mp returned
    rcases Txn.attempt_eq_ok.mp attempted with ⟨balances, rfl, called⟩ |
      ⟨raised, rfl, rolledBack⟩
    · obtain ⟨first, last⟩ := balances
      obtain ⟨rfl, rfl⟩ := Txn.pure_eq_ok.mp returned
      obtain ⟨stored, difference, rfl⟩ :=
        deduct_eq_ok (Txn.atomic_eq_ok.mp called)
      exact ⟨rfl, .inr ⟨{ reference, before := first, after := last, amount },
        rfl, rfl, stored, rfl, rfl, difference, rfl⟩⟩
    · have kept := (Txn.atomic_eq_error.mp rolledBack).1
      cases raised with
      | insufficientBalance balance =>
          obtain ⟨rfl, rfl⟩ := Txn.pure_eq_ok.mp returned
          exact ⟨rfl, .inl ⟨rfl, rfl, kept⟩⟩
      | billing message => exact absurd returned Txn.throw_eq_ok
      | integrity => exact absurd returned Txn.throw_eq_ok
      | data => exact absurd returned Txn.throw_eq_ok

theorem giftStep_settles {pk : ℕ} {vin currency : String}
    {result : Option Awaits}
    (returned : giftStep reference amount pk vin currency before =
      .ok result after) :
    Settles reference amount before (.gift pk vin currency) result after := by
  rw [giftStep, Txn.get_bind] at returned
  cases schema : before.activeSchema with
  | none =>
      simp only [schema, Txn.pure_eq_ok] at returned
      obtain ⟨rfl, rfl⟩ := returned
      exact .onward rfl rfl fun _ agrees => agrees
  | some tenantSchema =>
      simp only [schema, Txn.bind_eq_ok, Txn.pure_eq_ok] at returned
      obtain ⟨consumption, _, consumed, rfl, rfl⟩ := returned
      rcases consumeGift_eq_ok consumed with ⟨refused, rfl⟩ |
        ⟨gift, taken, drawn, rfl⟩
      · rw [if_neg (by rw [refused]; exact Bool.false_ne_true)]
        exact .onward rfl rfl fun _ agrees => agrees
      · rw [if_pos taken]
        refine .given rfl rfl ?_
        rw [giftOutcome, drawn]
        rfl

theorem walletStep_settles {pk : ℕ} {vin currency : String}
    {thenPaymob : Bool} {result : Option Awaits}
    (returned : walletStep reference amount pk vin currency thenPaymob before =
      .ok result after) :
    Settles reference amount before (.wallet pk vin currency thenPaymob) result
      after := by
  obtain ⟨outcome, middle, settled, returned⟩ := Txn.bind_eq_ok.mp returned
  obtain ⟨rfl, rfl⟩ := Txn.pure_eq_ok.mp returned
  obtain ⟨same, ⟨failed, unpaid, rfl⟩ | ⟨debit, succeeded, paid, stored, named,
    whole, difference, rfl⟩⟩ := walletSettle_eq_ok settled
  · split
    · exact .onward rfl rfl fun _ agrees => agrees
    · exact .onward rfl unpaid fun _ agrees => ⟨agrees, same⟩
  · rw [if_neg (by rw [succeeded]; exact fun both => Bool.noConfusion both.1)]
    exact .debited stored rfl named whole difference same paid

theorem payments_paymob (tried : Option SettlementOutcome) :
    ((paymobSettle amount reply).after tried).row.payments = [] := by
  cases reply <;> cases tried <;> rfl

theorem amount_paymob (tried : Option SettlementOutcome) :
    ((paymobSettle amount reply).after tried).amount = amount := by
  cases reply <;> cases tried <;> rfl

theorem onCapturedStep_settles {awaits : Awaits} {result : Option Awaits}
    (returned : onCapturedStep reference amount reply awaits before =
      .ok result after) :
    Settles reference amount before awaits result after := by
  cases awaits with
  | charge =>
      rw [onCapturedStep, Txn.get_bind] at returned
      obtain ⟨rfl, rfl⟩ := Txn.pure_eq_ok.mp returned
      cases found : before.chargeOf reference with
      | none => exact .lost
      | some row => exact .found found
  | gift pk vin currency => exact giftStep_settles returned
  | wallet pk vin currency thenPaymob => exact walletStep_settles returned
  | iframe pk vin tried =>
      obtain ⟨rfl, rfl⟩ := Txn.pure_eq_ok.mp returned
      exact .onward rfl (payments_paymob tried)
        fun _ agrees => ⟨agrees, amount_paymob tried⟩
  | saving pk outcome =>
      simp only [onCapturedStep, saveSettlement, Txn.bind_eq_ok,
        Txn.require_eq_ok, Txn.modify_eq_ok, Txn.pure_eq_ok] at returned
      obtain ⟨⟨⟩, _, ⟨⟨⟩, _, ⟨-, rfl⟩, rfl⟩, rfl, rfl⟩ := returned
      exact .saved

end Step

def Gate.withJob (gate : Gate) (key : ℕ) : Option Awaits → Gate
  | some awaits =>
      { gate with
        jobs := gate.jobs.modify key fun job => { job with awaits } }
  | none => endJob key gate

theorem settle_eq_ok {key : ℕ} {reply : CardReply} {before after : Gate}
    (returned : settle key reply before = .ok ⟨⟩ after) :
    after = before ∨ after = endJob key before ∨
      ∃ job result middle, before.jobs.get? key = some job ∧
        Settles job.reference job.amount before job.awaits result middle ∧
        after = middle.withJob key result := by
  rw [settle, Txn.get_bind] at returned
  cases stored : before.jobs.get? key with
  | none =>
      simp only [stored, Txn.pure_eq_ok] at returned
      exact .inl returned.2.symm
  | some job =>
      simp only [stored] at returned
      obtain ⟨outcome, middle, attempted, rest⟩ := Txn.bind_eq_ok.mp returned
      rcases Txn.attempt_eq_ok.mp attempted with ⟨result, rfl, called⟩ |
        ⟨raised, rfl, rolledBack⟩
      · have settles := onCapturedStep_settles (Txn.atomic_eq_ok.mp called)
        refine .inr (.inr ⟨job, result, middle, rfl, settles, ?_⟩)
        cases result with
        | none => exact (Txn.modify_eq_ok.mp rest).symm
        | some awaits => exact (Txn.modify_eq_ok.mp rest).symm
      · obtain rfl := (Txn.atomic_eq_error.mp rolledBack).1
        exact .inr (.inl (Txn.modify_eq_ok.mp rest).symm)

end Billing

end Mousstec
