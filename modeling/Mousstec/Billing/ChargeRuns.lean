import Mousstec.Billing.Payments

/-!
# Charges over runs

A charge is settled once when its capture found an open authorization.  The
invariant keeps, for every settlement under way, the captured charge it is of,
and that what it awaits agrees with what was paid for that charge so far.
-/

namespace Mousstec

namespace Billing

open Library

def Gate.Captured (gate : Gate) (pk : ℕ) (charge : DiagnosticFeeCharge) : Prop :=
  gate.charges.get? pk = some charge ∧ charge.status = .captured

structure PaidOnce (gate : Gate) : Prop where
  /-- A VIN has one open authorization. -/
  opened : ∀ first second one two, gate.charges.get? first = some one →
    gate.charges.get? second = some two → one.vin = two.vin →
      one.status = .authorized → two.status = .authorized → first = second
  named : ∀ first second one two, gate.charges.get? first = some one →
    gate.charges.get? second = some two →
      one.authorizationRef = two.authorizationRef → first = second
  lifecycle : ∀ pk charge, gate.charges.get? pk = some charge →
    charge.status = .authorized ∨ charge.status = .captured ∨
      charge.status = .released ∨ charge.status = .expired
  /-- A charge is paid for once, -/
  once : ∀ reference, (gate.paymentsOf reference).length ≤ 1
  /-- and only a captured one. -/
  debited : ∀ debit ∈ gate.debits, ∃ pk charge, gate.Captured pk charge ∧
    charge.authorizationRef = debit.reference ∧ charge.amount = debit.amount ∧
      debit.after = debit.before - debit.amount
  gifted : ∀ usage ∈ gate.usages, ∃ pk charge, gate.Captured pk charge ∧
    charge.authorizationRef = usage.reference
  /-- The settlement row says what was paid. -/
  recorded : ∀ pk row, gate.settlements pk = some row →
    ∃ charge, gate.Captured pk charge ∧
      row.payments = gate.paymentsOf charge.authorizationRef ∧
      row.amount = charge.amount

/-- The settlement is of a captured charge without a settlement row, and has
moved what was paid for it. -/
structure Pending (gate : Gate) (job : SettlementJob) (pk : ℕ)
    (charge : DiagnosticFeeCharge) : Prop where
  captured : gate.Captured pk charge
  reference : charge.authorizationRef = job.reference
  amount : charge.amount = job.amount
  unsettled : gate.settlements pk = none
  moved : gate.paymentsOf job.reference = job.awaits.moved
  agrees : job.awaits.Agrees pk job.amount

structure SoundGate (gate : Gate) : Prop extends PaidOnce gate where
  live : ∀ key job, gate.jobs.get? key = some job →
    ∃ pk charge, Pending gate job pk charge
  alone : ∀ first second one two, gate.jobs.get? first = some one →
    gate.jobs.get? second = some two → one.reference = two.reference →
      first = second

section Invariants

variable {gate : Gate} {pk : ℕ} {charge : DiagnosticFeeCharge}

theorem unpaid_of_not_captured (sound : SoundGate gate)
    (stored : gate.charges.get? pk = some charge)
    (open_ : charge.status ≠ .captured) :
    gate.paymentsOf charge.authorizationRef = [] := by
  by_contra paid
  have captured : ∃ other row, gate.Captured other row ∧
      row.authorizationRef = charge.authorizationRef := by
    rcases exists_of_paymentsOf paid with ⟨debit, member, same⟩ |
      ⟨usage, member, same⟩
    · obtain ⟨other, row, captured, named, -⟩ := sound.debited debit member
      exact ⟨other, row, captured, named.trans same⟩
    · obtain ⟨other, row, captured, named⟩ := sound.gifted usage member
      exact ⟨other, row, captured, named.trans same⟩
  obtain ⟨other, row, ⟨kept, status⟩, same⟩ := captured
  obtain rfl := sound.named other pk row charge kept stored same
  rw [stored] at kept
  obtain rfl := Option.some.inj kept
  exact open_ status

theorem unsettled_of_not_captured (sound : SoundGate gate)
    (stored : gate.charges.get? pk = some charge)
    (open_ : charge.status ≠ .captured) : gate.settlements pk = none := by
  cases row : gate.settlements pk with
  | none => rfl
  | some found =>
      obtain ⟨other, ⟨kept, status⟩, -⟩ := sound.recorded pk found row
      rw [stored] at kept
      obtain rfl := Option.some.inj kept
      exact absurd status open_

theorem idle_of_not_captured (sound : SoundGate gate)
    (stored : gate.charges.get? pk = some charge)
    (open_ : charge.status ≠ .captured) (key : ℕ) (job : SettlementJob)
    (live : gate.jobs.get? key = some job) :
    job.reference ≠ charge.authorizationRef := by
  intro same
  obtain ⟨other, row, pending⟩ := sound.live key job live
  obtain ⟨kept, status⟩ := pending.captured
  obtain rfl := sound.named other pk row charge kept stored
    (pending.reference.trans same)
  rw [stored] at kept
  obtain rfl := Option.some.inj kept
  exact open_ status

/-- An authorization is left as it is or finalised; what is final stays. -/
structure Finalises (old new : DiagnosticFeeCharge) : Prop where
  vin : new.vin = old.vin
  reference : new.authorizationRef = old.authorizationRef
  amount : new.amount = old.amount
  settled : old.status ≠ .authorized → new = old
  kept : new.status = .authorized → new = old
  status : new.status ≠ .declined ∨ new = old

theorem Finalises.refl (charge : DiagnosticFeeCharge) :
    Finalises charge charge :=
  ⟨rfl, rfl, rfl, fun _ => rfl, fun _ => rfl, .inr rfl⟩

theorem reaped_finalises (charge : DiagnosticFeeCharge) (now maxAgeHours : ℤ)
    (vin : Option String) :
    Finalises charge (charge.reaped now maxAgeHours vin) := by
  rw [DiagnosticFeeCharge.reaped]
  split
  · rename_i stale
    have authorized := (of_decide_eq_true stale).1
    exact ⟨rfl, rfl, rfl, fun final => absurd authorized final, nofun,
      .inl nofun⟩
  · exact Finalises.refl charge

theorem finalised_finalises {charge : DiagnosticFeeCharge}
    (authorized : charge.status = .authorized) {target : ChargeStatus}
    (final : target = .captured ∨ target = .released) (now : ℤ)
    (reason : String) : Finalises charge (charge.finalised target now reason) := by
  refine ⟨rfl, rfl, rfl, fun other => absurd authorized other, fun kept => ?_,
    .inl ?_⟩
  · rcases final with rfl | rfl <;> cases kept
  · rcases final with rfl | rfl <;> nofun

/-- A new table of charges in which every row is left or finalised. -/
def FinalisesAll (before after : Table DiagnosticFeeCharge) : Prop :=
  ∀ pk, (before.get? pk = none ∧ after.get? pk = none) ∨
    ∃ old new, before.get? pk = some old ∧ after.get? pk = some new ∧
      Finalises old new

theorem FinalisesAll.of_some {before after : Table DiagnosticFeeCharge}
    (finalises : FinalisesAll before after) {new : DiagnosticFeeCharge}
    (stored : after.get? pk = some new) :
    ∃ old, before.get? pk = some old ∧ Finalises old new := by
  rcases finalises pk with ⟨-, none⟩ | ⟨old, found, kept, there, closes⟩
  · rw [none] at stored
    cases stored
  · rw [there] at stored
    obtain rfl := Option.some.inj stored
    exact ⟨old, kept, closes⟩

theorem FinalisesAll.keeps {before after : Table DiagnosticFeeCharge}
    (finalises : FinalisesAll before after) {old : DiagnosticFeeCharge}
    (stored : before.get? pk = some old) (final : old.status ≠ .authorized) :
    after.get? pk = some old := by
  rcases finalises pk with ⟨none, -⟩ | ⟨kept, new, here, there, closes⟩
  · rw [none] at stored
    cases stored
  · rw [here] at stored
    obtain rfl := Option.some.inj stored
    rw [there, closes.settled final]

theorem finalisesAll_map (charges : Table DiagnosticFeeCharge)
    (change : DiagnosticFeeCharge → DiagnosticFeeCharge)
    (finalises : ∀ charge, Finalises charge (change charge)) :
    FinalisesAll charges (charges.map fun _ charge => change charge) := by
  intro pk
  rw [Table.get?_map]
  cases stored : charges.get? pk with
  | none => exact .inl ⟨rfl, rfl⟩
  | some old => exact .inr ⟨old, change old, rfl, rfl, finalises old⟩

theorem finalisesAll_modify {charges : Table DiagnosticFeeCharge}
    {change : DiagnosticFeeCharge → DiagnosticFeeCharge}
    (stored : charges.get? pk = some charge)
    (finalises : Finalises charge (change charge)) :
    FinalisesAll charges (charges.modify pk change) := by
  intro other
  by_cases same : other = pk
  · subst same
    rw [Table.get?_modify_self, stored]
    exact .inr ⟨charge, change charge, rfl, rfl, finalises⟩
  · rw [Table.get?_modify_of_ne charges same]
    cases found : charges.get? other with
    | none => exact .inl ⟨rfl, rfl⟩
    | some kept => exact .inr ⟨kept, kept, rfl, rfl, Finalises.refl kept⟩

/-- Finalising charges keeps the invariant. -/
theorem sound_finalised (sound : SoundGate gate)
    {charges : Table DiagnosticFeeCharge}
    (finalises : FinalisesAll gate.charges charges) :
    SoundGate { gate with charges } := by
  have captured : ∀ {pk charge}, gate.Captured pk charge →
      Gate.Captured { gate with charges } pk charge := by
    intro pk charge ⟨stored, status⟩
    refine ⟨finalises.keeps stored ?_, status⟩
    rw [status]
    nofun
  refine ⟨⟨?_, ?_, ?_, sound.once, ?_, ?_, ?_⟩, ?_, sound.alone⟩
  · intro first second one two here there vin firstOpen secondOpen
    obtain ⟨old, stored, closes⟩ := finalises.of_some here
    obtain ⟨other, kept, ends⟩ := finalises.of_some there
    obtain rfl := closes.kept firstOpen
    obtain rfl := ends.kept secondOpen
    exact sound.opened first second _ _ stored kept vin firstOpen secondOpen
  · intro first second one two here there same
    obtain ⟨old, stored, closes⟩ := finalises.of_some here
    obtain ⟨other, kept, ends⟩ := finalises.of_some there
    refine sound.named first second _ _ stored kept ?_
    rw [← closes.reference, same, ends.reference]
  · intro pk charge stored
    obtain ⟨old, kept, closes⟩ := finalises.of_some stored
    rcases closes.status with possible | rfl
    · cases status : charge.status with
      | authorized => exact .inl rfl
      | captured => exact .inr (.inl rfl)
      | released => exact .inr (.inr (.inl rfl))
      | expired => exact .inr (.inr (.inr rfl))
      | declined => exact absurd status possible
    · exact sound.lifecycle pk _ kept
  · intro debit member
    obtain ⟨pk, charge, kept, rest⟩ := sound.debited debit member
    exact ⟨pk, charge, captured kept, rest⟩
  · intro usage member
    obtain ⟨pk, charge, kept, rest⟩ := sound.gifted usage member
    exact ⟨pk, charge, captured kept, rest⟩
  · intro pk row stored
    obtain ⟨charge, kept, rest⟩ := sound.recorded pk row stored
    exact ⟨charge, captured kept, rest⟩
  · intro key job stored
    obtain ⟨pk, charge, pending⟩ := sound.live key job stored
    exact ⟨pk, charge, { pending with captured := captured pending.captured }⟩

theorem openOf_eq_none {vin : String} :
    gate.openOf vin = none ↔ ∀ pk charge, gate.charges.get? pk = some charge →
      charge.isOpenFor vin = false := by
  rw [Gate.openOf, List.find?_eq_none]
  constructor
  · intro none pk charge stored
    exact Bool.eq_false_iff.mpr (none (pk, charge) (Table.get?_eq_some.mp stored))
  · intro none row member
    exact Bool.eq_false_iff.mp
      (none row.1 row.2 (Table.get?_eq_some.mpr member))

theorem chargeOf_eq_none {reference : String} :
    gate.chargeOf reference = none ↔ ∀ pk charge,
      gate.charges.get? pk = some charge →
        charge.authorizationRef ≠ reference := by
  rw [Gate.chargeOf, List.find?_eq_none]
  constructor
  · intro none pk charge stored same
    exact none (pk, charge) (Table.get?_eq_some.mp stored) (decide_eq_true same)
  · intro none row member same
    exact none row.1 row.2 (Table.get?_eq_some.mpr member)
      (of_decide_eq_true same)

theorem chargeOf_eq_some {reference : String}
    (found : gate.chargeOf reference = some (pk, charge)) :
    gate.charges.get? pk = some charge ∧
      charge.authorizationRef = reference := by
  have same := List.find?_some found
  exact ⟨Table.get?_eq_some.mpr (List.mem_of_find?_eq_some found),
    of_decide_eq_true same⟩

theorem openOf_eq_some {vin : String}
    (found : gate.openOf vin = some (pk, charge)) :
    gate.charges.get? pk = some charge ∧ charge.vin = vin ∧
      charge.status = .authorized := by
  have same := List.find?_some found
  exact ⟨Table.get?_eq_some.mpr (List.mem_of_find?_eq_some found),
    of_decide_eq_true same⟩

/-- A new authorization keeps the invariant. -/
theorem sound_created (sound : SoundGate gate)
    (fresh : gate.chargeOf charge.authorizationRef = none)
    (first : gate.openOf charge.vin = none)
    (authorized : charge.status = .authorized) :
    SoundGate { gate with charges := gate.charges.insert charge } := by
  have found : ∀ {pk row},
      (gate.charges.insert charge).get? pk = some row →
      gate.charges.get? pk = some row ∨ pk = gate.charges.next ∧ row = charge := by
    intro pk row stored
    rw [Table.get?_insert] at stored
    split at stored
    · rename_i next
      exact .inr ⟨next, (Option.some.inj stored).symm⟩
    · exact .inl stored
  have captured : ∀ {pk row}, gate.Captured pk row → Gate.Captured
      { gate with charges := gate.charges.insert charge } pk row :=
    fun ⟨stored, status⟩ => ⟨Table.get?_insert_of_some stored charge, status⟩
  rw [chargeOf_eq_none] at fresh
  rw [openOf_eq_none] at first
  have closed : ∀ {pk row}, gate.charges.get? pk = some row →
      row.vin = charge.vin → row.status ≠ .authorized := by
    intro pk row stored vin status
    have open_ := first pk row stored
    rw [DiagnosticFeeCharge.isOpenFor, decide_eq_false_iff_not] at open_
    exact open_ ⟨vin, status⟩
  refine ⟨⟨?_, ?_, ?_, sound.once, ?_, ?_, ?_⟩, ?_, sound.alone⟩
  · intro left right one two here there vin leftOpen rightOpen
    rcases found here with old | ⟨rfl, rfl⟩ <;>
      rcases found there with kept | ⟨rfl, rfl⟩
    · exact sound.opened left right one two old kept vin leftOpen rightOpen
    · exact absurd leftOpen (closed old vin)
    · exact absurd rightOpen (closed kept vin.symm)
    · rfl
  · intro left right one two here there same
    rcases found here with old | ⟨rfl, rfl⟩ <;>
      rcases found there with kept | ⟨rfl, rfl⟩
    · exact sound.named left right one two old kept same
    · exact absurd same (fresh left one old)
    · exact absurd same.symm (fresh right two kept)
    · rfl
  · intro pk row stored
    rcases found stored with stored | ⟨rfl, rfl⟩
    · exact sound.lifecycle pk row stored
    · exact .inl authorized
  · intro debit member
    obtain ⟨pk, row, kept, rest⟩ := sound.debited debit member
    exact ⟨pk, row, captured kept, rest⟩
  · intro usage member
    obtain ⟨pk, row, kept, rest⟩ := sound.gifted usage member
    exact ⟨pk, row, captured kept, rest⟩
  · intro pk row stored
    obtain ⟨kept, is, rest⟩ := sound.recorded pk row stored
    exact ⟨kept, captured is, rest⟩
  · intro key job stored
    obtain ⟨pk, row, pending⟩ := sound.live key job stored
    exact ⟨pk, row, { pending with captured := captured pending.captured }⟩

end Invariants

section Jobs

variable {gate : Gate} {key : ℕ} {job : SettlementJob}

theorem sound_endJob (sound : SoundGate gate) (key : ℕ) :
    SoundGate (endJob key gate) := by
  have kept : ∀ {other row}, (gate.jobs.erase key).get? other = some row →
      gate.jobs.get? other = some row := by
    intro other row stored
    exact (Table.get?_erase_eq_some.mp stored).2
  refine ⟨⟨sound.opened, sound.named, sound.lifecycle, sound.once,
    sound.debited, sound.gifted, sound.recorded⟩, ?_, ?_⟩
  · intro other row stored
    obtain ⟨pk, charge, pending⟩ := sound.live other row (kept stored)
    exact ⟨pk, charge, { pending with }⟩
  · intro first second one two here there same
    exact sound.alone first second one two (kept here) (kept there) same

theorem sound_onward {paid : Gate} (sound : SoundGate gate)
    (stored : gate.jobs.get? key = some job) {awaits : Awaits}
    (charges : paid.charges = gate.charges)
    (settlements : paid.settlements = gate.settlements)
    (jobs : paid.jobs = gate.jobs)
    (moved : paid.paymentsOf job.reference = awaits.moved)
    (once : awaits.moved.length ≤ 1)
    (elsewhere : ∀ other, job.reference ≠ other →
      paid.paymentsOf other = gate.paymentsOf other)
    (debits : ∀ debit ∈ paid.debits, debit ∈ gate.debits ∨
      debit.reference = job.reference ∧ debit.amount = job.amount ∧
        debit.after = debit.before - debit.amount)
    (usages : ∀ usage ∈ paid.usages, usage ∈ gate.usages ∨
      usage.reference = job.reference)
    (agrees : ∀ pk charge, Pending gate job pk charge →
      awaits.Agrees pk job.amount) :
    SoundGate (paid.withJob key (some awaits)) := by
  obtain ⟨pk, charge, pending⟩ := sound.live key job stored
  have captured : ∀ {pk charge}, gate.Captured pk charge →
      (paid.withJob key (some awaits)).Captured pk charge := by
    intro pk charge ⟨found, status⟩
    exact ⟨by rw [← found, ← charges]; rfl, status⟩
  have found : ∀ {other row},
      (paid.withJob key (some awaits)).jobs.get? other = some row →
      other = key ∧ row = { job with awaits } ∨
        other ≠ key ∧ gate.jobs.get? other = some row := by
    intro other row here
    rw [Gate.withJob, jobs] at here
    by_cases same : other = key
    · subst same
      rw [Table.get?_modify_self, stored] at here
      exact .inl ⟨rfl, (Option.some.inj here).symm⟩
    · rw [Table.get?_modify_of_ne gate.jobs same] at here
      exact .inr ⟨same, here⟩
  refine ⟨⟨?_, ?_, ?_, ?_, ?_, ?_, ?_⟩, ?_, ?_⟩
  · rw [Gate.withJob, charges]
    exact sound.opened
  · rw [Gate.withJob, charges]
    exact sound.named
  · rw [Gate.withJob, charges]
    exact sound.lifecycle
  · intro reference
    change (paid.paymentsOf reference).length ≤ 1
    by_cases same : job.reference = reference
    · subst same
      rw [moved]
      exact once
    · rw [elsewhere reference same]
      exact sound.once reference
  · intro debit member
    rcases debits debit member with old | ⟨named, amount, difference⟩
    · obtain ⟨other, row, kept, rest⟩ := sound.debited debit old
      exact ⟨other, row, captured kept, rest⟩
    · exact ⟨pk, charge, captured pending.captured,
        pending.reference.trans named.symm, pending.amount.trans amount.symm,
        difference⟩
  · intro usage member
    rcases usages usage member with old | named
    · obtain ⟨other, row, kept, rest⟩ := sound.gifted usage old
      exact ⟨other, row, captured kept, rest⟩
    · exact ⟨pk, charge, captured pending.captured,
        pending.reference.trans named.symm⟩
  · intro other row saved
    rw [Gate.withJob, settlements] at saved
    obtain ⟨owner, kept, payments, amount⟩ := sound.recorded other row saved
    refine ⟨owner, captured kept, ?_, amount⟩
    change row.payments = paid.paymentsOf owner.authorizationRef
    rw [elsewhere, payments]
    intro same
    obtain rfl := sound.named pk other charge owner pending.captured.1 kept.1
      (pending.reference.trans same)
    rw [pending.unsettled] at saved
    cases saved
  · intro other row here
    rcases found here with ⟨rfl, rfl⟩ | ⟨different, old⟩
    · refine ⟨pk, charge, captured pending.captured, pending.reference,
        pending.amount, ?_, moved, agrees pk charge pending⟩
      rw [Gate.withJob, settlements]
      exact pending.unsettled
    · obtain ⟨owner, row', live⟩ := sound.live other row old
      refine ⟨owner, row', captured live.captured, live.reference, live.amount,
        ?_, ?_, live.agrees⟩
      · rw [Gate.withJob, settlements]
        exact live.unsettled
      · change paid.paymentsOf row.reference = row.awaits.moved
        rw [elsewhere, live.moved]
        intro same
        exact different (sound.alone other key row job old stored same.symm)
  · intro first second one two here there same
    rcases found here with ⟨rfl, rfl⟩ | ⟨firstOther, old⟩ <;>
      rcases found there with ⟨rfl, rfl⟩ | ⟨secondOther, kept⟩
    · rfl
    · exact (sound.alone _ _ _ _ stored kept same)
    · exact (sound.alone _ _ _ _ old stored same)
    · exact sound.alone first second one two old kept same

theorem sound_saved (sound : SoundGate gate)
    (stored : gate.jobs.get? key = some job) {pk : ℕ}
    {outcome : SettlementOutcome} (awaits : job.awaits = .saving pk outcome) :
    SoundGate (endJob key
      { gate with
        settlements :=
          Function.update gate.settlements pk (some outcome.row) }) := by
  obtain ⟨owner, charge, pending⟩ := sound.live key job stored
  have moved := pending.moved
  obtain ⟨rfl, amount⟩ : pk = owner ∧ outcome.amount = job.amount := by
    have agrees := pending.agrees
    rw [awaits] at agrees
    exact agrees
  rw [awaits] at moved
  have kept : ∀ {other row}, (gate.jobs.erase key).get? other = some row →
      other ≠ key ∧ gate.jobs.get? other = some row :=
    Table.get?_erase_eq_some.mp
  refine ⟨⟨sound.opened, sound.named, sound.lifecycle, sound.once,
    sound.debited, sound.gifted, ?_⟩, ?_, ?_⟩
  · intro other row saved
    change Function.update gate.settlements pk (some outcome.row) other =
      some row at saved
    by_cases same : other = pk
    · subst same
      rw [Function.update_self] at saved
      obtain rfl := Option.some.inj saved
      refine ⟨charge, pending.captured, ?_, amount.trans pending.amount.symm⟩
      rw [pending.reference]
      exact moved.symm
    · rw [Function.update_of_ne same] at saved
      exact sound.recorded other row saved
  · intro other row here
    obtain ⟨different, old⟩ := kept here
    obtain ⟨second, holder, live⟩ := sound.live other row old
    refine ⟨second, holder, live.captured, live.reference, live.amount, ?_,
      live.moved, live.agrees⟩
    change Function.update gate.settlements pk (some outcome.row) second = none
    rw [Function.update_of_ne]
    · exact live.unsettled
    · rintro rfl
      have one := live.captured.1
      rw [pending.captured.1] at one
      obtain rfl := Option.some.inj one
      exact different (sound.alone other key row job old stored
        (live.reference.symm.trans pending.reference))
  · intro first second one two here there same
    exact sound.alone first second one two (kept here).2 (kept there).2 same

theorem agrees_begins (provider : ProviderName) (pk : ℕ) (vin currency : String)
    (amount : ℤ) : (provider.begins pk vin currency).Agrees pk amount := by
  cases provider <;> rfl

theorem moved_begins (provider : ProviderName) (pk : ℕ) (vin currency : String) :
    (provider.begins pk vin currency).moved = [] := by
  cases provider <;> rfl

/-- One transaction of a settlement keeps the invariant. -/
theorem sound_settles (sound : SoundGate gate)
    (stored : gate.jobs.get? key = some job) {result : Option Awaits}
    {middle : Gate}
    (settles : Settles job.reference job.amount gate job.awaits result middle) :
    SoundGate (middle.withJob key result) := by
  obtain ⟨pk, charge, pending⟩ := sound.live key job stored
  have moved := pending.moved
  have agreed := pending.agrees
  generalize before : job.awaits = awaits at settles
  rw [before] at moved agreed
  cases settles with
  | found located =>
      refine sound_onward sound stored rfl rfl rfl ?_ ?_ (fun _ _ => rfl)
        (fun _ => .inl) (fun _ => .inl) ?_
      · rw [moved_begins]
        exact moved
      · rw [moved_begins]
        exact Nat.zero_le _
      · intro other row live
        obtain ⟨here, same⟩ := chargeOf_eq_some located
        obtain rfl := sound.named _ other _ row here live.captured.1
          (same.trans live.reference.symm)
        exact agrees_begins _ _ _ _ _
  | lost => exact sound_endJob sound key
  | onward unpaid still agrees =>
      refine sound_onward sound stored rfl rfl rfl ?_ ?_ (fun _ _ => rfl)
        (fun _ => .inl) (fun _ => .inl) ?_
      · rw [still, moved, unpaid]
      · rw [still]
        exact Nat.zero_le _
      · intro other row live
        have agreed := live.agrees
        rw [before] at agreed
        exact agrees other agreed
  | given named same paid =>
      rename_i usage outcome
      have unpaid : gate.paymentsOf usage.reference = [] := by
        rw [named]
        exact moved
      refine sound_onward sound stored rfl rfl rfl ?_ ?_ ?_ (fun _ => .inl) ?_ ?_
      · rw [← named, paymentsOf_gifted_self unpaid]
        exact paid.symm
      · rw [Awaits.moved, paid]
        exact le_refl 1
      · intro other different
        rw [← named] at different
        exact paymentsOf_gifted_of_ne different
      · intro other member
        rcases List.mem_append.mp member with old | new
        · exact .inl old
        · rw [List.mem_singleton.mp new]
          exact .inr named
      · intro other row live
        have agreed := live.agrees
        rw [before] at agreed
        exact ⟨agreed, same⟩
  | debited held after named whole difference same paid =>
      rename_i debit outcome
      have unpaid : gate.paymentsOf debit.reference = [] := by
        rw [named]
        exact moved
      refine sound_onward sound stored rfl rfl rfl ?_ ?_ ?_ ?_ (fun _ => .inl) ?_
      · rw [← named, paymentsOf_debited_self unpaid]
        exact paid.symm
      · rw [Awaits.moved, paid]
        exact le_refl 1
      · intro other different
        rw [← named] at different
        exact paymentsOf_debited_of_ne different
      · intro other member
        rcases List.mem_append.mp member with old | new
        · exact .inl old
        · rw [List.mem_singleton.mp new]
          exact .inr ⟨named, whole, difference⟩
      · intro other row live
        have agreed := live.agrees
        rw [before] at agreed
        exact ⟨agreed, same⟩
  | saved => exact sound_saved sound stored before

theorem sound_started (sound : SoundGate gate) {pk : ℕ}
    {charge : DiagnosticFeeCharge} (captured : gate.Captured pk charge)
    (unpaid : gate.paymentsOf charge.authorizationRef = [])
    (unsettled : gate.settlements pk = none)
    (idle : ∀ key job, gate.jobs.get? key = some job →
      job.reference ≠ charge.authorizationRef) :
    SoundGate
      { gate with
        jobs := gate.jobs.insert
          { reference := charge.authorizationRef, amount := charge.amount } } := by
  have found : ∀ {key job}, (gate.jobs.insert
      { reference := charge.authorizationRef, amount := charge.amount }).get?
        key = some job →
      gate.jobs.get? key = some job ∨ key = gate.jobs.next ∧ job =
        { reference := charge.authorizationRef, amount := charge.amount } := by
    intro key job stored
    rw [Table.get?_insert] at stored
    split at stored
    · rename_i next
      exact .inr ⟨next, (Option.some.inj stored).symm⟩
    · exact .inl stored
  refine ⟨⟨sound.opened, sound.named, sound.lifecycle, sound.once,
    sound.debited, sound.gifted, sound.recorded⟩, ?_, ?_⟩
  · intro key job stored
    rcases found stored with old | ⟨rfl, rfl⟩
    · obtain ⟨other, row, live⟩ := sound.live key job old
      exact ⟨other, row, { live with }⟩
    · exact ⟨pk, charge, captured, rfl, rfl, unsettled, unpaid, trivial⟩
  · intro first second one two here there same
    rcases found here with old | ⟨rfl, rfl⟩ <;>
      rcases found there with kept | ⟨rfl, rfl⟩
    · exact sound.alone first second one two old kept same
    · exact absurd same (idle first one old)
    · exact absurd same.symm (idle second two kept)
    · rfl

end Jobs

section Operations

variable {before after : Gate}

theorem createCharge_eq_ok {charge : DiagnosticFeeCharge}
    (returned : createCharge charge before = .ok ⟨⟩ after) :
    before.chargeOf charge.authorizationRef = none ∧
      before.openOf charge.vin = none ∧
      after = { before with charges := before.charges.insert charge } := by
  rw [createCharge, Txn.get_bind] at returned
  simp only [Txn.bind_eq_ok, Txn.require_eq_ok, Txn.modify_eq_ok] at returned
  obtain ⟨⟨⟩, _, ⟨-, rfl⟩, ⟨⟩, _, ⟨fresh, rfl⟩, ⟨⟩, _, ⟨first, rfl⟩, rfl⟩ := returned
  exact ⟨fresh, first, rfl⟩

def Gate.reaped (gate : Gate) (maxAgeHours : ℤ) (vin : Option String) : Gate :=
  { gate with
    charges := gate.charges.map fun _ charge =>
      charge.reaped gate.now maxAgeHours vin }

/-- An authorization reaps the VIN, and then finds an open one or creates
one. -/
theorem authorize_eq_ok {call : AuthorizeCall} {result : AuthorizationResult}
    (returned : authorize call before = .ok result after) :
    after = before.reaped staleAuthHours (some call.vin) ∨
      createCharge (call.row before.now)
        (before.reaped staleAuthHours (some call.vin)) = .ok ⟨⟩ after := by
  have returned := Txn.atomic_eq_ok.mp returned
  obtain ⟨⟨⟩, middle, reaped, rest⟩ := Txn.bind_eq_ok.mp returned
  obtain rfl : before.reaped staleAuthHours (some call.vin) = middle :=
    Txn.modify_eq_ok.mp reaped
  rw [Txn.get_bind] at rest
  cases probed : call.probe (before.reaped staleAuthHours (some call.vin)) with
  | some existing =>
      simp only [probed, Txn.pure_eq_ok] at rest
      exact .inl rest.2.symm
  | none =>
      simp only [probed] at rest
      obtain ⟨⟨⟩, last, created, rest⟩ := Txn.bind_eq_ok.mp rest
      obtain ⟨-, rfl⟩ := Txn.pure_eq_ok.mp rest
      exact .inr created

def Gate.finalised (gate : Gate) (pk : ℕ) (target : ChargeStatus)
    (reason : String) : Gate :=
  { gate with
    charges := gate.charges.modify pk fun row =>
      row.finalised target gate.now reason }

theorem finalise_eq_ok {vin reason : String} {target : ChargeStatus}
    {result : AuthorizationResult}
    (returned : finalise vin target reason before = .ok result after) :
    (∃ pk charge, before.openOf vin = some (pk, charge) ∧
        after = before.finalised pk target reason ∧
        result = (charge.finalised target before.now reason).result true) ∨
      before.openOf vin = none ∧ after = before := by
  have returned := Txn.atomic_eq_ok.mp returned
  rw [Txn.get_bind] at returned
  cases located : before.openOf vin with
  | some row =>
      obtain ⟨pk, charge⟩ := row
      simp only [located, Txn.bind_eq_ok, Txn.modify_eq_ok,
        Txn.pure_eq_ok] at returned
      obtain ⟨⟨⟩, _, rfl, rfl, rfl⟩ := returned
      exact .inl ⟨pk, charge, rfl, rfl, rfl⟩
  | none =>
      simp only [located] at returned
      cases last : before.lastOf vin target with
      | some row =>
          simp only [last, Txn.pure_eq_ok] at returned
          exact .inr ⟨rfl, returned.2.symm⟩
      | none =>
          simp only [last] at returned
          exact absurd returned Txn.throw_eq_ok

theorem finalisesAll_finalised {pk : ℕ} {charge : DiagnosticFeeCharge}
    {vin reason : String} {target : ChargeStatus}
    (located : before.openOf vin = some (pk, charge))
    (final : target = .captured ∨ target = .released) :
    FinalisesAll before.charges (before.finalised pk target reason).charges := by
  obtain ⟨stored, -, authorized⟩ := openOf_eq_some located
  exact finalisesAll_modify stored
    (finalised_finalises authorized final before.now reason)

/-- A capture that finds an open authorization keeps the invariant. -/
theorem sound_captured (sound : SoundGate before) {pk : ℕ}
    {charge : DiagnosticFeeCharge} {vin : String}
    (located : before.openOf vin = some (pk, charge)) :
    SoundGate
      { before.finalised pk .captured "" with
        jobs := before.jobs.insert
          { reference := charge.authorizationRef, amount := charge.amount } } := by
  obtain ⟨stored, -, authorized⟩ := openOf_eq_some located
  have open_ : charge.status ≠ .captured := by
    rw [authorized]
    nofun
  have closed : SoundGate (before.finalised pk .captured "") :=
    sound_finalised sound (finalisesAll_finalised located (.inl rfl))
  have captured : (before.finalised pk .captured "").Captured pk
      (charge.finalised .captured before.now "") := by
    refine ⟨?_, rfl⟩
    rw [Gate.finalised, Table.get?_modify_self, stored]
    rfl
  have unpaid := unpaid_of_not_captured sound stored open_
  have unsettled := unsettled_of_not_captured sound stored open_
  have idle := idle_of_not_captured sound stored open_
  have started := sound_started closed captured unpaid unsettled idle
  exact started

def GateOp.Opens : GateOp → Gate → Prop
  | .capture vin, gate => (gate.openOf vin).isSome
  | _, _ => True

theorem settle_rollsBack (key : ℕ) (reply : CardReply) :
    Txn.RollsBack (settle key reply) := by
  refine Txn.rollsBack_bind Txn.reads_get Txn.rollsBack_get fun gate => ?_
  split
  · exact Txn.rollsBack_pure _
  · intro state error final failed
    rcases Txn.bind_eq_error.mp failed with failed | ⟨outcome, middle, -, failed⟩
    · exact absurd failed Txn.attempt_eq_error
    · split at failed <;> exact absurd failed Txn.modify_eq_error

theorem gate_rollsBack (op : GateOp) : Txn.RollsBack op.run := by
  have never : ∀ change : Gate → Gate,
      Txn.RollsBack (modify change : GateTxn PUnit) :=
    fun _ _ _ _ failed => absurd failed Txn.modify_eq_error
  cases op with
  | authorize call => exact Txn.rollsBack_map (Txn.rollsBack_atomic _)
  | capture vin =>
      refine Txn.rollsBack_map ?_
      intro state error final failed
      rcases Txn.bind_eq_error.mp failed with failed | ⟨result, middle, -, failed⟩
      · exact Txn.rollsBack_atomic _ state error final failed
      · rcases Txn.bind_eq_error.mp failed with failed | ⟨_, _, -, failed⟩
        · exact absurd failed Txn.modify_eq_error
        · exact absurd failed Txn.pure_eq_error
  | release vin reason => exact Txn.rollsBack_map (Txn.rollsBack_atomic _)
  | expire maxAgeHours vin => exact never _
  | settle key reply => exact settle_rollsBack key reply
  | stop key => exact never _
  | gift credit => exact never _
  | receive amount => exact never _
  | pass later => exact never _

theorem sound_step (op : GateOp) (sound : SoundGate before)
    (opens : op.Opens before) (returned : op.run before = .ok ⟨⟩ after) :
    SoundGate after := by
  cases op with
  | authorize call =>
      obtain ⟨result, middle, authorized, returned⟩ := Txn.bind_eq_ok.mp returned
      obtain ⟨-, rfl⟩ := Txn.pure_eq_ok.mp returned
      have reaped := sound_finalised sound (finalisesAll_map before.charges _
        fun charge => reaped_finalises charge before.now staleAuthHours
          (some call.vin))
      rcases authorize_eq_ok authorized with rfl | created
      · exact reaped
      · obtain ⟨fresh, first, rfl⟩ := createCharge_eq_ok created
        exact sound_created reaped fresh first rfl
  | capture vin =>
      obtain ⟨result, middle, captured, returned⟩ := Txn.bind_eq_ok.mp returned
      obtain ⟨-, rfl⟩ := Txn.pure_eq_ok.mp returned
      simp only [captureFee, Txn.bind_eq_ok, Txn.modify_eq_ok,
        Txn.pure_eq_ok] at captured
      obtain ⟨_, _, finalised, ⟨⟩, _, rfl, rfl, rfl⟩ := captured
      rcases finalise_eq_ok finalised with ⟨pk, charge, located, rfl, rfl⟩ |
        ⟨none, -⟩
      · have started := sound_captured sound located
        exact started
      · rw [GateOp.Opens, none] at opens
        cases opens
  | release vin reason =>
      obtain ⟨result, middle, released, returned⟩ := Txn.bind_eq_ok.mp returned
      obtain ⟨-, rfl⟩ := Txn.pure_eq_ok.mp returned
      rcases finalise_eq_ok released with ⟨pk, charge, located, rfl, -⟩ |
        ⟨-, rfl⟩
      · exact sound_finalised sound
          (finalisesAll_finalised located (.inr rfl))
      · exact sound
  | expire maxAgeHours vin =>
      obtain rfl := Txn.modify_eq_ok.mp returned
      exact sound_finalised sound (finalisesAll_map before.charges _
        fun charge => reaped_finalises charge before.now maxAgeHours vin)
  | settle key reply =>
      rcases settle_eq_ok returned with rfl | rfl |
        ⟨job, result, middle, stored, settles, rfl⟩
      · exact sound
      · exact sound_endJob sound key
      · exact sound_settles sound stored settles
  | stop key =>
      obtain rfl := Txn.modify_eq_ok.mp returned
      exact sound_endJob sound key
  | gift credit =>
      obtain rfl := Txn.modify_eq_ok.mp returned
      exact ⟨⟨sound.opened, sound.named, sound.lifecycle, sound.once,
        sound.debited, sound.gifted, sound.recorded⟩,
        fun key job stored => by
          obtain ⟨pk, charge, live⟩ := sound.live key job stored
          exact ⟨pk, charge, { live with }⟩, sound.alone⟩
  | receive amount =>
      obtain rfl := Txn.modify_eq_ok.mp returned
      exact ⟨⟨sound.opened, sound.named, sound.lifecycle, sound.once,
        sound.debited, sound.gifted, sound.recorded⟩,
        fun key job stored => by
          obtain ⟨pk, charge, live⟩ := sound.live key job stored
          exact ⟨pk, charge, { live with }⟩, sound.alone⟩
  | pass later =>
      obtain rfl := Txn.modify_eq_ok.mp returned
      exact ⟨⟨sound.opened, sound.named, sound.lifecycle, sound.once,
        sound.debited, sound.gifted, sound.recorded⟩,
        fun key job stored => by
          obtain ⟨pk, charge, live⟩ := sound.live key job stored
          exact ⟨pk, charge, { live with }⟩, sound.alone⟩

theorem settles_charges {reference : String} {amount : ℤ} {awaits : Awaits}
    {result : Option Awaits}
    (settles : Settles reference amount before awaits result after) :
    after.charges = before.charges := by
  cases settles <;> rfl

theorem final_step (op : GateOp) {pk : ℕ} {charge : DiagnosticFeeCharge}
    (final : charge.status ≠ .authorized)
    (stored : before.charges.get? pk = some charge)
    (returned : op.run before = .ok ⟨⟩ after) :
    after.charges.get? pk = some charge := by
  have reaped : ∀ maxAgeHours vin,
      (before.reaped maxAgeHours vin).charges.get? pk = some charge := by
    intro maxAgeHours vin
    exact (finalisesAll_map before.charges _ fun row =>
      reaped_finalises row before.now maxAgeHours vin).keeps stored final
  cases op with
  | authorize call =>
      obtain ⟨result, middle, authorized, returned⟩ := Txn.bind_eq_ok.mp returned
      obtain ⟨-, rfl⟩ := Txn.pure_eq_ok.mp returned
      rcases authorize_eq_ok authorized with rfl | created
      · exact reaped _ _
      · obtain ⟨-, -, rfl⟩ := createCharge_eq_ok created
        exact Table.get?_insert_of_some (reaped _ _) _
  | capture vin =>
      obtain ⟨result, middle, captured, returned⟩ := Txn.bind_eq_ok.mp returned
      obtain ⟨-, rfl⟩ := Txn.pure_eq_ok.mp returned
      simp only [captureFee, Txn.bind_eq_ok, Txn.modify_eq_ok,
        Txn.pure_eq_ok] at captured
      obtain ⟨_, _, finalised, ⟨⟩, _, rfl, rfl, rfl⟩ := captured
      rcases finalise_eq_ok finalised with ⟨key, row, located, rfl, rfl⟩ |
        ⟨-, rfl⟩
      · exact (finalisesAll_finalised located (.inl rfl)).keeps stored final
      · exact stored
  | release vin reason =>
      obtain ⟨result, middle, released, returned⟩ := Txn.bind_eq_ok.mp returned
      obtain ⟨-, rfl⟩ := Txn.pure_eq_ok.mp returned
      rcases finalise_eq_ok released with ⟨key, row, located, rfl, -⟩ |
        ⟨-, rfl⟩
      · exact (finalisesAll_finalised located (.inr rfl)).keeps stored final
      · exact stored
  | expire maxAgeHours vin =>
      obtain rfl := Txn.modify_eq_ok.mp returned
      exact reaped maxAgeHours vin
  | settle key reply =>
      rcases settle_eq_ok returned with rfl | rfl |
        ⟨job, result, middle, -, settles, rfl⟩
      · exact stored
      · exact stored
      · rw [← settles_charges settles] at stored
        cases result <;> exact stored
  | stop key =>
      obtain rfl := Txn.modify_eq_ok.mp returned
      exact stored
  | gift credit =>
      obtain rfl := Txn.modify_eq_ok.mp returned
      exact stored
  | receive amount =>
      obtain rfl := Txn.modify_eq_ok.mp returned
      exact stored
  | pass later =>
      obtain rfl := Txn.modify_eq_ok.mp returned
      exact stored

def Gate.debited (gate : Gate) : ℤ :=
  (gate.debits.map WalletDebit.amount).sum

def GateOp.received : GateOp → ℤ
  | receive amount => amount
  | _ => 0

def Gate.funds (gate : Gate) : Option ℤ :=
  gate.wallet.map (· + gate.debited)

theorem funds_settles {reference : String} {amount : ℤ} {awaits : Awaits}
    {result : Option Awaits}
    (settles : Settles reference amount before awaits result after) :
    after.funds = before.funds := by
  cases settles with
  | debited held balance named whole difference same paid =>
      rw [Gate.funds, Gate.funds, held, balance]
      simp only [debitedGate, Gate.debited, Option.map_some, List.map_append,
        List.map_cons, List.map_nil, List.sum_append, List.sum_cons,
        List.sum_nil]
      congr 1
      omega
  | found located => rfl
  | lost => rfl
  | onward unpaid still agrees => rfl
  | given named same paid => rfl
  | saved => rfl

private theorem map_add_zero (funds : Option ℤ) : funds = funds.map (· + 0) := by
  cases funds with
  | none => rfl
  | some amount => rw [Option.map_some, add_zero]

theorem funds_step (op : GateOp) (returned : op.run before = .ok ⟨⟩ after) :
    after.funds = before.funds.map (· + op.received) := by
  have kept : ∀ {funds : Option ℤ}, funds = funds.map (· + 0) :=
    fun {funds} => map_add_zero funds
  cases op with
  | authorize call =>
      obtain ⟨result, middle, authorized, returned⟩ := Txn.bind_eq_ok.mp returned
      obtain ⟨-, rfl⟩ := Txn.pure_eq_ok.mp returned
      rcases authorize_eq_ok authorized with rfl | created
      · exact kept
      · obtain ⟨-, -, rfl⟩ := createCharge_eq_ok created
        exact kept
  | capture vin =>
      obtain ⟨result, middle, captured, returned⟩ := Txn.bind_eq_ok.mp returned
      obtain ⟨-, rfl⟩ := Txn.pure_eq_ok.mp returned
      simp only [captureFee, Txn.bind_eq_ok, Txn.modify_eq_ok,
        Txn.pure_eq_ok] at captured
      obtain ⟨_, _, finalised, ⟨⟩, _, rfl, rfl, rfl⟩ := captured
      rcases finalise_eq_ok finalised with ⟨key, row, located, rfl, rfl⟩ |
        ⟨-, rfl⟩
      · exact kept
      · exact kept
  | release vin reason =>
      obtain ⟨result, middle, released, returned⟩ := Txn.bind_eq_ok.mp returned
      obtain ⟨-, rfl⟩ := Txn.pure_eq_ok.mp returned
      rcases finalise_eq_ok released with ⟨key, row, located, rfl, -⟩ |
        ⟨-, rfl⟩
      · exact kept
      · exact kept
  | expire maxAgeHours vin =>
      obtain rfl := Txn.modify_eq_ok.mp returned
      exact kept
  | settle key reply =>
      rcases settle_eq_ok returned with rfl | rfl |
        ⟨job, result, middle, -, settles, rfl⟩
      · exact kept
      · exact kept
      · rw [← funds_settles settles]
        cases result <;> exact kept
  | stop key =>
      obtain rfl := Txn.modify_eq_ok.mp returned
      exact kept
  | gift credit =>
      obtain rfl := Txn.modify_eq_ok.mp returned
      exact kept
  | receive amount =>
      obtain rfl := Txn.modify_eq_ok.mp returned
      rw [Gate.funds, Gate.funds, Option.map_map, Option.map_map]
      congr 1
      funext balance
      change balance + amount + before.debited = balance + before.debited + amount
      omega
  | pass later =>
      obtain rfl := Txn.modify_eq_ok.mp returned
      exact kept

end Operations

theorem funds_after (ops : List GateOp) (gate : Gate) :
    (Txn.after GateOp.run ops gate).funds =
      gate.funds.map (· + (ops.map GateOp.received).sum) := by
  induction ops generalizing gate with
  | nil => exact map_add_zero gate.funds
  | cons op ops induction =>
      have step : ((op.run).final gate).funds =
          gate.funds.map (· + op.received) := by
        apply Txn.final_of
          (fun after : Gate => after.funds = gate.funds.map (· + op.received))
        · rintro ⟨⟩ after returned
          exact funds_step op returned
        · intro error after failed
          rw [gate_rollsBack op gate error after failed]
          have none : op.received = 0 := by
            cases op with
            | receive amount => exact absurd failed Txn.modify_eq_error
            | _ => rfl
          rw [none]
          exact map_add_zero gate.funds
      rw [Txn.after, induction, step, Option.map_map, List.map_cons,
        List.sum_cons]
      congr 1
      funext balance
      exact (add_assoc _ _ _)

def openedGate (now : ℤ) (schema : Option String) (provider : ProviderName)
    (wallet : Option ℤ) : Gate :=
  { now, schema, provider, wallet }

theorem sound_opened (now : ℤ) (schema : Option String)
    (provider : ProviderName) (wallet : Option ℤ) :
    SoundGate (openedGate now schema provider wallet) where
  opened _ _ _ _ stored := by cases stored
  named _ _ _ _ stored := by cases stored
  lifecycle _ _ stored := by cases stored
  once _ := Nat.zero_le _
  debited _ member := by cases member
  gifted _ member := by cases member
  recorded _ _ stored := by cases stored
  live _ _ stored := by cases stored
  alone _ _ _ _ stored := by cases stored

/-- In every run whose captures find open authorizations, each charge is paid
for at most once and only when it is captured, a charge that is final never
changes again, and the wallet moves by the debits and by what it receives
otherwise. -/
theorem fees_paid_once (now : ℤ) (schema : Option String)
    (provider : ProviderName) (wallet : Option ℤ) (ops : List GateOp)
    (opens : Txn.Throughout GateOp.run GateOp.Opens ops
      (openedGate now schema provider wallet)) :
    PaidOnce (Txn.after GateOp.run ops
        (openedGate now schema provider wallet)) ∧
      (∀ earlier later pk charge, ops = earlier ++ later →
        (Txn.after GateOp.run earlier
          (openedGate now schema provider wallet)).charges.get? pk =
            some charge → charge.status ≠ .authorized →
        (Txn.after GateOp.run ops
          (openedGate now schema provider wallet)).charges.get? pk =
            some charge) ∧
      (Txn.after GateOp.run ops (openedGate now schema provider wallet)).wallet =
        wallet.map (· + (ops.map GateOp.received).sum -
          (Txn.after GateOp.run ops
            (openedGate now schema provider wallet)).debited) := by
  refine ⟨?_, ?_, ?_⟩
  · have sound := Txn.after_of_throughout SoundGate gate_rollsBack
      (fun op before after kept met returned => sound_step op kept met returned)
      ops _ (sound_opened now schema provider wallet) opens
    exact sound.toPaidOnce
  · rintro earlier later pk charge rfl stored final
    rw [Txn.after_append]
    exact Txn.after_invariant
      (fun gate => gate.charges.get? pk = some charge) gate_rollsBack
      (fun op before after kept returned => final_step op final kept returned)
      later stored
  · have funds := funds_after ops (openedGate now schema provider wallet)
    have opening : (openedGate now schema provider wallet).funds = wallet := by
      cases wallet with
      | none => rfl
      | some balance => exact congrArg some (add_zero balance)
    rw [opening, Gate.funds] at funds
    cases held : (Txn.after GateOp.run ops
        (openedGate now schema provider wallet)).wallet with
    | none =>
        rw [held] at funds
        cases wallet with
        | none => rfl
        | some balance => cases funds
    | some left =>
        rw [held] at funds
        cases wallet with
        | none => cases funds
        | some balance =>
            have same : left + (Txn.after GateOp.run ops (openedGate now schema
                provider (some balance))).debited =
                balance + (ops.map GateOp.received).sum := Option.some.inj funds
            rw [Option.map_some, ← same, add_sub_cancel_right]

def oneFee : AuthorizeCall :=
  { vin := "WBA00000000000001", amount := 45000, token := "a" }

def capturedFee : List GateOp :=
  [.authorize oneFee, .capture oneFee.vin, .settle 0 (.error ""),
    .settle 0 (.error ""), .settle 0 (.error ""), .settle 0 (.error "")]

def thousandPounds : Gate :=
  openedGate 0 (some "garage") .giftThenWalletThenPaymob (some 100000)

theorem fees_paid_once_capturedFee :
    PaidOnce (Txn.after GateOp.run capturedFee thousandPounds) := by
  have opens : Txn.Throughout GateOp.run GateOp.Opens capturedFee
      thousandPounds := by
    refine ⟨fun _ => trivial, fun _ => ?_, fun _ => trivial, fun _ => trivial,
      fun _ => trivial, fun _ => trivial, trivial⟩
    show (Gate.openOf ((GateOp.authorize oneFee).run.final thousandPounds)
      oneFee.vin).isSome = true
    decide +kernel
  exact (fees_paid_once 0 (some "garage") .giftThenWalletThenPaymob
    (some 100000) capturedFee opens).1

/-- The client repeats the capture after its success: the wallet is debited a
second time for the one authorization. -/
theorem capture_replay_charges_again :
    ¬ ∀ now schema provider wallet ops, PaidOnce (Txn.after GateOp.run ops
      (openedGate now schema provider wallet)) := by
  intro promised
  have paid := promised 0 (some "garage") .giftThenWalletThenPaymob
    (some 100000) (capturedFee ++ [.capture oneFee.vin, .settle 1 (.error ""),
      .settle 1 (.error ""), .settle 1 (.error "")])
  have twice := paid.once "BMWECU-a"
  exact absurd twice (by decide +kernel)

end Billing

end Mousstec
