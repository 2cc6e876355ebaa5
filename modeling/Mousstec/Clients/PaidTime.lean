import Mathlib.Data.List.Induction
import Mousstec.Clients.BillingFacts

/-!
# Paid time

Settled invoices stack: the period of an invoice that is no upgrade starts when
the time paid before it ends, so that these periods never overlap, and an upgrade
never moves that end back.  What an operation settles is described against the
platform before it, whatever else the operation does.
-/

namespace Mousstec

namespace Clients

open Library

/-- What settling an invoice does, between the platforms before and after the
operation that settles it. -/
structure SettledOn (before after : Platform) (key : ℕ)
    (invoice : PlatformInvoice) (row : Tenant) : Prop where
  owner : before.tenants.get? invoice.tenant = some row
  ends : ∃ later, after.tenants.get? invoice.tenant = some later ∧
    later.client.subscriptionEndDate = some invoice.periodEnd
  longer : ∀ ended ∈ row.client.subscriptionEndDate, ended ≤ invoice.periodEnd
  cycle : invoice.kind ≠ .upgrade →
    ∃ days, periodDays? invoice.billingCycleMonths = some days ∧
      invoice.periodEnd = invoice.periodStart + days
  notEarly : invoice.kind ≠ .upgrade → before.today ≤ invoice.periodStart
  follows : invoice.kind ≠ .upgrade →
    ∀ ended ∈ row.client.subscriptionEndDate, ended ≤ invoice.periodStart
  trial : row.client.status = .trial →
    row.client.subscriptionEndDate = none →
      row.client.trialEndsAt ≤ invoice.periodStart
  quoted : invoice.kind = .upgrade → invoice.periodStart = before.today ∧
    ∀ stored, before.invoices.get? key = some stored →
      before.today + (stored.periodEnd - stored.periodStart) ≤
        invoice.periodEnd

/-- What an operation without a refund does to the paid time. -/
structure StepKept (before after : Platform) : Prop where
  once : ∀ key invoice, before.invoices.get? key = some invoice →
    invoice.status = .paid → after.invoices.get? key = some invoice
  waits : ∀ key stored later, before.invoices.get? key = some stored →
    after.invoices.get? key = some later → later.status ≠ .paid →
      later.periodStart = stored.periodStart ∧
        later.periodEnd = stored.periodEnd
  settles : ∀ key invoice, after.invoices.get? key = some invoice →
    invoice.status = .paid → before.invoices.get? key ≠ some invoice →
      ∃ row, SettledOn before after key invoice row

/-- The operation leaves an invoice paid, with the time it pays for. -/
def Settles (before after : Platform) (key : ℕ) : Prop :=
  ∃ invoice row, after.invoices.get? key = some invoice ∧
    invoice.status = .paid ∧ SettledOn before after key invoice row

/-- Paid time is neither lost nor counted twice: what is accepted as a payment
gives its time, and only that does. -/
structure TimeKept (platform : Platform) : Prop where
  apart : ∀ key other left right, platform.invoices.get? key = some left →
    platform.invoices.get? other = some right → key ≠ other →
      left.status = .paid → right.status = .paid →
      left.kind ≠ .upgrade → right.kind ≠ .upgrade →
      left.tenant = right.tenant →
        left.periodEnd ≤ right.periodStart ∨ right.periodEnd ≤ left.periodStart
  steps : ∀ (op : BillingOp) after, op.refunds = false →
    op.run platform = .ok ⟨⟩ after → StepKept platform after
  issued : ∀ tenant plan (issue : Issue) key after,
    issue.kind ≠ .upgrade → (issue.paid || issue.gift) = true →
      issueSubscriptionInvoice tenant plan issue platform = .ok key after →
        platform.invoices.get? key = none ∧ Settles platform after key
  settled : ∀ key invoice provider reference after,
    platform.invoices.get? key = some invoice → invoice.Owed →
      settleIssuedInvoice key provider reference platform = .ok ⟨⟩ after →
        Settles platform after key
  notified : ∀ provider order paidCents key invoice answer after,
    platform.invoiceFor provider (toString order) = some (key, invoice) →
      invoice.Owed → invoice.total ≤ paidCents →
      settleGatewayInvoice provider order paidCents platform =
        .ok answer after → answer = .paid ∧ Settles platform after key
  repeated : ∀ key invoice provider reference,
    platform.invoices.get? key = some invoice → invoice.status = .paid →
      settleIssuedInvoice key provider reference platform = .ok ⟨⟩ platform
  renotified : ∀ provider order paidCents key invoice,
    platform.invoiceFor provider (toString order) = some (key, invoice) →
      invoice.status = .paid →
      settleGatewayInvoice provider order paidCents platform =
        .ok .alreadyPaid platform

/-- The cycle of an invoice is sold, and only a subscription with an end is
upgraded. -/
structure WellIssued (platform : Platform) (invoice : PlatformInvoice) :
    Prop where
  cycle : (periodDays? invoice.billingCycleMonths).isSome
  dated : invoice.kind = .upgrade →
    ∃ row ended, platform.tenants.get? invoice.tenant = some row ∧
      row.client.subscriptionEndDate = some ended

theorem WellIssued.later {before after : Platform} {invoice : PlatformInvoice}
    (issued : WellIssued before invoice)
    (ends : ∀ row ended, before.tenants.get? invoice.tenant = some row →
      row.client.subscriptionEndDate = some ended →
      ∃ later ended, after.tenants.get? invoice.tenant = some later ∧
        later.client.subscriptionEndDate = some ended) :
    WellIssued after invoice where
  cycle := issued.cycle
  dated upgrade := by
    obtain ⟨row, ended, owner, dated⟩ := issued.dated upgrade
    exact ends row ended owner dated

theorem WellIssued.move {before after : Platform} (move : Move before after)
    (issued : ∀ key invoice, before.invoices.get? key = some invoice →
      WellIssued before invoice) :
    ∀ key invoice, after.invoices.get? key = some invoice →
      WellIssued after invoice := by
  intro key invoice stored
  have kept : ∀ tenant row ended, before.tenants.get? tenant = some row →
      row.client.subscriptionEndDate = some ended →
      ∃ later ended, after.tenants.get? tenant = some later ∧
        later.client.subscriptionEndDate = some ended := by
    intro tenant row ended owner dated
    rcases move.tenant tenant with same | ⟨held, trial, found, -, later⟩
    · exact ⟨row, ended, same.trans owner, dated⟩
    · rw [owner] at found
      obtain rfl := Option.some.inj found
      exact ⟨_, ended, later, dated⟩
  rcases move.found stored with same | ⟨earlier, held, -, rfl⟩ |
    ⟨-, -, -, -, -, cycle, ⟨row, owner, dated⟩, -⟩
  · exact (issued key invoice same).later (kept invoice.tenant)
  · have old := (issued key earlier held).later (kept earlier.tenant)
    exact ⟨old.cycle, old.dated⟩
  · refine ⟨cycle, fun upgrade => ?_⟩
    obtain ⟨ended, ends⟩ := Option.isSome_iff_exists.mp (dated upgrade)
    exact kept invoice.tenant row ended owner ends

theorem WellIssued.deed {before after : Platform} {deed : Deed}
    (done : deed.Done before after)
    (issued : ∀ key invoice, before.invoices.get? key = some invoice →
      WellIssued before invoice) :
    ∀ key invoice, after.invoices.get? key = some invoice →
      WellIssued after invoice := by
  intro key invoice after
  cases done with
  | discounts stored issued' plain stamped listed =>
      rcases discounted_found stored after with ⟨-, held⟩ |
        ⟨rfl, total, coupon, rfl⟩
      · have old := issued key invoice held
        exact ⟨old.cycle, old.dated⟩
      · have old := issued key _ stored
        exact ⟨old.cycle, old.dated⟩
  | @pays paid stored row target provider reference located owed owner sold
      free =>
      have payer : before.tenants.get?
          (stored.reperiod row.client before.today).tenant = some row := by
        rw [reperiod_tenant]
        exact owner
      have kept : ∀ tenant holder ended,
          before.tenants.get? tenant = some holder →
          holder.client.subscriptionEndDate = some ended →
          ∃ later ended, (before.finalized paid
            (stored.reperiod row.client before.today) row target provider
            reference).tenants.get? tenant = some later ∧
            later.client.subscriptionEndDate = some ended := by
        intro tenant holder ended owned dated
        by_cases same : tenant = (stored.reperiod row.client before.today).tenant
        · subst same
          exact ⟨before.paidTenant (stored.reperiod row.client before.today)
            row target, _, finalized_payer payer, rfl⟩
        · exact ⟨holder, ended, (finalized_bystander same).trans owned, dated⟩
      rcases finalized_found located after with ⟨-, held⟩ | ⟨rfl, rfl⟩
      · exact (issued key invoice held).later (kept invoice.tenant)
      · constructor
        · rw [paidInvoice_cycle, reperiod_cycle]
          exact (issued key stored located).cycle
        · intro upgrade
          rw [paidInvoice_tenant]
          exact ⟨before.paidTenant (stored.reperiod row.client before.today)
            row target, _, finalized_payer payer, rfl⟩

/-- The periods of the paid invoices end when the subscription does, or before,
and those that are no upgrades are apart. -/
structure Stacked (platform : Platform) : Prop where
  ended : ∀ key invoice, platform.invoices.get? key = some invoice →
    invoice.status = .paid →
      ∃ row ended, platform.tenants.get? invoice.tenant = some row ∧
        row.client.subscriptionEndDate = some ended ∧
        invoice.periodEnd ≤ ended
  apart : ∀ key other left right, platform.invoices.get? key = some left →
    platform.invoices.get? other = some right → key ≠ other →
      left.status = .paid → right.status = .paid →
      left.kind ≠ .upgrade → right.kind ≠ .upgrade →
      left.tenant = right.tenant →
        left.periodEnd ≤ right.periodStart ∨ right.periodEnd ≤ left.periodStart
  issued : ∀ key invoice, platform.invoices.get? key = some invoice →
    WellIssued platform invoice

/-- It does not matter what else a change does that keeps the paid invoices and
the ends of the subscriptions. -/
theorem Stacked.of_kept {before after : Platform} (stacked : Stacked before)
    (paid : ∀ key invoice, after.invoices.get? key = some invoice →
      invoice.status = .paid → before.invoices.get? key = some invoice)
    (issued : ∀ key invoice, after.invoices.get? key = some invoice →
      WellIssued after invoice)
    (ends : ∀ tenant row, before.tenants.get? tenant = some row →
      ∃ later, after.tenants.get? tenant = some later ∧
        later.client.subscriptionEndDate = row.client.subscriptionEndDate) :
    Stacked after where
  ended key invoice stored settled := by
    obtain ⟨row, ended, owner, ends', least⟩ :=
      stacked.ended key invoice (paid key invoice stored settled) settled
    obtain ⟨later, owned, same⟩ := ends invoice.tenant row owner
    exact ⟨later, ended, owned, same.trans ends', least⟩
  apart key other left right first second different settled settled' :=
    stacked.apart key other left right (paid key left first settled)
      (paid other right second settled') different settled settled'
  issued := issued

theorem Stacked.move {before after : Platform} (move : Move before after)
    (stacked : Stacked before) : Stacked after := by
  apply stacked.of_kept
  · intro key invoice stored paid
    exact move.paid stored paid
  · exact WellIssued.move move stacked.issued
  · intro tenant row owner
    rcases move.tenant tenant with same | ⟨held, trial, found, -, later⟩
    · exact ⟨row, same.trans owner, rfl⟩
    · rw [owner] at found
      obtain rfl := Option.some.inj found
      exact ⟨_, later, rfl⟩

theorem Stacked.deed {before after : Platform} {deed : Deed}
    (done : deed.Done before after) (stacked : Stacked before) :
    Stacked after := by
  cases done with
  | discounts stored issued plain stamped listed =>
      apply stacked.of_kept
      · intro other found after paid
        rcases discounted_found stored after with ⟨-, held⟩ |
          ⟨rfl, total, coupon, rfl⟩
        · exact held
        · cases issued.symm.trans paid
      · exact WellIssued.deed
          (.discounts stored issued plain stamped listed) stacked.issued
      · exact fun tenant row owner => ⟨row, owner, rfl⟩
  | @pays key stored row target provider reference located owed owner sold
      free =>
      have payer : before.tenants.get?
          (stored.reperiod row.client before.today).tenant = some row := by
        rw [reperiod_tenant]
        exact owner
      -- the end of the subscription of the payer, before and after
      have beyond : ∀ other invoice, before.invoices.get? other = some invoice →
          invoice.status = .paid → invoice.tenant = stored.tenant →
          ∃ ended, row.client.subscriptionEndDate = some ended ∧
            invoice.periodEnd ≤ ended := by
        intro other invoice held paid same
        obtain ⟨holder, ended, owned, ends, least⟩ :=
          stacked.ended other invoice held paid
        rw [same, owner] at owned
        obtain rfl := Option.some.inj owned
        exact ⟨ended, ends, least⟩
      have ahead : ∀ other invoice, before.invoices.get? other = some invoice →
          invoice.status = .paid → invoice.tenant = stored.tenant →
          stored.kind ≠ .upgrade → invoice.periodEnd ≤
            (stored.reperiod row.client before.today).periodStart := by
        intro other invoice held paid same plain
        obtain ⟨ended, ends, least⟩ := beyond other invoice held paid same
        rw [(reperiod_of_ne plain).1]
        exact least.trans (ended_le_periodAnchor before.today ends)
      refine ⟨?_, ?_, ?_⟩
      · intro other found after paid
        rcases finalized_found located after with ⟨different, held⟩ | ⟨rfl, rfl⟩
        · by_cases same : found.tenant = stored.tenant
          · obtain ⟨ended, ends, least⟩ := beyond other found held paid same
            refine ⟨before.paidTenant (stored.reperiod row.client before.today)
              row target, _, ?_, rfl, least.trans (ended_le_reperiod ends)⟩
            rw [same, ← reperiod_tenant stored row.client before.today]
            exact finalized_payer payer
          · obtain ⟨holder, ended, owned, ends, least⟩ :=
              stacked.ended other found held paid
            refine ⟨holder, ended, ?_, ends, least⟩
            rw [finalized_bystander (by rw [reperiod_tenant]; exact same)]
            exact owned
        · refine ⟨before.paidTenant (stored.reperiod row.client before.today)
            row target, _, ?_, rfl, ?_⟩
          · rw [paidInvoice_tenant]
            exact finalized_payer payer
          · rw [paidInvoice_periodEnd]
      · intro first second left right held held' different paid paid' plain
          plain' same
        rcases finalized_found located held with ⟨-, old⟩ | ⟨rfl, rfl⟩
        · rcases finalized_found located held' with ⟨-, old'⟩ | ⟨rfl, rfl⟩
          · exact stacked.apart first second left right old old' different paid
              paid' plain plain' same
          · rw [paidInvoice_tenant, reperiod_tenant] at same
            rw [Ne, paidInvoice_upgrade] at plain'
            rw [paidInvoice_periodStart]
            exact .inl (ahead first left old paid same plain')
        · rcases finalized_found located held' with ⟨-, old'⟩ | ⟨rfl, rfl⟩
          · rw [paidInvoice_tenant, reperiod_tenant] at same
            rw [Ne, paidInvoice_upgrade] at plain
            rw [paidInvoice_periodStart]
            exact .inr (ahead second right old' paid' same.symm plain)
          · exact absurd rfl different
      · exact WellIssued.deed (.pays located owed owner sold free)
          stacked.issued

theorem Stacked.course {before after : Platform} {deeds : List Deed}
    (course : Course before deeds after) (stacked : Stacked before) :
    Stacked after := by
  induction course with
  | done platform => exact stacked
  | move moved _ induction => exact induction (stacked.move moved)
  | deed does _ induction => exact induction (stacked.deed does)

/-- A turn without a refund leaves the invoices alone, and moves no
subscription's end. -/
theorem turn_kept {op : BillingOp} {before after : Platform}
    (turns : op.turns = true) (plain : op.refunds = false)
    (returned : op.body before = .ok ⟨⟩ after) :
    after.invoices = before.invoices ∧ ∀ tenant row,
      before.tenants.get? tenant = some row →
        ∃ later, after.tenants.get? tenant = some later ∧
          later.client.subscriptionEndDate = row.client.subscriptionEndDate := by
  rcases op.plain_cases turns plain with rfl | ⟨days, instants, rfl⟩
  · obtain ⟨halted, rfl, rfl⟩ := daily_eq_ok returned
    refine ⟨rfl, fun tenant row owner => ?_⟩
    simp only [Table.get?_map, owner, Option.map_some]
    refine ⟨_, rfl, ?_⟩
    rw [switched_client, suspended_end]
  · obtain rfl := Txn.modify_eq_ok.mp returned
    exact ⟨rfl, fun tenant row owner => ⟨row, owner, rfl⟩⟩

theorem Stacked.turn {op : BillingOp} {before after : Platform}
    (turns : op.turns = true) (plain : op.refunds = false)
    (stacked : Stacked before) (returned : op.body before = .ok ⟨⟩ after) :
    Stacked after := by
  obtain ⟨same, ends⟩ := turn_kept turns plain returned
  refine stacked.of_kept ?_ ?_ ends
  · intro key invoice stored _
    exact same ▸ stored
  · intro key invoice stored
    apply (stacked.issued key invoice (same ▸ stored)).later
    intro row ended owner dated
    obtain ⟨later, owned, kept⟩ := ends invoice.tenant row owner
    exact ⟨later, ended, owned, kept.trans dated⟩

theorem stacked_step {op : BillingOp} {before after : Platform}
    (plain : op.refunds = false) (stacked : Stacked before)
    (returned : op.run before = .ok ⟨⟩ after) : Stacked after := by
  obtain ⟨done, body, rfl⟩ := run_eq_ok.mp returned
  have kept : Stacked done := by
    cases turns : op.turns with
    | false =>
        obtain ⟨middle, course, rfl⟩ := body_course turns body
        have kept := stacked.course course
        refine ⟨kept.ended, kept.apart, fun key invoice stored => ?_⟩
        have old := kept.issued key invoice stored
        exact ⟨old.cycle, old.dated⟩
    | true => exact stacked.turn turns plain body
  refine ⟨kept.ended, kept.apart, fun key invoice stored => ?_⟩
  have old := kept.issued key invoice stored
  exact ⟨old.cycle, old.dated⟩

theorem stacked_opened (now today : ℕ) (plans : Table Plan)
    (promotions : List PlanPromotion) (tenants : Table Tenant)
    (coupons : Table Coupon) :
    Stacked (openedPlatform now today plans promotions tenants coupons) where
  ended _ _ stored := by cases stored
  apart _ _ _ _ stored := by cases stored
  issued _ _ stored := by cases stored

/-- A tenant of whom nothing was paid since a platform. -/
structure Unpaid (before now : Platform) (tenant : ℕ) : Prop where
  nothing : ∀ key invoice, now.invoices.get? key = some invoice →
    invoice.status = .paid → invoice.tenant = tenant →
      before.invoices.get? key = some invoice
  client : ∀ row, now.tenants.get? tenant = some row →
    ∃ earlier, before.tenants.get? tenant = some earlier ∧
      row.client.status = earlier.client.status ∧
      row.client.subscriptionEndDate = earlier.client.subscriptionEndDate ∧
      earlier.client.trialEndsAt ≤ row.client.trialEndsAt

/-- A payment is of a tenant of whom nothing was paid yet. -/
def PaysFirst (before now : Platform) : Deed → Prop
  | .discounts _ _ _ => True
  | .pays _ invoice _ _ => Unpaid before now invoice.tenant

theorem Unpaid.refl (platform : Platform) (tenant : ℕ) :
    Unpaid platform platform tenant where
  nothing _ _ stored _ _ := stored
  client row owner := ⟨row, owner, rfl, rfl, le_rfl⟩

theorem Unpaid.move {before now after : Platform} {tenant : ℕ}
    (move : Move now after) (unpaid : Unpaid before now tenant) :
    Unpaid before after tenant where
  nothing key invoice stored paid same :=
    unpaid.nothing key invoice (move.paid stored paid) paid same
  client row owner := by
    rcases move.tenant tenant with same | ⟨held, trial, found, longer, later⟩
    · exact unpaid.client row (same ▸ owner)
    · rw [later] at owner
      obtain rfl := Option.some.inj owner
      obtain ⟨earlier, there, status, ends, least⟩ := unpaid.client held found
      exact ⟨earlier, there, status, ends, least.trans longer⟩

/-- An operation without a refund, so far. -/
structure Since (before now : Platform) : Prop where
  today : now.today = before.today
  once : ∀ key invoice, before.invoices.get? key = some invoice →
    invoice.status = .paid → now.invoices.get? key = some invoice
  stays : ∀ key stored, before.invoices.get? key = some stored →
    ∃ later, now.invoices.get? key = some later ∧
      (later.status ≠ .paid → later.periodStart = stored.periodStart ∧
        later.periodEnd = stored.periodEnd)
  settles : ∀ key invoice, now.invoices.get? key = some invoice →
    invoice.status = .paid → before.invoices.get? key ≠ some invoice →
      ∃ row, SettledOn before now key invoice row
  issued : ∀ key invoice, now.invoices.get? key = some invoice →
    WellIssued now invoice

theorem Since.refl {platform : Platform} (stacked : Stacked platform) :
    Since platform platform where
  today := rfl
  once _ _ stored _ := stored
  stays _ stored held := ⟨stored, held, fun _ => ⟨rfl, rfl⟩⟩
  settles _ _ stored _ new := absurd stored new
  issued := stacked.issued

theorem SettledOn.later {before now after : Platform} {key : ℕ}
    {invoice : PlatformInvoice} {row : Tenant}
    (settled : SettledOn before now key invoice row)
    (ends : ∀ held, now.tenants.get? invoice.tenant = some held →
      ∃ later, after.tenants.get? invoice.tenant = some later ∧
        later.client.subscriptionEndDate = held.client.subscriptionEndDate) :
    SettledOn before after key invoice row where
  owner := settled.owner
  ends := by
    obtain ⟨held, owner, same⟩ := settled.ends
    obtain ⟨later, owned, kept⟩ := ends held owner
    exact ⟨later, owned, kept.trans same⟩
  longer := settled.longer
  cycle := settled.cycle
  notEarly := settled.notEarly
  follows := settled.follows
  trial := settled.trial
  quoted := settled.quoted

theorem Since.move {before now after : Platform} (move : Move now after)
    (since : Since before now) : Since before after where
  today := move.frame.1.trans since.today
  once key invoice stored paid := by
    rcases move.kept (since.once key invoice stored paid) with same |
      ⟨issued, -⟩
    · exact same
    · cases issued.symm.trans paid
  stays key stored held := by
    obtain ⟨later, there, same⟩ := since.stays key stored held
    rcases move.kept there with kept | ⟨issued, void⟩
    · exact ⟨later, kept, same⟩
    · exact ⟨_, void, fun _ => same (by simp [issued])⟩
  settles key invoice stored paid new := by
    obtain ⟨row, settled⟩ :=
      since.settles key invoice (move.paid stored paid) paid new
    refine ⟨row, settled.later fun held owner => ?_⟩
    rcases move.tenant invoice.tenant with same | ⟨found, trial, there, -, later⟩
    · exact ⟨held, same.trans owner, rfl⟩
    · rw [owner] at there
      obtain rfl := Option.some.inj there
      exact ⟨_, later, rfl⟩
  issued := WellIssued.move move since.issued

theorem Since.deed {before now after : Platform} {deed : Deed}
    (done : deed.Done now after) (since : Since before now)
    (first : PaysFirst before now deed) : Since before after := by
  cases done with
  | @discounts key invoice given stored issued plain stamped listed =>
      refine ⟨since.today, ?_, ?_, ?_, ?_⟩
      · intro other found held paid
        have there := since.once other found held paid
        by_cases same : other = key
        · subst same
          rw [stored] at there
          obtain rfl := Option.some.inj there
          cases issued.symm.trans paid
        · exact (Table.get?_modify_of_ne _ same _).trans there
      · intro other found held
        obtain ⟨later, there, kept⟩ := since.stays other found held
        by_cases same : other = key
        · subst same
          rw [stored] at there
          obtain rfl := Option.some.inj there
          obtain ⟨total, coupon, discounted⟩ := withCoupon_eq invoice (some given)
          refine ⟨invoice.withCoupon (some given), by simp [stored], fun _ => ?_⟩
          rw [discounted]
          exact kept (by simp [issued])
        · exact ⟨later, (Table.get?_modify_of_ne _ same _).trans there, kept⟩
      · intro other found held paid new
        rcases discounted_found stored held with ⟨-, there⟩ |
          ⟨rfl, total, coupon, rfl⟩
        · obtain ⟨row, settled⟩ := since.settles other found there paid new
          exact ⟨row, settled.later fun held owner => ⟨held, owner, rfl⟩⟩
        · cases issued.symm.trans paid
      · exact WellIssued.deed
          (.discounts stored issued plain stamped listed) since.issued
  | @pays key stored row target provider reference located owed owner sold
      free =>
      have payer : now.tenants.get?
          (stored.reperiod row.client now.today).tenant = some row := by
        rw [reperiod_tenant]
        exact owner
      refine ⟨since.today, ?_, ?_, ?_, ?_⟩
      · intro other found held paid
        have there := since.once other found held paid
        by_cases same : other = key
        · subst same
          rw [located] at there
          obtain rfl := Option.some.inj there
          exact absurd paid (unpaid_of_owed owed)
        · rw [finalized_other same]
          exact there
      · intro other found held
        obtain ⟨later, there, kept⟩ := since.stays other found held
        by_cases same : other = key
        · subst same
          exact ⟨_, finalized_self located, fun unpaid =>
            absurd paidInvoice_status unpaid⟩
        · exact ⟨later, (finalized_other same).trans there, kept⟩
      · intro other found held paid new
        rcases finalized_found located held with ⟨-, there⟩ | ⟨rfl, rfl⟩
        · obtain ⟨holder, settled⟩ := since.settles other found there paid new
          refine ⟨holder, settled.later fun account owned => ?_⟩
          have elsewhere : found.tenant ≠
              (stored.reperiod row.client now.today).tenant := by
            intro same
            exact new (first.nothing other found there paid same)
          exact ⟨account, (finalized_bystander elsewhere).trans owned, rfl⟩
        · obtain ⟨earlier, there, status, ends, least⟩ :=
            first.client row payer
          refine ⟨earlier, ?_, ?_, ?_, ?_, ?_, ?_, ?_, ?_⟩
          · rw [paidInvoice_tenant]
            exact there
          · refine ⟨now.paidTenant (stored.reperiod row.client now.today) row
              target, ?_, ?_⟩
            · rw [paidInvoice_tenant]
              exact finalized_payer payer
            · rw [paidInvoice_periodEnd]
              rfl
          · intro ended held
            rw [paidInvoice_periodEnd]
            exact ended_le_reperiod (ends.trans held)
          · intro plain
            rw [Ne, paidInvoice_upgrade] at plain
            rw [paidInvoice_cycle, reperiod_cycle, paidInvoice_periodEnd,
              paidInvoice_periodStart, (reperiod_of_ne plain).1,
              (reperiod_of_ne plain).2]
            obtain ⟨days, counted⟩ := Option.isSome_iff_exists.mp
              (since.issued _ stored located).cycle
            exact ⟨days, counted, by rw [periodDays, counted, Option.getD_some]⟩
          · intro plain
            rw [Ne, paidInvoice_upgrade] at plain
            rw [paidInvoice_periodStart, (reperiod_of_ne plain).1, ← since.today]
            exact le_periodAnchor row.client now.today
          · intro plain ended held
            rw [Ne, paidInvoice_upgrade] at plain
            rw [paidInvoice_periodStart, (reperiod_of_ne plain).1]
            exact ended_le_periodAnchor now.today (ends.trans held)
          · intro trial none
            have plain : stored.kind ≠ .upgrade := by
              intro upgrade
              obtain ⟨holder, ended, owned, dated⟩ :=
                (since.issued other stored located).dated upgrade
              rw [owner] at owned
              obtain rfl := Option.some.inj owned
              cases dated.symm.trans (ends.trans none)
            rw [paidInvoice_periodStart, (reperiod_of_ne plain).1]
            exact least.trans (trial_le_periodAnchor now.today
              (status.trans trial) (ends.trans none))
          · intro upgrade
            rw [paidInvoice_upgrade] at upgrade
            rw [paidInvoice_periodStart, paidInvoice_periodEnd, ← since.today]
            obtain ⟨start, quoted⟩ :
                (stored.reperiod row.client now.today).periodStart = now.today ∧
                  now.today + (stored.periodEnd - stored.periodStart) ≤
                    (stored.reperiod row.client now.today).periodEnd :=
              reperiod_of_upgrade upgrade
            refine ⟨start, fun issued held => ?_⟩
            obtain ⟨later, found, kept⟩ := since.stays other issued held
            rw [located] at found
            obtain rfl := Option.some.inj found
            obtain ⟨starts, ends⟩ := kept (unpaid_of_owed owed)
            rw [← starts, ← ends]
            exact quoted
      · exact WellIssued.deed (.pays located owed owner sold free) since.issued

theorem paysFirst_later {before now after : Platform} {deed next : Deed}
    (done : deed.Done now after) (ordered : deed.Before next)
    (first : PaysFirst before now next) : PaysFirst before after next := by
  cases next with
  | discounts => trivial
  | pays later invoice provider' reference' =>
      cases done with
      | discounts stored issued plain stamped listed =>
          refine ⟨fun other found held paid same => ?_, first.client⟩
          rcases discounted_found stored held with ⟨-, there⟩ |
            ⟨rfl, total, coupon, rfl⟩
          · exact first.nothing other found there paid same
          · cases issued.symm.trans paid
      | pays located owed owner sold free =>
          refine ⟨fun other found held paid same => ?_, fun row held => ?_⟩
          · rcases finalized_found located held with ⟨-, there⟩ | ⟨rfl, rfl⟩
            · exact first.nothing other found there paid same
            · rw [paidInvoice_tenant] at same
              exact absurd same ordered.1
          · rw [finalized_bystander (Ne.symm ordered.1)] at held
            exact first.client row held

theorem since_course {before after : Platform} {deeds : List Deed}
    (course : Course before deeds after)
    (ordered : deeds.Pairwise Deed.Before) (stacked : Stacked before) :
    Since before after := by
  apply course.invariant (Since before) (PaysFirst before)
  · exact fun now after move since => since.move move
  · intro now after deed move _ first
    cases deed with
    | discounts => trivial
    | pays key invoice provider reference => exact first.move move
  · exact fun now after deed done since first => since.deed done first
  · exact fun now after deed next done _ _ before first =>
      paysFirst_later done before first
  · exact ordered
  · exact .refl stacked
  · intro deed _
    cases deed with
    | discounts => trivial
    | pays key invoice provider reference => exact .refl before invoice.tenant

theorem stepKept_of_since {before after : Platform} (since : Since before after) :
    StepKept before after where
  once := since.once
  waits key stored later held held' unpaid := by
    obtain ⟨found, there, kept⟩ := since.stays key stored held
    rw [held'] at there
    obtain rfl := Option.some.inj there
    exact kept unpaid
  settles := since.settles

theorem step_kept {op : BillingOp} {before after : Platform}
    (plain : op.refunds = false) (stacked : Stacked before)
    (returned : op.run before = .ok ⟨⟩ after) : StepKept before after := by
  obtain ⟨done, body, rfl⟩ := run_eq_ok.mp returned
  have kept : StepKept before done := by
    cases turns : op.turns with
    | false =>
        obtain ⟨middle, course, rfl⟩ := body_course turns body
        have kept := stepKept_of_since
          (since_course course (deeds_ordered op) stacked)
        refine ⟨kept.once, kept.waits, fun key invoice stored paid new => ?_⟩
        obtain ⟨row, settled⟩ := kept.settles key invoice stored paid new
        exact ⟨row, settled.later fun held owner => ⟨held, owner, rfl⟩⟩
    | true =>
        obtain ⟨same, -⟩ := turn_kept turns plain body
        refine ⟨fun key invoice stored _ => same ▸ stored, ?_, ?_⟩
        · intro key stored later held held' _
          rw [same, held] at held'
          obtain rfl := Option.some.inj held'
          exact ⟨rfl, rfl⟩
        · intro key invoice stored _ new
          exact absurd (same ▸ stored) new
  refine ⟨kept.once, kept.waits, fun key invoice stored paid new => ?_⟩
  obtain ⟨row, settled⟩ := kept.settles key invoice stored paid new
  exact ⟨row, settled.later fun held owner => ⟨held, owner, rfl⟩⟩

theorem settles_of_pays {before after : Platform} {key : ℕ} {deeds : List Deed}
    {invoice : PlatformInvoice} {provider reference : String}
    (stacked : Stacked before) (course : Course before deeds after)
    (ordered : deeds.Pairwise Deed.Before)
    (member : Deed.pays key invoice provider reference ∈ deeds)
    (unpaid : ∀ stored, before.invoices.get? key = some stored →
      stored.status ≠ .paid) : Settles before after key := by
  obtain ⟨paid, stored, done⟩ := course.paysFor member
  have since := since_course course ordered stacked
  obtain ⟨row, settled⟩ := since.settles key paid stored done
    fun held => unpaid paid held done
  exact ⟨paid, row, stored, done, settled⟩

theorem settles_of_settle {before after : Platform} {key : ℕ}
    {invoice : PlatformInvoice} {provider reference : String}
    (stacked : Stacked before)
    (stored : before.invoices.get? key = some invoice) (owed : invoice.Owed)
    (returned : settleIssuedInvoice key provider reference before =
      .ok ⟨⟩ after) : Settles before after key := by
  have unpaid := unpaid_of_owed owed
  have course := settle_course stored unpaid returned
  have owned : (before.tenants.get? invoice.tenant).isSome = true := by
    simp only [settleIssuedInvoice, Txn.get_bind, stored, Txn.bind_eq_ok,
      Txn.expect_eq_ok] at returned
    obtain ⟨found, _, ⟨same, rfl⟩, returned⟩ := returned
    obtain rfl := Option.some.inj same
    rw [if_neg unpaid] at returned
    simp only [Txn.bind_eq_ok, Txn.require_eq_ok, Txn.expect_eq_ok] at returned
    obtain ⟨_, _, ⟨-, rfl⟩, _, _, ⟨-, rfl⟩, row, _, ⟨owner, rfl⟩, -⟩ := returned
    rw [owner]
    rfl
  obtain ⟨row, owner⟩ := Option.isSome_iff_exists.mp owned
  have ordered := @settleDeeds_ordered before key invoice provider reference
  rw [Platform.settleDeeds, owner] at course ordered
  refine settles_of_pays stacked course ordered List.mem_cons_self ?_
  intro held there
  rw [stored] at there
  obtain rfl := Option.some.inj there
  exact unpaid

theorem settles_of_issue {before after : Platform} {tenant plan key : ℕ}
    {issue : Issue} (stacked : Stacked before) (plain : issue.kind ≠ .upgrade)
    (paid : (issue.paid || issue.gift) = true)
    (returned : issueSubscriptionInvoice tenant plan issue before =
      .ok key after) :
    before.invoices.get? key = none ∧ Settles before after key := by
  have course := issue_course plain returned
  obtain ⟨row, sold, owner, listed, rfl, -⟩ := issue_eq_ok plain returned
  rw [Platform.issueDeeds, owner, listed] at course
  simp only [if_pos paid] at course
  refine ⟨Table.get?_next _, settles_of_pays stacked course
    (List.pairwise_singleton _ _) List.mem_cons_self ?_⟩
  intro held there
  rw [Table.get?_next] at there
  cases there

theorem timeKept_of_stacked {platform : Platform} (stacked : Stacked platform) :
    TimeKept platform where
  apart := stacked.apart
  steps op after plain returned := step_kept plain stacked returned
  issued tenant plan issue key after plain paid returned :=
    settles_of_issue stacked plain paid returned
  settled key invoice provider reference after stored owed returned :=
    settles_of_settle stacked stored owed returned
  notified provider order paidCents key invoice answer after found owed enough
      returned := by
    obtain ⟨stored, -⟩ := invoiceFor_eq_some found
    have unpaid := unpaid_of_owed owed
    have owing : invoice.status = .issued ∨ invoice.status = .void := owed
    rw [settleGatewayInvoice, Txn.get_bind, found] at returned
    simp only [if_neg unpaid, if_neg (not_not.mpr owing),
      if_neg (not_lt.mpr enough), Txn.bind_eq_ok, Txn.pure_eq_ok] at returned
    obtain ⟨_, _, settled, rfl, rfl⟩ := returned
    exact ⟨rfl, settles_of_settle stacked stored owed settled⟩
  repeated key invoice provider reference stored paid :=
    settle_paid stored paid
  renotified provider order paidCents key invoice found paid := by
    rw [settleGatewayInvoice, Txn.get_bind, found]
    change (if invoice.status = .paid then pure .alreadyPaid else _ :
      BillingTxn GatewayAnswer) platform = _
    rw [if_pos paid]
    rfl

/-- In every run without a refund, paid time is neither lost nor counted
twice. -/
theorem time_kept (now today : ℕ) (plans : Table Plan)
    (promotions : List PlanPromotion) (tenants : Table Tenant)
    (coupons : Table Coupon) (ops : List BillingOp)
    (plain : ∀ op ∈ ops, op.refunds = false) :
    TimeKept (Txn.after BillingOp.run ops
      (openedPlatform now today plans promotions tenants coupons)) := by
  apply timeKept_of_stacked
  induction ops using List.reverseRecOn with
  | nil => exact stacked_opened now today plans promotions tenants coupons
  | append_singleton ops op induction =>
      have kept := induction fun other member =>
        plain other (List.mem_append_left _ member)
      rw [Txn.after_append]
      apply Txn.final_of
      · rintro ⟨⟩ after returned
        exact stacked_step
          (plain op (List.mem_append_right _ (List.mem_singleton_self op)))
          kept returned
      · intro error after failed
        rw [billing_rollsBack op _ error after failed]
        exact kept

def trialTenant : Tenant where
  client := { trialEndsAt := 114 }

def twoPlans : Table Plan :=
  (Table.empty.insert { industry := .automotive, monthlyPrice := 55000 }).insert
    { industry := .automotive, monthlyPrice := 85000 }

def lateUpgrade : List BillingOp :=
  [.issue 0 0 1 false false "" "", .settle 0 "manual_admin" "A",
    .pass 10 0, .beginCheckout 0 1 1 none "",
    .endCheckout 0 "paymob" (some 7) none, .pass 3 0, .notify "paymob" 7 80000,
    .notify "paymob" 7 80000, .settle 0 "manual_admin" "A"]

theorem time_kept_lateUpgrade :
    TimeKept (Txn.after BillingOp.run lateUpgrade
      (openedPlatform 0 100 twoPlans [] (Table.empty.insert trialTenant)
        .empty)) :=
  time_kept 0 100 twoPlans [] (Table.empty.insert trialTenant) .empty
    lateUpgrade (by decide)

end Clients

end Mousstec
