import Mousstec.Clients.BillingMoves

/-!
# Facts about payments and moves

What a payment leaves of an invoice and of its tenant, what a settled period
spans, and what a move keeps.
-/

namespace Mousstec

namespace Clients

open Library

section Paying

variable {platform : Platform} {invoice : PlatformInvoice} {row : Tenant}
  {target : Plan} {provider reference : String} {client : Client} {today : ℕ}

theorem upgrade_not_deferred (upgrade : invoice.kind = .upgrade) :
    platform.defers row.subscription (invoice.reperiod client platform.today)
      target = false := by
  unfold Platform.defers
  cases row.subscription with
  | none => rfl
  | some subscription => simp [PlatformInvoice.reperiod, upgrade]

theorem paidInvoice_eq : platform.paidInvoice invoice row target provider
    reference = { invoice.paidWith platform.now provider reference with
      kind := if platform.defers row.subscription invoice target then
        .downgrade else invoice.kind } := by
  unfold Platform.paidInvoice
  split
  · rfl
  · rfl

@[simp] theorem paidInvoice_status : (platform.paidInvoice invoice row target
    provider reference).status = .paid := by
  rw [paidInvoice_eq]
  rfl

@[simp] theorem paidInvoice_tenant : (platform.paidInvoice invoice row target
    provider reference).tenant = invoice.tenant := by
  rw [paidInvoice_eq]
  rfl

@[simp] theorem paidInvoice_plan : (platform.paidInvoice invoice row target
    provider reference).plan = invoice.plan := by
  rw [paidInvoice_eq]
  rfl

@[simp] theorem paidInvoice_coupon : (platform.paidInvoice invoice row target
    provider reference).coupon = invoice.coupon := by
  rw [paidInvoice_eq]
  rfl

@[simp] theorem paidInvoice_total : (platform.paidInvoice invoice row target
    provider reference).total = invoice.total := by
  rw [paidInvoice_eq]
  rfl

@[simp] theorem paidInvoice_periodStart : (platform.paidInvoice invoice row
    target provider reference).periodStart = invoice.periodStart := by
  rw [paidInvoice_eq]
  rfl

@[simp] theorem paidInvoice_periodEnd : (platform.paidInvoice invoice row
    target provider reference).periodEnd = invoice.periodEnd := by
  rw [paidInvoice_eq]
  rfl

@[simp] theorem paidInvoice_paidAt : (platform.paidInvoice invoice row target
    provider reference).paidAt = some platform.now := by
  rw [paidInvoice_eq]
  rfl

@[simp] theorem paidInvoice_issuedAt : (platform.paidInvoice invoice row target
    provider reference).issuedAt = invoice.issuedAt := by
  rw [paidInvoice_eq]
  rfl

@[simp] theorem reperiod_issuedAt :
    (invoice.reperiod client today).issuedAt = invoice.issuedAt := by
  unfold PlatformInvoice.reperiod
  split <;> rfl

@[simp] theorem paidInvoice_cycle : (platform.paidInvoice invoice row target
    provider reference).billingCycleMonths = invoice.billingCycleMonths := by
  rw [paidInvoice_eq]
  rfl

@[simp] theorem reperiod_cycle :
    (invoice.reperiod client today).billingCycleMonths =
      invoice.billingCycleMonths := by
  unfold PlatformInvoice.reperiod
  split <;> rfl

theorem paidInvoice_upgrade :
    (platform.paidInvoice (invoice.reperiod client platform.today) row target
      provider reference).kind = .upgrade ↔ invoice.kind = .upgrade := by
  rw [paidInvoice_eq]
  constructor
  · intro upgrade
    change (if _ then InvoiceKind.downgrade else _) = _ at upgrade
    split at upgrade
    · cases upgrade
    · rw [reperiod_kind] at upgrade
      exact upgrade
  · intro upgrade
    change (if _ then InvoiceKind.downgrade else _) = _
    rw [upgrade_not_deferred upgrade, reperiod_kind]
    exact upgrade

theorem le_periodAnchor (client : Client) (today : ℕ) :
    today ≤ client.periodAnchor today := by
  unfold Client.periodAnchor
  dsimp only
  split
  · exact le_trans (le_max_right _ _) (le_max_left _ _)
  · exact le_max_right _ _

theorem ended_le_periodAnchor {ended : ℕ} (today : ℕ)
    (ends : client.subscriptionEndDate = some ended) :
    ended ≤ client.periodAnchor today := by
  unfold Client.periodAnchor
  rw [ends]
  simp

theorem trial_le_periodAnchor (today : ℕ) (trial : client.status = .trial)
    (unpaid : client.subscriptionEndDate = none) :
    client.trialEndsAt ≤ client.periodAnchor today := by
  unfold Client.periodAnchor
  dsimp only
  rw [if_pos ⟨trial, unpaid⟩]
  exact le_max_right _ _

theorem ended_le_reperiod {ended : ℕ}
    (ends : client.subscriptionEndDate = some ended) :
    ended ≤ (invoice.reperiod client today).periodEnd := by
  unfold PlatformInvoice.reperiod
  split
  · rw [ends]
    exact le_max_left _ _
  · exact (ended_le_periodAnchor today ends).trans (Nat.le_add_right _ _)

theorem reperiod_of_ne (other : invoice.kind ≠ .upgrade) :
    (invoice.reperiod client today).periodStart = client.periodAnchor today ∧
      (invoice.reperiod client today).periodEnd =
        client.periodAnchor today + periodDays invoice.billingCycleMonths := by
  rw [PlatformInvoice.reperiod, if_neg other]
  exact ⟨rfl, rfl⟩

theorem reperiod_of_upgrade (upgrade : invoice.kind = .upgrade) :
    (invoice.reperiod client today).periodStart = today ∧
      today + (invoice.periodEnd - invoice.periodStart) ≤
        (invoice.reperiod client today).periodEnd := by
  rw [PlatformInvoice.reperiod, if_pos upgrade]
  exact ⟨rfl, le_max_right _ _⟩

end Paying

section Lookups

variable {platform : Platform} {key : ℕ} {stored invoice : PlatformInvoice}
  {row : Tenant} {target : Plan} {provider reference : String}

theorem finalized_self (located : platform.invoices.get? key = some stored) :
    (platform.finalized key invoice row target provider
      reference).invoices.get? key =
        some (platform.paidInvoice invoice row target provider reference) := by
  unfold Platform.finalized
  simp [located]

theorem finalized_other {other : ℕ} (different : other ≠ key) :
    (platform.finalized key invoice row target provider
      reference).invoices.get? other = platform.invoices.get? other :=
  Table.get?_modify_of_ne _ different _

theorem finalized_payer
    (owner : platform.tenants.get? invoice.tenant = some row) :
    (platform.finalized key invoice row target provider
      reference).tenants.get? invoice.tenant =
        some (platform.paidTenant invoice row target) := by
  unfold Platform.finalized
  simp [owner]

theorem finalized_bystander {tenant : ℕ} (other : tenant ≠ invoice.tenant) :
    (platform.finalized key invoice row target provider
      reference).tenants.get? tenant = platform.tenants.get? tenant :=
  Table.get?_modify_of_ne _ other _

end Lookups

/-- A move keeps every invoice that is not issued, and only voids the others. -/
theorem Move.kept {before after : Platform} (move : Move before after) {key : ℕ}
    {invoice : PlatformInvoice}
    (stored : before.invoices.get? key = some invoice) :
    after.invoices.get? key = some invoice ∨ invoice.status = .issued ∧
      after.invoices.get? key = some { invoice with status := .void } := by
  cases move with
  | opened issued plain stamped cycle dated free owner sold =>
      exact .inl (Table.get?_insert_of_some stored _)
  | voided voids =>
      rw [Table.get?_map, stored, Option.map_some]
      rcases voids key invoice with same | ⟨issued, void⟩
      · exact .inl (congrArg some same)
      · exact .inr ⟨issued, congrArg some void⟩
  | requested checkouts => exact .inl stored
  | extended tenant => exact .inl stored
  | rewarded first => exact .inl stored

theorem Move.found {before after : Platform} (move : Move before after)
    {key : ℕ} {invoice : PlatformInvoice}
    (stored : after.invoices.get? key = some invoice) :
    before.invoices.get? key = some invoice ∨
      (∃ earlier, before.invoices.get? key = some earlier ∧
        earlier.status = .issued ∧
        invoice = { earlier with status := .void }) ∨
      before.invoices.get? key = none ∧ key = before.invoices.next ∧
        invoice.status = .issued ∧ invoice.coupon = none ∧
        invoice.issuedAt = before.now ∧
        (periodDays? invoice.billingCycleMonths).isSome ∧
        (∃ row, before.tenants.get? invoice.tenant = some row ∧
          (invoice.kind = .upgrade → row.client.subscriptionEndDate.isSome)) ∧
        ∃ plan, before.plans.get? invoice.plan = some plan := by
  cases move with
  | opened issued plain stamped cycle dated free owner sold =>
      rcases Table.get?_insert_cases stored with ⟨new, rfl⟩ | stored
      · refine .inr (.inr ⟨?_, new, issued, plain, stamped, cycle,
          ⟨_, owner, dated⟩, ⟨_, sold⟩⟩)
        rw [new]
        exact Table.get?_next _
      · exact .inl stored
  | voided voids =>
      rw [Table.get?_map, Option.map_eq_some_iff] at stored
      obtain ⟨earlier, held, rfl⟩ := stored
      rcases voids key earlier with same | ⟨issued, void⟩
      · rw [same]
        exact .inl held
      · exact .inr (.inl ⟨earlier, held, issued, void⟩)
  | requested checkouts => exact .inl stored
  | extended tenant => exact .inl stored
  | rewarded first => exact .inl stored

theorem Move.paid {before after : Platform} (move : Move before after)
    {key : ℕ} {invoice : PlatformInvoice}
    (stored : after.invoices.get? key = some invoice)
    (paid : invoice.status = .paid) :
    before.invoices.get? key = some invoice := by
  rcases move.found stored with same | ⟨earlier, -, -, rfl⟩ | ⟨-, -, issued, -⟩
  · exact same
  · cases paid
  · rw [issued] at paid
    cases paid

theorem Move.frame {before after : Platform} (move : Move before after) :
    after.today = before.today ∧ after.now = before.now ∧
      after.plans = before.plans ∧ after.coupons = before.coupons := by
  cases move <;> exact ⟨rfl, rfl, rfl, rfl⟩

theorem Move.tenant {before after : Platform} (move : Move before after)
    (tenant : ℕ) : after.tenants.get? tenant = before.tenants.get? tenant ∨
      ∃ row trialEndsAt, before.tenants.get? tenant = some row ∧
        row.client.trialEndsAt ≤ trialEndsAt ∧
        after.tenants.get? tenant = some
          { row with client := { row.client with trialEndsAt } } := by
  cases move with
  | opened issued plain stamped cycle dated free owner sold => exact .inl rfl
  | voided voids => exact .inl rfl
  | requested checkouts => exact .inl rfl
  | extended other =>
      unfold Platform.trialExtended
      by_cases same : tenant = other
      · subst same
        cases stored : before.tenants.get? tenant with
        | none => exact .inl (by simp [stored])
        | some row =>
            refine .inr ⟨row, max row.client.trialEndsAt before.today +
              periodDays referralRewardMonths, rfl, ?_, by simp [stored]⟩
            exact (le_max_left _ _).trans (Nat.le_add_right _ _)
      · exact .inl (Table.get?_modify_of_ne _ same _)
  | rewarded first => exact .inl rfl

/-- A coupon changes the total and the coupon of an invoice only. -/
theorem withCoupon_eq (invoice : PlatformInvoice) (given : Option (ℕ × Coupon)) :
    ∃ total coupon, invoice.withCoupon given =
      { invoice with
        total
        coupon } := by
  cases given with
  | none => exact ⟨invoice.total, invoice.coupon, rfl⟩
  | some given =>
      obtain ⟨key, row⟩ := given
      simp only [PlatformInvoice.withCoupon]
      split
      · exact ⟨invoice.total, invoice.coupon, rfl⟩
      · exact ⟨_, _, rfl⟩

theorem discounted_found {platform : Platform} {key other : ℕ}
    {invoice found : PlatformInvoice} {given : Option (ℕ × Coupon)}
    (stored : platform.invoices.get? key = some invoice)
    (after : (platform.invoices.modify key fun _ =>
      invoice.withCoupon given).get? other = some found) :
    other ≠ key ∧ platform.invoices.get? other = some found ∨
      other = key ∧ ∃ total coupon, found =
        { invoice with
          total
          coupon } := by
  by_cases same : other = key
  · subst same
    rw [Table.get?_modify_self, stored] at after
    obtain ⟨total, coupon, discounted⟩ := withCoupon_eq invoice given
    refine .inr ⟨rfl, total, coupon, ?_⟩
    rw [← discounted]
    exact (Option.some.inj after).symm
  · rw [Table.get?_modify_of_ne _ same] at after
    exact .inl ⟨same, after⟩

theorem finalized_found {platform : Platform} {key other : ℕ}
    {stored invoice found : PlatformInvoice} {row : Tenant} {target : Plan}
    {provider reference : String}
    (located : platform.invoices.get? key = some stored)
    (after : (platform.finalized key invoice row target provider
      reference).invoices.get? other = some found) :
    other ≠ key ∧ platform.invoices.get? other = some found ∨
      other = key ∧
        found = platform.paidInvoice invoice row target provider reference := by
  by_cases same : other = key
  · subst same
    rw [finalized_self located] at after
    exact .inr ⟨rfl, (Option.some.inj after).symm⟩
  · rw [finalized_other same] at after
    exact .inl ⟨same, after⟩

theorem unpaid_of_owed {invoice : PlatformInvoice}
    (owed : invoice.status = .issued ∨ invoice.status = .void) :
    invoice.status ≠ .paid := by
  rcases owed with issued | void
  · rw [issued]
    decide
  · rw [void]
    decide

/-- An invoice is owed, or was owed before it was voided. -/
def PlatformInvoice.Owed (invoice : PlatformInvoice) : Prop :=
  invoice.status = .issued ∨ invoice.status = .void

instance (invoice : PlatformInvoice) : Decidable invoice.Owed :=
  inferInstanceAs (Decidable (_ ∨ _))

theorem not_owed_of_paid {invoice : PlatformInvoice}
    (paid : invoice.status = .paid) : ¬ invoice.Owed := by
  rintro (issued | void)
  · cases issued.symm.trans paid
  · cases void.symm.trans paid

theorem Deed.Done.keeps {before after : Platform} {deed : Deed}
    (done : deed.Done before after) {key : ℕ} {invoice : PlatformInvoice}
    (stored : before.invoices.get? key = some invoice)
    (closed : ¬ invoice.Owed) : after.invoices.get? key = some invoice := by
  cases done with
  | @discounts other found given located issued plain stamped listed =>
      by_cases same : key = other
      · subst same
        rw [stored] at located
        obtain rfl := Option.some.inj located
        exact absurd (.inl issued) closed
      · exact (Table.get?_modify_of_ne _ same _).trans stored
  | @pays other found row target provider reference located owed owner sold
      free =>
      by_cases same : key = other
      · subst same
        rw [stored] at located
        obtain rfl := Option.some.inj located
        exact absurd owed closed
      · exact (finalized_other same).trans stored

theorem Move.keeps {before after : Platform} (move : Move before after)
    {key : ℕ} {invoice : PlatformInvoice}
    (stored : before.invoices.get? key = some invoice)
    (closed : ¬ invoice.Owed) : after.invoices.get? key = some invoice := by
  rcases move.kept stored with same | ⟨issued, -⟩
  · exact same
  · exact absurd (.inl issued) closed

theorem Course.keeps {before after : Platform} {deeds : List Deed}
    (course : Course before deeds after) {key : ℕ} {invoice : PlatformInvoice}
    (stored : before.invoices.get? key = some invoice)
    (closed : ¬ invoice.Owed) : after.invoices.get? key = some invoice := by
  induction course with
  | done platform => exact stored
  | move moved _ induction => exact induction (moved.keeps stored closed)
  | deed does _ induction => exact induction (does.keeps stored closed)

theorem Course.paysFor {before after : Platform} {deeds : List Deed}
    (course : Course before deeds after) {key : ℕ} {invoice : PlatformInvoice}
    {provider reference : String}
    (member : Deed.pays key invoice provider reference ∈ deeds) :
    ∃ paid, after.invoices.get? key = some paid ∧ paid.status = .paid := by
  induction course with
  | done platform => cases member
  | move _ _ induction => exact induction member
  | deed does rest induction =>
      rcases List.mem_cons.mp member with rfl | later
      · cases does with
        | pays located owed owner sold free =>
            exact ⟨_, rest.keeps (finalized_self located)
              (not_owed_of_paid paidInvoice_status), paidInvoice_status⟩
      · exact induction later

section SamePaid

variable {before after : Platform}

def SamePaid (before after : Platform) : Prop :=
  ∀ key invoice, invoice.status = .paid →
    (before.invoices.get? key = some invoice ↔
      after.invoices.get? key = some invoice)

theorem Move.samePaid (move : Move before after) : SamePaid before after := by
  intro key invoice paid
  constructor
  · intro stored
    rcases move.kept stored with same | ⟨issued, -⟩
    · exact same
    · cases issued.symm.trans paid
  · exact fun stored => move.paid stored paid

theorem discount_samePaid {key : ℕ} {invoice : PlatformInvoice}
    {given : Option (ℕ × Coupon)}
    (stored : before.invoices.get? key = some invoice)
    (issued : invoice.status = .issued) :
    SamePaid before { before with
      invoices := before.invoices.modify key fun _ =>
        invoice.withCoupon given } := by
  intro other found paid
  by_cases same : other = key
  · subst same
    constructor
    · intro there
      rw [stored] at there
      obtain rfl := Option.some.inj there
      cases issued.symm.trans paid
    · intro there
      rw [Table.get?_modify_self, stored] at there
      obtain rfl := Option.some.inj there
      rw [withCoupon_status, issued] at paid
      cases paid
  · rw [Table.get?_modify_of_ne _ same]

end SamePaid

theorem suspended_end (row : Tenant) (today : ℕ) :
    (row.suspended today).client.subscriptionEndDate =
      row.client.subscriptionEndDate := by
  unfold Tenant.suspended
  split
  · rfl
  · rfl

theorem suspended_subscription (row : Tenant) (today : ℕ) :
    (row.suspended today).subscription = row.subscription := by
  unfold Tenant.suspended
  split
  · rfl
  · rfl

theorem switched_client (platform : Platform) (key : ℕ) (row : Tenant) :
    (platform.switched key row).client = row.client := by
  unfold Platform.switched
  repeat' split
  all_goals rfl

theorem daily_eq_ok {platform final : Platform}
    (returned : orchestrateBillingAndSuspensions platform = .ok ⟨⟩ final) :
    ∃ halted : Platform, halted = { platform with
        tenants := platform.tenants.map fun _ row =>
          row.suspended platform.today } ∧
      final = { halted with
        tenants := halted.tenants.map halted.switched
        ranOn := some platform.today } := by
  simp only [orchestrateBillingAndSuspensions, applyScheduledPlanChanges,
    Txn.bind_eq_ok, Txn.modify_eq_ok] at returned
  obtain ⟨_, _, rfl, _, _, rfl, rfl⟩ := returned
  exact ⟨_, rfl, rfl⟩

theorem switched_cases (platform : Platform) (key : ℕ) (row : Tenant) :
    platform.switched key row = row ∨
      ∃ subscription invoiceKey invoice target,
        row.subscription = some subscription ∧
        latestStart (platform.dueDowngrades key) = some (invoiceKey, invoice) ∧
        platform.changedSince invoice = false ∧
        platform.plans.get? invoice.plan = some target ∧
        platform.switched key row = { row with
          subscription := some
            ({ subscription with
              plan := some invoice.plan
              billingCycleMonths := invoice.billingCycleMonths
              currentPeriodStart := some invoice.periodStart
              currentPeriodEnd := some invoice.periodEnd }.snapshot target
                platform.now) } := by
  unfold Platform.switched
  split
  · rename_i subscription invoiceKey invoice held due
    split
    · exact .inl rfl
    · split
      · exact .inl rfl
      · rename_i current
        split
        · exact .inl rfl
        · rename_i target listed
          exact .inr ⟨subscription, invoiceKey, invoice, target, held, due,
            Bool.eq_false_of_not_eq_true current, listed, rfl⟩
  · exact .inl rfl

theorem refund_eq_ok {platform final : Platform} {key : ℕ} {cutService : Bool}
    (returned : refundInvoice key cutService platform = .ok ⟨⟩ final) :
    ∃ invoice, platform.invoices.get? key = some invoice ∧
      (invoice.status ≠ .paid ∧ final = platform ∨
        invoice.status = .paid ∧ ∃ tenants, final = { platform with
            invoices := platform.invoices.modify key fun invoice =>
              { invoice with status := .refunded }
            tenants } ∧
          ∀ tenant row, tenants.get? tenant = some row →
            ∃ earlier, ∃ ended : TenantSubscription → Option ℕ,
              platform.tenants.get? tenant = some earlier ∧
              row.subscription = earlier.subscription.map fun subscription =>
                { subscription with
                  currentPeriodEnd := ended subscription }) ∧
      ∀ tenant row, platform.tenants.get? tenant = some row →
        ∃ later, final.tenants.get? tenant = some later := by
  simp only [refundInvoice, Txn.get_bind, Txn.bind_eq_ok, Txn.expect_eq_ok]
    at returned
  obtain ⟨invoice, _, ⟨stored, rfl⟩, returned⟩ := returned
  refine ⟨invoice, stored, ?_⟩
  split at returned
  · rename_i unpaid
    obtain ⟨-, rfl⟩ := Txn.pure_eq_ok.mp returned
    exact ⟨.inl ⟨unpaid, rfl⟩, fun tenant row owner => ⟨row, owner⟩⟩
  · rename_i paid
    simp only [Txn.bind_eq_ok, Txn.modify_eq_ok] at returned
    obtain ⟨_, _, rfl, returned⟩ := returned
    split at returned
    · obtain rfl := Txn.modify_eq_ok.mp returned
      refine ⟨.inr ⟨not_not.mp paid, _, rfl, ?_⟩, ?_⟩
      · intro tenant row owner
        rcases Table.get?_modify_cases owner with ⟨rfl, earlier, held, rfl⟩ | owner
        · exact ⟨earlier, _, held, rfl⟩
        · refine ⟨row, TenantSubscription.currentPeriodEnd, owner, ?_⟩
          exact Option.map_id'.symm
      · intro tenant row owner
        by_cases same : tenant = invoice.tenant
        · subst same
          exact ⟨_, (Table.get?_modify_self _ _ _).trans
            (congrArg (Option.map _) owner)⟩
        · exact ⟨row, (Table.get?_modify_of_ne _ same _).trans owner⟩
    · obtain ⟨-, rfl⟩ := Txn.pure_eq_ok.mp returned
      refine ⟨.inr ⟨not_not.mp paid, platform.tenants, rfl, ?_⟩, ?_⟩
      · intro tenant row owner
        refine ⟨row, TenantSubscription.currentPeriodEnd, owner, ?_⟩
        exact Option.map_id'.symm
      · exact fun tenant row owner => ⟨row, owner⟩

end Clients

end Mousstec
