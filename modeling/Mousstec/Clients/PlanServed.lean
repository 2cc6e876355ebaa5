import Mousstec.Clients.GatewayOrders

/-!
# The plan that is served

A tenant should be served the plan of the invoice it paid last among those whose
period contains the day.  An upgrade takes effect at once, and a downgrade that
is paid ahead waits for its period.  What is paid ahead in any other way changes
the plan too early, or makes the daily run drop a downgrade that waits.
-/

namespace Mousstec

namespace Clients

open Library

def PlatformInvoice.settledAt (invoice : PlatformInvoice) : ℕ :=
  invoice.paidAt.getD 0

structure PaidBy (platform : Platform) (tenant key : ℕ)
    (invoice : PlatformInvoice) : Prop where
  stored : platform.invoices.get? key = some invoice
  paid : invoice.status = .paid
  owner : invoice.tenant = tenant

/-- A tenant has paid no invoice for a day later than this one. -/
structure PaidLast (platform : Platform) (tenant day key : ℕ)
    (invoice : PlatformInvoice) : Prop extends
    PaidBy platform tenant key invoice where
  covers : invoice.covers day = true
  last : ∀ other found, PaidBy platform tenant other found →
    found.covers day = true → found.settledAt ≤ invoice.settledAt

def Platform.servedPlan (platform : Platform) (tenant : ℕ) : Option ℕ :=
  (platform.tenants.get? tenant).bind fun row =>
    row.subscription.bind TenantSubscription.plan

/-- After the daily run, the plan of each tenant is the one paid for. -/
def PlanServed (platform : Platform) : Prop :=
  platform.ranOn = some platform.today → ∀ tenant key invoice,
    PaidLast platform tenant platform.today key invoice →
      platform.servedPlan tenant = some invoice.plan

def Platform.waits (platform : Platform) (invoice : PlatformInvoice) : Bool :=
  match platform.tenants.get? invoice.tenant,
      platform.plans.get? invoice.plan with
  | some row, some target => platform.defers row.subscription invoice target
  | _, _ => false

/-- Until the period of the invoice starts, its plan is the one paid for
already; or it waits, and the plan paid for is the one that is served. -/
def Deed.FollowsOn (platform : Platform) : Deed → Prop
  | discounts _ _ _ => True
  | pays _ invoice _ _ =>
      ∀ day other last, platform.today ≤ day → day < invoice.periodStart →
        PaidLast platform invoice.tenant day other last →
          last.plan = invoice.plan ∨ platform.waits invoice = true ∧
            platform.servedPlan invoice.tenant = some last.plan

/-- What an operation pays for follows on what is paid. -/
def BillingOp.FollowsOn (op : BillingOp) (platform : Platform) : Prop :=
  ∀ deed ∈ op.deeds platform, deed.FollowsOn platform

theorem paidLast_iff {platform : Platform} {tenant day key : ℕ}
    {invoice : PlatformInvoice} : PaidLast platform tenant day key invoice ↔
      platform.invoices.get? key = some invoice ∧ invoice.status = .paid ∧
        invoice.tenant = tenant ∧ invoice.covers day = true ∧
        (platform.invoices.rows.all fun row =>
          !(row.2.status == .paid && row.2.tenant == tenant &&
            row.2.covers day) ||
          decide (row.2.settledAt ≤ invoice.settledAt)) = true := by
  rw [List.all_eq_true]
  constructor
  · rintro ⟨⟨stored, paid, owner⟩, covers, last⟩
    refine ⟨stored, paid, owner, covers, fun row member => ?_⟩
    rw [Bool.or_eq_true, Bool.not_eq_true', decide_eq_true_eq]
    by_contra later
    rw [not_or, Bool.not_eq_false, Bool.and_eq_true, Bool.and_eq_true,
      beq_iff_eq, beq_iff_eq] at later
    obtain ⟨⟨⟨paid', owner'⟩, covers'⟩, less⟩ := later
    exact less (last row.1 row.2
      ⟨Table.get?_eq_some.mpr member, paid', owner'⟩ covers')
  · rintro ⟨stored, paid, owner, covers, last⟩
    refine ⟨⟨stored, paid, owner⟩, covers, fun other found paid' covers' => ?_⟩
    have least := last (other, found) (Table.get?_eq_some.mp paid'.stored)
    simpa [paid'.paid, paid'.owner, covers'] using least

instance (platform : Platform) (tenant day key : ℕ)
    (invoice : PlatformInvoice) :
    Decidable (PaidLast platform tenant day key invoice) :=
  decidable_of_iff _ paidLast_iff.symm

theorem followsOn_iff {platform : Platform} {key : ℕ}
    {invoice : PlatformInvoice} {provider reference : String} :
    (Deed.pays key invoice provider reference).FollowsOn platform ↔
      ((List.range (invoice.periodStart - platform.today)).all fun ahead =>
        platform.invoices.rows.all fun row =>
          !decide (PaidLast platform invoice.tenant (platform.today + ahead)
            row.1 row.2) ||
          (row.2.plan == invoice.plan || platform.waits invoice &&
            platform.servedPlan invoice.tenant == some row.2.plan)) = true := by
  simp only [List.all_eq_true, List.mem_range]
  constructor
  · intro follows ahead begun row member
    rw [Bool.or_eq_true, Bool.not_eq_true', decide_eq_false_iff_not,
      ← imp_iff_not_or]
    intro last
    have plan := follows (platform.today + ahead) row.1 row.2
      (Nat.le_add_right _ _) (by omega) last
    simpa using plan
  · intro follows day other found ahead begun last
    have within := follows (day - platform.today) (by omega) (other, found)
      (Table.get?_eq_some.mp last.stored)
    rw [Nat.add_sub_cancel' ahead, decide_eq_true last] at within
    simpa using within

instance (platform : Platform) : DecidablePred (Deed.FollowsOn platform)
  | .discounts _ _ _ => isTrue trivial
  | .pays _ _ _ _ => decidable_of_iff _ followsOn_iff.symm

instance (op : BillingOp) (platform : Platform) :
    Decidable (op.FollowsOn platform) :=
  inferInstanceAs (Decidable (∀ deed ∈ op.deeds platform, _))

section SamePaid

variable {before after : Platform} {tenant day key : ℕ}
  {invoice : PlatformInvoice}

theorem SamePaid.symm (same : SamePaid before after) : SamePaid after before :=
  fun key invoice paid => (same key invoice paid).symm

theorem SamePaid.paidBy (same : SamePaid before after)
    (paid : PaidBy before tenant key invoice) :
    PaidBy after tenant key invoice :=
  ⟨(same key invoice paid.paid).mp paid.stored, paid.paid, paid.owner⟩

theorem SamePaid.paidLast (same : SamePaid before after)
    (last : PaidLast before tenant day key invoice) :
    PaidLast after tenant day key invoice :=
  ⟨same.paidBy last.toPaidBy, last.covers, fun other found paid =>
    last.last other found (same.symm.paidBy paid)⟩

theorem changedSince_eq_false {platform : Platform} :
    platform.changedSince invoice = false ↔ ∀ key found,
      PaidBy platform invoice.tenant key found → found.plan ≠ invoice.plan →
        ∀ later earlier, found.paidAt = some later →
          invoice.paidAt = some earlier → later ≤ earlier := by
  rw [Platform.changedSince, List.any_eq_false]
  constructor
  · intro none key found paid other later earlier at' before'
    have blank := none (key, found) (Table.get?_eq_some.mp paid.stored)
    by_contra less
    apply blank
    simp [paid.owner, paid.paid, other, at', before', not_le.mp less]
  · intro none row member changed
    simp only [Bool.and_eq_true, beq_iff_eq, bne_iff_ne] at changed
    obtain ⟨⟨⟨owner, paid⟩, other⟩, later⟩ := changed
    split at later
    · rename_i at' before' paidAt issuedAt
      have least := none row.1 row.2
        ⟨Table.get?_eq_some.mpr member, paid, owner⟩ other _ _ paidAt issuedAt
      exact absurd (of_decide_eq_true later) (not_lt.mpr least)
    · cases later

theorem SamePaid.changedSince (same : SamePaid before after)
    (current : before.changedSince invoice = false) :
    after.changedSince invoice = false := by
  rw [changedSince_eq_false] at current ⊢
  exact fun key found paid => current key found (same.symm.paidBy paid)

end SamePaid

/-- A tenant has paid a downgrade, and no other plan since. -/
structure Waiting (platform : Platform) (tenant key : ℕ)
    (invoice : PlatformInvoice) : Prop extends
    PaidBy platform tenant key invoice where
  downgrade : invoice.kind = .downgrade
  current : platform.changedSince invoice = false

/-- What every run without a refund keeps in which every payment follows on. -/
structure Scheduled (platform : Platform) : Prop where
  stacked : Stacked platform
  linked : Linked platform
  dated : ∀ tenant key invoice, PaidBy platform tenant key invoice →
    ∃ instant, invoice.paidAt = some instant ∧ instant ≤ platform.now
  subscribed : ∀ tenant key invoice, PaidBy platform tenant key invoice →
    ∃ row subscription, platform.tenants.get? tenant = some row ∧
      row.subscription = some subscription
  upcoming : ∀ tenant day key invoice, platform.today ≤ day →
    PaidLast platform tenant day key invoice →
      platform.servedPlan tenant = some invoice.plan ∨
        Waiting platform tenant key invoice
  standing : ∀ tenant key waiting, Waiting platform tenant key waiting →
    ∀ day other invoice, platform.today ≤ day → waiting.periodStart ≤ day →
      PaidLast platform tenant day other invoice → waiting.plan = invoice.plan
  served : PlanServed platform
  ran : ∀ day, platform.ranOn = some day → day ≤ platform.today

theorem SamePaid.waiting {before after : Platform} {tenant key : ℕ}
    {invoice : PlatformInvoice} (same : SamePaid before after)
    (waiting : Waiting before tenant key invoice) :
    Waiting after tenant key invoice :=
  ⟨same.paidBy waiting.toPaidBy, waiting.downgrade,
    same.changedSince waiting.current⟩

/-- A change that pays for nothing and serves the same plans keeps the
schedule. -/
theorem Scheduled.of_same {before after : Platform}
    (scheduled : Scheduled before) (same : SamePaid before after)
    (stacked : Stacked after) (linked : Linked after)
    (now : before.now ≤ after.now) (today : before.today ≤ after.today)
    (ranOn : after.ranOn = before.ranOn)
    (rows : ∀ tenant row subscription,
      before.tenants.get? tenant = some row →
        row.subscription = some subscription →
        ∃ later kept, after.tenants.get? tenant = some later ∧
          later.subscription = some kept)
    (plans : ∀ tenant, after.servedPlan tenant = before.servedPlan tenant) :
    Scheduled after where
  stacked := stacked
  linked := linked
  dated tenant key invoice paid := by
    obtain ⟨instant, at', least⟩ :=
      scheduled.dated tenant key invoice (same.symm.paidBy paid)
    exact ⟨instant, at', least.trans now⟩
  subscribed tenant key invoice paid := by
    obtain ⟨row, subscription, owner, held⟩ :=
      scheduled.subscribed tenant key invoice (same.symm.paidBy paid)
    exact rows tenant row subscription owner held
  upcoming tenant day key invoice ahead last := by
    rcases scheduled.upcoming tenant day key invoice (today.trans ahead)
      (same.symm.paidLast last) with plan | waiting
    · exact .inl ((plans tenant).trans plan)
    · exact .inr (same.waiting waiting)
  standing tenant key waiting waits day other invoice ahead started last :=
    scheduled.standing tenant key waiting (same.symm.waiting waits) day other
      invoice (today.trans ahead) started (same.symm.paidLast last)
  served ran tenant key invoice last := by
    rw [ranOn] at ran
    have still : after.today = before.today :=
      le_antisymm (scheduled.ran _ ran) today
    rw [still] at ran last
    rw [plans]
    exact scheduled.served ran tenant key invoice (same.symm.paidLast last)
  ran day ran := (scheduled.ran day (ranOn ▸ ran)).trans today

theorem Move.servedPlan {before after : Platform} (move : Move before after)
    (tenant : ℕ) : after.servedPlan tenant = before.servedPlan tenant := by
  unfold Platform.servedPlan
  rcases move.tenant tenant with same | ⟨row, trial, owner, -, later⟩
  · rw [same]
  · rw [owner, later]
    rfl

theorem Move.ranOn {before after : Platform} (move : Move before after) :
    after.ranOn = before.ranOn := by
  cases move <;> rfl

theorem Scheduled.move {before after : Platform} (move : Move before after)
    (scheduled : Scheduled before) : Scheduled after := by
  obtain ⟨today, now, -, -⟩ := move.frame
  apply scheduled.of_same move.samePaid
  · exact scheduled.stacked.move move
  · exact scheduled.linked.move move
  · exact le_of_eq now.symm
  · exact le_of_eq today.symm
  · exact move.ranOn
  · intro tenant row subscription owner held
    rcases move.tenant tenant with same | ⟨found, trial, stored, -, later⟩
    · exact ⟨row, subscription, same.trans owner, held⟩
    · rw [owner] at stored
      obtain rfl := Option.some.inj stored
      exact ⟨_, subscription, later, held⟩
  · exact move.servedPlan

section Paying

variable {platform : Platform} {key : ℕ} {stored invoice : PlatformInvoice}
  {row : Tenant} {target : Plan} {provider reference : String}

theorem finalized_paidBy {tenant other : ℕ} {found : PlatformInvoice}
    (located : platform.invoices.get? key = some stored)
    (unpaid : stored.status ≠ .paid) (elsewhere : tenant ≠ invoice.tenant) :
    PaidBy (platform.finalized key invoice row target provider reference)
        tenant other found ↔ PaidBy platform tenant other found := by
  constructor
  · rintro ⟨held, paid, owner⟩
    rcases finalized_found located held with ⟨-, there⟩ | ⟨rfl, rfl⟩
    · exact ⟨there, paid, owner⟩
    · rw [paidInvoice_tenant] at owner
      exact absurd owner.symm elsewhere
  · rintro ⟨held, paid, owner⟩
    refine ⟨?_, paid, owner⟩
    by_cases same : other = key
    · subst same
      rw [located] at held
      obtain rfl := Option.some.inj held
      exact absurd paid unpaid
    · exact (finalized_other same).trans held

theorem finalized_paidLast {tenant day other : ℕ} {found : PlatformInvoice}
    (located : platform.invoices.get? key = some stored)
    (unpaid : stored.status ≠ .paid) (elsewhere : tenant ≠ invoice.tenant) :
    PaidLast (platform.finalized key invoice row target provider reference)
        tenant day other found ↔ PaidLast platform tenant day other found := by
  constructor
  · rintro ⟨paid, covers, last⟩
    refine ⟨(finalized_paidBy located unpaid elsewhere).mp paid, covers, ?_⟩
    exact fun next later settled =>
      last next later ((finalized_paidBy located unpaid elsewhere).mpr settled)
  · rintro ⟨paid, covers, last⟩
    refine ⟨(finalized_paidBy located unpaid elsewhere).mpr paid, covers, ?_⟩
    exact fun next later settled =>
      last next later ((finalized_paidBy located unpaid elsewhere).mp settled)

theorem finalized_waiting {tenant other : ℕ} {found : PlatformInvoice}
    (located : platform.invoices.get? key = some stored)
    (unpaid : stored.status ≠ .paid) (elsewhere : tenant ≠ invoice.tenant) :
    Waiting (platform.finalized key invoice row target provider reference)
        tenant other found ↔ Waiting platform tenant other found := by
  constructor
  · rintro ⟨paid, downgrade, current⟩
    refine ⟨(finalized_paidBy located unpaid elsewhere).mp paid, downgrade, ?_⟩
    rw [changedSince_eq_false] at current ⊢
    intro next later settled
    rw [paid.owner] at settled
    apply current next later
    rw [paid.owner]
    exact (finalized_paidBy located unpaid elsewhere).mpr settled
  · rintro ⟨paid, downgrade, current⟩
    refine ⟨(finalized_paidBy located unpaid elsewhere).mpr paid, downgrade, ?_⟩
    rw [changedSince_eq_false] at current ⊢
    intro next later settled
    rw [paid.owner] at settled
    apply current next later
    rw [paid.owner]
    exact (finalized_paidBy located unpaid elsewhere).mp settled

theorem finalized_servedPlan {tenant : ℕ} (elsewhere : tenant ≠ invoice.tenant) :
    (platform.finalized key invoice row target provider
      reference).servedPlan tenant = platform.servedPlan tenant := by
  unfold Platform.servedPlan
  rw [finalized_bystander elsewhere]

end Paying

/-- An invoice that is about to be paid, after all that its tenant has paid. -/
structure Due (platform : Platform) (key : ℕ) (stored invoice : PlatformInvoice)
    (row : Tenant) (target : Plan) : Prop where
  located : platform.invoices.get? key = some stored
  unpaid : stored.status ≠ .paid
  owner : platform.tenants.get? invoice.tenant = some row
  sold : platform.plans.get? invoice.plan = some target
  longest : ∀ other found, PaidBy platform invoice.tenant other found →
    found.periodEnd ≤ invoice.periodEnd
  latest : ∀ other found, PaidBy platform invoice.tenant other found →
    found.settledAt < platform.now

namespace Due

variable {platform : Platform} {key : ℕ} {stored invoice : PlatformInvoice}
  {row : Tenant} {target : Plan}

theorem ne_key (due : Due platform key stored invoice row target) {tenant : ℕ}
    {other : ℕ} {found : PlatformInvoice}
    (paid : PaidBy platform tenant other found) : other ≠ key := by
  rintro rfl
  have same := paid.stored
  rw [due.located] at same
  obtain rfl := Option.some.inj same
  exact due.unpaid paid.paid

theorem paidBy_new (due : Due platform key stored invoice row target)
    (provider reference : String) :
    PaidBy (platform.finalized key invoice row target provider reference)
      invoice.tenant key
      (platform.paidInvoice invoice row target provider reference) :=
  ⟨finalized_self due.located, paidInvoice_status, paidInvoice_tenant⟩

theorem paidBy_old (due : Due platform key stored invoice row target)
    (provider reference : String) {tenant other : ℕ} {found : PlatformInvoice}
    (paid : PaidBy platform tenant other found) :
    PaidBy (platform.finalized key invoice row target provider reference)
      tenant other found :=
  ⟨(finalized_other (due.ne_key paid)).trans paid.stored, paid.paid, paid.owner⟩

theorem paidBy_cases (due : Due platform key stored invoice row target)
    {provider reference : String} {tenant other : ℕ} {found : PlatformInvoice}
    (paid : PaidBy
      (platform.finalized key invoice row target provider reference) tenant
      other found) :
    other = key ∧
        found = platform.paidInvoice invoice row target provider reference ∨
      PaidBy platform tenant other found := by
  rcases finalized_found due.located paid.stored with ⟨-, there⟩ | new
  · exact .inr ⟨there, paid.paid, paid.owner⟩
  · exact .inl new

/-- On a day from now on, the invoice is the last one paid, or its period has
not begun. -/
theorem paidLast_cases (due : Due platform key stored invoice row target)
    {provider reference : String} {day other : ℕ} {found : PlatformInvoice}
    (last : PaidLast
      (platform.finalized key invoice row target provider reference)
      invoice.tenant day other found) :
    other = key ∧ invoice.periodStart ≤ day ∧
        found = platform.paidInvoice invoice row target provider reference ∨
      day < invoice.periodStart ∧
        PaidLast platform invoice.tenant day other found := by
  have covers := last.covers
  rcases due.paidBy_cases last.toPaidBy with ⟨rfl, rfl⟩ | old
  · left
    rw [PlatformInvoice.covers, Bool.and_eq_true, decide_eq_true_eq,
      paidInvoice_periodStart] at covers
    exact ⟨rfl, covers.1, rfl⟩
  · right
    have outside : ¬ invoice.covers day = true := by
      intro within
      have new := last.last key _ (due.paidBy_new provider reference) (by
        rw [PlatformInvoice.covers, paidInvoice_periodStart,
          paidInvoice_periodEnd]
        exact within)
      have instant : (platform.paidInvoice invoice row target provider
          reference).settledAt = platform.now := by
        rw [PlatformInvoice.settledAt, paidInvoice_paidAt, Option.getD_some]
      rw [instant] at new
      exact absurd (due.latest other found old) (not_lt.mpr new)
    have within : found.periodStart ≤ day ∧ day < found.periodEnd := by
      simpa [PlatformInvoice.covers] using covers
    have ended := due.longest other found old
    refine ⟨?_, old, covers, fun next later paid covered =>
      last.last next later (due.paidBy_old provider reference paid) covered⟩
    by_contra begun
    apply outside
    simp only [PlatformInvoice.covers, Bool.and_eq_true, decide_eq_true_eq]
    omega

/-- What waits after the payment is the invoice itself, or waits for the same
plan. -/
theorem waiting_cases (due : Due platform key stored invoice row target)
    (dated : ∀ tenant key invoice, PaidBy platform tenant key invoice →
      ∃ instant, invoice.paidAt = some instant ∧ instant ≤ platform.now)
    {provider reference : String} {other : ℕ} {waiting : PlatformInvoice}
    (waits : Waiting
      (platform.finalized key invoice row target provider reference)
      invoice.tenant other waiting) :
    other = key ∧
        waiting = platform.paidInvoice invoice row target provider reference ∨
      waiting.plan = invoice.plan ∧
        Waiting platform invoice.tenant other waiting := by
  rcases due.paidBy_cases waits.toPaidBy with new | old
  · exact .inl new
  · right
    have current := changedSince_eq_false.mp waits.current
    rw [old.owner] at current
    refine ⟨?_, old, waits.downgrade, changedSince_eq_false.mpr ?_⟩
    · by_contra other'
      obtain ⟨instant, at', -⟩ := dated invoice.tenant other waiting old
      have before := due.latest other waiting old
      rw [PlatformInvoice.settledAt, at', Option.getD_some] at before
      have least := current key _ (due.paidBy_new provider reference)
        (fun same => other' (same.symm.trans paidInvoice_plan))
        platform.now instant paidInvoice_paidAt at'
      omega
    · rw [old.owner]
      exact fun next found paid =>
        current next found (due.paidBy_old provider reference paid)

theorem waiting_old (due : Due platform key stored invoice row target)
    (provider reference : String) {other : ℕ} {waiting : PlatformInvoice}
    (waits : Waiting platform invoice.tenant other waiting)
    (same : waiting.plan = invoice.plan) :
    Waiting (platform.finalized key invoice row target provider reference)
      invoice.tenant other waiting := by
  refine ⟨due.paidBy_old provider reference waits.toPaidBy, waits.downgrade, ?_⟩
  rw [changedSince_eq_false]
  intro next found paid different
  rw [waits.owner] at paid
  rcases due.paidBy_cases paid with ⟨rfl, rfl⟩ | old
  · rw [paidInvoice_plan] at different
    exact absurd same.symm different
  · apply changedSince_eq_false.mp waits.current next found _ different
    rw [waits.owner]
    exact old

theorem waiting_new (due : Due platform key stored invoice row target)
    (dated : ∀ tenant key invoice, PaidBy platform tenant key invoice →
      ∃ instant, invoice.paidAt = some instant ∧ instant ≤ platform.now)
    (provider reference : String)
    (defers : platform.defers row.subscription invoice target = true) :
    Waiting (platform.finalized key invoice row target provider reference)
      invoice.tenant key
      (platform.paidInvoice invoice row target provider reference) := by
  refine ⟨due.paidBy_new provider reference, ?_, ?_⟩
  · rw [paidInvoice_eq, defers]
    rfl
  · rw [changedSince_eq_false, paidInvoice_tenant]
    intro next found paid different later earlier at' before'
    rw [paidInvoice_paidAt] at before'
    obtain rfl := Option.some.inj before'
    rcases due.paidBy_cases paid with ⟨rfl, rfl⟩ | old
    · exact absurd rfl different
    · obtain ⟨instant, at'', least⟩ := dated invoice.tenant next found old
      rw [at''] at at'
      obtain rfl := Option.some.inj at'
      exact least

theorem servedPlan_deferred (due : Due platform key stored invoice row target)
    (provider reference : String)
    (defers : platform.defers row.subscription invoice target = true) :
    (platform.finalized key invoice row target provider
      reference).servedPlan invoice.tenant =
        platform.servedPlan invoice.tenant := by
  unfold Platform.servedPlan
  rw [finalized_payer due.owner, due.owner]
  cases held : row.subscription with
  | none =>
      rw [held] at defers
      cases defers
  | some subscription =>
      rw [held] at defers
      simp [Platform.paidTenant, held, defers]

theorem servedPlan_now (due : Due platform key stored invoice row target)
    (provider reference : String)
    (atOnce : platform.defers row.subscription invoice target = false) :
    (platform.finalized key invoice row target provider
      reference).servedPlan invoice.tenant = some invoice.plan := by
  unfold Platform.servedPlan
  rw [finalized_payer due.owner]
  simp [Platform.paidTenant, atOnce, TenantSubscription.renewed,
    TenantSubscription.snapshot]

theorem waits_eq (due : Due platform key stored invoice row target) :
    platform.waits invoice =
      platform.defers row.subscription invoice target := by
  simp only [Platform.waits, due.owner, due.sold]

end Due

/-- A change of plan only waits for a later period. -/
theorem defers_later {platform : Platform}
    {subscription : Option TenantSubscription} {invoice : PlatformInvoice}
    {target : Plan}
    (defers : platform.defers subscription invoice target = true) :
    platform.today < invoice.periodStart := by
  cases subscription with
  | none => cases defers
  | some subscription =>
      simp only [Platform.defers, Bool.and_eq_true, decide_eq_true_eq] at defers
      exact defers.1.1.1

theorem Scheduled.payment {platform : Platform} {key : ℕ}
    {stored : PlatformInvoice} {row : Tenant} {target : Plan}
    {provider reference : String} (scheduled : Scheduled platform)
    (located : platform.invoices.get? key = some stored)
    (owed : stored.status = .issued ∨ stored.status = .void)
    (owner : platform.tenants.get? stored.tenant = some row)
    (sold : platform.plans.get? stored.plan = some target)
    (free : platform.referenceFree key
      (stored.paidWith platform.now provider reference).paymentProvider
      (stored.paidWith platform.now provider reference).paymentReference = true)
    (follows : (Deed.pays key (stored.reperiod row.client platform.today)
      provider reference).FollowsOn platform)
    (latest : ∀ other found, PaidBy platform stored.tenant other found →
      found.settledAt < platform.now) :
    Scheduled (platform.finalized key
      (stored.reperiod row.client platform.today) row target provider
      reference) := by
  have done : Deed.Done platform _ _ := .pays located owed owner sold free
  have unpaid := unpaid_of_owed owed
  generalize paying : stored.reperiod row.client platform.today = invoice at *
  have tenant : invoice.tenant = stored.tenant := by
    rw [← paying, reperiod_tenant]
  have due : Due platform key stored invoice row target := by
    refine ⟨located, unpaid, tenant ▸ owner, ?_, ?_, tenant ▸ latest⟩
    · rw [← paying, reperiod_plan]
      exact sold
    · intro other found paid
      obtain ⟨holder, ended, owned, ends, least⟩ :=
        scheduled.stacked.ended other found paid.stored paid.paid
      rw [paid.owner, tenant, owner] at owned
      obtain rfl := Option.some.inj owned
      rw [← paying]
      exact least.trans (ended_le_reperiod ends)
  -- what is paid for a day before the period, and what is served then
  have before : ∀ day other found, platform.today ≤ day →
      day < invoice.periodStart →
      PaidLast platform invoice.tenant day other found →
        found.plan = invoice.plan ∨
          platform.defers row.subscription invoice target = true ∧
            platform.servedPlan invoice.tenant = some found.plan := by
    intro day other found ahead begun last
    rw [← due.waits_eq]
    exact follows day other found ahead begun last
  refine
    { stacked := scheduled.stacked.deed done
      linked := scheduled.linked.deed done
      dated := ?_
      subscribed := ?_
      upcoming := ?_
      standing := ?_
      served := ?_
      ran := scheduled.ran }
  · intro payer other found paid
    rcases due.paidBy_cases paid with ⟨rfl, rfl⟩ | old
    · exact ⟨platform.now, paidInvoice_paidAt, le_rfl⟩
    · exact scheduled.dated payer other found old
  · intro payer other found paid
    by_cases same : payer = invoice.tenant
    · subst same
      exact ⟨_, _, finalized_payer due.owner, rfl⟩
    · have old := (finalized_paidBy located unpaid same).mp paid
      obtain ⟨holder, subscription, owned, held⟩ :=
        scheduled.subscribed payer other found old
      exact ⟨holder, subscription, (finalized_bystander same).trans owned, held⟩
  · intro payer day other found ahead last
    by_cases same : payer = invoice.tenant
    · subst same
      rcases due.paidLast_cases last with ⟨rfl, -, rfl⟩ | ⟨begun, old⟩
      · cases defers : platform.defers row.subscription invoice target with
        | true =>
            exact .inr (due.waiting_new scheduled.dated provider reference
              defers)
        | false =>
            left
            rw [due.servedPlan_now provider reference defers, paidInvoice_plan]
      · cases defers : platform.defers row.subscription invoice target with
        | false =>
            rcases before day other found ahead begun old with plan | ⟨waits, -⟩
            · left
              rw [due.servedPlan_now provider reference defers, plan]
            · rw [defers] at waits
              cases waits
        | true =>
            rw [due.servedPlan_deferred provider reference defers]
            rcases scheduled.upcoming invoice.tenant day other found ahead old
              with plan | waiting
            · exact .inl plan
            · rcases before day other found ahead begun old with
                plan | ⟨-, plan⟩
              · exact .inr (due.waiting_old provider reference waiting plan)
              · exact .inl plan
    · rw [finalized_servedPlan same, finalized_waiting located unpaid same]
      exact scheduled.upcoming payer day other found ahead
        ((finalized_paidLast located unpaid same).mp last)
  · intro payer other waiting waits day next found ahead started last
    by_cases same : payer = invoice.tenant
    · subst same
      rcases due.paidLast_cases last with ⟨rfl, -, rfl⟩ | ⟨begun, old⟩
      · rw [paidInvoice_plan]
        rcases due.waiting_cases scheduled.dated waits with ⟨-, rfl⟩ | ⟨plan, -⟩
        · exact paidInvoice_plan
        · exact plan
      · rcases due.waiting_cases scheduled.dated waits with
          ⟨-, rfl⟩ | ⟨plan, waited⟩
        · rw [paidInvoice_periodStart] at started
          omega
        · exact scheduled.standing invoice.tenant other waiting waited day next
            found ahead started old
    · exact scheduled.standing payer other waiting
        ((finalized_waiting located unpaid same).mp waits) day next found ahead
        started ((finalized_paidLast located unpaid same).mp last)
  · intro ran payer other found last
    by_cases same : payer = invoice.tenant
    · subst same
      rcases due.paidLast_cases last with ⟨rfl, started, rfl⟩ | ⟨begun, old⟩
      · cases defers : platform.defers row.subscription invoice target with
        | true =>
            have later := defers_later defers
            exact absurd started (not_le.mpr later)
        | false =>
            rw [due.servedPlan_now provider reference defers, paidInvoice_plan]
      · have now := scheduled.served ran invoice.tenant other found old
        cases defers : platform.defers row.subscription invoice target with
        | true =>
            rw [due.servedPlan_deferred provider reference defers]
            exact now
        | false =>
            rcases before platform.today other found le_rfl begun old with
              plan | ⟨waits, -⟩
            · rw [due.servedPlan_now provider reference defers, plan]
            · rw [defers] at waits
              cases waits
    · rw [finalized_servedPlan same]
      exact scheduled.served ran payer other found
        ((finalized_paidLast located unpaid same).mp last)

/-- The tenant of the deed has paid nothing at this instant. -/
def Deed.Latest (platform : Platform) : Deed → Prop
  | discounts _ _ _ => True
  | pays _ invoice _ _ => ∀ other found,
      PaidBy platform invoice.tenant other found →
        found.settledAt < platform.now

/-- The deed follows on what its tenant has paid before. -/
def Deed.Allowed (platform : Platform) (deed : Deed) : Prop :=
  deed.FollowsOn platform ∧ deed.Latest platform

theorem Scheduled.deed {before after : Platform} {deed : Deed}
    (done : deed.Done before after) (scheduled : Scheduled before)
    (allowed : deed.Allowed before) : Scheduled after := by
  cases done with
  | discounts stored issued plain stamped listed =>
      apply scheduled.of_same (discount_samePaid stored issued)
      · exact scheduled.stacked.deed
          (.discounts stored issued plain stamped listed)
      · exact scheduled.linked.deed
          (.discounts stored issued plain stamped listed)
      · exact le_rfl
      · exact le_rfl
      · rfl
      · exact fun tenant row subscription owner held =>
          ⟨row, subscription, owner, held⟩
      · exact fun tenant => rfl
  | @pays key stored row target provider reference located owed owner sold
      free =>
      obtain ⟨follows, latest⟩ := allowed
      apply scheduled.payment located owed owner sold free follows
      intro other found paid
      apply latest other found
      rw [reperiod_tenant]
      exact paid

/-- A deed stays allowed when its tenant keeps its payments and its
subscription. -/
theorem allowed_kept {before after : Platform} {key : ℕ}
    {invoice : PlatformInvoice} {provider reference : String}
    (allowed : (Deed.pays key invoice provider reference).Allowed before)
    (paid : ∀ other found, PaidBy after invoice.tenant other found →
      PaidBy before invoice.tenant other found)
    (last : ∀ day other found, PaidLast after invoice.tenant day other found →
      PaidLast before invoice.tenant day other found)
    (today : after.today = before.today) (now : after.now = before.now)
    (served : after.servedPlan invoice.tenant =
      before.servedPlan invoice.tenant)
    (waits : after.waits invoice = before.waits invoice) :
    (Deed.pays key invoice provider reference).Allowed after := by
  obtain ⟨follows, latest⟩ := allowed
  refine ⟨?_, ?_⟩
  · intro day other found ahead begun paidLast
    rw [waits, served]
    exact follows day other found (today ▸ ahead) begun
      (last day other found paidLast)
  · intro other found settled
    rw [now]
    exact latest other found (paid other found settled)

theorem defers_today {before after : Platform}
    (today : after.today = before.today) (plans : after.plans = before.plans)
    (subscription : Option TenantSubscription) (invoice : PlatformInvoice)
    (target : Plan) : after.defers subscription invoice target =
      before.defers subscription invoice target := by
  cases subscription with
  | none => rfl
  | some subscription =>
      unfold Platform.defers Platform.currentMonthly Platform.ownPrice
      rw [today, plans]

theorem waits_eq_of_row {before after : Platform} {invoice : PlatformInvoice}
    (today : after.today = before.today) (plans : after.plans = before.plans)
    (subscriptions : (after.tenants.get? invoice.tenant).map
        Tenant.subscription =
      (before.tenants.get? invoice.tenant).map Tenant.subscription) :
    after.waits invoice = before.waits invoice := by
  unfold Platform.waits
  rw [plans]
  cases held : before.tenants.get? invoice.tenant with
  | none =>
      rw [held] at subscriptions
      rw [Option.map_eq_none_iff.mp subscriptions]
  | some row =>
      rw [held] at subscriptions
      obtain ⟨later, owner, same⟩ := Option.map_eq_some_iff.mp subscriptions
      rw [owner]
      cases before.plans.get? invoice.plan with
      | none => rfl
      | some target =>
          simp only [same]
          exact defers_today today plans row.subscription invoice target

theorem Move.allowed {before after : Platform} (move : Move before after)
    {deed : Deed} (allowed : deed.Allowed before) : deed.Allowed after := by
  cases deed with
  | discounts key invoice coupon => exact ⟨trivial, trivial⟩
  | pays key invoice provider reference =>
      obtain ⟨today, now, plans, -⟩ := move.frame
      apply allowed_kept allowed
      · exact fun other found => move.samePaid.symm.paidBy
      · exact fun day other found => move.samePaid.symm.paidLast
      · exact today
      · exact now
      · exact move.servedPlan invoice.tenant
      · apply waits_eq_of_row today plans
        rcases move.tenant invoice.tenant with same |
          ⟨row, trial, owner, -, later⟩
        · rw [same]
        · rw [owner, later]
          rfl

theorem allowed_later {before after : Platform} {deed next : Deed}
    (done : deed.Done before after) (ordered : deed.Before next)
    (allowed : next.Allowed before) : next.Allowed after := by
  cases next with
  | discounts key invoice coupon => exact ⟨trivial, trivial⟩
  | pays key invoice provider reference =>
      cases done with
      | discounts stored issued plain stamped listed =>
          apply allowed_kept allowed
          · exact fun other found =>
              (discount_samePaid stored issued).symm.paidBy
          · exact fun day other found =>
              (discount_samePaid stored issued).symm.paidLast
          · rfl
          · rfl
          · rfl
          · exact waits_eq_of_row rfl rfl rfl
      | pays located owed owner sold free =>
          have elsewhere := ordered.1.symm
          apply allowed_kept allowed
          · exact fun other found => (finalized_paidBy located
              (unpaid_of_owed owed) elsewhere).mp
          · exact fun day other found => (finalized_paidLast located
              (unpaid_of_owed owed) elsewhere).mp
          · rfl
          · rfl
          · exact finalized_servedPlan elsewhere
          · exact waits_eq_of_row rfl rfl (congrArg
              (Option.map Tenant.subscription) (finalized_bystander elsewhere))

theorem Scheduled.course {before after : Platform} {deeds : List Deed}
    (course : Course before deeds after) (ordered : deeds.Pairwise Deed.Before)
    (scheduled : Scheduled before)
    (allowed : ∀ deed ∈ deeds, deed.Allowed before) : Scheduled after := by
  apply course.invariant Scheduled fun platform deed => deed.Allowed platform
  · exact fun _ _ move scheduled => scheduled.move move
  · exact fun _ _ _ move _ allowed => move.allowed allowed
  · exact fun _ _ _ done scheduled allowed => scheduled.deed done allowed
  · exact fun _ _ _ _ done _ _ ordered allowed =>
      allowed_later done ordered allowed
  · exact ordered
  · exact scheduled
  · exact allowed

theorem latestStart_mem {rows : List (ℕ × PlatformInvoice)}
    {row : ℕ × PlatformInvoice} (latest : latestStart rows = some row) :
    row ∈ rows := by
  induction rows generalizing row with
  | nil => cases latest
  | cons first rest induction =>
      rw [latestStart] at latest
      split at latest
      · obtain rfl := Option.some.inj latest
        exact List.mem_cons_self
      · rename_i other found
        split at latest
        · obtain rfl := Option.some.inj latest
          exact List.mem_cons_of_mem _ (induction found)
        · obtain rfl := Option.some.inj latest
          exact List.mem_cons_self

theorem latestStart_ne_none {rows : List (ℕ × PlatformInvoice)}
    {row : ℕ × PlatformInvoice} (member : row ∈ rows) :
    latestStart rows ≠ none := by
  cases rows with
  | nil => cases member
  | cons first rest =>
      rw [latestStart]
      split
      · exact Option.some_ne_none _
      · split
        · exact Option.some_ne_none _
        · exact Option.some_ne_none _

theorem mem_dueDowngrades {platform : Platform} {tenant key : ℕ}
    {invoice : PlatformInvoice} :
    (key, invoice) ∈ platform.dueDowngrades tenant ↔
      PaidBy platform tenant key invoice ∧ invoice.kind = .downgrade ∧
        invoice.covers platform.today = true := by
  simp only [Platform.dueDowngrades, List.mem_filter, Bool.and_eq_true,
    beq_iff_eq]
  constructor
  · rintro ⟨member, ⟨⟨owner, paid⟩, kind⟩, covers⟩
    exact ⟨⟨Table.get?_eq_some.mpr member, paid, owner⟩, kind, covers⟩
  · rintro ⟨⟨stored, paid, owner⟩, kind, covers⟩
    exact ⟨Table.get?_eq_some.mp stored, ⟨⟨owner, paid⟩, kind⟩, covers⟩

theorem due_unique {platform : Platform} (stacked : Stacked platform)
    {tenant key other : ℕ} {left right : PlatformInvoice}
    (paid : PaidBy platform tenant key left)
    (paid' : PaidBy platform tenant other right)
    (down : left.kind = .downgrade) (down' : right.kind = .downgrade)
    (covers : left.covers platform.today = true)
    (covers' : right.covers platform.today = true) : left = right := by
  by_cases same : key = other
  · subst same
    have stored := paid.stored
    rw [paid'.stored] at stored
    exact (Option.some.inj stored).symm
  · simp only [PlatformInvoice.covers, Bool.and_eq_true,
      decide_eq_true_eq] at covers covers'
    rcases stacked.apart key other left right paid.stored paid'.stored same
      paid.paid paid'.paid (by simp [down]) (by simp [down'])
      (paid.owner.trans paid'.owner.symm) with before | before
    · omega
    · omega

section Daily

variable {platform final : Platform}

theorem daily_servedPlan
    (returned : orchestrateBillingAndSuspensions platform = .ok ⟨⟩ final)
    {tenant : ℕ} {row : Tenant}
    (owner : platform.tenants.get? tenant = some row) :
    ∃ halted : Platform, halted = { platform with
        tenants := platform.tenants.map fun _ row =>
          row.suspended platform.today } ∧
      final.servedPlan tenant =
        (halted.switched tenant
          (row.suspended platform.today)).subscription.bind
            TenantSubscription.plan := by
  obtain ⟨halted, same, rfl⟩ := daily_eq_ok returned
  refine ⟨halted, same, ?_⟩
  subst same
  simp only [Platform.servedPlan, Table.get?_map, owner, Option.map_some,
    Option.bind_some]

theorem daily_cases
    (returned : orchestrateBillingAndSuspensions platform = .ok ⟨⟩ final)
    (tenant : ℕ) : final.servedPlan tenant = platform.servedPlan tenant ∨
      ∃ key waiting, Waiting platform tenant key waiting ∧
        waiting.periodStart ≤ platform.today ∧
        final.servedPlan tenant = some waiting.plan := by
  cases owner : platform.tenants.get? tenant with
  | none =>
      left
      obtain ⟨halted, rfl, rfl⟩ := daily_eq_ok returned
      simp [Platform.servedPlan, owner]
  | some row =>
      obtain ⟨halted, rfl, serves⟩ := daily_servedPlan returned owner
      rcases switched_cases _ tenant (row.suspended platform.today) with
        same | ⟨old, key, invoice, target, -, latest, current, -, same⟩
      · left
        rw [serves, same, suspended_subscription, Platform.servedPlan, owner]
        rfl
      · right
        obtain ⟨paid, downgrade, covers⟩ :=
          mem_dueDowngrades.mp (latestStart_mem latest)
        have begun : invoice.periodStart ≤ platform.today := by
          simp only [PlatformInvoice.covers, Bool.and_eq_true,
            decide_eq_true_eq] at covers
          exact covers.1
        refine ⟨key, invoice, ⟨⟨paid.stored, paid.paid, paid.owner⟩, downgrade,
          current⟩, begun, ?_⟩
        rw [serves, same]
        rfl

theorem daily_waiting (scheduled : Scheduled platform)
    (returned : orchestrateBillingAndSuspensions platform = .ok ⟨⟩ final)
    {tenant key : ℕ} {waiting : PlatformInvoice}
    (waits : Waiting platform tenant key waiting)
    (covers : waiting.covers platform.today = true) :
    final.servedPlan tenant = some waiting.plan := by
  obtain ⟨row, subscription, owner, held⟩ :=
    scheduled.subscribed tenant key waiting waits.toPaidBy
  obtain ⟨target, listed⟩ := scheduled.linked.sold key waiting waits.stored
  obtain ⟨halted, same, serves⟩ := daily_servedPlan returned owner
  have due : latestStart (halted.dueDowngrades tenant) ≠ none := by
    subst same
    exact latestStart_ne_none
      (mem_dueDowngrades.mpr ⟨⟨waits.stored, waits.paid, waits.owner⟩,
        waits.downgrade, covers⟩)
  obtain ⟨⟨other, invoice⟩, latest⟩ := Option.ne_none_iff_exists'.mp due
  have unique : invoice = waiting := by
    subst same
    obtain ⟨paid, downgrade, covers'⟩ :=
      mem_dueDowngrades.mp (latestStart_mem latest)
    exact due_unique scheduled.stacked
      ⟨paid.stored, paid.paid, paid.owner⟩ waits.toPaidBy downgrade
      waits.downgrade covers' covers
  have current : halted.changedSince waiting = false := by
    subst same
    exact waits.current
  have offered : halted.plans.get? waiting.plan = some target := by
    subst same
    exact listed
  have subscribed : (row.suspended platform.today).subscription =
      some subscription := (suspended_subscription row _).trans held
  rw [serves]
  unfold Platform.switched
  rw [subscribed, latest, unique]
  simp only [current, offered, Bool.false_eq_true, if_false]
  split
  · rename_i already
    rw [subscribed]
    exact already
  · rfl

theorem daily_subscribed
    (returned : orchestrateBillingAndSuspensions platform = .ok ⟨⟩ final)
    {tenant : ℕ} {row : Tenant} {subscription : TenantSubscription}
    (owner : platform.tenants.get? tenant = some row)
    (held : row.subscription = some subscription) :
    ∃ later kept, final.tenants.get? tenant = some later ∧
      later.subscription = some kept := by
  obtain ⟨halted, rfl, rfl⟩ := daily_eq_ok returned
  simp only [Table.get?_map, owner, Option.map_some]
  rcases switched_cases _ tenant (row.suspended platform.today) with
    same | ⟨old, key, invoice, target, -, -, -, -, same⟩
  · rw [same]
    exact ⟨_, subscription, rfl, (suspended_subscription row _).trans held⟩
  · rw [same]
    exact ⟨_, _, rfl, rfl⟩

theorem Scheduled.daily (scheduled : Scheduled platform)
    (returned : orchestrateBillingAndSuspensions platform = .ok ⟨⟩ final) :
    Scheduled final := by
  have stacked : Stacked final :=
    Stacked.turn (show BillingOp.daily.turns = true from rfl) rfl
      scheduled.stacked returned
  have linked := scheduled.linked.daily returned
  obtain ⟨same, today, now⟩ : SamePaid platform final ∧
      final.today = platform.today ∧ final.now = platform.now := by
    obtain ⟨halted, rfl, rfl⟩ := daily_eq_ok returned
    exact ⟨fun _ _ _ => Iff.rfl, rfl, rfl⟩
  have ran : final.ranOn = some platform.today := by
    obtain ⟨halted, rfl, rfl⟩ := daily_eq_ok returned
    rfl
  refine
    { stacked
      linked
      dated := ?_
      subscribed := ?_
      upcoming := ?_
      standing := ?_
      served := ?_
      ran := ?_ }
  · intro tenant key invoice paid
    rw [now]
    exact scheduled.dated tenant key invoice (same.symm.paidBy paid)
  · intro tenant key invoice paid
    obtain ⟨row, subscription, owner, held⟩ :=
      scheduled.subscribed tenant key invoice (same.symm.paidBy paid)
    exact daily_subscribed returned owner held
  · intro tenant day key invoice ahead last
    rw [today] at ahead
    have before := same.symm.paidLast last
    rcases daily_cases returned tenant with
      plan | ⟨other, waiting, waits, begun, plan⟩
    · rcases scheduled.upcoming tenant day key invoice ahead before with
        served | waits
      · exact .inl (plan.trans served)
      · exact .inr (same.waiting waits)
    · left
      rw [plan, scheduled.standing tenant other waiting waits day key invoice
        ahead (begun.trans ahead) before]
  · intro tenant key waiting waits day other invoice ahead started last
    rw [today] at ahead
    exact scheduled.standing tenant key waiting (same.symm.waiting waits) day
      other invoice ahead started (same.symm.paidLast last)
  · intro _ tenant key invoice last
    rw [today] at last
    have before := same.symm.paidLast last
    rcases scheduled.upcoming tenant platform.today key invoice le_rfl before
      with served | waits
    · rcases daily_cases returned tenant with
        plan | ⟨other, waiting, waits, begun, plan⟩
      · exact plan.trans served
      · rw [plan, scheduled.standing tenant other waiting waits platform.today
          key invoice le_rfl begun before]
    · exact daily_waiting scheduled returned waits last.covers
  · intro day ranOn
    rw [ran] at ranOn
    rw [today, ← Option.some.inj ranOn]

end Daily

/-- The schedule between operations: nothing was paid at this instant. -/
structure SoundSchedule (platform : Platform) : Prop extends
    Scheduled platform where
  earlier : ∀ tenant key invoice, PaidBy platform tenant key invoice →
    invoice.settledAt < platform.now

theorem Scheduled.of_frame {before after : Platform}
    (scheduled : Scheduled before)
    (invoices : after.invoices = before.invoices)
    (tenants : after.tenants = before.tenants)
    (plans : after.plans = before.plans)
    (coupons : after.coupons = before.coupons)
    (now : before.now ≤ after.now) (today : before.today ≤ after.today)
    (ranOn : after.ranOn = before.ranOn) : Scheduled after := by
  have same : SamePaid before after := fun key invoice _ => by rw [invoices]
  apply scheduled.of_same same
  · apply scheduled.stacked.of_kept
    · exact fun key invoice stored _ => invoices ▸ stored
    · intro key invoice stored
      rw [invoices] at stored
      apply (scheduled.stacked.issued key invoice stored).later
      intro row ended owner dated
      rw [tenants]
      exact ⟨row, ended, owner, dated⟩
    · intro tenant row owner
      rw [tenants]
      exact ⟨row, owner, rfl⟩
  · apply scheduled.linked.of_kept plans coupons
    · intro tenant row owner
      rw [tenants]
      exact ⟨row, owner⟩
    · intro key invoice stored
      rw [invoices] at stored
      exact ⟨scheduled.linked.billed key invoice stored,
        scheduled.linked.sold key invoice stored⟩
    · intro tenant row subscription plan owner
      rw [tenants] at owner
      exact scheduled.linked.subscribed tenant row subscription plan owner
  · exact now
  · exact today
  · exact ranOn
  · intro tenant row subscription owner held
    rw [tenants]
    exact ⟨row, subscription, owner, held⟩
  · intro tenant
    unfold Platform.servedPlan
    rw [tenants]

theorem SoundSchedule.of_ticked {platform : Platform}
    (scheduled : Scheduled platform) : SoundSchedule platform.ticked where
  toScheduled :=
    scheduled.of_frame rfl rfl rfl rfl (Nat.le_succ _) le_rfl rfl
  earlier tenant key invoice paid := by
    obtain ⟨instant, at', least⟩ := scheduled.dated tenant key invoice
      ⟨paid.stored, paid.paid, paid.owner⟩
    rw [PlatformInvoice.settledAt, at', Option.getD_some]
    exact Nat.lt_succ_of_le least

theorem Scheduled.turn {op : BillingOp} {before after : Platform}
    (turns : op.turns = true) (plain : op.refunds = false)
    (scheduled : Scheduled before) (returned : op.body before = .ok ⟨⟩ after) :
    Scheduled after := by
  rcases op.plain_cases turns plain with rfl | ⟨days, instants, rfl⟩
  · exact scheduled.daily returned
  · obtain rfl := Txn.modify_eq_ok.mp returned
    exact scheduled.of_frame rfl rfl rfl rfl (Nat.le_add_right _ _)
      (Nat.le_add_right _ _) rfl

theorem SoundSchedule.step {op : BillingOp} {before after : Platform}
    (plain : op.refunds = false) (sound : SoundSchedule before)
    (met : op.FollowsOn before) (returned : op.run before = .ok ⟨⟩ after) :
    SoundSchedule after := by
  obtain ⟨done, body, rfl⟩ := run_eq_ok.mp returned
  apply SoundSchedule.of_ticked
  cases turns : op.turns with
  | true => exact sound.toScheduled.turn turns plain body
  | false =>
      obtain ⟨middle, course, rfl⟩ := body_course turns body
      have kept : Scheduled middle := by
        apply sound.toScheduled.course course (deeds_ordered op)
        intro deed member
        refine ⟨met deed member, ?_⟩
        cases deed with
        | discounts key invoice coupon => trivial
        | pays key invoice provider reference =>
            exact fun other found => sound.earlier invoice.tenant other found
      exact kept.of_frame rfl rfl rfl rfl le_rfl le_rfl rfl

/-- In every run without a refund in which each payment follows on what was paid
before, each tenant is served the plan it has paid for. -/
theorem plan_served (now today : ℕ) (plans : Table Plan)
    (promotions : List PlanPromotion) (tenants : Table Tenant)
    (coupons : Table Coupon) (ops : List BillingOp)
    (linked : Linked
      (openedPlatform now today plans promotions tenants coupons))
    (plain : ∀ op ∈ ops, op.refunds = false)
    (follows : Txn.Throughout BillingOp.run BillingOp.FollowsOn ops
      (openedPlatform now today plans promotions tenants coupons)) :
    PlanServed (Txn.after BillingOp.run ops
      (openedPlatform now today plans promotions tenants coupons)) := by
  apply Scheduled.served
  apply SoundSchedule.toScheduled
  refine Txn.after_of_throughout SoundSchedule billing_rollsBack ?_ ops _ ?_
    (Txn.throughout_and follows plain)
  · exact fun op before after sound met returned =>
      sound.step met.1 met.2 returned
  · have none : ∀ tenant key invoice, ¬ PaidBy
        (openedPlatform now today plans promotions tenants coupons) tenant key
        invoice := by
      intro tenant key invoice paid
      cases paid.stored
    exact
      { stacked := stacked_opened now today plans promotions tenants coupons
        linked
        dated := fun _ _ _ paid => absurd paid (none _ _ _)
        subscribed := fun _ _ _ paid => absurd paid (none _ _ _)
        upcoming := fun _ _ _ _ _ last => absurd last.toPaidBy (none _ _ _)
        standing := fun _ _ _ waits => absurd waits.toPaidBy (none _ _ _)
        served := fun ran => by cases ran
        ran := fun _ ran => by cases ran
        earlier := fun _ _ _ paid => absurd paid (none _ _ _) }

def waitingDowngrade : List BillingOp :=
  [.beginCheckout 0 1 1 none "", .endCheckout 0 "vodafone" none none,
    .settle 0 "vodafone" "A", .daily, .pass 20 0, .daily,
    .beginCheckout 0 0 1 none "", .endCheckout 1 "vodafone" none none,
    .settle 1 "vodafone" "B", .daily, .pass 30 0, .daily]

theorem plan_served_waitingDowngrade :
    PlanServed (Txn.after BillingOp.run waitingDowngrade
      (openedPlatform 0 100 twoPlans [] (Table.empty.insert trialTenant)
        .empty)) :=
  plan_served 0 100 twoPlans [] (Table.empty.insert trialTenant) .empty
    waitingDowngrade linked_trial (by decide)
    ⟨fun _ => (by decide +kernel), fun _ => (by decide +kernel),
      fun _ => (by decide +kernel), fun _ => (by decide +kernel),
      fun _ => (by decide +kernel), fun _ => (by decide +kernel),
      fun _ => (by decide +kernel), fun _ => (by decide +kernel),
      fun _ => (by decide +kernel), fun _ => (by decide +kernel),
      fun _ => (by decide +kernel), fun _ => (by decide +kernel), trivial⟩

def twoPlansAhead : List BillingOp :=
  [.beginCheckout 0 0 1 none "", .endCheckout 0 "vodafone" none none,
    .beginCheckout 0 1 1 none "", .endCheckout 1 "vodafone" none none,
    .settle 0 "vodafone" "A", .settle 1 "vodafone" "B", .pass 20 0, .daily]

/-- The cheap plan is paid for, and the dear one is served. -/
theorem plan_unserved : ¬ ∀ ops : List BillingOp,
    (∀ op ∈ ops, op.refunds = false) →
      PlanServed (Txn.after BillingOp.run ops
        (openedPlatform 0 100 twoPlans [] (Table.empty.insert trialTenant)
          .empty)) := by
  intro served
  have paid : ((Txn.after BillingOp.run twoPlansAhead
      (openedPlatform 0 100 twoPlans [] (Table.empty.insert trialTenant)
        .empty)).invoices.get? 0).any (fun invoice =>
          invoice.plan == 0 && decide (PaidLast
            (Txn.after BillingOp.run twoPlansAhead
              (openedPlatform 0 100 twoPlans []
                (Table.empty.insert trialTenant) .empty)) 0 120 0 invoice)) =
        true := by
    decide +kernel
  obtain ⟨invoice, -, last⟩ := (Option.any_eq_true _ _).mp paid
  rw [Bool.and_eq_true, beq_iff_eq, decide_eq_true_eq] at last
  have plan := served twoPlansAhead (by decide) (by decide +kernel) 0 0 invoice
    last.2
  rw [last.1] at plan
  exact absurd plan (by decide +kernel)

end Clients

end Mousstec
