import Mathlib.Data.List.Induction
import Mousstec.Clients.PaidTime

/-!
# Orders of the gateway

A notification finds the invoice of its order by the provider and the reference
of the invoice.  Both are overwritten when the invoice is settled in another
way; as long as no invoice of an order is, every notification finds its invoice,
the first sufficient one settles it, and the later ones change nothing.
-/

namespace Mousstec

namespace Clients

open Library

/-- Every order that an invoice was opened for is answered. -/
structure OrdersAnswered (platform : Platform) : Prop where
  answered : ∀ order ∈ platform.orders, ∃ invoice,
    platform.invoices.get? order.invoice = some invoice ∧
      ∀ paidCents, ∃ answer after,
        settleGatewayInvoice order.provider order.order paidCents platform =
            .ok answer after ∧
          answer ≠ .notFound ∧
          (invoice.status = .issued ∨ invoice.status = .void →
            invoice.total ≤ paidCents → answer = .paid ∧
              ∃ paid, after.invoices.get? order.invoice = some paid ∧
                paid.status = .paid) ∧
          (¬ (invoice.status = .issued ∨ invoice.status = .void) →
            after = platform)
  closed : ∀ (op : BillingOp) after, op.run platform = .ok ⟨⟩ after →
    ∀ key invoice, platform.invoices.get? key = some invoice →
      invoice.status = .paid ∨ invoice.status = .refunded →
        ∃ later, after.invoices.get? key = some later ∧
          (later.status = .paid ∨ later.status = .refunded)

/-- A payment keeps the provider and the reference of an order. -/
def KeepsOrder (order : GatewayOrder) (provider reference : String) : Prop :=
  (provider = "" ∨ provider = order.provider) ∧
    (reference = "" ∨ reference = toString order.order)

instance (order : GatewayOrder) (provider reference : String) :
    Decidable (KeepsOrder order provider reference) :=
  inferInstanceAs (Decidable (_ ∧ _))

def Deed.isDiscount : Deed → Bool
  | discounts _ _ _ => true
  | pays _ _ _ _ => false

/-- No invoice of an order is settled by hand, or by a coupon that covers it. -/
def BillingOp.KeepsOrders (op : BillingOp) (platform : Platform) : Prop :=
  match op with
  | settle key provider reference =>
      ∀ order ∈ platform.orders, order.invoice = key →
        (platform.invoices.get? key).all (·.status == .paid) = true ∨
          KeepsOrder order provider reference
  | .endCheckout _ _ (some _) _ =>
      ∀ deed ∈ op.deeds platform, deed.isDiscount = true
  | _ => True

structure Linked (platform : Platform) : Prop where
  billed : ∀ key invoice, platform.invoices.get? key = some invoice →
    ∃ row, platform.tenants.get? invoice.tenant = some row
  sold : ∀ key invoice, platform.invoices.get? key = some invoice →
    ∃ plan, platform.plans.get? invoice.plan = some plan
  subscribed : ∀ tenant row subscription plan,
    platform.tenants.get? tenant = some row →
      row.subscription = some subscription → subscription.plan = some plan →
        ∃ target, platform.plans.get? plan = some target
  referred : ∀ key coupon referrer, platform.coupons.get? key = some coupon →
    coupon.referrer = some referrer →
      ∃ row, platform.tenants.get? referrer = some row

theorem Linked.of_kept {before after : Platform} (linked : Linked before)
    (plans : after.plans = before.plans)
    (coupons : after.coupons = before.coupons)
    (tenants : ∀ tenant row, before.tenants.get? tenant = some row →
      ∃ later, after.tenants.get? tenant = some later)
    (invoices : ∀ key invoice, after.invoices.get? key = some invoice →
      (∃ row, before.tenants.get? invoice.tenant = some row) ∧
        ∃ plan, before.plans.get? invoice.plan = some plan)
    (subscribed : ∀ tenant row subscription plan,
      after.tenants.get? tenant = some row →
        row.subscription = some subscription → subscription.plan = some plan →
          ∃ target, before.plans.get? plan = some target) : Linked after where
  billed key invoice stored := by
    obtain ⟨⟨row, owner⟩, -⟩ := invoices key invoice stored
    exact tenants invoice.tenant row owner
  sold key invoice stored := plans ▸ (invoices key invoice stored).2
  subscribed tenant row subscription plan owner held on :=
    plans ▸ subscribed tenant row subscription plan owner held on
  referred key coupon referrer listed named := by
    obtain ⟨row, owner⟩ :=
      linked.referred key coupon referrer (coupons ▸ listed) named
    exact tenants referrer row owner

theorem Linked.move {before after : Platform} (move : Move before after)
    (linked : Linked before) : Linked after := by
  obtain ⟨-, -, plans, coupons⟩ := move.frame
  apply linked.of_kept plans coupons
  · intro tenant row owner
    rcases move.tenant tenant with same | ⟨held, trial, found, -, later⟩
    · exact ⟨row, same.trans owner⟩
    · exact ⟨_, later⟩
  · intro key invoice stored
    rcases move.found stored with same | ⟨earlier, held, -, rfl⟩ |
      ⟨-, -, -, -, -, -, ⟨row, owner, -⟩, offered⟩
    · exact ⟨linked.billed key invoice same, linked.sold key invoice same⟩
    · exact ⟨linked.billed key earlier held, linked.sold key earlier held⟩
    · exact ⟨⟨row, owner⟩, offered⟩
  · intro tenant row subscription plan owner held on
    rcases move.tenant tenant with same | ⟨earlier, trial, found, -, later⟩
    · exact linked.subscribed tenant row subscription plan (same ▸ owner) held on
    · rw [later] at owner
      obtain rfl := Option.some.inj owner
      exact linked.subscribed tenant earlier subscription plan found held on

/-- The plan of a tenant that has paid is the one of the invoice, or the one it
had. -/
theorem paidTenant_plan {platform : Platform} {invoice : PlatformInvoice}
    {row : Tenant} {target : Plan} {subscription : TenantSubscription}
    (held : (platform.paidTenant invoice row target).subscription =
      some subscription) :
    subscription.plan = some invoice.plan ∨
      ∃ earlier, row.subscription = some earlier ∧
        subscription.plan = earlier.plan := by
  unfold Platform.paidTenant at held
  obtain rfl := Option.some.inj held
  cases had : row.subscription with
  | none =>
      left
      split
      · rfl
      · rfl
  | some earlier =>
      split
      · exact .inr ⟨earlier, rfl, rfl⟩
      · exact .inl rfl

theorem Linked.deed {before after : Platform} {deed : Deed}
    (done : deed.Done before after) (linked : Linked before) :
    Linked after := by
  cases done with
  | @discounts key invoice given stored issued plain stamped listed =>
      refine linked.of_kept rfl rfl ?_ ?_ ?_
      · exact fun tenant row owner => ⟨row, owner⟩
      · intro other found held
        rcases discounted_found stored held with ⟨-, there⟩ |
          ⟨rfl, total, coupon, rfl⟩
        · exact ⟨linked.billed other found there, linked.sold other found there⟩
        · exact ⟨linked.billed other invoice stored,
            linked.sold other invoice stored⟩
      · exact linked.subscribed
  | @pays key stored row target provider reference located owed owner sold
      free =>
      have payer : before.tenants.get?
          (stored.reperiod row.client before.today).tenant = some row := by
        rw [reperiod_tenant]
        exact owner
      refine linked.of_kept rfl rfl ?_ ?_ ?_
      · intro tenant holder owned
        by_cases same : tenant =
          (stored.reperiod row.client before.today).tenant
        · subst same
          exact ⟨_, finalized_payer payer⟩
        · exact ⟨holder, (finalized_bystander same).trans owned⟩
      · intro other found held
        rcases finalized_found located held with ⟨-, there⟩ | ⟨rfl, rfl⟩
        · exact ⟨linked.billed other found there, linked.sold other found there⟩
        · rw [paidInvoice_tenant, paidInvoice_plan, reperiod_tenant,
            reperiod_plan]
          exact ⟨⟨row, owner⟩, ⟨target, sold⟩⟩
      · intro tenant holder subscription plan owned held on
        by_cases same : tenant =
          (stored.reperiod row.client before.today).tenant
        · subst same
          rw [finalized_payer payer] at owned
          obtain rfl := Option.some.inj owned
          rcases paidTenant_plan held with new | ⟨earlier, had, kept⟩
          · rw [new, reperiod_plan] at on
            obtain rfl := Option.some.inj on
            exact ⟨target, sold⟩
          · exact linked.subscribed _ row earlier plan payer had
              (kept.symm.trans on)
        · rw [finalized_bystander same] at owned
          exact linked.subscribed tenant holder subscription plan owned held on

theorem Linked.course {before after : Platform} {deeds : List Deed}
    (course : Course before deeds after) (linked : Linked before) :
    Linked after := by
  induction course with
  | done platform => exact linked
  | move moved _ induction => exact induction (linked.move moved)
  | deed does _ induction => exact induction (linked.deed does)

theorem Linked.daily {before after : Platform} (linked : Linked before)
    (returned : orchestrateBillingAndSuspensions before = .ok ⟨⟩ after) :
    Linked after := by
  obtain ⟨halted, rfl, rfl⟩ := daily_eq_ok returned
  refine linked.of_kept rfl rfl ?_ ?_ ?_
  · intro tenant row owner
    simp [owner]
  · intro key invoice stored
    exact ⟨linked.billed key invoice stored, linked.sold key invoice stored⟩
  · intro tenant row subscription plan owner held on
    simp only [Table.get?_map, Option.map_map,
      Option.map_eq_some_iff] at owner
    obtain ⟨earlier, stored, rfl⟩ := owner
    rcases switched_cases _ tenant (earlier.suspended before.today) with
      same | ⟨old, key, invoice, target, -, -, -, listed, same⟩
    · rw [Function.comp_apply, same, suspended_subscription] at held
      exact linked.subscribed tenant earlier subscription plan stored held on
    · rw [Function.comp_apply, same] at held
      obtain rfl := Option.some.inj held
      obtain rfl := Option.some.inj on
      exact ⟨target, listed⟩

/-- No two invoices have one reference with one provider. -/
def Distinct (platform : Platform) : Prop :=
  ∀ key other left right, platform.invoices.get? key = some left →
    platform.invoices.get? other = some right →
      left.paymentProvider = right.paymentProvider →
      left.paymentReference = right.paymentReference →
      left.paymentReference ≠ "" → key = other

/-- The references stay distinct when one invoice takes a free one and the
others keep theirs. -/
theorem Distinct.of_free {before after : Platform} {key : ℕ}
    {invoice : PlatformInvoice} (distinct : Distinct before)
    (free : before.referenceFree key invoice.paymentProvider
      invoice.paymentReference = true)
    (found : ∀ other later, after.invoices.get? other = some later →
      (other = key ∧ later = invoice) ∨ other ≠ key ∧
        ∃ earlier, before.invoices.get? other = some earlier ∧
          later.paymentProvider = earlier.paymentProvider ∧
          later.paymentReference = earlier.paymentReference) :
    Distinct after := by
  have apart : ∀ other earlier, before.invoices.get? other = some earlier →
      other ≠ key → earlier.paymentProvider = invoice.paymentProvider →
      earlier.paymentReference = invoice.paymentReference →
      invoice.paymentReference = "" := by
    intro other earlier stored different named numbered
    rcases referenceFree_iff.mp free with empty | unique
    · exact empty
    · exact absurd (unique other earlier stored named numbered) different
  intro first second left right stored stored' named numbered real
  rcases found first left stored with ⟨rfl, rfl⟩ |
    ⟨different, earlier, there, provider, reference⟩
  · rcases found second right stored' with ⟨rfl, rfl⟩ |
      ⟨different', earlier', there', provider', reference'⟩
    · rfl
    · refine absurd (apart second earlier' there' different' ?_ ?_) real
      · exact provider'.symm.trans named.symm
      · exact reference'.symm.trans numbered.symm
  · rcases found second right stored' with ⟨rfl, rfl⟩ |
      ⟨different', earlier', there', provider', reference'⟩
    · have empty := apart first earlier there different
        (provider.symm.trans named) (reference.symm.trans numbered)
      exact absurd (numbered.trans empty) real
    · apply distinct first second earlier earlier' there there'
      · rw [← provider, ← provider', named]
      · rw [← reference, ← reference', numbered]
      · rw [← reference]
        exact real

theorem Distinct.of_kept {before after : Platform} (distinct : Distinct before)
    (found : ∀ key later, after.invoices.get? key = some later →
      ∃ earlier, before.invoices.get? key = some earlier ∧
        later.paymentProvider = earlier.paymentProvider ∧
        later.paymentReference = earlier.paymentReference) :
    Distinct after := by
  intro first second left right stored stored' named numbered real
  obtain ⟨earlier, there, provider, reference⟩ := found first left stored
  obtain ⟨earlier', there', provider', reference'⟩ := found second right stored'
  apply distinct first second earlier earlier' there there'
  · rw [← provider, ← provider', named]
  · rw [← reference, ← reference', numbered]
  · rw [← reference]
    exact real

theorem Distinct.move {before after : Platform} (move : Move before after)
    (distinct : Distinct before) : Distinct after := by
  cases move with
  | @opened invoice row plan issued plain stamped cycle dated free owner sold =>
      apply distinct.of_free free
      intro other later stored
      rw [Table.get?_insert] at stored
      split at stored
      · exact .inl ⟨‹_›, (Option.some.inj stored).symm⟩
      · exact .inr ⟨‹_›, later, stored, rfl, rfl⟩
  | voided voids =>
      apply distinct.of_kept
      intro key later stored
      rw [Table.get?_map, Option.map_eq_some_iff] at stored
      obtain ⟨earlier, held, rfl⟩ := stored
      refine ⟨earlier, held, ?_⟩
      rcases voids key earlier with same | ⟨-, void⟩
      · rw [same]
        exact ⟨rfl, rfl⟩
      · rw [void]
        exact ⟨rfl, rfl⟩
  | requested checkouts => exact distinct
  | extended tenant => exact distinct
  | rewarded first => exact distinct

theorem paidInvoice_provider (platform : Platform) (invoice : PlatformInvoice)
    (row : Tenant) (target : Plan) (provider reference : String) :
    (platform.paidInvoice invoice row target provider
        reference).paymentProvider =
        (invoice.paidWith platform.now provider reference).paymentProvider ∧
      (platform.paidInvoice invoice row target provider
        reference).paymentReference =
        (invoice.paidWith platform.now provider reference).paymentReference := by
  rw [paidInvoice_eq]
  exact ⟨rfl, rfl⟩

theorem Distinct.deed {before after : Platform} {deed : Deed}
    (done : deed.Done before after) (distinct : Distinct before) :
    Distinct after := by
  cases done with
  | @discounts key invoice given stored issued plain stamped listed =>
      apply distinct.of_kept
      intro other found held
      rcases discounted_found stored held with ⟨-, there⟩ |
        ⟨rfl, total, coupon, rfl⟩
      · exact ⟨found, there, rfl, rfl⟩
      · exact ⟨invoice, stored, rfl, rfl⟩
  | @pays key stored row target provider reference located owed owner sold
      free =>
      obtain ⟨named, numbered⟩ := paidInvoice_provider before
        (stored.reperiod row.client before.today) row target provider reference
      rw [reperiod_paidWith, reperiod_paymentProvider] at named
      rw [reperiod_paidWith, reperiod_paymentReference] at numbered
      rw [← named, ← numbered] at free
      apply distinct.of_free free
      intro other found held
      rcases finalized_found located held with ⟨different, there⟩ | ⟨rfl, rfl⟩
      · exact .inr ⟨different, found, there, rfl, rfl⟩
      · exact .inl ⟨rfl, rfl⟩

theorem Distinct.course {before after : Platform} {deeds : List Deed}
    (course : Course before deeds after) (distinct : Distinct before) :
    Distinct after := by
  induction course with
  | done platform => exact distinct
  | move moved _ induction => exact induction (distinct.move moved)
  | deed does _ induction => exact induction (distinct.deed does)

/-- The invoice of every order carries the provider and the number. -/
def Matched (orders : List GatewayOrder) (platform : Platform) : Prop :=
  ∀ order ∈ orders, ∃ invoice,
    platform.invoices.get? order.invoice = some invoice ∧
      invoice.paymentProvider = order.provider ∧
      invoice.paymentReference = toString order.order

/-- A payment keeps the provider and the number of every order. -/
def KeepsAll (orders : List GatewayOrder) : Deed → Prop
  | .discounts _ _ _ => True
  | .pays key _ provider reference =>
      ∀ order ∈ orders, order.invoice = key → KeepsOrder order provider reference

theorem Matched.move {orders : List GatewayOrder} {before after : Platform}
    (move : Move before after) (matched : Matched orders before) :
    Matched orders after := by
  intro order member
  obtain ⟨invoice, stored, named, numbered⟩ := matched order member
  rcases move.kept stored with same | ⟨-, void⟩
  · exact ⟨invoice, same, named, numbered⟩
  · exact ⟨_, void, named, numbered⟩

theorem Matched.deed {orders : List GatewayOrder} {before after : Platform}
    {deed : Deed} (done : deed.Done before after)
    (matched : Matched orders before) (keeps : KeepsAll orders deed) :
    Matched orders after := by
  intro order member
  obtain ⟨found, there, named, numbered⟩ := matched order member
  cases done with
  | @discounts key invoice given stored issued plain stamped listed =>
      by_cases same : order.invoice = key
      · rw [same] at there ⊢
        rw [stored] at there
        obtain rfl := Option.some.inj there
        obtain ⟨total, coupon, discounted⟩ := withCoupon_eq invoice (some given)
        refine ⟨invoice.withCoupon (some given), by simp [stored], ?_⟩
        rw [discounted]
        exact ⟨named, numbered⟩
      · exact ⟨found, (Table.get?_modify_of_ne _ same _).trans there, named,
          numbered⟩
  | @pays key stored row target provider reference located owed owner sold
      free =>
      by_cases same : order.invoice = key
      · obtain ⟨provided, referred⟩ := keeps order member same
        rw [same] at there ⊢
        rw [located] at there
        obtain rfl := Option.some.inj there
        obtain ⟨named', numbered'⟩ := paidInvoice_provider before
          (stored.reperiod row.client before.today) row target provider
          reference
        refine ⟨_, finalized_self located, ?_, ?_⟩
        · rw [named', reperiod_paidWith, reperiod_paymentProvider]
          rcases provided with rfl | rfl
          · exact named
          · change (if order.provider = "" then stored.paymentProvider
              else order.provider) = order.provider
            rw [named, ite_self]
        · rw [numbered', reperiod_paidWith, reperiod_paymentReference]
          rcases referred with rfl | rfl
          · exact numbered
          · change (if toString order.order = "" then stored.paymentReference
              else toString order.order) = toString order.order
            rw [numbered, ite_self]
      · exact ⟨found, (finalized_other same).trans there, named, numbered⟩

theorem Matched.course {orders : List GatewayOrder} {before after : Platform}
    {deeds : List Deed} (course : Course before deeds after)
    (matched : Matched orders before)
    (keeps : ∀ deed ∈ deeds, KeepsAll orders deed) : Matched orders after := by
  induction course with
  | done platform => exact matched
  | move moved _ induction => exact induction (matched.move moved) keeps
  | deed does _ induction =>
      apply induction
      · exact matched.deed does (keeps _ List.mem_cons_self)
      · exact fun deed member => keeps deed (List.mem_cons_of_mem _ member)

/-- An order is never of an invoice that is yet to be opened. -/
theorem Matched.not_next {orders : List GatewayOrder} {platform : Platform}
    (matched : Matched orders platform) {order : GatewayOrder}
    (member : order ∈ orders) : order.invoice ≠ platform.invoices.next := by
  intro same
  obtain ⟨invoice, stored, -⟩ := matched order member
  rw [same, Table.get?_next] at stored
  cases stored

theorem rewardDeeds_keepAll {orders : List GatewayOrder} {platform : Platform}
    (matched : Matched orders platform) (invoice : PlatformInvoice) :
    ∀ deed ∈ platform.rewardDeeds invoice, KeepsAll orders deed := by
  intro deed member
  obtain ⟨gift, -, -, rfl⟩ := rewardDeeds_before member
  exact fun order ordered same => absurd same (matched.not_next ordered)

theorem settleDeeds_keepAll {orders : List GatewayOrder} {platform : Platform}
    (matched : Matched orders platform) {key : ℕ} {invoice : PlatformInvoice}
    {provider reference : String}
    (keeps : ∀ order ∈ orders, order.invoice = key →
      KeepsOrder order provider reference) :
    ∀ deed ∈ platform.settleDeeds key invoice provider reference,
      KeepsAll orders deed := by
  intro deed member
  unfold Platform.settleDeeds at member
  split at member
  · cases member
  · rcases List.mem_cons.mp member with rfl | rest
    · exact keeps
    · split at rest
      · cases rest
      · exact rewardDeeds_keepAll matched invoice deed rest

theorem deeds_keepAll {op : BillingOp} {platform : Platform}
    (matched : Matched platform.orders platform)
    (met : op.KeepsOrders platform) :
    ∀ deed ∈ op.deeds platform, KeepsAll platform.orders deed := by
  have older : ∀ order ∈ platform.orders,
      order.invoice < platform.invoices.next := by
    intro order member
    obtain ⟨invoice, stored, -⟩ := matched order member
    exact Table.get?_lt stored
  cases op with
  | issue tenant plan months paid gift provider reference =>
      intro deed member
      simp only [BillingOp.deeds, Platform.issueDeeds] at member
      split at member
      · split at member
        · obtain rfl := List.mem_singleton.mp member
          exact fun order ordered same => absurd same (matched.not_next ordered)
        · cases member
      · cases member
  | endCheckout checkout provider order usage =>
      intro deed member
      cases deed with
      | discounts key invoice coupon => trivial
      | pays key invoice provider' reference' =>
          simp only [BillingOp.deeds] at member
          split at member
          · cases member
          · have new := openDeeds_pays member
            intro held ordered same
            have old := older held ordered
            omega
  | settle key provider reference =>
      simp only [BillingOp.deeds]
      cases stored : platform.invoices.get? key with
      | none => intro deed member; cases member
      | some invoice =>
          simp only
          split
          · intro deed member
            cases member
          · rename_i unpaid
            apply settleDeeds_keepAll matched
            intro order ordered same
            rcases met order ordered same with paid | keeps
            · rw [stored] at paid
              exact absurd (beq_iff_eq.mp paid) unpaid
            · exact keeps
  | notify provider number paidCents =>
      simp only [BillingOp.deeds]
      cases found : platform.invoiceFor provider (toString number) with
      | none => intro deed member; cases member
      | some row =>
          obtain ⟨key, invoice⟩ := row
          obtain ⟨stored, named, numbered⟩ := invoiceFor_eq_some found
          simp only
          split
          · apply settleDeeds_keepAll matched
            intro order ordered same
            obtain ⟨held, there, named', numbered'⟩ := matched order ordered
            rw [same, stored] at there
            obtain rfl := Option.some.inj there
            exact ⟨.inr (named.symm.trans named'),
              .inr (numbered.symm.trans numbered')⟩
          · intro deed member
            cases member
  | openGateway tenant plan months provider order =>
      intro deed member
      cases member
  | beginCheckout tenant plan months usage code => intro deed member; cases member
  | void key => intro deed member; cases member
  | refund key cutService => intro deed member; cases member
  | daily => intro deed member; cases member
  | pass days instants => intro deed member; cases member

theorem toString_ne_empty (order : ℕ) : toString order ≠ "" :=
  Nat.repr_ne_empty

theorem planChangeInvoice_named (platform : Platform) (tenant plan : ℕ)
    (client : Client) (sold : Plan) (quote : PlanQuote)
    (provider reference : String) :
    (platform.planChangeInvoice tenant client plan sold quote provider
        reference).paymentProvider = provider ∧
      (platform.planChangeInvoice tenant client plan sold quote provider
        reference).paymentReference = reference := by
  unfold Platform.planChangeInvoice
  split
  · exact ⟨rfl, rfl⟩
  · simp [Platform.issuedInvoice]

theorem opens_matched {op : BillingOp} {platform final : Platform}
    (met : op.KeepsOrders platform)
    (returned : op.body platform = .ok ⟨⟩ final) :
    Matched (op.opens platform) final := by
  cases op with
  | openGateway tenant plan months provider order =>
      simp only [BillingOp.body, openGatewayInvoice, Txn.bind_eq_ok,
        Txn.modify_eq_ok] at returned
      obtain ⟨_, _, ⟨_, _, rfl, issued⟩, recorded⟩ := returned
      obtain ⟨row, sold, -, -, rfl, opened, -, stored, same⟩ :=
        issue_eq_ok (by simp) issued
      simp only [Bool.false_eq_true, Bool.or_self, if_false] at same
      obtain rfl := Txn.modify_eq_ok.mp recorded
      intro held member
      obtain rfl := List.mem_singleton.mp member
      refine ⟨(platform.superseded tenant provider).issuedInvoice tenant
        row.client plan sold
        { months
          paid := false
          provider
          reference := toString order }, ?_, ?_⟩
      · rw [same, stored]
        exact Table.get?_insert_next _ _
      · simp [Platform.issuedInvoice]
  | endCheckout checkout provider order usage =>
      cases order with
      | none => exact fun held member => by cases member
      | some number =>
          simp only [BillingOp.body, Txn.bind_eq_ok] at returned
          obtain ⟨_, _, ended, recorded⟩ := returned
          obtain ⟨request, coupon, stored, given, listed, opened⟩ :=
            endCheckout_eq_ok ended
          obtain ⟨row, sold, middle, -, -, there, -, course⟩ :=
            open_stages opened listed
          obtain ⟨named, numbered⟩ := planChangeInvoice_named
            { platform with checkouts := platform.checkouts.erase checkout }
            request.tenant request.plan row.client sold
            (({ platform with
              checkouts := platform.checkouts.erase checkout } :
                Platform).quotePlanChange row request.plan sold request.months
                  usage)
            provider (toString number)
          have begun : Matched ((BillingOp.endCheckout checkout provider
              (some number) usage).opens platform) middle := by
            intro held member
            obtain rfl := List.mem_singleton.mp member
            exact ⟨_, there, named, numbered⟩
          obtain rfl := Txn.modify_eq_ok.mp recorded
          apply begun.course course
          intro deed member
          have discount := met deed (by
            rw [endCheckout_deeds stored, ← given]
            exact member)
          cases deed with
          | discounts => trivial
          | pays => cases discount
  | issue tenant plan months paid gift provider reference =>
      exact fun held member => by cases member
  | beginCheckout tenant plan months usage code =>
      exact fun held member => by cases member
  | settle key provider reference => exact fun held member => by cases member
  | notify provider number paidCents =>
      exact fun held member => by cases member
  | void key => exact fun held member => by cases member
  | refund key cutService => exact fun held member => by cases member
  | daily => exact fun held member => by cases member
  | pass days instants => exact fun held member => by cases member

/-- What every run keeps in which no invoice of an order is settled otherwise. -/
structure SoundOrders (platform : Platform) : Prop where
  linked : Linked platform
  distinct : Distinct platform
  matched : Matched platform.orders platform

theorem SoundOrders.turn {op : BillingOp} {before after : Platform}
    (turns : op.turns = true) (sound : SoundOrders before)
    (returned : op.body before = .ok ⟨⟩ after) : SoundOrders after := by
  rcases op.turns_cases turns with
    rfl | ⟨days, instants, rfl⟩ | ⟨key, cutService, rfl⟩
  · have linked := sound.linked.daily returned
    obtain ⟨halted, rfl, rfl⟩ := daily_eq_ok returned
    exact ⟨linked, sound.distinct, sound.matched⟩
  · obtain rfl := Txn.modify_eq_ok.mp returned
    exact ⟨⟨sound.linked.billed, sound.linked.sold, sound.linked.subscribed,
      sound.linked.referred⟩, sound.distinct, sound.matched⟩
  · obtain ⟨invoice, stored, ⟨-, rfl⟩ | ⟨paid, tenants, rfl, plans⟩, kept⟩ :=
      refund_eq_ok returned
    · exact sound
    · have found : ∀ other later, (before.invoices.modify key fun invoice =>
          { invoice with status := .refunded }).get? other = some later →
          ∃ earlier, before.invoices.get? other = some earlier ∧
            later.tenant = earlier.tenant ∧ later.plan = earlier.plan ∧
            later.paymentProvider = earlier.paymentProvider ∧
            later.paymentReference = earlier.paymentReference := by
        intro other later held
        rcases Table.get?_modify_cases held with ⟨rfl, earlier, there, rfl⟩ | held
        · exact ⟨earlier, there, rfl, rfl, rfl, rfl⟩
        · exact ⟨later, held, rfl, rfl, rfl, rfl⟩
      refine ⟨sound.linked.of_kept rfl rfl kept ?_ ?_, ?_, ?_⟩
      · intro other later held
        obtain ⟨earlier, there, tenant, plan, -, -⟩ := found other later held
        rw [tenant, plan]
        exact ⟨sound.linked.billed other earlier there,
          sound.linked.sold other earlier there⟩
      · intro tenant row subscription plan owner held on
        obtain ⟨earlier, ended, there, same⟩ := plans tenant row owner
        rw [held] at same
        obtain ⟨old, had, rfl⟩ := Option.map_eq_some_iff.mp same.symm
        exact sound.linked.subscribed tenant earlier old plan there had on
      · apply sound.distinct.of_kept
        intro other later held
        obtain ⟨earlier, there, -, -, named, numbered⟩ :=
          found other later held
        exact ⟨earlier, there, named, numbered⟩
      · intro order member
        obtain ⟨invoice, there, named, numbered⟩ := sound.matched order member
        by_cases same : order.invoice = key
        · subst same
          refine ⟨_, (Table.get?_modify_self _ _ _).trans
            (congrArg (Option.map _) there), named, numbered⟩
        · exact ⟨invoice, (Table.get?_modify_of_ne _ same _).trans there, named,
            numbered⟩

theorem Course.orders {before after : Platform} {deeds : List Deed}
    (course : Course before deeds after) : after.orders = before.orders := by
  induction course with
  | done platform => rfl
  | move moved _ induction => cases moved <;> exact induction
  | deed does _ induction => cases does <;> exact induction

theorem SoundOrders.step {op : BillingOp} {before after : Platform}
    (sound : SoundOrders before) (met : op.KeepsOrders before)
    (returned : op.run before = .ok ⟨⟩ after) : SoundOrders after := by
  obtain ⟨done, body, rfl⟩ := run_eq_ok.mp returned
  have kept : SoundOrders done := by
    cases turns : op.turns with
    | true => exact sound.turn turns body
    | false =>
        obtain ⟨middle, course, rfl⟩ := body_course turns body
        have linked := sound.linked.course course
        have distinct : Distinct middle := sound.distinct.course course
        refine ⟨⟨linked.billed, linked.sold, linked.subscribed,
          linked.referred⟩, distinct, ?_⟩
        intro order member
        rcases List.mem_append.mp member with old | new
        · apply sound.matched.course course (deeds_keepAll sound.matched met)
          rw [← course.orders]
          exact old
        · exact opens_matched met body order new
  exact ⟨⟨kept.linked.billed, kept.linked.sold, kept.linked.subscribed,
    kept.linked.referred⟩, kept.distinct, kept.matched⟩

section Notifications

variable {platform : Platform} {key : ℕ} {invoice : PlatformInvoice}

theorem gift_returns {tenant plan : ℕ} {row : Tenant} {sold : Plan}
    (owner : platform.tenants.get? tenant = some row)
    (listed : platform.plans.get? plan = some sold) :
    ∃ final, issueSubscriptionInvoice tenant plan
      { months := referralRewardMonths, gift := true } platform =
        .ok platform.invoices.next final := by
  apply Exists.intro
  simp only [issueSubscriptionInvoice, Txn.get_bind, Txn.bind_eq_ok,
    Txn.expect_eq_ok]
  refine ⟨row, _, ⟨owner, rfl⟩, sold, _, ⟨listed, rfl⟩, ?_⟩
  rw [if_pos (Bool.or_true _)]
  simp only [Txn.bind_eq_ok, Txn.set_eq_ok, createInvoice_eq_ok,
    finalizeInvoice_eq_ok, Txn.pure_eq_ok]
  refine ⟨⟨⟩, _, rfl, _, _, ⟨rfl, rfl, rfl⟩, ⟨⟩, _,
    ⟨_, _, sold, Table.get?_insert_next _ _,
      (Table.get?_modify_self _ _ _).trans (congrArg (Option.map _) owner),
      listed, rfl, rfl⟩, rfl, rfl⟩

theorem giveMonth_returns (linked : Linked platform) {referrer : ℕ}
    {row : Tenant} (owner : platform.tenants.get? referrer = some row) :
    ∃ gift final, giveMonth referrer platform = .ok gift final := by
  cases on : row.subscription.bind TenantSubscription.plan with
  | none =>
      apply Exists.intro
      apply Exists.intro
      simp only [giveMonth, Txn.get_bind, Txn.bind_eq_ok, Txn.expect_eq_ok]
      refine ⟨row, _, ⟨owner, rfl⟩, ?_⟩
      simp only [on, Txn.bind_eq_ok, Txn.set_eq_ok, Txn.pure_eq_ok]
      exact ⟨⟨⟩, _, rfl, rfl, rfl⟩
  | some plan =>
      obtain ⟨subscription, held, served⟩ := Option.bind_eq_some_iff.mp on
      obtain ⟨sold, listed⟩ :=
        linked.subscribed referrer row subscription plan owner held served
      obtain ⟨final, given⟩ := gift_returns owner listed
      apply Exists.intro
      apply Exists.intro
      simp only [giveMonth, Txn.get_bind, Txn.bind_eq_ok, Txn.expect_eq_ok]
      refine ⟨row, _, ⟨owner, rfl⟩, ?_⟩
      simp only [on, Txn.bind_eq_ok, Txn.pure_eq_ok]
      exact ⟨_, _, given, rfl, rfl⟩

theorem rewardReferrer_returns (linked : Linked platform) (key : ℕ)
    (invoice : PlatformInvoice) :
    ∃ final, rewardReferrer key invoice platform = .ok ⟨⟩ final := by
  rw [rewardReferrer, Txn.get_bind]
  cases found : platform.rewarded invoice with
  | none => exact ⟨platform, rfl⟩
  | some reward =>
      obtain ⟨coupon, referrer⟩ := reward
      obtain ⟨-, -, -, referred⟩ := rewarded_eq_some found
      obtain ⟨listed, stored, named⟩ := Option.bind_eq_some_iff.mp referred
      obtain ⟨row, owner⟩ :=
        linked.referred coupon listed referrer stored named
      obtain ⟨gift, final, given⟩ := giveMonth_returns linked owner
      exact ⟨_, Txn.bind_eq_ok.mpr ⟨_, _, given, rfl⟩⟩

theorem settle_returns (linked : Linked platform) (distinct : Distinct platform)
    (stored : platform.invoices.get? key = some invoice)
    (owed : invoice.Owed) (real : invoice.paymentReference ≠ "") :
    ∃ final, settleIssuedInvoice key invoice.paymentProvider
      invoice.paymentReference platform = .ok ⟨⟩ final := by
  obtain ⟨row, owner⟩ := linked.billed key invoice stored
  obtain ⟨target, sold⟩ := linked.sold key invoice stored
  have free : platform.referenceFree key invoice.paymentProvider
      invoice.paymentReference = true := by
    refine referenceFree_iff.mpr (.inr ?_)
    intro other found held named numbered
    exact (distinct key other invoice found stored held named.symm
      numbered.symm real).symm
  have recorded : platform.referenceFree key
      (invoice.paidWith platform.now invoice.paymentProvider
        invoice.paymentReference).paymentProvider
      (invoice.paidWith platform.now invoice.paymentProvider
        invoice.paymentReference).paymentReference = true := by
    simpa only [PlatformInvoice.paidWith, ite_self] using free
  have paid : Linked (platform.finalized key
      (invoice.reperiod row.client platform.today) row target
      invoice.paymentProvider invoice.paymentReference) :=
    linked.deed (.pays stored owed owner sold recorded)
  obtain ⟨final, rest⟩ : ∃ final,
      (if invoice.paymentProvider = "gift" then pure ⟨⟩
        else rewardReferrer key invoice : BillingTxn PUnit)
        (platform.finalized key (invoice.reperiod row.client platform.today) row
          target invoice.paymentProvider invoice.paymentReference) =
        .ok ⟨⟩ final := by
    split
    · exact ⟨_, rfl⟩
    · exact rewardReferrer_returns paid key invoice
  have periods : ({ platform with
      invoices := platform.invoices.modify key fun _ =>
        invoice.reperiod row.client platform.today }).invoices.get? key =
      some (invoice.reperiod row.client platform.today) :=
    (Table.get?_modify_self _ _ _).trans (congrArg (Option.map _) stored)
  have finalized : finalizeInvoice key invoice.paymentProvider
      invoice.paymentReference { platform with
        invoices := platform.invoices.modify key fun _ =>
          invoice.reperiod row.client platform.today } =
      .ok ⟨⟩ (platform.finalized key
        (invoice.reperiod row.client platform.today) row target
        invoice.paymentProvider invoice.paymentReference) := by
    refine finalizeInvoice_eq_ok.mpr ⟨_, row, target, periods, ?_, ?_, ?_, ?_⟩
    · rw [reperiod_tenant]
      exact owner
    · rw [reperiod_plan]
      exact sold
    · rw [referenceFree_modify, reperiod_paidWith, reperiod_paymentProvider,
        reperiod_paymentReference]
      exact recorded
    · exact (finalized_modify _).symm
  refine ⟨final, ?_⟩
  simp only [settleIssuedInvoice, Txn.get_bind, Txn.bind_eq_ok,
    Txn.expect_eq_ok]
  refine ⟨invoice, _, ⟨stored, rfl⟩, ?_⟩
  rw [if_neg (unpaid_of_owed owed)]
  simp only [Txn.bind_eq_ok, Txn.require_eq_ok, Txn.expect_eq_ok,
    Txn.set_eq_ok]
  refine ⟨⟨⟩, _, ⟨owed, rfl⟩, ⟨⟩, _, ⟨free, rfl⟩, row, _, ⟨owner, rfl⟩, ⟨⟩, _,
    rfl, ⟨⟩, _, finalized, rest⟩

theorem notified (linked : Linked platform) (distinct : Distinct platform)
    {order : GatewayOrder}
    (stored : platform.invoices.get? order.invoice = some invoice)
    (named : invoice.paymentProvider = order.provider)
    (numbered : invoice.paymentReference = toString order.order)
    (paidCents : ℤ) :
    ∃ answer after,
      settleGatewayInvoice order.provider order.order paidCents platform =
          .ok answer after ∧
        answer ≠ .notFound ∧
        (invoice.Owed → invoice.total ≤ paidCents → answer = .paid ∧
          ∃ paid, after.invoices.get? order.invoice = some paid ∧
            paid.status = .paid) ∧
        (¬ invoice.Owed → after = platform) := by
  have real : invoice.paymentReference ≠ "" := by
    rw [numbered]
    exact toString_ne_empty _
  have found : platform.invoiceFor order.provider (toString order.order) =
      some (order.invoice, invoice) := by
    cases looked : platform.invoiceFor order.provider
        (toString order.order) with
    | none =>
        exact absurd numbered
          (invoiceFor_eq_none.mp looked order.invoice invoice stored named)
    | some row =>
        obtain ⟨key, other⟩ := row
        obtain ⟨held, named', numbered'⟩ := invoiceFor_eq_some looked
        obtain rfl := distinct order.invoice key invoice other stored held
          (named.trans named'.symm) (numbered.trans numbered'.symm) real
        rw [stored] at held
        rw [Option.some.inj held]
  rw [settleGatewayInvoice, Txn.get_bind]
  simp only [found]
  by_cases owed : invoice.status = .issued ∨ invoice.status = .void
  · have unpaid : invoice.status ≠ .paid := unpaid_of_owed owed
    rw [if_neg unpaid, if_neg (not_not.mpr owed)]
    by_cases less : paidCents < invoice.total
    · rw [if_pos less]
      refine ⟨.amountMismatch, platform, rfl, by decide, ?_, ?_⟩
      · exact fun _ enough => absurd enough (not_le.mpr less)
      · exact fun closed => absurd owed closed
    · obtain ⟨final, settled⟩ := settle_returns linked distinct stored owed real
      rw [named, numbered] at settled
      obtain ⟨row, owner⟩ := linked.billed order.invoice invoice stored
      have course := settle_course stored unpaid settled
      rw [if_neg less]
      refine ⟨.paid, final, Txn.bind_eq_ok.mpr ⟨_, _, settled, rfl⟩, by decide,
        fun _ _ => ⟨rfl, ?_⟩, fun closed => absurd owed closed⟩
      rw [Platform.settleDeeds, owner] at course
      exact course.paysFor List.mem_cons_self
  · by_cases paid : invoice.status = .paid
    · rw [if_pos paid]
      exact ⟨.alreadyPaid, platform, rfl, by decide,
        fun open' => absurd open' owed, fun _ => rfl⟩
    · rw [if_neg paid, if_pos owed]
      exact ⟨.badStatus, platform, rfl, by decide,
        fun open' => absurd open' owed, fun _ => rfl⟩

end Notifications

theorem orders_of_sound {platform : Platform} (sound : SoundOrders platform) :
    OrdersAnswered platform where
  answered order member := by
    obtain ⟨invoice, stored, named, numbered⟩ := sound.matched order member
    exact ⟨invoice, stored,
      notified sound.linked sound.distinct stored named numbered⟩
  closed op after returned key invoice stored closed := by
    have owes : ¬ invoice.Owed := by
      rcases closed with paid | refunded
      · exact not_owed_of_paid paid
      · rintro (issued | void)
        · cases issued.symm.trans refunded
        · cases void.symm.trans refunded
    obtain ⟨done, body, rfl⟩ := run_eq_ok.mp returned
    cases turns : op.turns with
    | false =>
        obtain ⟨middle, course, rfl⟩ := body_course turns body
        exact ⟨invoice, course.keeps stored owes, closed⟩
    | true =>
        rcases op.turns_cases turns with
          rfl | ⟨days, instants, rfl⟩ | ⟨other, cutService, rfl⟩
        · obtain ⟨halted, rfl, rfl⟩ := daily_eq_ok body
          exact ⟨invoice, stored, closed⟩
        · obtain rfl := Txn.modify_eq_ok.mp body
          exact ⟨invoice, stored, closed⟩
        · obtain ⟨found, there, ⟨-, rfl⟩ | ⟨-, tenants, rfl, -⟩, -⟩ :=
            refund_eq_ok body
          · exact ⟨invoice, stored, closed⟩
          · by_cases same : key = other
            · subst same
              exact ⟨_, (Table.get?_modify_self _ _ _).trans
                (congrArg (Option.map _) stored), .inr rfl⟩
            · exact ⟨invoice, (Table.get?_modify_of_ne _ same _).trans stored,
                closed⟩

/-- Every notification is answered, in every run in which no invoice of an order
is settled in another way. -/
theorem orders_answered (now today : ℕ) (plans : Table Plan)
    (promotions : List PlanPromotion) (tenants : Table Tenant)
    (coupons : Table Coupon) (ops : List BillingOp)
    (linked : Linked
      (openedPlatform now today plans promotions tenants coupons))
    (kept : Txn.Throughout BillingOp.run BillingOp.KeepsOrders ops
      (openedPlatform now today plans promotions tenants coupons)) :
    OrdersAnswered (Txn.after BillingOp.run ops
      (openedPlatform now today plans promotions tenants coupons)) := by
  apply orders_of_sound
  refine Txn.after_of_throughout SoundOrders billing_rollsBack ?_ ops _ ?_ kept
  · exact fun op before after sound met returned => sound.step met returned
  · exact ⟨linked, fun _ _ _ _ stored => (by cases stored),
      fun order member => (by cases member)⟩

theorem linked_trial : Linked (openedPlatform 0 100 twoPlans []
    (Table.empty.insert trialTenant) .empty) where
  billed _ _ stored := by cases stored
  sold _ _ stored := by cases stored
  subscribed tenant row subscription plan owner held _ := by
    rcases Table.get?_insert_cases owner with ⟨-, rfl⟩ | owner
    · cases held
    · cases owner
  referred _ _ _ listed := by cases listed

def voidedOrder : List BillingOp :=
  [.openGateway 0 0 1 "paymob" 7, .void 0, .notify "paymob" 7 10,
    .notify "paymob" 7 55000, .notify "paymob" 7 55000,
    .settle 0 "manual_admin" "A", .refund 0 true, .notify "paymob" 7 55000]

theorem orders_answered_voidedOrder :
    OrdersAnswered (Txn.after BillingOp.run voidedOrder
      (openedPlatform 0 100 twoPlans [] (Table.empty.insert trialTenant)
        .empty)) :=
  orders_answered 0 100 twoPlans [] (Table.empty.insert trialTenant) .empty
    voidedOrder
    linked_trial
    ⟨fun _ => trivial, fun _ => trivial, fun _ => trivial, fun _ => trivial,
      fun _ => trivial, fun _ => (by
        unfold BillingOp.KeepsOrders
        decide +kernel), fun _ => trivial, fun _ => trivial, trivial⟩

def settledByHand : List BillingOp :=
  [.openGateway 0 0 1 "paymob" 7, .settle 0 "manual_admin" "A"]

/-- A payment for an order is lost once its invoice is settled by hand. -/
theorem order_unanswered : ¬ ∀ ops, OrdersAnswered (Txn.after BillingOp.run ops
    (openedPlatform 0 100 twoPlans [] (Table.empty.insert trialTenant)
      .empty)) := by
  intro answered
  obtain ⟨invoice, stored, answers⟩ :=
    (answered settledByHand).answered ⟨"paymob", 7, 0⟩ (by decide +kernel)
  obtain ⟨answer, after, returned, found, -, -⟩ := answers 55000
  have lost : (settleGatewayInvoice "paymob" 7 55000).result?
      (Txn.after BillingOp.run settledByHand
        (openedPlatform 0 100 twoPlans [] (Table.empty.insert trialTenant)
          .empty)) = some .notFound := by
    decide +kernel
  rw [Txn.result?, returned] at lost
  exact found (Option.some.inj lost)

end Clients

end Mousstec
