import Mousstec.Clients.PlatformBilling

/-!
# What an operation of billing does

An accepted operation opens and voids invoices, and there are two kinds of
deeds: an invoice is discounted, or it is paid.  The deeds of an operation can
be read off the platform before it; each is done on a platform that differs from
that one only by moves that no deed depends on.
-/

namespace Mousstec

namespace Clients

open Library

/-- An invoice is discounted, or an invoice with its final period is paid. -/
inductive Deed
  | discounts (key : ℕ) (invoice : PlatformInvoice) (coupon : ℕ × Coupon)
  | pays (key : ℕ) (invoice : PlatformInvoice) (provider reference : String)

/-- After a payment, only payments of other tenants without a coupon follow. -/
def Deed.Before : Deed → Deed → Prop
  | discounts _ _ _, _ => True
  | pays _ _ _ _, discounts _ _ _ => False
  | pays _ invoice _ _, pays _ other _ _ =>
      invoice.tenant ≠ other.tenant ∧ other.coupon = none

/-- A deed takes one platform to another. -/
inductive Deed.Done (platform : Platform) : Deed → Platform → Prop
  | discounts {key : ℕ} {invoice : PlatformInvoice} {coupon : ℕ × Coupon}
      (stored : platform.invoices.get? key = some invoice)
      (issued : invoice.status = .issued)
      (plain : invoice.coupon = none)
      (stamped : invoice.issuedAt = platform.now)
      (listed : platform.coupons.get? coupon.1 = some coupon.2) :
      Done platform (.discounts key invoice coupon)
        { platform with
          invoices := platform.invoices.modify key fun _ =>
            invoice.withCoupon (some coupon) }
  | pays {key : ℕ} {stored : PlatformInvoice} {row : Tenant} {target : Plan}
      {provider reference : String}
      (located : platform.invoices.get? key = some stored)
      (owed : stored.status = .issued ∨ stored.status = .void)
      (owner : platform.tenants.get? stored.tenant = some row)
      (sold : platform.plans.get? stored.plan = some target)
      (free : platform.referenceFree key
        (stored.paidWith platform.now provider reference).paymentProvider
        (stored.paidWith platform.now provider reference).paymentReference =
          true) :
      Done platform
        (.pays key (stored.reperiod row.client platform.today) provider
          reference)
        (platform.finalized key (stored.reperiod row.client platform.today) row
          target provider reference)

theorem Deed.Done.rewards {platform after : Platform} {deed : Deed}
    (done : deed.Done platform after) : after.rewards = platform.rewards := by
  cases done with
  | discounts => rfl
  | pays => rfl

inductive Move (platform : Platform) : Platform → Prop
  | opened {invoice : PlatformInvoice} {row : Tenant} {plan : Plan}
      (issued : invoice.status = .issued)
      (plain : invoice.coupon = none)
      (stamped : invoice.issuedAt = platform.now)
      (cycle : (periodDays? invoice.billingCycleMonths).isSome)
      (dated : invoice.kind = .upgrade → row.client.subscriptionEndDate.isSome)
      (free : platform.referenceFree platform.invoices.next
        invoice.paymentProvider invoice.paymentReference = true)
      (owner : platform.tenants.get? invoice.tenant = some row)
      (sold : platform.plans.get? invoice.plan = some plan) :
      Move platform { platform with
        invoices := platform.invoices.insert invoice }
  | voided {change : ℕ → PlatformInvoice → PlatformInvoice}
      (voids : ∀ key invoice, change key invoice = invoice ∨
        invoice.status = .issued ∧
          change key invoice = { invoice with status := .void }) :
      Move platform { platform with
        invoices := platform.invoices.map change }
  | requested (checkouts : Table Checkout) :
      Move platform { platform with checkouts }
  | extended (tenant : ℕ) : Move platform (platform.trialExtended tenant)
  | rewarded {reward : ReferralReward}
      (first : ∀ other ∈ platform.rewards, other.referred ≠ reward.referred) :
      Move platform { platform with rewards := platform.rewards ++ [reward] }

/-- Moves and deeds, one after the other. -/
inductive Course : Platform → List Deed → Platform → Prop
  | done (platform : Platform) : Course platform [] platform
  | move {platform middle final : Platform} {deeds : List Deed}
      (moved : Move platform middle) (rest : Course middle deeds final) :
      Course platform deeds final
  | deed {platform middle final : Platform} {first : Deed} {deeds : List Deed}
      (does : first.Done platform middle) (rest : Course middle deeds final) :
      Course platform (first :: deeds) final

namespace Course

variable {platform middle final : Platform} {first second : List Deed}

theorem append (begun : Course platform first middle)
    (rest : Course middle second final) :
    Course platform (first ++ second) final := by
  induction begun with
  | done platform => exact rest
  | move moved _ induction => exact .move moved (induction rest)
  | deed does _ induction => exact .deed does (induction rest)

theorem of_move (moved : Move platform final) : Course platform [] final :=
  .move moved (.done final)

theorem of_deed {deed : Deed} (does : deed.Done platform final) :
    Course platform [deed] final :=
  .deed does (.done final)

/-- The run rule: what moves and deeds keep, while the deeds that remain stay
allowed. -/
theorem invariant (holds : Platform → Prop) (allowed : Platform → Deed → Prop)
    (moves : ∀ before after, Move before after → holds before → holds after)
    (still : ∀ before after deed, Move before after → holds before →
      allowed before deed → allowed after deed)
    (does : ∀ before after deed, deed.Done before after → holds before →
      allowed before deed → holds after)
    (later : ∀ before after deed next, deed.Done before after → holds before →
      allowed before deed → deed.Before next → allowed before next →
      allowed after next)
    {deeds : List Deed} (course : Course platform deeds final)
    (ordered : deeds.Pairwise Deed.Before) (held : holds platform)
    (permitted : ∀ deed ∈ deeds, allowed platform deed) : holds final := by
  induction course with
  | done platform => exact held
  | move moved _ induction =>
      apply induction ordered (moves _ _ moved held)
      intro deed member
      exact still _ _ deed moved held (permitted deed member)
  | deed done _ induction =>
      obtain ⟨before, ordered⟩ := List.pairwise_cons.mp ordered
      have met := permitted _ List.mem_cons_self
      apply induction ordered (does _ _ _ done held met)
      intro deed member
      exact later _ _ _ deed done held met (before deed member)
        (permitted deed (List.mem_cons_of_mem _ member))

end Course

namespace Platform

variable (platform : Platform)

/-- The deeds of `issue_subscription_invoice`. -/
def issueDeeds (tenant key : ℕ) (issue : Issue) : List Deed :=
  match platform.tenants.get? tenant, platform.plans.get? key with
  | some row, some plan =>
      if issue.paid || issue.gift then
        [.pays platform.invoices.next
          (platform.issuedInvoice tenant row.client key plan issue)
          (if issue.gift then "gift" else issue.provider) issue.reference]
      else []
  | _, _ => []

def giftDeeds (referrer : ℕ) : List Deed :=
  match (platform.tenants.get? referrer).bind Tenant.subscription with
  | none => []
  | some subscription =>
      match subscription.plan with
      | none => []
      | some plan => platform.issueDeeds referrer plan
          { months := referralRewardMonths, gift := true }

/-- The deeds of `reward_referrer`. -/
def rewardDeeds (invoice : PlatformInvoice) : List Deed :=
  match platform.rewarded invoice with
  | none => []
  | some (_, referrer) => platform.giftDeeds referrer

def settleDeeds (key : ℕ) (invoice : PlatformInvoice)
    (provider reference : String) : List Deed :=
  match platform.tenants.get? invoice.tenant with
  | none => []
  | some row =>
      .pays key (invoice.reperiod row.client platform.today) provider
          reference ::
        if provider = "gift" then [] else platform.rewardDeeds invoice

def finishDeeds (key : ℕ) (invoice : PlatformInvoice) :
    Option (ℕ × Coupon) → List Deed
  | none => []
  | some coupon =>
      (if 0 < invoice.total then [.discounts key invoice coupon] else []) ++
        if (invoice.withCoupon (some coupon)).total ≤ 0 then
          platform.settleDeeds key (invoice.withCoupon (some coupon)) "coupon"
            (couponReference coupon.2 key)
        else []

/-- The deeds of `open_plan_change_invoice`. -/
def openDeeds (tenant key months : ℕ) (provider : String) (order : Option ℕ)
    (usage : Option UsageCounts) (coupon : Option (ℕ × Coupon)) : List Deed :=
  match platform.tenants.get? tenant, platform.plans.get? key with
  | some row, some plan =>
      let invoice := platform.planChangeInvoice tenant row.client key plan
        (platform.quotePlanChange row key plan months usage) provider
        ((order.map toString).getD "")
      ({ platform with
        invoices := platform.invoices.insert invoice }).finishDeeds
          platform.invoices.next invoice coupon
  | _, _ => []

end Platform

def BillingOp.deeds (platform : Platform) : BillingOp → List Deed
  | issue tenant plan months paid gift provider reference =>
      platform.issueDeeds tenant plan { months, paid, gift, provider, reference }
  | .endCheckout checkout provider order usage =>
      match platform.checkouts.get? checkout with
      | none => []
      | some request =>
          platform.openDeeds request.tenant request.plan request.months provider
            order usage
            (request.coupon.bind fun key =>
              (platform.coupons.get? key).map (key, ·))
  | settle key provider reference =>
      match platform.invoices.get? key with
      | none => []
      | some invoice =>
          if invoice.status = .paid then []
          else platform.settleDeeds key invoice provider reference
  | notify provider order paidCents =>
      match platform.invoiceFor provider (toString order) with
      | none => []
      | some (key, invoice) =>
          if (invoice.status = .issued ∨ invoice.status = .void) ∧
              invoice.total ≤ paidCents then
            platform.settleDeeds key invoice provider (toString order)
          else []
  | _ => []

def BillingOp.opens (platform : Platform) : BillingOp → List GatewayOrder
  | openGateway _ _ _ provider order =>
      [{ provider, order, invoice := platform.invoices.next }]
  | .endCheckout _ provider (some order) _ =>
      [{ provider, order, invoice := platform.invoices.next }]
  | _ => []

def BillingOp.turns : BillingOp → Bool
  | refund _ _ => true
  | daily => true
  | pass _ _ => true
  | _ => false

theorem BillingOp.turns_cases (op : BillingOp) (turns : op.turns = true) :
    op = .daily ∨ (∃ days instants, op = .pass days instants) ∨
      ∃ key cutService, op = .refund key cutService := by
  cases op with
  | daily => exact .inl rfl
  | pass days instants => exact .inr (.inl ⟨days, instants, rfl⟩)
  | refund key cutService => exact .inr (.inr ⟨key, cutService, rfl⟩)
  | _ => cases turns

theorem BillingOp.plain_cases (op : BillingOp) (turns : op.turns = true)
    (plain : op.refunds = false) :
    op = .daily ∨ ∃ days instants, op = .pass days instants := by
  rcases op.turns_cases turns with daily | pass | ⟨key, cutService, rfl⟩
  · exact .inl daily
  · exact .inr pass
  · cases plain

theorem cycleMonths_sold (months : ℕ) :
    (periodDays? (cycleMonths months)).isSome = true := by
  unfold cycleMonths
  split
  · assumption
  · rfl

section References

variable {platform : Platform} {key : ℕ} {provider reference : String}

theorem referenceFree_iff :
    platform.referenceFree key provider reference = true ↔ reference = "" ∨
      ∀ other invoice, platform.invoices.get? other = some invoice →
        invoice.paymentProvider = provider →
        invoice.paymentReference = reference → other = key := by
  rw [Platform.referenceFree, Bool.or_eq_true, beq_iff_eq,
    Bool.not_eq_true', List.any_eq_false]
  refine or_congr_right ⟨?_, ?_⟩
  · intro none other invoice stored named numbered
    have free := none (other, invoice) (Table.get?_eq_some.mp stored)
    by_contra different
    exact free (by simp [different, named, numbered])
  · intro unique row member taken
    simp only [Bool.and_eq_true, bne_iff_ne, beq_iff_eq] at taken
    exact taken.1.1 (unique row.1 row.2 (Table.get?_eq_some.mpr member)
      taken.1.2 taken.2)

theorem invoiceFor_eq_some {invoice : PlatformInvoice}
    (found : platform.invoiceFor provider reference = some (key, invoice)) :
    platform.invoices.get? key = some invoice ∧
      invoice.paymentProvider = provider ∧
      invoice.paymentReference = reference := by
  have member := List.mem_of_find?_eq_some found
  have matched := List.find?_some found
  simp only [Bool.and_eq_true, beq_iff_eq] at matched
  exact ⟨Table.get?_eq_some.mpr (List.mem_reverse.mp member), matched.1,
    matched.2⟩

theorem invoiceFor_eq_none :
    platform.invoiceFor provider reference = none ↔
      ∀ key invoice, platform.invoices.get? key = some invoice →
        invoice.paymentProvider = provider →
        invoice.paymentReference ≠ reference := by
  rw [Platform.invoiceFor, List.find?_eq_none]
  constructor
  · intro none key invoice stored named numbered
    have member := List.mem_reverse.mpr (Table.get?_eq_some.mp stored)
    exact none (key, invoice) member (by simp [named, numbered])
  · intro none row member matched
    simp only [Bool.and_eq_true, beq_iff_eq] at matched
    exact none row.1 row.2
      (Table.get?_eq_some.mpr (List.mem_reverse.mp member)) matched.1 matched.2

end References

section Transactions

variable {platform final : Platform} {key tenant plan : ℕ}

theorem createInvoice_eq_ok {invoice : PlatformInvoice} {value : ℕ} :
    createInvoice invoice platform = .ok value final ↔
      platform.referenceFree platform.invoices.next invoice.paymentProvider
          invoice.paymentReference = true ∧
        value = platform.invoices.next ∧
        final = { platform with
          invoices := platform.invoices.insert invoice } := by
  simp only [createInvoice, Txn.get_bind, Txn.bind_eq_ok, Txn.require_eq_ok,
    Txn.set_eq_ok, Txn.pure_eq_ok]
  constructor
  · rintro ⟨_, _, ⟨free, rfl⟩, _, _, rfl, rfl, rfl⟩
    exact ⟨free, rfl, rfl⟩
  · rintro ⟨free, rfl, rfl⟩
    exact ⟨⟨⟩, _, ⟨free, rfl⟩, ⟨⟩, _, rfl, rfl, rfl⟩

theorem finalizeInvoice_eq_ok {provider reference : String} {value : PUnit} :
    finalizeInvoice key provider reference platform = .ok value final ↔
      ∃ invoice row target, platform.invoices.get? key = some invoice ∧
        platform.tenants.get? invoice.tenant = some row ∧
        platform.plans.get? invoice.plan = some target ∧
        platform.referenceFree key
          (invoice.paidWith platform.now provider reference).paymentProvider
          (invoice.paidWith platform.now provider reference).paymentReference =
            true ∧
        final = platform.finalized key invoice row target provider
          reference := by
  simp only [finalizeInvoice, Txn.get_bind, Txn.bind_eq_ok, Txn.expect_eq_ok,
    Txn.require_eq_ok, Txn.set_eq_ok]
  constructor
  · rintro ⟨invoice, _, ⟨stored, rfl⟩, row, _, ⟨owner, rfl⟩, target, _,
      ⟨sold, rfl⟩, _, _, ⟨free, rfl⟩, rfl⟩
    exact ⟨invoice, row, target, stored, owner, sold, free, rfl⟩
  · rintro ⟨invoice, row, target, stored, owner, sold, free, rfl⟩
    exact ⟨invoice, _, ⟨stored, rfl⟩, row, _, ⟨owner, rfl⟩, target, _,
      ⟨sold, rfl⟩, ⟨⟩, _, ⟨free, rfl⟩, rfl⟩

theorem issuedInvoice_reperiod {client : Client} {plan : Plan} {issue : Issue}
    (plain : issue.kind ≠ .upgrade) :
    (platform.issuedInvoice tenant client key plan issue).reperiod client
        platform.today =
      platform.issuedInvoice tenant client key plan issue := by
  have kind : (platform.issuedInvoice tenant client key plan issue).kind ≠
      .upgrade := plain
  rw [PlatformInvoice.reperiod, if_neg kind]
  rfl

theorem finalized_subscribed {invoice : PlatformInvoice} {row : Tenant}
    {target : Plan} {provider reference : String}
    (sold : invoice.plan = plan) :
    (platform.subscribed invoice.tenant plan target).finalized key invoice
        { row with
          subscription := some
            (row.subscription.getD (.opened plan target platform.now)) }
        target provider reference =
      platform.finalized key invoice row target provider reference := by
  subst sold
  have deferred : (platform.subscribed invoice.tenant invoice.plan target).defers
      (some (row.subscription.getD
        (.opened invoice.plan target platform.now))) invoice target =
      platform.defers row.subscription invoice target := by
    cases row.subscription with
    | none =>
        simp [Platform.defers, TenantSubscription.opened,
          TenantSubscription.snapshot]
    | some subscription => rfl
  unfold Platform.finalized Platform.paidInvoice Platform.paidTenant
  simp only [deferred]
  simp only [Platform.subscribed, Table.modify_modify, Option.getD_some]

theorem issue_eq_ok {issue : Issue} {value : ℕ} (plain : issue.kind ≠ .upgrade)
    (returned : issueSubscriptionInvoice tenant key issue platform =
      .ok value final) :
    ∃ row sold, platform.tenants.get? tenant = some row ∧
      platform.plans.get? key = some sold ∧ value = platform.invoices.next ∧
      ∃ opened, Move platform opened ∧
        opened = { platform with
          invoices := platform.invoices.insert
            (platform.issuedInvoice tenant row.client key sold issue) } ∧
        (if issue.paid || issue.gift then
          Deed.Done opened (.pays platform.invoices.next
            (platform.issuedInvoice tenant row.client key sold issue)
            (if issue.gift then "gift" else issue.provider) issue.reference)
            final
        else final = opened) := by
  simp only [issueSubscriptionInvoice, Txn.get_bind, Txn.bind_eq_ok,
    Txn.expect_eq_ok] at returned
  obtain ⟨row, _, ⟨owner, rfl⟩, sold, _, ⟨listed, rfl⟩, returned⟩ := returned
  refine ⟨row, sold, owner, listed, ?_⟩
  split at returned
  · rename_i paid
    simp only [Txn.bind_eq_ok, Txn.set_eq_ok, createInvoice_eq_ok,
      finalizeInvoice_eq_ok, Txn.pure_eq_ok] at returned
    obtain ⟨_, _, rfl, _, _, ⟨free, rfl, rfl⟩, _, _,
      ⟨invoice, holder, target, stored, owned, offered, unique, rfl⟩, rfl,
      rfl⟩ := returned
    obtain rfl : platform.issuedInvoice tenant row.client key sold issue =
        invoice := by
      simpa [Platform.subscribed] using stored
    refine ⟨rfl, _, .opened rfl rfl rfl (cycleMonths_sold _)
      (fun upgrade => absurd upgrade plain) free owner listed, rfl, ?_⟩
    have same : sold = target := by
      have found : platform.plans.get? key = some target := offered
      rw [listed] at found
      exact Option.some.inj found
    subst same
    have holds : holder = { row with
        subscription := some
          (row.subscription.getD (.opened key sold platform.now)) } := by
      have found : (platform.tenants.modify tenant fun row =>
          { row with
            subscription := some
              (row.subscription.getD (.opened key sold platform.now)) }).get?
            tenant = some holder := owned
      rw [Table.get?_modify_self, owner] at found
      exact (Option.some.inj found).symm
    subst holds
    rw [if_pos paid]
    have done : Deed.Done
        { platform with
          invoices := platform.invoices.insert
            (platform.issuedInvoice tenant row.client key sold issue) }
        (.pays platform.invoices.next
          ((platform.issuedInvoice tenant row.client key sold issue).reperiod
            row.client platform.today)
          (if issue.gift then "gift" else issue.provider) issue.reference) _ :=
      .pays (platform.invoices.get?_insert_next _) (.inl rfl) owner listed
        unique
    rw [issuedInvoice_reperiod plain] at done
    rw [← finalized_subscribed rfl] at done
    exact done
  · rename_i unpaid
    obtain ⟨free, rfl, rfl⟩ := createInvoice_eq_ok.mp returned
    refine ⟨rfl, _, .opened rfl rfl rfl (cycleMonths_sold _)
      (fun upgrade => absurd upgrade plain) free owner listed, rfl, ?_⟩
    rw [if_neg unpaid]

theorem issue_course {issue : Issue} {value : ℕ} (plain : issue.kind ≠ .upgrade)
    (returned : issueSubscriptionInvoice tenant key issue platform =
      .ok value final) :
    Course platform (platform.issueDeeds tenant key issue) final := by
  obtain ⟨row, sold, owner, listed, rfl, opened, moved, -, rest⟩ :=
    issue_eq_ok plain returned
  rw [Platform.issueDeeds, owner, listed]
  simp only
  split at rest
  · rename_i paid
    rw [if_pos paid]
    exact .move moved (.of_deed rest)
  · rename_i unpaid
    rw [if_neg unpaid]
    subst rest
    exact .of_move moved

theorem issue_rewards {issue : Issue} {value : ℕ} (plain : issue.kind ≠ .upgrade)
    (returned : issueSubscriptionInvoice tenant key issue platform =
      .ok value final) : final.rewards = platform.rewards := by
  obtain ⟨row, sold, owner, listed, rfl, opened, moved, rfl, rest⟩ :=
    issue_eq_ok plain returned
  split at rest
  · exact rest.rewards
  · rw [rest]

theorem giveMonth_course {referrer : ℕ} {gift : Option ℕ}
    (returned : giveMonth referrer platform = .ok gift final) :
    Course platform (platform.giftDeeds referrer) final ∧
      final.rewards = platform.rewards := by
  simp only [giveMonth, Txn.get_bind, Txn.bind_eq_ok, Txn.expect_eq_ok]
    at returned
  obtain ⟨row, _, ⟨owner, rfl⟩, returned⟩ := returned
  rw [Platform.giftDeeds, owner]
  cases held : row.subscription with
  | none =>
      simp only [held, Option.bind_none, Txn.bind_eq_ok, Txn.set_eq_ok,
        Txn.pure_eq_ok] at returned
      obtain ⟨_, _, rfl, rfl, rfl⟩ := returned
      simp only [Option.bind_some, held]
      exact ⟨.of_move (.extended referrer), rfl⟩
  | some subscription =>
      simp only [Option.bind_some, held]
      cases on : subscription.plan with
      | none =>
          simp only [held, Option.bind_some, on, Txn.bind_eq_ok,
            Txn.set_eq_ok, Txn.pure_eq_ok] at returned
          obtain ⟨_, _, rfl, rfl, rfl⟩ := returned
          exact ⟨.of_move (.extended referrer), rfl⟩
      | some plan =>
          simp only [held, Option.bind_some, on, Txn.bind_eq_ok,
            Txn.pure_eq_ok] at returned
          obtain ⟨_, _, issued, rfl, rfl⟩ := returned
          exact ⟨issue_course (by simp) issued, issue_rewards (by simp) issued⟩

theorem rewarded_eq_some {invoice : PlatformInvoice} {coupon referrer : ℕ}
    (rewards : platform.rewarded invoice = some (coupon, referrer)) :
    invoice.coupon = some coupon ∧ referrer ≠ invoice.tenant ∧
      (∀ reward ∈ platform.rewards, reward.referred ≠ invoice.tenant) ∧
      (platform.coupons.get? coupon).bind Coupon.referrer = some referrer := by
  unfold Platform.rewarded at rewards
  cases held : invoice.coupon with
  | none => simp [held] at rewards
  | some key =>
      simp only [held] at rewards
      cases referred : (platform.coupons.get? key).bind Coupon.referrer with
      | none => simp [referred] at rewards
      | some other =>
          simp only [referred] at rewards
          split at rewards
          · cases rewards
          · rename_i clear
            obtain ⟨rfl, rfl⟩ := Prod.mk.inj (Option.some.inj rewards)
            rw [not_or, Bool.not_eq_true, List.any_eq_false] at clear
            refine ⟨rfl, clear.1, fun reward member same => ?_, referred⟩
            exact clear.2 reward member (by simpa using same)

theorem rewardReferrer_course {invoice : PlatformInvoice}
    (returned : rewardReferrer key invoice platform = .ok ⟨⟩ final) :
    Course platform (platform.rewardDeeds invoice) final := by
  rw [rewardReferrer, Txn.get_bind] at returned
  rw [Platform.rewardDeeds]
  cases rewards : platform.rewarded invoice with
  | none =>
      simp only [rewards, Txn.pure_eq_ok] at returned
      obtain ⟨-, rfl⟩ := returned
      exact .done platform
  | some reward =>
      obtain ⟨coupon, referrer⟩ := reward
      obtain ⟨-, -, first, -⟩ := rewarded_eq_some rewards
      simp only [rewards, Txn.bind_eq_ok, Txn.modify_eq_ok] at returned
      obtain ⟨gift, middle, given, rfl⟩ := returned
      obtain ⟨course, same⟩ := giveMonth_course given
      have moved : Move middle { middle with
          rewards := middle.rewards ++
            [{ coupon
               referrer
               referred := invoice.tenant
               invoice := key
               giftInvoice := gift }] } := .rewarded (same ▸ first)
      have more := course.append (.of_move moved)
      rw [List.append_nil] at more
      exact more

theorem referenceFree_modify {change : PlatformInvoice → PlatformInvoice}
    {provider reference : String} :
    ({ platform with
        invoices := platform.invoices.modify key change }).referenceFree key
          provider reference = platform.referenceFree key provider reference := by
  rw [Bool.eq_iff_iff, referenceFree_iff, referenceFree_iff]
  refine or_congr_right ⟨?_, ?_⟩
  · intro unique other invoice stored named numbered
    by_contra different
    refine different (unique other invoice ?_ named numbered)
    rw [Table.get?_modify_of_ne _ different]
    exact stored
  · intro unique other invoice stored named numbered
    by_contra different
    rw [Table.get?_modify_of_ne _ different] at stored
    exact different (unique other invoice stored named numbered)

theorem finalized_modify {invoice : PlatformInvoice} {row : Tenant}
    {target : Plan} {provider reference : String}
    (change : PlatformInvoice → PlatformInvoice) :
    ({ platform with
        invoices := platform.invoices.modify key change }).finalized key invoice
          row target provider reference =
      platform.finalized key invoice row target provider reference := by
  unfold Platform.finalized
  simp only [Table.modify_modify]
  rfl

@[simp] theorem reperiod_tenant (invoice : PlatformInvoice) (client : Client)
    (today : ℕ) : (invoice.reperiod client today).tenant = invoice.tenant := by
  unfold PlatformInvoice.reperiod
  split <;> rfl

@[simp] theorem reperiod_plan (invoice : PlatformInvoice) (client : Client)
    (today : ℕ) : (invoice.reperiod client today).plan = invoice.plan := by
  unfold PlatformInvoice.reperiod
  split <;> rfl

@[simp] theorem reperiod_kind (invoice : PlatformInvoice) (client : Client)
    (today : ℕ) : (invoice.reperiod client today).kind = invoice.kind := by
  unfold PlatformInvoice.reperiod
  split <;> rfl

theorem reperiod_paidWith (invoice : PlatformInvoice) (client : Client)
    (today now : ℕ) (provider reference : String) :
    (invoice.reperiod client today).paidWith now provider reference =
      (invoice.paidWith now provider reference).reperiod client today := by
  unfold PlatformInvoice.reperiod
  split
  · rename_i upgrade
    exact (if_pos upgrade).symm
  · rename_i other
    exact (if_neg other).symm

@[simp] theorem reperiod_paymentProvider (invoice : PlatformInvoice)
    (client : Client) (today : ℕ) :
    (invoice.reperiod client today).paymentProvider =
      invoice.paymentProvider := by
  unfold PlatformInvoice.reperiod
  split <;> rfl

@[simp] theorem reperiod_paymentReference (invoice : PlatformInvoice)
    (client : Client) (today : ℕ) :
    (invoice.reperiod client today).paymentReference =
      invoice.paymentReference := by
  unfold PlatformInvoice.reperiod
  split <;> rfl

theorem rewardDeeds_finalized {invoice paid : PlatformInvoice} {row : Tenant}
    {target : Plan} {provider reference : String}
    (same : paid.tenant = invoice.tenant) :
    (platform.finalized key paid row target provider reference).rewardDeeds
        invoice = platform.rewardDeeds invoice := by
  have rewards : (platform.finalized key paid row target provider
      reference).rewarded invoice = platform.rewarded invoice := rfl
  unfold Platform.rewardDeeds
  rw [rewards]
  cases found : platform.rewarded invoice with
  | none => rfl
  | some reward =>
      obtain ⟨coupon, referrer⟩ := reward
      obtain ⟨-, other, -⟩ := rewarded_eq_some found
      have kept : (platform.finalized key paid row target provider
          reference).tenants.get? referrer = platform.tenants.get? referrer := by
        rw [← same] at other
        exact Table.get?_modify_of_ne _ other _
      simp only [Platform.giftDeeds, Platform.issueDeeds, kept]
      rfl

theorem settle_course {invoice : PlatformInvoice} {provider reference : String}
    {value : PUnit} (stored : platform.invoices.get? key = some invoice)
    (unpaid : invoice.status ≠ .paid)
    (returned : settleIssuedInvoice key provider reference platform =
      .ok value final) :
    Course platform (platform.settleDeeds key invoice provider reference)
      final := by
  simp only [settleIssuedInvoice, Txn.get_bind, Txn.bind_eq_ok,
    Txn.expect_eq_ok] at returned
  obtain ⟨found, _, ⟨same, rfl⟩, returned⟩ := returned
  obtain rfl : invoice = found := by
    rw [stored] at same
    exact Option.some.inj same
  rw [if_neg unpaid] at returned
  simp only [Txn.bind_eq_ok, Txn.require_eq_ok, Txn.expect_eq_ok,
    Txn.set_eq_ok, finalizeInvoice_eq_ok] at returned
  obtain ⟨_, _, ⟨owed, rfl⟩, _, _, ⟨-, rfl⟩, row, _, ⟨owner, rfl⟩, _, _, rfl,
    _, _, ⟨written, holder, target, located, owned, sold, free, rfl⟩,
    rest⟩ := returned
  have periods : written = invoice.reperiod row.client platform.today := by
    rw [Table.get?_modify_self, stored] at located
    exact (Option.some.inj located).symm
  subst periods
  obtain rfl : row = holder := by
    rw [reperiod_tenant] at owned
    have held : platform.tenants.get? invoice.tenant = some holder := owned
    rw [owner] at held
    exact Option.some.inj held
  have done : Deed.Done platform
      (.pays key (invoice.reperiod row.client platform.today) provider reference)
      (platform.finalized key (invoice.reperiod row.client platform.today) row
        target provider reference) := by
    rw [referenceFree_modify, reperiod_paidWith, reperiod_paymentProvider,
      reperiod_paymentReference] at free
    rw [reperiod_plan] at sold
    exact .pays stored owed owner sold free
  rw [Platform.settleDeeds, owner]
  simp only
  rw [finalized_modify] at rest
  split at rest
  · rename_i gift
    rw [if_pos gift]
    obtain ⟨-, rfl⟩ := Txn.pure_eq_ok.mp rest
    exact .of_deed done
  · rename_i real
    rw [if_neg real]
    refine .deed done ?_
    rw [← rewardDeeds_finalized (reperiod_tenant _ _ _)]
    exact rewardReferrer_course rest

theorem settle_paid {invoice : PlatformInvoice} {provider reference : String}
    (stored : platform.invoices.get? key = some invoice)
    (paid : invoice.status = .paid) :
    settleIssuedInvoice key provider reference platform = .ok ⟨⟩ platform := by
  rw [settleIssuedInvoice, Txn.get_bind, stored]
  change (if invoice.status = .paid then pure ⟨⟩ else _ : BillingTxn PUnit)
    platform = _
  rw [if_pos paid]
  rfl

theorem withCoupon_status (invoice : PlatformInvoice)
    (coupon : Option (ℕ × Coupon)) :
    (invoice.withCoupon coupon).status = invoice.status := by
  cases coupon with
  | none => rfl
  | some coupon =>
      obtain ⟨key, row⟩ := coupon
      simp only [PlatformInvoice.withCoupon]
      split <;> rfl

theorem withCoupon_of_nonpos {invoice : PlatformInvoice} (coupon : ℕ × Coupon)
    (nothing : invoice.total ≤ 0) :
    invoice.withCoupon (some coupon) = invoice := by
  exact if_pos (.inl nothing)

theorem finish_course {invoice : PlatformInvoice}
    {coupon : Option (ℕ × Coupon)} {value : PUnit}
    (stored : platform.invoices.get? key = some invoice)
    (issued : invoice.status = .issued) (plain : invoice.coupon = none)
    (stamped : invoice.issuedAt = platform.now)
    (listed : ∀ given ∈ coupon,
      platform.coupons.get? given.1 = some given.2)
    (returned : finishWithCoupon key coupon platform = .ok value final) :
    Course platform (platform.finishDeeds key invoice coupon) final := by
  simp only [finishWithCoupon, Txn.bind_eq_ok, Txn.modify_eq_ok] at returned
  obtain ⟨_, _, rfl, returned⟩ := returned
  cases coupon with
  | none =>
      obtain ⟨-, rfl⟩ := Txn.pure_eq_ok.mp returned
      have same : platform.invoices.modify key (·.withCoupon none) =
          platform.invoices := Table.modify_eq_self _ _ fun _ => rfl
      rw [same]
      exact .done platform
  | some coupon =>
      obtain ⟨couponKey, coupon⟩ := coupon
      have written : platform.invoices.modify key
            (·.withCoupon (some (couponKey, coupon))) =
          platform.invoices.modify key fun _ =>
            invoice.withCoupon (some (couponKey, coupon)) := by
        apply Table.ext
        · apply List.map_congr_left
          rintro ⟨other, found⟩ member
          by_cases same : other = key
          · subst same
            have kept := Table.get?_eq_some.mpr member
            rw [stored] at kept
            simp [Option.some.inj kept]
          · simp [same]
        · rfl
      rw [written] at returned
      simp only [Txn.get_bind, Txn.bind_eq_ok, Txn.expect_eq_ok] at returned
      obtain ⟨found, _, ⟨held, rfl⟩, returned⟩ := returned
      have now : found = invoice.withCoupon (some (couponKey, coupon)) := by
        rw [Table.get?_modify_self, stored] at held
        exact (Option.some.inj held).symm
      have discount : Course platform
          (if 0 < invoice.total then
            [.discounts key invoice (couponKey, coupon)] else [])
          { platform with
            invoices := platform.invoices.modify key fun _ =>
              invoice.withCoupon (some (couponKey, coupon)) } := by
        split
        · exact .of_deed (.discounts stored issued plain stamped
            (listed _ rfl))
        · rename_i nothing
          rw [withCoupon_of_nonpos _ (not_lt.mp nothing),
            Table.modify_stored stored]
          exact .done platform
      rw [Platform.finishDeeds]
      refine discount.append ?_
      rw [now] at returned
      split at returned
      · rename_i covered
        rw [if_pos covered]
        refine settle_course (by rw [held, now]) ?_ returned
        rw [withCoupon_status, issued]
        decide
      · rename_i owing
        rw [if_neg owing]
        obtain ⟨-, rfl⟩ := Txn.pure_eq_ok.mp returned
        exact .done _

theorem superseded_move (tenant : ℕ) (provider : String) :
    Move platform (platform.superseded tenant provider) := by
  apply Move.voided
  intro key invoice
  by_cases older : invoice.tenant = tenant ∧ invoice.status = .issued ∧
      invoice.paymentProvider = provider
  · exact .inr ⟨older.2.1, if_pos older⟩
  · exact .inl (if_neg older)

theorem void_move (key : ℕ) :
    Move platform { platform with
      invoices := platform.invoices.modify key fun invoice =>
        if invoice.status = .issued then { invoice with status := .void }
        else invoice } := by
  apply Move.voided
  intro other invoice
  by_cases same : other = key
  · rw [if_pos same]
    by_cases issued : invoice.status = .issued
    · exact .inr ⟨issued, if_pos issued⟩
    · exact .inl (if_neg issued)
  · exact .inl (if_neg same)

theorem planChangeInvoice_issued (platform : Platform) (tenant plan : ℕ)
    (client : Client) (sold : Plan) (quote : PlanQuote)
    (provider reference : String) :
    let invoice := platform.planChangeInvoice tenant client plan sold quote
      provider reference
    invoice.status = .issued ∧ invoice.coupon = none ∧
      invoice.issuedAt = platform.now ∧ invoice.tenant = tenant ∧
      invoice.plan = plan := by
  dsimp only
  unfold Platform.planChangeInvoice
  split
  · exact ⟨rfl, rfl, rfl, rfl, rfl⟩
  · exact ⟨rfl, rfl, rfl, rfl, rfl⟩

theorem quotePlanChange_cycle {row : Tenant} {sold : Plan} {months : ℕ}
    {usage : Option UsageCounts} :
    (periodDays? (platform.quotePlanChange row key sold months
      usage).months).isSome := by
  unfold Platform.quotePlanChange
  repeat' split
  all_goals exact cycleMonths_sold _

/-- Only a subscription with an end is upgraded. -/
theorem quotePlanChange_dated {row : Tenant} {sold : Plan} {months : ℕ}
    {usage : Option UsageCounts}
    (upgrade : (platform.quotePlanChange row key sold months usage).kind =
      .upgrade) : row.client.subscriptionEndDate.isSome := by
  unfold Platform.quotePlanChange at upgrade
  cases ends : row.client.subscriptionEndDate with
  | some ended => rfl
  | none =>
      rw [ends] at upgrade
      cases upgrade

theorem planChangeInvoice_kind {client : Client} {sold : Plan}
    {quote : PlanQuote} {provider reference : String}
    (upgrade : (platform.planChangeInvoice tenant client plan sold quote
      provider reference).kind = .upgrade) : quote.kind = .upgrade := by
  unfold Platform.planChangeInvoice at upgrade
  split at upgrade
  · assumption
  · change (if _ then InvoiceKind.downgrade else InvoiceKind.subscription) = _
      at upgrade
    split at upgrade
    · cases upgrade
    · cases upgrade

theorem planChangeInvoice_cycle {client : Client} {sold : Plan}
    {quote : PlanQuote} {provider reference : String}
    (cycle : (periodDays? quote.months).isSome) :
    (periodDays? (platform.planChangeInvoice tenant client plan sold quote
      provider reference).billingCycleMonths).isSome := by
  unfold Platform.planChangeInvoice
  split
  · exact cycle
  · exact cycleMonths_sold _

/-- What `open_plan_change_invoice` does: the older orders are voided if it is
an order, the invoice is opened, and it is finished with the coupon. -/
theorem openPlanChange_eq_ok {months value : ℕ} {provider : String}
    {order : Option ℕ} {usage : Option UsageCounts}
    {coupon : Option (ℕ × Coupon)}
    (returned : openPlanChangeInvoice tenant plan months provider order usage
      coupon platform = .ok value final) :
    ∃ row sold voided, platform.tenants.get? tenant = some row ∧
      platform.plans.get? plan = some sold ∧
      voided = (if order.isSome then platform.superseded tenant provider
        else platform) ∧
      value = platform.invoices.next ∧
      Move voided { voided with
        invoices := voided.invoices.insert
          (platform.planChangeInvoice tenant row.client plan sold
            (platform.quotePlanChange row plan sold months usage) provider
            ((order.map toString).getD "")) } ∧
      finishWithCoupon platform.invoices.next coupon { voided with
        invoices := voided.invoices.insert
          (platform.planChangeInvoice tenant row.client plan sold
            (platform.quotePlanChange row plan sold months usage) provider
            ((order.map toString).getD "")) } = .ok ⟨⟩ final := by
  simp only [openPlanChangeInvoice, Txn.get_bind, Txn.bind_eq_ok,
    Txn.expect_eq_ok, Txn.require_eq_ok, Txn.pure_eq_ok, supersede,
    Txn.modify_eq_ok] at returned
  obtain ⟨row, _, ⟨owner, rfl⟩, sold, _, ⟨listed, rfl⟩, _, _, ⟨-, rfl⟩, _,
    middle, superseded, opened, _, created, ⟨⟩, _, finished, rfl, rfl⟩ := returned
  have voided : middle = (if order.isSome then
      platform.superseded tenant provider else platform) := superseded.symm
  obtain ⟨free, rfl, rfl⟩ := createInvoice_eq_ok.mp created
  have next : middle.invoices.next = platform.invoices.next := by
    rw [voided]
    split <;> rfl
  have owners : middle.tenants = platform.tenants := by
    rw [voided]
    split <;> rfl
  have offered : middle.plans = platform.plans := by
    rw [voided]
    split <;> rfl
  have clock : middle.now = platform.now := by
    rw [voided]
    split <;> rfl
  obtain ⟨issued, plain, stamped, holder, bought⟩ :=
    planChangeInvoice_issued platform tenant plan row.client sold
      (platform.quotePlanChange row plan sold months usage) provider
      ((order.map toString).getD "")
  rw [← holder, ← owners] at owner
  rw [← bought, ← offered] at listed
  refine ⟨row, sold, middle, ?_, ?_, voided, next, ?_, ?_⟩
  · rw [← owners, ← holder, owner]
  · rw [← offered, ← bought, listed]
  · exact .opened issued plain (stamped.trans clock.symm)
      (planChangeInvoice_cycle quotePlanChange_cycle)
      (fun upgrade => quotePlanChange_dated (planChangeInvoice_kind upgrade))
      free owner listed
  · rw [← next]
    exact finished

theorem open_stages {months value : ℕ} {provider : String} {order : Option ℕ}
    {usage : Option UsageCounts} {coupon : Option (ℕ × Coupon)}
    (returned : openPlanChangeInvoice tenant plan months provider order usage
      coupon platform = .ok value final)
    (listed : ∀ given ∈ coupon, platform.coupons.get? given.1 = some given.2) :
    ∃ row sold opened, platform.tenants.get? tenant = some row ∧
      platform.plans.get? plan = some sold ∧
      opened.invoices.get? platform.invoices.next = some
        (platform.planChangeInvoice tenant row.client plan sold
          (platform.quotePlanChange row plan sold months usage) provider
          ((order.map toString).getD "")) ∧
      Course platform [] opened ∧
      Course opened
        (platform.openDeeds tenant plan months provider order usage coupon)
        final := by
  obtain ⟨row, sold, voided, owner, offered, superseded, rfl, opened,
    finished⟩ := openPlanChange_eq_ok returned
  obtain ⟨issued, plain, stamped, -, -⟩ :=
    planChangeInvoice_issued platform tenant plan row.client sold
      (platform.quotePlanChange row plan sold months usage) provider
      ((order.map toString).getD "")
  have first : Course platform [] voided := by
    rw [superseded]
    split
    · exact .of_move (superseded_move tenant provider)
    · exact .done platform
  have next : voided.invoices.next = platform.invoices.next := by
    rw [superseded]
    split <;> rfl
  have stored : ({ voided with
      invoices := voided.invoices.insert
        (platform.planChangeInvoice tenant row.client plan sold
          (platform.quotePlanChange row plan sold months usage) provider
          ((order.map toString).getD "")) }).invoices.get?
        platform.invoices.next = some
          (platform.planChangeInvoice tenant row.client plan sold
            (platform.quotePlanChange row plan sold months usage) provider
            ((order.map toString).getD "")) := by
    rw [← next]
    exact Table.get?_insert_next _ _
  have clock : voided.now = platform.now := by
    rw [superseded]
    split <;> rfl
  have coupons : voided.coupons = platform.coupons := by
    rw [superseded]
    split <;> rfl
  have course := finish_course stored issued plain
    (stamped.trans clock.symm) (by rw [coupons]; exact listed) finished
  have same : ∀ invoice, ({ platform with
        invoices := platform.invoices.insert invoice }).finishDeeds
          platform.invoices.next invoice coupon =
      ({ voided with
        invoices := voided.invoices.insert invoice }).finishDeeds
          platform.invoices.next invoice coupon := by
    intro invoice
    subst superseded
    cases coupon with
    | none => rfl
    | some given =>
        cases order with
        | none => rfl
        | some number => rfl
  rw [← same] at course
  refine ⟨row, sold, _, owner, offered, stored,
    first.append (.of_move opened), ?_⟩
  rw [Platform.openDeeds, owner, offered]
  exact course

theorem open_course {months value : ℕ} {provider : String} {order : Option ℕ}
    {usage : Option UsageCounts} {coupon : Option (ℕ × Coupon)}
    (returned : openPlanChangeInvoice tenant plan months provider order usage
      coupon platform = .ok value final)
    (listed : ∀ given ∈ coupon, platform.coupons.get? given.1 = some given.2) :
    Course platform
      (platform.openDeeds tenant plan months provider order usage coupon)
      final := by
  obtain ⟨_, _, opened, -, -, -, begun, finished⟩ :=
    open_stages returned listed
  exact begun.append finished

theorem giftDeeds_before {referrer : ℕ} {deed : Deed}
    (member : deed ∈ platform.giftDeeds referrer) :
    ∃ invoice, invoice.tenant = referrer ∧ invoice.coupon = none ∧
      deed = .pays platform.invoices.next invoice "gift" "" := by
  unfold Platform.giftDeeds at member
  cases held : (platform.tenants.get? referrer).bind Tenant.subscription with
  | none => simp [held] at member
  | some subscription =>
      simp only [held] at member
      cases on : subscription.plan with
      | none => simp [on] at member
      | some plan =>
          simp only [on, Platform.issueDeeds] at member
          split at member
          · rename_i row sold owner listed
            simp only [Bool.or_true, if_true, List.mem_singleton] at member
            exact ⟨_, rfl, rfl, member⟩
          · cases member

theorem rewardDeeds_before {invoice : PlatformInvoice} {deed : Deed}
    (member : deed ∈ platform.rewardDeeds invoice) :
    ∃ gift, gift.tenant ≠ invoice.tenant ∧ gift.coupon = none ∧
      deed = .pays platform.invoices.next gift "gift" "" := by
  unfold Platform.rewardDeeds at member
  cases found : platform.rewarded invoice with
  | none => simp [found] at member
  | some reward =>
      obtain ⟨coupon, referrer⟩ := reward
      obtain ⟨-, other, -⟩ := rewarded_eq_some found
      simp only [found] at member
      obtain ⟨gift, owned, plain, rfl⟩ := giftDeeds_before member
      exact ⟨gift, owned ▸ other, plain, rfl⟩

theorem giftDeeds_ordered (referrer : ℕ) :
    (platform.giftDeeds referrer).Pairwise Deed.Before := by
  unfold Platform.giftDeeds
  split
  · exact .nil
  · split
    · exact .nil
    · unfold Platform.issueDeeds
      split
      · simp
      · exact .nil

theorem rewardDeeds_ordered (invoice : PlatformInvoice) :
    (platform.rewardDeeds invoice).Pairwise Deed.Before := by
  unfold Platform.rewardDeeds
  split
  · exact .nil
  · exact giftDeeds_ordered _

theorem settleDeeds_ordered (invoice : PlatformInvoice)
    (provider reference : String) :
    (platform.settleDeeds key invoice provider reference).Pairwise
      Deed.Before := by
  unfold Platform.settleDeeds
  split
  · exact .nil
  · rw [List.pairwise_cons]
    split
    · exact ⟨by simp, .nil⟩
    · refine ⟨fun deed member => ?_, rewardDeeds_ordered invoice⟩
      obtain ⟨gift, other, plain, rfl⟩ := rewardDeeds_before member
      refine ⟨?_, plain⟩
      rw [reperiod_tenant]
      exact other.symm

theorem finishDeeds_ordered (invoice : PlatformInvoice)
    (coupon : Option (ℕ × Coupon)) :
    (platform.finishDeeds key invoice coupon).Pairwise Deed.Before := by
  cases coupon with
  | none => exact .nil
  | some coupon =>
      rw [Platform.finishDeeds, List.pairwise_append]
      refine ⟨?_, ?_, ?_⟩
      · split <;> simp
      · split
        · exact settleDeeds_ordered _ _ _
        · exact .nil
      · intro deed member next _
        split at member
        · obtain rfl := List.mem_singleton.mp member
          trivial
        · cases member

theorem settleDeeds_pays {invoice paid : PlatformInvoice} {paidKey : ℕ}
    {provider reference provider' reference' : String}
    (member : .pays paidKey paid provider' reference' ∈
      platform.settleDeeds key invoice provider reference) :
    paidKey = key ∧ provider' = provider ∧ reference' = reference ∨
      paidKey = platform.invoices.next := by
  unfold Platform.settleDeeds at member
  split at member
  · cases member
  · rcases List.mem_cons.mp member with same | rest
    · obtain ⟨rfl, -, rfl, rfl⟩ := Deed.pays.inj same
      exact .inl ⟨rfl, rfl, rfl⟩
    · split at rest
      · cases rest
      · obtain ⟨gift, -, -, same⟩ := rewardDeeds_before rest
        obtain ⟨rfl, -⟩ := Deed.pays.inj same
        exact .inr rfl

theorem finishDeeds_pays {invoice paid : PlatformInvoice} {paidKey : ℕ}
    {provider reference : String} {coupon : Option (ℕ × Coupon)}
    (member : .pays paidKey paid provider reference ∈
      platform.finishDeeds key invoice coupon) :
    paidKey = key ∨ paidKey = platform.invoices.next := by
  cases coupon with
  | none => cases member
  | some coupon =>
      rcases List.mem_append.mp member with discount | rest
      · split at discount
        · cases List.mem_singleton.mp discount
        · cases discount
      · split at rest
        · rcases settleDeeds_pays rest with ⟨same, -⟩ | gift
          · exact .inl same
          · exact .inr gift
        · cases rest

theorem openDeeds_pays {months : ℕ} {order : Option ℕ}
    {usage : Option UsageCounts} {paid : PlatformInvoice} {paidKey : ℕ}
    {provider provider' reference' : String} {coupon : Option (ℕ × Coupon)}
    (member : .pays paidKey paid provider' reference' ∈
      platform.openDeeds tenant key months provider order usage coupon) :
    platform.invoices.next ≤ paidKey := by
  unfold Platform.openDeeds at member
  split at member
  · rcases finishDeeds_pays member with same | gift
    · exact le_of_eq same.symm
    · rw [gift]
      exact Nat.le_succ _
  · cases member

/-- After a payment, the deeds of an operation pay for other tenants only. -/
theorem deeds_ordered (op : BillingOp) :
    (op.deeds platform).Pairwise Deed.Before := by
  cases op with
  | issue tenant plan months paid gift provider reference =>
      unfold BillingOp.deeds Platform.issueDeeds
      simp only
      split
      · split <;> simp
      · exact .nil
  | endCheckout checkout provider order usage =>
      unfold BillingOp.deeds Platform.openDeeds
      simp only
      split
      · exact .nil
      · split
        · exact finishDeeds_ordered _ _
        · exact .nil
  | settle key provider reference =>
      unfold BillingOp.deeds
      simp only
      split
      · exact .nil
      · split
        · exact .nil
        · exact settleDeeds_ordered _ _ _
  | notify provider order paidCents =>
      unfold BillingOp.deeds
      simp only
      split
      · exact .nil
      · split
        · exact settleDeeds_ordered _ _ _
        · exact .nil
  | openGateway tenant plan months provider order => exact .nil
  | beginCheckout tenant plan months usage code => exact .nil
  | void key => exact .nil
  | refund key cutService => exact .nil
  | daily => exact .nil
  | pass days instants => exact .nil

def Platform.ticked (platform : Platform) : Platform :=
  { platform with now := platform.now + 1 }

theorem run_eq_ok {op : BillingOp} :
    op.run platform = .ok ⟨⟩ final ↔
      ∃ done, op.body platform = .ok ⟨⟩ done ∧ final = done.ticked := by
  simp only [BillingOp.run, Txn.atomic_eq_ok, Txn.bind_eq_ok, Txn.modify_eq_ok]
  constructor
  · rintro ⟨⟨⟩, done, body, rfl⟩
    exact ⟨done, body, rfl⟩
  · rintro ⟨done, body, rfl⟩
    exact ⟨⟨⟩, done, body, rfl⟩

theorem billing_rollsBack (op : BillingOp) : Txn.RollsBack op.run :=
  Txn.rollsBack_atomic _

theorem endCheckout_eq_ok {checkout value : ℕ} {provider : String}
    {order : Option ℕ} {usage : Option UsageCounts}
    (returned : endCheckout checkout provider order usage platform =
      .ok value final) :
    ∃ request coupon, platform.checkouts.get? checkout = some request ∧
      coupon = (request.coupon.bind fun key =>
        (platform.coupons.get? key).map (key, ·)) ∧
      (∀ given ∈ coupon, platform.coupons.get? given.1 = some given.2) ∧
      openPlanChangeInvoice request.tenant request.plan request.months provider
        order usage coupon { platform with
          checkouts := platform.checkouts.erase checkout } =
        .ok value final := by
  simp only [endCheckout, Txn.get_bind, Txn.bind_eq_ok, Txn.expect_eq_ok,
    Txn.set_eq_ok] at returned
  obtain ⟨request, _, ⟨stored, rfl⟩, _, _, rfl, returned⟩ := returned
  cases given : request.coupon with
  | none =>
      simp only [given] at returned
      exact ⟨request, none, stored, by simp [given], by simp, returned⟩
  | some key =>
      simp only [given, Txn.bind_eq_ok, Txn.expect_eq_ok] at returned
      obtain ⟨coupon, _, ⟨listed, rfl⟩, returned⟩ := returned
      refine ⟨request, some (key, coupon), stored, ?_, ?_, returned⟩
      · simp [given, listed]
      · rintro _ ⟨⟩
        exact listed

theorem endCheckout_deeds {checkout : ℕ} {provider : String}
    {order : Option ℕ} {usage : Option UsageCounts} {request : Checkout}
    (stored : platform.checkouts.get? checkout = some request) :
    (BillingOp.endCheckout checkout provider order usage).deeds platform =
      platform.openDeeds request.tenant request.plan request.months provider
        order usage (request.coupon.bind fun key =>
          (platform.coupons.get? key).map (key, ·)) := by
  simp only [BillingOp.deeds, stored]

def Platform.ordered (platform : Platform) (orders : List GatewayOrder) :
    Platform :=
  { platform with orders := platform.orders ++ orders }

theorem ordered_nil (platform : Platform) : platform.ordered [] = platform := by
  rw [Platform.ordered, List.append_nil]

theorem body_course {op : BillingOp} (stays : op.turns = false)
    (returned : op.body platform = .ok ⟨⟩ final) :
    ∃ middle, Course platform (op.deeds platform) middle ∧
      final = middle.ordered (op.opens platform) := by
  cases op with
  | issue tenant plan months paid gift provider reference =>
      simp only [BillingOp.body, Txn.bind_eq_ok, Txn.pure_eq_ok] at returned
      obtain ⟨_, _, issued, -, rfl⟩ := returned
      exact ⟨_, issue_course (by simp) issued, (ordered_nil _).symm⟩
  | openGateway tenant plan months provider order =>
      simp only [BillingOp.body, openGatewayInvoice, Txn.bind_eq_ok,
        Txn.modify_eq_ok] at returned
      obtain ⟨_, _, ⟨_, _, rfl, issued⟩, recorded⟩ := returned
      have opened := (issue_eq_ok (by simp) issued).choose_spec.choose_spec.2.2.1
      have course := issue_course (by simp) issued
      have nothing : (platform.superseded tenant provider).issueDeeds tenant
          plan { months, paid := false, provider, reference := toString order } =
          [] := by
        unfold Platform.issueDeeds
        split <;> rfl
      rw [nothing] at course
      obtain rfl := Txn.modify_eq_ok.mp recorded
      refine ⟨_, (Course.of_move (superseded_move tenant provider)).append
        course, ?_⟩
      rw [opened]
      rfl
  | beginCheckout tenant plan months usage code =>
      simp only [BillingOp.body, beginCheckout, Txn.get_bind, Txn.bind_eq_ok,
        Txn.expect_eq_ok, Txn.require_eq_ok, Txn.pure_eq_ok] at returned
      obtain ⟨_, _, ⟨row, _, ⟨-, rfl⟩, sold, _, ⟨-, rfl⟩, _, _, ⟨-, rfl⟩,
        resolved⟩, -, rfl⟩ := returned
      cases found : platform.checkoutCoupon tenant row.client plan sold code
          (some (platform.quotePlanChange row plan sold months usage).months) with
      | error refusal =>
          rw [found] at resolved
          exact (Txn.throw_eq_ok resolved).elim
      | ok coupon =>
          simp only [found, Txn.bind_eq_ok, Txn.set_eq_ok, Txn.pure_eq_ok]
            at resolved
          obtain ⟨_, _, rfl, -, rfl⟩ := resolved
          exact ⟨_, .of_move (.requested _), (ordered_nil _).symm⟩
  | endCheckout checkout provider order usage =>
      simp only [BillingOp.body, Txn.bind_eq_ok] at returned
      obtain ⟨_, _, ended, recorded⟩ := returned
      obtain ⟨request, coupon, stored, given, listed, opened⟩ :=
        endCheckout_eq_ok ended
      have course := open_course opened listed
      have deeds : (BillingOp.endCheckout checkout provider order usage).deeds
          platform = platform.openDeeds request.tenant request.plan
            request.months provider order usage coupon := by
        rw [endCheckout_deeds stored, given]
      obtain ⟨-, -, -, -, -, -, key, -, -⟩ := openPlanChange_eq_ok opened
      have whole := (Course.of_move (.requested
        (platform.checkouts.erase checkout))).append course
      rw [deeds]
      refine ⟨_, whole, ?_⟩
      cases order with
      | none =>
          obtain ⟨-, rfl⟩ := Txn.pure_eq_ok.mp recorded
          exact (ordered_nil _).symm
      | some number =>
          obtain rfl := Txn.modify_eq_ok.mp recorded
          rw [key]
          rfl
  | settle key provider reference =>
      cases stored : platform.invoices.get? key with
      | none =>
          simp [BillingOp.body, settleIssuedInvoice, Txn.get_bind,
            Txn.bind_eq_ok, stored] at returned
      | some invoice =>
          simp only [BillingOp.deeds, stored]
          split
          · rename_i paid
            rw [BillingOp.body, settle_paid stored paid] at returned
            cases returned
            exact ⟨_, .done platform, (ordered_nil _).symm⟩
          · rename_i unpaid
            exact ⟨_, settle_course stored unpaid returned,
              (ordered_nil _).symm⟩
  | notify provider order paidCents =>
      simp only [BillingOp.body, Txn.bind_eq_ok, Txn.pure_eq_ok] at returned
      obtain ⟨_, _, answered, -, rfl⟩ := returned
      rw [settleGatewayInvoice, Txn.get_bind] at answered
      refine ⟨_, ?_, (ordered_nil _).symm⟩
      simp only [BillingOp.deeds]
      cases found : platform.invoiceFor provider (toString order) with
      | none =>
          simp only [found, Txn.pure_eq_ok] at answered
          obtain ⟨-, rfl⟩ := answered
          exact .done platform
      | some row =>
          obtain ⟨key, invoice⟩ := row
          obtain ⟨stored, -, -⟩ := invoiceFor_eq_some found
          simp only [found] at answered
          simp only
          split at answered
          · rename_i paid
            obtain ⟨-, rfl⟩ := Txn.pure_eq_ok.mp answered
            rw [if_neg (by simp [paid])]
            exact .done platform
          · rename_i unpaid
            split at answered
            · rename_i closed
              obtain ⟨-, rfl⟩ := Txn.pure_eq_ok.mp answered
              rw [if_neg (fun both => closed both.1)]
              exact .done platform
            · rename_i owed
              split at answered
              · rename_i less
                obtain ⟨-, rfl⟩ := Txn.pure_eq_ok.mp answered
                rw [if_neg (fun both => absurd both.2 (not_le.mpr less))]
                exact .done platform
              · rename_i enough
                simp only [Txn.bind_eq_ok, Txn.pure_eq_ok] at answered
                obtain ⟨_, _, settled, -, rfl⟩ := answered
                rw [if_pos ⟨not_not.mp owed, not_lt.mp enough⟩]
                exact settle_course stored unpaid settled
  | void key =>
      obtain rfl := Txn.modify_eq_ok.mp returned
      exact ⟨_, .of_move (void_move key), (ordered_nil _).symm⟩
  | refund key cutService => cases stays
  | daily => cases stays
  | pass days instants => cases stays

end Transactions

end Clients

end Mousstec
