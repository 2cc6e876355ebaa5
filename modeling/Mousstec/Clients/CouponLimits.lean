import Mousstec.Clients.GatewayOrders

/-!
# Limits of coupons

A coupon is checked when a checkout begins, while its limits are about invoices
that are paid.  As long as the checks still hold whenever an invoice with a
coupon is discounted or paid, no limit is exceeded.
-/

namespace Mousstec

namespace Clients

open Library

def Coupon.firstOnly (coupon : Coupon) : Bool :=
  coupon.newCustomersOnly || coupon.referrer.isSome

/-- An invoice counts for `_has_paid_before`. -/
def PlatformInvoice.counts (invoice : PlatformInvoice) : Bool :=
  invoice.status == .paid && decide (0 < invoice.total) &&
    invoice.paymentProvider != "gift" && invoice.paymentProvider != "coupon"

/-- The limits of all coupons hold for what is paid. -/
structure LimitsHeld (platform : Platform) : Prop where
  redemptions : ∀ key coupon, platform.coupons.get? key = some coupon →
    0 < coupon.maxRedemptions → platform.paidUses key ≤ coupon.maxRedemptions
  once : ∀ key other left right coupon,
    platform.invoices.get? key = some left →
      platform.invoices.get? other = some right → left.status = .paid →
      right.status = .paid → left.coupon = some coupon →
      right.coupon = some coupon → left.tenant = right.tenant → key = other
  newcomers : ∀ key invoice coupon row, platform.invoices.get? key = some invoice →
    invoice.coupon = some coupon → platform.coupons.get? coupon = some row →
      row.firstOnly = true → ∀ other found,
        platform.invoices.get? other = some found → found.counts = true →
          found.tenant = invoice.tenant → ∃ instant,
            found.paidAt = some instant ∧ invoice.issuedAt ≤ instant ∧
              (invoice.status = .paid →
                ∃ paid, invoice.paidAt = some paid ∧ paid ≤ instant)
  rewarded : (platform.rewards.map ReferralReward.referred).Nodup

/-- The coupon of the invoice is still within its limits. -/
def Deed.WithinLimits (platform : Platform) : Deed → Prop
  | discounts _ invoice coupon =>
      coupon.2.firstOnly = true →
        platform.hasPaidBefore invoice.tenant = false
  | pays _ invoice _ _ =>
      ∀ key, invoice.coupon = some key →
        platform.usedBy key invoice.tenant = false ∧
          ∀ coupon, platform.coupons.get? key = some coupon →
            (0 < coupon.maxRedemptions →
              platform.paidUses key < coupon.maxRedemptions) ∧
            (coupon.firstOnly = true →
              platform.hasPaidBefore invoice.tenant = false)

instance (platform : Platform) : DecidablePred (Deed.WithinLimits platform)
  | .discounts _ _ _ => inferInstanceAs (Decidable (_ → _))
  | .pays _ invoice _ _ =>
      inferInstanceAs (Decidable (∀ key ∈ invoice.coupon, _ ∧
        ∀ coupon ∈ platform.coupons.get? key, (_ → _) ∧ (_ → _)))

/-- What an operation discounts or pays is within the limits of its coupon. -/
def BillingOp.WithinLimits (op : BillingOp) (platform : Platform) : Prop :=
  ∀ deed ∈ op.deeds platform, deed.WithinLimits platform

instance (op : BillingOp) (platform : Platform) :
    Decidable (op.WithinLimits platform) :=
  inferInstanceAs (Decidable (∀ deed ∈ op.deeds platform, _))

theorem hasPaidBefore_eq (platform : Platform) (tenant : ℕ) :
    platform.hasPaidBefore tenant = platform.invoices.rows.any fun row =>
      row.2.tenant == tenant && row.2.counts := by
  simp only [Platform.hasPaidBefore, PlatformInvoice.counts, Bool.and_assoc]

theorem hasPaidBefore_eq_false {platform : Platform} {tenant : ℕ} :
    platform.hasPaidBefore tenant = false ↔ ∀ key invoice,
      platform.invoices.get? key = some invoice → invoice.tenant = tenant →
        invoice.counts = false := by
  rw [hasPaidBefore_eq, List.any_eq_false]
  constructor
  · intro none key invoice stored owned
    have blank := none (key, invoice) (Table.get?_eq_some.mp stored)
    simpa [owned] using blank
  · intro none row member counted
    rw [Bool.and_eq_true, beq_iff_eq] at counted
    have blank := none row.1 row.2 (Table.get?_eq_some.mpr member) counted.1
    rw [blank] at counted
    cases counted.2

theorem usedBy_eq_false {platform : Platform} {coupon tenant : ℕ} :
    platform.usedBy coupon tenant = false ↔ ∀ key invoice,
      platform.invoices.get? key = some invoice →
        invoice.coupon = some coupon → invoice.tenant = tenant →
        invoice.status ≠ .paid := by
  rw [Platform.usedBy, List.any_eq_false]
  constructor
  · intro none key invoice stored given owned paid
    exact none (key, invoice) (Table.get?_eq_some.mp stored)
      (by simp [given, owned, paid])
  · intro none row member used
    simp only [Bool.and_eq_true, beq_iff_eq] at used
    exact none row.1 row.2 (Table.get?_eq_some.mpr member) used.1.1 used.1.2
      used.2

section SamePaid

variable {before after : Platform}

theorem SamePaid.hasPaidBefore (same : SamePaid before after) (tenant : ℕ) :
    after.hasPaidBefore tenant = before.hasPaidBefore tenant := by
  rw [Bool.eq_iff_iff, ← Bool.not_eq_false, ← Bool.not_eq_false, not_iff_not,
    hasPaidBefore_eq_false, hasPaidBefore_eq_false]
  have paid : ∀ invoice : PlatformInvoice, invoice.counts = true →
      invoice.status = .paid := by
    intro invoice counts
    simp only [PlatformInvoice.counts, Bool.and_eq_true, beq_iff_eq] at counts
    exact counts.1.1.1
  constructor
  · intro none key invoice stored owned
    by_contra counts
    have counted := Bool.eq_true_of_not_eq_false counts
    have later := (same key invoice (paid invoice counted)).mp stored
    exact counts (none key invoice later owned)
  · intro none key invoice stored owned
    by_contra counts
    have counted := Bool.eq_true_of_not_eq_false counts
    have earlier := (same key invoice (paid invoice counted)).mpr stored
    exact counts (none key invoice earlier owned)

theorem SamePaid.usedBy (same : SamePaid before after) (coupon tenant : ℕ) :
    after.usedBy coupon tenant = before.usedBy coupon tenant := by
  rw [Bool.eq_iff_iff, ← Bool.not_eq_false, ← Bool.not_eq_false, not_iff_not,
    usedBy_eq_false, usedBy_eq_false]
  constructor
  · intro none key invoice stored given owned paid
    exact none key invoice ((same key invoice paid).mp stored) given owned paid
  · intro none key invoice stored given owned paid
    exact none key invoice ((same key invoice paid).mpr stored) given owned paid

theorem paidUses_eq_total (platform : Platform) (coupon : ℕ) :
    (platform.paidUses coupon : ℤ) = platform.invoices.total fun _ invoice =>
      if invoice.coupon == some coupon && invoice.status == .paid then (1 : ℤ)
      else 0 :=
  platform.invoices.countP_eq_total fun _ invoice =>
    invoice.coupon == some coupon && invoice.status == .paid

theorem SamePaid.paidUses (same : SamePaid before after) (coupon : ℕ) :
    after.paidUses coupon = before.paidUses coupon := by
  have sums : (after.paidUses coupon : ℤ) = before.paidUses coupon := by
    rw [paidUses_eq_total, paidUses_eq_total]
    apply Table.total_eq_of_filter
    intro key
    apply Option.ext
    intro invoice
    simp only [Option.filter_eq_some_iff, Bool.and_eq_true, beq_iff_eq]
    constructor
    · rintro ⟨stored, given, paid⟩
      exact ⟨(same key invoice paid).mpr stored, given, paid⟩
    · rintro ⟨stored, given, paid⟩
      exact ⟨(same key invoice paid).mp stored, given, paid⟩
  exact_mod_cast sums

/-- The limits of a deed only depend on the paid invoices. -/
theorem SamePaid.within (same : SamePaid before after)
    (coupons : after.coupons = before.coupons) {deed : Deed}
    (within : deed.WithinLimits before) : deed.WithinLimits after := by
  cases deed with
  | discounts key invoice coupon =>
      intro first
      rw [same.hasPaidBefore]
      exact within first
  | pays key invoice provider reference =>
      intro coupon given
      obtain ⟨unused, limits⟩ := within coupon given
      refine ⟨(same.usedBy _ _).trans unused, fun row listed => ?_⟩
      rw [same.paidUses, same.hasPaidBefore]
      exact limits row (coupons ▸ listed)

/-- An invoice without a coupon only takes the one that is given. -/
theorem withCoupon_coupon {invoice : PlatformInvoice} {given : ℕ × Coupon}
    {key : ℕ} (plain : invoice.coupon = none)
    (gave : (invoice.withCoupon (some given)).coupon = some key) :
    key = given.1 := by
  obtain ⟨coupon, row⟩ := given
  simp only [PlatformInvoice.withCoupon] at gave
  split at gave
  · rw [plain] at gave
    cases gave
  · exact (Option.some.inj gave).symm

end SamePaid

/-- The limits hold, and no invoice is of later than now. -/
structure SoundLimits (platform : Platform) : Prop extends
    LimitsHeld platform where
  dated : ∀ key invoice, platform.invoices.get? key = some invoice →
    invoice.issuedAt ≤ platform.now ∧
      (invoice.status = .paid →
        ∃ paid, invoice.paidAt = some paid ∧ paid ≤ platform.now)

/-- An invoice of after a change was there before, or is unpaid and gives no
coupon to a tenant that has paid. -/
def Carried (before after : Platform) : Prop :=
  ∀ key later, after.invoices.get? key = some later →
    before.invoices.get? key = some later ∨
      later.status ≠ .paid ∧ later.issuedAt ≤ before.now ∧
        ((∃ earlier, before.invoices.get? key = some earlier ∧
            later.coupon = earlier.coupon ∧ later.tenant = earlier.tenant ∧
            later.issuedAt = earlier.issuedAt) ∨
          ∀ coupon row, later.coupon = some coupon →
            before.coupons.get? coupon = some row → row.firstOnly = true →
            before.hasPaidBefore later.tenant = false)

theorem Carried.paid {before after : Platform} (carried : Carried before after)
    {key : ℕ} {invoice : PlatformInvoice}
    (stored : after.invoices.get? key = some invoice)
    (paid : invoice.status = .paid) :
    before.invoices.get? key = some invoice := by
  rcases carried key invoice stored with same | ⟨unpaid, -⟩
  · exact same
  · exact absurd paid unpaid

theorem paid_of_counts {invoice : PlatformInvoice}
    (counts : invoice.counts = true) : invoice.status = .paid := by
  simp only [PlatformInvoice.counts, Bool.and_eq_true, beq_iff_eq] at counts
  exact counts.1.1.1

theorem SoundLimits.of_carried {before after : Platform}
    (sound : SoundLimits before) (carried : Carried before after)
    (uses : ∀ coupon, after.paidUses coupon ≤ before.paidUses coupon)
    (coupons : after.coupons = before.coupons) (later : before.now ≤ after.now)
    (rewarded : (after.rewards.map ReferralReward.referred).Nodup) :
    SoundLimits after where
  redemptions key coupon listed limited :=
    (uses key).trans (sound.redemptions key coupon (coupons ▸ listed) limited)
  once key other left right coupon stored stored' paid paid' :=
    sound.once key other left right coupon (carried.paid stored paid)
      (carried.paid stored' paid') paid paid'
  newcomers key invoice coupon row stored given listed first other found stored'
      counts owned := by
    have there := carried.paid stored' (paid_of_counts counts)
    rw [coupons] at listed
    rcases carried key invoice stored with same |
      ⟨unpaid, -, ⟨earlier, held, gave, owner, issued⟩ | fresh⟩
    · exact sound.newcomers key invoice coupon row same given listed first other
        found there counts owned
    · obtain ⟨instant, at', before', -⟩ := sound.newcomers key earlier coupon row
        held (gave ▸ given) listed first other found there counts
        (owned.trans owner)
      refine ⟨instant, at', ?_, fun paid => absurd paid unpaid⟩
      rw [issued]
      exact before'
    · have none := hasPaidBefore_eq_false.mp (fresh coupon row given listed first)
      rw [none other found there owned] at counts
      cases counts
  rewarded := rewarded
  dated key invoice stored := by
    rcases carried key invoice stored with same | ⟨unpaid, issued, -⟩
    · obtain ⟨issued, paid⟩ := sound.dated key invoice same
      refine ⟨issued.trans later, fun settled => ?_⟩
      obtain ⟨instant, at', before'⟩ := paid settled
      exact ⟨instant, at', before'.trans later⟩
    · exact ⟨issued.trans later, fun paid => absurd paid unpaid⟩

theorem SoundLimits.move {before after : Platform} (move : Move before after)
    (sound : SoundLimits before) : SoundLimits after := by
  obtain ⟨-, now, -, coupons⟩ := move.frame
  refine sound.of_carried ?_ ?_ coupons (le_of_eq now.symm) ?_
  · intro key later stored
    rcases move.found stored with same | ⟨earlier, held, -, rfl⟩ |
      ⟨-, -, issued, plain, stamped, -⟩
    · exact .inl same
    · exact .inr ⟨by simp, (sound.dated key earlier held).1,
        .inl ⟨earlier, held, rfl, rfl, rfl⟩⟩
    · refine .inr ⟨by simp [issued], le_of_eq stamped, .inr ?_⟩
      intro coupon row given
      rw [plain] at given
      cases given
  · exact fun coupon => le_of_eq (move.samePaid.paidUses coupon)
  · cases move with
    | @rewarded reward first =>
        rw [List.map_append, List.nodup_append]
        refine ⟨sound.rewarded, List.nodup_singleton _, ?_⟩
        rintro other member _ same rfl
        obtain ⟨old, listed, rfl⟩ := List.mem_map.mp member
        exact first old listed (List.mem_singleton.mp same)
    | opened => exact sound.rewarded
    | voided => exact sound.rewarded
    | requested => exact sound.rewarded
    | extended => exact sound.rewarded

theorem SoundLimits.discount {platform : Platform} {key : ℕ}
    {invoice : PlatformInvoice} {given : ℕ × Coupon}
    (sound : SoundLimits platform)
    (stored : platform.invoices.get? key = some invoice)
    (issued : invoice.status = .issued) (plain : invoice.coupon = none)
    (listed : platform.coupons.get? given.1 = some given.2)
    (within : (Deed.discounts key invoice given).WithinLimits platform) :
    SoundLimits { platform with
      invoices := platform.invoices.modify key fun _ =>
        invoice.withCoupon (some given) } := by
  refine sound.of_carried ?_ ?_ rfl le_rfl sound.rewarded
  · intro other later held
    rcases discounted_found stored held with ⟨-, there⟩ |
      ⟨rfl, total, coupon, discounted⟩
    · exact .inl there
    · refine .inr ⟨?_, ?_, .inr ?_⟩
      · simp [discounted, issued]
      · rw [discounted]
        exact (sound.dated other invoice stored).1
      · intro named row gave offered first
        have given' : later = invoice.withCoupon (some given) := by
          rw [Table.get?_modify_self, stored] at held
          exact (Option.some.inj held).symm
        have tenant : later.tenant = invoice.tenant := by rw [discounted]
        rw [given'] at gave
        have same := withCoupon_coupon plain gave
        subst same
        rw [listed] at offered
        obtain rfl := Option.some.inj offered
        rw [tenant]
        exact within first
  · exact fun coupon =>
      le_of_eq ((discount_samePaid stored issued).paidUses coupon)

theorem paidUses_finalized {platform : Platform} {key coupon : ℕ}
    {stored invoice : PlatformInvoice} {row : Tenant} {target : Plan}
    {provider reference : String}
    (located : platform.invoices.get? key = some stored)
    (unpaid : stored.status ≠ .paid) :
    (platform.finalized key invoice row target provider
      reference).paidUses coupon =
      platform.paidUses coupon +
        if invoice.coupon = some coupon then 1 else 0 := by
  have sums : ((platform.finalized key invoice row target provider
      reference).paidUses coupon : ℤ) =
      platform.paidUses coupon +
        if invoice.coupon = some coupon then 1 else 0 := by
    rw [paidUses_eq_total, paidUses_eq_total]
    unfold Platform.finalized
    rw [Table.total_modify located]
    simp [unpaid]
  split at sums
  · rename_i given
    rw [if_pos given]
    exact_mod_cast sums
  · rename_i plain
    rw [if_neg plain]
    exact_mod_cast sums

theorem SoundLimits.payment {platform : Platform} {key : ℕ}
    {stored invoice : PlatformInvoice} {row : Tenant} {target : Plan}
    {provider reference : String} (sound : SoundLimits platform)
    (located : platform.invoices.get? key = some stored)
    (unpaid : stored.status ≠ .paid)
    (issued : invoice.issuedAt = stored.issuedAt)
    (within : (Deed.pays key invoice provider reference).WithinLimits
      platform) :
    SoundLimits (platform.finalized key invoice row target provider
      reference) where
  redemptions coupon held listed limited := by
    rw [paidUses_finalized located unpaid]
    split
    · rename_i given
      obtain ⟨-, limits⟩ := within coupon given
      exact (limits held listed).1 limited
    · exact sound.redemptions coupon held listed limited
  once first second left right coupon there there' paid paid' given given'
      same := by
    have fresh : ∀ other found, platform.invoices.get? other = some found →
        found.status = .paid → found.coupon = some coupon →
        found.tenant = invoice.tenant → invoice.coupon ≠ some coupon := by
      intro other found held settled gave owned mine
      exact usedBy_eq_false.mp (within coupon mine).1 other found held gave
        owned settled
    rcases finalized_found located there with ⟨-, old⟩ | ⟨rfl, rfl⟩
    · rcases finalized_found located there' with ⟨-, old'⟩ | ⟨rfl, rfl⟩
      · exact sound.once first second left right coupon old old' paid paid'
          given given' same
      · rw [paidInvoice_coupon] at given'
        rw [paidInvoice_tenant] at same
        exact absurd given' (fresh first left old paid given same)
    · rw [paidInvoice_coupon] at given
      rw [paidInvoice_tenant] at same
      rcases finalized_found located there' with ⟨-, old'⟩ | ⟨rfl, rfl⟩
      · exact absurd given (fresh second right old' paid' given' same.symm)
      · rfl
  newcomers other later coupon held there given listed first payer found there'
      counts owned := by
    rcases finalized_found located there' with ⟨-, old'⟩ | ⟨rfl, rfl⟩
    · rcases finalized_found located there with ⟨-, old⟩ | ⟨rfl, rfl⟩
      · exact sound.newcomers other later coupon held old given listed first
          payer found old' counts owned
      · rw [paidInvoice_coupon] at given
        rw [paidInvoice_tenant] at owned
        have clear := ((within coupon given).2 held listed).2 first
        rw [hasPaidBefore_eq_false.mp clear payer found old' owned] at counts
        cases counts
    · refine ⟨platform.now, paidInvoice_paidAt, ?_⟩
      rcases finalized_found located there with ⟨-, old⟩ | ⟨rfl, rfl⟩
      · exact sound.dated other later old
      · rw [paidInvoice_issuedAt, paidInvoice_paidAt, issued]
        exact ⟨(sound.dated other stored located).1,
          fun _ => ⟨platform.now, rfl, le_rfl⟩⟩
  rewarded := sound.rewarded
  dated other later there := by
    rcases finalized_found located there with ⟨-, old⟩ | ⟨rfl, rfl⟩
    · exact sound.dated other later old
    · rw [paidInvoice_issuedAt, paidInvoice_paidAt, issued]
      exact ⟨(sound.dated other stored located).1,
        fun _ => ⟨platform.now, rfl, le_rfl⟩⟩

theorem SoundLimits.deed {before after : Platform} {deed : Deed}
    (done : deed.Done before after) (sound : SoundLimits before)
    (within : deed.WithinLimits before) : SoundLimits after := by
  cases done with
  | discounts stored issued plain stamped listed =>
      exact sound.discount stored issued plain listed within
  | pays located owed owner sold free =>
      exact sound.payment located (unpaid_of_owed owed) reperiod_issuedAt within

theorem within_later {before after : Platform} {deed next : Deed}
    (done : deed.Done before after) (ordered : deed.Before next)
    (within : next.WithinLimits before) : next.WithinLimits after := by
  cases done with
  | discounts stored issued plain stamped listed =>
      exact (discount_samePaid stored issued).within rfl within
  | pays located owed owner sold free =>
      cases next with
      | discounts => cases ordered
      | pays key invoice provider reference =>
          intro coupon given
          rw [ordered.2] at given
          cases given

theorem SoundLimits.course {before after : Platform} {deeds : List Deed}
    (course : Course before deeds after) (ordered : deeds.Pairwise Deed.Before)
    (sound : SoundLimits before)
    (within : ∀ deed ∈ deeds, deed.WithinLimits before) :
    SoundLimits after := by
  apply course.invariant SoundLimits fun platform deed =>
    deed.WithinLimits platform
  · exact fun _ _ move sound => sound.move move
  · intro now later deed move _ within
    exact move.samePaid.within move.frame.2.2.2 within
  · exact fun _ _ _ done sound within => sound.deed done within
  · exact fun _ _ _ _ done _ _ ordered within =>
      within_later done ordered within
  · exact ordered
  · exact sound
  · exact within

theorem SoundLimits.turn {op : BillingOp} {before after : Platform}
    (turns : op.turns = true) (sound : SoundLimits before)
    (returned : op.body before = .ok ⟨⟩ after) : SoundLimits after := by
  rcases op.turns_cases turns with
    rfl | ⟨days, instants, rfl⟩ | ⟨key, cutService, rfl⟩
  · obtain ⟨halted, rfl, rfl⟩ := daily_eq_ok returned
    exact sound.of_carried (fun key later stored => .inl stored)
      (fun coupon => le_rfl) rfl le_rfl sound.rewarded
  · obtain rfl := Txn.modify_eq_ok.mp returned
    exact sound.of_carried (fun key later stored => .inl stored)
      (fun coupon => le_rfl) rfl (Nat.le_add_right _ _) sound.rewarded
  · obtain ⟨invoice, stored, ⟨-, rfl⟩ | ⟨paid, tenants, rfl, -⟩, -⟩ :=
      refund_eq_ok returned
    · exact sound
    · refine sound.of_carried ?_ ?_ rfl le_rfl sound.rewarded
      · intro other later held
        rcases Table.get?_modify_cases held with ⟨rfl, earlier, there, rfl⟩ | held
        · exact .inr ⟨by simp, (sound.dated other earlier there).1,
            .inl ⟨earlier, there, rfl, rfl, rfl⟩⟩
        · exact .inl held
      · intro coupon
        have sums : (Platform.paidUses { before with
            invoices := before.invoices.modify key fun invoice =>
              { invoice with status := .refunded }
            tenants } coupon : ℤ) ≤ before.paidUses coupon := by
          rw [paidUses_eq_total, paidUses_eq_total,
            Table.total_modify stored]
          simp only [Bool.and_eq_true, beq_iff_eq, reduceCtorEq, and_false,
            if_false]
          split <;> omega
        exact_mod_cast sums

theorem SoundLimits.step {op : BillingOp} {before after : Platform}
    (sound : SoundLimits before) (met : op.WithinLimits before)
    (returned : op.run before = .ok ⟨⟩ after) : SoundLimits after := by
  obtain ⟨done, body, rfl⟩ := run_eq_ok.mp returned
  have kept : SoundLimits done := by
    cases turns : op.turns with
    | true => exact sound.turn turns body
    | false =>
        obtain ⟨middle, course, rfl⟩ := body_course turns body
        have kept := sound.course course (deeds_ordered op) met
        exact kept.of_carried (fun key later stored => .inl stored)
          (fun coupon => le_rfl) rfl le_rfl kept.rewarded
  exact kept.of_carried (fun key later stored => .inl stored)
    (fun coupon => le_rfl) rfl (Nat.le_succ _) kept.rewarded

/-- The limits of all coupons hold in every run in which the coupon of each
invoice that is discounted or paid is still within them. -/
theorem limits_held (now today : ℕ) (plans : Table Plan)
    (promotions : List PlanPromotion) (tenants : Table Tenant)
    (coupons : Table Coupon) (ops : List BillingOp)
    (within : Txn.Throughout BillingOp.run BillingOp.WithinLimits ops
      (openedPlatform now today plans promotions tenants coupons)) :
    LimitsHeld (Txn.after BillingOp.run ops
      (openedPlatform now today plans promotions tenants coupons)) := by
  apply SoundLimits.toLimitsHeld
  refine Txn.after_of_throughout SoundLimits billing_rollsBack ?_ ops _ ?_ within
  · exact fun op before after sound met returned => sound.step met returned
  · exact
      { redemptions := fun key coupon _ _ => Nat.zero_le _
        once := fun _ _ _ _ _ stored => by cases stored
        newcomers := fun _ _ _ _ stored => by cases stored
        rewarded := .nil
        dated := fun _ _ stored => by cases stored }

def trialTenants : Table Tenant :=
  (Table.empty.insert trialTenant).insert trialTenant

def twoCoupons : Table Coupon :=
  (Table.empty.insert
    { code := "REF"
      percentOff := 20
      newCustomersOnly := true
      referrer := some 0 }).insert
    { code := "ONCE"
      percentOff := 50
      maxRedemptions := 1 }

def referral : List BillingOp :=
  [.beginCheckout 1 0 1 none "REF", .endCheckout 0 "paymob" (some 7) none,
    .notify "paymob" 7 44000]

theorem limits_held_referral :
    LimitsHeld (Txn.after BillingOp.run referral
      (openedPlatform 0 100 twoPlans [] trialTenants twoCoupons)) :=
  limits_held 0 100 twoPlans [] trialTenants twoCoupons referral
    ⟨fun _ => (by decide +kernel), fun _ => (by decide +kernel),
      fun _ => (by decide +kernel), trivial⟩

def sharedCoupon : List BillingOp :=
  [.beginCheckout 0 0 1 none "ONCE", .endCheckout 0 "vodafone" none none,
    .beginCheckout 1 0 1 none "ONCE", .endCheckout 1 "vodafone" none none,
    .settle 0 "vodafone" "A", .settle 1 "vodafone" "B"]

/-- A code for one redemption is redeemed twice. -/
theorem limits_exceeded : ¬ ∀ ops, LimitsHeld (Txn.after BillingOp.run ops
    (openedPlatform 0 100 twoPlans [] trialTenants twoCoupons)) := by
  intro held
  have limit := (held sharedCoupon).redemptions 1
    { code := "ONCE"
      percentOff := 50
      maxRedemptions := 1 } (by decide +kernel) (by decide)
  have uses : (Txn.after BillingOp.run sharedCoupon
      (openedPlatform 0 100 twoPlans [] trialTenants twoCoupons)).paidUses 1 =
      2 := by
    decide +kernel
  rw [uses] at limit
  exact absurd limit (by decide)

end Clients

end Mousstec
