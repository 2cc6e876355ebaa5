import Mousstec.Clients.DesignCredits
import Mathlib.Algebra.Order.Ring.Int

/-!
# The balance and what can be spent

Balances count what has not expired before now; a company spends only what
expires after now, and a customer is stopped by the oldest package even when it
has expired.
-/

namespace Mousstec

namespace Clients

open Library

theorem NullsLast.trans {first second third : Option ℤ}
    (left : NullsLast first second) (right : NullsLast second third) :
    NullsLast first third := by
  cases first with
  | none => exact left.elim
  | some first =>
      cases second with
      | none => exact right.elim
      | some second =>
          cases third with
          | none => trivial
          | some third => exact Int.lt_trans left right

theorem NullsLast.irrefl (instant : Option ℤ) : ¬NullsLast instant instant := by
  cases instant with
  | none => exact id
  | some instant => exact Int.lt_irrefl instant

theorem NullsLast.total (first second : Option ℤ) :
    NullsLast first second ∨ first = second ∨ NullsLast second first := by
  cases first with
  | none =>
      cases second with
      | none => exact .inr (.inl rfl)
      | some second => exact .inr (.inr trivial)
  | some first =>
      cases second with
      | none => exact .inl trivial
      | some second =>
          rcases Int.lt_trichotomy first second with less | same | greater
          · exact .inl less
          · exact .inr (.inl (congrArg some same))
          · exact .inr (.inr greater)

namespace PackPrecedes

variable {first second third : ℕ × DesignPack}

theorem trans (left : PackPrecedes first second)
    (right : PackPrecedes second third) : PackPrecedes first third := by
  rcases left with left | ⟨leftPaid, left⟩
  · rcases right with right | ⟨rightPaid, -⟩
    · exact .inl (left.trans right)
    · exact .inl (rightPaid ▸ left)
  · rcases right with right | ⟨rightPaid, right⟩
    · exact .inl (leftPaid ▸ right)
    · exact .inr ⟨leftPaid.trans rightPaid, by omega⟩

theorem irrefl (row : ℕ × DesignPack) : ¬PackPrecedes row row := by
  rintro (earlier | ⟨-, earlier⟩)
  · exact NullsLast.irrefl _ earlier
  · omega

theorem total_of_key (different : first.1 ≠ second.1) :
    PackPrecedes first second ∨ PackPrecedes second first := by
  rcases NullsLast.total first.2.paidAt second.2.paidAt with less | same | more
  · exact .inl (.inl less)
  · have either : (first.2.createdAt < second.2.createdAt ∨
        first.2.createdAt = second.2.createdAt ∧ first.1 < second.1) ∨
        (second.2.createdAt < first.2.createdAt ∨
          second.2.createdAt = first.2.createdAt ∧ second.1 < first.1) := by
      omega
    exact either.imp (fun less => .inr ⟨same, less⟩)
      fun more => .inr ⟨same.symm, more⟩
  · exact .inr (.inl more)

end PackPrecedes

section Chosen

variable {now : Moment} {tenant : DesignTenant} {customer : DesignCustomer}
  {free : ℕ → Bool} {key : ℕ}

theorem nextGrant_eq_some {grant : BonusGrant}
    (chosen : tenant.nextGrant now free = some (key, grant)) :
    tenant.grants.get? key = some grant ∧ free key = true ∧
      grant.takeable now = true := by
  have member := firstIn_mem chosen
  rw [List.mem_filter, Bool.and_eq_true] at member
  exact ⟨Table.get?_eq_some.mpr member.1, member.2⟩

theorem exists_nextGrant {grant : BonusGrant}
    (found : tenant.grants.get? key = some grant) (unlocked : free key = true)
    (takeable : grant.takeable now = true) :
    ∃ chosen, tenant.nextGrant now free = some chosen :=
  exists_firstIn (List.mem_filter.mpr ⟨Table.get?_eq_some.mp found,
    Bool.and_eq_true_iff.mpr ⟨unlocked, takeable⟩⟩)

theorem nextTopup_eq_some {topup : DesignPack}
    (chosen : tenant.nextTopup now free = some (key, topup)) :
    tenant.topups.get? key = some topup ∧ free key = true ∧
      topup.remains = true ∧ expiresLater topup.expiresAt now = true := by
  have member := firstIn_mem chosen
  rw [List.mem_filter, Bool.and_eq_true, Bool.and_eq_true] at member
  obtain ⟨stored, ⟨unlocked, remains⟩, later⟩ := member
  exact ⟨Table.get?_eq_some.mpr stored, unlocked, remains, later⟩

theorem exists_nextTopup {topup : DesignPack}
    (found : tenant.topups.get? key = some topup) (unlocked : free key = true)
    (remains : topup.remains = true)
    (later : expiresLater topup.expiresAt now = true) :
    ∃ chosen, tenant.nextTopup now free = some chosen :=
  exists_firstIn (List.mem_filter.mpr ⟨Table.get?_eq_some.mp found, by
    rw [Bool.and_eq_true, Bool.and_eq_true]
    exact ⟨⟨unlocked, remains⟩, later⟩⟩)

theorem nextPurchase_eq_some {purchase : DesignPack}
    (chosen : customer.nextPurchase free = some (key, purchase)) :
    customer.purchases.get? key = some purchase ∧ free key = true ∧
      purchase.remains = true := by
  have member := firstIn_mem chosen
  rw [List.mem_filter, Bool.and_eq_true] at member
  exact ⟨Table.get?_eq_some.mpr member.1, member.2⟩

theorem exists_nextPurchase {purchase : DesignPack}
    (found : customer.purchases.get? key = some purchase)
    (unlocked : free key = true) (remains : purchase.remains = true) :
    ∃ chosen, customer.nextPurchase free = some chosen :=
  exists_firstIn (List.mem_filter.mpr ⟨Table.get?_eq_some.mp found,
    Bool.and_eq_true_iff.mpr ⟨unlocked, remains⟩⟩)

theorem not_precedes_nextPurchase {chosen : ℕ × DesignPack}
    (first : customer.nextPurchase free = some chosen) {purchase : DesignPack}
    (found : customer.purchases.get? key = some purchase)
    (unlocked : free key = true) (remains : purchase.remains = true) :
    ¬PackPrecedes (key, purchase) chosen := by
  have member : (key, purchase) ∈ customer.purchases.rows.filter fun row =>
      free row.1 && row.2.remains :=
    List.mem_filter.mpr ⟨Table.get?_eq_some.mp found,
      Bool.and_eq_true_iff.mpr ⟨unlocked, remains⟩⟩
  refine not_precedes_firstIn (fun _ _ _ left right => left.trans right)
    PackPrecedes.irrefl ?_ first member
  rintro ⟨left, leftPack⟩ leftMember ⟨right, rightPack⟩ rightMember different
  apply PackPrecedes.total_of_key
  rintro rfl
  have leftStored := Table.get?_eq_some.mpr (List.mem_filter.mp leftMember).1
  have rightStored := Table.get?_eq_some.mpr (List.mem_filter.mp rightMember).1
  rw [leftStored] at rightStored
  exact different (congrArg _ (Option.some.inj rightStored))

end Chosen

theorem BonusGrant.counted_nonneg (grant : BonusGrant) (now : Moment) :
    0 ≤ grant.counted now := by
  unfold BonusGrant.counted
  split <;> omega

theorem DesignPack.counted_nonneg (pack : DesignPack) (now : Moment) :
    0 ≤ pack.counted now := by
  unfold DesignPack.counted
  split <;> omega

theorem BonusGrant.counted_pos {grant : BonusGrant} {now : Moment} :
    0 < grant.counted now ↔ grant.isActive = true ∧
      grant.designs.consumed < grant.designs.granted ∧
        notExpired grant.expiresAt now = true := by
  unfold BonusGrant.counted BonusGrant.isValid
  by_cases valid : (grant.isActive && notExpired grant.expiresAt now) = true
  · rw [if_pos valid]
    rw [Bool.and_eq_true] at valid
    constructor
    · exact fun some => ⟨valid.1, by omega, valid.2⟩
    · rintro ⟨-, some, -⟩
      omega
  · rw [if_neg valid]
    rw [Bool.and_eq_true] at valid
    constructor
    · exact fun nothing => absurd nothing (Int.lt_irrefl 0)
    · exact fun some => absurd ⟨some.1, some.2.2⟩ valid

theorem DesignPack.remains_iff {pack : DesignPack} : pack.remains = true ↔
    pack.status = .paid ∧ pack.designsUsed < pack.designsTotal := by
  simp [DesignPack.remains]

theorem DesignPack.counted_pos {pack : DesignPack} {now : Moment} :
    0 < pack.counted now ↔
      pack.remains = true ∧ notExpired pack.expiresAt now = true := by
  unfold DesignPack.counted
  rw [DesignPack.remains_iff]
  by_cases valid : pack.status = .paid ∧ notExpired pack.expiresAt now = true
  · rw [if_pos valid]
    constructor
    · exact fun some => ⟨⟨valid.1, by omega⟩, valid.2⟩
    · rintro ⟨⟨-, some⟩, -⟩
      omega
  · rw [if_neg valid]
    constructor
    · exact fun nothing => absurd nothing (Int.lt_irrefl 0)
    · exact fun some => absurd ⟨some.1.1, some.2⟩ valid

/-- A gift with designs left that has not expired is counted with one less
after a use. -/
theorem BonusGrant.counted_consume {grant : BonusGrant} {now : Moment}
    (some : 0 < grant.counted now) :
    (grant.consume .designs).counted now = grant.counted now - 1 := by
  obtain ⟨active, remains, unexpired⟩ := counted_pos.mp some
  have valid : grant.isValid now = true := by
    simp [isValid, active, unexpired]
  have before : grant.counted now =
      grant.designs.granted - grant.designs.consumed := by
    rw [counted, if_pos valid]
    omega
  have after : (grant.consume .designs).counted now =
      max (grant.designs.granted - (grant.designs.consumed + 1)) 0 :=
    if_pos valid
  omega

/-- Paid designs that have not expired are counted with one less after a use,
also when it was the last. -/
theorem DesignPack.counted_consumeDesign {pack : DesignPack} {now : Moment}
    (some : 0 < pack.counted now) :
    pack.consumeDesign.counted now = pack.counted now - 1 := by
  obtain ⟨remains, valid⟩ := counted_pos.mp some
  simp only [remains_iff] at remains
  obtain ⟨paid, left⟩ := remains
  have before : pack.counted now = pack.designsTotal - pack.designsUsed := by
    rw [counted, if_pos ⟨paid, valid⟩]
    omega
  by_cases last : pack.designsTotal ≤ pack.designsUsed + 1
  · have after : pack.consumeDesign.counted now = 0 := by
      rw [counted, if_neg]
      rintro ⟨still, -⟩
      simp [consumeDesign, last] at still
    omega
  · have after : pack.consumeDesign.counted now =
        pack.designsTotal - (pack.designsUsed + 1) := by
      rw [counted, if_pos ⟨by simp [consumeDesign, last, paid], valid⟩]
      simp only [consumeDesign]
      omega
    omega

namespace DesignTenant

variable {now : Moment} {tenant after : DesignTenant}

def spend (now : Moment) (tenant : DesignTenant) : Option DesignTenant :=
  if (tenant.consumeTenantCredit now).1.source.isSome then
    some (tenant.consumeTenantCredit now).2
  else none

abbrev used (tenant : DesignTenant) (now : Moment) : ℕ :=
  getMonthlyUsage tenant.usage .aiGeneration now

theorem consumeTenantCredit_cases (now : Moment) (tenant : DesignTenant) :
    ((tenant.used now : ℤ) < tenant.planQuota ∧
      tenant.consumeTenantCredit now =
        (tenant.track now .aiGeneration .planMonthlyQuota).answered now
          (some .plan)) ∨
    tenant.planQuota ≤ tenant.used now ∧
      ((∃ key grant,
        tenant.nextGrant now (fun _ => true) = some (key, grant) ∧
          tenant.consumeTenantCredit now =
            (tenant.chargeGrant now key).answered now (some .grant)) ∨
      tenant.nextGrant now (fun _ => true) = none ∧
        ((∃ key topup,
          tenant.nextTopup now (fun _ => true) = some (key, topup) ∧
            tenant.consumeTenantCredit now =
              (tenant.chargeTopup now key).answered now (some .topup)) ∨
        tenant.nextTopup now (fun _ => true) = none ∧
          tenant.consumeTenantCredit now = tenant.answered now none)) := by
  unfold consumeTenantCredit
  by_cases allowed : (tenant.used now : ℤ) < tenant.planQuota
  · exact .inl ⟨allowed, if_pos allowed⟩
  · refine .inr ⟨by omega, ?_⟩
    rw [if_neg allowed]
    cases grants : tenant.nextGrant now fun _ => true with
    | some chosen => exact .inl ⟨chosen.1, chosen.2, rfl, rfl⟩
    | none =>
        refine .inr ⟨rfl, ?_⟩
        cases topups : tenant.nextTopup now fun _ => true with
        | some chosen => exact .inl ⟨chosen.1, chosen.2, rfl, rfl⟩
        | none => exact .inr ⟨rfl, rfl⟩

theorem spend_cases (spent : tenant.spend now = some after) :
    ((tenant.used now : ℤ) < tenant.planQuota ∧
      after = tenant.track now .aiGeneration .planMonthlyQuota) ∨
    tenant.planQuota ≤ tenant.used now ∧
      ((∃ key grant,
        tenant.nextGrant now (fun _ => true) = some (key, grant) ∧
          after = tenant.chargeGrant now key) ∨
      ∃ key topup,
        tenant.nextTopup now (fun _ => true) = some (key, topup) ∧
          after = tenant.chargeTopup now key) := by
  unfold spend at spent
  rcases consumeTenantCredit_cases now tenant with
    ⟨allowed, same⟩ | ⟨empty, ⟨key, grant, chosen, same⟩ |
      ⟨-, ⟨key, topup, chosen, same⟩ | ⟨-, same⟩⟩⟩
  · rw [same] at spent
    exact .inl ⟨allowed, (Option.some.inj spent).symm⟩
  · rw [same] at spent
    exact .inr ⟨empty, .inl ⟨key, grant, chosen, (Option.some.inj spent).symm⟩⟩
  · rw [same] at spent
    exact .inr ⟨empty, .inr ⟨key, topup, chosen, (Option.some.inj spent).symm⟩⟩
  · rw [same] at spent
    cases spent

theorem spend_eq_none : tenant.spend now = none ↔
    tenant.planQuota ≤ tenant.used now ∧
      tenant.nextGrant now (fun _ => true) = none ∧
        tenant.nextTopup now (fun _ => true) = none := by
  unfold spend
  rcases consumeTenantCredit_cases now tenant with
    ⟨allowed, same⟩ | ⟨empty, ⟨key, grant, chosen, same⟩ |
      ⟨none, ⟨key, topup, chosen, same⟩ | ⟨nothing, same⟩⟩⟩
  · rw [same]
    exact ⟨fun blank => absurd blank (Option.some_ne_none _),
      fun blank => absurd blank.1 (by omega)⟩
  · rw [same, chosen]
    exact ⟨fun blank => absurd blank (Option.some_ne_none _),
      fun blank => absurd blank.2.1 (Option.some_ne_none _)⟩
  · rw [same, chosen]
    exact ⟨fun blank => absurd blank (Option.some_ne_none _),
      fun blank => absurd blank.2.2 (Option.some_ne_none _)⟩
  · rw [same]
    exact ⟨fun _ => ⟨empty, none, nothing⟩, fun _ => rfl⟩

theorem used_track (tenant : DesignTenant) (now : Moment)
    (source : UsageSource) :
    (tenant.track now .aiGeneration source).used now = tenant.used now + 1 := by
  simp [used, track, getMonthlyUsage, Moment.SameMonth]

theorem notExpired_of_later {expiresAt : Option ℤ}
    (later : expiresLater expiresAt now = true) :
    notExpired expiresAt now = true := by
  cases expiresAt with
  | none => rfl
  | some instant =>
      have after : now.instant < instant := of_decide_eq_true later
      exact decide_eq_true (Int.not_lt.mpr (Int.le_of_lt after))

theorem later_of_notExpired {expiresAt : Option ℤ}
    (valid : notExpired expiresAt now = true)
    (apart : expiresAt ≠ some now.instant) :
    expiresLater expiresAt now = true := by
  cases expiresAt with
  | none => rfl
  | some instant =>
      have notBefore : ¬instant < now.instant := of_decide_eq_true valid
      have different : instant ≠ now.instant := fun same =>
        apart (congrArg some same)
      exact decide_eq_true (by omega)

theorem not_later_self : ¬expiresLater (some now.instant) now = true := by
  simp [expiresLater]

theorem notExpired_self : notExpired (some now.instant) now = true := by
  simp [notExpired]

/-- No gift and no top-up with designs left expires at this very moment. -/
structure NoneExpiresAt (now : Moment) (tenant : DesignTenant) : Prop where
  grants : ∀ key grant, tenant.grants.get? key = some grant →
    grant.isActive = true →
      grant.designs.consumed < grant.designs.granted →
        grant.expiresAt ≠ some now.instant
  topups : ∀ key topup, tenant.topups.get? key = some topup →
    topup.remains = true → topup.expiresAt ≠ some now.instant

section Charges

variable {key : ℕ}

theorem takeable_iff {grant : BonusGrant} : grant.takeable now = true ↔
    grant.isActive = true ∧
      grant.designs.consumed < grant.designs.granted ∧
        expiresLater grant.expiresAt now = true := by
  simp [BonusGrant.takeable, and_assoc]

theorem counted_pos_of_takeable {grant : BonusGrant}
    (takeable : grant.takeable now = true) : 0 < grant.counted now := by
  obtain ⟨active, remains, later⟩ := takeable_iff.mp takeable
  exact BonusGrant.counted_pos.mpr
    ⟨active, remains, notExpired_of_later later⟩

theorem total_track_plan (allowed : (tenant.used now : ℤ) < tenant.planQuota) :
    ((tenant.track now .aiGeneration .planMonthlyQuota).getTenantBalance
      now).total = (tenant.getTenantBalance now).total - 1 := by
  have counted := used_track tenant now .planMonthlyQuota
  simp only [getTenantBalance, planRemaining]
  have quota : (tenant.track now .aiGeneration .planMonthlyQuota).planQuota =
      tenant.planQuota := rfl
  have grants : (tenant.track now .aiGeneration .planMonthlyQuota).grants =
      tenant.grants := rfl
  have topups : (tenant.track now .aiGeneration .planMonthlyQuota).topups =
      tenant.topups := rfl
  rw [quota, grants, topups]
  unfold used at counted allowed
  omega

theorem total_chargeGrant (empty : tenant.planQuota ≤ tenant.used now)
    {grant : BonusGrant} (found : tenant.grants.get? key = some grant)
    (counts : 0 < grant.counted now) :
    ((tenant.chargeGrant now key).getTenantBalance now).total =
      (tenant.getTenantBalance now).total - 1 := by
  have counted : (tenant.chargeGrant now key).used now = tenant.used now + 1 :=
    used_track _ now (.adminGrant key)
  have grants : (tenant.chargeGrant now key).grants.total
      (fun _ grant => grant.counted now) =
        tenant.grants.total (fun _ grant => grant.counted now) - 1 := by
    have modified := Table.total_modify found
      (fun grant => grant.consume .designs) fun _ grant => grant.counted now
    rw [BonusGrant.counted_consume counts] at modified
    exact modified.trans (by omega)
  simp only [getTenantBalance, planRemaining]
  have quota : (tenant.chargeGrant now key).planQuota = tenant.planQuota := rfl
  have topups : (tenant.chargeGrant now key).topups = tenant.topups := rfl
  rw [quota, grants, topups]
  unfold used at counted empty
  omega

theorem total_chargeTopup (empty : tenant.planQuota ≤ tenant.used now)
    {topup : DesignPack} (found : tenant.topups.get? key = some topup)
    (counts : 0 < topup.counted now) :
    ((tenant.chargeTopup now key).getTenantBalance now).total =
      (tenant.getTenantBalance now).total - 1 := by
  have counted : (tenant.chargeTopup now key).used now = tenant.used now + 1 :=
    used_track _ now (.topup key)
  have topups : (tenant.chargeTopup now key).topups.total
      (fun _ topup => topup.counted now) =
        tenant.topups.total (fun _ topup => topup.counted now) - 1 := by
    have modified := Table.total_modify found DesignPack.consumeDesign
      fun _ topup => topup.counted now
    rw [DesignPack.counted_consumeDesign counts] at modified
    exact modified.trans (by omega)
  simp only [getTenantBalance, planRemaining]
  have quota : (tenant.chargeTopup now key).planQuota = tenant.planQuota := rfl
  have grants : (tenant.chargeTopup now key).grants = tenant.grants := rfl
  rw [quota, topups, grants]
  unfold used at counted empty
  omega

theorem total_spend (spent : tenant.spend now = some after) :
    (after.getTenantBalance now).total =
      (tenant.getTenantBalance now).total - 1 := by
  rcases spend_cases spent with ⟨allowed, rfl⟩ |
    ⟨empty, ⟨key, grant, chosen, rfl⟩ | ⟨key, topup, chosen, rfl⟩⟩
  · exact total_track_plan allowed
  · obtain ⟨found, -, takeable⟩ := nextGrant_eq_some chosen
    exact total_chargeGrant empty found (counted_pos_of_takeable takeable)
  · obtain ⟨found, -, remains, later⟩ := nextTopup_eq_some chosen
    exact total_chargeTopup empty found
      (DesignPack.counted_pos.mpr ⟨remains, notExpired_of_later later⟩)

theorem total_nonneg (now : Moment) (tenant : DesignTenant) :
    0 ≤ (tenant.getTenantBalance now).total := by
  have grants : 0 ≤ tenant.grants.total fun _ grant => grant.counted now :=
    Table.total_nonneg fun _ grant _ => grant.counted_nonneg now
  have topups : 0 ≤ tenant.topups.total fun _ topup => topup.counted now :=
    Table.total_nonneg fun _ topup _ => topup.counted_nonneg now
  simp only [getTenantBalance, planRemaining]
  omega

theorem noneExpiresAt_spend (spent : tenant.spend now = some after) :
    NoneExpiresAt now after ↔ NoneExpiresAt now tenant := by
  rcases spend_cases spent with ⟨-, rfl⟩ |
    ⟨-, ⟨key, grant, chosen, rfl⟩ | ⟨key, topup, chosen, rfl⟩⟩
  · exact ⟨fun none => ⟨none.grants, none.topups⟩,
      fun none => ⟨none.grants, none.topups⟩⟩
  · obtain ⟨found, -, takeable⟩ := nextGrant_eq_some chosen
    have apart : grant.expiresAt ≠ some now.instant := by
      intro same
      have later := (takeable_iff.mp takeable).2.2
      rw [same] at later
      exact not_later_self later
    have same := Table.forall_get?_modify found
      (fun grant => grant.consume .designs)
      (fun _ grant => grant.isActive = true →
        grant.designs.consumed < grant.designs.granted →
          grant.expiresAt ≠ some now.instant)
      (fun _ _ => apart) (fun _ _ => apart)
    exact ⟨fun none => ⟨same.mp none.grants, none.topups⟩,
      fun none => ⟨same.mpr none.grants, none.topups⟩⟩
  · obtain ⟨found, -, -, later⟩ := nextTopup_eq_some chosen
    have apart : topup.expiresAt ≠ some now.instant := by
      intro same
      rw [same] at later
      exact not_later_self later
    have same := Table.forall_get?_modify found DesignPack.consumeDesign
      (fun _ topup => topup.remains = true →
        topup.expiresAt ≠ some now.instant)
      (fun _ => apart) (fun _ => apart)
    exact ⟨fun none => ⟨none.grants, same.mp none.topups⟩,
      fun none => ⟨none.grants, same.mpr none.topups⟩⟩

end Charges

theorem total_of_spend_eq_none (none : NoneExpiresAt now tenant)
    (refused : tenant.spend now = .none) :
    (tenant.getTenantBalance now).total = 0 := by
  obtain ⟨empty, noGrant, noTopup⟩ := spend_eq_none.mp refused
  have grants : (tenant.grants.total fun _ grant => grant.counted now) = 0 := by
    apply Table.total_eq_zero
    intro key grant found
    by_contra counts
    have positive := grant.counted_nonneg now
    obtain ⟨active, remains, valid⟩ :=
      BonusGrant.counted_pos.mp (by omega : 0 < grant.counted now)
    have later := later_of_notExpired valid
      (none.grants key grant found active remains)
    obtain ⟨chosen, taken⟩ : ∃ chosen,
        tenant.nextGrant now (fun _ => true) = some chosen :=
      exists_nextGrant found rfl
        (takeable_iff.mpr ⟨active, remains, later⟩)
    rw [noGrant] at taken
    cases taken
  have topups : (tenant.topups.total fun _ topup => topup.counted now) = 0 := by
    apply Table.total_eq_zero
    intro key topup found
    by_contra counts
    have positive := topup.counted_nonneg now
    obtain ⟨remains, valid⟩ :=
      DesignPack.counted_pos.mp (by omega : 0 < topup.counted now)
    have later := later_of_notExpired valid
      (none.topups key topup found remains)
    obtain ⟨chosen, taken⟩ : ∃ chosen,
        tenant.nextTopup now (fun _ => true) = some chosen :=
      exists_nextTopup found rfl remains later
    rw [noTopup] at taken
    cases taken
  simp only [getTenantBalance, planRemaining, grants, topups]
  unfold used at empty
  omega

theorem total_of_expiresAt (some : ¬NoneExpiresAt now tenant) :
    0 < (tenant.getTenantBalance now).total := by
  have grants : 0 ≤ tenant.grants.total fun _ grant => grant.counted now :=
    Table.total_nonneg fun _ grant _ => grant.counted_nonneg now
  have topups : 0 ≤ tenant.topups.total fun _ topup => topup.counted now :=
    Table.total_nonneg fun _ topup _ => topup.counted_nonneg now
  by_contra nothing
  simp only [getTenantBalance, planRemaining] at nothing
  refine some ⟨?_, ?_⟩
  · intro key grant found active remains same
    have counts := BonusGrant.counted_pos.mpr
      ⟨active, remains, same ▸ notExpired_self⟩
    have part : grant.counted now ≤
        tenant.grants.total fun _ grant => grant.counted now :=
      Table.le_total (fun _ grant _ => grant.counted_nonneg now) found
    omega
  · intro key topup found remains same
    have counts := DesignPack.counted_pos.mpr
      ⟨remains, same ▸ notExpired_self⟩
    have part : topup.counted now ≤
        tenant.topups.total fun _ topup => topup.counted now :=
      Table.le_total (fun _ topup _ => topup.counted_nonneg now) found
    omega

def SpendsBalance (now : Moment) : DesignTenant → Prop :=
  SpendsAll (fun tenant => (tenant.getTenantBalance now).total) (spend now)

theorem spendsBalance_iff (now : Moment) (tenant : DesignTenant) :
    tenant.SpendsBalance now ↔ NoneExpiresAt now tenant :=
  spendsAll_iff (NoneExpiresAt now) (total_nonneg now)
    (fun _ _ => total_spend) (fun _ _ => noneExpiresAt_spend)
    (fun _ => total_of_spend_eq_none) (fun _ => total_of_expiresAt) tenant

end DesignTenant

namespace DesignCustomer

variable {now : Moment} {customer after : DesignCustomer}

def spend (now : Moment) (customer : DesignCustomer) : Option DesignCustomer :=
  if (customer.consumeCustomerCredit now).1.source.isSome then
    some (customer.consumeCustomerCredit now).2
  else none

theorem consumeCustomerCredit_cases (now : Moment) (customer : DesignCustomer) :
    (0 < customer.freeRemaining ∧ customer.consumeCustomerCredit now =
      customer.chargeFree.answered now (some .free)) ∨
    customer.freeRemaining ≤ 0 ∧
      ((∃ key purchase,
        customer.nextPurchase (fun _ => true) = some (key, purchase) ∧
          ((notExpired purchase.expiresAt now = true ∧
            customer.consumeCustomerCredit now =
              (customer.chargePurchase key).answered now (some .paid)) ∨
          (notExpired purchase.expiresAt now = false ∧
            customer.consumeCustomerCredit now =
              customer.answered now none))) ∨
      customer.nextPurchase (fun _ => true) = none ∧
        customer.consumeCustomerCredit now = customer.answered now none) := by
  unfold consumeCustomerCredit
  by_cases free : 0 < customer.freeRemaining
  · exact .inl ⟨free, if_pos free⟩
  · refine .inr ⟨by omega, ?_⟩
    rw [if_neg free]
    cases purchases : customer.nextPurchase fun _ => true with
    | none => exact .inr ⟨rfl, rfl⟩
    | some chosen =>
        refine .inl ⟨chosen.1, chosen.2, rfl, ?_⟩
        cases valid : notExpired chosen.2.expiresAt now with
        | true => exact .inl ⟨rfl, if_pos valid⟩
        | false => exact .inr ⟨rfl, by simp [valid]⟩

theorem spend_cases (spent : customer.spend now = some after) :
    (0 < customer.freeRemaining ∧ after = customer.chargeFree) ∨
      customer.freeRemaining ≤ 0 ∧ ∃ key purchase,
        customer.nextPurchase (fun _ => true) = some (key, purchase) ∧
          notExpired purchase.expiresAt now = true ∧
            after = customer.chargePurchase key := by
  unfold spend at spent
  rcases consumeCustomerCredit_cases now customer with
    ⟨free, same⟩ | ⟨empty, ⟨key, purchase, chosen, ⟨valid, same⟩ | ⟨-, same⟩⟩ |
      ⟨-, same⟩⟩
  · rw [same] at spent
    exact .inl ⟨free, (Option.some.inj spent).symm⟩
  · rw [same] at spent
    exact .inr ⟨empty, key, purchase, chosen, valid,
      (Option.some.inj spent).symm⟩
  · rw [same] at spent
    cases spent
  · rw [same] at spent
    cases spent

theorem spend_eq_none (refused : customer.spend now = none) :
    customer.freeRemaining ≤ 0 ∧
      (customer.nextPurchase (fun _ => true) = none ∨ ∃ key purchase,
        customer.nextPurchase (fun _ => true) = some (key, purchase) ∧
          notExpired purchase.expiresAt now = false) := by
  unfold spend at refused
  rcases consumeCustomerCredit_cases now customer with
    ⟨free, same⟩ | ⟨empty, ⟨key, purchase, chosen, ⟨-, same⟩ | ⟨expired, -⟩⟩ |
      ⟨nothing, -⟩⟩
  · rw [same] at refused
    cases refused
  · rw [same] at refused
    cases refused
  · exact ⟨empty, .inr ⟨key, purchase, chosen, expired⟩⟩
  · exact ⟨empty, .inl nothing⟩

/-- Of the purchases with designs left, those that have not expired are older
than those that have. -/
def ValidFirst (now : Moment) (customer : DesignCustomer) : Prop :=
  ∀ key purchase, customer.purchases.get? key = some purchase →
    purchase.remains = true → notExpired purchase.expiresAt now = true →
      ∀ other expired, customer.purchases.get? other = some expired →
        expired.remains = true → notExpired expired.expiresAt now = false →
          PackPrecedes (key, purchase) (other, expired)

theorem getCustomerBalance_nonneg (now : Moment) (customer : DesignCustomer) :
    0 ≤ customer.getCustomerBalance now := by
  have purchases :
      0 ≤ customer.purchases.total fun _ purchase => purchase.counted now :=
    Table.total_nonneg fun _ purchase _ => purchase.counted_nonneg now
  unfold getCustomerBalance freeRemaining
  omega

theorem getCustomerBalance_spend (spent : customer.spend now = some after) :
    after.getCustomerBalance now = customer.getCustomerBalance now - 1 := by
  rcases spend_cases spent with
    ⟨free, rfl⟩ | ⟨-, key, purchase, chosen, valid, rfl⟩
  · simp only [getCustomerBalance, freeRemaining, chargeFree] at free ⊢
    omega
  · obtain ⟨found, -, remains⟩ := nextPurchase_eq_some chosen
    have modified := Table.total_modify found DesignPack.consumeDesign
      fun _ purchase => purchase.counted now
    rw [DesignPack.counted_consumeDesign
      (DesignPack.counted_pos.mpr ⟨remains, valid⟩)] at modified
    simp only [getCustomerBalance, freeRemaining, chargePurchase, modified]
    omega

/-- A row with another expiry than the chosen one is not the chosen one, and
stays. -/
theorem get?_chargePurchase {key other : ℕ} {purchase expired : DesignPack}
    (found : customer.purchases.get? key = some purchase)
    (valid : notExpired purchase.expiresAt now = true)
    (past : notExpired expired.expiresAt now = false) :
    (customer.chargePurchase key).purchases.get? other = some expired ↔
      other ≠ key ∧ customer.purchases.get? other = some expired := by
  unfold chargePurchase
  by_cases same : other = key
  · subst same
    rw [Table.get?_modify_self, found]
    constructor
    · intro changed
      obtain rfl := Option.some.inj changed
      exact absurd (valid.symm.trans past) Bool.noConfusion
    · exact fun different => absurd rfl different.1
  · rw [Table.get?_modify_of_ne _ same]
    exact ⟨fun stored => ⟨same, stored⟩, fun stored => stored.2⟩

theorem validFirst_chargePurchase {key : ℕ} {purchase : DesignPack}
    (chosen : customer.nextPurchase (fun _ => true) = some (key, purchase))
    (valid : notExpired purchase.expiresAt now = true) :
    ValidFirst now (customer.chargePurchase key) ↔ ValidFirst now customer := by
  obtain ⟨found, -, remains⟩ := nextPurchase_eq_some chosen
  constructor
  · intro first other stored present left unexpired third expired there some past
    have apart : third ≠ key := by
      rintro rfl
      rw [found] at there
      obtain rfl := Option.some.inj there
      exact absurd (valid.symm.trans past) Bool.noConfusion
    have stays := (get?_chargePurchase found valid past).mpr ⟨apart, there⟩
    by_cases same : other = key
    · subst same
      rw [found] at present
      obtain rfl := Option.some.inj present
      have oldest := not_precedes_nextPurchase chosen there rfl some
      exact (PackPrecedes.total_of_key apart).resolve_left oldest
    · refine first other stored ?_ left unexpired third expired stays some past
      exact (Table.get?_modify_of_ne _ same _).trans present
  · intro first other stored present left unexpired third expired there some past
    obtain ⟨-, before⟩ := (get?_chargePurchase found valid past).mp there
    by_cases same : other = key
    · subst same
      rw [chargePurchase, Table.get?_modify_self, found] at present
      obtain rfl := Option.some.inj present
      exact first other purchase found remains valid third expired before some
        past
    · refine first other stored ?_ left unexpired third expired before some past
      exact (Table.get?_modify_of_ne _ same _).symm.trans present

theorem validFirst_spend (spent : customer.spend now = some after) :
    ValidFirst now after ↔ ValidFirst now customer := by
  rcases spend_cases spent with
    ⟨-, rfl⟩ | ⟨-, key, purchase, chosen, valid, rfl⟩
  · exact Iff.rfl
  · exact validFirst_chargePurchase chosen valid

theorem balance_of_spend_eq_none (first : ValidFirst now customer)
    (refused : customer.spend now = none) :
    customer.getCustomerBalance now = 0 := by
  obtain ⟨empty, stopped⟩ := spend_eq_none refused
  have purchases :
      (customer.purchases.total fun _ purchase => purchase.counted now) = 0 := by
    apply Table.total_eq_zero
    intro key purchase found
    by_contra counts
    have nonneg := purchase.counted_nonneg now
    obtain ⟨remains, valid⟩ :=
      DesignPack.counted_pos.mp (by omega : 0 < purchase.counted now)
    rcases stopped with nothing | ⟨other, expired, chosen, past⟩
    · obtain ⟨chosen, taken⟩ : ∃ chosen,
          customer.nextPurchase (fun _ => true) = some chosen :=
        exists_nextPurchase found rfl remains
      rw [nothing] at taken
      cases taken
    · obtain ⟨there, -, some⟩ := nextPurchase_eq_some chosen
      exact not_precedes_nextPurchase chosen found rfl remains
        (first key purchase found remains valid other expired there some past)
  unfold getCustomerBalance freeRemaining at *
  omega

theorem balance_of_blocked (blocked : ¬ValidFirst now customer) :
    0 < customer.getCustomerBalance now := by
  by_contra nothing
  refine blocked ?_
  intro key purchase found remains valid
  have counts := DesignPack.counted_pos.mpr ⟨remains, valid⟩
  have part : purchase.counted now ≤
      customer.purchases.total fun _ purchase => purchase.counted now :=
    Table.le_total (fun _ purchase _ => purchase.counted_nonneg now) found
  unfold getCustomerBalance freeRemaining at nothing
  omega

def SpendsBalance (now : Moment) : DesignCustomer → Prop :=
  SpendsAll (getCustomerBalance now) (spend now)

theorem spendsBalance_iff (now : Moment) (customer : DesignCustomer) :
    customer.SpendsBalance now ↔ ValidFirst now customer :=
  spendsAll_iff (ValidFirst now) (getCustomerBalance_nonneg now)
    (fun _ _ => getCustomerBalance_spend) (fun _ _ => validFirst_spend)
    (fun _ => balance_of_spend_eq_none) (fun _ => balance_of_blocked) customer

end DesignCustomer

/-- A company spends its balance unless a gift or a top-up with designs left
expires at this moment, a customer unless an expired package comes before one
that is valid. -/
theorem balances_spendable (now : Moment) (tenant : DesignTenant)
    (customer : DesignCustomer) :
    (tenant.SpendsBalance now ↔ DesignTenant.NoneExpiresAt now tenant) ∧
      (customer.SpendsBalance now ↔ DesignCustomer.ValidFirst now customer) :=
  ⟨DesignTenant.spendsBalance_iff now tenant,
    DesignCustomer.spendsBalance_iff now customer⟩

def expiredBeforeValid : DesignCustomer where
  freeDesignsTotal := 0
  freeDesignsUsed := 0
  purchases := (Table.empty.insert
    { designsTotal := 10, designsUsed := 4, status := .paid,
      expiresAt := some 50, createdAt := 0, paidAt := some 1 }).insert
    { designsTotal := 10, designsUsed := 0, status := .paid,
      expiresAt := some 500, createdAt := 10, paidAt := some 11 }

/-- An expired package with designs left keeps the next one from being used. -/
theorem balances_expiredBlocks : ¬ ∀ (now : Moment) (tenant : DesignTenant)
    (customer : DesignCustomer),
    tenant.SpendsBalance now ∧ customer.SpendsBalance now := by
  intro spends
  have spent := (spends ⟨100, 2026, 3⟩ ⟨none, [], .empty, .empty⟩
    expiredBeforeValid).2 10 (by decide +kernel)
  obtain ⟨-, after, refused, -⟩ := spent
  have stopped : DesignCustomer.spend ⟨100, 2026, 3⟩ expiredBeforeValid = none := by
    decide +kernel
  rw [stopped] at refused
  cases refused

end Clients

end Mousstec
