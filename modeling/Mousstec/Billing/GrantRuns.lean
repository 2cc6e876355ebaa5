import Mousstec.Billing.Grants

/-!
# Grants over runs

Every use is recorded once and counted on the grant it was taken from, within
its quota.  A grant ends by the limits of its billing mode, unless a use brings
a grant without a quota of its own mode to the number in its quota field, or
falls behind a date its mode does not know.
-/

namespace Mousstec

namespace Billing

open Library

namespace TenantGrant

/-- The grant has reached a limit that its own billing mode has. -/
def OwnLimit (grant : TenantGrant) (now : ℤ) : Prop :=
  (grant.billingMode.timed = true ∧ grant.isTimeExpired now = true) ∨
    (grant.billingMode.metered = true ∧ grant.isUsageExhausted = true)

instance (grant : TenantGrant) (now : ℤ) : Decidable (grant.OwnLimit now) :=
  inferInstanceAs (Decidable (_ ∨ _))

/-- The next use would end the grant by a limit that its mode does not have:
by a quota, or before one by a date. -/
def Misjudged (grant : TenantGrant) (now : ℤ) : Prop :=
  (grant.withUse.isUsageExhausted = true ∧ grant.billingMode.metered = false) ∨
    (grant.withUse.isUsageExhausted = false ∧
      grant.isTimeExpired now = true ∧ grant.billingMode.timed = false)

instance (grant : TenantGrant) (now : ℤ) : Decidable (grant.Misjudged now) :=
  inferInstanceAs (Decidable (_ ∨ _))

theorem isCurrentlyValid_eq_true {grant : TenantGrant} {now : ℤ} :
    grant.isCurrentlyValid now = true ↔
      grant.status = .active ∧ ¬ grant.OwnLimit now := by
  rw [isCurrentlyValid, OwnLimit]
  by_cases active : grant.status = .active
  · by_cases timed : grant.billingMode.timed ∧ grant.isTimeExpired now
    · simp [active, timed]
    · by_cases metered : grant.billingMode.metered ∧ grant.isUsageExhausted
      · simp [active, metered]
      · rw [if_neg (not_not.mpr active), if_neg timed, if_neg metered]
        exact ⟨fun _ => ⟨active, fun limit => limit.elim timed metered⟩,
          fun _ => rfl⟩
  · simp [active]

theorem isCurrentlyValid_eq_false {grant : TenantGrant} {now : ℤ} :
    grant.isCurrentlyValid now = false ↔
      grant.status ≠ .active ∨ grant.OwnLimit now := by
  rw [← Bool.not_eq_true, isCurrentlyValid_eq_true, not_and_or, not_not]

theorem OwnLimit.later {grant : TenantGrant} {now : ℤ}
    (limit : grant.OwnLimit now) (later : ℕ) : grant.OwnLimit (now + later) := by
  refine limit.imp_left fun ⟨timed, expired⟩ => ⟨timed, ?_⟩
  rw [isTimeExpired, Option.any_eq_true] at expired ⊢
  obtain ⟨until_, stored, past⟩ := expired
  rw [decide_eq_true_eq] at past
  exact ⟨until_, stored, decide_eq_true (by omega)⟩

theorem afterUse_ownLimit {grant : TenantGrant} {now : ℤ}
    (valid : grant.isCurrentlyValid now = true)
    (judged : ¬ grant.Misjudged now)
    (ended : (grant.afterUse now).isCurrentlyValid now = false) :
    (grant.afterUse now).OwnLimit now := by
  obtain ⟨active, -⟩ := isCurrentlyValid_eq_true.mp valid
  rcases isCurrentlyValid_eq_false.mp ended with inactive | limit
  · rw [Misjudged, not_or] at judged
    obtain ⟨byUse, byDate⟩ := judged
    by_cases exhausted : grant.withUse.isUsageExhausted = true
    · refine .inr ⟨?_, exhausted⟩
      rw [← Bool.not_eq_false]
      exact fun unmetered => byUse ⟨exhausted, unmetered⟩
    · by_cases expired : grant.isTimeExpired now = true
      · refine .inl ⟨?_, expired⟩
        rw [← Bool.not_eq_false]
        exact fun untimed =>
          byDate ⟨Bool.eq_false_iff.mpr exhausted, expired, untimed⟩
      · rw [afterUse, if_neg exhausted, if_neg expired] at inactive
        exact absurd active inactive
  · exact limit

theorem withUse_le_quota {grant : TenantGrant} {now : ℤ}
    (valid : grant.isCurrentlyValid now = true)
    (metered : grant.billingMode.metered = true)
    (quota : 0 < grant.usageQuota) :
    grant.withUse.usageUsed ≤ grant.usageQuota := by
  obtain ⟨-, unlimited⟩ := isCurrentlyValid_eq_true.mp valid
  have left : ¬ grant.usageQuota ≤ grant.usageUsed := by
    intro reached
    exact unlimited (.inr ⟨metered, decide_eq_true ⟨quota, reached⟩⟩)
  exact Nat.lt_of_not_le left

end TenantGrant

structure Counts (call : ConsumeCall) (ledger : Ledger) (kind : GrantKind)
    (feature : ℕ) (grant : TenantGrant) : Prop where
  drawn : drawnOn call.verdict = some kind
  known : ∃ row, ledger.featureOf call.verdict.featureCode = some (feature, row)
  stored : (ledger.grants kind).get? call.verdict.grantPk = some grant
  valid : grant.isCurrentlyValid ledger.now = true
  unrecorded : call.isRecorded feature ledger = false

def countedLedger (call : ConsumeCall) (ledger : Ledger) (kind : GrantKind)
    (feature : ℕ) : Ledger :=
  { ledger.withGrants kind
      ((ledger.grants kind).modify call.verdict.grantPk fun grant =>
        grant.afterUse ledger.now) with
    events := ledger.events ++ [eventOf call kind feature] }

section Consume

variable {call : ConsumeCall} {kind : GrantKind} {feature : ℕ}
  {before after : Ledger} {taken : Bool}

theorem isRecorded_congr {other : Ledger} (same : other.events = before.events) :
    call.isRecorded feature other = call.isRecorded feature before := by
  rw [ConsumeCall.isRecorded, ConsumeCall.isRecorded, Ledger.recorded,
    Ledger.recorded, same]

theorem createEvent_eq_ok
    (returned : createEvent call kind feature before = .ok ⟨⟩ after) :
    call.isRecorded feature before = false ∧
      after = { before with
                events := before.events ++ [eventOf call kind feature] } := by
  rw [createEvent, Txn.get_bind] at returned
  simp only [Txn.bind_eq_ok, Txn.require_eq_ok, Txn.modify_eq_ok] at returned
  obtain ⟨⟨⟩, _, ⟨-, rfl⟩, ⟨⟩, _, ⟨unrecorded, rfl⟩, rfl⟩ := returned
  exact ⟨unrecorded, rfl⟩

theorem useGrant_eq_ok {grant : TenantGrant}
    (returned : useGrant call kind feature grant before = .ok taken after) :
    taken = true ∧ call.isRecorded feature before = false ∧
      after = countedLedger call before kind feature := by
  rw [useGrant] at returned
  simp only [Txn.bind_eq_ok, Txn.require_eq_ok, Txn.modify_eq_ok,
    Txn.pure_eq_ok] at returned
  obtain ⟨⟨⟩, _, ⟨-, rfl⟩, ⟨⟩, _, rfl, ⟨⟩, _, created, rfl, rfl⟩ := returned
  obtain ⟨unrecorded, rfl⟩ := createEvent_eq_ok created
  rw [isRecorded_congr (Ledger.events_withGrants _ _ _)] at unrecorded
  refine ⟨rfl, unrecorded, ?_⟩
  rw [countedLedger, Ledger.events_withGrants]

theorem consumeLocked_eq_ok
    (returned : consumeLocked call kind feature before = .ok taken after) :
    after = before ∨ taken = true ∧ (∃ grant,
      (before.grants kind).get? call.verdict.grantPk = some grant ∧
        grant.isCurrentlyValid before.now = true) ∧
      call.isRecorded feature before = false ∧
      after = countedLedger call before kind feature := by
  rw [consumeLocked, Txn.get_bind] at returned
  cases stored : (before.grants kind).get? call.verdict.grantPk with
  | none =>
      simp only [stored, Txn.pure_eq_ok] at returned
      exact .inl returned.2.symm
  | some grant =>
      simp only [stored] at returned
      split at returned
      · exact .inl (Txn.pure_eq_ok.mp returned).2.symm
      · split at returned
        · rename_i valid
          obtain ⟨rfl, unrecorded, rfl⟩ := useGrant_eq_ok returned
          exact .inr ⟨rfl, ⟨grant, rfl, valid⟩, unrecorded, rfl⟩
        · exact .inl (Txn.pure_eq_ok.mp returned).2.symm

theorem consumeCaught_rollsBack :
    Txn.RollsBack (consumeCaught call kind feature) := by
  intro state error final failed
  rcases Txn.bind_eq_error.mp failed with failed | ⟨outcome, middle, attempted,
    failed⟩
  · exact absurd failed Txn.attempt_eq_error
  · rcases Txn.attempt_eq_ok.mp attempted with ⟨value, rfl, -⟩ |
      ⟨raised, rfl, rolledBack⟩
    · exact absurd failed Txn.pure_eq_error
    · have kept := (Txn.atomic_eq_error.mp rolledBack).1
      cases raised with
      | integrity => exact absurd failed Txn.pure_eq_error
      | data => exact (Txn.throw_eq_error.mp failed).2.symm.trans kept

theorem consumeCaught_eq_ok
    (returned : consumeCaught call kind feature before = .ok taken after) :
    after = before ∨ consumeLocked call kind feature before =
      .ok taken after := by
  obtain ⟨outcome, middle, attempted, returned⟩ := Txn.bind_eq_ok.mp returned
  rcases Txn.attempt_eq_ok.mp attempted with ⟨value, rfl, called⟩ |
    ⟨raised, rfl, rolledBack⟩
  · obtain ⟨rfl, rfl⟩ := Txn.pure_eq_ok.mp returned
    exact .inr (Txn.atomic_eq_ok.mp called)
  · have kept := (Txn.atomic_eq_error.mp rolledBack).1
    cases raised with
    | integrity => exact .inl ((Txn.pure_eq_ok.mp returned).2.symm.trans kept)
    | data => exact absurd returned Txn.throw_eq_ok

theorem consume_rollsBack (call : ConsumeCall) :
    Txn.RollsBack (consumeFeatureUsage call) := by
  refine Txn.rollsBack_bind Txn.reads_get Txn.rollsBack_get fun ledger => ?_
  split
  · exact Txn.rollsBack_pure _
  · split
    · exact Txn.rollsBack_pure _
    · exact consumeCaught_rollsBack

theorem consume_eq_ok
    (returned : consumeFeatureUsage call before = .ok taken after) :
    after = before ∨ taken = true ∧ ∃ kind feature grant,
      Counts call before kind feature grant ∧
        after = countedLedger call before kind feature := by
  rw [consumeFeatureUsage, Txn.get_bind] at returned
  cases drawn : drawnOn call.verdict with
  | none =>
      simp only [drawn, Txn.pure_eq_ok] at returned
      exact .inl returned.2.symm
  | some kind =>
      simp only [drawn] at returned
      cases known : before.featureOf call.verdict.featureCode with
      | none =>
          simp only [known, Txn.pure_eq_ok] at returned
          exact .inl returned.2.symm
      | some found =>
          obtain ⟨feature, row⟩ := found
          simp only [known] at returned
          rcases consumeCaught_eq_ok returned with same | returned
          · exact .inl same
          · refine (consumeLocked_eq_ok returned).imp_right ?_
            rintro ⟨counted, ⟨grant, stored, valid⟩, unrecorded, rfl⟩
            exact ⟨counted, kind, feature, grant,
              ⟨drawn, ⟨row, known⟩, stored, valid, unrecorded⟩, rfl⟩

end Consume

theorem mem_of_newestFirst {rows : List (ℕ × TenantGrant)}
    {keep : ℕ × TenantGrant → Bool} {row : ℕ × TenantGrant}
    (member : row ∈ Ledger.newestFirst (rows.filter keep)) :
    row ∈ rows ∧ keep row = true := by
  rw [Ledger.newestFirst] at member
  exact List.mem_filter.mp ((List.mergeSort_perm _ _).mem_iff.mp member)

theorem checkGranularGrant_valid {ledger : Ledger}
    {tenantSchema featureCode : String} {operationType : OperationType}
    {verdict : EntitlementVerdict}
    (found : checkGranularGrant ledger tenantSchema featureCode operationType =
      some verdict) (entitled : verdict.entitled = true) :
    ∃ kind grant, drawnOn verdict = some kind ∧
      (ledger.grants kind).get? verdict.grantPk = some grant ∧
      grant.tenantSchema = tenantSchema ∧
      grant.isCurrentlyValid ledger.now = true := by
  rw [checkGranularGrant] at found
  split at found
  · cases found
  · split at found
    · cases found
    · dsimp only at found
      split at found
      · rename_i row located
        obtain rfl := Option.some.inj found
        have valid := List.find?_some located
        obtain ⟨stored, kept⟩ :=
          mem_of_newestFirst (List.mem_of_find?_eq_some located)
        rw [decide_eq_true_eq] at kept
        exact ⟨.package, row.2, rfl, Table.get?_eq_some.mpr stored, kept.1,
          valid⟩
      · rename_i row _ located
        obtain rfl := Option.some.inj found
        have valid := List.find?_some located
        obtain ⟨stored, kept⟩ :=
          mem_of_newestFirst (List.mem_of_find?_eq_some located)
        rw [decide_eq_true_eq] at kept
        exact ⟨.feature, row.2, rfl, Table.get?_eq_some.mpr stored, kept.1,
          valid⟩
      · split at found
        · cases found
        · obtain rfl := Option.some.inj found
          cases entitled

structure Metered (ledger : Ledger) : Prop where
  /-- Uses are the events linked to the grant. -/
  counted : ∀ kind pk grant, (ledger.grants kind).get? pk = some grant →
    grant.usageUsed = ledger.uses kind pk
  bounded : ∀ kind pk grant, (ledger.grants kind).get? pk = some grant →
    grant.billingMode.metered = true → 0 < grant.usageQuota →
      grant.usageUsed ≤ grant.usageQuota
  /-- An operation with a reference is recorded once. -/
  once : ∀ tenantSchema feature operationRef, operationRef ≠ "" →
    ledger.recorded tenantSchema feature operationRef ≤ 1
  /-- A grant that is not revoked ends by a limit of its own mode. -/
  limited : ∀ kind pk grant, (ledger.grants kind).get? pk = some grant →
    grant.status ≠ .revoked → grant.isCurrentlyValid ledger.now = false →
      grant.OwnLimit ledger.now

def Linked (ledger : Ledger) : Prop :=
  ∀ kind pk, (ledger.grants kind).next ≤ pk → ledger.uses kind pk = 0

section Counted

variable {call : ConsumeCall} {kind : GrantKind} {feature : ℕ}
  {grant : TenantGrant} {ledger : Ledger}

theorem grantOf_eventOf (other : GrantKind) (pk : ℕ) :
    (eventOf call kind feature).grantOf other = some pk ↔
      other = kind ∧ pk = call.verdict.grantPk := by
  cases kind <;> cases other <;>
    simp [eventOf, FeatureUsageEvent.grantOf, eq_comm]

theorem uses_counted (other : GrantKind) (pk : ℕ) :
    (countedLedger call ledger kind feature).uses other pk =
      ledger.uses other pk +
        if other = kind ∧ pk = call.verdict.grantPk then 1 else 0 := by
  rw [countedLedger, Ledger.uses, Ledger.uses, List.countP_append,
    List.countP_singleton]
  simp only [grantOf_eventOf, decide_eq_true_eq]

theorem grants_counted_self :
    (countedLedger call ledger kind feature).grants kind =
      (ledger.grants kind).modify call.verdict.grantPk fun grant =>
        grant.afterUse ledger.now := by
  cases kind <;> rfl

theorem grants_counted_of_ne {other : GrantKind} (different : other ≠ kind) :
    (countedLedger call ledger kind feature).grants other =
      ledger.grants other := by
  cases kind <;> cases other <;> first | rfl | exact absurd rfl different

theorem now_counted :
    (countedLedger call ledger kind feature).now = ledger.now := by
  cases kind <;> rfl

/-- A grant of the counted ledger is the one that was used, or is as it was
and was not used. -/
theorem get?_counted (counts : Counts call ledger kind feature grant)
    {other : GrantKind} {pk : ℕ} {found : TenantGrant}
    (stored : ((countedLedger call ledger kind feature).grants other).get? pk =
      some found) :
    (other = kind ∧ pk = call.verdict.grantPk) ∧
        found = grant.afterUse ledger.now ∨
      ¬ (other = kind ∧ pk = call.verdict.grantPk) ∧
        (ledger.grants other).get? pk = some found := by
  by_cases sameKind : other = kind
  · subst sameKind
    rw [grants_counted_self] at stored
    by_cases samePk : pk = call.verdict.grantPk
    · subst samePk
      rw [Table.get?_modify_self, counts.stored, Option.map_some,
        Option.some.injEq] at stored
      exact .inl ⟨⟨rfl, rfl⟩, stored.symm⟩
    · rw [Table.get?_modify_of_ne _ samePk] at stored
      exact .inr ⟨fun same => samePk same.2, stored⟩
  · rw [grants_counted_of_ne sameKind] at stored
    exact .inr ⟨fun same => sameKind same.1, stored⟩

theorem isAbout_eventOf (tenantSchema : String) (other : ℕ)
    (operationRef : String) :
    (eventOf call kind feature).isAbout tenantSchema other operationRef = true ↔
      call.tenantSchema = tenantSchema ∧ feature = other ∧
        call.operationRef = operationRef := by
  rw [FeatureUsageEvent.isAbout, decide_eq_true_eq]
  rfl

theorem recorded_counted (tenantSchema : String) (other : ℕ)
    (operationRef : String) :
    (countedLedger call ledger kind feature).recorded tenantSchema other
        operationRef =
      ledger.recorded tenantSchema other operationRef +
        if call.tenantSchema = tenantSchema ∧ feature = other ∧
          call.operationRef = operationRef then 1 else 0 := by
  rw [countedLedger, Ledger.recorded, Ledger.recorded, List.countP_append,
    List.countP_singleton]
  simp only [isAbout_eventOf]

/-- Counting a use that is judged by the mode of its grant keeps the
promises. -/
theorem metered_counted (metered : Metered ledger)
    (counts : Counts call ledger kind feature grant)
    (judged : ¬ grant.Misjudged ledger.now) :
    Metered (countedLedger call ledger kind feature) where
  counted other pk found stored := by
    rw [uses_counted]
    rcases get?_counted counts stored with ⟨same, rfl⟩ | ⟨different, stored⟩
    · rw [if_pos same, same.1, same.2,
        ← metered.counted kind _ grant counts.stored]
      rfl
    · rw [if_neg different]
      exact metered.counted other pk found stored
  bounded other pk found stored mode quota := by
    rcases get?_counted counts stored with ⟨-, rfl⟩ | ⟨-, stored⟩
    · exact TenantGrant.withUse_le_quota counts.valid mode quota
    · exact metered.bounded other pk found stored mode quota
  once tenantSchema other operationRef named := by
    rw [recorded_counted]
    split
    · rename_i same
      obtain ⟨rfl, rfl, rfl⟩ := same
      have unrecorded := counts.unrecorded
      rw [ConsumeCall.isRecorded, decide_eq_false_iff_not, not_and] at unrecorded
      have none := unrecorded named
      omega
    · exact metered.once tenantSchema other operationRef named
  limited other pk found stored unrevoked ended := by
    rw [now_counted] at ended ⊢
    rcases get?_counted counts stored with ⟨-, rfl⟩ | ⟨-, stored⟩
    · exact TenantGrant.afterUse_ownLimit counts.valid judged ended
    · exact metered.limited other pk found stored unrevoked ended

theorem linked_counted (linked : Linked ledger)
    (counts : Counts call ledger kind feature grant) :
    Linked (countedLedger call ledger kind feature) := by
  intro other pk unused
  have same : ((countedLedger call ledger kind feature).grants other).next =
      (ledger.grants other).next := by
    by_cases sameKind : other = kind
    · subst sameKind
      rw [grants_counted_self, Table.modify_next]
    · rw [grants_counted_of_ne sameKind]
  rw [same] at unused
  rw [uses_counted, linked other pk unused, if_neg]
  rintro ⟨rfl, rfl⟩
  exact absurd (Table.get?_lt counts.stored) (Nat.not_lt.mpr unused)

end Counted

theorem metered_issued {ledger : Ledger} (metered : Metered ledger)
    (linked : Linked ledger) (request : GrantRequest) :
    Metered (ledger.withGrants request.kind
      ((ledger.grants request.kind).insert (request.row ledger.now))) := by
  have found : ∀ {kind pk grant},
      ((ledger.withGrants request.kind ((ledger.grants request.kind).insert
        (request.row ledger.now))).grants kind).get? pk = some grant →
      (ledger.grants kind).get? pk = some grant ∨
        grant = request.row ledger.now ∧ ledger.uses kind pk = 0 := by
    intro kind pk grant stored
    by_cases same : kind = request.kind
    · subst same
      rw [Ledger.grants_withGrants_self, Table.get?_insert] at stored
      split at stored
      · rename_i next
        refine .inr ⟨(Option.some.inj stored).symm, ?_⟩
        exact linked request.kind pk (le_of_eq next.symm)
      · exact .inl stored
    · rw [Ledger.grants_withGrants_of_ne _ _ _ same] at stored
      exact .inl stored
  constructor
  · intro kind pk grant stored
    rw [Ledger.uses, Ledger.events_withGrants]
    rcases found stored with stored | ⟨rfl, unused⟩
    · exact metered.counted kind pk grant stored
    · exact unused.symm
  · intro kind pk grant stored mode quota
    rcases found stored with stored | ⟨rfl, -⟩
    · exact metered.bounded kind pk grant stored mode quota
    · exact Nat.zero_le _
  · intro tenantSchema feature operationRef named
    rw [Ledger.recorded, Ledger.events_withGrants]
    exact metered.once tenantSchema feature operationRef named
  · intro kind pk grant stored unrevoked ended
    rw [Ledger.now_withGrants] at ended ⊢
    rcases found stored with stored | ⟨rfl, -⟩
    · exact metered.limited kind pk grant stored unrevoked ended
    · exact (TenantGrant.isCurrentlyValid_eq_false.mp ended).resolve_left
        fun inactive => inactive rfl

theorem linked_issued {ledger : Ledger} (linked : Linked ledger)
    (request : GrantRequest) :
    Linked (ledger.withGrants request.kind
      ((ledger.grants request.kind).insert (request.row ledger.now))) := by
  intro kind pk unused
  rw [Ledger.uses, Ledger.events_withGrants]
  refine linked kind pk ?_
  by_cases same : kind = request.kind
  · subst same
    rw [Ledger.grants_withGrants_self, Table.insert_next] at unused
    exact Nat.le_of_succ_le unused
  · rwa [Ledger.grants_withGrants_of_ne _ _ _ same] at unused

theorem metered_revoked {ledger : Ledger} (metered : Metered ledger)
    (kind : GrantKind) (pk : ℕ) :
    Metered (ledger.withGrants kind ((ledger.grants kind).modify pk fun grant =>
      { grant with status := .revoked })) := by
  have found : ∀ {other key grant},
      ((ledger.withGrants kind ((ledger.grants kind).modify pk fun grant =>
        { grant with status := .revoked })).grants other).get? key =
          some grant →
      (ledger.grants other).get? key = some grant ∨
        ∃ stored, (ledger.grants other).get? key = some stored ∧
          grant = { stored with status := .revoked } := by
    intro other key grant stored
    by_cases same : other = kind
    · subst same
      rw [Ledger.grants_withGrants_self] at stored
      by_cases here : key = pk
      · subst here
        rw [Table.get?_modify_self] at stored
        obtain ⟨old, kept, rfl⟩ := Option.map_eq_some_iff.mp stored
        exact .inr ⟨old, kept, rfl⟩
      · rw [Table.get?_modify_of_ne _ here] at stored
        exact .inl stored
    · rw [Ledger.grants_withGrants_of_ne _ _ _ same] at stored
      exact .inl stored
  constructor
  · intro other key grant stored
    rw [Ledger.uses, Ledger.events_withGrants]
    rcases found stored with kept | ⟨old, kept, rfl⟩
    · exact metered.counted other key grant kept
    · exact metered.counted other key old kept
  · intro other key grant stored mode quota
    rcases found stored with kept | ⟨old, kept, rfl⟩
    · exact metered.bounded other key grant kept mode quota
    · exact metered.bounded other key old kept mode quota
  · intro tenantSchema feature operationRef named
    rw [Ledger.recorded, Ledger.events_withGrants]
    exact metered.once tenantSchema feature operationRef named
  · intro other key grant stored unrevoked ended
    rw [Ledger.now_withGrants] at ended ⊢
    rcases found stored with stored | ⟨old, -, rfl⟩
    · exact metered.limited other key grant stored unrevoked ended
    · exact absurd rfl unrevoked

theorem linked_revoked {ledger : Ledger} (linked : Linked ledger)
    (kind : GrantKind) (pk : ℕ) :
    Linked (ledger.withGrants kind ((ledger.grants kind).modify pk fun grant =>
      { grant with status := .revoked })) := by
  intro other key unused
  rw [Ledger.uses, Ledger.events_withGrants]
  refine linked other key ?_
  by_cases same : other = kind
  · subst same
    rwa [Ledger.grants_withGrants_self, Table.modify_next] at unused
  · rwa [Ledger.grants_withGrants_of_ne _ _ _ same] at unused

/-- Time ends grants by their own limits only. -/
theorem metered_later {ledger : Ledger} (metered : Metered ledger)
    (later : ℕ) : Metered { ledger with now := ledger.now + later } where
  counted := metered.counted
  bounded := metered.bounded
  once := metered.once
  limited kind pk grant stored unrevoked ended := by
    rcases TenantGrant.isCurrentlyValid_eq_false.mp ended with inactive | limit
    · have before : grant.isCurrentlyValid ledger.now = false :=
        TenantGrant.isCurrentlyValid_eq_false.mpr (.inl inactive)
      exact (metered.limited kind pk grant stored unrevoked before).later later
    · exact limit

/-- No use that is counted is misjudged: none brings a grant of a mode without
a quota to its quota field, or is taken from a grant of a mode without a date
after the date in its field. -/
def GrantOp.Judged : GrantOp → Ledger → Prop
  | .consume call, ledger => ∀ kind feature grant,
      Counts call ledger kind feature grant → ¬ grant.Misjudged ledger.now
  | _, _ => True

theorem run_rollsBack (op : GrantOp) : Txn.RollsBack op.run := by
  cases op with
  | check tenantSchema featureCode operationType => exact Txn.rollsBack_pure _
  | consume call => exact Txn.rollsBack_map (consume_rollsBack call)
  | issue request =>
      refine Txn.rollsBack_bind Txn.reads_get Txn.rollsBack_get fun ledger => ?_
      refine Txn.rollsBack_bind (Txn.reads_require _ _)
        (Txn.rollsBack_require _ _) fun _ => ?_
      exact fun _ _ _ failed => absurd failed Txn.modify_eq_error
  | revoke kind pk => exact fun _ _ _ failed => absurd failed Txn.modify_eq_error
  | pass later => exact fun _ _ _ failed => absurd failed Txn.modify_eq_error

theorem metered_step (op : GrantOp) {before after : Ledger}
    (holds : Metered before ∧ Linked before) (judged : op.Judged before)
    (returned : op.run before = .ok ⟨⟩ after) :
    Metered after ∧ Linked after := by
  obtain ⟨metered, linked⟩ := holds
  cases op with
  | check tenantSchema featureCode operationType =>
      obtain ⟨-, rfl⟩ := Txn.pure_eq_ok.mp returned
      exact ⟨metered, linked⟩
  | consume call =>
      obtain ⟨taken, middle, consumed, returned⟩ := Txn.bind_eq_ok.mp returned
      obtain ⟨-, rfl⟩ := Txn.pure_eq_ok.mp returned
      rcases consume_eq_ok consumed with rfl | ⟨-, kind, feature, grant, counts,
        rfl⟩
      · exact ⟨metered, linked⟩
      · exact ⟨metered_counted metered counts
          (judged kind feature grant counts), linked_counted linked counts⟩
  | issue request =>
      rw [GrantOp.run, issueGrant, Txn.get_bind] at returned
      obtain ⟨-, returned⟩ := Txn.require_bind_eq_ok.mp returned
      obtain rfl := Txn.modify_eq_ok.mp returned
      exact ⟨metered_issued metered linked request,
        linked_issued linked request⟩
  | revoke kind pk =>
      obtain rfl := Txn.modify_eq_ok.mp returned
      exact ⟨metered_revoked metered kind pk, linked_revoked linked kind pk⟩
  | pass later =>
      obtain rfl := Txn.modify_eq_ok.mp returned
      exact ⟨metered_later metered later, linked⟩

def openedLedger (now : ℤ) (features : Table Feature)
    (packages : Table SubscriptionPackage) : Ledger :=
  { now, features, packages }

theorem metered_opened (now : ℤ) (features : Table Feature)
    (packages : Table SubscriptionPackage) :
    Metered (openedLedger now features packages) ∧
      Linked (openedLedger now features packages) := by
  have none : ∀ kind pk grant,
      ((openedLedger now features packages).grants kind).get? pk ≠
        some grant := by
    intro kind pk grant stored
    cases kind <;> cases stored
  refine ⟨⟨?_, ?_, ?_, ?_⟩, fun _ _ _ => rfl⟩
  · exact fun kind pk grant stored => absurd stored (none kind pk grant)
  · exact fun kind pk grant stored => absurd stored (none kind pk grant)
  · exact fun _ _ _ _ => Nat.zero_le _
  · exact fun kind pk grant stored => absurd stored (none kind pk grant)

/-- In every run whose counted uses are judged by the modes of their grants,
grants are metered exactly, and at every point a consume that is refused or
raises changes nothing. -/
theorem grants_metered (now : ℤ) (features : Table Feature)
    (packages : Table SubscriptionPackage) (ops : List GrantOp)
    (judged : Txn.Throughout GrantOp.run GrantOp.Judged ops
      (openedLedger now features packages)) :
    Metered (Txn.after GrantOp.run ops (openedLedger now features packages)) ∧
      ∀ call after,
        (consumeFeatureUsage call (Txn.after GrantOp.run ops
            (openedLedger now features packages)) = .ok false after ∨
          ∃ error, consumeFeatureUsage call (Txn.after GrantOp.run ops
            (openedLedger now features packages)) = .error error after) →
        after = Txn.after GrantOp.run ops
          (openedLedger now features packages) := by
  have holds := Txn.after_of_throughout
    (fun ledger => Metered ledger ∧ Linked ledger) run_rollsBack
    (fun op before final holds judged returned =>
      metered_step op holds judged returned) ops _
    (metered_opened now features packages) judged
  refine ⟨holds.1, ?_⟩
  rintro call after (refused | ⟨error, failed⟩)
  · rcases consume_eq_ok refused with same | ⟨taken, -⟩
    · exact same
    · cases taken
  · exact consume_rollsBack call _ error after failed

def oneFeature : Table Feature :=
  Table.empty.insert { code := "frm_repair" }

def tenUses : GrantRequest :=
  { kind := .feature
    product := 0
    tenantSchema := "garage"
    billingMode := .usage
    validUntil := some 30
    usageQuota := 10 }

def useOf (operationRef : String) : ConsumeCall :=
  { verdict :=
      { entitled := true
        operationType := .coding
        mode := "feature_grant"
        featureCode := "frm_repair"
        grantKind := some .feature
        grantPk := 0 }
    tenantSchema := "garage"
    operationRef }

def firstWeek : List GrantOp :=
  [.issue tenUses, .pass 7, .consume (useOf "op-1"), .consume (useOf "op-1")]

theorem grants_metered_firstWeek :
    Metered (Txn.after GrantOp.run firstWeek
      (openedLedger 0 oneFeature .empty)) := by
  have judged : Txn.Throughout GrantOp.run GrantOp.Judged firstWeek
      (openedLedger 0 oneFeature .empty) := by
    refine ⟨fun _ => trivial, fun _ => trivial, fun _ => ?_, fun _ => ?_,
      trivial⟩
    · rintro kind feature grant ⟨drawn, -, stored, -, -⟩
      cases drawn
      have only : grant = tenUses.row 0 := (Option.some.inj stored).symm
      rw [only]
      decide
    · rintro kind feature grant ⟨-, ⟨row, known⟩, -, -, unrecorded⟩
      cases known
      exact absurd unrecorded (by decide +kernel)
  exact (grants_metered 0 oneFeature .empty firstWeek judged).1

/-- A month later the first use ends the grant with nine uses left. -/
theorem grant_dies_early :
    ¬ ∀ now features packages ops, Metered (Txn.after GrantOp.run ops
      (openedLedger now features packages)) := by
  intro promised
  have metered := promised 0 oneFeature .empty
    [.issue tenUses, .pass 31, .consume (useOf "op-1")]
  have stored : ((Txn.after GrantOp.run
      [.issue tenUses, .pass 31, .consume (useOf "op-1")]
      (openedLedger 0 oneFeature .empty)).grants .feature).get? 0 =
        some { tenUses.row 0 with usageUsed := 1, status := .expired } := by
    decide +kernel
  have limit := metered.limited .feature 0 _ stored nofun
    (by decide +kernel)
  exact absurd limit (by decide +kernel)

end Billing

end Mousstec
