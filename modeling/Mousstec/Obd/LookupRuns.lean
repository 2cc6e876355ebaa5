import Mousstec.Obd.Lookups

/-!
# External lookups are paid exactly

A unit is taken for every paid call, the units that are left are what was
refilled less the calls that returned a result, and nothing is looked up twice,
in every run in which one lookup of a code or VIN is under way at a time, no paid
call fails or is left before its result is stored, the last unit is not taken
between the check and the charge of a VIN, and nothing is charged while a refill
has the row in hand.
-/

namespace Mousstec

namespace Obd

open Library

def LookupRequest.held (request : LookupRequest) : Bool :=
  request.unit && match request.stage with
    | .holding => true
    | .calling => true
    | .failed => true
    | _ => false

def LookupDesk.unitsHeld (desk : LookupDesk) (tenant : ℕ) : ℤ :=
  desk.requests.total fun _ request =>
    if request.tenant = tenant ∧ request.held then 1 else 0

def LookupDesk.paidResults (desk : LookupDesk) (tenant : ℕ) : ℤ :=
  (desk.results.countP fun result =>
    decide (result.tenant = tenant) && result.paid : ℕ)

/-- The counters of a tenant are exact: units that are taken for calls under way
are neither left nor lost. -/
structure LookupDesk.Balanced (desk : LookupDesk) (tenant : ℕ) : Prop where
  remaining : (desk.accounts tenant).diagApiQuotaRemaining =
    (desk.accounts tenant).refilled - desk.paidResults tenant -
      desk.unitsHeld tenant
  nonneg : 0 ≤ (desk.accounts tenant).diagApiQuotaRemaining
  used : (desk.accounts tenant).diagApiScansUsedTotal =
    desk.paidResults tenant + desk.unitsHeld tenant

/-- Lookups are paid exactly, and none is made twice. -/
structure PaidExactly (desk : LookupDesk) : Prop where
  taken : ∀ call ∈ desk.calls, call.paid = true → call.unit = true
  balanced : ∀ tenant, desk.Balanced tenant
  once : ∀ call ∈ desk.calls, call.known = false

def LookupStage.isAnswered : LookupStage → Bool
  | answered _ => true
  | _ => false

def LookupOp.careful (op : LookupOp) (desk : LookupDesk) : Bool :=
  match op with
  | look key => (desk.requests.get? key).all fun request =>
      desk.requests.rows.all fun row =>
        row.1 == key || row.2.lookup != request.lookup ||
          row.2.stage == .looking
  | consume key => (desk.requests.get? key).all fun request =>
      match request.lookup with
      | .dtc _ _ => true
      | .vin _ => request.stage != .consuming ||
          (desk.accounts request.tenant).subscribed &&
            decide (1 ≤ (desk.accounts request.tenant).diagApiQuotaRemaining)
  | raise key => (desk.requests.get? key).all fun request =>
      request.stage != .calling ||
        match request.lookup with
        | .dtc _ _ => false
        | .vin _ => !request.paid
  | stop key => (desk.requests.get? key).all fun request =>
      !request.held && !request.stage.isAnswered
  | saveRefill key => (desk.refills.get? key).all fun refill =>
      match refill.refill with
      | .add _ => refill.read ==
          (desk.accounts refill.tenant).diagApiQuotaRemaining
      | .reset _ => true
  | _ => true

def LookupOp.Careful (op : LookupOp) (desk : LookupDesk) : Prop :=
  op.careful desk = true

instance LookupOp.decidableCareful (op : LookupOp) (desk : LookupDesk) :
    Decidable (op.Careful desk) :=
  inferInstanceAs (Decidable (_ = true))

def LookupStage.pending : LookupStage → Bool
  | looking => false
  | answered _ => false
  | _ => true

/-- A request holds a unit exactly when its provider is paid. -/
structure LookupRequest.Sound (request : LookupRequest) : Prop where
  early : request.stage ∈ [.looking, .searching, .missed] →
    request.unit = false ∧ request.paid = false
  charged : request.stage ∈ [.gating, .consuming] →
    request.unit = false ∧ request.paid = true
  held : request.stage ∈ [.holding, .calling] → request.unit = request.paid
  working : request.stage ≠ .failed

/-- What holds of the requests under way. -/
structure SoundRequests (desk : LookupDesk) : Prop where
  sound : ∀ key request, desk.requests.get? key = some request →
    request.Sound
  fresh : ∀ key request, desk.requests.get? key = some request →
    request.stage.pending = true →
      request.lookup ∉ desk.results.map ProviderResult.lookup
  alone : ∀ key other request request',
    desk.requests.get? key = some request →
      desk.requests.get? other = some request' →
      request.stage ≠ .looking → request'.stage ≠ .looking →
      request.lookup = request'.lookup → key = other
  saved : ∀ lookup ∈ desk.results.map ProviderResult.lookup,
    desk.knows lookup = true ∨ ∃ key request,
      desk.requests.get? key = some request ∧ request.lookup = lookup ∧
        request.stage.isAnswered = true

/-- What holds after every careful operation. -/
structure SoundLookups (desk : LookupDesk) : Prop where
  paid : PaidExactly desk
  requests : SoundRequests desk

section Requests

variable {desk : LookupDesk} (sound : SoundRequests desk) {key : ℕ}
  {request : LookupRequest}

theorem get?_goOn (found : desk.requests.get? key = some request)
    {later request' : LookupRequest} {other : ℕ}
    (there : (desk.goOn key later).requests.get? other = some request') :
    (other = key ∧ request' = later) ∨
      (other ≠ key ∧ desk.requests.get? other = some request') := by
  rw [LookupDesk.goOn, Table.get?_modify] at there
  split at there
  · rename_i here
    rw [found] at there
    exact .inl ⟨here, (Option.some.inj there).symm⟩
  · rename_i different
    exact .inr ⟨different, there⟩

theorem get?_done {request' : LookupRequest} {other : ℕ}
    (there : (desk.done key).requests.get? other = some request') :
    other ≠ key ∧ desk.requests.get? other = some request' := by
  rw [LookupDesk.done, Table.get?_erase] at there
  split at there
  · cases there
  · rename_i different
    exact ⟨different, there⟩

include sound

theorem SoundRequests.done (found : desk.requests.get? key = some request)
    (stored : request.stage.isAnswered = true →
      desk.knows request.lookup = true) : SoundRequests (desk.done key) := by
  constructor
  · exact fun other request' there => sound.sound other _ (get?_done there).2
  · exact fun other request' there => sound.fresh other _ (get?_done there).2
  · exact fun first second request' request'' there there' =>
      sound.alone first second _ _ (get?_done there).2 (get?_done there').2
  · intro lookup member
    rcases sound.saved lookup member with known | ⟨other, request', there,
      equal, answered⟩
    · exact .inl known
    · by_cases here : other = key
      · subst here
        rw [found] at there
        obtain rfl := Option.some.inj there
        rw [← equal]
        exact .inl (stored answered)
      · refine .inr ⟨other, request', ?_, equal, answered⟩
        rw [LookupDesk.done, Table.get?_erase, if_neg here]
        exact there

/-- A request goes on without a result; if it begins, it is the only one with its
lookup. -/
theorem SoundRequests.goOn (found : desk.requests.get? key = some request)
    {later : LookupRequest} (same : later.lookup = request.lookup)
    (right : later.Sound)
    (begun : request.stage ≠ .looking ∨ later.stage = .looking ∨
      ∀ other request', other ≠ key →
        desk.requests.get? other = some request' →
          request'.lookup = request.lookup → request'.stage = .looking)
    (fresh : later.stage.pending = true →
      request.lookup ∉ desk.results.map ProviderResult.lookup)
    (stored : request.stage.isAnswered = true →
      later.stage.isAnswered = true) : SoundRequests (desk.goOn key later) := by
  have alone : ∀ other request', other ≠ key →
      desk.requests.get? other = some request' →
        request'.lookup = request.lookup → request'.stage ≠ .looking →
          later.stage = .looking := by
    intro other request' different there equal active
    rcases begun with before | later' | only
    · exact absurd (sound.alone other key request' request there found active
        before equal) different
    · exact later'
    · exact absurd (only other request' different there equal) active
  constructor
  · intro other request' there
    rcases get?_goOn found there with ⟨-, rfl⟩ | ⟨-, old⟩
    · exact right
    · exact sound.sound other request' old
  · intro other request' there pending
    rcases get?_goOn found there with ⟨-, rfl⟩ | ⟨-, old⟩
    · rw [same]
      exact fresh pending
    · exact sound.fresh other request' old pending
  · intro first second request' request'' there there' active active' equal
    rcases get?_goOn found there with ⟨rfl, rfl⟩ | ⟨different, old⟩
    · rcases get?_goOn found there' with ⟨rfl, -⟩ | ⟨other, old'⟩
      · rfl
      · exact absurd (alone second request'' other old'
          (equal.symm.trans same) active') active
    · rcases get?_goOn found there' with ⟨rfl, rfl⟩ | ⟨-, old'⟩
      · exact absurd (alone first request' different old (equal.trans same)
          active) active'
      · exact sound.alone first second request' request'' old old' active
          active' equal
  · intro lookup member
    rcases sound.saved lookup member with known | ⟨other, request', there,
      equal, answered⟩
    · exact .inl known
    · by_cases here : other = key
      · subst here
        rw [found] at there
        obtain rfl := Option.some.inj there
        refine .inr ⟨other, later, ?_, same.trans equal, stored answered⟩
        rw [LookupDesk.goOn, Table.get?_modify_self, found]
        rfl
      · refine .inr ⟨other, request', ?_, equal, answered⟩
        exact (Table.get?_modify_of_ne _ here _).trans there

theorem SoundRequests.answer (found : desk.requests.get? key = some request)
    (calling : request.stage = .calling) {provider : String}
    {result : ProviderResult} (about : result.lookup = request.lookup) :
    SoundRequests { desk.goOn key { request with stage := .answered provider } with
      results := result :: desk.results } := by
  have active : request.stage ≠ .looking := by
    rw [calling]
    intro same
    cases same
  have onward : SoundRequests
      (desk.goOn key { request with stage := .answered provider }) := by
    refine sound.goOn found rfl ?_ (.inl active) ?_ ?_
    · constructor
      · exact fun early => by simp at early
      · exact fun charged => by simp at charged
      · exact fun held => by simp at held
      · exact fun failed => by cases failed
    · exact fun pending => by cases pending
    · exact fun _ => rfl
  refine ⟨onward.sound, ?_, onward.alone, ?_⟩
  · intro other request' there pending member
    rcases List.mem_cons.mp member with same | earlier
    · rcases get?_goOn found there with ⟨-, rfl⟩ | ⟨different, old⟩
      · cases pending
      · refine different (sound.alone other key request' request old found ?_
          active (same.trans about))
        intro looking
        rw [looking] at pending
        cases pending
    · exact onward.fresh other request' there pending earlier
  · intro lookup member
    rcases List.mem_cons.mp member with rfl | earlier
    · refine .inr ⟨key, { request with stage := .answered provider }, ?_,
        about.symm, rfl⟩
      rw [LookupDesk.goOn, Table.get?_modify_self, found]
      rfl
    · exact onward.saved lookup earlier

end Requests

section Counters

variable {desk : LookupDesk} {key : ℕ} {request : LookupRequest}

theorem unitsHeld_goOn (found : desk.requests.get? key = some request)
    (later : LookupRequest) (owner : later.tenant = request.tenant) (tenant : ℕ) :
    (desk.goOn key later).unitsHeld tenant = desk.unitsHeld tenant +
      ((if request.tenant = tenant ∧ later.held then 1 else 0) -
        if request.tenant = tenant ∧ request.held then 1 else 0) := by
  unfold LookupDesk.unitsHeld LookupDesk.goOn
  rw [Table.total_modify found, owner]

theorem unitsHeld_same {later : LookupRequest}
    (found : desk.requests.get? key = some request) (owner : later.tenant = request.tenant)
    (held : later.held = request.held) (tenant : ℕ) :
    (desk.goOn key later).unitsHeld tenant = desk.unitsHeld tenant := by
  rw [unitsHeld_goOn found later owner, held]
  omega

theorem unitsHeld_done (found : desk.requests.get? key = some request)
    (free : request.held = false) (tenant : ℕ) :
    (desk.done key).unitsHeld tenant = desk.unitsHeld tenant := by
  unfold LookupDesk.unitsHeld LookupDesk.done
  rw [Table.total_erase found]
  simp [free]

theorem PaidExactly.of_same {desk after : LookupDesk}
    (paid : PaidExactly desk) (accounts : after.accounts = desk.accounts)
    (calls : after.calls = desk.calls) (results : after.results = desk.results)
    (held : ∀ tenant, after.unitsHeld tenant = desk.unitsHeld tenant) :
    PaidExactly after := by
  refine ⟨?_, fun tenant => ?_, ?_⟩
  · rw [calls]
    exact paid.taken
  · obtain ⟨remaining, nonneg, used⟩ := paid.balanced tenant
    have counted : after.paidResults tenant = desk.paidResults tenant := by
      rw [LookupDesk.paidResults, LookupDesk.paidResults, results]
    constructor
    · rw [accounts, counted, held]
      exact remaining
    · rw [accounts]
      exact nonneg
    · rw [accounts, counted, held]
      exact used
  · rw [calls]
    exact paid.once

end Counters

section Steps

variable {desk : LookupDesk} (sound : SoundLookups desk) {key : ℕ}
  {request : LookupRequest}

include sound

theorem SoundLookups.done (found : desk.requests.get? key = some request)
    (free : request.held = false)
    (stored : request.stage.isAnswered = false) :
    SoundLookups (desk.done key) where
  paid := sound.paid.of_same rfl rfl rfl (unitsHeld_done found free)
  requests := sound.requests.done found fun answered => by
    rw [stored] at answered
    cases answered

theorem SoundLookups.goOn (found : desk.requests.get? key = some request)
    {later : LookupRequest} (owner : later.tenant = request.tenant)
    (same : later.lookup = request.lookup) (held : later.held = request.held)
    (right : later.Sound) (pending : request.stage.pending = true) :
    SoundLookups (desk.goOn key later) where
  paid := sound.paid.of_same rfl rfl rfl (unitsHeld_same found owner held)
  requests := by
    refine sound.requests.goOn found same right (.inl ?_) ?_ ?_
    · intro looking
      rw [looking] at pending
      cases pending
    · exact fun _ => sound.requests.fresh key request found pending
    · intro answered
      cases stage : request.stage with
      | answered provider =>
          rw [stage] at pending
          cases pending
      | _ =>
          rw [stage] at answered
          cases answered

theorem SoundLookups.begin {tenant : ℕ} {lookup : Lookup} {provider : String}
    {allowExternal : Bool} :
    SoundLookups ((LookupOp.begin tenant lookup provider allowExternal).step
      desk) := by
  have cases' : ∀ other request',
      (desk.requests.insert
        { tenant, lookup, provider, allowExternal }).get? other =
          some request' →
        request'.stage = .looking ∧ request'.Sound ∨
          desk.requests.get? other = some request' := by
    intro other request' there
    rcases Table.get?_insert_cases there with ⟨-, rfl⟩ | there
    · refine .inl ⟨rfl, fun _ => ⟨rfl, rfl⟩, fun charged => ?_, fun held => ?_,
        fun failed => by cases failed⟩
      · simp at charged
      · simp at held
    · exact .inr there
  refine ⟨sound.paid.of_same rfl rfl rfl ?_, ?_, ?_, ?_, ?_⟩
  · intro other
    simp only [LookupDesk.unitsHeld, LookupOp.step, Table.total_insert,
      LookupRequest.held, Bool.false_and, Bool.false_eq_true, and_false,
      if_false, add_zero]
  · intro other request' there
    rcases cases' other request' there with ⟨-, right⟩ | old
    · exact right
    · exact sound.requests.sound other request' old
  · intro other request' there pending
    rcases cases' other request' there with ⟨looking, -⟩ | old
    · rw [looking] at pending
      cases pending
    · exact sound.requests.fresh other request' old pending
  · intro first second request' request'' there there' active active' equal
    rcases cases' first request' there with ⟨looking, -⟩ | old
    · exact absurd looking active
    · rcases cases' second request'' there' with ⟨looking, -⟩ | old'
      · exact absurd looking active'
      · exact sound.requests.alone first second request' request'' old old'
          active active' equal
  · intro other member
    rcases sound.requests.saved other member with known | ⟨key, request', there,
      rest⟩
    · exact .inl known
    · exact .inr ⟨key, request', Table.get?_insert_of_some there _, rest⟩

theorem SoundLookups.load : SoundLookups (desk.load key) := by
  unfold LookupDesk.load
  split
  · exact sound
  · rename_i request found
    obtain ⟨early, charged, held, working⟩ :=
      sound.requests.sound key request found
    refine ⟨sound.paid.of_same rfl rfl rfl
      (unitsHeld_same found rfl (by rfl)), ?_⟩
    refine sound.requests.goOn found rfl ⟨early, charged, held, working⟩ ?_
      (sound.requests.fresh key request found) id
    by_cases looking : request.stage = .looking
    · exact .inr (.inl looking)
    · exact .inl looking

theorem SoundLookups.look (careful : (LookupOp.look key).Careful desk) :
    SoundLookups (desk.look key) := by
  unfold LookupDesk.look
  cases found : desk.requests.get? key with
  | none => exact sound
  | some request =>
      simp only [LookupOp.Careful, LookupOp.careful, found, Option.all_some,
        List.all_eq_true, Bool.or_eq_true, beq_iff_eq, bne_iff_ne] at careful
      have only : ∀ other request', other ≠ key →
          desk.requests.get? other = some request' →
            request'.lookup = request.lookup → request'.stage = .looking := by
        intro other request' different there equal
        rcases careful (other, request') (Table.get?_eq_some.mp there) with
          (same | unequal) | looking
        · exact absurd same different
        · exact absurd equal unequal
        · exact looking
      obtain ⟨early, -, -, -⟩ := sound.requests.sound key request found
      simp only
      split
      · rename_i looking
        obtain ⟨unit, paid⟩ := early (by simp [looking])
        have free : request.held = false := by simp [LookupRequest.held, unit]
        split
        · exact sound.done found free (by rw [looking]; rfl)
        · rename_i unknown
          have fresh : request.lookup ∉
              desk.results.map ProviderResult.lookup := by
            intro member
            rcases sound.requests.saved _ member with known | ⟨other, request',
              there, equal, answered⟩
            · exact unknown known
            · have stage : request'.stage = .looking := by
                by_cases here : other = key
                · subst here
                  rw [found] at there
                  obtain rfl := Option.some.inj there
                  exact looking
                · exact only other request' here there equal
              rw [stage] at answered
              cases answered
          have onward : ∀ stage, stage ∈ [.searching, .missed] →
              SoundLookups (desk.goOn key { request with stage }) := by
            intro stage next
            refine ⟨sound.paid.of_same rfl rfl rfl
              (unitsHeld_same found rfl (by simp [LookupRequest.held, unit])), ?_⟩
            refine sound.requests.goOn found rfl ?_ (.inr (.inr only))
              (fun _ => fresh) ?_
            · constructor
              · exact fun _ => ⟨unit, paid⟩
              · rcases List.mem_cons.mp next with rfl | last
                · simp
                · simp [List.mem_singleton.mp last]
              · rcases List.mem_cons.mp next with rfl | last
                · simp
                · simp [List.mem_singleton.mp last]
              · rintro rfl
                simp at next
            · intro answered
              rw [looking] at answered
              cases answered
          split
          · exact onward _ (by simp)
          · exact onward _ (by simp)
      · exact sound

theorem SoundLookups.unheld (found : desk.requests.get? key = some request)
    (unit : request.unit = false) (pending : request.stage.pending = true) :
    SoundLookups (desk.done key) ∧ ∀ later : LookupRequest,
      later.tenant = request.tenant → later.lookup = request.lookup →
      later.unit = false → later.Sound → SoundLookups (desk.goOn key later) := by
  have free : request.held = false := by simp [LookupRequest.held, unit]
  constructor
  · apply sound.done found free
    cases stage : request.stage with
    | answered provider =>
        rw [stage] at pending
        cases pending
    | _ => rfl
  · intro later owner same unit' right
    refine sound.goOn found owner same ?_ right pending
    rw [free]
    simp [LookupRequest.held, unit']

theorem SoundLookups.search : SoundLookups (desk.search key) := by
  unfold LookupDesk.search
  split
  · exact sound
  · rename_i request found
    split
    · rename_i stage
      obtain ⟨early, -, -, -⟩ := sound.requests.sound key request found
      obtain ⟨unit, -⟩ := early (by simp [stage])
      obtain ⟨finished, onward⟩ := sound.unheld found unit (by rw [stage]; rfl)
      split
      · exact finished
      · split
        · refine onward _ rfl rfl unit ⟨?_, fun _ => ⟨unit, rfl⟩, ?_, ?_⟩
          · exact fun wrong => by simp at wrong
          · exact fun wrong => by simp at wrong
          · exact fun wrong => by cases wrong
        · exact finished
    · exact sound

theorem SoundLookups.price {costs : Bool} :
    SoundLookups (desk.price key costs) := by
  unfold LookupDesk.price
  split
  · exact sound
  · rename_i request found
    split
    · rename_i stage
      obtain ⟨early, -, -, -⟩ := sound.requests.sound key request found
      obtain ⟨unit, paid⟩ := early (by simp [stage])
      obtain ⟨-, onward⟩ := sound.unheld found unit (by rw [stage]; rfl)
      split
      · refine onward _ rfl rfl unit ⟨?_, fun _ => ⟨unit, rfl⟩, ?_, ?_⟩
        · exact fun wrong => by simp at wrong
        · exact fun wrong => by simp at wrong
        · exact fun wrong => by cases wrong
      · refine onward _ rfl rfl unit ⟨?_, ?_, fun _ => ?_, ?_⟩
        · exact fun wrong => by simp at wrong
        · exact fun wrong => by simp at wrong
        · exact unit.trans paid.symm
        · exact fun wrong => by cases wrong
    · exact sound

theorem SoundLookups.check {allowed : Bool} :
    SoundLookups (desk.check key allowed) := by
  unfold LookupDesk.check
  split
  · exact sound
  · rename_i request found
    split
    · rename_i stage
      obtain ⟨-, charged, -, -⟩ := sound.requests.sound key request found
      obtain ⟨unit, paid⟩ := charged (by simp [stage])
      obtain ⟨finished, onward⟩ := sound.unheld found unit (by rw [stage]; rfl)
      simp only
      split
      · refine onward _ rfl rfl unit ⟨?_, fun _ => ⟨unit, paid⟩, ?_, ?_⟩
        · exact fun wrong => by simp at wrong
        · exact fun wrong => by simp at wrong
        · exact fun wrong => by cases wrong
      · exact finished
    · exact sound

theorem SoundLookups.consume (careful : (LookupOp.consume key).Careful desk) :
    SoundLookups (desk.consume key) := by
  unfold LookupDesk.consume
  split
  · exact sound
  · rename_i request found
    split
    · rename_i stage
      obtain ⟨-, charged, -, -⟩ := sound.requests.sound key request found
      obtain ⟨unit, paid⟩ := charged (by simp [stage])
      have pending : request.stage.pending = true := by
        rw [stage]
        rfl
      have active : request.stage ≠ .looking := by
        rw [stage]
        exact fun wrong => by cases wrong
      have free : request.held = false := by simp [LookupRequest.held, unit]
      obtain ⟨finished, onward⟩ := sound.unheld found unit pending
      simp only
      split
      · rename_i left
        have taken : LookupRequest.held
            { request with
              stage := .holding
              unit := true } = true := rfl
        have requests : SoundRequests (desk.goOn key
            { request with
              stage := .holding
              unit := true }) := by
          refine sound.requests.goOn found rfl ⟨?_, ?_, fun _ => ?_, ?_⟩
            (.inl active) (fun _ => sound.requests.fresh key request found
              pending) ?_
          · exact fun wrong => by simp at wrong
          · exact fun wrong => by simp at wrong
          · exact paid.symm
          · exact fun wrong => by cases wrong
          · intro answered
            rw [stage] at answered
            cases answered
        refine ⟨⟨sound.paid.taken, fun tenant => ?_, sound.paid.once⟩,
          requests.sound, requests.fresh, requests.alone, requests.saved⟩
        obtain ⟨remaining, nonneg, used⟩ := sound.paid.balanced tenant
        have held : ∀ accounts, LookupDesk.unitsHeld
            (LookupDesk.goOn { desk with accounts } key
              { request with
                stage := .holding
                unit := true }) tenant = desk.unitsHeld tenant +
            if request.tenant = tenant then 1 else 0 := by
          intro accounts
          have counted := unitsHeld_goOn found
            { request with
              stage := .holding
              unit := true } rfl tenant
          rw [taken, free] at counted
          simp only [and_true, Bool.false_eq_true, and_false, if_false,
            sub_zero] at counted
          exact counted
        unfold LookupDesk.charge
        by_cases same : tenant = request.tenant
        · subst same
          constructor
          · rw [held]
            simp only [LookupDesk.goOn, LookupDesk.paidResults, if_true] at *
            omega
          · simp only [LookupDesk.goOn, if_true] at *
            omega
          · rw [held]
            simp only [LookupDesk.goOn, LookupDesk.paidResults, if_true] at *
            omega
        · have other : request.tenant ≠ tenant := Ne.symm same
          constructor
          · rw [held]
            simp only [LookupDesk.goOn, LookupDesk.paidResults, if_neg same,
              if_neg other] at *
            omega
          · simp only [LookupDesk.goOn, if_neg same] at *
            exact nonneg
          · rw [held]
            simp only [LookupDesk.goOn, LookupDesk.paidResults, if_neg same,
              if_neg other] at *
            omega
      · rename_i none
        split
        · exact finished
        · rename_i vin lookup
          simp only [LookupOp.Careful, LookupOp.careful, found,
            Option.all_some, lookup, stage] at careful
          simp at careful
          exact absurd careful none
    · exact sound

theorem SoundLookups.call : SoundLookups (desk.call key) := by
  unfold LookupDesk.call
  split
  · exact sound
  · rename_i request found
    split
    · rename_i stage
      obtain ⟨-, -, held, -⟩ := sound.requests.sound key request found
      have unit := held (by simp [stage])
      have pending : request.stage.pending = true := by
        rw [stage]
        rfl
      have fresh := sound.requests.fresh key request found pending
      have onward : SoundLookups
          (desk.goOn key { request with stage := .calling }) := by
        refine sound.goOn found rfl rfl ?_ ⟨?_, ?_, fun _ => unit, ?_⟩ pending
        · simp [LookupRequest.held, stage]
        · exact fun wrong => by simp at wrong
        · exact fun wrong => by simp at wrong
        · exact fun wrong => by cases wrong
      refine ⟨⟨?_, fun tenant => ?_, ?_⟩, onward.requests.sound,
        onward.requests.fresh, onward.requests.alone, onward.requests.saved⟩
      · refine List.forall_mem_cons.mpr ⟨fun paid => ?_, sound.paid.taken⟩
        exact unit.trans paid
      · obtain ⟨remaining, nonneg, used⟩ := onward.paid.balanced tenant
        exact ⟨remaining, nonneg, used⟩
      · refine List.forall_mem_cons.mpr ⟨?_, sound.paid.once⟩
        exact decide_eq_false fresh
    · exact sound

theorem SoundLookups.answer {provider : String} :
    SoundLookups (desk.answer key provider) := by
  unfold LookupDesk.answer
  split
  · exact sound
  · rename_i request found
    split
    · rename_i stage
      obtain ⟨-, -, held, -⟩ := sound.requests.sound key request found
      have unit := held (by simp [stage])
      refine ⟨⟨sound.paid.taken, fun tenant => ?_, sound.paid.once⟩,
        sound.requests.answer found stage rfl⟩
      obtain ⟨remaining, nonneg, used⟩ := sound.paid.balanced tenant
      have counted := unitsHeld_goOn found
        { request with stage := .answered provider } rfl tenant
      have free : LookupRequest.held
          { request with stage := .answered provider } = false := by
        simp [LookupRequest.held]
      have taken : request.held = request.paid := by
        simp [LookupRequest.held, stage, unit]
      have results : LookupDesk.paidResults
          { desk.goOn key { request with stage := .answered provider } with
            results :=
              { tenant := request.tenant
                lookup := request.lookup
                paid := request.paid } :: desk.results } tenant =
          desk.paidResults tenant +
            if request.tenant = tenant ∧ request.paid then 1 else 0 := by
        simp only [LookupDesk.paidResults, List.countP_cons]
        by_cases mine : request.tenant = tenant ∧ request.paid
        · simp [mine]
        · rw [if_neg mine, if_neg (by simpa using mine)]
          rfl
      rw [free, taken] at counted
      simp only [Bool.false_eq_true, and_false, if_false, zero_sub] at counted
      have held' : LookupDesk.unitsHeld
          { desk.goOn key { request with stage := .answered provider } with
            results :=
              { tenant := request.tenant
                lookup := request.lookup
                paid := request.paid } :: desk.results } tenant =
          desk.unitsHeld tenant +
            -(if request.tenant = tenant ∧ request.paid then 1 else 0) :=
        counted
      constructor
      · rw [results, held']
        simp only [LookupDesk.goOn]
        omega
      · exact nonneg
      · rw [results, held']
        simp only [LookupDesk.goOn]
        omega
    · exact sound

theorem SoundLookups.raise (careful : (LookupOp.raise key).Careful desk) :
    SoundLookups (desk.raise key) := by
  unfold LookupDesk.raise
  split
  · exact sound
  · rename_i request found
    split
    · rename_i stage
      simp only [LookupOp.Careful, LookupOp.careful, found, Option.all_some,
        stage, bne_self_eq_false, Bool.false_or] at careful
      obtain ⟨-, -, held, -⟩ := sound.requests.sound key request found
      have unit := held (by simp [stage])
      split
      · rename_i lookup
        rw [lookup] at careful
        cases careful
      · rename_i lookup
        rw [lookup] at careful
        simp only [Bool.not_eq_true'] at careful
        apply sound.done found
        · simp [LookupRequest.held, unit, careful]
        · rw [stage]
          rfl
    · exact sound

theorem SoundLookups.refund : SoundLookups (desk.refund key) := by
  unfold LookupDesk.refund
  split
  · exact sound
  · rename_i request found
    rw [if_neg (sound.requests.sound key request found).working]
    exact sound

/-- What is known only grows. -/
theorem SoundLookups.persisted {catalog vins : List String}
    {cache : List (String × String × String)}
    (found : desk.requests.get? key = some request)
    (answered : request.stage.isAnswered = true)
    (grows : ∀ lookup, desk.knows lookup = true →
      LookupDesk.knows { desk with catalog, cache, vins } lookup = true)
    (stored : LookupDesk.knows { desk with catalog, cache, vins }
      request.lookup = true) :
    SoundLookups { desk.done key with catalog, cache, vins } := by
  have free : request.held = false := by
    cases stage : request.stage with
    | answered provider => simp [LookupRequest.held, stage]
    | _ =>
        rw [stage] at answered
        cases answered
  have more : SoundRequests { desk with catalog, cache, vins } :=
    ⟨sound.requests.sound, sound.requests.fresh, sound.requests.alone,
      fun lookup member => (sound.requests.saved lookup member).imp_left
        (grows lookup)⟩
  have after := more.done found fun _ => stored
  refine ⟨sound.paid.of_same rfl rfl rfl (unitsHeld_done found free), ?_⟩
  exact ⟨after.sound, after.fresh, after.alone, after.saved⟩

theorem SoundLookups.persist : SoundLookups (desk.persist key) := by
  unfold LookupDesk.persist
  split
  · exact sound
  · rename_i request found
    split
    · rename_i code vehicleSignature provider lookup stage
      apply sound.persisted found (by rw [stage]; rfl)
      · rintro (⟨other, signature⟩ | vin) known
        · simp only [LookupDesk.knows, decide_eq_true_eq] at known ⊢
          exact List.mem_cons_of_mem _ known
        · exact known
      · rw [lookup]
        simp [LookupDesk.knows]
    · rename_i vin provider lookup stage
      apply sound.persisted found (by rw [stage]; rfl)
      · rintro (⟨other, signature⟩ | other) known
        · exact known
        · simp only [LookupDesk.knows, decide_eq_true_eq] at known ⊢
          exact List.mem_cons_of_mem _ known
      · rw [lookup]
        simp [LookupDesk.knows]
    · exact sound

theorem SoundLookups.stop (careful : (LookupOp.stop key).Careful desk) :
    SoundLookups (desk.done key) := by
  cases found : desk.requests.get? key with
  | none =>
      rw [LookupDesk.done, Table.erase_eq_self found]
      exact sound
  | some request =>
      simp only [LookupOp.Careful, LookupOp.careful, found, Option.all_some,
        Bool.and_eq_true, Bool.not_eq_true'] at careful
      exact sound.done found careful.1 careful.2

theorem SoundLookups.charge {refills : Table OpenRefill} {tenant : ℕ}
    {change : ApiAccount → ApiAccount}
    (exact' : ∀ account : ApiAccount, desk.accounts tenant = account →
      (change account).diagApiQuotaRemaining - (change account).refilled =
          account.diagApiQuotaRemaining - account.refilled ∧
        0 ≤ (change account).diagApiQuotaRemaining ∧
        (change account).diagApiScansUsedTotal =
          account.diagApiScansUsedTotal) :
    SoundLookups (LookupDesk.charge { desk with refills } tenant change) := by
  refine ⟨⟨sound.paid.taken, fun other => ?_, sound.paid.once⟩,
    sound.requests.sound, sound.requests.fresh, sound.requests.alone,
    sound.requests.saved⟩
  obtain ⟨remaining, nonneg, used⟩ := sound.paid.balanced other
  obtain ⟨kept, positive, counted⟩ := exact' _ rfl
  by_cases same : other = tenant
  · subst same
    constructor
    · simp only [LookupDesk.charge, if_true, LookupDesk.paidResults,
        LookupDesk.unitsHeld] at *
      omega
    · simpa only [LookupDesk.charge, if_true] using positive
    · simp only [LookupDesk.charge, if_true, LookupDesk.paidResults,
        LookupDesk.unitsHeld] at *
      omega
  · constructor
    · simp only [LookupDesk.charge, if_neg same]
      exact remaining
    · simp only [LookupDesk.charge, if_neg same]
      exact nonneg
    · simp only [LookupDesk.charge, if_neg same]
      exact used

theorem SoundLookups.loadRefill {tenant : ℕ} {refill : Refill} :
    SoundLookups (desk.loadRefill tenant refill) := by
  unfold LookupDesk.loadRefill
  split
  · exact ⟨sound.paid.of_same rfl rfl rfl fun _ => rfl, sound.requests.sound,
      sound.requests.fresh, sound.requests.alone, sound.requests.saved⟩
  · exact sound

theorem SoundLookups.saveRefill
    (careful : (LookupOp.saveRefill key).Careful desk) :
    SoundLookups (desk.saveRefill key) := by
  unfold LookupDesk.saveRefill
  split
  · exact sound
  · rename_i tenant read refill found
    have nonneg := (sound.paid.balanced tenant).nonneg
    simp only [LookupOp.Careful, LookupOp.careful, found,
      Option.all_some] at careful
    cases refill with
    | add amount =>
        simp only [beq_iff_eq] at careful
        apply sound.charge
        rintro account rfl
        refine ⟨?_, le_max_left _ _, rfl⟩
        simp only
        omega
    | reset limit =>
        apply sound.charge
        rintro account rfl
        refine ⟨?_, le_max_left _ _, rfl⟩
        simp only
        omega

theorem SoundLookups.step {op : LookupOp} (careful : op.Careful desk) :
    SoundLookups (op.step desk) := by
  cases op with
  | subscribe tenant =>
      have same : (LookupOp.subscribe tenant).step desk =
          LookupDesk.charge { desk with refills := desk.refills } tenant
            ({ · with subscribed := true }) := rfl
      rw [same]
      apply sound.charge
      rintro account rfl
      exact ⟨rfl, (sound.paid.balanced tenant).nonneg, rfl⟩
  | begin tenant lookup provider allowExternal => exact sound.begin
  | load key => exact sound.load
  | look key => exact sound.look careful
  | search key => exact sound.search
  | price key costs => exact sound.price
  | check key allowed => exact sound.check
  | consume key => exact sound.consume careful
  | call key => exact sound.call
  | answer key provider => exact sound.answer
  | raise key => exact sound.raise careful
  | refund key => exact sound.refund
  | persist key => exact sound.persist
  | stop key => exact sound.stop careful
  | loadRefill tenant refill => exact sound.loadRefill
  | saveRefill key => exact sound.saveRefill careful

end Steps

theorem sound_openedLookups (catalog : List String)
    (cache : List (String × String × String)) (vins : List String) :
    SoundLookups (openedLookups catalog cache vins) where
  paid :=
    { taken := fun call member => by cases member
      balanced := fun tenant => ⟨rfl, le_rfl, rfl⟩
      once := fun call member => by cases member }
  requests :=
    { sound := fun _ _ found => by cases found
      fresh := fun _ _ found => by cases found
      alone := fun _ _ _ _ found => by cases found
      saved := fun _ member => by cases member }

/-- External lookups are paid exactly, in every careful run. -/
theorem lookups_paidExactly (catalog : List String)
    (cache : List (String × String × String)) (vins : List String)
    (ops : List LookupOp)
    (careful : Txn.Throughout LookupOp.run LookupOp.Careful ops
      (openedLookups catalog cache vins)) :
    PaidExactly
      (Txn.after LookupOp.run ops (openedLookups catalog cache vins)) := by
  apply SoundLookups.paid
  refine Txn.after_of_throughout SoundLookups ?_ ?_ ops _
    (sound_openedLookups catalog cache vins) careful
  · intro op before error after returned
    cases returned
  · intro op before after sound met returned
    obtain rfl := Txn.modify_eq_ok.mp returned
    exact sound.step met

def oneUnit (lookup : Lookup) : List LookupOp :=
  [.subscribe 1, .loadRefill 1 (.add 1), .saveRefill 0,
    .begin 1 lookup "carmd" true, .load 0, .look 0, .search 0, .price 0 true,
    .check 0 true, .consume 0, .call 0]

def foundCode : List LookupOp :=
  oneUnit (.dtc "P0301" "") ++
    [.answer 0 "carmd", .persist 0, .begin 1 (.dtc "P0301" "") "carmd" true,
      .look 1, .begin 1 (.vin "WBA00000000000000") "nhtsa" true, .look 2,
      .price 2 false, .call 2, .raise 2, .loadRefill 1 (.reset 50),
      .saveRefill 1]

theorem lookups_paidExactly_foundCode : PaidExactly
    (Txn.after LookupOp.run foundCode (openedLookups [] [] [])) :=
  lookups_paidExactly [] [] [] foundCode
    (Txn.throughout_of_checks (by decide +kernel))

/-- The provider of a code raises: the unit comes back, but stays counted as
used. -/
theorem lookups_countsFailure : ¬ ∀ ops : List LookupOp,
    PaidExactly (Txn.after LookupOp.run ops (openedLookups [] [] [])) := by
  intro paid
  have used := ((paid (oneUnit (.dtc "P0301" "") ++
    [.raise 0, .refund 0])).balanced 1).used
  revert used
  decide +kernel

end Obd

end Mousstec
