import Mousstec.Clients.DiagnosticsQuota

/-!
# The allowance over runs

Outside the free trial the counters of a row that is brought up to date are the
uses of the month; on the trial they are the uses of the whole trial.  A check
that saves a rollover keeps this, unless the month has begun without it and uses
were charged since.
-/

namespace Mousstec

namespace Clients

open Library

theorem index_periodStartFor (date : Date) :
    (periodStartFor date).index = date.index := rfl

theorem periodStartFor_eq {left right : Date} (same : left.index = right.index) :
    periodStartFor left = periodStartFor right := by
  obtain ⟨year, month⟩ :=
    monthIndex_injective left.month_valid right.month_valid same
  exact Date.ext year month rfl

theorem le_trans_date {first second third : Date} (left : first ≤ second)
    (right : second ≤ third) : first ≤ third := by
  rw [Date.le_def] at left right ⊢
  omega

namespace QuotaSubscription

def monthLimit (row : QuotaSubscription) (kind : QuotaKind) : ℤ :=
  match row.plan, kind with
  | none, _ => 0
  | some plan, .scan => plan.monthlyDiagnosticsScansQuota
  | some plan, .bot => plan.monthlyDiagnosticsBotQuota

def trialLimit (row : QuotaSubscription) : ℤ :=
  match row.plan with
  | none => 0
  | some plan =>
      min trialDiagnosticsScans
        (orElse plan.monthlyDiagnosticsScansQuota trialDiagnosticsScans)

variable {account : TrialAccount} {today : Date} {row : QuotaSubscription}
  {kind : QuotaKind}

theorem planLimit_of_onTrial (trial : row.onTrial account today = true) :
    row.planLimit account today .scan = row.trialLimit := by
  cases known : row.plan with
  | none => simp [planLimit, trialLimit, known]
  | some plan => simp [planLimit, trialLimit, known, trial]

theorem planLimit_of_not_onTrial (paid : row.onTrial account today = false) :
    row.planLimit account today kind = row.monthLimit kind := by
  cases known : row.plan with
  | none => simp [planLimit, monthLimit, known]
  | some plan => cases kind <;> simp [planLimit, monthLimit, known, paid]

theorem planLimit_ensure :
    (row.ensurePeriodCurrent account today).planLimit account today kind =
      row.planLimit account today kind := by
  rw [ensurePeriodCurrent]
  split <;> rfl

theorem crossesMonth_eq_true :
    row.crossesMonth account today = true ↔
      row.onTrial account today = false ∧
        row.diagPeriodStart ≠ some (periodStartFor today) := by
  simp [crossesMonth]

theorem crossesMonth_rolledOver :
    (row.rolledOver today).crossesMonth account today = false := by
  simp [crossesMonth, rolledOver]

theorem ensure_ensure :
    (row.ensurePeriodCurrent account today).ensurePeriodCurrent account today =
      row.ensurePeriodCurrent account today := by
  by_cases crosses : row.crossesMonth account today = true
  · have rolled : row.ensurePeriodCurrent account today =
        row.rolledOver today := if_pos crosses
    rw [rolled, ensurePeriodCurrent, crossesMonth_rolledOver]
    rfl
  · have same : row.ensurePeriodCurrent account today = row := if_neg crosses
    rw [same, same]

theorem used_charged_self : (row.charged kind).used kind = row.used kind + 1 := by
  cases kind <;> rfl

theorem used_charged_of_ne {other : QuotaKind} (different : other ≠ kind) :
    (row.charged kind).used other = row.used other := by
  cases kind <;> cases other <;> first | rfl | exact absurd rfl different

theorem used_rolledOver : (row.rolledOver today).used kind = 0 := by
  cases kind <;> rfl

end QuotaSubscription

/-- What a check saves over the row that it has read is that row, brought up to
date. -/
theorem saved_self (check : OpenCheck) (today : Date) :
    check.saved today check.row =
      check.row.ensurePeriodCurrent check.account today := by
  rw [OpenCheck.saved]
  split
  · rename_i crosses
    have rolled : check.row.ensurePeriodCurrent check.account today =
        check.row.rolledOver today := if_pos crosses
    rw [rolled]
    rfl
  · rename_i stays
    exact (if_neg stays).symm

theorem saved_eq (check : OpenCheck) (today : Date) (row : QuotaSubscription) :
    check.saved today row =
      if check.row.crossesMonth check.account today then row.rolledOver today
      else row := by
  rw [OpenCheck.saved]
  split
  · rename_i crosses
    have rolled : check.row.ensurePeriodCurrent check.account today =
        check.row.rolledOver today := if_pos crosses
    rw [rolled]
    rfl
  · rfl

namespace QuotaDesk

def chargedIn (desk : QuotaDesk) (kind : QuotaKind) (month : ℕ) : ℕ :=
  desk.uses.countP fun use =>
    use.kind = kind ∧ use.chargedTo = .plan ∧ use.onTrial = false ∧
      use.month = month

def chargedOnTrial (desk : QuotaDesk) (kind : QuotaKind) : ℕ :=
  desk.uses.countP fun use =>
    use.kind = kind ∧ use.chargedTo = .plan ∧ use.onTrial = true

def drawn (desk : QuotaDesk) : ℕ :=
  desk.uses.countP (·.chargedTo = .topup)

def onTrial (desk : QuotaDesk) : Bool :=
  desk.row.onTrial desk.account desk.today

end QuotaDesk

structure QuotaMetered (desk : QuotaDesk) : Prop where
  monthly : ∀ kind month,
    (desk.chargedIn kind month : ℤ) ≤ max 0 (desk.row.monthLimit kind)
  trial : (desk.chargedOnTrial .scan : ℤ) ≤ max 0 desk.row.trialLimit
  balance : desk.row.diagTopupBalance = desk.added - desk.drawn
  funded : 0 ≤ desk.row.diagTopupBalance

structure SoundDesk (desk : QuotaDesk) : Prop extends QuotaMetered desk where
  started : ∀ start, desk.row.diagPeriodStart = some start →
    periodStartFor start = start ∧ start.index ≤ desk.today.index
  /-- The counters are the uses of the month of the row. -/
  counted : ∀ start, desk.row.diagPeriodStart = some start → ∀ kind,
    desk.row.used kind = desk.chargedIn kind start.index
  /-- No use is in a month after it. -/
  past : ∀ use ∈ desk.uses, use.chargedTo = .plan → use.onTrial = false →
    ∃ start, desk.row.diagPeriodStart = some start ∧ use.month ≤ start.index
  trialing : desk.onTrial = true → desk.row.diagPeriodStart = none ∧
    ∀ kind, desk.row.used kind = desk.chargedOnTrial kind
  /-- A check that is under way saw the trial if there still is one. -/
  checking : ∀ key check, desk.checks.get? key = some check →
    check.account.trialEndsAt = desk.account.trialEndsAt ∧
      (desk.row.isActive = false → desk.account.status = .trial →
        check.row.isActive = false ∧ check.account.status = .trial)

section Desk

variable {desk : QuotaDesk}

theorem chargedIn_of_crosses (sound : SoundDesk desk)
    (earlier : desk.row.diagPeriodStart ≠ some (periodStartFor desk.today))
    (kind : QuotaKind) : desk.chargedIn kind desk.today.index = 0 := by
  rw [QuotaDesk.chargedIn, List.countP_eq_zero]
  intro use member counted
  rw [decide_eq_true_eq] at counted
  obtain ⟨-, charged, outside, month⟩ := counted
  obtain ⟨start, stored, before⟩ := sound.past use member charged outside
  obtain ⟨first, bound⟩ := sound.started start stored
  apply earlier
  have same : start.index = desk.today.index := by omega
  rw [stored, ← first, periodStartFor_eq same]

/-- Outside the trial the counters of the row, brought up to date, are the uses
of this month. -/
theorem used_current (sound : SoundDesk desk) (outside : desk.onTrial = false)
    (kind : QuotaKind) :
    (desk.row.ensurePeriodCurrent desk.account desk.today).used kind =
      desk.chargedIn kind desk.today.index := by
  rw [QuotaSubscription.ensurePeriodCurrent]
  split
  · rename_i crosses
    obtain ⟨-, earlier⟩ := QuotaSubscription.crossesMonth_eq_true.mp crosses
    rw [QuotaSubscription.used_rolledOver, chargedIn_of_crosses sound earlier]
    rfl
  · rename_i stays
    have current : desk.row.diagPeriodStart =
        some (periodStartFor desk.today) := by
      by_contra earlier
      exact stays (QuotaSubscription.crossesMonth_eq_true.mpr ⟨outside, earlier⟩)
    exact sound.counted _ current kind

theorem ensure_of_onTrial (trial : desk.onTrial = true) :
    desk.row.ensurePeriodCurrent desk.account desk.today = desk.row := by
  refine if_neg fun crosses => ?_
  have outside := (QuotaSubscription.crossesMonth_eq_true.mp crosses).1
  rw [QuotaDesk.onTrial, outside] at trial
  cases trial

private theorem countP_append_singleton {α : Type} (counts : α → Prop)
    [DecidablePred counts] (items : List α) (item : α) :
    (items ++ [item]).countP (fun item => decide (counts item)) =
      items.countP (fun item => decide (counts item)) +
        if counts item then 1 else 0 := by
  rw [List.countP_append, List.countP_singleton]
  by_cases here : counts item <;> simp [here]

section Counts

variable (kind other : QuotaKind) (chargedTo : ChargedTo) (month : ℕ)
  (row : QuotaSubscription)

def usedDesk (desk : QuotaDesk) (row : QuotaSubscription) (kind : QuotaKind)
    (chargedTo : ChargedTo) : QuotaDesk :=
  { desk with row, uses := desk.uses ++ [desk.use kind chargedTo] }

theorem chargedIn_used :
    (usedDesk desk row kind chargedTo).chargedIn other month =
      desk.chargedIn other month +
        if kind = other ∧ chargedTo = .plan ∧ desk.onTrial = false ∧
          desk.today.index = month then 1 else 0 :=
  countP_append_singleton (fun use : QuotaUse => use.kind = other ∧
    use.chargedTo = .plan ∧ use.onTrial = false ∧ use.month = month) _ _

theorem chargedOnTrial_used :
    (usedDesk desk row kind chargedTo).chargedOnTrial other =
      desk.chargedOnTrial other +
        if kind = other ∧ chargedTo = .plan ∧ desk.onTrial = true then 1
        else 0 :=
  countP_append_singleton (fun use : QuotaUse => use.kind = other ∧
    use.chargedTo = .plan ∧ use.onTrial = true) _ _

theorem drawn_used :
    (usedDesk desk row kind chargedTo).drawn =
      desk.drawn + if chargedTo = .topup then 1 else 0 :=
  countP_append_singleton (fun use : QuotaUse => use.chargedTo = .topup) _ _

end Counts

/-- A use charged to the top-up balance keeps the invariant. -/
theorem sound_drawn (sound : SoundDesk desk) (kind : QuotaKind)
    (left : 0 < desk.row.diagTopupBalance) :
    SoundDesk (usedDesk desk desk.row.drawn kind .topup) where
  monthly other month := by
    rw [chargedIn_used, if_neg (fun all => ChargedTo.noConfusion all.2.1)]
    exact sound.monthly other month
  trial := by
    rw [chargedOnTrial_used, if_neg (fun all => ChargedTo.noConfusion all.2.1)]
    exact sound.trial
  balance := by
    rw [drawn_used, if_pos rfl]
    change desk.row.diagTopupBalance - 1 = desk.added - _
    rw [sound.balance]
    push_cast
    omega
  funded := by
    change 0 ≤ desk.row.diagTopupBalance - 1
    omega
  started := sound.started
  counted start stored other := by
    rw [chargedIn_used, if_neg (fun all => ChargedTo.noConfusion all.2.1)]
    have same : desk.row.drawn.used other = desk.row.used other := by
      cases other <;> rfl
    exact same.trans (sound.counted start stored other)
  past use member charged outside := by
    rcases List.mem_append.mp member with old | new
    · exact sound.past use old charged outside
    · rw [List.mem_singleton.mp new] at charged
      cases charged
  trialing trial := by
    obtain ⟨unstarted, counts⟩ := sound.trialing trial
    refine ⟨unstarted, fun other => ?_⟩
    rw [chargedOnTrial_used, if_neg (fun all => ChargedTo.noConfusion all.2.1)]
    have same : desk.row.drawn.used other = desk.row.used other := by
      cases other <;> rfl
    exact same.trans (counts other)
  checking := sound.checking

def chargedRow (desk : QuotaDesk) (kind : QuotaKind) : QuotaSubscription :=
  (desk.row.ensurePeriodCurrent desk.account desk.today).charged kind

theorem periodStart_charged (row : QuotaSubscription) (kind : QuotaKind) :
    (row.charged kind).diagPeriodStart = row.diagPeriodStart := by
  cases kind <;> rfl

theorem isActive_charged (kind : QuotaKind) :
    (chargedRow desk kind).isActive = desk.row.isActive := by
  rw [chargedRow, QuotaSubscription.ensurePeriodCurrent]
  split <;> cases kind <;> rfl

theorem plan_charged (kind : QuotaKind) :
    (chargedRow desk kind).plan = desk.row.plan := by
  rw [chargedRow, QuotaSubscription.ensurePeriodCurrent]
  split <;> cases kind <;> rfl

theorem topup_charged (kind : QuotaKind) :
    (chargedRow desk kind).diagTopupBalance = desk.row.diagTopupBalance := by
  rw [chargedRow, QuotaSubscription.ensurePeriodCurrent]
  split <;> cases kind <;> rfl

theorem monthLimit_of_plan {first second : QuotaSubscription}
    (same : first.plan = second.plan) (kind : QuotaKind) :
    first.monthLimit kind = second.monthLimit kind := by
  simp only [QuotaSubscription.monthLimit, same]

theorem trialLimit_of_plan {first second : QuotaSubscription}
    (same : first.plan = second.plan) : first.trialLimit = second.trialLimit := by
  simp only [QuotaSubscription.trialLimit, same]

theorem periodStart_chargedRow (outside : desk.onTrial = false)
    (kind : QuotaKind) :
    (chargedRow desk kind).diagPeriodStart =
      some (periodStartFor desk.today) := by
  rw [chargedRow, periodStart_charged, QuotaSubscription.ensurePeriodCurrent]
  split
  · rfl
  · rename_i stays
    by_contra earlier
    exact stays (QuotaSubscription.crossesMonth_eq_true.mpr ⟨outside, earlier⟩)

/-- A use charged to the plan outside the trial keeps the invariant. -/
theorem sound_charged (sound : SoundDesk desk) (outside : desk.onTrial = false)
    (kind : QuotaKind)
    (left : (desk.row.ensurePeriodCurrent desk.account desk.today).used kind <
      desk.row.planLimit desk.account desk.today kind) :
    SoundDesk (usedDesk desk (chargedRow desk kind) kind .plan) := by
  have current := used_current sound outside
  have limit : desk.row.planLimit desk.account desk.today kind =
      desk.row.monthLimit kind :=
    QuotaSubscription.planLimit_of_not_onTrial outside
  have started := periodStart_chargedRow outside kind
  have unsure : (usedDesk desk (chargedRow desk kind) kind .plan).onTrial =
      false := by
    rw [← outside, QuotaDesk.onTrial, QuotaDesk.onTrial,
      QuotaSubscription.onTrial, QuotaSubscription.onTrial, usedDesk,
      isActive_charged]
  refine ⟨⟨?_, ?_, ?_, ?_⟩, ?_, ?_, ?_, ?_, ?_⟩
  · intro other month
    have same := monthLimit_of_plan (plan_charged kind : _ = desk.row.plan) other
    rw [chargedIn_used, usedDesk, same]
    split
    · rename_i here
      obtain ⟨rfl, -, -, rfl⟩ := here
      rw [current, limit] at left
      push_cast
      omega
    · exact sound.monthly other month
  · have same := trialLimit_of_plan (plan_charged kind : _ = desk.row.plan)
    rw [chargedOnTrial_used, usedDesk, same, if_neg]
    · exact sound.trial
    · rintro ⟨-, -, trial⟩
      rw [outside] at trial
      cases trial
  · rw [drawn_used, if_neg nofun]
    exact (topup_charged kind).trans sound.balance
  · exact le_of_le_of_eq sound.funded (topup_charged kind).symm
  · intro start stored
    rw [usedDesk, started] at stored
    obtain rfl := Option.some.inj stored
    exact ⟨rfl, le_refl _⟩
  · intro start stored other
    rw [usedDesk, started] at stored
    obtain rfl := Option.some.inj stored
    rw [chargedIn_used]
    change (chargedRow desk kind).used other = _
    by_cases same : other = kind
    · subst same
      rw [if_pos ⟨rfl, rfl, outside, rfl⟩, chargedRow,
        QuotaSubscription.used_charged_self, current]
      rfl
    · rw [if_neg (fun all => same all.1.symm), chargedRow,
        QuotaSubscription.used_charged_of_ne same, current]
      rfl
  · intro use member charged still
    refine ⟨_, started, ?_⟩
    rcases List.mem_append.mp member with old | new
    · obtain ⟨start, stored, bound⟩ := sound.past use old charged still
      exact bound.trans (sound.started start stored).2
    · rw [List.mem_singleton.mp new]
      exact le_refl _
  · intro trial
    rw [unsure] at trial
    cases trial
  · intro key check stored
    obtain ⟨ends, seen⟩ := sound.checking key check stored
    refine ⟨ends, fun inactive => seen ?_⟩
    rw [← isActive_charged kind]
    exact inactive

/-- A use charged to the plan on the trial keeps the invariant. -/
theorem sound_charged_onTrial (sound : SoundDesk desk)
    (trial : desk.onTrial = true) (kind : QuotaKind)
    (left : desk.row.used kind <
      desk.row.planLimit desk.account desk.today kind) :
    SoundDesk (usedDesk desk (desk.row.charged kind) kind .plan) := by
  obtain ⟨unstarted, counts⟩ := sound.trialing trial
  have plan : (desk.row.charged kind).plan = desk.row.plan := by
    cases kind <;> rfl
  have active : (desk.row.charged kind).isActive = desk.row.isActive := by
    cases kind <;> rfl
  have topup : (desk.row.charged kind).diagTopupBalance =
      desk.row.diagTopupBalance := by cases kind <;> rfl
  have none : (usedDesk desk (desk.row.charged kind) kind
      .plan).row.diagPeriodStart = none := by
    rw [← unstarted]
    exact periodStart_charged desk.row kind
  have outside : ∀ other month,
      (usedDesk desk (desk.row.charged kind) kind .plan).chargedIn other month =
        desk.chargedIn other month := by
    intro other month
    rw [chargedIn_used, if_neg]
    · rfl
    · rintro ⟨-, -, paid, -⟩
      rw [trial] at paid
      cases paid
  refine ⟨⟨?_, ?_, ?_, ?_⟩, ?_, ?_, ?_, ?_, ?_⟩
  · intro other month
    have same := monthLimit_of_plan plan other
    rw [outside, usedDesk, same]
    exact sound.monthly other month
  · have same := trialLimit_of_plan plan
    rw [chargedOnTrial_used, usedDesk, same]
    split
    · rename_i here
      obtain ⟨rfl, -, -⟩ := here
      rw [counts, QuotaSubscription.planLimit_of_onTrial trial] at left
      push_cast
      omega
    · exact sound.trial
  · rw [drawn_used, if_neg nofun]
    exact topup.trans sound.balance
  · exact le_of_le_of_eq sound.funded topup.symm
  · intro start stored
    rw [none] at stored
    cases stored
  · intro start stored
    rw [none] at stored
    cases stored
  · intro use member charged still
    rcases List.mem_append.mp member with old | new
    · obtain ⟨start, stored, -⟩ := sound.past use old charged still
      rw [unstarted] at stored
      cases stored
    · rw [List.mem_singleton.mp new] at still
      rw [QuotaDesk.onTrial] at trial
      rw [QuotaDesk.use, trial] at still
      cases still
  · intro _
    refine ⟨none, fun other => ?_⟩
    rw [chargedOnTrial_used]
    change (desk.row.charged kind).used other = _
    by_cases same : other = kind
    · subst same
      rw [if_pos ⟨rfl, rfl, trial⟩, QuotaSubscription.used_charged_self, counts]
      rfl
    · rw [if_neg (fun all => same all.1.symm),
        QuotaSubscription.used_charged_of_ne same, counts]
      rfl
  · intro key check stored
    obtain ⟨ends, seen⟩ := sound.checking key check stored
    refine ⟨ends, fun inactive => seen ?_⟩
    rw [← active]
    exact inactive

/-- A check that saves a rollover over the row of this month loses no use. -/
def QuotaOp.Fresh : QuotaOp → QuotaDesk → Prop
  | .endCheck key, desk => ∀ check, desk.checks.get? key = some check →
      check.row.crossesMonth check.account desk.today = true →
      desk.row.diagPeriodStart = some (periodStartFor desk.today) →
      desk.row.diagScansUsedThisPeriod = 0 ∧ desk.row.diagBotUsedThisPeriod = 0
  | _, _ => True

theorem outside_of_crosses (sound : SoundDesk desk) {key : ℕ} {check : OpenCheck}
    (stored : desk.checks.get? key = some check)
    (crosses : check.row.crossesMonth check.account desk.today = true) :
    desk.onTrial = false := by
  obtain ⟨ends, seen⟩ := sound.checking key check stored
  obtain ⟨outside, -⟩ := QuotaSubscription.crossesMonth_eq_true.mp crosses
  rw [← Bool.not_eq_true]
  intro trial
  rw [QuotaDesk.onTrial, QuotaSubscription.onTrial, Bool.and_eq_true,
    TrialAccount.inFreeTrial, decide_eq_true_eq, Bool.not_eq_true'] at trial
  obtain ⟨inactive, status, open_⟩ := trial
  obtain ⟨unpaid, trying⟩ := seen inactive status
  rw [QuotaSubscription.onTrial, unpaid, TrialAccount.inFreeTrial, ends] at outside
  simp [trying, open_] at outside

/-- A rollover keeps the invariant where no use of this month is lost. -/
theorem sound_rolledOver (sound : SoundDesk desk)
    (outside : desk.onTrial = false)
    (fresh : desk.row.diagPeriodStart = some (periodStartFor desk.today) →
      desk.row.diagScansUsedThisPeriod = 0 ∧
        desk.row.diagBotUsedThisPeriod = 0) :
    SoundDesk { desk with row := desk.row.rolledOver desk.today } := by
  have unused : ∀ kind, desk.chargedIn kind desk.today.index = 0 := by
    intro kind
    by_cases current : desk.row.diagPeriodStart =
        some (periodStartFor desk.today)
    · have counted := sound.counted _ current kind
      obtain ⟨scans, turns⟩ := fresh current
      have none : desk.row.used kind = 0 := by cases kind <;> assumption
      rw [none, index_periodStartFor] at counted
      exact (Int.natCast_eq_zero.mp counted.symm)
    · exact chargedIn_of_crosses sound current kind
  refine ⟨⟨sound.monthly, sound.trial, sound.balance, sound.funded⟩, ?_, ?_, ?_,
    ?_, sound.checking⟩
  · intro start stored
    obtain rfl := Option.some.inj stored
    exact ⟨rfl, le_refl _⟩
  · intro start stored kind
    obtain rfl := Option.some.inj stored
    refine QuotaSubscription.used_rolledOver.trans ?_
    have none := unused kind
    rw [index_periodStartFor]
    exact_mod_cast none.symm
  · intro use member charged still
    obtain ⟨start, stored, bound⟩ := sound.past use member charged still
    exact ⟨_, rfl, bound.trans (sound.started start stored).2⟩
  · intro trial
    have still : desk.onTrial = true := trial
    rw [outside] at still
    cases still

/-- The end of a check keeps the invariant. -/
theorem sound_endCheck (sound : SoundDesk desk) {key : ℕ} {check : OpenCheck}
    (stored : desk.checks.get? key = some check)
    (fresh : (QuotaOp.endCheck key).Fresh desk) :
    SoundDesk
      { desk with
        row := check.saved desk.today desk.row
        checks := desk.checks.erase key } := by
  have saved : SoundDesk
      { desk with row := check.saved desk.today desk.row } := by
    rw [saved_eq]
    split
    · rename_i crosses
      exact sound_rolledOver sound (outside_of_crosses sound stored crosses)
        (fresh check stored crosses)
    · exact sound
  refine { saved with checking := ?_ }
  intro other row found
  refine saved.checking other row ?_
  exact (Table.get?_erase_eq_some.mp found).2

/-- A consume charges the plan, draws on the top-up balance, or changes
nothing. -/
theorem consume_eq_ok {kind : QuotaKind} {result : QuotaResult}
    {after : QuotaDesk}
    (returned : consumeQuota kind desk = .ok result after) :
    ((desk.row.ensurePeriodCurrent desk.account desk.today).used kind <
        desk.row.planLimit desk.account desk.today kind ∧
      result.allowed = true ∧
      after = usedDesk desk (chargedRow desk kind) kind .plan) ∨
    (¬ (desk.row.ensurePeriodCurrent desk.account desk.today).used kind <
        desk.row.planLimit desk.account desk.today kind ∧
      0 < desk.row.diagTopupBalance ∧ result.allowed = true ∧
      after = usedDesk desk desk.row.drawn kind .topup) ∨
    (¬ (desk.row.ensurePeriodCurrent desk.account desk.today).used kind <
        desk.row.planLimit desk.account desk.today kind ∧
      ¬ 0 < desk.row.diagTopupBalance ∧ result.allowed = false ∧
      after = desk) := by
  have topup : (desk.row.ensurePeriodCurrent desk.account
      desk.today).diagTopupBalance = desk.row.diagTopupBalance := by
    rw [QuotaSubscription.ensurePeriodCurrent]
    split <;> rfl
  rw [consumeQuota, Txn.get_bind] at returned
  simp only [QuotaSubscription.planLimit_ensure, topup] at returned
  split at returned
  · rename_i left
    simp only [Txn.bind_eq_ok, Txn.set_eq_ok, Txn.pure_eq_ok] at returned
    obtain ⟨⟨⟩, _, rfl, rfl, rfl⟩ := returned
    exact .inl ⟨left, rfl, rfl⟩
  · rename_i exhausted
    split at returned
    · rename_i balance
      simp only [Txn.bind_eq_ok, Txn.set_eq_ok, Txn.pure_eq_ok] at returned
      obtain ⟨⟨⟩, _, rfl, rfl, rfl⟩ := returned
      exact .inr (.inl ⟨exhausted, balance, rfl, rfl⟩)
    · rename_i empty
      obtain ⟨rfl, rfl⟩ := Txn.pure_eq_ok.mp returned
      exact .inr (.inr ⟨exhausted, empty, rfl, rfl⟩)

theorem endCheck_eq_ok {key : ℕ} {result : Option QuotaResult}
    {after : QuotaDesk} (returned : endCheck key desk = .ok result after) :
    after = desk ∨ ∃ check, desk.checks.get? key = some check ∧
      result = some (check.answer desk.today desk.symbol) ∧
      after = { desk with
                row := check.saved desk.today desk.row
                checks := desk.checks.erase key } := by
  rw [endCheck, Txn.get_bind] at returned
  cases stored : desk.checks.get? key with
  | none =>
      simp only [stored, Txn.pure_eq_ok] at returned
      exact .inl returned.2.symm
  | some check =>
      simp only [stored, Txn.bind_eq_ok, Txn.modify_eq_ok,
        Txn.pure_eq_ok] at returned
      obtain ⟨⟨⟩, _, rfl, rfl, rfl⟩ := returned
      exact .inr ⟨check, rfl, rfl, rfl⟩

theorem addTopup_eq_ok {uses balance : ℤ} {after : QuotaDesk}
    (returned : addTopup uses desk = .ok balance after) :
    after = { desk with
              row := { desk.row with
                       diagTopupBalance :=
                         desk.row.diagTopupBalance + max 0 uses }
              added := desk.added + max 0 uses } := by
  rw [addTopup, Txn.get_bind] at returned
  simp only [Txn.bind_eq_ok, Txn.require_eq_ok, Txn.set_eq_ok,
    Txn.pure_eq_ok] at returned
  obtain ⟨⟨⟩, _, ⟨-, rfl⟩, ⟨⟩, _, rfl, -, rfl⟩ := returned
  rfl

theorem sound_topup (sound : SoundDesk desk) (uses : ℤ) :
    SoundDesk
      { desk with
        row := { desk.row with
                 diagTopupBalance := desk.row.diagTopupBalance + max 0 uses }
        added := desk.added + max 0 uses } where
  monthly := sound.monthly
  trial := sound.trial
  balance := by
    change desk.row.diagTopupBalance + max 0 uses =
      desk.added + max 0 uses - desk.drawn
    rw [sound.balance]
    omega
  funded := by
    have funded := sound.funded
    change 0 ≤ desk.row.diagTopupBalance + max 0 uses
    omega
  started := sound.started
  counted start stored kind := by
    have counted := sound.counted start stored kind
    cases kind <;> exact counted
  past := sound.past
  trialing trial := by
    obtain ⟨unstarted, counts⟩ := sound.trialing trial
    refine ⟨unstarted, fun kind => ?_⟩
    have counted := counts kind
    cases kind <;> exact counted
  checking := sound.checking

theorem sound_begun (sound : SoundDesk desk) (kind : QuotaKind) :
    SoundDesk
      { desk with
        checks := desk.checks.insert
          { kind, account := desk.account, row := desk.row } } := by
  refine { sound with checking := ?_ }
  intro key check stored
  rcases Table.get?_insert_cases stored with ⟨-, rfl⟩ | stored
  · exact ⟨rfl, fun inactive trial => ⟨inactive, trial⟩⟩
  · exact sound.checking key check stored

theorem onTrial_of_later {today : Date} (later : desk.today ≤ today)
    (trial : desk.row.onTrial desk.account today = true) :
    desk.onTrial = true := by
  rw [QuotaSubscription.onTrial, Bool.and_eq_true, TrialAccount.inFreeTrial,
    decide_eq_true_eq] at trial
  obtain ⟨inactive, status, open_⟩ := trial
  rw [QuotaDesk.onTrial, QuotaSubscription.onTrial, Bool.and_eq_true,
    TrialAccount.inFreeTrial, decide_eq_true_eq]
  refine ⟨inactive, status, ?_⟩
  cases ends : desk.account.trialEndsAt with
  | none => rfl
  | some last =>
      rw [ends, Option.all_some, decide_eq_true_eq] at open_
      rw [Option.all_some, decide_eq_true_eq]
      exact le_trans_date later open_

theorem sound_day (sound : SoundDesk desk) {today : Date}
    (later : desk.today ≤ today) : SoundDesk { desk with today } where
  monthly := sound.monthly
  trial := sound.trial
  balance := sound.balance
  funded := sound.funded
  started start stored := by
    obtain ⟨first, bound⟩ := sound.started start stored
    exact ⟨first, bound.trans (Date.index_le later)⟩
  counted := sound.counted
  past := sound.past
  trialing trial := sound.trialing (onTrial_of_later later trial)
  checking := sound.checking

theorem sound_account (sound : SoundDesk desk) {status : AccountStatus}
    (left : status ≠ .trial) (isActive : Bool) :
    SoundDesk
      { desk with
        account := { desk.account with status }
        row := { desk.row with isActive } } where
  monthly := sound.monthly
  trial := sound.trial
  balance := sound.balance
  funded := sound.funded
  started := sound.started
  counted start stored kind := by
    have counted := sound.counted start stored kind
    cases kind <;> exact counted
  past := sound.past
  trialing trial := by
    simp [QuotaDesk.onTrial, QuotaSubscription.onTrial,
      TrialAccount.inFreeTrial, left] at trial
  checking key check stored :=
    ⟨(sound.checking key check stored).1, fun _ trial => absurd trial left⟩

theorem sound_quota_step (op : QuotaOp) {after : QuotaDesk}
    (sound : SoundDesk desk) (fresh : op.Fresh desk)
    (returned : op.run desk = .ok ⟨⟩ after) : SoundDesk after := by
  cases op with
  | beginCheck kind =>
      obtain rfl := Txn.modify_eq_ok.mp returned
      exact sound_begun sound kind
  | endCheck key =>
      obtain ⟨result, middle, ended, returned⟩ := Txn.bind_eq_ok.mp returned
      obtain ⟨-, rfl⟩ := Txn.pure_eq_ok.mp returned
      rcases endCheck_eq_ok ended with rfl | ⟨check, stored, -, rfl⟩
      · exact sound
      · exact sound_endCheck sound stored fresh
  | consume kind =>
      obtain ⟨result, middle, consumed, returned⟩ := Txn.bind_eq_ok.mp returned
      obtain ⟨-, rfl⟩ := Txn.pure_eq_ok.mp returned
      rcases consume_eq_ok consumed with ⟨left, -, rfl⟩ | ⟨-, balance, -, rfl⟩ |
        ⟨-, -, -, rfl⟩
      · cases trial : desk.onTrial with
        | false => exact sound_charged sound trial kind left
        | true =>
            rw [ensure_of_onTrial trial] at left
            rw [chargedRow, ensure_of_onTrial trial]
            exact sound_charged_onTrial sound trial kind left
      · exact sound_drawn sound kind balance
      · exact sound
  | topup uses =>
      obtain ⟨balance, middle, added, returned⟩ := Txn.bind_eq_ok.mp returned
      obtain ⟨-, rfl⟩ := Txn.pure_eq_ok.mp returned
      obtain rfl := addTopup_eq_ok added
      exact sound_topup sound uses
  | day today =>
      obtain rfl := Txn.modify_eq_ok.mp returned
      split
      · rename_i later
        exact sound_day sound later
      · exact sound
  | account status isActive =>
      obtain rfl := Txn.modify_eq_ok.mp returned
      split
      · exact sound
      · rename_i left
        exact sound_account sound left isActive

theorem addTopup_rollsBack (uses : ℤ) : Txn.RollsBack (addTopup uses) := by
  refine Txn.rollsBack_bind Txn.reads_get Txn.rollsBack_get fun desk => ?_
  refine Txn.rollsBack_bind (Txn.reads_require _ _) (Txn.rollsBack_require _ _)
    fun _ => ?_
  intro state error final failed
  rcases Txn.bind_eq_error.mp failed with failed | ⟨_, _, -, failed⟩
  · exact absurd failed Txn.set_eq_error
  · exact absurd failed Txn.pure_eq_error

theorem quota_rollsBack (op : QuotaOp) : Txn.RollsBack op.run := by
  have never : ∀ change : QuotaDesk → QuotaDesk,
      Txn.RollsBack (modify change : QuotaTxn PUnit) :=
    fun _ _ _ _ failed => absurd failed Txn.modify_eq_error
  cases op with
  | beginCheck kind => exact never _
  | endCheck key =>
      refine Txn.rollsBack_map ?_
      refine Txn.rollsBack_bind Txn.reads_get Txn.rollsBack_get fun desk => ?_
      split
      · exact Txn.rollsBack_pure _
      · exact Txn.rollsBack_map (never _)
  | consume kind =>
      refine Txn.rollsBack_map ?_
      refine Txn.rollsBack_bind Txn.reads_get Txn.rollsBack_get fun desk => ?_
      have never : ∀ (written : QuotaDesk) (result : QuotaResult),
          Txn.RollsBack (do set written; pure result : QuotaTxn QuotaResult) := by
        intro written result
        exact Txn.rollsBack_map
          fun _ _ _ failed => absurd failed Txn.set_eq_error
      dsimp only
      split
      · exact never _ _
      · split
        · exact never _ _
        · exact Txn.rollsBack_pure _
  | topup uses => exact Txn.rollsBack_map (addTopup_rollsBack uses)
  | day today => exact never _
  | account status isActive => exact never _

/-- A check of the row as it is allows exactly what a consume right after it
allows. -/
theorem check_agrees {key : ℕ} {check : OpenCheck} {result : Option QuotaResult}
    {answer : QuotaResult} {middle after : QuotaDesk}
    (stored : desk.checks.get? key = some check)
    (row : check.row = desk.row) (account : check.account = desk.account)
    (checked : endCheck key desk = .ok result middle)
    (consumed : consumeQuota check.kind middle = .ok answer after) :
    ∃ found, result = some found ∧ found.allowed = answer.allowed := by
  rw [endCheck, Txn.get_bind] at checked
  simp only [stored, Txn.bind_eq_ok, Txn.modify_eq_ok,
    Txn.pure_eq_ok] at checked
  obtain ⟨⟨⟩, _, rfl, rfl, rfl⟩ := checked
  refine ⟨_, rfl, ?_⟩
  have current : check.saved desk.today desk.row =
      desk.row.ensurePeriodCurrent desk.account desk.today := by
    rw [← row, saved_self, account]
  have topup : (desk.row.ensurePeriodCurrent desk.account
      desk.today).diagTopupBalance = desk.row.diagTopupBalance := by
    rw [QuotaSubscription.ensurePeriodCurrent]
    split <;> rfl
  have summary := consume_eq_ok consumed
  simp only [current, QuotaSubscription.ensure_ensure,
    QuotaSubscription.planLimit_ensure, topup] at summary
  rw [OpenCheck.answer, row, account]
  simp only [QuotaSubscription.planLimit_ensure, topup]
  rcases summary with ⟨left, allowed, -⟩ | ⟨exhausted, balance, allowed, -⟩ |
    ⟨exhausted, empty, refused, -⟩
  · rw [if_pos left, allowed]
    rfl
  · rw [if_neg exhausted, if_pos balance, allowed]
    rfl
  · rw [if_neg exhausted, if_neg empty, refused]
    rfl

end Desk

def openedDesk (today : Date) (symbol : String) (account : TrialAccount)
    (plan : Option DiagnosticsPlan) (isActive : Bool) : QuotaDesk :=
  { today, symbol, account, row := { plan, isActive } }

theorem sound_openedDesk (today : Date) (symbol : String)
    (account : TrialAccount) (plan : Option DiagnosticsPlan) (isActive : Bool) :
    SoundDesk (openedDesk today symbol account plan isActive) where
  monthly _ _ := le_max_left 0 _
  trial := le_max_left 0 _
  balance := rfl
  funded := le_refl 0
  started _ stored := by cases stored
  counted _ stored := by cases stored
  past _ member := by cases member
  trialing _ := ⟨rfl, fun kind => by cases kind <;> rfl⟩
  checking _ _ stored := by cases stored

/-- In every run whose checks lose no use of the month they roll over to, uses
stay within the limits of each month and of the trial and the top-up balance is
exact; a check allows what a consume right after it allows. -/
theorem quota_metered (today : Date) (symbol : String) (account : TrialAccount)
    (plan : Option DiagnosticsPlan) (isActive : Bool) (ops : List QuotaOp)
    (fresh : Txn.Throughout QuotaOp.run QuotaOp.Fresh ops
      (openedDesk today symbol account plan isActive)) :
    QuotaMetered (Txn.after QuotaOp.run ops
        (openedDesk today symbol account plan isActive)) ∧
      (∀ kind result after,
        consumeQuota kind (Txn.after QuotaOp.run ops
          (openedDesk today symbol account plan isActive)) =
            .ok result after → result.allowed = false →
        after = Txn.after QuotaOp.run ops
          (openedDesk today symbol account plan isActive)) ∧
      ∀ key check result answer middle after,
        (Txn.after QuotaOp.run ops (openedDesk today symbol account plan
          isActive)).checks.get? key = some check →
        check.row = (Txn.after QuotaOp.run ops
          (openedDesk today symbol account plan isActive)).row →
        check.account = (Txn.after QuotaOp.run ops
          (openedDesk today symbol account plan isActive)).account →
        endCheck key (Txn.after QuotaOp.run ops
          (openedDesk today symbol account plan isActive)) =
            .ok result middle →
        consumeQuota check.kind middle = .ok answer after →
        ∃ found, result = some found ∧ found.allowed = answer.allowed := by
  refine ⟨?_, ?_, ?_⟩
  · have sound := Txn.after_of_throughout SoundDesk quota_rollsBack
      (fun op before after kept met returned =>
        sound_quota_step op kept met returned)
      ops _ (sound_openedDesk today symbol account plan isActive) fresh
    exact sound.toQuotaMetered
  · intro kind result after consumed refused
    rcases consume_eq_ok consumed with ⟨-, allowed, -⟩ | ⟨-, -, allowed, -⟩ |
      ⟨-, -, -, same⟩
    · rw [refused] at allowed
      cases allowed
    · rw [refused] at allowed
      cases allowed
    · exact same
  · intro key check result answer middle after stored row account checked
      consumed
    exact check_agrees stored row account checked consumed

def firstOfMarch : Date where
  year := 2026
  month := 3
  day := 1
  month_valid := ⟨by decide, by decide⟩
  day_valid := ⟨by decide, by decide⟩

def oneScan : DiagnosticsPlan :=
  { monthlyDiagnosticsScansQuota := 1, monthlyDiagnosticsBotQuota := 0 }

def payingAccount : TrialAccount :=
  { status := .active, trialEndsAt := some firstOfMarch }

def scansOfMarch : List QuotaOp :=
  [.beginCheck .scan, .endCheck 0, .consume .scan, .topup 2, .consume .scan]

theorem quota_metered_scansOfMarch :
    QuotaMetered (Txn.after QuotaOp.run scansOfMarch
      (openedDesk firstOfMarch "EGP" payingAccount (some oneScan) true)) := by
  have fresh : Txn.Throughout QuotaOp.run QuotaOp.Fresh scansOfMarch
      (openedDesk firstOfMarch "EGP" payingAccount (some oneScan) true) := by
    refine ⟨fun _ => trivial, fun _ => ?_, fun _ => trivial, fun _ => trivial,
      fun _ => trivial, trivial⟩
    intro check _ _ current
    cases current
  exact (quota_metered firstOfMarch "EGP" payingAccount (some oneScan) true
    scansOfMarch fresh).1

/-- A check reads the row before the first scan of the month and saves its
rollover after it: the scan is forgotten and a second one charged to the plan. -/
theorem check_forgets_scan :
    ¬ ∀ today symbol account plan isActive ops, QuotaMetered
      (Txn.after QuotaOp.run ops
        (openedDesk today symbol account plan isActive)) := by
  intro promised
  have metered := promised firstOfMarch "EGP" payingAccount (some oneScan) true
    [.beginCheck .scan, .consume .scan, .endCheck 0, .consume .scan]
  have bound := metered.monthly .scan firstOfMarch.index
  exact absurd bound (by decide +kernel)

end Clients

end Mousstec
