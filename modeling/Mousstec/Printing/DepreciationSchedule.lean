import Mousstec.Printing.FixedAssets

/-!
# The schedule of an asset

An asset is written off by equal installments, rounded to a cent, and by what is
left in the last month.  When the installments round up, a long life can write
off more than there is before its last month comes.
-/

namespace Mousstec.Printing

open Library

namespace PrintFixedAsset

variable (asset : PrintFixedAsset)

def lastMonthKept : Prop :=
  asset.disposedOn.all (fun day =>
    decide (asset.start.index + asset.life ≤ day.index)) = true

/-- The number of months with a full installment: all of the life but the last,
or those before the disposal. -/
def fullMonths : ℕ :=
  match asset.disposedOn with
  | none => asset.life - 1
  | some day => min (asset.life - 1) (day.index - asset.start.index)

theorem life_pos : 0 < asset.life := by
  unfold life
  split <;> omega

theorem depreciableBase_nonneg : 0 ≤ asset.depreciableBase :=
  le_max_right _ _

theorem installment_nonneg : 0 ≤ asset.installment := by
  apply roundHalfEven_nearest.nonneg
  have base : (0 : ℚ) ≤ asset.depreciableBase := by
    exact_mod_cast asset.depreciableBase_nonneg
  exact div_nonneg base (Nat.cast_nonneg _)

theorem installment_of_base (nothing : asset.depreciableBase = 0) :
    asset.installment = 0 := by
  simp [installment, nothing]

instance : Decidable asset.lastMonthKept :=
  inferInstanceAs (Decidable (_ = true))

def nthInstallment (number : ℕ) : ℤ :=
  if number < asset.fullMonths then asset.installment
  else if number + 1 = asset.life ∧ asset.lastMonthKept then
    asset.depreciableBase - asset.installment * (asset.life - 1)
  else 0

theorem fullMonths_lt : asset.fullMonths < asset.life := by
  have life := asset.life_pos
  unfold fullMonths
  split <;> omega

theorem fullMonths_of_kept (kept : asset.lastMonthKept) :
    asset.fullMonths = asset.life - 1 := by
  unfold lastMonthKept at kept
  unfold fullMonths
  cases disposed : asset.disposedOn with
  | none => rfl
  | some day =>
      rw [disposed] at kept
      have late : asset.start.index + asset.life ≤ day.index :=
        of_decide_eq_true kept
      exact min_eq_left (by omega)

theorem lastMonthKept_none (kept : asset.disposedOn = none) :
    asset.lastMonthKept := by
  simp [lastMonthKept, kept]

theorem lastMonthKept_some {day : Date} (disposed : asset.disposedOn = some day) :
    asset.lastMonthKept ↔ asset.start.index + asset.life ≤ day.index := by
  simp [lastMonthKept, disposed]

theorem fullMonths_some {day : Date} (disposed : asset.disposedOn = some day) :
    asset.fullMonths = min (asset.life - 1) (day.index - asset.start.index) := by
  simp [fullMonths, disposed]

theorem depreciationForMonth_eq (number : ℕ) :
    asset.depreciationForMonth (asset.start.index + number) =
      asset.nthInstallment number := by
  have life := asset.life_pos
  by_cases nothing : asset.depreciableBase ≤ 0
  · have base : asset.depreciableBase = 0 :=
      Int.le_antisymm nothing asset.depreciableBase_nonneg
    have installment := asset.installment_of_base base
    simp [depreciationForMonth, nthInstallment, base, installment]
  · cases disposed : asset.disposedOn with
    | none =>
        have kept := asset.lastMonthKept_none disposed
        have full := asset.fullMonths_of_kept kept
        unfold depreciationForMonth nthInstallment
        rw [disposed, full]
        by_cases after : asset.life ≤ number
        · rw [if_pos (by omega), if_neg (by omega), if_neg (by omega)]
        · rw [if_neg (by omega), if_neg (by simp)]
          by_cases last : number + 1 = asset.life
          · rw [if_pos (by omega), if_neg (by omega), if_pos ⟨last, kept⟩]
          · rw [if_neg (by omega), if_pos (by omega)]
    | some day =>
        have kept := asset.lastMonthKept_some disposed
        have full := asset.fullMonths_some disposed
        unfold depreciationForMonth nthInstallment
        rw [disposed, full]
        simp only [Option.any_some, decide_eq_true_eq]
        by_cases after : asset.life ≤ number
        · rw [if_pos (by omega), if_neg (by omega), if_neg (by omega)]
        · rw [if_neg (by omega)]
          by_cases sold : day.index ≤ asset.start.index + number
          · have gone : ¬(number + 1 = asset.life ∧ asset.lastMonthKept) := by
              rintro ⟨last, late⟩
              have after := kept.mp late
              omega
            rw [if_pos sold, if_neg (by omega), if_neg gone]
          · rw [if_neg sold]
            by_cases last : number + 1 = asset.life
            · rw [if_pos (by omega), if_neg (by omega),
                if_pos ⟨last, kept.mpr (by omega)⟩]
            · rw [if_neg (by omega), if_pos (by omega)]

theorem depreciationForMonth_before {month : ℕ}
    (before : month < asset.start.index) :
    asset.depreciationForMonth month = 0 :=
  if_pos (.inr (.inl before))

def bookedBy (count : ℕ) : ℤ :=
  ((List.range count).map asset.nthInstallment).sum

theorem bookedBy_succ (count : ℕ) :
    asset.bookedBy (count + 1) =
      asset.bookedBy count + asset.nthInstallment count := by
  simp [bookedBy, List.range_succ]

/-- Full installments are written off until the last month writes off the
rest. -/
theorem bookedBy_eq (count : ℕ) :
    asset.bookedBy count =
      if asset.life ≤ count ∧ asset.lastMonthKept then asset.depreciableBase
      else asset.installment * min count asset.fullMonths := by
  have life := asset.life_pos
  have full := asset.fullMonths_lt
  induction count with
  | zero =>
      rw [if_neg (by omega)]
      simp [bookedBy]
  | succ count induction =>
      rw [bookedBy_succ, induction]
      unfold nthInstallment
      by_cases within : count < asset.fullMonths
      · rw [if_neg (by omega), if_pos within, if_neg (by omega),
          Nat.min_eq_left (Nat.le_of_lt within), Nat.min_eq_left within]
        push_cast
        rw [mul_add, mul_one]
      · rw [if_neg within]
        by_cases last : count + 1 = asset.life ∧ asset.lastMonthKept
        · have all := asset.fullMonths_of_kept last.2
          rw [if_pos last, if_neg (by omega), if_pos ⟨by omega, last.2⟩,
            Nat.min_eq_right (by omega), all, Nat.cast_sub life]
          push_cast
          omega
        · rw [if_neg last, add_zero]
          by_cases ended : asset.life ≤ count ∧ asset.lastMonthKept
          · rw [if_pos ended, if_pos ⟨by omega, ended.2⟩]
          · have running : ¬(asset.life ≤ count + 1 ∧ asset.lastMonthKept) := by
              rintro ⟨reached, kept⟩
              rcases Nat.lt_or_eq_of_le reached with less | same
              · exact ended ⟨by omega, kept⟩
              · exact last ⟨same.symm, kept⟩
            rw [if_neg ended, if_neg running, Nat.min_eq_right (by omega),
              Nat.min_eq_right (by omega)]

theorem sum_monthsFrom (count : ℕ) :
    ((monthsFrom count asset.start.year asset.start.month).map fun month =>
      asset.depreciationForMonth (monthIndex month.1 month.2)).sum =
        asset.bookedBy count := by
  induction count with
  | zero => rfl
  | succ count induction =>
      obtain ⟨last, more, index⟩ :=
        monthsFrom_succ count asset.start.year asset.start.month
      have installment : asset.depreciationForMonth
          (monthIndex last.1 last.2) = asset.nthInstallment count := by
        rw [index]
        exact asset.depreciationForMonth_eq count
      rw [more, List.map_append, List.sum_append, induction, bookedBy_succ,
        List.map_singleton, List.sum_singleton, installment]

def completedMonths (onDate : Date) : ℕ :=
  onDate.index + 1 - asset.start.index -
    if onDate.day < monthLength onDate.year onDate.month then 1 else 0

theorem accumulatedUntil_eq (onDate : Date) :
    asset.accumulatedUntil onDate =
      asset.openingAccumulated +
        asset.bookedBy (asset.completedMonths onDate) := by
  unfold accumulatedUntil completedMonths months
  congr 1
  cases many : onDate.index + 1 - asset.start.index with
  | zero =>
      rw [Nat.zero_sub]
      rfl
  | succ count =>
      obtain ⟨last, more, index⟩ :=
        monthsFrom_succ count asset.start.year asset.start.month
      have here : monthIndex last.1 last.2 = onDate.index := by
        have start : monthIndex asset.start.year asset.start.month =
            asset.start.index := rfl
        omega
      have member : last ∈ monthsFrom (count + 1) asset.start.year
          asset.start.month := by
        rw [more]
        exact List.mem_append_right _ List.mem_cons_self
      obtain ⟨year, month⟩ := monthIndex_injective
        ((mem_monthsFrom asset.start.month_valid).mp member).1
        onDate.month_valid here
      have before : ∀ month ∈ monthsFrom count asset.start.year
          asset.start.month,
          decide (¬(onDate.day < monthLength month.1 month.2 ∧
            monthIndex month.1 month.2 = onDate.index)) = true := by
        intro month member
        have range := (mem_monthsFrom asset.start.month_valid).mp member
        simp only [decide_eq_true_eq]
        omega
      rw [more, List.takeWhile_append_of_pos before]
      by_cases running : onDate.day < monthLength onDate.year onDate.month
      · have stops : [last].takeWhile (fun month =>
            decide (¬(onDate.day < monthLength month.1 month.2 ∧
              monthIndex month.1 month.2 = onDate.index))) = [] := by
          apply List.takeWhile_cons_of_neg
          simp [year, month, ← here, running]
        rw [stops, List.append_nil, asset.sum_monthsFrom, if_pos running]
        rfl
      · have goes : [last].takeWhile (fun month =>
            decide (¬(onDate.day < monthLength month.1 month.2 ∧
              monthIndex month.1 month.2 = onDate.index))) = [last] := by
          simp [year, month, running]
        rw [goes, ← more, asset.sum_monthsFrom, if_neg running]
        rfl

theorem completedMonths_mono {first second : Date} (ordered : first ≤ second) :
    asset.completedMonths first ≤ asset.completedMonths second := by
  unfold completedMonths
  rcases Date.le_def.mp ordered with less | ⟨same, days⟩
  · split <;> split <;> omega
  · obtain ⟨year, month⟩ :=
      monthIndex_injective first.month_valid second.month_valid same
    rw [year, month]
    split <;> split <;> omega

/-- No installment takes anything back, a life that is not cut short writes off
the base, and the book value never drops below the salvage value. -/
structure SoundSchedule : Prop where
  installments : ∀ month, 0 ≤ asset.depreciationForMonth month
  whole : asset.disposedOn = none →
    ((List.range asset.life).map fun number =>
      asset.depreciationForMonth (asset.start.index + number)).sum =
        asset.depreciableBase
  accumulates : ∀ first second : Date, first ≤ second →
    asset.accumulatedUntil first ≤ asset.accumulatedUntil second
  bookValue : asset.salvageValue ≤ asset.cost - asset.openingAccumulated →
    ∀ onDate, asset.salvageValue ≤ asset.cost - asset.accumulatedUntil onDate

theorem nthInstallment_nonneg
    (enough : asset.installment * asset.fullMonths ≤ asset.depreciableBase)
    (number : ℕ) : 0 ≤ asset.nthInstallment number := by
  unfold nthInstallment
  split
  · exact asset.installment_nonneg
  · split
    · rename_i last
      have life := asset.life_pos
      have full := asset.fullMonths_of_kept last.2
      rw [full, Nat.cast_sub life] at enough
      push_cast at enough
      omega
    · exact le_refl 0

theorem bookedBy_mono
    (enough : asset.installment * asset.fullMonths ≤ asset.depreciableBase)
    {first second : ℕ} (ordered : first ≤ second) :
    asset.bookedBy first ≤ asset.bookedBy second := by
  induction second with
  | zero =>
      obtain rfl : first = 0 := Nat.le_zero.mp ordered
      exact le_refl _
  | succ second induction =>
      rcases Nat.lt_or_eq_of_le ordered with less | rfl
      · have before := induction (Nat.le_of_lt_succ less)
        have next := asset.nthInstallment_nonneg enough second
        rw [asset.bookedBy_succ]
        omega
      · exact le_refl _

theorem bookedBy_le
    (enough : asset.installment * asset.fullMonths ≤ asset.depreciableBase)
    (count : ℕ) : asset.bookedBy count ≤ asset.depreciableBase := by
  rw [asset.bookedBy_eq]
  split
  · exact le_refl _
  · refine le_trans ?_ enough
    have nonneg := asset.installment_nonneg
    have less : ((min count asset.fullMonths : ℕ) : ℤ) ≤ asset.fullMonths := by
      exact_mod_cast Nat.min_le_right count asset.fullMonths
    exact Int.mul_le_mul_of_nonneg_left less nonneg

theorem bookedBy_whole (kept : asset.lastMonthKept) :
    asset.bookedBy asset.life = asset.depreciableBase := by
  rw [asset.bookedBy_eq, if_pos ⟨Nat.le_refl _, kept⟩]

theorem sound_of_enough
    (enough : asset.installment * asset.fullMonths ≤ asset.depreciableBase) :
    asset.SoundSchedule where
  installments month := by
    by_cases before : month < asset.start.index
    · rw [asset.depreciationForMonth_before before]
    · obtain ⟨number, rfl⟩ := Nat.exists_eq_add_of_le (Nat.not_lt.mp before)
      rw [asset.depreciationForMonth_eq]
      exact asset.nthInstallment_nonneg enough number
  whole kept := by
    simp only [asset.depreciationForMonth_eq]
    exact asset.bookedBy_whole (asset.lastMonthKept_none kept)
  accumulates first second ordered := by
    rw [asset.accumulatedUntil_eq, asset.accumulatedUntil_eq]
    have more := asset.bookedBy_mono enough
      (asset.completedMonths_mono ordered)
    omega
  bookValue possible onDate := by
    rw [asset.accumulatedUntil_eq]
    have most := asset.bookedBy_le enough (asset.completedMonths onDate)
    have base : asset.depreciableBase =
        asset.cost - asset.salvageValue - asset.openingAccumulated :=
      max_eq_left (by omega)
    omega

theorem exists_completedMonths (count : ℕ) :
    ∃ onDate : Date, asset.completedMonths onDate = count + 1 := by
  obtain ⟨last, more, index⟩ :=
    monthsFrom_succ count asset.start.year asset.start.month
  have member : last ∈ monthsFrom (count + 1) asset.start.year
      asset.start.month := by
    rw [more]
    exact List.mem_append_right _ List.mem_cons_self
  have valid := ((mem_monthsFrom asset.start.month_valid).mp member).1
  refine ⟨Date.endOf last.1 last.2 valid, ?_⟩
  have start : monthIndex asset.start.year asset.start.month =
      asset.start.index := rfl
  have whole : ¬(Date.endOf last.1 last.2 valid).day <
      monthLength (Date.endOf last.1 last.2 valid).year
        (Date.endOf last.1 last.2 valid).month := Nat.lt_irrefl _
  rw [completedMonths, if_neg whole, Date.index_endOf, index]
  omega

theorem enough_of_sound (sound : asset.SoundSchedule) :
    asset.installment * asset.fullMonths ≤ asset.depreciableBase := by
  have life := asset.life_pos
  have short := asset.fullMonths_lt
  by_contra more
  by_cases kept : asset.lastMonthKept
  · -- the last month takes back what was written off too much
    have full := asset.fullMonths_of_kept kept
    have last := sound.installments (asset.start.index + (asset.life - 1))
    rw [asset.depreciationForMonth_eq, nthInstallment, if_neg (by omega),
      if_pos ⟨by omega, kept⟩] at last
    rw [full, Nat.cast_sub life] at more
    push_cast at more
    omega
  · -- the asset is sold before that, below its salvage value
    have some : asset.depreciableBase ≠ 0 := by
      intro nothing
      rw [asset.installment_of_base nothing, nothing] at more
      simp at more
    have nonneg := asset.depreciableBase_nonneg
    have base : asset.depreciableBase =
        asset.cost - asset.salvageValue - asset.openingAccumulated := by
      unfold depreciableBase at some nonneg ⊢
      omega
    cases full : asset.fullMonths with
    | zero =>
        rw [full] at more
        simp only [Nat.cast_zero, mul_zero] at more
        omega
    | succ count =>
        obtain ⟨onDate, completed⟩ := asset.exists_completedMonths count
        have value := sound.bookValue (by omega) onDate
        rw [asset.accumulatedUntil_eq, completed, asset.bookedBy_eq,
          if_neg fun both => kept both.2, ← full, Nat.min_self] at value
        omega

/-- The schedule of an asset is sound exactly when its full installments do not
exceed the base. -/
theorem soundSchedule_iff : asset.SoundSchedule ↔
    asset.installment * asset.fullMonths ≤ asset.depreciableBase :=
  ⟨asset.enough_of_sound, asset.sound_of_enough⟩

end PrintFixedAsset

private theorem first_valid : 1 ≤ 1 ∧ 1 ≤ 12 := by decide

def smallAsset : PrintFixedAsset where
  purchaseDate := Date.endOf 2026 1 first_valid
  cost := 60
  usefulLifeMonths := 100

/-- Each of ninety-nine months writes off a cent, and the last one takes
thirty-nine back. -/
theorem soundSchedule_roundsUp :
    ¬ ∀ asset : PrintFixedAsset, asset.SoundSchedule := by
  intro sound
  have enough := smallAsset.enough_of_sound (sound smallAsset)
  revert enough
  decide +kernel

end Mousstec.Printing
