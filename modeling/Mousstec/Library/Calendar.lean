import Mathlib.Tactic.Common
import Mathlib.Tactic.Linarith

/-!
# Calendar days and months

Days of the Gregorian calendar with their validity as proof fields.  A month is
known by its index, which counts twelve to a year, so that walking over months
is arithmetic on indices.
-/

namespace Library

def isLeap (year : ℕ) : Bool :=
  year % 4 = 0 && (year % 100 ≠ 0 || year % 400 = 0)

/-- The number of days of a month. -/
def monthLength (year month : ℕ) : ℕ :=
  if month = 2 then (if isLeap year then 29 else 28)
  else if month = 4 ∨ month = 6 ∨ month = 9 ∨ month = 11 then 30
  else 31

theorem monthLength_pos (year month : ℕ) : 1 ≤ monthLength year month := by
  unfold monthLength
  split
  · split <;> omega
  · split <;> omega

structure Date where
  year : ℕ
  month : ℕ
  day : ℕ
  month_valid : 1 ≤ month ∧ month ≤ 12
  day_valid : 1 ≤ day ∧ day ≤ monthLength year month
  deriving DecidableEq

/-- The index of a month of a year. -/
def monthIndex (year month : ℕ) : ℕ :=
  year * 12 + month

theorem monthIndex_injective {year month year' month' : ℕ}
    (valid : 1 ≤ month ∧ month ≤ 12) (valid' : 1 ≤ month' ∧ month' ≤ 12)
    (same : monthIndex year month = monthIndex year' month') :
    year = year' ∧ month = month' := by
  unfold monthIndex at same
  omega

namespace Date

@[ext] theorem ext {left right : Date} (year : left.year = right.year)
    (month : left.month = right.month) (day : left.day = right.day) :
    left = right := by
  cases left
  cases right
  simp_all

/-- The index of the day's month. -/
def index (date : Date) : ℕ :=
  monthIndex date.year date.month

/-- Earlier days compare as smaller. -/
def le (left right : Date) : Prop :=
  left.index < right.index ∨
    left.index = right.index ∧ left.day ≤ right.day

instance : LE Date := ⟨le⟩

instance (left right : Date) : Decidable (left ≤ right) :=
  inferInstanceAs (Decidable (_ ∨ _))

theorem le_def {left right : Date} :
    left ≤ right ↔ left.index < right.index ∨
      left.index = right.index ∧ left.day ≤ right.day := Iff.rfl

theorem index_le {left right : Date} (ordered : left ≤ right) :
    left.index ≤ right.index := by
  rcases le_def.mp ordered with less | ⟨same, _⟩
  · exact Nat.le_of_lt less
  · exact Nat.le_of_eq same

/-- The earlier of two days. -/
def earlier (left right : Date) : Date :=
  if left ≤ right then left else right

theorem index_earlier (left right : Date) :
    (earlier left right).index = min left.index right.index := by
  unfold earlier
  split
  · rename_i ordered
    have := index_le ordered
    omega
  · rename_i disordered
    rw [le_def] at disordered
    omega

/-- Days since the day before the first day of year one. -/
def ordinal (date : Date) : ℤ :=
  let before := date.year - 1
  365 * before + before / 4 - before / 100 + before / 400 +
    (((List.range (date.month - 1)).map fun month =>
      monthLength date.year (month + 1)).sum : ℕ) + date.day

private def twoDigits (number : ℕ) : String :=
  (if number < 10 then "0" else "") ++ toString number

/-- `%Y-%m-%d`. -/
def format (date : Date) : String :=
  toString date.year ++ "-" ++ twoDigits date.month ++ "-" ++ twoDigits date.day

/-- The last day of a month. -/
def endOf (year month : ℕ) (valid : 1 ≤ month ∧ month ≤ 12) : Date where
  year
  month
  day := monthLength year month
  month_valid := valid
  day_valid := ⟨monthLength_pos year month, Nat.le_refl _⟩

/-- The last day of the day's month. -/
def monthEnd (date : Date) : Date :=
  endOf date.year date.month date.month_valid

/-- The last day of the month before. -/
def previousMonthEnd (date : Date) : Date :=
  if january : date.month = 1 then
    endOf (date.year - 1) 12 ⟨by omega, Nat.le_refl _⟩
  else
    endOf date.year (date.month - 1)
      ⟨by have := date.month_valid; omega, by have := date.month_valid; omega⟩

@[simp] theorem index_endOf (year month : ℕ) (valid : 1 ≤ month ∧ month ≤ 12) :
    (endOf year month valid).index = monthIndex year month := rfl

/-- The days up to the end of a month are those of the months up to it. -/
theorem le_iff_index_le {left right : Date} (last : right.monthEnd = right) :
    left ≤ right ↔ left.index ≤ right.index := by
  refine ⟨index_le, fun ordered => ?_⟩
  rw [le_def]
  rcases Nat.lt_or_eq_of_le ordered with less | same
  · exact .inl less
  · refine .inr ⟨same, ?_⟩
    obtain ⟨years, months⟩ :=
      monthIndex_injective left.month_valid right.month_valid same
    rw [← last]
    change left.day ≤ monthLength right.year right.month
    rw [← years, ← months]
    exact left.day_valid.2

/-- Two ends of one month are the same day. -/
theorem eq_of_monthEnd {left right : Date} (ended : left.monthEnd = left)
    (ended' : right.monthEnd = right) (same : left.index = right.index) :
    left = right := by
  obtain ⟨years, months⟩ :=
    monthIndex_injective left.month_valid right.month_valid same
  refine Date.ext years months ?_
  rw [← ended, ← ended']
  change monthLength left.year left.month = monthLength right.year right.month
  rw [years, months]

theorem monthEnd_previousMonthEnd (date : Date) :
    date.previousMonthEnd.monthEnd = date.previousMonthEnd := by
  unfold previousMonthEnd
  split <;> rfl

theorem index_previousMonthEnd {date : Date} (started : 1 ≤ date.year) :
    date.previousMonthEnd.index + 1 = date.index := by
  have valid := date.month_valid
  unfold previousMonthEnd
  split
  · rw [index_endOf]
    unfold index monthIndex
    omega
  · rw [index_endOf]
    unfold index monthIndex
    omega

end Date

/-- The month after. -/
def nextMonth (year month : ℕ) : ℕ × ℕ :=
  if month = 12 then (year + 1, 1) else (year, month + 1)

/-- A number of months, one after the other. -/
def monthsFrom : ℕ → ℕ → ℕ → List (ℕ × ℕ)
  | 0, _, _ => []
  | count + 1, year, month =>
      (year, month) ::
        monthsFrom count (nextMonth year month).1 (nextMonth year month).2

theorem nextMonth_valid {year month : ℕ} (valid : 1 ≤ month ∧ month ≤ 12) :
    1 ≤ (nextMonth year month).2 ∧ (nextMonth year month).2 ≤ 12 := by
  unfold nextMonth
  split
  · exact ⟨Nat.le_refl _, by omega⟩
  · exact ⟨by omega, by omega⟩

/-- The day after. -/
def Date.next (date : Date) : Date :=
  if inside : date.day < monthLength date.year date.month then
    { date with
      day := date.day + 1
      day_valid := ⟨Nat.succ_pos _, inside⟩ }
  else
    { year := (nextMonth date.year date.month).1
      month := (nextMonth date.year date.month).2
      day := 1
      month_valid := nextMonth_valid date.month_valid
      day_valid := ⟨Nat.le_refl _, monthLength_pos _ _⟩ }

theorem monthIndex_nextMonth (year month : ℕ) :
    monthIndex (nextMonth year month).1 (nextMonth year month).2 =
      monthIndex year month + 1 := by
  unfold nextMonth monthIndex
  split
  · omega
  · omega

/-- After the end of a month comes the next month. -/
theorem Date.index_next {date : Date} (last : date.monthEnd = date) :
    date.next.index = date.index + 1 := by
  have whole : ¬ date.day < monthLength date.year date.month := by
    rw [← last]
    exact Nat.lt_irrefl _
  rw [next, dif_neg whole]
  exact monthIndex_nextMonth _ _

theorem mem_monthsFrom {count year month : ℕ} (valid : 1 ≤ month ∧ month ≤ 12)
    {found : ℕ × ℕ} :
    found ∈ monthsFrom count year month ↔
      (1 ≤ found.2 ∧ found.2 ≤ 12) ∧
        monthIndex year month ≤ monthIndex found.1 found.2 ∧
        monthIndex found.1 found.2 < monthIndex year month + count := by
  induction count generalizing year month with
  | zero =>
      simp only [monthsFrom, List.not_mem_nil, false_iff]
      omega
  | succ count induction =>
      rw [monthsFrom, List.mem_cons, induction (nextMonth_valid valid),
        monthIndex_nextMonth]
      constructor
      · rintro (rfl | ⟨foundValid, lower, upper⟩)
        · exact ⟨valid, Nat.le_refl _,
            Nat.lt_add_of_pos_right (Nat.succ_pos _)⟩
        · exact ⟨foundValid, by omega, by omega⟩
      · rintro ⟨foundValid, lower, upper⟩
        rcases Nat.lt_or_eq_of_le lower with less | same
        · exact .inr ⟨foundValid, by omega, by omega⟩
        · left
          obtain ⟨years, months⟩ := monthIndex_injective valid foundValid same
          exact Prod.ext years.symm months.symm

/-- One month more is one month at the end. -/
theorem monthsFrom_succ (count year month : ℕ) :
    ∃ last, monthsFrom (count + 1) year month =
        monthsFrom count year month ++ [last] ∧
      monthIndex last.1 last.2 = monthIndex year month + count := by
  induction count generalizing year month with
  | zero => exact ⟨(year, month), rfl, rfl⟩
  | succ count induction =>
      obtain ⟨last, more, index⟩ :=
        induction (nextMonth year month).1 (nextMonth year month).2
      refine ⟨last, ?_, ?_⟩
      · rw [monthsFrom, more]
        rfl
      · rw [index, monthIndex_nextMonth]
        omega

end Library
