import Mousstec.Robot.SpokenWords

/-!
# Reading phrases

How the reader goes over the parts of a phrase.  A part leads it from one
reading to the next, or makes it break off, short of the value.
-/

namespace Mousstec

namespace Robot

namespace Spoken

section Steps

attribute [local simp] step

variable {prev word : Word} {r : Reading} {rest : List Word} {value : ℕ}
  {started : Bool}

/-- A step that reads a word goes on to these numbers, at some scale. -/
def StepsTo (prev : Word) (r : Reading) (word : Word) (joined : Bool)
    (rest : List Word) (total current : ℕ) : Prop :=
  ∃ scale, step prev r word joined rest =
    some
      { total
        current
        scale
        started := true }

theorem steps_value {found : Kind}
    (known : kind word = some (found, value))
    (plain : found = .unit ∨ found = .teen ∨ found = .ten ∨ found = .hundreds)
    (ready : r.started = started)
    (fits : value = 1 → started = false → counted rest = true) :
    StepsTo prev r word started rest r.total (r.current + value) := by
  refine ⟨if found = .hundreds then 100 else 1, ?_⟩
  rcases plain with rfl | rfl | rfl | rfl
  all_goals
    simp only [step, known, ready]
    rw [if_neg (by
      rintro ⟨one, fresh, uncounted⟩
      rw [fits one (by simpa using fresh)] at uncounted
      cases uncounted), if_neg (by
      rintro ⟨-, on, apart, -⟩
      rw [on] at apart
      cases apart), if_neg (by
      rintro ⟨on, apart⟩
      rw [on] at apart
      cases apart)]

theorem steps_count (known : IsCount word value) (ready : r.started = started)
    (next : isMultiplier (rest.headD []) = true ∨
      (rest.headD [] = ashr ∨ rest.headD [] = ashra) ∧ value < 10) :
    StepsTo prev r word started rest r.total (r.current + value) := by
  rcases known with ⟨unit, three⟩ | short
  · exact steps_value unit (.inl rfl) ready fun one => by omega
  · refine ⟨r.scale, ?_⟩
    have joined : (!started) = true ∨ started = true := by
      cases started with
      | true => exact .inr rfl
      | false => exact .inl rfl
    simp only [step, short, ready]
    rw [if_neg (by
      rintro ⟨-, on, apart, -⟩
      rw [on] at apart
      cases apart), if_pos ⟨next, joined⟩]

theorem steps_teen (long : Bool) (on : r.started = true)
    (some : 0 < r.current) (few : r.current < 10) :
    StepsTo prev r (if long then ashra else ashr) false rest r.total
      (r.current + 10) := by
  refine ⟨r.scale, ?_⟩
  cases long with
  | true =>
      simp only [step, kind_ashra, on, if_true]
      rw [if_neg (by simp), if_pos (by simp [some, few])]
  | false =>
      simp only [step, kind_ashr, on, Bool.false_eq_true, if_false]
      rw [if_pos (by simp [some, few])]

theorem steps_hundred (known : kind word = some (.hundred, value))
    (ready : r.started = started)
    (fits : started = false → hundredOk prev rest = true) :
    StepsTo prev r word started rest r.total (r.current + 100) := by
  refine ⟨100, ?_⟩
  simp only [step, known, ready]
  rw [if_neg (by
    rintro ⟨fresh, alone⟩
    rw [fits (by simpa using fresh)] at alone
    cases alone), if_neg (by
    rintro ⟨on, apart, -⟩
    rw [on] at apart
    cases apart), if_neg (by
    rintro ⟨on, apart⟩
    rw [on] at apart
    cases apart)]

theorem steps_hundreds (known : kind word = some (.hundred, value))
    (on : r.started = true) (some : 0 < r.current) (few : r.current < 10) :
    StepsTo prev r word false rest r.total (r.current * 100) := by
  refine ⟨100, ?_⟩
  simp only [step, known, on]
  rw [if_neg (by simp), if_pos (by simp [some, few])]

theorem steps_multiplier {found : Kind}
    (known : kind word = some (found, value))
    (plain : found = .thousand ∨ found = .million) :
    StepsTo prev r word false rest
      (r.total + (if r.current = 0 then 1 else r.current) * value) 0 := by
  refine ⟨value, ?_⟩
  rcases plain with rfl | rfl
  · simp [step, known]
  · simp [step, known]

theorem steps_plural (known : kind word = some (.thousands, value))
    (on : r.started = true) (some : 2 < r.current) (few : r.current ≤ 10) :
    StepsTo prev r word false rest (r.total + r.current * value) 0 := by
  refine ⟨value, ?_⟩
  simp only [step, known, on]
  rw [if_neg (by simp [some, few]), if_neg (by simp), if_neg (by omega)]

theorem steps_thousands {found : Kind}
    (known : kind word = some (found, value))
    (plain : found = .twoThousand ∨ found = .thousandsWord ∨
      found = .twoMillion) (ready : r.started = started) :
    StepsTo prev r word started rest (r.total + value) r.current := by
  rcases plain with rfl | rfl | rfl
  · refine ⟨1000, ?_⟩
    simp only [step, known, ready]
    rw [if_neg (by simp)]
  · refine ⟨1000, ?_⟩
    simp only [step, known, ready]
    rw [if_neg (by simp)]
  · refine ⟨1000000, ?_⟩
    simp only [step, known, ready]
    rw [if_neg (by simp)]

theorem steps_digits (known : kind word = some (.digits, value))
    (fresh : r.started = false)
    (next : isIn thousand (rest.headD []) = true ∨
      isIn thousands (rest.headD []) = true ∨
        isIn million (rest.headD []) = true) :
    StepsTo prev r word false rest r.total value := by
  refine ⟨r.scale, ?_⟩
  simp only [step, known, fresh]
  rw [if_neg]
  rintro (on | ⟨one, plural, million⟩)
  · cases on
  · rcases next with next | next | next
    · rw [next] at one
      cases one
    · rw [next] at plural
      cases plural
    · rw [next] at million
      cases million

theorem stops_digits (known : kind word = some (.digits, value))
    (on : r.started = true) (joined : Bool) :
    step prev r word joined rest = none := by
  simp [step, known, on]

theorem stops_thousand {found : Kind}
    (known : kind word = some (found, value))
    (plain : found = .thousand ∨ found = .million) (on : r.started = true) :
    step prev r word true rest = none := by
  rcases plain with rfl | rfl
  · simp [step, known, on]
  · simp [step, known, on]

theorem stops_plural (known : kind word = some (.thousands, value))
    (many : 10 < r.current) (joined : Bool) :
    step prev r word joined rest = none := by
  simp only [step, known]
  rw [if_pos]
  rintro ⟨-, -, few⟩
  omega

theorem stops_teen (long : Bool) (on : r.started = true)
    (many : 10 ≤ r.current) :
    step prev r (if long then ashra else ashr) false rest = none := by
  cases long with
  | true =>
      simp [step, kind_ashra, on]
      omega
  | false =>
      simp [step, kind_ashr, on]
      omega

theorem stops_hundred (known : kind word = some (.hundred, value))
    (fresh : r.started = false) (unfit : hundredOk prev rest = false)
    (joined : Bool) : step prev r word joined rest = none := by
  simp [step, known, fresh, unfit]

theorem stops_unit (known : kind word = some (.unit, value))
    (on : r.started = true) (other : word ≠ ashra) :
    step prev r word false rest = none := by
  simp [step, known, on, other]

theorem stops_unknown (known : kind word = none) (joined : Bool) :
    step prev r word joined rest = none := by
  simp [step, known]

end Steps

/-- The reader goes over some words to these numbers. -/
def Leads (prev : Word) (r : Reading) (words next : List Word)
    (total current : ℕ) : Prop :=
  ∃ scale, follow prev r (words ++ next) = follow prev
    { total
      current
      scale
      started := true } next

/-- The reader does not start, or it stops short of a value. -/
def Falls (prev : Word) (r : Reading) (words : List Word) (value : ℕ) : Prop :=
  (follow prev r words).1.started = true →
    (follow prev r words).1.total + (follow prev r words).1.current < value

section Parts

variable {prev word : Word} {r : Reading} {words rest next : List Word}
  {mode : Option Waw} {total current value : ℕ}

theorem joins_apart (joins : Joins word) : 'و' :: word ≠ waw := by
  rintro same
  injection same with _ same
  subst same
  cases joins

theorem follow_cons {joined' : Option Word} {raw : Word}
    (inner : (if r.started = true then joined raw else none) = joined')
    (other : ¬(r.started = true ∧ raw = waw ∧ numberNext rest = true)) :
    follow prev r (raw :: rest) =
      match step prev r (joined'.getD raw) joined'.isSome rest with
      | none => (r, raw :: rest)
      | some r' => follow prev r' rest := by
  have turn := follow.eq_def prev r (raw :: rest)
  simp only [if_neg other, inner] at turn
  exact turn

theorem follow_waw (on : r.started = true)
    (number : numberNext (word :: rest) = true) :
    follow prev r (waw :: word :: rest) =
      match step prev r word true rest with
      | none => (r, word :: rest)
      | some r' => follow prev r' rest := by
  rw [follow.eq_def]
  exact if_pos ⟨on, rfl, number⟩

theorem follow_alone (on : r.started = true) (alone : Alone word)
    (rest : List Word) : follow prev r (word :: rest) =
      match step prev r word false rest with
      | none => (r, word :: rest)
      | some r' => follow prev r' rest := by
  have inner : (if r.started = true then joined word else none) = none := by
    rw [if_pos on, alone.1]
  rw [follow_cons inner fun there => alone.2 there.2.1]
  rfl

/-- How a word is read after a waw, or as the first one. -/
structure Reads (prev : Word) (r : Reading) (mode : Option Waw) (word : Word)
    (words next : List Word) : Prop where
  reads : ∀ r', step prev r word mode.isSome (words ++ next) = some r' →
    follow prev r (link mode (word :: words) ++ next) =
      follow prev r' (words ++ next)
  stops : step prev r word mode.isSome (words ++ next) = none →
    (follow prev r (link mode (word :: words) ++ next)).1 = r

theorem reads_link (ready : r.started = mode.isSome)
    (joins : mode = some .joined → Joins word)
    (number : (kind word).isSome = true) (words next : List Word) :
    Reads prev r mode word words next := by
  have turn : ∃ left, follow prev r (link mode (word :: words) ++ next) =
      match step prev r word mode.isSome (words ++ next) with
      | none => (r, left)
      | some r' => follow prev r' (words ++ next) := by
    rcases mode with _ | _ | _
    · have inner : (if r.started = true then joined word else none) = none := by
        rw [ready]
        rfl
      refine ⟨word :: (words ++ next), ?_⟩
      exact follow_cons inner fun there => by
        rw [ready] at there
        cases there.1
    · have joins := joins rfl
      have inner : (if r.started = true then joined ('و' :: word) else none) =
          some word := by
        rw [ready]
        exact joins
      refine ⟨('و' :: word) :: (words ++ next), ?_⟩
      exact follow_cons inner fun there => joins_apart joins there.2.1
    · exact ⟨word :: (words ++ next), follow_waw ready number⟩
  obtain ⟨left, turn⟩ := turn
  constructor
  · intro r' stepped
    rw [turn, stepped]
  · intro stopped
    rw [turn, stopped]

end Parts

end Spoken

end Robot

end Mousstec
