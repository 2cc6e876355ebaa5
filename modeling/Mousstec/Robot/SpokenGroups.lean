import Mousstec.Robot.SpokenReading

/-!
# Reading groups

The numbers below a thousand: when the reader goes over them, and how far short
it stops otherwise.
-/

namespace Mousstec

namespace Robot

namespace Spoken

section Parts

variable {prev word : Word} {r : Reading} {words words' next : List Word}
  {mode : Option Waw} {total current total' current' value : ℕ}

theorem leads_cons (ready : r.started = mode.isSome)
    (joins : mode = some .joined → Joins word)
    (number : (kind word).isSome = true)
    (steps : StepsTo prev r word mode.isSome (words ++ next) total current)
    (later : ∀ scale, Leads prev
      { total
        current
        scale
        started := true } words next total' current') :
    Leads prev r (link mode (word :: words)) next total' current' := by
  obtain ⟨scale, stepped⟩ := steps
  obtain ⟨scale', led⟩ := later scale
  refine ⟨scale', ?_⟩
  rw [(reads_link ready joins number words next).reads _ stepped]
  exact led

theorem leads_nil (scale : ℕ) : Leads prev
    { total
      current
      scale
      started := true } [] next total current :=
  ⟨scale, rfl⟩

theorem leads_word (ready : r.started = mode.isSome)
    (joins : mode = some .joined → Joins word)
    (number : (kind word).isSome = true)
    (steps : StepsTo prev r word mode.isSome next total current) :
    Leads prev r (link mode [word]) next total current :=
  leads_cons ready joins number steps leads_nil

theorem leads_alone (on : r.started = true) (alone : Alone word)
    (steps : StepsTo prev r word false next total current) :
    Leads prev r [word] next total current := by
  obtain ⟨scale, stepped⟩ := steps
  refine ⟨scale, ?_⟩
  rw [List.singleton_append, follow_alone on alone, stepped]

theorem leads_append (first : Leads prev r words (words' ++ next) total current)
    (second : ∀ scale, Leads prev
      { total
        current
        scale
        started := true } words' next total' current') :
    Leads prev r (words ++ words') next total' current' := by
  obtain ⟨scale, led⟩ := first
  obtain ⟨scale', led'⟩ := second scale
  refine ⟨scale', ?_⟩
  rw [List.append_assoc, led]
  exact led'

theorem falls_append (first : Leads prev r words next total current)
    (second : ∀ scale, Falls prev
      { total
        current
        scale
        started := true } next value) :
    Falls prev r (words ++ next) value := by
  obtain ⟨scale, led⟩ := first
  rw [Falls, led]
  exact second scale

theorem falls_of_stop {r' : Reading}
    (stopped : (follow prev r words).1 = r')
    (short : r'.started = true → r'.total + r'.current < value) :
    Falls prev r words value := by
  rw [Falls, stopped]
  exact short

theorem link_append (some : words ≠ []) (words' : List Word) :
    link mode (words ++ words') = link mode words ++ words' := by
  cases words with
  | nil => exact absurd rfl some
  | cons word words =>
      rcases mode with _ | _ | _
      · rfl
      · rfl
      · rfl

theorem isSome_of_kind {found : Kind}
    (known : kind word = some (found, value)) : (kind word).isSome = true := by
  rw [known]
  rfl

theorem andMore_before {found : Kind} (known : kind word = some (found, value))
    (inWords : found ≠ .digits) {waw : Waw}
    (joins : waw = .joined → Joins word) :
    andMore (waw.before (word :: words) ++ next) = true := by
  cases waw with
  | joined =>
      have joined := joins rfl
      rw [Joins] at joined
      simp [andMore, Waw.before, joined, known, inWords]
  | apart =>
      have alone : joined Spoken.waw = none := by
        rw [Spoken.waw, joined]
        exact if_neg fun there => there.2.1 rfl
      simp [andMore, Waw.before, alone, known, inWords]

theorem counted_before {found : Kind} (known : kind word = some (found, value))
    (inWords : found ≠ .digits) {waw : Waw}
    (joins : waw = .joined → Joins word) :
    counted (waw.before (word :: words) ++ next) = true := by
  simp [counted, andMore_before known inWords joins]

theorem hundredOk_before {found : Kind}
    (known : kind word = some (found, value)) (inWords : found ≠ .digits)
    {waw : Waw} (joins : waw = .joined → Joins word) :
    hundredOk prev (waw.before (word :: words) ++ next) = true := by
  simp [hundredOk, andMore_before known inWords joins]

theorem fresh_of_isSome (fresh : mode.isSome = false) : mode = none := by
  cases mode with
  | none => rfl
  | some waw => cases fresh

end Parts

theorem IsCount.kind_eq {word : Word} {value : ℕ} (count : IsCount word value) :
    ∃ found, kind word = some (found, value) ∧ found ≠ .digits := by
  rcases count with ⟨unit, -⟩ | short
  · exact ⟨.unit, unit, by decide⟩
  · exact ⟨.short, short, by decide⟩

section Groups

variable {prev : Word} {r : Reading} {next : List Word} {mode : Option Waw}
  {value : ℕ}

theorem alone_teenTail (long : Bool) : Alone (if long then ashra else ashr) := by
  cases long with
  | true => exact alone_of_kind kind_ashra
  | false => exact alone_of_kind kind_ashr

theorem Small.words_eq (small : Small) :
    ∃ word words found number, small.words = word :: words ∧
      kind word = some (found, number) ∧ found ≠ .digits ∧
        (¬small.IsAhad → Joins word) := by
  cases small with
  | unit entry =>
      obtain ⟨known, joins⟩ := entry.unit
      exact ⟨_, _, _, _, rfl, known, by decide, fun _ => joins⟩
  | teen entry =>
      obtain ⟨known, joins⟩ := entry.teen
      exact ⟨_, _, _, _, rfl, known, by decide, fun _ => joins⟩
  | split head long =>
      obtain ⟨count, joins, -⟩ := head.teenHead
      obtain ⟨found, known, inWords⟩ := count.kind_eq
      exact ⟨_, _, _, _, rfl, known, inWords, joins⟩
  | ten entry =>
      obtain ⟨known, joins⟩ := entry.ten
      exact ⟨_, _, _, _, rfl, known, by decide, fun _ => joins⟩
  | both first waw second =>
      obtain ⟨known, joins⟩ := first.unitBelow
      exact ⟨_, _, _, _, rfl, known, by decide, fun _ => joins⟩

theorem Entry.two_le_teen (entry : Entry teens) : 2 ≤ entry.value :=
  table_values.2.1 _ (List.mem_append_left tens entry.listed)

theorem Entry.two_le_ten (entry : Entry tens) : 2 ≤ entry.value :=
  table_values.2.1 _ (List.mem_append_right teens entry.listed)

/-- The reader goes over a number below a hundred; a teen in two words must not
come after hundreds. -/
theorem Small.leads {small : Small} (ready : r.started = mode.isSome)
    (fits : mode = none → counted next = true)
    (joins : ¬(mode = some .joined ∧ small.IsAhad))
    (split : small.IsSplit → r.current = 0) :
    Leads prev r (link mode small.words) next r.total
      (r.current + small.value) := by
  have fresh : mode.isSome = false → counted next = true :=
    fun none => fits (fresh_of_isSome none)
  cases small with
  | unit entry =>
      obtain ⟨known, goes⟩ := entry.unit
      exact leads_word ready (fun _ => goes) (isSome_of_kind known)
        (steps_value known (.inl rfl) ready fun _ => fresh)
  | teen entry =>
      obtain ⟨known, goes⟩ := entry.teen
      have two := entry.two_le_teen
      exact leads_word ready (fun _ => goes) (isSome_of_kind known)
        (steps_value known (.inr (.inl rfl)) ready fun one => by omega)
  | split head long =>
      obtain ⟨count, goes, some, few⟩ := head.teenHead
      obtain ⟨found, known, -⟩ := count.kind_eq
      have empty := split trivial
      have tail : ([if long then ashra else ashr] ++ next).headD [] = ashr ∨
          ([if long then ashra else ashr] ++ next).headD [] = ashra := by
        cases long with
        | true => exact .inr rfl
        | false => exact .inl rfl
      refine leads_cons ready (fun waw => goes fun same => joins ⟨waw, same⟩)
        (isSome_of_kind known) (steps_count count ready (.inr ⟨tail, few⟩))
        fun scale => ?_
      rw [Small.value, ← Nat.add_assoc]
      apply leads_alone rfl (alone_teenTail long)
      exact steps_teen long rfl (by dsimp only; omega) (by dsimp only; omega)
  | ten entry =>
      obtain ⟨known, goes⟩ := entry.ten
      have two := entry.two_le_ten
      exact leads_word ready (fun _ => goes) (isSome_of_kind known)
        (steps_value known (.inr (.inr (.inl rfl))) ready fun one => by omega)
  | both first waw second =>
      obtain ⟨known, goes⟩ := first.unitBelow
      obtain ⟨known', goes'⟩ := second.ten
      have two := second.two_le_ten
      refine leads_cons ready (fun _ => goes) (isSome_of_kind known)
        (steps_value known (.inl rfl) ready fun _ _ =>
          counted_before known' (by decide) fun _ => goes') fun scale => ?_
      have later : Leads prev
          { total := r.total
            current := r.current + first.value
            scale
            started := true } (link (some waw) [second.word]) next r.total
            (r.current + first.value + second.value) :=
        leads_word rfl (fun _ => goes') (isSome_of_kind known')
          (steps_value known' (.inr (.inr (.inl rfl))) rfl fun one => by omega)
      rw [Small.value, ← Nat.add_assoc]
      exact later

theorem Entry.hundred_le (entry : Entry Spoken.hundreds) : 100 ≤ entry.value :=
  table_values.2.2.1 _ entry.listed

theorem Entry.eq_hundred (entry : Entry Spoken.hundred) : entry.value = 100 :=
  table_values.2.2.2.1 _ entry.listed

theorem Hundreds.words_ne_nil (hundreds : Hundreds) : hundreds.words ≠ [] := by
  cases hundreds with
  | word entry => exact List.cons_ne_nil _ _
  | one entry => exact List.cons_ne_nil _ _
  | counted count entry => exact List.cons_ne_nil _ _

theorem Hundreds.le_value (hundreds : Hundreds) : 100 ≤ hundreds.value := by
  cases hundreds with
  | word entry => exact entry.hundred_le
  | one entry => exact entry.eq_hundred.ge
  | counted count entry =>
      obtain ⟨-, -, some, -⟩ := count.hundredCount
      rw [Hundreds.value, entry.eq_hundred]
      omega

theorem Hundreds.leads {hundreds : Hundreds} (ready : r.started = mode.isSome)
    (fits : mode = none → hundreds.IsOne → hundredOk prev next = true)
    (empty : r.current = 0) :
    Leads prev r (link mode hundreds.words) next r.total hundreds.value := by
  cases hundreds with
  | word entry =>
      obtain ⟨known, goes⟩ := entry.hundreds
      have many := entry.hundred_le
      have steps : StepsTo prev r entry.word mode.isSome next r.total
          (r.current + entry.value) :=
        steps_value known (.inr (.inr (.inr rfl))) ready fun one => by omega
      rw [empty, Nat.zero_add] at steps
      exact leads_word ready (fun _ => goes) (isSome_of_kind known) steps
  | one entry =>
      obtain ⟨known, goes⟩ := entry.hundred
      have steps : StepsTo prev r entry.word mode.isSome next r.total
          (r.current + 100) :=
        steps_hundred known ready fun none => fits (fresh_of_isSome none) trivial
      rw [empty, Nat.zero_add, ← entry.eq_hundred] at steps
      exact leads_word ready (fun _ => goes) (isSome_of_kind known) steps
  | counted count entry =>
      obtain ⟨isCount, goes, some, few⟩ := count.hundredCount
      obtain ⟨found, known, -⟩ := isCount.kind_eq
      obtain ⟨known', -⟩ := entry.hundred
      refine leads_cons ready (fun _ => goes) (isSome_of_kind known)
        (steps_count isCount ready (.inl entry.isMultiplier_hundred))
        fun scale => ?_
      rw [Hundreds.value, entry.eq_hundred]
      have steps : StepsTo prev
          { total := r.total
            current := r.current + count.value
            scale
            started := true } entry.word false next r.total
            ((r.current + count.value) * 100) :=
        steps_hundreds known' rfl (by dsimp only; omega) (by dsimp only; omega)
      rw [empty, Nat.zero_add] at steps ⊢
      exact leads_alone rfl (alone_of_kind known') steps

theorem Hundreds.falls {hundreds : Hundreds} (fresh : r.started = false)
    (one : hundreds.IsOne) (unfit : hundredOk prev next = false) :
    Falls prev r (link none hundreds.words ++ next) value := by
  cases hundreds with
  | word entry => exact one.elim
  | counted count entry => exact one.elim
  | one entry =>
      obtain ⟨known, goes⟩ := entry.hundred
      have read : Reads prev r none entry.word [] next :=
        reads_link fresh (fun _ => goes) (isSome_of_kind known) [] next
      apply falls_of_stop (read.stops (stops_hundred known fresh unfit false))
      intro on
      rw [fresh] at on
      cases on

theorem Small.one_le (small : Small) : 1 ≤ small.value := by
  have units : ∀ {word : Word} {value : ℕ}, (word, value) ∈ units →
      1 ≤ value :=
    fun listed => table_values.1 _ (List.mem_append_left short listed)
  cases small with
  | unit entry => exact units entry.listed
  | teen entry => exact le_trans (by decide) entry.two_le_teen
  | split head long =>
      rw [Small.value]
      omega
  | ten entry => exact le_trans (by decide) entry.two_le_ten
  | both first waw second =>
      have two := second.two_le_ten
      rw [Small.value]
      omega

theorem Group.one_le (group : Group) : 1 ≤ group.value := by
  cases group with
  | small part => exact part.one_le
  | hundreds part => exact (by decide : 1 ≤ 100).trans part.le_value
  | both first waw second =>
      exact second.one_le.trans (Nat.le_add_left _ _)

theorem Group.leads {group : Group} (ready : r.started = mode.isSome)
    (fits : mode = none → counted next = true)
    (fits' : mode = none → group.IsHundred → hundredOk prev next = true)
    (readable : group.Readable mode) (empty : r.current = 0) :
    Leads prev r (link mode group.words) next r.total group.value := by
  cases group with
  | small part =>
      have led : Leads prev r (link mode part.words) next r.total
          (r.current + part.value) :=
        part.leads ready fits readable fun _ => empty
      rwa [empty, Nat.zero_add] at led
  | hundreds part => exact part.leads ready fits' empty
  | both first waw second =>
      obtain ⟨word, words, found, number, same, known, inWords, goes⟩ :=
        second.words_eq
      have plain : ¬second.IsAhad := by
        intro head
        cases second with
        | split head long => exact readable trivial
        | unit entry => exact head
        | teen entry => exact head
        | ten entry => exact head
        | both first waw second => exact head
      rw [Group.words, link_append first.words_ne_nil]
      apply leads_append (first.leads ready (fun _ _ => ?_) empty)
      · intro scale
        have later : Leads prev
            { total := r.total
              current := first.value
              scale
              started := true } (link (some waw) second.words) next r.total
              (first.value + second.value) :=
          Small.leads rfl (fun none => by cases none)
            (fun there => plain there.2) fun split => absurd split readable
        exact later
      · rw [same]
        exact hundredOk_before known inWords fun _ => goes plain

theorem stops_ahad (on : r.started = true) (rest : List Word) :
    follow prev r (('و' :: ahad) :: rest) = (r, ('و' :: ahad) :: rest) := by
  have listed : ('و' :: ahad, 1) ∈ units := by decide +kernel
  have known := (Entry.unit ⟨'و' :: ahad, 1, listed⟩).1
  have other : 'و' :: ahad ≠ ashra := by decide
  rw [follow_alone on (alone_of_kind known), stops_unit known on other]

theorem falls_split {head : Entry teenHeads} {long : Bool} {waw : Waw}
    (on : r.started = true) (many : 10 ≤ r.current)
    (within : r.total + r.current + head.value < value) :
    Falls prev r (waw.before [head.word, if long then ashra else ashr] ++ next)
      value := by
  obtain ⟨count, goes, -, few⟩ := head.teenHead
  obtain ⟨found, known, -⟩ := count.kind_eq
  by_cases odd : waw = .joined ∧ head.word = ahad
  · obtain ⟨rfl, same⟩ := odd
    have stopped : (follow prev r (Waw.joined.before
        [head.word, if long then ashra else ashr] ++ next)).1 = r := by
      rw [same]
      exact congrArg Prod.fst (stops_ahad on _)
    apply falls_of_stop stopped
    omega
  · have tail : ([if long then ashra else ashr] ++ next).headD [] = ashr ∨
        ([if long then ashra else ashr] ++ next).headD [] = ashra := by
      cases long with
      | true => exact .inr rfl
      | false => exact .inl rfl
    have steps : StepsTo prev r head.word true
        ([if long then ashra else ashr] ++ next) r.total
        (r.current + head.value) :=
      steps_count count on (.inr ⟨tail, few⟩)
    obtain ⟨scale, stepped⟩ := steps
    have read : Reads prev r (some waw) head.word
        [if long then ashra else ashr] next := by
      apply reads_link on _ (isSome_of_kind known)
      intro joined
      exact goes fun same => odd ⟨Option.some.inj joined, same⟩
    have turn := read.reads _ stepped
    rw [List.singleton_append, follow_alone rfl (alone_teenTail long),
      stops_teen long rfl (by dsimp only; omega)] at turn
    apply falls_of_stop (congrArg Prod.fst turn)
    exact fun _ => within.trans_le' (by dsimp only; omega)

theorem Group.falls {group : Group} (ready : r.started = mode.isSome)
    (unreadable : ¬group.Readable mode) (empty : r.current = 0)
    (within : r.total + group.value ≤ value) :
    Falls prev r (link mode group.words ++ next) value := by
  cases group with
  | small part =>
      rw [Group.Readable, not_not] at unreadable
      obtain ⟨rfl, head⟩ := unreadable
      have positive := part.one_le
      cases part with
      | split head' long =>
          have same : head'.word = ahad := head
          have stopped : (follow prev r (link (some .joined)
              (Group.small (.split head' long)).words ++ next)).1 = r := by
            rw [Group.words, Small.words, same]
            exact congrArg Prod.fst (stops_ahad ready _)
          apply falls_of_stop stopped
          intro _
          rw [Group.value] at within
          omega
      | unit entry => exact head.elim
      | teen entry => exact head.elim
      | ten entry => exact head.elim
      | both first waw second => exact head.elim
  | hundreds part => exact absurd trivial unreadable
  | both first waw second =>
      rw [Group.Readable, not_not] at unreadable
      rw [Group.value] at within
      have many := first.le_value
      cases second with
      | unit entry => exact unreadable.elim
      | teen entry => exact unreadable.elim
      | ten entry => exact unreadable.elim
      | both first waw second => exact unreadable.elim
      | split head long =>
          obtain ⟨count, goes, some, few⟩ := head.teenHead
          obtain ⟨found, known, -⟩ := count.kind_eq
          rw [Small.value] at within
          rw [Group.words, link_append first.words_ne_nil, Small.words,
            List.append_assoc]
          by_cases fits : mode = none → first.IsOne → hundredOk prev
              (waw.before [head.word, if long then ashra else ashr] ++ next) =
                true
          · apply falls_append (first.leads ready fits empty)
            intro scale
            exact falls_split rfl (by dsimp only; omega) (by dsimp only; omega)
          · push Not at fits
            obtain ⟨rfl, one, unfit⟩ := fits
            rw [ne_eq, Bool.not_eq_true] at unfit
            exact first.falls ready one unfit

end Groups

end Spoken

end Robot

end Mousstec
