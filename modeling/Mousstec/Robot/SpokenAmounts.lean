import Mathlib.Algebra.Order.Ring.Nat
import Mousstec.Robot.SpokenGroups

/-!
# Reading amounts

The thousands and the millions of a phrase, and the whole phrase: the reader
gets its value when it can read every part, and less otherwise.
-/

namespace Mousstec

namespace Robot

namespace Spoken

section Amounts

variable {prev : Word} {r : Reading} {next : List Word} {mode : Option Waw}
  {value : ℕ}

theorem Entry.eq_thousand (entry : Entry Spoken.thousand) :
    entry.value = 1000 :=
  table_values.2.2.2.2.1 _ (List.mem_append_left Spoken.thousands entry.listed)

theorem Entry.eq_thousands (entry : Entry Spoken.thousands) :
    entry.value = 1000 :=
  table_values.2.2.2.2.1 _ (List.mem_append_right Spoken.thousand entry.listed)

theorem Entry.eq_million (entry : Entry Spoken.million) :
    entry.value = 1000000 :=
  table_values.2.2.2.2.2.2 _ entry.listed

theorem Group.words_ne_nil (group : Group) : group.words ≠ [] := by
  cases group with
  | small part =>
      obtain ⟨word, words, -, -, same, -⟩ := part.words_eq
      rw [Group.words, same]
      exact List.cons_ne_nil _ _
  | hundreds part => exact part.words_ne_nil
  | both first waw second =>
      exact fun empty => first.words_ne_nil (List.append_eq_nil_iff.mp empty).1

theorem leads_digits {count : DigitCount} {entry : Word} {number : ℕ}
    (fresh : r.started = false)
    (multiplies : isIn thousand entry = true ∨ isIn thousands entry = true ∨
      isIn million entry = true) (alone : Alone entry)
    (steps : ∀ scale, StepsTo prev
      { total := r.total
        current := count.value
        scale
        started := true } entry false next (r.total + number) 0) :
    Leads prev r (link none [count.word, entry]) next (r.total + number) 0 := by
  refine leads_cons fresh (fun waw => by cases waw)
    (isSome_of_kind count.digits)
    (steps_digits count.digits fresh multiplies) fun scale => ?_
  exact leads_alone rfl alone (steps scale)

theorem Thousands.leads {thousands : Thousands}
    (ready : r.started = mode.isSome) (readable : thousands.Readable mode)
    (empty : r.current = 0) :
    Leads prev r (link mode thousands.words) next (r.total + thousands.value)
      0 := by
  cases thousands with
  | one entry =>
      have alone : mode = none := readable
      subst alone
      obtain ⟨known, goes⟩ := entry.thousand
      have steps : StepsTo prev r entry.word false next _ 0 :=
        steps_multiplier known (.inl rfl)
      rw [if_pos empty, one_mul] at steps
      exact leads_word ready (fun _ => goes) (isSome_of_kind known) steps
  | two entry =>
      obtain ⟨known, goes⟩ := entry.twoThousand
      have steps : StepsTo prev r entry.word mode.isSome next
          (r.total + entry.value) r.current :=
        steps_thousands known (.inl rfl) ready
      rw [empty] at steps
      exact leads_word ready (fun _ => goes) (isSome_of_kind known) steps
  | word entry =>
      obtain ⟨known, goes⟩ := entry.thousandsWord
      have steps : StepsTo prev r entry.word mode.isSome next
          (r.total + entry.value) r.current :=
        steps_thousands known (.inr (.inl rfl)) ready
      rw [empty] at steps
      exact leads_word ready (fun _ => goes) (isSome_of_kind known) steps
  | plural before count entry =>
      have none : before = none := readable
      subst none
      obtain ⟨isCount, goes, three, ten⟩ := count.count
      obtain ⟨found, known, -⟩ := isCount.kind_eq
      obtain ⟨known', -⟩ := entry.thousands
      refine leads_cons ready (fun _ => goes) (isSome_of_kind known)
        (steps_count isCount ready (.inl entry.isMultiplier_thousands))
        fun scale => ?_
      apply leads_alone rfl (alone_of_kind known')
      rw [empty, Nat.zero_add]
      exact steps_plural known' rfl three ten
  | counted group other entry =>
      obtain ⟨known, -⟩ := entry.thousand
      have fits : Spoken.counted ([entry.word] ++ next) = true := by
        simp [Spoken.counted, entry.isMultiplier_thousand]
      have fits' : hundredOk prev ([entry.word] ++ next) = true := by
        simp [hundredOk, isIn_of_mem entry.listed]
      rw [Thousands.words, link_append group.words_ne_nil]
      apply leads_append (group.leads ready (fun _ => fits) (fun _ _ => fits')
        readable empty)
      intro scale
      have steps : StepsTo prev
          { total := r.total
            current := group.value
            scale
            started := true } entry.word false next _ 0 :=
        steps_multiplier known (.inl rfl)
      have some := group.one_le
      rw [if_neg (by dsimp only; omega)] at steps
      exact leads_alone rfl (alone_of_kind known) steps
  | digits count entry =>
      have alone : mode = none := readable
      subst alone
      obtain ⟨known, -⟩ := entry.thousand
      refine leads_digits ready (.inl (isIn_of_mem entry.listed))
        (alone_of_kind known) fun scale => ?_
      have some := count.some
      have steps : StepsTo prev
          { total := r.total
            current := count.value
            scale
            started := true } entry.word false next _ 0 :=
        steps_multiplier known (.inl rfl)
      rwa [if_neg (by dsimp only; omega)] at steps
  | digitsPlural count few entry =>
      have alone : mode = none := readable
      subst alone
      obtain ⟨known, -⟩ := entry.thousands
      exact leads_digits ready (.inr (.inl (isIn_of_mem entry.listed)))
        (alone_of_kind known) fun scale =>
          steps_plural known rfl few.1 few.2

theorem DigitCount.joins (count : DigitCount) : Joins count.word := by
  have known := count.digits
  apply joins_of_kind known
  apply kind_none (by decide +kernel)
  intro row member entry listed same
  have starts := (tables_waw row member entry listed).1
  rw [same] at starts
  have wrong : ∀ word : Word, isDigitChar 'ا' = false →
      count.word ≠ 'ا' :: word := by
    intro word letter there
    have all := count.decimal 'ا' (by rw [there]; exact List.mem_cons_self)
    rw [isDigitChar, all] at letter
    cases letter
  have letter : isDigitChar 'ا' = false := by decide +kernel
  rcases starts rfl with there | there
  · exact wrong _ letter there
  · exact wrong _ letter there

theorem falls_digits {count : DigitCount} {words : List Word} {waw : Waw}
    (on : r.started = true) (within : r.total + r.current < value) :
    Falls prev r (link (some waw) (count.word :: words) ++ next) value := by
  have read : Reads prev r (some waw) count.word words next :=
    reads_link on (fun _ => count.joins) (isSome_of_kind count.digits) words
      next
  exact falls_of_stop (read.stops (stops_digits count.digits on true))
    fun _ => within

theorem Thousands.falls {thousands : Thousands}
    (ready : r.started = mode.isSome) (unreadable : ¬thousands.Readable mode)
    (empty : r.current = 0) (within : r.total + thousands.value ≤ value) :
    Falls prev r (link mode thousands.words ++ next) value := by
  cases thousands with
  | one entry =>
      cases mode with
      | none => exact absurd rfl unreadable
      | some waw =>
          obtain ⟨known, goes⟩ := entry.thousand
          have read : Reads prev r (some waw) entry.word [] next :=
            reads_link ready (fun _ => goes) (isSome_of_kind known) [] next
          apply falls_of_stop
            (read.stops (stops_thousand known (.inl rfl) ready))
          intro _
          rw [Thousands.value, entry.eq_thousand] at within
          omega
  | two entry => exact absurd trivial unreadable
  | word entry => exact absurd trivial unreadable
  | plural before count entry =>
      obtain ⟨isCount, goes, three, ten⟩ := count.count
      obtain ⟨found, known, -⟩ := isCount.kind_eq
      obtain ⟨known', -⟩ := entry.thousands
      cases before with
      | none => exact absurd rfl unreadable
      | some before =>
          obtain ⟨hundreds, waw⟩ := before
          have many := hundreds.le_value
          rw [Thousands.value, entry.eq_thousands] at within
          rw [Thousands.words, List.append_assoc,
            link_append hundreds.words_ne_nil, List.append_assoc]
          by_cases fits : mode = none → hundreds.IsOne → hundredOk prev
              (waw.before [count.word] ++ [entry.word] ++ next) = true
          · apply falls_append (hundreds.leads ready fits empty)
            intro scale
            have steps : StepsTo prev
                { total := r.total
                  current := hundreds.value
                  scale
                  started := true } count.word true ([entry.word] ++ next)
                r.total (hundreds.value + count.value) :=
              steps_count isCount rfl (.inl entry.isMultiplier_thousands)
            obtain ⟨scale', stepped⟩ := steps
            have read : Reads prev
                { total := r.total
                  current := hundreds.value
                  scale
                  started := true } (some waw) count.word []
                ([entry.word] ++ next) :=
              reads_link rfl (fun _ => goes) (isSome_of_kind known) [] _
            have turn := read.reads _ stepped
            rw [List.nil_append, List.singleton_append,
              follow_alone rfl (alone_of_kind known'),
              stops_plural known' (by dsimp only; omega)] at turn
            rw [List.append_assoc]
            apply falls_of_stop (congrArg Prod.fst turn)
            intro _
            dsimp only
            omega
          · push Not at fits
            obtain ⟨rfl, one, unfit⟩ := fits
            rw [ne_eq, Bool.not_eq_true] at unfit
            exact hundreds.falls ready one unfit
  | counted group other entry =>
      rw [Thousands.value, entry.eq_thousand] at within
      rw [Thousands.words, link_append group.words_ne_nil, List.append_assoc]
      exact group.falls ready unreadable empty (by omega)
  | digits count entry =>
      cases mode with
      | none => exact absurd rfl unreadable
      | some waw =>
          have some := count.some
          rw [Thousands.value, entry.eq_thousand] at within
          exact falls_digits ready (by omega)
  | digitsPlural count few entry =>
      cases mode with
      | none => exact absurd rfl unreadable
      | some waw =>
          have some := count.some
          rw [Thousands.value, entry.eq_thousands] at within
          exact falls_digits ready (by omega)

theorem Millions.leads {millions : Millions} (fresh : r.started = false)
    (readable : millions.Readable) (empty : r.current = 0) :
    Leads prev r millions.words next (r.total + millions.value) 0 := by
  have ready : r.started = (none : Option Waw).isSome := fresh
  cases millions with
  | one entry =>
      obtain ⟨known, goes⟩ := entry.million
      have steps : StepsTo prev r entry.word false next _ 0 :=
        steps_multiplier known (.inr rfl)
      rw [if_pos empty, one_mul] at steps
      exact leads_word ready (fun _ => goes) (isSome_of_kind known) steps
  | two entry =>
      obtain ⟨known, goes⟩ := entry.twoMillion
      have steps : StepsTo prev r entry.word false next
          (r.total + entry.value) r.current :=
        steps_thousands known (.inr (.inr rfl)) fresh
      rw [empty] at steps
      exact leads_word ready (fun _ => goes) (isSome_of_kind known) steps
  | counted group entry =>
      obtain ⟨known, -⟩ := entry.million
      have fits : Spoken.counted ([entry.word] ++ next) = true := by
        simp [Spoken.counted, entry.isMultiplier_million]
      have led : Leads prev r (link none group.words) ([entry.word] ++ next)
          r.total group.value :=
        group.leads ready (fun _ => fits)
          (fun _ hundred => absurd hundred readable.2) readable.1 empty
      apply leads_append led
      intro scale
      have steps : StepsTo prev
          { total := r.total
            current := group.value
            scale
            started := true } entry.word false next _ 0 :=
        steps_multiplier known (.inr rfl)
      have some := group.one_le
      rw [if_neg (by dsimp only; omega)] at steps
      exact leads_alone rfl (alone_of_kind known) steps
  | digits count entry =>
      obtain ⟨known, -⟩ := entry.million
      refine leads_digits fresh (.inr (.inr (isIn_of_mem entry.listed)))
        (alone_of_kind known) fun scale => ?_
      have some := count.some
      have steps : StepsTo prev
          { total := r.total
            current := count.value
            scale
            started := true } entry.word false next _ 0 :=
        steps_multiplier known (.inr rfl)
      rwa [if_neg (by dsimp only; omega)] at steps

theorem currency_kind : ∀ word ∈ currency, kind word = none ∧
    joined word = none ∧ word ≠ waw ∧ word.head? ≠ some 'ب' := by
  decide +kernel

theorem hundredOk_million {entry : Entry Spoken.million}
    (cheap : prev ∉ priceWords) :
    hundredOk prev (entry.word :: next) = false := by
  obtain ⟨known, -⟩ := entry.million
  have alone := alone_of_kind known
  have money : entry.word ∉ currency := by
    intro member
    rw [(currency_kind _ member).1] at known
    cases known
  have other : ∀ (found : Kind) (rows : List (Word × ℕ)),
      (found, rows) ∈ tables → found ≠ .million →
        isIn rows entry.word = false := by
    intro found rows row different
    rw [isIn, List.any_eq_false]
    intro listed member same
    rw [beq_iff_eq] at same
    have known' := tables_kind _ row _ member
    rw [same, known] at known'
    exact different (Prod.mk.inj (Option.some.inj known')).1.symm
  have one := other .thousand Spoken.thousand (by simp [tables]) (by decide)
  have plural := other .thousands Spoken.thousands (by simp [tables])
    (by decide)
  have more : andMore (entry.word :: next) = false := by
    simp [andMore, alone.1, alone.2]
  simp [hundredOk, money, one, plural, more, cheap]

theorem Millions.falls {millions : Millions} (cheap : prev ∉ priceWords)
    (fresh : r.started = false) (unreadable : ¬millions.Readable)
    (empty : r.current = 0) (within : r.total + millions.value ≤ value) :
    Falls prev r (millions.words ++ next) value := by
  cases millions with
  | one entry => exact absurd trivial unreadable
  | two entry => exact absurd trivial unreadable
  | digits count entry => exact absurd trivial unreadable
  | counted group entry =>
      rw [Millions.value, entry.eq_million] at within
      rw [Millions.words, List.append_assoc]
      by_cases readable : group.Readable none
      · have hundred : group.IsHundred := by
          by_contra other
          exact unreadable ⟨readable, other⟩
        cases group with
        | small part => exact hundred.elim
        | both first waw second => exact hundred.elim
        | hundreds part =>
            exact part.falls fresh hundred (hundredOk_million cheap)
      · have ready : r.started = (none : Option Waw).isSome := fresh
        exact group.falls ready readable empty (by omega)

theorem leads_refl (on : r.started = true) :
    Leads prev r [] next r.total r.current := by
  refine ⟨r.scale, ?_⟩
  rw [← on]
  rfl

section Rest

variable {thousands : Option Thousands} {rest : Option Group} {second : Waw}

theorem rest_leads (ready : r.started = mode.isSome)
    (said : mode = none → rest.isSome = true)
    (fits : counted next = true) (fits' : hundredOk prev next = true)
    (readable : ∀ group ∈ rest, group.Readable mode) (empty : r.current = 0) :
    Leads prev r (rest.elim [] (link mode ·.words)) next r.total
      (rest.elim 0 Group.value) := by
  cases rest with
  | none =>
      have on : r.started = true := by
        cases mode with
        | none => cases said rfl
        | some waw => exact ready
      have led : Leads prev r [] next r.total r.current := leads_refl on
      rw [empty] at led
      exact led
  | some group =>
      exact group.leads ready (fun _ => fits) (fun _ _ => fits')
        (readable group rfl) empty

theorem rest_falls (ready : r.started = mode.isSome)
    (unreadable : ¬∀ group ∈ rest, group.Readable mode)
    (empty : r.current = 0)
    (within : r.total + rest.elim 0 Group.value ≤ value) :
    Falls prev r (rest.elim [] (link mode ·.words) ++ next) value := by
  push Not at unreadable
  obtain ⟨group, rfl, unreadable⟩ := unreadable
  exact group.falls ready unreadable empty within

def restWaw (mode : Option Waw) (thousands : Option Thousands) (second : Waw) :
    Option Waw :=
  if mode.isSome ∨ thousands.isSome then some second else none

theorem later_leads (ready : r.started = mode.isSome)
    (said : mode = none → thousands.isSome ∨ rest.isSome)
    (fits : counted next = true) (fits' : hundredOk prev next = true)
    (readable : ∀ part ∈ thousands, part.Readable mode)
    (readable' : ∀ group ∈ rest,
      group.Readable (restWaw mode thousands second)) (empty : r.current = 0) :
    Leads prev r
      (thousands.elim [] (link mode ·.words) ++
        rest.elim [] (link (restWaw mode thousands second) ·.words)) next
      (r.total + thousands.elim 0 Thousands.value)
      (rest.elim 0 Group.value) := by
  cases thousands with
  | none =>
      have ready' : r.started = (restWaw mode none second).isSome := by
        cases mode with
        | none => exact ready
        | some waw => exact ready
      have said' : restWaw mode none second = none → rest.isSome = true := by
        cases mode with
        | none => exact fun _ => (said rfl).resolve_left (by simp)
        | some waw => exact fun wrong => by cases wrong
      exact rest_leads ready' said' fits fits' readable' empty
  | some part =>
      have after : restWaw mode (some part) second = some second :=
        if_pos (.inr rfl)
      rw [after] at readable' ⊢
      apply leads_append (part.leads ready (readable part rfl) empty)
      intro scale
      have led : Leads prev
          { total := r.total + part.value
            current := 0
            scale
            started := true } (rest.elim [] (link (some second) ·.words)) next
          (r.total + part.value) (rest.elim 0 Group.value) :=
        rest_leads rfl (fun wrong => by cases wrong) fits fits' readable' rfl
      exact led

/-- In the thousands and the rest, where it cannot read all, the reader stops
short. -/
theorem later_falls (ready : r.started = mode.isSome)
    (unreadable : ¬((∀ part ∈ thousands, part.Readable mode) ∧
      ∀ group ∈ rest, group.Readable (restWaw mode thousands second)))
    (empty : r.current = 0)
    (within : r.total + thousands.elim 0 Thousands.value +
      rest.elim 0 Group.value ≤ value) :
    Falls prev r
      (thousands.elim [] (link mode ·.words) ++
        rest.elim [] (link (restWaw mode thousands second) ·.words) ++ next)
      value := by
  cases thousands with
  | none =>
      have ready' : r.started = (restWaw mode none second).isSome := by
        cases mode with
        | none => exact ready
        | some waw => exact ready
      refine rest_falls ready' (fun readable => ?_) empty within
      refine unreadable ⟨fun part wrong => ?_, readable⟩
      cases wrong
  | some part =>
      have after : restWaw mode (some part) second = some second :=
        if_pos (.inr rfl)
      rw [after] at unreadable ⊢
      rw [List.append_assoc]
      by_cases readable : part.Readable mode
      · apply falls_append (part.leads ready readable empty)
        intro scale
        refine rest_falls rfl (fun readable' => ?_) rfl within
        refine unreadable ⟨fun other same => ?_, readable'⟩
        obtain rfl := Option.some.inj same
        exact readable
      · exact part.falls ready readable empty
          (le_trans (Nat.le_add_right _ _) within)

end Rest

section Phrases

variable {phrase : Phrase}

theorem Phrase.secondWaw_eq :
    phrase.secondWaw = restWaw phrase.firstWaw phrase.thousands
      phrase.second := by
  simp [Phrase.secondWaw, restWaw, Phrase.firstWaw]

theorem Phrase.leads (fits : counted next = true)
    (fits' : hundredOk prev next = true) (readable : phrase.Readable) :
    Leads prev {} phrase.words next
      (phrase.millions.elim 0 Millions.value +
        phrase.thousands.elim 0 Thousands.value)
      (phrase.rest.elim 0 Group.value) := by
  obtain ⟨first, second, third⟩ := readable
  rw [Phrase.secondWaw_eq] at third
  rw [Phrase.words, Phrase.secondWaw_eq]
  have said := phrase.said
  cases known : phrase.millions with
  | none =>
      have mode : phrase.firstWaw = none := by rw [Phrase.firstWaw, known]; rfl
      rw [known] at said
      rw [mode] at second third ⊢
      exact later_leads rfl
        (fun _ => said.resolve_left (by simp)) fits fits' second third rfl
  | some part =>
      have mode : phrase.firstWaw = some phrase.first := by
        rw [Phrase.firstWaw, known]
        rfl
      rw [mode] at second third ⊢
      apply leads_append (part.leads rfl (first part known) rfl)
      intro scale
      have led : Leads prev
          { total := 0 + part.value
            current := 0
            scale
            started := true } _ next _ _ :=
        later_leads rfl (fun wrong => by cases wrong) fits fits' second third
          rfl
      rw [Nat.zero_add] at led
      rw [Nat.zero_add]
      exact led

theorem Phrase.falls (cheap : prev ∉ priceWords)
    (unreadable : ¬phrase.Readable) :
    Falls prev {} (phrase.words ++ next) phrase.value := by
  rw [Phrase.Readable, Phrase.secondWaw_eq] at unreadable
  rw [Phrase.words, Phrase.secondWaw_eq, Phrase.value]
  cases known : phrase.millions with
  | none =>
      have mode : phrase.firstWaw = none := by rw [Phrase.firstWaw, known]; rfl
      rw [mode] at unreadable ⊢
      refine later_falls rfl (fun readable => unreadable ⟨?_, readable⟩) rfl
        le_rfl
      intro part there
      rw [known] at there
      cases there
  | some part =>
      have mode : phrase.firstWaw = some phrase.first := by
        rw [Phrase.firstWaw, known]
        rfl
      rw [mode] at unreadable ⊢
      have bound : 0 + part.value ≤ part.value +
          phrase.thousands.elim 0 Thousands.value +
            phrase.rest.elim 0 Group.value := by
        omega
      rw [Option.elim_some, Option.elim_some, List.append_assoc]
      by_cases readable : part.Readable
      · apply falls_append (part.leads rfl readable rfl)
        intro scale
        refine later_falls rfl (fun readable' => ?_) rfl (by
          rw [Nat.zero_add])
        refine unreadable ⟨fun other same => ?_, readable'⟩
        rw [known] at same
        obtain rfl := Option.some.inj same
        exact readable
      · exact part.falls cheap rfl readable rfl bound

end Phrases

end Amounts

end Spoken

end Robot

end Mousstec
