import Mathlib.Data.List.GetD
import Mathlib.Data.List.TakeWhile
import Mousstec.Robot.SpokenAmounts

/-!
# Amounts in a text

A phrase before a currency word, among words that are neither numbers nor
prices: the text gets the digits of its value exactly when the reader can read
the phrase.
-/

namespace Mousstec

namespace Robot

namespace Spoken

/-- A word that is neither a number nor a price, nor a number with a ba. -/
structure Plain (raw : Word) : Prop where
  unknown : kind (norm raw) = none
  cheap : norm raw ∉ priceWords
  bare : ∀ word, norm raw = 'ب' :: word →
    (kind word).any (·.1 != .digits) = false

theorem splitFrom_spaceless (text : List Char) :
    ∀ word : Word, (∀ character ∈ word, isSpace character = false) →
      ∀ found ∈ splitFrom word text, ∀ character ∈ found,
        isSpace character = false := by
  induction text with
  | nil =>
      intro word spaceless found member
      rw [splitFrom] at member
      split at member
      · cases member
      · obtain rfl := List.mem_singleton.mp member
        exact fun character there =>
          spaceless character (List.mem_reverse.mp there)
  | cons first text induction =>
      intro word spaceless found member
      rw [splitFrom] at member
      split at member
      · have later := induction [] fun _ wrong => by cases wrong
        split at member
        · exact later found member
        · rcases List.mem_cons.mp member with rfl | member
          · exact fun character there =>
              spaceless character (List.mem_reverse.mp there)
          · exact later found member
      · rename_i letter
        refine induction (first :: word) ?_ found member
        intro character there
        rcases List.mem_cons.mp there with rfl | there
        · exact Bool.not_eq_true _ ▸ letter
        · exact spaceless character there

theorem split_spaceless {text : List Char} {word : Word}
    (member : word ∈ split text) : ' ' ∉ word := by
  intro there
  have letter := splitFrom_spaceless text [] (fun _ wrong => by cases wrong)
    word member ' ' there
  have space : isSpace ' ' = true := by decide
  rw [space] at letter
  cases letter

theorem join_cons_cons (word next : Word) (words : List Word) :
    join (word :: next :: words) = word ++ ' ' :: join (next :: words) := by
  simp [join, List.intercalate_cons_cons]

theorem takeWhile_join {word : Word} (plain : ' ' ∉ word) (words : List Word) :
    (join (word :: words)).takeWhile (· ≠ ' ') = word := by
  have all : word.takeWhile (· ≠ ' ') = word := by
    rw [List.takeWhile_eq_self_iff]
    intro character there
    rw [decide_eq_true_eq]
    rintro rfl
    exact plain there
  rcases words with _ | ⟨next, words⟩
  · rw [join, List.intercalate_singleton]
    exact all
  · rw [join_cons_cons, List.takeWhile_append, all]
    simp

theorem join_word {words rest rest' : List Word} {word word' : Word}
    (plain : ' ' ∉ word) (plain' : ' ' ∉ word')
    (same : join (words ++ word :: rest) = join (words ++ word' :: rest')) :
    word = word' := by
  induction words with
  | nil =>
      have first := congrArg (List.takeWhile (· ≠ ' ')) same
      rw [List.nil_append, List.nil_append, takeWhile_join plain,
        takeWhile_join plain'] at first
      exact first
  | cons before words induction =>
      apply induction
      have cons : ∀ (found : Word) (later : List Word),
          join (before :: (words ++ found :: later)) =
            before ++ ' ' :: join (words ++ found :: later) := by
        intro found later
        rcases words with _ | ⟨next, words⟩
        · exact join_cons_cons _ _ _
        · exact join_cons_cons _ _ _
      rw [List.cons_append, List.cons_append, cons, cons] at same
      exact (List.cons.inj (List.append_cancel_left same)).2

theorem edge_all (raw : Word) : ∀ character ∈ edge raw,
    isEdge character = true := by
  have parts : raw = rstrip raw ++ (raw.reverse.takeWhile isEdge).reverse := by
    rw [rstrip, ← List.reverse_append, List.takeWhile_append_dropWhile,
      List.reverse_reverse]
  have tail : edge raw = (raw.reverse.takeWhile isEdge).reverse := by
    have dropped := congrArg (List.drop (rstrip raw).length) parts
    rwa [List.drop_left] at dropped
  rw [tail]
  intro character there
  exact List.mem_takeWhile_imp (List.mem_reverse.mp there)

theorem digits_all (value : ℕ) : ∀ character ∈ digits value,
    character.isDigit = true :=
  fun _ there => Nat.isDigit_of_mem_toDigits (by decide) (by decide) there

theorem edges_plain : ∀ character ∈ edges,
    character.isDigit = false ∧ alike character = character :=
  @of_decide_eq_true _ (List.decidableBAll _ _) (by decide +kernel)

theorem not_isDigit_of_isEdge {character : Char}
    (edge : isEdge character = true) : character.isDigit = false :=
  (edges_plain character (List.contains_iff_mem.mp edge)).1

theorem digits_edge_inj {value value' : ℕ} {word word' : Word}
    (edge : ∀ character ∈ word, isEdge character = true)
    (edge' : ∀ character ∈ word', isEdge character = true)
    (same : digits value ++ word = digits value' ++ word') : value = value' := by
  have only : ∀ (number : ℕ) (tail : Word),
      (∀ character ∈ tail, isEdge character = true) →
        (digits number ++ tail).filter Char.isDigit = digits number := by
    intro number tail all
    rw [List.filter_append, List.filter_eq_self.mpr (digits_all number),
      List.filter_eq_nil_iff.mpr, List.append_nil]
    intro character there digit
    rw [not_isDigit_of_isEdge (all character there)] at digit
    cases digit
  have first := congrArg (List.filter Char.isDigit) same
  rw [only value word edge, only value' word' edge'] at first
  have read := congrArg (Nat.ofDigitChars 10 · 0) first
  dsimp only [digits] at read
  rwa [Nat.ofDigitChars_toDigits (by decide) (by decide),
    Nat.ofDigitChars_toDigits (by decide) (by decide)] at read

theorem alike_digit {character : Char} (digit : character.isDigit = true) :
    alike character = character := by
  have other : ∀ letter ∈ ['أ', 'إ', 'آ', 'ى', 'ة'], character ≠ letter := by
    rintro letter member rfl
    have letters : ∀ letter ∈ ['أ', 'إ', 'آ', 'ى', 'ة'],
        letter.isDigit = false :=
      @of_decide_eq_true _ (List.decidableBAll _ _) rfl
    rw [letters _ member] at digit
    cases digit
  simp only [List.forall_mem_cons] at other
  obtain ⟨first, second, third, fourth, fifth, -⟩ := other
  simp [alike, first, second, third, fourth, fifth]

theorem mem_norm {raw : Word} {character : Char}
    (member : character ∈ norm raw) : ∃ found ∈ raw, alike found = character := by
  have some := (List.mem_filter.mp member).1
  obtain ⟨found, there, same⟩ := List.mem_map.mp some
  refine ⟨found, ?_, same⟩
  have within := List.mem_reverse.mp there
  have within := List.mem_reverse.mp ((List.dropWhile_sublist _).mem within)
  have within := (List.dropWhile_sublist _).mem within
  exact (List.mem_filter.mp within).1

theorem tables_letter : ∀ row ∈ tables, ∀ entry ∈ row.2,
    (entry.1.headD '0').isDigit = false ∧
      isEdge (entry.1.headD '0') = false := by
  decide +kernel

/-- A price keeps the comma behind it. -/
example : toDigits "بخمسين،".toList = "بـ 50،".toList := by decide +kernel

def InWords (word : Word) : Prop :=
  ∃ found value, kind word = some (found, value) ∧ found ≠ .digits

theorem InWords.listed {word : Word} (said : InWords word) :
    ∃ row ∈ tables, ∃ entry ∈ row.2, entry.1 = word := by
  obtain ⟨found, value, known, other⟩ := said
  rw [kind] at known
  split at known
  · rename_i answer there
    obtain ⟨row, member, part⟩ := List.exists_of_findSome?_eq_some there
    obtain ⟨entry, picked, -⟩ := Option.map_eq_some_iff.mp part
    have same := List.find?_some picked
    exact ⟨row, member, entry, List.mem_of_find?_eq_some picked,
      beq_iff_eq.mp same⟩
  · split at known
    · have digits := (Prod.mk.inj (Option.some.inj known)).1
      exact absurd digits.symm other
    · cases known

theorem InWords.ne_digits {raw tail : Word} (said : InWords (norm raw))
    (edge : ∀ character ∈ tail, isEdge character = true) (value : ℕ) :
    raw ≠ digits value ++ tail := by
  intro written
  obtain ⟨row, member, entry, listed, same⟩ := said.listed
  obtain ⟨letter, inner⟩ := tables_letter row member entry listed
  rw [same] at letter inner
  cases known : norm raw with
  | nil =>
      rw [known] at letter
      exact absurd letter (by decide)
  | cons first word =>
      rw [known] at letter inner
      have there : first ∈ norm raw := by
        rw [known]
        exact List.mem_cons_self
      obtain ⟨found, among, alike⟩ := mem_norm there
      rw [written] at among
      rcases List.mem_append.mp among with digit | edged
      · have digit := digits_all value found digit
        rw [alike_digit digit] at alike
        subst alike
        rw [List.headD_cons, digit] at letter
        cases letter
      · have edged := edge found edged
        have plain := (edges_plain found (List.contains_iff_mem.mp edged)).2
        rw [plain] at alike
        subst alike
        rw [List.headD_cons, edged] at inner
        cases inner

theorem inWords_of_kind {found : Kind} {word : Word} {value : ℕ}
    (known : kind word = some (found, value)) (other : found ≠ .digits) :
    InWords word :=
  ⟨found, value, known, other⟩

theorem Hundreds.inWords (hundreds : Hundreds) :
    ∃ word words, hundreds.words = word :: words ∧ InWords word := by
  cases hundreds with
  | word entry =>
      exact ⟨_, _, rfl, inWords_of_kind entry.hundreds.1 (by decide)⟩
  | one entry =>
      exact ⟨_, _, rfl, inWords_of_kind entry.hundred.1 (by decide)⟩
  | counted count entry =>
      obtain ⟨found, known, other⟩ := count.hundredCount.1.kind_eq
      exact ⟨_, _, rfl, inWords_of_kind known other⟩

theorem Group.inWords (group : Group) :
    ∃ word words, group.words = word :: words ∧ InWords word := by
  cases group with
  | small part =>
      obtain ⟨word, words, found, value, same, known, other, -⟩ :=
        part.words_eq
      exact ⟨word, words, same, inWords_of_kind known other⟩
  | hundreds part => exact part.inWords
  | both first waw second =>
      obtain ⟨word, words, same, said⟩ := first.inWords
      exact ⟨word, words ++ waw.before second.words, by
        rw [Group.words, same, List.cons_append], said⟩

def Starts (words : List Word) : Prop :=
  ∀ prev next, (follow prev {} (words ++ next)).1.started = true

theorem step_started {prev raw : Word} {r r' : Reading} {joined : Bool}
    {rest : List Word} (stepped : step prev r raw joined rest = some r') :
    r'.started = true := by
  simp only [step] at stepped
  repeat' split at stepped
  all_goals cases stepped
  all_goals rfl

theorem follow_started (prev : Word) (r : Reading) (words : List Word)
    (on : r.started = true) : (follow prev r words).1.started = true := by
  induction r, words using follow.induct prev with
  | case1 r => exact on
  | case2 r next there =>
      rw [follow.eq_def]
      simp only [if_pos there]
      exact on
  | case3 r next word after stopped there =>
      rw [follow.eq_def]
      simp only [if_pos there, stopped]
      exact on
  | case4 r next word after r' stepped there induction =>
      rw [follow.eq_def]
      simp only [if_pos there, stepped]
      exact induction (step_started stepped)
  | case5 r next after other inner stopped =>
      rw [follow_cons rfl other, stopped]
      exact on
  | case6 r next after other inner r' stepped induction =>
      rw [follow_cons rfl other, stepped]
      exact induction (step_started stepped)

theorem starts_of_leads {words : List Word} {total current : ℕ}
    (led : ∀ prev next, Leads prev {} words next total current) :
    Starts words := by
  intro prev next
  obtain ⟨scale, same⟩ := led prev next
  rw [same]
  exact follow_started prev _ next rfl

/-- What a phrase begins with: a number in words, or digits, which are read. -/
def Begins (words : List Word) : Prop :=
  (∃ word later, words = word :: later ∧ InWords word) ∨ Starts words

theorem Begins.append {words : List Word} (begins : Begins words)
    (later : List Word) : Begins (words ++ later) := by
  rcases begins with ⟨word, tail, rfl, said⟩ | starts
  · exact .inl ⟨word, tail ++ later, rfl, said⟩
  · right
    intro prev next
    rw [List.append_assoc]
    exact starts prev (later ++ next)

theorem begins_word {found : Kind} {word : Word} {value : ℕ}
    {later : List Word} (known : kind word = some (found, value))
    (other : found ≠ .digits) : Begins (word :: later) :=
  .inl ⟨word, later, rfl, inWords_of_kind known other⟩

theorem Group.begins (group : Group) : Begins group.words :=
  .inl group.inWords

theorem Thousands.begins (thousands : Thousands) :
    Begins thousands.words := by
  have leads (readable : thousands.Readable none) : Starts thousands.words := by
    apply starts_of_leads
    intro prev next
    have led : Leads prev {} (link none thousands.words) next _ 0 :=
      thousands.leads rfl readable rfl
    exact led
  cases thousands with
  | one entry => exact begins_word entry.thousand.1 (by decide)
  | two entry => exact begins_word entry.twoThousand.1 (by decide)
  | word entry => exact begins_word entry.thousandsWord.1 (by decide)
  | plural before count entry =>
      rcases before with _ | ⟨hundreds, waw⟩
      · exact .inr (leads rfl)
      · have begins : Begins hundreds.words := .inl hundreds.inWords
        exact (begins.append _).append _
  | counted group other entry => exact group.begins.append _
  | digits count entry => exact .inr (leads rfl)
  | digitsPlural count few entry => exact .inr (leads rfl)

theorem Millions.begins (millions : Millions) : Begins millions.words := by
  have leads (readable : millions.Readable) : Starts millions.words :=
    starts_of_leads fun _ _ => millions.leads rfl readable rfl
  cases millions with
  | one entry => exact .inr (leads trivial)
  | two entry => exact .inr (leads trivial)
  | counted group entry => exact group.begins.append _
  | digits count entry => exact .inr (leads trivial)

theorem Phrase.begins (phrase : Phrase) : Begins phrase.words := by
  have said := phrase.said
  rw [Phrase.words]
  cases first : phrase.millions with
  | some part => exact part.begins.append _
  | none =>
      have mode : phrase.firstWaw = none := by rw [Phrase.firstWaw, first]; rfl
      rw [first] at said
      cases second : phrase.thousands with
      | some part =>
          rw [mode]
          exact part.begins.append _
      | none =>
          rw [second] at said
          cases third : phrase.rest with
          | none =>
              rw [third] at said
              simp at said
          | some group =>
              have mode' : phrase.secondWaw = none := by
                rw [Phrase.secondWaw, first, second]
                rfl
              rw [mode']
              exact group.begins

theorem Phrase.words_ne_nil (phrase : Phrase) : phrase.words ≠ [] := by
  intro empty
  rcases phrase.begins with ⟨word, later, same, -⟩ | starts
  · rw [empty] at same
    cases same
  · have on := starts [] []
    rw [empty] at on
    cases on

section Texts

variable {prev raw : Word} {words rest left : List Word} {said : Word}
  {phrase : Phrase} {next : List Word}

theorem follow_unknown (unknown : kind raw = none) :
    follow prev {} (raw :: rest) = ({}, raw :: rest) := by
  have inner : (if ({} : Reading).started = true then joined raw else none) =
      none := rfl
  rw [follow_cons inner fun there => by cases there.1]
  simp only [stops_unknown unknown, Option.getD_none]

theorem written_plain (plain : Plain raw) (words : List Word) :
    written prev (norm raw :: words) = none := by
  have unread : run prev (norm raw :: words) = none := by
    rw [run]
    simp only [follow_unknown plain.unknown]
    rfl
  have unpriced : priced (norm raw :: words) = none := by
    rw [priced]
    apply if_pos
    cases known : norm raw with
    | nil => exact .inl (by decide)
    | cons first word =>
        by_cases ba : first = 'ب'
        · subst ba
          have bare := plain.bare word known
          exact .inr (.inr (by rw [List.tail_cons, bare]; rfl))
        · exact .inr (.inl fun wrong => ba (Option.some.inj wrong))
  rw [written, unread, unpriced]
  rfl

theorem toDigitsFrom_none (unread : written prev (norm raw :: rest.map norm) =
    none) : toDigitsFrom prev 0 (raw :: rest) =
      raw :: toDigitsFrom (norm raw) 0 rest := by
  rw [toDigitsFrom]
  simp only [List.map_cons, unread]

theorem toDigitsFrom_some
    (read : written prev (norm raw :: rest.map norm) = some (said, left)) :
    toDigitsFrom prev 0 (raw :: rest) =
      (said ++ edge ((raw :: rest).getD (rest.length - left.length) [])) ::
        toDigitsFrom (norm raw) (rest.length - left.length) rest := by
  have count : rest.length + 1 - left.length - 1 =
      rest.length - left.length := by
    omega
  rw [toDigitsFrom]
  simp only [List.map_cons, read, List.length_cons, List.length_map, count]

theorem toDigitsFrom_plain (plain : ∀ word ∈ words, Plain word) :
    ∀ prev, toDigitsFrom prev 0 words = words := by
  induction words with
  | nil => exact fun _ => rfl
  | cons raw words induction =>
      intro prev
      obtain ⟨first, later⟩ := List.forall_mem_cons.mp plain
      rw [toDigitsFrom_none (written_plain first _), induction later]

theorem toDigitsFrom_before (plain : ∀ word ∈ words, Plain word)
    (rest : List Word) : ∀ prev ∉ priceWords, ∃ prev' ∉ priceWords,
      toDigitsFrom prev 0 (words ++ rest) =
        words ++ toDigitsFrom prev' 0 rest := by
  induction words with
  | nil => exact fun prev cheap => ⟨prev, cheap, rfl⟩
  | cons raw words induction =>
      intro prev cheap
      obtain ⟨first, later⟩ := List.forall_mem_cons.mp plain
      obtain ⟨prev', cheap', same⟩ := induction later (norm raw) first.cheap
      refine ⟨prev', cheap', ?_⟩
      rw [List.cons_append, toDigitsFrom_none (written_plain first _), same]
      rfl

theorem toDigitsFrom_skip (words rest : List Word) :
    ∀ prev, ∃ prev', toDigitsFrom prev words.length (words ++ rest) =
      toDigitsFrom prev' 0 rest := by
  induction words with
  | nil => exact fun prev => ⟨prev, rfl⟩
  | cons raw words induction =>
      intro prev
      obtain ⟨prev', same⟩ := induction (norm raw)
      exact ⟨prev', same⟩

theorem currency_cheap : ∀ word ∈ currency, word ∉ priceWords := by
  decide +kernel

theorem plain_of_head (unknown : kind (norm raw) = none)
    (cheap : norm raw ∉ priceWords) (head : (norm raw).head? ≠ some 'ب') :
    Plain raw := by
  refine ⟨unknown, cheap, fun word ba => ?_⟩
  rw [ba] at head
  exact absurd rfl head

/-- Alone, a hundred is a price behind `بسعر` only. -/
example : toDigits "مية بسعر مية".toList = "مية بسعر 100".toList := by
  decide +kernel

theorem plain_of_currency (money : norm raw ∈ currency) : Plain raw := by
  obtain ⟨unknown, -, -, head⟩ := currency_kind _ money
  exact plain_of_head unknown (currency_cheap _ money) head

/-- Before a currency word the reader gets the value of a phrase that it can
read. -/
theorem written_readable (money : raw ∈ currency) (readable : phrase.Readable) :
    written prev (phrase.words ++ raw :: rest) =
      some (digits phrase.value, raw :: rest) := by
  obtain ⟨unknown, unjoined, other, -⟩ := currency_kind raw money
  have fits : counted (raw :: rest) = true := by
    simp [counted, money]
  have fits' : hundredOk prev (raw :: rest) = true := by
    simp [hundredOk, money]
  obtain ⟨scale, led⟩ := phrase.leads fits fits' readable
  rw [follow_alone rfl ⟨unjoined, other⟩, stops_unknown unknown] at led
  rw [written, run]
  simp only [led]
  rfl

theorem priced_inWords (said : InWords raw) : priced (raw :: words) = none := by
  obtain ⟨row, member, entry, listed, same⟩ := said.listed
  have letter := (tables_waw row member entry listed).2.2
  rw [same] at letter
  rw [priced]
  exact if_pos (.inr (.inl letter))

theorem written_unreadable (cheap : prev ∉ priceWords)
    (unreadable : ¬phrase.Readable) (next : List Word) :
    written prev (phrase.words ++ next) = none ∧
        (∃ word later, phrase.words = word :: later ∧ InWords word) ∨
      ∃ value left, value < phrase.value ∧
        written prev (phrase.words ++ next) = some (digits value, left) := by
  have falls : Falls prev {} (phrase.words ++ next) phrase.value :=
    Phrase.falls cheap unreadable
  by_cases on : (follow prev {} (phrase.words ++ next)).1.started = true
  · refine .inr ⟨_, (follow prev {} (phrase.words ++ next)).2, falls on, ?_⟩
    rw [written, run]
    simp only [on, if_true]
  · left
    rcases phrase.begins with ⟨word, later, same, said⟩ | starts
    · refine ⟨?_, word, later, same, said⟩
      have unread : run prev (phrase.words ++ next) = none := by
        rw [run]
        exact if_neg on
      rw [written, unread, same, List.cons_append, priced_inWords said]
      rfl
    · exact absurd (starts prev next) on

theorem getD_spaceless (spaceless : ∀ word ∈ words, ' ' ∉ word) (place : ℕ) :
    ' ' ∉ words.getD place [] := by
  by_cases within : place < words.length
  · rw [List.getD_eq_getElem words [] within]
    exact spaceless _ (List.getElem_mem within)
  · rw [List.getD_eq_default words [] (not_lt.mp within)]
    exact List.not_mem_nil

theorem digits_spaceless {value : ℕ} {word : Word} (spaceless : ' ' ∉ word) :
    ' ' ∉ digits value ++ edge word := by
  intro there
  rcases List.mem_append.mp there with digit | edged
  · exact absurd (digits_all value _ digit) (by decide)
  · exact spaceless (List.mem_of_mem_drop edged)

theorem toDigitsFrom_unreadable {before : List Word}
    (cheap : prev ∉ priceWords) (unreadable : ¬phrase.Readable)
    (spoken : words.map norm = phrase.words)
    (spaceless : ∀ word ∈ words ++ next, ' ' ∉ word) (last : Word)
    (lastly : ' ' ∉ last) :
    join (before ++ toDigitsFrom prev 0 (words ++ next)) ≠
      join (before ++ (digits phrase.value ++ edge last) :: rest) := by
  have nonempty := phrase.words_ne_nil
  cases words with
  | nil =>
      rw [← spoken] at nonempty
      exact absurd rfl nonempty
  | cons raw words =>
      have all : norm raw :: (words ++ next).map norm =
          phrase.words ++ next.map norm := by
        rw [← spoken, ← List.map_append]
        rfl
      have written := written_unreadable cheap unreadable (next.map norm)
      rw [← all] at written
      rw [List.cons_append]
      intro same
      rcases written with ⟨unread, word, later, begins, said⟩ |
        ⟨value, left, short, read⟩
      · rw [toDigitsFrom_none unread] at same
        have first : norm raw = word := by
          rw [← spoken] at begins
          exact (List.cons.inj begins).1
        rw [← first] at said
        exact said.ne_digits (edge_all last) phrase.value
          (join_word (spaceless raw List.mem_cons_self)
            (digits_spaceless lastly) same)
      · rw [toDigitsFrom_some read] at same
        have alike := join_word
          (digits_spaceless (getD_spaceless spaceless _))
          (digits_spaceless lastly) same
        exact short.ne (digits_edge_inj (edge_all _) (edge_all _) alike)

theorem toDigitsFrom_readable (readable : phrase.Readable)
    (spoken : words.map norm = phrase.words) (money : norm raw ∈ currency)
    (plain : ∀ word ∈ next, Plain word) :
    toDigitsFrom prev 0 (words ++ raw :: next) =
      (digits phrase.value ++ edge (words.getLastD [])) :: raw :: next := by
  have nonempty := phrase.words_ne_nil
  cases words with
  | nil =>
      rw [← spoken] at nonempty
      exact absurd rfl nonempty
  | cons first words =>
      have all : norm first :: (words ++ raw :: next).map norm =
          phrase.words ++ norm raw :: next.map norm := by
        rw [← spoken, List.map_append]
        rfl
      have read : written prev (phrase.words ++ norm raw :: next.map norm) =
          some (digits phrase.value, norm raw :: next.map norm) :=
        written_readable money readable
      rw [← all] at read
      rw [List.cons_append, toDigitsFrom_some read]
      have count : (words ++ raw :: next).length -
          (norm raw :: next.map norm).length = words.length := by
        simp
      obtain ⟨prev', later⟩ := toDigitsFrom_skip words (raw :: next) (norm first)
      rw [count, later, toDigitsFrom_plain (List.forall_mem_cons.mpr
        ⟨plain_of_currency money, plain⟩)]
      have last : (first :: (words ++ raw :: next)).getD words.length [] =
          (first :: words).getLastD [] := by
        have within : words.length < (first :: words).length :=
          Nat.lt_succ_self _
        rw [← List.cons_append, List.getD_append _ _ _ _ within,
          List.getD_eq_getElem _ _ within]
        exact (List.getLast_eq_getElem (List.cons_ne_nil first words)).symm
      rw [last]

end Texts

section Amounts

variable {text : List Char} {phrase : Phrase}
  {before words after : List Word} {money : Word}

theorem ne_of_unreadable
    (parts : split text = before ++ (words ++ money :: after))
    (plain : ∀ word ∈ before, Plain word)
    (spoken : words.map norm = phrase.words)
    (unreadable : ¬phrase.Readable) :
    toDigits text ≠ join (before ++
      (digits phrase.value ++ edge (words.getLastD [])) :: money :: after) := by
  have cheap : [] ∉ priceWords := by decide +kernel
  obtain ⟨prev, cheap, same⟩ :=
    toDigitsFrom_before plain (words ++ money :: after) [] cheap
  have spaceless : ∀ word ∈ words ++ money :: after, ' ' ∉ word := by
    intro word member
    have member' : word ∈ split text := by
      rw [parts]
      exact List.mem_append_right before member
    exact split_spaceless member'
  rw [toDigits, parts, same]
  apply toDigitsFrom_unreadable cheap unreadable spoken spaceless
  cases words with
  | nil => exact List.not_mem_nil
  | cons first words =>
      exact spaceless _ (List.mem_append_left _
        (List.getLast_mem (List.cons_ne_nil first words)))

/-- A spoken amount before a currency word, among words that are neither numbers
nor prices, becomes the digits of its value exactly when it is readable. -/
theorem amount_said
    (parts : split text = before ++ (words ++ money :: after))
    (plain : ∀ word ∈ before, Plain word) (plain' : ∀ word ∈ after, Plain word)
    (spoken : words.map norm = phrase.words)
    (currency : norm money ∈ currency) :
    toDigits text = join (before ++
        (digits phrase.value ++ edge (words.getLastD [])) :: money :: after) ↔
      phrase.Readable := by
  constructor
  · intro written
    by_contra unreadable
    exact ne_of_unreadable parts plain spoken unreadable written
  · intro readable
    have cheap : [] ∉ priceWords := by decide +kernel
    obtain ⟨prev, -, same⟩ :=
      toDigitsFrom_before plain (words ++ money :: after) [] cheap
    rw [toDigits, parts, same,
      toDigitsFrom_readable readable spoken currency plain']

end Amounts

example : toDigits "مية جنيه".toList = "100 جنيه".toList := by
  decide +kernel

private theorem fifty_listed : (['خ', 'م', 'س', 'ي', 'ن'], 50) ∈ tens := by
  decide +kernel

def hundredFifty : Phrase where
  millions := none
  thousands := none
  rest :=
    some (.both (.one oneHundred) .joined
      (.ten ⟨['خ', 'م', 'س', 'ي', 'ن'], 50, fifty_listed⟩))
  first := .joined
  second := .joined
  said := .inr (.inr rfl)

theorem amount_said_hundredFifty :
    toDigits "الفلتر بقى مية وخمسين جنيه، للعميل".toList =
      "الفلتر بقى 150 جنيه، للعميل".toList := by
  have parts : split "الفلتر بقى مية وخمسين جنيه، للعميل".toList =
      [['ا', 'ل', 'ف', 'ل', 'ت', 'ر'], ['ب', 'ق', 'ى']] ++
        ([['م', 'ي', 'ة'], ['و', 'خ', 'م', 'س', 'ي', 'ن']] ++
          ['ج', 'ن', 'ي', 'ه', '،'] :: [['ل', 'ل', 'ع', 'م', 'ي', 'ل']]) := by
    decide +kernel
  have plain : ∀ word ∈ [['ا', 'ل', 'ف', 'ل', 'ت', 'ر'], ['ب', 'ق', 'ى']],
      Plain word := by
    rw [List.forall_mem_cons, List.forall_mem_singleton]
    refine ⟨plain_of_head ?_ ?_ ?_, ?_, ?_, ?_⟩
    · decide +kernel
    · decide +kernel
    · decide +kernel
    · decide +kernel
    · decide +kernel
    · intro word ba
      have tail : norm ['ب', 'ق', 'ى'] = ['ب', 'ق', 'ي'] := by decide +kernel
      rw [tail] at ba
      obtain rfl := (List.cons.inj ba).2
      decide +kernel
  have plain' : ∀ word ∈ [['ل', 'ل', 'ع', 'م', 'ي', 'ل']], Plain word := by
    rw [List.forall_mem_singleton]
    refine plain_of_head ?_ ?_ ?_
    · decide +kernel
    · decide +kernel
    · decide +kernel
  have spoken : [['م', 'ي', 'ة'], ['و', 'خ', 'م', 'س', 'ي', 'ن']].map norm =
      hundredFifty.words := by
    decide +kernel
  have readable : hundredFifty.Readable := by
    simp [Phrase.Readable, hundredFifty, Group.Readable, Small.IsSplit]
  have said := (amount_said parts plain plain' spoken (by decide +kernel)).mpr
    readable
  refine said.trans ?_
  decide +kernel

def millionThousand : Phrase where
  millions := some (.one oneMillion)
  thousands := some (.one oneThousand)
  rest := none
  first := .joined
  second := .joined
  said := .inl rfl

/-- A joined thousand after a million is not read. -/
theorem not_all_said :
    ¬∀ (text : List Char) (phrase : Phrase) (before words after : List Word)
      (money : Word), split text = before ++ (words ++ money :: after) →
        (∀ word ∈ before, Plain word) → (∀ word ∈ after, Plain word) →
          words.map norm = phrase.words → norm money ∈ currency →
            toDigits text = join (before ++
              (digits phrase.value ++ edge (words.getLastD [])) ::
                money :: after) := by
  intro all
  have said := all "مليون وألف جنيه".toList millionThousand []
    [['م', 'ل', 'ي', 'و', 'ن'], ['و', 'أ', 'ل', 'ف']] [] ['ج', 'ن', 'ي', 'ه']
    (by decide +kernel) (fun _ wrong => by cases wrong)
    (fun _ wrong => by cases wrong) (by decide +kernel) (by decide +kernel)
  revert said
  decide +kernel

end Spoken

end Robot

end Mousstec
