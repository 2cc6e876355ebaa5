import Mousstec.Robot.SpokenPhrases

/-!
# The words of the tables

What the reader takes the words of a phrase for, alone and after a joined waw.
-/

namespace Mousstec

namespace Robot

namespace Spoken

theorem tables_kind : ∀ row ∈ tables, ∀ entry ∈ row.2,
    kind entry.1 = some (row.1, entry.2) := by
  decide +kernel

/-- Of the words that begin with a waw only one is another word after it. -/
theorem tables_waw : ∀ row ∈ tables, ∀ entry ∈ row.2,
    (entry.1.head? = some 'و' → entry.1.tail = ahad ∨
      entry.1.tail = ahad ++ ['ه']) ∧ entry.1 ≠ ahad ++ ['ه'] ∧
        entry.1.head? ≠ some 'ب' := by
  decide +kernel

theorem listed_words :
    (ahad, 1) ∈ short ∧ (ashr, 10) ∈ short ∧ (ashra, 10) ∈ units := by
  decide +kernel

theorem kind_none {first : Char} {word : Word}
    (letter : isDigitChar first = false)
    (other : ∀ row ∈ tables, ∀ entry ∈ row.2, entry.1 ≠ first :: word) :
    kind (first :: word) = none := by
  have absent : tables.findSome? (fun row =>
      (row.2.find? (·.1 == first :: word)).map fun entry =>
        (row.1, entry.2)) = none := by
    rw [List.findSome?_eq_none_iff]
    intro row member
    rw [Option.map_eq_none_iff, List.find?_eq_none]
    intro entry listed
    rw [beq_iff_eq]
    exact other row member entry listed
  rw [kind, absent, isDigit, List.all_cons, letter]
  simp

theorem kind_waw : kind waw = none := by
  apply kind_none (by decide)
  intro row member entry listed same
  have starts := (tables_waw row member entry listed).1
  rw [same] at starts
  rcases starts rfl with wrong | wrong
  · cases wrong
  · cases wrong

theorem kind_after_waw {row : Kind × List (Word × ℕ)} (member : row ∈ tables)
    {entry : Word × ℕ} (listed : entry ∈ row.2) (other : entry.1 ≠ ahad) :
    kind ('و' :: entry.1) = none := by
  apply kind_none (by decide)
  intro row' member' entry' listed' same
  have starts := (tables_waw row' member' entry' listed').1
  rw [same] at starts
  rcases starts rfl with wrong | wrong
  · exact other wrong
  · exact (tables_waw row member entry listed).2.1 wrong

def Joins (word : Word) : Prop :=
  joined ('و' :: word) = some word

def Alone (word : Word) : Prop :=
  joined word = none ∧ word ≠ waw

def IsCount (word : Word) (value : ℕ) : Prop :=
  kind word = some (.unit, value) ∧ 3 ≤ value ∨
    kind word = some (.short, value)

section Entries

variable {found : Kind} {rows : List (Word × ℕ)} {word : Word} {value : ℕ}

theorem kind_ne_nil (known : kind word = some (found, value)) : word ≠ [] := by
  rintro rfl
  have none : kind [] = none := by decide
  rw [none] at known
  cases known

theorem alone_of_kind (known : kind word = some (found, value)) :
    Alone word := by
  constructor
  · cases word with
    | nil => rfl
    | cons first word =>
        rw [joined, known]
        simp
  · rintro rfl
    rw [kind_waw] at known
    cases known

theorem joins_of_kind (known : kind word = some (found, value))
    (apart : kind ('و' :: word) = none) : Joins word := by
  have some := kind_ne_nil known
  rw [Joins, joined, known, apart]
  simp [some]

theorem isIn_of_mem (listed : (word, value) ∈ rows) : isIn rows word := by
  rw [isIn, List.any_eq_true]
  exact ⟨(word, value), listed, beq_self_eq_true word⟩

theorem known_of_table (row : (found, rows) ∈ tables)
    (listed : (word, value) ∈ rows) :
    kind word = some (found, value) ∧ (word ≠ ahad → Joins word) := by
  have known := tables_kind _ row _ listed
  exact ⟨known, fun other =>
    joins_of_kind known (kind_after_waw row listed other)⟩

theorem joins_of_table (row : (found, rows) ∈ tables)
    (listed : (word, value) ∈ rows) (other : found ≠ .short) : Joins word := by
  obtain ⟨known, joins⟩ := known_of_table row listed
  apply joins
  rintro rfl
  have ahad : kind ahad = some (.short, 1) := by
    have shown : (Kind.short, short) ∈ tables := by simp [tables]
    exact tables_kind _ shown _ listed_words.1
  rw [ahad] at known
  cases known
  exact other rfl

theorem Entry.known (entry : Entry rows) (row : (found, rows) ∈ tables)
    (other : found ≠ .short) :
    kind entry.word = some (found, entry.value) ∧ Joins entry.word :=
  ⟨(known_of_table row entry.listed).1, joins_of_table row entry.listed other⟩

theorem Entry.unit (entry : Entry units) :
    kind entry.word = some (.unit, entry.value) ∧ Joins entry.word :=
  entry.known (by simp [tables]) (by decide)

theorem Entry.unitBelow (entry : Entry unitsBelow) :
    kind entry.word = some (.unit, entry.value) ∧ Joins entry.word := by
  have listed : (entry.word, entry.value) ∈ units :=
    List.mem_of_mem_filter entry.listed
  exact Entry.unit ⟨entry.word, entry.value, listed⟩

theorem Entry.teen (entry : Entry teens) :
    kind entry.word = some (.teen, entry.value) ∧ Joins entry.word :=
  entry.known (by simp [tables]) (by decide)

theorem Entry.ten (entry : Entry tens) :
    kind entry.word = some (.ten, entry.value) ∧ Joins entry.word :=
  entry.known (by simp [tables]) (by decide)

theorem Entry.hundreds (entry : Entry hundreds) :
    kind entry.word = some (.hundreds, entry.value) ∧ Joins entry.word :=
  entry.known (by simp [tables]) (by decide)

theorem Entry.twoThousand (entry : Entry twoThousand) :
    kind entry.word = some (.twoThousand, entry.value) ∧ Joins entry.word :=
  entry.known (by simp [tables]) (by decide)

theorem Entry.thousandsWord (entry : Entry thousandsWord) :
    kind entry.word = some (.thousandsWord, entry.value) ∧ Joins entry.word :=
  entry.known (by simp [tables]) (by decide)

theorem Entry.twoMillion (entry : Entry twoMillion) :
    kind entry.word = some (.twoMillion, entry.value) ∧ Joins entry.word :=
  entry.known (by simp [tables]) (by decide)

theorem Entry.hundred (entry : Entry hundred) :
    kind entry.word = some (.hundred, entry.value) ∧ Joins entry.word :=
  entry.known (by simp [tables]) (by decide)

theorem Entry.thousand (entry : Entry thousand) :
    kind entry.word = some (.thousand, entry.value) ∧ Joins entry.word :=
  entry.known (by simp [tables]) (by decide)

theorem Entry.thousands (entry : Entry thousands) :
    kind entry.word = some (.thousands, entry.value) ∧ Joins entry.word :=
  entry.known (by simp [tables]) (by decide)

theorem Entry.million (entry : Entry million) :
    kind entry.word = some (.million, entry.value) ∧ Joins entry.word :=
  entry.known (by simp [tables]) (by decide)

theorem table_values :
    (∀ row ∈ units ++ short, 1 ≤ row.2) ∧ (∀ row ∈ teens ++ tens, 2 ≤ row.2) ∧
      (∀ row ∈ Spoken.hundreds, 100 ≤ row.2) ∧
        (∀ row ∈ Spoken.hundred, row.2 = 100) ∧
          (∀ row ∈ Spoken.thousand ++ Spoken.thousands, row.2 = 1000) ∧
            (∀ row ∈ Spoken.twoThousand ++ Spoken.thousandsWord,
              1000 ≤ row.2) ∧ ∀ row ∈ Spoken.million, row.2 = 1000000 := by
  decide +kernel

theorem Entry.isMultiplier_hundred (entry : Entry Spoken.hundred) :
    isMultiplier entry.word = true := by
  simp [isMultiplier, isIn_of_mem entry.listed]

theorem Entry.isMultiplier_thousand (entry : Entry Spoken.thousand) :
    isMultiplier entry.word = true := by
  simp [isMultiplier, isIn_of_mem entry.listed]

theorem Entry.isMultiplier_thousands (entry : Entry Spoken.thousands) :
    isMultiplier entry.word = true := by
  simp [isMultiplier, isIn_of_mem entry.listed]

theorem Entry.isMultiplier_million (entry : Entry Spoken.million) :
    isMultiplier entry.word = true := by
  simp [isMultiplier, isIn_of_mem entry.listed]

theorem ahad_below (listed : (word, value) ∈ short) (other : value ≠ 1) : word ≠ ahad := by
  rintro rfl
  have shown : (Kind.short, short) ∈ tables := by simp [tables]
  have known := (known_of_table shown listed).1
  rw [(known_of_table shown listed_words.1).1] at known
  cases known
  exact other rfl

theorem isCount_of_mem (listed : (word, value) ∈ units ∨ (word, value) ∈ short)
    (three : 3 ≤ value) : IsCount word value ∧ Joins word := by
  rcases listed with unit | brief
  · obtain ⟨known, joins⟩ := Entry.unit ⟨word, value, unit⟩
    exact ⟨.inl ⟨known, three⟩, joins⟩
  · have shown : (Kind.short, short) ∈ tables := by simp [tables]
    obtain ⟨known, joins⟩ := known_of_table shown brief
    exact ⟨.inr known, joins (ahad_below brief (by omega))⟩

theorem Entry.hundredCount (entry : Entry hundredCounts) :
    IsCount entry.word entry.value ∧ Joins entry.word ∧ 1 ≤ entry.value ∧
      entry.value < 10 := by
  obtain ⟨listed, range⟩ := List.mem_filter.mp entry.listed
  rw [Bool.and_eq_true, decide_eq_true_eq, decide_eq_true_eq] at range
  obtain ⟨count, joins⟩ := isCount_of_mem (List.mem_append.mp listed) range.1
  exact ⟨count, joins, by omega, by omega⟩

theorem Entry.count (entry : Entry counts) :
    IsCount entry.word entry.value ∧ Joins entry.word ∧ 3 ≤ entry.value ∧
      entry.value ≤ 10 := by
  obtain ⟨listed, range⟩ := List.mem_filter.mp entry.listed
  rw [Bool.and_eq_true, decide_eq_true_eq, decide_eq_true_eq] at range
  obtain ⟨count, joins⟩ := isCount_of_mem (List.mem_append.mp listed) range.1
  exact ⟨count, joins, range.1, range.2⟩

theorem Entry.teenHead (entry : Entry teenHeads) :
    IsCount entry.word entry.value ∧ (entry.word ≠ ahad → Joins entry.word) ∧
      1 ≤ entry.value ∧ entry.value < 10 := by
  rcases List.mem_append.mp entry.listed with unit | brief
  · obtain ⟨listed, range⟩ := List.mem_filter.mp unit
    rw [Bool.and_eq_true, decide_eq_true_eq, decide_eq_true_eq] at range
    obtain ⟨count, joins⟩ := isCount_of_mem (.inl listed) range.1
    exact ⟨count, fun _ => joins, by omega, by omega⟩
  · obtain ⟨listed, range⟩ := List.mem_filter.mp brief
    rw [decide_eq_true_eq] at range
    have shown : (Kind.short, short) ∈ tables := by simp [tables]
    obtain ⟨known, joins⟩ := known_of_table shown listed
    have some := table_values.1 _ (List.mem_append_right units listed)
    exact ⟨.inr known, joins, some, by omega⟩

theorem kind_ashr : kind ashr = some (.short, 10) := by
  have shown : (Kind.short, short) ∈ tables := by simp [tables]
  exact (known_of_table shown listed_words.2.1).1

theorem kind_ashra : kind ashra = some (.unit, 10) := by
  have shown : (Kind.unit, units) ∈ tables := by simp [tables]
  exact (known_of_table shown listed_words.2.2).1

end Entries

end Spoken

end Robot

end Mousstec
