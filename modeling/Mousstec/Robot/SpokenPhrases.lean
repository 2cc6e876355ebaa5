import Mousstec.Robot.SpokenNumbers

/-!
# Phrases

The ways of saying a number: millions, thousands, hundreds, and units before
tens, with a waw between the parts.
-/

namespace Mousstec

namespace Robot

namespace Spoken

structure Entry (table : List (Word × ℕ)) where
  word : Word
  value : ℕ
  listed : (word, value) ∈ table

def hundredCounts : List (Word × ℕ) :=
  (units ++ short).filter fun entry => 3 ≤ entry.2 && entry.2 ≤ 9

def counts : List (Word × ℕ) :=
  (units ++ short).filter fun entry => 3 ≤ entry.2 && entry.2 ≤ 10

def unitsBelow : List (Word × ℕ) :=
  units.filter fun entry => entry.2 ≤ 9

def teenHeads : List (Word × ℕ) :=
  units.filter (fun entry => 3 ≤ entry.2 && entry.2 ≤ 9) ++
    short.filter fun entry => entry.2 ≤ 9

/-- `احد`: with a waw joined to it, it is another word. -/
def ahad : Word := ['ا', 'ح', 'د']

/-- A waw, joined to the next word or a word of its own. -/
inductive Waw
  | joined
  | apart
  deriving DecidableEq

def Waw.before : Waw → List Word → List Word
  | apart, words => waw :: words
  | joined, [] => []
  | joined, word :: words => ('و' :: word) :: words

def link : Option Waw → List Word → List Word
  | none, words => words
  | some waw, words => waw.before words

inductive Small
  | unit (unit : Entry units)
  | teen (teen : Entry teens)
  | split (head : Entry teenHeads) (long : Bool)
  | ten (ten : Entry tens)
  | both (unit : Entry unitsBelow) (waw : Waw) (ten : Entry tens)

namespace Small

def value : Small → ℕ
  | unit entry => entry.value
  | teen entry => entry.value
  | split head _ => head.value + 10
  | ten entry => entry.value
  | both first _ second => first.value + second.value

def words : Small → List Word
  | unit entry => [entry.word]
  | teen entry => [entry.word]
  | split head long => [head.word, if long then ashra else ashr]
  | ten entry => [entry.word]
  | both first waw second => first.word :: waw.before [second.word]

def IsSplit : Small → Prop
  | split _ _ => True
  | _ => False

/-- The first word is `احد`. -/
def IsAhad : Small → Prop
  | split head _ => head.word = ahad
  | _ => False

end Small

inductive Hundreds
  | word (word : Entry hundreds)
  | one (word : Entry hundred)
  | counted (count : Entry hundredCounts) (word : Entry hundred)

namespace Hundreds

def value : Hundreds → ℕ
  | word entry => entry.value
  | one entry => entry.value
  | counted count entry => count.value * entry.value

def words : Hundreds → List Word
  | word entry => [entry.word]
  | one entry => [entry.word]
  | counted count entry => [count.word, entry.word]

def IsOne : Hundreds → Prop
  | one _ => True
  | _ => False

end Hundreds

inductive Group
  | small (small : Small)
  | hundreds (hundreds : Hundreds)
  | both (hundreds : Hundreds) (waw : Waw) (small : Small)

namespace Group

def value : Group → ℕ
  | small part => part.value
  | hundreds part => part.value
  | both first _ second => first.value + second.value

def words : Group → List Word
  | small part => part.words
  | hundreds part => part.words
  | both first waw second => first.words ++ waw.before second.words

def IsHundred : Group → Prop
  | hundreds part => part.IsOne
  | _ => False

/-- What the reader can read of a group: no teen in two words after hundreds, and
no `احد` with a joined waw. -/
def Readable (mode : Option Waw) : Group → Prop
  | small part => ¬(mode = some .joined ∧ part.IsAhad)
  | hundreds _ => True
  | both _ _ second => ¬second.IsSplit

end Group

structure DigitCount where
  word : Word
  value : ℕ
  decimal : ∀ character ∈ word, (decimalValue character).isSome
  digits : kind word = some (.digits, value)
  some : 1 ≤ value
  few : value ≤ 999

/-- Some thousands.  The plural follows a count from three to ten. -/
inductive Thousands
  | one (word : Entry thousand)
  | two (word : Entry twoThousand)
  | word (word : Entry thousandsWord)
  | plural (before : Option (Hundreds × Waw)) (count : Entry counts)
      (word : Entry thousands)
  | counted (group : Group)
      (other : ¬(3 ≤ group.value % 100 ∧ group.value % 100 ≤ 10))
      (word : Entry thousand)
  | digits (count : DigitCount) (word : Entry thousand)
  | digitsPlural (count : DigitCount) (few : 3 ≤ count.value ∧ count.value ≤ 10)
      (word : Entry thousands)

namespace Thousands

def value : Thousands → ℕ
  | one entry => entry.value
  | two entry => entry.value
  | word entry => entry.value
  | plural none count entry => count.value * entry.value
  | plural (some (before, _)) count entry =>
      (before.value + count.value) * entry.value
  | counted group _ entry => group.value * entry.value
  | digits count entry => count.value * entry.value
  | digitsPlural count _ entry => count.value * entry.value

def words : Thousands → List Word
  | one entry => [entry.word]
  | two entry => [entry.word]
  | word entry => [entry.word]
  | plural none count entry => [count.word, entry.word]
  | plural (some (before, waw)) count entry =>
      before.words ++ waw.before [count.word] ++ [entry.word]
  | counted group _ entry => group.words ++ [entry.word]
  | digits count entry => [count.word, entry.word]
  | digitsPlural count _ entry => [count.word, entry.word]

/-- What the reader can read of the thousands: neither a single thousand nor
digits after millions, and no plural after hundreds. -/
def Readable (mode : Option Waw) : Thousands → Prop
  | one _ | digits _ _ | digitsPlural _ _ _ => mode = none
  | two _ | word _ => True
  | plural before _ _ => before = none
  | counted group _ _ => group.Readable mode

end Thousands

inductive Millions
  | one (word : Entry million)
  | two (word : Entry twoMillion)
  | counted (group : Group) (word : Entry million)
  | digits (count : DigitCount) (word : Entry million)

namespace Millions

def value : Millions → ℕ
  | one word => word.value
  | two word => word.value
  | counted group word => group.value * word.value
  | digits count word => count.value * word.value

def words : Millions → List Word
  | one word => [word.word]
  | two word => [word.word]
  | counted group word => group.words ++ [word.word]
  | digits count word => [count.word, word.word]

/-- What the reader can read of the millions: not a hundred of them. -/
def Readable : Millions → Prop
  | counted group _ => group.Readable none ∧ ¬group.IsHundred
  | _ => True

end Millions

structure Phrase where
  millions : Option Millions
  thousands : Option Thousands
  rest : Option Group
  first : Waw
  second : Waw
  said : millions.isSome ∨ thousands.isSome ∨ rest.isSome

namespace Phrase

variable (phrase : Phrase)

def value : ℕ :=
  phrase.millions.elim 0 Millions.value +
    phrase.thousands.elim 0 Thousands.value + phrase.rest.elim 0 Group.value

def firstWaw : Option Waw :=
  phrase.millions.map fun _ => phrase.first

def secondWaw : Option Waw :=
  if phrase.millions.isSome ∨ phrase.thousands.isSome then some phrase.second
  else none

def words : List Word :=
  phrase.millions.elim [] Millions.words ++
    (phrase.thousands.elim [] (link phrase.firstWaw ·.words) ++
      phrase.rest.elim [] (link phrase.secondWaw ·.words))

def Readable : Prop :=
  (∀ millions ∈ phrase.millions, millions.Readable) ∧
    (∀ thousands ∈ phrase.thousands, thousands.Readable phrase.firstWaw) ∧
      ∀ group ∈ phrase.rest, group.Readable phrase.secondWaw

end Phrase

def oneHundred : Entry hundred :=
  ⟨['م', 'ي', 'ه'], 100, by decide +kernel⟩

def oneThousand : Entry thousand :=
  ⟨['ا', 'ل', 'ف'], 1000, by decide +kernel⟩

def oneMillion : Entry million :=
  ⟨['م', 'ل', 'ي', 'و', 'ن'], 1000000, by decide +kernel⟩

end Spoken

end Robot

end Mousstec
