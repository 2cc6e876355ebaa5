import Mathlib.Data.List.Basic
import Mathlib.Data.Finset.Basic

/-!
# Spoken numbers

Amounts that are said in words become digits.  A reader goes over the words with
a total, a current group and a scale, and stops at the first word that does not
continue the number.
-/

namespace Mousstec

namespace Robot

namespace Spoken

abbrev Word := List Char

/-- What `split` takes for a space. -/
def isSpace (character : Char) : Bool :=
  let code := character.toNat
  (0x9 ≤ code && code ≤ 0xD) || (0x1C ≤ code && code ≤ 0x20) ||
    code == 0x85 || code == 0xA0 || code == 0x1680 ||
    (0x2000 ≤ code && code ≤ 0x200A) || code == 0x2028 || code == 0x2029 ||
    code == 0x202F || code == 0x205F || code == 0x3000

def zeros : List ℕ :=
  [0x30, 0x660, 0x6F0, 0x7C0, 0x966, 0x9E6, 0xA66, 0xAE6, 0xB66, 0xBE6, 0xC66,
    0xCE6, 0xD66, 0xDE6, 0xE50, 0xED0, 0xF20, 0x1040, 0x1090, 0x17E0, 0x1810,
    0x1946, 0x19D0, 0x1A80, 0x1A90, 0x1B50, 0x1BB0, 0x1C40, 0x1C50, 0xA620,
    0xA8D0, 0xA900, 0xA9D0, 0xA9F0, 0xAA50, 0xABF0, 0xFF10, 0x104A0, 0x10D30,
    0x11066, 0x110F0, 0x11136, 0x111D0, 0x112F0, 0x11450, 0x114D0, 0x11650,
    0x116C0, 0x11730, 0x118E0, 0x11950, 0x11C50, 0x11D50, 0x11DA0, 0x16A60,
    0x16AC0, 0x16B50, 0x1D7CE, 0x1D7D8, 0x1D7E2, 0x1D7EC, 0x1D7F6, 0x1E140,
    0x1E2F0, 0x1E950, 0x1FBF0]

def otherDigits : List (ℕ × ℕ) :=
  [(0xB2, 0xB3), (0xB9, 0xB9), (0x1369, 0x1371), (0x19DA, 0x19DA),
    (0x2070, 0x2070), (0x2074, 0x2079), (0x2080, 0x2089), (0x2460, 0x2468),
    (0x2474, 0x247C), (0x2488, 0x2490), (0x24EA, 0x24EA), (0x24F5, 0x24FD),
    (0x24FF, 0x24FF), (0x2776, 0x277E), (0x2780, 0x2788), (0x278A, 0x2792),
    (0x10A40, 0x10A43), (0x10E60, 0x10E68), (0x11052, 0x1105A),
    (0x1F100, 0x1F10A)]

def decimalValue (character : Char) : Option ℕ :=
  (zeros.find? fun first =>
    first ≤ character.toNat && character.toNat ≤ first + 9).map
      (character.toNat - ·)

/-- `isdigit`, of a character. -/
def isDigitChar (character : Char) : Bool :=
  (decimalValue character).isSome || otherDigits.any fun range =>
    range.1 ≤ character.toNat && character.toNat ≤ range.2

/-- `isdigit`. -/
def isDigit (word : Word) : Bool :=
  !word.isEmpty && word.all isDigitChar

/-- `int` of digits.  It raises for digits that are not decimal; here they count
as zero. -/
def int (word : Word) : ℕ :=
  word.foldl (fun value character =>
    10 * value + (decimalValue character).getD 0) 0

/-- `_TASHKEEL`. -/
def isTashkeel (character : Char) : Bool :=
  (0x64B ≤ character.toNat && character.toNat ≤ 0x652) ||
    character.toNat == 0x670

/-- `_EDGES`; the last two are the quotation marks. -/
def edges : List Char :=
  [' ', '،', ',', '.', '؟', '?', '!', ':', '-', '(', ')', '«', '»',
    Char.ofNat 0x22, Char.ofNat 0x27]

def isEdge (character : Char) : Bool :=
  edges.contains character

/-- `rstrip(_EDGES)`. -/
def rstrip (word : Word) : Word :=
  (word.reverse.dropWhile isEdge).reverse

/-- `strip(_EDGES)`. -/
def strip (word : Word) : Word :=
  rstrip (word.dropWhile isEdge)

def alike (character : Char) : Char :=
  if character = 'أ' ∨ character = 'إ' ∨ character = 'آ' then 'ا'
  else if character = 'ى' then 'ي'
  else if character = 'ة' then 'ه'
  else character

/-- `_norm`. -/
def norm (word : Word) : Word :=
  ((strip (word.filter fun character => !isTashkeel character)).map
    alike).filter (· != 'ـ')

/-- The words of a text, before `word`, which is read backwards. -/
def splitFrom (word : Word) : List Char → List Word
  | [] => if word = [] then [] else [word.reverse]
  | character :: text =>
      if isSpace character then
        if word = [] then splitFrom [] text
        else word.reverse :: splitFrom [] text
      else splitFrom (character :: word) text

/-- `split`. -/
def split (text : List Char) : List Word :=
  splitFrom [] text

/-- `" ".join`. -/
def join (words : List Word) : List Char :=
  [' '].intercalate words

/-- `_table`. -/
def table (spec : List (List Word × ℕ)) : List (Word × ℕ) :=
  spec.flatMap fun row => row.1.map fun word => (norm word, row.2)

def units : List (Word × ℕ) :=
  table [([['و', 'ا', 'ح', 'د'], ['و', 'ا', 'ح', 'د', 'ه']], 1),
    ([['ا', 'ت', 'ن', 'ي', 'ن'], ['ا', 'ث', 'ن', 'ي', 'ن'],
      ['ا', 'ث', 'ن', 'ا', 'ن']], 2),
    ([['ت', 'ل', 'ا', 'ت', 'ه'], ['ث', 'ل', 'ا', 'ث', 'ه']], 3),
    ([['ا', 'ر', 'ب', 'ع', 'ه']], 4),
    ([['خ', 'م', 'س', 'ه']], 5),
    ([['س', 'ت', 'ه']], 6),
    ([['س', 'ب', 'ع', 'ه']], 7),
    ([['ت', 'م', 'ا', 'ن', 'ي', 'ه'], ['ث', 'م', 'ا', 'ن', 'ي', 'ه']], 8),
    ([['ت', 'س', 'ع', 'ه']], 9),
    ([['ع', 'ش', 'ر', 'ه']], 10)]

def short : List (Word × ℕ) :=
  table [([['ا', 'ح', 'د']], 1),
    ([['ا', 'ث', 'ن', 'ا'], ['ا', 'ث', 'ن', 'ي']], 2),
    ([['ت', 'ل', 'ا', 'ت'], ['ث', 'ل', 'ا', 'ث']], 3),
    ([['ا', 'ر', 'ب', 'ع']], 4),
    ([['خ', 'م', 'س']], 5),
    ([['س', 'ت']], 6),
    ([['س', 'ب', 'ع']], 7),
    ([['ت', 'م', 'ن'], ['ث', 'م', 'ا', 'ن'], ['ت', 'م', 'ا', 'ن', 'ي'],
      ['ث', 'م', 'ا', 'ن', 'ي']], 8),
    ([['ت', 'س', 'ع']], 9),
    ([['ع', 'ش', 'ر']], 10)]

def teens : List (Word × ℕ) :=
  table [([['ح', 'د', 'ا', 'ش', 'ر'], ['ا', 'ح', 'د', 'ا', 'ش', 'ر']], 11),
    ([['ا', 'ت', 'ن', 'ا', 'ش', 'ر'], ['ا', 'ط', 'ن', 'ا', 'ش', 'ر']], 12),
    ([['ت', 'ل', 'ت', 'ا', 'ش', 'ر']], 13),
    ([['ا', 'ر', 'ب', 'ع', 'ت', 'ا', 'ش', 'ر'],
      ['ا', 'ر', 'ب', 'ع', 'ط', 'ا', 'ش', 'ر']], 14),
    ([['خ', 'م', 'س', 'ت', 'ا', 'ش', 'ر'],
      ['خ', 'م', 'س', 'ط', 'ا', 'ش', 'ر']], 15),
    ([['س', 'ت', 'ا', 'ش', 'ر'], ['س', 'ط', 'ا', 'ش', 'ر']], 16),
    ([['س', 'ب', 'ع', 'ت', 'ا', 'ش', 'ر'],
      ['س', 'ب', 'ع', 'ط', 'ا', 'ش', 'ر']], 17),
    ([['ت', 'م', 'ن', 'ت', 'ا', 'ش', 'ر'],
      ['ت', 'م', 'ا', 'ن', 'ت', 'ا', 'ش', 'ر']], 18),
    ([['ت', 'س', 'ع', 'ت', 'ا', 'ش', 'ر'],
      ['ت', 'س', 'ع', 'ط', 'ا', 'ش', 'ر']], 19)]

def tens : List (Word × ℕ) :=
  table [([['ع', 'ش', 'ر', 'ي', 'ن'], ['ع', 'ش', 'ر', 'و', 'ن']], 20),
    ([['ت', 'ل', 'ا', 'ت', 'ي', 'ن'], ['ث', 'ل', 'ا', 'ث', 'ي', 'ن'],
      ['ث', 'ل', 'ا', 'ث', 'و', 'ن']], 30),
    ([['ا', 'ر', 'ب', 'ع', 'ي', 'ن'], ['ا', 'ر', 'ب', 'ع', 'و', 'ن']], 40),
    ([['خ', 'م', 'س', 'ي', 'ن'], ['خ', 'م', 'س', 'و', 'ن']], 50),
    ([['س', 'ت', 'ي', 'ن'], ['س', 'ت', 'و', 'ن']], 60),
    ([['س', 'ب', 'ع', 'ي', 'ن'], ['س', 'ب', 'ع', 'و', 'ن']], 70),
    ([['ت', 'م', 'ا', 'ن', 'ي', 'ن'], ['ث', 'م', 'ا', 'ن', 'ي', 'ن'],
      ['ث', 'م', 'ا', 'ن', 'و', 'ن']], 80),
    ([['ت', 'س', 'ع', 'ي', 'ن'], ['ت', 'س', 'ع', 'و', 'ن']], 90)]

def hundreds : List (Word × ℕ) :=
  table [([['م', 'ي', 'ت', 'ي', 'ن'], ['م', 'ا', 'ئ', 'ت', 'ي', 'ن'],
      ['م', 'ا', 'ئ', 'ت', 'ا', 'ن'], ['م', 'ئ', 'ت', 'ي', 'ن'],
      ['م', 'ئ', 'ت', 'ا', 'ن']], 200),
    ([['ت', 'ل', 'ت', 'م', 'ي', 'ه'], ['ث', 'ل', 'ا', 'ث', 'م', 'ا', 'ئ', 'ه'],
      ['ث', 'ل', 'ا', 'ث', 'م', 'ي', 'ه'],
      ['ت', 'ل', 'ا', 'ت', 'م', 'ي', 'ه']], 300),
    ([['ر', 'ب', 'ع', 'م', 'ي', 'ه'], ['ا', 'ر', 'ب', 'ع', 'م', 'ا', 'ئ', 'ه'],
      ['ا', 'ر', 'ب', 'ع', 'م', 'ي', 'ه']], 400),
    ([['خ', 'م', 'س', 'م', 'ي', 'ه'],
      ['خ', 'م', 'س', 'م', 'ا', 'ئ', 'ه']], 500),
    ([['س', 'ت', 'م', 'ي', 'ه'], ['س', 'ت', 'م', 'ا', 'ئ', 'ه']], 600),
    ([['س', 'ب', 'ع', 'م', 'ي', 'ه'],
      ['س', 'ب', 'ع', 'م', 'ا', 'ئ', 'ه']], 700),
    ([['ت', 'م', 'ن', 'م', 'ي', 'ه'], ['ث', 'م', 'ا', 'ن', 'م', 'ا', 'ئ', 'ه'],
      ['ث', 'م', 'ن', 'م', 'ي', 'ه']], 800),
    ([['ت', 'س', 'ع', 'م', 'ي', 'ه'],
      ['ت', 'س', 'ع', 'م', 'ا', 'ئ', 'ه']], 900)]

def hundred : List (Word × ℕ) :=
  table [([['م', 'ي', 'ه'], ['م', 'ا', 'ئ', 'ه'], ['م', 'ئ', 'ه']], 100)]

def thousand : List (Word × ℕ) :=
  table [([['ا', 'ل', 'ف']], 1000)]

def thousands : List (Word × ℕ) :=
  table [([['ا', 'ل', 'ا', 'ف'], ['ت', 'ل', 'ا', 'ف'],
      ['أ', 'ل', 'ا', 'ف']], 1000)]

def twoThousand : List (Word × ℕ) :=
  table [([['ا', 'ل', 'ف', 'ي', 'ن'], ['ا', 'ل', 'ف', 'ا', 'ن']], 2000)]

def thousandsWord : List (Word × ℕ) :=
  table [([['ت', 'ل', 'ا', 'ت', 'ل', 'ا', 'ف'],
      ['ت', 'ل', 'ت', 'ل', 'ا', 'ف']], 3000),
    ([['ا', 'ر', 'ب', 'ع', 'ت', 'ل', 'ا', 'ف'],
      ['ر', 'ب', 'ع', 'ت', 'ل', 'ا', 'ف']], 4000),
    ([['خ', 'م', 'س', 'ت', 'ل', 'ا', 'ف']], 5000),
    ([['س', 'ت', 'ل', 'ا', 'ف']], 6000),
    ([['س', 'ب', 'ع', 'ت', 'ل', 'ا', 'ف']], 7000),
    ([['ت', 'م', 'ن', 'ت', 'ل', 'ا', 'ف'],
      ['ت', 'م', 'ا', 'ن', 'ت', 'ل', 'ا', 'ف']], 8000),
    ([['ت', 'س', 'ع', 'ت', 'ل', 'ا', 'ف']], 9000),
    ([['ع', 'ش', 'ر', 'ت', 'ل', 'ا', 'ف']], 10000)]

def million : List (Word × ℕ) :=
  table [([['م', 'ل', 'ي', 'و', 'ن']], 1000000)]

def twoMillion : List (Word × ℕ) :=
  table [([['م', 'ل', 'ي', 'و', 'ن', 'ي', 'ن']], 2000000)]

def halfWords : List Word :=
  [['ن', 'ص'], ['ن', 'ص', 'ف']]

def quarterWords : List Word :=
  [['ر', 'ب', 'ع']]

/-- `CURRENCY`. -/
def currency : List Word :=
  [['ج', 'ن', 'ي', 'ه'], ['ج', 'ن', 'ي', 'ة'], ['ج', 'ن', 'ي', 'ه', 'ا'],
    ['ج', 'ن', 'ي', 'ه', 'ا', 'ت'], ['ج'], ['e', 'g', 'p'],
    ['p', 'o', 'u', 'n', 'd'], ['p', 'o', 'u', 'n', 'd', 's']].map norm

/-- `PRICE_WORDS`. -/
def priceWords : List Word :=
  [['ب', 'س', 'ع', 'ر'], ['س', 'ع', 'ر'], ['ب', 'ـ'], ['ب'],
    ['ب', 'ا', 'ج', 'م', 'ا', 'ل', 'ي'], ['ب', 'إ', 'ج', 'م', 'ا', 'ل', 'ي'],
    ['ا', 'ج', 'م', 'ا', 'ل', 'ي'], ['إ', 'ج', 'م', 'ا', 'ل', 'ي'],
    ['ص', 'ر', 'ف', 'ن', 'ا'], ['ص', 'ر', 'ف', 'ت'], ['د', 'ف', 'ع', 'ن', 'ا'],
    ['د', 'ف', 'ع', 'ت'], ['ب', 'م', 'ب', 'ل', 'غ'],
    ['م', 'ب', 'ل', 'غ']].map norm

def isIn (table : List (Word × ℕ)) (word : Word) : Bool :=
  table.any (·.1 == word)

/-- `_MULTIPLIERS`. -/
def isMultiplier (word : Word) : Bool :=
  isIn hundred word || isIn thousand word || isIn thousands word ||
    isIn million word

/-- `و`. -/
def waw : Word := ['و']

/-- `عشر` and `عشره`. -/
def ashr : Word := ['ع', 'ش', 'ر']

def ashra : Word := ['ع', 'ش', 'ر', 'ه']

inductive Kind
  | unit
  | teen
  | ten
  | hundreds
  | hundred
  | thousand
  | thousands
  | twoThousand
  | thousandsWord
  | million
  | twoMillion
  | short
  | half
  | quarter
  | digits
  deriving DecidableEq, Repr

def tables : List (Kind × List (Word × ℕ)) :=
  [(.unit, units), (.teen, teens), (.ten, tens), (.hundreds, hundreds),
    (.hundred, hundred), (.thousand, thousand), (.thousands, thousands),
    (.twoThousand, twoThousand), (.thousandsWord, thousandsWord),
    (.million, million), (.twoMillion, twoMillion), (.short, short),
    (.half, halfWords.map fun word => (word, 2)),
    (.quarter, quarterWords.map fun word => (word, 4))]

/-- `_kind`.  The value of a half and of a quarter is how many of them make one
whole. -/
def kind (word : Word) : Option (Kind × ℕ) :=
  match tables.findSome? fun row =>
      (row.2.find? (·.1 == word)).map fun entry => (row.1, entry.2) with
  | some found => some found
  | none => if isDigit word then some (.digits, int word) else none

/-- `_joined`. -/
def joined : Word → Option Word
  | [] => none
  | first :: word =>
      if first = 'و' ∧ word ≠ [] ∧ kind (first :: word) = none ∧
          (kind word).isSome then
        some word
      else none

structure Reading where
  total : ℕ := 0
  current : ℕ := 0
  scale : ℕ := 1
  started : Bool := false
  deriving DecidableEq

/-- `_and_more`, of the words after the present one. -/
def andMore (rest : List Word) : Bool :=
  let nxt := rest.headD []
  let after := rest.tail.headD []
  match (joined nxt).or (if nxt = waw then some after else none) with
  | none => false
  | some word => (kind word).any (·.1 != .digits)

/-- `_counted`. -/
def counted (rest : List Word) : Bool :=
  let nxt := rest.headD []
  currency.contains nxt || isMultiplier nxt || andMore rest

/-- `_hundred_ok`. -/
def hundredOk (prev : Word) (rest : List Word) : Bool :=
  let nxt := rest.headD []
  currency.contains nxt || isIn thousand nxt || isIn thousands nxt ||
    priceWords.contains prev || andMore rest

/-- What the loop of `_run` makes of a word: nothing when it breaks off. -/
def step (prev : Word) (r : Reading) (raw : Word) (joined : Bool)
    (rest : List Word) : Option Reading :=
  let nxt := rest.headD []
  let more := { r with started := true }
  match kind raw with
  | none => none
  | some (.digits, value) =>
      if r.started ∨ !isIn thousand nxt ∧ !isIn thousands nxt ∧
          !isIn million nxt then
        none
      else some { more with current := value }
  | some (.short, value) =>
      if raw = ashr ∧ r.started ∧ !joined ∧ 0 < r.current ∧ r.current < 10 then
        some { more with current := r.current + 10 }
      else if (isMultiplier nxt ∨ (nxt = ashr ∨ nxt = ashra) ∧ value < 10) ∧
          (!r.started ∨ joined) then
        some { more with current := r.current + value }
      else none
  | some (.hundred, _) =>
      if !r.started ∧ !hundredOk prev rest then none
      else if r.started ∧ !joined ∧ 0 < r.current ∧ r.current < 10 then
        some
          { more with
            current := r.current * 100
            scale := 100 }
      else if r.started ∧ !joined then none
      else
        some
          { more with
            current := r.current + 100
            scale := 100 }
  | some (.half, value) | some (.quarter, value) =>
      if r.started ∧ joined ∧ 100 ≤ r.scale then
        some { more with current := r.current + r.scale / value }
      else none
  | some (.twoThousand, value) | some (.thousandsWord, value) =>
      if r.started ∧ !joined then none
      else
        some
          { more with
            total := r.total + value
            scale := 1000 }
  | some (.twoMillion, value) =>
      if r.started ∧ !joined then none
      else
        some
          { more with
            total := r.total + value
            scale := 1000000 }
  | some (.thousand, value) | some (.million, value) =>
      if r.started ∧ joined then none
      else
        some
          { more with
            total := r.total + (if r.current = 0 then 1 else r.current) * value
            current := 0
            scale := value }
  | some (.thousands, value) =>
      if ¬(r.started ∧ 2 < r.current ∧ r.current ≤ 10) then none
      else if r.started ∧ joined then none
      else
        some
          { more with
            total := r.total + (if r.current = 0 then 1 else r.current) * value
            current := 0
            scale := value }
  | some (kind, value) =>
      if value = 1 ∧ !r.started ∧ !counted rest then none
      else if raw = ashra ∧ r.started ∧ !joined ∧ 0 < r.current ∧
          r.current < 10 then
        some { more with current := r.current + 10 }
      else if r.started ∧ !joined then none
      else
        some
          { more with
            current := r.current + value
            scale := if kind = .hundreds then 100 else 1 }

def numberNext (rest : List Word) : Bool :=
  (rest.head?.bind kind).isSome

/-- The loop of `_run`: where it stops, and the words from there on.  A separate
`و` before a number is passed over even when the number is not read. -/
def follow (prev : Word) (r : Reading) : List Word → Reading × List Word
  | [] => (r, [])
  | raw :: rest =>
      if r.started ∧ raw = waw ∧ numberNext rest then
        match rest with
        | [] => (r, [])
        | next :: after =>
            match step prev r next true after with
            | none => (r, next :: after)
            | some r' => follow prev r' after
      else
        let inner := if r.started then joined raw else none
        match step prev r (inner.getD raw) inner.isSome rest with
        | none => (r, raw :: rest)
        | some r' => follow prev r' rest

/-- `_run`, from the words before and after a place. -/
def run (prev : Word) (words : List Word) : Option (ℕ × List Word) :=
  let read := follow prev {} words
  if read.1.started then some (read.1.total + read.1.current, read.2) else none

/-- `ب`. -/
def ba : Word := ['ب']

/-- `_priced`. -/
def priced : List Word → Option (ℕ × List Word)
  | [] => none
  | word :: rest =>
      if word.length < 3 ∨ word.head? ≠ some 'ب' ∨
          !(kind word.tail).any (·.1 != .digits) then
        none
      else run ba (word.tail :: rest)

def digits (value : ℕ) : Word :=
  Nat.toDigits 10 value

def written (prev : Word) (words : List Word) : Option (Word × List Word) :=
  match run prev words with
  | some (value, rest) => some (digits value, rest)
  | none =>
      (priced words).map fun found =>
        (['ب', 'ـ', ' '] ++ digits found.1, found.2)

def edge (raw : Word) : Word :=
  raw.drop (rstrip raw).length

/-- The loop of `to_digits`; `skip` words belong to an amount already. -/
def toDigitsFrom (prev : Word) : ℕ → List Word → List Word
  | _, [] => []
  | skip + 1, raw :: rest => toDigitsFrom (norm raw) skip rest
  | 0, raw :: rest =>
      let words := (raw :: rest).map norm
      match written prev words with
      | none => raw :: toDigitsFrom (norm raw) 0 rest
      | some (said, left) =>
          let count := words.length - left.length
          (said ++ edge ((raw :: rest).getD (count - 1) [])) ::
            toDigitsFrom (norm raw) (count - 1) rest

/-- `to_digits`. -/
def toDigits (text : List Char) : List Char :=
  join (toDigitsFrom [] 0 (split text))

example : toDigits "واحد مليون".toList = "1000000".toList := by
  decide +kernel

end Spoken

end Robot

end Mousstec
