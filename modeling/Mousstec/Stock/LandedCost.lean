import Mousstec.Library.Decimal

/-!
# Landed cost

The extra costs of a purchase invoice are allocated to its lines: by value or by
margin, beside the lines whose expense is set by hand.  Amounts are counted in
cents; every operation rounds to the digits of the decimal context.
-/

namespace Mousstec

namespace Stock

open Library

def decimalDigits : ℕ := 28

def decimal (value : ℚ) : ℚ := significant decimalDigits value

/-- `sum` of decimals. -/
def decimalSum (values : List ℚ) : ℚ :=
  values.foldl (fun total value => decimal (total + value)) 0

/-- What an operation on decimals raises. -/
inductive DecimalError
  | invalidOperation
  deriving DecidableEq, Repr

/-- `quantize(CENT)`: the result has to fit the precision. -/
def quantize (rounding : ℚ → ℤ) (value : ℚ) : Except DecimalError ℚ :=
  if |rounding value| < 10 ^ decimalDigits then .ok (rounding value)
  else .error .invalidOperation

/-- A line of a purchase invoice, with the selling price of its product. -/
structure PurchaseLine where
  qty : ℚ
  cost : ℚ
  sell : ℚ
  deriving DecidableEq

/-- `VALUE` and `MARGIN`. -/
inductive CostAllocation
  | value
  | margin
  deriving DecidableEq, Repr

/-- `line_weights`, with the method that was applied. -/
def lineWeights (lines : List PurchaseLine) (method : CostAllocation) :
    List ℚ × CostAllocation :=
  let weights := lines.map fun line =>
    decimal (line.qty * max (decimal (line.sell - line.cost)) 0)
  if method = .margin ∧ 0 < decimalSum weights then (weights, .margin)
  else (lines.map fun line => decimal (line.qty * line.cost), .value)

abbrev ManualExpenses := ℕ → Option ℚ

/-- The messages of `manual_problem`. -/
inductive ManualProblem
  | negative
  | tooMuch (fixedTotal extraTotal : ℚ)
  | unequal (fixedTotal extraTotal : ℚ)
  deriving DecidableEq

def manualShares (lines : List PurchaseLine) (fixed : ManualExpenses) :
    Except DecimalError (List (Option ℚ)) :=
  lines.zipIdx.mapM fun row =>
    match fixed row.2 with
    | none => .ok none
    | some per =>
        (quantize roundHalfEven (decimal (row.1.qty * per))).map some

/-- `manual_problem`. -/
def manualProblem (lines : List PurchaseLine) (extraTotal : ℚ)
    (fixed : ManualExpenses) : Except DecimalError (Option ManualProblem) :=
  let set := (List.range lines.length).filterMap fixed
  if set = [] then .ok none
  else if set.any (· < 0) then .ok (some .negative)
  else do
    let shares ← manualShares lines fixed
    let fixedTotal := decimalSum (shares.filterMap id)
    if extraTotal < fixedTotal then .ok (some (.tooMuch fixedTotal extraTotal))
    else if set.length = lines.length ∧ fixedTotal ≠ extraTotal then
      .ok (some (.unequal fixedTotal extraTotal))
    else .ok none

def lastWeighted (weights : List ℚ) : ℕ :=
  weights.length - 1 - weights.reverse.findIdx (0 < ·)

def roundedShares (rounding : ℚ → ℤ) (remainder totalWeight : ℚ)
    (weights : List ℚ) : Except DecimalError (List ℚ) := do
  let shares ← weights.zipIdx.mapM fun row =>
    if row.2 = lastWeighted weights then .ok 0
    else quantize rounding (decimal (decimal (remainder * row.1) / totalWeight))
  .ok (shares.set (lastWeighted weights)
    (decimal (remainder - decimalSum shares)))

/-- The passes of `allocate`: rounded to the nearest cent, and down if the last
line would get less than nothing. -/
def weightedShares (remainder totalWeight : ℚ) (weights : List ℚ) :
    Except DecimalError (List ℚ) := do
  let shares ← roundedShares roundHalfEven remainder totalWeight weights
  if 0 ≤ (shares[lastWeighted weights]?).getD 0 then .ok shares
  else roundedShares roundDown remainder totalWeight weights

def fillShares : List (Option ℚ) → List ℚ → List ℚ
  | [], _ => []
  | some share :: manual, shares => share :: fillShares manual shares
  | none :: manual, share :: shares => share :: fillShares manual shares
  | none :: manual, [] => 0 :: fillShares manual []

def automaticLines (lines : List PurchaseLine) (fixed : ManualExpenses) :
    List PurchaseLine :=
  (lines.zipIdx.filter fun row => (fixed row.2).isNone).map Prod.fst

/-- `allocate` once the manual expenses are checked. -/
def allocateBeside (lines : List PurchaseLine) (extraTotal : ℚ)
    (method : CostAllocation) (fixed : ManualExpenses) :
    Except DecimalError (List ℚ × CostAllocation) := do
  let manual ← manualShares lines fixed
  let remainder :=
    decimal (extraTotal - decimalSum (manual.map (·.getD 0)))
  let weights := lineWeights (automaticLines lines fixed) method
  let totalWeight := decimalSum weights.1
  if remainder ≤ 0 ∨ totalWeight ≤ 0 then
    .ok (manual.map (·.getD 0), weights.2)
  else do
    let shares ← weightedShares remainder totalWeight weights.1
    .ok (fillShares manual shares, weights.2)

def noManual : ManualExpenses := fun _ => none

/-- The manual expenses that `allocate` goes by. -/
def kept (problem : Option ManualProblem) (fixed : ManualExpenses) :
    ManualExpenses :=
  if problem.isSome then noManual else fixed

/-- `allocate`. -/
def allocate (lines : List PurchaseLine) (extraTotal : ℚ)
    (method : CostAllocation) (fixed : ManualExpenses) :
    Except DecimalError (List ℚ × CostAllocation) := do
  let problem ← manualProblem lines extraTotal fixed
  allocateBeside lines extraTotal method (kept problem fixed)

/-- Two products that earn and one that does not, one of them set by hand. -/
example : allocate [⟨1, 400000, 500000⟩, ⟨1, 400000, 450000⟩, ⟨2, 42500, 40000⟩]
    30000 .margin (fun line => if line = 0 then some 5000 else none) =
      .ok ([5000, 25000, 0], .margin) := by
  decide +kernel

end Stock

end Mousstec
