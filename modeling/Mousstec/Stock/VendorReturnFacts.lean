import Mousstec.Library.Decimal
import Mousstec.Cash.PaymentFacts
import Mousstec.Stock.VendorReturns

/-!
# The ledger and the stock after a return to a vendor

Each line takes out of the ledger what the stock loses, up to the rounding of the
average that stays: half a cent for every unit that remains after the line.  The
refund and the vendor's credit move money only, so the entry of the return is
all that the inventory account sees.
-/

namespace Mousstec.Stock

open Library Accounting Cash

private theorem decimal_close (value : ℚ) :
    |decimal value - value| ≤ |value| / (2 * 10 ^ 27) := by
  unfold decimal decimalDigits
  exact significant_near_abs value

private theorem decimal_intCast {amount : ℤ} (small : |amount| < 10 ^ 28) :
    decimal (amount : ℚ) = amount :=
  significant_intCast small

/-- The figures of a line fit their columns. -/
structure LineFits (remaining average quantity unit : ℤ) : Prop where
  nonneg : 0 ≤ quantity
  few : quantity < 10 ^ 15
  counted : remaining + quantity < 10 ^ 15
  priced : |average| < 10 ^ 10
  landed : |unit| < 10 ^ 10

private theorem product_small {count amount : ℤ} (sign : 0 ≤ count)
    (counted : count < 10 ^ 15) (fits : |amount| < 10 ^ 10) :
    |count * amount| < 10 ^ 25 := by
  rw [abs_mul, abs_of_nonneg sign]
  calc
    count * |amount| ≤ 10 ^ 15 * |amount| :=
      mul_le_mul_of_nonneg_right counted.le (abs_nonneg _)
    _ < 10 ^ 15 * 10 ^ 10 := by
      apply mul_lt_mul_of_pos_left fits
      norm_num
    _ = 10 ^ 25 := by norm_num

theorem valueAt_eq {quantity unit : ℤ} (sign : 0 ≤ quantity)
    (counted : quantity < 10 ^ 15) (fits : |unit| < 10 ^ 10) :
    valueAt quantity unit = quantity * unit := by
  have small := product_small sign counted fits
  unfold valueAt
  rw [← Int.cast_mul, decimal_intCast (by omega), q_intCast]

private theorem average_near {value remaining : ℤ} (sign : 0 ≤ value)
    (small : value < 10 ^ 27) (positive : 0 < remaining) :
    2 * |remaining * q (decimal ((value : ℚ) / remaining)) - value| ≤
      remaining := by
  have positive' : (0 : ℚ) < remaining := by exact_mod_cast positive
  have sign' : (0 : ℚ) ≤ value := by exact_mod_cast sign
  have small' : (value : ℚ) < 10 ^ 27 := by exact_mod_cast small
  have exact := decimal_close ((value : ℚ) / remaining)
  have rounded := roundHalfUp_nearest.near (decimal ((value : ℚ) / remaining))
  set average := decimal ((value : ℚ) / remaining)
  rw [abs_of_nonneg (div_nonneg sign' positive'.le)] at exact
  have apart : |(q average : ℚ) - value / remaining| ≤
      1 / 2 + value / remaining / (2 * 10 ^ 27) := by
    have parts : (q average : ℚ) - value / remaining =
        (q average - average) + (average - value / remaining) := by ring
    rw [parts]
    exact (abs_add_le _ _).trans (add_le_add rounded exact)
  have scaled : |(remaining : ℚ) * q average - value| =
      remaining * |(q average : ℚ) - value / remaining| := by
    rw [← abs_of_pos positive', ← abs_mul, abs_of_pos positive', mul_sub,
      mul_div_cancel₀ _ positive'.ne']
  have whole : (remaining : ℚ) * (value / remaining) = value :=
    mul_div_cancel₀ _ positive'.ne'
  have bound : |(remaining : ℚ) * q average - value| ≤
      remaining / 2 + value / (2 * 10 ^ 27) := by
    rw [scaled]
    calc
      (remaining : ℚ) * |(q average : ℚ) - value / remaining| ≤
          remaining * (1 / 2 + value / remaining / (2 * 10 ^ 27)) := by gcongr
      _ = remaining / 2 + remaining * (value / remaining) / (2 * 10 ^ 27) := by
        ring
      _ = remaining / 2 + value / (2 * 10 ^ 27) := by rw [whole]
  have below : ((2 * |remaining * q average - value| : ℤ) : ℚ) <
      (remaining + 1 : ℤ) := by
    push_cast
    linarith
  have strict : 2 * |remaining * q average - value| < remaining + 1 := by
    exact_mod_cast below
  omega

/-- What leaves the ledger with a line is what the stock loses, up to half a cent
for each unit that remains. -/
theorem unwind_near {remaining average quantity unit : ℤ}
    (fits : LineFits remaining average quantity unit) :
    2 * |(unwind remaining average quantity unit).1 -
        ((remaining + quantity) * average -
          remaining * (unwind remaining average quantity unit).2)| ≤
      max remaining 0 := by
  have out := valueAt_eq fits.nonneg fits.few fits.landed
  unfold unwind
  by_cases positive : 0 < remaining
  · have sign : 0 ≤ remaining + quantity := by
      have := fits.nonneg
      omega
    have total := valueAt_eq sign fits.counted fits.priced
    have stock := product_small sign fits.counted fits.priced
    have leaves := product_small fits.nonneg fits.few fits.landed
    set value := (remaining + quantity) * average - quantity * unit with value_eq
    have size : |value| < 10 ^ 26 := by
      have := abs_sub ((remaining + quantity) * average) (quantity * unit)
      rw [← value_eq] at this
      omega
    have unwound : unwoundAverage (remaining + quantity) average quantity unit
        remaining = decimal ((value : ℚ) / remaining) := by
      unfold unwoundAverage
      rw [← Int.cast_mul, ← Int.cast_mul, decimal_intCast (by omega),
        decimal_intCast (by omega), ← Int.cast_sub, ← value_eq,
        decimal_intCast (by omega)]
    have positive' : (0 : ℚ) < remaining := by exact_mod_cast positive
    rw [if_pos positive, max_eq_left positive.le]
    simp only [unwound]
    rcases lt_or_ge value 0 with negative | nonneg
    · have below : decimal ((value : ℚ) / remaining) < 0 := by
        have share : (value : ℚ) / remaining < 0 :=
          div_neg_of_neg_of_pos (by exact_mod_cast negative) positive'
        have near := decimal_close ((value : ℚ) / remaining)
        rw [abs_of_neg share] at near
        have upper := (abs_le.mp near).2
        linarith
      rw [if_pos below, max_eq_right below.le, q_zero, total]
      simp [positive.le]
    · have above : 0 ≤ decimal ((value : ℚ) / remaining) :=
        significant_nonneg (div_nonneg (by exact_mod_cast nonneg) positive'.le)
      rw [if_neg (not_lt.mpr above), max_eq_left above, out]
      have near := average_near nonneg (by
        have := le_abs_self value
        omega) positive
      have same : quantity * unit - ((remaining + quantity) * average -
          remaining * q (decimal ((value : ℚ) / remaining))) =
          remaining * q (decimal ((value : ℚ) / remaining)) - value := by
        rw [value_eq]
        ring
      rw [same]
      exact near
  · rw [if_neg positive]
    simp only
    rw [valueAt_eq fits.nonneg fits.few fits.priced]
    have same : quantity * average -
        ((remaining + quantity) * average - remaining * average) = 0 := by ring
    rw [same]
    simp

theorem stockRow_ok {desk : PurchaseDesk} {product branch : ℕ}
    {row : ℕ × Inventory} (found : desk.stockRow product branch = some row) :
    desk.inventory.get? row.1 = some row.2 ∧ row.2.product = product := by
  have matched := List.find?_some found
  simp only [decide_eq_true_eq] at matched
  exact ⟨Table.get?_eq_some.mpr (List.mem_of_find?_eq_some found), matched.1⟩

/-- Units that leave a row of the stock are no longer counted. -/
theorem valuedQty_take {desk : PurchaseDesk} {key : ℕ} {stock : Inventory}
    (found : desk.inventory.get? key = some stock) (quantity : ℤ)
    (product : ℕ) :
    ({ desk with
      inventory := desk.inventory.modify key fun stored =>
        { stored with quantity := stock.quantity - quantity } } :
      PurchaseDesk).valuedQty product =
      desk.valuedQty product -
        if product = stock.product then quantity else 0 := by
  unfold PurchaseDesk.valuedQty
  simp only [Table.total_modify found]
  by_cases same : stock.product = product
  · simp only [same, if_true]
    ring
  · simp only [same, Ne.symm same, if_false]
    ring

structure LineDone (row : ℕ × ℤ) (totals next : ReturnTotals)
    (before after : PurchaseDesk) (item : PurchaseInvoiceItem)
    (product : StockedProduct) : Prop where
  listed : before.items.get? row.1 = some item
  stocked : before.products.get? item.product = some product
  returnable : row.2 ≤ item.quantity - item.returnedQuantity
  onHand : ∃ key stock, before.inventory.get? key = some stock ∧
    row.2 ≤ stock.quantity ∧
    after.inventory = before.inventory.modify key fun stored =>
      { stored with quantity := stock.quantity - row.2 }
  valued : ∀ other, after.valuedQty other = before.valuedQty other -
    if other = item.product then row.2 else 0
  fits : |(unwind (before.valuedQty item.product - row.2) product.averageCost row.2
    item.effectiveUnitCost).2| < 10 ^ 10
  products : after.products = before.products.modify item.product fun stored =>
    { stored with
      averageCost := (unwind (before.valuedQty item.product - row.2)
        product.averageCost row.2 item.effectiveUnitCost).2 }
  items : after.items = before.items.modify row.1 fun stored =>
    { stored with returnedQuantity := stored.returnedQuantity + row.2 }
  out : next.stockValueOut = totals.stockValueOut +
    (unwind (before.valuedQty item.product - row.2) product.averageCost row.2
      item.effectiveUnitCost).1
  cash : after.cash = before.cash

theorem returnItem_ok {pk : ℕ} {invoice : PurchaseInvoice} {row : ℕ × ℤ}
    {totals next : ReturnTotals} {before after : PurchaseDesk}
    (returned : returnItem pk invoice row totals before = .ok next after) :
    ∃ item product, LineDone row totals next before after item product := by
  simp only [returnItem, Txn.bind_eq_ok, Txn.get_eq_ok, Txn.expect_eq_ok,
    Txn.require_eq_ok, Txn.set_eq_ok, Txn.pure_eq_ok] at returned
  obtain ⟨_, _, ⟨rfl, rfl⟩, item, _, ⟨found, rfl⟩, product, _, ⟨stored, rfl⟩, _,
    _, ⟨returnable, rfl⟩, stock, _, ⟨located, rfl⟩, _, _, ⟨onHand, rfl⟩, _, _,
    ⟨fits, rfl⟩, _, _, rfl, rfl, rfl⟩ := returned
  obtain ⟨held, matched⟩ := stockRow_ok located
  have remaining := valuedQty_take held row.2 item.product
  rw [if_pos matched.symm] at remaining
  rw [remaining] at fits
  refine ⟨item, product, ?_⟩
  exact
    { listed := found
      stocked := stored
      returnable
      onHand := ⟨stock.1, stock.2, held, onHand, rfl⟩
      valued := by
        intro other
        have taken := valuedQty_take held row.2 other
        rw [matched] at taken
        exact taken
      fits
      products := by simp only [remaining]
      items := rfl
      out := by simp only [remaining]
      cash := rfl }

/-- The figures of the stock and of the purchases fit their columns. -/
structure PurchaseDesk.InRange (desk : PurchaseDesk) : Prop where
  onHand : ∀ key row, desk.inventory.get? key = some row → row.quantity < 10 ^ 15
  valued : ∀ pk product, desk.products.get? pk = some product →
    desk.valuedQty pk < 10 ^ 15
  averages : ∀ pk product, desk.products.get? pk = some product →
    |product.averageCost| < 10 ^ 10
  costs : ∀ pk item, desk.items.get? pk = some item →
    |item.effectiveUnitCost| < 10 ^ 10

namespace LineDone

variable {row : ℕ × ℤ} {totals next : ReturnTotals}
  {before after : PurchaseDesk} {item : PurchaseInvoiceItem}
  {product : StockedProduct}

theorem lineFits (done : LineDone row totals next before after item product)
    (positive : 0 ≤ row.2) (range : before.InRange) :
    LineFits (before.valuedQty item.product - row.2) product.averageCost row.2
      item.effectiveUnitCost where
  nonneg := positive
  few := by
    obtain ⟨key, stock, held, onHand, -⟩ := done.onHand
    exact onHand.trans_lt (range.onHand key stock held)
  counted := by
    rw [sub_add_cancel]
    exact range.valued _ _ done.stocked
  priced := range.averages _ _ done.stocked
  landed := range.costs _ _ done.listed

theorem inRange (done : LineDone row totals next before after item product)
    (positive : 0 ≤ row.2) (range : before.InRange) : after.InRange where
  onHand := by
    obtain ⟨key, stock, held, -, inventory⟩ := done.onHand
    have old := range.onHand key stock held
    rw [inventory]
    refine (Table.forall_get?_modify held _ _ old ?_).mpr range.onHand
    simp only
    omega
  valued := by
    have kept : ∀ pk stored, before.products.get? pk = some stored →
        after.valuedQty pk < 10 ^ 15 := by
      intro pk stored found
      have old := range.valued pk stored found
      rw [done.valued]
      split <;> omega
    have own := kept _ _ done.stocked
    rw [done.products]
    exact (Table.forall_get?_modify done.stocked _ _ own own).mpr kept
  averages := by
    have old := range.averages _ _ done.stocked
    rw [done.products]
    exact (Table.forall_get?_modify done.stocked _ _ old done.fits).mpr
      range.averages
  costs := by
    have own := range.costs _ _ done.listed
    rw [done.items]
    exact (Table.forall_get?_modify done.listed _ _ own own).mpr range.costs

theorem stockValue (done : LineDone row totals next before after item product) :
    before.stockValue - after.stockValue =
      before.valuedQty item.product * product.averageCost -
        (before.valuedQty item.product - row.2) *
          (unwind (before.valuedQty item.product - row.2) product.averageCost row.2
            item.effectiveUnitCost).2 := by
  have left : (before.products.total fun pk stored =>
      after.valuedQty pk * stored.averageCost) =
      before.stockValue - row.2 * product.averageCost := by
    have split : (before.products.total fun pk stored =>
        after.valuedQty pk * stored.averageCost) =
        before.products.total fun pk stored =>
          before.valuedQty pk * stored.averageCost -
            if pk = item.product then row.2 * stored.averageCost else 0 := by
      apply Table.total_congr
      intro pk stored _
      rw [done.valued]
      split <;> ring
    rw [split, Table.total_sub,
      Table.total_single before.products item.product
        fun stored => row.2 * stored.averageCost, done.stocked]
    rfl
  have right : after.stockValue =
      (before.products.total fun pk stored =>
        after.valuedQty pk * stored.averageCost) +
      (after.valuedQty item.product *
        (unwind (before.valuedQty item.product - row.2) product.averageCost row.2
          item.effectiveUnitCost).2 -
        after.valuedQty item.product * product.averageCost) := by
    unfold PurchaseDesk.stockValue
    rw [done.products, Table.total_modify done.stocked]
  rw [right, left, done.valued, if_pos rfl]
  ring

end LineDone

def PurchaseDesk.productOf (desk : PurchaseDesk) (item : ℕ) : Option ℕ :=
  (desk.items.get? item).map PurchaseInvoiceItem.product

/-- The units of its product that remain after each line, over all lines; `valued`
counts the units before them. -/
def leftAfter (productOf : ℕ → Option ℕ) : (ℕ → ℤ) → List (ℕ × ℤ) → ℤ
  | _, [] => 0
  | valued, row :: rows =>
      match productOf row.1 with
      | none => leftAfter productOf valued rows
      | some product =>
          max (valued product - row.2) 0 +
            leftAfter productOf
              (fun other => valued other - if other = product then row.2 else 0)
              rows

def takenOf (productOf : ℕ → Option ℕ) (rows : List (ℕ × ℤ)) (product : ℕ) : ℤ :=
  (rows.map fun row => if productOf row.1 = some product then row.2 else 0).sum

def PurchaseDesk.leftOf (desk : PurchaseDesk) (item : ℕ) : ℤ :=
  ((desk.productOf item).map fun product => max (desk.valuedQty product) 0).getD 0

/-- With one line for a product, what remains after it is what remains at the
end. -/
theorem leftAfter_distinct {productOf : ℕ → Option ℕ} {rows : List (ℕ × ℤ)}
    (distinct : (rows.map fun row => productOf row.1).Nodup)
    (valued ending : ℕ → ℤ)
    (taken : ∀ product, ending product =
      valued product - takenOf productOf rows product) :
    leftAfter productOf valued rows = (rows.map fun row =>
      ((productOf row.1).map fun product => max (ending product) 0).getD 0).sum := by
  induction rows generalizing valued with
  | nil => rfl
  | cons row rows induction =>
      rw [List.map_cons, List.nodup_cons] at distinct
      obtain ⟨absent, distinct⟩ := distinct
      rw [List.map_cons, List.sum_cons]
      cases named : productOf row.1 with
      | none =>
          have rest := induction distinct valued (by
            intro product
            rw [taken]
            simp [takenOf, named])
          simp only [leftAfter, named, rest]
          simp
      | some product =>
          have others : takenOf productOf rows product = 0 := by
            apply List.sum_eq_zero
            intro value member
            obtain ⟨other, listed, rfl⟩ := List.mem_map.mp member
            rw [if_neg]
            intro same
            exact absent (List.mem_map.mpr ⟨other, listed, same.trans named.symm⟩)
          have own : ending product = valued product - row.2 := by
            rw [taken]
            unfold takenOf at others ⊢
            simp [named, others]
          have rest := induction distinct
            (fun other => valued other - if other = product then row.2 else 0) (by
              intro other
              rw [taken]
              unfold takenOf
              rw [List.map_cons, List.sum_cons, named]
              simp only [Option.some.injEq, eq_comm]
              ring)
          simp only [leftAfter, named, rest]
          simp [own]

theorem LineDone.productOf {row : ℕ × ℤ} {totals next : ReturnTotals}
    {before after : PurchaseDesk} {item : PurchaseInvoiceItem}
    {product : StockedProduct}
    (done : LineDone row totals next before after item product) :
    after.productOf = before.productOf := by
  funext other
  unfold PurchaseDesk.productOf
  rw [done.items, Table.get?_modify]
  split
  · rename_i same
    rw [same, done.listed]
    rfl
  · rfl

/-- No line of a purchase went back in a greater quantity than it came. -/
def PurchaseDesk.WithinReceived (desk : PurchaseDesk) : Prop :=
  ∀ pk item, desk.items.get? pk = some item → item.returnedQuantity ≤ item.quantity

structure LinesDone (rows : List (ℕ × ℤ)) (totals next : ReturnTotals)
    (before after : PurchaseDesk) : Prop where
  near : 2 * |next.stockValueOut - totals.stockValueOut -
      (before.stockValue - after.stockValue)| ≤
    leftAfter before.productOf before.valuedQty rows
  productOf : after.productOf = before.productOf
  valued : ∀ product, after.valuedQty product =
    before.valuedQty product - takenOf before.productOf rows product
  received : before.WithinReceived → after.WithinReceived
  cash : after.cash = before.cash

theorem returnItems_ok {pk : ℕ} {invoice : PurchaseInvoice}
    {rows : List (ℕ × ℤ)} {totals next : ReturnTotals}
    {before after : PurchaseDesk}
    (returned : returnItems pk invoice rows totals before = .ok next after)
    (positive : ∀ row ∈ rows, 0 ≤ row.2) (range : before.InRange) :
    LinesDone rows totals next before after := by
  induction rows generalizing totals before with
  | nil =>
      simp only [returnItems, Txn.pure_eq_ok] at returned
      obtain ⟨rfl, rfl⟩ := returned
      exact
        { near := by simp [leftAfter]
          productOf := rfl
          valued := by simp [takenOf]
          received := id
          cash := rfl }
  | cons row rows induction =>
      simp only [returnItems, Txn.bind_eq_ok] at returned
      obtain ⟨middleTotals, middle, first, others⟩ := returned
      obtain ⟨item, product, done⟩ := returnItem_ok first
      have own := positive row List.mem_cons_self
      have rest := induction others
        (fun other listed => positive other (List.mem_cons_of_mem row listed))
        (done.inRange own range)
      have named : before.productOf row.1 = some item.product := by
        rw [PurchaseDesk.productOf, done.listed]
        rfl
      have counted : middle.valuedQty = fun other =>
          before.valuedQty other - if other = item.product then row.2 else 0 :=
        funext done.valued
      exact
        { near := by
            have line := unwind_near (done.lineFits own range)
            have tail := rest.near
            rw [done.productOf, counted] at tail
            rw [sub_add_cancel, ← done.stockValue] at line
            have out := sub_eq_of_eq_add' done.out
            have parts : next.stockValueOut - totals.stockValueOut -
                (before.stockValue - after.stockValue) =
                (next.stockValueOut - middleTotals.stockValueOut -
                  (middle.stockValue - after.stockValue)) +
                (middleTotals.stockValueOut - totals.stockValueOut -
                  (before.stockValue - middle.stockValue)) := by ring
            have sum := abs_add_le
              (next.stockValueOut - middleTotals.stockValueOut -
                (middle.stockValue - after.stockValue))
              (middleTotals.stockValueOut - totals.stockValueOut -
                (before.stockValue - middle.stockValue))
            rw [← parts, out] at sum
            simp only [leftAfter, named]
            linarith
          productOf := rest.productOf.trans done.productOf
          valued := by
            intro other
            rw [rest.valued, done.valued, done.productOf]
            unfold takenOf
            rw [List.map_cons, List.sum_cons, named]
            simp only [Option.some.injEq, eq_comm]
            ring
          received := by
            intro within
            apply rest.received
            unfold PurchaseDesk.WithinReceived
            rw [done.items]
            refine (Table.forall_get?_modify done.listed _ _
              (within _ _ done.listed) ?_).mpr within
            have := done.returnable
            simp only
            omega
          cash := rest.cash.trans done.cash }

theorem collectWanted_ok {lines : List (ℕ × Option ℤ)}
    {rows wanted : List (ℕ × ℤ)} {before after : PurchaseDesk}
    (returned : collectWanted lines rows before = .ok wanted after)
    (all : ∀ row ∈ rows, 0 ≤ row.2) :
    after = before ∧ ∀ row ∈ wanted, 0 ≤ row.2 := by
  induction lines generalizing rows with
  | nil =>
      simp only [collectWanted, Txn.pure_eq_ok] at returned
      obtain ⟨rfl, rfl⟩ := returned
      exact ⟨rfl, all⟩
  | cons line lines induction =>
      simp only [collectWanted, Txn.bind_eq_ok, Txn.expect_eq_ok,
        Txn.require_eq_ok] at returned
      obtain ⟨quantity, _, ⟨_, rfl⟩, _, _, ⟨positive, rfl⟩, others⟩ := returned
      apply induction others
      split
      · exact all
      · exact forall_accumulate (by simpa using positive)
          (fun total sign => add_nonneg sign positive) all

/-- The entries other than those of payments. -/
def SameEntries (before after : Table JournalEntry) : Prop :=
  ∀ key entry, (∀ payment, entry.source ≠ some (.financialTransaction payment)) →
    (after.get? key = some entry ↔ before.get? key = some entry)

/-- Only money moved: the stock is as it was, and so is every entry that is not a
payment's. -/
structure MoneyOnly (before after : PurchaseDesk) : Prop where
  items : after.items = before.items
  products : after.products = before.products
  inventory : after.inventory = before.inventory
  transfers : after.transfers = before.transfers
  entries : SameEntries before.cash.books.entries after.cash.books.entries
  balance : after.cash.books.balance AccountKey.inventory.code =
    before.cash.books.balance AccountKey.inventory.code

namespace MoneyOnly

theorem refl (desk : PurchaseDesk) : MoneyOnly desk desk :=
  ⟨rfl, rfl, rfl, rfl, fun _ _ _ => Iff.rfl, rfl⟩

theorem trans {first second third : PurchaseDesk}
    (left : MoneyOnly first second) (right : MoneyOnly second third) :
    MoneyOnly first third where
  items := right.items.trans left.items
  products := right.products.trans left.products
  inventory := right.inventory.trans left.inventory
  transfers := right.transfers.trans left.transfers
  entries key entry other :=
    (right.entries key entry other).trans (left.entries key entry other)
  balance := right.balance.trans left.balance

variable {before after : PurchaseDesk}

theorem valuedQty (only : MoneyOnly before after) (product : ℕ) :
    after.valuedQty product = before.valuedQty product := by
  unfold PurchaseDesk.valuedQty
  rw [only.inventory, only.transfers]

theorem stockValue (only : MoneyOnly before after) :
    after.stockValue = before.stockValue := by
  unfold PurchaseDesk.stockValue
  rw [only.products]
  simp only [only.valuedQty]

end MoneyOnly

private theorem get?_splitEntry {payment : ℕ} {part : ℤ}
    {row : ℕ × JournalEntry} {entries : Table JournalEntry} {key : ℕ}
    {entry : JournalEntry} (stored : entries.get? key = some entry)
    (other : row.1 ≠ key) :
    (splitEntry payment part entries row).get? key = some entry := by
  unfold splitEntry
  rw [Table.get?_modify_of_ne _ other.symm]
  exact Table.get?_insert_of_some stored _

private theorem sameEntries_splitEntry {payment : ℕ} {part : ℤ}
    {row : ℕ × JournalEntry} {entries : Table JournalEntry}
    (stored : entries.get? row.1 = some row.2) {owner : ℕ}
    (owned : row.2.source = some (.financialTransaction owner)) :
    SameEntries entries (splitEntry payment part entries row) := by
  intro key entry other
  unfold splitEntry
  by_cases same : key = row.1
  · subst same
    rw [Table.get?_modify_self, Table.get?_insert_of_some stored, stored]
    constructor
    · intro found
      rw [Option.map_some, Option.some.injEq] at found
      subst found
      exact absurd owned (other owner)
    · intro found
      rw [Option.some.injEq] at found
      subst found
      exact absurd owned (other owner)
  · rw [Table.get?_modify_of_ne _ same]
    apply Table.get?_insert_iff
    rintro rfl
    exact other payment rfl

private theorem sameEntries_splitEntries {payment : ℕ} {part : ℤ}
    {rows : List (ℕ × JournalEntry)} {entries : Table JournalEntry}
    (stored : ∀ row ∈ rows, entries.get? row.1 = some row.2)
    (nodup : (rows.map Prod.fst).Nodup) {owner : ℕ}
    (owned : ∀ row ∈ rows, row.2.source = some (.financialTransaction owner)) :
    SameEntries entries (rows.foldl (splitEntry payment part) entries) := by
  induction rows generalizing entries with
  | nil => exact fun _ _ _ => Iff.rfl
  | cons row rows induction =>
      rw [List.forall_mem_cons] at stored owned
      rw [List.map_cons, List.nodup_cons] at nodup
      have kept : ∀ other ∈ rows,
          (splitEntry payment part entries row).get? other.1 = some other.2 := by
        intro other listed
        apply get?_splitEntry (stored.2 other listed)
        intro same
        exact nodup.1 (List.mem_map.mpr ⟨other, listed, same.symm⟩)
      have rest := induction kept nodup.2 owned.2
      intro key entry other
      exact (rest key entry other).trans
        (sameEntries_splitEntry stored.1 owned.1 key entry other)

private theorem net_parts (part : ℤ) (lines : List (Posting Account))
    (acct : Account) :
    net (lines.map (partLine part)) acct + net (lines.map (restLine part)) acct =
      net lines acct := by
  induction lines with
  | nil => rfl
  | cons line lines induction =>
      have named : (partLine part line).account = line.account := by
        unfold partLine
        split
        · rfl
        · rfl
      have signed : (partLine part line).signed + (restLine part line).signed =
          line.signed := by
        simp only [Posting.signed, restLine]
        ring
      simp only [List.map_cons, net_cons, named]
      have rest : (restLine part line).account = line.account := rfl
      rw [rest]
      split
      · rw [← signed, ← induction]
        ring
      · rw [← induction]
        ring

private theorem total_splitEntries {payment : ℕ} {part : ℤ}
    {rows : List (ℕ × JournalEntry)} {entries : Table JournalEntry}
    (stored : ∀ row ∈ rows, entries.get? row.1 = some row.2)
    (nodup : (rows.map Prod.fst).Nodup) (acct : Account) :
    ((rows.foldl (splitEntry payment part) entries).total fun _ entry =>
        net entry.lines acct) =
      entries.total fun _ entry => net entry.lines acct := by
  induction rows generalizing entries with
  | nil => rfl
  | cons row rows induction =>
      rw [List.forall_mem_cons] at stored
      rw [List.map_cons, List.nodup_cons] at nodup
      have kept : ∀ other ∈ rows,
          (splitEntry payment part entries row).get? other.1 = some other.2 := by
        intro other listed
        apply get?_splitEntry (stored.2 other listed)
        intro same
        exact nodup.1 (List.mem_map.mpr ⟨other, listed, same.symm⟩)
      rw [List.foldl_cons, induction kept nodup.2]
      have held := Table.get?_insert_of_some stored.1
        { row.2 with
          source := some (.financialTransaction payment)
          lines := row.2.lines.map (partLine part) }
      unfold splitEntry
      rw [Table.total_modify held, Table.total_insert]
      have parts := net_parts part row.2.lines acct
      linarith

theorem movePayment_ok {payment : ℕ} {part : ℤ} {source : Option ℕ} {target : ℕ}
    {moved : Bool} {before after : PurchaseDesk}
    (returned : movePayment payment part source target before =
      .ok moved after) : MoneyOnly before after := by
  simp only [movePayment, Txn.bind_eq_ok, Txn.get_eq_ok,
    Txn.expect_eq_ok] at returned
  obtain ⟨_, _, ⟨rfl, rfl⟩, ft, _, ⟨_, rfl⟩, returned⟩ := returned
  by_cases whole : ft.amount ≤ part
  · simp only [if_pos whole, Txn.bind_eq_ok, Txn.set_eq_ok,
      Txn.pure_eq_ok] at returned
    obtain ⟨_, _, rfl, _, rfl⟩ := returned
    exact ⟨rfl, rfl, rfl, rfl, fun _ _ _ => Iff.rfl, rfl⟩
  · simp only [if_neg whole] at returned
    cases simple : simpleJournals before.cash.books payment ft.amount with
    | none =>
        simp only [simple, Txn.pure_eq_ok] at returned
        obtain ⟨_, rfl⟩ := returned
        exact .refl before
    | some entries =>
        simp only [simple, Txn.bind_eq_ok, Txn.set_eq_ok,
          Txn.pure_eq_ok] at returned
        obtain ⟨_, _, rfl, _, rfl⟩ := returned
        unfold simpleJournals at simple
        simp only [Option.ite_none_right_eq_some, Option.some.injEq] at simple
        obtain ⟨-, rfl⟩ := simple
        have owned : ∀ row ∈ entriesOf before.cash.books
            (.financialTransaction payment),
            before.cash.books.entries.get? row.1 = some row.2 ∧
              row.2.source = some (.financialTransaction payment) := by
          intro row listed
          rw [entriesOf, List.mem_filter, decide_eq_true_eq] at listed
          exact ⟨Table.get?_eq_some.mpr listed.1, listed.2⟩
        have nodup : ((entriesOf before.cash.books
            (.financialTransaction payment)).map Prod.fst).Nodup :=
          before.cash.books.entries.keys_nodup.sublist
            (List.filter_sublist.map _)
        refine ⟨rfl, rfl, rfl, rfl, ?_, ?_⟩
        · exact sameEntries_splitEntries (fun row listed => (owned row listed).1)
            nodup fun row listed => (owned row listed).2
        · exact total_splitEntries (fun row listed => (owned row listed).1) nodup _

theorem applySource_ok {source : CreditSource} {available : ℤ}
    {rows rest : List (ℕ × ℤ)} {before after : PurchaseDesk}
    (returned : applySource source available rows before = .ok rest after) :
    MoneyOnly before after := by
  induction rows generalizing available rest before with
  | nil =>
      simp only [applySource, Txn.pure_eq_ok] at returned
      obtain ⟨_, rfl⟩ := returned
      exact .refl _
  | cons row rows induction =>
      unfold applySource at returned
      split at returned
      · rw [Txn.pure_eq_ok] at returned
        obtain ⟨_, rfl⟩ := returned
        exact .refl _
      · split at returned
        · simp only [Txn.bind_eq_ok, Txn.pure_eq_ok] at returned
          obtain ⟨_, _, others, _, rfl⟩ := returned
          exact induction others
        · simp only [Txn.bind_eq_ok] at returned
          obtain ⟨moved, middle, first, returned⟩ := returned
          split at returned
          · rw [Txn.pure_eq_ok] at returned
            obtain ⟨_, rfl⟩ := returned
            exact movePayment_ok first
          · simp only [Txn.bind_eq_ok, Txn.pure_eq_ok] at returned
            obtain ⟨_, _, others, _, rfl⟩ := returned
            exact (movePayment_ok first).trans (induction others)

theorem applySources_ok {sources : List CreditSource} {rows : List (ℕ × ℤ)}
    {result : PUnit} {before after : PurchaseDesk}
    (returned : applySources sources rows before = .ok result after) :
    MoneyOnly before after := by
  induction sources generalizing rows before with
  | nil =>
      simp only [applySources, Txn.pure_eq_ok] at returned
      obtain ⟨_, rfl⟩ := returned
      exact .refl _
  | cons source sources induction =>
      simp only [applySources, Txn.bind_eq_ok] at returned
      obtain ⟨rest, middle, first, others⟩ := returned
      exact (applySource_ok first).trans (induction others)

theorem applyVendorCredit_ok {vendor : ℕ} {result : PUnit}
    {before after : PurchaseDesk}
    (returned : applyVendorCredit vendor before = .ok result after) :
    MoneyOnly before after := by
  simp only [applyVendorCredit, Txn.bind_eq_ok, Txn.get_eq_ok] at returned
  obtain ⟨_, _, ⟨rfl, rfl⟩, returned⟩ := returned
  split at returned
  · rw [Txn.pure_eq_ok] at returned
    obtain ⟨_, rfl⟩ := returned
    exact .refl _
  · exact applySources_ok returned

private theorem postPayment_inventory {pk : ℕ} {ft : FinancialTransaction}
    {treasury : Option Treasury} {extra : Option PurchaseInvoiceExtraCost}
    (counter : counterAccount extra ft = pure (.key .ap)) (before : Books) :
    ((postPayment pk ft treasury extra).final before).balance
        AccountKey.inventory.code =
      before.balance AccountKey.inventory.code := by
  unfold postPayment
  rw [Txn.final, Txn.get_bind]
  change Books.balance (Txn.final _ before) _ = _
  split
  · rfl
  · split
    · rfl
    · rw [counter, pure_bind]
      refine Txn.final_of (fun after : Books =>
        after.balance AccountKey.inventory.code =
          before.balance AccountKey.inventory.code) ?_ ?_
      · intro result after returned
        rcases postJournal_returns returned with ⟨-, -, more⟩ | ⟨entry, -, posted⟩
        · exact more.netOf _ _
        · unfold Books.balance
          have cash : (cashKeyFor treasury).code ≠ AccountKey.inventory.code := by
            unfold cashKeyFor
            split <;> decide
          have none : net (postings
              (paymentDraft pk ft (cashKeyFor treasury) (.key .ap)).lines)
              AccountKey.inventory.code = 0 := by
            have owed : AccountKey.ap.code ≠ AccountKey.inventory.code := by decide
            rw [net_postings]
            unfold paymentDraft
            cases ft.transactionType with
            | cashIn => simp [cash, owed]
            | cashOut => simp [cash, owed]
          rw [posted.netOf, none]
          simp
      · intro raised after failed
        exact (postJournal_raises failed).netOf _ _

private theorem sameEntries_recorded {pk : ℕ} {ft : FinancialTransaction}
    {before after : Books} (recorded : Recorded pk ft before after) :
    SameEntries before.entries after.entries := by
  intro key entry other
  cases recorded with
  | nothing grown => rw [grown.entries]
  | entry grown posted =>
      rw [posted.entries, grown.entries]
      apply Table.get?_insert_iff
      rintro rfl
      exact other pk posted.source

private theorem moneyOnly_createPayment {ft : FinancialTransaction} {pk : ℕ}
    {before : PurchaseDesk} {cash : CashDesk}
    (counter : counterAccount none ft = pure (.key .ap))
    (extra : ft.purchaseExtraCost = none)
    (created : createPayment ft before.cash = .ok pk cash) :
    MoneyOnly before { before with cash } := by
  obtain ⟨failures, returned⟩ := createPayment_books ft before.cash
  rw [created, EStateM.Result.ok.injEq] at returned
  obtain ⟨-, rfl⟩ := returned
  have recorded := postPayment_recorded before.cash.payments.next ft
    (before.cash.treasuries.get? ft.treasury)
    (ft.purchaseExtraCost.bind before.cash.extraCosts.get?) before.cash.books
  refine ⟨rfl, rfl, rfl, rfl, ?_, ?_⟩
  · exact sameEntries_recorded recorded
  · apply postPayment_inventory
    rw [extra]
    exact counter

theorem receiveRefund_ok {pk : ℕ} {invoice : PurchaseInvoice} {vendor : String}
    {treasury : Option ℕ} {refund : ℤ} {result : PUnit}
    {before after : PurchaseDesk}
    (returned : receiveRefund pk invoice vendor treasury refund before =
      .ok result after) : MoneyOnly before after := by
  unfold receiveRefund at returned
  split at returned
  · rw [Txn.pure_eq_ok] at returned
    obtain ⟨_, rfl⟩ := returned
    exact .refl _
  · simp only [Txn.bind_eq_ok, Txn.get_eq_ok, Txn.expect_eq_ok, Txn.pure_eq_ok,
      Txn.zoom_eq_ok] at returned
    obtain ⟨_, _, ⟨rfl, rfl⟩, source, _, ⟨_, rfl⟩, _, _, ⟨_, rfl⟩, returned⟩ :=
      returned
    obtain ⟨_, _, ⟨cash, created, rfl⟩, _, rfl⟩ := returned
    refine moneyOnly_createPayment ?_ rfl created
    simp [counterAccount, FinancialTransaction.isTransfer,
      FinancialTransaction.isCommissionPayout,
      FinancialTransaction.isAdvanceDisbursement, FinancialTransaction.hasParty]

private theorem net_returnLines (totals : ReturnTotals) :
    net (postings (returnLines totals)) AccountKey.inventory.code =
      -totals.stockValueOut := by
  have ap : AccountKey.ap.code ≠ AccountKey.inventory.code := by decide
  have expense : AccountKey.importExpense.code ≠ AccountKey.inventory.code := by
    decide
  have variance : AccountKey.inventoryVariance.code ≠
      AccountKey.inventory.code := by decide
  rw [net_postings]
  simp only [returnLines]
  split
  · simp [ap, expense]
  · simp [ap, expense, variance]

def PurchaseDesk.inventoryBalance (desk : PurchaseDesk) : ℤ :=
  desk.cash.books.balance AccountKey.inventory.code

/-- The lines of a return balance, whatever its amounts. -/
theorem returnLines_balance (totals : ReturnTotals) :
    totalDebit (postings (returnLines totals)) =
      totalCredit (postings (returnLines totals)) := by
  have purchase : q (totals.landedValue - totals.vendorValue : ℚ) =
      totals.landedValue - totals.vendorValue := by
    rw [← Int.cast_sub, q_intCast]
  have short : q (max (totals.stockValueOut - totals.landedValue : ℚ) 0) =
      max (totals.stockValueOut - totals.landedValue) 0 := by
    exact_mod_cast q_intCast (max (totals.stockValueOut - totals.landedValue) 0)
  have excess : q (max (totals.landedValue - totals.stockValueOut : ℚ) 0) =
      max (totals.landedValue - totals.stockValueOut) 0 := by
    exact_mod_cast q_intCast (max (totals.landedValue - totals.stockValueOut) 0)
  have flat : signedTotal (returnLines totals) = 0 := by
    simp only [returnLines]
    split
    · simp [signedTotal, purchase]
      omega
    · simp [signedTotal, purchase, short, excess]
      omega
  have difference := totalDebit_sub_totalCredit_postings (returnLines totals)
  omega

/-- The entry of a return, which balances and does all that inventory sees. -/
structure ReturnEntry (pk : ℕ) (totals : ReturnTotals) (before after : PurchaseDesk)
    (entry : JournalEntry) : Prop where
  reference : entry.reference = .purchaseReturn pk
  source : entry.source = some (.purchaseInvoice pk)
  status : entry.status = .posted
  lines : entry.lines = postings (returnLines totals)
  balanced : totalDebit entry.lines = totalCredit entry.lines
  inventory : net entry.lines AccountKey.inventory.code =
    after.inventoryBalance - before.inventoryBalance

/-- What a return does to the ledger and the stock. -/
structure VendorReturned (pk : ℕ) (wanted : List (ℕ × ℤ)) (totals : ReturnTotals)
    (before after : PurchaseDesk) : Prop where
  /-- The ledger follows the stock. -/
  near : 2 * |(before.inventoryBalance - after.inventoryBalance) -
      (before.stockValue - after.stockValue)| ≤
    leftAfter before.productOf before.valuedQty wanted
  /-- With one line for a product, what counts is what remains in the end. -/
  distinct : (wanted.map fun row => before.productOf row.1).Nodup →
    leftAfter before.productOf before.valuedQty wanted =
      (wanted.map fun row => after.leftOf row.1).sum
  /-- Payments apart, the entry of the return is all that is new in the ledger. -/
  entry : (∃ entry, ReturnEntry pk totals before after entry ∧
      ∀ key other,
        (∀ payment, other.source ≠ some (.financialTransaction payment)) →
        (after.cash.books.entries.get? key = some other ↔
          before.cash.books.entries.get? key = some other ∨
            key = before.cash.books.entries.next ∧ other = entry)) ∨
    totals = {} ∧ after.inventoryBalance = before.inventoryBalance ∧
      SameEntries before.cash.books.entries after.cash.books.entries
  received : before.WithinReceived → after.WithinReceived

private theorem postings_returnLines {totals : ReturnTotals}
    (blank : postings (returnLines totals) = []) : totals = {} := by
  have none : ∀ line ∈ returnLines totals, line.posting? = none :=
    List.filterMap_eq_nil_iff.mp blank
  have first := none ⟨.key .ap, totals.vendorValue, 0⟩ (by simp [returnLines])
  have second := none
    ⟨.key .importExpense, totals.landedValue - totals.vendorValue, 0⟩
    (by simp [returnLines])
  have third := none ⟨.key .inventory, 0, totals.stockValueOut⟩
    (by simp [returnLines])
  have difference : (totals.landedValue : ℚ) - totals.vendorValue =
      ((totals.landedValue - totals.vendorValue : ℤ) : ℚ) := by
    rw [Int.cast_sub]
  rw [difference] at second
  simp only [JournalLine.posting?, q_intCast, q_zero, and_true, true_and,
    ite_eq_left_iff, reduceCtorEq, imp_false, not_not] at first second third
  obtain ⟨vendor, landed, out⟩ := totals
  simp only at first second third
  have same : landed = 0 := by omega
  rw [first, same, third]

private theorem postReturn_ok {pk : ℕ} {totals : ReturnTotals} {result : Option ℕ}
    {before after : Books}
    (returned : postJournal (returnDraft pk totals) before = .ok result after) :
    after.balance AccountKey.inventory.code =
        before.balance AccountKey.inventory.code - totals.stockValueOut ∧
      ((∃ entry, Posted (returnDraft pk totals) before after entry) ∨
        totals = {} ∧ after.entries = before.entries) := by
  have net := net_returnLines totals
  rcases postJournal_returns returned with
    ⟨-, blank, grown⟩ | ⟨entry, -, posted⟩
  · have nothing : totals = {} := postings_returnLines blank
    refine ⟨?_, .inr ⟨nothing, grown.entries⟩⟩
    have same := grown.netOf (fun _ _ => true) AccountKey.inventory.code
    unfold Books.balance
    rw [same, nothing, sub_zero]
  · have moved := posted.netOf (fun _ _ => true) AccountKey.inventory.code
    have lines : postings (returnDraft pk totals).lines =
        postings (returnLines totals) := rfl
    rw [lines, net, if_pos rfl] at moved
    exact ⟨moved, .inl ⟨entry, posted⟩⟩

theorem returnToVendor_sound {pk : ℕ} {lines : List (ℕ × Option ℤ)}
    {treasury : Option ℕ} {refund : ℚ} {before : PurchaseDesk}
    (range : before.InRange) :
    (∀ totals after,
      returnToVendor pk lines treasury refund before = .ok totals after →
        ∃ wanted, collectWanted lines [] before = .ok wanted before ∧
          VendorReturned pk wanted totals before after) ∧
      (∀ raised after,
        returnToVendor pk lines treasury refund before = .error raised after →
          after = before) ∧
      ∀ totals, totalDebit (postings (returnLines totals)) =
          totalCredit (postings (returnLines totals)) ∧
        ∀ books debit credit final, postJournal (returnDraft pk totals) books ≠
          .error (.unbalanced debit credit) final := by
  refine ⟨?_, ?_, ?_⟩
  · intro totals after returned
    unfold returnToVendor at returned
    simp only [Txn.atomic_eq_ok, Txn.get_bind, Txn.expect_bind_eq_ok,
      Txn.require_bind_eq_ok] at returned
    obtain ⟨invoice, _, _, returned⟩ := returned
    rw [Txn.bind_eq_ok] at returned
    obtain ⟨wanted, _, collected, returned⟩ := returned
    rw [Txn.require_bind_eq_ok, Txn.require_bind_eq_ok] at returned
    obtain ⟨-, -, returned⟩ := returned
    rw [Txn.bind_eq_ok] at returned
    obtain ⟨sums, first, listed, returned⟩ := returned
    rw [Txn.require_bind_eq_ok, Txn.require_bind_eq_ok, Txn.require_bind_eq_ok,
      Txn.modify_bind] at returned
    obtain ⟨-, -, -, returned⟩ := returned
    rw [Txn.bind_eq_ok] at returned
    obtain ⟨_, _, booked, returned⟩ := returned
    obtain ⟨books, posted, rfl⟩ := Txn.zoom_eq_ok.mp booked
    rw [Txn.bind_eq_ok] at returned
    obtain ⟨_, _, refunded, returned⟩ := returned
    rw [Txn.bind_eq_ok] at returned
    obtain ⟨_, last, credited, returned⟩ := returned
    obtain ⟨same, ended⟩ := Txn.pure_eq_ok.mp returned
    subst same ended
    obtain ⟨unchanged, positive⟩ := collectWanted_ok collected (by simp)
    have unchanged := unchanged.symm
    subst unchanged
    refine ⟨wanted, collected, ?_⟩
    have done := returnItems_ok listed positive range
    have money := (receiveRefund_ok refunded).trans (applyVendorCredit_ok credited)
    obtain ⟨moved, entry⟩ := postReturn_ok posted
    have sum : last.inventoryBalance =
        before.inventoryBalance - sums.stockValueOut := by
      have balance : books.balance AccountKey.inventory.code =
          first.cash.books.balance AccountKey.inventory.code -
            sums.stockValueOut := moved
      rw [done.cash] at balance
      exact money.balance.trans balance
    have value : last.stockValue = first.stockValue := money.stockValue
    have counted : ∀ product, last.valuedQty product = first.valuedQty product :=
      money.valuedQty
    have products : last.productOf = before.productOf := by
      rw [← done.productOf]
      unfold PurchaseDesk.productOf
      rw [money.items]
      rfl
    exact
      { near := by
          have near := done.near
          rw [sum, value]
          simp only [sub_sub_cancel]
          simpa using near
        distinct := by
          intro nodup
          have ending := leftAfter_distinct nodup before.valuedQty first.valuedQty
            done.valued
          rw [ending]
          unfold PurchaseDesk.leftOf
          rw [products]
          simp only [counted]
        entry := by
          have start : first.cash.books.entries = before.cash.books.entries := by
            rw [done.cash]
          have same : SameEntries books.entries last.cash.books.entries :=
            money.entries
          rcases entry with ⟨entry, posted⟩ | ⟨nothing, blank⟩
          · left
            have lines : entry.lines = postings (returnLines sums) := posted.lines
            refine ⟨entry,
              { reference := posted.reference
                source := posted.source
                status := posted.status
                lines
                balanced := posted.balanced
                inventory := by
                  rw [lines, net_returnLines, sum, sub_sub_cancel_left] }, ?_⟩
            intro key other apart
            have inserted : books.entries =
                before.cash.books.entries.insert entry := by
              rw [← start]
              exact posted.entries
            rw [same key other apart, inserted, Table.get?_insert]
            split
            · rename_i next
              subst next
              rw [Table.get?_next, Option.some.injEq]
              simp [eq_comm]
            · rename_i different
              simp [different]
          · right
            refine ⟨nothing, ?_, ?_⟩
            · rw [sum, nothing, sub_zero]
            · have kept : books.entries = first.cash.books.entries := blank
              rw [← start, ← kept]
              exact same
        received := by
          intro within
          have kept := done.received within
          unfold PurchaseDesk.WithinReceived at kept ⊢
          rw [money.items]
          exact kept }
  · intro raised after failed
    exact Txn.rollsBack_atomic _ _ _ _ failed
  · intro totals
    have flat := returnLines_balance totals
    exact ⟨flat, fun _ _ _ _ => postJournal_balanced flat⟩

/-- Three units at an average of 1.00, one of them bought for 1.01 and two for
1.00. -/
def twoLines : PurchaseDesk where
  purchases := Table.empty.insert
    { vendor := 0
      branch := 0
      dateCreated := 0
      totalAmount := 301
      status := .posted
      isApplied := true }
  items := (Table.empty.insert
    { invoice := 0
      product := 0
      quantity := 1
      costPrice := 101 }).insert
    { invoice := 0
      product := 0
      quantity := 2
      costPrice := 100 }
  vendors := Table.empty.insert
    { name := "vendor"
      balance := 301 }
  products := Table.empty.insert
    { name := "filter"
      averageCost := 100 }
  inventory := Table.empty.insert
    { product := 0
      branch := 0
      quantity := 3 }
  transfers := Table.empty
  movements := Table.empty
  cash :=
    { treasuries := Table.empty
      payments := Table.empty
      extraCosts := Table.empty
      books :=
        { chart := Chart.empty
          periods := Table.empty
          entries := Table.empty
          today := 0 } }

theorem twoLines_inRange : twoLines.InRange :=
  ⟨by decide +kernel, by decide +kernel, by decide +kernel, by decide +kernel⟩

/-- The line that cost more to land goes last: its unit is worth a cent less in
stock, which the entry takes to the variance account. -/
theorem returnToVendor_sound_twoLines :
    (returnToVendor 0 [(1, some 2), (0, some 1)] none 0).result? twoLines =
        some ⟨301, 301, 300⟩ ∧
      ∃ wanted, collectWanted [(1, some 2), (0, some 1)] [] twoLines =
          .ok wanted twoLines ∧
        VendorReturned 0 wanted ⟨301, 301, 300⟩ twoLines
          ((returnToVendor 0 [(1, some 2), (0, some 1)] none 0).final
            twoLines) := by
  have returned :
      (returnToVendor 0 [(1, some 2), (0, some 1)] none 0).result? twoLines =
        some ⟨301, 301, 300⟩ := by decide +kernel
  exact ⟨returned, (returnToVendor_sound twoLines_inRange).1 _ _
    (Txn.eq_ok_of_result? returned)⟩

/-- With two lines for one product the rounding after the first stays in the
ledger, even when no unit of it is left. -/
theorem returnToVendor_apart_twoLines :
    ¬ ∀ (pk : ℕ) (lines : List (ℕ × Option ℤ)) (treasury : Option ℕ) (refund : ℚ)
      (before after : PurchaseDesk) (totals : ReturnTotals)
      (wanted : List (ℕ × ℤ)), before.InRange →
      returnToVendor pk lines treasury refund before = .ok totals after →
      collectWanted lines [] before = .ok wanted before →
      2 * |(before.inventoryBalance - after.inventoryBalance) -
          (before.stockValue - after.stockValue)| ≤
        ((wanted.filterMap fun row => before.productOf row.1).dedup.map
          fun product => max (after.valuedQty product) 0).sum := by
  intro always
  have bound := always 0 [(0, some 1), (1, some 2)] none 0 twoLines _ ⟨301, 301, 301⟩
    [(0, 1), (1, 2)] twoLines_inRange
    (Txn.eq_ok_of_result? (by decide +kernel)) rfl
  exact absurd bound (by decide +kernel)

end Mousstec.Stock
