import Mousstec.Accounting.LedgerFacts
import Mousstec.Stock.Transfers

/-!
# Transfers conserve goods and value

A change of status runs the legs that lie between the two statuses, so a
transfer in transit has shipped and not arrived.  What a product has in the
branches and on the way is then constant, and the goods-in-transit account
holds what the transfers now in transit were shipped at.
-/

namespace Mousstec.Stock

open Library Accounting

def legs (stock : Warehouse) (pk : ℕ) (reason : MovementReason) : ℤ :=
  stock.movements.total fun _ movement =>
    if movement.reference = .stockTransfer pk ∧ movement.reason = reason then 1
    else 0

def NoShortage (stock : Warehouse) : Prop :=
  ∀ key row, stock.inventory.get? key = some row → 0 ≤ row.quantity

def inTransitBalance (books : Books) : ℤ :=
  books.balance AccountKey.inventoryInTransit.code

structure MovedLeg (pk product : ℕ) (change : ℤ) (reason : MovementReason)
    (before after : Warehouse) : Prop where
  products : after.products = before.products
  transfers : after.transfers = before.transfers
  books : after.books = before.books
  failures : after.failures = before.failures
  quantity : ∀ other, after.totalInventoryQty other =
    before.totalInventoryQty other + if other = product then change else 0
  noShortage : NoShortage before → NoShortage after
  legs : ∀ other what, legs after other what = legs before other what +
    if other = pk ∧ what = reason then 1 else 0

theorem inventoryRow_ok (product branch : ℕ) (before : Warehouse) :
    ∃ key row after, inventoryRow product branch before = .ok (key, row) after ∧
      row.product = product ∧ after.inventory.get? key = some row ∧
      (∀ other, after.totalInventoryQty other =
        before.totalInventoryQty other) ∧
      (NoShortage before → NoShortage after) ∧
      after = { before with inventory := after.inventory } := by
  unfold inventoryRow
  rw [Txn.get_bind]
  cases found : before.inventory.rows.find? fun row =>
      row.2.product = product ∧ row.2.branch = branch with
  | some row =>
      have matched := List.find?_some found
      simp only [decide_eq_true_eq] at matched
      exact ⟨row.1, row.2, before, rfl, matched.1,
        Table.get?_eq_some.mpr (List.mem_of_find?_eq_some found),
        fun _ => rfl, id, rfl⟩
  | none =>
      refine ⟨before.inventory.next, ⟨product, branch, 0⟩,
        { before with inventory := before.inventory.insert ⟨product, branch, 0⟩ },
        rfl, rfl, Table.get?_insert_next _ _, ?_, ?_, rfl⟩
      · intro other
        simp [Warehouse.totalInventoryQty]
      · intro noShortage key row stored
        rcases Table.get?_insert_cases stored with ⟨-, rfl⟩ | stored
        · exact le_refl _
        · exact noShortage key row stored

theorem transferMove_returns {pk : ℕ} {transfer : StockTransfer} {branch : ℕ}
    {change : ℤ} {reason : MovementReason} {before after : Warehouse}
    {result : PUnit}
    (returned : transferMove pk transfer branch change reason before =
      .ok result after) :
    MovedLeg pk transfer.product change reason before after := by
  obtain ⟨key, row, middle, found, product, stored, sums, covered, rest⟩ :=
    inventoryRow_ok transfer.product branch before
  simp only [transferMove, Txn.bind_eq_ok, found, EStateM.Result.ok.injEq,
    Txn.get_eq_ok, Txn.require_eq_ok, Txn.set_eq_ok] at returned
  obtain ⟨_, _, ⟨rfl, rfl⟩, _, _, ⟨rfl, rfl⟩, _, _, ⟨enough, rfl⟩, rfl⟩ :=
    returned
  have frame : middle.products = before.products ∧
      middle.transfers = before.transfers ∧ middle.books = before.books ∧
      middle.failures = before.failures ∧
      middle.movements = before.movements := by
    rw [rest]
    exact ⟨rfl, rfl, rfl, rfl, rfl⟩
  obtain ⟨products, transfers, books, failures, movements⟩ := frame
  exact
    { products
      transfers
      books
      failures
      quantity := by
        intro other
        rw [← sums]
        unfold Warehouse.totalInventoryQty
        rw [Table.total_modify stored]
        simp only [product]
        by_cases same : transfer.product = other
        · simp only [same, if_true]
          ring
        · simp [same, Ne.symm same]
      noShortage := by
        intro noShortage key' row' stored'
        rcases Table.get?_modify_of_some stored stored' with ⟨-, rfl⟩ | stored'
        · exact enough
        · exact covered noShortage key' row' stored'
      legs := by
        intro other what
        unfold Stock.legs
        simp only [Table.total_insert, movements,
          MovementReference.stockTransfer.injEq]
        congr 1
        by_cases same : other = pk ∧ what = reason
        · rw [if_pos same, if_pos ⟨same.1.symm, same.2.symm⟩]
        · rw [if_neg same, if_neg fun swapped => same
            ⟨swapped.1.symm, swapped.2.symm⟩] }

/-- The value the goods of a transfer ship at now; goods without a cost ship at
no value. -/
def shippingValue (stock : Warehouse) (transfer : StockTransfer) : ℤ :=
  match stock.products.get? transfer.product with
  | none => 0
  | some product => max (shipValue product transfer.quantity) 0

def legValue (stock : Warehouse) (pk : ℕ) (transfer : StockTransfer) :
    TransferStep → ℤ
  | .ship => shippingValue stock transfer
  | .receive => max (shippedDebit stock.books pk) 0
  | .back => max (shippedDebit stock.books pk) 0

/-- What the entry of a leg does to the ledger, unless a posting failed. -/
structure PostedLeg (pk : ℕ) (step : TransferStep) (value : ℤ)
    (before after : Warehouse) : Prop where
  products : after.products = before.products
  inventory : after.inventory = before.inventory
  movements : after.movements = before.movements
  transfers : after.transfers = before.transfers
  failures : after.failures = [] → before.failures = []
  balance : after.failures = [] →
    inTransitBalance after.books = inTransitBalance before.books +
      if step = .ship then value else -value
  shipped : after.failures = [] → ∀ other,
    shippedDebit after.books other = shippedDebit before.books other +
      if other = pk ∧ step = .ship then value else 0

theorem shippedDebit_congr {left right : Books}
    (same : left.entries = right.entries) (pk : ℕ) :
    shippedDebit left pk = shippedDebit right pk := by
  unfold shippedDebit
  rw [same]

theorem inTransitBalance_congr {left right : Books}
    (same : left.entries = right.entries) :
    inTransitBalance left = inTransitBalance right := by
  unfold inTransitBalance Books.balance Books.netOf
  rw [same]

private theorem PostedLeg.nothing {pk : ℕ} {step : TransferStep}
    {before after : Warehouse} (grown : ChartOnly before.books after.books)
    (rest : after = { before with books := after.books }) :
    PostedLeg pk step 0 before after := by
  have frame : after.products = before.products ∧
      after.inventory = before.inventory ∧
      after.movements = before.movements ∧
      after.transfers = before.transfers ∧
      after.failures = before.failures := by
    rw [rest]
    exact ⟨rfl, rfl, rfl, rfl, rfl⟩
  obtain ⟨products, inventory, movements, transfers, failures⟩ := frame
  exact
    { products
      inventory
      movements
      transfers
      failures := fun none => failures ▸ none
      balance := by
        intro _
        rw [inTransitBalance_congr grown.entries]
        split <;> ring
      shipped := by
        intro _ other
        rw [shippedDebit_congr grown.entries]
        split <;> ring }

theorem transferValue_returns {pk : ℕ} {transfer : StockTransfer}
    {step : TransferStep} {value : ℤ} {before after : Warehouse}
    (returned : transferValue pk transfer step before = .ok value after) :
    legValue before pk transfer step = max value 0 ∧
      ChartOnly before.books after.books ∧
      after = { before with books := after.books } := by
  have arrived : transferValue.arrivedValue pk before = .ok value after →
      shippedDebit before.books pk = value ∧
        ChartOnly before.books after.books ∧
        after = { before with books := after.books } := by
    intro returned
    simp only [transferValue.arrivedValue, Txn.bind_eq_ok, Txn.zoom_eq_ok,
      Txn.get_eq_ok, Txn.pure_eq_ok] at returned
    obtain ⟨_, _, ⟨books, resolved, rfl⟩, _, _, ⟨rfl, rfl⟩, rfl, rfl⟩ :=
      returned
    have grown := (account_returns resolved).2.1
    exact ⟨(shippedDebit_congr grown.entries pk).symm, grown, rfl⟩
  cases step with
  | ship =>
      simp only [transferValue, Txn.bind_eq_ok, Txn.get_eq_ok] at returned
      obtain ⟨_, _, ⟨rfl, rfl⟩, returned⟩ := returned
      simp only [legValue, shippingValue]
      cases found : before.products.get? transfer.product with
      | none => simp [found] at returned
      | some product =>
          simp only [found, Txn.pure_eq_ok] at returned
          obtain ⟨rfl, rfl⟩ := returned
          exact ⟨rfl, .refl _, rfl⟩
  | receive =>
      obtain ⟨same, rest⟩ := arrived returned
      exact ⟨congrArg (max · 0) same, rest⟩
  | back =>
      obtain ⟨same, rest⟩ := arrived returned
      exact ⟨congrArg (max · 0) same, rest⟩

theorem postings_transferDraft {pk : ℕ} {step : TransferStep} {value : ℤ}
    (positive : 0 < value) :
    postings (transferDraft pk step value).lines =
      [⟨step.into.code, value, 0⟩, ⟨step.outOf.code, 0, value⟩] := by
  have nonzero : value ≠ 0 := by omega
  simp [transferDraft, postings, JournalLine.posting?, nonzero]

private theorem postedLeg_of_posted {pk : ℕ} {step : TransferStep} {value : ℤ}
    (positive : 0 < value) {before after : Books} {entry : JournalEntry}
    (posted : Posted (transferDraft pk step value) before after entry) :
    (inTransitBalance after = inTransitBalance before +
        if step = .ship then value else -value) ∧
      ∀ other, shippedDebit after other = shippedDebit before other +
        if other = pk ∧ step = .ship then value else 0 := by
  have lines := posted.lines
  rw [postings_transferDraft positive] at lines
  constructor
  · unfold inTransitBalance Books.balance
    rw [posted.netOf, postings_transferDraft positive]
    cases step
    all_goals
      simp [TransferStep.into, TransferStep.outOf, AccountKey.code, ACCOUNTS,
        Posting.signed]
  · intro other
    unfold shippedDebit
    rw [posted.entries, Table.total_insert, lines, posted.reference,
      posted.status]
    congr 1
    cases step
    all_goals
      simp [transferDraft, TransferStep.reference, TransferStep.into,
        TransferStep.outOf, AccountKey.code, ACCOUNTS, totalDebit, eq_comm]

theorem transferJournal_returns {pk : ℕ} {transfer : StockTransfer}
    {step : TransferStep} {before after : Warehouse} {result : PUnit}
    (returned : transferJournal pk transfer step before = .ok result after) :
    PostedLeg pk step (legValue before pk transfer step) before after := by
  rw [transferJournal, Txn.bind_eq_ok] at returned
  obtain ⟨value, middle, valued, returned⟩ := returned
  obtain ⟨same, grown, rest⟩ := transferValue_returns valued
  rw [same]
  split at returned
  · rename_i worthless
    obtain ⟨_, rfl⟩ := Txn.pure_eq_ok.mp returned
    rw [max_eq_right worthless]
    exact .nothing grown rest
  · rename_i worth
    have positive : 0 < value := by omega
    rw [max_eq_left (le_of_lt positive)]
    simp only [Txn.bind_eq_ok, Txn.attempt_eq_ok, Txn.atomic_eq_ok] at returned
    obtain ⟨_, last, ⟨posted, rfl, zoomed⟩ | ⟨raised, rfl, failed⟩,
      returned⟩ := returned
    · obtain ⟨_, rfl⟩ := Txn.pure_eq_ok.mp returned
      obtain ⟨books, posting, written⟩ := Txn.zoom_eq_ok.mp zoomed
      subst written
      have base : PostedLeg pk step 0 before middle := .nothing grown rest
      rcases postJournal_returns posting with
        ⟨_, nothing, _⟩ | ⟨entry, _, effect⟩
      · rw [postings_transferDraft positive] at nothing
        cases nothing
      · obtain ⟨balance, shipped⟩ := postedLeg_of_posted positive effect
        exact
          { products := base.products
            inventory := base.inventory
            movements := base.movements
            transfers := base.transfers
            failures := base.failures
            balance := fun _ => by
              rw [← inTransitBalance_congr grown.entries]
              exact balance
            shipped := fun _ other => by
              rw [← shippedDebit_congr grown.entries]
              exact shipped other }
    · rw [(Txn.atomic_eq_error.mp failed).1] at returned
      have base : PostedLeg pk step 0 before middle := .nothing grown rest
      have written := Txn.modify_eq_ok.mp returned
      subst written
      exact
        { products := base.products
          inventory := base.inventory
          movements := base.movements
          transfers := base.transfers
          failures := fun none => by simp at none
          balance := fun none => by simp at none
          shipped := fun none => by simp at none }

/-- What one leg does, to the stock and to the ledger. -/
structure Leg (pk : ℕ) (transfer : StockTransfer) (step : TransferStep)
    (before after : Warehouse) : Prop where
  products : after.products = before.products
  transfers : after.transfers = before.transfers
  quantity : ∀ other, after.totalInventoryQty other =
    before.totalInventoryQty other +
      if other = transfer.product then step.change transfer else 0
  noShortage : NoShortage before → NoShortage after
  legs : ∀ other what, legs after other what = legs before other what +
    if other = pk ∧ what = step.reason then 1 else 0
  failures : after.failures = [] → before.failures = []
  balance : after.failures = [] →
    inTransitBalance after.books = inTransitBalance before.books +
      if step = .ship then legValue before pk transfer step
      else -legValue before pk transfer step
  shipped : after.failures = [] → ∀ other,
    shippedDebit after.books other = shippedDebit before.books other +
      if other = pk ∧ step = .ship then legValue before pk transfer step else 0

theorem runStep_returns {pk : ℕ} {transfer : StockTransfer}
    {step : TransferStep} {before after : Warehouse} {result : PUnit}
    (returned : runStep pk transfer step before = .ok result after) :
    Leg pk transfer step before after := by
  rw [runStep, Txn.bind_eq_ok] at returned
  obtain ⟨_, middle, moving, journaling⟩ := returned
  have moved := transferMove_returns moving
  have posted := transferJournal_returns journaling
  have value : legValue middle pk transfer step =
      legValue before pk transfer step := by
    cases step
    all_goals simp [legValue, shippingValue, moved.products, moved.books]
  rw [value] at posted
  exact
    { products := posted.products.trans moved.products
      transfers := posted.transfers.trans moved.transfers
      quantity := fun other => by
        rw [← moved.quantity]
        unfold Warehouse.totalInventoryQty
        rw [posted.inventory]
      noShortage := fun enough key row stored => by
        rw [posted.inventory] at stored
        exact moved.noShortage enough key row stored
      legs := fun other what => by
        rw [← moved.legs]
        unfold Stock.legs
        rw [posted.movements]
      failures := fun none => moved.failures ▸ posted.failures none
      balance := fun none => by
        rw [← moved.books]
        exact posted.balance none
      shipped := fun none other => by
        rw [← moved.books]
        exact posted.shipped none other }

inductive Route (pk : ℕ) (transfer : StockTransfer) :
    TransferStatus → TransferStatus → Warehouse → Warehouse → Prop where
  | stay : Route pk transfer status status stock stock
  | ship (out : Leg pk transfer .ship before after) :
      Route pk transfer .pending .inTransit before after
  | deliver (out : Leg pk transfer .ship before middle)
      (arrival : Leg pk transfer .receive middle after) :
      Route pk transfer .pending .completed before after
  | receive (arrival : Leg pk transfer .receive before after) :
      Route pk transfer .inTransit .completed before after
  | back (home : Leg pk transfer .back before after) :
      Route pk transfer .inTransit .cancelled before after
  | cancel : Route pk transfer .pending .cancelled stock stock

theorem TRANSFER_STEPS_sorted {old new : TransferStatus}
    {steps : List TransferStep} (listed : TRANSFER_STEPS old new = some steps) :
    (steps.insertionSort fun first second => first.rank ≤ second.rank) =
      steps := by
  cases old
  all_goals cases new
  all_goals cases listed
  all_goals decide

theorem applyTransferTransition_returns {pk : ℕ} {transfer : StockTransfer}
    {old new : TransferStatus} {before after : Warehouse} {result : PUnit}
    (returned : applyTransferTransition pk transfer old new before =
      .ok result after) :
    Route pk transfer old new before after := by
  unfold applyTransferTransition at returned
  split at returned
  · rename_i same
    obtain ⟨_, rfl⟩ := Txn.pure_eq_ok.mp returned
    exact same ▸ .stay
  · cases listed : TRANSFER_STEPS old new with
    | none =>
      rw [listed] at returned
      cases returned
    | some steps =>
      rw [listed] at returned
      simp only [TRANSFER_STEPS_sorted listed, Txn.bind_eq_ok,
        Txn.require_eq_ok, Txn.atomic_eq_ok] at returned
      obtain ⟨_, _, ⟨_, rfl⟩, _, _, ⟨_, rfl⟩, returned⟩ := returned
      cases old
      all_goals cases new
      all_goals cases listed
      all_goals
        simp only [List.forM_cons, List.forM_nil, Txn.bind_eq_ok,
          Txn.pure_eq_ok] at returned
      · obtain ⟨_, _, first, _, rfl⟩ := returned
        exact .ship (runStep_returns first)
      · obtain ⟨_, _, first, _, _, second, _, rfl⟩ := returned
        exact .deliver (runStep_returns first) (runStep_returns second)
      · obtain ⟨_, rfl⟩ := returned
        exact .cancel
      · obtain ⟨_, _, first, _, rfl⟩ := returned
        exact .receive (runStep_returns first)
      · obtain ⟨_, _, first, _, rfl⟩ := returned
        exact .back (runStep_returns first)

theorem Route.status_eq {pk : ℕ} {transfer : StockTransfer}
    {old new : TransferStatus} {before after : Warehouse}
    (route : Route pk transfer old new before after)
    (settled : old = .completed ∨ old = .cancelled) : new = old := by
  cases route with
  | stay => rfl
  | ship out => simp at settled
  | deliver out arrival => simp at settled
  | receive arrival => simp at settled
  | back home => simp at settled
  | cancel => simp at settled

/-- The movements a transfer of a status has: it ships once, and then arrives
or comes back once. -/
def LegsFit (out home : ℤ) : Option TransferStatus → Prop
  | none => out = 0 ∧ home = 0
  | some .pending => out = 0 ∧ home = 0
  | some .inTransit => out = 1 ∧ home = 0
  | some .completed => out = 1 ∧ home = 1
  | some .cancelled => out = home ∧ 0 ≤ home ∧ home ≤ 1

/-- What the ledger still has of the shipping of a transfer. -/
def DebitFits (debit shipped : ℤ) : Option TransferStatus → Prop
  | none => debit = 0
  | some .pending => debit = 0
  | some .inTransit => debit = shipped ∧ 0 ≤ shipped
  | some .completed => True
  | some .cancelled => True

def whileInTransit (status : TransferStatus) (amount : ℤ) : ℤ :=
  if status = .inTransit then amount else 0

theorem shippingValue_nonneg (stock : Warehouse) (transfer : StockTransfer) :
    0 ≤ shippingValue stock transfer := by
  unfold shippingValue
  split
  · exact le_refl _
  · exact le_max_right _ _

/-- What a change of status does: goods and values go into transit and out of
it, and nothing else moves. -/
structure Shift (pk : ℕ) (transfer : StockTransfer) (old new : TransferStatus)
    (before after : Warehouse) : Prop where
  products : after.products = before.products
  transfers : after.transfers = before.transfers
  quantity : ∀ other, after.totalInventoryQty other =
    before.totalInventoryQty other +
      if other = transfer.product then
        whileInTransit old transfer.quantity -
          whileInTransit new transfer.quantity
      else 0
  noShortage : NoShortage before → NoShortage after
  others : ∀ other what, other ≠ pk →
    legs after other what = legs before other what
  legs : LegsFit (legs before pk .transferOut) (legs before pk .transferIn)
      (some old) →
    LegsFit (legs after pk .transferOut) (legs after pk .transferIn) (some new)
  failures : after.failures = [] → before.failures = []
  otherShipped : after.failures = [] → ∀ other, other ≠ pk →
    shippedDebit after.books other = shippedDebit before.books other
  value : after.failures = [] → ∀ shipped,
    DebitFits (shippedDebit before.books pk) shipped (some old) →
    ∀ current, current =
        (if old = .pending then shippingValue before transfer else shipped) →
      DebitFits (shippedDebit after.books pk) current (some new) ∧
        inTransitBalance after.books = inTransitBalance before.books +
          whileInTransit new current - whileInTransit old shipped

theorem Route.shift {pk : ℕ} {transfer : StockTransfer}
    {old new : TransferStatus} {before after : Warehouse}
    (route : Route pk transfer old new before after) :
    Shift pk transfer old new before after := by
  cases route with
  | stay =>
      exact
        { products := rfl
          transfers := rfl
          quantity := by simp
          noShortage := id
          others := fun _ _ _ => rfl
          legs := id
          failures := id
          otherShipped := fun _ _ _ => rfl
          value := by
            intro _ shipped fits current same
            cases old
            all_goals
              simp_all [DebitFits, whileInTransit] }
  | ship out =>
      exact
        { products := out.products
          transfers := out.transfers
          quantity := by
            intro other
            rw [out.quantity]
            simp [whileInTransit, TransferStep.change]
          noShortage := out.noShortage
          others := by
            intro other what different
            rw [out.legs, if_neg fun same => different same.1, add_zero]
          legs := by
            simp only [LegsFit, out.legs, TransferStep.reason]
            simp
          failures := out.failures
          otherShipped := by
            intro none other different
            rw [out.shipped none, if_neg fun same => different same.1, add_zero]
          value := by
            intro none shipped fits current same
            have worth := shippingValue_nonneg before transfer
            have balance := out.balance none
            have debit := out.shipped none pk
            simp only [DebitFits, whileInTransit, legValue] at *
            simp at *
            omega }
  | deliver out arrival =>
      exact
        { products := arrival.products.trans out.products
          transfers := arrival.transfers.trans out.transfers
          quantity := by
            intro other
            rw [arrival.quantity, out.quantity]
            simp only [whileInTransit, TransferStep.change]
            split
            all_goals simp
          noShortage := fun enough => arrival.noShortage (out.noShortage enough)
          others := by
            intro other what different
            rw [arrival.legs, out.legs, if_neg fun same => different same.1,
              if_neg fun same => different same.1, add_zero, add_zero]
          legs := by
            simp only [LegsFit, arrival.legs, out.legs, TransferStep.reason]
            simp
          failures := fun none => out.failures (arrival.failures none)
          otherShipped := by
            intro none other different
            rw [arrival.shipped none, out.shipped (arrival.failures none),
              if_neg fun same => different same.1,
              if_neg fun same => different same.1, add_zero, add_zero]
          value := by
            intro none shipped fits current same
            have worth := shippingValue_nonneg before transfer
            have first := out.balance (arrival.failures none)
            have debit := out.shipped (arrival.failures none) pk
            have second := arrival.balance none
            simp only [DebitFits, whileInTransit, legValue] at *
            simp at *
            omega }
  | receive arrival =>
      exact
        { products := arrival.products
          transfers := arrival.transfers
          quantity := by
            intro other
            rw [arrival.quantity]
            simp [whileInTransit, TransferStep.change]
          noShortage := arrival.noShortage
          others := by
            intro other what different
            rw [arrival.legs, if_neg fun same => different same.1, add_zero]
          legs := by
            simp only [LegsFit, arrival.legs, TransferStep.reason]
            simp
          failures := arrival.failures
          otherShipped := by
            intro none other different
            rw [arrival.shipped none, if_neg fun same => different same.1,
              add_zero]
          value := by
            intro none shipped fits current same
            have balance := arrival.balance none
            simp only [DebitFits, whileInTransit, legValue] at *
            simp at *
            omega }
  | back home =>
      exact
        { products := home.products
          transfers := home.transfers
          quantity := by
            intro other
            rw [home.quantity]
            simp [whileInTransit, TransferStep.change]
          noShortage := home.noShortage
          others := by
            intro other what different
            rw [home.legs, if_neg fun same => different same.1, add_zero]
          legs := by
            simp only [LegsFit, home.legs, TransferStep.reason]
            simp
            omega
          failures := home.failures
          otherShipped := by
            intro none other different
            rw [home.shipped none, if_neg fun same => different same.1,
              add_zero]
          value := by
            intro none shipped fits current same
            have balance := home.balance none
            simp only [DebitFits, whileInTransit, legValue] at *
            simp at *
            omega }
  | cancel =>
      exact
        { products := rfl
          transfers := rfl
          quantity := by simp [whileInTransit]
          noShortage := id
          others := fun _ _ _ => rfl
          legs := by
            simp only [LegsFit]
            omega
          failures := id
          otherShipped := fun _ _ _ => rfl
          value := by simp [DebitFits, whileInTransit] }

theorem createTransfer_returns {transfer : StockTransfer} {pk : ℕ}
    {before after : Warehouse}
    (returned : createTransfer transfer before = .ok pk after) :
    pk = before.transfers.next ∧
      Shift pk transfer .pending transfer.status
        { before with transfers := before.transfers.insert transfer } after := by
  simp only [createTransfer, Txn.atomic_eq_ok, Txn.bind_eq_ok, Txn.get_eq_ok,
    Txn.set_eq_ok, Txn.pure_eq_ok] at returned
  obtain ⟨_, _, ⟨rfl, rfl⟩, _, _, rfl, _, last, applied, rfl, rfl⟩ := returned
  refine ⟨rfl, ?_⟩
  unfold executeNewStockTransfer at applied
  split at applied
  · exact (applyTransferTransition_returns applied).shift
  · rename_i waiting
    rw [not_not] at waiting
    obtain ⟨_, rfl⟩ := Txn.pure_eq_ok.mp applied
    rw [waiting]
    exact Route.stay.shift

theorem saveTransfer_returns {pk : ℕ} {old transfer : StockTransfer}
    {before after : Warehouse} {result : PUnit}
    (stored : before.transfers.get? pk = some old)
    (returned : saveTransfer pk transfer before = .ok result after) :
    (old.status = .pending ∨ ¬ old.Moved transfer) ∧
      Route pk transfer old.status transfer.status before
        { after with transfers := before.transfers } ∧
      after.transfers = before.transfers.modify pk fun _ => transfer := by
  simp only [saveTransfer, executeStockTransfer, Txn.atomic_eq_ok,
    Txn.bind_eq_ok, Txn.get_eq_ok, Txn.modify_eq_ok] at returned
  obtain ⟨_, middle, ⟨_, _, ⟨rfl, rfl⟩, applied⟩, rfl⟩ := returned
  simp only [stored, Txn.bind_eq_ok, Txn.require_eq_ok] at applied
  obtain ⟨_, _, ⟨unmoved, rfl⟩, applied⟩ := applied
  have route := applyTransferTransition_returns applied
  have same := route.shift.transfers
  refine ⟨?_, ?_, ?_⟩
  · by_contra neither
    rw [not_or, not_not] at neither
    exact unmoved ⟨neither.2, neither.1⟩
  · rw [← same]
    exact route
  · rw [← same]

theorem saveTransfer_raises {pk : ℕ} {transfer : StockTransfer}
    {before after : Warehouse} {raised : TransferError}
    (failed : saveTransfer pk transfer before = .error raised after) :
    after = before :=
  (Txn.atomic_eq_error.mp failed).1

theorem createTransfer_raises {transfer : StockTransfer}
    {before after : Warehouse} {raised : TransferError}
    (failed : createTransfer transfer before = .error raised after) :
    after = before :=
  (Txn.atomic_eq_error.mp failed).1

def touchesTransit (entry : JournalEntry) : Bool :=
  entry.lines.any fun line => line.account = AccountKey.inventoryInTransit.code

def transitView (entry : JournalEntry) :
    Reference × Bool × List (Posting Account) :=
  (entry.reference, entry.status = .reversed, entry.lines)

/-- Anything that leaves stock, transfers and goods in transit alone: costs
change, and other documents post. -/
structure SameTransit (before after : Warehouse) : Prop where
  inventory : after.inventory = before.inventory
  movements : after.movements = before.movements
  transfers : after.transfers = before.transfers
  failures : after.failures = before.failures
  entries : ∀ key,
    ((after.books.entries.get? key).filter touchesTransit).map transitView =
      ((before.books.entries.get? key).filter touchesTransit).map transitView

namespace SameTransit

variable {before after : Warehouse}

private theorem total_view (same : SameTransit before after)
    (measure : Reference × Bool × List (Posting Account) → ℤ)
    (vanish : ∀ entry, touchesTransit entry = false →
      measure (transitView entry) = 0) :
    (after.books.entries.total fun _ entry => measure (transitView entry)) =
      before.books.entries.total fun _ entry => measure (transitView entry) := by
  have view : ∀ books : Books,
      (books.entries.total fun _ entry => measure (transitView entry)) =
        books.entries.total fun _ entry =>
          if touchesTransit entry then measure (transitView entry) else 0 := by
    intro books
    apply Table.total_congr
    intro key entry _
    cases touches : touchesTransit entry with
    | true => rfl
    | false => exact vanish entry touches
  rw [view, view]
  exact Table.total_eq_of_view (fun _ => measure) same.entries

private theorem untouched_line {entry : JournalEntry}
    (untouched : touchesTransit entry = false) {line : Posting Account}
    (member : line ∈ entry.lines) :
    line.account ≠ AccountKey.inventoryInTransit.code := by
  rw [touchesTransit, List.any_eq_false] at untouched
  simpa using untouched line member

theorem inTransitBalance (same : SameTransit before after) :
    inTransitBalance after.books = Stock.inTransitBalance before.books := by
  refine same.total_view
    (fun figure => net figure.2.2 AccountKey.inventoryInTransit.code) ?_
  intro entry untouched
  exact net_eq_zero fun line member => untouched_line untouched member

theorem shippedDebit (same : SameTransit before after) (pk : ℕ) :
    shippedDebit after.books pk = Stock.shippedDebit before.books pk := by
  have figures : ∀ books : Books, Stock.shippedDebit books pk =
      books.entries.total fun _ entry =>
        if (transitView entry).1 = .transferOut pk ∧
            (transitView entry).2.1 = false then
          totalDebit ((transitView entry).2.2.filter fun line =>
            line.account = AccountKey.inventoryInTransit.code)
        else 0 := by
    intro books
    simp [Stock.shippedDebit, transitView]
  rw [figures, figures]
  refine same.total_view (fun figure =>
    if figure.1 = .transferOut pk ∧ figure.2.1 = false then
      totalDebit (figure.2.2.filter fun line =>
        line.account = AccountKey.inventoryInTransit.code)
    else 0) ?_
  intro entry untouched
  have none : (entry.lines.filter fun line =>
      line.account = AccountKey.inventoryInTransit.code) = [] := by
    rw [List.filter_eq_nil_iff]
    intro line member
    simpa using untouched_line untouched member
  simp [transitView, none, totalDebit]

end SameTransit

def shippedAt (shipped : ℕ → ℤ) (before : Warehouse) (pk : ℕ)
    (old transfer : StockTransfer) : ℕ → ℤ :=
  if old.status = .pending then
    Function.update shipped pk (shippingValue before transfer)
  else shipped

theorem shippedAt_self (shipped : ℕ → ℤ) (before : Warehouse) (pk : ℕ)
    (old transfer : StockTransfer) :
    shippedAt shipped before pk old transfer pk =
      if old.status = .pending then shippingValue before transfer
      else shipped pk := by
  unfold shippedAt
  split
  · rw [Function.update_self]
  · rfl

theorem shippedAt_of_ne (shipped : ℕ → ℤ) (before : Warehouse) {pk other : ℕ}
    (different : other ≠ pk) (old transfer : StockTransfer) :
    shippedAt shipped before pk old transfer other = shipped other := by
  unfold shippedAt
  split
  · rw [Function.update_of_ne different]
  · rfl

/-- A run of creations, edits and changes of status of transfers, with the
value each of them was last shipped at. -/
inductive TransferRun (start : Warehouse) : Warehouse → (ℕ → ℤ) → Prop where
  | start : TransferRun start start fun _ => 0
  | created (run : TransferRun start before shipped)
      (returned : createTransfer transfer before = .ok pk after) :
      TransferRun start after
        (Function.update shipped pk (shippingValue before transfer))
  | saved (run : TransferRun start before shipped)
      (stored : before.transfers.get? pk = some old)
      (returned : saveTransfer pk transfer before = .ok result after) :
      TransferRun start after (shippedAt shipped before pk old transfer)
  | elsewhere (run : TransferRun start before shipped)
      (same : SameTransit before after) : TransferRun start after shipped

def valueInTransit (stock : Warehouse) (shipped : ℕ → ℤ) : ℤ :=
  stock.transfers.total fun pk transfer =>
    whileInTransit transfer.status (shipped pk)

/-- A warehouse before its first transfer. -/
structure Untouched (stock : Warehouse) : Prop where
  noShortage : NoShortage stock
  transfers : ∀ pk, stock.transfers.get? pk = none
  movements : ∀ key movement, stock.movements.get? key = some movement →
    ∀ pk, movement.reference ≠ .stockTransfer pk
  entries : ∀ key entry, stock.books.entries.get? key = some entry →
    touchesTransit entry = false

structure Conserved (start now : Warehouse) (shipped : ℕ → ℤ) : Prop where
  valued : ∀ product, now.valuedQty product = start.valuedQty product
  noShortage : NoShortage now
  legs : ∀ pk, LegsFit (legs now pk .transferOut) (legs now pk .transferIn)
    ((now.transfers.get? pk).map StockTransfer.status)
  debits : now.failures = [] → ∀ pk,
    DebitFits (shippedDebit now.books pk) (shipped pk)
      ((now.transfers.get? pk).map StockTransfer.status)
  value : now.failures = [] →
    inTransitBalance now.books = valueInTransit now shipped

theorem Untouched.conserved {start : Warehouse} (untouched : Untouched start) :
    Conserved start start fun _ => 0 where
  valued _ := rfl
  noShortage := untouched.noShortage
  legs pk := by
    have none : ∀ reason, Stock.legs start pk reason = 0 := by
      intro reason
      apply Table.total_eq_zero
      intro key movement stored
      rw [if_neg fun named => untouched.movements key movement stored pk named.1]
    rw [untouched.transfers, none, none]
    exact ⟨rfl, rfl⟩
  debits _ pk := by
    rw [untouched.transfers]
    apply Table.total_eq_zero
    intro key entry stored
    have quiet := untouched.entries key entry stored
    have none : (entry.lines.filter fun line =>
        line.account = AccountKey.inventoryInTransit.code) = [] := by
      rw [List.filter_eq_nil_iff]
      intro line member
      simpa using SameTransit.untouched_line quiet member
    simp [none, totalDebit]
  value _ := by
    have nothing : valueInTransit start (fun _ => 0) = 0 := by
      apply Table.total_eq_zero
      intro pk transfer stored
      rw [untouched.transfers] at stored
      cases stored
    rw [nothing]
    unfold inTransitBalance Books.balance Books.netOf
    apply Table.total_eq_zero
    intro key entry stored
    rw [if_pos rfl]
    exact net_eq_zero fun line member =>
      SameTransit.untouched_line (untouched.entries key entry stored) member

theorem Conserved.elsewhere {start before after : Warehouse} {shipped : ℕ → ℤ}
    (conserved : Conserved start before shipped)
    (same : SameTransit before after) : Conserved start after shipped where
  valued product := by
    rw [← conserved.valued]
    unfold Warehouse.valuedQty Warehouse.totalInventoryQty Warehouse.movingQty
    rw [same.inventory, same.transfers]
  noShortage key row stored := by
    rw [same.inventory] at stored
    exact conserved.noShortage key row stored
  legs pk := by
    have figures : ∀ reason, Stock.legs after pk reason =
        Stock.legs before pk reason := by
      intro reason
      unfold Stock.legs
      rw [same.movements]
    rw [figures, figures, same.transfers]
    exact conserved.legs pk
  debits none pk := by
    rw [same.shippedDebit, same.transfers]
    exact conserved.debits (same.failures ▸ none) pk
  value none := by
    rw [same.inTransitBalance, conserved.value (same.failures ▸ none)]
    unfold valueInTransit
    rw [same.transfers]

def movingPart (product : ℕ) (transfer : StockTransfer) : ℤ :=
  if product = transfer.product then
    whileInTransit transfer.status transfer.quantity
  else 0

theorem movingQty_eq (stock : Warehouse) (product : ℕ) :
    stock.movingQty product =
      stock.transfers.total fun _ transfer => movingPart product transfer := by
  apply Table.total_congr
  intro pk transfer _
  unfold movingPart whileInTransit
  by_cases same : product = transfer.product
  · simp [same]
  · simp [same, Ne.symm same]

theorem Conserved.created {start before after : Warehouse} {shipped : ℕ → ℤ}
    {transfer : StockTransfer} {pk : ℕ}
    (conserved : Conserved start before shipped)
    (returned : createTransfer transfer before = .ok pk after) :
    Conserved start after
      (Function.update shipped pk (shippingValue before transfer)) := by
  obtain ⟨rfl, shift⟩ := createTransfer_returns returned
  have fresh := Table.get?_next before.transfers
  have old := conserved.legs before.transfers.next
  rw [fresh] at old
  have status : ∀ other, (after.transfers.get? other).map StockTransfer.status =
      if other = before.transfers.next then some transfer.status
      else (before.transfers.get? other).map StockTransfer.status := by
    intro other
    rw [shift.transfers, Table.get?_insert]
    split
    · rfl
    · rfl
  exact
    { valued := by
        intro product
        rw [← conserved.valued]
        unfold Warehouse.valuedQty
        rw [movingQty_eq, movingQty_eq, shift.transfers, Table.total_insert,
          shift.quantity]
        unfold Warehouse.totalInventoryQty movingPart
        split
        · simp [whileInTransit]
          ring
        · simp
      noShortage := shift.noShortage conserved.noShortage
      legs := by
        intro other
        rw [status]
        split
        · rename_i same
          subst same
          exact shift.legs old
        · rename_i different
          rw [shift.others _ _ different, shift.others _ _ different]
          exact conserved.legs other
      debits := by
        intro none other
        have before_ := conserved.debits (shift.failures none)
        rw [status]
        split
        · rename_i same
          subst same
          have debit := before_ before.transfers.next
          rw [fresh] at debit
          rw [Function.update_self]
          exact (shift.value none 0 debit _ rfl).1
        · rename_i different
          rw [shift.otherShipped none other different,
            Function.update_of_ne different]
          exact before_ other
      value := by
        intro none
        have debit := conserved.debits (shift.failures none)
          before.transfers.next
        rw [fresh] at debit
        have moved := (shift.value none 0 debit _ rfl).2
        have base := conserved.value (shift.failures none)
        have others : (before.transfers.total fun pk transfer' =>
            whileInTransit transfer'.status
              (Function.update shipped before.transfers.next
                (shippingValue before transfer) pk)) =
            valueInTransit before shipped := by
          apply Table.total_congr
          intro other row stored
          rw [Function.update_of_ne (Nat.ne_of_lt (Table.get?_lt stored))]
        unfold valueInTransit at others ⊢
        rw [shift.transfers, Table.total_insert, others, Function.update_self,
          moved]
        rw [valueInTransit] at base
        simp only [whileInTransit, if_true] at base ⊢
        simp [base, shippingValue] }

theorem Conserved.saved {start before after : Warehouse} {shipped : ℕ → ℤ}
    {old transfer : StockTransfer} {pk : ℕ} {result : PUnit}
    (conserved : Conserved start before shipped)
    (stored : before.transfers.get? pk = some old)
    (returned : saveTransfer pk transfer before = .ok result after) :
    Conserved start after (shippedAt shipped before pk old transfer) := by
  obtain ⟨allowed, route, transfers⟩ := saveTransfer_returns stored returned
  have shift := route.shift
  have status : ∀ other, (after.transfers.get? other).map StockTransfer.status =
      if other = pk then some transfer.status
      else (before.transfers.get? other).map StockTransfer.status := by
    intro other
    rw [transfers, Table.get?_modify, stored]
    split
    · rfl
    · rfl
  exact
    { valued := by
        intro product
        have quantity := shift.quantity product
        have goods : movingPart product old =
            if product = transfer.product then
              whileInTransit old.status transfer.quantity
            else 0 := by
          unfold movingPart
          rcases allowed with waiting | unmoved
          · simp [whileInTransit, waiting]
          · simp only [StockTransfer.Moved, ne_eq, Prod.mk.injEq,
              not_not] at unmoved
            rw [unmoved.1, unmoved.2.2.2]
        rw [← conserved.valued]
        unfold Warehouse.valuedQty
        rw [movingQty_eq, movingQty_eq, transfers, Table.total_modify stored,
          goods]
        change after.totalInventoryQty product = _ at quantity
        rw [quantity]
        unfold movingPart
        split
        · ring
        · ring
      noShortage := shift.noShortage conserved.noShortage
      legs := by
        intro other
        rw [status]
        split
        · rename_i same
          subst same
          have fits := conserved.legs other
          rw [stored] at fits
          exact shift.legs fits
        · rename_i different
          have same := fun what => shift.others other what different
          change ∀ what, Stock.legs after other what = _ at same
          rw [same, same]
          exact conserved.legs other
      debits := by
        intro none other
        rw [status]
        split
        · rename_i same
          subst same
          have debit := conserved.debits (shift.failures none) other
          rw [stored] at debit
          rw [shippedAt_self]
          exact (shift.value none _ debit _ rfl).1
        · rename_i different
          rw [shippedAt_of_ne _ _ different]
          have same := shift.otherShipped none other different
          change shippedDebit after.books other = _ at same
          rw [same]
          exact conserved.debits (shift.failures none) other
      value := by
        intro none
        have debit := conserved.debits (shift.failures none) pk
        rw [stored] at debit
        have moved := (shift.value none _ debit _ rfl).2
        change inTransitBalance after.books = _ at moved
        have base := conserved.value (shift.failures none)
        have former : whileInTransit old.status
            (shippedAt shipped before pk old transfer pk) =
            whileInTransit old.status (shipped pk) := by
          rw [shippedAt_self]
          unfold whileInTransit
          by_cases waiting : old.status = .pending
          · simp [waiting]
          · simp [waiting]
        have others : (before.transfers.total fun key row =>
            whileInTransit row.status
              (shippedAt shipped before pk old transfer key)) =
            valueInTransit before shipped := by
          apply Table.total_congr
          intro key row found
          by_cases same : key = pk
          · subst same
            rw [stored, Option.some.injEq] at found
            exact found ▸ former
          · rw [shippedAt_of_ne _ _ same]
        rw [valueInTransit, transfers, Table.total_modify stored, others,
          former, moved, base, shippedAt_self]
        ring }

/-- Every run keeps the invariant. -/
theorem TransferRun.conserved {start final : Warehouse} {shipped : ℕ → ℤ}
    (untouched : Untouched start) (run : TransferRun start final shipped) :
    Conserved start final shipped := by
  induction run with
  | start => exact untouched.conserved
  | created run returned induction => exact induction.created returned
  | saved run stored returned induction => exact induction.saved stored returned
  | elsewhere run same induction => exact induction.elsewhere same

/-- A transfer that was received or cancelled is never written again. -/
theorem TransferRun.settled {start final : Warehouse} {shipped : ℕ → ℤ}
    (run : TransferRun start final shipped) {pk : ℕ} {transfer : StockTransfer}
    (stored : start.transfers.get? pk = some transfer)
    (settled : transfer.status = .completed ∨ transfer.status = .cancelled) :
    final.transfers.get? pk = some transfer := by
  induction run with
  | start => exact stored
  | created run returned induction =>
      obtain ⟨-, shift⟩ := createTransfer_returns returned
      rw [shift.transfers]
      exact Table.get?_insert_of_some induction _
  | @saved before _ key old change after _ run found returned induction =>
      obtain ⟨allowed, route, transfers⟩ := saveTransfer_returns found returned
      rw [transfers, Table.get?_modify]
      split
      · rename_i same
        subst same
        rw [induction, Option.some.injEq] at found
        subst found
        rw [induction, Option.map_some, Option.some.injEq]
        have unmoved : ¬ transfer.Moved change := by
          rcases allowed with waiting | unmoved
          · simp [waiting] at settled
          · exact unmoved
        have status := route.status_eq settled
        simp only [StockTransfer.Moved, ne_eq, Prod.mk.injEq, not_not] at unmoved
        obtain ⟨product, fromBranch, toBranch, quantity⟩ := unmoved
        cases transfer
        cases change
        simp_all
      · exact induction
  | elsewhere run same induction =>
      rw [same.transfers]
      exact induction

/-- Over every run, what a product has in the branches and on the way is
constant and no branch is short; a transfer ships at most once, and arrives or
comes back at most once; unless a posting failed, the goods-in-transit account
holds what the transfers in transit were shipped at. -/
theorem transfers_conserve (start : Warehouse) (untouched : Untouched start) :
    (∀ now shipped, TransferRun start now shipped →
      (∀ product, now.totalInventoryQty product + now.movingQty product =
        start.totalInventoryQty product) ∧
      (∀ key row, now.inventory.get? key = some row → 0 ≤ row.quantity) ∧
      (∀ pk, legs now pk .transferIn ≤ legs now pk .transferOut ∧
        legs now pk .transferOut ≤ 1) ∧
      (now.failures = [] →
        inTransitBalance now.books = valueInTransit now shipped) ∧
      (∀ later laterShipped pk transfer, TransferRun now later laterShipped →
        now.transfers.get? pk = some transfer →
        transfer.status = .completed ∨ transfer.status = .cancelled →
        later.transfers.get? pk = some transfer)) ∧
    (∀ before after pk transfer raised,
      saveTransfer pk transfer before = .error raised after →
        after = before) ∧
    ∀ before after transfer raised,
      createTransfer transfer before = .error raised after → after = before := by
  refine ⟨?_, fun _ _ _ _ _ => saveTransfer_raises,
    fun _ _ _ _ => createTransfer_raises⟩
  intro now shipped run
  have conserved := run.conserved untouched
  refine ⟨?_, conserved.noShortage, ?_, conserved.value, ?_⟩
  · intro product
    have nothing : start.movingQty product = 0 := by
      apply Table.total_eq_zero
      intro pk transfer stored
      rw [untouched.transfers] at stored
      cases stored
    have valued := conserved.valued product
    unfold Warehouse.valuedQty at valued
    rw [valued, nothing, add_zero]
  · intro pk
    have fits := conserved.legs pk
    cases status : (now.transfers.get? pk).map StockTransfer.status with
    | none =>
        rw [status] at fits
        simp only [LegsFit] at fits
        omega
    | some current =>
        rw [status] at fits
        cases current
        all_goals
          simp only [LegsFit] at fits
          omega
  · intro later laterShipped pk transfer onward stored settled
    exact onward.settled stored settled

def twoBranches : Warehouse where
  products := Table.empty.insert ⟨"ABS", 2500, 0⟩
  inventory := Table.empty.insert ⟨0, 1, 10⟩
  movements := Table.empty
  transfers := Table.empty
  books := ⟨Chart.empty, Table.empty, Table.empty, 0⟩

def fourPieces : StockTransfer :=
  ⟨0, 1, 2, 4, .inTransit⟩

def fourShipped : Warehouse :=
  (createTransfer fourPieces).final twoBranches

/-- Six pieces are left in branch 1, and 100.00 are in transit. -/
theorem transfers_conserve_shipped :
    fourShipped.totalInventoryQty 0 + fourShipped.movingQty 0 = 10 ∧
      inTransitBalance fourShipped.books = 10000 := by
  have untouched : Untouched twoBranches :=
    { noShortage := by
        intro key row stored
        rw [twoBranches, Table.get?_insert] at stored
        split at stored
        · cases stored
          decide
        · cases stored
      transfers := fun _ => rfl
      movements := by
        intro key movement stored
        cases stored
      entries := by
        intro key entry stored
        cases stored }
  have created : createTransfer fourPieces twoBranches = .ok 0 fourShipped :=
    Txn.eq_ok_of_result? (by decide +kernel)
  obtain ⟨quantity, _, _, value, _⟩ :=
    (transfers_conserve twoBranches untouched).1 _ _ (.created .start created)
  constructor
  · rw [quantity]
    decide +kernel
  · rw [value (by decide +kernel)]
    decide +kernel

end Mousstec.Stock
