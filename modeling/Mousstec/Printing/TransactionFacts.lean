import Mathlib.Tactic.Ring
import Mousstec.Printing.Transactions

/-!
# What saving and deleting a transaction does

One description for each operation: which rows it writes, how it moves the
balances, and that the paid amounts stay those of the transactions.  A save
takes one of four courses, by whether tax is withheld and whether there was a
companion; a deletion takes the companion along.
-/

namespace Mousstec.Printing

open Library

def Shop.sum (shop : Shop) (measure : PrintTransaction → ℤ) : ℤ :=
  shop.transactions.total fun _ txn => measure txn

/-- A measure that does not look at the companion link. -/
def IgnoresCompanion (measure : PrintTransaction → ℤ) : Prop :=
  ∀ txn link, measure { txn with withholdingTxn := link } = measure txn

namespace PrintTransaction

def effectOn (txn : PrintTransaction) (treasury : ℕ) : ℤ :=
  if txn.treasury = treasury then txn.effect else 0

def effectIf (select : PrintTransaction → Bool) (txn : PrintTransaction) : ℤ :=
  if select txn then txn.effect else 0

end PrintTransaction

namespace Shop

def moved (shop : Shop) (treasury : ℕ) : ℤ :=
  shop.sum fun txn => txn.effectOn treasury

theorem ins_sub_outs (shop : Shop) (select : PrintTransaction → Bool) :
    shop.ins select - shop.outs select =
      shop.sum (PrintTransaction.effectIf select) := by
  unfold ins outs sum
  rw [← Table.total_sub]
  apply Table.total_congr
  intro pk txn _
  unfold PrintTransaction.effectIf PrintTransaction.effect
  cases chosen : select txn with
  | false => simp
  | true =>
      cases type : txn.transactionType with
      | moneyIn => simp [signed]
      | moneyOut => simp [signed]

end Shop

section PaidAmounts

variable {α : Type}

theorem get?_writePaid (table : Table α) (write : ℤ → α → α) (paid : ℕ → ℤ)
    (link : Option ℕ) (key : ℕ) :
    (Shop.writePaid table write paid link).get? key =
      (table.get? key).map fun row =>
        if link = some key then write (paid key) row else row := by
  cases link with
  | none => simp [Shop.writePaid]
  | some linked =>
      rw [Shop.writePaid, Table.get?_modify]
      by_cases same : key = linked
      · simp [same]
      · simp [same, Ne.symm same]

theorem map_writePaid {β : Type} (table : Table α) {write : ℤ → α → α}
    (paid : ℕ → ℤ) (link : Option ℕ) {view : α → β}
    (ignores : ∀ amount row, view (write amount row) = view row) :
    ((Shop.writePaid table write paid link).map fun _ => view) =
      table.map fun _ => view := by
  cases link with
  | none => rfl
  | some key =>
      apply Table.ext
      · simp only [Shop.writePaid, Table.modify, Table.map, List.map_map]
        apply List.map_congr_left
        intro row _
        by_cases same : row.1 = key
        · simp [same, ignores]
        · simp [same]
      · rfl

end PaidAmounts

def PrintOrder.unpaid (order : PrintOrder) : PrintOrder :=
  { order with paidAmount := 0 }

def MaterialPurchase.unpaid (purchase : MaterialPurchase) : MaterialPurchase :=
  { purchase with paidAmount := 0 }

def PrintExpenseBill.unpaid (bill : PrintExpenseBill) : PrintExpenseBill :=
  { bill with paidAmount := 0 }

def Shop.stock (shop : Shop) :=
  (shop.suppliers, shop.purchaseLines, shop.purchaseReturns,
    shop.purchaseReturnLines, shop.materials, shop.jobs, shop.usages,
    shop.adjustments)

/-- The documents are the same up to their paid amounts. -/
structure SameDocuments (before after : Shop) : Prop where
  orders : (after.orders.map fun _ => PrintOrder.unpaid) =
    before.orders.map fun _ => PrintOrder.unpaid
  purchases : (after.purchases.map fun _ => MaterialPurchase.unpaid) =
    before.purchases.map fun _ => MaterialPurchase.unpaid
  bills : (after.bills.map fun _ => PrintExpenseBill.unpaid) =
    before.bills.map fun _ => PrintExpenseBill.unpaid
  customers : after.customers = before.customers
  allocations : after.allocations = before.allocations
  supplierAllocations : after.supplierAllocations = before.supplierAllocations
  fixedAssets : after.fixedAssets = before.fixedAssets
  stock : after.stock = before.stock

namespace SameDocuments

theorem refl (shop : Shop) : SameDocuments shop shop :=
  ⟨rfl, rfl, rfl, rfl, rfl, rfl, rfl, rfl⟩

theorem trans {first second third : Shop} (left : SameDocuments first second)
    (right : SameDocuments second third) : SameDocuments first third where
  orders := right.orders.trans left.orders
  purchases := right.purchases.trans left.purchases
  bills := right.bills.trans left.bills
  customers := right.customers.trans left.customers
  allocations := right.allocations.trans left.allocations
  supplierAllocations :=
    right.supplierAllocations.trans left.supplierAllocations
  fixedAssets := right.fixedAssets.trans left.fixedAssets
  stock := right.stock.trans left.stock

end SameDocuments

/-- What a step leaves alone when it only recomputes paid amounts. -/
structure Recomputed (before after : Shop) : Prop where
  documents : SameDocuments before after
  treasuries : after.treasuries = before.treasuries
  transactions : after.transactions = before.transactions
  transfers : after.transfers = before.transfers
  cheques : after.cheques = before.cheques
  creditNotes : after.creditNotes = before.creditNotes

namespace Recomputed

theorem trans {first second third : Shop} (left : Recomputed first second)
    (right : Recomputed second third) : Recomputed first third where
  documents := left.documents.trans right.documents
  treasuries := right.treasuries.trans left.treasuries
  transactions := right.transactions.trans left.transactions
  transfers := right.transfers.trans left.transfers
  cheques := right.cheques.trans left.cheques
  creditNotes := right.creditNotes.trans left.creditNotes

end Recomputed

theorem recomputed_links (shop : Shop) (txn : PrintTransaction) :
    Recomputed shop (shop.recomputeLinks txn) where
  documents :=
    { orders := map_writePaid _ _ _ fun _ _ => rfl
      purchases := map_writePaid _ _ _ fun _ _ => rfl
      bills := map_writePaid _ _ _ fun _ _ => rfl
      customers := rfl
      allocations := rfl
      supplierAllocations := rfl
      fixedAssets := rfl
      stock := rfl }
  treasuries := rfl
  transactions := rfl
  transfers := rfl
  cheques := rfl
  creditNotes := rfl

/-- Every document but those a list of transactions is linked to has the paid
amount of its transactions and allocations. -/
structure PaidUpBut (pending : List PrintTransaction) (shop : Shop) : Prop where
  orders : ∀ pk row, shop.orders.get? pk = some row →
    (∀ txn ∈ pending, txn.order ≠ some pk) → row.paidAmount = shop.orderPaid pk
  purchases : ∀ pk row, shop.purchases.get? pk = some row →
    (∀ txn ∈ pending, txn.purchase ≠ some pk) →
    row.paidAmount = shop.purchasePaid pk
  bills : ∀ pk row, shop.bills.get? pk = some row →
    (∀ txn ∈ pending, txn.bill ≠ some pk) → row.paidAmount = shop.billPaid pk

/-- Every document has the paid amount of its transactions and allocations. -/
abbrev PaidUp (shop : Shop) : Prop :=
  PaidUpBut [] shop

section WritePaid

variable {α : Type} {table : Table α} {write : ℤ → α → α} {paid : ℕ → ℤ}
  {amount : α → ℤ} {linked : PrintTransaction → Option ℕ}
  {txn : PrintTransaction} {pending : List PrintTransaction}

private theorem paidUp_writePaid
    (written : ∀ value row, amount (write value row) = value)
    (upToDate : ∀ pk row, table.get? pk = some row →
      (∀ other ∈ txn :: pending, linked other ≠ some pk) → amount row = paid pk) :
    ∀ pk row, (Shop.writePaid table write paid (linked txn)).get? pk = some row →
      (∀ other ∈ pending, linked other ≠ some pk) → amount row = paid pk := by
  intro pk row stored others
  rw [get?_writePaid, Option.map_eq_some_iff] at stored
  obtain ⟨old, found, rfl⟩ := stored
  split
  · exact written _ _
  · rename_i different
    apply upToDate pk old found
    intro other member
    rcases List.mem_cons.mp member with rfl | later
    · exact different
    · exact others other later

end WritePaid

theorem PaidUpBut.recomputeLinks {txn : PrintTransaction}
    {pending : List PrintTransaction} {shop : Shop}
    (paid : PaidUpBut (txn :: pending) shop) :
    PaidUpBut pending (shop.recomputeLinks txn) where
  orders := paidUp_writePaid (fun _ _ => rfl) paid.orders
  purchases := paidUp_writePaid (fun _ _ => rfl) paid.purchases
  bills := paidUp_writePaid (fun _ _ => rfl) paid.bills

theorem Shop.orderPaid_eq (shop : Shop) (order : ℕ) :
    shop.orderPaid order =
      max (shop.sum (PrintTransaction.effectIf (·.order = some order)) +
        shop.allocations.total fun _ allocation =>
          if allocation.order = order then allocation.amount else 0) 0 := by
  rw [← Shop.ins_sub_outs]
  rfl

theorem Shop.purchasePaid_eq (shop : Shop) (purchase : ℕ) :
    shop.purchasePaid purchase =
      (shop.supplierAllocations.total fun _ allocation =>
        if allocation.purchase = some purchase then allocation.amount else 0) -
      shop.sum (PrintTransaction.effectIf (·.purchase = some purchase)) := by
  rw [← Shop.ins_sub_outs]
  unfold Shop.purchasePaid
  ring

theorem Shop.billPaid_eq (shop : Shop) (bill : ℕ) :
    shop.billPaid bill =
      (shop.supplierAllocations.total fun _ allocation =>
        if allocation.bill = some bill then allocation.amount else 0) -
      shop.sum (PrintTransaction.effectIf (·.bill = some bill)) := by
  rw [← Shop.ins_sub_outs]
  unfold Shop.billPaid
  ring

/-- Rows that come and go leave every document up to date that none of them is
linked to. -/
theorem PaidUpBut.change {pending : List PrintTransaction}
    {before : Shop} (paid : PaidUpBut pending before)
    (changed : List PrintTransaction) (after : Shop)
    (orders : after.orders = before.orders)
    (purchases : after.purchases = before.purchases)
    (bills : after.bills = before.bills)
    (allocations : after.allocations = before.allocations)
    (supplierAllocations :
      after.supplierAllocations = before.supplierAllocations)
    (sums : ∀ measure, IgnoresCompanion measure →
      (∀ txn ∈ changed, measure txn = 0) →
      after.sum measure = before.sum measure) :
    PaidUpBut (changed ++ pending) after where
  orders pk row stored others := by
    rw [orders] at stored
    rw [paid.orders pk row stored fun txn member =>
        others txn (List.mem_append_right _ member),
      Shop.orderPaid_eq, Shop.orderPaid_eq, allocations]
    congr 2
    refine (sums _ (fun _ _ => rfl) ?_).symm
    intro txn member
    simp [PrintTransaction.effectIf,
      others txn (List.mem_append_left _ member)]
  purchases pk row stored others := by
    rw [purchases] at stored
    rw [paid.purchases pk row stored fun txn member =>
        others txn (List.mem_append_right _ member),
      Shop.purchasePaid_eq, Shop.purchasePaid_eq, supplierAllocations]
    congr 1
    refine (sums _ (fun _ _ => rfl) ?_).symm
    intro txn member
    simp [PrintTransaction.effectIf,
      others txn (List.mem_append_left _ member)]
  bills pk row stored others := by
    rw [bills] at stored
    rw [paid.bills pk row stored fun txn member =>
        others txn (List.mem_append_right _ member),
      Shop.billPaid_eq, Shop.billPaid_eq, supplierAllocations]
    congr 1
    refine (sums _ (fun _ _ => rfl) ?_).symm
    intro txn member
    simp [PrintTransaction.effectIf,
      others txn (List.mem_append_left _ member)]

theorem get?_addBalance (shop : Shop) (treasury : ℕ) (amount : ℤ) (other : ℕ) :
    (shop.addBalance treasury amount).treasuries.get? other =
      (shop.treasuries.get? other).map fun stored =>
        { stored with
          balance := stored.balance +
            if treasury = other then amount else 0 } := by
  unfold Shop.addBalance
  rw [Table.get?_modify]
  by_cases same : other = treasury
  · simp [same]
  · simp [same, Ne.symm same]

/-- The balances moved by an amount for each treasury; nothing else did. -/
structure Rebalanced (amount : ℕ → ℤ) (before after : Shop) : Prop where
  get? : ∀ treasury, after.treasuries.get? treasury =
    (before.treasuries.get? treasury).map fun stored =>
      { stored with balance := stored.balance + amount treasury }
  next : after.treasuries.next = before.treasuries.next
  rest : after = { before with treasuries := after.treasuries }

namespace Rebalanced

theorem none {amount : ℕ → ℤ} (nothing : ∀ treasury, amount treasury = 0)
    (shop : Shop) : Rebalanced amount shop shop where
  get? treasury := by simp [nothing]
  next := rfl
  rest := rfl

theorem add (shop : Shop) (treasury : ℕ) (amount : ℤ) :
    Rebalanced (fun other => if treasury = other then amount else 0) shop
      (shop.addBalance treasury amount) where
  get? := get?_addBalance shop treasury amount
  next := rfl
  rest := rfl

theorem trans {first second : ℕ → ℤ} {before middle after : Shop}
    (left : Rebalanced first before middle)
    (right : Rebalanced second middle after) :
    Rebalanced (fun treasury => first treasury + second treasury) before
      after where
  get? treasury := by
    rw [right.get?, left.get?, Option.map_map]
    congr 1
    funext stored
    simp [add_assoc]
  next := right.next.trans left.next
  rest := by
    rw [right.rest, left.rest]

theorem congr {first second : ℕ → ℤ} {before after : Shop}
    (moved : Rebalanced first before after)
    (same : ∀ treasury, first treasury = second treasury) :
    Rebalanced second before after := by
  have equal : first = second := funext same
  exact equal ▸ moved

end Rebalanced

def oldEffectOn (old : Option PrintTransaction) (treasury : ℕ) : ℤ :=
  (old.map fun txn => txn.effectOn treasury).getD 0

theorem rebalanced_takeBack (shop : Shop) (old : Option PrintTransaction) :
    Rebalanced (fun treasury => -oldEffectOn old treasury) shop
      (shop.takeBack old) := by
  cases old with
  | none => exact .none (fun _ => rfl) shop
  | some txn =>
      refine (Rebalanced.add shop txn.treasury (-txn.effect)).congr ?_
      intro treasury
      unfold oldEffectOn PrintTransaction.effectOn
      by_cases same : txn.treasury = treasury
      · simp [same]
      · simp [same]

/-- The treasury of a changed transaction exists, and if money leaves it the
balance covers that, unless the treasury is a liability. -/
structure Covered (old : Option PrintTransaction) (txn : PrintTransaction)
    (before : Shop) : Prop where
  held : ∃ stored, before.treasuries.get? txn.treasury = some stored ∧
    (txn.effect < 0 → stored.kind ∉ LIABILITY_KINDS →
      0 ≤ stored.balance - oldEffectOn old txn.treasury + txn.effect)

theorem moveBalance_ok {old : Option PrintTransaction} {txn : PrintTransaction}
    {before after : Shop} {result : PUnit}
    (returned : moveBalance old txn before = .ok result after) :
    Rebalanced
        (fun treasury => txn.effectOn treasury - oldEffectOn old treasury)
        before after ∧
      (old.map PrintTransaction.movement = some txn.movement ∨
        Covered old txn before) := by
  unfold moveBalance at returned
  split at returned
  · rename_i unchanged
    obtain ⟨-, rfl⟩ := Txn.pure_eq_ok.mp returned
    refine ⟨.none ?_ before, .inl unchanged⟩
    intro treasury
    obtain ⟨previous, rfl, same⟩ := Option.map_eq_some_iff.mp unchanged
    simp only [PrintTransaction.movement, Prod.mk.injEq] at same
    obtain ⟨treasuries, types, amounts⟩ := same
    simp [oldEffectOn, PrintTransaction.effectOn, PrintTransaction.effect,
      treasuries, types, amounts]
  · simp only [Txn.bind_eq_ok, Txn.modify_eq_ok, Txn.get_eq_ok,
      Txn.expect_eq_ok, Txn.require_eq_ok] at returned
    obtain ⟨_, _, rfl, _, _, ⟨rfl, rfl⟩, stored, _, ⟨found, rfl⟩, _, _,
      ⟨covered, rfl⟩, rfl⟩ := returned
    have back := rebalanced_takeBack before old
    constructor
    · refine (back.trans (.add _ txn.treasury txn.effect)).congr ?_
      intro treasury
      unfold PrintTransaction.effectOn
      ring
    · right
      rw [back.get?, Option.map_eq_some_iff] at found
      obtain ⟨original, found, rfl⟩ := found
      refine ⟨original, found, ?_⟩
      intro leaves liability
      by_contra short
      apply covered
      refine ⟨leaves, ?_, liability⟩
      simp only
      omega

def Shop.oldRow (shop : Shop) (pk : Option ℕ) : Option PrintTransaction :=
  pk.bind shop.transactions.get?

/-- What `storeTransaction` does. -/
structure Stored (pk : Option ℕ) (txn : PrintTransaction) (key : ℕ)
    (row : PrintTransaction) (before after : Shop) : Prop where
  found : ∀ other, pk = some other → ∃ old, before.oldRow pk = some old
  key_eq : key = pk.getD before.transactions.next
  row_eq : row = txn.fillLinks before
  transactions : after.transactions =
    (before.putTransaction pk row).transactions
  treasuries : ∀ treasury, after.treasuries.get? treasury =
    (before.treasuries.get? treasury).map fun stored =>
      { stored with
        balance := stored.balance +
          (row.effectOn treasury - oldEffectOn (before.oldRow pk) treasury) }
  nextTreasury : after.treasuries.next = before.treasuries.next
  covered : (before.oldRow pk).map PrintTransaction.movement =
      some row.movement ∨ Covered (before.oldRow pk) row before
  documents : SameDocuments before after
  paid : PaidUp before → PaidUp after
  transfers : after.transfers = before.transfers
  cheques : after.cheques = before.cheques
  creditNotes : after.creditNotes = before.creditNotes

theorem sum_putTransaction {shop : Shop} {pk : Option ℕ}
    (found : ∀ other, pk = some other → ∃ old, shop.oldRow pk = some old)
    (row : PrintTransaction) (measure : PrintTransaction → ℤ) :
    (shop.putTransaction pk row).sum measure =
      shop.sum measure + measure row -
        ((shop.oldRow pk).map measure).getD 0 := by
  cases pk with
  | none =>
      simp [Shop.sum, Shop.putTransaction, Shop.oldRow]
  | some key =>
      obtain ⟨old, stored⟩ := found key rfl
      have present : shop.transactions.get? key = some old := stored
      unfold Shop.sum Shop.putTransaction
      simp only
      rw [Table.total_modify present, stored]
      simp only [Option.map_some, Option.getD_some]
      ring

theorem storedTransaction_ok {shop before after : Shop} {pk : Option ℕ}
    {old : Option PrintTransaction}
    (returned : storedTransaction shop pk before = .ok old after) :
    after = before ∧ old = shop.oldRow pk ∧
      ∀ other, pk = some other → ∃ row, shop.oldRow pk = some row := by
  cases pk with
  | none =>
      obtain ⟨rfl, rfl⟩ := Txn.pure_eq_ok.mp returned
      exact ⟨rfl, rfl, fun other impossible => by cases impossible⟩
  | some key =>
      simp only [storedTransaction, Txn.bind_eq_ok, Txn.expect_eq_ok,
        Txn.pure_eq_ok] at returned
      obtain ⟨row, _, ⟨found, rfl⟩, rfl, rfl⟩ := returned
      exact ⟨rfl, found.symm, fun _ _ => ⟨row, found⟩⟩

private theorem recomputed_saved (shop : Shop) (old : Option PrintTransaction)
    (txn : PrintTransaction) : Recomputed shop (shop.recomputeSaved old txn) := by
  cases old with
  | none => exact recomputed_links shop txn
  | some old =>
      exact (recomputed_links shop txn).trans (recomputed_links _ old)

private theorem paidUp_saved {before : Shop} {pk : Option ℕ}
    (found : ∀ other, pk = some other → ∃ old, before.oldRow pk = some old)
    (row : PrintTransaction) (paid : PaidUp before) :
    PaidUp ((before.putTransaction pk row).recomputeSaved (before.oldRow pk)
      row) := by
  have pending : PaidUpBut (row :: (before.oldRow pk).toList)
      (before.putTransaction pk row) := by
    have change := paid.change (row :: (before.oldRow pk).toList)
      (before.putTransaction pk row) rfl rfl rfl rfl rfl (by
        intro measure _ vanish
        have none : ((before.oldRow pk).map measure).getD 0 = 0 := by
          cases stored : before.oldRow pk with
          | none => rfl
          | some old => exact vanish old (by simp [stored])
        rw [sum_putTransaction found, vanish row List.mem_cons_self, none]
        ring)
    simpa using change
  cases stored : before.oldRow pk with
  | none =>
      rw [stored] at pending
      exact pending.recomputeLinks
  | some old =>
      rw [stored] at pending
      exact pending.recomputeLinks.recomputeLinks

theorem storeTransaction_ok {pk : Option ℕ} {txn row : PrintTransaction}
    {key : ℕ} {before after : Shop}
    (returned : storeTransaction pk txn before = .ok (key, row) after) :
    Stored pk txn key row before after := by
  rw [storeTransaction, Txn.get_bind] at returned
  simp only [Txn.bind_eq_ok, Txn.set_eq_ok, Txn.pure_eq_ok,
    Prod.mk.injEq] at returned
  obtain ⟨old, middle, stored, _, _, rfl, _, _, moved, ⟨rfl, rfl⟩, rfl⟩ :=
    returned
  obtain ⟨-, rfl, found⟩ := storedTransaction_ok stored
  obtain ⟨rebalanced, covered⟩ := moveBalance_ok moved
  have recomputed := recomputed_saved (before.putTransaction pk
    (txn.fillLinks before)) (before.oldRow pk) (txn.fillLinks before)
  have frame := rebalanced.rest
  exact
    { found
      key_eq := rfl
      row_eq := rfl
      transactions := by
        rw [frame]
        exact recomputed.transactions
      treasuries := by
        intro treasury
        rw [rebalanced.get?, recomputed.treasuries]
        rfl
      nextTreasury := by
        rw [rebalanced.next, recomputed.treasuries]
        rfl
      covered := by
        refine covered.imp id fun held => ⟨?_⟩
        have same := held.held
        rw [recomputed.treasuries] at same
        exact same
      documents := by
        have same := recomputed.documents
        rw [frame]
        exact ⟨same.orders, same.purchases, same.bills, same.customers,
          same.allocations, same.supplierAllocations, same.fixedAssets,
          same.stock⟩
      paid := by
        intro paid
        have upToDate := paidUp_saved found (txn.fillLinks before) paid
        rw [frame]
        exact ⟨upToDate.orders, upToDate.purchases, upToDate.bills⟩
      transfers := by
        rw [frame]
        exact recomputed.transfers
      cheques := by
        rw [frame]
        exact recomputed.cheques
      creditNotes := by
        rw [frame]
        exact recomputed.creditNotes }

/-- What removing the row of a transaction does, before its companion goes and
its treasury is reversed. -/
structure Dropped (marks : DeletionMarks) (pk : ℕ) (txn : PrintTransaction)
    (before after : Shop) : Prop where
  found : before.transactions.get? pk = some txn
  notLeg : before.isLeg pk = false
  notAsset : before.isAssetPayment txn = false ∨ marks.deletingWithAsset = true
  notCompanion : marks.withParent = true ∨ before.isCompanion pk = false
  notCheque : marks.withCheque = true ∨ before.isChequeTxn pk = false
  transactions : after.transactions = (before.dropTransaction pk).transactions
  transfers : after.transfers = (before.dropTransaction pk).transfers
  cheques : after.cheques = (before.dropTransaction pk).cheques
  creditNotes : after.creditNotes = (before.dropTransaction pk).creditNotes
  treasuries : after.treasuries = before.treasuries
  documents : SameDocuments before after
  paid : PaidUp before → PaidUp after

theorem sum_dropTransaction {shop : Shop} {pk : ℕ} {txn : PrintTransaction}
    (found : shop.transactions.get? pk = some txn)
    {measure : PrintTransaction → ℤ} (ignores : IgnoresCompanion measure) :
    (shop.dropTransaction pk).sum measure = shop.sum measure - measure txn := by
  unfold Shop.sum Shop.dropTransaction
  simp only [Table.total_map]
  rw [← Table.total_erase found fun _ txn => measure txn]
  apply Table.total_congr
  intro other row _
  exact ignores row _

/-- A deletion: the row goes, then its companion, then the effect. -/
inductive Deletion : DeletionMarks → ℕ → Shop → Shop → Prop where
  | alone (dropped : Dropped marks pk txn before middle)
      (single : middle.companion txn = none) :
      Deletion marks pk before (middle.addBalance txn.treasury (-txn.effect))
  | paired (dropped : Dropped marks pk txn before middle)
      (pair : middle.companion txn = some (companion, row))
      (rest : Deletion { withParent := true } companion middle last) :
      Deletion marks pk before (last.addBalance txn.treasury (-txn.effect))

theorem refuseDeletingLinkedLeg_ok {shop before after : Shop}
    {marks : DeletionMarks} {pk : ℕ} {txn : PrintTransaction} {result : PUnit}
    (returned : refuseDeletingLinkedLeg shop marks pk txn before =
      .ok result after) :
    after = before ∧ shop.isLeg pk = false ∧
      (shop.isAssetPayment txn = false ∨ marks.deletingWithAsset = true) ∧
      (marks.withParent = true ∨ shop.isCompanion pk = false) ∧
      (marks.withCheque = true ∨ shop.isChequeTxn pk = false) := by
  simp only [refuseDeletingLinkedLeg, Txn.bind_eq_ok,
    Txn.require_eq_ok] at returned
  obtain ⟨_, _, ⟨leg, rfl⟩, _, _, ⟨asset, rfl⟩, _, _, ⟨companion, rfl⟩,
    cheque, rfl⟩ := returned
  exact ⟨rfl, leg, asset, companion, cheque⟩

private theorem paidUp_dropped {shop : Shop} {pk : ℕ} {txn : PrintTransaction}
    (found : shop.transactions.get? pk = some txn) (paid : PaidUp shop) :
    PaidUp ((shop.dropTransaction pk).recomputeLinks txn) := by
  apply PaidUpBut.recomputeLinks
  have change := paid.change [txn] (shop.dropTransaction pk) rfl rfl rfl rfl
    rfl (by
      intro measure ignores vanish
      rw [sum_dropTransaction found ignores, vanish txn List.mem_cons_self,
        sub_zero])
  simpa using change

theorem deleteWithin_ok {depth : ℕ} {marks : DeletionMarks} {pk : ℕ}
    {before after : Shop} {result : PUnit}
    (returned : deleteWithin depth marks pk before = .ok result after) :
    Deletion marks pk before after := by
  induction depth generalizing marks pk before after result with
  | zero => exact (Txn.throw_eq_ok returned).elim
  | succ depth induction =>
      rw [deleteWithin, Txn.atomic_eq_ok, Txn.get_bind] at returned
      simp only [Txn.bind_eq_ok, Txn.expect_eq_ok, Txn.modify_eq_ok] at returned
      obtain ⟨txn, _, ⟨found, rfl⟩, _, middle, allowed, _, _, rfl, _, last,
        chained, rfl⟩ := returned
      obtain ⟨rfl, leg, asset, companion, cheque⟩ :=
        refuseDeletingLinkedLeg_ok allowed
      have recomputed := recomputed_links (middle.dropTransaction pk) txn
      have same := recomputed.documents
      have dropped : Dropped marks pk txn middle
          ((middle.dropTransaction pk).recomputeLinks txn) :=
        { found
          notLeg := leg
          notAsset := asset
          notCompanion := companion
          notCheque := cheque
          transactions := recomputed.transactions
          transfers := recomputed.transfers
          cheques := recomputed.cheques
          creditNotes := recomputed.creditNotes
          treasuries := recomputed.treasuries
          documents := ⟨same.orders, same.purchases, same.bills,
            same.customers, same.allocations, same.supplierAllocations,
            same.fixedAssets, same.stock⟩
          paid := paidUp_dropped found }
      rw [deleteCompanion, Txn.get_bind] at chained
      cases pair : ((middle.dropTransaction pk).recomputeLinks txn).companion
          txn with
      | none =>
          rw [pair] at chained
          obtain ⟨-, rfl⟩ := Txn.pure_eq_ok.mp chained
          exact .alone dropped pair
      | some linked =>
          obtain ⟨key, row⟩ := linked
          rw [pair] at chained
          exact .paired dropped pair (induction chained)

theorem deleteTransaction_ok {marks : DeletionMarks} {pk : ℕ}
    {before after : Shop} {result : PUnit}
    (returned : deleteTransaction marks pk before = .ok result after) :
    Deletion marks pk before after := by
  rw [deleteTransaction, Txn.get_bind] at returned
  exact deleteWithin_ok returned

/-- What `systemWallet` does. -/
structure Walleted (wallet : SystemWallet) (pk : ℕ) (before after : Shop) :
    Prop where
  first : after.firstOfKind (.system wallet) = some pk
  treasuries : after.treasuries = before.treasuries ∧
      before.firstOfKind (.system wallet) = some pk ∨
    after.treasuries = before.treasuries.insert
        { name := SYSTEM_WALLET_NAMES wallet, kind := .system wallet } ∧
      before.firstOfKind (.system wallet) = none ∧
      pk = before.treasuries.next
  rest : after = { before with treasuries := after.treasuries }

theorem firstOfKind_insert {shop : Shop} {kind : TreasuryKind}
    (missing : shop.firstOfKind kind = none) {added : PrintTreasury}
    (same : added.kind = kind) :
    ({ shop with treasuries := shop.treasuries.insert added } :
      Shop).firstOfKind kind = some shop.treasuries.next := by
  have absent : (shop.treasuries.rows.find? fun row => row.2.kind = kind) =
      none := by simpa [Shop.firstOfKind] using missing
  simp [Shop.firstOfKind, Table.insert, List.find?_append, absent, same]

theorem systemWallet_ok {wallet : SystemWallet} {pk : ℕ} {before after : Shop}
    (returned : systemWallet wallet before = .ok pk after) :
    Walleted wallet pk before after := by
  rw [systemWallet, Txn.get_bind] at returned
  cases first : before.firstOfKind (.system wallet) with
  | some stored =>
      rw [first] at returned
      obtain ⟨rfl, rfl⟩ := Txn.pure_eq_ok.mp returned
      exact ⟨first, .inl ⟨rfl, first⟩, rfl⟩
  | none =>
      rw [first] at returned
      simp only [Txn.bind_eq_ok, Txn.set_eq_ok, Txn.pure_eq_ok] at returned
      obtain ⟨_, _, rfl, rfl, rfl⟩ := returned
      exact ⟨firstOfKind_insert first rfl, .inr ⟨rfl, first, rfl⟩, rfl⟩

/-- A save: the row is stored, then its withholding follows in one of four
ways. -/
inductive Saving : Option ℕ → PrintTransaction → ℕ → Shop → Shop → Prop where
  | plain (stored : Stored pk txn key row before after)
      (free : row.withholdingTax ≤ 0) (single : after.companion row = none) :
      Saving pk txn key before after
  | dropped (stored : Stored pk txn key row before middle)
      (free : row.withholdingTax ≤ 0)
      (pair : middle.companion row = some (companion, old))
      (rest : Deletion { withParent := true } companion
        (middle.linkCompanion key none) after) :
      Saving pk txn key before after
  | raised (stored : Stored pk txn key row before middle)
      (taxed : 0 < row.withholdingTax) (single : middle.companion row = none)
      (walleted : Walleted (withholdingWallet row.transactionType) wallet
        middle second)
      (rest : Saving none (companionValues key row wallet
        { treasury := wallet, transactionType := row.transactionType,
          amount := 0 }) companion second last) :
      Saving pk txn key before (last.linkCompanion key (some companion))
  | followed (stored : Stored pk txn key row before middle)
      (taxed : 0 < row.withholdingTax)
      (pair : middle.companion row = some (companion, old))
      (walleted : Walleted (withholdingWallet row.transactionType) wallet
        middle second)
      (rest : Saving (some companion) (companionValues key row wallet old)
        same second after) :
      Saving pk txn key before after

theorem saveWithin_ok {depth : ℕ} {pk : Option ℕ} {txn : PrintTransaction}
    {key : ℕ} {before after : Shop}
    (returned : saveWithin depth pk txn before = .ok key after) :
    Saving pk txn key before after := by
  induction depth generalizing pk txn key before after with
  | zero => exact (Txn.throw_eq_ok returned).elim
  | succ depth induction =>
      simp only [saveWithin, Txn.atomic_eq_ok, Txn.bind_eq_ok,
        Txn.pure_eq_ok] at returned
      obtain ⟨⟨_, row⟩, middle, storing, _, _, synced, rfl, rfl⟩ := returned
      have stored := storeTransaction_ok storing
      rw [syncWithholding, Txn.get_bind] at synced
      split at synced
      · rename_i free
        cases pair : middle.companion row with
        | none =>
            rw [pair] at synced
            obtain ⟨-, rfl⟩ := Txn.pure_eq_ok.mp synced
            exact .plain stored free pair
        | some linked =>
            obtain ⟨companion, old⟩ := linked
            rw [pair] at synced
            simp only [dropWithholding, Txn.bind_eq_ok,
              Txn.modify_eq_ok] at synced
            obtain ⟨_, _, rfl, deleted⟩ := synced
            exact .dropped stored free pair (deleteWithin_ok deleted)
      · rename_i taxed
        rw [Txn.bind_eq_ok] at synced
        obtain ⟨wallet, second, made, synced⟩ := synced
        have walleted := systemWallet_ok made
        cases pair : middle.companion row with
        | none =>
            rw [pair] at synced
            simp only [raiseWithholding, Txn.bind_eq_ok,
              Txn.modify_eq_ok] at synced
            obtain ⟨companion, last, saved, rfl⟩ := synced
            exact .raised stored (not_le.mp taxed) pair walleted
              (induction saved)
        | some linked =>
            obtain ⟨companion, old⟩ := linked
            rw [pair] at synced
            simp only [raiseWithholding, Txn.bind_eq_ok,
              Txn.pure_eq_ok] at synced
            obtain ⟨_, _, saved, -, rfl⟩ := synced
            exact .followed stored (not_le.mp taxed) pair walleted
              (induction saved)

theorem save_ok {pk : Option ℕ} {txn : PrintTransaction} {key : ℕ}
    {before after : Shop} (returned : save pk txn before = .ok key after) :
    Saving pk txn key before after := by
  rw [save, Txn.get_bind] at returned
  exact saveWithin_ok returned

end Mousstec.Printing
