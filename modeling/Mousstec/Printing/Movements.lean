import Mousstec.Printing.Treasuries

/-!
# What a save and a deletion move

Seen from any sum over the transactions, a save takes the old version and its
companion out and puts the new ones in; a deletion only takes out.  The
balances, the paid amounts and the accounts of the customers all follow from
this one description.
-/

namespace Mousstec.Printing

open Library

/-- Every sum over the transactions loses some rows and gains others. -/
def Swapped (lost gained : List PrintTransaction) (before after : Shop) : Prop :=
  ∀ measure, IgnoresCompanion measure →
    after.sum measure =
      before.sum measure - (lost.map measure).sum + (gained.map measure).sum

def Shop.companionRow (shop : Shop) (txn : PrintTransaction) :
    Option PrintTransaction :=
  txn.withholdingTxn.bind shop.transactions.get?

section Sums

variable {before middle after : Shop} {measure : PrintTransaction → ℤ}

theorem sum_toList (row : Option PrintTransaction) :
    (row.toList.map measure).sum = (row.map measure).getD 0 := by
  cases row <;> simp

theorem Stored.sum {pk : Option ℕ} {txn row : PrintTransaction} {key : ℕ}
    (step : Stored pk txn key row before after)
    (measure : PrintTransaction → ℤ) :
    after.sum measure = before.sum measure + measure row -
      ((before.oldRow pk).map measure).getD 0 := by
  rw [sum_congr_transactions step.transactions]
  exact sum_putTransaction step.found row measure

theorem Dropped.sum {marks : DeletionMarks} {pk : ℕ} {txn : PrintTransaction}
    (step : Dropped marks pk txn before after)
    (ignores : IgnoresCompanion measure) :
    after.sum measure = before.sum measure - measure txn := by
  rw [sum_congr_transactions step.transactions]
  exact sum_dropTransaction step.found ignores

theorem sum_linkCompanion (shop : Shop) (pk : ℕ) (companion : Option ℕ)
    (ignores : IgnoresCompanion measure) :
    (shop.linkCompanion pk companion).sum measure = shop.sum measure := by
  unfold Shop.sum Shop.linkCompanion Table.modify
  rw [Table.total_map]
  apply Table.total_congr
  intro key txn _
  split
  · exact ignores txn companion
  · rfl

theorem sum_addBalance (shop : Shop) (treasury : ℕ) (amount : ℤ)
    (measure : PrintTransaction → ℤ) :
    (shop.addBalance treasury amount).sum measure = shop.sum measure :=
  rfl

theorem Walleted.sum {wallet : SystemWallet} {pk : ℕ}
    (step : Walleted wallet pk before after)
    (measure : PrintTransaction → ℤ) :
    after.sum measure = before.sum measure := by
  apply sum_congr_transactions
  rw [step.rest]

theorem Deletion.sum_unlinked {marks : DeletionMarks} {pk : ℕ}
    (deleted : Deletion marks pk before after) {txn : PrintTransaction}
    (found : before.transactions.get? pk = some txn)
    (unlinked : txn.withholdingTxn = none)
    (ignores : IgnoresCompanion measure) :
    after.sum measure = before.sum measure - measure txn := by
  cases deleted with
  | alone dropped single =>
      rw [dropped.found, Option.some.injEq] at found
      subst found
      exact dropped.sum ignores
  | paired dropped pair rest =>
      rw [dropped.found, Option.some.injEq] at found
      subst found
      rw [Shop.companion, unlinked] at pair
      cases pair

end Sums

section Swaps

variable {before after : Shop}

theorem Dropped.companionRow {marks : DeletionMarks} {pk : ℕ}
    {txn : PrintTransaction} (step : Dropped marks pk txn before after)
    (paired : before.IsPaired)
    (independent : ∀ other row, before.transactions.get? other = some row →
      row.withholdingTxn ≠ some pk) :
    after.companionRow txn = before.companionRow txn := by
  unfold Shop.companionRow
  cases link : txn.withholdingTxn with
  | none => rfl
  | some companion =>
      obtain ⟨row, stored, -, unlinked⟩ := paired.companion step.found link
      have different : companion ≠ pk := by
        rintro rfl
        exact independent companion txn step.found link
      simp only [Option.bind_some]
      rw [step.transactions, get?_dropTransaction, if_neg different, stored]
      have kept : clearLink pk row.withholdingTxn = row.withholdingTxn := by
        rw [unlinked]
        rfl
      rw [Option.map_some, kept]

theorem companion_eq (shop : Shop) (txn : PrintTransaction) :
    (shop.companion txn).map Prod.snd = shop.companionRow txn := by
  unfold Shop.companion Shop.companionRow
  cases txn.withholdingTxn with
  | none => rfl
  | some companion => cases stored : shop.transactions.get? companion <;> simp

theorem Deletion.swapped {marks : DeletionMarks} {pk : ℕ}
    (deleted : Deletion marks pk before after) (paired : before.IsPaired)
    (independent : ∀ other row, before.transactions.get? other = some row →
      row.withholdingTxn ≠ some pk) :
    ∃ txn, before.transactions.get? pk = some txn ∧
      Swapped (txn :: (before.companionRow txn).toList) [] before after := by
  cases deleted with
  | alone dropped single =>
      refine ⟨_, dropped.found, ?_⟩
      intro measure ignores
      rw [← dropped.companionRow paired independent, ← companion_eq, single]
      have change := dropped.sum ignores
      simpa [sum_addBalance] using change
  | @paired _ _ txn _ middle companion row last dropped pair rest =>
      have same := dropped.companionRow paired independent
      rw [← companion_eq, pair] at same
      obtain ⟨linked, link, lookup⟩ := Option.bind_eq_some_iff.mp pair
      obtain ⟨found, stored, equal⟩ := Option.map_eq_some_iff.mp lookup
      obtain ⟨rfl, rfl⟩ := Prod.mk.inj equal
      obtain ⟨follower, present, -, unlinked⟩ :=
        paired.companion dropped.found link
      have follows : found = follower := by
        rw [Shop.companionRow, link, Option.bind_some, present] at same
        exact Option.some.inj same
      subst follows
      refine ⟨txn, dropped.found, ?_⟩
      intro measure ignores
      have first := dropped.sum ignores
      have second := rest.sum_unlinked stored unlinked ignores
      rw [← same]
      simp only [Option.map_some, Option.toList_some, List.map_cons,
        List.map_nil, List.sum_cons, List.sum_nil, add_zero]
      rw [sum_addBalance, second, first]
      ring

/-- The row withholds the tax of a transaction, with its links. -/
structure Follows (wallets : SystemWallet → Option ℕ)
    (txn row : PrintTransaction) : Prop extends Withholds wallets txn row where
  order : row.order = txn.order
  customer : row.customer = txn.customer
  purchase : row.purchase = txn.purchase
  bill : row.bill = txn.bill
  supplier : row.supplier = txn.supplier

def Followed (wallets : SystemWallet → Option ℕ) (txn : PrintTransaction)
    (rows : List PrintTransaction) : Prop :=
  if txn.withholdingTax ≤ 0 then rows = []
  else ∃ row, rows = [row] ∧ Follows wallets txn row

theorem followed_nil {wallets : SystemWallet → Option ℕ}
    {txn : PrintTransaction} (free : txn.withholdingTax ≤ 0) :
    Followed wallets txn [] := by
  rw [Followed, if_pos free]

theorem followed_one {wallets : SystemWallet → Option ℕ}
    {txn row : PrintTransaction} (taxed : 0 < txn.withholdingTax)
    (follows : Follows wallets txn row) : Followed wallets txn [row] := by
  rw [Followed, if_neg (not_le.mpr taxed)]
  exact ⟨row, rfl, follows⟩

section Links

theorem get?_eq_of_map {α β : Type} {before after : Table α} {view : α → β}
    (same : (after.map fun _ => view) = before.map fun _ => view) (key : ℕ) :
    (after.get? key).map view = (before.get? key).map view := by
  have lookup := congrArg (fun table => table.get? key) same
  simpa only [Table.get?_map] using lookup

theorem SameDocuments.linkedCustomer {before after : Shop}
    (same : SameDocuments before after) (txn : PrintTransaction) :
    txn.linkedCustomer after = txn.linkedCustomer before := by
  unfold PrintTransaction.linkedCustomer
  cases txn.order with
  | none => rfl
  | some order =>
      have lookup := congrArg (Option.map PrintOrder.customer)
        (get?_eq_of_map same.orders order)
      rw [Option.map_map, Option.map_map] at lookup
      exact lookup

theorem SameDocuments.linkedSupplier {before after : Shop}
    (same : SameDocuments before after) (txn : PrintTransaction) :
    txn.linkedSupplier after = txn.linkedSupplier before := by
  unfold PrintTransaction.linkedSupplier
  cases txn.bill with
  | some bill =>
      have lookup := congrArg (Option.map PrintExpenseBill.supplier)
        (get?_eq_of_map same.bills bill)
      rw [Option.map_map, Option.map_map] at lookup
      exact lookup
  | none =>
      cases txn.purchase with
      | none => rfl
      | some purchase =>
          have lookup := congrArg (Option.map MaterialPurchase.supplier)
            (get?_eq_of_map same.purchases purchase)
          rw [Option.map_map, Option.map_map] at lookup
          exact lookup

theorem companion_links {before middle : Shop} {txn row : PrintTransaction}
    (filled : row = txn.fillLinks before) (same : SameDocuments before middle)
    (key wallet : ℕ) (companion : PrintTransaction) :
    ((companionValues key row wallet companion).fillLinks middle).customer =
        row.customer ∧
      ((companionValues key row wallet companion).fillLinks middle).supplier =
        row.supplier := by
  subst filled
  constructor
  · change (companionValues key _ wallet companion).linkedCustomer middle = _
    rw [same.linkedCustomer]
    change _ = txn.linkedCustomer before
    unfold PrintTransaction.linkedCustomer companionValues
      PrintTransaction.fillLinks PrintTransaction.linkedCustomer
    cases txn.order <;> simp
  · change (companionValues key _ wallet companion).linkedSupplier middle = _
    rw [same.linkedSupplier]
    change _ = txn.linkedSupplier before
    unfold PrintTransaction.linkedSupplier companionValues
      PrintTransaction.fillLinks PrintTransaction.linkedSupplier
    cases bill : txn.bill with
    | some bill => simp
    | none => cases txn.purchase <;> simp

theorem follows_values {before middle : Shop} {txn row : PrintTransaction}
    (filled : row = txn.fillLinks before) (same : SameDocuments before middle)
    {wallets : SystemWallet → Option ℕ} {wallet : ℕ}
    (first : wallets (withholdingWallet row.transactionType) = some wallet)
    (key : ℕ) (companion : PrintTransaction)
    (free : companion.withholdingTax ≤ 0) :
    Follows wallets row
      ((companionValues key row wallet companion).fillLinks middle) where
  amount := rfl
  type := rfl
  wallet := first
  free := free
  order := rfl
  customer := (companion_links filled same key wallet companion).1
  purchase := rfl
  bill := rfl
  supplier := (companion_links filled same key wallet companion).2

end Links

theorem Walleted.documents {wallet : SystemWallet} {pk : ℕ}
    (step : Walleted wallet pk before after) : SameDocuments before after := by
  rw [step.rest]
  exact ⟨rfl, rfl, rfl, rfl, rfl, rfl, rfl, rfl⟩

/-- A save takes out the old version and its companion and puts in the new
one and its companion. -/
theorem Saving.swapped {pk : Option ℕ} {txn : PrintTransaction} {key : ℕ}
    (saved : Saving pk txn key before after) (paired : before.IsPaired)
    (keeps : KeepsLink before pk txn)
    (independent : ∀ other row, before.transactions.get? other = some row →
      row.withholdingTxn ≠ some (pk.getD before.transactions.next)) :
    ∃ gained, Followed after.wallets (txn.fillLinks before) gained ∧
      Swapped ((before.oldRow pk).toList ++
          ((before.oldRow pk).bind before.companionRow).toList)
        (txn.fillLinks before :: gained) before after := by
  have linked : ((before.oldRow pk).bind before.companionRow) =
      before.companionRow (txn.fillLinks before) := by
    unfold Shop.companionRow
    change _ = txn.withholdingTxn.bind _
    rw [keeps, Option.bind_assoc]
  have lone : ∀ {row middle}, Stored pk txn key row before middle →
      middle.companion row = none → row = txn.fillLinks before →
      before.companionRow row = none := by
    intro row middle stored single filled
    rw [← stored.key_eq] at independent
    have unlinked := stored.unlinked paired keeps independent single
    rw [Shop.companionRow, unlinked]
    rfl
  cases saved with
  | @plain _ _ _ row _ _ stored free single =>
      have filled := stored.row_eq
      rw [linked, ← filled, lone stored single filled]
      refine ⟨[], followed_nil free, ?_⟩
      intro measure ignores
      have change := stored.sum measure
      rw [← sum_toList] at change
      simp only [Option.toList_none, List.append_nil, List.map_cons,
        List.map_nil, List.sum_cons, List.sum_nil]
      rw [change]
      ring
  | @dropped _ _ _ row _ middle companion old _ stored free pair rest =>
      have filled := stored.row_eq
      rw [← stored.key_eq] at independent
      obtain ⟨other, link, lookup⟩ := Option.bind_eq_some_iff.mp pair
      obtain ⟨found, present, same⟩ := Option.map_eq_some_iff.mp lookup
      obtain ⟨rfl, rfl⟩ := Prod.mk.inj same
      obtain ⟨different, ⟨follower, before', -, unlinked⟩, -⟩ :=
        stored.companion_rows paired keeps independent link
      have same : found = follower := by
        rw [stored.rows, if_neg different, before', Option.some.injEq] at present
        exact present.symm
      subst same
      have former : before.companionRow row = some found := by
        rw [Shop.companionRow, link, Option.bind_some, before']
      have present' : (middle.linkCompanion key none).transactions.get? other =
          some found := by
        rw [get?_linkCompanion, if_neg different, present]
      rw [linked, ← filled, former]
      refine ⟨[], followed_nil free, ?_⟩
      intro measure ignores
      have first := stored.sum measure
      have second := rest.sum_unlinked present' unlinked ignores
      rw [sum_linkCompanion _ _ _ ignores] at second
      rw [← sum_toList] at first
      simp only [Option.toList_some, List.map_append, List.sum_append,
        List.map_cons, List.map_nil, List.sum_cons, List.sum_nil]
      rw [second, first]
      ring
  | @raised _ _ _ row _ middle wallet second companion last stored taxed single
      walleted rest =>
      have filled := stored.row_eq
      have follower := rest.unwithheld (le_refl _) rfl
      have first : last.wallets (withholdingWallet row.transactionType) =
          some wallet := follower.wallets walleted.first
      rw [linked, ← filled, lone stored single filled]
      have follows := follows_values filled
        (stored.documents.trans walleted.documents) first key
        { treasury := wallet, transactionType := row.transactionType,
          amount := 0 } (le_refl _)
      refine ⟨_, followed_one taxed follows, ?_⟩
      intro measure ignores
      have change := stored.sum measure
      have added := follower.sum measure
      rw [← sum_toList, walleted.sum] at added
      rw [← sum_toList] at change
      rw [sum_linkCompanion _ _ _ ignores, added, change]
      simp only [Shop.oldRow, Option.bind_none, Option.toList_none,
        List.append_nil, List.map_cons, List.map_nil, List.sum_cons,
        List.sum_nil]
      ring
  | @followed _ _ _ row _ middle companion old wallet second _ _ stored taxed
      pair walleted rest =>
      have filled := stored.row_eq
      rw [← stored.key_eq] at independent
      obtain ⟨other, link, lookup⟩ := Option.bind_eq_some_iff.mp pair
      obtain ⟨found, present, same⟩ := Option.map_eq_some_iff.mp lookup
      obtain ⟨rfl, rfl⟩ := Prod.mk.inj same
      obtain ⟨different, ⟨former, before', free, unlinked⟩, -⟩ :=
        stored.companion_rows paired keeps independent link
      have same : found = former := by
        rw [stored.rows, if_neg different, before', Option.some.injEq] at present
        exact present.symm
      subst same
      have follower := rest.unwithheld free unlinked
      have first : after.wallets (withholdingWallet row.transactionType) =
          some wallet := follower.wallets walleted.first
      have former : before.companionRow row = some found := by
        rw [Shop.companionRow, link, Option.bind_some, before']
      have held : second.oldRow (some other) = some found := by
        rw [walleted.rest]
        exact present
      rw [linked, ← filled, former]
      refine ⟨_, followed_one taxed (follows_values filled
        (stored.documents.trans walleted.documents) first key _ free), ?_⟩
      intro measure ignores
      have change := stored.sum measure
      have moved := follower.sum measure
      rw [← sum_toList, walleted.sum, held] at moved
      rw [← sum_toList] at change
      rw [moved, change]
      simp only [Option.toList_some, List.map_append, List.sum_append,
        List.map_cons, List.map_nil, List.sum_cons, List.sum_nil]
      ring

end Swaps

end Mousstec.Printing
