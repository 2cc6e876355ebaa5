import Mousstec.Printing.TransactionFacts

/-!
# Treasuries follow their transactions

The balance of a treasury is maintained step by step, on saves, deletions and
the companions they create and remove.  It is nevertheless always the opening
balance plus what the stored transactions have moved, and withheld tax always
has exactly one companion.
-/

namespace Mousstec.Printing

open Library

/-- Every treasury holds its opening balance and what the stored transactions
moved; every transaction is on a stored treasury. -/
structure Balanced (opening : ℕ → ℤ) (shop : Shop) : Prop where
  balance : ∀ treasury stored, shop.treasuries.get? treasury = some stored →
    stored.balance = opening treasury + shop.moved treasury
  unopened : ∀ treasury, shop.treasuries.next ≤ treasury →
    opening treasury = 0
  held : ∀ pk txn, shop.transactions.get? pk = some txn →
    ∃ stored, shop.treasuries.get? txn.treasury = some stored

theorem ignoresCompanion_effectOn (treasury : ℕ) :
    IgnoresCompanion fun txn => txn.effectOn treasury :=
  fun _ _ => rfl

theorem get?_putTransaction {shop : Shop} {pk : Option ℕ}
    (found : ∀ other, pk = some other → ∃ old, shop.oldRow pk = some old)
    (row : PrintTransaction) (key : ℕ) :
    (shop.putTransaction pk row).transactions.get? key =
      if key = pk.getD shop.transactions.next then some row
      else shop.transactions.get? key := by
  cases pk with
  | none => exact Table.get?_insert _ _ _
  | some stored =>
      obtain ⟨old, present⟩ := found stored rfl
      have lookup : shop.transactions.get? stored = some old := present
      unfold Shop.putTransaction
      simp only [Option.getD_some]
      rw [Table.get?_modify, lookup]
      rfl

theorem get?_dropTransaction (shop : Shop) (pk key : ℕ) :
    (shop.dropTransaction pk).transactions.get? key =
      if key = pk then none
      else (shop.transactions.get? key).map fun txn =>
        { txn with withholdingTxn := clearLink pk txn.withholdingTxn } := by
  unfold Shop.dropTransaction
  simp only [Table.get?_map, Table.get?_erase]
  split <;> simp_all

theorem get?_linkCompanion (shop : Shop) (pk : ℕ) (companion : Option ℕ)
    (key : ℕ) :
    (shop.linkCompanion pk companion).transactions.get? key =
      if key = pk then
        (shop.transactions.get? pk).map fun txn =>
          { txn with withholdingTxn := companion }
      else shop.transactions.get? key :=
  Table.get?_modify _ _ _ _

theorem sum_congr_transactions {left right : Shop}
    (same : left.transactions = right.transactions)
    (measure : PrintTransaction → ℤ) : left.sum measure = right.sum measure := by
  unfold Shop.sum
  rw [same]

theorem moved_congr {left right : Shop}
    (same : left.transactions = right.transactions) (treasury : ℕ) :
    left.moved treasury = right.moved treasury :=
  sum_congr_transactions same _

theorem moved_addBalance (shop : Shop) (treasury : ℕ) (amount : ℤ) (other : ℕ) :
    (shop.addBalance treasury amount).moved other = shop.moved other :=
  rfl

theorem moved_linkCompanion (shop : Shop) (pk : ℕ) (companion : Option ℕ)
    (treasury : ℕ) :
    (shop.linkCompanion pk companion).moved treasury = shop.moved treasury := by
  unfold Shop.moved Shop.sum Shop.linkCompanion Table.modify
  simp only [Table.total_map]
  apply Table.total_congr
  intro key txn _
  split <;> rfl

namespace Balanced

variable {opening : ℕ → ℤ} {before after : Shop}

theorem stored {pk : Option ℕ} {txn row : PrintTransaction} {key : ℕ}
    (step : Stored pk txn key row before after)
    (balanced : Balanced opening before) : Balanced opening after where
  balance treasury stored found := by
    rw [step.treasuries, Option.map_eq_some_iff] at found
    obtain ⟨old, present, rfl⟩ := found
    have sums : after.moved treasury = before.moved treasury +
        row.effectOn treasury - oldEffectOn (before.oldRow pk) treasury := by
      rw [moved_congr step.transactions]
      exact sum_putTransaction step.found row _
    simp only
    rw [balanced.balance treasury old present, sums]
    ring
  unopened treasury fresh := by
    rw [step.nextTreasury] at fresh
    exact balanced.unopened treasury fresh
  held other stored found := by
    have kept : ∀ treasury, (∃ held, before.treasuries.get? treasury =
        some held) → ∃ held, after.treasuries.get? treasury = some held := by
      rintro treasury ⟨held, present⟩
      exact ⟨_, by rw [step.treasuries, present]; rfl⟩
    apply kept
    rw [step.transactions, get?_putTransaction step.found] at found
    split at found
    · cases found
      rcases step.covered with unchanged | covered
      · obtain ⟨old, present, same⟩ := Option.map_eq_some_iff.mp unchanged
        simp only [PrintTransaction.movement, Prod.mk.injEq] at same
        obtain ⟨key, rfl, lookup⟩ := Option.bind_eq_some_iff.mp present
        rw [← same.1]
        exact balanced.held key old lookup
      · obtain ⟨held, present, _⟩ := covered.held
        exact ⟨held, present⟩
    · exact balanced.held other stored found

theorem dropped {marks : DeletionMarks} {pk : ℕ} {txn : PrintTransaction}
    (step : Dropped marks pk txn before after)
    (balanced : Balanced opening before) :
    Balanced (fun treasury => opening treasury + txn.effectOn treasury)
      after where
  balance treasury stored found := by
    rw [step.treasuries] at found
    rw [balanced.balance treasury stored found,
      moved_congr step.transactions]
    have sums : (before.dropTransaction pk).moved treasury =
        before.moved treasury - txn.effectOn treasury :=
      sum_dropTransaction step.found (ignoresCompanion_effectOn treasury)
    rw [sums]
    ring
  unopened treasury fresh := by
    rw [step.treasuries] at fresh
    obtain ⟨held, present⟩ := balanced.held pk txn step.found
    have used := Table.get?_lt present
    rw [balanced.unopened treasury fresh, PrintTransaction.effectOn,
      if_neg (by omega), add_zero]
  held other stored found := by
    rw [step.transactions, get?_dropTransaction] at found
    split at found
    · cases found
    · obtain ⟨old, present, rfl⟩ := Option.map_eq_some_iff.mp found
      rw [step.treasuries]
      exact balanced.held other old present

theorem settled {txn : PrintTransaction}
    (balanced : Balanced
      (fun treasury => opening treasury + txn.effectOn treasury) before)
    (unopened : ∀ treasury, before.treasuries.next ≤ treasury →
      opening treasury = 0) :
    Balanced opening (before.addBalance txn.treasury (-txn.effect)) where
  balance treasury stored found := by
    rw [get?_addBalance, Option.map_eq_some_iff] at found
    obtain ⟨old, present, rfl⟩ := found
    simp only
    rw [balanced.balance treasury old present,
      moved_addBalance,
      PrintTransaction.effectOn]
    split <;> ring
  unopened := unopened
  held other stored found := by
    obtain ⟨held, present⟩ := balanced.held other stored found
    exact ⟨_, by rw [get?_addBalance, present]; rfl⟩

end Balanced

theorem Deletion.nextTreasury {marks : DeletionMarks} {pk : ℕ}
    {before after : Shop} (deleted : Deletion marks pk before after) :
    after.treasuries.next = before.treasuries.next := by
  induction deleted with
  | alone dropped single =>
      change (Table.modify _ _ _).next = _
      rw [Table.modify_next, dropped.treasuries]
  | paired dropped pair rest induction =>
      change (Table.modify _ _ _).next = _
      rw [Table.modify_next, induction, dropped.treasuries]

theorem Deletion.balanced {marks : DeletionMarks} {pk : ℕ}
    {before after : Shop} (deleted : Deletion marks pk before after) :
    ∀ {opening : ℕ → ℤ}, Balanced opening before → Balanced opening after := by
  induction deleted with
  | alone dropped single =>
      intro opening balanced
      refine (balanced.dropped dropped).settled ?_
      rw [dropped.treasuries]
      exact balanced.unopened
  | paired dropped pair rest induction =>
      intro opening balanced
      refine (induction (balanced.dropped dropped)).settled ?_
      rw [rest.nextTreasury, dropped.treasuries]
      exact balanced.unopened

theorem Balanced.linkCompanion {opening : ℕ → ℤ} {shop : Shop}
    (balanced : Balanced opening shop) (pk : ℕ) (companion : Option ℕ) :
    Balanced opening (shop.linkCompanion pk companion) where
  balance treasury stored found := by
    rw [moved_linkCompanion]
    exact balanced.balance treasury stored found
  unopened := balanced.unopened
  held other stored found := by
    rw [get?_linkCompanion] at found
    split at found
    · obtain ⟨old, present, rfl⟩ := Option.map_eq_some_iff.mp found
      exact balanced.held pk old present
    · exact balanced.held other stored found

theorem Balanced.walleted {opening : ℕ → ℤ} {wallet : SystemWallet} {pk : ℕ}
    {before after : Shop} (step : Walleted wallet pk before after)
    (balanced : Balanced opening before) : Balanced opening after := by
  have transactions : after.transactions = before.transactions := by
    rw [step.rest]
  rcases step.treasuries with ⟨same, -⟩ | ⟨added, -, -⟩
  · have equal : after = before := by rw [step.rest, same]
    exact equal ▸ balanced
  · constructor
    · intro treasury stored found
      rw [moved_congr transactions]
      rw [added, Table.get?_insert] at found
      split at found
      · rename_i new
        cases found
        subst new
        have untouched : before.moved before.treasuries.next = 0 := by
          unfold Shop.moved Shop.sum
          apply Table.total_eq_zero
          intro key txn present
          obtain ⟨held, known⟩ := balanced.held key txn present
          have used := Table.get?_lt known
          exact if_neg (by omega)
        rw [balanced.unopened _ (Nat.le_refl _), untouched]
        rfl
      · exact balanced.balance treasury stored found
    · intro treasury fresh
      rw [added, Table.insert_next] at fresh
      exact balanced.unopened treasury (by omega)
    · intro key txn present
      rw [transactions] at present
      obtain ⟨held, known⟩ := balanced.held key txn present
      exact ⟨held, by rw [added, Table.get?_insert_of_some known]⟩

theorem Saving.balanced {pk : Option ℕ} {txn : PrintTransaction} {key : ℕ}
    {before after : Shop} (saved : Saving pk txn key before after)
    {opening : ℕ → ℤ} (balanced : Balanced opening before) :
    Balanced opening after := by
  induction saved with
  | plain stored free single => exact balanced.stored stored
  | dropped stored free pair rest =>
      exact rest.balanced ((balanced.stored stored).linkCompanion _ _)
  | raised stored taxed single walleted rest induction =>
      exact (induction ((balanced.stored stored).walleted walleted)).linkCompanion
        _ _
  | followed stored taxed pair walleted rest induction =>
      exact induction ((balanced.stored stored).walleted walleted)

def Shop.wallets (shop : Shop) (wallet : SystemWallet) : Option ℕ :=
  shop.firstOfKind (.system wallet)

/-- The row withholds the tax of a transaction: its amount and type, on the
matching wallet. -/
structure Withholds (wallets : SystemWallet → Option ℕ)
    (txn row : PrintTransaction) : Prop where
  amount : row.amount = txn.withholdingTax
  type : row.transactionType = txn.transactionType
  wallet : wallets (withholdingWallet txn.transactionType) = some row.treasury
  free : row.withholdingTax ≤ 0

def Fits (rows : ℕ → Option PrintTransaction)
    (wallets : SystemWallet → Option ℕ) (txn : PrintTransaction) : Prop :=
  if txn.withholdingTax ≤ 0 then txn.withholdingTxn = none
  else ∃ companion row, txn.withholdingTxn = some companion ∧
    rows companion = some row ∧ Withholds wallets txn row

/-- Every transaction has the companion it should have, and no two share one. -/
structure Paired (rows : ℕ → Option PrintTransaction)
    (wallets : SystemWallet → Option ℕ) : Prop where
  fits : ∀ pk txn, rows pk = some txn → Fits rows wallets txn
  single : ∀ first second txn other companion, rows first = some txn →
    rows second = some other → txn.withholdingTxn = some companion →
    other.withholdingTxn = some companion → first = second

/-- A step that writes one transaction and its companion only keeps the others
paired. -/
theorem Paired.update {rows rows' : ℕ → Option PrintTransaction}
    {wallets wallets' : SystemWallet → Option ℕ}
    (paired : Paired rows wallets) (key : ℕ) (companion : Option ℕ)
    (untouched : ∀ other, other ≠ key → companion ≠ some other →
      rows' other = rows other)
    (independent : ∀ other txn, rows other = some txn →
      txn.withholdingTxn ≠ some key)
    (own : ∀ other txn linked, companion = some linked →
      rows other = some txn → txn.withholdingTxn = some linked → other = key)
    (written : ∀ txn, rows' key = some txn → Fits rows' wallets' txn ∧
      ∀ linked, txn.withholdingTxn = some linked → companion = some linked)
    (follower : ∀ linked txn, companion = some linked → linked ≠ key →
      rows' linked = some txn →
      txn.withholdingTax ≤ 0 ∧ txn.withholdingTxn = none)
    (stable : ∀ wallet pk, wallets wallet = some pk → wallets' wallet = some pk) :
    Paired rows' wallets' := by
  have kept : ∀ other txn, rows' other = some txn → other ≠ key →
      companion = some other ∨ rows other = some txn := by
    intro other txn found different
    by_cases follows : companion = some other
    · exact .inl follows
    · rw [untouched other different follows] at found
      exact .inr found
  constructor
  · intro pk txn found
    by_cases same : pk = key
    · subst same
      exact (written txn found).1
    · rcases kept pk txn found same with follows | old
      · obtain ⟨free, none⟩ := follower pk txn follows same found
        rw [Fits, if_pos free]
        exact none
      · have fit := paired.fits pk txn old
        unfold Fits at fit ⊢
        split at fit
        · rename_i free
          rwa [if_pos free]
        · rename_i taxed
          rw [if_neg taxed]
          obtain ⟨linked, row, link, stored, withholds⟩ := fit
          refine ⟨linked, row, link, ?_, ?_⟩
          · rw [untouched linked, stored]
            · rintro rfl
              exact independent pk txn old link
            · intro follows
              exact same (own pk txn linked follows old link)
          · exact ⟨withholds.amount, withholds.type,
              stable _ _ withholds.wallet, withholds.free⟩
  · have toKey : ∀ other txn linked, rows' other = some txn → other ≠ key →
        txn.withholdingTxn = some linked → companion ≠ some linked := by
      intro other txn linked found different link follows
      rcases kept other txn found different with follower' | old
      · rw [(follower other txn follower' different found).2] at link
        cases link
      · exact different (own other txn linked follows old link)
    intro first second txn other linked foundFirst foundSecond linkFirst
      linkSecond
    by_cases sameFirst : first = key
    · by_cases sameSecond : second = key
      · rw [sameFirst, sameSecond]
      · subst sameFirst
        have follows := (written txn foundFirst).2 linked linkFirst
        exact absurd follows
          (toKey second other linked foundSecond sameSecond linkSecond)
    · by_cases sameSecond : second = key
      · subst sameSecond
        have follows := (written other foundSecond).2 linked linkSecond
        exact absurd follows
          (toKey first txn linked foundFirst sameFirst linkFirst)
      · rcases kept first txn foundFirst sameFirst with follows | old
        · rw [(follower first txn follows sameFirst foundFirst).2] at linkFirst
          cases linkFirst
        · rcases kept second other foundSecond sameSecond with follows | old'
          · rw [(follower second other follows sameSecond foundSecond).2]
              at linkSecond
            cases linkSecond
          · exact paired.single first second txn other linked old old'
              linkFirst linkSecond

abbrev Shop.IsPaired (shop : Shop) : Prop :=
  Paired shop.transactions.get? shop.wallets

theorem firstOfKind_map (shop : Shop) (kind : TreasuryKind) :
    shop.firstOfKind kind =
      ((shop.treasuries.map fun _ stored => stored.kind).rows.find? fun row =>
        row.2 = kind).map Prod.fst := by
  unfold Shop.firstOfKind Table.map
  simp only [List.find?_map, Option.map_map]
  rfl

theorem firstOfKind_congr {before after : Shop}
    (same : ∀ treasury,
      (after.treasuries.get? treasury).map PrintTreasury.kind =
        (before.treasuries.get? treasury).map PrintTreasury.kind)
    (kind : TreasuryKind) : after.firstOfKind kind = before.firstOfKind kind := by
  rw [firstOfKind_map, firstOfKind_map]
  congr 2
  apply Table.rows_eq_of_get?
  intro treasury
  rw [Table.get?_map, Table.get?_map]
  exact same treasury

theorem Stored.firstOfKind {pk : Option ℕ} {txn row : PrintTransaction}
    {key : ℕ} {before after : Shop} (step : Stored pk txn key row before after)
    (kind : TreasuryKind) : after.firstOfKind kind = before.firstOfKind kind := by
  apply firstOfKind_congr
  intro treasury
  rw [step.treasuries, Option.map_map]
  rfl

theorem Walleted.firstOfKind {wallet : SystemWallet} {pk : ℕ}
    {before after : Shop} (step : Walleted wallet pk before after)
    {kind : TreasuryKind} {first : ℕ}
    (known : before.firstOfKind kind = some first) :
    after.firstOfKind kind = some first := by
  rcases step.treasuries with ⟨same, -⟩ | ⟨added, -, -⟩
  · unfold Shop.firstOfKind at known ⊢
    rwa [same]
  · unfold Shop.firstOfKind at known ⊢
    rw [added]
    obtain ⟨row, located, rfl⟩ := Option.map_eq_some_iff.mp known
    simp [Table.insert, List.find?_append, located]

theorem Deletion.firstOfKind {marks : DeletionMarks} {pk : ℕ}
    {before after : Shop} (deleted : Deletion marks pk before after)
    (kind : TreasuryKind) : after.firstOfKind kind = before.firstOfKind kind := by
  have balances : ∀ (shop : Shop) treasury amount,
      (shop.addBalance treasury amount).firstOfKind kind =
        shop.firstOfKind kind := by
    intro shop treasury amount
    apply firstOfKind_congr
    intro other
    rw [get?_addBalance, Option.map_map]
    rfl
  induction deleted with
  | alone dropped single =>
      rw [balances]
      unfold Shop.firstOfKind
      rw [dropped.treasuries]
  | paired dropped pair rest induction =>
      rw [balances, induction]
      unfold Shop.firstOfKind
      rw [dropped.treasuries]

/-- The save of a row without withholding only stores it. -/
theorem Saving.unwithheld {pk : Option ℕ} {txn : PrintTransaction} {key : ℕ}
    {before after : Shop} (saved : Saving pk txn key before after)
    (free : txn.withholdingTax ≤ 0) (unlinked : txn.withholdingTxn = none) :
    Stored pk txn key (txn.fillLinks before) before after := by
  have alone : ∀ {row : PrintTransaction} (shop : Shop),
      row = txn.fillLinks before → shop.companion row = none := by
    rintro row shop rfl
    unfold Shop.companion PrintTransaction.fillLinks
    rw [unlinked]
    rfl
  cases saved with
  | plain stored _ _ => exact stored.row_eq ▸ stored
  | dropped stored _ pair _ =>
      rw [alone _ stored.row_eq] at pair
      cases pair
  | raised stored taxed _ _ _ =>
      rw [stored.row_eq] at taxed
      exact absurd free (not_le.mpr taxed)
  | followed stored taxed _ _ _ =>
      rw [stored.row_eq] at taxed
      exact absurd free (not_le.mpr taxed)

/-- Deleting a row that has no companion and is none only removes it. -/
theorem Deletion.rows {marks : DeletionMarks} {pk : ℕ} {before after : Shop}
    (deleted : Deletion marks pk before after) {txn : PrintTransaction}
    (found : before.transactions.get? pk = some txn)
    (unlinked : txn.withholdingTxn = none)
    (independent : ∀ other row, before.transactions.get? other = some row →
      row.withholdingTxn ≠ some pk) (key : ℕ) :
    after.transactions.get? key =
      if key = pk then none else before.transactions.get? key := by
  have dropping : ∀ {stored middle}, Dropped marks pk stored before middle →
      middle.transactions.get? key =
        if key = pk then none else before.transactions.get? key := by
    intro stored middle dropped
    rw [dropped.transactions, get?_dropTransaction]
    split
    · rfl
    · cases row : before.transactions.get? key with
      | none => rfl
      | some row' =>
          simp [clearLink, independent key row' row]
  cases deleted with
  | alone dropped single =>
      have removed := dropping dropped
      exact removed
  | paired dropped pair rest =>
      rw [dropped.found, Option.some.injEq] at found
      subst found
      rw [Shop.companion, unlinked] at pair
      cases pair

theorem Paired.companion {rows : ℕ → Option PrintTransaction}
    {wallets : SystemWallet → Option ℕ} (paired : Paired rows wallets)
    {pk companion : ℕ} {txn : PrintTransaction} (found : rows pk = some txn)
    (link : txn.withholdingTxn = some companion) :
    ∃ row, rows companion = some row ∧ row.withholdingTax ≤ 0 ∧
      row.withholdingTxn = none := by
  have fit := paired.fits pk txn found
  unfold Fits at fit
  split at fit
  · rw [link] at fit
    cases fit
  · obtain ⟨linked, row, same, stored, withholds⟩ := fit
    rw [link, Option.some.injEq] at same
    subst same
    have own := paired.fits companion row stored
    rw [Fits, if_pos withholds.free] at own
    exact ⟨row, stored, withholds.free, own⟩

/-- The link of a saved transaction is that of its stored version. -/
def KeepsLink (before : Shop) (pk : Option ℕ) (txn : PrintTransaction) : Prop :=
  txn.withholdingTxn =
    (before.oldRow pk).bind PrintTransaction.withholdingTxn

theorem Stored.rows {pk : Option ℕ} {txn row : PrintTransaction} {key : ℕ}
    {before after : Shop} (step : Stored pk txn key row before after)
    (other : ℕ) :
    after.transactions.get? other =
      if other = key then some row else before.transactions.get? other := by
  rw [step.transactions, get?_putTransaction step.found, ← step.key_eq]

theorem Stored.oldRow_some {pk : Option ℕ} {txn row : PrintTransaction}
    {key : ℕ} {before after : Shop} (step : Stored pk txn key row before after)
    {old : PrintTransaction} (stored : before.oldRow pk = some old) :
    before.transactions.get? key = some old := by
  obtain ⟨other, rfl, lookup⟩ := Option.bind_eq_some_iff.mp stored
  rw [step.key_eq]
  exact lookup

theorem Stored.companion_rows {pk : Option ℕ} {txn row : PrintTransaction}
    {key : ℕ} {before after : Shop} (step : Stored pk txn key row before after)
    (paired : before.IsPaired) (keeps : KeepsLink before pk txn)
    (independent : ∀ other stored, before.transactions.get? other =
      some stored → stored.withholdingTxn ≠ some key)
    {companion : ℕ} (link : row.withholdingTxn = some companion) :
    companion ≠ key ∧
      (∃ follower, before.transactions.get? companion = some follower ∧
        follower.withholdingTax ≤ 0 ∧ follower.withholdingTxn = none) ∧
      ∀ other stored, before.transactions.get? other = some stored →
        stored.withholdingTxn = some companion → other = key := by
  have linked : (before.oldRow pk).bind PrintTransaction.withholdingTxn =
      some companion := by
    rw [← link, step.row_eq]
    exact keeps.symm
  obtain ⟨old, stored, own⟩ := Option.bind_eq_some_iff.mp linked
  have lookup := step.oldRow_some stored
  refine ⟨?_, paired.companion lookup own, ?_⟩
  · rintro rfl
    exact independent companion old lookup own
  · intro other row' found same
    exact paired.single other key row' old companion found lookup same own

theorem Stored.unlinked {pk : Option ℕ} {txn row : PrintTransaction}
    {key : ℕ} {before after : Shop} (step : Stored pk txn key row before after)
    (paired : before.IsPaired) (keeps : KeepsLink before pk txn)
    (independent : ∀ other stored, before.transactions.get? other =
      some stored → stored.withholdingTxn ≠ some key)
    (single : after.companion row = none) : row.withholdingTxn = none := by
  cases link : row.withholdingTxn with
  | none => rfl
  | some companion =>
      obtain ⟨different, ⟨follower, stored, -⟩, -⟩ :=
        step.companion_rows paired keeps independent link
      rw [Shop.companion, link, Option.bind_some, step.rows,
        if_neg different, stored] at single
      cases single

theorem wallets_linkCompanion (shop : Shop) (pk : ℕ) (companion : Option ℕ) :
    (shop.linkCompanion pk companion).wallets = shop.wallets := rfl

theorem Stored.wallets {pk : Option ℕ} {txn row : PrintTransaction} {key : ℕ}
    {before after : Shop} (step : Stored pk txn key row before after)
    {wallet : SystemWallet} {first : ℕ}
    (known : before.wallets wallet = some first) :
    after.wallets wallet = some first :=
  (step.firstOfKind _).trans known

theorem Deletion.isPaired {marks : DeletionMarks} {pk : ℕ} {before after : Shop}
    (deleted : Deletion marks pk before after)
    (paired : before.IsPaired)
    (independent : ∀ other row, before.transactions.get? other = some row →
      row.withholdingTxn ≠ some pk) : after.IsPaired := by
  have stable : ∀ wallet first, before.wallets wallet = some first →
      after.wallets wallet = some first :=
    fun wallet first known => (deleted.firstOfKind _).trans known
  have dropping : ∀ {txn middle}, Dropped marks pk txn before middle →
      ∀ key, middle.transactions.get? key =
        if key = pk then none else before.transactions.get? key := by
    intro txn middle dropped key
    rw [dropped.transactions, get?_dropTransaction]
    split
    · rfl
    · cases row : before.transactions.get? key with
      | none => rfl
      | some row' => simp [clearLink, independent key row' row]
  cases deleted with
  | alone dropped single =>
      have rows := dropping dropped
      refine paired.update pk none ?_ independent ?_ ?_
        ?_ stable
      · intro other different _
        exact (rows other).trans (if_neg different)
      · intro other row linked impossible
        cases impossible
      · intro txn found
        have gone := (rows pk).symm.trans found
        rw [if_pos rfl] at gone
        cases gone
      · intro linked txn impossible
        cases impossible
  | @paired _ _ txn _ middle companion row last dropped pair rest =>
      have rows := dropping dropped
      obtain ⟨linked, link, lookup⟩ := Option.bind_eq_some_iff.mp pair
      obtain ⟨found, stored, same⟩ := Option.map_eq_some_iff.mp lookup
      obtain ⟨rfl, rfl⟩ := Prod.mk.inj same
      obtain ⟨follower, present, -, unlinked⟩ :=
        paired.companion dropped.found link
      have different : linked ≠ pk := by
        rintro rfl
        exact independent linked txn dropped.found link
      have same : found = follower := by
        rw [rows, if_neg different, present, Option.some.injEq] at stored
        exact stored.symm
      subst same
      have own : ∀ other row', before.transactions.get? other = some row' →
          row'.withholdingTxn = some linked → other = pk := by
        intro other row' present' link'
        exact paired.single other pk row' txn linked present' dropped.found
          link' link
      have removed := rest.rows stored unlinked (by
        intro other row' present' link'
        rw [rows] at present'
        split at present'
        · cases present'
        · rename_i other'
          exact other' (own other row' present' link'))
      refine paired.update pk (some linked) ?_
        independent ?_ ?_ ?_ stable
      · intro other notKey notLinked
        have kept := removed other
        rw [if_neg (fun same => notLinked (congrArg some same.symm)), rows,
          if_neg notKey] at kept
        exact kept
      · intro other row' companion same present' link'
        cases same
        exact own other row' present' link'
      · intro txn' found'
        have gone := (removed pk).symm.trans found'
        rw [if_neg (Ne.symm different), rows, if_pos rfl] at gone
        cases gone
      · intro companion txn' same _ found'
        cases same
        have gone := (removed linked).symm.trans found'
        rw [if_pos rfl] at gone
        cases gone

theorem Saving.isPaired {pk : Option ℕ} {txn : PrintTransaction} {key : ℕ}
    {before after : Shop} (saved : Saving pk txn key before after)
    (paired : before.IsPaired) (keeps : KeepsLink before pk txn)
    (independent : ∀ other row, before.transactions.get? other = some row →
      row.withholdingTxn ≠ some (pk.getD before.transactions.next)) :
    after.IsPaired := by
  cases saved with
  | @plain _ _ _ row _ _ stored free single =>
      rw [← stored.key_eq] at independent
      have unlinked := stored.unlinked paired keeps independent single
      refine paired.update key none ?_ independent ?_
        ?_ ?_ fun _ _ known => stored.wallets known
      · intro other different _
        rw [stored.rows, if_neg different]
      · intro other row' linked impossible
        cases impossible
      · intro written found
        rw [stored.rows, if_pos rfl, Option.some.injEq] at found
        subst found
        rw [Fits, if_pos free]
        refine ⟨unlinked, ?_⟩
        intro linked link
        rw [unlinked] at link
        cases link
      · intro linked follower impossible
        cases impossible
  | @dropped _ _ _ row _ middle companion old _ stored free pair rest =>
      rw [← stored.key_eq] at independent
      obtain ⟨linked, link, lookup⟩ := Option.bind_eq_some_iff.mp pair
      obtain ⟨found, present, same⟩ := Option.map_eq_some_iff.mp lookup
      obtain ⟨rfl, rfl⟩ := Prod.mk.inj same
      obtain ⟨different, ⟨follower, before', -, unlinked⟩, own⟩ :=
        stored.companion_rows paired keeps independent link
      have same : found = follower := by
        rw [stored.rows, if_neg different, before', Option.some.injEq] at present
        exact present.symm
      subst same
      have rows : ∀ other, (middle.linkCompanion key none).transactions.get?
          other = if other = key then
            some { row with withholdingTxn := none }
          else before.transactions.get? other := by
        intro other
        rw [get?_linkCompanion, stored.rows key, if_pos rfl]
        split
        · rfl
        · rename_i notKey
          rw [stored.rows, if_neg notKey]
      have removed := rest.rows ((rows linked).trans
          ((if_neg different).trans before')) unlinked (by
        intro other row' present' link'
        rw [rows] at present'
        split at present'
        · cases present'
          cases link'
        · rename_i notKey
          exact notKey (own other row' present' link'))
      refine paired.update key (some linked) ?_
        independent ?_ ?_ ?_ ?_
      · intro other notKey notLinked
        rw [removed, if_neg (fun same => notLinked (congrArg some same.symm)),
          rows, if_neg notKey]
      · intro other row' companion same present' link'
        cases same
        exact own other row' present' link'
      · intro written found'
        rw [removed, if_neg (Ne.symm different), rows, if_pos rfl,
          Option.some.injEq] at found'
        subst found'
        rw [Fits, if_pos free]
        exact ⟨rfl, fun _ impossible => by cases impossible⟩
      · intro companion follower same _ found'
        cases same
        rw [removed, if_pos rfl] at found'
        cases found'
      · intro wallet first known
        exact (rest.firstOfKind _).trans (stored.wallets known)
  | @raised _ _ _ row _ middle wallet second companion last stored taxed single
      walleted rest =>
      rw [← stored.key_eq] at independent
      have unlinked := stored.unlinked paired keeps independent single
      have follower := rest.unwithheld (le_refl _) rfl
      have rows : ∀ other, second.transactions.get? other =
          if other = key then some row else before.transactions.get? other := by
        intro other
        rw [walleted.rest]
        exact stored.rows other
      have keyed : key < companion := by
        rw [follower.key_eq]
        exact Table.get?_lt ((rows key).trans (if_pos rfl))
      have fresh : before.transactions.get? companion = none := by
        have unused := rows companion
        rw [if_neg (by omega), follower.key_eq] at unused
        rw [follower.key_eq, ← unused]
        exact Table.get?_next _
      have written : ∀ other,
          (last.linkCompanion key (some companion)).transactions.get? other =
            if other = key then some { row with withholdingTxn := some companion }
            else if other = companion then
              some ((companionValues key row wallet
                { treasury := wallet, transactionType := row.transactionType,
                  amount := 0 }).fillLinks second)
            else before.transactions.get? other := by
        intro other
        have kept : last.transactions.get? key = some row := by
          rw [follower.rows, if_neg (Nat.ne_of_lt keyed), rows, if_pos rfl]
        rw [get?_linkCompanion, kept]
        split
        · rfl
        · rename_i notKey
          rw [follower.rows]
          split
          · rfl
          · rw [rows, if_neg notKey]
      have first : last.wallets (withholdingWallet row.transactionType) =
          some wallet := follower.wallets walleted.first
      rw [← wallets_linkCompanion last key (some companion)] at first
      refine paired.update key (some companion) ?_
        independent ?_ ?_ ?_ ?_
      · intro other notKey notLinked
        rw [written, if_neg notKey,
          if_neg (fun same => notLinked (congrArg some same.symm))]
      · intro other row' linked same present' link'
        cases same
        obtain ⟨_, present, -⟩ := paired.companion present' link'
        rw [fresh] at present
        cases present
      · intro stored' found
        rw [written, if_pos rfl, Option.some.injEq] at found
        subst found
        have lookup := written companion
        rw [if_neg (Nat.ne_of_gt keyed), if_pos rfl] at lookup
        rw [Fits, if_neg (not_le.mpr taxed)]
        exact ⟨⟨companion, _, rfl, lookup, ⟨rfl, rfl, first, le_refl _⟩⟩,
          fun _ link => link⟩
      · intro linked follower' same notKey found
        cases same
        rw [written, if_neg notKey, if_pos rfl, Option.some.injEq] at found
        subst found
        exact ⟨le_refl _, rfl⟩
      · intro other first' known
        exact follower.wallets (walleted.firstOfKind (stored.wallets known))
  | @followed _ _ _ row _ middle companion old wallet second _ _ stored taxed
      pair walleted rest =>
      rw [← stored.key_eq] at independent
      obtain ⟨linked, link, lookup⟩ := Option.bind_eq_some_iff.mp pair
      obtain ⟨found, present, same⟩ := Option.map_eq_some_iff.mp lookup
      obtain ⟨rfl, rfl⟩ := Prod.mk.inj same
      obtain ⟨different, ⟨follower, before', free, unlinked⟩, own⟩ :=
        stored.companion_rows paired keeps independent link
      have same : found = follower := by
        rw [stored.rows, if_neg different, before', Option.some.injEq] at present
        exact present.symm
      subst same
      have follower := rest.unwithheld free unlinked
      have rows : ∀ other, second.transactions.get? other =
          if other = key then some row else before.transactions.get? other := by
        intro other
        rw [walleted.rest]
        exact stored.rows other
      have keyed : _ = linked := follower.key_eq
      have written : ∀ other, after.transactions.get? other =
          if other = linked then
            some ((companionValues key row wallet found).fillLinks second)
          else if other = key then some row
          else before.transactions.get? other := by
        intro other
        rw [follower.rows, keyed, rows]
      have first : after.wallets (withholdingWallet row.transactionType) =
          some wallet := follower.wallets walleted.first
      refine paired.update key (some linked) ?_
        independent ?_ ?_ ?_ ?_
      · intro other notKey notLinked
        rw [written, if_neg (fun same => notLinked (congrArg some same.symm)),
          if_neg notKey]
      · intro other row' companion same present' link'
        cases same
        exact own other row' present' link'
      · intro stored' found'
        rw [written, if_neg (Ne.symm different), if_pos rfl,
          Option.some.injEq] at found'
        subst found'
        have lookup := written linked
        rw [if_pos rfl] at lookup
        rw [Fits, if_neg (not_le.mpr taxed)]
        refine ⟨⟨linked, _, link, lookup, ⟨rfl, rfl, first, free⟩⟩, ?_⟩
        intro companion link'
        rw [← link, link']
      · intro companion follower' same _ found'
        cases same
        rw [written, if_pos rfl, Option.some.injEq] at found'
        subst found'
        exact ⟨free, unlinked⟩
      · intro other first' known
        exact follower.wallets (walleted.firstOfKind (stored.wallets known))

/-- Balances and companions are as the transactions say. -/
structure Valid (opening : ℕ → ℤ) (shop : Shop) : Prop where
  balanced : Balanced opening shop
  paired : shop.IsPaired

section Operations

variable {opening : ℕ → ℤ} {before after : Shop}

theorem Valid.congr (valid : Valid opening before)
    (treasuries : after.treasuries = before.treasuries)
    (transactions : after.transactions = before.transactions) :
    Valid opening after := by
  have wallets : after.wallets = before.wallets := by
    funext wallet
    unfold Shop.wallets Shop.firstOfKind
    rw [treasuries]
  constructor
  · constructor
    · intro treasury stored found
      rw [treasuries] at found
      rw [moved_congr transactions]
      exact valid.balanced.balance treasury stored found
    · rw [treasuries]
      exact valid.balanced.unopened
    · rw [treasuries, transactions]
      exact valid.balanced.held
  · rw [Shop.IsPaired, transactions, wallets]
    exact valid.paired

theorem firstOfKind_some {shop : Shop} {kind : TreasuryKind} {pk : ℕ}
    (first : shop.firstOfKind kind = some pk) :
    ∃ stored, shop.treasuries.get? pk = some stored ∧ stored.kind = kind := by
  obtain ⟨row, located, rfl⟩ := Option.map_eq_some_iff.mp first
  exact ⟨row.2, Table.get?_eq_some.mpr (List.mem_of_find?_eq_some located),
    by simpa using List.find?_some located⟩

theorem createTransaction_saving {txn : PrintTransaction} {pk : ℕ}
    (returned : createTransaction txn before = .ok pk after) :
    Saving none { txn with withholdingTxn := none } pk before after :=
  save_ok returned

theorem Saving.valid_create {txn : PrintTransaction} {pk : ℕ}
    (saved : Saving none { txn with withholdingTxn := none } pk before after)
    (valid : Valid opening before) : Valid opening after where
  balanced := saved.balanced valid.balanced
  paired := by
    refine saved.isPaired valid.paired rfl ?_
    intro other row found link
    obtain ⟨follower, present, -⟩ := valid.paired.companion found link
    exact absurd (Table.get?_lt present) (Nat.lt_irrefl _)

theorem createTransaction_valid {txn : PrintTransaction} {pk : ℕ}
    (returned : createTransaction txn before = .ok pk after)
    (valid : Valid opening before) : Valid opening after :=
  (createTransaction_saving returned).valid_create valid

theorem Valid.independent (valid : Valid opening before) {pk : ℕ}
    {txn : PrintTransaction} {treasury : PrintTreasury}
    (found : before.transactions.get? pk = some txn)
    (stored : before.treasuries.get? txn.treasury = some treasury)
    (money : treasury.isMoney = true) :
    ∀ other row, before.transactions.get? other = some row →
      row.withholdingTxn ≠ some pk := by
  intro other row present link
  have fit := valid.paired.fits other row present
  unfold Fits at fit
  split at fit
  · rw [link] at fit
    cases fit
  · obtain ⟨companion, follower, same, lookup, withholds⟩ := fit
    rw [link, Option.some.injEq] at same
    subst same
    rw [found, Option.some.injEq] at lookup
    subst lookup
    obtain ⟨wallet, present', kind⟩ := firstOfKind_some withholds.wallet
    rw [stored, Option.some.injEq] at present'
    subst present'
    rw [PrintTreasury.isMoney, kind] at money
    simp [MONEY_KINDS] at money

theorem changeTransaction_ok {pk : ℕ} {txn : PrintTransaction} {result : PUnit}
    (returned : changeTransaction pk txn before = .ok result after) :
    ∃ old treasury key, before.transactions.get? pk = some old ∧
      before.treasuries.get? old.treasury = some treasury ∧
      treasury.isMoney = true ∧
      Saving (some pk)
        { txn with
          fixedAsset := old.fixedAsset
          withholdingTxn := old.withholdingTxn } key before after := by
  rw [changeTransaction, Txn.get_bind] at returned
  simp only [Txn.bind_eq_ok, Txn.expect_eq_ok, Txn.require_eq_ok,
    Txn.pure_eq_ok] at returned
  obtain ⟨old, _, ⟨found, rfl⟩, _, _, ⟨allowed, rfl⟩, key, _, saved, -, rfl⟩ :=
    returned
  cases stored : before.treasuries.get? old.treasury with
  | none =>
      rw [stored] at allowed
      cases allowed
  | some treasury =>
      rw [stored] at allowed
      exact ⟨old, treasury, key, found, stored, allowed, save_ok saved⟩

theorem changeTransaction_valid {pk : ℕ} {txn : PrintTransaction}
    {result : PUnit}
    (returned : changeTransaction pk txn before = .ok result after)
    (valid : Valid opening before) : Valid opening after := by
  obtain ⟨old, treasury, key, found, stored, money, saved⟩ :=
    changeTransaction_ok returned
  constructor
  · exact saved.balanced valid.balanced
  · apply saved.isPaired valid.paired
    · change _ = (before.transactions.get? pk).bind _
      rw [found]
      rfl
    · exact valid.independent found stored money

theorem isCompanion_eq_false {shop : Shop} {pk : ℕ}
    (none : shop.isCompanion pk = false) (other : ℕ) (row : PrintTransaction)
    (found : shop.transactions.get? other = some row) :
    row.withholdingTxn ≠ some pk := by
  intro link
  have member := Table.get?_eq_some.mp found
  have all := List.any_eq_false.mp none _ member
  simp [link] at all

/-- Deleted on its own screen or by its document, a transaction is no
companion. -/
theorem Deletion.independent {marks : DeletionMarks} {pk : ℕ}
    (deleted : Deletion marks pk before after)
    (document : marks.withParent = false) :
    ∀ other row, before.transactions.get? other = some row →
      row.withholdingTxn ≠ some pk := by
  have single : before.isCompanion pk = false := by
    cases deleted with
    | alone dropped single => simpa [document] using dropped.notCompanion
    | paired dropped pair rest => simpa [document] using dropped.notCompanion
  exact isCompanion_eq_false single

theorem Deletion.valid {marks : DeletionMarks} {pk : ℕ}
    (deleted : Deletion marks pk before after)
    (document : marks.withParent = false) (valid : Valid opening before) :
    Valid opening after where
  balanced := deleted.balanced valid.balanced
  paired := deleted.isPaired valid.paired (deleted.independent document)

theorem createTransfer_ok {transfer : PrintTreasuryTransfer} {pk : ℕ}
    (returned : createTransfer transfer before = .ok pk after) :
    ∃ outTxn inTxn middle last, transfer.fromTreasury ≠ transfer.toTreasury ∧
      createTransaction (transferLeg transfer transfer.fromTreasury .moneyOut
        ("تحويل إلى " ++ before.treasuryName transfer.toTreasury)) before =
        .ok outTxn middle ∧
      createTransaction (transferLeg transfer transfer.toTreasury .moneyIn
        ("تحويل من " ++ before.treasuryName transfer.fromTreasury)) middle =
        .ok inTxn last ∧
      pk = last.transfers.next ∧
      after = { last with
        transfers := last.transfers.insert
          { transfer with outTxn := some outTxn, inTxn := some inTxn } } := by
  rw [createTransfer] at returned
  simp only [Txn.bind_eq_ok, Txn.require_eq_ok, Txn.atomic_eq_ok,
    Txn.get_eq_ok, Txn.mapError_eq_ok, Txn.set_eq_ok, Txn.pure_eq_ok]
    at returned
  obtain ⟨_, _, ⟨different, rfl⟩, _, _, ⟨rfl, rfl⟩, outTxn, middle, first,
    inTxn, last, second, _, _, ⟨rfl, rfl⟩, _, _, rfl, rfl, rfl⟩ := returned
  exact ⟨outTxn, inTxn, middle, last, different, first, second, rfl, rfl⟩

theorem createTransfer_valid {transfer : PrintTreasuryTransfer} {pk : ℕ}
    (returned : createTransfer transfer before = .ok pk after)
    (valid : Valid opening before) : Valid opening after := by
  obtain ⟨outTxn, inTxn, middle, last, -, first, second, -, rfl⟩ :=
    createTransfer_ok returned
  exact (createTransaction_valid second
    (createTransaction_valid first valid)).congr rfl rfl

theorem deleteLeg_ok {leg : Option ℕ} {result : PUnit}
    (returned : deleteLeg leg before = .ok result after) :
    (after = before ∧ ∀ pk, leg = some pk →
        before.transactions.get? pk = none) ∨
      ∃ pk, leg = some pk ∧ Deletion {} pk before after := by
  rw [deleteLeg, Txn.get_bind] at returned
  cases stored : leg.filter fun pk => (before.transactions.get? pk).isSome with
  | none =>
      rw [stored] at returned
      obtain ⟨-, rfl⟩ := Txn.pure_eq_ok.mp returned
      refine .inl ⟨rfl, ?_⟩
      rintro pk rfl
      simpa [Option.filter_some] using stored
  | some pk =>
      rw [stored] at returned
      obtain ⟨rfl, -⟩ := Option.filter_eq_some_iff.mp stored
      exact .inr ⟨pk, rfl, deleteTransaction_ok returned⟩

theorem deleteLeg_valid {leg : Option ℕ} {result : PUnit}
    (returned : deleteLeg leg before = .ok result after)
    (valid : Valid opening before) : Valid opening after := by
  rcases deleteLeg_ok returned with ⟨rfl, -⟩ | ⟨pk, rfl, deleted⟩
  · exact valid
  · exact deleted.valid rfl valid

theorem deleteTransfer_ok {pk : ℕ} {result : PUnit}
    (returned : deleteTransfer pk before = .ok result after) :
    ∃ transfer middle, before.transfers.get? pk = some transfer ∧
      (∀ key cheque, before.cheques.get? key = some cheque →
        cheque.settleTransfer ≠ some pk) ∧
      deleteLeg transfer.outTxn
          { before with transfers := before.transfers.erase pk } =
        .ok ⟨⟩ middle ∧
      deleteLeg transfer.inTxn middle = .ok ⟨⟩ after := by
  rw [deleteTransfer, Txn.atomic_eq_ok, Txn.get_bind] at returned
  simp only [Txn.bind_eq_ok, Txn.expect_eq_ok, Txn.require_eq_ok,
    Txn.set_eq_ok] at returned
  obtain ⟨transfer, _, ⟨found, rfl⟩, _, _, ⟨unsettled, rfl⟩, _, _, rfl, _,
    middle, first, second⟩ := returned
  refine ⟨transfer, middle, found, ?_, first, second⟩
  intro key cheque stored settles
  have all := List.any_eq_false.mp unsettled _ (Table.get?_eq_some.mp stored)
  simp [settles] at all

theorem deleteTransfer_valid {pk : ℕ} {result : PUnit}
    (returned : deleteTransfer pk before = .ok result after)
    (valid : Valid opening before) : Valid opening after := by
  obtain ⟨transfer, middle, -, -, first, second⟩ := deleteTransfer_ok returned
  have erased : Valid opening
      { before with transfers := before.transfers.erase pk } :=
    valid.congr rfl rfl
  exact deleteLeg_valid second (deleteLeg_valid first erased)

theorem systemWallet_valid {wallet : SystemWallet} {pk : ℕ}
    (returned : systemWallet wallet before = .ok pk after)
    (valid : Valid opening before) : Valid opening after := by
  have walleted := systemWallet_ok returned
  refine ⟨valid.balanced.walleted walleted, ?_⟩
  have transactions : after.transactions = before.transactions := by
    rw [walleted.rest]
  rw [Shop.IsPaired, transactions]
  refine ⟨?_, valid.paired.single⟩
  intro key txn found
  have fit := valid.paired.fits key txn found
  unfold Fits at fit ⊢
  split at fit
  · rename_i free
    rwa [if_pos free]
  · rename_i taxed
    rw [if_neg taxed]
    obtain ⟨companion, row, link, stored, withholds⟩ := fit
    exact ⟨companion, row, link, stored, withholds.amount, withholds.type,
      walleted.firstOfKind withholds.wallet, withholds.free⟩

def PrintCheque.fresh (cheque : PrintCheque) : PrintCheque :=
  { cheque with
    status := .pending
    txn := none
    settleTransfer := none
    bounceTxn := none
    settledOn := none
    bouncedOn := none }

theorem registerCheque_ok {cheque : PrintCheque} {pk : ℕ}
    (returned : registerCheque cheque before = .ok pk after) :
    ∃ wallet txn first second, pk = before.cheques.next ∧
      systemWallet cheque.wallet
          { before with cheques := before.cheques.insert cheque.fresh } =
        .ok wallet first ∧
      createTransaction (cheque.registration wallet) first = .ok txn second ∧
      after = second.modifyCheque pk fun stored =>
        { stored with txn := some txn } := by
  rw [registerCheque] at returned
  simp only [Txn.bind_eq_ok, Txn.atomic_eq_ok] at returned
  obtain ⟨_, middle, cleaned, returned⟩ := returned
  have same : middle = before := by
    unfold PrintCheque.clean PrintCheque.cleanParty at cleaned
    cases direction : cheque.direction with
    | moneyIn =>
        rw [direction] at cleaned
        simp only [Txn.bind_eq_ok, Txn.require_eq_ok] at cleaned
        obtain ⟨_, _, ⟨_, _, ⟨_, rfl⟩, _, rfl⟩, _, rfl⟩ := cleaned
        rfl
    | moneyOut =>
        rw [direction] at cleaned
        simp only [Txn.bind_eq_ok, Txn.require_eq_ok] at cleaned
        obtain ⟨_, _, ⟨_, _, ⟨_, rfl⟩, _, rfl⟩, _, rfl⟩ := cleaned
        rfl
  subst same
  simp only [Txn.get_eq_ok, Txn.set_eq_ok, Txn.modify_eq_ok,
    Txn.pure_eq_ok] at returned
  obtain ⟨_, _, ⟨rfl, rfl⟩, _, _, rfl, wallet, first, made, txn, second,
    created, _, _, rfl, rfl, rfl⟩ := returned
  exact ⟨wallet, txn, first, second, rfl, made, created, rfl⟩

theorem registerCheque_valid {cheque : PrintCheque} {pk : ℕ}
    (returned : registerCheque cheque before = .ok pk after)
    (valid : Valid opening before) : Valid opening after := by
  obtain ⟨wallet, txn, first, second, -, made, created, rfl⟩ :=
    registerCheque_ok returned
  have stored : Valid opening
      { before with cheques := before.cheques.insert cheque.fresh } :=
    valid.congr rfl rfl
  exact (createTransaction_valid created
    (systemWallet_valid made stored)).congr rfl rfl

theorem pendingCheque_ok {pk : ℕ} {cheque : PrintCheque}
    (returned : pendingCheque pk before = .ok cheque after) :
    after = before ∧ before.cheques.get? pk = some cheque ∧
      cheque.status = .pending := by
  rw [pendingCheque, Txn.get_bind] at returned
  simp only [Txn.bind_eq_ok, Txn.expect_eq_ok, Txn.require_eq_ok,
    Txn.pure_eq_ok] at returned
  obtain ⟨_, _, ⟨found, rfl⟩, _, _, ⟨pending, rfl⟩, rfl, rfl⟩ := returned
  exact ⟨rfl, found, pending⟩

theorem clearCheque_ok {pk treasury : ℕ} {day : Date} {result : PUnit}
    (returned : clearCheque pk treasury day before = .ok result after) :
    ∃ cheque stored wallet transfer first second,
      before.treasuries.get? treasury = some stored ∧
      stored.isMoney = true ∧ before.cheques.get? pk = some cheque ∧
      cheque.status = .pending ∧
      systemWallet cheque.wallet before = .ok wallet first ∧
      createTransfer (settlement cheque wallet treasury day) first =
        .ok transfer second ∧
      after = second.modifyCheque pk fun stored =>
        { stored with
          status := .cleared
          settledOn := some day
          settleTransfer := some transfer } := by
  rw [clearCheque, Txn.get_bind] at returned
  simp only [Txn.bind_eq_ok, Txn.expect_eq_ok, Txn.require_eq_ok,
    Txn.atomic_eq_ok, Txn.modify_eq_ok] at returned
  obtain ⟨stored, _, ⟨found, rfl⟩, _, _, ⟨money, rfl⟩, cheque, _, looked,
    wallet, first, made, transfer, second, settled, rfl⟩ := returned
  obtain ⟨rfl, present, pending⟩ := pendingCheque_ok looked
  exact ⟨cheque, stored, wallet, transfer, first, second, found, money,
    present, pending, made, settled, rfl⟩

theorem clearCheque_valid {pk treasury : ℕ} {day : Date} {result : PUnit}
    (returned : clearCheque pk treasury day before = .ok result after)
    (valid : Valid opening before) : Valid opening after := by
  obtain ⟨_, _, _, _, _, _, -, -, -, -, made, settled, rfl⟩ :=
    clearCheque_ok returned
  exact (createTransfer_valid settled (systemWallet_valid made valid)).congr
    rfl rfl

theorem bounceCheque_ok {pk : ℕ} {day : Date} {reason : String}
    {result : PUnit}
    (returned : bounceCheque pk day reason before = .ok result after) :
    ∃ cheque wallet txn first second,
      before.cheques.get? pk = some cheque ∧ cheque.status = .pending ∧
      systemWallet cheque.wallet before = .ok wallet first ∧
      createTransaction (cheque.reversal wallet day reason) first =
        .ok txn second ∧
      after = second.modifyCheque pk fun stored =>
        { stored with
          status := .bounced
          bouncedOn := some day
          bounceTxn := some txn } := by
  rw [bounceCheque, Txn.atomic_eq_ok] at returned
  simp only [Txn.bind_eq_ok, Txn.modify_eq_ok] at returned
  obtain ⟨cheque, _, looked, wallet, first, made, txn, second, created, rfl⟩ :=
    returned
  obtain ⟨rfl, present, pending⟩ := pendingCheque_ok looked
  exact ⟨cheque, wallet, txn, first, second, present, pending, made, created,
    rfl⟩

theorem bounceCheque_valid {pk : ℕ} {day : Date} {reason : String}
    {result : PUnit}
    (returned : bounceCheque pk day reason before = .ok result after)
    (valid : Valid opening before) : Valid opening after := by
  obtain ⟨_, _, _, _, _, -, -, made, created, rfl⟩ := bounceCheque_ok returned
  exact (createTransaction_valid created
    (systemWallet_valid made valid)).congr rfl rfl

theorem deleteRegistration_ok {txn : Option ℕ} {result : PUnit}
    (returned : deleteRegistration txn before = .ok result after) :
    (after = before ∧ ∀ pk, txn = some pk →
        before.transactions.get? pk = none) ∨
      ∃ pk, txn = some pk ∧ Deletion { withCheque := true } pk before after := by
  rw [deleteRegistration, Txn.get_bind] at returned
  cases stored : txn.filter fun pk => (before.transactions.get? pk).isSome with
  | none =>
      rw [stored] at returned
      obtain ⟨-, rfl⟩ := Txn.pure_eq_ok.mp returned
      refine .inl ⟨rfl, ?_⟩
      rintro pk rfl
      simpa [Option.filter_some] using stored
  | some pk =>
      rw [stored] at returned
      obtain ⟨rfl, -⟩ := Option.filter_eq_some_iff.mp stored
      exact .inr ⟨pk, rfl, deleteTransaction_ok returned⟩

theorem deleteCheque_ok {pk : ℕ} {result : PUnit}
    (returned : deleteCheque pk before = .ok result after) :
    ∃ cheque, before.cheques.get? pk = some cheque ∧
      cheque.status = .pending ∧
      deleteRegistration cheque.txn
        { before with cheques := before.cheques.erase pk } = .ok ⟨⟩ after := by
  rw [deleteCheque, Txn.get_bind] at returned
  simp only [Txn.bind_eq_ok, Txn.expect_eq_ok, Txn.require_eq_ok,
    Txn.atomic_eq_ok, Txn.modify_eq_ok] at returned
  obtain ⟨cheque, _, ⟨found, rfl⟩, _, _, ⟨pending, rfl⟩, _, _, rfl, deleted⟩ :=
    returned
  exact ⟨cheque, found, pending, deleted⟩

theorem deleteCheque_valid {pk : ℕ} {result : PUnit}
    (returned : deleteCheque pk before = .ok result after)
    (valid : Valid opening before) : Valid opening after := by
  obtain ⟨cheque, -, -, deleted⟩ := deleteCheque_ok returned
  have erased : Valid opening
      { before with cheques := before.cheques.erase pk } :=
    valid.congr rfl rfl
  rcases deleteRegistration_ok deleted with ⟨rfl, -⟩ | ⟨txn, -, deleted⟩
  · exact erased
  · exact deleted.valid rfl erased

end Operations

end Mousstec.Printing
