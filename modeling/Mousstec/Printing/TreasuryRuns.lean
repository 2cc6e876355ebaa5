import Mathlib.Tactic.Linarith
import Mousstec.Library.Runs
import Mousstec.Printing.Movements

/-!
# Runs on treasuries

What the operations on transactions, transfers and cheques keep, they keep over
any run of them: every treasury holds its opening balance and what its
transactions moved, and withheld tax has its companion.  Balances are guarded
on the way out only, so a treasury stays non-negative as long as no edit or
deletion takes back more than it holds.
-/

namespace Mousstec.Printing

open Library

/-- What is done on the transactions' own screen. -/
inductive TransactionOp where
  | create (txn : PrintTransaction)
  | change (pk : ℕ) (txn : PrintTransaction)
  | delete (pk : ℕ)

/-- Everything that moves money between treasuries. -/
inductive TreasuryOp where
  | transaction (op : TransactionOp)
  | transfer (row : PrintTreasuryTransfer)
  | editTransfer
  | removeTransfer (pk : ℕ)
  | register (cheque : PrintCheque)
  | clear (pk treasury : ℕ) (day : Date)
  | bounce (pk : ℕ) (day : Date) (reason : String)
  | removeCheque (pk : ℕ)

def TransactionOp.run : TransactionOp → ShopTxn PUnit
  | .create txn => do
      let _ ← createTransaction txn
      pure ⟨⟩
  | .change pk txn => changeTransaction pk txn
  | .delete pk => deleteTransaction {} pk

def TreasuryOp.run : TreasuryOp → ShopTxn PUnit
  | .transaction op => op.run
  | .transfer row => do
      let _ ← createTransfer row
      pure ⟨⟩
  -- `PrintTreasuryTransfer.save` of a stored transfer.
  | .editTransfer => throw .transferEdited
  | .removeTransfer pk => deleteTransfer pk
  | .register cheque => do
      let _ ← registerCheque cheque
      pure ⟨⟩
  | .clear pk treasury day => clearCheque pk treasury day
  | .bounce pk day reason => bounceCheque pk day reason
  | .removeCheque pk => deleteCheque pk

theorem rollsBack_saveWithin (depth : ℕ) (pk : Option ℕ)
    (txn : PrintTransaction) : Txn.RollsBack (saveWithin depth pk txn) := by
  cases depth with
  | zero => exact Txn.rollsBack_throw _
  | succ depth => exact Txn.rollsBack_atomic _

theorem rollsBack_deleteWithin (depth : ℕ) (marks : DeletionMarks) (pk : ℕ) :
    Txn.RollsBack (deleteWithin depth marks pk) := by
  cases depth with
  | zero => exact Txn.rollsBack_throw _
  | succ depth => exact Txn.rollsBack_atomic _

theorem rollsBack_save (pk : Option ℕ) (txn : PrintTransaction) :
    Txn.RollsBack (save pk txn) :=
  Txn.rollsBack_bind Txn.reads_get Txn.rollsBack_get fun _ =>
    rollsBack_saveWithin _ _ _

theorem rollsBack_changeTransaction (pk : ℕ) (txn : PrintTransaction) :
    Txn.RollsBack (changeTransaction pk txn) := by
  refine Txn.rollsBack_bind Txn.reads_get Txn.rollsBack_get fun shop => ?_
  refine Txn.rollsBack_bind (Txn.reads_expect _ _) (Txn.rollsBack_expect _ _)
    fun old => ?_
  refine Txn.rollsBack_bind (Txn.reads_require _ _) (Txn.rollsBack_require _ _)
    fun _ => ?_
  exact Txn.rollsBack_map (rollsBack_save _ _)

theorem TransactionOp.rollsBack (op : TransactionOp) : Txn.RollsBack op.run := by
  cases op with
  | create txn => exact Txn.rollsBack_map (rollsBack_save _ _)
  | change pk txn => exact rollsBack_changeTransaction pk txn
  | delete pk =>
      exact Txn.rollsBack_bind Txn.reads_get Txn.rollsBack_get fun _ =>
        rollsBack_deleteWithin _ _ _

theorem rollsBack_createTransfer (transfer : PrintTreasuryTransfer) :
    Txn.RollsBack (createTransfer transfer) :=
  Txn.rollsBack_bind (Txn.reads_require _ _) (Txn.rollsBack_require _ _)
    fun _ => Txn.rollsBack_atomic _

theorem PrintCheque.clean_reads (cheque : PrintCheque) : Txn.Reads cheque.clean := by
  refine Txn.reads_bind ?_ fun _ => Txn.reads_require _ _
  unfold PrintCheque.cleanParty
  cases cheque.direction with
  | moneyIn =>
      exact Txn.reads_bind (Txn.reads_require _ _) fun _ => Txn.reads_require _ _
  | moneyOut =>
      exact Txn.reads_bind (Txn.reads_require _ _) fun _ => Txn.reads_require _ _

theorem PrintCheque.clean_rollsBack (cheque : PrintCheque) :
    Txn.RollsBack cheque.clean := by
  have party : Txn.Reads cheque.cleanParty ∧ Txn.RollsBack cheque.cleanParty := by
    unfold PrintCheque.cleanParty
    cases cheque.direction with
    | moneyIn =>
        exact ⟨Txn.reads_bind (Txn.reads_require _ _) fun _ =>
            Txn.reads_require _ _,
          Txn.rollsBack_bind (Txn.reads_require _ _) (Txn.rollsBack_require _ _)
            fun _ => Txn.rollsBack_require _ _⟩
    | moneyOut =>
        exact ⟨Txn.reads_bind (Txn.reads_require _ _) fun _ =>
            Txn.reads_require _ _,
          Txn.rollsBack_bind (Txn.reads_require _ _) (Txn.rollsBack_require _ _)
            fun _ => Txn.rollsBack_require _ _⟩
  exact Txn.rollsBack_bind party.1 party.2 fun _ => Txn.rollsBack_require _ _

theorem rollsBack_clearCheque (pk treasury : ℕ) (day : Date) :
    Txn.RollsBack (clearCheque pk treasury day) := by
  refine Txn.rollsBack_bind Txn.reads_get Txn.rollsBack_get fun shop => ?_
  refine Txn.rollsBack_bind (Txn.reads_expect _ _) (Txn.rollsBack_expect _ _)
    fun stored => ?_
  exact Txn.rollsBack_bind (Txn.reads_require _ _) (Txn.rollsBack_require _ _)
    fun _ => Txn.rollsBack_atomic _

theorem rollsBack_deleteCheque (pk : ℕ) : Txn.RollsBack (deleteCheque pk) := by
  refine Txn.rollsBack_bind Txn.reads_get Txn.rollsBack_get fun shop => ?_
  refine Txn.rollsBack_bind (Txn.reads_expect _ _) (Txn.rollsBack_expect _ _)
    fun cheque => ?_
  exact Txn.rollsBack_bind (Txn.reads_require _ _) (Txn.rollsBack_require _ _)
    fun _ => Txn.rollsBack_atomic _

theorem TreasuryOp.rollsBack (op : TreasuryOp) : Txn.RollsBack op.run := by
  cases op with
  | transaction op => exact op.rollsBack
  | transfer row => exact Txn.rollsBack_map (rollsBack_createTransfer row)
  | editTransfer => exact Txn.rollsBack_throw _
  | removeTransfer pk => exact Txn.rollsBack_atomic _
  | register cheque =>
      exact Txn.rollsBack_map (Txn.rollsBack_bind cheque.clean_reads
        cheque.clean_rollsBack fun _ => Txn.rollsBack_atomic _)
  | clear pk treasury day => exact rollsBack_clearCheque pk treasury day
  | bounce pk day reason => exact Txn.rollsBack_atomic _
  | removeCheque pk => exact rollsBack_deleteCheque pk

section Runs

variable {opening : ℕ → ℤ} {before final : Shop}

theorem TransactionOp.valid {op : TransactionOp}
    (returned : op.run before = .ok ⟨⟩ final) (valid : Valid opening before) :
    Valid opening final := by
  cases op with
  | create txn =>
      obtain ⟨pk, middle, created, same⟩ := Txn.bind_eq_ok.mp returned
      obtain ⟨-, rfl⟩ := Txn.pure_eq_ok.mp same
      exact createTransaction_valid created valid
  | change pk txn => exact changeTransaction_valid returned valid
  | delete pk => exact (deleteTransaction_ok returned).valid rfl valid

theorem TreasuryOp.valid {op : TreasuryOp}
    (returned : op.run before = .ok ⟨⟩ final) (valid : Valid opening before) :
    Valid opening final := by
  cases op with
  | transaction op => exact op.valid returned valid
  | transfer row =>
      obtain ⟨pk, middle, created, same⟩ := Txn.bind_eq_ok.mp returned
      obtain ⟨-, rfl⟩ := Txn.pure_eq_ok.mp same
      exact createTransfer_valid created valid
  | editTransfer => exact (Txn.throw_eq_ok returned).elim
  | removeTransfer pk => exact deleteTransfer_valid returned valid
  | register cheque =>
      obtain ⟨pk, middle, registered, same⟩ := Txn.bind_eq_ok.mp returned
      obtain ⟨-, rfl⟩ := Txn.pure_eq_ok.mp same
      exact registerCheque_valid registered valid
  | clear pk treasury day => exact clearCheque_valid returned valid
  | bounce pk day reason => exact bounceCheque_valid returned valid
  | removeCheque pk => exact deleteCheque_valid returned valid

end Runs

def Shop.openingBalance (shop : Shop) (treasury : ℕ) : ℤ :=
  ((shop.treasuries.get? treasury).map PrintTreasury.balance).getD 0

def Shop.Unmoved (shop : Shop) : Prop :=
  ∀ pk, shop.transactions.get? pk = none

theorem Shop.Unmoved.sum {shop : Shop} (unmoved : shop.Unmoved)
    (measure : PrintTransaction → ℤ) : shop.sum measure = 0 := by
  unfold Shop.sum
  apply Table.total_eq_zero
  intro pk txn found
  rw [unmoved pk] at found
  cases found

theorem Shop.Unmoved.valid {shop : Shop} (unmoved : shop.Unmoved) :
    Valid shop.openingBalance shop where
  balanced :=
    { balance := by
        intro treasury stored found
        rw [Shop.openingBalance, found, Shop.moved, unmoved.sum]
        exact (add_zero _).symm
      unopened := by
        intro treasury fresh
        rw [Shop.openingBalance, Table.get?_of_le fresh]
        rfl
      held := by
        intro pk txn found
        rw [unmoved pk] at found
        cases found }
  paired :=
    { fits := by
        intro pk txn found
        rw [unmoved pk] at found
        cases found
      single := by
        intro first second txn other companion found
        rw [unmoved first] at found
        cases found }

/-- Every run keeps every balance at its opening balance plus the receipts less
the payments, and every tax withheld with its one companion; an operation that
is rejected changes nothing. -/
theorem treasuries_follow (ops : List TreasuryOp) {shop : Shop}
    (unmoved : shop.Unmoved) :
    (∀ treasury stored,
        (Txn.after TreasuryOp.run ops shop).treasuries.get? treasury =
          some stored →
        stored.balance = shop.openingBalance treasury +
          (Txn.after TreasuryOp.run ops shop).ins (·.treasury = treasury) -
          (Txn.after TreasuryOp.run ops shop).outs (·.treasury = treasury)) ∧
      (Txn.after TreasuryOp.run ops shop).IsPaired ∧
      ∀ op error final,
        TreasuryOp.run op (Txn.after TreasuryOp.run ops shop) =
          .error error final →
        final = Txn.after TreasuryOp.run ops shop := by
  have valid := Txn.after_invariant (Valid shop.openingBalance)
    TreasuryOp.rollsBack (fun op _ _ kept returned => op.valid returned kept) ops
    unmoved.valid
  refine ⟨?_, valid.paired, ?_⟩
  · intro treasury stored found
    have moved : ∀ final : Shop, final.moved treasury =
        final.ins (·.treasury = treasury) - final.outs (·.treasury = treasury) := by
      intro final
      rw [Shop.ins_sub_outs]
      unfold Shop.moved PrintTransaction.effectOn PrintTransaction.effectIf
      simp
    rw [valid.balanced.balance treasury stored found, moved]
    ring
  · intro op error final failed
    exact op.rollsBack _ error final failed

def till : Shop where
  treasuries := Table.empty.insert { name := "till" }

theorem till_unmoved : till.Unmoved :=
  fun _ => rfl

def receipt (amount : ℤ) : PrintTransaction where
  treasury := 0
  transactionType := .moneyIn
  amount
  category := some .otherIncome

def rent : PrintTransaction where
  treasury := 0
  transactionType := .moneyOut
  amount := 7000
  category := some .rent

/-- A taxed receipt is raised, retyped, moved between two treasuries and
deleted again. -/
theorem treasuries_follow_taxed :
    (Txn.after TreasuryOp.run
        [.transaction (.create { receipt 10000 with withholdingTax := 500 }),
          .transaction (.change 0 { receipt 9000 with withholdingTax := 300 }),
          .transaction (.create rent), .transaction (.delete 2),
          .transfer { fromTreasury := 0, toTreasury := 1, amount := 4000 }]
        till).IsPaired ∧
      ((Txn.after TreasuryOp.run
        [.transaction (.create { receipt 10000 with withholdingTax := 500 }),
          .transaction (.change 0 { receipt 9000 with withholdingTax := 300 }),
          .transaction (.create rent), .transaction (.delete 2),
          .transfer { fromTreasury := 0, toTreasury := 1, amount := 4000 }]
        till).treasuries.rows.map fun row => row.2.balance) = [5000, 4300] :=
  ⟨(treasuries_follow _ till_unmoved).2.1, by decide +kernel⟩

/-- Every treasury has the kind it had before, or is new. -/
structure KindsKept (before after : Shop) : Prop where
  kind : ∀ treasury stored, after.treasuries.get? treasury = some stored →
    (∃ old, before.treasuries.get? treasury = some old ∧
      stored.kind = old.kind) ∨ before.treasuries.next ≤ treasury
  next : before.treasuries.next ≤ after.treasuries.next

namespace KindsKept

theorem of_eq {before after : Shop}
    (treasuries : after.treasuries = before.treasuries) :
    KindsKept before after := by
  constructor
  · intro treasury stored found
    rw [treasuries] at found
    exact .inl ⟨stored, found, rfl⟩
  · rw [treasuries]

theorem of_map {before after : Shop} {change : ℕ → PrintTreasury → PrintTreasury}
    (treasuries : ∀ treasury, after.treasuries.get? treasury =
      (before.treasuries.get? treasury).map (change treasury))
    (kinds : ∀ treasury stored, (change treasury stored).kind = stored.kind)
    (next : after.treasuries.next = before.treasuries.next) :
    KindsKept before after where
  kind treasury stored found := by
    rw [treasuries, Option.map_eq_some_iff] at found
    obtain ⟨old, present, rfl⟩ := found
    exact .inl ⟨old, present, kinds treasury old⟩
  next := next.ge

theorem trans {first second third : Shop} (left : KindsKept first second)
    (right : KindsKept second third) : KindsKept first third where
  kind treasury stored found := by
    rcases right.kind treasury stored found with ⟨middle, present, same⟩ | new
    · rcases left.kind treasury middle present with ⟨old, former, equal⟩ | new
      · exact .inl ⟨old, former, same.trans equal⟩
      · exact .inr new
    · exact .inr (left.next.trans new)
  next := left.next.trans right.next

end KindsKept

theorem Stored.kindsKept {pk : Option ℕ} {txn row : PrintTransaction}
    {key : ℕ} {before after : Shop} (step : Stored pk txn key row before after) :
    KindsKept before after :=
  .of_map step.treasuries (fun _ _ => rfl) step.nextTreasury

theorem kindsKept_addBalance (shop : Shop) (treasury : ℕ) (amount : ℤ) :
    KindsKept shop (shop.addBalance treasury amount) :=
  .of_map (get?_addBalance shop treasury amount) (fun _ _ => rfl) rfl

theorem Walleted.kindsKept {wallet : SystemWallet} {pk : ℕ}
    {before after : Shop} (step : Walleted wallet pk before after) :
    KindsKept before after := by
  rcases step.treasuries with ⟨same, -⟩ | ⟨added, -, -⟩
  · exact .of_eq same
  · constructor
    · intro treasury stored found
      rw [added, Table.get?_insert] at found
      split at found
      · rename_i new
        exact .inr new.ge
      · exact .inl ⟨stored, found, rfl⟩
    · rw [added, Table.insert_next]
      exact Nat.le_succ _

theorem Dropped.kindsKept {marks : DeletionMarks} {pk : ℕ}
    {txn : PrintTransaction} {before after : Shop}
    (step : Dropped marks pk txn before after) : KindsKept before after :=
  .of_eq step.treasuries

theorem Deletion.kindsKept {marks : DeletionMarks} {pk : ℕ}
    {before after : Shop} (deleted : Deletion marks pk before after) :
    KindsKept before after := by
  induction deleted with
  | alone dropped single =>
      exact dropped.kindsKept.trans (kindsKept_addBalance _ _ _)
  | paired dropped pair rest induction =>
      exact (dropped.kindsKept.trans induction).trans
        (kindsKept_addBalance _ _ _)

theorem Saving.kindsKept {pk : Option ℕ} {txn : PrintTransaction} {key : ℕ}
    {before after : Shop} (saved : Saving pk txn key before after) :
    KindsKept before after := by
  induction saved with
  | plain stored free single => exact stored.kindsKept
  | dropped stored free pair rest =>
      have deleted := rest.kindsKept
      exact stored.kindsKept.trans ⟨deleted.kind, deleted.next⟩
  | raised stored taxed single walleted rest induction =>
      have last := stored.kindsKept.trans (walleted.kindsKept.trans induction)
      exact ⟨last.kind, last.next⟩
  | followed stored taxed pair walleted rest induction =>
      exact stored.kindsKept.trans (walleted.kindsKept.trans induction)

namespace PrintTransaction

def withheldOn (txn : PrintTransaction) (wallets : SystemWallet → Option ℕ)
    (treasury : ℕ) : ℤ :=
  if 0 < txn.withholdingTax ∧
      wallets (withholdingWallet txn.transactionType) = some treasury then
    signed txn.transactionType txn.withholdingTax
  else 0

def totalOn (txn : PrintTransaction) (shop : Shop) (treasury : ℕ) : ℤ :=
  txn.effectOn treasury + txn.withheldOn shop.wallets treasury

end PrintTransaction

section Withheld

variable {wallets : SystemWallet → Option ℕ} {txn row : PrintTransaction}

theorem Withholds.effectOn (withholds : Withholds wallets txn row)
    (taxed : 0 < txn.withholdingTax) (treasury : ℕ) :
    row.effectOn treasury = txn.withheldOn wallets treasury := by
  unfold PrintTransaction.effectOn PrintTransaction.effect
    PrintTransaction.withheldOn
  rw [withholds.amount, withholds.type, withholds.wallet]
  by_cases same : row.treasury = treasury
  · simp [same, taxed]
  · simp [same]

theorem withheldOn_free (free : txn.withholdingTax ≤ 0) (treasury : ℕ) :
    txn.withheldOn wallets treasury = 0 := by
  rw [PrintTransaction.withheldOn, if_neg]
  rintro ⟨taxed, -⟩
  exact absurd free (not_le.mpr taxed)

theorem Followed.effectOn {rows : List PrintTransaction}
    (followed : Followed wallets txn rows) (treasury : ℕ) :
    (rows.map fun row => row.effectOn treasury).sum =
      txn.withheldOn wallets treasury := by
  unfold Followed at followed
  split at followed
  · rename_i free
    rw [followed, withheldOn_free free]
    rfl
  · rename_i taxed
    obtain ⟨row, rfl, follows⟩ := followed
    rw [← follows.effectOn (not_le.mp taxed)]
    simp

end Withheld

section Moves

variable {before after : Shop} {opening : ℕ → ℤ}

theorem Paired.companion_effectOn (paired : before.IsPaired) {pk : ℕ}
    {txn : PrintTransaction} (found : before.transactions.get? pk = some txn)
    (treasury : ℕ) :
    ((before.companionRow txn).toList.map fun row =>
        row.effectOn treasury).sum =
      txn.withheldOn before.wallets treasury := by
  have fit := paired.fits pk txn found
  unfold Fits at fit
  split at fit
  · rename_i free
    rw [Shop.companionRow, fit, withheldOn_free free]
    rfl
  · rename_i taxed
    obtain ⟨companion, row, link, stored, withholds⟩ := fit
    rw [Shop.companionRow, link, Option.bind_some, stored,
      ← withholds.effectOn (not_le.mp taxed)]
    simp

def Shop.given (shop : Shop) (pk : Option ℕ) (treasury : ℕ) : ℤ :=
  ((shop.oldRow pk).map fun txn => txn.totalOn shop treasury).getD 0

theorem Saving.moved {pk : Option ℕ} {txn : PrintTransaction} {key : ℕ}
    (saved : Saving pk txn key before after) (paired : before.IsPaired)
    (keeps : KeepsLink before pk txn)
    (independent : ∀ other row, before.transactions.get? other = some row →
      row.withholdingTxn ≠ some (pk.getD before.transactions.next))
    (treasury : ℕ) :
    after.moved treasury = before.moved treasury - before.given pk treasury +
      (txn.effectOn treasury + txn.withheldOn after.wallets treasury) := by
  obtain ⟨gained, followed, swapped⟩ := saved.swapped paired keeps independent
  have change := swapped _ (ignoresCompanion_effectOn treasury)
  have lost : (((before.oldRow pk).toList ++
      ((before.oldRow pk).bind before.companionRow).toList).map fun row =>
        row.effectOn treasury).sum = before.given pk treasury := by
    unfold Shop.given
    cases stored : before.oldRow pk with
    | none => rfl
    | some old =>
        obtain ⟨other, -, lookup⟩ := Option.bind_eq_some_iff.mp stored
        have tail := paired.companion_effectOn lookup treasury
        simp only [Option.toList_some, Option.bind_some, List.singleton_append,
          List.map_cons, List.sum_cons, Option.map_some, Option.getD_some]
        rw [tail, PrintTransaction.totalOn]
  rw [lost, List.map_cons, List.sum_cons, followed.effectOn treasury] at change
  exact change

theorem Deletion.moved {marks : DeletionMarks} {pk : ℕ}
    (deleted : Deletion marks pk before after) (paired : before.IsPaired)
    (independent : ∀ other row, before.transactions.get? other = some row →
      row.withholdingTxn ≠ some pk) (treasury : ℕ) :
    after.moved treasury =
      before.moved treasury - before.given (some pk) treasury := by
  obtain ⟨txn, found, swapped⟩ := deleted.swapped paired independent
  have change := swapped _ (ignoresCompanion_effectOn treasury)
  rw [List.map_cons, List.sum_cons,
    paired.companion_effectOn found treasury] at change
  have row : before.oldRow (some pk) = some txn := found
  rw [Shop.given, row]
  simpa [Shop.moved, PrintTransaction.totalOn] using change

end Moves
/-- No treasury is overdrawn, but for the liabilities. -/
def Solvent (shop : Shop) : Prop :=
  ∀ treasury stored, shop.treasuries.get? treasury = some stored →
    stored.kind ∉ LIABILITY_KINDS → 0 ≤ stored.balance

def TransactionOp.takes (shop : Shop) (treasury : ℕ) : TransactionOp → ℤ
  | .create _ => 0
  | .change pk txn => shop.given (some pk) treasury - txn.totalOn shop treasury
  | .delete pk => shop.given (some pk) treasury

/-- No treasury but a liability holds less than the operation takes back. -/
def TransactionOp.LeavesEnough (op : TransactionOp) (shop : Shop) : Prop :=
  ∀ treasury stored, shop.treasuries.get? treasury = some stored →
    stored.kind ∉ LIABILITY_KINDS → op.takes shop treasury ≤ stored.balance

section Solvency

variable {before after : Shop} {opening : ℕ → ℤ}

theorem withheldOn_nonneg {shop : Shop} {treasury : ℕ} {stored : PrintTreasury}
    (found : shop.treasuries.get? treasury = some stored)
    (asset : stored.kind ∉ LIABILITY_KINDS) (txn : PrintTransaction) :
    0 ≤ txn.withheldOn shop.wallets treasury := by
  unfold PrintTransaction.withheldOn
  split
  · rename_i withheld
    obtain ⟨taxed, first⟩ := withheld
    cases type : txn.transactionType with
    | moneyIn => exact taxed.le
    | moneyOut =>
        rw [type] at first
        obtain ⟨other, present, kind⟩ := firstOfKind_some first
        rw [found, Option.some.injEq] at present
        subst present
        rw [kind] at asset
        exact absurd (by decide) asset
  · exact le_refl _

theorem withheldOn_mono
    (stable : ∀ wallet pk, before.wallets wallet = some pk →
      after.wallets wallet = some pk)
    {txn : PrintTransaction} {treasury : ℕ}
    (nonneg : 0 ≤ txn.withheldOn after.wallets treasury) :
    txn.withheldOn before.wallets treasury ≤
      txn.withheldOn after.wallets treasury := by
  by_cases withheld : 0 < txn.withholdingTax ∧
      before.wallets (withholdingWallet txn.transactionType) = some treasury
  · have later := And.intro withheld.1 (stable _ _ withheld.2)
    unfold PrintTransaction.withheldOn
    rw [if_pos withheld, if_pos later]
  · rw [PrintTransaction.withheldOn, if_neg withheld]
    exact nonneg

theorem Saving.wallets {pk : Option ℕ} {txn : PrintTransaction} {key : ℕ}
    (saved : Saving pk txn key before after) :
    ∀ wallet first, before.wallets wallet = some first →
      after.wallets wallet = some first := by
  induction saved with
  | plain stored free single =>
      intro wallet first known
      exact stored.wallets known
  | dropped stored free pair rest =>
      intro wallet first known
      exact (rest.firstOfKind _).trans (stored.wallets known)
  | raised stored taxed single walleted rest induction =>
      intro wallet first known
      exact induction wallet first (walleted.firstOfKind (stored.wallets known))
  | followed stored taxed pair walleted rest induction =>
      intro wallet first known
      exact induction wallet first (walleted.firstOfKind (stored.wallets known))

theorem Saving.stored {pk : Option ℕ} {txn : PrintTransaction} {key : ℕ}
    (saved : Saving pk txn key before after) :
    ∃ middle, Stored pk txn key (txn.fillLinks before) before middle := by
  cases saved with
  | plain stored _ _ => exact ⟨_, stored.row_eq ▸ stored⟩
  | dropped stored _ _ _ => exact ⟨_, stored.row_eq ▸ stored⟩
  | raised stored _ _ _ _ => exact ⟨_, stored.row_eq ▸ stored⟩
  | followed stored _ _ _ _ => exact ⟨_, stored.row_eq ▸ stored⟩

theorem Saving.held {pk : Option ℕ} {txn : PrintTransaction} {key : ℕ}
    (saved : Saving pk txn key before after)
    (balanced : Balanced opening before) :
    ∃ held, before.treasuries.get? txn.treasury = some held := by
  obtain ⟨middle, stored⟩ := saved.stored
  rcases stored.covered with unchanged | covered
  · obtain ⟨old, present, same⟩ := Option.map_eq_some_iff.mp unchanged
    simp only [PrintTransaction.movement, Prod.mk.injEq] at same
    obtain ⟨other, -, lookup⟩ := Option.bind_eq_some_iff.mp present
    obtain ⟨held, found⟩ := balanced.held other old lookup
    rw [same.1] at found
    exact ⟨held, found⟩
  · obtain ⟨held, found, -⟩ := covered.held
    exact ⟨held, found⟩

theorem Balanced.untouched (balanced : Balanced opening before)
    {treasury : ℕ} (fresh : before.treasuries.next ≤ treasury) :
    before.moved treasury = 0 ∧ ∀ pk, before.given pk treasury = 0 := by
  have away : ∀ pk txn, before.transactions.get? pk = some txn →
      txn.effectOn treasury = 0 := by
    intro pk txn found
    obtain ⟨held, present⟩ := balanced.held pk txn found
    have used := Table.get?_lt present
    exact if_neg (by omega)
  constructor
  · exact Table.total_eq_zero away
  · intro pk
    unfold Shop.given
    cases stored : before.oldRow pk with
    | none => rfl
    | some old =>
        obtain ⟨other, -, lookup⟩ := Option.bind_eq_some_iff.mp stored
        have none : old.withheldOn before.wallets treasury = 0 := by
          rw [PrintTransaction.withheldOn, if_neg]
          rintro ⟨-, first⟩
          obtain ⟨held, present, -⟩ := firstOfKind_some first
          exact absurd (Table.get?_lt present) (not_lt.mpr fresh)
        rw [Option.map_some, Option.getD_some, PrintTransaction.totalOn,
          away other old lookup, none]
        rfl

theorem Saving.solvent {pk : Option ℕ} {txn : PrintTransaction} {key : ℕ}
    (saved : Saving pk txn key before after) (valid : Valid opening before)
    (keeps : KeepsLink before pk txn)
    (independent : ∀ other row, before.transactions.get? other = some row →
      row.withholdingTxn ≠ some (pk.getD before.transactions.next))
    (enough : ∀ treasury stored, before.treasuries.get? treasury =
      some stored → stored.kind ∉ LIABILITY_KINDS →
      before.given pk treasury - txn.totalOn before treasury ≤
        stored.balance) : Solvent after := by
  intro treasury stored found asset
  have nonneg := withheldOn_nonneg found asset txn
  have balance := (saved.balanced valid.balanced).balance treasury stored found
  rw [saved.moved valid.paired keeps independent] at balance
  rcases saved.kindsKept.kind treasury stored found with
    ⟨old, present, kind⟩ | fresh
  · rw [kind] at asset
    have former := valid.balanced.balance treasury old present
    have left := enough treasury old present asset
    have grown := withheldOn_mono saved.wallets nonneg
    rw [PrintTransaction.totalOn] at left
    linarith
  · obtain ⟨held, present⟩ := saved.held valid.balanced
    have away : txn.effectOn treasury = 0 := by
      have used := Table.get?_lt present
      exact if_neg (by omega)
    obtain ⟨unmoved, ungiven⟩ := valid.balanced.untouched fresh
    rw [valid.balanced.unopened treasury fresh, unmoved, ungiven, away] at balance
    linarith

end Solvency
theorem TransactionOp.solvent {op : TransactionOp} {before after : Shop}
    {opening : ℕ → ℤ} (returned : op.run before = .ok ⟨⟩ after)
    (valid : Valid opening before) (solvent : Solvent before)
    (enough : op.LeavesEnough before) : Solvent after := by
  cases op with
  | create txn =>
      obtain ⟨pk, middle, created, same⟩ := Txn.bind_eq_ok.mp returned
      obtain ⟨-, rfl⟩ := Txn.pure_eq_ok.mp same
      have saved := createTransaction_saving created
      refine saved.solvent valid rfl ?_ ?_
      · intro other row found link
        obtain ⟨follower, present, -⟩ := valid.paired.companion found link
        exact absurd (Table.get?_lt present) (Nat.lt_irrefl _)
      · intro treasury stored found asset
        have nonneg := solvent treasury stored found asset
        have withheld := withheldOn_nonneg found asset txn
        obtain ⟨last, row⟩ := saved.stored
        rcases row.covered with unchanged | covered
        · cases unchanged
        · obtain ⟨held, present, guarded⟩ := covered.held
          have moved : 0 ≤ stored.balance + txn.effectOn treasury := by
            unfold PrintTransaction.effectOn
            split
            · rename_i own
              subst own
              have same := found.symm.trans present
              rw [Option.some.injEq] at same
              subst same
              by_cases leaves : txn.effect < 0
              · have kept := guarded leaves asset
                rwa [show oldEffectOn (before.oldRow none) _ = 0 from rfl,
                  sub_zero] at kept
              · linarith
            · simpa using nonneg
          change 0 - (txn.effectOn treasury +
            txn.withheldOn before.wallets treasury) ≤ stored.balance
          linarith
  | change pk txn =>
      obtain ⟨old, treasury, key, found, stored, money, saved⟩ :=
        changeTransaction_ok returned
      refine saved.solvent valid ?_ (valid.independent found stored money) enough
      change _ = (before.transactions.get? pk).bind _
      rw [found]
      rfl
  | delete pk =>
      have deleted := deleteTransaction_ok returned
      have independent := deleted.independent rfl
      intro treasury stored found asset
      have balance := (deleted.valid rfl valid).balanced.balance treasury stored
        found
      rw [deleted.moved valid.paired independent] at balance
      rcases deleted.kindsKept.kind treasury stored found with
        ⟨old, present, kind⟩ | fresh
      · rw [kind] at asset
        have former := valid.balanced.balance treasury old present
        have left : before.given (some pk) treasury ≤ old.balance :=
          enough treasury old present asset
        linarith
      · rw [deleted.nextTreasury.symm] at fresh
        exact absurd (Table.get?_lt found) (not_lt.mpr fresh)

instance (shop : Shop) : Decidable (Solvent shop) :=
  decidable_of_iff (∀ row ∈ shop.treasuries.rows,
      row.2.kind ∉ LIABILITY_KINDS → 0 ≤ row.2.balance)
    ⟨fun all _ _ found => all _ (Table.get?_eq_some.mp found),
      fun all row member => all row.1 row.2 (Table.get?_eq_some.mpr member)⟩

instance (op : TransactionOp) (shop : Shop) : Decidable (op.LeavesEnough shop) :=
  decidable_of_iff (∀ row ∈ shop.treasuries.rows,
      row.2.kind ∉ LIABILITY_KINDS → op.takes shop row.1 ≤ row.2.balance)
    ⟨fun all _ _ found => all _ (Table.get?_eq_some.mp found),
      fun all row member => all row.1 row.2 (Table.get?_eq_some.mpr member)⟩

/-- As long as no edit or deletion takes back more than a treasury holds, no
treasury but a liability is ever overdrawn. -/
theorem treasuries_solvent {opening : ℕ → ℤ} (ops : List TransactionOp)
    {shop : Shop} (valid : Valid opening shop) (solvent : Solvent shop)
    (enough : Txn.Throughout TransactionOp.run TransactionOp.LeavesEnough ops
      shop) : Solvent (Txn.after TransactionOp.run ops shop) := by
  have both := Txn.after_of_throughout
    (fun shop => Valid opening shop ∧ Solvent shop) TransactionOp.rollsBack
    (fun op before final held leaves returned =>
      ⟨op.valid returned held.1, op.solvent returned held.1 held.2 leaves⟩)
    ops shop ⟨valid, solvent⟩ enough
  exact both.2

/-- A receipt of 100.00 may still be lowered to 80.00 after the rent is paid. -/
theorem treasuries_solvent_lowered :
    Solvent (Txn.after TransactionOp.run
      [.create (receipt 10000), .create rent, .change 0 (receipt 8000)]
      till) := by
  apply treasuries_solvent _ till_unmoved.valid (by decide +kernel)
  refine ⟨fun _ => ?_, fun _ => ?_, fun _ => ?_, trivial⟩
  · decide +kernel
  · decide +kernel
  · decide +kernel

/-- Lowering it to 50.00 is accepted as well and leaves -20.00 in the till;
deleting it leaves -70.00. -/
theorem treasuries_overdrawn :
    till.Unmoved ∧ Solvent till ∧
      (Txn.after TransactionOp.run
        [.create (receipt 10000), .create rent, .change 0 (receipt 5000)]
        till).treasuries.get? 0 =
          some { name := "till", kind := .cash, balance := -2000 } ∧
      (Txn.after TransactionOp.run
        [.create (receipt 10000), .create rent, .delete 0]
        till).treasuries.get? 0 =
          some { name := "till", kind := .cash, balance := -7000 } :=
  ⟨till_unmoved, by decide +kernel, by decide +kernel, by decide +kernel⟩

end Mousstec.Printing
