import Mousstec.Printing.Documents

/-!
# What the hooks do to the ledger

A synchronisation that returns makes its document show its target and leaves
all other documents alone; the hooks only combine such steps.  A step is
described by the documents it may change, and the number of logged failures
tells whether every posting of it went through.
-/

namespace Mousstec.Printing

open Library Accounting

private def accountKeys : List PrintAccountKey :=
  [.cash, .bank, .transfer, .ar, .chequesReceivable, .employeeAdvances,
    .materials, .wip, .vatInput, .supplierAdvances, .whtReceivable,
    .fixedAssets, .accumDepreciation, .assetDisposal, .ap, .chequesPayable,
    .salariesPayable, .vatOutput, .vatSettlement, .whtPayable,
    .customerDeposits, .capital, .openingEquity, .revenue, .salesReturns,
    .assetGain, .otherIncome, .cogs, .materialsExpense, .otherExpense,
    .salaries, .variance, .spoilage, .rent, .utilities, .shipping,
    .maintenance, .marketing, .depreciation, .assetLoss, .badDebts,
    .discountAllowed]

private theorem mem_accountKeys (key : PrintAccountKey) : key ∈ accountKeys := by
  cases key <;> decide

@[simp] theorem account_inj {first second : PrintAccountKey} :
    (PRINT_ACCOUNTS first).1 = (PRINT_ACCOUNTS second).1 ↔ first = second := by
  have codes : (accountKeys.map fun key => (PRINT_ACCOUNTS key).1).Nodup := by
    decide +kernel
  constructor
  · exact fun same => List.inj_on_of_nodup_map codes (mem_accountKeys first)
      (mem_accountKeys second) same
  · rintro rfl
    rfl

def ledgerOf (books : Books) (document : PrintDocument) (acct : Account) : ℤ :=
  ledgerByAccount books (.print document) acct

/-- The entries of a document add up to a target. -/
def Shows (books : Books) (document : PrintDocument) (target : Target) : Prop :=
  ∀ acct, ledgerOf books document acct = targetNet target acct

@[simp] theorem targetNet_line (key : PrintAccountKey) (amount : ℤ)
    (rest : Target) (acct : Account) :
    targetNet (line key amount :: rest) acct =
      (if (PRINT_ACCOUNTS key).1 = acct then amount else 0) +
        targetNet rest acct := by
  simp [targetNet, line, PrintAccountRef.account, q]

@[simp] theorem targetNet_nil (acct : Account) : targetNet [] acct = 0 := rfl

theorem ledgerOf_of_chartOnly {before after : Books}
    (grown : ChartOnly before after) (document : PrintDocument)
    (acct : Account) :
    ledgerOf after document acct = ledgerOf before document acct :=
  ledgerByAccount_of_chartOnly grown _ acct

theorem Synced.ledgerByAccount_of_ne {reference other : Reference}
    {target : Target} {before after : Books}
    (synced : Synced reference target before after)
    (different : other ≠ reference) (acct : Account) :
    ledgerByAccount after other acct = ledgerByAccount before other acct := by
  unfold ledgerByAccount
  refine netOf_eq_of_content (fun _ _ => rfl) (fun pk => ?_) acct
  apply Option.ext
  intro entry
  simp only [Option.filter_eq_some_iff, decide_eq_true_eq]
  refine and_congr_left fun under => ?_
  constructor
  · intro found
    obtain ⟨stored, looked, content⟩ := Option.map_eq_some_iff.mp found
    have elsewhere := synced.elsewhere pk stored looked (by
      intro same
      exact different (under ▸ same ▸ (congrArg JournalEntry.reference content).symm))
    rw [← elsewhere]
    exact found
  · intro found
    obtain ⟨stored, looked, content⟩ := Option.map_eq_some_iff.mp found
    have kept := synced.kept pk stored looked (.inl (by
      intro same
      exact different (under ▸ same ▸ (congrArg JournalEntry.reference content).symm)))
    rw [kept]
    exact found

/-- A step that posts under some documents only. -/
structure LedgerStep (documents : PrintDocument → Prop) (before after : Press) :
    Prop where
  shop : after.shop = before.shop
  today : after.today = before.today
  through : after.depreciationThrough = before.depreciationThrough
  failures : before.failures ≤ after.failures
  elsewhere : ∀ document, ¬ documents document → ∀ acct,
    ledgerOf after.books document acct = ledgerOf before.books document acct

namespace LedgerStep

variable {documents others : PrintDocument → Prop}
  {before middle after : Press}

theorem refl (documents : PrintDocument → Prop) (press : Press) :
    LedgerStep documents press press :=
  ⟨rfl, rfl, rfl, Nat.le_refl _, fun _ _ _ => rfl⟩

theorem trans (first : LedgerStep documents before middle)
    (second : LedgerStep documents middle after) :
    LedgerStep documents before after where
  shop := second.shop.trans first.shop
  today := second.today.trans first.today
  through := second.through.trans first.through
  failures := first.failures.trans second.failures
  elsewhere document other acct :=
    (second.elsewhere document other acct).trans
      (first.elsewhere document other acct)

theorem mono (step : LedgerStep documents before after)
    (more : ∀ document, documents document → others document) :
    LedgerStep others before after where
  shop := step.shop
  today := step.today
  through := step.through
  failures := step.failures
  elsewhere document other := step.elsewhere document fun among =>
    other (more document among)

theorem shows (step : LedgerStep documents before after)
    {document : PrintDocument} {target : Target}
    (other : ¬ documents document) (held : Shows before.books document target) :
    Shows after.books document target := by
  intro acct
  rw [step.elsewhere document other]
  exact held acct

end LedgerStep

theorem onBooks_ok {block : LedgerTxn α} {value : α} {before after : Press}
    (returned : onBooks block before = .ok value after) :
    ∃ books, block before.books = .ok value books ∧
      after = { before with books } := by
  obtain ⟨books, called, rfl⟩ := Txn.zoom_eq_ok.mp returned
  exact ⟨books, called, rfl⟩

theorem onShop_ok {block : ShopTxn α} {value : α} {before after : Press}
    (returned : onShop block before = .ok value after) :
    ∃ shop, block before.shop = .ok value shop ∧
      after = { before with shop } := by
  obtain ⟨shop, called, rfl⟩ := Txn.zoom_eq_ok.mp returned
  exact ⟨shop, called, rfl⟩

theorem ledgerStep_of_chartOnly (documents : PrintDocument → Prop)
    {before : Press} {books : Books} (grown : ChartOnly before.books books) :
    LedgerStep documents before { before with books } :=
  ⟨rfl, rfl, rfl, Nat.le_refl _, fun document _ acct =>
    ledgerOf_of_chartOnly grown document acct⟩

/-- A block that posts under some documents only, whenever it returns. -/
def Posts (documents : PrintDocument → Prop) (block : PressTxn α) : Prop :=
  ∀ before value after, block before = .ok value after →
    LedgerStep documents before after

section Posts

variable {documents others : PrintDocument → Prop}

theorem Posts.mono {block : PressTxn α} (posts : Posts documents block)
    (more : ∀ document, documents document → others document) :
    Posts others block :=
  fun before value after returned =>
    (posts before value after returned).mono more

theorem posts_pure (value : α) : Posts documents (pure value) := by
  intro before result after returned
  obtain ⟨-, rfl⟩ := Txn.pure_eq_ok.mp returned
  exact .refl _ _

theorem posts_bind {first : PressTxn α} {next : α → PressTxn β}
    (posts : Posts documents first)
    (later : ∀ value, Posts documents (next value)) :
    Posts documents (first >>= next) := by
  intro before result after returned
  obtain ⟨value, middle, called, continued⟩ := Txn.bind_eq_ok.mp returned
  exact (posts before value middle called).trans
    (later value middle result after continued)

theorem posts_get {next : Press → PressTxn α}
    (later : ∀ press, Posts documents (next press)) :
    Posts documents (get >>= next) :=
  fun before value after returned => later before before value after returned

theorem posts_forM {β : Type} {items : List β} {body : β → PressTxn PUnit}
    (posts : ∀ item ∈ items, Posts documents (body item)) :
    Posts documents (forM items body) := by
  intro before value after returned
  exact Txn.forM_invariant (LedgerStep documents before)
    (fun item member middle later step called =>
      step.trans (posts item member middle ⟨⟩ later called))
    (.refl _ _) returned

theorem safely_ok {block : PressTxn α} {before after : Press} {value : PUnit}
    (returned : safely block before = .ok value after) :
    (∃ result, block before = .ok result after) ∨
      after = { before with failures := before.failures + 1 } := by
  unfold safely at returned
  cases called : Txn.atomic block before with
  | ok result final =>
      rw [called] at returned
      cases returned
      exact .inl ⟨result, Txn.atomic_eq_ok.mp called⟩
  | error error final =>
      rw [called] at returned
      cases returned
      obtain ⟨rfl, -⟩ := Txn.atomic_eq_error.mp called
      exact .inr rfl

theorem posts_safely {block : PressTxn α} (posts : Posts documents block) :
    Posts documents (safely block) := by
  intro before value after returned
  rcases safely_ok returned with ⟨result, called⟩ | rfl
  · exact posts before result after called
  · exact ⟨rfl, rfl, rfl, Nat.le_succ _, fun _ _ _ => rfl⟩

theorem safely_clean {block : PressTxn α} {before after : Press} {value : PUnit}
    (returned : safely block before = .ok value after)
    (clean : after.failures ≤ before.failures) :
    ∃ result, block before = .ok result after := by
  rcases safely_ok returned with called | rfl
  · exact called
  · exact absurd clean (Nat.not_succ_le_self _)

theorem syncDocument_ok {document : PrintDocument} {target : Target}
    {options : SyncOptions} {before after : Press} {value : PUnit}
    (returned : syncDocument document target options before =
      .ok value after) :
    LedgerStep (fun other => other = document) before after ∧
      Shows after.books document target := by
  obtain ⟨result, middle, called, continued⟩ := Txn.bind_eq_ok.mp returned
  obtain ⟨-, rfl⟩ := Txn.pure_eq_ok.mp continued
  obtain ⟨books, synced, rfl⟩ := onBooks_ok called
  have effect := sync_returns synced
  refine ⟨⟨rfl, rfl, rfl, Nat.le_refl _, ?_⟩, effect.converged⟩
  intro other different acct
  refine effect.ledgerByAccount_of_ne ?_ acct
  rintro same
  exact different (Reference.print.inj same)

theorem posts_syncDocument (document : PrintDocument) (target : Target)
    (options : SyncOptions) :
    Posts (fun other => other = document)
      (syncDocument document target options) :=
  fun _ _ _ returned => (syncDocument_ok returned).1

theorem posts_syncStored {stored : Option β} {synchronise : β → PressTxn PUnit}
    (posts : ∀ row, Posts documents (synchronise row)) :
    Posts documents (syncStored stored synchronise) := by
  cases stored with
  | none => exact posts_pure _
  | some row => exact posts row

/-- A loop of postings shows what each of them wants, when all that post under
a document want the same of it. -/
theorem forM_shows {ι : Type} {items : List ι} {body : ι → PressTxn PUnit}
    (touches : ι → PrintDocument → Prop)
    (wants : ι → PrintDocument → Target → Prop) {shop : Shop}
    (posts : ∀ item, Posts (touches item) (body item))
    (shows : ∀ item before after, before.shop = shop →
      body item before = .ok ⟨⟩ after → after.failures ≤ before.failures →
      ∀ document target, wants item document target →
        Shows after.books document target)
    (agree : ∀ first second document target, wants first document target →
      touches second document → wants second document target)
    {before after : Press} (same : before.shop = shop)
    (returned : forM items body before = .ok ⟨⟩ after)
    (clean : after.failures ≤ before.failures) :
    ∀ item ∈ items, ∀ document target, wants item document target →
      Shows after.books document target := by
  induction items generalizing before with
  | nil =>
      intro item member
      cases member
  | cons head rest induction =>
      rw [List.forM_cons, Txn.bind_eq_ok] at returned
      obtain ⟨⟨⟩, middle, first, later⟩ := returned
      have headStep := posts head before ⟨⟩ middle first
      have restStep : LedgerStep
          (fun document => ∃ item ∈ rest, touches item document) middle after :=
        posts_forM (fun item member => (posts item).mono
          fun document touched => ⟨item, member, touched⟩) _ _ _ later
      have restShows := induction (headStep.shop.trans same) later
        (clean.trans headStep.failures)
      intro item member document target wanted
      rcases List.mem_cons.mp member with rfl | among
      · by_cases again : ∃ other ∈ rest, touches other document
        · obtain ⟨other, listed, touched⟩ := again
          exact restShows other listed document target
            (agree item other document target wanted touched)
        · refine restStep.shows again ?_
          exact shows item before middle same first
            (restStep.failures.trans clean) document target wanted
      · exact restShows item among document target wanted

end Posts

private theorem allowedType_treasury (code : Account) (kind : TreasuryKind) :
    AllowedType code (PRINT_ACCOUNTS (TREASURY_PARENT kind)).2 := by
  intro _
  cases kind with
  | system wallet => cases wallet <;> simp [ChartOfAccount.IsPnl,
      TREASURY_PARENT, PRINT_ACCOUNTS]
  | _ => simp [ChartOfAccount.IsPnl, TREASURY_PARENT, PRINT_ACCOUNTS]

theorem treasuryAccount_ok {pk : ℕ} {treasury : PrintTreasury}
    {account : PrintAccountRef} {before after : Press}
    (returned : onBooks (treasuryAccount pk treasury) before =
      .ok account after) :
    account = .row (treasuryCode pk treasury.kind) ∧
      LedgerStep (fun _ => False) before after := by
  obtain ⟨books, called, rfl⟩ := onBooks_ok returned
  obtain ⟨_, middle, parent, rest⟩ := Txn.bind_eq_ok.mp called
  obtain ⟨code, last, own, finished⟩ := Txn.bind_eq_ok.mp rest
  obtain ⟨rfl, rfl⟩ := Txn.pure_eq_ok.mp finished
  obtain ⟨_, made, first, -⟩ := getOrCreateAccount_ok
    (allowedType_treasury _ treasury.kind) before.books
  rw [made] at parent
  cases parent
  obtain ⟨_, again, second, -⟩ := getOrCreateAccount_ok
    (allowedType_treasury (treasuryCode pk treasury.kind) treasury.kind) middle
  rw [again] at own
  cases own
  exact ⟨rfl, ledgerStep_of_chartOnly _ (first.trans second)⟩

theorem treasuryCode_ne (pk : ℕ) (kind : TreasuryKind)
    (key : PrintAccountKey) : treasuryCode pk kind ≠ (PRINT_ACCOUNTS key).1 := by
  intro same
  have dash : '-' ∈ (treasuryCode pk kind).toList := by
    simp [treasuryCode]
  rw [same] at dash
  revert dash
  cases key <;> decide

/-- On the program's own accounts a transaction posts against its counter
account only. -/
theorem targetNet_txnTarget (txn : PrintTransaction) (pk : ℕ)
    (kind : TreasuryKind) (key : PrintAccountKey) :
    targetNet (txnTarget txn (.row (treasuryCode pk kind)))
        (PRINT_ACCOUNTS key).1 =
      if (PRINT_ACCOUNTS txn.counterAccount).1 = (PRINT_ACCOUNTS key).1 then
        -txn.effect
      else 0 := by
  have own : targetNet (txnTarget txn (.row (treasuryCode pk kind)))
      (PRINT_ACCOUNTS key).1 =
      targetNet [line txn.counterAccount (-txn.effect)]
        (PRINT_ACCOUNTS key).1 := by
    simp [txnTarget, targetNet, PrintAccountRef.account, treasuryCode_ne]
  rw [own, targetNet_line, targetNet_nil, add_zero]

/-- The documents a changed transaction posts under. -/
def ofTransaction (pk : ℕ) : PrintDocument → Prop
  | .transaction key => key = pk
  | .customer _ => True
  | .supplier _ => True
  | _ => False

theorem syncTxn_ok {pk : ℕ} {before after : Press} {value : PUnit}
    (returned : syncTxn pk before = .ok value after) :
    LedgerStep (fun other => other = .transaction pk) before after ∧
      ∀ txn, before.shop.transactions.get? pk = some txn → ∃ treasury,
        before.shop.treasuries.get? txn.treasury = some treasury ∧
          Shows after.books (.transaction pk)
            (txnTarget txn (.row (treasuryCode txn.treasury treasury.kind))) := by
  rw [syncTxn, Txn.get_bind] at returned
  cases stored : before.shop.transactions.get? pk with
  | none =>
      rw [stored] at returned
      obtain ⟨-, rfl⟩ := Txn.pure_eq_ok.mp returned
      refine ⟨.refl _ _, ?_⟩
      intro txn found
      cases found
  | some txn =>
      rw [stored] at returned
      simp only [syncStored, Txn.bind_eq_ok, Txn.expect_eq_ok] at returned
      obtain ⟨treasury, _, ⟨held, rfl⟩, account, middle, resolved, posted⟩ :=
        returned
      obtain ⟨rfl, grown⟩ := treasuryAccount_ok resolved
      obtain ⟨step, shows⟩ := syncDocument_ok posted
      refine ⟨(grown.mono fun _ none => none.elim).trans step, ?_⟩
      intro other found
      cases found
      exact ⟨treasury, held, shows⟩

theorem posts_syncCustomer (pk : ℕ) :
    Posts (fun other => other = .customer pk) (syncCustomer pk) :=
  posts_get fun _ => posts_syncStored fun _ => posts_syncDocument _ _ _

theorem posts_syncSupplier (pk : ℕ) :
    Posts (fun other => other = .supplier pk) (syncSupplier pk) :=
  posts_get fun _ => posts_syncStored fun _ => posts_syncDocument _ _ _

theorem posts_followRow {stored : Bool} {synchronise : PressTxn PUnit}
    {document : PrintDocument}
    (posts : Posts (fun other => other = document) synchronise) :
    Posts (fun other => other = document)
      (followRow stored synchronise document) := by
  unfold followRow
  apply posts_safely
  cases stored with
  | true => exact posts
  | false => exact posts_syncDocument _ _ _

theorem posts_onTxnChanged (pk : ℕ) (customer supplier : Option ℕ) :
    Posts (ofTransaction pk) (onTxnChanged pk customer supplier) := by
  refine posts_get fun press => posts_bind ?_ fun _ => posts_bind ?_ fun _ => ?_
  · refine (posts_followRow fun _ _ _ returned => (syncTxn_ok returned).1).mono ?_
    rintro document rfl
    rfl
  · refine posts_forM fun party _ => posts_safely ((posts_syncCustomer party).mono ?_)
    rintro document rfl
    trivial
  · refine posts_forM fun party _ => posts_safely ((posts_syncSupplier party).mono ?_)
    rintro document rfl
    trivial

end Mousstec.Printing
