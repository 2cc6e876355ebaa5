import Mousstec.Printing.TreasuryRuns

/-!
# The life of a cheque

A cheque waits in its wallet until it is cleared into real money or bounces.
Each step is made of plain transactions, so what the wallet holds, what the
cheque has moved and what it has paid are sums over the transactions.  They are
shown to depend on the stored cheques and their status only.
-/

namespace Mousstec.Printing

open Library

/-- A document or a party that money is paid on. -/
inductive PaidDocument where
  | order (pk : ℕ)
  | purchase (pk : ℕ)
  | bill (pk : ℕ)
  | customer (pk : ℕ)
  | supplier (pk : ℕ)

def PaidDocument.selects : PaidDocument → PrintTransaction → Bool
  | .order pk, txn => txn.order = some pk
  | .purchase pk, txn => txn.purchase = some pk
  | .bill pk, txn => txn.bill = some pk
  | .customer pk, txn => txn.customer = some pk
  | .supplier pk, txn => txn.supplier = some pk

def Shop.netPaid (shop : Shop) (document : PaidDocument) : ℤ :=
  shop.ins document.selects - shop.outs document.selects

def PrintCheque.pays (cheque : PrintCheque) (shop : Shop)
    (document : PaidDocument) : ℤ :=
  ((cheque.registration 0).fillLinks shop).effectIf document.selects

def PrintCheque.standing (cheque : PrintCheque) (shop : Shop)
    (document : PaidDocument) : ℤ :=
  if cheque.status = .bounced then 0 else cheque.pays shop document

def chequeWallet : TransactionType → SystemWallet
  | .moneyIn => .chequesIn
  | .moneyOut => .chequesOut

theorem PrintCheque.wallet_eq (cheque : PrintCheque) :
    cheque.wallet = chequeWallet cheque.direction := by
  unfold PrintCheque.wallet
  cases cheque.direction <;> rfl

def PrintCheque.waiting (cheque : PrintCheque) (direction : TransactionType) :
    ℤ :=
  if cheque.status = .pending ∧ cheque.direction = direction then
    signed direction cheque.amount
  else 0

def Shop.waiting (shop : Shop) (direction : TransactionType) : ℤ :=
  shop.cheques.total fun _ cheque => cheque.waiting direction

def Shop.walletBalance (shop : Shop) (direction : TransactionType) : ℤ :=
  (((shop.wallets (chequeWallet direction)).bind shop.treasuries.get?).map
    PrintTreasury.balance).getD 0

structure Registers (start shop : Shop) (cheque : PrintCheque)
    (row : PrintTransaction) : Prop where
  wallet : shop.wallets cheque.wallet = some row.treasury
  type : row.transactionType = cheque.direction
  amount : row.amount = cheque.amount
  pays : ∀ document, row.effectIf document.selects =
    cheque.pays start document
  unlinked : row.withholdingTxn = none

/-- A link leads to a stored transaction of a treasury, type and amount. -/
def Shop.Moves (shop : Shop) (link : Option ℕ) (treasury : ℕ)
    (type : TransactionType) (amount : ℤ) : Prop :=
  ∃ row, link.bind shop.transactions.get? = some row ∧
    row.treasury = treasury ∧ row.transactionType = type ∧ row.amount = amount

/-- The transfer moved the amount of the cheque between its wallet and real
money, out of the one and into the other. -/
structure Settles (shop : Shop) (cheque : PrintCheque)
    (transfer : PrintTreasuryTransfer) : Prop where
  between : ∃ wallet bank stored, shop.wallets cheque.wallet = some wallet ∧
    shop.treasuries.get? bank = some stored ∧ stored.isMoney = true ∧
    (transfer.fromTreasury, transfer.toTreasury) =
      match cheque.direction with
      | .moneyIn => (wallet, bank)
      | .moneyOut => (bank, wallet)
  amount : transfer.amount = cheque.amount
  out : shop.Moves transfer.outTxn transfer.fromTreasury .moneyOut cheque.amount
  into : shop.Moves transfer.inTxn transfer.toTreasury .moneyIn cheque.amount

/-- What is stored for the status of a cheque. -/
inductive Stands (shop : Shop) (cheque : PrintCheque) : Prop where
  | pending (status : cheque.status = .pending)
      (unsettled : cheque.settleTransfer = none)
      (unbounced : cheque.bounceTxn = none)
  | cleared (transfer : PrintTreasuryTransfer) (status : cheque.status = .cleared)
      (stored : cheque.settleTransfer.bind shop.transfers.get? = some transfer)
      (settles : Settles shop cheque transfer)
      (unbounced : cheque.bounceTxn = none)
  | bounced (status : cheque.status = .bounced)
      (unsettled : cheque.settleTransfer = none)

def PrintCheque.Uses (cheque : PrintCheque) (txn : ℕ) : Prop :=
  cheque.txn = some txn ∨ cheque.bounceTxn = some txn

/-- Wallets, transactions and paid amounts are as the stored cheques say. -/
structure Lifecycle (opening : ℕ → ℤ) (start shop : Shop) : Prop where
  valid : Valid opening shop
  documents : SameDocuments start shop
  paid : PaidUp shop
  registered : ∀ pk cheque, shop.cheques.get? pk = some cheque →
    ∃ row, cheque.txn.bind shop.transactions.get? = some row ∧
      Registers start shop cheque row
  stands : ∀ pk cheque, shop.cheques.get? pk = some cheque →
    Stands shop cheque
  used : ∀ pk cheque txn, shop.cheques.get? pk = some cheque →
    cheque.Uses txn → txn < shop.transactions.next
  own : ∀ first second cheque other txn,
    shop.cheques.get? first = some cheque →
    shop.cheques.get? second = some other → cheque.Uses txn → other.Uses txn →
    first = second
  single : ∀ first second cheque other transfer,
    shop.cheques.get? first = some cheque →
    shop.cheques.get? second = some other →
    cheque.settleTransfer = some transfer →
    other.settleTransfer = some transfer → first = second
  wallet : ∀ direction pk, shop.wallets (chequeWallet direction) = some pk →
    opening pk + shop.moved pk = shop.waiting direction
  net : ∀ document, shop.netPaid document = start.netPaid document +
    shop.cheques.total fun _ cheque => cheque.standing start document

/-- Nothing that a cheque stands on is lost, but for some transactions. -/
structure Grows (lost : ℕ → Prop) (before after : Shop) : Prop where
  rows : ∀ pk row, before.transactions.get? pk = some row → ¬ lost pk →
    after.transactions.get? pk = some row
  wallets : ∀ wallet pk, before.wallets wallet = some pk →
    after.wallets wallet = some pk
  kinds : ∀ treasury stored, before.treasuries.get? treasury = some stored →
    ∃ kept, after.treasuries.get? treasury = some kept ∧
      kept.kind = stored.kind
  transfers : ∀ pk transfer, before.transfers.get? pk = some transfer →
    after.transfers.get? pk = some transfer ∧
      ∀ txn, lost txn → transfer.outTxn ≠ some txn ∧ transfer.inTxn ≠ some txn

abbrev GrowsAll (before after : Shop) : Prop :=
  Grows (fun _ => False) before after

section Growth

variable {lost : ℕ → Prop} {start before middle after : Shop}
  {cheque : PrintCheque}

theorem Grows.all (rows : ∀ pk row, before.transactions.get? pk = some row →
      after.transactions.get? pk = some row)
    (wallets : ∀ wallet pk, before.wallets wallet = some pk →
      after.wallets wallet = some pk)
    (kinds : ∀ treasury stored, before.treasuries.get? treasury = some stored →
      ∃ kept, after.treasuries.get? treasury = some kept ∧
        kept.kind = stored.kind)
    (transfers : ∀ pk transfer, before.transfers.get? pk = some transfer →
      after.transfers.get? pk = some transfer) : GrowsAll before after where
  rows pk row stored _ := rows pk row stored
  wallets := wallets
  kinds := kinds
  transfers pk transfer stored :=
    ⟨transfers pk transfer stored, fun _ impossible => impossible.elim⟩

theorem Grows.trans (left : GrowsAll before middle)
    (right : GrowsAll middle after) : GrowsAll before after := by
  apply Grows.all
  · intro pk row stored
    exact right.rows pk row (left.rows pk row stored not_false) not_false
  · intro wallet pk known
    exact right.wallets wallet pk (left.wallets wallet pk known)
  · intro treasury stored found
    obtain ⟨kept, present, same⟩ := left.kinds treasury stored found
    obtain ⟨last, present, equal⟩ := right.kinds treasury kept present
    exact ⟨last, present, equal.trans same⟩
  · intro pk transfer stored
    exact (right.transfers pk transfer (left.transfers pk transfer stored).1).1

theorem Stored.grows {txn row : PrintTransaction} {key : ℕ}
    (step : Stored none txn key row before after) : GrowsAll before after := by
  apply Grows.all
  · intro pk old stored
    have used := Table.get?_lt stored
    have fresh := step.key_eq
    simp only [Option.getD_none] at fresh
    rw [step.rows, if_neg (by omega), stored]
  · intro wallet pk known
    exact step.wallets known
  · intro treasury stored found
    rw [step.treasuries, found]
    exact ⟨_, rfl, rfl⟩
  · intro pk transfer stored
    rw [step.transfers, stored]

theorem Walleted.grows {wallet : SystemWallet} {pk : ℕ}
    (step : Walleted wallet pk before after) : GrowsAll before after := by
  have rest := step.rest
  apply Grows.all
  · intro key row stored
    rw [rest]
    exact stored
  · intro other first known
    exact step.firstOfKind known
  · intro treasury stored found
    rcases step.treasuries with ⟨same, -⟩ | ⟨added, -, -⟩
    · rw [same]
      exact ⟨stored, found, rfl⟩
    · rw [added]
      exact ⟨stored, Table.get?_insert_of_some found _, rfl⟩
  · intro key transfer stored
    rw [rest]
    exact stored

theorem Grows.moves (grows : Grows lost before after) {link : Option ℕ}
    {treasury : ℕ} {type : TransactionType} {amount : ℤ}
    (moves : before.Moves link treasury type amount)
    (kept : ∀ txn, lost txn → link ≠ some txn) :
    after.Moves link treasury type amount := by
  obtain ⟨row, stored, fits⟩ := moves
  obtain ⟨txn, rfl, found⟩ := Option.bind_eq_some_iff.mp stored
  refine ⟨row, ?_, fits⟩
  exact grows.rows txn row found fun gone => kept txn gone rfl

theorem Grows.stands (grows : Grows lost before after)
    (stands : Stands before cheque) : Stands after cheque := by
  cases stands with
  | pending status unsettled unbounced =>
      exact .pending status unsettled unbounced
  | cleared transfer status stored settles unbounced =>
      obtain ⟨key, link, found⟩ := Option.bind_eq_some_iff.mp stored
      obtain ⟨present, legs⟩ := grows.transfers key transfer found
      refine .cleared transfer status ?_ ?_ unbounced
      · rw [link]
        exact present
      · obtain ⟨wallet, bank, held, first, known, money, ends⟩ := settles.between
        obtain ⟨kept, known, kind⟩ := grows.kinds bank held known
        have still : kept.isMoney = true := by
          rw [PrintTreasury.isMoney, kind]
          exact money
        exact
          { between := ⟨wallet, bank, kept, grows.wallets _ _ first, known,
              still, ends⟩
            amount := settles.amount
            out := grows.moves settles.out fun txn gone => (legs txn gone).1
            into := grows.moves settles.into fun txn gone => (legs txn gone).2 }
  | bounced status unsettled => exact .bounced status unsettled

theorem Grows.registered (grows : Grows lost before after)
    {row : PrintTransaction}
    (stored : cheque.txn.bind before.transactions.get? = some row)
    (registers : Registers start before cheque row)
    (kept : ∀ txn, lost txn → cheque.txn ≠ some txn) :
    ∃ row, cheque.txn.bind after.transactions.get? = some row ∧
      Registers start after cheque row := by
  obtain ⟨txn, link, found⟩ := Option.bind_eq_some_iff.mp stored
  refine ⟨row, ?_, ?_⟩
  · rw [link]
    exact grows.rows txn row found fun gone => kept txn gone link
  · exact ⟨grows.wallets _ _ registers.wallet, registers.type,
      registers.amount, registers.pays, registers.unlinked⟩

end Growth
section Rows

variable {start shop : Shop} {cheque : PrintCheque}

def PrintTransaction.links (txn : PrintTransaction) :
    Option ℕ × Option ℕ × Option ℕ × Option ℕ × Option ℕ :=
  (txn.order, txn.purchase, txn.bill, txn.customer, txn.supplier)

theorem PaidDocument.selects_congr (document : PaidDocument)
    {left right : PrintTransaction} (same : left.links = right.links) :
    document.selects left = document.selects right := by
  simp only [PrintTransaction.links, Prod.mk.injEq] at same
  obtain ⟨order, purchase, bill, customer, supplier⟩ := same
  cases document with
  | order pk => simp [PaidDocument.selects, order]
  | purchase pk => simp [PaidDocument.selects, purchase]
  | bill pk => simp [PaidDocument.selects, bill]
  | customer pk => simp [PaidDocument.selects, customer]
  | supplier pk => simp [PaidDocument.selects, supplier]

theorem PaidDocument.ignoresCompanion (document : PaidDocument) :
    IgnoresCompanion (PrintTransaction.effectIf document.selects) := by
  intro row link
  have same : document.selects { row with withholdingTxn := link } =
      document.selects row := document.selects_congr rfl
  unfold PrintTransaction.effectIf
  rw [same]
  rfl

theorem links_fillLinks (same : SameDocuments start shop)
    {left right : PrintTransaction} (links : left.links = right.links) :
    (left.fillLinks shop).links = (right.fillLinks start).links := by
  have customer : left.linkedCustomer start = right.linkedCustomer start := by
    simp only [PrintTransaction.links, Prod.mk.injEq] at links
    unfold PrintTransaction.linkedCustomer
    rw [links.1, links.2.2.2.1]
  have supplier : left.linkedSupplier start = right.linkedSupplier start := by
    simp only [PrintTransaction.links, Prod.mk.injEq] at links
    unfold PrintTransaction.linkedSupplier
    rw [links.2.1, links.2.2.1, links.2.2.2.2]
  simp only [PrintTransaction.links, Prod.mk.injEq] at links ⊢
  refine ⟨links.1, links.2.1, links.2.2.1, ?_, ?_⟩
  · exact (same.linkedCustomer left).trans customer
  · exact (same.linkedSupplier left).trans supplier

theorem PrintCheque.withLinks_links {left right : PrintTransaction}
    (links : left.links = right.links) :
    (cheque.withLinks left).links = (cheque.withLinks right).links := by
  simp only [PrintTransaction.links, Prod.mk.injEq] at links
  unfold PrintCheque.withLinks
  cases cheque.direction with
  | moneyIn => simp [PrintTransaction.links, links]
  | moneyOut => simp [PrintTransaction.links, links]

theorem PrintCheque.effect_withLinks (txn : PrintTransaction) :
    (cheque.withLinks txn).effect = txn.effect ∧
      (cheque.withLinks txn).treasury = txn.treasury ∧
      (cheque.withLinks txn).transactionType = txn.transactionType ∧
      (cheque.withLinks txn).amount = txn.amount ∧
      (cheque.withLinks txn).withholdingTax = txn.withholdingTax ∧
      (cheque.withLinks txn).withholdingTxn = txn.withholdingTxn := by
  unfold PrintCheque.withLinks
  cases cheque.direction <;> exact ⟨rfl, rfl, rfl, rfl, rfl, rfl⟩

theorem effect_registration (wallet : ℕ) :
    (cheque.registration wallet).effect =
      signed cheque.direction cheque.amount :=
  (cheque.effect_withLinks _).1

theorem effect_reversal (wallet : ℕ) (day : Date) (reason : String) :
    (cheque.reversal wallet day reason).effect =
      -signed cheque.direction cheque.amount := by
  refine (cheque.effect_withLinks _).1.trans ?_
  unfold PrintTransaction.effect
  cases cheque.direction with
  | moneyIn => rfl
  | moneyOut => simp [signed]

theorem effectIf_registration (same : SameDocuments start shop) (wallet : ℕ)
    (document : PaidDocument) :
    ((cheque.registration wallet).fillLinks shop).effectIf document.selects =
      cheque.pays start document := by
  have links : (cheque.registration wallet).links =
      (cheque.registration 0).links := PrintCheque.withLinks_links rfl
  unfold PrintCheque.pays PrintTransaction.effectIf
  rw [document.selects_congr (links_fillLinks same links)]
  change (if _ then (cheque.registration wallet).effect else 0) =
    if _ then (cheque.registration 0).effect else 0
  rw [effect_registration, effect_registration]

theorem effectIf_reversal (same : SameDocuments start shop) (wallet : ℕ)
    (day : Date) (reason : String) (document : PaidDocument) :
    ((cheque.reversal wallet day reason).fillLinks shop).effectIf
      document.selects = -cheque.pays start document := by
  have links : (cheque.reversal wallet day reason).links =
      (cheque.registration 0).links := PrintCheque.withLinks_links rfl
  unfold PrintCheque.pays PrintTransaction.effectIf
  rw [document.selects_congr (links_fillLinks same links)]
  change (if _ then (cheque.reversal wallet day reason).effect else 0) =
    -if _ then (cheque.registration 0).effect else 0
  rw [effect_registration, effect_reversal]
  split
  · rfl
  · exact neg_zero.symm

theorem effectIf_leg (transfer : PrintTreasuryTransfer) (treasury : ℕ)
    (type : TransactionType) (label : String) (document : PaidDocument) :
    ((transferLeg transfer treasury type label).fillLinks shop).effectIf
      document.selects = 0 := by
  unfold PrintTransaction.effectIf
  rw [if_neg]
  cases document <;> simp [PaidDocument.selects, transferLeg,
    PrintTransaction.fillLinks, PrintTransaction.linkedCustomer,
    PrintTransaction.linkedSupplier]

theorem wallets_injective {first second : SystemWallet} {pk : ℕ}
    (left : shop.wallets first = some pk)
    (right : shop.wallets second = some pk) : first = second := by
  obtain ⟨stored, found, kind⟩ := firstOfKind_some left
  obtain ⟨other, present, same⟩ := firstOfKind_some right
  rw [found, Option.some.injEq] at present
  subst present
  rw [kind] at same
  injection same

theorem chequeWallet_injective {first second : TransactionType}
    (same : chequeWallet first = chequeWallet second) : first = second := by
  cases first <;> cases second <;> first | rfl | cases same

end Rows
/-- The cheque under one key is written; the other cheques are as before. -/
structure Written (key : ℕ) (cheque : PrintCheque) (before after : Shop) :
    Prop where
  lookup : ∀ pk, after.cheques.get? pk =
    if pk = key then some cheque else before.cheques.get? pk
  total : ∀ measure : PrintCheque → ℤ,
    (after.cheques.total fun _ cheque => measure cheque) =
      (before.cheques.total fun _ cheque => measure cheque) + measure cheque -
        ((before.cheques.get? key).map measure).getD 0

section Writing

variable {opening : ℕ → ℤ} {start before after : Shop} {key : ℕ}
  {cheque : PrintCheque}

theorem Written.modify {old : PrintCheque} {shop : Shop}
    (change : PrintCheque → PrintCheque) (same : shop.cheques = before.cheques)
    (found : before.cheques.get? key = some old) :
    Written key (change old) before (shop.modifyCheque key change) where
  lookup pk := by
    unfold Shop.modifyCheque
    rw [same]
    simp only [Table.get?_modify]
    split
    · rename_i same
      rw [found]
      rfl
    · rfl
  total measure := by
    unfold Shop.modifyCheque
    rw [same, found, Option.map_some, Option.getD_some]
    simp only
    rw [Table.total_modify found]
    ring

theorem Written.insert {fresh : PrintCheque} {shop : Shop}
    (change : PrintCheque → PrintCheque)
    (same : shop.cheques = before.cheques.insert fresh) :
    Written before.cheques.next (change fresh) before
      (shop.modifyCheque before.cheques.next change) where
  lookup pk := by
    unfold Shop.modifyCheque
    rw [same]
    simp only [Table.get?_modify]
    split
    · rw [Table.get?_insert_next]
      rfl
    · rename_i different
      rw [Table.get?_insert, if_neg different]
  total measure := by
    have found : (before.cheques.insert fresh).get? before.cheques.next =
        some fresh := Table.get?_insert_next _ _
    unfold Shop.modifyCheque
    rw [same, Table.get?_next]
    simp only
    rw [Table.total_modify found, Table.total_insert]
    simp only [Option.map_none, Option.getD_none]
    ring

theorem Lifecycle.walletBefore (life : Lifecycle opening start before)
    (kinds : KindsKept before after)
    (stable : ∀ wallet pk, before.wallets wallet = some pk →
      after.wallets wallet = some pk)
    {direction : TransactionType} {pk : ℕ}
    (known : after.wallets (chequeWallet direction) = some pk) :
    opening pk + before.moved pk = before.waiting direction := by
  cases former : before.wallets (chequeWallet direction) with
  | some first =>
      have same := (stable _ first former).symm.trans known
      rw [Option.some.injEq] at same
      exact same ▸ life.wallet direction first former
  | none =>
      have fresh : before.treasuries.next ≤ pk := by
        obtain ⟨stored, found, kind⟩ := firstOfKind_some known
        rcases kinds.kind pk stored found with ⟨old, present, same⟩ | fresh
        · exfalso
          rw [kind] at same
          have missing := List.find?_eq_none.mp (Option.map_eq_none_iff.mp former)
          have differs := missing _ (Table.get?_eq_some.mp present)
          simp [same] at differs
        · exact fresh
      have none : before.waiting direction = 0 := by
        apply Table.total_eq_zero
        intro other cheque found
        obtain ⟨row, -, registers⟩ := life.registered other cheque found
        have wallet := registers.wallet
        rw [PrintCheque.waiting, if_neg]
        rintro ⟨-, rfl⟩
        rw [cheque.wallet_eq, former] at wallet
        cases wallet
      rw [none, life.valid.balanced.unopened pk fresh,
        (life.valid.balanced.untouched fresh).1]
      rfl

/-- What writing one cheque has to respect to keep the invariant. -/
structure Rewriting (opening : ℕ → ℤ) (start : Shop) (key : ℕ)
    (cheque : PrintCheque) (before after : Shop) : Prop where
  valid : Valid opening after
  documents : SameDocuments before after
  paid : PaidUp before → PaidUp after
  grows : GrowsAll before after
  kinds : KindsKept before after
  written : Written key cheque before after
  next : before.transactions.next ≤ after.transactions.next
  registered : ∃ row, cheque.txn.bind after.transactions.get? = some row ∧
    Registers start after cheque row
  stands : Stands after cheque
  used : ∀ txn, cheque.Uses txn → txn < after.transactions.next
  own : ∀ txn, cheque.Uses txn → before.transactions.next ≤ txn ∨
    ∃ old, before.cheques.get? key = some old ∧ old.Uses txn
  single : ∀ transfer, cheque.settleTransfer = some transfer →
    before.transfers.next ≤ transfer ∨
      ∃ old, before.cheques.get? key = some old ∧
        old.settleTransfer = some transfer
  wallet : ∀ direction pk, after.wallets (chequeWallet direction) = some pk →
    after.moved pk = before.moved pk + cheque.waiting direction -
      ((before.cheques.get? key).map fun old => old.waiting direction).getD 0
  net : ∀ document, after.netPaid document = before.netPaid document +
    cheque.standing start document -
      ((before.cheques.get? key).map fun old =>
        old.standing start document).getD 0

theorem Stands.settled {shop : Shop} (stands : Stands shop cheque)
    {transfer : ℕ} (link : cheque.settleTransfer = some transfer) :
    transfer < shop.transfers.next := by
  cases stands with
  | pending _ unsettled _ =>
      rw [unsettled] at link
      cases link
  | cleared row _ stored _ _ =>
      rw [link] at stored
      exact Table.get?_lt stored
  | bounced _ unsettled =>
      rw [unsettled] at link
      cases link

theorem Lifecycle.rewrite (life : Lifecycle opening start before)
    (step : Rewriting opening start key cheque before after) :
    Lifecycle opening start after := by
  have kept : ∀ {pk row}, after.cheques.get? pk = some row → pk ≠ key →
      before.cheques.get? pk = some row := by
    intro pk row found different
    rwa [step.written.lookup, if_neg different] at found
  have new : ∀ {row}, after.cheques.get? key = some row → row = cheque := by
    intro row found
    rw [step.written.lookup, if_pos rfl, Option.some.injEq] at found
    exact found.symm
  -- A link of the written cheque is new or was its own.
  have ownLinks : ∀ other row txn, after.cheques.get? other = some row →
      other ≠ key → row.Uses txn → ¬ cheque.Uses txn := by
    intro other row txn found different uses written
    have former := kept found different
    rcases step.own txn written with fresh | ⟨old, present, used⟩
    · exact absurd (life.used other row txn former uses) (not_lt.mpr fresh)
    · exact different (life.own other key row old txn former present uses used)
  have ownTransfers : ∀ other row transfer,
      after.cheques.get? other = some row → other ≠ key →
      row.settleTransfer = some transfer →
      cheque.settleTransfer ≠ some transfer := by
    intro other row transfer found different link written
    have former := kept found different
    rcases step.single transfer written with fresh | ⟨old, present, used⟩
    · exact absurd ((life.stands other row former).settled link)
        (not_lt.mpr fresh)
    · exact different
        (life.single other key row old transfer former present link used)
  constructor
  · exact step.valid
  · exact life.documents.trans step.documents
  · exact step.paid life.paid
  · intro pk row found
    by_cases same : pk = key
    · subst same
      exact new found ▸ step.registered
    · obtain ⟨txn, stored, registers⟩ := life.registered pk row (kept found same)
      exact step.grows.registered stored registers fun _ impossible =>
        impossible.elim
  · intro pk row found
    by_cases same : pk = key
    · subst same
      exact new found ▸ step.stands
    · exact step.grows.stands (life.stands pk row (kept found same))
  · intro pk row txn found uses
    by_cases same : pk = key
    · subst same
      exact step.used txn (new found ▸ uses)
    · exact (life.used pk row txn (kept found same) uses).trans_le step.next
  · intro first second row other txn foundFirst foundSecond usesFirst usesSecond
    by_cases sameFirst : first = key
    · by_cases sameSecond : second = key
      · rw [sameFirst, sameSecond]
      · subst sameFirst
        rw [new foundFirst] at usesFirst
        exact absurd usesFirst
          (ownLinks second other txn foundSecond sameSecond usesSecond)
    · by_cases sameSecond : second = key
      · subst sameSecond
        rw [new foundSecond] at usesSecond
        exact absurd usesSecond
          (ownLinks first row txn foundFirst sameFirst usesFirst)
      · exact life.own first second row other txn (kept foundFirst sameFirst)
          (kept foundSecond sameSecond) usesFirst usesSecond
  · intro first second row other transfer foundFirst foundSecond linkFirst
      linkSecond
    by_cases sameFirst : first = key
    · by_cases sameSecond : second = key
      · rw [sameFirst, sameSecond]
      · subst sameFirst
        rw [new foundFirst] at linkFirst
        exact absurd linkFirst
          (ownTransfers second other transfer foundSecond sameSecond linkSecond)
    · by_cases sameSecond : second = key
      · subst sameSecond
        rw [new foundSecond] at linkSecond
        exact absurd linkSecond
          (ownTransfers first row transfer foundFirst sameFirst linkFirst)
      · exact life.single first second row other transfer
          (kept foundFirst sameFirst) (kept foundSecond sameSecond) linkFirst
          linkSecond
  · intro direction pk known
    have former := life.walletBefore step.kinds step.grows.wallets known
    have total := step.written.total fun row => row.waiting direction
    unfold Shop.waiting at former ⊢
    rw [step.wallet direction pk known, total]
    linarith
  · intro document
    have total := step.written.total fun row => row.standing start document
    rw [step.net, life.net, total]
    ring

end Writing
namespace PrintCheque

def markRegistered (txn : ℕ) (cheque : PrintCheque) : PrintCheque :=
  { cheque with txn := some txn }

def markCleared (day : Date) (transfer : ℕ) (cheque : PrintCheque) :
    PrintCheque :=
  { cheque with
    status := .cleared
    settledOn := some day
    settleTransfer := some transfer }

def markBounced (day : Date) (bounce : ℕ) (cheque : PrintCheque) :
    PrintCheque :=
  { cheque with
    status := .bounced
    bouncedOn := some day
    bounceTxn := some bounce }

end PrintCheque

/-- What every step of an operation on cheques keeps. -/
structure Progress (before after : Shop) : Prop where
  documents : SameDocuments before after
  paid : PaidUp before → PaidUp after
  grows : GrowsAll before after
  kinds : KindsKept before after
  next : before.transactions.next ≤ after.transactions.next
  transfers : before.transfers.next ≤ after.transfers.next

section Steps

variable {before middle after : Shop}

theorem Progress.trans (left : Progress before middle)
    (right : Progress middle after) : Progress before after where
  documents := left.documents.trans right.documents
  paid paid := right.paid (left.paid paid)
  grows := left.grows.trans right.grows
  kinds := left.kinds.trans right.kinds
  next := left.next.trans right.next
  transfers := left.transfers.trans right.transfers

theorem Progress.cheques (step : Progress before after)
    (first last : Table PrintCheque) :
    Progress { before with cheques := first } { after with cheques := last } where
  documents := ⟨step.documents.orders, step.documents.purchases,
    step.documents.bills, step.documents.customers, step.documents.allocations,
    step.documents.supplierAllocations, step.documents.fixedAssets,
    step.documents.stock⟩
  paid paid :=
    have upToDate := step.paid ⟨paid.orders, paid.purchases, paid.bills⟩
    ⟨upToDate.orders, upToDate.purchases, upToDate.bills⟩
  grows := ⟨step.grows.rows, step.grows.wallets, step.grows.kinds,
    step.grows.transfers⟩
  kinds := ⟨step.kinds.kind, step.kinds.next⟩
  next := step.next
  transfers := step.transfers

theorem Walleted.progress {wallet : SystemWallet} {pk : ℕ}
    (step : Walleted wallet pk before after) : Progress before after where
  documents := step.documents
  paid paid := by
    rw [step.rest]
    exact ⟨paid.orders, paid.purchases, paid.bills⟩
  grows := step.grows
  kinds := step.kindsKept
  next := by
    rw [step.rest]
  transfers := by
    rw [step.rest]

theorem Stored.nextTransaction {txn row : PrintTransaction} {key : ℕ}
    (step : Stored none txn key row before after) :
    key = before.transactions.next ∧
      after.transactions.next = before.transactions.next + 1 := by
  refine ⟨step.key_eq, ?_⟩
  rw [step.transactions]
  rfl

theorem Stored.progress {txn row : PrintTransaction} {key : ℕ}
    (step : Stored none txn key row before after) : Progress before after where
  documents := step.documents
  paid := step.paid
  grows := step.grows
  kinds := step.kindsKept
  next := by
    rw [step.nextTransaction.2]
    exact Nat.le_succ _
  transfers := by
    rw [step.transfers]

theorem progress_insertTransfer (shop : Shop)
    (transfer : PrintTreasuryTransfer) :
    Progress shop
      { shop with transfers := shop.transfers.insert transfer } where
  documents := ⟨rfl, rfl, rfl, rfl, rfl, rfl, rfl, rfl⟩
  paid paid := ⟨paid.orders, paid.purchases, paid.bills⟩
  grows := by
    apply Grows.all
    · intro pk row stored
      exact stored
    · intro wallet pk known
      exact known
    · intro treasury stored found
      exact ⟨stored, found, rfl⟩
    · intro pk row stored
      exact Table.get?_insert_of_some stored _
  kinds := .of_eq rfl
  next := Nat.le_refl _
  transfers := by
    simp

theorem createTransaction_stored {txn : PrintTransaction} {key : ℕ}
    (returned : createTransaction txn before = .ok key after)
    (free : txn.withholdingTax ≤ 0) (unlinked : txn.withholdingTxn = none) :
    Stored none txn key (txn.fillLinks before) before after := by
  have same : { txn with withholdingTxn := none } = txn := by
    rw [← unlinked]
  have saved := createTransaction_saving returned
  rw [same] at saved
  exact saved.unwithheld free unlinked

theorem Stored.row {txn row : PrintTransaction} {key : ℕ} {pk : Option ℕ}
    (step : Stored pk txn key row before after) :
    after.transactions.get? key = some row := by
  rw [step.rows, if_pos rfl]

end Steps

section Register

variable {opening : ℕ → ℤ} {start before after : Shop} {cheque : PrintCheque}

theorem registration_free (wallet : ℕ) :
    (cheque.registration wallet).withholdingTax ≤ 0 ∧
      (cheque.registration wallet).withholdingTxn = none := by
  have same := cheque.effect_withLinks
  exact ⟨(same _).2.2.2.2.1.le, (same _).2.2.2.2.2⟩

theorem netPaid_eq (shop : Shop) (document : PaidDocument) :
    shop.netPaid document =
      shop.sum (PrintTransaction.effectIf document.selects) :=
  shop.ins_sub_outs _

theorem effectOn_registration (shop : Shop) (wallet pk : ℕ) :
    ((cheque.registration wallet).fillLinks shop).effectOn pk =
      if wallet = pk then signed cheque.direction cheque.amount else 0 := by
  have same := (cheque.effect_withLinks
    { treasury := wallet, transactionType := cheque.direction,
      amount := cheque.amount }).1
  change (if (cheque.registration wallet).treasury = pk then
    (cheque.registration wallet).effect else 0) = _
  have treasury : (cheque.registration wallet).treasury = wallet :=
    (cheque.effect_withLinks _).2.1
  rw [treasury, effect_registration]

/-- The wallet a cheque is in is the wallet of its direction only. -/
theorem wallet_iff {shop : Shop} {wallet pk : ℕ} {direction : TransactionType}
    (own : shop.wallets cheque.wallet = some wallet)
    (known : shop.wallets (chequeWallet direction) = some pk) :
    wallet = pk ↔ cheque.direction = direction := by
  rw [cheque.wallet_eq] at own
  constructor
  · rintro rfl
    exact chequeWallet_injective (wallets_injective own known)
  · rintro rfl
    rw [own, Option.some.injEq] at known
    exact known

theorem waiting_pending (pending : cheque.status = .pending)
    (direction : TransactionType) :
    cheque.waiting direction =
      if cheque.direction = direction then
        signed cheque.direction cheque.amount
      else 0 := by
  simp only [PrintCheque.waiting, pending, true_and]
  split
  · rename_i same
    rw [same]
  · rfl

theorem registerCheque_written {pk : ℕ}
    (returned : registerCheque cheque before = .ok pk after) :
    ∃ txn, Written before.cheques.next (cheque.fresh.markRegistered txn) before
      after := by
  obtain ⟨wallet, txn, first, second, rfl, made, created, rfl⟩ :=
    registerCheque_ok returned
  have stored := createTransaction_stored created (registration_free _).1
    (registration_free _).2
  refine ⟨txn, .insert (.markRegistered txn) ?_⟩
  rw [stored.cheques, (systemWallet_ok made).rest]

theorem registerCheque_lifecycle {pk : ℕ}
    (returned : registerCheque cheque before = .ok pk after)
    (life : Lifecycle opening start before) :
    Lifecycle opening start after := by
  have valid := registerCheque_valid returned life.valid
  obtain ⟨wallet, txn, first, second, rfl, made, created, rfl⟩ :=
    registerCheque_ok returned
  have walleted := systemWallet_ok made
  have stored := createTransaction_stored created (registration_free _).1
    (registration_free _).2
  have progress := (walleted.progress.trans stored.progress).cheques
    before.cheques (second.modifyCheque before.cheques.next
      (.markRegistered txn)).cheques
  have cheques : second.cheques = before.cheques.insert cheque.fresh := by
    rw [stored.cheques, walleted.rest]
  have same := life.documents.trans
    (walleted.progress.cheques before.cheques first.cheques).documents
  have own : second.wallets cheque.wallet = some wallet :=
    stored.wallets walleted.first
  have nothing : before.cheques.get? before.cheques.next = none :=
    Table.get?_next _
  have next : txn = before.transactions.next := by
    rw [stored.nextTransaction.1, walleted.rest]
  have step : Rewriting opening start before.cheques.next
      (cheque.fresh.markRegistered txn) before
      (second.modifyCheque before.cheques.next (.markRegistered txn)) :=
    { valid
      documents := progress.documents
      paid := progress.paid
      grows := progress.grows
      kinds := progress.kinds
      written := .insert (.markRegistered txn) cheques
      next := progress.next
      registered := ⟨_, stored.row,
        { wallet := by
            have treasury : (cheque.registration wallet).treasury = wallet :=
              (cheque.effect_withLinks _).2.1
            exact own.trans (congrArg some treasury.symm)
          type := (cheque.effect_withLinks _).2.2.1
          amount := (cheque.effect_withLinks _).2.2.2.1
          pays := effectIf_registration same wallet
          unlinked := (registration_free wallet).2 }⟩
      stands := .pending rfl rfl rfl
      used := by
        rintro other (link | link)
        · cases link
          exact Table.get?_lt stored.row
        · cases link
      own := by
        rintro other (link | link)
        · cases link
          exact .inl next.ge
        · cases link
      single := by
        intro transfer link
        cases link
      wallet := by
        intro direction other known
        have sum := stored.sum fun row => row.effectOn other
        rw [walleted.sum, effectOn_registration] at sum
        rw [nothing, waiting_pending rfl]
        simp only [wallet_iff own known] at sum
        simp only [Option.map_none, Option.getD_none, Shop.oldRow,
          Option.bind_none, sub_zero] at sum ⊢
        exact sum
      net := by
        intro document
        have sum := stored.sum (PrintTransaction.effectIf document.selects)
        rw [walleted.sum, effectIf_registration same] at sum
        rw [nothing, netPaid_eq, netPaid_eq]
        simp only [Option.map_none, Option.getD_none, Shop.oldRow,
          Option.bind_none, sub_zero] at sum ⊢
        exact sum }
  exact life.rewrite step

end Register
section Clear

variable {opening : ℕ → ℤ} {start before after : Shop}

/-- What `createTransfer` does: two transactions and the row of the transfer. -/
structure Transferred (transfer : PrintTreasuryTransfer) (pk outTxn inTxn : ℕ)
    (before after : Shop) : Prop where
  progress : Progress before after
  cheques : after.cheques = before.cheques
  fresh : before.transfers.next ≤ pk
  stored : after.transfers.get? pk =
    some { transfer with outTxn := some outTxn, inTxn := some inTxn }
  out : after.Moves (some outTxn) transfer.fromTreasury .moneyOut
    transfer.amount
  into : after.Moves (some inTxn) transfer.toTreasury .moneyIn transfer.amount
  moved : ∀ treasury, after.moved treasury = before.moved treasury -
      (if transfer.fromTreasury = treasury then transfer.amount else 0) +
    if transfer.toTreasury = treasury then transfer.amount else 0
  net : ∀ document, after.netPaid document = before.netPaid document

theorem createTransfer_transferred {transfer : PrintTreasuryTransfer} {pk : ℕ}
    (returned : createTransfer transfer before = .ok pk after) :
    ∃ outTxn inTxn, Transferred transfer pk outTxn inTxn before after := by
  obtain ⟨outTxn, inTxn, middle, last, -, first, second, rfl, rfl⟩ :=
    createTransfer_ok returned
  have left := createTransaction_stored first (le_refl _) rfl
  have right := createTransaction_stored second (le_refl _) rfl
  have inserted := progress_insertTransfer last
    { transfer with outTxn := some outTxn, inTxn := some inTxn }
  refine ⟨outTxn, inTxn, ?_⟩
  exact
    { progress := left.progress.trans (right.progress.trans inserted)
      cheques := right.cheques.trans left.cheques
      fresh := (left.progress.trans right.progress).transfers
      stored := Table.get?_insert_next _ _
      out := ⟨_, right.grows.rows _ _ left.row not_false, rfl, rfl, rfl⟩
      into := ⟨_, right.row, rfl, rfl, rfl⟩
      moved := by
        intro treasury
        have one := left.sum fun row => row.effectOn treasury
        have two := right.sum fun row => row.effectOn treasury
        rw [one] at two
        simp only [Shop.oldRow, Option.bind_none, Option.map_none,
          Option.getD_none, sub_zero] at two
        refine two.trans ?_
        change _ + (if transfer.fromTreasury = treasury then -transfer.amount
            else 0) +
          (if transfer.toTreasury = treasury then transfer.amount else 0) = _
        unfold Shop.moved
        split <;> ring
      net := by
        intro document
        have one := left.sum (PrintTransaction.effectIf document.selects)
        have two := right.sum (PrintTransaction.effectIf document.selects)
        rw [one, effectIf_leg, effectIf_leg] at two
        simp only [Shop.oldRow, Option.bind_none, Option.map_none,
          Option.getD_none, sub_zero, add_zero] at two
        rw [netPaid_eq, netPaid_eq]
        exact two }

theorem bank_ne {shop : Shop} {bank pk : ℕ} {stored : PrintTreasury}
    {wallet : SystemWallet} (found : shop.treasuries.get? bank = some stored)
    (money : stored.isMoney = true) (known : shop.wallets wallet = some pk) :
    bank ≠ pk := by
  rintro rfl
  obtain ⟨other, present, kind⟩ := firstOfKind_some known
  rw [found, Option.some.injEq] at present
  subst present
  rw [PrintTreasury.isMoney, kind] at money
  simp [MONEY_KINDS] at money

theorem settlement_ends (cheque : PrintCheque) (wallet treasury : ℕ)
    (day : Date) :
    ((settlement cheque wallet treasury day).fromTreasury,
        (settlement cheque wallet treasury day).toTreasury) =
      match cheque.direction with
      | .moneyIn => (wallet, treasury)
      | .moneyOut => (treasury, wallet) := by
  unfold settlement
  cases cheque.direction <;> rfl

theorem settlement_moved (cheque : PrintCheque) (wallet : ℕ) (day : Date)
    {treasury other : ℕ} (away : treasury ≠ other) (balance : ℤ) :
    balance - (if (settlement cheque wallet treasury day).fromTreasury = other
        then (settlement cheque wallet treasury day).amount else 0) +
      (if (settlement cheque wallet treasury day).toTreasury = other
        then (settlement cheque wallet treasury day).amount else 0) =
      balance - if wallet = other then
        signed cheque.direction cheque.amount else 0 := by
  unfold settlement
  cases cheque.direction with
  | moneyIn => simp [away, signed]
  | moneyOut =>
      simp only [away, signed, if_false]
      split <;> ring

theorem clearCheque_written {pk treasury : ℕ} {day : Date}
    (returned : clearCheque pk treasury day before = .ok ⟨⟩ after) :
    ∃ cheque transfer, before.cheques.get? pk = some cheque ∧
      cheque.status = .pending ∧
      Written pk (cheque.markCleared day transfer) before after := by
  obtain ⟨cheque, bank, wallet, transfer, first, second, -, -, found, pending,
    made, settled, rfl⟩ := clearCheque_ok returned
  obtain ⟨_, _, transferred⟩ := createTransfer_transferred settled
  refine ⟨cheque, transfer, found, pending,
    .modify (.markCleared day transfer) ?_ found⟩
  rw [transferred.cheques, (systemWallet_ok made).rest]

theorem clearCheque_lifecycle {pk treasury : ℕ} {day : Date}
    (returned : clearCheque pk treasury day before = .ok ⟨⟩ after)
    (life : Lifecycle opening start before) :
    Lifecycle opening start after := by
  have valid := clearCheque_valid returned life.valid
  obtain ⟨cheque, bank, wallet, transfer, first, second, known, money, found,
    pending, made, settled, rfl⟩ := clearCheque_ok returned
  have walleted := systemWallet_ok made
  obtain ⟨outTxn, inTxn, transferred⟩ := createTransfer_transferred settled
  have steps := walleted.progress.trans transferred.progress
  have progress := steps.cheques before.cheques
    (second.modifyCheque pk (.markCleared day transfer)).cheques
  have cheques : second.cheques = before.cheques := by
    rw [transferred.cheques, walleted.rest]
  have own : second.wallets cheque.wallet = some wallet :=
    transferred.progress.grows.wallets _ _ walleted.first
  obtain ⟨kept, present, kind⟩ := steps.grows.kinds treasury bank known
  have still : kept.isMoney = true := by
    rw [PrintTreasury.isMoney, kind]
    exact money
  obtain ⟨row, stored, registers⟩ := life.registered pk cheque found
  obtain ⟨row, stored, registers⟩ := steps.grows.registered stored registers
    fun _ impossible => impossible.elim
  have step : Rewriting opening start pk (cheque.markCleared day transfer)
      before (second.modifyCheque pk (.markCleared day transfer)) :=
    { valid
      documents := progress.documents
      paid := progress.paid
      grows := progress.grows
      kinds := progress.kinds
      written := .modify (.markCleared day transfer) cheques found
      next := progress.next
      registered := ⟨row, stored, registers.wallet, registers.type,
        registers.amount, registers.pays, registers.unlinked⟩
      stands := by
        refine .cleared _ rfl transferred.stored ?_ ?_
        · exact
            { between := by
                exact ⟨wallet, treasury, kept, own, present, still,
                  settlement_ends cheque wallet treasury day⟩
              amount := rfl
              out := transferred.out
              into := transferred.into }
        · cases life.stands pk cheque found with
          | pending _ _ unbounced => exact unbounced
          | cleared _ _ _ _ unbounced => exact unbounced
          | bounced status _ =>
              rw [pending] at status
              cases status
      used := fun txn uses =>
        (life.used pk cheque txn found uses).trans_le progress.next
      own := fun txn uses => .inr ⟨cheque, found, uses⟩
      single := by
        intro other link
        cases link
        exact .inl (walleted.progress.transfers.trans transferred.fresh)
      wallet := by
        intro direction other first'
        have sum := transferred.moved other
        have same : first.moved other = before.moved other := walleted.sum _
        have away := bank_ne present still first'
        have cleared : (cheque.markCleared day transfer).waiting direction = 0 :=
          if_neg fun impossible => by cases impossible.1
        rw [found, Option.map_some, Option.getD_some, cleared,
          waiting_pending pending]
        refine sum.trans ?_
        rw [settlement_moved cheque wallet day away, same, add_zero]
        simp only [wallet_iff own first']
      net := by
        intro document
        have same : first.netPaid document = before.netPaid document := by
          rw [netPaid_eq, netPaid_eq, walleted.sum]
        have stands : (cheque.markCleared day transfer).standing start document =
            cheque.standing start document := by
          unfold PrintCheque.standing
          rw [pending]
          rfl
        rw [found, stands]
        refine ((transferred.net document).trans same).trans ?_
        simp }
  exact life.rewrite step

end Clear
section Bounce

variable {opening : ℕ → ℤ} {start before after : Shop}

theorem reversal_free (cheque : PrintCheque) (wallet : ℕ) (day : Date)
    (reason : String) :
    (cheque.reversal wallet day reason).withholdingTax ≤ 0 ∧
      (cheque.reversal wallet day reason).withholdingTxn = none := by
  have same := cheque.effect_withLinks
  exact ⟨(same _).2.2.2.2.1.le, (same _).2.2.2.2.2⟩

theorem effectOn_reversal (cheque : PrintCheque) (shop : Shop)
    (wallet pk : ℕ) (day : Date) (reason : String) :
    ((cheque.reversal wallet day reason).fillLinks shop).effectOn pk =
      -if wallet = pk then signed cheque.direction cheque.amount else 0 := by
  have treasury : (cheque.reversal wallet day reason).treasury = wallet :=
    (cheque.effect_withLinks _).2.1
  change (if (cheque.reversal wallet day reason).treasury = pk then
    (cheque.reversal wallet day reason).effect else 0) = _
  rw [treasury, effect_reversal]
  split
  · rfl
  · exact neg_zero.symm

theorem bounceCheque_written {pk : ℕ} {day : Date} {reason : String}
    (returned : bounceCheque pk day reason before = .ok ⟨⟩ after) :
    ∃ cheque txn, before.cheques.get? pk = some cheque ∧
      cheque.status = .pending ∧
      Written pk (cheque.markBounced day txn) before after := by
  obtain ⟨cheque, wallet, txn, first, second, found, pending, made, created,
    rfl⟩ := bounceCheque_ok returned
  have entered := createTransaction_stored created (reversal_free _ _ _ _).1
    (reversal_free _ _ _ _).2
  refine ⟨cheque, txn, found, pending, .modify (.markBounced day txn) ?_ found⟩
  rw [entered.cheques, (systemWallet_ok made).rest]

theorem bounceCheque_lifecycle {pk : ℕ} {day : Date} {reason : String}
    (returned : bounceCheque pk day reason before = .ok ⟨⟩ after)
    (life : Lifecycle opening start before) :
    Lifecycle opening start after := by
  have valid := bounceCheque_valid returned life.valid
  obtain ⟨cheque, wallet, txn, first, second, found, pending, made, created,
    rfl⟩ := bounceCheque_ok returned
  have walleted := systemWallet_ok made
  have entered := createTransaction_stored created (reversal_free _ _ _ _).1
    (reversal_free _ _ _ _).2
  have steps := walleted.progress.trans entered.progress
  have progress := steps.cheques before.cheques
    (second.modifyCheque pk (.markBounced day txn)).cheques
  have cheques : second.cheques = before.cheques := by
    rw [entered.cheques, walleted.rest]
  have own : second.wallets cheque.wallet = some wallet :=
    entered.wallets walleted.first
  have same := life.documents.trans walleted.progress.documents
  have next : txn = before.transactions.next := by
    rw [entered.nextTransaction.1, walleted.rest]
  have unsettled : cheque.settleTransfer = none := by
    cases life.stands pk cheque found with
    | pending _ unsettled _ => exact unsettled
    | cleared _ status _ _ _ =>
        rw [pending] at status
        cases status
    | bounced _ unsettled => exact unsettled
  obtain ⟨row, stored, registers⟩ := life.registered pk cheque found
  obtain ⟨row, stored, registers⟩ := steps.grows.registered stored registers
    fun _ impossible => impossible.elim
  have step : Rewriting opening start pk (cheque.markBounced day txn) before
      (second.modifyCheque pk (.markBounced day txn)) :=
    { valid
      documents := progress.documents
      paid := progress.paid
      grows := progress.grows
      kinds := progress.kinds
      written := .modify (.markBounced day txn) cheques found
      next := progress.next
      registered := ⟨row, stored, registers.wallet, registers.type,
        registers.amount, registers.pays, registers.unlinked⟩
      stands := .bounced rfl unsettled
      used := by
        rintro other (link | link)
        · exact (life.used pk cheque other found (.inl link)).trans_le
            progress.next
        · cases link
          exact Table.get?_lt entered.row
      own := by
        rintro other (link | link)
        · exact .inr ⟨cheque, found, .inl link⟩
        · cases link
          exact .inl next.ge
      single := fun other link => .inr ⟨cheque, found, link⟩
      wallet := by
        intro direction other known
        have sum := entered.sum fun row => row.effectOn other
        rw [walleted.sum, effectOn_reversal] at sum
        have bounced : (cheque.markBounced day txn).waiting direction = 0 :=
          if_neg fun impossible => by cases impossible.1
        rw [found, Option.map_some, Option.getD_some, bounced,
          waiting_pending pending]
        simp only [wallet_iff own known, Shop.oldRow, Option.bind_none,
          Option.map_none, Option.getD_none, sub_zero] at sum
        rw [add_zero, sub_eq_add_neg]
        exact sum
      net := by
        intro document
        have sum := entered.sum (PrintTransaction.effectIf document.selects)
        rw [walleted.sum, effectIf_reversal same] at sum
        have standing : cheque.standing start document =
            cheque.pays start document := by
          rw [PrintCheque.standing, pending]
          rfl
        have bounced : (cheque.markBounced day txn).standing start document =
            0 := rfl
        rw [found, netPaid_eq, netPaid_eq, Option.map_some, Option.getD_some,
          standing, bounced, add_zero, sub_eq_add_neg]
        simp only [Shop.oldRow, Option.bind_none, Option.map_none,
          Option.getD_none, sub_zero] at sum
        exact sum }
  exact life.rewrite step

end Bounce
section Delete

variable {opening : ℕ → ℤ} {start before after : Shop}

theorem Deletion.alone_of_unlinked {marks : DeletionMarks} {pk : ℕ}
    (deleted : Deletion marks pk before after) {txn : PrintTransaction}
    (found : before.transactions.get? pk = some txn)
    (unlinked : txn.withholdingTxn = none) :
    ∃ middle, Dropped marks pk txn before middle ∧
      after = middle.addBalance txn.treasury (-txn.effect) := by
  cases deleted with
  | alone dropped single =>
      rw [dropped.found, Option.some.injEq] at found
      subst found
      exact ⟨_, dropped, rfl⟩
  | paired dropped pair rest =>
      rw [dropped.found, Option.some.injEq] at found
      subst found
      rw [Shop.companion, unlinked] at pair
      cases pair

theorem isLeg_eq_false {shop : Shop} {pk : ℕ} (none : shop.isLeg pk = false)
    {key : ℕ} {transfer : PrintTreasuryTransfer}
    (found : shop.transfers.get? key = some transfer) :
    transfer.outTxn ≠ some pk ∧ transfer.inTxn ≠ some pk := by
  have all := List.any_eq_false.mp none _ (Table.get?_eq_some.mp found)
  simpa using all

theorem clearLink_of_ne {pk : ℕ} {link : Option ℕ} (other : link ≠ some pk) :
    clearLink pk link = link := by
  rw [clearLink, if_neg other]

/-- Only the dropped transaction is lost. -/
theorem Dropped.grows {marks : DeletionMarks} {pk : ℕ} {txn : PrintTransaction}
    (step : Dropped marks pk txn before after)
    (independent : ∀ other row, before.transactions.get? other = some row →
      row.withholdingTxn ≠ some pk) : Grows (· = pk) before after where
  rows key row stored kept := by
    rw [step.transactions, get?_dropTransaction, if_neg kept, stored,
      Option.map_some, clearLink_of_ne (independent key row stored)]
  wallets wallet first known := by
    unfold Shop.wallets Shop.firstOfKind at known ⊢
    rwa [step.treasuries]
  kinds treasury stored found := by
    rw [step.treasuries]
    exact ⟨stored, found, rfl⟩
  transfers key transfer found := by
    obtain ⟨out, into⟩ := isLeg_eq_false step.notLeg found
    constructor
    · rw [step.transfers]
      unfold Shop.dropTransaction
      simp only [Table.get?_map]
      rw [found, Option.map_some, clearLink_of_ne out, clearLink_of_ne into]
    · rintro gone rfl
      exact ⟨out, into⟩

theorem Shop.firstOfKind_addBalance (shop : Shop) (treasury : ℕ) (amount : ℤ)
    (kind : TreasuryKind) :
    (shop.addBalance treasury amount).firstOfKind kind =
      shop.firstOfKind kind := by
  apply firstOfKind_congr
  intro other
  rw [get?_addBalance, Option.map_map]
  rfl

theorem Grows.addBalance {lost : ℕ → Prop} (grows : Grows lost before after)
    (treasury : ℕ) (amount : ℤ) :
    Grows lost before (after.addBalance treasury amount) where
  rows := grows.rows
  wallets wallet first known := by
    exact (after.firstOfKind_addBalance treasury amount _).trans
      (grows.wallets wallet first known)
  kinds other stored found := by
    obtain ⟨kept, present, kind⟩ := grows.kinds other stored found
    rw [get?_addBalance, present]
    exact ⟨_, rfl, kind⟩
  transfers := grows.transfers

theorem deleteCheque_dropped {pk : ℕ}
    (returned : deleteCheque pk before = .ok ⟨⟩ after)
    (life : Lifecycle opening start before) :
    ∃ cheque txn row middle, before.cheques.get? pk = some cheque ∧
      cheque.status = .pending ∧ cheque.txn = some txn ∧
      Registers start before cheque row ∧
      Dropped { withCheque := true } txn row
        { before with cheques := before.cheques.erase pk } middle ∧
      after = middle.addBalance row.treasury (-row.effect) ∧
      ∀ other, middle.cheques.get? other =
        (before.cheques.erase pk).get? other := by
  obtain ⟨cheque, found, pending, deleted⟩ := deleteCheque_ok returned
  obtain ⟨row, stored, registers⟩ := life.registered pk cheque found
  obtain ⟨txn, link, present⟩ := Option.bind_eq_some_iff.mp stored
  have step : Deletion { withCheque := true } txn
      { before with cheques := before.cheques.erase pk } after := by
    rcases deleteRegistration_ok deleted with ⟨-, missing⟩ | ⟨other, same, step⟩
    · have none := missing txn link
      rw [present] at none
      cases none
    · rw [link, Option.some.injEq] at same
      exact same ▸ step
  obtain ⟨middle, dropped, rfl⟩ :=
    step.alone_of_unlinked present registers.unlinked
  refine ⟨cheque, txn, row, middle, found, pending, link, registers, dropped,
    rfl, ?_⟩
  intro other
  rw [dropped.cheques]
  unfold Shop.dropTransaction
  simp only [Table.get?_map]
  rw [Table.get?_erase]
  split
  · rfl
  · rename_i different
    cases held : before.cheques.get? other with
    | none => rfl
    | some cheque' =>
        have free : ¬ cheque'.Uses txn := fun uses => different
          (life.own other pk cheque' cheque txn held found uses (.inl link))
        rw [Option.map_some, clearLink_of_ne fun same => free (.inl same),
          clearLink_of_ne fun same => free (.inr same)]

theorem deleteCheque_lookup {pk : ℕ}
    (returned : deleteCheque pk before = .ok ⟨⟩ after)
    (life : Lifecycle opening start before) :
    ∃ cheque, before.cheques.get? pk = some cheque ∧
      cheque.status = .pending ∧
      ∀ other, after.cheques.get? other =
        (before.cheques.erase pk).get? other := by
  obtain ⟨cheque, _, _, _, found, pending, -, -, -, rfl, lookup⟩ :=
    deleteCheque_dropped returned life
  exact ⟨cheque, found, pending, lookup⟩

theorem deleteCheque_lifecycle {pk : ℕ}
    (returned : deleteCheque pk before = .ok ⟨⟩ after)
    (life : Lifecycle opening start before) :
    Lifecycle opening start after := by
  have valid := deleteCheque_valid returned life.valid
  obtain ⟨cheque, txn, row, middle, found, pending, link, registers, dropped,
    rfl, lookup⟩ := deleteCheque_dropped returned life
  have none : before.isCompanion txn = false := by
    rcases dropped.notCompanion with impossible | none
    · cases impossible
    · exact none
  have independent := isCompanion_eq_false none
  have grown := (dropped.grows independent).addBalance row.treasury (-row.effect)
  have grows : Grows (· = txn) before
      (middle.addBalance row.treasury (-row.effect)) :=
    ⟨grown.rows, grown.wallets, grown.kinds, grown.transfers⟩
  have gone : ∀ other cheque', before.cheques.get? other = some cheque' →
      other ≠ pk → ¬ cheque'.Uses txn := by
    intro other cheque' found' different uses
    exact different (life.own other pk cheque' cheque txn found' found uses
      (.inl link))
  have kept : ∀ {other cheque'}, middle.cheques.get? other = some cheque' →
      other ≠ pk ∧ before.cheques.get? other = some cheque' := by
    intro other cheque' held
    rw [lookup] at held
    exact Table.get?_erase_eq_some.mp held
  have total : ∀ measure : PrintCheque → ℤ,
      (middle.cheques.total fun _ cheque => measure cheque) =
        (before.cheques.total fun _ cheque => measure cheque) -
          measure cheque := by
    intro measure
    have same : middle.cheques.rows = (before.cheques.erase pk).rows :=
      Table.rows_eq_of_get? lookup
    unfold Table.total
    rw [same]
    exact Table.total_erase found fun _ cheque => measure cheque
  constructor
  · exact valid
  · have same := life.documents.trans ⟨dropped.documents.orders,
      dropped.documents.purchases, dropped.documents.bills,
      dropped.documents.customers, dropped.documents.allocations,
      dropped.documents.supplierAllocations, dropped.documents.fixedAssets,
      dropped.documents.stock⟩
    exact ⟨same.orders, same.purchases, same.bills, same.customers,
      same.allocations, same.supplierAllocations, same.fixedAssets, same.stock⟩
  · have paid := dropped.paid
      ⟨life.paid.orders, life.paid.purchases, life.paid.bills⟩
    exact ⟨paid.orders, paid.purchases, paid.bills⟩
  · intro other cheque' held
    obtain ⟨different, former⟩ := kept held
    obtain ⟨row', stored', registers'⟩ := life.registered other cheque' former
    refine grows.registered stored' registers' ?_
    rintro lost rfl same
    exact gone other cheque' former different (.inl same)
  · intro other cheque' held
    obtain ⟨different, former⟩ := kept held
    exact grows.stands (life.stands other cheque' former)
  · intro other cheque' used held uses
    obtain ⟨different, former⟩ := kept held
    have next : middle.transactions.next = before.transactions.next := by
      rw [dropped.transactions]
      rfl
    exact (life.used other cheque' used former uses).trans_eq next.symm
  · intro first second one other used heldFirst heldSecond
    exact life.own first second one other used (kept heldFirst).2
      (kept heldSecond).2
  · intro first second one other used heldFirst heldSecond
    exact life.single first second one other used (kept heldFirst).2
      (kept heldSecond).2
  · intro direction wallet known
    have own : before.wallets cheque.wallet = some row.treasury :=
      registers.wallet
    have stable := grows.wallets _ _ own
    have former : before.wallets (chequeWallet direction) = some wallet := by
      refine Eq.trans ?_ known
      have same := Shop.firstOfKind_addBalance middle row.treasury (-row.effect)
      unfold Shop.wallets
      rw [same]
      unfold Shop.firstOfKind
      rw [dropped.treasuries]
    have waited := life.wallet direction wallet former
    have sum := dropped.sum (ignoresCompanion_effectOn wallet)
    have moved : (middle.addBalance row.treasury (-row.effect)).moved wallet =
        before.moved wallet - row.effectOn wallet := sum
    have effect : row.effectOn wallet = cheque.waiting direction := by
      rw [waiting_pending pending]
      unfold PrintTransaction.effectOn PrintTransaction.effect
      rw [registers.type, registers.amount]
      simp only [wallet_iff own former]
    rw [moved, effect]
    unfold Shop.waiting at waited ⊢
    change _ = middle.cheques.total _
    rw [total fun row => row.waiting direction]
    linarith
  · intro document
    have sum := dropped.sum document.ignoresCompanion
    have standing : cheque.standing start document =
        cheque.pays start document := by
      rw [PrintCheque.standing, pending]
      rfl
    have former := life.net document
    rw [netPaid_eq, netPaid_eq] at former ⊢
    change middle.sum _ = _ + middle.cheques.total _
    rw [total fun row => row.standing start document, standing, sum,
      registers.pays]
    change before.sum _ - _ = _
    rw [former]
    ring

end Delete
/-- What is done on the screen of the cheques. -/
inductive ChequeOp where
  | register (cheque : PrintCheque)
  | clear (pk treasury : ℕ) (day : Date)
  | bounce (pk : ℕ) (day : Date) (reason : String)
  | remove (pk : ℕ)

def ChequeOp.run : ChequeOp → ShopTxn PUnit
  | .register cheque => TreasuryOp.run (.register cheque)
  | .clear pk treasury day => clearCheque pk treasury day
  | .bounce pk day reason => bounceCheque pk day reason
  | .remove pk => deleteCheque pk

section Runs

variable {opening : ℕ → ℤ} {start before after : Shop}

theorem ChequeOp.rollsBack (op : ChequeOp) : Txn.RollsBack op.run := by
  cases op with
  | register cheque => exact TreasuryOp.rollsBack (.register cheque)
  | clear pk treasury day => exact rollsBack_clearCheque pk treasury day
  | bounce pk day reason => exact Txn.rollsBack_atomic _
  | remove pk => exact rollsBack_deleteCheque pk

theorem ChequeOp.lifecycle {op : ChequeOp}
    (returned : op.run before = .ok ⟨⟩ after)
    (life : Lifecycle opening start before) :
    Lifecycle opening start after := by
  cases op with
  | register cheque =>
      obtain ⟨pk, middle, registered, same⟩ := Txn.bind_eq_ok.mp returned
      obtain ⟨-, rfl⟩ := Txn.pure_eq_ok.mp same
      exact registerCheque_lifecycle registered life
  | clear pk treasury day => exact clearCheque_lifecycle returned life
  | bounce pk day reason => exact bounceCheque_lifecycle returned life
  | remove pk => exact deleteCheque_lifecycle returned life

theorem ChequeOp.frozen {op : ChequeOp}
    (returned : op.run before = .ok ⟨⟩ after)
    (life : Lifecycle opening start before) {pk : ℕ} {cheque : PrintCheque}
    (found : before.cheques.get? pk = some cheque)
    (closed : cheque.status ≠ .pending) :
    after.cheques.get? pk = some cheque := by
  have other : ∀ {key row old}, Written key row before after →
      before.cheques.get? key = some old → old.status = .pending →
      after.cheques.get? pk = some cheque := by
    intro key row old written present pending
    rw [written.lookup, if_neg, found]
    rintro rfl
    rw [found, Option.some.injEq] at present
    exact closed (present ▸ pending)
  cases op with
  | register row =>
      obtain ⟨key, middle, registered, same⟩ := Txn.bind_eq_ok.mp returned
      obtain ⟨-, rfl⟩ := Txn.pure_eq_ok.mp same
      obtain ⟨_, written⟩ := registerCheque_written registered
      have used := Table.get?_lt found
      rw [written.lookup, if_neg (by omega), found]
  | clear key treasury day =>
      obtain ⟨row, _, present, pending, written⟩ := clearCheque_written returned
      exact other written present pending
  | bounce key day reason =>
      obtain ⟨row, _, present, pending, written⟩ := bounceCheque_written returned
      exact other written present pending
  | remove key =>
      obtain ⟨row, present, pending, lookup⟩ := deleteCheque_lookup returned life
      rw [lookup, Table.get?_erase, if_neg, found]
      rintro rfl
      rw [found, Option.some.injEq] at present
      exact closed (present ▸ pending)

end Runs
section ChequeRun

variable {opening : ℕ → ℤ} {start : Shop}

/-- There are no cheques, and their wallets are empty if there are any. -/
structure Shop.WithoutCheques (shop : Shop) : Prop where
  cheques : ∀ pk, shop.cheques.get? pk = none
  wallets : ∀ direction, shop.walletBalance direction = 0

theorem Shop.WithoutCheques.lifecycle (idle : start.WithoutCheques)
    (valid : Valid opening start) (paid : PaidUp start) :
    Lifecycle opening start start where
  valid := valid
  documents := .refl start
  paid := paid
  registered pk cheque found := by
    rw [idle.cheques pk] at found
    cases found
  stands pk cheque found := by
    rw [idle.cheques pk] at found
    cases found
  used pk cheque txn found := by
    rw [idle.cheques pk] at found
    cases found
  own first second cheque other txn found := by
    rw [idle.cheques first] at found
    cases found
  single first second cheque other transfer found := by
    rw [idle.cheques first] at found
    cases found
  wallet direction pk known := by
    have none : start.waiting direction = 0 := by
      apply Table.total_eq_zero
      intro other cheque found
      rw [idle.cheques other] at found
      cases found
    obtain ⟨stored, found, -⟩ := firstOfKind_some known
    have balance := idle.wallets direction
    rw [Shop.walletBalance, known, Option.bind_some, found] at balance
    rw [none, ← valid.balanced.balance pk stored found]
    exact balance
  net document := by
    have none : (start.cheques.total fun _ cheque =>
        cheque.standing start document) = 0 := by
      apply Table.total_eq_zero
      intro other cheque found
      rw [idle.cheques other] at found
      cases found
    rw [none, add_zero]

theorem Lifecycle.walletBalance {shop : Shop}
    (life : Lifecycle opening start shop) (direction : TransactionType) :
    shop.walletBalance direction = shop.waiting direction := by
  cases known : shop.wallets (chequeWallet direction) with
  | none =>
      have none : shop.waiting direction = 0 := by
        apply Table.total_eq_zero
        intro pk cheque found
        obtain ⟨row, -, registers⟩ := life.registered pk cheque found
        have wallet := registers.wallet
        rw [PrintCheque.waiting, if_neg]
        rintro ⟨-, rfl⟩
        rw [cheque.wallet_eq, known] at wallet
        cases wallet
      rw [none, Shop.walletBalance, known]
      rfl
  | some pk =>
      obtain ⟨stored, found, -⟩ := firstOfKind_some known
      rw [Shop.walletBalance, known, Option.bind_some, found, Option.map_some,
        Option.getD_some, life.valid.balanced.balance pk stored found]
      exact life.wallet direction pk known

/-- Over any run each wallet holds its pending cheques, and a cheque that was
cleared or has bounced is never written again. What is paid on a document or a
party is what was paid before plus the cheques that have not bounced. -/
theorem cheques_follow (ops : List ChequeOp) (valid : Valid opening start)
    (paid : PaidUp start) (idle : start.WithoutCheques) :
    (∀ direction,
        (Txn.after ChequeOp.run ops start).walletBalance direction =
          (Txn.after ChequeOp.run ops start).waiting direction) ∧
      (∀ pk cheque,
        (Txn.after ChequeOp.run ops start).cheques.get? pk = some cheque →
        Stands (Txn.after ChequeOp.run ops start) cheque ∧
          (cheque.status ≠ .pending → ∀ later,
            (Txn.after ChequeOp.run (ops ++ later) start).cheques.get? pk =
              some cheque)) ∧
      (∀ first second cheque other transfer,
        (Txn.after ChequeOp.run ops start).cheques.get? first = some cheque →
        (Txn.after ChequeOp.run ops start).cheques.get? second = some other →
        cheque.settleTransfer = some transfer →
        other.settleTransfer = some transfer → first = second) ∧
      (∀ document,
        (Txn.after ChequeOp.run ops start).netPaid document =
          start.netPaid document +
            (Txn.after ChequeOp.run ops start).cheques.total fun _ cheque =>
              cheque.standing start document) ∧
      PaidUp (Txn.after ChequeOp.run ops start) := by
  have kept : ∀ ops {shop}, Lifecycle opening start shop →
      Lifecycle opening start (Txn.after ChequeOp.run ops shop) := by
    intro ops shop life
    exact Txn.after_invariant (Lifecycle opening start) ChequeOp.rollsBack
      (fun op _ _ life returned => op.lifecycle returned life) ops life
  have life := kept ops (idle.lifecycle valid paid)
  refine ⟨life.walletBalance, ?_, life.single, life.net, life.paid⟩
  intro pk cheque found
  refine ⟨life.stands pk cheque found, ?_⟩
  intro closed later
  rw [Txn.after_append]
  have frozen := Txn.after_invariant
    (fun shop => Lifecycle opening start shop ∧
      shop.cheques.get? pk = some cheque) ChequeOp.rollsBack
    (fun op _ _ held returned => ⟨op.lifecycle returned held.1,
      op.frozen returned held.1 held.2 closed⟩) later ⟨life, found⟩
  exact frozen.2

end ChequeRun
def deliveredOrder : PrintOrder where
  customer := 0
  status := .delivered
  totalAmount := 20000

def counterShop : Shop where
  treasuries := Table.empty.insert { name := "till" }
  customers := Table.empty.insert {}
  orders := Table.empty.insert deliveredOrder

private theorem january_valid : 1 ≤ 1 ∧ 1 ≤ 12 := by decide

private theorem lastOfJanuary_valid : 1 ≤ 31 ∧ 31 ≤ monthLength 2024 1 := by
  decide

def dueDay : Date :=
  ⟨2024, 1, 31, january_valid, lastOfJanuary_valid⟩

def orderCheque (amount : ℤ) : PrintCheque where
  number := "1001"
  issueDate := dueDay
  dueDate := dueDay
  amount
  order := some 0

def twoCheques : List ChequeOp :=
  [.register (orderCheque 5000), .register (orderCheque 7000),
    .clear 0 0 dueDay, .bounce 1 dueDay "", .bounce 0 dueDay ""]

theorem counterShop_paidUp : PaidUp counterShop where
  orders pk row stored _ := by
    have member := Table.get?_eq_some.mp stored
    obtain ⟨rfl, rfl⟩ : pk = 0 ∧ row = deliveredOrder := by
      simpa [counterShop, Table.insert, Table.empty] using member
    decide +kernel
  purchases pk row stored := by
    cases stored
  bills pk row stored := by
    cases stored

theorem counterShop_withoutCheques : counterShop.WithoutCheques where
  cheques _ := rfl
  wallets direction := by
    cases direction <;> decide +kernel

theorem cheques_follow_counterShop :
    (Txn.after ChequeOp.run twoCheques counterShop).netPaid (.order 0) =
        counterShop.netPaid (.order 0) +
          (Txn.after ChequeOp.run twoCheques counterShop).cheques.total
            (fun _ cheque => cheque.standing counterShop (.order 0)) ∧
      (Txn.after ChequeOp.run twoCheques counterShop).netPaid (.order 0) =
        5000 ∧
      ((Txn.after ChequeOp.run twoCheques counterShop).treasuries.rows.map
        fun row => row.2.balance) = [5000, 0] :=
  ⟨(cheques_follow twoCheques (Shop.Unmoved.valid fun _ => rfl)
      counterShop_paidUp counterShop_withoutCheques).2.2.2.1 (.order 0),
    by decide +kernel, by decide +kernel⟩

end Mousstec.Printing
