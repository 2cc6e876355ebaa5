import Mousstec.Market.Auctions

/-!
# Auctions over runs

The stage of an auction says what is held for it: nothing while it is open, the
price of the goods while its hold stands, and nothing again after it was
released or refunded.  The balances of the clients add up to what was deposited
and not withdrawn or collected.
-/

namespace Mousstec

namespace Market

open Library

def rowsSum (rows : List EscrowEntry) (kind : EntryKind) (pk : ℕ) : ℤ :=
  ((rows.filter fun entry =>
    entry.kind = kind ∧ entry.auction = some pk).map EscrowEntry.amount).sum

def rowsNet (rows : List EscrowEntry) (pk : ℕ) : ℤ :=
  rowsSum rows .hold pk - rowsSum rows .release pk - rowsSum rows .refund pk

def rowsFlow (rows : List EscrowEntry) (kind : EntryKind) : ℤ :=
  ((rows.filter (·.kind = kind)).map EscrowEntry.amount).sum

def rowsEnding (rows : List EscrowEntry) (pk : ℕ) : ℕ :=
  rows.countP fun entry =>
    (entry.kind = .release ∨ entry.kind = .refund) ∧ entry.auction = some pk

section Rows

variable (first second : List EscrowEntry) (kind : EntryKind) (pk : ℕ)

theorem rowsSum_append :
    rowsSum (first ++ second) kind pk =
      rowsSum first kind pk + rowsSum second kind pk := by
  simp [rowsSum]

theorem rowsNet_append :
    rowsNet (first ++ second) pk = rowsNet first pk + rowsNet second pk := by
  rw [rowsNet, rowsNet, rowsNet, rowsSum_append, rowsSum_append, rowsSum_append]
  omega

theorem rowsFlow_append :
    rowsFlow (first ++ second) kind =
      rowsFlow first kind + rowsFlow second kind := by
  simp [rowsFlow]

theorem rowsEnding_append :
    rowsEnding (first ++ second) pk =
      rowsEnding first pk + rowsEnding second pk := by
  simp [rowsEnding]

variable {first pk}

theorem rowsSum_of_none (other : ∀ entry ∈ first, entry.auction ≠ some pk) :
    rowsSum first kind pk = 0 := by
  rw [rowsSum, List.filter_eq_nil_iff.mpr]
  · rfl
  · intro entry member same
    exact other entry member (of_decide_eq_true same).2

theorem rowsNet_of_none (other : ∀ entry ∈ first, entry.auction ≠ some pk) :
    rowsNet first pk = 0 := by
  rw [rowsNet, rowsSum_of_none _ other, rowsSum_of_none _ other,
    rowsSum_of_none _ other]
  rfl

theorem rowsEnding_of_none (other : ∀ entry ∈ first, entry.auction ≠ some pk) :
    rowsEnding first pk = 0 := by
  rw [rowsEnding, List.countP_eq_zero]
  intro entry member same
  exact other entry member (of_decide_eq_true same).2

end Rows

theorem netEscrowHeld_eq (exchange : Exchange) (pk : ℕ) :
    exchange.netEscrowHeld pk = rowsNet exchange.ledger pk := rfl

namespace BlindBiddingRequest

def Opens (auction : BlindBiddingRequest) : Prop :=
  auction.status = .open ∨ auction.status = .awarding

def Stands (auction : BlindBiddingRequest) : Prop :=
  auction.status = .escrowHeld ∨ auction.status = .shipped ∨
    auction.status = .disputed

instance (auction : BlindBiddingRequest) : Decidable auction.Opens :=
  inferInstanceAs (Decidable (_ ∨ _))

instance (auction : BlindBiddingRequest) : Decidable auction.Stands :=
  inferInstanceAs (Decidable (_ ∨ _))

theorem quantity_pos (auction : BlindBiddingRequest) : 1 ≤ auction.quantity :=
  le_max_right _ _

theorem goodsTotal_nonneg (auction : BlindBiddingRequest) :
    0 ≤ auction.goodsTotal := by
  have quantity := auction.quantity_pos
  rw [goodsTotal]
  split
  · exact le_refl 0
  · exact mul_nonneg (Int.natCast_nonneg _) (by omega)

theorem goodsTotal_pos {auction : BlindBiddingRequest}
    (priced : auction.priced = true) : 0 < auction.goodsTotal := by
  have quantity := auction.quantity_pos
  obtain ⟨price, stored, positive⟩ := Option.any_eq_true _ _ |>.mp priced
  rw [decide_eq_true_eq] at positive
  rw [goodsTotal, stored]
  exact mul_pos (Int.natCast_pos.mpr positive) (by omega)

end BlindBiddingRequest

def Exchange.bought (exchange : Exchange) (client : ℕ) : ℤ :=
  exchange.auctions.total fun pk auction =>
    if auction.buyer = client then exchange.netEscrowHeld pk else 0

structure Conserved (exchange : Exchange) : Prop where
  wallets : ∀ pk client, exchange.clients.get? pk = some client →
    0 ≤ client.walletBalance
  escrow : ∀ pk client, exchange.clients.get? pk = some client →
    client.escrowHeld = exchange.bought pk
  frozen : ∀ pk client, exchange.clients.get? pk = some client →
    0 ≤ client.escrowHeld
  /-- An auction is released or refunded once. -/
  once : ∀ pk, rowsEnding exchange.ledger pk ≤ 1
  identity : (exchange.clients.total fun _ client => client.walletBalance) +
      (exchange.clients.total fun _ client => client.escrowHeld) +
      rowsFlow exchange.ledger .feeDeduction =
    rowsFlow exchange.ledger .deposit - rowsFlow exchange.ledger .withdrawal

/-- What the ledger says of an auction at its stage. -/
structure AtStage (ledger : List EscrowEntry) (pk : ℕ)
    (auction : BlindBiddingRequest) : Prop where
  held : rowsNet ledger pk =
    if auction.Stands then auction.goodsTotal else 0
  positive : auction.Stands → 0 < auction.goodsTotal
  ending : rowsEnding ledger pk ≤ 1
  unended : auction.Opens ∨ auction.Stands → rowsEnding ledger pk = 0

structure SoundExchange (exchange : Exchange) : Prop where
  wallets : ∀ pk client, exchange.clients.get? pk = some client →
    0 ≤ client.walletBalance
  escrow : ∀ pk client, exchange.clients.get? pk = some client →
    client.escrowHeld = exchange.bought pk
  identity : (exchange.clients.total fun _ client => client.walletBalance) +
      (exchange.clients.total fun _ client => client.escrowHeld) +
      rowsFlow exchange.ledger .feeDeduction =
    rowsFlow exchange.ledger .deposit - rowsFlow exchange.ledger .withdrawal
  stage : ∀ pk auction, exchange.auctions.get? pk = some auction →
    AtStage exchange.ledger pk auction
  linked : ∀ entry ∈ exchange.ledger, ∀ pk, entry.auction = some pk →
    ∃ auction, exchange.auctions.get? pk = some auction
  known : ∀ pk auction, exchange.auctions.get? pk = some auction →
    ∃ client, exchange.clients.get? auction.buyer = some client
  /-- An instance has the buyer and the quantity of its auction, and a winner
  that there is. -/
  read : ∀ key held, exchange.instances.get? key = some held →
    ∃ auction, exchange.auctions.get? held.pk = some auction ∧
      held.auction.buyer = auction.buyer ∧
      held.auction.requiredQty = auction.requiredQty ∧
      ∀ winner, held.auction.winner = some winner →
        ∃ client, exchange.clients.get? winner = some client
  winners : ∀ pk auction, exchange.auctions.get? pk = some auction →
    ∀ winner, auction.winner = some winner →
      ∃ client, exchange.clients.get? winner = some client
  checked : ∀ key entry, exchange.withdrawals.get? key = some entry →
    entry.kind = .withdrawal ∧ entry.auction = none ∧
      ∃ client, exchange.clients.get? entry.client = some client

section Exchange

variable {exchange : Exchange}

theorem netEscrowHeld_nonneg (sound : SoundExchange exchange) {pk : ℕ}
    {auction : BlindBiddingRequest}
    (stored : exchange.auctions.get? pk = some auction) :
    0 ≤ exchange.netEscrowHeld pk := by
  rw [netEscrowHeld_eq, (sound.stage pk auction stored).held]
  split
  · exact auction.goodsTotal_nonneg
  · exact le_refl 0

theorem conserved_of_sound (sound : SoundExchange exchange) :
    Conserved exchange where
  wallets := sound.wallets
  escrow := sound.escrow
  frozen pk client stored := by
    rw [sound.escrow pk client stored, Exchange.bought]
    apply Table.total_nonneg
    intro key auction found
    split
    · exact netEscrowHeld_nonneg sound found
    · exact le_refl 0
  once pk := by
    cases found : exchange.auctions.get? pk with
    | some auction => exact (sound.stage pk auction found).ending
    | none =>
        rw [rowsEnding_of_none]
        · exact Nat.zero_le 1
        · intro entry member same
          obtain ⟨auction, stored⟩ := sound.linked entry member pk same
          rw [found] at stored
          cases stored
  identity := sound.identity

theorem total_wallet_moved {clients : Table Client} {key : ℕ} {client : Client}
    (stored : clients.get? key = some client) (wallet escrow : ℤ) :
    ((clients.modify key (·.moved wallet escrow)).total
        fun _ client => client.walletBalance) =
      (clients.total fun _ client => client.walletBalance) + wallet := by
  rw [Table.total_modify stored, Client.walletBalance_moved]
  omega

theorem total_escrow_moved {clients : Table Client} {key : ℕ} {client : Client}
    (stored : clients.get? key = some client) (wallet escrow : ℤ) :
    ((clients.modify key (·.moved wallet escrow)).total
        fun _ client => client.escrowHeld) =
      (clients.total fun _ client => client.escrowHeld) + escrow := by
  rw [Table.total_modify stored, Client.escrowHeld_moved]
  omega

theorem get?_moved {clients : Table Client} {key other : ℕ} {new : Client}
    {wallet escrow : ℤ}
    (stored : (clients.modify key (·.moved wallet escrow)).get? other =
      some new) :
    ∃ old, clients.get? other = some old ∧
      new.walletBalance =
        old.walletBalance + (if key = other then wallet else 0) ∧
      new.escrowHeld = old.escrowHeld + if key = other then escrow else 0 := by
  by_cases same : other = key
  · subst same
    rw [Table.get?_modify_self] at stored
    obtain ⟨old, found, rfl⟩ := Option.map_eq_some_iff.mp stored
    exact ⟨old, found, by simp, by simp⟩
  · rw [Table.get?_modify_of_ne clients same] at stored
    have different : key ≠ other := fun equal => same equal.symm
    exact ⟨new, stored, by simp [different], by simp [different]⟩

theorem kept_moved {clients : Table Client} (key : ℕ) {other : ℕ}
    {old : Client} (stored : clients.get? other = some old) (wallet escrow : ℤ) :
    ∃ new, (clients.modify key (·.moved wallet escrow)).get? other =
      some new := by
  by_cases same : other = key
  · subst same
    rw [Table.get?_modify_self, stored]
    exact ⟨_, rfl⟩
  · rw [Table.get?_modify_of_ne clients same]
    exact ⟨old, stored⟩

/-- The escrow a client bought, after one auction changed and rows for it were
posted. -/
theorem bought_posted {pk : ℕ} {row : BlindBiddingRequest}
    (stored : exchange.auctions.get? pk = some row)
    {change : BlindBiddingRequest → BlindBiddingRequest}
    (buyer : (change row).buyer = row.buyer) {entries : List EscrowEntry}
    (only : ∀ entry ∈ entries, entry.auction = some pk) (client : ℕ) :
    ((exchange.auctions.modify pk change).total fun key auction =>
        if auction.buyer = client then rowsNet (exchange.ledger ++ entries) key
        else 0) =
      exchange.bought client +
        if row.buyer = client then rowsNet entries pk else 0 := by
  rw [Table.total_modify stored, buyer, sub_self, add_zero, Exchange.bought]
  have split : ∀ key (auction : BlindBiddingRequest),
      exchange.auctions.get? key = some auction →
      (if auction.buyer = client then rowsNet (exchange.ledger ++ entries) key
        else 0) =
      (if auction.buyer = client then exchange.netEscrowHeld key else 0) +
        if key = pk then
          (if auction.buyer = client then rowsNet entries pk else 0) else 0 := by
    intro key auction _
    rw [rowsNet_append, netEscrowHeld_eq]
    by_cases same : key = pk
    · subst same
      split <;> simp
    · have none : rowsNet entries key = 0 := by
        apply rowsNet_of_none
        intro entry member linked
        have here := only entry member
        rw [here] at linked
        exact same (Option.some.inj linked).symm
      rw [none, if_neg same]
      split <;> simp
  rw [Table.total_congr split, Table.total_add,
    Table.total_single exchange.auctions pk fun auction =>
      if auction.buyer = client then rowsNet entries pk else 0, stored]
  rfl

/-- What an operation on one auction does to the rest of the exchange. -/
structure Posted (exchange : Exchange) (pk : ℕ) (row : BlindBiddingRequest)
    (change : BlindBiddingRequest → BlindBiddingRequest)
    (entries : List EscrowEntry) (clients : Table Client) : Prop where
  stored : exchange.auctions.get? pk = some row
  buyer : (change row).buyer = row.buyer
  quantity : (change row).requiredQty = row.requiredQty
  winner : ∀ winner, (change row).winner = some winner →
    ∃ client, exchange.clients.get? winner = some client
  only : ∀ entry ∈ entries, entry.auction = some pk
  kept : ∀ key client, exchange.clients.get? key = some client →
    ∃ new, clients.get? key = some new
  balances : ∀ key new, clients.get? key = some new →
    ∃ client, exchange.clients.get? key = some client ∧
      0 ≤ new.walletBalance ∧
      new.escrowHeld = client.escrowHeld +
        if row.buyer = key then rowsNet entries pk else 0
  identity : (clients.total fun _ client => client.walletBalance) +
      (clients.total fun _ client => client.escrowHeld) +
      rowsFlow entries .feeDeduction =
    (exchange.clients.total fun _ client => client.walletBalance) +
      (exchange.clients.total fun _ client => client.escrowHeld) +
      rowsFlow entries .deposit - rowsFlow entries .withdrawal
  stage : AtStage (exchange.ledger ++ entries) pk (change row)

/-- An instance that is of an auction as it is stored. -/
structure Reads (exchange : Exchange) (held : Instance)
    (row : BlindBiddingRequest) : Prop where
  buyer : held.auction.buyer = row.buyer
  quantity : held.auction.requiredQty = row.requiredQty
  winner : ∀ winner, held.auction.winner = some winner →
    ∃ client, exchange.clients.get? winner = some client

/-- An operation on one auction keeps the invariant. -/
theorem sound_posted (sound : SoundExchange exchange) (held : Instance)
    {row : BlindBiddingRequest}
    {change : BlindBiddingRequest → BlindBiddingRequest}
    {entries : List EscrowEntry} {clients : Table Client}
    (posted : Posted exchange held.pk row change entries clients)
    (reads : Reads exchange held row) :
    SoundExchange
      { exchange with
        clients
        auctions := exchange.auctions.modify held.pk change
        ledger := exchange.ledger ++ entries
        instances := exchange.instances.insert held } := by
  have here : (exchange.auctions.modify held.pk change).get? held.pk =
      some (change row) := by
    rw [Table.get?_modify_self, posted.stored]
    rfl
  have auctions : ∀ {key auction},
      (exchange.auctions.modify held.pk change).get? key = some auction →
      (key = held.pk ∧ auction = change row) ∨
        key ≠ held.pk ∧ exchange.auctions.get? key = some auction := by
    intro key auction stored
    by_cases same : key = held.pk
    · subst same
      rw [here] at stored
      exact .inl ⟨rfl, (Option.some.inj stored).symm⟩
    · rw [Table.get?_modify_of_ne exchange.auctions same] at stored
      exact .inr ⟨same, stored⟩
  have exists_auction : ∀ {key auction},
      exchange.auctions.get? key = some auction → ∃ new,
        (exchange.auctions.modify held.pk change).get? key = some new ∧
          new.buyer = auction.buyer ∧ new.requiredQty = auction.requiredQty := by
    intro key auction stored
    by_cases same : key = held.pk
    · subst same
      rw [posted.stored] at stored
      obtain rfl := Option.some.inj stored
      exact ⟨_, here, posted.buyer, posted.quantity⟩
    · refine ⟨auction, ?_, rfl, rfl⟩
      rwa [Table.get?_modify_of_ne exchange.auctions same]
  have elsewhere : ∀ {key}, key ≠ held.pk →
      ∀ entry ∈ entries, entry.auction ≠ some key := by
    intro key different entry member linked
    rw [posted.only entry member] at linked
    exact different (Option.some.inj linked).symm
  have exists_client : ∀ {key},
      (∃ client, exchange.clients.get? key = some client) →
      ∃ client, clients.get? key = some client :=
    fun ⟨client, stored⟩ => posted.kept _ client stored
  refine ⟨?_, ?_, ?_, ?_, ?_, ?_, ?_, ?_, ?_⟩
  · intro key new stored
    obtain ⟨-, -, solvent, -⟩ := posted.balances key new stored
    exact solvent
  · intro key new stored
    obtain ⟨client, found, -, escrow⟩ := posted.balances key new stored
    rw [escrow, sound.escrow key client found]
    exact (bought_posted posted.stored posted.buyer posted.only key).symm
  · have identity := posted.identity
    have before := sound.identity
    change (clients.total fun _ client => client.walletBalance) +
        (clients.total fun _ client => client.escrowHeld) +
        rowsFlow (exchange.ledger ++ entries) .feeDeduction =
      rowsFlow (exchange.ledger ++ entries) .deposit -
        rowsFlow (exchange.ledger ++ entries) .withdrawal
    rw [rowsFlow_append, rowsFlow_append, rowsFlow_append]
    omega
  · intro key auction stored
    rcases auctions stored with ⟨rfl, rfl⟩ | ⟨different, found⟩
    · exact posted.stage
    · have stage := sound.stage key auction found
      have net := rowsNet_of_none (elsewhere different)
      have ending := rowsEnding_of_none (elsewhere different)
      refine ⟨?_, stage.positive, ?_, ?_⟩
      · change rowsNet (exchange.ledger ++ entries) key = _
        rw [rowsNet_append, net, add_zero, stage.held]
      · change rowsEnding (exchange.ledger ++ entries) key ≤ 1
        rw [rowsEnding_append, ending]
        exact stage.ending
      · change _ → rowsEnding (exchange.ledger ++ entries) key = 0
        rw [rowsEnding_append, ending]
        exact stage.unended
  · intro entry member pk linked
    rcases List.mem_append.mp member with old | new
    · obtain ⟨auction, stored⟩ := sound.linked entry old pk linked
      obtain ⟨kept, found, -⟩ := exists_auction stored
      exact ⟨kept, found⟩
    · rw [posted.only entry new] at linked
      obtain rfl := Option.some.inj linked
      exact ⟨_, here⟩
  · intro key auction stored
    rcases auctions stored with ⟨rfl, rfl⟩ | ⟨-, found⟩
    · rw [posted.buyer]
      exact exists_client (sound.known _ row posted.stored)
    · exact exists_client (sound.known key auction found)
  · intro key other stored
    change (exchange.instances.insert held).get? key = some other at stored
    rcases Table.get?_insert_cases stored with ⟨-, rfl⟩ | stored
    · refine ⟨_, here, reads.buyer.trans posted.buyer.symm,
        reads.quantity.trans posted.quantity.symm, fun winner won => ?_⟩
      exact exists_client (reads.winner winner won)
    · obtain ⟨auction, found, buyer, quantity, winner⟩ :=
        sound.read key other stored
      obtain ⟨new, there, buyer', quantity'⟩ := exists_auction found
      exact ⟨new, there, buyer.trans buyer'.symm, quantity.trans quantity'.symm,
        fun winner' won => exists_client (winner winner' won)⟩
  · intro key auction stored winner won
    rcases auctions stored with ⟨rfl, rfl⟩ | ⟨-, found⟩
    · exact exists_client (posted.winner winner won)
    · exact exists_client (sound.winners key auction found winner won)
  · intro key entry stored
    obtain ⟨kind, auction, client⟩ := sound.checked key entry stored
    exact ⟨kind, auction, exists_client client⟩

section Triggers

variable {pk : ℕ} {auction left : BlindBiddingRequest} {after : Exchange}

theorem createEntry_eq_ok {entry : EscrowEntry}
    {sale : Option BlindBiddingRequest}
    (returned : createEntry entry sale exchange = .ok ⟨⟩ after) :
    after = exchange.record entry sale ∧ (entry.kind = .hold →
      ∃ client, exchange.clients.get? entry.client = some client ∧
        entry.amount ≤ client.walletBalance) := by
  obtain ⟨⟨⟩, middle, validated, recorded⟩ := Txn.bind_eq_ok.mp returned
  obtain rfl := Txn.modify_eq_ok.mp recorded
  rw [validateEscrowBalance, Txn.get_bind] at validated
  cases kind : entry.kind with
  | hold =>
      simp only [kind, Txn.bind_eq_ok, Txn.expect_eq_ok,
        Txn.require_eq_ok] at validated
      obtain ⟨client, _, ⟨stored, rfl⟩, covered, rfl⟩ := validated
      exact ⟨rfl, fun _ => ⟨client, stored, covered⟩⟩
  | withdrawal =>
      simp only [kind, Txn.bind_eq_ok, Txn.expect_eq_ok,
        Txn.require_eq_ok] at validated
      obtain ⟨client, _, ⟨-, rfl⟩, -, rfl⟩ := validated
      refine ⟨rfl, ?_⟩
      rintro ⟨⟩
  | deposit =>
      simp only [kind, Txn.pure_eq_ok] at validated
      obtain ⟨-, rfl⟩ := validated
      refine ⟨rfl, ?_⟩
      rintro ⟨⟩
  | release =>
      simp only [kind, Txn.pure_eq_ok] at validated
      obtain ⟨-, rfl⟩ := validated
      refine ⟨rfl, ?_⟩
      rintro ⟨⟩
  | refund =>
      simp only [kind, Txn.pure_eq_ok] at validated
      obtain ⟨-, rfl⟩ := validated
      refine ⟨rfl, ?_⟩
      rintro ⟨⟩
  | feeDeduction =>
      simp only [kind, Txn.pure_eq_ok] at validated
      obtain ⟨-, rfl⟩ := validated
      refine ⟨rfl, ?_⟩
      rintro ⟨⟩

def positiveRow (entry : EscrowEntry) : List EscrowEntry :=
  if 0 < entry.amount then [entry] else []

theorem createPositive_eq_ok {entry : EscrowEntry}
    {sale : Option BlindBiddingRequest} (kind : entry.kind = .feeDeduction)
    (returned : createPositive entry sale exchange = .ok ⟨⟩ after) :
    after = { exchange with ledger := exchange.ledger ++ positiveRow entry } := by
  rw [createPositive] at returned
  rw [positiveRow]
  split at returned
  · rename_i positive
    obtain ⟨rfl, -⟩ := createEntry_eq_ok returned
    rw [if_pos positive, Exchange.record, updateClientBalances, kind]
  · rename_i none
    obtain ⟨-, rfl⟩ := Txn.pure_eq_ok.mp returned
    rw [if_neg none, List.append_nil]

theorem createPositive_none {entry : EscrowEntry}
    {sale : Option BlindBiddingRequest} (none : entry.amount = 0)
    (returned : createPositive entry sale exchange = .ok ⟨⟩ after) :
    after = exchange := by
  rw [createPositive, if_neg (by omega)] at returned
  exact (Txn.pure_eq_ok.mp returned).2.symm

theorem triggerEscrowHold_eq_ok
    (returned : triggerEscrowHold pk auction exchange = .ok left after) :
    auction.priced = true ∧ left = { auction with status := .escrowHeld } ∧
      (∃ buyer, exchange.clients.get? auction.buyer = some buyer ∧
        auction.goodsTotal ≤ buyer.walletBalance) ∧
      after =
        { exchange with
          clients := exchange.clients.modify auction.buyer
            (·.moved (-auction.goodsTotal) auction.goodsTotal)
          auctions := exchange.auctions.modify pk fun row =>
            { row with status := .escrowHeld }
          ledger := exchange.ledger ++
            [{ client := auction.buyer
               auction := some pk
               kind := .hold
               amount := auction.goodsTotal }] } := by
  simp only [triggerEscrowHold, saveStatus, Txn.bind_eq_ok, Txn.require_eq_ok,
    Txn.modify_eq_ok, Txn.pure_eq_ok] at returned
  obtain ⟨⟨⟩, _, ⟨-, rfl⟩, ⟨⟩, _, ⟨priced, rfl⟩, ⟨⟩, middle, created, ⟨⟩, _, rfl,
    rfl, rfl⟩ := returned
  obtain ⟨rfl, covered⟩ := createEntry_eq_ok created
  exact ⟨priced, rfl, covered rfl, rfl⟩

theorem triggerRefundToBuyer_eq_ok
    (returned : triggerRefundToBuyer pk auction exchange = .ok left after) :
    left = { auction with status := .cancelled } ∧
      after =
        { exchange with
          clients := exchange.clients.modify auction.buyer
            (·.moved
              (refundAmount (exchange.netEscrowHeld pk) auction.goodsTotal)
              (-refundAmount (exchange.netEscrowHeld pk) auction.goodsTotal))
          auctions := exchange.auctions.modify pk fun row =>
            { row with status := .cancelled }
          ledger := exchange.ledger ++
            [{ client := auction.buyer
               auction := some pk
               kind := .refund
               amount := refundAmount (exchange.netEscrowHeld pk)
                 auction.goodsTotal }] } := by
  simp only [triggerRefundToBuyer, saveStatus, Txn.bind_eq_ok,
    Txn.require_eq_ok, Txn.get_eq_ok, Txn.modify_eq_ok,
    Txn.pure_eq_ok] at returned
  obtain ⟨⟨⟩, _, ⟨-, rfl⟩, _, _, ⟨rfl, rfl⟩, ⟨⟩, _, rfl, ⟨⟩, _, created, rfl,
    rfl⟩ := returned
  obtain ⟨rfl, -⟩ := createEntry_eq_ok created
  exact ⟨rfl, rfl⟩

theorem triggerReleaseToSeller_eq_ok
    (exact_ : exchange.netEscrowHeld pk = auction.goodsTotal)
    (returned : triggerReleaseToSeller pk auction exchange = .ok left after) :
    ∃ seller buyer, auction.winner = some seller ∧
      exchange.clients.get? auction.buyer = some buyer ∧
      left = { auction with
               status := .completed
               platformFeeCollected :=
                 platformFee auction.goodsTotal buyer.platformFeeRate } ∧
      after =
        { exchange with
          clients := (exchange.clients.modify auction.buyer
            (·.moved 0 (-auction.goodsTotal))).modify seller
              (·.moved (auction.goodsTotal -
                platformFee auction.goodsTotal buyer.platformFeeRate) 0)
          auctions := exchange.auctions.modify pk fun row =>
            { row with
              status := .completed
              platformFeeCollected :=
                platformFee auction.goodsTotal buyer.platformFeeRate }
          ledger := exchange.ledger ++
            ({ client := auction.buyer
               auction := some pk
               kind := .release
               amount := auction.goodsTotal } ::
              positiveRow
                { client := seller
                  auction := some pk
                  kind := .feeDeduction
                  amount :=
                    platformFee auction.goodsTotal buyer.platformFeeRate }) } := by
  simp only [triggerReleaseToSeller, Txn.bind_eq_ok, Txn.require_eq_ok,
    Txn.expect_eq_ok, Txn.get_eq_ok, Txn.modify_eq_ok,
    Txn.pure_eq_ok] at returned
  obtain ⟨⟨⟩, _, ⟨-, rfl⟩, seller, _, ⟨sold, rfl⟩, _, _, ⟨rfl, rfl⟩, buyer, _,
    ⟨stored, rfl⟩, ⟨⟩, _, rfl, ⟨⟩, _, excess, ⟨⟩, _, created, ⟨⟩, _, fee, rfl,
    rfl⟩ := returned
  have winner : auction.winner = some seller := by
    rw [BlindBiddingRequest.soldTo] at sold
    split at sold
    · exact sold
    · cases sold
  obtain rfl := createPositive_none
    (by rw [exact_]; exact if_neg (lt_irrefl _)) excess
  obtain ⟨rfl, -⟩ := createEntry_eq_ok created
  obtain rfl := createPositive_eq_ok rfl fee
  refine ⟨seller, buyer, winner, stored, rfl, ?_⟩
  simp only [Exchange.record, updateClientBalances, winner, Option.bind_some,
    Option.map_some, List.append_assoc, List.singleton_append]

theorem platformFee_bounds {amount : ℤ} (nonneg : 0 ≤ amount) (client : Client) :
    0 ≤ platformFee amount client.platformFeeRate ∧
      platformFee amount client.platformFeeRate ≤ amount := by
  have rate : (client.platformFeeRate : ℚ) ≤ 10000 := by
    exact_mod_cast client.rate_le
  have sign : (0 : ℚ) ≤ client.platformFeeRate := Nat.cast_nonneg _
  have whole : (0 : ℚ) ≤ amount := by exact_mod_cast nonneg
  constructor
  · apply roundHalfEven_nearest.nonneg
    positivity
  · apply roundHalfEven_nearest.le_whole
    rw [div_le_iff₀ (by norm_num)]
    exact mul_le_mul_of_nonneg_left rate whole

end Triggers

section Steps

variable {held : Instance} {row left : BlindBiddingRequest} {after : Exchange}

theorem not_stands_of_opens {auction : BlindBiddingRequest}
    (opens : auction.Opens) : ¬ auction.Stands := by
  rintro (status | status | status) <;> rcases opens with same | same <;>
    rw [same] at status <;> cases status

theorem goodsTotal_of_reads (reads : Reads exchange held row)
    (price : held.auction.winningPrice = row.winningPrice) :
    held.auction.goodsTotal = row.goodsTotal := by
  simp only [BlindBiddingRequest.goodsTotal, BlindBiddingRequest.quantity, price,
    reads.quantity]

/-- A hold of an open auction keeps the invariant. -/
theorem sound_hold (sound : SoundExchange exchange)
    (stored : exchange.auctions.get? held.pk = some row)
    (reads : Reads exchange held row) (opens : row.Opens)
    (price : held.auction.winningPrice = row.winningPrice)
    (returned : triggerEscrowHold held.pk held.auction exchange =
      .ok left after) :
    SoundExchange { after with
      instances := after.instances.insert { held with auction := left } } := by
  obtain ⟨priced, rfl, ⟨buyer, paying, covered⟩, rfl⟩ :=
    triggerEscrowHold_eq_ok returned
  have total := goodsTotal_of_reads reads price
  have positive := BlindBiddingRequest.goodsTotal_pos priced
  have stage := sound.stage held.pk row stored
  have net := stage.held
  rw [if_neg (not_stands_of_opens opens)] at net
  have posted : Posted exchange held.pk row
      (fun row => { row with status := .escrowHeld })
      [{ client := held.auction.buyer
         auction := some held.pk
         kind := .hold
         amount := held.auction.goodsTotal }]
      (exchange.clients.modify held.auction.buyer
        (·.moved (-held.auction.goodsTotal) held.auction.goodsTotal)) := by
    have one : rowsNet [{ client := held.auction.buyer
                          auction := some held.pk
                          kind := .hold
                          amount := held.auction.goodsTotal }] held.pk =
        held.auction.goodsTotal := by
      simp [rowsNet, rowsSum]
    have none : rowsEnding [{ client := held.auction.buyer
                              auction := some held.pk
                              kind := .hold
                              amount := held.auction.goodsTotal }] held.pk = 0 := by
      simp [rowsEnding]
    refine ⟨stored, rfl, rfl, sound.winners held.pk row stored, ?_,
      fun _ _ found => kept_moved _ found _ _, ?_, ?_, ?_⟩
    · intro entry member
      rw [List.mem_singleton.mp member]
    · intro key new found
      obtain ⟨old, before, wallet, escrow⟩ := get?_moved found
      refine ⟨old, before, ?_, ?_⟩
      · have solvent := sound.wallets key old before
        rw [wallet]
        split
        · rename_i same
          subst same
          rw [paying] at before
          obtain rfl := Option.some.inj before
          omega
        · omega
      · rw [escrow, one, reads.buyer]
    · rw [total_wallet_moved paying, total_escrow_moved paying]
      simp [rowsFlow]
      omega
    · refine ⟨?_, fun _ => ?_, ?_, fun _ => ?_⟩
      · rw [rowsNet_append, net, one, zero_add, if_pos (.inl rfl), total]
        rfl
      · change 0 < row.goodsTotal
        omega
      · rw [rowsEnding_append, none]
        exact stage.ending
      · rw [rowsEnding_append, none, stage.unended (.inl opens)]
  exact sound_posted sound
    { held with auction := { held.auction with status := .escrowHeld } } posted
    ⟨reads.buyer, reads.quantity, reads.winner⟩

/-- A refund of a standing hold keeps the invariant. -/
theorem sound_refund (sound : SoundExchange exchange)
    (stored : exchange.auctions.get? held.pk = some row)
    (reads : Reads exchange held row) (stands : row.Stands)
    (returned : triggerRefundToBuyer held.pk held.auction exchange =
      .ok left after) :
    SoundExchange { after with
      instances := after.instances.insert { held with auction := left } } := by
  obtain ⟨rfl, rfl⟩ := triggerRefundToBuyer_eq_ok returned
  have stage := sound.stage held.pk row stored
  have net := stage.held
  have positive := stage.positive stands
  rw [if_pos stands] at net
  have amount : refundAmount (exchange.netEscrowHeld held.pk)
      held.auction.goodsTotal = row.goodsTotal := by
    rw [netEscrowHeld_eq, net]
    exact if_pos positive
  rw [amount]
  have posted : Posted exchange held.pk row
      (fun row => { row with status := .cancelled })
      [{ client := held.auction.buyer
         auction := some held.pk
         kind := .refund
         amount := row.goodsTotal }]
      (exchange.clients.modify held.auction.buyer
        (·.moved row.goodsTotal (-row.goodsTotal))) := by
    have one : rowsNet [{ client := held.auction.buyer
                          auction := some held.pk
                          kind := .refund
                          amount := row.goodsTotal }] held.pk =
        -row.goodsTotal := by
      simp [rowsNet, rowsSum]
    have ended : rowsEnding [{ client := held.auction.buyer
                               auction := some held.pk
                               kind := .refund
                               amount := row.goodsTotal }] held.pk = 1 := by
      simp [rowsEnding]
    obtain ⟨buyer, paid⟩ := sound.known held.pk row stored
    rw [← reads.buyer] at paid
    refine ⟨stored, rfl, rfl, sound.winners held.pk row stored, ?_,
      fun _ _ found => kept_moved _ found _ _, ?_, ?_, ?_⟩
    · intro entry member
      rw [List.mem_singleton.mp member]
    · intro key new found
      obtain ⟨old, before, wallet, escrow⟩ := get?_moved found
      refine ⟨old, before, ?_, ?_⟩
      · have solvent := sound.wallets key old before
        rw [wallet]
        split <;> omega
      · rw [escrow, one, reads.buyer]
    · rw [total_wallet_moved paid, total_escrow_moved paid]
      simp [rowsFlow]
      omega
    · refine ⟨?_, fun still => ?_, ?_, fun still => ?_⟩
      · rw [rowsNet_append, net, one, if_neg]
        · omega
        · rintro (status | status | status) <;> cases status
      · rcases still with status | status | status <;> cases status
      · rw [rowsEnding_append, ended, stage.unended (.inr stands)]
      · rcases still with (status | status) | status | status | status <;>
          cases status
  exact sound_posted sound
    { held with auction := { held.auction with status := .cancelled } } posted
    ⟨reads.buyer, reads.quantity, reads.winner⟩

/-- A release of a standing hold keeps the invariant. -/
theorem sound_release (sound : SoundExchange exchange)
    (stored : exchange.auctions.get? held.pk = some row)
    (reads : Reads exchange held row) (stands : row.Stands)
    (price : held.auction.winningPrice = row.winningPrice)
    (returned : triggerReleaseToSeller held.pk held.auction exchange =
      .ok left after) :
    SoundExchange { after with
      instances := after.instances.insert { held with auction := left } } := by
  have stage := sound.stage held.pk row stored
  have net := stage.held
  have positive := stage.positive stands
  have total := goodsTotal_of_reads reads price
  rw [if_pos stands] at net
  obtain ⟨seller, buyer, won, paid, rfl, rfl⟩ := triggerReleaseToSeller_eq_ok
    (by rw [netEscrowHeld_eq, net, total]) returned
  obtain ⟨merchant, known⟩ := reads.winner seller won
  have bounds := platformFee_bounds (le_of_lt positive) buyer
  rw [total]
  generalize charged : platformFee row.goodsTotal buyer.platformFeeRate = fee at *
  obtain ⟨owed, covered⟩ := bounds
  have posted : Posted exchange held.pk row
      (fun row => { row with status := .completed, platformFeeCollected := fee })
      ({ client := held.auction.buyer
         auction := some held.pk
         kind := .release
         amount := row.goodsTotal } ::
        positiveRow { client := seller
                      auction := some held.pk
                      kind := .feeDeduction
                      amount := fee })
      ((exchange.clients.modify held.auction.buyer
        (·.moved 0 (-row.goodsTotal))).modify seller
          (·.moved (row.goodsTotal - fee) 0)) := by
    have rows : ∀ entry ∈ positiveRow { client := seller
                                        auction := some held.pk
                                        kind := .feeDeduction
                                        amount := fee },
        entry = { client := seller
                  auction := some held.pk
                  kind := .feeDeduction
                  amount := fee } := by
      intro entry member
      rw [positiveRow] at member
      split at member
      · exact List.mem_singleton.mp member
      · cases member
    have one : rowsNet ({ client := held.auction.buyer
                          auction := some held.pk
                          kind := .release
                          amount := row.goodsTotal } ::
        positiveRow { client := seller
                      auction := some held.pk
                      kind := .feeDeduction
                      amount := fee }) held.pk = -row.goodsTotal := by
      rw [positiveRow]
      split <;> simp [rowsNet, rowsSum]
    have ended : rowsEnding ({ client := held.auction.buyer
                               auction := some held.pk
                               kind := .release
                               amount := row.goodsTotal } ::
        positiveRow { client := seller
                      auction := some held.pk
                      kind := .feeDeduction
                      amount := fee }) held.pk = 1 := by
      rw [positiveRow]
      split <;> simp [rowsEnding]
    obtain ⟨merchant', known'⟩ := kept_moved held.auction.buyer known 0
      (-row.goodsTotal)
    refine ⟨stored, rfl, rfl, sound.winners held.pk row stored, ?_, ?_, ?_, ?_,
      ?_⟩
    · intro entry member
      rcases List.mem_cons.mp member with rfl | later
      · rfl
      · rw [rows entry later]
    · intro key client found
      obtain ⟨middle, there⟩ := kept_moved held.auction.buyer found 0
        (-row.goodsTotal)
      exact kept_moved seller there _ _
    · intro key new found
      obtain ⟨middle, between, wallet, escrow⟩ := get?_moved found
      obtain ⟨old, before, wallet', escrow'⟩ := get?_moved between
      refine ⟨old, before, ?_, ?_⟩
      · have solvent := sound.wallets key old before
        rw [wallet, wallet']
        split <;> split <;> omega
      · rw [escrow, escrow', one, reads.buyer]
        split <;> omega
    · rw [total_wallet_moved known', total_escrow_moved known',
        total_wallet_moved paid, total_escrow_moved paid, positiveRow]
      split
      · simp [rowsFlow]
        omega
      · rename_i free
        have none : ¬ 0 < fee := free
        simp [rowsFlow]
        omega
    · refine ⟨?_, fun still => ?_, ?_, fun still => ?_⟩
      · rw [rowsNet_append, net, one, if_neg]
        · omega
        · rintro (status | status | status) <;> cases status
      · rcases still with status | status | status <;> cases status
      · rw [rowsEnding_append, ended, stage.unended (.inr stands)]
      · rcases still with (status | status) | status | status | status <;>
          cases status
  exact sound_posted sound
    { held with
      auction := { held.auction with
                   status := .completed
                   platformFeeCollected := fee } } posted
    ⟨reads.buyer, reads.quantity, reads.winner⟩

theorem posted_nothing (sound : SoundExchange exchange)
    (stored : exchange.auctions.get? held.pk = some row)
    (change : BlindBiddingRequest → BlindBiddingRequest)
    (buyer : (change row).buyer = row.buyer)
    (quantity : (change row).requiredQty = row.requiredQty)
    (winner : ∀ winner, (change row).winner = some winner →
      ∃ client, exchange.clients.get? winner = some client)
    (stage : AtStage exchange.ledger held.pk (change row)) :
    Posted exchange held.pk row change [] exchange.clients where
  stored := stored
  buyer := buyer
  quantity := quantity
  winner := winner
  only entry member := by cases member
  kept key client found := ⟨client, found⟩
  balances key new found := by
    refine ⟨new, found, sound.wallets key new found, ?_⟩
    have none : rowsNet [] held.pk = 0 := rfl
    rw [none, ite_self, add_zero]
  identity := by
    have none : ∀ kind, rowsFlow [] kind = 0 := fun _ => rfl
    rw [none, none, none]
    omega
  stage := by rwa [List.append_nil]

/-- A standing hold that is marked shipped or disputed keeps the invariant. -/
theorem sound_setStatus (sound : SoundExchange exchange)
    (stored : exchange.auctions.get? held.pk = some row)
    (reads : Reads exchange held row) (stands : row.Stands)
    {status : AuctionStatus} (marked : status = .shipped ∨ status = .disputed)
    (returned : setStatus status held.pk held.auction exchange =
      .ok left after) :
    SoundExchange { after with
      instances := after.instances.insert { held with auction := left } } := by
  simp only [setStatus, saveStatus, Txn.bind_eq_ok, Txn.modify_eq_ok,
    Txn.pure_eq_ok] at returned
  obtain ⟨⟨⟩, _, rfl, rfl, rfl⟩ := returned
  have stage := sound.stage held.pk row stored
  have still : BlindBiddingRequest.Stands { row with status } := .inr marked
  have posted := posted_nothing sound stored
    (fun row => { row with status }) rfl rfl
    (sound.winners held.pk row stored)
    { held := by
        rw [stage.held, if_pos stands, if_pos still]
        rfl
      positive := fun _ => stage.positive stands
      ending := stage.ending
      unended := fun _ => stage.unended (.inr stands) }
  have kept := sound_posted sound
    { held with auction := { held.auction with status } } posted
    ⟨reads.buyer, reads.quantity, reads.winner⟩
  rw [List.append_nil] at kept
  exact kept

/-- The award of an open auction keeps the invariant. -/
theorem sound_award (sound : SoundExchange exchange)
    (stored : exchange.auctions.get? held.pk = some row)
    (reads : Reads exchange held row) (opens : row.Opens) {winner price : ℕ}
    (returned : awardTo winner price held.pk held.auction exchange =
      .ok left after) :
    SoundExchange { after with
      instances := after.instances.insert { held with auction := left } } := by
  simp only [awardTo, Txn.bind_eq_ok, Txn.require_eq_ok, Txn.get_eq_ok,
    Txn.expect_eq_ok, Txn.modify_eq_ok, Txn.pure_eq_ok] at returned
  obtain ⟨⟨⟩, _, ⟨-, rfl⟩, _, _, ⟨rfl, rfl⟩, client, _, ⟨known, rfl⟩, ⟨⟩, _, rfl,
    rfl, rfl⟩ := returned
  have stage := sound.stage held.pk row stored
  have won : ∀ other, some winner = some other →
      ∃ client, exchange.clients.get? other = some client := by
    rintro other ⟨⟩
    exact ⟨client, known⟩
  have still : ¬ BlindBiddingRequest.Stands { row with
      status := .awarding
      winner := some winner
      winningPrice := some price } := not_stands_of_opens (.inr rfl)
  have posted := posted_nothing sound stored
    (fun row => { row with
      status := .awarding
      winner := some winner
      winningPrice := some price }) rfl rfl won
    { held := by
        rw [stage.held, if_neg (not_stands_of_opens opens), if_neg still]
      positive := fun stands => absurd stands still
      ending := stage.ending
      unended := fun _ => stage.unended (.inl opens) }
  have kept := sound_posted sound
    { held with
      auction := { held.auction with
                   status := .awarding
                   winner := some winner
                   winningPrice := some price } } posted
    ⟨reads.buyer, reads.quantity, won⟩
  rw [List.append_nil] at kept
  exact kept

end Steps

/-- A row without an auction that moves one wallet keeps the invariant. -/
theorem sound_flow (sound : SoundExchange exchange) (entry : EscrowEntry)
    {client : Client} (wallet : ℤ) (unlinked : entry.auction = none)
    (stored : exchange.clients.get? entry.client = some client)
    (solvent : 0 ≤ client.walletBalance + wallet)
    (flow : wallet + rowsFlow [entry] .feeDeduction =
      rowsFlow [entry] .deposit - rowsFlow [entry] .withdrawal) :
    SoundExchange
      { exchange with
        clients := exchange.clients.modify entry.client (·.moved wallet 0)
        ledger := exchange.ledger ++ [entry] } := by
  have elsewhere : ∀ pk, ∀ row ∈ [entry], row.auction ≠ some pk := by
    intro pk row member linked
    rw [List.mem_singleton.mp member, unlinked] at linked
    cases linked
  have net : ∀ pk, rowsNet (exchange.ledger ++ [entry]) pk =
      rowsNet exchange.ledger pk := by
    intro pk
    rw [rowsNet_append, rowsNet_of_none (elsewhere pk), add_zero]
  have ending : ∀ pk, rowsEnding (exchange.ledger ++ [entry]) pk =
      rowsEnding exchange.ledger pk := by
    intro pk
    rw [rowsEnding_append, rowsEnding_of_none (elsewhere pk), add_zero]
  have exists_client : ∀ {key},
      (∃ client, exchange.clients.get? key = some client) → ∃ client,
        (exchange.clients.modify entry.client (·.moved wallet 0)).get? key =
          some client :=
    fun ⟨client, found⟩ => kept_moved _ found _ _
  refine ⟨?_, ?_, ?_, ?_, ?_, ?_, ?_, ?_, ?_⟩
  · intro key new found
    obtain ⟨old, before, balance, -⟩ := get?_moved found
    have covered := sound.wallets key old before
    rw [balance]
    split
    · rename_i same
      subst same
      rw [stored] at before
      obtain rfl := Option.some.inj before
      exact solvent
    · omega
  · intro key new found
    obtain ⟨old, before, -, escrow⟩ := get?_moved found
    rw [escrow, ite_self, add_zero, sound.escrow key old before]
    apply Table.total_congr
    intro pk auction _
    change _ = if auction.buyer = key then
      rowsNet (exchange.ledger ++ [entry]) pk else 0
    rw [net]
    rfl
  · have before := sound.identity
    change ((exchange.clients.modify entry.client (·.moved wallet 0)).total
          fun _ client => client.walletBalance) +
        ((exchange.clients.modify entry.client (·.moved wallet 0)).total
          fun _ client => client.escrowHeld) +
        rowsFlow (exchange.ledger ++ [entry]) .feeDeduction =
      rowsFlow (exchange.ledger ++ [entry]) .deposit -
        rowsFlow (exchange.ledger ++ [entry]) .withdrawal
    rw [rowsFlow_append, rowsFlow_append, rowsFlow_append,
      total_wallet_moved stored, total_escrow_moved stored]
    omega
  · intro key auction found
    have stage := sound.stage key auction found
    refine ⟨?_, stage.positive, ?_, ?_⟩
    · change rowsNet (exchange.ledger ++ [entry]) key = _
      rw [net, stage.held]
    · change rowsEnding (exchange.ledger ++ [entry]) key ≤ 1
      rw [ending]
      exact stage.ending
    · change _ → rowsEnding (exchange.ledger ++ [entry]) key = 0
      rw [ending]
      exact stage.unended
  · intro row member pk linked
    rcases List.mem_append.mp member with old | new
    · exact sound.linked row old pk linked
    · exact absurd linked (elsewhere pk row new)
  · exact fun key auction found => exists_client (sound.known key auction found)
  · intro key held found
    obtain ⟨auction, there, buyer, quantity, winner⟩ := sound.read key held found
    exact ⟨auction, there, buyer, quantity,
      fun seller won => exists_client (winner seller won)⟩
  · exact fun key auction found winner won =>
      exists_client (sound.winners key auction found winner won)
  · intro key row found
    obtain ⟨kind, auction, client⟩ := sound.checked key row found
    exact ⟨kind, auction, exists_client client⟩

theorem sound_deposit (sound : SoundExchange exchange) {client amount : ℕ}
    {after : Exchange}
    (returned : deposit client amount exchange = .ok ⟨⟩ after) :
    SoundExchange after := by
  rw [deposit, Txn.get_bind] at returned
  simp only [Txn.bind_eq_ok, Txn.expect_eq_ok] at returned
  obtain ⟨found, _, ⟨stored, rfl⟩, created⟩ := returned
  obtain ⟨rfl, -⟩ := createEntry_eq_ok created
  have solvent := sound.wallets client found stored
  have kept := sound_flow sound { client, kind := .deposit, amount } amount rfl
    stored (by omega) (by simp [rowsFlow])
  exact kept

/-- A withdrawal that is still covered when it is saved keeps the invariant. -/
theorem sound_saveWithdrawal (sound : SoundExchange exchange) {key : ℕ}
    {after : Exchange}
    (covered : ∀ entry, exchange.withdrawals.get? key = some entry →
      ∀ client, exchange.clients.get? entry.client = some client →
        entry.amount ≤ client.walletBalance)
    (returned : saveWithdrawal key exchange = .ok ⟨⟩ after) :
    SoundExchange after := by
  rw [saveWithdrawal, Txn.get_bind] at returned
  simp only [Txn.bind_eq_ok, Txn.expect_eq_ok, Txn.modify_eq_ok] at returned
  obtain ⟨entry, _, ⟨passed, rfl⟩, rfl⟩ := returned
  obtain ⟨kind, unlinked, client, stored⟩ := sound.checked key entry passed
  have enough := covered entry passed client stored
  have kept := sound_flow sound entry (-entry.amount) unlinked stored (by omega)
    (by simp [rowsFlow, kind])
  have same : updateClientBalances entry none exchange.clients =
      exchange.clients.modify entry.client (·.moved (-entry.amount) 0) := by
    rw [updateClientBalances, kind]
  rw [Exchange.record, same]
  refine { kept with checked := ?_ }
  intro other row found
  refine kept.checked other row ?_
  exact (Table.get?_erase_eq_some.mp found).2

theorem sound_checkWithdrawal (sound : SoundExchange exchange)
    {client amount : ℕ} {after : Exchange}
    (returned : checkWithdrawal client amount exchange = .ok ⟨⟩ after) :
    SoundExchange after := by
  obtain ⟨⟨⟩, middle, validated, returned⟩ := Txn.bind_eq_ok.mp returned
  obtain rfl := Txn.modify_eq_ok.mp returned
  rw [validateEscrowBalance, Txn.get_bind] at validated
  simp only [Txn.bind_eq_ok, Txn.expect_eq_ok, Txn.require_eq_ok] at validated
  obtain ⟨found, _, ⟨stored, rfl⟩, -, rfl⟩ := validated
  refine { sound with checked := ?_ }
  intro key entry there
  rcases Table.get?_insert_cases there with ⟨-, rfl⟩ | there
  · exact ⟨rfl, rfl, found, stored⟩
  · exact sound.checked key entry there

theorem sound_openAuction (sound : SoundExchange exchange) {buyer : ℕ}
    {requiredQty : ℤ} {after : Exchange}
    (returned : openAuction buyer requiredQty exchange = .ok ⟨⟩ after) :
    SoundExchange after := by
  rw [openAuction, Txn.get_bind] at returned
  simp only [Txn.bind_eq_ok, Txn.expect_eq_ok, Txn.modify_eq_ok] at returned
  obtain ⟨client, _, ⟨stored, rfl⟩, rfl⟩ := returned
  have elsewhere : ∀ entry ∈ exchange.ledger,
      entry.auction ≠ some exchange.auctions.next := by
    intro entry member linked
    obtain ⟨auction, found⟩ := sound.linked entry member _ linked
    rw [Table.get?_next] at found
    cases found
  have auctions : ∀ {key auction},
      (exchange.auctions.insert { buyer, requiredQty }).get? key =
        some auction →
      (key = exchange.auctions.next ∧ auction = { buyer, requiredQty }) ∨
        exchange.auctions.get? key = some auction := by
    intro key auction found
    rw [Table.get?_insert] at found
    split at found
    · rename_i next
      exact .inl ⟨next, (Option.some.inj found).symm⟩
    · exact .inr found
  refine ⟨sound.wallets, ?_, sound.identity, ?_, ?_, ?_, ?_, ?_, sound.checked⟩
  · intro key client found
    rw [sound.escrow key client found, Exchange.bought, Exchange.bought,
      Table.total_insert, netEscrowHeld_eq, rowsNet_of_none elsewhere, ite_self,
      add_zero]
    rfl
  · intro key auction found
    rcases auctions found with ⟨rfl, rfl⟩ | old
    · have fresh : ¬ BlindBiddingRequest.Stands { buyer, requiredQty } :=
        not_stands_of_opens (.inl rfl)
      refine ⟨?_, fun stands => absurd stands fresh, ?_, fun _ => ?_⟩
      · rw [if_neg fresh]
        exact rowsNet_of_none elsewhere
      · exact le_of_eq_of_le (rowsEnding_of_none elsewhere) (Nat.zero_le 1)
      · exact rowsEnding_of_none elsewhere
    · exact sound.stage key auction old
  · intro entry member pk linked
    obtain ⟨auction, found⟩ := sound.linked entry member pk linked
    exact ⟨auction, Table.get?_insert_of_some found _⟩
  · intro key auction found
    rcases auctions found with ⟨rfl, rfl⟩ | old
    · exact ⟨client, stored⟩
    · exact sound.known key auction old
  · intro key held found
    obtain ⟨auction, there, rest⟩ := sound.read key held found
    exact ⟨auction, Table.get?_insert_of_some there _, rest⟩
  · intro key auction found winner won
    rcases auctions found with ⟨rfl, rfl⟩ | old
    · cases won
    · exact sound.winners key auction old winner won

theorem sound_readAuction (sound : SoundExchange exchange) {pk : ℕ}
    {after : Exchange} (returned : readAuction pk exchange = .ok ⟨⟩ after) :
    SoundExchange after := by
  rw [readAuction, Txn.get_bind] at returned
  simp only [Txn.bind_eq_ok, Txn.expect_eq_ok, Txn.modify_eq_ok] at returned
  obtain ⟨auction, _, ⟨stored, rfl⟩, rfl⟩ := returned
  refine { sound with read := ?_ }
  intro key held found
  rcases Table.get?_insert_cases found with ⟨-, rfl⟩ | found
  · exact ⟨auction, stored, rfl, rfl, sound.winners pk auction stored⟩
  · exact sound.read key held found

end Exchange

/-- The stored auction of an instance, which a trigger finds at its stage. -/
def FindsAuction (exchange : Exchange) (key : ℕ)
    (finds : BlindBiddingRequest → BlindBiddingRequest → Prop) : Prop :=
  ∀ held row, exchange.instances.get? key = some held →
    exchange.auctions.get? held.pk = some row → finds held.auction row

/-- The stored auction is still where the operation takes it to be: open at the
same price for a hold, open for an award, and with its hold standing for the
others, at the same price for a release.  A withdrawal is still covered. -/
def AuctionOp.Fresh : AuctionOp → Exchange → Prop
  | .saveWithdrawal key, exchange => ∀ entry,
      exchange.withdrawals.get? key = some entry →
      ∀ client, exchange.clients.get? entry.client = some client →
        entry.amount ≤ client.walletBalance
  | .award key _ _, exchange => FindsAuction exchange key fun _ row => row.Opens
  | .hold key, exchange => FindsAuction exchange key fun read row =>
      row.Opens ∧ read.winningPrice = row.winningPrice
  | .ship key, exchange => FindsAuction exchange key fun _ row => row.Stands
  | .dispute key, exchange => FindsAuction exchange key fun _ row => row.Stands
  | .release key, exchange => FindsAuction exchange key fun read row =>
      row.Stands ∧ read.winningPrice = row.winningPrice
  | .refund key, exchange => FindsAuction exchange key fun _ row => row.Stands
  | _, _ => True

theorem onInstance_eq_ok {exchange after : Exchange} (sound : SoundExchange exchange)
    {key : ℕ}
    {trigger : ℕ → BlindBiddingRequest → AuctionTxn BlindBiddingRequest}
    (returned : onInstance key trigger exchange = .ok ⟨⟩ after) :
    ∃ held row left middle, exchange.instances.get? key = some held ∧
      exchange.auctions.get? held.pk = some row ∧ Reads exchange held row ∧
      trigger held.pk held.auction exchange = .ok left middle ∧
      after = { middle with
                instances := middle.instances.insert
                  { held with auction := left } } := by
  have returned := Txn.atomic_eq_ok.mp returned
  rw [Txn.get_bind] at returned
  simp only [Txn.bind_eq_ok, Txn.expect_eq_ok, Txn.modify_eq_ok] at returned
  obtain ⟨held, _, ⟨stored, rfl⟩, left, middle, triggered, rfl⟩ := returned
  obtain ⟨row, there, buyer, quantity, winner⟩ := sound.read key held stored
  exact ⟨held, row, left, middle, stored, there, ⟨buyer, quantity, winner⟩,
    triggered, rfl⟩

theorem sound_auction_step (op : AuctionOp) {before after : Exchange}
    (sound : SoundExchange before) (fresh : op.Fresh before)
    (returned : op.run before = .ok ⟨⟩ after) : SoundExchange after := by
  cases op with
  | deposit client amount => exact sound_deposit sound returned
  | checkWithdrawal client amount => exact sound_checkWithdrawal sound returned
  | saveWithdrawal key => exact sound_saveWithdrawal sound fresh returned
  | openAuction buyer requiredQty => exact sound_openAuction sound returned
  | read pk => exact sound_readAuction sound returned
  | award key winner price =>
      obtain ⟨held, row, left, middle, read, stored, reads, triggered, rfl⟩ :=
        onInstance_eq_ok sound returned
      exact sound_award sound stored reads (fresh held row read stored) triggered
  | hold key =>
      obtain ⟨held, row, left, middle, read, stored, reads, triggered, rfl⟩ :=
        onInstance_eq_ok sound returned
      obtain ⟨opens, price⟩ := fresh held row read stored
      exact sound_hold sound stored reads opens price triggered
  | ship key =>
      obtain ⟨held, row, left, middle, read, stored, reads, triggered, rfl⟩ :=
        onInstance_eq_ok sound returned
      exact sound_setStatus sound stored reads (fresh held row read stored)
        (.inl rfl) triggered
  | dispute key =>
      obtain ⟨held, row, left, middle, read, stored, reads, triggered, rfl⟩ :=
        onInstance_eq_ok sound returned
      exact sound_setStatus sound stored reads (fresh held row read stored)
        (.inr rfl) triggered
  | release key =>
      obtain ⟨held, row, left, middle, read, stored, reads, triggered, rfl⟩ :=
        onInstance_eq_ok sound returned
      obtain ⟨stands, price⟩ := fresh held row read stored
      exact sound_release sound stored reads stands price triggered
  | refund key =>
      obtain ⟨held, row, left, middle, read, stored, reads, triggered, rfl⟩ :=
        onInstance_eq_ok sound returned
      exact sound_refund sound stored reads (fresh held row read stored) triggered

theorem validate_reads (entry : EscrowEntry) :
    Txn.Reads (validateEscrowBalance entry) := by
  refine Txn.reads_bind Txn.reads_get fun exchange => ?_
  split
  · exact Txn.reads_bind (Txn.reads_expect _ _) fun _ => Txn.reads_require _ _
  · exact Txn.reads_bind (Txn.reads_expect _ _) fun _ => Txn.reads_require _ _
  · exact Txn.reads_pure _

theorem validate_rollsBack (entry : EscrowEntry) :
    Txn.RollsBack (validateEscrowBalance entry) := by
  refine Txn.rollsBack_bind Txn.reads_get Txn.rollsBack_get fun exchange => ?_
  split
  · exact Txn.rollsBack_bind (Txn.reads_expect _ _) (Txn.rollsBack_expect _ _)
      fun _ => Txn.rollsBack_require _ _
  · exact Txn.rollsBack_bind (Txn.reads_expect _ _) (Txn.rollsBack_expect _ _)
      fun _ => Txn.rollsBack_require _ _
  · exact Txn.rollsBack_pure _

theorem auction_rollsBack (op : AuctionOp) : Txn.RollsBack op.run := by
  have never : ∀ change : Exchange → Exchange,
      Txn.RollsBack (modify change : AuctionTxn PUnit) :=
    fun _ _ _ _ failed => absurd failed Txn.modify_eq_error
  have finds : ∀ {α : Type} (read : Exchange → Option α)
      (change : α → Exchange → Exchange),
      Txn.RollsBack (do
        let exchange ← get
        let found ← Txn.expect (read exchange) .missing
        modify (change found) : AuctionTxn PUnit) := by
    intro α read change
    refine Txn.rollsBack_bind Txn.reads_get Txn.rollsBack_get fun exchange => ?_
    exact Txn.rollsBack_bind (Txn.reads_expect _ _) (Txn.rollsBack_expect _ _)
      fun _ => never _
  cases op with
  | deposit client amount =>
      refine Txn.rollsBack_bind Txn.reads_get Txn.rollsBack_get fun exchange => ?_
      refine Txn.rollsBack_bind (Txn.reads_expect _ _) (Txn.rollsBack_expect _ _)
        fun _ => ?_
      exact Txn.rollsBack_bind (validate_reads _) (validate_rollsBack _)
        fun _ => never _
  | checkWithdrawal client amount =>
      exact Txn.rollsBack_bind (validate_reads _) (validate_rollsBack _)
        fun _ => never _
  | saveWithdrawal key => exact finds _ _
  | openAuction buyer requiredQty => exact finds _ _
  | read pk => exact finds _ _
  | award key winner price => exact Txn.rollsBack_atomic _
  | hold key => exact Txn.rollsBack_atomic _
  | ship key => exact Txn.rollsBack_atomic _
  | dispute key => exact Txn.rollsBack_atomic _
  | release key => exact Txn.rollsBack_atomic _
  | refund key => exact Txn.rollsBack_atomic _

abbrev FeeRate := { rate : ℕ // rate ≤ 10000 }

def openedExchange (rates : Table FeeRate) : Exchange :=
  { clients := rates.map fun _ rate =>
      { platformFeeRate := rate.1, rate_le := rate.2 } }

theorem sound_openedExchange (rates : Table FeeRate) :
    SoundExchange (openedExchange rates) := by
  have blank : ∀ pk client, (openedExchange rates).clients.get? pk =
      some client → client.walletBalance = 0 ∧ client.escrowHeld = 0 := by
    intro pk client stored
    rw [openedExchange, Table.get?_map] at stored
    obtain ⟨rate, -, rfl⟩ := Option.map_eq_some_iff.mp stored
    exact ⟨rfl, rfl⟩
  refine ⟨?_, ?_, ?_, ?_, ?_, ?_, ?_, ?_, ?_⟩
  · intro pk client stored
    exact le_of_eq (blank pk client stored).1.symm
  · intro pk client stored
    exact (blank pk client stored).2
  · rw [Table.total_eq_zero fun pk client stored => (blank pk client stored).1,
      Table.total_eq_zero fun pk client stored => (blank pk client stored).2]
    rfl
  · exact fun _ _ stored => by cases stored
  · exact fun _ member => by cases member
  · exact fun _ _ stored => by cases stored
  · exact fun _ _ stored => by cases stored
  · exact fun _ _ stored => by cases stored
  · exact fun _ _ stored => by cases stored

/-- In every run whose operations find their auctions at the stage they take
them to be at, wallets conserve money. -/
theorem wallets_conserved (rates : Table FeeRate) (ops : List AuctionOp)
    (fresh : Txn.Throughout AuctionOp.run AuctionOp.Fresh ops
      (openedExchange rates)) :
    Conserved (Txn.after AuctionOp.run ops (openedExchange rates)) := by
  have sound := Txn.after_of_throughout SoundExchange auction_rollsBack
    (fun op before after kept met returned =>
      sound_auction_step op kept met returned)
    ops _ (sound_openedExchange rates) fresh
  exact conserved_of_sound sound

def twoClients : Table FeeRate :=
  (Table.empty.insert ⟨250, by decide⟩).insert ⟨250, by decide⟩

def heldAndShipped : List AuctionOp :=
  [.deposit 0 1000, .openAuction 0 1, .read 0, .award 0 1 1000, .hold 1, .ship 2]

theorem wallets_conserved_released :
    Conserved (Txn.after AuctionOp.run (heldAndShipped ++ [.release 3])
      (openedExchange twoClients)) := by
  have fresh : Txn.Throughout AuctionOp.run AuctionOp.Fresh
      (heldAndShipped ++ [.release 3]) (openedExchange twoClients) := by
    refine ⟨fun _ => trivial, fun _ => trivial, fun _ => trivial, fun _ => ?_,
      fun _ => ?_, fun _ => ?_, fun _ => ?_, trivial⟩
    · rintro held row ⟨⟩ ⟨⟩
      decide +kernel
    · rintro held row ⟨⟩ ⟨⟩
      decide +kernel
    · rintro held row ⟨⟩ ⟨⟩
      decide +kernel
    · rintro held row ⟨⟩ ⟨⟩
      decide +kernel
  exact wallets_conserved twoClients _ fresh

/-- The release is repeated on the instance that was read before it: the seller
is paid again and the escrow of the buyer goes below zero. -/
theorem release_repeats :
    ¬ ∀ rates ops, Conserved
      (Txn.after AuctionOp.run ops (openedExchange rates)) := by
  intro promised
  have conserved := promised twoClients
    (heldAndShipped ++ [.release 3, .release 3])
  have once := conserved.once 0
  exact absurd once (by decide +kernel)

end Market

end Mousstec
