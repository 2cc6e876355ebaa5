import Mousstec.Library.Rounding
import Mousstec.Library.Runs
import Mousstec.Library.Table

/-!
# Reverse auctions

A buyer's money is held for an auction that is awarded, and released to the
seller or refunded when the auction ends.  Every movement is a row of the escrow
ledger, and the balances of the clients follow the rows as they are saved.  The
triggers act on an instance of the auction that was read earlier; they take no
lock on it.
-/

namespace Mousstec

namespace Market

open Library

inductive AuctionStatus
  | open
  | awarding
  | escrowHeld
  | shipped
  | completed
  | disputed
  | cancelled
  deriving DecidableEq, Repr

/-- `Client`, as far as the wallet goes: amounts in piastres, the fee rate in
hundredths of a percent. -/
structure Client where
  walletBalance : ℤ := 0
  escrowHeld : ℤ := 0
  platformFeeRate : ℕ
  rate_le : platformFeeRate ≤ 10000

/-- `BlindBiddingRequest`. -/
structure BlindBiddingRequest where
  buyer : ℕ
  requiredQty : ℤ
  winner : Option ℕ := none
  winningPrice : Option ℕ := none
  platformFeeCollected : ℤ := 0
  status : AuctionStatus := .open
  deriving DecidableEq

inductive EntryKind
  | deposit
  | hold
  | release
  | refund
  | feeDeduction
  | withdrawal
  deriving DecidableEq, Repr

/-- `EscrowLedger`. -/
structure EscrowEntry where
  client : ℕ
  auction : Option ℕ := none
  kind : EntryKind
  amount : ℤ
  deriving DecidableEq

/-- An auction as its caller has read it. -/
structure Instance where
  pk : ℕ
  auction : BlindBiddingRequest
  deriving DecidableEq

/-- The tables, the instances that callers hold, and the withdrawals that have
passed their check. -/
structure Exchange where
  clients : Table Client
  auctions : Table BlindBiddingRequest := .empty
  ledger : List EscrowEntry := []
  instances : Table Instance := .empty
  withdrawals : Table EscrowEntry := .empty

inductive AuctionError
  | validation (message : String)
  | missing
  deriving DecidableEq

abbrev AuctionTxn := Txn AuctionError Exchange

namespace BlindBiddingRequest

variable (auction : BlindBiddingRequest)

def quantity : ℤ :=
  max (if auction.requiredQty = 0 then 1 else auction.requiredQty) 1

/-- `goods_total`. -/
def goodsTotal : ℤ :=
  match auction.winningPrice with
  | none => 0
  | some price => price * auction.quantity

def priced : Bool :=
  auction.winningPrice.any (0 < ·)

end BlindBiddingRequest

namespace Exchange

variable (exchange : Exchange)

def sumOf (kind : EntryKind) (pk : ℕ) : ℤ :=
  ((exchange.ledger.filter fun entry =>
    entry.kind = kind ∧ entry.auction = some pk).map EscrowEntry.amount).sum

/-- `net_escrow_held`. -/
def netEscrowHeld (pk : ℕ) : ℤ :=
  exchange.sumOf .hold pk - exchange.sumOf .release pk - exchange.sumOf .refund pk

end Exchange

namespace Client

def moved (client : Client) (wallet escrow : ℤ) : Client :=
  { client with
    walletBalance := client.walletBalance + wallet
    escrowHeld := client.escrowHeld + escrow }

@[simp] theorem walletBalance_moved (client : Client) (wallet escrow : ℤ) :
    (client.moved wallet escrow).walletBalance =
      client.walletBalance + wallet := rfl

@[simp] theorem escrowHeld_moved (client : Client) (wallet escrow : ℤ) :
    (client.moved wallet escrow).escrowHeld = client.escrowHeld + escrow := rfl

end Client

/-- `validate_escrow_balance_before_save`. -/
def validateEscrowBalance (entry : EscrowEntry) : AuctionTxn PUnit := do
  let exchange ← get
  match entry.kind with
  | .hold => do
      let client ← Txn.expect (exchange.clients.get? entry.client) .missing
      Txn.require (entry.amount ≤ client.walletBalance)
        (.validation "الرصيد المتاح لا يكفي لتجميد ثمن المزاد.")
  | .withdrawal => do
      let client ← Txn.expect (exchange.clients.get? entry.client) .missing
      Txn.require (entry.amount ≤ client.walletBalance)
        (.validation "الرصيد المتاح للسحب أقل من المبلغ المطلوب.")
  | _ => pure ⟨⟩

/-- `update_client_balances_on_ledger_entry`.  A release reads the winner and
the fee from the auction object of the row. -/
def updateClientBalances (entry : EscrowEntry)
    (auction : Option BlindBiddingRequest) (clients : Table Client) :
    Table Client :=
  match entry.kind with
  | .deposit => clients.modify entry.client (·.moved entry.amount 0)
  | .hold => clients.modify entry.client (·.moved (-entry.amount) entry.amount)
  | .release =>
      let unfrozen := clients.modify entry.client (·.moved 0 (-entry.amount))
      match auction.bind fun auction =>
          auction.winner.map (·, auction.platformFeeCollected) with
      | none => unfrozen
      | some (seller, fee) =>
          unfrozen.modify seller (·.moved (entry.amount - fee) 0)
  | .refund => clients.modify entry.client (·.moved entry.amount (-entry.amount))
  | .withdrawal => clients.modify entry.client (·.moved (-entry.amount) 0)
  | .feeDeduction => clients

def Exchange.record (exchange : Exchange) (entry : EscrowEntry)
    (auction : Option BlindBiddingRequest) : Exchange :=
  { exchange with
    ledger := exchange.ledger ++ [entry]
    clients := updateClientBalances entry auction exchange.clients }

/-- `EscrowLedger.objects.create` within a transaction. -/
def createEntry (entry : EscrowEntry) (auction : Option BlindBiddingRequest) :
    AuctionTxn PUnit := do
  validateEscrowBalance entry
  modify (·.record entry auction)

def saveStatus (pk : ℕ) (status : AuctionStatus) : AuctionTxn PUnit :=
  modify fun exchange =>
    { exchange with
      auctions := exchange.auctions.modify pk fun row => { row with status } }

/-- `trigger_escrow_hold`, with the instance it leaves. -/
def triggerEscrowHold (pk : ℕ) (auction : BlindBiddingRequest) :
    AuctionTxn BlindBiddingRequest := do
  Txn.require (auction.status = .open ∨ auction.status = .awarding)
    (.validation "المزاد ليس في الحالة المفتوحة للتجميد المالي.")
  Txn.require auction.priced
    (.validation "يجب تحديد سعر الترسية النهائي لخصم الضمان.")
  createEntry
    { client := auction.buyer
      auction := some pk
      kind := .hold
      amount := auction.goodsTotal } (some auction)
  saveStatus pk .escrowHeld
  pure { auction with status := .escrowHeld }

def platformFee (amount : ℤ) (rate : ℕ) : ℤ :=
  roundHalfEven ((amount : ℚ) * rate / 10000)

def excessHeld (held goodsTotal : ℤ) : ℤ :=
  if goodsTotal < held then held - goodsTotal else 0

def createPositive (entry : EscrowEntry)
    (auction : Option BlindBiddingRequest) : AuctionTxn PUnit :=
  if 0 < entry.amount then createEntry entry auction else pure ⟨⟩

def BlindBiddingRequest.soldTo (auction : BlindBiddingRequest) : Option ℕ :=
  if auction.priced then auction.winner else none

/-- `trigger_release_to_seller`, with the instance it leaves. -/
def triggerReleaseToSeller (pk : ℕ) (auction : BlindBiddingRequest) :
    AuctionTxn BlindBiddingRequest := do
  Txn.require (auction.status = .shipped)
    (.validation "لا يمكن تحرير الضمان المالي إلا بعد إتمام عملية الشحن والتسليم.")
  let seller ← Txn.expect auction.soldTo
    (.validation "بيانات التاجر الفائز غير مكتملة.")
  let exchange ← get
  let buyer ← Txn.expect (exchange.clients.get? auction.buyer) .missing
  let goodsTotal := auction.goodsTotal
  let fee := platformFee goodsTotal buyer.platformFeeRate
  let completed :=
    { auction with status := .completed, platformFeeCollected := fee }
  modify fun exchange =>
    { exchange with
      auctions := exchange.auctions.modify pk fun row =>
        { row with status := .completed, platformFeeCollected := fee } }
  createPositive
    { client := auction.buyer
      auction := some pk
      kind := .refund
      amount := excessHeld (exchange.netEscrowHeld pk) goodsTotal }
    (some completed)
  createEntry
    { client := auction.buyer
      auction := some pk
      kind := .release
      amount := goodsTotal } (some completed)
  createPositive
    { client := seller
      auction := some pk
      kind := .feeDeduction
      amount := fee } (some completed)
  pure completed

def refundAmount (held goodsTotal : ℤ) : ℤ :=
  if 0 < held then held else goodsTotal

/-- `trigger_refund_to_buyer`, with the instance it leaves. -/
def triggerRefundToBuyer (pk : ℕ) (auction : BlindBiddingRequest) :
    AuctionTxn BlindBiddingRequest := do
  Txn.require (auction.status = .escrowHeld ∨ auction.status = .disputed)
    (.validation "لا يمكن رد المبالغ المجمّدة في هذه المرحلة.")
  let exchange ← get
  saveStatus pk .cancelled
  createEntry
    { client := auction.buyer
      auction := some pk
      kind := .refund
      amount := refundAmount (exchange.netEscrowHeld pk) auction.goodsTotal }
    (some { auction with status := .cancelled })
  pure { auction with status := .cancelled }

def onInstance (key : ℕ)
    (trigger : ℕ → BlindBiddingRequest → AuctionTxn BlindBiddingRequest) :
    AuctionTxn PUnit :=
  Txn.atomic do
    let exchange ← get
    let held ← Txn.expect (exchange.instances.get? key) .missing
    let auction ← trigger held.pk held.auction
    modify fun exchange =>
      { exchange with
        instances := exchange.instances.insert { held with auction } }

def setStatus (status : AuctionStatus) (pk : ℕ) (auction : BlindBiddingRequest) :
    AuctionTxn BlindBiddingRequest := do
  saveStatus pk status
  pure { auction with status }

def awardTo (winner price : ℕ) (pk : ℕ) (auction : BlindBiddingRequest) :
    AuctionTxn BlindBiddingRequest := do
  Txn.require (auction.status = .open ∨ auction.status = .awarding) .missing
  let exchange ← get
  let _ ← Txn.expect (exchange.clients.get? winner) .missing
  modify fun exchange =>
    { exchange with
      auctions := exchange.auctions.modify pk fun row =>
        { row with
          status := .awarding
          winner := some winner
          winningPrice := some price } }
  pure
    { auction with
      status := .awarding
      winner := some winner
      winningPrice := some price }

def openAuction (buyer : ℕ) (requiredQty : ℤ) : AuctionTxn PUnit := do
  let exchange ← get
  let _ ← Txn.expect (exchange.clients.get? buyer) .missing
  modify fun exchange =>
    { exchange with
      auctions := exchange.auctions.insert { buyer, requiredQty } }

def readAuction (pk : ℕ) : AuctionTxn PUnit := do
  let exchange ← get
  let auction ← Txn.expect (exchange.auctions.get? pk) .missing
  modify fun exchange =>
    { exchange with instances := exchange.instances.insert { pk, auction } }

def checkWithdrawal (client amount : ℕ) : AuctionTxn PUnit := do
  let entry : EscrowEntry := { client, kind := .withdrawal, amount }
  validateEscrowBalance entry
  modify fun exchange =>
    { exchange with withdrawals := exchange.withdrawals.insert entry }

def saveWithdrawal (key : ℕ) : AuctionTxn PUnit := do
  let exchange ← get
  let entry ← Txn.expect (exchange.withdrawals.get? key) .missing
  modify fun exchange =>
    { exchange.record entry none with
      withdrawals := exchange.withdrawals.erase key }

def deposit (client amount : ℕ) : AuctionTxn PUnit := do
  let exchange ← get
  let _ ← Txn.expect (exchange.clients.get? client) .missing
  createEntry { client, kind := .deposit, amount } none

inductive AuctionOp
  | deposit (client amount : ℕ)
  | checkWithdrawal (client amount : ℕ)
  | saveWithdrawal (key : ℕ)
  | openAuction (buyer : ℕ) (requiredQty : ℤ)
  | read (pk : ℕ)
  | award (key winner price : ℕ)
  | hold (key : ℕ)
  | ship (key : ℕ)
  | dispute (key : ℕ)
  | release (key : ℕ)
  | refund (key : ℕ)

def AuctionOp.run : AuctionOp → AuctionTxn PUnit
  | deposit client amount => Market.deposit client amount
  | checkWithdrawal client amount => Market.checkWithdrawal client amount
  | saveWithdrawal key => Market.saveWithdrawal key
  | openAuction buyer requiredQty => Market.openAuction buyer requiredQty
  | read pk => readAuction pk
  | award key winner price => onInstance key (awardTo winner price)
  | hold key => onInstance key triggerEscrowHold
  | ship key => onInstance key (setStatus .shipped)
  | dispute key => onInstance key (setStatus .disputed)
  | release key => onInstance key triggerReleaseToSeller
  | refund key => onInstance key triggerRefundToBuyer

end Market

end Mousstec
