import Mousstec.Library.Rounding
import Mousstec.Library.Runs
import Mousstec.Library.Table

/-!
# Pay per success

A fee is authorized for a VIN at the start of a session and captured when the
session succeeds, or else released; a stale authorization expires.  A capture
is settled afterwards, outside its transaction: by a gift credit, from the
wallet of the workshop, or by a link for a card payment.  Each of these is a
transaction of its own, and other calls may come between them.
-/

namespace Mousstec

namespace Billing

open Library

inductive ChargeStatus
  | authorized
  | captured
  | released
  | expired
  | declined
  deriving DecidableEq, Repr

def ChargeStatus.text : ChargeStatus → String
  | authorized => "authorized"
  | captured => "captured"
  | released => "released"
  | expired => "expired"
  | declined => "declined"

/-- `DiagnosticFeeCharge`.  Amounts are in piastres, times in
microseconds. -/
structure DiagnosticFeeCharge where
  vin : String
  amount : ℤ
  currency : String := "EGP"
  status : ChargeStatus := .authorized
  authorizationRef : String
  session : Option ℕ := none
  authorizedAt : ℤ
  finalisedAt : Option ℤ := none
  errorMessage : String := ""
  deriving DecidableEq

inductive GiftType
  | codingCredits
  | isnCredits
  | subscriptionWindow
  deriving DecidableEq, Repr

inductive GiftStatus
  | active
  | consumed
  | expired
  | revoked
  deriving DecidableEq, Repr

/-- `GiftCredit`. -/
structure GiftCredit where
  tenantSchema : String
  grantType : GiftType
  creditsRemaining : ℕ
  validUntil : Option ℤ
  status : GiftStatus := .active
  grantedAt : ℤ
  deriving DecidableEq

/-- `GiftCreditUsage`. -/
structure GiftCreditUsage where
  gift : ℕ
  vin : String
  operationType : String
  reference : String
  deriving DecidableEq

inductive SettlementMode
  | gift
  | wallet
  | paymob
  | failed
  deriving DecidableEq, Repr

/-- `SettlementOutcome`. -/
structure SettlementOutcome where
  mode : SettlementMode
  succeeded : Bool
  amount : ℤ
  walletBefore : Option ℤ := none
  walletAfter : Option ℤ := none
  paymobIframeUrl : String := ""
  giftPk : Option ℕ := none
  giftGrantType : Option GiftType := none
  giftRemainingAfter : Option ℕ := none
  errorMessage : String := ""
  deriving DecidableEq

/-- `BmwEcuSettlement`. -/
structure BmwEcuSettlement where
  mode : SettlementMode
  succeeded : Bool
  amount : ℤ
  currency : String
  walletBefore : Option ℤ
  walletAfter : Option ℤ
  paymobIframeUrl : String
  gift : Option ℕ
  errorMessage : String
  deriving DecidableEq

/-- What the next transaction of a settlement is. -/
inductive Awaits
  | charge
  | gift (pk : ℕ) (vin currency : String)
  | wallet (pk : ℕ) (vin currency : String) (thenPaymob : Bool)
  | iframe (pk : ℕ) (vin : String) (tried : Option SettlementOutcome)
  | saving (pk : ℕ) (outcome : SettlementOutcome)
  deriving DecidableEq

/-- An `on_captured` under way. -/
structure SettlementJob where
  reference : String
  amount : ℤ
  awaits : Awaits := .charge
  deriving DecidableEq

/-- A debit of the wallet that was committed, kept as history. -/
structure WalletDebit where
  reference : String
  before : ℤ
  after : ℤ
  amount : ℤ
  deriving DecidableEq

/-- The setting `BMW_ECU_SETTLEMENT_PROVIDER`. -/
inductive ProviderName
  | wallet
  | paymob
  | walletThenPaymob
  | giftThenWalletThenPaymob
  deriving DecidableEq, Repr

/-- The rows of a workshop, the wallet of its tenant if there is one, the time,
and the settlements under way. -/
structure Gate where
  now : ℤ
  schema : Option String
  provider : ProviderName
  wallet : Option ℤ
  charges : Table DiagnosticFeeCharge := .empty
  gifts : Table GiftCredit := .empty
  usages : List GiftCreditUsage := []
  settlements : ℕ → Option BmwEcuSettlement := fun _ => none
  jobs : Table SettlementJob := .empty
  debits : List WalletDebit := []

inductive GateError
  | billing (message : String)
  | insufficientBalance (balance : ℤ)
  | integrity
  | data
  deriving DecidableEq

abbrev GateTxn := Txn GateError Gate

/-- `AuthorizationResult`. -/
structure AuthorizationResult where
  authorizationRef : String
  vin : String
  amount : ℤ
  currency : String
  status : ChargeStatus
  isNew : Bool
  deriving DecidableEq

namespace DiagnosticFeeCharge

variable (charge : DiagnosticFeeCharge)

def result (isNew : Bool) : AuthorizationResult :=
  { authorizationRef := charge.authorizationRef
    vin := charge.vin
    amount := charge.amount
    currency := charge.currency
    status := charge.status
    isNew }

def isOpenFor (vin : String) : Bool :=
  charge.vin = vin ∧ charge.status = .authorized

def finalised (status : ChargeStatus) (now : ℤ) (reason : String) :
    DiagnosticFeeCharge :=
  { charge with
    status
    finalisedAt := some now
    errorMessage := if reason = "" then charge.errorMessage else reason }

end DiagnosticFeeCharge

def hour : ℤ := 3600000000

/-- `STALE_AUTH_HOURS`. -/
def staleAuthHours : ℤ := 24

/-- An open authorization that is older than a number of hours, of one VIN or
of any. -/
def DiagnosticFeeCharge.isStale (charge : DiagnosticFeeCharge) (now : ℤ)
    (maxAgeHours : ℤ) (vin : Option String) : Bool :=
  charge.status = .authorized ∧ charge.authorizedAt < now - maxAgeHours * hour ∧
    vin.all (charge.vin = ·)

def expiredMessage (maxAgeHours : ℤ) : String :=
  "حجز اتقفل تلقائي — الجلسة ماخلصتش خلال " ++ toString maxAgeHours ++ " ساعة"

def DiagnosticFeeCharge.reaped (charge : DiagnosticFeeCharge) (now : ℤ)
    (maxAgeHours : ℤ) (vin : Option String) : DiagnosticFeeCharge :=
  if charge.isStale now maxAgeHours vin then
    { charge with
      status := .expired
      finalisedAt := some now
      errorMessage := expiredMessage maxAgeHours }
  else charge

/-- `expire_stale_authorizations`. -/
def expireStaleAuthorizations (maxAgeHours : ℤ) (vin : Option String) :
    GateTxn PUnit :=
  modify fun gate =>
    { gate with
      charges := gate.charges.map fun _ charge =>
        charge.reaped gate.now maxAgeHours vin }

namespace Gate

def openOf (gate : Gate) (vin : String) : Option (ℕ × DiagnosticFeeCharge) :=
  gate.charges.rows.find? (·.2.isOpenFor vin)

def notBefore : Option ℤ → Option ℤ → Bool
  | none, _ => true
  | some _, none => false
  | some first, some second => decide (second ≤ first)

def lastOf (gate : Gate) (vin : String) (status : ChargeStatus) :
    Option (ℕ × DiagnosticFeeCharge) :=
  let rows := gate.charges.rows.filter fun row =>
    row.2.vin = vin ∧ row.2.status = status
  rows.find? fun row =>
    rows.all fun other => notBefore row.2.finalisedAt other.2.finalisedAt

def chargeOf (gate : Gate) (reference : String) :
    Option (ℕ × DiagnosticFeeCharge) :=
  gate.charges.rows.find? (·.2.authorizationRef = reference)

end Gate

/-- The arguments of an authorization, with the token that is drawn for it.
One that raced did not see the authorization of another on its probe. -/
structure AuthorizeCall where
  vin : String
  amount : ℤ
  currency : String := "EGP"
  session : Option ℕ := none
  token : String
  raced : Bool := false

def AuthorizeCall.row (call : AuthorizeCall) (now : ℤ) : DiagnosticFeeCharge :=
  { vin := call.vin
    amount := call.amount
    currency := call.currency
    authorizationRef := "BMWECU-" ++ call.token
    session := call.session
    authorizedAt := now }

def DiagnosticFeeCharge.Fits (charge : DiagnosticFeeCharge) : Prop :=
  charge.vin.length ≤ 17 ∧ charge.currency.length ≤ 3 ∧
    charge.authorizationRef.length ≤ 64 ∧ charge.amount.natAbs < 10 ^ 10

instance (charge : DiagnosticFeeCharge) : Decidable charge.Fits :=
  inferInstanceAs (Decidable (_ ∧ _))

/-- `DiagnosticFeeCharge.objects.create`: a reference is used once, and a VIN
has one open authorization. -/
def createCharge (charge : DiagnosticFeeCharge) : GateTxn PUnit := do
  let gate ← get
  Txn.require charge.Fits .data
  Txn.require (gate.chargeOf charge.authorizationRef = none) .integrity
  Txn.require (gate.openOf charge.vin = none) .integrity
  modify fun gate => { gate with charges := gate.charges.insert charge }

def AuthorizeCall.probe (call : AuthorizeCall) (gate : Gate) :
    Option (ℕ × DiagnosticFeeCharge) :=
  if call.raced then none else gate.openOf call.vin

/-- `_authorize_sync`. -/
def authorize (call : AuthorizeCall) : GateTxn AuthorizationResult :=
  Txn.atomic do
    expireStaleAuthorizations staleAuthHours (some call.vin)
    let gate ← get
    match call.probe gate with
    | some (_, existing) => pure (existing.result false)
    | none => do
        createCharge (call.row gate.now)
        pure ((call.row gate.now).result true)

/-- `_finalise_sync`. -/
def finalise (vin : String) (target : ChargeStatus) (reason : String) :
    GateTxn AuthorizationResult :=
  Txn.atomic do
    let gate ← get
    match gate.openOf vin with
    | some (pk, row) => do
        modify fun gate =>
          { gate with
            charges := gate.charges.modify pk fun row =>
              row.finalised target gate.now reason }
        pure ((row.finalised target gate.now reason).result true)
    | none =>
        match gate.lastOf vin target with
        | some (_, last) => pure (last.result false)
        | none => throw (.billing
            ("No open authorization for VIN " ++ vin ++ " to " ++ target.text))

/-- `capture_fee`, up to the start of its settlement. -/
def captureFee (vin : String) : GateTxn AuthorizationResult := do
  let result ← finalise vin .captured ""
  modify fun gate =>
    { gate with
      jobs := gate.jobs.insert
        { reference := result.authorizationRef, amount := result.amount } }
  pure result

/-- `release_fee`. -/
def releaseFee (vin reason : String) : GateTxn AuthorizationResult :=
  finalise vin .released reason

namespace GiftCredit

/-- `is_consumable`. -/
def isConsumable (gift : GiftCredit) (now : ℤ) : Bool :=
  if gift.status ≠ .active then false
  else if gift.validUntil.any (· < now) then false
  else if gift.grantType = .subscriptionWindow then true
  else 0 < gift.creditsRemaining

def used (gift : GiftCredit) : GiftCredit :=
  if gift.grantType = .subscriptionWindow then gift
  else
    { gift with
      creditsRemaining := gift.creditsRemaining - 1
      status :=
        if gift.creditsRemaining - 1 = 0 then .consumed else gift.status }

def remaining (gift : GiftCredit) : Option ℕ :=
  if gift.grantType = .subscriptionWindow then none
  else some gift.creditsRemaining

end GiftCredit

/-- `GiftConsumption`. -/
structure GiftConsumption where
  consumed : Bool
  giftPk : Option ℕ
  grantType : Option GiftType
  remainingAfter : Option ℕ
  reason : String := ""
  deriving DecidableEq

/-- `GIFT_TYPES_FOR_ISN`. -/
def giftTypesForIsn : List GiftType := [.isnCredits, .subscriptionWindow]

/-- The arguments of `consume_gift`. -/
structure GiftCall where
  tenantSchema : String
  grantTypes : List GiftType
  vin : String
  operationType : String
  reference : String

/-- A row that `consume_gift` selects. -/
def GiftCall.selects (call : GiftCall) (now : ℤ) (gift : GiftCredit) : Bool :=
  gift.tenantSchema = call.tenantSchema ∧ gift.status = .active ∧
    gift.grantType ∈ call.grantTypes ∧ gift.validUntil.all (now < ·)

def GiftCall.found (call : GiftCall) (gate : Gate) : Option (ℕ × GiftCredit) :=
  let rows := gate.gifts.rows.filter fun row =>
    call.selects gate.now row.2 && row.2.isConsumable gate.now
  rows.find? fun row =>
    rows.all fun other => decide (row.2.grantedAt ≤ other.2.grantedAt)

def GiftCall.usage (call : GiftCall) (pk : ℕ) : GiftCreditUsage :=
  { gift := pk
    vin := call.vin
    operationType := call.operationType
    reference := call.reference }

/-- `consume_gift`. -/
def consumeGift (call : GiftCall) : GateTxn GiftConsumption := do
  let gate ← get
  match call.found gate with
  | none =>
      pure
        { consumed := false
          giftPk := none
          grantType := none
          remainingAfter := none
          reason := "no consumable gift" }
  | some (pk, gift) => do
      modify fun gate =>
        { gate with
          gifts := gate.gifts.modify pk GiftCredit.used
          usages := gate.usages ++ [call.usage pk] }
      pure
        { consumed := true
          giftPk := some pk
          grantType := some gift.grantType
          remainingAfter := gift.used.remaining }

def Gate.activeSchema (gate : Gate) : Option String :=
  gate.schema.filter (· ≠ "")

def fitsWallet (balance : ℤ) : Prop :=
  balance.natAbs < 10 ^ 15

instance (balance : ℤ) : Decidable (fitsWallet balance) :=
  inferInstanceAs (Decidable (_ < _))

/-- `WalletDeductProvider._deduct`: the balance before and after. -/
def deduct (reference : String) (amount : ℤ) : GateTxn (ℤ × ℤ) := do
  let gate ← get
  let schema ← Txn.expect gate.activeSchema
    (.billing "settlement: no active tenant schema")
  let before ← Txn.expect gate.wallet
    (.billing ("settlement: tenant '" ++ schema ++ "' not found"))
  Txn.require (amount ≤ before) (.insufficientBalance before)
  Txn.require (fitsWallet (before - amount)) .data
  modify fun gate =>
    { gate with
      wallet := some (before - amount)
      debits := gate.debits ++
        [{ reference, before, after := before - amount, amount }] }
  pure (before, before - amount)

def poundsText (amount : ℤ) : String :=
  let fraction := toString (amount.natAbs % 100)
  (if amount < 0 then "-" else "") ++ toString (amount.natAbs / 100) ++ "." ++
    (if fraction.length = 1 then "0" ++ fraction else fraction)

/-- `WalletDeductProvider.settle`. -/
def walletSettle (reference : String) (amount : ℤ) (currency : String) :
    GateTxn SettlementOutcome :=
  if currency ≠ "EGP" then
    pure
      { mode := .failed
        succeeded := false
        amount
        errorMessage := "wallet supports EGP only, got " ++ currency }
  else do
    let outcome : Except GateError (ℤ × ℤ) ←
      Txn.attempt (Txn.atomic (deduct reference amount))
    match outcome with
    | .ok (before, after) =>
        pure
          { mode := .wallet
            succeeded := true
            amount
            walletBefore := some before
            walletAfter := some after }
    | .error (.insufficientBalance before) =>
        pure
          { mode := .wallet
            succeeded := false
            amount
            walletBefore := some before
            walletAfter := some before
            errorMessage := "insufficient balance (" ++ poundsText before ++ " EGP)" }
    | .error error => throw error

abbrev CardReply := Except String String

/-- `PaymobInvoiceProvider.settle`. -/
def paymobSettle (amount : ℤ) : CardReply → SettlementOutcome
  | .ok url =>
      { mode := .paymob, succeeded := true, amount, paymobIframeUrl := url }
  | .error message =>
      { mode := .failed
        succeeded := false
        amount
        errorMessage := "paymob: " ++ message }

def SettlementOutcome.after (outcome : SettlementOutcome) :
    Option SettlementOutcome → SettlementOutcome
  | none => outcome
  | some tried =>
      { outcome with
        walletBefore := tried.walletBefore
        walletAfter := tried.walletAfter }

def giftOutcome (amount : ℤ) (consumption : GiftConsumption) :
    SettlementOutcome :=
  { mode := .gift
    succeeded := true
    amount
    giftPk := consumption.giftPk
    giftGrantType := consumption.grantType
    giftRemainingAfter := consumption.remainingAfter }

def SettlementOutcome.row (outcome : SettlementOutcome) : BmwEcuSettlement :=
  { mode := outcome.mode
    succeeded := outcome.succeeded
    amount := outcome.amount
    currency := "EGP"
    walletBefore := outcome.walletBefore
    walletAfter := outcome.walletAfter
    paymobIframeUrl := outcome.paymobIframeUrl
    gift := outcome.giftPk
    errorMessage := outcome.errorMessage }

/-- `_save_settlement`. -/
def saveSettlement (pk : ℕ) (outcome : SettlementOutcome) : GateTxn PUnit := do
  Txn.require (outcome.paymobIframeUrl.length ≤ 1024) .data
  modify fun gate =>
    { gate with
      settlements := Function.update gate.settlements pk (some outcome.row) }

def ProviderName.begins (provider : ProviderName) (pk : ℕ)
    (vin currency : String) : Awaits :=
  match provider with
  | wallet => .wallet pk vin currency false
  | paymob => .iframe pk vin none
  | walletThenPaymob => .wallet pk vin currency true
  | giftThenWalletThenPaymob => .gift pk vin currency

/-- The gift part of `GiftFirstProvider.settle`. -/
def giftStep (reference : String) (amount : ℤ) (pk : ℕ)
    (vin currency : String) : GateTxn (Option Awaits) := do
  let gate ← get
  match gate.activeSchema with
  | none => pure (some (.wallet pk vin currency true))
  | some tenantSchema => do
      let consumption ← consumeGift
        { tenantSchema, grantTypes := giftTypesForIsn, vin
          operationType := "isn", reference }
      pure (some (
        if consumption.consumed then .saving pk (giftOutcome amount consumption)
        else .wallet pk vin currency true))

/-- The wallet part of `WalletThenPaymobProvider.settle`, or the wallet on its
own. -/
def walletStep (reference : String) (amount : ℤ) (pk : ℕ)
    (vin currency : String) (thenPaymob : Bool) : GateTxn (Option Awaits) := do
  let outcome ← walletSettle reference amount currency
  pure (some (
    if outcome.succeeded = false ∧ thenPaymob then .iframe pk vin (some outcome)
    else .saving pk outcome))

/-- The next transaction of `on_captured`, and what is awaited after it. -/
def onCapturedStep (reference : String) (amount : ℤ) (reply : CardReply) :
    Awaits → GateTxn (Option Awaits)
  | .charge => do
      let gate ← get
      pure ((gate.chargeOf reference).map fun found =>
        gate.provider.begins found.1 found.2.vin found.2.currency)
  | .gift pk vin currency => giftStep reference amount pk vin currency
  | .wallet pk vin currency thenPaymob =>
      walletStep reference amount pk vin currency thenPaymob
  | .iframe pk _ tried =>
      pure (some (.saving pk ((paymobSettle amount reply).after tried)))
  | .saving pk outcome => do
      saveSettlement pk outcome
      pure none

def endJob (key : ℕ) (gate : Gate) : Gate :=
  { gate with jobs := gate.jobs.erase key }

def settle (key : ℕ) (reply : CardReply) : GateTxn PUnit := do
  let gate ← get
  match gate.jobs.get? key with
  | none => pure ⟨⟩
  | some job => do
      let outcome : Except GateError (Option Awaits) ← Txn.attempt (Txn.atomic
        (onCapturedStep job.reference job.amount reply job.awaits))
      match outcome with
      | .ok (some awaits) =>
          modify fun gate =>
            { gate with
              jobs := gate.jobs.modify key fun job => { job with awaits } }
      | .ok none => modify (endJob key)
      | .error _ => modify (endJob key)

/-- What happens to the gate: the four calls, the settlements going on or
stopping with the process, and around them new gifts, other movements of the
wallet and time. -/
inductive GateOp
  | authorize (call : AuthorizeCall)
  | capture (vin : String)
  | release (vin reason : String)
  | expire (maxAgeHours : ℤ) (vin : Option String)
  | settle (key : ℕ) (reply : CardReply)
  | stop (key : ℕ)
  | gift (credit : GiftCredit)
  | receive (amount : ℤ)
  | pass (later : ℕ)

def GateOp.run : GateOp → GateTxn PUnit
  | authorize call => do
      let _ ← Billing.authorize call
      pure ⟨⟩
  | capture vin => do
      let _ ← captureFee vin
      pure ⟨⟩
  | release vin reason => do
      let _ ← releaseFee vin reason
      pure ⟨⟩
  | expire maxAgeHours vin => expireStaleAuthorizations maxAgeHours vin
  | settle key reply => Billing.settle key reply
  | stop key => modify (endJob key)
  | gift credit => modify fun gate => { gate with gifts := gate.gifts.insert credit }
  | receive amount =>
      modify fun gate => { gate with wallet := gate.wallet.map (· + amount) }
  | pass later => modify fun gate => { gate with now := gate.now + later }

end Billing

end Mousstec
