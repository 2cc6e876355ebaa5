import Mousstec.Robot.Outbox
import Mathlib.Algebra.Order.Ring.Nat

/-!
# The counter page

Phones fill carts and confirm sales against the catalog on disk.  What is left
of a part is the stock in the catalog less what was sold since: the sales in the
outbox, and the ones that were sent and wait for the next catalog.  The outbox is
flushed, sales are reported to the ledger and catalogs are fetched meanwhile, one
statement at a time.
-/

namespace Mousstec

namespace Robot

open Library

structure SaleLine where
  partNumber : String
  qty : ℕ
  deriving DecidableEq

/-- The payload of an event; no branch is the robot's own. -/
structure CounterPayload where
  branchId : Option ℕ := none
  items : List SaleLine := []
  texts : List String := []
  deriving DecidableEq

instance : Texts CounterPayload where
  texts payload := payload.texts ++ payload.items.map SaleLine.partNumber

/-- `key`. -/
def soldKey (partNumber : String) (branchId : Option ℕ) : String :=
  match branchId with
  | none => partNumber
  | some id => toString id ++ "/" ++ partNumber

def Event.isSale (event : Event CounterPayload) : Bool :=
  event.kind == "sale"

/-- `_items`, one entry for each line. -/
def soldItems (events : List (Event CounterPayload)) : List (String × ℕ) :=
  (events.filter Event.isSale).flatMap fun event =>
    event.payload.items.map fun item =>
      (soldKey item.partNumber event.payload.branchId, item.qty)

def countOf (items : List (String × ℕ)) (key : String) : ℕ :=
  ((items.filter fun item => item.1 == key).map Prod.snd).sum

def lineQty (partNumber : String) (lines : List SaleLine) : ℕ :=
  ((lines.filter fun line => line.partNumber == partNumber).map
    SaleLine.qty).sum

def Event.sells (branchId : Option ℕ) (partNumber : String)
    (event : Event CounterPayload) : ℕ :=
  if event.isSale && event.payload.branchId == branchId then
    lineQty partNumber event.payload.items
  else 0

def soldQty (events : List (Event CounterPayload)) (branchId : Option ℕ)
    (partNumber : String) : ℕ :=
  (events.map (Event.sells branchId partNumber)).sum

/-- `Part`, as far as the counter goes. -/
structure Part where
  partNumber : String
  stock : ℤ
  elsewhere : List (ℕ × ℤ) := []
  active : Bool := true
  priced : Bool := true
  deriving DecidableEq

def Part.stockIn (part : Part) : Option ℕ → ℤ
  | none => part.stock
  | some id => ((part.elsewhere.find? (·.1 == id)).map Prod.snd).getD 0

/-- A catalog, with the events that the server had booked when it answered. -/
structure Catalog where
  branchId : Option ℕ := none
  branches : List ℕ := []
  parts : List Part
  seen : List (Event CounterPayload) := []
  deriving DecidableEq

/-- `part`. -/
def Catalog.part (catalog : Catalog) (partNumber : String) : Option Part :=
  catalog.parts.find? (·.partNumber == partNumber)

/-- How far a `refresh` has come. -/
inductive FetchStage
  | fetched
  | kept
  | saved
  deriving DecidableEq

/-- A `refresh` under way. -/
structure Fetch where
  catalog : Catalog
  stage : FetchStage := .fetched
  deriving DecidableEq

structure Session where
  maySell : Bool
  branchId : Option ℕ := none
  cart : List SaleLine := []
  deriving DecidableEq

/-- An `add` that has found its part. -/
structure Adding where
  session : ℕ
  part : Part
  qty : ℕ
  deriving DecidableEq

/-- A `confirm` that holds the lock: the lines of the cart, how many of them are
checked, and the part of the next one once it is found. -/
structure Confirming where
  session : ℕ
  lines : List SaleLine
  checked : ℕ := 0
  part : Option Part := none
  deriving DecidableEq

/-- The counter with the server: its stock, what it has booked, the outbox, the
ledger, the catalogs in memory and on disk, and the phones. Kept beside are the
sales that wait for a catalog, and the answers to what is left, with what the
server had for sale then. -/
structure CounterWorld where
  initial : Option ℕ → String → ℕ
  booked : List (Event CounterPayload) := []
  box : Outbox CounterPayload := {}
  sent : List (String × ℕ) := []
  memory : Catalog
  disk : Catalog
  sessions : Table Session := .empty
  adding : List Adding := []
  selling : Option Confirming := none
  finishing : List ℕ := []
  fetches : Table Fetch := .empty
  waiting : List (Event CounterPayload) := []
  asked : List (ℤ × ℤ) := []

namespace CounterWorld

variable (world : CounterWorld)

def serverStock (branchId : Option ℕ) (partNumber : String) : ℤ :=
  world.initial branchId partNumber - soldQty world.booked branchId partNumber

def confirmed : List (Event CounterPayload) :=
  world.box.added.filter Event.isSale

def unbooked : List (Event CounterPayload) :=
  world.confirmed.filter fun event => event ∉ world.booked

/-- `Ledger.sold`. -/
def sold : List (String × ℕ) :=
  soldItems (world.box.file.events.map StoredEvent.event) ++ world.sent

/-- `left`. -/
def left (part : Part) (cart : List SaleLine) (branchId : Option ℕ) : ℤ :=
  part.stockIn branchId -
    countOf world.sold (soldKey part.partNumber branchId) -
    lineQty part.partNumber cart

def asks (part : Part) (cart : List SaleLine) (branchId : Option ℕ) :
    CounterWorld :=
  { world with
    asked := (world.left part cart branchId,
      world.serverStock branchId part.partNumber -
        soldQty world.unbooked branchId part.partNumber) :: world.asked }

/-- `pick_branch`. -/
def pickBranch (key : ℕ) (branchId : Option ℕ) : CounterWorld :=
  match world.sessions.get? key with
  | none => world
  | some session =>
      let home := branchId.isNone || branchId == world.memory.branchId
      let found := branchId.filter (· ∈ world.memory.branches)
      if !home && found.isNone then world
      else
        let picked := if home then none else found
        if picked = session.branchId then world
        else
          { world with
            sessions := world.sessions.modify key fun session =>
              { session with
                branchId := picked
                cart := [] } }

def addLine (partNumber : String) (qty : ℕ) : List SaleLine → List SaleLine
  | [] => [{ partNumber, qty }]
  | line :: cart =>
      if line.partNumber = partNumber then
        { line with qty := line.qty + qty } :: cart
      else line :: addLine partNumber qty cart

/-- `add` finds its part. -/
def find (key : ℕ) (partNumber : String) (qty : ℕ) : CounterWorld :=
  match world.sessions.get? key, world.memory.part partNumber with
  | some session, some part =>
      if !session.maySell || !part.active || !part.priced || qty < 1 then world
      else
        { world with
          adding :=
            { session := key
              part
              qty } :: world.adding }
  | _, _ => world

/-- `add` asks what is left of its part, and puts it into the cart. -/
def add (adding : Adding) : CounterWorld :=
  match world.sessions.get? adding.session with
  | none => world
  | some session =>
      if adding ∈ world.adding then
        let after :=
          { world with adding := world.adding.erase adding }.asks adding.part
            session.cart session.branchId
        if world.left adding.part session.cart session.branchId <
            adding.qty then after
        else
          { after with
            sessions := world.sessions.modify adding.session fun session =>
              { session with
                cart := addLine adding.part.partNumber adding.qty
                  session.cart } }
      else world

/-- `remove`. -/
def remove (key : ℕ) (partNumber : String) : CounterWorld :=
  { world with
    sessions := world.sessions.modify key fun session =>
      { session with
        cart := session.cart.filter fun line =>
          line.partNumber != partNumber } }

/-- `confirm` takes the lock. -/
def confirm (key : ℕ) : CounterWorld :=
  match world.sessions.get? key, world.selling with
  | some session, none =>
      if !session.maySell || session.cart.isEmpty then world
      else
        { world with
          selling := some
            { session := key
              lines := session.cart } }
  | _, _ => world

/-- `confirm` finds the part of a line; if it is gone, it gives the lock
back. -/
def findLine : CounterWorld :=
  match world.selling with
  | none => world
  | some confirming =>
      match confirming.lines[confirming.checked]? with
      | none => world
      | some line =>
          match world.memory.part line.partNumber with
          | none => { world with selling := none }
          | some part =>
              { world with selling := some { confirming with part := some part } }

/-- `confirm` checks a line; if not enough is left, it gives the lock back. -/
def checkLine : CounterWorld :=
  match world.selling with
  | none => world
  | some confirming =>
      match world.sessions.get? confirming.session,
          confirming.lines[confirming.checked]?, confirming.part with
      | some session, some line, some part =>
          let others := session.cart.eraseIdx confirming.checked
          let after := world.asks part others session.branchId
          if world.left part others session.branchId < line.qty then
            { after with selling := none }
          else
            { after with
              selling := some
                { confirming with
                  checked := confirming.checked + 1
                  part := none } }
      | _, _, _ => world

/-- `branch_of`. -/
def branchOf (session : Session) : Option ℕ :=
  session.branchId.filter (· ∈ world.memory.branches)

/-- `confirm` writes the sale to the outbox, and gives the lock back. -/
def record (texts : List String) : CounterWorld :=
  match world.selling with
  | none => world
  | some confirming =>
      match world.sessions.get? confirming.session with
      | none => world
      | some session =>
          if confirming.checked < confirming.lines.length then world
          else
            { world with
              box := world.box.add "sale"
                { branchId := world.branchOf session
                  items := session.cart
                  texts }
              selling := none
              finishing := confirming.session :: world.finishing }

/-- `confirm` empties the cart. -/
def finish (key : ℕ) : CounterWorld :=
  if key ∈ world.finishing then
    { world with
      finishing := world.finishing.erase key
      sessions := world.sessions.modify key ({ · with cart := [] }) }
  else world

/-- `Ledger.sent`, called by a `flush`. -/
def report (key : ℕ) : CounterWorld :=
  match world.box.flushes.get? key with
  | some { stage := .reporting batch, .. } =>
      { world with
        box := world.box.report key
        sent := world.sent ++ soldItems (batch.map StoredEvent.event)
        waiting := world.waiting ++ batch.map StoredEvent.event }
  | _ => world

def book (event : Event CounterPayload) : CounterWorld :=
  if event ∈ world.booked ∨ world.box.pushed.all (event ∉ ·) then world
  else { world with booked := event :: world.booked }

def shown (parts : List Part) : Bool :=
  parts.all fun part =>
    part.stock == world.serverStock none part.partNumber &&
      part.elsewhere.all fun row =>
        row.2 == world.serverStock (some row.1) part.partNumber

def fetch (branchId : Option ℕ) (branches : List ℕ) (parts : List Part) :
    CounterWorld :=
  if world.shown parts && !parts.isEmpty then
    { world with
      fetches := world.fetches.insert
        { catalog :=
            { branchId
              branches
              parts
              seen := world.booked } } }
  else world

/-- `knowledge.update`. -/
def keep (key : ℕ) : CounterWorld :=
  match world.fetches.get? key with
  | some { catalog, stage := .fetched } =>
      { world with
        memory := catalog
        fetches := world.fetches.modify key fun _ =>
          { catalog
            stage := .kept } }
  | _ => world

/-- `knowledge.save`. -/
def save (key : ℕ) : CounterWorld :=
  match world.fetches.get? key with
  | some { catalog, stage := .kept } =>
      { world with
        disk := catalog
        fetches := world.fetches.modify key fun _ =>
          { catalog
            stage := .saved } }
  | _ => world

/-- `Ledger.catalog_fetched`. -/
def clear (key : ℕ) : CounterWorld :=
  match world.fetches.get? key with
  | some { stage := .saved, .. } =>
      { world with
        sent := []
        waiting := []
        fetches := world.fetches.erase key }
  | _ => world

def restart : CounterWorld :=
  { world with
    box := world.box.cut
    memory := world.disk
    sessions := .empty
    adding := []
    selling := none
    finishing := []
    fetches := .empty }

end CounterWorld

inductive CounterOp
  | login (maySell : Bool)
  | logout (session : ℕ)
  | pickBranch (session : ℕ) (branchId : Option ℕ)
  | find (session : ℕ) (partNumber : String) (qty : ℕ)
  | add (adding : Adding)
  | remove (session : ℕ) (partNumber : String)
  | confirm (session : ℕ)
  | findLine
  | checkLine
  | record (texts : List String)
  | finish (session : ℕ)
  | other (kind : String) (payload : CounterPayload)
  | flush
  | read (flush : ℕ)
  | lose (flush : ℕ)
  | answer (flush : ℕ) (failed : List ℕ)
  | write (flush : ℕ)
  | report (flush : ℕ)
  | book (event : Event CounterPayload)
  | fetch (branchId : Option ℕ) (branches : List ℕ) (parts : List Part)
  | keep (fetch : ℕ)
  | save (fetch : ℕ)
  | clear (fetch : ℕ)
  | restart
  deriving DecidableEq

def CounterOp.step (op : CounterOp) (world : CounterWorld) : CounterWorld :=
  match op with
  | login maySell =>
      { world with sessions := world.sessions.insert { maySell } }
  | logout key => { world with sessions := world.sessions.erase key }
  | pickBranch key branchId => world.pickBranch key branchId
  | find key partNumber qty => world.find key partNumber qty
  | add adding => world.add adding
  | remove key partNumber => world.remove key partNumber
  | confirm key => world.confirm key
  | findLine => world.findLine
  | checkLine => world.checkLine
  | record texts => world.record texts
  | finish key => world.finish key
  | other kind payload =>
      if kind = "sale" then world
      else { world with box := world.box.add kind payload }
  | flush => { world with box := OutboxOp.flush.step world.box }
  | read key => { world with box := world.box.read key }
  | lose key => { world with box := world.box.lose key }
  | answer key failed => { world with box := world.box.answer key failed }
  | write key => { world with box := world.box.write key }
  | report key => world.report key
  | book event => world.book event
  | fetch branchId branches parts => world.fetch branchId branches parts
  | keep key => world.keep key
  | save key => world.save key
  | clear key => world.clear key
  | restart => world.restart

def CounterOp.run (op : CounterOp) : Txn PUnit CounterWorld PUnit :=
  modify op.step

def openedCounter (initial : Option ℕ → String → ℕ) (catalog : Catalog) :
    CounterWorld :=
  { initial
    memory := catalog
    disk := catalog }

end Robot

end Mousstec
