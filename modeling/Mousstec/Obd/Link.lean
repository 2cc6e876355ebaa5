import Mousstec.Library.Runs
import Mousstec.Obd.Replies

/-!
# The link to the adapter

A driver sends one command at a time: the others wait in its chain.  It waits
for the reply or for its timer, whichever is first.  The adapter answers every
command that reached it once, in order; what it answers is on its way for as
long as it likes.
-/

namespace Mousstec

namespace Obd

open Library

/-- What became of the promise of a reply. -/
inductive Outcome
  | reply (payload : List Char)
  | rejected
  deriving DecidableEq

/-- A `_sendCommandRaw` under way. -/
structure Call where
  id : ℕ
  cmd : List Char
  writing : Bool
  outcome : Option Outcome := none
  deriving DecidableEq

/-- A driver object and its adapter: the receive buffer, the pending command,
the timers that run, the chain and the command at its head; the commands that
are not answered and what is on its way. Kept beside are the commands sent,
what the adapter answered, and what they resolved with. -/
structure Link where
  driver : Driver
  connected : Bool := true
  rxBuffer : List Char := []
  pending : Option ℕ := none
  timers : List ℕ := []
  chain : List (ℕ × List Char) := []
  call : Option Call := none
  owed : List ℕ := []
  wire : List Char := []
  sent : List (List Char) := []
  replies : List (ℕ × List Char) := []
  resolved : List (ℕ × List Char) := []

def Call.settle (outcome : Outcome) (id : ℕ) (call : Call) : Call :=
  if call.id = id ∧ call.outcome = none then
    { call with outcome := some outcome }
  else call

namespace Link

variable (link : Link)

/-- `_sendCommand`. -/
def send (cmd : List Char) : Link :=
  { link with
    sent := link.sent ++ [cmd]
    chain := link.chain ++ [(link.sent.length, cmd)] }

/-- `_sendCommandRaw` begins; a Bluetooth driver waits until the command is
written. -/
def start : Link :=
  match link.call, link.chain with
  | none, (id, cmd) :: chain =>
      if link.connected then
        { link with
          rxBuffer := []
          pending := some id
          timers := id :: link.timers
          chain
          call := some
            { id
              cmd
              writing := link.driver = .bluetooth }
          owed := link.owed ++ [id] }
      else { link with chain }
  | _, _ => link

def written : Link :=
  { link with call := link.call.map ({ · with writing := false }) }

def fail (reached : Bool) : Link :=
  match link.call with
  | some { id, writing := true, .. } =>
      { link with
        call := none
        owed := if reached then link.owed else link.owed.erase id }
  | _ => link

def settlePending (outcome : Outcome) : Link :=
  match link.pending with
  | none => link
  | some id =>
      { link with
        pending := none
        timers := link.timers.erase id
        call := link.call.map (Call.settle outcome id) }

def timeout (id : ℕ) : Link :=
  if id ∈ link.timers then
    { link with
      pending := none
      timers := link.timers.erase id
      call := link.call.map (Call.settle .rejected id) }
  else link

/-- `_sendCommandRaw` returns, or raises. -/
def finish : Link :=
  match link.call with
  | some { id, cmd, writing := false, outcome := some (.reply payload) } =>
      { link with
        call := none
        resolved := (id, stripEcho cmd payload) :: link.resolved }
  | some { writing := false, outcome := some .rejected, .. } =>
      { link with call := none }
  | _ => link

def answer (text : List Char) : Link :=
  match link.owed with
  | [] => link
  | id :: owed =>
      if prompt ∈ text then link
      else
        { link with
          owed
          wire := link.wire ++ text ++ [prompt]
          replies := link.replies ++ [(id, text)] }

def arrive (length : ℕ) : Link :=
  let after := { link with wire := link.wire.drop length }
  match link.driver.hear link.rxBuffer (link.wire.take length) with
  | .more rxBuffer => { after with rxBuffer }
  | .reply payload =>
      { after with rxBuffer := [] }.settlePending (.reply payload)
  | .bridgeError => after.settlePending .rejected

def bridgeError : Link :=
  if link.driver = .wifi then link.settlePending .rejected else link

def close : Link :=
  if link.driver = .wifi then
    { link with connected := false }.settlePending .rejected
  else { link with connected := false }

end Link

inductive LinkOp
  | send (cmd : List Char)
  | start
  | written
  | fail (reached : Bool)
  | timeout (id : ℕ)
  | finish
  | answer (text : List Char)
  | arrive (length : ℕ)
  | bridgeError
  | close

def LinkOp.step (op : LinkOp) (link : Link) : Link :=
  match op with
  | send cmd => link.send cmd
  | start => link.start
  | written => link.written
  | fail reached => link.fail reached
  | timeout id => link.timeout id
  | finish => link.finish
  | answer text => link.answer text
  | arrive length => link.arrive length
  | bridgeError => link.bridgeError
  | close => link.close

def LinkOp.run (op : LinkOp) : Txn PUnit Link PUnit :=
  modify op.step

def openedLink (driver : Driver) : Link where
  driver

end Obd

end Mousstec
