import Mousstec.Library.Runs
import Mousstec.Library.Table

/-!
# The outbox of the counter

What the robot did with the net down is kept on disk, one line per event, until
the server has heard about it.  The file is appended to by `add` and rewritten
by `flush`, each under the lock; a power cut may stop an append anywhere.
-/

namespace Mousstec

namespace Robot

open Library

/-- `BATCH`. -/
def batchSize : ℕ := 50

/-- `TRIES`. -/
def maxTries : ℕ := 5

/-- `splitlines` splits at these characters, which `json.dumps` leaves in a text
as they are. -/
def separates (character : Char) : Bool :=
  character.val == 0x85 || character.val == 0x2028 || character.val == 0x2029

/-- The texts of a payload. -/
class Texts (α : Type) where
  texts : α → List String

instance : Texts String where
  texts text := [text]

def splits {α : Type} [Texts α] (payload : α) : Bool :=
  (Texts.texts payload).any fun text => text.toList.any separates

variable {α : Type}

structure Event (α : Type) where
  clientUid : ℕ
  kind : String
  payload : α
  deriving DecidableEq

/-- An event as a line holds it, with how often the server failed its batch. -/
structure StoredEvent (α : Type) where
  event : Event α
  tries : ℕ := 0
  deriving DecidableEq

/-- The `client_uid` of an event on disk. -/
abbrev StoredEvent.uid (stored : StoredEvent α) : ℕ := stored.event.clientUid

/-- What `json.loads` makes of a line: an event, or something that is dropped. -/
inductive Line (α : Type)
  | event (stored : StoredEvent α)
  | dropped
  deriving DecidableEq

def Line.event? : Line α → Option (StoredEvent α)
  | event stored => some stored
  | dropped => none

/-- `outbox.jsonl`: the lines, what stands after the last line break, and
whether every character is whole. -/
structure OutboxFile (α : Type) where
  lines : List (Line α) := []
  tail : Option (Line α) := none
  decodes : Bool := true
  deriving DecidableEq

/-- How much of its line an append leaves on disk when the power is cut: nothing,
some of it, perhaps with half a character, or all but the line break. -/
inductive Cut
  | nothing
  | piece (halvesCharacter : Bool)
  | unended
  deriving DecidableEq

namespace OutboxFile

variable (file : OutboxFile α)

def events : List (StoredEvent α) :=
  (file.lines ++ file.tail.toList).filterMap Line.event?

/-- `_read`; decoding the file raises if a character is not whole. -/
def read : Option (List (StoredEvent α)) :=
  if file.decodes then some file.events else none

def rendered [Texts α] (event : Event α) : List (Line α) :=
  if splits event.payload then [.dropped, .dropped] else [.event { event }]

/-- Appends the line of an event.  What stands after the last line break comes
before it on its line. -/
def append [Texts α] (event : Event α) : OutboxFile α :=
  match file.tail with
  | none => { file with lines := file.lines ++ rendered event }
  | some _ =>
      { file with
        lines := file.lines ++ .dropped :: (rendered event).tail
        tail := none }

def cutAppend [Texts α] (event : Event α) : Cut → OutboxFile α
  | .nothing => file
  | .piece halvesCharacter =>
      { file with
        tail := some .dropped
        decodes := file.decodes && !halvesCharacter }
  | .unended =>
      { file with
        tail := some
          (if file.tail.isSome || splits event.payload then .dropped
          else .event { event }) }

/-- The file that `flush` puts in place of this one. -/
def rewritten (keep : List (StoredEvent α)) : OutboxFile α :=
  { lines := keep.map .event }

end OutboxFile

/-- What `flush` keeps of an event after an answer about a batch. -/
def keptEvent (ids : List ℕ) (failed : ℕ) (stored : StoredEvent α) :
    Option (StoredEvent α) :=
  if stored.uid ∈ ids then
    if failed = 0 then none
    else if maxTries ≤ stored.tries + 1 then none
    else some { stored with tries := stored.tries + 1 }
  else some stored

/-- How far a `flush` has come in its round. -/
inductive FlushStage (α : Type)
  | reading
  | pushing (batch : List (StoredEvent α))
  | writing (batch : List (StoredEvent α)) (failed : List ℕ)
  | reporting (batch : List (StoredEvent α))
  deriving DecidableEq

/-- A `flush` under way, with the rounds it has made. -/
structure Flush (α : Type) where
  sent : ℤ := 0
  rounds : ℕ := 0
  stage : FlushStage α := .reading
  deriving DecidableEq

def batchIds (batch : List (StoredEvent α)) : List ℕ :=
  batch.map StoredEvent.uid

/-- An answer of the server: the ids of the batch, and those it failed on. -/
structure PushAnswer where
  ids : List ℕ
  failed : List ℕ
  deriving DecidableEq

/-- The outbox with what was handed to it, what was added, what was pushed and
how the server answered. -/
structure Outbox (α : Type) where
  file : OutboxFile α := {}
  next : ℕ := 0
  flushes : Table (Flush α) := .empty
  written : List (Event α) := []
  added : List (Event α) := []
  pushed : List (List (Event α)) := []
  answers : List PushAnswer := []

/-- What happens next.  No two events get the same `client_uid`. -/
inductive OutboxOp (α : Type)
  | add (kind : String) (payload : α)
  | cutAdd (kind : String) (payload : α) (cut : Cut)
  | cut
  | flush
  | read (flush : ℕ)
  | lose (flush : ℕ)
  | answer (flush : ℕ) (failed : List ℕ)
  | write (flush : ℕ)
  | report (flush : ℕ)

namespace Outbox

variable (box : Outbox α)

/-- `add`. -/
def add [Texts α] (kind : String) (payload : α) : Outbox α :=
  let event := { clientUid := box.next, kind, payload }
  { box with
    file := box.file.append event
    next := box.next + 1
    written := event :: box.written
    added := event :: box.added }

def cut : Outbox α :=
  { box with flushes := box.flushes.filter fun _ _ => false }

/-- The power is cut during `add`. -/
def cutAdd [Texts α] (kind : String) (payload : α) (cut : Cut) : Outbox α :=
  let event := { clientUid := box.next, kind, payload }
  { box.cut with
    file := box.file.cutAppend event cut
    next := box.next + 1
    written := event :: box.written }

/-- A `flush` returns, or raises. -/
def ended (key : ℕ) : Outbox α :=
  { box with flushes := box.flushes.erase key }

/-- A `flush` goes on to another stage. -/
def staged (key : ℕ) (flush : Flush α) : Outbox α :=
  { box with flushes := box.flushes.modify key fun _ => flush }

/-- `flush` reads a batch and sends it. -/
def read (key : ℕ) : Outbox α :=
  match box.flushes.get? key with
  | some { sent, rounds, stage := .reading } =>
      match box.file.read with
      | none => box.ended key
      | some events =>
          let batch := events.take batchSize
          if batch = [] then box.ended key
          else
            { box.staged key { sent, rounds, stage := .pushing batch } with
              pushed := batch.map StoredEvent.event :: box.pushed }
  | _ => box

/-- `push` raises. -/
def lose (key : ℕ) : Outbox α :=
  match box.flushes.get? key with
  | some { stage := .pushing _, .. } => box.ended key
  | _ => box

/-- `push` returns. -/
def answer (key : ℕ) (failed : List ℕ) : Outbox α :=
  match box.flushes.get? key with
  | some { sent, rounds, stage := .pushing batch } =>
      box.staged key { sent, rounds, stage := .writing batch failed }
  | _ => box

/-- `flush` rewrites the file, and is done if the server failed. -/
def write (key : ℕ) : Outbox α :=
  match box.flushes.get? key with
  | some { sent, rounds, stage := .writing batch failed } =>
      match box.file.read with
      | none => box.ended key
      | some events =>
          let ids := batchIds batch
          let after :=
            { box with
              file := .rewritten
                (events.filterMap (keptEvent ids failed.length))
              answers := { ids, failed } :: box.answers }
          if failed = [] then
            after.staged key
              { sent := sent + (batch.length - failed.length)
                rounds := rounds + 1
                stage := .reporting batch }
          else after.ended key
  | _ => box

/-- `on_sent` has been called. -/
def report (key : ℕ) : Outbox α :=
  match box.flushes.get? key with
  | some { sent, rounds, stage := .reporting _ } =>
      box.staged key { sent, rounds, stage := .reading }
  | _ => box

end Outbox

def OutboxOp.step [Texts α] (op : OutboxOp α) (box : Outbox α) : Outbox α :=
  match op with
  | add kind payload => box.add kind payload
  | cutAdd kind payload how => box.cutAdd kind payload how
  | cut => box.cut
  | flush => { box with flushes := box.flushes.insert {} }
  | read key => box.read key
  | lose key => box.lose key
  | answer key failed => box.answer key failed
  | write key => box.write key
  | report key => box.report key

def OutboxOp.run [Texts α] (op : OutboxOp α) :
    Txn PUnit (Outbox α) PUnit :=
  modify op.step

/-- A line that was cut off takes the next one with it. -/
example : (((({} : OutboxFile String).cutAppend ⟨0, "sale", "a"⟩
    (.piece false)).append ⟨1, "sale", "b"⟩).append ⟨2, "sale", "c"⟩).events =
      [⟨⟨2, "sale", "c"⟩, 0⟩] := by
  decide +kernel

end Robot

end Mousstec
