import ReferenceFeed.Flow

namespace ReferenceFeed

/-!
Handing payloads to transports. Nobody waits for a transport: one that fails is reported and passed over.
-/

/-- A payload on its way out. -/
structure Message where
  entity : String
  payload : String
  /-- Whether the payload is the whole content of the entity. -/
  whole : Bool
  deriving DecidableEq, Repr

/-- The senders that get every payload, in the order they were registered. -/
structure Outbox (ς : Type) where
  senders : List ς := []
  deriving DecidableEq

namespace Outbox

variable {ς : Type}

def register (o : Outbox ς) (sender : ς) : Outbox ς := ⟨o.senders ++ [sender]⟩

/-- Hands a message to every sender. -/
def publish {σ : Type} [Journal σ] (o : Outbox ς) (send : ς → Message → Flow σ Unit) (message : Message) :
    Flow σ Unit :=
  o.senders.forM fun sender => do
    match ← Flow.attempt (send sender message) with
    | .ok _ => return
    | .error cause => Flow.note (.sendFailed message.entity cause)

end Outbox

/-- A queue of limited length between a feed and a transport. -/
structure MessageQueue where
  capacity : Nat
  messages : List Message := []
  /-- Whether somebody may still take messages out. -/
  received : Bool := true
  deriving DecidableEq, Repr

namespace MessageQueue

/-- Appends a message. A message for which there is no room is dropped with a notice, and only a queue that
nobody reads any more refuses. -/
def offer (q : MessageQueue) (message : Message) : Except Failure (List Notice × MessageQueue) :=
  if !q.received then .error (.unavailable (.queueClosed message.entity))
  else if q.messages.length < q.capacity then .ok ([], { q with messages := q.messages ++ [message] })
  else .ok ([.queueFull message.entity], q)

/-- Takes the first message out. -/
def take? (q : MessageQueue) : Option (Message × MessageQueue) :=
  match q.messages with
  | [] => none
  | message :: rest => some (message, { q with messages := rest })

/-- Gives up the receiving end, and what is queued with it. -/
def close (q : MessageQueue) : MessageQueue := { q with messages := [], received := false }

end MessageQueue

end ReferenceFeed
