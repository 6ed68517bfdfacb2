import ReferenceFeed.Channels

namespace ReferenceFeed

/-!
Handing each transaction on to everybody who is interested in an entity it touches. At most one transaction is
open at a time, and while it is, nobody can be added or taken away. A subscriber hears of a transaction with the
first event that concerns it; one that fails is dropped and told to cancel, and the others do not notice. The
transaction goes on holding those that are dropped until it is closed.
-/

/-- Who makes a call. A transaction belongs to the thread that started it. -/
abbrev Thread := Nat

/-- Somebody who wants to hear of some entities. -/
structure Subscriber (χ : Type) where
  id : Nat
  interest : Interest
  channel : χ
  deriving DecidableEq

/-- The open transaction. -/
structure Transaction (χ : Type) where
  owner : Thread
  /-- The subscribers there were when it started. -/
  subscribers : List (Subscriber χ)
  /-- Those that have heard of it, in order. -/
  invoked : List Nat := []
  /-- Those that were dropped during it. -/
  failed : List Nat := []
  deriving DecidableEq

/-- The subscribers, and the transaction that is open. -/
structure Fanout (χ : Type) where
  transaction : Option (Transaction χ) := none
  subscribers : List (Subscriber χ) := []
  nextId : Nat := 1
  deriving DecidableEq

namespace Fanout

variable {χ : Type}

def isOpen (f : Fanout χ) : Bool := f.transaction.isSome

/-- Refuses a call that needs the fan-out for itself. The thread that has the transaction would wait for
itself; no other thread gets a turn before it ends. -/
def free (f : Fanout χ) (call : Hold) : Except Failure Unit :=
  if f.isOpen then .error (.violation (.held call)) else .ok ()

/-- Opens a transaction for some of the subscribers. -/
def opened (f : Fanout χ) (owner : Thread) (subscribers : List (Subscriber χ)) : Fanout χ :=
  { f with transaction := some { owner, subscribers } }

def closed (f : Fanout χ) : Fanout χ := { f with transaction := none }

/-- The subscribers that the open transaction holds. -/
def inTransaction (f : Fanout χ) : List (Subscriber χ) := (f.transaction.map Transaction.subscribers).getD []

/-- The channels that a fan-out holds, those of its transaction first. -/
def channels (f : Fanout χ) : List χ := (f.inTransaction ++ f.subscribers).map Subscriber.channel

/-- The transaction that a thread may go on with. -/
def owned (f : Fanout χ) (thread : Thread) : Except Failure (Transaction χ) :=
  match f.transaction with
  | none => .error (.violation .outside)
  | some t => if t.owner = thread then .ok t else .error (.violation .foreignThread)

/-- Those who have to hear of an event, each with whether it is their first, who are marked as invoked. -/
def claim (f : Fanout χ) (thread : Thread) (entity : String) : Except Failure (List (Subscriber χ × Bool) × Fanout χ) := do
  let t ← f.owned thread
  let targets := t.subscribers.filter fun s => !t.failed.contains s.id && s.interest.covers entity
  let first (s : Subscriber χ) : Bool := !t.invoked.contains s.id
  return (targets.map fun s => (s, first s),
    { f with transaction := some { t with invoked := t.invoked ++ (targets.filter first).map Subscriber.id } })

/-- Those who have to hear of the end of the transaction. -/
def audience (f : Fanout χ) (thread : Thread) : Except Failure (List (Subscriber χ)) := do
  let t ← f.owned thread
  return (t.invoked.filter fun id => !t.failed.contains id).filterMap fun id => t.subscribers.find? fun s => s.id = id

/-- Takes a subscriber away for good. -/
def without (f : Fanout χ) (id : Nat) : Fanout χ :=
  { f with
    subscribers := f.subscribers.filter fun s => s.id ≠ id
    transaction := f.transaction.map fun t => { t with failed := t.failed ++ [id] } }

/-- Adds a subscriber under the next number. -/
def admitting (f : Fanout χ) (interest : Interest) (channel : χ) : Fanout χ :=
  { f with subscribers := f.subscribers ++ [⟨f.nextId, interest, channel⟩], nextId := f.nextId + 1 }

/-- Where a fan-out is kept inside a state, next to the channels of its subscribers. -/
structure Wiring (σ χ : Type) extends Channels σ χ where
  place : Place σ (Fanout χ)
  thread : σ → Thread

namespace Wiring

variable {σ χ : Type} [Journal σ] (w : Wiring σ χ)

/-- Drops a subscriber that failed, and tells it to cancel unless that is what it failed at. -/
def drop (s : Subscriber χ) (cause : Failure) (tell : Bool) : Flow σ Unit := do
  w.place.update (·.without s.id)
  Flow.note (.subscriberFailed s.id cause)
  if tell then
    match ← Flow.outcome (w.call s.channel .cancel) with
    | .ok _ => return
    | .error fault => Flow.note (.subscriberCancelFailed s.id fault.asFailure)

/-- Makes one subscriber hear some calls, and drops it if it fails. -/
def hear (s : Subscriber χ) (calls : List Signal) (tell : Bool) : Flow σ Unit := do
  match ← Flow.outcome (calls.forM (w.call s.channel)) with
  | .ok _ => return
  | .error fault => w.drop s fault.asFailure tell

/-- Hands an event to everybody it concerns. Each channel is let go of after its turn. -/
def deliver (event : Event) : Flow σ Unit := do
  let thread ← w.thread <$> get
  let targets ← w.place.attempt fun f => f.claim thread event.entity
  modify (w.hold (targets.map fun (s, _) => s.channel))
  targets.forM fun (s, first) => do
    w.hear s (if first then [.start, .event event] else [.event event]) true
    w.release s.channel

/-- Closes the transaction, which has held its subscribers until then. -/
def close : Flow σ Unit := do
  let f ← w.place.read
  w.place.write f.closed
  w.letGo (f.inTransaction.map Subscriber.channel)

/-- Ends the transaction for everybody who has heard of it. They are let go of after it is closed. -/
def complete (signal : Signal) : Flow σ Unit := do
  let thread ← w.thread <$> get
  let f ← w.place.read
  let audience ← Flow.ofExcept (f.audience thread)
  modify (w.hold (audience.map Subscriber.channel))
  audience.forM fun s => w.hear s [signal] (signal ≠ .cancel)
  w.close
  audience.forM fun s => w.release s.channel

/-- Receives a call of a producer. -/
def receive : Signal → Flow σ Unit
  | .start => do
    let f ← w.place.read
    Flow.ofExcept (f.free .start)
    let thread ← w.thread <$> get
    w.place.write (f.opened thread f.subscribers)
  | .event event => w.deliver event
  | .finish => w.complete .finish
  | .cancel => w.complete .cancel

/-- Adds a subscriber. -/
def subscribe (interest : Interest) (channel : χ) : Flow σ Nat := do
  let f ← w.place.read
  Flow.ofExcept (f.free .subscribe)
  w.place.write (f.admitting interest channel)
  return f.nextId

/-- Adds a subscriber after a replay, with no transaction able to come between the two. -/
def subscribeAfter (interest : Interest) (channel : χ) (replay : Flow σ Unit) : Flow σ Nat := do
  let f ← w.place.read
  Flow.ofExcept (f.free .subscribe)
  let thread ← w.thread <$> get
  w.place.write (f.opened thread [])
  Flow.ensuring (do
    replay
    let f ← w.place.read
    w.place.write (f.admitting interest channel)
    return f.nextId) w.close

/-- Takes a subscriber away, and tells whether it was there. -/
def unsubscribe (id : Nat) : Flow σ Bool := do
  let f ← w.place.read
  Flow.ofExcept (f.free .unsubscribe)
  let (gone, rest) := f.subscribers.partition fun s => s.id = id
  w.place.write { f with subscribers := rest }
  w.letGo (gone.map Subscriber.channel)
  return !gone.isEmpty

end Wiring

end Fanout

end ReferenceFeed
