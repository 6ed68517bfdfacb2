import ReferenceFeed.Delta
import ReferenceFeed.Fanout
import ReferenceFeed.Feed
import ReferenceFeed.Origin.Claim
import ReferenceFeed.Origin.Commit

namespace ReferenceFeed

/-!
The origin of a feed: one live store for each entity that a source serves. Everything that changes a store goes
through a session, which collects a transaction, tells the subscribers of each event as it comes, and applies
all of it at once when it is finished.
-/

/-- A handle for transactions. -/
structure Session where
  /-- What the open transaction is going to do. -/
  stages : Option Stages := none
  /-- Whether the session holds the fan-out of the origin. -/
  holds : Bool := false
  deriving DecidableEq

/-- The live stores, the subscribers, and the sessions that were begun. -/
structure Origin (χ : Type) where
  settings : OriginSettings := {}
  live : Keyed Store := ∅
  fanout : Fanout χ := {}
  /-- The number of commits. -/
  generation : Nat := 0
  sessions : Std.ExtTreeMap Nat Session := ∅
  nextSession : Nat := 0

namespace Origin

variable {χ : Type}

def entities (o : Origin χ) : List String := o.live.keys

def store (o : Origin χ) (entity : String) : Except Failure Store := liveStore o.live entity

/-- The session of a number. One that was never begun is like one that has nothing open. -/
def session (o : Origin χ) (number : Nat) : Session := (o.sessions[number]?).getD {}

def withSession (o : Origin χ) (number : Nat) (session : Session) : Origin χ :=
  { o with sessions := o.sessions.insert number session }

/-- A payload for some ids: the entries of those that are there, the removal of the others. -/
def payloadFor (o : Origin χ) (entity : String) (ids : Names) : Except Failure String :=
  (o.store entity).map fun store =>
    store.renderSubset (ids.filter store.contains) (ids.filter fun id => !store.contains id)

/-- Makes stores live and counts the commit. -/
def publish (o : Origin χ) (swaps : List Store) : Origin χ :=
  { o with
    live := swaps.foldl (fun live store => live.insert store.entity store) o.live
    generation := o.generation + 1 }

/-- The stores that go out of use when others are made live. -/
def retired (o : Origin χ) (swaps : List Store) : List Store := swaps.filterMap fun store => o.live[store.entity]?

/-- The entries that a feed of one entity brings, if all goes well. -/
def collect (feed : Feed) (entity : String) : Except Fault (List Entry) :=
  match ({} : Recorder).receiveAll (.start :: feed.signals) with
  | .error cause => .error (.failure cause)
  | .ok r =>
    match feed.ending with
    | .error fault => .error fault
    | .ok () =>
      match r.receive .finish with
      | .error cause => .error (.failure cause)
      | .ok r => .ok (r.entriesOf entity)

/-- The events that show a new subscriber the content of a store. -/
def snapshot (store : Store) : List Event :=
  .reload store.entity store.header :: .block store.entity store.header ::
    store.all.map (.update store.entity store.header ·)

/-- How an origin inside a state reaches its subscribers, its source and its transports. -/
structure Wiring (σ χ : Type) extends Channels σ χ where
  place : Place σ (Origin χ)
  thread : σ → Thread
  /-- The entities that the source serves. -/
  serves : σ → Except Fault (List String)
  fetch : σ → Request → Feed
  send : Message → Flow σ Unit
  /-- Tells whoever still holds a store that it is no longer live. -/
  retire : Store → σ → σ

namespace Wiring

variable {σ χ α : Type} [Journal σ] (w : Wiring σ χ)

/-- The fan-out of the origin. -/
def fanout : Fanout.Wiring σ χ where
  place := {
    get := fun state => (w.place.get state).fanout
    set := fun fanout state => w.place.set { w.place.get state with fanout } state }
  toChannels := w.toChannels
  thread := w.thread

/-- Reads something of the origin. -/
def ask (question : Origin χ → Except Failure α) : Flow σ α := do
  Flow.ofExcept (question (← w.place.read))

/-- Puts a session in the place of what it was. -/
def keep (number : Nat) (session : Session) : Flow σ Unit := w.place.update (·.withSession number session)

/-- Lets go of the fan-out, which ends the transaction for the subscribers. -/
def leave (number : Nat) (signal : Signal) : Flow σ Unit := do
  w.place.update fun o => o.withSession number { o.session number with holds := false }
  w.fanout.receive signal

/-- Opens a transaction. -/
def start (number : Nat) : Flow σ Unit := do
  if ((← w.place.read).session number).stages.isSome then Flow.fail (.violation .sessionTwice)
  w.fanout.receive .start
  w.keep number ⟨some ∅, true⟩

/-- Takes an event in and tells the subscribers. -/
def event (number : Nat) (event : Event) : Flow σ Unit := do
  let told ← w.place.attempt fun o => do
    let session := o.session number
    let (told, stages) ← Stages.take o.settings o.live session.stages event
    return (told, o.withSession number { session with stages := some stages })
  w.fanout.deliver told

/-- Applies what the stages say to the live stores. What it cannot apply it reports. -/
def apply (stages : Stages) : Flow σ (Except Failure Prepared) := do
  let o ← w.place.read
  let (live, prepared) := Stages.commit o.live stages.toList
  w.place.write { o with live }
  return prepared

/-- Makes stores live. -/
def swap (swaps : List Store) : Flow σ Unit := do
  let o ← w.place.read
  w.place.write (o.publish swaps)
  modify fun state => (o.retired swaps).foldl (fun state store => w.retire store state) state

/-- Commits the open transaction. -/
def finish (number : Nat) : Flow σ Unit := do
  let session := (← w.place.read).session number
  match session.stages with
  | none => Flow.fail (.violation .finishWithoutStart)
  | some stages =>
    w.keep number { session with stages := none }
    match stages.unbegun? with
    | some entity =>
      w.leave number .cancel
      Flow.fail (.violation (.markerWithoutBlock entity))
    | none =>
      match ← w.apply stages with
      | .error cause =>
        w.leave number .cancel
        Flow.fail cause
      | .ok prepared =>
        w.swap prepared.swaps
        prepared.messages.forM w.send
        w.leave number .finish

/-- Abandons the open transaction. -/
def cancel (number : Nat) : Flow σ Unit := do
  let session := (← w.place.read).session number
  if session.stages.isNone then Flow.fail (.violation .cancelWithoutStart)
  w.keep number { session with stages := none }
  w.leave number .cancel

/-- Receives a call of a producer. -/
def receive (number : Nat) : Signal → Flow σ Unit
  | .start => w.start number
  | .event event => w.event number event
  | .finish => w.finish number
  | .cancel => w.cancel number

/-- Begins a session. -/
def begin : Flow σ Nat := do
  let o ← w.place.read
  w.place.write { o.withSession o.nextSession {} with nextSession := o.nextSession + 1 }
  return o.nextSession

/-- Ends a session. A transaction it still has open is cancelled. -/
def drop (number : Nat) : Flow σ Unit := do
  let session := (← w.place.read).session number
  w.place.update fun o => { o with sessions := o.sessions.erase number }
  if session.holds then
    Flow.note .sessionDropped
    match ← Flow.attempt (w.fanout.receive .cancel) with
    | .ok _ => return
    | .error cause => Flow.note (.droppedCancelFailed cause)

/-- Runs a producer inside one transaction, which is cancelled if the producer fails. -/
def run (producer : Nat → Flow σ α) : Flow σ α := do
  let number ← w.begin
  Flow.ensuring (do
    w.start number
    match ← Flow.attempt (producer number) with
    | .ok value =>
      w.finish number
      return value
    | .error cause =>
      match ← Flow.attempt (w.cancel number) with
      | .ok _ => Flow.fail cause
      | .error again =>
        Flow.note (.cancelFailed again)
        Flow.fail cause) (w.drop number)

/-- Lets the source answer a request into a session. -/
def fetchInto (request : Request) (number : Nat) : Flow σ Unit := do
  (w.fetch (← get) request).play (w.receive number)

/-- Replaces an entity by what the source has. -/
def reload (entity : String) : Flow σ Unit := w.run (w.fetchInto (.whole entity))

/-- Replaces every entity that the source serves, in one transaction. -/
def reloadAll : Flow σ Unit := do
  let entities ← Flow.resume (w.serves (← get))
  w.run fun number => entities.forM fun entity => w.fetchInto (.whole entity) number

/-- Replaces what holds a group value. -/
def reloadGroup (entity : String) (key : GroupValue) : Flow σ Unit := do
  w.ask fun o => o.settings.checkGroup entity key.group
  w.run (w.fetchInto (.group entity key))

/-- The entries that the source has for some ids. -/
def fetchIds (entity : String) (ids : Names) : Flow σ (List Entry) := do
  Flow.resume (collect (w.fetch (← get) (.ids entity ids)) entity)

/-- Sends what changed through a session. -/
def announce (number : Nat) (store : Store) (entity : String) (delta : Delta) : Flow σ Changes := do
  (delta.events entity store.header).forM (w.event number)
  return delta.changes

/-- Fetches some ids again and announces what changed. Whoever names the ids says nothing about their content. -/
def refresh (entity : String) (ids : Names) : Flow σ Changes :=
  w.run fun number => do
    let store ← w.ask (·.store entity)
    let fetched ← w.fetchIds entity ids
    w.announce number store entity (.ofFetch store ids fetched)

/-- Refreshes the ids that a text names. -/
def refreshNamed (entity text : String) : Flow σ Changes := do
  let ids ← Flow.ofExcept (Payload.readIds text)
  w.refresh entity (Names.ofList ids)

/-- Applies rows that a transport asserts, as far as the settings trust them. -/
def applyRows (entity : String) (header : Header) (rows : List String) : Flow σ Changes := do
  let o ← w.place.read
  let claims ← Flow.ofExcept do
    let store ← o.store entity
    checkHeader entity store.header header
    Claims.ofRows o.settings entity header rows
  match o.settings.policy with
  | .untrusted => w.refresh entity claims.ids
  | .trusted => w.run fun number => do
    let store ← w.ask (·.store entity)
    w.announce number store entity (.ofFetch store claims.ids claims.entries)
  | .reconcile => w.run fun number => do
    let store ← w.ask (·.store entity)
    let fetched ← w.fetchIds entity claims.ids
    (claims.disagreements entity fetched).forM Flow.note
    w.announce number store entity (.ofFetch store claims.ids fetched)

/-- Fetches one id again and announces it whether or not it changed. -/
def republish (entity id : String) : Flow σ Changes :=
  w.run fun number => do
    let store ← w.ask (·.store entity)
    let fetched ← w.fetchIds entity {id}
    w.announce number store entity (.ofRepublish store id fetched.head?)

/-- Shows a channel the content of some entities, as one transaction. -/
def replay (channel : χ) (entities : List String) : Flow σ Unit := do
  if entities.isEmpty then return
  w.call channel .start
  let shown ← Flow.attempt (entities.forM fun entity => do
    let store ← w.ask (·.store entity)
    (snapshot store).forM fun event => w.call channel (.event event))
  match shown with
  | .ok _ => w.call channel .finish
  | .error cause =>
    match ← Flow.attempt (w.call channel .cancel) with
    | .ok _ => Flow.fail cause
    | .error again =>
      Flow.note (.replayCancelFailed again)
      Flow.fail cause

/-- Adds a subscriber, who is first shown the content of every entity it is interested in. -/
def subscribe (interest : Interest) (channel : χ) : Flow σ Nat := do
  let o ← w.place.read
  w.fanout.subscribeAfter interest channel (w.replay channel (o.entities.filter interest.covers))

/-- Takes a subscriber away, and tells whether it was there. -/
def unsubscribe (id : Nat) : Flow σ Bool := w.fanout.unsubscribe id

end Wiring

end Origin

end ReferenceFeed
