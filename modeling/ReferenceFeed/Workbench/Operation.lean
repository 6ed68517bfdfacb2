import ReferenceFeed.Workbench.Call

namespace ReferenceFeed

/-!
What can be done on a workbench, and what comes of it. Parts are spoken of by name. A name may be given to
another part, and an operation on a name that stands for no part of the right kind is refused.
-/

/-- An index by the text of a slot. -/
structure IndexForm where
  name : String
  slot : String
  /-- A slot and the text it has to hold. Other records have no key. -/
  only : Option (String × String) := none
  unique : Bool := false

/-- The text of a slot. -/
def DataRecord.text? (record : DataRecord) (slot : String) : Option String :=
  ((record[slot]?).join).bind Value.text?

/-- The key that a form describes. -/
def IndexForm.key (form : IndexForm) : IndexKey DataRecord String where
  name := form.name
  unique := form.unique
  of record :=
    match form.only with
    | some (slot, text) => if DataRecord.text? record slot = some text then DataRecord.text? record form.slot else none
    | none => DataRecord.text? record form.slot
  shown := Text.quoted

/-- The records that an index starts with. -/
inductive IndexSource where
  /-- Those of a replica, which the index follows from then on. -/
  | replica (name : String)
  | records (records : Keyed DataRecord)

/-- A part to be made. Settings are still in their written form. -/
inductive Creation where
  | recorder
  | fanout
  | membership
  | outbox
  | source
  | store (entity : String) (header : HeaderForm)
  | probe (faults : Keyed Fault) (ids : Names)
  | sender (failure : Option Failure) (tellsWhole : Bool)
  | queue (capacity : Nat)
  | origin (source : String) (outbox settings : Option String)
  | session (origin : String)
  | replica (settings : ReplicaSettings) (conversion : Conversion)
  | observer (atUpdates atRemovals : Except Fault Unit)
  | single (form : IndexForm) (records : IndexSource)
  | many (form : IndexForm) (records : IndexSource)

/-- A step of a replay that goes before a subscription. -/
inductive ReplayStep where
  | perform (act : Act)
  | stop (cause : Failure)
  /-- Starts a transaction of the fan-out itself. -/
  | reenter

/-- Something to be asked of a part. Other parts are given by name. -/
inductive Operation where
  /-- Makes calls, from another thread than usual if it is foreign. -/
  | act (act : Act) (foreign : Bool)
  | snapshot
  | drop
  -- what a recorder has
  | take
  | entriesOf (entity : String)
  | removedOf (entity : String)
  -- subscriptions
  | subscribe (interest : Interest) (channel : String)
  | subscribeAfter (interest : Interest) (channel : String) (replay : List ReplayStep)
  | unsubscribe (number : Nat)
  | subscriptions
  -- members of groups
  | join (id : String) (groups : Keyed String)
  | members (key : GroupValue)
  | membersIn (entity : String) (key : GroupValue)
  -- content of a source
  | load (entity text : String)
  | composeIds (entity : String) (columns : List String)
  | declareGroup (entity group : String)
  | upsert (entity : String) (fields : List Field)
  | delete (entity id : String)
  | fetch (request : Request) (channel : String)
  | follow (method : String) (script : Option (List ScriptStep))
  -- transports
  | register (sender : String)
  | count
  | publish (message : Message)
  | send (message : Message)
  | receive
  | length
  | close
  -- what is held under an id or a key
  | get (key : String)
  | find (key : String)
  | getComposed (parts : List Field)
  | findComposed (parts : List Field)
  | keyOf (id : String)
  | observe (observation : Observation DataRecord)
  | ids
  | info
  | entity
  -- content of a store
  | put (entry : EntryForm)
  | forget (id : String)
  | apply (updates : List EntryForm) (removes : Names)
  | replaceGroup (key : GroupValue) (entries : List EntryForm)
  | subset (ids : Names)
  | render
  | renderSubset (updated removed : Names)
  -- replicas
  | attach (origin : String)
  | waitLoaded (milliseconds : Option Nat)
  | addObserver (observer : String)
  | removeObserver (number : Nat)
  | applyPayload (text : String) (whole : Bool)
  | applyFrom (queue : String)
  -- origins
  | settings
  | entities
  | header (entity : String)
  | entry (entity id : String)
  | row (entity id : String)
  | payload (entity : String)
  | payloadFor (entity : String) (ids : Names)
  | generation
  | isPast (generation : Nat)
  | reload (entity : String)
  | reloadAll
  | reloadGroup (entity : String) (key : GroupValue)
  | refresh (entity : String) (ids : Names)
  | refreshNamed (entity text : String)
  | applyRows (entity : String) (header : HeaderForm) (rows : List String)
  | republish (entity id : String)
  | openQueue (name : String)
  | keep (entity name : String)

/-- A look at a part. -/
inductive Snapshot where
  | nothing
  | recorder (events : List Event) (finished : Bool)
  | fanout (isOpen : Bool) (subscriptions : Nat)
  | count (count : Nat)
  | store (content : Store)
  | stores (content : List Store)
  | calls (calls : List Signal)
  | sent (sent : List Sent)
  | messages (messages : List Message)
  | origin (generation subscriptions : Nat) (content : List Store)
  | replica (loaded poisoned : Bool) (header : Option Header) (observers : Nat) (records : Keyed DataRecord)
  | observations (calls : List (Observation DataRecord))
  | single (ids : Keyed String)
  | many (ids : Keyed Names)

/-- An answer. -/
inductive Reply where
  | nothing
  | flag (value : Bool)
  | number (value : Nat)
  | text (value : String)
  | textIfAny (value : Option String)
  | texts (values : List String)
  | header (header : Header)
  | entry (entry : Option Entry)
  | entries (entries : List Entry)
  | events (events : List Event)
  | record (record : Option DataRecord)
  | message (message : Option Message)
  | length (length : Option Nat)
  | index (name : String) (size : Nat)
  | store (content : Store)
  | ids (ids : List String)
  | settings (settings : OriginSettings)
  | changes (changes : Changes)
  | outcomes (outcomes : List (Except Failure Unit))
  | snapshot (snapshot : Snapshot)

/-- Why there is no answer. -/
inductive Trouble where
  | fault (fault : Fault)
  /-- A name stands for no part, or for one of another kind. -/
  | noPart (name : String)

/-- A step of work on a bench. -/
abbrev Work := ExceptT Trouble (StateM Workbench)

namespace Work

variable {α : Type}

/-- A step of a feed as a step of work. -/
def ofFlow (flow : Flow Workbench α) : Work α := ExceptT.adapt Trouble.fault flow

/-- Ends as a computation that does not touch the bench. -/
def ofExcept (outcome : Except Failure α) : Work α := ofFlow (Flow.ofExcept outcome)

instance : MonadLift (Flow Workbench) Work := ⟨ofFlow⟩

/-- Refuses a name. -/
def noPart (name : String) : Work α := throw (.noPart name)

/-- The part of a name, if it is of a certain kind. -/
def named (name : String) (accept : PartId → Part → Option α) : Work α := do
  let b ← get
  match b.named? name with
  | none => noPart name
  | some id =>
    match (b.part? id).bind (accept id) with
    | none => noPart name
    | some part => return part

/-- The part of a name that receives calls of the protocol. -/
def channel (name : String) : Work PartId :=
  named name fun id part =>
    match part with
    | .recorder _ | .fanout _ | .probe _ | .session .. | .replica _ => some id
    | _ => none

/-- The part of a name that takes messages. -/
def sender (name : String) : Work PartId :=
  named name fun id part =>
    match part with
    | .sender _ | .queue _ true => some id
    | _ => none

/-- The part of a name that can observe a replica. -/
def observer (name : String) : Work PartId :=
  named name fun id part =>
    match part with
    | .observer _ | .single _ | .many _ => some id
    | _ => none

/-- The origin of a name. -/
def origin (name : String) : Work PartId :=
  named name fun id part =>
    match part with
    | .origin .. => some id
    | _ => none

/-- The replica of a name. -/
def replica (name : String) : Work (PartId × Replica DataRecord PartId) :=
  named name fun id part =>
    match part with
    | .replica r => some (id, r)
    | _ => none

/-- The source of a name. -/
def source (name : String) : Work PartId :=
  named name fun id part =>
    match part with
    | .source _ => some id
    | _ => none

/-- The outbox of a name. -/
def outbox (name : String) : Work PartId :=
  named name fun id part =>
    match part with
    | .outbox _ => some id
    | _ => none

/-- The recorder of a name. -/
def recorder (name : String) : Work Recorder :=
  named name fun _ part =>
    match part with
    | .recorder r => some r
    | _ => none

/-- The queue of a name. -/
def queue (name : String) : Work (PartId × MessageQueue × Bool) :=
  named name fun id part =>
    match part with
    | .queue q sending => some (id, q, sending)
    | _ => none

end Work

end ReferenceFeed
