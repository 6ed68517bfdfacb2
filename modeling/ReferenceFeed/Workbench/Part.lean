import ReferenceFeed.Conversion.Direct
import ReferenceFeed.Index.Many
import ReferenceFeed.Index.Single
import ReferenceFeed.Origin
import ReferenceFeed.Workbench.Act
import ReferenceFeed.Workbench.Probe

namespace ReferenceFeed

/-!
A workbench holds live parts of a feed that are wired to one another, and a journal. A part keeps its number
for good; names come and go. A part lives as long as it has a name, another part holds on to it, or a call
under way has it in hand.
-/

/-- The number of a part. -/
abbrev PartId := Nat

/-- A live part. Parts refer to each other by number. -/
inductive Part where
  | recorder (r : Recorder)
  | fanout (f : Fanout PartId)
  | membership (m : Membership)
  | outbox (o : Outbox PartId)
  | store (s : Store)
  /-- The store that an origin has live for an entity, as long as it is that one. -/
  | liveStore (origin : PartId) (entity : String)
  | source (s : ScriptedSource)
  | probe (p : Probe)
  | sender (p : SenderProbe)
  /-- A queue, and whether its sending end is at hand. -/
  | queue (q : MessageQueue) (sending : Bool)
  | origin (o : Origin PartId) (source outbox : PartId)
  | session (origin : PartId) (number : Nat)
  | replica (r : Replica DataRecord PartId)
  | observer (p : ObserverProbe DataRecord)
  | single (x : SingleIndex DataRecord String)
  | many (x : ManyIndex DataRecord String)

/-- Parts by number, numbers by name, and the notices of the current step. -/
structure Workbench where
  parts : Std.ExtTreeMap PartId Part := ∅
  names : Keyed PartId := ∅
  /-- The parts that calls under way hold, once for each hold. -/
  inHand : List PartId := []
  next : PartId := 0
  thread : Thread := 0
  journal : List Notice := []

instance : Journal Workbench := ⟨fun notice b => { b with journal := b.journal ++ [notice] }⟩

namespace Workbench

def part? (b : Workbench) (id : PartId) : Option Part := b.parts[id]?

def named? (b : Workbench) (name : String) : Option PartId := b.names[name]?

/-- The part of a name. -/
def partNamed? (b : Workbench) (name : String) : Option Part := (b.named? name).bind b.part?

def withPart (b : Workbench) (id : PartId) (part : Part) : Workbench := { b with parts := b.parts.insert id part }

/-- Adds a part under the next number. -/
def adding (b : Workbench) (part : Part) : Workbench := { b.withPart b.next part with next := b.next + 1 }

def naming (b : Workbench) (name : String) (id : PartId) : Workbench := { b with names := b.names.insert name id }

/-- Takes a name away. The receiving end of a queue goes with its name. -/
def unnaming (b : Workbench) (name : String) : Workbench :=
  let b' := { b with names := b.names.erase name }
  match b.named? name with
  | none => b
  | some id =>
    match b.part? id with
    | some (.queue q sending) => b'.withPart id (.queue q.close sending)
    | _ => b'

/-- The events that the recorder of a name has. -/
def recorded (b : Workbench) (name : String) : List Event :=
  match b.partNamed? name with
  | some (.recorder r) => r.events
  | _ => []

/-- Where a fan-out is kept. -/
def fanoutPlace (id : PartId) : Place Workbench (Fanout PartId) where
  get b := match b.part? id with
    | some (.fanout f) => f
    | _ => {}
  set f b := b.withPart id (.fanout f)

/-- Where an origin is kept. -/
def originPlace (id : PartId) : Place Workbench (Origin PartId) where
  get b := match b.part? id with
    | some (.origin o _ _) => o
    | _ => {}
  set o b := match b.part? id with
    | some (.origin _ source outbox) => b.withPart id (.origin o source outbox)
    | _ => b

/-- The source that an origin reads. -/
def sourceOf (b : Workbench) (id : PartId) : ScriptedSource :=
  match b.part? id with
  | some (.origin _ source _) =>
    match b.part? source with
    | some (.source s) => s
    | _ => {}
  | _ => {}

/-- The outbox that an origin sends by. -/
def outboxOf (b : Workbench) (id : PartId) : Outbox PartId :=
  match b.part? id with
  | some (.origin _ _ outbox) =>
    match b.part? outbox with
    | some (.outbox o) => o
    | _ => {}
  | _ => {}

/-- The store behind a part, if it is one. -/
def store? (b : Workbench) (id : PartId) : Option Store :=
  match b.part? id with
  | some (.store s) => some s
  | some (.liveStore origin entity) => ((originPlace origin).get b).live[entity]?
  | _ => none

/-- Changes the store behind a part. A store that is live is the origin's own. -/
def withStore (b : Workbench) (id : PartId) (store : Store) : Workbench :=
  match b.part? id with
  | some (.liveStore origin entity) =>
    let o := (originPlace origin).get b
    (originPlace origin).set { o with live := o.live.insert entity store } b
  | _ => b.withPart id (.store store)

/-- Gives a store that is no longer live to those who hold it. -/
def retire (origin : PartId) (store : Store) (b : Workbench) : Workbench :=
  { b with parts := b.parts.map fun _ part =>
      match part with
      | .liveStore o entity => if o = origin ∧ entity = store.entity then .store store else part
      | _ => part }

/-- The parts that a part holds on to, in the order in which it lets go of them. -/
def heldBy : Part → List PartId
  | .fanout f => f.channels
  | .origin o source outbox => source :: outbox :: o.fanout.channels
  | .outbox o => o.senders
  | .session origin _ => [origin]
  | .replica r => r.observers.map Prod.snd
  | _ => []

/-- Takes parts in hand. -/
def holding (ids : List PartId) (b : Workbench) : Workbench := { b with inHand := ids ++ b.inHand }

/-- Gives one part in hand away. -/
def dropping (id : PartId) (b : Workbench) : Workbench := { b with inHand := b.inHand.erase id }

/-- Whether a part is in hand, has a name, or is held by another part. -/
def isHeld (b : Workbench) (id : PartId) : Bool :=
  b.inHand.contains id || b.names.any (fun _ other => other = id) || b.parts.any fun _ part => (heldBy part).contains id

end Workbench

end ReferenceFeed
