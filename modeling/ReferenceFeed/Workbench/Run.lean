import ReferenceFeed.Settings.Reader
import ReferenceFeed.Workbench.Answer
import ReferenceFeed.Workbench.Snapshot

namespace ReferenceFeed

/-!
Working on a bench step by step. A step makes a part under a name, or asks the part of a name to do something.
-/

namespace Work

/-- Adds a part and names it. -/
def place (name : String) (part : Part) : Work Unit := modify fun b => (b.adding part).naming name b.next

/-- Opens an origin over a source. It is in hand while what it serves is loaded, and gets its name after that; an
origin that could not be loaded ends. -/
def openOrigin (name source : String) (outbox settings : Option String) : Work Unit := do
  let known ← outbox.mapM Work.outbox
  let settings ← ofExcept (match settings with
    | some text => (OriginSettings.parse text).mapError .settings
    | none => .ok {})
  let source ← Work.source source
  let settings ← ofExcept (settings.checked.mapError .settings)
  let outbox := known.getD (← get).next
  if known.isNone then modify (·.adding (.outbox {}))
  let id := (← get).next
  modify fun b => (b.adding (.origin { settings } source outbox)).holding [id]
  ofFlow (Flow.ensuring (do
    (Workbench.origin id).reloadAll
    modify (·.naming name id)) (Workbench.channels.release id))

/-- Adds an index and names it. One over a replica is added to its observers. -/
def placeIndex (name : String) (records : IndexSource) (build : Keyed DataRecord → Except Failure (Part × List Notice)) :
    Work Unit := do
  match records with
  | .records records =>
    let (part, notices) ← ofExcept (build records)
    Workbench.noteAll notices
    place name part
  | .replica target =>
    let (id, r) ← replica target
    let (part, notices) ← ofExcept (build r.live.records)
    Workbench.noteAll notices
    let observer := (← get).next
    place name part
    Workbench.put id (.replica (r.addObserver observer).2)

/-- Makes a part under a name that is free. -/
def make (name : String) : Creation → Work Unit
  | .recorder => place name (.recorder {})
  | .fanout => place name (.fanout {})
  | .membership => place name (.membership ∅)
  | .outbox => place name (.outbox {})
  | .source => place name (.source {})
  | .store entity form => do
    let header ← ofExcept form.header
    place name (.store (.empty entity header))
  | .probe faults ids => place name (.probe { faults, ids })
  | .sender failure tellsWhole => place name (.sender { failure, tellsWhole })
  | .queue capacity => place name (.queue { capacity } true)
  | .origin source outbox settings => openOrigin name source outbox settings
  | .session target => do
    let origin ← origin target
    let number ← ofFlow (Workbench.origin origin).begin
    place name (.session origin number)
  | .replica settings conversion => place name (.replica (.ofSettings settings conversion.converter))
  | .observer atUpdates atRemovals => place name (.observer { atUpdates, atRemovals })
  | .single form records =>
    placeIndex name records fun records => (SingleIndex.build form.key records).map fun (x, notices) => (.single x, notices)
  | .many form records => placeIndex name records fun records => .ok (.many (.build form.key records), [])

/-- Makes calls on a thread. -/
def onThread (thread : Thread) (flow : Flow Workbench Unit) : Work Unit := do
  let usual := (← get).thread
  modify ({ · with thread })
  ofFlow (Flow.ensuring flow (modify ({ · with thread := usual })))

/-- Makes the calls of an act to a channel. -/
def perform (target : String) (act : Act) (foreign : Bool) : Work Unit := do
  let id ← channel target
  match act with
  | .replay other => let _ ← recorder other
  | _ => pure ()
  onThread (if foreign then 1 else 0) (Workbench.act id act)

/-- Asks a part to do what only its kind can do. -/
def ask (name : String) (id : PartId) (part : Part) (operation : Operation) : Work Reply := do
  match part with
  | .recorder r => recorderReply name id r operation
  | .fanout _ => fanoutReply name id operation
  | .membership m => membershipReply name id m operation
  | .outbox o => outboxReply name id o operation
  | .source s => sourceReply name id s operation
  | .queue q sending => queueReply name id q sending operation
  | .origin o _ outbox => originReply name id outbox o operation
  | .replica r => replicaReply name id r operation
  | .single x => singleReply name id x operation
  | .many x => manyReply name id x operation
  | .store s => storeReply name id s operation
  | .liveStore .. =>
    match (← get).store? id with
    | some s => storeReply name id s operation
    | none => noPart name
  | .probe _ | .sender _ | .session .. | .observer _ => noPart name

/-- Asks a part to do something. -/
def operate (name : String) (operation : Operation) : Work Reply := do
  let (id, part) ← named name fun id part => some (id, part)
  match operation with
  | .drop => done (ofFlow (Workbench.unname name))
  | .snapshot =>
    let (seen, b) := (← get).snapshot id
    set b
    return .snapshot seen
  | .act act foreign => done (perform name act foreign)
  | operation => ask name id part operation

end Work

/-- One step of work. -/
inductive BenchStep where
  /-- Makes a part. What had the name before is let go of first. -/
  | make (name : String) (creation : Creation)
  | operate (name : String) (operation : Operation)

/-- What came of a step: an answer, a look at the watched parts, and what went into the journal. -/
structure BenchReport where
  reply : Except Trouble Reply
  seen : List (String × Snapshot)
  journal : List Notice

namespace Workbench

/-- The work of a step. -/
def workOf : BenchStep → Work Reply
  | .make name creation => do
    Work.ofFlow (unname name)
    Work.done (Work.make name creation)
  | .operate name operation => Work.operate name operation

/-- Takes a step. -/
def step (watched : List String) (b : Workbench) (s : BenchStep) : BenchReport × Workbench :=
  let (reply, b) := (workOf s).run { b with journal := [] }
  let (seen, b) := b.snapshots watched
  (⟨reply, seen, b.journal⟩, b)

/-- Takes steps one after the other. -/
def run (watched : List String) (b : Workbench) : List BenchStep → List BenchReport
  | [] => []
  | s :: rest => (b.step watched s).1 :: (b.step watched s).2.run watched rest

end Workbench

end ReferenceFeed
