import ReferenceFeed.Recorder
import ReferenceFeed.Settings
import ReferenceFeed.Store

namespace ReferenceFeed

/-!
What a transaction is going to do to the live stores of an origin. Events are collected by entity and checked
as they arrive; nothing is applied before the commit.
-/

/-- What one transaction does to one entity. -/
inductive Stage where
  /-- New content, built aside. -/
  | whole (scratch : Store) (begun : Bool)
  /-- New content of one group value. -/
  | group (key : GroupValue) (entries : Keyed Entry) (begun : Bool)
  /-- Single updates and removals. -/
  | sparse (updates : Keyed Entry) (removes : Names)
  deriving DecidableEq

/-- The stages of a transaction by entity. -/
abbrev Stages := Keyed Stage

/-- Whether the block that a stage needs has begun. -/
def Stage.begun : Stage → Bool
  | .whole _ begun | .group _ _ begun => begun
  | .sparse _ _ => true

/-- The live store of an entity. -/
def liveStore (live : Keyed Store) (entity : String) : Except Failure Store :=
  match live[entity]? with
  | some store => .ok store
  | none => .error (.unknownEntity entity)

/-- Refuses columns other than those expected. -/
def checkHeader (entity : String) (expected got : Header) : Except Failure Unit :=
  if expected = got then .ok () else .error (.columnMismatch entity expected got.text)

namespace OriginSettings

/-- Refuses groups that are not declared. -/
def checkGroup (s : OriginSettings) (entity group : String) : Except Failure Unit :=
  if s.declares entity group then .ok () else .error (.unknownGroup entity group)

/-- Whether an entry lacks a group that one of its columns could give. -/
def lacks (header : Header) (entry : Entry) (group : String) : Bool :=
  !entry.groups.contains group && (header.position? group).isSome

/-- The field of a column. -/
def fieldOf (header : Header) (fields : List Field) (column : String) : Field :=
  (header.position? column).bind fun place => (fields[place]?).join

/-- Fills in the declared groups that an entry does not carry, from the columns of their names. -/
def complete (s : OriginSettings) (entity : String) (header : Header) (entry : Entry) : Except Failure Entry :=
  match (s.groupsOf entity).filter (lacks header entry) with
  | [] => .ok entry
  | missing =>
    match entry.fields with
    | .error fault => .error (.encoding (.unsplit fault))
    | .ok fields =>
      .ok (missing.foldl (fun entry group =>
        match fieldOf header fields group with
        | some value => entry.withGroup group value
        | none => entry) entry)

end OriginSettings

namespace Stage

/-- Begins the block of an entity. -/
def begin (live : Keyed Store) (entity : String) (header : Header) : Option Stage → Except Failure Stage
  | some (.whole scratch _) => do
    checkHeader entity scratch.header header
    return .whole scratch true
  | some (.group key entries _) => do
    checkHeader entity (← liveStore live entity).header header
    return .group key entries true
  | some (.sparse updates removes) => do
    checkHeader entity (← liveStore live entity).header header
    return .sparse updates removes
  | none => do
    checkHeader entity (← liveStore live entity).header header
    return .sparse ∅ ∅

/-- Takes an update in. The last word on an id counts. -/
def update (entity : String) (header : Header) (entry : Entry) : Stage → Except Failure Stage
  | .whole scratch begun => do
    checkHeader entity scratch.header header
    return .whole (scratch.put entry) begun
  | .group key entries begun =>
    if entry.groups[key.group]? = some key.value then .ok (.group key (entries.insert entry.id entry) begun)
    else .error (.violation (.outsideGroup entity entry.id key.group key.value))
  | .sparse updates removes => .ok (.sparse (updates.insert entry.id entry) (removes.erase entry.id))

/-- Takes a removal in. -/
def remove (id : String) : Stage → Stage
  | .whole scratch begun => .whole (scratch.remove id) begun
  | .group key entries begun => .group key (entries.erase id) begun
  | .sparse updates removes => .sparse (updates.erase id) (removes.insert id)

end Stage

namespace Stages

/-- The stage of an entity whose block has begun. -/
def ready (stages : Option Stages) (entity : String) : Except Failure (Stages × Stage) :=
  match stages with
  | none => .error (.violation .outside)
  | some stages =>
    match stages[entity]? with
    | some stage => if stage.begun then .ok (stages, stage) else .error (.violation (.beforeBlock entity))
    | none => .error (.violation (.beforeBlock entity))

/-- Marks an entity that the transaction has not touched yet. -/
def mark (stages : Option Stages) (otherwise : Violation) (entity : String) (stage : Stage) : Except Failure Stages :=
  match stages with
  | none => .error (.violation otherwise)
  | some stages =>
    if stages.contains entity then .error (.violation (.touched entity)) else .ok (stages.insert entity stage)

/-- Takes an event into the stages of a transaction, if one is open. The answer is what subscribers are told:
the event, with an updated entry as it was completed. -/
def take (settings : OriginSettings) (live : Keyed Store) (stages : Option Stages) :
    Event → Except Failure (Event × Stages)
  | .reload entity header => do
    return (.reload entity header, ← mark stages .reloadOutside entity (.whole (.empty entity header) false))
  | .reloadGroup entity group value => do
    settings.checkGroup entity group
    let _ ← liveStore live entity
    return (.reloadGroup entity group value,
      ← mark stages .groupReloadOutside entity (.group ⟨group, value⟩ ∅ false))
  | .block entity header =>
    match stages with
    | none => .error (.violation .blockOutside)
    | some stages => do
      return (.block entity header, stages.insert entity (← Stage.begin live entity header stages[entity]?))
  | .update entity header entry => do
    let entry ← settings.complete entity header entry
    let (stages, stage) ← ready stages entity
    return (.update entity header entry, stages.insert entity (← stage.update entity header entry))
  | .remove entity id => do
    let (stages, stage) ← ready stages entity
    return (.remove entity id, stages.insert entity (stage.remove id))

end Stages

end ReferenceFeed
