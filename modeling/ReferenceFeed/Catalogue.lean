import ReferenceFeed.Feed
import ReferenceFeed.Payload

namespace ReferenceFeed

/-!
A source that holds its entities in memory, as tables that are loaded from payloads and changed row by row.
-/

/-- The content of one entity. -/
structure Table where
  header : Header
  /-- Where the column of each declared group stands. -/
  groups : Keyed Nat := ∅
  /-- The columns whose values the ids are composed of, with their places; none where ids are given. -/
  idParts : List (String × Nat) := []
  rows : Keyed (List Field) := ∅
  deriving DecidableEq

namespace Table

/-- The parts of the id of a row. None of them may be absent. -/
def partsOf (entity : String) (fields : List Field) : List (String × Nat) → Except Failure (List Field)
  | [] => .ok []
  | (column, place) :: rest =>
    match fields[place]? with
    | some (some part) => (partsOf entity fields rest).map (some part :: ·)
    | _ => .error (.encoding (.absentPart column entity))

/-- The composed id of a row, and the row with it in the place of its own. -/
def composed (t : Table) (entity : String) (fields : List Field) : Except Failure (String × List Field) :=
  (partsOf entity fields t.idParts).map fun parts =>
    let id := CompositeId.compose parts
    (id, fields.set 0 (some id))

/-- The id under which a requested id is stored. A composed id is taken apart and put together again. -/
def keyFor (t : Table) (entity id : String) : Except Failure String :=
  if t.idParts.isEmpty then .ok id
  else match CompositeId.parts id with
    | .error fault => .error (.encoding (.compositeId fault))
    | .ok parts =>
      if parts.length = t.idParts.length then .ok (CompositeId.compose parts)
      else .error (.encoding (.partCount entity id t.idParts.length))

/-- The places of the columns that ids are to be composed of. The id column itself is none of them. -/
def placesOf (entity : String) (header : Header) (columns : List String) : Except Failure (List (String × Nat)) :=
  if columns.isEmpty then .error (.columns (.noPartColumns entity))
  else columns.mapM fun column =>
    match header.position? column with
    | some (place + 1) => .ok (column, place + 1)
    | _ => .error (.columns (.unknownPartColumn entity column))

/-- Stores rows under their composed ids, until one has none. -/
def storeComposed (entity : String) : Table → List (List Field) → Table × List Notice × Except Failure Unit
  | t, [] => (t, [], .ok ())
  | t, fields :: rest =>
    match t.composed entity fields with
    | .error cause => (t, [], .error cause)
    | .ok (id, fields) =>
      let (last, notices, result) := storeComposed entity { t with rows := t.rows.insert id fields } rest
      (last, if t.rows.contains id then .repeatedId id entity :: notices else notices, result)

/-- Gives every row its composed id. -/
def recompose (t : Table) (entity : String) : Table × List Notice × Except Failure Unit :=
  storeComposed entity { t with rows := ∅ } t.rows.values

/-- The groups that a row belongs to. -/
def groupsOf (t : Table) (fields : List Field) : Keyed String :=
  t.groups.filterMap fun _ place => (fields[place]?).join

/-- A row as an entry. -/
def entryOf (t : Table) (fields : List Field) : Except Failure Entry :=
  match Entry.ofFields fields with
  | .error fault => .error (.encoding (.entry fault))
  | .ok entry => .ok { entry with groups := t.groupsOf fields }

/-- The event that sends a row. -/
def eventOf (t : Table) (entity : String) (fields : List Field) : Except Failure Event :=
  (t.entryOf fields).map (.update entity t.header ·)

/-- The event that answers for a requested id. -/
def answerFor (t : Table) (entity id : String) : Except Failure Event :=
  match t.keyFor entity id with
  | .error cause => .error cause
  | .ok key =>
    match t.rows[key]? with
    | some fields => t.eventOf entity fields
    | none => .ok (.remove entity id)

/-- Answers a request. -/
def fetch (t : Table) : Request → Feed
  | .whole entity =>
    .ofResults (.ok (.reload entity t.header) :: .ok (.block entity t.header) :: t.rows.values.map (t.eventOf entity))
  | .ids entity ids => .ofResults (.ok (.block entity t.header) :: ids.toList.map (t.answerFor entity))
  | .group entity key =>
    match t.groups[key.group]? with
    | none => .failing (.unknownGroup entity key.group)
    | some place =>
      let rows := t.rows.values.filter fun fields => fields[place]? = some (some key.value)
      .ofResults (.ok (.reloadGroup entity key.group key.value) :: .ok (.block entity t.header) ::
        rows.map (t.eventOf entity))

end Table

/-- The entity a request asks about. -/
def Request.entity : Request → String
  | .whole entity | .ids entity _ | .group entity _ => entity

/-- Tables by the name of their entity. -/
structure Catalogue where
  tables : Keyed Table := ∅
  deriving DecidableEq

namespace Catalogue

/-- What a change leaves behind: an answer, the catalogue afterwards, and notices. -/
structure Changed (α : Type) where
  answer : Except Failure α
  catalogue : Catalogue
  notices : List Notice := []

/-- The table of an entity. -/
def table (c : Catalogue) (entity : String) : Except Failure Table :=
  match c.tables[entity]? with
  | some t => .ok t
  | none => .error (.unknownEntity entity)

def withTable (c : Catalogue) (entity : String) (t : Table) : Catalogue := ⟨c.tables.insert entity t⟩

def entities (c : Catalogue) : List String := c.tables.keys

/-- The rows that a payload stands for. What it removes is passed over, and of two with one id the later counts. -/
def rowsOf (payload : Payload) : Except Failure (Keyed (List Field)) := do
  let rows ← payload.entries.mapM fun entry =>
    match entry.fields with
    | .ok fields => .ok (entry.id, fields)
    | .error fault => .error (.encoding (.unsplit fault))
  return rows.foldl (fun map (id, fields) => map.insert id fields) ∅

/-- The table of a payload that takes the place of another. Groups stay declared while they have a column. -/
def tableOf (payload : Payload) (rows : Keyed (List Field)) (previous : Option Table) : Table :=
  let groups := match previous with
    | some t => t.groups.filterMap fun group _ => payload.header.position? group
    | none => ∅
  { header := payload.header, groups, rows }

/-- Replaces an entity by the content of a payload. -/
def load (c : Catalogue) (entity text : String) : Changed Unit :=
  let loaded : Except Failure (Table × List String) := do
    let payload ← Payload.read text
    let rows ← rowsOf payload
    let previous := c.tables[entity]?
    return (tableOf payload rows previous, (previous.map fun t => t.idParts.map Prod.fst).getD [])
  match loaded with
  | .error cause => ⟨.error cause, c, []⟩
  | .ok (t, []) => ⟨.ok (), c.withTable entity t, []⟩
  | .ok (t, columns) =>
    match Table.placesOf entity t.header columns with
    | .error cause => ⟨.error cause, c, []⟩
    | .ok idParts =>
      match { t with idParts }.recompose entity with
      | (_, notices, .error cause) => ⟨.error cause, c, notices⟩
      | (t, notices, .ok ()) => ⟨.ok (), c.withTable entity t, notices⟩

/-- Composes the ids of an entity of the values of some columns from now on. -/
def composeIds (c : Catalogue) (entity : String) (columns : List String) : Changed Unit :=
  let placed : Except Failure Table := do
    let t ← c.table entity
    return { t with idParts := ← Table.placesOf entity t.header columns }
  match placed with
  | .error cause => ⟨.error cause, c, []⟩
  | .ok t =>
    let (t, notices, answer) := t.recompose entity
    ⟨answer, c.withTable entity t, notices⟩

/-- Declares a group over the column of its name. -/
def declareGroup (c : Catalogue) (entity group : String) : Except Failure Catalogue := do
  let t ← c.table entity
  match t.header.position? group with
  | none => .error (.unknownGroup entity group)
  | some place => return c.withTable entity { t with groups := t.groups.insert group place }

/-- Stores a row under its id, or under the one composed of its parts. -/
def upsert (c : Catalogue) (entity : String) (fields : List Field) : Except Failure Catalogue := do
  let t ← c.table entity
  if fields.length ≠ t.header.width then .error (.columnMismatch entity t.header (Row.render fields))
  else if t.idParts.isEmpty then
    match fields with
    | some id :: _ => return c.withTable entity { t with rows := t.rows.insert id fields }
    | _ => .error (.encoding .storedRowWithoutId)
  else
    let (id, fields) ← t.composed entity fields
    return c.withTable entity { t with rows := t.rows.insert id fields }

/-- Removes a row, and tells whether it was there. -/
def delete (c : Catalogue) (entity id : String) : Except Failure (Bool × Catalogue) := do
  let t ← c.table entity
  let key ← t.keyFor entity id
  return (t.rows.contains key, c.withTable entity { t with rows := t.rows.erase key })

/-- Answers a request. -/
def fetch (c : Catalogue) (request : Request) : Feed :=
  match c.table request.entity with
  | .error cause => .failing cause
  | .ok t => t.fetch request

end Catalogue

end ReferenceFeed
