import ReferenceFeed.Failure

namespace ReferenceFeed

/-!
Payloads are what travels between processes: a header line, then one record a line. A record that holds only
an id removes that id, so an entity without other columns can be emptied by a payload but not filled.
-/

/-- One record of a payload. -/
inductive Record where
  | update (entry : Entry)
  | remove (id : String)
  deriving DecidableEq

/-- The id a record speaks about. -/
def Record.id : Record → String
  | .update entry => entry.id
  | .remove id => id

/-- The content of a payload, in written order. -/
structure Payload where
  header : Header
  records : List Record
  deriving DecidableEq

namespace Payload

/-- The text of a payload: the rows as they are, then the removed ids. -/
def render (header : Header) (entries : List Entry) (removed : List String) : String :=
  let bare (id : String) : String := String.ofList (Row.encode (some id))
  String.intercalate "\n" (header.text :: entries.map Entry.row ++ removed.map bare)

/-- The header that the first line spells out. -/
def headerOf : Except RowFault (List Field) → Except Failure Header
  | .error fault => .error (.encoding (.unsplit (.row fault)))
  | .ok fields => (Header.ofFields fields).mapError fun fault => .columns (.header fault)

/-- The id at the head of a record. -/
def idOf : Except RowFault (List Field) → Except Failure String
  | .error fault => .error (.encoding (.unsplit (.row fault)))
  | .ok (some id :: _) => .ok id
  | .ok _ => .error (.encoding .recordWithoutId)

/-- One line under a header. Its row is rendered anew, so that an entry has one written form. -/
def recordOf (header : Header) : Except RowFault (List Field) → Except Failure Record
  | .error fault => .error (.encoding (.unsplit (.row fault)))
  | .ok [some id] => .ok (.remove id)
  | .ok (some id :: rest) =>
    if rest.length + 1 = header.width then .ok (.update ⟨id, Row.render (some id :: rest), ∅⟩)
    else .error (.encoding (.recordWidth id (rest.length + 1) header.width))
  | .ok _ => .error (.encoding .recordWithoutId)

/-- The content of a text. -/
def read (text : String) : Except Failure Payload :=
  match Row.records text with
  | [] => .error (.encoding .noHeaderLine)
  | first :: rest => do
    let header ← headerOf first
    let records ← rest.mapM (recordOf header)
    return ⟨header, records⟩

/-- The ids that a text names, whatever it says about them. A text without lines names none. -/
def readIds (text : String) : Except Failure (List String) :=
  match Row.records text with
  | [] => .ok []
  | first :: rest => do
    let _ ← headerOf first
    rest.mapM idOf

/-- The entries among the records. -/
def entries (payload : Payload) : List Entry :=
  payload.records.filterMap fun
    | .update entry => some entry
    | .remove _ => none

/-- The ids that the payload removes. -/
def removed (payload : Payload) : List String :=
  payload.records.filterMap fun
    | .update _ => none
    | .remove id => some id

/-- The event that a record stands for. -/
def eventOf (entity : String) (header : Header) : Record → Event
  | .update entry => .update entity header entry
  | .remove id => .remove entity id

/-- The events of a payload for an entity, with a marker in front when it is the whole content. -/
def events (payload : Payload) (entity : String) (whole : Bool) : List Event :=
  (if whole then [.reload entity payload.header] else []) ++
    .block entity payload.header :: payload.records.map (eventOf entity payload.header)

end Payload

end ReferenceFeed
