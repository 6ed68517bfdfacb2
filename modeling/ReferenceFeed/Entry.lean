import ReferenceFeed.Header
import ReferenceFeed.Keyed

namespace ReferenceFeed

/-!
Entries are the records of an entity, as they travel: an id, the row that holds all fields, and the groups
that the record belongs to.
-/

/-- One record of one entity. -/
structure Entry where
  /-- The id, without quotes. -/
  id : String
  /-- All fields in written form, the id first. -/
  row : String
  /-- The value of each group the entry carries. -/
  groups : Keyed String := ∅
  deriving DecidableEq

namespace Entry

/-- Why no entry can be made of a row or of its fields. -/
inductive Fault where
  | unsplit (fault : SplitFault)
  | absentIdInRow (row : String)
  | absentId
  deriving DecidableEq, Repr

def Fault.message : Fault → String
  | .unsplit fault => fault.message
  | .absentIdInRow row => s!"row has a null id: {Text.quoted row}"
  | .absentId => "line requires a non-null id"

/-- The entry of a written row, whose first field is the id. -/
def ofRow (row : String) : Except Fault Entry :=
  match Row.split row with
  | .error fault => .error (.unsplit fault)
  | .ok (some id :: _) => .ok ⟨id, row, ∅⟩
  | .ok _ => .error (.absentIdInRow row)

/-- The entry of some fields, the first of which is the id. -/
def ofFields : List Field → Except Fault Entry
  | some id :: rest => .ok ⟨id, Row.render (some id :: rest), ∅⟩
  | _ => .error .absentId

/-- The entry in one more group. -/
def withGroup (entry : Entry) (group value : String) : Entry :=
  { entry with groups := entry.groups.insert group value }

/-- The fields of the row. -/
def fields (entry : Entry) : Except SplitFault (List Field) := Row.split entry.row

/-- The groups of an entry inside a message. -/
def shownGroups (groups : Keyed String) : String :=
  let pair (p : String × String) : String := s!"{Text.quoted p.1}: {Text.quoted p.2}"
  let pairs := String.intercalate ", " (groups.toList.map pair)
  s!"\x7b{pairs}\x7d"

/-- An entry inside a message. -/
def shown (entry : Entry) : String :=
  s!"Line \x7b id: {Text.quoted entry.id}, row: {Text.quoted entry.row}, group_values: {shownGroups entry.groups} \x7d"

end Entry

/-- Which entities a subscriber wants to hear about. -/
inductive Interest where
  | all
  | only (entities : Names)
  deriving DecidableEq

def Interest.covers : Interest → String → Bool
  | .all, _ => true
  | .only entities, entity => entities.contains entity

end ReferenceFeed
