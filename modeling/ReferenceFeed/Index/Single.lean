import ReferenceFeed.Index.Key
import ReferenceFeed.Replica

namespace ReferenceFeed

/-!
An index that leads from a key to one id. Where several records share a key, the one linked last holds it.
-/

/-- Ids by key, and keys by the id that holds them. -/
structure SingleIndex (ρ κ : Type) [Ord κ] where
  key : IndexKey ρ κ
  idOf : Std.ExtTreeMap κ String := ∅
  keyOf : Keyed κ := ∅

/-- A key that one id took from another. -/
structure KeyMove (κ : Type) where
  key : κ
  previous : String
  id : String
  deriving DecidableEq, Repr

namespace SingleIndex

variable {ρ κ : Type} [Ord κ] [Std.TransOrd κ]

def get? (x : SingleIndex ρ κ) (key : κ) : Option String := x.idOf[key]?

/-- The id of a key that has to be there. -/
def find (x : SingleIndex ρ κ) (key : κ) : Except Failure String :=
  match x.get? key with
  | some id => .ok id
  | none => .error (.notFound x.key.name (x.key.shown key))

/-- The number of keys. -/
def size (x : SingleIndex ρ κ) : Nat := x.idOf.size

/-- Takes a key away from an id that holds it. -/
def unlink (x : SingleIndex ρ κ) (id : String) : SingleIndex ρ κ :=
  match x.keyOf[id]? with
  | none => x
  | some key => { x with keyOf := x.keyOf.erase id, idOf := if x.idOf[key]? = some id then x.idOf.erase key else x.idOf }

/-- The other id that holds a key, if there is one. -/
def holder? (x : SingleIndex ρ κ) (id : String) (key : κ) : Option String :=
  match x.idOf[key]? with
  | some previous => if previous = id then none else some previous
  | none => none

/-- Gives a key to an id. The id that held it before holds none. -/
def link (x : SingleIndex ρ κ) (id : String) (key : κ) : SingleIndex ρ κ :=
  let keyOf := match x.holder? id key with
    | some previous => x.keyOf.erase previous
    | none => x.keyOf
  { x with idOf := x.idOf.insert key id, keyOf := keyOf.insert id key }

/-- Links a record, if it has a key, and tells from whom the key was taken. -/
def enter (x : SingleIndex ρ κ) (id : String) (record : ρ) : SingleIndex ρ κ × List (KeyMove κ) :=
  match x.key.of record with
  | none => (x, [])
  | some key => (x.link id key, ((x.holder? id key).map fun previous => KeyMove.mk key previous id).toList)

/-- Links records one after the other. -/
def enterAll (x : SingleIndex ρ κ) : List (String × ρ) → SingleIndex ρ κ × List (KeyMove κ)
  | [] => (x, [])
  | (id, record) :: rest =>
    let (next, moved) := x.enter id record
    let (last, more) := next.enterAll rest
    (last, moved ++ more)

/-- The notices of keys that moved. -/
def notices (x : SingleIndex ρ κ) (moves : List (KeyMove κ)) : List Notice :=
  moves.map fun move => .keyMoved x.key.name (x.key.shown move.key) move.previous move.id

/-- The index of some records, linked in the order of their ids. -/
def build (key : IndexKey ρ κ) (records : Keyed ρ) : Except Failure (SingleIndex ρ κ × List Notice) :=
  let (x, moves) := enterAll ⟨key, ∅, ∅⟩ records.toList
  match key.unique, moves with
  | true, move :: _ => .error (.duplicateKey key.name (key.shown move.key) move.previous move.id)
  | _, moves => .ok (x, x.notices moves)

/-- Follows records that changed or were added. All of them give up their keys before any takes one. -/
def update (x : SingleIndex ρ κ) (records : Keyed ρ) : SingleIndex ρ κ × List Notice :=
  let (x, moves) := (records.keys.foldl unlink x).enterAll records.toList
  (x, x.notices moves)

/-- Follows records that are gone. -/
def remove (x : SingleIndex ρ κ) (ids : Names) : SingleIndex ρ κ := ids.toList.foldl unlink x

/-- Follows a replica by what its observers are told. -/
def observe (x : SingleIndex ρ κ) : Observation ρ → SingleIndex ρ κ × List Notice
  | .updated records => x.update records
  | .removed ids => (x.remove ids, [])

end SingleIndex

end ReferenceFeed
