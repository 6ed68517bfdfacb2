import ReferenceFeed.Index.Key
import ReferenceFeed.Replica

namespace ReferenceFeed

/-!
An index that leads from a key to all ids that have it.
-/

/-- Ids by key, and keys by id. No key is kept without an id. -/
structure ManyIndex (ρ κ : Type) [Ord κ] where
  key : IndexKey ρ κ
  idsOf : Std.ExtTreeMap κ Names := ∅
  keyOf : Keyed κ := ∅

namespace ManyIndex

variable {ρ κ : Type} [Ord κ] [Std.TransOrd κ]

/-- The ids under a key. -/
def get (x : ManyIndex ρ κ) (key : κ) : Names := (x.idsOf[key]?).getD ∅

/-- The ids under a key that has to have some. -/
def find (x : ManyIndex ρ κ) (key : κ) : Except Failure Names :=
  if (x.get key).isEmpty then .error (.notFound x.key.name (x.key.shown key)) else .ok (x.get key)

/-- The keys with an id under them. -/
def keys (x : ManyIndex ρ κ) : List κ := x.idsOf.keys

/-- The number of keys. -/
def size (x : ManyIndex ρ κ) : Nat := x.idsOf.size

/-- Takes an id from under its key. -/
def unlink (x : ManyIndex ρ κ) (id : String) : ManyIndex ρ κ :=
  match x.keyOf[id]? with
  | none => x
  | some key =>
    let left := (x.get key).erase id
    { x with keyOf := x.keyOf.erase id, idsOf := if left.isEmpty then x.idsOf.erase key else x.idsOf.insert key left }

/-- Puts an id under a key. -/
def link (x : ManyIndex ρ κ) (id : String) (key : κ) : ManyIndex ρ κ :=
  { x with idsOf := x.idsOf.insert key ((x.get key).insert id), keyOf := x.keyOf.insert id key }

/-- Puts an id under the key of its record, if it has one. -/
def enter (x : ManyIndex ρ κ) (id : String) (record : ρ) : ManyIndex ρ κ :=
  match x.key.of record with
  | none => x
  | some key => x.link id key

/-- The index of some records. -/
def build (key : IndexKey ρ κ) (records : Keyed ρ) : ManyIndex ρ κ :=
  records.toList.foldl (fun x (id, record) => x.enter id record) ⟨key, ∅, ∅⟩

/-- Follows records that changed or were added. -/
def update (x : ManyIndex ρ κ) (records : Keyed ρ) : ManyIndex ρ κ :=
  records.toList.foldl (fun x (id, record) => (x.unlink id).enter id record) x

/-- Follows records that are gone. -/
def remove (x : ManyIndex ρ κ) (ids : Names) : ManyIndex ρ κ := ids.toList.foldl unlink x

/-- Follows a replica by what its observers are told. -/
def observe (x : ManyIndex ρ κ) : Observation ρ → ManyIndex ρ κ
  | .updated records => x.update records
  | .removed ids => x.remove ids

end ManyIndex

end ReferenceFeed
