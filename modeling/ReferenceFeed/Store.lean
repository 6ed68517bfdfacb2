import ReferenceFeed.Membership
import ReferenceFeed.Payload

namespace ReferenceFeed

/-!
The entries of one entity under one header, by id, with the members of their groups.
-/

/-- The content of an entity. -/
structure Store where
  entity : String
  header : Header
  entries : Keyed Entry := ∅
  membership : Membership := ∅
  deriving DecidableEq

namespace Store

/-- A store without entries. -/
def empty (entity : String) (header : Header) : Store := ⟨entity, header, ∅, ∅⟩

def get? (s : Store) (id : String) : Option Entry := s.entries[id]?

def contains (s : Store) (id : String) : Bool := s.entries.contains id

/-- Stores an entry under its id. -/
def put (s : Store) (entry : Entry) : Store :=
  { s with entries := s.entries.insert entry.id entry, membership := s.membership.insert entry.id entry.groups }

def remove (s : Store) (id : String) : Store :=
  { s with entries := s.entries.erase id, membership := s.membership.remove id }

theorem get?_empty (entity : String) (header : Header) (id : String) : (empty entity header).get? id = none := by
  simp [empty, get?]

theorem get?_put (s : Store) (entry : Entry) (id : String) :
    (s.put entry).get? id = if entry.id = id then some entry else s.get? id := by
  simp only [get?, put, Std.ExtTreeMap.getElem?_insert, Std.compare_eq_iff_eq]

theorem get?_remove (s : Store) (removed id : String) :
    (s.remove removed).get? id = if removed = id then none else s.get? id := by
  simp only [get?, remove, Std.ExtTreeMap.getElem?_erase, Std.compare_eq_iff_eq]

def putAll (s : Store) (entries : List Entry) : Store := entries.foldl put s

def removeAll (s : Store) (ids : Names) : Store := ids.toList.foldl remove s

/-- Stores entries, then removes ids. -/
def apply (s : Store) (updates : List Entry) (removes : Names) : Store := (s.putAll updates).removeAll removes

/-- The ids that hold a group value. -/
def membersOf (s : Store) (key : GroupValue) : Names := s.membership.of key

/-- The ids that drop out of a group value when it is replaced by some entries. -/
def leaving (s : Store) (key : GroupValue) (entries : List Entry) : Names :=
  entries.foldl (fun gone entry => gone.erase entry.id) (s.membersOf key)

/-- Puts entries in the place of all that hold a group value. -/
def replaceGroup (s : Store) (key : GroupValue) (entries : List Entry) : Store :=
  (s.removeAll (s.leaving key entries)).putAll entries

/-- All entries, in the order of their ids. -/
def all (s : Store) : List Entry := s.entries.values

/-- The entries of the ids that are present, in the order of the ids. -/
def subset (s : Store) (ids : Names) : List Entry := ids.toList.filterMap s.get?

def ids (s : Store) : List String := s.entries.keys

def size (s : Store) : Nat := s.entries.size

/-- The whole content as a payload. -/
def render (s : Store) : String := Payload.render s.header s.all []

/-- A payload of the entries present among some ids, followed by the removal of others. -/
def renderSubset (s : Store) (updated removed : Names) : String :=
  Payload.render s.header (s.subset updated) removed.toList

/-- A store inside a message. -/
def shown (s : Store) : String :=
  s!"EntityCache \x7b entity: {Text.quoted s.entity}, columns: {s.header.shown}, len: {s.size} \x7d"

end Store

end ReferenceFeed
