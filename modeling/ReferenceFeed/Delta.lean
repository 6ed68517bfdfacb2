import ReferenceFeed.Store

namespace ReferenceFeed

/-!
What a fetch changes. Rows are compared as texts, so an entry that is stored already is not announced again;
an id that was asked for and not found is gone, which is news only if it was stored.
-/

/-- The ids that were changed or added, and the ids that are gone. -/
structure Changes where
  updated : Names := ∅
  removed : Names := ∅
  deriving DecidableEq

def Changes.isEmpty (c : Changes) : Bool := c.updated.isEmpty && c.removed.isEmpty

/-- Entries that were fetched, and what is new in them. -/
structure Delta where
  fetched : List Entry
  changes : Changes
  deriving DecidableEq

namespace Delta

/-- Whether a fetched entry differs from what is stored. -/
def differs (store : Store) (entry : Entry) : Bool :=
  match store.get? entry.id with
  | some stored => stored.row != entry.row
  | none => true

/-- The outcome of fetching the requested ids. An entry nobody asked for counts as asked for. -/
def ofFetch (store : Store) (requested : Names) (fetched : List Entry) : Delta :=
  let updated := Names.ofList ((fetched.filter (differs store)).map Entry.id)
  let found := Names.ofList (fetched.map Entry.id)
  ⟨fetched, updated, requested.filter fun id => !found.contains id && store.contains id⟩

/-- The outcome of fetching one id that is announced even if it did not change. -/
def ofRepublish (store : Store) (id : String) (fetched : Option Entry) : Delta :=
  match fetched with
  | some entry => ⟨[entry], {entry.id}, ∅⟩
  | none => ⟨[], ∅, if store.contains id then {id} else ∅⟩

/-- The fetched entries whose ids are announced. -/
def changed (d : Delta) : List Entry := d.fetched.filter fun entry => d.changes.updated.contains entry.id

def isEmpty (d : Delta) : Bool := d.changes.isEmpty

/-- The events that announce the changes. Without changes there is nothing to announce. -/
def events (d : Delta) (entity : String) (header : Header) : List Event :=
  if d.isEmpty then []
  else .block entity header ::
    (d.changed.map (.update entity header ·) ++ d.changes.removed.toList.map (.remove entity ·))

end Delta

end ReferenceFeed
