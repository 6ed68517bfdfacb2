import ReferenceFeed.Notice
import ReferenceFeed.Origin.Stage

namespace ReferenceFeed

/-!
Rows that a transport asserts, and where they disagree with the origin.
-/

/-- The ids that some rows speak about, and the entries among them. -/
structure Claims where
  ids : Names := ∅
  entries : List Entry := []
  deriving DecidableEq

namespace Claims

/-- The entry that a row asserts, rendered anew so that quoting alone is no change; `none` for a row that
holds only an id, which asserts that the id is gone. -/
def entryOf (settings : OriginSettings) (entity : String) (header : Header) (row : String) :
    Except Failure (String × Option Entry) :=
  match Row.split row with
  | .error fault => .error (.encoding (.unsplit fault))
  | .ok [some id] => .ok (id, none)
  | .ok (some id :: rest) =>
    if rest.length + 1 = header.width then
      (settings.complete entity header ⟨id, Row.render (some id :: rest), ∅⟩).map fun entry => (id, some entry)
    else .error (.columnMismatch entity header row)
  | .ok _ => .error (.encoding (.claimedRowWithoutId row))

/-- What some rows assert, in the order they are written. -/
def ofRows (settings : OriginSettings) (entity : String) (header : Header) (rows : List String) :
    Except Failure Claims := do
  let read ← rows.mapM (entryOf settings entity header)
  return ⟨Names.ofList (read.map Prod.fst), read.filterMap Prod.snd⟩

/-- The last row of each id among some entries. -/
def rowsOf (entries : List Entry) : Keyed String :=
  entries.foldl (fun rows entry => rows.insert entry.id entry.row) ∅

/-- How a claimed row and a fetched one disagree. -/
def disagreement? : Option String → Option String → Option Disagreement
  | some claimed, some found => if claimed = found then none else some (.differs claimed found)
  | some claimed, none => some (.absent claimed)
  | none, some found => some (.present found)
  | none, none => none

/-- A notice for every id on which the claims and the origin disagree. -/
def disagreements (entity : String) (claims : Claims) (fetched : List Entry) : List Notice :=
  let claimed := rowsOf claims.entries
  let found := rowsOf fetched
  claims.ids.toList.filterMap fun id => (disagreement? claimed[id]? found[id]?).map (.inconsistent entity id ·)

end Claims

end ReferenceFeed
