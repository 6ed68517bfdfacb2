import ReferenceFeed.Origin.Stage
import ReferenceFeed.Outbox

namespace ReferenceFeed

/-!
Applying the stages of a transaction to live stores. Group and sparse stages change the store that is live;
a stage of the whole content leaves it alone and prepares another store, which takes its place at the end.
Each entity that changed yields one message.
-/

/-- What a commit prepares besides the changes it makes: stores to be made live, and messages to be sent. -/
structure Prepared where
  swaps : List Store := []
  messages : List Message := []
  deriving DecidableEq

namespace Prepared

/-- What one stage prepares, before what the following ones prepare. -/
def followedBy (first second : Prepared) : Prepared :=
  ⟨first.swaps ++ second.swaps, first.messages ++ second.messages⟩

/-- A message about some changes of a store, if there are any. -/
def announce (entity : String) (store : Store) (updated removed : Names) : Prepared :=
  if updated.isEmpty && removed.isEmpty then {}
  else { messages := [⟨entity, store.renderSubset updated removed, false⟩] }

end Prepared

/-- Applies one stage. -/
def Stage.commit (live : Keyed Store) (entity : String) : Stage → Except Failure (Keyed Store × Prepared)
  | .whole scratch _ => .ok (live, ⟨[scratch], [⟨entity, scratch.render, true⟩]⟩)
  | .group key entries _ => do
    let store ← liveStore live entity
    let changed := store.replaceGroup key entries.values
    return (live.insert entity changed, .announce entity changed (Keyed.names entries) (store.leaving key entries.values))
  | .sparse updates removes => do
    let store ← liveStore live entity
    let changed := store.apply updates.values removes
    return (live.insert entity changed, .announce entity changed (Keyed.names updates) (removes.filter store.contains))

/-- Applies stages in order. What was applied before a failure stays applied. -/
def Stages.commit (live : Keyed Store) : List (String × Stage) → Keyed Store × Except Failure Prepared
  | [] => (live, .ok {})
  | (entity, stage) :: rest =>
    match stage.commit live entity with
    | .error cause => (live, .error cause)
    | .ok (live, first) =>
      match Stages.commit live rest with
      | (live, .error cause) => (live, .error cause)
      | (live, .ok second) => (live, .ok (first.followedBy second))

/-- An entity that was marked and whose block did not begin. -/
def Stages.unbegun? (stages : Stages) : Option String :=
  (stages.toList.find? fun (_, stage) => !stage.begun).map Prod.fst

end ReferenceFeed
