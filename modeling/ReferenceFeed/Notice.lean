import ReferenceFeed.Failure

namespace ReferenceFeed

/-!
What the parts of a feed report beside their answers: things that went wrong and were dealt with.
-/

/-- How a row that a transport asserted disagrees with the origin. -/
inductive Disagreement where
  | differs (claimed found : String)
  | absent (claimed : String)
  | present (found : String)
  deriving DecidableEq, Repr

/-- Something worth a line in a journal. -/
inductive Notice where
  | subscriberFailed (id : Nat) (cause : Failure)
  | subscriberCancelFailed (id : Nat) (cause : Failure)
  | replayCancelFailed (cause : Failure)
  | cancelFailed (cause : Failure)
  | sessionDropped
  | droppedCancelFailed (cause : Failure)
  | inconsistent (entity id : String) (how : Disagreement)
  | sendFailed (entity : String) (cause : Failure)
  | queueFull (entity : String)
  | repeatedId (id entity : String)
  | keyMoved (index key previous id : String)
  | observerPanicked (entity : String) (id : Nat) (reason : String)
  | replicaPoisoned (entity : String) (staged : Nat)
  deriving DecidableEq

namespace Notice

/-- Whether a notice is an error and not only a warning. -/
def grave : Notice → Bool
  | .observerPanicked .. | .replicaPoisoned .. => true
  | _ => false

def message : Notice → String
  | .subscriberFailed id cause =>
    s!"Unsubscribing after delivery failure: Subscriber Sub({id}) failed: {cause.message}"
  | .subscriberCancelFailed id cause => s!"Subscriber Sub({id}) also failed to cancel: {cause.message}"
  | .replayCancelFailed cause => s!"Subscriber failed to cancel snapshot replay: {cause.message}"
  | .cancelFailed cause => s!"Cancel after failed transaction also failed: {cause.message}"
  | .sessionDropped => "Cache transaction dropped while open, cancelling it"
  | .droppedCancelFailed cause => s!"Cancel of dropped transaction failed: {cause.message}"
  | .inconsistent entity id (.differs claimed found) =>
    s!"Consistency warning: {entity}/{id} transport row {Text.quoted claimed} differs from origin row {Text.quoted found}"
  | .inconsistent entity id (.absent claimed) =>
    s!"Consistency warning: {entity}/{id} transport row {Text.quoted claimed} is absent from origin"
  | .inconsistent entity id (.present found) =>
    s!"Consistency warning: {entity}/{id} deleted by transport but origin holds {Text.quoted found}"
  | .sendFailed entity cause => s!"Outbound send for {entity} failed: {cause.message}"
  | .queueFull entity => s!"Outbound queue full, dropping payload for {entity}"
  | .repeatedId id entity => s!"Duplicate composite id {id} in {entity}; the later row wins"
  | .keyMoved index key previous id => s!"Index {index}: key {key} moved from {previous} to {id}"
  | .observerPanicked entity id reason => s!"{entity} observer ObserverId({id}) panicked: {reason}"
  | .replicaPoisoned entity staged =>
    s!"{entity} transaction cancelled with {staged} staged changes; cache poisoned"

/-- A notice as a line of a journal. -/
def line (notice : Notice) : String := (if notice.grave then "ERROR " else "WARN ") ++ notice.message

end Notice

end ReferenceFeed
