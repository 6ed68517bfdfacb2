import ReferenceFeed.Failure

namespace ReferenceFeed

/-!
A channel that keeps the events of one transaction.
-/

/-- The events received so far, and how far the transaction is. -/
structure Recorder where
  isOpen : Bool := false
  /-- Whether the last transaction was committed. -/
  finished : Bool := false
  events : List Event := []
  deriving DecidableEq

namespace Recorder

/-- Receives a call. Cancelling is always allowed; it forgets everything. -/
def receive (r : Recorder) : Signal → Except Failure Recorder
  | .start => if r.isOpen then .error (.violation .recordingTwice) else .ok ⟨true, false, []⟩
  | .event event =>
    if r.isOpen then .ok { r with events := r.events ++ [event] } else .error (.violation (.recordedOutside event))
  | .finish => if r.isOpen then .ok { r with isOpen := false, finished := true } else .error (.violation .finishWithoutStart)
  | .cancel => .ok ⟨false, false, []⟩

/-- Gives the events away. -/
def take (r : Recorder) : List Event × Recorder := (r.events, { r with finished := false, events := [] })

/-- The entries updated for an entity, in the order they arrived. -/
def entriesOf (r : Recorder) (entity : String) : List Entry :=
  r.events.filterMap fun
    | .update e _ entry => if e = entity then some entry else none
    | _ => none

/-- The ids removed for an entity, in the order they arrived. -/
def removedOf (r : Recorder) (entity : String) : List String :=
  r.events.filterMap fun
    | .remove e id => if e = entity then some id else none
    | _ => none

/-- Receives calls until one is refused. -/
def receiveAll (r : Recorder) : List Signal → Except Failure Recorder
  | [] => .ok r
  | signal :: rest =>
    match r.receive signal with
    | .error failure => .error failure
    | .ok r => r.receiveAll rest

end Recorder

end ReferenceFeed
