import ReferenceFeed.Flow
import ReferenceFeed.Outbox
import ReferenceFeed.Replica

namespace ReferenceFeed

/-!
Collaborators that write down what they are told, and fail or panic when they are made to. They are what a part
of a feed is tried out with.
-/

/-- The name of a call. -/
def Signal.name : Signal → String
  | .start => "start"
  | .event (.reload ..) => "start_bulk"
  | .event (.reloadGroup ..) => "start_group_bulk"
  | .event (.block ..) => "start_block"
  | .event (.update ..) => "update"
  | .event (.remove ..) => "remove"
  | .finish => "finish"
  | .cancel => "cancel"

/-- The id that a call is about, if it is about one. -/
def Signal.id? : Signal → Option String
  | .event (.update _ _ entry) => some entry.id
  | .event (.remove _ id) => some id
  | _ => none

/-- A channel that keeps the calls it gets. -/
structure Probe where
  /-- How it ends calls of a name. -/
  faults : Keyed Fault := ∅
  /-- If there are any, the only ids at which it does so. -/
  ids : Names := ∅
  calls : List Signal := []

namespace Probe

def heard (p : Probe) (signal : Signal) : Probe := { p with calls := p.calls ++ [signal] }

/-- How the probe answers a call. -/
def answer (p : Probe) (signal : Signal) : Except Fault Unit :=
  match p.faults[signal.name]?, signal.id? with
  | none, _ => .ok ()
  | some fault, some id => if p.ids.isEmpty || p.ids.contains id then .error fault else .ok ()
  | some fault, none => .error fault

end Probe

/-- A message as a transport got it. -/
structure Sent where
  /-- Whether the transport was told that the payload is the whole content. -/
  whole : Bool
  entity : String
  payload : String
  deriving DecidableEq, Repr

/-- A transport that keeps what it is sent. -/
structure SenderProbe where
  /-- Why it refuses every message, if it does. -/
  failure : Option Failure := none
  /-- Whether it tells whole contents from changes. -/
  tellsWhole : Bool := false
  sent : List Sent := []

namespace SenderProbe

def given (p : SenderProbe) (message : Message) : SenderProbe :=
  { p with sent := p.sent ++ [⟨message.whole && p.tellsWhole, message.entity, message.payload⟩] }

end SenderProbe

/-- An observer that keeps what it is told. -/
structure ObserverProbe (ρ : Type) where
  /-- How it ends a call about updates. -/
  atUpdates : Except Fault Unit := .ok ()
  /-- How it ends a call about removals. -/
  atRemovals : Except Fault Unit := .ok ()
  calls : List (Observation ρ) := []

namespace ObserverProbe

variable {ρ : Type}

def told (p : ObserverProbe ρ) (observation : Observation ρ) : ObserverProbe ρ :=
  { p with calls := p.calls ++ [observation] }

/-- How the observer answers. -/
def answer (p : ObserverProbe ρ) : Observation ρ → Except Fault Unit
  | .updated _ => p.atUpdates
  | .removed _ => p.atRemovals

end ObserverProbe

end ReferenceFeed
