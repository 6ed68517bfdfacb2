import ReferenceFeed.Failure

namespace ReferenceFeed

/-!
Settings of the two tiers, with the values they have when nothing is said.
-/

/-- How far rows asserted by a transport are believed. -/
inductive UpdatePolicy where
  /-- The rows are taken as they are. -/
  | trusted
  /-- Only the ids are taken, and their rows are fetched again. -/
  | untrusted
  /-- As untrusted, with a warning for every row that the origin contradicts. -/
  | reconcile
  deriving DecidableEq, Repr

/-- The written name of a policy. -/
def UpdatePolicy.name : UpdatePolicy → String
  | .trusted => "trusted"
  | .untrusted => "untrusted"
  | .reconcile => "reconcile"

/-- The policy of a name. -/
def UpdatePolicy.ofName? (name : String) : Option UpdatePolicy :=
  [UpdatePolicy.trusted, .untrusted, .reconcile].find? fun policy => policy.name = name

/-- Settings of an origin. -/
structure OriginSettings where
  /-- The groups by which each entity may be reloaded in part. -/
  groups : Keyed (List String) := ∅
  policy : UpdatePolicy := .trusted
  /-- How many messages a queue to a transport holds. -/
  queueCapacity : Nat := 1024
  deriving DecidableEq

namespace OriginSettings

/-- Declares one more group of an entity. -/
def withGroup (s : OriginSettings) (entity group : String) : OriginSettings :=
  { s with groups := s.groups.insert entity ((s.groups[entity]?).getD [] ++ [group]) }

/-- The groups declared for an entity. -/
def groupsOf (s : OriginSettings) (entity : String) : List String := (s.groups[entity]?).getD []

def declares (s : OriginSettings) (entity group : String) : Bool := (s.groupsOf entity).contains group

/-- Settings that can be used: queues hold something, and groups have names. -/
def checked (s : OriginSettings) : Except SettingsFault OriginSettings :=
  if s.queueCapacity = 0 then .error .emptyQueue
  else match s.groups.toList.find? fun (_, groups) => groups.contains "" with
    | some (entity, _) => .error (.emptyGroup entity)
    | none => .ok s

end OriginSettings

/-- Settings of a replica. -/
structure ReplicaSettings where
  entity : String := ""
  /-- How long the first load is waited for, in milliseconds. -/
  loadTimeout : Nat := 30000
  deriving DecidableEq, Repr

/-- Settings that can be used: a replica holds an entity. -/
def ReplicaSettings.checked (s : ReplicaSettings) : Except SettingsFault ReplicaSettings :=
  if s.entity.isEmpty then .error .noEntity else .ok s

end ReferenceFeed
