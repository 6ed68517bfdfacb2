import ReferenceFeed.Keyed

namespace ReferenceFeed

/-!
Which ids belong to which group values. Both directions are kept, so that an id can leave its groups without
a search; no set of members is kept once it is empty.
-/

/-- Members by group value, and group values by id. -/
structure Membership where
  members : Std.ExtTreeMap GroupValue Names := ∅
  groupsOf : Keyed (Keyed String) := ∅
  deriving DecidableEq

namespace Membership

instance : EmptyCollection Membership := ⟨{}⟩

/-- The group values that a map of groups stands for. -/
def pairs (groups : Keyed String) : List GroupValue := groups.toList.map fun (group, value) => ⟨group, value⟩

/-- The ids that hold a group value. -/
def of (m : Membership) (key : GroupValue) : Names := (m.members[key]?).getD ∅

/-- Makes an id a member. -/
def join (id : String) (members : Std.ExtTreeMap GroupValue Names) (key : GroupValue) :
    Std.ExtTreeMap GroupValue Names :=
  members.insert key (((members[key]?).getD ∅).insert id)

/-- Ends a membership, and forgets a group value that has no members left. -/
def leave (id : String) (members : Std.ExtTreeMap GroupValue Names) (key : GroupValue) :
    Std.ExtTreeMap GroupValue Names :=
  match members[key]? with
  | none => members
  | some ids => if (ids.erase id).isEmpty then members.erase key else members.insert key (ids.erase id)

/-- Forgets an id. -/
def remove (m : Membership) (id : String) : Membership :=
  match m.groupsOf[id]? with
  | none => m
  | some groups => ⟨(pairs groups).foldl (leave id) m.members, m.groupsOf.erase id⟩

/-- Records the groups of an id in place of the ones it had. -/
def insert (m : Membership) (id : String) (groups : Keyed String) : Membership :=
  let m := m.remove id
  if groups.isEmpty then m else ⟨(pairs groups).foldl (join id) m.members, m.groupsOf.insert id groups⟩

end Membership

end ReferenceFeed
