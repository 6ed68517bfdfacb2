import Std.Data.ExtTreeMap
import Std.Data.ExtTreeSet

namespace ReferenceFeed

/-!
Finite maps and sets keyed by text. Both are kept in the order of code points, and two of them with the same
members are equal, so that "holds the same" is an equation.
-/

/-- A map from texts to values. -/
abbrev Keyed (α : Type) := Std.ExtTreeMap String α

/-- A set of texts. -/
abbrev Names := Std.ExtTreeSet String

/-- One value of one group: what a group reload replaces and what an entry belongs to. -/
structure GroupValue where
  group : String
  value : String
  deriving DecidableEq, Repr

/-- Group values are ordered by group, then by value. -/
instance : Ord GroupValue := ⟨compareLex (compareOn GroupValue.group) (compareOn GroupValue.value)⟩

instance : Std.TransOrd GroupValue :=
  inferInstanceAs (Std.TransCmp (compareLex (compareOn GroupValue.group) (compareOn GroupValue.value)))

instance : Std.LawfulEqOrd GroupValue where
  eq_of_compare {a b} same := by
    have parts : compare a.group b.group = .eq ∧ compare a.value b.value = .eq := by
      simpa only [compare, compareLex, compareOn, Ordering.then_eq_eq] using same
    have group := Std.LawfulEqOrd.eq_of_compare parts.1
    have value := Std.LawfulEqOrd.eq_of_compare parts.2
    cases a; cases b; simp_all

/-- The names of a list, in order and without repeats. -/
def Names.ofList (names : List String) : Names := Std.ExtTreeSet.ofList names

/-- The keys of a map as a set. -/
def Keyed.names {α : Type} (map : Keyed α) : Names := Std.ExtTreeSet.ofList map.keys

end ReferenceFeed
