import ReferenceFeed.Membership
import ReferenceFeed.Proofs.Keyed

namespace ReferenceFeed

/-!
Both directions of a membership describe one assignment of groups to ids, and that assignment determines all of
it. An id that is inserted or removed changes the assignment at this id and nowhere else. So after any calls an
id has the groups that it was last inserted with, or none.
-/

namespace Membership

variable {members : Std.ExtTreeMap GroupValue Names} {key other : GroupValue} {id : String}

theorem mem_pairs {groups : Keyed String} {key : GroupValue} :
    key ∈ pairs groups ↔ groups[key.group]? = some key.value := by
  simp only [pairs, List.mem_map, Prod.exists, Std.ExtTreeMap.mem_toList_iff_getElem?_eq_some]
  constructor
  · rintro ⟨group, value, stored, rfl⟩
    exact stored
  · exact fun stored => ⟨key.group, key.value, stored, rfl⟩

/-- The ids that one direction has under a group value. -/
def holders (members : Std.ExtTreeMap GroupValue Names) (key : GroupValue) : Names := (members[key]?).getD ∅

/-- No group value is kept without members. -/
def Tidy (members : Std.ExtTreeMap GroupValue Names) : Prop :=
  ∀ (key : GroupValue) (ids : Names), members[key]? = some ids → ids.isEmpty = false

theorem mem_holders_join {joined : String} :
    id ∈ holders (join joined members key) other ↔ id ∈ holders members other ∨ id = joined ∧ other = key := by
  simp only [holders, join, Keyed.getElem?_insert]
  by_cases same : key = other
  · subst same
    simp only [if_true, Option.getD_some, Names.mem_insert]
    grind
  · simp only [if_neg same, Ne.symm same, and_false, or_false]

theorem mem_holders_leave {left : String} :
    id ∈ holders (leave left members key) other ↔ id ∈ holders members other ∧ ¬(id = left ∧ other = key) := by
  unfold leave
  split
  · next absent =>
    have nobody : other = key → id ∉ holders members other := by
      rintro rfl
      simp [holders, absent]
    grind
  · next ids present =>
    have erased : id ∈ ids.erase left ↔ id ≠ left ∧ id ∈ ids := Names.mem_erase
    by_cases same : other = key
    · subst same
      split
      · next gone =>
        rw [Std.ExtTreeSet.isEmpty_iff] at gone
        rw [gone] at erased
        simpa [holders, present, Keyed.getElem?_erase, and_comm] using erased
      · simpa [holders, present, Keyed.getElem?_insert, and_comm] using erased
    · split <;> simp [holders, Keyed.getElem?_erase, Keyed.getElem?_insert, same, Ne.symm same]

theorem Tidy.join (tidy : Tidy members) (id : String) (key : GroupValue) : Tidy (join id members key) := by
  intro other ids found
  rw [Membership.join, Keyed.getElem?_insert] at found
  split at found
  · cases found
    have member : id ∈ ((members[key]?).getD ∅).insert id := Names.mem_insert.2 (.inl rfl)
    rw [Bool.eq_false_iff]
    intro empty
    rw [Std.ExtTreeSet.isEmpty_iff] at empty
    rw [empty] at member
    exact Std.ExtTreeSet.not_mem_empty member
  · exact tidy other ids found

theorem Tidy.leave (tidy : Tidy members) (id : String) (key : GroupValue) : Tidy (leave id members key) := by
  intro other ids found
  unfold Membership.leave at found
  split at found
  · exact tidy other ids found
  · split at found
    · rw [Keyed.getElem?_erase] at found
      split at found
      · cases found
      · exact tidy other ids found
    · next kept =>
      rw [Keyed.getElem?_insert] at found
      split at found
      · cases found
        simpa using kept
      · exact tidy other ids found

theorem mem_holders_joinAll {keys : List GroupValue} {joined : String} :
    id ∈ holders (keys.foldl (join joined) members) other ↔ id ∈ holders members other ∨ id = joined ∧ other ∈ keys := by
  induction keys generalizing members with
  | nil => simp
  | cons key rest ih =>
    rw [List.foldl_cons, ih, mem_holders_join, List.mem_cons]
    grind

theorem mem_holders_leaveAll {keys : List GroupValue} {left : String} :
    id ∈ holders (keys.foldl (leave left) members) other ↔
      id ∈ holders members other ∧ ¬(id = left ∧ other ∈ keys) := by
  induction keys generalizing members with
  | nil => simp
  | cons key rest ih =>
    rw [List.foldl_cons, ih, mem_holders_leave, List.mem_cons]
    grind

theorem Tidy.joinAll (tidy : Tidy members) (id : String) (keys : List GroupValue) :
    Tidy (keys.foldl (Membership.join id) members) := by
  induction keys generalizing members with
  | nil => exact tidy
  | cons key rest ih => exact ih (tidy.join id key)

theorem Tidy.leaveAll (tidy : Tidy members) (id : String) (keys : List GroupValue) :
    Tidy (keys.foldl (Membership.leave id) members) := by
  induction keys generalizing members with
  | nil => exact tidy
  | cons key rest ih => exact ih (tidy.leave id key)

/-- An id with other groups than an assignment gives it. -/
def reassign (groups : String → Keyed String) (id : String) (new : Keyed String) : String → Keyed String :=
  fun other => if other = id then new else groups other

/-- Both directions describe the groups that are assigned to ids, and nothing empty is kept. -/
structure Indexes (m : Membership) (groups : String → Keyed String) : Prop where
  groupsOf : ∀ id, m.groupsOf[id]? = if (groups id).isEmpty then none else some (groups id)
  mem_of : ∀ key id, id ∈ m.of key ↔ (groups id)[key.group]? = some key.value
  tidy : Tidy m.members

variable {m n : Membership} {groups : String → Keyed String}

theorem indexes_empty : Indexes ∅ (fun _ => ∅) where
  groupsOf id := by rw [if_pos Std.ExtTreeMap.isEmpty_empty]; exact Std.ExtTreeMap.getElem?_empty
  mem_of key id := by
    constructor
    · exact fun member => absurd member Std.ExtTreeSet.not_mem_empty
    · intro found
      cases found.symm.trans Std.ExtTreeMap.getElem?_empty
  tidy key ids found := by cases found.symm.trans Std.ExtTreeMap.getElem?_empty

theorem Indexes.congr (indexes : m.Indexes groups) {other : String → Keyed String} (same : ∀ id, other id = groups id) :
    m.Indexes other := by
  have equal : other = groups := funext same
  rw [equal]
  exact indexes

theorem Indexes.remove (indexes : m.Indexes groups) (id : String) : (m.remove id).Indexes (reassign groups id ∅) := by
  have atId := indexes.groupsOf id
  unfold Membership.remove
  split
  · next absent =>
    -- An id that is in no group has nothing to be taken out of.
    have already : reassign groups id ∅ = groups := by
      funext other
      unfold reassign
      split
      · next same =>
        subst same
        rw [absent] at atId
        split at atId
        · next empty => exact (Std.ExtTreeMap.isEmpty_iff.1 empty).symm
        · cases atId
      · rfl
    rw [already]
    exact indexes
  · next held present =>
    have same : held = groups id := by
      rw [present] at atId
      split at atId
      · cases atId
      · exact Option.some.inj atId
    subst same
    refine ⟨fun other => ?_, fun key other => ?_, indexes.tidy.leaveAll id _⟩
    · rw [Keyed.getElem?_erase, indexes.groupsOf]
      by_cases same : other = id
      · simp [reassign, same]
      · simp [reassign, same, Ne.symm same]
    · have before := indexes.mem_of key other
      change other ∈ holders _ key ↔ _
      change other ∈ holders _ key ↔ _ at before
      rw [mem_holders_leaveAll, before, mem_pairs]
      by_cases same : other = id
      · subst same
        simp [reassign]
      · simp [reassign, same]

theorem Indexes.insert (indexes : m.Indexes groups) (id : String) (new : Keyed String) :
    (m.insert id new).Indexes (reassign groups id new) := by
  have removed := indexes.remove id
  unfold Membership.insert
  split
  · next empty =>
    rw [Std.ExtTreeMap.isEmpty_iff.1 empty]
    exact removed
  · next filled =>
    refine ⟨fun other => ?_, fun key other => ?_, removed.tidy.joinAll id _⟩
    · rw [Keyed.getElem?_insert, removed.groupsOf]
      by_cases same : other = id
      · subst same
        simp [reassign, filled]
      · simp [reassign, same, Ne.symm same]
    · have before := removed.mem_of key other
      change other ∈ holders _ key ↔ _
      change other ∈ holders _ key ↔ _ at before
      rw [mem_holders_joinAll, before, mem_pairs]
      by_cases same : other = id
      · subst same
        simp [reassign]
      · simp [reassign, same]

theorem Tidy.ext {left right : Std.ExtTreeMap GroupValue Names} (tidyLeft : Tidy left) (tidyRight : Tidy right)
    (same : ∀ key, holders left key = holders right key) : left = right := by
  refine Std.ExtTreeMap.ext_getElem? fun {key} => ?_
  have here := same key
  unfold holders at here
  rcases atLeft : left[key]? with _ | ids <;> rcases atRight : right[key]? with _ | others
  · rfl
  · have filled := tidyRight key others atRight
    rw [atLeft, atRight] at here
    rw [show others = ∅ from here.symm] at filled
    cases Std.ExtTreeSet.isEmpty_empty.symm.trans filled
  · have filled := tidyLeft key ids atLeft
    rw [atLeft, atRight] at here
    rw [show ids = ∅ from here] at filled
    cases Std.ExtTreeSet.isEmpty_empty.symm.trans filled
  · rw [atLeft, atRight] at here
    exact congrArg some here

/-- Two memberships of one assignment are equal. -/
theorem Indexes.unique (left : m.Indexes groups) (right : n.Indexes groups) : m = n := by
  have members : m.members = n.members := by
    refine left.tidy.ext right.tidy fun key => ?_
    refine Std.ExtTreeSet.ext_mem fun {id} => ?_
    exact (left.mem_of key id).trans (right.mem_of key id).symm
  have groupsOf : m.groupsOf = n.groupsOf := by
    refine Std.ExtTreeMap.ext_getElem? fun {id} => ?_
    rw [left.groupsOf, right.groupsOf]
  cases m
  cases n
  simp_all

end Membership

/-- A call that changes a membership. -/
inductive Enrolment where
  | insert (id : String) (groups : Keyed String)
  | remove (id : String)

namespace Enrolment

/-- Whom a call is about. -/
def id : Enrolment → String
  | .insert id _ | .remove id => id

/-- The groups that a call leaves an id with. -/
def groups : Enrolment → Keyed String
  | .insert _ groups => groups
  | .remove _ => ∅

end Enrolment

namespace Membership

/-- What a call makes of a membership. -/
def enrol (m : Membership) : Enrolment → Membership
  | .insert id groups => m.insert id groups
  | .remove id => m.remove id

def enrolAll (m : Membership) (calls : List Enrolment) : Membership := calls.foldl enrol m

variable {m : Membership} {groups : String → Keyed String}

theorem Indexes.enrol (indexes : m.Indexes groups) (call : Enrolment) :
    (m.enrol call).Indexes (reassign groups call.id call.groups) := by
  cases call with
  | insert id new => exact indexes.insert id new
  | remove id => exact indexes.remove id

/-- After some calls an id has the groups of the last call about it, or those it had before. -/
theorem Indexes.enrolAll (indexes : m.Indexes groups) (calls : List Enrolment) :
    (m.enrolAll calls).Indexes fun id => ((lastOf Enrolment.id calls id).map Enrolment.groups).getD (groups id) := by
  induction calls generalizing m groups with
  | nil => exact indexes
  | cons call rest ih =>
    refine (ih (indexes.enrol call)).congr fun id => ?_
    rw [lastOf_cons, reassign]
    by_cases here : call.id = id
    · subst here
      rcases lastOf Enrolment.id rest call.id with _ | last <;> simp
    · rcases lastOf Enrolment.id rest id with _ | last <;> simp [here, Ne.symm here]

/-- An id is assigned a group value just if the last call about it inserted it with this value. -/
theorem lastCall_assigns {calls : List Enrolment} {id group value : String} :
    (((lastOf Enrolment.id calls id).map Enrolment.groups).getD ∅)[group]? = some value ↔
      ∃ groups : Keyed String, lastOf Enrolment.id calls id = some (.insert id groups) ∧ groups[group]? = some value := by
  rcases last : lastOf Enrolment.id calls id with _ | _ | _
  · simp
  · obtain rfl := (lastOf_some last).2
    simp [Enrolment.id, Enrolment.groups]
  · simp [Enrolment.groups]

/-- Whatever was inserted and removed, with whichever groups and however often, a group value is held by the ids that were
last inserted with it and not removed since. Both directions tell the same of each id, group and value, and neither keeps
anything empty. -/
theorem enrolAll_exact (calls : List Enrolment) :
    (∀ group value id, id ∈ ((∅ : Membership).enrolAll calls).of ⟨group, value⟩ ↔
      ∃ groups : Keyed String, lastOf Enrolment.id calls id = some (.insert id groups) ∧ groups[group]? = some value) ∧
    (∀ group value id,
      (∃ ids : Names, ((∅ : Membership).enrolAll calls).members[(⟨group, value⟩ : GroupValue)]? = some ids ∧ id ∈ ids) ↔
        ∃ groups : Keyed String, ((∅ : Membership).enrolAll calls).groupsOf[id]? = some groups ∧ groups[group]? = some value) ∧
    (∀ (key : GroupValue) (ids : Names), ((∅ : Membership).enrolAll calls).members[key]? = some ids → ids ≠ ∅) ∧
    ∀ (id : String) (groups : Keyed String), ((∅ : Membership).enrolAll calls).groupsOf[id]? = some groups → groups ≠ ∅ := by
  have indexes := indexes_empty.enrolAll calls
  generalize (∅ : Membership).enrolAll calls = m at indexes ⊢
  have forward : ∀ (key : GroupValue) (id : String), (∃ ids : Names, m.members[key]? = some ids ∧ id ∈ ids) ↔ id ∈ m.of key := by
    intro key id
    rw [of]
    rcases m.members[key]? with _ | ids <;> simp
  refine ⟨fun group value id => (indexes.mem_of _ id).trans lastCall_assigns, fun group value id => ?_, fun key ids kept => ?_,
    fun id groups kept => ?_⟩
  · rw [forward, indexes.mem_of, indexes.groupsOf]
    split
    · next empty => simp [Std.ExtTreeMap.isEmpty_iff.1 empty]
    · simp
  · rintro rfl
    cases (indexes.tidy key ∅ kept).symm.trans Std.ExtTreeSet.isEmpty_empty
  · rw [indexes.groupsOf] at kept
    split at kept
    · cases kept
    · next filled =>
      cases Option.some.inj kept
      exact fun none => filled (Std.ExtTreeMap.isEmpty_iff.2 none)

end Membership

end ReferenceFeed
