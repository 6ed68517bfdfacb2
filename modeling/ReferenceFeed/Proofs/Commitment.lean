import ReferenceFeed.Origin
import ReferenceFeed.Proofs.Staged

namespace ReferenceFeed

/-!
What a commit does, entity by entity. Every stage that a transaction can build can be applied, so a commit has no
failure of its own, and what it leaves of an entity is what the events of this entity say.
-/

namespace Stage

/-- What a stage needs of the store that is live. -/
def Supported (store : Option Store) : Stage → Prop
  | .whole _ _ => True
  | .group _ _ _ | .sparse _ _ => store.isSome = true

/-- What a stage makes of the store that is live while it is applied. -/
def kept (store : Option Store) : Stage → Option Store
  | .whole _ _ => store
  | .group key entries _ => store.map (·.replaceGroup key entries.values)
  | .sparse updates removes => store.map (·.apply updates.values removes)

/-- What is live after a stage was committed. -/
def settled (store : Option Store) : Stage → Option Store
  | .whole scratch _ => some scratch
  | .group key entries _ => store.map (·.replaceGroup key entries.values)
  | .sparse updates removes => store.map (·.apply updates.values removes)

/-- The stores that a stage makes live at the end. -/
def swaps : Stage → List Store
  | .whole scratch _ => [scratch]
  | .group _ _ _ | .sparse _ _ => []

/-- The messages about a stage: at most one. -/
def messages (store : Option Store) (entity : String) : Stage → List Message
  | .whole scratch _ => [⟨entity, scratch.render, true⟩]
  | .group key entries _ => (store.map fun store => (Prepared.announce entity
      (store.replaceGroup key entries.values) (Keyed.names entries) (store.leaving key entries.values)).messages).getD []
  | .sparse updates removes => (store.map fun store => (Prepared.announce entity
      (store.apply updates.values removes) (Keyed.names updates) (removes.filter store.contains)).messages).getD []

variable {live : Keyed Store} {entity : String} {stage : Stage}

theorem commit_ok (supported : stage.Supported live[entity]?) :
    ∃ next, stage.commit live entity = .ok (next, ⟨stage.swaps, stage.messages live[entity]? entity⟩) ∧
      ∀ other, next[other]? = if entity = other then stage.kept live[entity]? else live[other]? := by
  have announced : ∀ store updated removed,
      Prepared.announce entity store updated removed = ⟨[], (Prepared.announce entity store updated removed).messages⟩ := by
    intro store updated removed
    unfold Prepared.announce
    split <;> rfl
  rcases stage with ⟨scratch, begun⟩ | ⟨key, entries, begun⟩ | ⟨updates, removes⟩
  · refine ⟨live, rfl, fun other => ?_⟩
    by_cases same : entity = other
    · subst same
      rw [if_pos rfl]
      rfl
    · rw [if_neg same]
  · obtain ⟨store, found⟩ := Option.isSome_iff_exists.1 supported
    refine ⟨live.insert entity (store.replaceGroup key entries.values), ?_, fun other => ?_⟩
    · simp only [commit, liveStore, found, messages, swaps, Option.map_some, Option.getD_some]
      exact congrArg (fun prepared => Except.ok (_, prepared)) (announced _ _ _)
    · rw [Keyed.getElem?_insert, found]
      rfl
  · obtain ⟨store, found⟩ := Option.isSome_iff_exists.1 supported
    refine ⟨live.insert entity (store.apply updates.values removes), ?_, fun other => ?_⟩
    · simp only [commit, liveStore, found, messages, swaps, Option.map_some, Option.getD_some]
      exact congrArg (fun prepared => Except.ok (_, prepared)) (announced _ _ _)
    · rw [Keyed.getElem?_insert, found]
      rfl

end Stage

namespace Stages

/-- Stages of different entities do not get in each other's way, and none of them can fail. -/
theorem commit_ok {live : Keyed Store} {list : List (String × Stage)} (distinct : (list.map Prod.fst).Nodup)
    (supported : ∀ pair ∈ list, pair.2.Supported live[pair.1]?) :
    ∃ next, Stages.commit live list =
        (next, .ok ⟨list.flatMap (·.2.swaps), list.flatMap fun pair => pair.2.messages live[pair.1]? pair.1⟩) ∧
      (∀ entity, entity ∉ list.map Prod.fst → next[entity]? = live[entity]?) ∧
      ∀ pair ∈ list, next[pair.1]? = pair.2.kept live[pair.1]? := by
  induction list generalizing live with
  | nil => exact ⟨live, rfl, fun _ _ => rfl, List.forall_mem_nil _⟩
  | cons first rest ih =>
    obtain ⟨entity, stage⟩ := first
    rw [List.map_cons, List.nodup_cons] at distinct
    obtain ⟨middle, goes, stores⟩ := Stage.commit_ok (supported (entity, stage) List.mem_cons_self)
    -- The induction goes on from the stores that the first stage leaves, which are the same for the other stages.
    have untouched : ∀ pair ∈ rest, middle[pair.1]? = live[pair.1]? := by
      intro pair member
      have other : entity ≠ pair.1 := fun same => distinct.1 (List.mem_map.2 ⟨pair, member, same.symm⟩)
      rw [stores, if_neg other]
    obtain ⟨next, follows, outside, inside⟩ := ih distinct.2 fun pair member => by
      rw [untouched pair member]
      exact supported pair (List.mem_cons_of_mem _ member)
    have told : (rest.flatMap fun pair => pair.2.messages middle[pair.1]? pair.1) =
        rest.flatMap fun pair => pair.2.messages live[pair.1]? pair.1 := by
      rw [List.flatMap_def, List.flatMap_def]
      exact congrArg List.flatten (List.map_congr_left fun pair member => by rw [untouched pair member])
    refine ⟨next, ?_, ?_, ?_⟩
    · simp only [Stages.commit, goes, follows, told]
      rfl
    · intro other absent
      rw [List.map_cons, List.mem_cons, not_or] at absent
      rw [outside other absent.2, stores, if_neg (Ne.symm absent.1)]
    · intro pair member
      rcases List.mem_cons.1 member with rfl | later
      · rw [outside _ distinct.1, stores, if_pos rfl]
      · rw [inside pair later, untouched pair later]

end Stages

/-- The last store of an entity among some that are made live. -/
theorem getElem?_swapped (live : Keyed Store) (swaps : List Store) (entity : String) :
    (swaps.foldl (fun live store => live.insert store.entity store) live)[entity]? =
      (lastOf Store.entity swaps entity).or live[entity]? := by
  induction swaps generalizing live with
  | nil => rfl
  | cons store rest ih =>
    rw [List.foldl_cons, ih, Keyed.getElem?_insert, lastOf_cons, Option.or_assoc]
    congr 1
    split <;> rfl

theorem Stage.Reflects.supported {live : Keyed Store} {entity : String} {events : List Event} {stage : Stage}
    (reflects : Stage.Reflects live entity events (some stage)) : stage.Supported live[entity]? := by
  cases reflects with
  | whole => trivial
  | group alive => exact Option.isSome_iff_exists.2 ⟨_, alive⟩
  | sparse alive => exact Option.isSome_iff_exists.2 ⟨_, alive⟩

/-- What is live under an entity after some stages were committed. -/
def Stages.settled (live : Keyed Store) (stages : Stages) (entity : String) : Option Store :=
  match stages[entity]? with
  | none => live[entity]?
  | some stage => stage.settled live[entity]?

/-- The messages about some stages, in the order of their entities. -/
def Stages.messages (live : Keyed Store) (stages : Stages) : List Message :=
  stages.toList.flatMap fun pair => pair.2.messages live[pair.1]? pair.1

/-- The store that a stage makes live at the end, if it is one of the whole content. -/
def Stage.swap? : Stage → Option Store
  | .whole scratch _ => some scratch
  | .group _ _ _ | .sparse _ _ => none

theorem Stage.mem_swaps {stage : Stage} {store : Store} : store ∈ stage.swaps ↔ stage.swap? = some store := by
  rcases stage with ⟨scratch, begun⟩ | ⟨key, entries, begun⟩ | ⟨updates, removes⟩
  · simp [Stage.swaps, Stage.swap?, eq_comm]
  · simp [Stage.swaps, Stage.swap?]
  · simp [Stage.swaps, Stage.swap?]

theorem Stage.Reflects.swap_entity {live : Keyed Store} {entity : String} {events : List Event} {stage : Stage}
    {store : Store} (reflects : Stage.Reflects live entity events (some stage)) (swap : stage.swap? = some store) :
    store.entity = entity := by
  cases reflects with
  | whole named =>
    cases swap
    exact named
  | group => cases swap
  | sparse => cases swap

theorem Stages.mem_toList {stages : Stages} {entity : String} {stage : Stage} :
    (entity, stage) ∈ stages.toList ↔ stages[entity]? = some stage := Std.ExtTreeMap.mem_toList_iff_getElem?_eq_some

/-- The store that is made live under an entity is the one its own stage has built. -/
theorem Stages.Reflect.find_swap {live : Keyed Store} {stages : Stages} {taken : List Event}
    (reflect : Stages.Reflect live stages taken) (entity : String) :
    lastOf Store.entity (stages.toList.flatMap (·.2.swaps)) entity = (stages[entity]?).bind Stage.swap? := by
  -- A stage builds a store of its own entity, so no two stages build stores with one name.
  have owner : ∀ store, store ∈ stages.toList.flatMap (·.2.swaps) ↔
      ∃ stage, stages[store.entity]? = some stage ∧ stage.swap? = some store := by
    intro store
    rw [List.mem_flatMap]
    constructor
    · rintro ⟨⟨name, stage⟩, inStages, swapped⟩
      have swap := Stage.mem_swaps.1 swapped
      have reflects := reflect name
      rw [Stages.mem_toList.1 inStages] at reflects
      rw [reflects.swap_entity swap]
      exact ⟨stage, Stages.mem_toList.1 inStages, swap⟩
    · rintro ⟨stage, found, swap⟩
      exact ⟨(store.entity, stage), Stages.mem_toList.2 found, Stage.mem_swaps.2 swap⟩
  rcases found : lastOf Store.entity (stages.toList.flatMap (·.2.swaps)) entity with _ | store
  · rw [found]
    rcases atEntity : stages[entity]? with _ | stage
    · rfl
    · rcases swap : stage.swap? with _ | store
      · exact swap.symm
      · have reflects := reflect entity
        rw [atEntity] at reflects
        have here := reflects.swap_entity swap
        have swapped := (owner store).2 ⟨stage, here ▸ atEntity, swap⟩
        exact absurd (here ▸ List.mem_map_of_mem swapped) (lastOf_none.1 found)
  · obtain ⟨swapped, rfl⟩ := lastOf_some found
    obtain ⟨stage, atEntity, swap⟩ := (owner store).1 swapped
    rw [found, atEntity]
    exact swap.symm

theorem Stage.settled_eq (store : Option Store) (stage : Stage) :
    stage.settled store = stage.swap?.or (stage.kept store) := by
  cases stage <;> rfl

/-- Whatever stages a transaction can build, they can be committed. -/
theorem Stages.Reflect.commit {live : Keyed Store} {stages : Stages} {taken : List Event}
    (reflect : Stages.Reflect live stages taken) :
    ∃ next prepared, Stages.commit live stages.toList = (next, .ok prepared) ∧
      prepared.messages = stages.messages live ∧
      ∀ entity, (prepared.swaps.foldl (fun live store => live.insert store.entity store) next)[entity]? =
        stages.settled live entity := by
  have distinct := Keyed.nodup_toList stages
  have supported : ∀ pair ∈ stages.toList, pair.2.Supported live[pair.1]? := by
    rintro ⟨entity, stage⟩ member
    have reflects := reflect entity
    rw [Stages.mem_toList.1 member] at reflects
    exact reflects.supported
  obtain ⟨next, commits, outside, inside⟩ := Stages.commit_ok distinct supported
  refine ⟨next, _, commits, rfl, fun entity => ?_⟩
  rw [getElem?_swapped, reflect.find_swap, Stages.settled]
  rcases atEntity : stages[entity]? with _ | stage
  · refine outside entity fun member => ?_
    obtain ⟨⟨name, stage⟩, inStages, rfl⟩ := List.mem_map.1 member
    rw [Stages.mem_toList.1 inStages] at atEntity
    cases atEntity
  · rw [inside _ (Stages.mem_toList.2 atEntity)]
    exact (Stage.settled_eq _ _).symm

/-- What has not begun is an entity of which only the marker was taken in. -/
theorem Stages.Reflect.unbegun {live : Keyed Store} {stages : Stages} {taken : List Event}
    (reflect : Stages.Reflect live stages taken) {entity : String} (unbegun : stages.unbegun? = some entity) :
    ∃ marker, marker.isMarker = true ∧ concerning entity taken = [marker] := by
  obtain ⟨⟨name, stage⟩, found, rfl⟩ := Option.map_eq_some_iff.1 unbegun
  have waits : stage.begun = false := by simpa using List.find?_some found
  have reflects := reflect name
  rw [Stages.mem_toList.1 (List.mem_of_find?_eq_some found)] at reflects
  generalize concerning name taken = events at reflects
  cases reflects with
  | @whole _ _ _ rest _ _ _ _ flag =>
    have alone : rest = [] := by simpa [Stage.begun, flag] using waits
    exact ⟨_, rfl, by rw [alone]⟩
  | @group _ _ _ rest _ _ _ _ flag =>
    have alone : rest = [] := by simpa [Stage.begun, flag] using waits
    exact ⟨_, rfl, by rw [alone]⟩
  | sparse => cases waits

/-- What the events of an entity make of its store, if they are committed. A reload starts from nothing under its
own columns; a group reload drops who holds the group value; anything else goes on from what there was. -/
def Settles (before after : Option Store) : List Event → Prop
  | [] => after = before
  | .reload entity header :: rest =>
    ∃ new, after = some new ∧ new.entity = entity ∧ new.header = header ∧ new.entries = amendAll ∅ rest
  | .reloadGroup _ group value :: rest =>
    ∃ old new, before = some old ∧ after = some new ∧ new.entity = old.entity ∧ new.header = old.header ∧
      ∀ id, new.get? id = ((amendAll ∅ rest)[id]?).or
        ((old.get? id).filter fun entry => entry.groups[group]? ≠ some value)
  | .block _ header :: rest =>
    ∃ old new, before = some old ∧ after = some new ∧ new.entity = old.entity ∧ new.header = old.header ∧
      header = old.header ∧ new.entries = amendAll old.entries rest
  | .update _ _ _ :: _ | .remove _ _ :: _ => False

/-- The stage of an entity does what its events say. -/
theorem Stages.Reflect.settles {live : Keyed Store} {stages : Stages} {taken : List Event}
    (reflect : Stages.Reflect live stages taken) {entity : String}
    (sound : ∀ store, live[entity]? = some store → store.Sound) :
    Settles live[entity]? (stages.settled live entity) (concerning entity taken) := by
  have reflects := reflect entity
  rw [Stages.settled]
  generalize stages[entity]? = stage at reflects
  generalize concerning entity taken = events at reflects
  cases reflects with
  | untouched => rfl
  | whole named columns _ entries => exact ⟨_, rfl, named, columns, entries⟩
  | @group key entries begun rest store alive folded =>
    rw [alive]
    refine ⟨store, _, rfl, rfl, Store.replaceGroup_entity .., Store.replaceGroup_header .., fun id => ?_⟩
    -- A group reload removes what is in the group and puts the new entries, so an id it brings is found either way.
    have own : OwnIds entries := folded ▸ OwnIds.empty.amendAll rest
    rw [Store.get?_replaceGroup, own.lastOf_values, folded]
    congr 1
    have member : id ∈ store.membersOf key ↔ ∃ entry, store.get? id = some entry ∧ entry.groups[key.group]? = some key.value :=
      (sound store alive).mem_membersOf
    rcases found : store.get? id with _ | entry
    · simp
    · by_cases held : entry.groups[key.group]? = some key.value
      · simp [member, found, held, Option.filter]
      · simp [member, found, held, Option.filter]
  | @sparse updates removes rest store alive own apart words =>
    rw [alive]
    refine ⟨store, _, rfl, rfl, Store.apply_entity .., Store.apply_header .., rfl, ?_⟩
    refine Std.ExtTreeMap.ext_getElem? fun {id} => ?_
    rw [getElem?_amendAll, words]
    refine (Store.get?_apply store own removes id).trans ?_
    split
    · rfl
    · rcases updates[id]? with _ | entry <;> rfl

end ReferenceFeed
