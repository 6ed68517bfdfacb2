import ReferenceFeed.Proofs.Attached
import ReferenceFeed.Proofs.Payload

namespace ReferenceFeed

/-!
What a payload says of a store. One of the whole content makes the store out of nothing; one of a commit revises the
store that was live before. Groups are left behind either way.
-/

namespace Store

variable {store old new : Store} {updated removed : Names} {id : String}

/-- A store as it travels, without groups. -/
def bare (store : Store) : Store := { store with entries := store.entries.map fun _ entry => entry.bare, membership := ∅ }

theorem get?_bare (store : Store) (id : String) : store.bare.get? id = (store.get? id).map Entry.bare := by
  rw [bare, get?, Std.ExtTreeMap.getElem?_map]
  rfl

theorem all_bare (store : Store) : store.bare.all = store.all.map Entry.bare := by
  rw [all, all, Keyed.values_eq_map, Keyed.values_eq_map, bare, Std.ExtTreeMap.toList_map, List.map_map, List.map_map]
  rfl

theorem subset_bare (store : Store) (ids : Names) : store.bare.subset ids = (store.subset ids).map Entry.bare := by
  rw [subset, subset, List.map_filterMap]
  exact congrArg (List.filterMap · ids.toList) (funext store.get?_bare)

theorem Sound.bare (sound : store.Sound) : store.bare.Sound where
  own := by
    intro id entry found
    have travels : store.bare.get? id = some entry := found
    rw [get?_bare] at travels
    obtain ⟨old, there, rfl⟩ := Option.map_eq_some_iff.1 travels
    exact sound.own id old there
  indexed := by
    refine Membership.indexes_empty.congr fun id => ?_
    rw [groupsAt, get?_bare]
    rcases store.get? id <;> rfl

theorem mem_subset (own : OwnIds store.entries) {ids : Names} {entry : Entry} :
    entry ∈ store.subset ids ↔ entry.id ∈ ids ∧ store.get? entry.id = some entry := by
  rw [subset, List.mem_filterMap]
  constructor
  · rintro ⟨id, inside, found⟩
    have here : entry.id = id := own id entry found
    rw [here]
    exact ⟨Std.ExtTreeSet.mem_toList.1 inside, found⟩
  · rintro ⟨inside, found⟩
    exact ⟨entry.id, Std.ExtTreeSet.mem_toList.2 inside, found⟩

/-- Of an id that is asked for, a subset has the entry that is stored. -/
theorem lastOf_subset (own : OwnIds store.entries) (ids : Names) (id : String) :
    lastOf Entry.id (store.subset ids) id = if id ∈ ids then store.get? id else none := by
  rcases found : lastOf Entry.id (store.subset ids) id with _ | entry
  · have absent := lastOf_none.1 found
    split
    · next asked =>
      rcases there : store.get? id with _ | entry
      · rfl
      · have here : entry.id = id := own id entry there
        subst here
        exact absurd (List.mem_map_of_mem ((mem_subset own).2 ⟨asked, there⟩)) absent
    · rfl
  · obtain ⟨inside, rfl⟩ := lastOf_some found
    obtain ⟨asked, there⟩ := (mem_subset own).1 inside
    rw [if_pos asked, there]

/-- Two stores that differ by what is updated and what is removed. -/
structure Revised (old new : Store) (updated removed : Names) : Prop where
  columns : new.header = old.header
  gone : ∀ id ∈ removed, new.get? id = none
  present : ∀ id ∈ updated, (new.get? id).isSome = true
  kept : ∀ id, id ∉ updated → id ∉ removed → new.get? id = old.get? id

theorem Revised.bare (revised : old.Revised new updated removed) : old.bare.Revised new.bare updated removed where
  columns := revised.columns
  gone id member := by
    rw [get?_bare, revised.gone id member]
    rfl
  present id member := by
    rw [get?_bare, Option.isSome_map]
    exact revised.present id member
  kept id unchanged stays := by rw [get?_bare, get?_bare, revised.kept id unchanged stays]

/-- The updated entries and the removed ids are all it takes. -/
theorem Revised.get?_apply_subset (revised : old.Revised new updated removed) (own : OwnIds new.entries) (id : String) :
    (old.apply (new.subset updated) removed).get? id = new.get? id := by
  rw [apply, get?_removeAll, get?_putAll, lastOf_subset own]
  by_cases gone : id ∈ removed
  · rw [if_pos gone, revised.gone id gone]
  · rw [if_neg gone]
    by_cases changed : id ∈ updated
    · obtain ⟨entry, there⟩ := Option.isSome_iff_exists.1 (revised.present id changed)
      rw [if_pos changed, there, Option.some_or]
    · rw [if_neg changed, Option.none_or, revised.kept id changed gone]

theorem entries_removeAll (store : Store) (entity : String) (ids : Names) :
    (store.removeAll ids).entries = amendAll store.entries (ids.toList.map (.remove entity ·)) := by
  unfold removeAll
  induction ids.toList generalizing store with
  | nil => rfl
  | cons id rest ih => exact ih (store.remove id)

theorem entries_apply (store : Store) (entity : String) (header : Header) (entries : List Entry) (ids : Names) :
    (store.apply entries ids).entries =
      amendAll store.entries (entries.map (.update entity header ·) ++ ids.toList.map (.remove entity ·)) := by
  have both : amendAll store.entries (entries.map (.update entity header ·) ++ ids.toList.map (.remove entity ·)) =
      amendAll (amendAll store.entries (entries.map (.update entity header ·))) (ids.toList.map (.remove entity ·)) :=
    List.foldl_append
  rw [both, apply, entries_removeAll _ entity, entries_putAll _ entity header]

/-- A sparse transaction revises a store. -/
theorem Revised.settles (revised : old.Revised new updated removed) (own : OwnIds new.entries) (same : new.entity = old.entity)
    (entity : String) : Settles (some old) (some new) (.block entity new.header ::
      ((new.subset updated).map (.update entity new.header ·) ++ removed.toList.map (.remove entity ·))) := by
  refine ⟨old, new, rfl, rfl, same, revised.columns, revised.columns, ?_⟩
  rw [← entries_apply]
  exact Std.ExtTreeMap.ext_getElem? fun {id} => (revised.get?_apply_subset own id).symm

/-- A group that is replaced is a revision. -/
theorem revised_replaceGroup (old : Store) (key : GroupValue) {entries : Keyed Entry} (own : OwnIds entries) :
    old.Revised (old.replaceGroup key entries.values) (Keyed.names entries) (old.leaving key entries.values) where
  columns := replaceGroup_header ..
  gone id member := by
    obtain ⟨inside, absent⟩ := (mem_leaving old key entries.values id).1 member
    rw [own.mem_ids, Bool.not_eq_true, Option.isSome_eq_false_iff, Option.isNone_iff_eq_none] at absent
    rw [get?_replaceGroup, own.lastOf_values, absent, if_pos inside]
    rfl
  present id member := by
    obtain ⟨entry, found⟩ := Option.isSome_iff_exists.1 (Keyed.mem_names.1 member)
    rw [get?_replaceGroup, own.lastOf_values, found]
    rfl
  kept id unchanged stays := by
    have absent : entries[id]? = none := by
      rw [Keyed.mem_names, Bool.not_eq_true, Option.isSome_eq_false_iff, Option.isNone_iff_eq_none] at unchanged
      exact unchanged
    have outside : id ∉ old.membersOf key := by
      intro inside
      refine stays ((mem_leaving old key entries.values id).2 ⟨inside, ?_⟩)
      rw [own.mem_ids, absent]
      decide
    rw [get?_replaceGroup, own.lastOf_values, absent, if_neg outside]
    rfl

/-- Single changes are a revision. What is removed without having been there is not mentioned. -/
theorem revised_apply (old : Store) {updates : Keyed Entry} (own : OwnIds updates) {removes : Names}
    (apart : ∀ id ∈ removes, updates[id]? = none) :
    old.Revised (old.apply updates.values removes) (Keyed.names updates) (removes.filter old.contains) where
  columns := apply_header ..
  gone id member := by
    have inside : id ∈ removes := Std.ExtTreeSet.mem_of_mem_filter member
    rw [get?_apply old own, if_pos inside]
  present id member := by
    obtain ⟨entry, found⟩ := Option.isSome_iff_exists.1 (Keyed.mem_names.1 member)
    have stays : id ∉ removes := by
      intro inside
      rw [apart id inside] at found
      cases found
    rw [get?_apply old own, if_neg stays, found]
    rfl
  kept id unchanged stays := by
    have absent : updates[id]? = none := by
      rw [Keyed.mem_names, Bool.not_eq_true, Option.isSome_eq_false_iff, Option.isNone_iff_eq_none] at unchanged
      exact unchanged
    rw [get?_apply old own, absent, Option.none_or]
    by_cases inside : id ∈ removes
    · rw [if_pos inside]
      rcases there : old.get? id with _ | entry
      · rfl
      · have held : old.contains id = true := Keyed.contains_iff.2 ⟨entry, there⟩
        exact absurd (Std.ExtTreeSet.mem_filter.2 ⟨inside, by simpa using held⟩) stays
    · rw [if_neg inside]

end Store

end ReferenceFeed
