import ReferenceFeed.Store
import ReferenceFeed.Proofs.Membership

namespace ReferenceFeed

/-!
What a store holds after a change, id by id. A store is sound while every entry sits under its own id and the
membership is that of the entries; no change ends that, so the entries alone decide what a sound store is.
-/

/-- Every entry of a map sits under its own id. -/
def OwnIds (entries : Keyed Entry) : Prop := ∀ (id : String) (entry : Entry), entries[id]? = some entry → entry.id = id

theorem OwnIds.empty : OwnIds ∅ := by
  intro id entry found
  rw [Std.ExtTreeMap.getElem?_empty] at found
  cases found

theorem OwnIds.insert {entries : Keyed Entry} (own : OwnIds entries) (entry : Entry) :
    OwnIds (entries.insert entry.id entry) := by
  intro id other found
  rw [Keyed.getElem?_insert] at found
  split at found
  · next same =>
    cases found
    exact same
  · exact own id other found

theorem OwnIds.erase {entries : Keyed Entry} (own : OwnIds entries) (gone : String) : OwnIds (entries.erase gone) := by
  intro id entry found
  rw [Keyed.getElem?_erase] at found
  split at found
  · cases found
  · exact own id entry found

theorem OwnIds.mem_ids {entries : Keyed Entry} (own : OwnIds entries) {id : String} :
    id ∈ entries.values.map Entry.id ↔ (entries[id]?).isSome := by
  rw [List.mem_map, Option.isSome_iff_exists]
  constructor
  · rintro ⟨entry, member, rfl⟩
    obtain ⟨key, found⟩ := Keyed.mem_values.1 member
    exact ⟨entry, own key entry found ▸ found⟩
  · rintro ⟨entry, found⟩
    exact ⟨entry, Keyed.mem_values.2 ⟨id, found⟩, own id entry found⟩

/-- What a map leaves under an id when it is gone through value by value. -/
theorem OwnIds.lastOf_values {entries : Keyed Entry} (own : OwnIds entries) (id : String) :
    lastOf Entry.id entries.values id = entries[id]? := by
  rcases found : entries[id]? with _ | entry
  · rw [lastOf_none, own.mem_ids, found]
    decide
  · rw [← own id entry found]
    exact lastOf_of_nodup (Keyed.nodup_values_map own) (Keyed.mem_values.2 ⟨id, found⟩)

namespace Store

@[simp] theorem putAll_entity (s : Store) (entries : List Entry) : (s.putAll entries).entity = s.entity := by
  induction entries generalizing s with
  | nil => rfl
  | cons entry rest ih => exact ih (s.put entry)

@[simp] theorem putAll_header (s : Store) (entries : List Entry) : (s.putAll entries).header = s.header := by
  induction entries generalizing s with
  | nil => rfl
  | cons entry rest ih => exact ih (s.put entry)

@[simp] theorem removeAll_entity (s : Store) (ids : Names) : (s.removeAll ids).entity = s.entity := by
  unfold removeAll
  induction ids.toList generalizing s with
  | nil => rfl
  | cons id rest ih => exact ih (s.remove id)

@[simp] theorem removeAll_header (s : Store) (ids : Names) : (s.removeAll ids).header = s.header := by
  unfold removeAll
  induction ids.toList generalizing s with
  | nil => rfl
  | cons id rest ih => exact ih (s.remove id)

/-- The entry that a list leaves under an id: its last one, if there is any. -/
theorem get?_putAll (s : Store) (entries : List Entry) (id : String) :
    (s.putAll entries).get? id = (lastOf Entry.id entries id).or (s.get? id) := by
  induction entries generalizing s with
  | nil => rfl
  | cons entry rest ih =>
    rw [putAll, List.foldl_cons, ← putAll, ih, get?_put, lastOf_cons, Option.or_assoc]
    congr 1
    split <;> rfl

theorem get?_putAll_of_nodup (s : Store) {entries : List Entry} (nodup : (entries.map Entry.id).Nodup) {entry : Entry}
    (member : entry ∈ entries) : (s.putAll entries).get? entry.id = some entry := by
  rw [get?_putAll, lastOf_of_nodup nodup member]
  rfl

/-- Entries that sit under their own ids hide those that were stored under the same ids. -/
theorem get?_putAll_values (s : Store) {entries : Keyed Entry} (own : OwnIds entries) (id : String) :
    (s.putAll entries.values).get? id = (entries[id]?).or (s.get? id) := by
  rw [get?_putAll, own.lastOf_values]

theorem get?_removeAll (s : Store) (ids : Names) (id : String) :
    (s.removeAll ids).get? id = if id ∈ ids then none else s.get? id := by
  have overList : ∀ (list : List String) (s : Store),
      (list.foldl remove s).get? id = if id ∈ list then none else s.get? id := by
    intro list
    induction list with
    | nil => simp
    | cons first rest ih =>
      intro s
      rw [List.foldl_cons, ih, get?_remove]
      by_cases same : first = id
      · simp [same]
      · simp [same, Ne.symm same]
  simp only [removeAll, overList, Std.ExtTreeSet.mem_toList]

theorem get?_apply (s : Store) {updates : Keyed Entry} (own : OwnIds updates) (removes : Names) (id : String) :
    (s.apply updates.values removes).get? id = if id ∈ removes then none else (updates[id]?).or (s.get? id) := by
  rw [apply, get?_removeAll, get?_putAll_values s own]

theorem mem_leaving (s : Store) (key : GroupValue) (entries : List Entry) (id : String) :
    id ∈ s.leaving key entries ↔ id ∈ s.membersOf key ∧ id ∉ entries.map Entry.id := by
  have overList : ∀ (list : List Entry) (names : Names),
      id ∈ list.foldl (fun gone entry => gone.erase entry.id) names ↔ id ∈ names ∧ id ∉ list.map Entry.id := by
    intro list
    induction list with
    | nil => simp
    | cons first rest ih =>
      intro names
      rw [List.foldl_cons, ih, Names.mem_erase, List.map_cons, List.mem_cons]
      grind
  exact overList entries _

/-- Who holds the group value gives way to the new entries, which also hide whatever had their ids. -/
theorem get?_replaceGroup (s : Store) (key : GroupValue) (entries : List Entry) (id : String) :
    (s.replaceGroup key entries).get? id =
      (lastOf Entry.id entries id).or (if id ∈ s.membersOf key then none else s.get? id) := by
  rw [replaceGroup, get?_putAll, get?_removeAll]
  rcases last : lastOf Entry.id entries id with _ | entry
  · simp [mem_leaving, lastOf_none.1 last]
  · rfl

@[simp] theorem replaceGroup_entity (s : Store) (key : GroupValue) (entries : List Entry) :
    (s.replaceGroup key entries).entity = s.entity := by
  rw [replaceGroup, putAll_entity, removeAll_entity]

@[simp] theorem replaceGroup_header (s : Store) (key : GroupValue) (entries : List Entry) :
    (s.replaceGroup key entries).header = s.header := by
  rw [replaceGroup, putAll_header, removeAll_header]

@[simp] theorem apply_entity (s : Store) (updates : List Entry) (removes : Names) :
    (s.apply updates removes).entity = s.entity := by
  rw [apply, removeAll_entity, putAll_entity]

@[simp] theorem apply_header (s : Store) (updates : List Entry) (removes : Names) :
    (s.apply updates removes).header = s.header := by
  rw [apply, removeAll_header, putAll_header]

/-- The groups that the stored entry of an id carries. -/
def groupsAt (s : Store) (id : String) : Keyed String := ((s.get? id).map Entry.groups).getD ∅

/-- Every entry sits under its own id, and the membership is that of the entries. -/
structure Sound (s : Store) : Prop where
  own : OwnIds s.entries
  indexed : s.membership.Indexes s.groupsAt

theorem sound_empty (entity : String) (header : Header) : (empty entity header).Sound where
  own := OwnIds.empty
  indexed := by
    have nothing : (empty entity header).groupsAt = fun _ => ∅ := by
      funext id
      rw [groupsAt, get?_empty]
      rfl
    rw [nothing]
    exact Membership.indexes_empty

variable {s t : Store}

theorem Sound.put (sound : s.Sound) (entry : Entry) : (s.put entry).Sound where
  own := sound.own.insert entry
  indexed := by
    have moved : (s.put entry).groupsAt = Membership.reassign s.groupsAt entry.id entry.groups := by
      funext id
      rw [groupsAt, get?_put, Membership.reassign]
      by_cases same : entry.id = id
      · rw [if_pos same, if_pos same.symm]
        rfl
      · rw [if_neg same, if_neg (Ne.symm same)]
        rfl
    rw [moved]
    exact sound.indexed.insert entry.id entry.groups

theorem Sound.remove (sound : s.Sound) (gone : String) : (s.remove gone).Sound where
  own := sound.own.erase gone
  indexed := by
    have moved : (s.remove gone).groupsAt = Membership.reassign s.groupsAt gone ∅ := by
      funext id
      rw [groupsAt, get?_remove, Membership.reassign]
      by_cases same : gone = id
      · rw [if_pos same, if_pos same.symm]
        rfl
      · rw [if_neg same, if_neg (Ne.symm same)]
        rfl
    rw [moved]
    exact sound.indexed.remove gone

theorem Sound.putAll (sound : s.Sound) (entries : List Entry) : (s.putAll entries).Sound := by
  induction entries generalizing s with
  | nil => exact sound
  | cons entry rest ih => exact ih (sound.put entry)

theorem Sound.removeAll (sound : s.Sound) (ids : Names) : (s.removeAll ids).Sound := by
  unfold Store.removeAll
  induction ids.toList generalizing s with
  | nil => exact sound
  | cons id rest ih => exact ih (sound.remove id)

theorem Sound.apply (sound : s.Sound) (updates : List Entry) (removes : Names) : (s.apply updates removes).Sound :=
  (sound.putAll updates).removeAll removes

theorem Sound.replaceGroup (sound : s.Sound) (key : GroupValue) (entries : List Entry) :
    (s.replaceGroup key entries).Sound :=
  (sound.removeAll _).putAll entries

/-- Who holds a group value is whose entry says so. -/
theorem Sound.mem_membersOf (sound : s.Sound) {key : GroupValue} {id : String} :
    id ∈ s.membersOf key ↔ ∃ entry, s.get? id = some entry ∧ entry.groups[key.group]? = some key.value := by
  rw [membersOf, sound.indexed.mem_of, groupsAt]
  rcases s.get? id with _ | entry
  · simp
  · simp

/-- Sound stores with the same entries are the same. -/
theorem Sound.ext (left : s.Sound) (right : t.Sound) (entity : s.entity = t.entity) (header : s.header = t.header)
    (entries : ∀ id, s.get? id = t.get? id) : s = t := by
  have sameEntries : s.entries = t.entries := Std.ExtTreeMap.ext_getElem? fun {id} => entries id
  have sameGroups : s.groupsAt = t.groupsAt := by
    funext id
    rw [groupsAt, groupsAt, entries]
  have membership : s.membership = t.membership := left.indexed.unique (sameGroups ▸ right.indexed)
  cases s
  cases t
  simp_all

end Store

end ReferenceFeed
