import ReferenceFeed.Proofs.Contents

namespace ReferenceFeed

/-!
A store that is edited call by call. Its entries and the members of its groups are kept side by side, and whatever is put, removed
or replaced they tell the same.
-/

/-- A call that changes a store. -/
inductive Edit where
  | put (entry : Entry)
  | remove (id : String)
  | apply (updates : List Entry) (removes : Names)
  | replaceGroup (key : GroupValue) (entries : List Entry)

namespace Store

variable {s : Store} {id : String} {entry : Entry} {key : GroupValue}

/-- What a call makes of a store. -/
def edit (s : Store) : Edit → Store
  | .put entry => s.put entry
  | .remove id => s.remove id
  | .apply updates removes => s.apply updates removes
  | .replaceGroup key entries => s.replaceGroup key entries

def editAll (s : Store) (edits : List Edit) : Store := edits.foldl edit s

theorem Sound.edit (sound : s.Sound) (edit : Edit) : (s.edit edit).Sound := by
  cases edit with
  | put entry => exact sound.put entry
  | remove id => exact sound.remove id
  | apply updates removes => exact sound.apply updates removes
  | replaceGroup key entries => exact sound.replaceGroup key entries

theorem Sound.editAll (sound : s.Sound) (edits : List Edit) : (s.editAll edits).Sound := by
  induction edits generalizing s with
  | nil => exact sound
  | cons edit rest ih => exact ih (sound.edit edit)

theorem Sound.all_ordered (sound : s.Sound) : s.all.Pairwise fun a b => compare a.id b.id = .lt := by
  rw [← List.pairwise_map (R := fun a b : String => compare a b = .lt), all, Keyed.map_values sound.own]
  exact Std.ExtTreeMap.ordered_keys

theorem Sound.mem_all (sound : s.Sound) : entry ∈ s.all ↔ s.get? entry.id = some entry := by
  rw [all, Keyed.mem_values]
  refine ⟨?_, fun stored => ⟨entry.id, stored⟩⟩
  rintro ⟨id, stored⟩
  rwa [← sound.own id entry stored] at stored

/-- A group value is replaced by the last entry for each id that is given, and by nothing for the others that hold it. -/
theorem Sound.replaced (sound : s.Sound) (key : GroupValue) (entries : List Entry) (id : String) :
    (s.replaceGroup key entries).get? id =
      (lastOf Entry.id entries id).or ((s.get? id).filter fun entry => entry.groups[key.group]? ≠ some key.value) := by
  have member : id ∈ s.membersOf key ↔ ∃ entry, s.get? id = some entry ∧ entry.groups[key.group]? = some key.value :=
    sound.mem_membersOf
  rw [get?_replaceGroup]
  congr 1
  rcases stored : s.get? id with _ | entry
  · exact ite_self none
  · by_cases holds : entry.groups[key.group]? = some key.value
    · rw [if_pos (member.2 ⟨entry, stored, holds⟩), Option.filter_some_neg (by simp [holds])]
    · have outside : id ∉ s.membersOf key := by
        intro inside
        obtain ⟨other, found, carries⟩ := member.1 inside
        cases stored.symm.trans found
        exact holds carries
      rw [if_neg outside, Option.filter_some_pos (by simp [holds])]

/-- What drops out of a group value is what the store had before and has no longer. -/
theorem Sound.mem_leaving_iff (sound : s.Sound) (key : GroupValue) (entries : List Entry) (id : String) :
    id ∈ s.leaving key entries ↔ (s.get? id).isSome ∧ (s.replaceGroup key entries).get? id = none := by
  rw [mem_leaving, sound.mem_membersOf, sound.replaced, Option.or_eq_none_iff, lastOf_none]
  rcases stored : s.get? id with _ | entry
  · simp
  · simp [and_comm]

/-- A store tells the same by its entries and by the members of its groups: each entry sits under its own id, all of them come in
the order of these, and a group value is held by the ids whose entries carry it. -/
structure Consistent (s : Store) : Prop where
  own : ∀ id entry, s.get? id = some entry → entry.id = id
  listed : ∀ entry, entry ∈ s.all ↔ s.get? entry.id = some entry
  ordered : s.all.Pairwise fun a b => compare a.id b.id = .lt
  members : ∀ group value id, id ∈ s.membersOf ⟨group, value⟩ ↔
    ∃ entry, s.get? id = some entry ∧ entry.groups[group]? = some value

/-- Whatever a store has been through, it is consistent. Replacing a group value next leaves the last entry that is given for an id,
and what is stored under the other ids and does not carry the value, and reports the ids that it removes. -/
theorem editAll_consistent (entity : String) (header : Header) (edits : List Edit) :
    ((empty entity header).editAll edits).Consistent ∧ ∀ (group value : String) (entries : List Entry) (id : String),
      ((((empty entity header).editAll edits).edit (.replaceGroup ⟨group, value⟩ entries)).get? id =
        (lastOf Entry.id entries id).or
          ((((empty entity header).editAll edits).get? id).filter fun entry => entry.groups[group]? ≠ some value)) ∧
      (id ∈ ((empty entity header).editAll edits).leaving ⟨group, value⟩ entries ↔
        (((empty entity header).editAll edits).get? id).isSome ∧
          (((empty entity header).editAll edits).edit (.replaceGroup ⟨group, value⟩ entries)).get? id = none) := by
  have sound := (sound_empty entity header).editAll edits
  refine ⟨⟨sound.own, fun entry => sound.mem_all, sound.all_ordered, fun group value id => sound.mem_membersOf⟩, ?_⟩
  intro group value entries id
  exact ⟨sound.replaced ⟨group, value⟩ entries id, sound.mem_leaving_iff ⟨group, value⟩ entries id⟩

end Store

end ReferenceFeed
