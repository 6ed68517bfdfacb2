import ReferenceFeed.Delta
import ReferenceFeed.Proofs.Intake

namespace ReferenceFeed

/-!
What a fetch of some ids makes of a store. Each of them gets the row that was found for it, or none; what is announced are
those whose row is another one now, and those that had one and have none.
-/

namespace Entry

theorem Filled.ids {entries filled : List Entry} (completed : List.Forall₂ Entry.Filled entries filled) :
    filled.map Entry.id = entries.map Entry.id := by
  induction completed with
  | nil => rfl
  | cons same _ ih => rw [List.map_cons, List.map_cons, ih, same.id]

/-- Groups that are filled in make no difference to the last row of an id. -/
theorem Filled.last_row (completed : List.Forall₂ Entry.Filled entries filled) (id : String) :
    (lastOf Entry.id filled id).map Entry.row = (lastOf Entry.id entries id).map Entry.row := by
  rw [lastOf, lastOf]
  have reversed := List.rel_reverse completed
  generalize entries.reverse = entries, filled.reverse = filled at reversed
  induction reversed with
  | nil => rfl
  | @cons entry last _ _ same _ ih =>
    rw [List.find?_cons, List.find?_cons, same.id]
    by_cases here : entry.id = id
    · simp [here, same.row]
    · simpa [here] using ih

end Entry

namespace Store

/-- The row that is stored under an id. -/
def row? (store : Store) (id : String) : Option String := (store.get? id).map Entry.row

theorem contains_eq_isSome (store : Store) (id : String) : store.contains id = (store.get? id).isSome :=
  Std.ExtTreeMap.contains_eq_isSome_getElem?

theorem contains_iff_row? {store : Store} {id : String} : store.contains id = true ↔ (store.row? id).isSome = true := by
  rw [row?, Option.isSome_map, contains_eq_isSome]

/-- What entries and removals leave under an id. -/
theorem get?_apply_last (store : Store) (entries : List Entry) (removes : Names) (id : String) :
    (store.apply entries removes).get? id =
      if id ∈ removes then none else (lastOf Entry.id entries id).or (store.get? id) := by
  rw [apply, get?_removeAll, get?_putAll]

theorem rows_subset (store : Store) (ids : Names) : (store.subset ids).map Entry.row = ids.toList.filterMap store.row? :=
  List.map_filterMap

/-- What a payload tells of a store are its header and rows. -/
theorem renderSubset_congr {store other : Store} (columns : store.header = other.header) (rows : ∀ id, store.row? id = other.row? id)
    (updated removed : Names) : store.renderSubset updated removed = other.renderSubset updated removed := by
  rw [renderSubset, renderSubset, Payload.render, Payload.render, rows_subset, rows_subset, columns, funext rows]

theorem get?_putAll_of_not_mem (store : Store) {entries : List Entry} {id : String} (absent : id ∉ entries.map Entry.id) :
    (store.putAll entries).get? id = store.get? id := by
  rw [get?_putAll, lastOf_none.2 absent, Option.none_or]

end Store

/-- What a store is once some ids have got the rows that were found for them, and what has changed by that. An id that has the
row it had keeps its entry. -/
structure Refreshed (found : String → Option String) (ids : Names) (old new : Store) (changes : Changes) : Prop where
  columns : new.header = old.header
  rows : ∀ id ∈ ids, new.row? id = found id
  kept : ∀ id, id ∉ ids ∨ new.row? id = old.row? id → new.get? id = old.get? id
  updated : ∀ id, id ∈ changes.updated ↔ id ∈ ids ∧ (new.row? id).isSome = true ∧ new.row? id ≠ old.row? id
  removed : ∀ id, id ∈ changes.removed ↔ (old.row? id).isSome = true ∧ new.row? id = none

namespace Refreshed

variable {found : String → Option String} {ids : Names} {old new other : Store} {changes again : Changes}

theorem row?_eq (refreshed : Refreshed found ids old new changes) (id : String) :
    new.row? id = if id ∈ ids then found id else old.row? id := by
  split
  · next asked => exact refreshed.rows id asked
  · next outside => exact congrArg (Option.map Entry.row) (refreshed.kept id (.inl outside))

/-- However some ids got the same rows, the outcome is the same. -/
theorem unique (refreshed : Refreshed found ids old new changes) (likewise : Refreshed found ids old other again) :
    changes = again ∧ ∀ id, new.row? id = other.row? id := by
  have rows : ∀ id, new.row? id = other.row? id := fun id => (refreshed.row?_eq id).trans (likewise.row?_eq id).symm
  have updated : changes.updated = again.updated := Std.ExtTreeSet.ext_mem fun id => by
    rw [refreshed.updated, likewise.updated, rows]
  have removed : changes.removed = again.removed := Std.ExtTreeSet.ext_mem fun id => by
    rw [refreshed.removed, likewise.removed, rows]
  exact ⟨congrArg₂ Changes.mk updated removed, rows⟩

end Refreshed

namespace Delta

variable {old new : Store} {ids : Names} {find : String → Option Entry} {id : String}

/-- The outcome of fetching ids that are looked up one by one. -/
abbrev ofFound (old : Store) (ids : Names) (find : String → Option Entry) : Delta := .ofFetch old ids (ids.toList.filterMap find)

theorem differs_iff {entry : Entry} : differs old entry = true ↔ old.row? entry.id ≠ some entry.row := by
  unfold differs Store.row?
  rcases old.get? entry.id with _ | stored
  · simp
  · simp

section Fetching

/-! Entries may be fetched in any order, and more than once for an id. -/

variable {fetched filled : List Entry}

theorem mem_updated_iff : id ∈ (ofFetch old ids fetched).changes.updated ↔
    ∃ entry ∈ fetched, entry.id = id ∧ old.row? id ≠ some entry.row := by
  change id ∈ Names.ofList ((fetched.filter (differs old)).map Entry.id) ↔ _
  rw [Names.mem_ofList, List.mem_map]
  constructor
  · rintro ⟨entry, member, rfl⟩
    obtain ⟨brought, other⟩ := List.mem_filter.1 member
    exact ⟨entry, brought, rfl, differs_iff.1 other⟩
  · rintro ⟨entry, brought, rfl, other⟩
    exact ⟨entry, List.mem_filter.2 ⟨brought, differs_iff.2 other⟩, rfl⟩

theorem mem_removed_iff : id ∈ (ofFetch old ids fetched).changes.removed ↔
    id ∈ ids ∧ id ∉ fetched.map Entry.id ∧ (old.row? id).isSome = true := by
  change id ∈ ids.filter _ ↔ _
  rw [Names.mem_filter, Bool.and_eq_true, Bool.not_eq_true', ← Bool.not_eq_true, Names.contains_iff, Names.mem_ofList,
    Store.contains_iff_row?]

theorem not_mem_removed (updated : id ∈ (ofFetch old ids fetched).changes.updated) :
    id ∉ (ofFetch old ids fetched).changes.removed := by
  obtain ⟨entry, brought, rfl, _⟩ := mem_updated_iff.1 updated
  exact fun removed => (mem_removed_iff.1 removed).2.1 (List.mem_map_of_mem brought)

/-- The ids that are announced as updated are those of the changed entries. -/
theorem mem_changed_ids : id ∈ (ofFetch old ids fetched).changed.map Entry.id ↔ id ∈ (ofFetch old ids fetched).changes.updated := by
  constructor
  · intro listed
    obtain ⟨entry, changed, rfl⟩ := List.mem_map.1 listed
    exact Names.contains_iff.1 (List.mem_filter.1 changed).2
  · intro updated
    obtain ⟨entry, brought, rfl, _⟩ := mem_updated_iff.1 updated
    exact List.mem_map_of_mem (List.mem_filter.2 ⟨brought, Names.contains_iff.2 updated⟩)

/-- What is announced of an id is all that was fetched for it, or nothing. -/
theorem lastOf_changed (id : String) : lastOf Entry.id (ofFetch old ids fetched).changed id =
    if id ∈ (ofFetch old ids fetched).changes.updated then lastOf Entry.id fetched id else none := by
  refine (lastOf_filter fetched (ofFetch old ids fetched).changes.updated.contains id).trans ?_
  simp only [Names.contains_iff]

/-- An id that is not announced has the row that was fetched last for it, if any was. -/
theorem row?_of_not_updated {last : Entry} (unchanged : id ∉ (ofFetch old ids fetched).changes.updated)
    (found : lastOf Entry.id fetched id = some last) : old.row? id = some last.row := by
  by_contra differ
  obtain ⟨brought, own⟩ := lastOf_some found
  exact unchanged (mem_updated_iff.2 ⟨last, brought, own, differ⟩)

/-- A delta that announces an entry for each id that it updates, and removes only what is stored and not updated. -/
structure Coherent (old : Store) (delta : Delta) : Prop where
  named : ∀ id, id ∈ delta.changed.map Entry.id ↔ id ∈ delta.changes.updated
  apart : ∀ id ∈ delta.changes.updated, id ∉ delta.changes.removed
  held : ∀ id ∈ delta.changes.removed, old.contains id = true

theorem coherent_ofFetch (old : Store) (ids : Names) (fetched : List Entry) : (ofFetch old ids fetched).Coherent old where
  named _ := mem_changed_ids
  apart _ := not_mem_removed
  held _ removed := Store.contains_iff_row?.2 (mem_removed_iff.1 removed).2.2

/-- Once the changes are made, an id has the row that was fetched last for it; an id that was asked for and not found has
none. -/
theorem row?_settled (completed : List.Forall₂ Entry.Filled (ofFetch old ids fetched).changed filled)
    (settled : ∀ id, new.get? id = (old.apply filled (ofFetch old ids fetched).changes.removed).get? id) (id : String) :
    new.row? id = ((lastOf Entry.id fetched id).map Entry.row).or (if id ∈ ids then none else old.row? id) := by
  have rows := Entry.Filled.last_row completed id
  rw [lastOf_changed] at rows
  rw [Store.row?, settled, Store.get?_apply_last]
  -- An id that was not found can only be removed, one that was found only be updated.
  rcases found : lastOf Entry.id fetched id with _ | last
  · have absent := lastOf_none.1 found
    have untold : lastOf Entry.id filled id = none := by
      rw [found, ite_self, Option.map_none] at rows
      exact Option.map_eq_none_iff.1 rows
    rw [untold, Option.none_or, Option.map_none, Option.none_or]
    by_cases asked : id ∈ ids
    · rw [if_pos asked]
      by_cases held : (old.row? id).isSome = true
      · rw [if_pos (mem_removed_iff.2 ⟨asked, absent, held⟩)]
        rfl
      · rw [if_neg fun removed => held (mem_removed_iff.1 removed).2.2]
        exact Option.not_isSome_iff_eq_none.1 held
    · rw [if_neg asked, if_neg fun removed => asked (mem_removed_iff.1 removed).1]
      rfl
  · have kept : id ∉ (ofFetch old ids fetched).changes.removed := by
      rw [mem_removed_iff]
      rintro ⟨_, absent, _⟩
      cases found.symm.trans (lastOf_none.2 absent)
    rw [if_neg kept, Option.map_or]
    by_cases updated : id ∈ (ofFetch old ids fetched).changes.updated
    · rw [if_pos updated, found] at rows
      rw [rows]
      rfl
    · rw [if_neg updated] at rows
      rw [rows]
      exact row?_of_not_updated updated found

/-- An id of which nothing is announced keeps its entry. -/
theorem get?_of_untold (completed : List.Forall₂ Entry.Filled (ofFetch old ids fetched).changed filled)
    (settled : ∀ id, new.get? id = (old.apply filled (ofFetch old ids fetched).changes.removed).get? id)
    (unchanged : id ∉ (ofFetch old ids fetched).changes.updated) (stays : id ∉ (ofFetch old ids fetched).changes.removed) :
    new.get? id = old.get? id := by
  have absent : id ∉ filled.map Entry.id := by
    rw [Entry.Filled.ids completed, mem_changed_ids]
    exact unchanged
  rw [settled, Store.apply, Store.get?_removeAll, if_neg stays, old.get?_putAll_of_not_mem absent]

end Fetching

/-- What is fetched says which rows some ids have, and by its silence that the others of them have none. It may say so more than
once, and in any order. -/
def Tells (found : String → Option String) (ids : Names) (fetched : List Entry) : Prop :=
  ∀ id row, (∃ entry ∈ fetched, entry.id = id ∧ entry.row = row) ↔ id ∈ ids ∧ found id = some row

namespace Tells

variable {found : String → Option String} {fetched filled : List Entry} (tells : Tells found ids fetched)

include tells

theorem of_mem {entry : Entry} (member : entry ∈ fetched) : entry.id ∈ ids ∧ found entry.id = some entry.row :=
  (tells entry.id entry.row).1 ⟨entry, member, rfl, rfl⟩

theorem row_last (asked : id ∈ ids) : (lastOf Entry.id fetched id).map Entry.row = found id := by
  rcases last : lastOf Entry.id fetched id with _ | entry
  · rcases has : found id with _ | row
    · rfl
    · obtain ⟨entry, member, own, _⟩ := (tells id row).2 ⟨asked, has⟩
      exact absurd (own ▸ List.mem_map_of_mem member) (lastOf_none.1 last)
  · obtain ⟨member, rfl⟩ := lastOf_some last
    exact (tells.of_mem member).2.symm

theorem mem_updated : id ∈ (ofFetch old ids fetched).changes.updated ↔
    id ∈ ids ∧ (found id).isSome = true ∧ found id ≠ old.row? id := by
  rw [mem_updated_iff]
  constructor
  · rintro ⟨entry, member, rfl, differ⟩
    obtain ⟨asked, has⟩ := tells.of_mem member
    exact ⟨asked, Option.isSome_of_eq_some has, has ▸ Ne.symm differ⟩
  · rintro ⟨asked, some, differ⟩
    obtain ⟨row, has⟩ := Option.isSome_iff_exists.1 some
    obtain ⟨entry, member, rfl, rfl⟩ := (tells id row).2 ⟨asked, has⟩
    exact ⟨entry, member, rfl, has ▸ Ne.symm differ⟩

theorem mem_removed : id ∈ (ofFetch old ids fetched).changes.removed ↔
    id ∈ ids ∧ found id = none ∧ (old.row? id).isSome = true := by
  rw [mem_removed_iff, ← lastOf_none]
  refine and_congr_right fun asked => and_congr_left fun _ => ?_
  rw [← tells.row_last asked, Option.map_eq_none_iff]

/-- The ids that were asked for have the rows that were found, and what was announced is what has changed. -/
theorem refreshed (completed : List.Forall₂ Entry.Filled (ofFetch old ids fetched).changed filled)
    (settled : ∀ id, new.get? id = (old.apply filled (ofFetch old ids fetched).changes.removed).get? id)
    (columns : new.header = old.header) : Refreshed found ids old new (ofFetch old ids fetched).changes := by
  have rows : ∀ id ∈ ids, new.row? id = found id := by
    intro id asked
    rw [row?_settled completed settled, tells.row_last asked, if_pos asked, Option.or_none]
  have kept : ∀ id, id ∉ ids ∨ new.row? id = old.row? id → new.get? id = old.get? id := by
    intro id apart
    refine get?_of_untold completed settled ?_ ?_
    · rw [tells.mem_updated]
      rintro ⟨asked, _, differ⟩
      exact differ ((rows id asked).symm.trans (apart.resolve_left fun outside => outside asked))
    · rw [tells.mem_removed]
      rintro ⟨asked, none, held⟩
      rw [← apart.resolve_left fun outside => outside asked, rows id asked, none] at held
      cases held
  refine ⟨columns, rows, kept, fun id => ?_, fun id => ?_⟩
  · rw [tells.mem_updated]
    exact and_congr_right fun asked => by rw [rows id asked]
  · rw [tells.mem_removed]
    constructor
    · rintro ⟨asked, none, held⟩
      exact ⟨held, (rows id asked).trans none⟩
    · rintro ⟨held, gone⟩
      -- An id that is gone was asked for, as all others are kept.
      have asked : id ∈ ids := by
        by_contra outside
        rw [Store.row?, kept id (.inl outside), ← Store.row?] at gone
        rw [gone] at held
        cases held
      exact ⟨asked, (rows id asked).symm.trans gone, held⟩

/-- What was told once does not change anything when it is told again. -/
theorem changes_again {changes : Changes} (refreshed : Refreshed found ids old new changes) : (ofFetch new ids fetched).changes = {} := by
  have updated : (ofFetch new ids fetched).changes.updated = ∅ := by
    refine Std.ExtTreeSet.ext_mem fun id => iff_of_false ?_ Std.ExtTreeSet.not_mem_empty
    rw [tells.mem_updated]
    rintro ⟨asked, _, differ⟩
    exact differ (refreshed.rows id asked).symm
  have removed : (ofFetch new ids fetched).changes.removed = ∅ := by
    refine Std.ExtTreeSet.ext_mem fun id => iff_of_false ?_ Std.ExtTreeSet.not_mem_empty
    rw [tells.mem_removed]
    rintro ⟨asked, none, held⟩
    rw [refreshed.rows id asked, none] at held
    cases held
  exact congrArg₂ Changes.mk updated removed

end Tells

section Looking

variable (own : ∀ id entry, find id = some entry → entry.id = id)

include own

theorem mem_found {entry : Entry} : entry ∈ ids.toList.filterMap find ↔ entry.id ∈ ids ∧ find entry.id = some entry := by
  rw [List.mem_filterMap]
  constructor
  · rintro ⟨id, member, found⟩
    rw [own id entry found]
    exact ⟨Std.ExtTreeSet.mem_toList.1 member, found⟩
  · rintro ⟨member, found⟩
    exact ⟨entry.id, Std.ExtTreeSet.mem_toList.2 member, found⟩

/-- Ids that are looked up have the rows that are found for them. -/
theorem tells_found : Tells (fun id => (find id).map Entry.row) ids (ids.toList.filterMap find) := by
  intro id row
  constructor
  · rintro ⟨entry, member, rfl, rfl⟩
    obtain ⟨asked, found⟩ := (mem_found own).1 member
    exact ⟨asked, congrArg (Option.map Entry.row) found⟩
  · rintro ⟨asked, has⟩
    obtain ⟨entry, found, rfl⟩ := Option.map_eq_some_iff.1 has
    cases own id entry found
    exact ⟨entry, (mem_found own).2 ⟨asked, found⟩, rfl, rfl⟩

/-- The ids that are announced as updated are those of the changed entries, in their order. -/
theorem toList_updated : (ofFound old ids find).changes.updated.toList = (ofFound old ids find).changed.map Entry.id := by
  have same : (ofFound old ids find).changed = (ids.toList.filterMap find).filter (differs old) := by
    refine List.filter_congr fun entry member => ?_
    obtain ⟨asked, found⟩ := (tells_found own).of_mem member
    rw [Bool.eq_iff_iff, Names.contains_iff, (tells_found own).mem_updated, differs_iff, found]
    exact ⟨fun updated => Ne.symm updated.2.2, fun differ => ⟨asked, rfl, Ne.symm differ⟩⟩
  have order : ((ids.toList.filterMap find).map Entry.id).Sublist ids.toList := by
    have kept : (ids.toList.filterMap find).map Entry.id = ids.toList.filter fun id => (find id).isSome := by
      rw [List.map_filterMap, ← List.filterMap_eq_filter]
      refine List.filterMap_congr fun id _ => ?_
      rcases found : find id with _ | entry
      · simp [Option.guard, found]
      · simp [Option.guard, found, own id entry found]
    rw [kept]
    exact List.filter_sublist
  rw [same]
  exact Names.toList_ofList ((List.filter_sublist.map Entry.id).trans order)

/-- The updated entries are stored as they were filled in. -/
theorem subset_updated {filled : List Entry} (completed : List.Forall₂ Entry.Filled (ofFound old ids find).changed filled)
    (settled : ∀ id, new.get? id = (old.apply filled (ofFound old ids find).changes.removed).get? id) :
    new.subset (ofFound old ids find).changes.updated = filled := by
  have listed : (ofFound old ids find).changes.updated.toList = filled.map Entry.id := by
    rw [toList_updated own, Entry.Filled.ids completed]
  have distinct : (filled.map Entry.id).Nodup := by
    rw [← listed]
    exact Std.ExtTreeSet.distinct_toList.imp fun differ same => differ (Std.compare_eq_iff_eq.2 same)
  have stored : ∀ last ∈ filled, (new.get? ∘ Entry.id) last = some last := by
    intro last member
    have updated : last.id ∈ (ofFound old ids find).changes.updated := by
      rw [← Std.ExtTreeSet.mem_toList, listed]
      exact List.mem_map_of_mem member
    rw [Function.comp_apply, settled, Store.apply, Store.get?_removeAll, if_neg (not_mem_removed updated),
      old.get?_putAll_of_nodup distinct member]
  rw [Store.subset, listed, List.filterMap_map, List.filterMap_congr stored, List.filterMap_some]

end Looking

end Delta

end ReferenceFeed
