import ReferenceFeed.Proofs.Settlement
import ReferenceFeed.Proofs.Delta

namespace ReferenceFeed

/-!
What is lost by writing only what a fetch has changed. An entry whose row is stored already is not written again, although
it may come with other groups. No row is ever lost by that, and nothing at all unless some id keeps its row and is fetched
with other groups than it has.
-/

namespace Delta

/-- The ids that were asked for and not found. -/
def unfound (requested : Names) (fetched : List Entry) : Names :=
  requested.filter fun id => !(Names.ofList (fetched.map Entry.id)).contains id

/-- A store in which only what has changed is written. -/
def sparing (store : Store) (requested : Names) (fetched : List Entry) : Store :=
  store.apply (ofFetch store requested fetched).changed (ofFetch store requested fetched).changes.removed

/-- A store in which all that was fetched is written, and nothing stays of an id that was not found. -/
def rewriting (store : Store) (requested : Names) (fetched : List Entry) : Store :=
  store.apply (ofFetch store requested fetched).fetched (unfound requested fetched)

/-- An id is fetched with the row it has, each time, and at last with other groups than it has. -/
def Regroups (store : Store) (fetched : List Entry) : Prop :=
  ∃ stored last : Entry, store.get? last.id = some stored ∧ lastOf Entry.id fetched last.id = some last ∧
    (∀ entry ∈ fetched, entry.id = last.id → entry.row = stored.row) ∧ last.groups ≠ stored.groups

variable {store : Store} {requested : Names} {fetched : List Entry} {id : String}

theorem mem_unfound : id ∈ unfound requested fetched ↔ id ∈ requested ∧ id ∉ fetched.map Entry.id := by
  rw [unfound, Names.mem_filter, Bool.not_eq_true', ← Bool.not_eq_true, Names.contains_iff, Names.mem_ofList]

theorem get?_rewriting (id : String) : (rewriting store requested fetched).get? id =
    (lastOf Entry.id fetched id).or (if id ∈ requested then none else store.get? id) := by
  refine (Store.get?_apply_last store fetched (unfound requested fetched) id).trans ?_
  rcases found : lastOf Entry.id fetched id with _ | last
  · have absent := lastOf_none.1 found
    by_cases asked : id ∈ requested
    · rw [if_pos (mem_unfound.2 ⟨asked, absent⟩), if_pos asked]
      rfl
    · rw [if_neg fun missing => asked (mem_unfound.1 missing).1, if_neg asked]
  · have present : id ∉ unfound requested fetched := by
      rw [mem_unfound]
      rintro ⟨_, absent⟩
      cases found.symm.trans (lastOf_none.2 absent)
    rw [if_neg present]
    rfl

/-- All rows come to the same. -/
theorem row?_sparing (id : String) :
    (sparing store requested fetched).row? id = (rewriting store requested fetched).row? id := by
  have rows : (sparing store requested fetched).row? id = _ := row?_settled
    (List.forall₂_same.2 fun _ _ => ⟨rfl, rfl, fun _ _ same => same⟩) (fun _ => rfl) id
  have all : (rewriting store requested fetched).row? id = (((lastOf Entry.id fetched id).or
      (if id ∈ requested then none else store.get? id)).map Entry.row) := congrArg (Option.map Entry.row) (get?_rewriting id)
  rw [rows, all, Option.map_or]
  congr 1
  split <;> rfl

/-- What is not announced stays as it is; apart from that an id gets what was fetched last for it. -/
theorem get?_sparing (id : String) : (sparing store requested fetched).get? id =
    if id ∈ (ofFetch store requested fetched).changes.updated then lastOf Entry.id fetched id
    else if id ∈ (ofFetch store requested fetched).changes.removed then none else store.get? id := by
  refine (Store.get?_apply_last store _ _ id).trans ?_
  rw [lastOf_changed]
  by_cases updated : id ∈ (ofFetch store requested fetched).changes.updated
  · obtain ⟨entry, brought, rfl, _⟩ := mem_updated_iff.1 updated
    rw [if_neg (not_mem_removed updated), if_pos updated, if_pos updated]
    rcases found : lastOf Entry.id fetched entry.id with _ | last
    · exact absurd (List.mem_map_of_mem brought) (lastOf_none.1 found)
    · rfl
  · rw [if_neg updated, if_neg updated, Option.none_or]

/-- An id comes to the same if it is announced, or what was fetched last for it is stored already. -/
theorem get?_sparing_iff (id : String) :
    (sparing store requested fetched).get? id = (rewriting store requested fetched).get? id ↔
      ∀ last, lastOf Entry.id fetched id = some last → id ∉ (ofFetch store requested fetched).changes.updated →
        store.get? id = some last := by
  rw [get?_sparing, get?_rewriting]
  -- An id that was not found is treated alike by both; of one that was found, the announced entry decides.
  rcases found : lastOf Entry.id fetched id with _ | last
  · have absent := lastOf_none.1 found
    have untold : id ∉ (ofFetch store requested fetched).changes.updated := by
      rw [mem_updated_iff]
      rintro ⟨entry, brought, rfl, _⟩
      exact absent (List.mem_map_of_mem brought)
    have gone : id ∈ (ofFetch store requested fetched).changes.removed ↔ id ∈ requested ∧ (store.row? id).isSome = true := by
      rw [mem_removed_iff, and_iff_right absent]
    refine iff_of_true ?_ nofun
    rw [if_neg untold, Option.none_or]
    by_cases asked : id ∈ requested
    · rw [if_pos asked]
      by_cases held : (store.row? id).isSome = true
      · rw [if_pos (gone.2 ⟨asked, held⟩)]
      · rw [if_neg fun removed => held (gone.1 removed).2]
        exact Option.map_eq_none_iff.1 (Option.not_isSome_iff_eq_none.1 held)
    · rw [if_neg asked, if_neg fun removed => asked (gone.1 removed).1]
  · have kept : id ∉ (ofFetch store requested fetched).changes.removed := by
      obtain ⟨brought, rfl⟩ := lastOf_some found
      exact fun removed => (mem_removed_iff.1 removed).2.1 (List.mem_map_of_mem brought)
    rw [if_neg kept, Option.some_or]
    by_cases updated : id ∈ (ofFetch store requested fetched).changes.updated
    · rw [if_pos updated]
      exact iff_of_true rfl fun _ _ untold => absurd updated untold
    · rw [if_neg updated]
      exact ⟨fun same other again _ => again ▸ same, fun same => same last rfl updated⟩

/-- What differs is an id that is fetched with other groups. -/
theorem regroups_iff (sound : store.Sound) : Regroups store fetched ↔
    ∃ id last, lastOf Entry.id fetched id = some last ∧ id ∉ (ofFetch store requested fetched).changes.updated ∧
      store.get? id ≠ some last := by
  constructor
  · rintro ⟨stored, last, there, found, rows, regroups⟩
    refine ⟨last.id, last, found, ?_, fun same => regroups ?_⟩
    · rw [mem_updated_iff]
      rintro ⟨entry, brought, own, differ⟩
      rw [Store.row?, there, Option.map_some, rows entry brought own] at differ
      exact differ rfl
    · cases there.symm.trans same
      rfl
  · rintro ⟨id, last, found, untold, other⟩
    obtain ⟨brought, rfl⟩ := lastOf_some found
    obtain ⟨stored, there, row⟩ := Option.map_eq_some_iff.1 (row?_of_not_updated untold found)
    refine ⟨stored, last, there, found, fun entry member own => ?_, fun groups => other ?_⟩
    · by_contra differ
      refine untold (mem_updated_iff.2 ⟨entry, member, own, ?_⟩)
      rw [Store.row?, there, Option.map_some]
      exact fun same => differ (Option.some.inj same).symm
    · have own := sound.own last.id stored there
      rw [there]
      rcases stored with ⟨_, _, _⟩
      rcases last with ⟨_, _, _⟩
      cases own
      cases row
      cases groups
      rfl

/-- Writing only what has changed leaves the rows that writing everything leaves. It leaves the same entries in the same
groups if and only if no id keeps its row and is fetched with other groups. -/
theorem suppression_harmless_iff (sound : store.Sound) (requested : Names) (fetched : List Entry) :
    (∀ id, (sparing store requested fetched).row? id = (rewriting store requested fetched).row? id) ∧
      (sparing store requested fetched = rewriting store requested fetched ↔ ¬Regroups store fetched) := by
  refine ⟨row?_sparing, ?_⟩
  rw [@regroups_iff store requested fetched sound]
  constructor
  · rintro same ⟨id, last, found, untold, other⟩
    exact other ((get?_sparing_iff id).1 (congrArg (Store.get? · id) same) last found untold)
  · intro spared
    have entity : (sparing store requested fetched).entity = (rewriting store requested fetched).entity :=
      (Store.apply_entity store _ _).trans (Store.apply_entity store _ _).symm
    have header : (sparing store requested fetched).header = (rewriting store requested fetched).header :=
      (Store.apply_header store _ _).trans (Store.apply_header store _ _).symm
    refine (sound.apply _ _).ext (sound.apply _ _) entity header fun id => (get?_sparing_iff id).2 fun last found untold => ?_
    by_contra other
    exact spared ⟨id, last, found, untold, other⟩

/-- An entry in the group of its value. -/
def grouped (id value : String) : Entry := ⟨id, id ++ "," ++ value, (∅ : Keyed String).insert "v" value⟩

/-- A store of two entries in one group. -/
def paired : Store := ((Store.empty "e" Site.keyAndValue).put (grouped "1" "x")).put (grouped "2" "x")

theorem paired_sound : paired.Sound := ((Store.sound_empty _ _).put _).put _

/-- One entry is fetched twice and is back in its group in the end, one is not found, and one that nobody asked for is new. -/
def refetched : List Entry := [grouped "1" "y", grouped "3" "x", grouped "1" "x"]

theorem suppression_harmless_refetched : sparing paired {"1", "2", "4"} refetched = rewriting paired {"1", "2", "4"} refetched ∧
    (sparing paired {"1", "2", "4"} refetched).all = [grouped "1" "x", grouped "3" "x"] ∧
    (sparing paired {"1", "2", "4"} refetched).membersOf ⟨"v", "x"⟩ = {"1", "3"} := by
  refine ⟨(suppression_harmless_iff paired_sound _ _).2.2 ?_, by decide +kernel, by decide +kernel⟩
  rintro ⟨stored, last, there, found, rows, regroups⟩
  obtain ⟨brought, _⟩ := lastOf_some found
  have kept : ∀ entry ∈ refetched, (paired.get? entry.id).all (·.groups = entry.groups) = true ∨
      lastOf Entry.id refetched entry.id ≠ some entry := by decide +kernel
  rcases kept last brought with same | overtaken
  · rw [there, Option.all_some, decide_eq_true_eq] at same
    exact regroups same.symm
  · exact overtaken found

/-- An entry without groups that gets one is fetched in vain, if its row stays as it is. -/
theorem not_suppression_harmless : ¬∀ (store : Store), store.Sound → ∀ (requested : Names) (fetched : List Entry),
    sparing store requested fetched = rewriting store requested fetched := by
  intro claim
  have same := claim ((Store.empty "e" Site.keyAndValue).put ⟨"1", "1,x", ∅⟩) ((Store.sound_empty _ _).put _) {"1"} [grouped "1" "x"]
  have members := congrArg (Store.membersOf · ⟨"v", "x"⟩) same
  revert members
  decide +kernel

end Delta

end ReferenceFeed
