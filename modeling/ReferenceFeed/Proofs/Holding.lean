import ReferenceFeed.Index.Single
import ReferenceFeed.Proofs.Attendance

namespace ReferenceFeed

/-!
Who holds the keys of an index in which a key has one holder. It goes to whoever comes with it last, and stays until its
holder is changed or removed. It is nobody's then, even if records that were passed over still have it.
-/

/-- Whether a commit brings a record for an id, or removes its record. -/
def Commit.touches {ρ : Type} (commit : Commit ρ) (id : String) : Bool :=
  commit.updated.contains id || commit.removed.contains id

theorem Commit.touches_eq_false {ρ : Type} {commit : Commit ρ} {id : String} :
    commit.touches id = false ↔ commit.updated[id]? = none ∧ id ∉ commit.removed := by
  rw [touches, Bool.or_eq_false_iff, Std.ExtTreeMap.contains_eq_isSome_getElem?, Option.isSome_eq_false_iff,
    Option.isNone_iff_eq_none, ← Names.contains_iff, Bool.not_eq_true]

namespace Committed

variable {ρ : Type} {c : Committed ρ} {staging : Staging ρ} {id : String}

/-- A commit leaves alone what it does not touch. -/
theorem untouched (spared : (c.commit staging).2.touches id = false) :
    (c.commit staging).1.records[id]? = c.records[id]? := by
  obtain ⟨unchanged, present⟩ := Commit.touches_eq_false.1 spared
  rw [commit_records, unchanged, if_neg present]
  rfl

/-- A record that is there after a commit was brought by it, or is an old one. -/
theorem brought_or_untouched {record : ρ} (present : (c.commit staging).1.records[id]? = some record) :
    (c.commit staging).2.updated[id]? = some record ∨ (c.commit staging).2.touches id = false := by
  rw [commit_records] at present
  rcases updated : (c.commit staging).2.updated[id]? with _ | changed
  · refine .inr (Commit.touches_eq_false.2 ⟨updated, fun gone => ?_⟩)
    rw [updated, if_pos gone] at present
    cases present
  · rw [updated] at present
    exact .inl present

end Committed

namespace IndexKey

variable {ρ κ : Type} [DecidableEq κ] {key : IndexKey ρ κ}

/-- The last record of a batch with a key. -/
def latest (key : IndexKey ρ κ) (batch : List (String × ρ)) (k : κ) : Option String :=
  (batch.reverse.find? fun pair => key.of pair.2 = some k).map Prod.fst

theorem latest_cons (pair : String × ρ) (rest : List (String × ρ)) (k : κ) :
    key.latest (pair :: rest) k = (key.latest rest k).or (if key.of pair.2 = some k then some pair.1 else none) := by
  rw [latest, List.reverse_cons, List.find?_append, Option.map_or, List.find?_singleton]
  congr 1
  split <;> simp_all

theorem latest_some {records : Keyed ρ} {k : κ} {id : String} (found : key.latest records.toList k = some id) :
    ∃ record, records[id]? = some record ∧ key.of record = some k := by
  obtain ⟨⟨_, record⟩, first, rfl⟩ := Option.map_eq_some_iff.1 found
  refine ⟨record, Std.ExtTreeMap.mem_toList_iff_getElem?_eq_some.1 ?_, of_decide_eq_true (List.find?_some first :)⟩
  exact List.mem_reverse.1 (List.mem_of_find?_eq_some first)

theorem latest_none {records : Keyed ρ} {k : κ} :
    key.latest records.toList k = none ↔ ∀ (id : String) record, records[id]? = some record → key.of record ≠ some k := by
  rw [latest, Option.map_eq_none_iff, List.find?_eq_none]
  simp only [List.mem_reverse, decide_eq_true_eq, Prod.forall, Std.ExtTreeMap.mem_toList_iff_getElem?_eq_some]

/-- No two records share a key. -/
def Apart (key : IndexKey ρ κ) (records : Keyed ρ) : Prop :=
  ∀ (id other : String) (record found : ρ) (k : κ), records[id]? = some record → records[other]? = some found →
    key.of record = some k → key.of found = some k → id = other

instance (key : IndexKey ρ κ) (records : Keyed ρ) : Decidable (key.Apart records) :=
  decidable_of_iff (∀ p ∈ records.toList, ∀ q ∈ records.toList, ∀ k ∈ key.of p.2, key.of q.2 = some k → p.1 = q.1) (by
    simp only [Apart, Prod.forall, Std.ExtTreeMap.mem_toList_iff_getElem?_eq_some, Option.mem_def]
    grind)

end IndexKey

namespace SingleIndex

variable {ρ κ : Type} [Ord κ] [Std.TransOrd κ] {x : SingleIndex ρ κ} {key : IndexKey ρ κ} {k : κ} {id other : String}

/-- Both directions of an index say the same. -/
def Paired (x : SingleIndex ρ κ) : Prop := ∀ (k : κ) (id : String), x.get? k = some id ↔ x.keyOf[id]? = some k

/-- Follows one call to an observer, whatever there is to warn of. -/
def hear (x : SingleIndex ρ κ) (observation : Observation ρ) : SingleIndex ρ κ := (x.observe observation).1

/-- An index that was made of some records says nothing wrong about them. -/
structure Tracks (key : IndexKey ρ κ) (records : Keyed ρ) (x : SingleIndex ρ κ) : Prop where
  same : x.key = key
  paired : x.Paired
  right : ∀ (k : κ) (id : String), x.get? k = some id → ∃ record, records[id]? = some record ∧ key.of record = some k

/-- Whoever looks for the key of a record finds a record with this key. -/
def Serves (key : IndexKey ρ κ) (records : Keyed ρ) (x : SingleIndex ρ κ) : Prop :=
  ∀ (id : String) (record : ρ) (k : κ), records[id]? = some record → key.of record = some k →
    ∃ (holder : String) (found : ρ), x.get? k = some holder ∧ records[holder]? = some found ∧ key.of found = some k

/-- A commit takes a key from its holder and brings it back for nobody, and a record that has it is left alone. -/
def Abandons (key : IndexKey ρ κ) (records : Keyed ρ) (x : SingleIndex ρ κ) (commit : Commit ρ) : Prop :=
  ∃ (k : κ) (holder id : String) (record : ρ), x.get? k = some holder ∧ commit.touches holder = true ∧
    (∀ (other : String) (changed : ρ), commit.updated[other]? = some changed → key.of changed ≠ some k) ∧
    records[id]? = some record ∧ key.of record = some k ∧ commit.touches id = false

/-- Where no two records share a key, no key is abandoned. -/
theorem Tracks.not_abandons {records : Keyed ρ} (tracks : Tracks key records x) (apart : key.Apart records) (commit : Commit ρ) :
    ¬Abandons key records x commit := by
  rintro ⟨k, holder, id, record, held, touched, _, there, has, spared⟩
  obtain ⟨found, present, same⟩ := tracks.right k holder held
  rw [apart holder id found record k present there same has, spared] at touched
  cases touched

theorem paired_empty (key : IndexKey ρ κ) : (⟨key, ∅, ∅⟩ : SingleIndex ρ κ).Paired := by
  intro k id
  rw [get?, Std.ExtTreeMap.getElem?_empty, Std.ExtTreeMap.getElem?_empty]
  exact iff_of_false nofun nofun

theorem unlink_key (x : SingleIndex ρ κ) (id : String) : (x.unlink id).key = x.key := by
  unfold unlink
  split <;> rfl

theorem enter_key (x : SingleIndex ρ κ) (id : String) (record : ρ) : (x.enter id record).1.key = x.key := by
  unfold enter
  split <;> rfl

theorem unlinkAll_key (ids : List String) (x : SingleIndex ρ κ) : (ids.foldl unlink x).key = x.key := by
  induction ids generalizing x with
  | nil => rfl
  | cons id rest ih => exact (ih _).trans (unlink_key x id)

theorem enterAll_key (batch : List (String × ρ)) (x : SingleIndex ρ κ) : (x.enterAll batch).1.key = x.key := by
  induction batch generalizing x with
  | nil => rfl
  | cons pair rest ih => exact (ih _).trans (enter_key x pair.1 pair.2)

theorem keyOf_unlink (x : SingleIndex ρ κ) (id other : String) :
    (x.unlink id).keyOf[other]? = if id = other then none else x.keyOf[other]? := by
  unfold unlink
  split
  · next absent =>
    split
    · next same => rw [← same, absent]
    · rfl
  · exact Keyed.getElem?_erase ..

theorem keyOf_unlinkAll (ids : List String) (x : SingleIndex ρ κ) (other : String) :
    (ids.foldl unlink x).keyOf[other]? = if other ∈ ids then none else x.keyOf[other]? := by
  induction ids generalizing x with
  | nil => exact (if_neg List.not_mem_nil).symm
  | cons id rest ih =>
    rw [List.foldl_cons, ih, keyOf_unlink]
    by_cases same : other = id
    · simp [same]
    · simp [same, Ne.symm same]

/-- The holder of a key holds nothing else, so that it is off the index when the key goes to another. -/
theorem keyOf_link (x : SingleIndex ρ κ) (id : String) (key : κ) (other : String) :
    (x.link id key).keyOf[other]? =
      if id = other then some key else if x.get? key = some other then none else x.keyOf[other]? := by
  have holds : x.holder? id key = (x.get? key).bind fun previous => if previous = id then none else some previous := by
    unfold holder? get?
    rcases x.idOf[key]? <;> rfl
  rw [link, Keyed.getElem?_insert]
  split
  · rfl
  · next differ =>
    rw [holds]
    rcases x.get? key with _ | previous
    · rfl
    · by_cases same : previous = id
      · subst same
        simp [differ]
      · simp only [Option.bind_some, if_neg same, Keyed.getElem?_erase, Option.some.injEq]

theorem keyOf_enter (x : SingleIndex ρ κ) {id other : String} (record : ρ) (differ : id ≠ other) (free : x.keyOf[other]? = none) :
    (x.enter id record).1.keyOf[other]? = none := by
  unfold enter
  split
  · exact free
  · rw [keyOf_link, if_neg differ, free, ite_self]

theorem foldl_commit (x : SingleIndex ρ κ) (commit : Commit ρ) :
    commit.observations.foldl hear x = (x.update commit.updated).1.remove commit.removed :=
  commit.foldl_observations hear (fun _ => rfl) (fun _ => rfl) x

theorem build_ok {records : Keyed ρ} {notices : List Notice} (built : build key records = .ok (x, notices)) :
    x = (enterAll ⟨key, ∅, ∅⟩ records.toList).1 := by
  unfold build at built
  dsimp only at built
  split at built
  · cases built
  · cases built
    rfl

/-- Where keys may be shared, an index can be built of any records. -/
theorem build_of_shared (shared : key.unique = false) (records : Keyed ρ) :
    ∃ notices, build key records = .ok ((enterAll ⟨key, ∅, ∅⟩ records.toList).1, notices) := by
  simp only [build, shared]
  exact ⟨_, rfl⟩

variable [Std.LawfulEqOrd κ]

theorem Paired.get?_unlink (paired : x.Paired) : (x.unlink id).get? k = some other ↔ x.get? k = some other ∧ other ≠ id := by
  classical
  unfold unlink
  split
  · next absent =>
    refine (and_iff_left_of_imp fun held same => ?_).symm
    rw [same, paired, absent] at held
    cases held
  · next key present =>
    have held : x.idOf[key]? = some id := (paired key id).2 present
    rw [get?, if_pos held, Keyed.getElem?_erase]
    by_cases here : key = k
    · subst here
      rw [if_pos rfl, get?, held]
      grind
    · rw [if_neg here]
      refine (and_iff_left_of_imp fun elsewhere same => here ?_).symm
      rw [same, ← get?, paired, present] at elsewhere
      exact Option.some.inj elsewhere

theorem Paired.unlink (paired : x.Paired) (id : String) : (x.unlink id).Paired := by
  intro k other
  rw [paired.get?_unlink, keyOf_unlink, paired k other]
  grind

theorem Paired.unlinkAll (paired : x.Paired) (ids : List String) : (ids.foldl SingleIndex.unlink x).Paired := by
  induction ids generalizing x with
  | nil => exact paired
  | cons id rest ih => exact ih (paired.unlink id)

theorem Paired.get?_unlinkAll (paired : x.Paired) {ids : List String} :
    (ids.foldl SingleIndex.unlink x).get? k = some other ↔ x.get? k = some other ∧ other ∉ ids := by
  rw [paired.unlinkAll ids k other, keyOf_unlinkAll, paired k other]
  split <;> simp_all

theorem Paired.remove (paired : x.Paired) (ids : Names) : (x.remove ids).Paired := paired.unlinkAll ids.toList

theorem Paired.get?_remove (paired : x.Paired) {ids : Names} :
    (x.remove ids).get? k = some id ↔ x.get? k = some id ∧ ids.contains id = false := by
  rw [SingleIndex.remove, paired.get?_unlinkAll, Std.ExtTreeSet.mem_toList, ← Names.contains_iff, Bool.not_eq_true]

variable [DecidableEq κ]

theorem get?_link (x : SingleIndex ρ κ) (id : String) (key k : κ) :
    (x.link id key).get? k = if key = k then some id else x.get? k := Keyed.getElem?_insert ..

/-- An id that holds nothing is given a key. -/
theorem Paired.link (paired : x.Paired) (free : x.keyOf[id]? = none) (key : κ) : (x.link id key).Paired := by
  intro k other
  have here := paired key other
  have there := paired k other
  rw [get?_link, keyOf_link]
  grind

theorem Paired.enter (paired : x.Paired) (free : x.keyOf[id]? = none) (record : ρ) : (x.enter id record).1.Paired := by
  unfold SingleIndex.enter
  split
  · exact paired
  · exact paired.link free _

theorem get?_enter (x : SingleIndex ρ κ) (id : String) (record : ρ) (k : κ) :
    (x.enter id record).1.get? k = if x.key.of record = some k then some id else x.get? k := by
  unfold enter
  split
  · next none => rw [none, if_neg nofun]
  · next key some => simp only [get?_link, some, Option.some.injEq]

theorem get?_enterAll (batch : List (String × ρ)) (x : SingleIndex ρ κ) (k : κ) :
    (x.enterAll batch).1.get? k = (x.key.latest batch k).or (x.get? k) := by
  induction batch generalizing x with
  | nil => rfl
  | cons pair rest ih =>
    rw [enterAll, ih, enter_key, get?_enter, IndexKey.latest_cons, Option.or_assoc]
    split <;> rfl

/-- Records come in whose ids differ and hold nothing. -/
theorem Paired.enterAll {batch : List (String × ρ)} (paired : x.Paired) (distinct : (batch.map Prod.fst).Nodup)
    (free : ∀ pair ∈ batch, x.keyOf[pair.1]? = none) : (x.enterAll batch).1.Paired := by
  induction batch generalizing x with
  | nil => exact paired
  | cons pair rest ih =>
    rw [List.map_cons, List.nodup_cons] at distinct
    refine ih (paired.enter (free pair List.mem_cons_self) pair.2) distinct.2 fun other later => ?_
    have differ : pair.1 ≠ other.1 := fun same => distinct.1 (same ▸ List.mem_map.2 ⟨other, later, rfl⟩)
    exact keyOf_enter x pair.2 differ (free other (List.mem_cons_of_mem _ later))

theorem Paired.update (paired : x.Paired) (records : Keyed ρ) : (x.update records).1.Paired := by
  refine (paired.unlinkAll records.keys).enterAll (Keyed.nodup_toList records) fun pair member => ?_
  have listed : pair.1 ∈ records.keys := by
    rw [← Std.ExtTreeMap.map_fst_toList_eq_keys]
    exact List.mem_map.2 ⟨pair, member, rfl⟩
  rw [keyOf_unlinkAll, if_pos listed]

/-- A key is with the last record that brings it, or stays where it is as long as nothing comes for its holder. -/
theorem Paired.get?_update (paired : x.Paired) {records : Keyed ρ} : (x.update records).1.get? k = some id ↔
    x.key.latest records.toList k = some id ∨
      x.key.latest records.toList k = none ∧ x.get? k = some id ∧ records.contains id = false := by
  have entered : (x.update records).1.get? k =
      ((records.keys.foldl SingleIndex.unlink x).key.latest records.toList k).or ((records.keys.foldl SingleIndex.unlink x).get? k) :=
    get?_enterAll ..
  rw [entered, unlinkAll_key, Option.or_eq_some_iff, paired.get?_unlinkAll, Std.ExtTreeMap.mem_keys, ← Std.ExtTreeMap.contains_iff_mem,
    Bool.not_eq_true]

/-- Who holds a key after a commit, whose removals are told last and spare what it has brought. -/
theorem Paired.get?_commit (paired : x.Paired) {c : Committed ρ} {staging : Staging ρ} :
    ((c.commit staging).2.observations.foldl hear x).get? k = some id ↔
      x.key.latest (c.commit staging).2.updated.toList k = some id ∨
        x.key.latest (c.commit staging).2.updated.toList k = none ∧ x.get? k = some id ∧
          (c.commit staging).2.touches id = false := by
  rw [foldl_commit, (paired.update _).get?_remove, paired.get?_update, or_and_right, Commit.touches, Bool.or_eq_false_iff]
  refine or_congr (and_iff_left_of_imp fun brought => ?_) (by grind)
  obtain ⟨record, updated, _⟩ := IndexKey.latest_some brought
  refine Bool.eq_false_iff.2 fun gone => ?_
  have absent := ((Committed.mem_leaving ..).1 (Names.contains_iff.1 gone)).2.1
  rw [Committed.getElem?_commit_updated, absent] at updated
  cases updated

/-- An index that is built of some records leads to one of them from each of their keys. -/
theorem tracks_build {records : Keyed ρ} {notices : List Notice} (built : build key records = .ok (x, notices)) :
    Tracks key records x ∧ Serves key records x := by
  have entered := build_ok built
  have held : ∀ k, x.get? k = key.latest records.toList k := by
    intro k
    rw [entered, get?_enterAll]
    exact Option.or_none
  refine ⟨⟨?_, ?_, fun k id found => ?_⟩, fun id record k present has => ?_⟩
  · rw [entered, enterAll_key]
  · rw [entered]
    exact (paired_empty key).enterAll (Keyed.nodup_toList records) fun _ _ => Std.ExtTreeMap.getElem?_empty
  · rw [held] at found
    exact IndexKey.latest_some found
  · rw [held]
    rcases last : key.latest records.toList k with _ | holder
    · exact absurd has (IndexKey.latest_none.1 last id record present)
    · obtain ⟨found, there, same⟩ := IndexKey.latest_some last
      exact ⟨holder, found, rfl, there, same⟩

section Commits

variable {c : Committed ρ} {staging : Staging ρ}

theorem Tracks.commit (tracks : Tracks key c.records x) :
    Tracks key (c.commit staging).1.records ((c.commit staging).2.observations.foldl hear x) := by
  obtain ⟨rfl, paired, right⟩ := tracks
  refine ⟨?_, ?_, fun k id found => ?_⟩
  · rw [foldl_commit, remove, unlinkAll_key]
    exact (enterAll_key ..).trans (unlinkAll_key ..)
  · rw [foldl_commit]
    exact (paired.update _).remove _
  · rcases paired.get?_commit.1 found with brought | ⟨_, held, spared⟩
    · obtain ⟨record, updated, has⟩ := IndexKey.latest_some brought
      exact ⟨record, by rw [Committed.commit_records, updated]; rfl, has⟩
    · obtain ⟨record, there, has⟩ := right k id held
      exact ⟨record, (Committed.untouched spared).trans there, has⟩

/-- Whether an index serves after a commit is decided by what the commit does to holders. -/
theorem Tracks.serves_commit (tracks : Tracks key c.records x) (serves : Serves key c.records x) :
    Serves key (c.commit staging).1.records ((c.commit staging).2.observations.foldl hear x) ↔
      ¬Abandons key c.records x (c.commit staging).2 := by
  have next : Tracks key (c.commit staging).1.records ((c.commit staging).2.observations.foldl hear x) := tracks.commit
  obtain ⟨rfl, paired, right⟩ := tracks
  constructor
  · rintro well ⟨k, holder, id, record, held, touched, nobody, there, has, spared⟩
    obtain ⟨finder, _, found, _⟩ := well id record k ((Committed.untouched spared).trans there) has
    rcases paired.get?_commit.1 found with brought | ⟨_, still, untouched⟩
    · obtain ⟨changed, updated, same⟩ := IndexKey.latest_some brought
      exact nobody finder changed updated same
    · cases held.symm.trans still
      cases touched.symm.trans untouched
  · intro keeps id record k present has
    have enough : ∀ holder, ((c.commit staging).2.observations.foldl hear x).get? k = some holder →
        ∃ (holder : String) (found : ρ), ((c.commit staging).2.observations.foldl hear x).get? k = some holder ∧
          (c.commit staging).1.records[holder]? = some found ∧ x.key.of found = some k := fun holder held => by
      obtain ⟨found, there, same⟩ := next.right k holder held
      exact ⟨holder, found, held, there, same⟩
    rcases last : x.key.latest (c.commit staging).2.updated.toList k with _ | brought
    · -- nobody comes with the key, so that the record is an old one and its key had a holder before
      have nobody := IndexKey.latest_none.1 last
      rcases Committed.brought_or_untouched present with updated | spared
      · exact absurd has (nobody id record updated)
      · have there := (Committed.untouched spared).symm.trans present
        obtain ⟨holder, _, held, _⟩ := serves id record k there has
        rcases touched : (c.commit staging).2.touches holder with _ | _
        · exact enough holder (paired.get?_commit.2 (.inr ⟨last, held, touched⟩))
        · exact absurd ⟨k, holder, id, record, held, touched, nobody, there, has, spared⟩ keeps
    · exact enough brought (paired.get?_commit.2 (.inl last))

end Commits

end SingleIndex

end ReferenceFeed
