import ReferenceFeed.Index.Many
import ReferenceFeed.Proofs.Attendance

namespace ReferenceFeed

/-!
An index that follows a replica. Both of its directions describe one assignment of keys to ids, which determines all
of it; after every commit the assignment is that of the records, in whatever order they are visited.
-/

namespace ManyIndex

variable {ρ κ : Type} [Ord κ] [Std.TransOrd κ] {x y : ManyIndex ρ κ} {assigned : String → Option κ}

/-- Both directions describe the keys that are assigned to ids, and no key is kept without an id. -/
structure Describes (x : ManyIndex ρ κ) (assigned : String → Option κ) : Prop where
  keyOf : ∀ id : String, x.keyOf[id]? = assigned id
  mem_get : ∀ (key : κ) (id : String), id ∈ x.get key ↔ assigned id = some key
  tidy : ∀ (key : κ) (ids : Names), x.idsOf[key]? = some ids → ids.isEmpty = false

/-- An id with another key than an assignment gives it. -/
def reassign (assigned : String → Option κ) (id : String) (key : Option κ) : String → Option κ :=
  fun other => if other = id then key else assigned other

/-- Visits one record of a batch. -/
def visit (x : ManyIndex ρ κ) (pair : String × ρ) : ManyIndex ρ κ := (x.unlink pair.1).enter pair.1 pair.2

theorem Describes.congr (describes : x.Describes assigned) {other : String → Option κ} (same : ∀ id, other id = assigned id) :
    x.Describes other := by
  have equal : other = assigned := funext same
  rw [equal]
  exact describes

theorem describes_empty (key : IndexKey ρ κ) : (⟨key, ∅, ∅⟩ : ManyIndex ρ κ).Describes fun _ => none where
  keyOf _ := Std.ExtTreeMap.getElem?_empty
  mem_get key id := by simp [get]
  tidy key ids found := by cases Std.ExtTreeMap.getElem?_empty.symm.trans found

theorem unlink_key (x : ManyIndex ρ κ) (id : String) : (x.unlink id).key = x.key := by
  unfold unlink
  split <;> rfl

theorem enter_key (x : ManyIndex ρ κ) (id : String) (record : ρ) : (x.enter id record).key = x.key := by
  unfold enter
  split <;> rfl

theorem visit_key (x : ManyIndex ρ κ) (pair : String × ρ) : (x.visit pair).key = x.key :=
  (enter_key ..).trans (unlink_key ..)

theorem foldl_visit_key (batch : List (String × ρ)) (x : ManyIndex ρ κ) : (batch.foldl visit x).key = x.key := by
  induction batch generalizing x with
  | nil => rfl
  | cons pair rest ih => exact (ih _).trans (visit_key x pair)

theorem foldl_unlink_key (ids : List String) (x : ManyIndex ρ κ) : (ids.foldl unlink x).key = x.key := by
  induction ids generalizing x with
  | nil => rfl
  | cons id rest ih => exact (ih _).trans (unlink_key x id)

variable [Std.LawfulEqOrd κ]

/-- The keys of an index are those that some id has. -/
theorem Describes.mem_keys (describes : x.Describes assigned) (key : κ) : key ∈ x.keys ↔ ∃ id, assigned id = some key := by
  have kept : key ∈ x.keys ↔ (x.idsOf[key]?).isSome = true := by
    rw [keys, Std.ExtTreeMap.mem_keys, Std.ExtTreeMap.mem_iff_isSome_getElem?]
  rw [kept]
  constructor
  · intro there
    obtain ⟨ids, found⟩ := Option.isSome_iff_exists.1 there
    have filled := describes.tidy key ids found
    obtain ⟨id, member⟩ : ∃ id, id ∈ ids := by
      by_contra nobody
      have empty : ids = ∅ := Std.ExtTreeSet.ext_mem fun {id} => iff_of_false (fun member => nobody ⟨id, member⟩)
        Std.ExtTreeSet.not_mem_empty
      rw [empty] at filled
      cases Std.ExtTreeSet.isEmpty_empty.symm.trans filled
    refine ⟨id, (describes.mem_get key id).1 ?_⟩
    rw [get, found]
    exact member
  · rintro ⟨id, has⟩
    have member := (describes.mem_get key id).2 has
    rcases found : x.idsOf[key]? with _ | ids
    · rw [get, found] at member
      exact absurd member Std.ExtTreeSet.not_mem_empty
    · rfl

theorem nodup_keys (x : ManyIndex ρ κ) : x.keys.Nodup :=
  Std.ExtTreeMap.distinct_keys.imp fun differ same => differ (Std.compare_eq_iff_eq.2 same)

/-- Two indices of one assignment are equal. -/
theorem Describes.unique (left : x.Describes assigned) (right : y.Describes assigned) (key : x.key = y.key) : x = y := by
  have keyOf : x.keyOf = y.keyOf := Std.ExtTreeMap.ext_getElem? fun {id} => (left.keyOf id).trans (right.keyOf id).symm
  have ids : ∀ key, x.get key = y.get key := fun key =>
    Std.ExtTreeSet.ext_mem fun {id} => (left.mem_get key id).trans (right.mem_get key id).symm
  have idsOf : x.idsOf = y.idsOf := by
    refine Std.ExtTreeMap.ext_getElem? fun {key} => ?_
    have here := ids key
    rw [get, get] at here
    rcases atLeft : x.idsOf[key]? with _ | mine <;> rcases atRight : y.idsOf[key]? with _ | others
    · rfl
    · have filled := right.tidy key others atRight
      rw [atLeft, atRight] at here
      rw [show others = ∅ from here.symm] at filled
      cases Std.ExtTreeSet.isEmpty_empty.symm.trans filled
    · have filled := left.tidy key mine atLeft
      rw [atLeft, atRight] at here
      rw [show mine = ∅ from here] at filled
      cases Std.ExtTreeSet.isEmpty_empty.symm.trans filled
    · rw [atLeft, atRight] at here
      exact congrArg some here
  cases x
  cases y
  simp_all

variable [DecidableEq κ]

theorem getD_shrunk (map : Std.ExtTreeMap κ Names) (key other : κ) (left : Names) :
    ((if left.isEmpty then map.erase key else map.insert key left)[other]?).getD ∅ =
      if key = other then left else (map[other]?).getD ∅ := by
  split
  · next empty =>
    rw [Keyed.getElem?_erase]
    split
    · exact (Std.ExtTreeSet.isEmpty_iff.1 empty).symm
    · rfl
  · rw [Keyed.getElem?_insert]
    split <;> rfl

/-- What is left of a set is dropped if it is empty, so no key comes to hold an empty one. -/
theorem tidy_shrunk {map : Std.ExtTreeMap κ Names} (key : κ) (left : Names)
    (tidy : ∀ (key : κ) (ids : Names), map[key]? = some ids → ids.isEmpty = false) : ∀ (other : κ) (ids : Names),
      (if left.isEmpty then map.erase key else map.insert key left)[other]? = some ids → ids.isEmpty = false := by
  intro other ids found
  split at found
  · rw [Keyed.getElem?_erase] at found
    split at found
    · cases found
    · exact tidy other ids found
  · next filled =>
    rw [Keyed.getElem?_insert] at found
    split at found
    · cases found
      exact Bool.eq_false_iff.2 filled
    · exact tidy other ids found

theorem Describes.unlink (describes : x.Describes assigned) (id : String) : (x.unlink id).Describes (reassign assigned id none) := by
  have atId := describes.keyOf id
  unfold ManyIndex.unlink
  split
  · next absent =>
    refine describes.congr fun other => ?_
    unfold reassign
    split
    · next same => rw [same, ← atId, absent]
    · rfl
  · next key present =>
    have has : assigned id = some key := atId.symm.trans present
    refine ⟨fun other => ?_, fun other member => ?_, tidy_shrunk key _ describes.tidy⟩
    · rw [Keyed.getElem?_erase, describes.keyOf]
      by_cases same : other = id
      · simp [reassign, same]
      · simp [reassign, same, Ne.symm same]
    · have before := describes.mem_get other member
      rw [get] at before
      change member ∈ ((if ((x.get key).erase id).isEmpty then x.idsOf.erase key
        else x.idsOf.insert key ((x.get key).erase id))[other]?).getD ∅ ↔ _
      rw [getD_shrunk, reassign]
      by_cases here : key = other
      · subst here
        rw [if_pos rfl, Names.mem_erase, describes.mem_get]
        by_cases same : member = id <;> simp [same]
      · rw [if_neg here, before]
        split
        · next same =>
          rw [same, has]
          simp [here]
        · rfl

/-- An id without a key is put under one. -/
theorem Describes.link (describes : x.Describes assigned) {id : String} (unassigned : assigned id = none) (key : κ) :
    (x.link id key).Describes (reassign assigned id (some key)) := by
  refine ⟨fun other => ?_, fun other member => ?_, fun other ids found => ?_⟩
  · rw [ManyIndex.link, Keyed.getElem?_insert, describes.keyOf]
    by_cases same : other = id
    · simp [reassign, same]
    · simp [reassign, same, Ne.symm same]
  · have before := describes.mem_get other member
    rw [ManyIndex.link, get, Keyed.getElem?_insert]
    by_cases here : key = other
    · subst here
      rw [if_pos rfl, Option.getD_some, Names.mem_insert, before, reassign]
      by_cases same : member = id <;> simp [same]
    · rw [if_neg here]
      rw [get] at before
      rw [before, reassign]
      split
      · next same =>
        rw [same, unassigned]
        simp [here]
      · rfl
  · rw [ManyIndex.link, Keyed.getElem?_insert] at found
    split at found
    · cases found
      have member : id ∈ (x.get key).insert id := Names.mem_insert.2 (.inl rfl)
      refine Bool.eq_false_iff.2 fun empty => ?_
      rw [Std.ExtTreeSet.isEmpty_iff.1 empty] at member
      exact Std.ExtTreeSet.not_mem_empty member
    · exact describes.tidy other ids found

theorem Describes.enter (describes : x.Describes assigned) {id : String} (unassigned : assigned id = none) (record : ρ) :
    (x.enter id record).Describes (reassign assigned id (x.key.of record)) := by
  unfold ManyIndex.enter
  split
  · next none =>
    refine describes.congr fun other => ?_
    rw [reassign, none]
    split
    · next same => rw [same, unassigned]
    · rfl
  · next key some =>
    rw [some]
    exact describes.link unassigned key

theorem Describes.visit (describes : x.Describes assigned) (pair : String × ρ) :
    (x.visit pair).Describes (reassign assigned pair.1 (x.key.of pair.2)) := by
  have unlinked := describes.unlink pair.1
  have entered := unlinked.enter (if_pos rfl) pair.2
  rw [unlink_key] at entered
  refine entered.congr fun other => ?_
  unfold reassign
  split <;> rfl

/-- Records with different ids each give their id its key, whichever of them comes first. -/
theorem Describes.visitAll {batch : List (String × ρ)} (describes : x.Describes assigned)
    (distinct : (batch.map Prod.fst).Nodup) : ∃ after, (batch.foldl ManyIndex.visit x).Describes after ∧
      (∀ pair ∈ batch, after pair.1 = x.key.of pair.2) ∧ ∀ id, id ∉ batch.map Prod.fst → after id = assigned id := by
  induction batch generalizing x assigned with
  | nil => exact ⟨assigned, describes, List.forall_mem_nil _, fun _ _ => rfl⟩
  | cons pair rest ih =>
    rw [List.map_cons, List.nodup_cons] at distinct
    obtain ⟨after, final, inside, outside⟩ := ih (describes.visit pair) distinct.2
    rw [visit_key] at inside
    refine ⟨after, final, fun other member => ?_, fun id unsaid => ?_⟩
    · rcases List.mem_cons.1 member with rfl | later
      · exact (outside _ distinct.1).trans (if_pos rfl)
      · exact inside other later
    · rw [List.map_cons, List.mem_cons, not_or] at unsaid
      exact (outside id unsaid.2).trans (if_neg unsaid.1)

/-- The assignment after a batch: the keys of its records, and for the other ids what was there before. -/
theorem Describes.visiting {batch : List (String × ρ)} {records : Keyed ρ} (describes : x.Describes assigned)
    (order : batch.Perm records.toList) :
    (batch.foldl ManyIndex.visit x).Describes fun id => (records[id]?).elim (assigned id) x.key.of := by
  have distinct : (batch.map Prod.fst).Nodup := (order.map Prod.fst).nodup_iff.2 (Keyed.nodup_toList records)
  obtain ⟨after, final, inside, outside⟩ := describes.visitAll distinct
  refine final.congr fun id => ?_
  rcases found : records[id]? with _ | record
  · refine (outside id fun member => ?_).symm
    obtain ⟨⟨other, record⟩, listed, rfl⟩ := List.mem_map.1 member
    rw [Std.ExtTreeMap.mem_toList_iff_getElem?_eq_some.1 (order.subset listed)] at found
    cases found
  · exact (inside (id, record) (order.symm.subset (Std.ExtTreeMap.mem_toList_iff_getElem?_eq_some.2 found))).symm

theorem Describes.update (describes : x.Describes assigned) (records : Keyed ρ) :
    (x.update records).Describes fun id => (records[id]?).elim (assigned id) x.key.of :=
  describes.visiting (.refl records.toList)

theorem Describes.unlinkAll (describes : x.Describes assigned) (ids : List String) :
    (ids.foldl ManyIndex.unlink x).Describes fun id => if id ∈ ids then none else assigned id := by
  induction ids generalizing x assigned with
  | nil => exact describes.congr fun id => if_neg List.not_mem_nil
  | cons gone rest ih =>
    refine (ih (describes.unlink gone)).congr fun id => ?_
    by_cases same : id = gone
    · simp [reassign, same]
    · simp [reassign, same]

theorem Describes.remove (describes : x.Describes assigned) (ids : Names) :
    (x.remove ids).Describes fun id => if id ∈ ids then none else assigned id := by
  refine (describes.unlinkAll ids.toList).congr fun id => ?_
  simp only [Std.ExtTreeSet.mem_toList]

/-- The order in which the records of a batch are visited does not matter. -/
theorem Describes.visit_order {batch : List (String × ρ)} {records : Keyed ρ} (describes : x.Describes assigned)
    (order : batch.Perm records.toList) : batch.foldl ManyIndex.visit x = x.update records := by
  refine (describes.visiting order).unique (describes.update records) ?_
  exact (foldl_visit_key batch x).trans (foldl_visit_key records.toList x).symm

theorem Describes.unlink_order {gone : List String} {ids : Names} (describes : x.Describes assigned)
    (order : gone.Perm ids.toList) : gone.foldl ManyIndex.unlink x = x.remove ids := by
  refine (describes.unlinkAll gone).unique ((describes.unlinkAll ids.toList).congr fun id => ?_) ?_
  · simp only [order.mem_iff]
  · exact (foldl_unlink_key gone x).trans (foldl_unlink_key ids.toList x).symm

/-- There is nothing to take away from ids without a key. -/
theorem Describes.enterAll {batch : List (String × ρ)} (describes : x.Describes assigned)
    (distinct : (batch.map Prod.fst).Nodup) (unassigned : ∀ pair ∈ batch, assigned pair.1 = none) :
    batch.foldl (fun x pair => x.enter pair.1 pair.2) x = batch.foldl ManyIndex.visit x := by
  induction batch generalizing x assigned with
  | nil => rfl
  | cons pair rest ih =>
    rw [List.map_cons, List.nodup_cons] at distinct
    have free := unassigned pair List.mem_cons_self
    have nothing : x.unlink pair.1 = x := by
      have atId := (describes.keyOf pair.1).trans free
      rw [ManyIndex.unlink, atId]
    have first : x.enter pair.1 pair.2 = x.visit pair := by rw [ManyIndex.visit, nothing]
    rw [List.foldl_cons, List.foldl_cons, first]
    refine ih (describes.visit pair) distinct.2 fun other later => ?_
    have differ : other.1 ≠ pair.1 := fun same => distinct.1 (same ▸ List.mem_map.2 ⟨other, later, rfl⟩)
    exact (if_neg differ).trans (unassigned other (List.mem_cons_of_mem _ later))

/-- An index is built as an empty one that is told of all records. -/
theorem build_eq_update (key : IndexKey ρ κ) (records : Keyed ρ) :
    build key records = (⟨key, ∅, ∅⟩ : ManyIndex ρ κ).update records :=
  (describes_empty key).enterAll (Keyed.nodup_toList records) fun _ _ => rfl

theorem build_order {key : IndexKey ρ κ} {batch : List (String × ρ)} {records : Keyed ρ} (order : batch.Perm records.toList) :
    batch.foldl (fun x pair => x.enter pair.1 pair.2) ⟨key, ∅, ∅⟩ = build key records := by
  have distinct : (batch.map Prod.fst).Nodup := (order.map Prod.fst).nodup_iff.2 (Keyed.nodup_toList records)
  have empty := describes_empty key
  rw [empty.enterAll distinct fun _ _ => rfl, build_eq_update]
  exact empty.visit_order order

/-- An index is in step with some records. -/
structure Tracks (key : IndexKey ρ κ) (records : Keyed ρ) (x : ManyIndex ρ κ) : Prop where
  same : x.key = key
  describes : x.Describes fun id => (records[id]?).bind key.of

theorem tracks_build (key : IndexKey ρ κ) (records : Keyed ρ) : Tracks key records (build key records) := by
  rw [build_eq_update]
  refine ⟨foldl_visit_key .., ((describes_empty key).update records).congr fun id => ?_⟩
  rcases records[id]? <;> rfl

/-- An index that is told of a commit is in step with what the commit has made of the records. -/
theorem Tracks.commit {key : IndexKey ρ κ} {c : Committed ρ} (tracks : Tracks key c.records x) (staging : Staging ρ) :
    Tracks key (c.commit staging).1.records ((c.commit staging).2.observations.foldl observe x) := by
  obtain ⟨rfl, describes⟩ := tracks
  have told : (c.commit staging).2.observations.foldl observe x =
      (x.update (c.commit staging).2.updated).remove (c.commit staging).2.removed :=
    Commit.foldl_observations _ observe (fun _ => rfl) (fun _ => rfl) x
  rw [told]
  refine ⟨(foldl_unlink_key ..).trans (foldl_visit_key ..), ((describes.update _).remove _).congr fun id => ?_⟩
  rw [Committed.commit_records]
  by_cases gone : id ∈ (c.commit staging).2.removed
  · have absent := ((c.mem_removed staging id).1 gone).2
    rw [Committed.commit_records, if_pos gone, Option.or_none] at absent
    rw [if_pos gone, if_pos gone, absent]
    rfl
  · rw [if_neg gone, if_neg gone]
    rcases (c.commit staging).2.updated[id]? <;> rfl

end ManyIndex

namespace Station

variable {ρ κ : Type} [Ord κ] [Std.TransOrd κ] [Std.LawfulEqOrd κ] [DecidableEq κ] {react : Reaction ρ}
  {settings : ReplicaSettings} {convert : Converter ρ} {s : Station ρ} {steps : List (Step ρ)}

/-- An index that was built when a seat was taken and makes of it what its observer is told. -/
def indexAt (key : IndexKey ρ κ) (seat : Nat) (s : Station ρ) : ManyIndex ρ κ :=
  ((toldAt seat s.told).map Told.observation).foldl ManyIndex.observe (.build key ((s.seats[seat]?).getD ∅))

/-- An index holds exactly the keys of the records, whenever it was attached and whatever was committed since. The order
in which it visits the records of a batch does not matter. -/
theorem Run.indexed (run : Run react (fresh settings convert) steps s) (key : IndexKey ρ κ) {number seat : Nat}
    (registered : (number, seat) ∈ s.replica.observers) (well : ∀ entry ∈ toldAt seat s.told, entry.answer = .ok ()) :
    (∀ k id, id ∈ (indexAt key seat s).get k ↔ ∃ record, s.replica.get? id = some record ∧ key.of record = some k) ∧
      (∀ id : String, (indexAt key seat s).keyOf[id]? = (s.replica.get? id).bind key.of) ∧
      (∀ k, k ∈ (indexAt key seat s).keys ↔ ∃ id record, s.replica.get? id = some record ∧ key.of record = some k) ∧
      (indexAt key seat s).keys.Nodup ∧ (indexAt key seat s).size = (indexAt key seat s).keys.length ∧
      (∀ (records : Keyed ρ) (batch : List (String × ρ)), batch.Perm records.toList →
        batch.foldl ManyIndex.visit (indexAt key seat s) = (indexAt key seat s).update records) ∧
      (∀ (ids : Names) (gone : List String), gone.Perm ids.toList →
        gone.foldl ManyIndex.unlink (indexAt key seat s) = (indexAt key seat s).remove ids) ∧
      ∀ (records : Keyed ρ) (batch : List (String × ρ)), batch.Perm records.toList →
        batch.foldl (fun x pair => x.enter pair.1 pair.2) (⟨key, ∅, ∅⟩ : ManyIndex ρ κ) = .build key records := by
  have attended : s.Attended (ManyIndex.Tracks key) (ManyIndex.build key) ManyIndex.observe :=
    run.attended (ManyIndex.tracks_build key) fun _ staging _ tracks => tracks.commit staging
  obtain ⟨records, taken, tracks⟩ := attended number seat registered well
  have here : indexAt key seat s =
      ((toldAt seat s.told).map Told.observation).foldl ManyIndex.observe (.build key records) := by
    rw [indexAt, taken]
    rfl
  rw [← here] at tracks
  have describes := tracks.describes
  refine ⟨fun k id => ?_, describes.keyOf, fun k => ?_, ManyIndex.nodup_keys _, Std.ExtTreeMap.length_keys.symm,
    fun records batch order => describes.visit_order order, fun ids gone order => describes.unlink_order order,
    fun records batch order => ManyIndex.build_order order⟩
  · exact (describes.mem_get k id).trans Option.bind_eq_some_iff
  · rw [describes.mem_keys]
    simp only [Option.bind_eq_some_iff]
    rfl

/-- Records under their own rows. -/
def byRow : IndexKey String String where
  name := "row"
  of := some
  shown := Text.quoted

/-- An index is attached between two payloads, of which the second one changes a record and removes another. -/
def rekeyed : List (Step String) × Station String := enact .calm (fresh { entity := "customer" } rowOf)
  [.arrive (.payload "id,v\n1,x\n2,x" true), .join, .arrive (.payload "id,v\n1,y\n2" false)]

theorem indexed_rekeyed :
    "1" ∈ (indexAt byRow 0 rekeyed.2).get "1,y" ∧ (indexAt byRow 0 rekeyed.2).keyOf["2"]? = none := by
  have registered : (1, 0) ∈ rekeyed.2.replica.observers := by decide +kernel
  have run : Run .calm (fresh { entity := "customer" } rowOf) rekeyed.1 rekeyed.2 := run_enact ..
  obtain ⟨get, keyOf, _⟩ := Run.indexed run byRow registered (by decide +kernel)
  refine ⟨(get "1,y" "1").2 ⟨"1,y", by decide +kernel, rfl⟩, ?_⟩
  have gone : rekeyed.2.replica.get? "2" = none := by decide +kernel
  rw [keyOf, gone]
  rfl

end Station

end ReferenceFeed
