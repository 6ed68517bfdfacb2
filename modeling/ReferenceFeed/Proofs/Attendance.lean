import ReferenceFeed.Proofs.Following
import ReferenceFeed.Proofs.Station

namespace ReferenceFeed

/-!
What the observers of a replica are told. Whatever is kept up to date from what one observer is told, and is right
when its seat is taken and stays right with every commit, is right as long as the observer does not fail.
-/

/-- What an observer makes of some records. -/
def Observation.carry {ρ : Type} (records : Keyed ρ) : Observation ρ → Keyed ρ
  | .updated changed => records ∪ changed
  | .removed ids => records.filter fun id _ => !ids.contains id

theorem getElem?_excluding {α : Type} (map : Keyed α) (ids : Names) (id : String) :
    (map.filter fun id _ => !ids.contains id)[id]? = if id ∈ ids then none else map[id]? := by
  rw [Std.ExtTreeMap.getElem?_filter]
  simp only [Std.ExtTreeMap.getKey_eq]
  by_cases member : id ∈ ids
  · have listed : ids.contains id = true := Names.contains_iff.2 member
    rcases map[id]? with _ | value <;> simp [listed, member]
  · have unlisted : ids.contains id = false := Bool.eq_false_iff.2 fun listed => member (Names.contains_iff.1 listed)
    rcases map[id]? with _ | value <;> simp [unlisted, member]

theorem Observation.carry_updated_empty {ρ : Type} (records : Keyed ρ) : carry records (.updated ∅) = records := by
  refine Std.ExtTreeMap.ext_getElem? fun {id} => ?_
  rw [carry, Std.ExtTreeMap.getElem?_union, Std.ExtTreeMap.getElem?_empty]
  rfl

theorem Observation.carry_removed_empty {ρ : Type} (records : Keyed ρ) : carry records (.removed ∅) = records := by
  refine Std.ExtTreeMap.ext_getElem? fun {id} => ?_
  rw [carry, getElem?_excluding, if_neg Std.ExtTreeSet.not_mem_empty]

/-- Nobody is told of an empty batch. To whom it would mean nothing it does not matter. -/
theorem Commit.foldl_observations {ρ β : Type} (commit : Commit ρ) (hear : β → Observation ρ → β)
    (updates : ∀ x, hear x (.updated ∅) = x) (removes : ∀ x, hear x (.removed ∅) = x) (x : β) :
    commit.observations.foldl hear x = hear (hear x (.updated commit.updated)) (.removed commit.removed) := by
  have first : (if commit.updated.isEmpty then [] else [Observation.updated commit.updated]).foldl hear x =
      hear x (.updated commit.updated) := by
    split
    · next empty =>
      rw [Std.ExtTreeMap.isEmpty_iff.1 empty]
      exact (updates x).symm
    · rfl
  have second : ∀ y, (if commit.removed.isEmpty then [] else [Observation.removed commit.removed]).foldl hear y =
      hear y (.removed commit.removed) := by
    intro y
    split
    · next empty =>
      rw [Std.ExtTreeSet.isEmpty_iff.1 empty]
      exact (removes y).symm
    · rfl
  rw [Commit.observations, List.foldl_append, first, second]

namespace Committed

variable {ρ : Type} (c : Committed ρ) (staging : Staging ρ) (id : String)

theorem mem_leaving : id ∈ c.leaving staging ↔
    (id ∈ staging.removed ∨ id ∈ c.within staging.scope) ∧ staging.updated[id]? = none ∧ c.records[id]?.isSome = true := by
  have listed : id ∈ c.leaving staging ↔ (id ∈ staging.removed ∨ id ∈ c.within staging.scope) ∧
      staging.updated.contains id = false ∧ c.records.contains id = true := by
    simp [leaving, Std.ExtTreeSet.mem_filter, and_left_comm]
  rw [listed, Std.ExtTreeMap.contains_eq_isSome_getElem?, Std.ExtTreeMap.contains_eq_isSome_getElem?, Option.isSome_eq_false_iff,
    Option.isNone_iff_eq_none]

theorem records_without (ids : Names) : (c.without ids).records = ids.toList.foldl (·.erase ·) c.records :=
  (List.foldl_hom Committed.records fun _ _ => rfl).symm

theorem records_including (updated : Keyed (ρ × Keyed String)) :
    (c.including updated).records = updated.toList.foldl (fun records pair => records.insert pair.1 pair.2.1) c.records :=
  (List.foldl_hom Committed.records fun _ _ => rfl).symm

theorem getElem?_without (ids : Names) : (c.without ids).records[id]? = if id ∈ ids then none else c.records[id]? := by
  have overList : ∀ (list : List String) (records : Keyed ρ),
      (list.foldl (·.erase ·) records)[id]? = if id ∈ list then none else records[id]? := by
    intro list
    induction list with
    | nil => simp
    | cons gone rest ih =>
      intro records
      rw [List.foldl_cons, ih, Keyed.getElem?_erase]
      by_cases same : gone = id
      · simp [same]
      · simp [same, Ne.symm same]
  simp only [records_without, overList, Std.ExtTreeSet.mem_toList]

theorem getElem?_including (updated : Keyed (ρ × Keyed String)) :
    (c.including updated).records[id]? = (updated[id]?.map Prod.fst).or c.records[id]? := by
  rw [records_including]
  refine (getElem?_foldl_insert Prod.fst (fun pair : String × ρ × Keyed String => pair.2.1) updated.toList c.records id).trans ?_
  rcases found : updated[id]? with _ | pair
  · have absent : lastOf Prod.fst updated.toList id = none := by
      refine lastOf_none.2 fun member => ?_
      obtain ⟨⟨_, pair⟩, inside, rfl⟩ := List.mem_map.1 member
      rw [Std.ExtTreeMap.mem_toList_iff_getElem?_eq_some.1 inside] at found
      cases found
    rw [absent]
    rfl
  · have last := lastOf_of_nodup (Keyed.nodup_toList updated) (Std.ExtTreeMap.mem_toList_iff_getElem?_eq_some.2 found)
    rw [show lastOf Prod.fst updated.toList id = _ from last]
    rfl

theorem getElem?_commit_updated : (c.commit staging).2.updated[id]? = staging.updated[id]?.map Prod.fst := by
  simp [commit, Std.ExtTreeMap.getElem?_map]

/-- The records of a commit, said with what observers are told of it. -/
theorem commit_records : (c.commit staging).1.records[id]? = ((c.commit staging).2.updated[id]?).or
    (if id ∈ (c.commit staging).2.removed then none else c.records[id]?) := by
  change ((c.without (c.leaving staging)).including staging.updated).records[id]? =
    ((c.commit staging).2.updated[id]?).or (if id ∈ c.leaving staging then none else c.records[id]?)
  rw [getElem?_including, getElem?_without, getElem?_commit_updated]

/-- The records of a commit, said with what was staged. -/
theorem getElem?_commit : (c.commit staging).1.records[id]? =
    (staging.updated[id]?.map Prod.fst).or (if id ∈ staging.removed ∨ id ∈ c.within staging.scope then none else c.records[id]?) := by
  have leaves : id ∈ (c.commit staging).2.removed ↔ _ := mem_leaving c staging id
  rw [commit_records, getElem?_commit_updated]
  rcases updated : staging.updated[id]? with _ | pair
  · rcases there : c.records[id]? with _ | old
    · simp
    · rw [updated, there] at leaves
      simp [leaves]
  · rfl

/-- What is removed was there, and is gone. -/
theorem mem_removed : id ∈ (c.commit staging).2.removed ↔
    c.records[id]?.isSome = true ∧ (c.commit staging).1.records[id]? = none := by
  have leaves : id ∈ (c.commit staging).2.removed ↔ _ := mem_leaving c staging id
  rw [commit_records, getElem?_commit_updated]
  rcases updated : staging.updated[id]? with _ | pair
  · rw [updated] at leaves
    by_cases member : id ∈ (c.commit staging).2.removed
    · have there := (leaves.1 member).2.2
      simp [member, there]
    · rcases c.records[id]? <;> simp [member]
  · rw [updated] at leaves
    simp [leaves]

/-- Whoever carries out what observers are told of a commit has the records of the commit. -/
theorem carried : (c.commit staging).2.observations.foldl Observation.carry c.records = (c.commit staging).1.records := by
  rw [Commit.foldl_observations _ _ Observation.carry_updated_empty Observation.carry_removed_empty, Observation.carry,
    Observation.carry]
  refine Std.ExtTreeMap.ext_getElem? fun {id} => ?_
  rw [getElem?_excluding, Std.ExtTreeMap.getElem?_union, commit_records]
  by_cases member : id ∈ (c.commit staging).2.removed
  · have gone := ((c.mem_removed staging id).1 member).2
    rw [commit_records, if_pos member, Option.or_none] at gone
    rw [if_pos member, if_pos member, gone]
    rfl
  · rw [if_neg member, if_neg member]

end Committed

namespace Station

variable {ρ : Type}

/-- What was told at one seat. -/
def toldAt (seat : Nat) (told : List (Told ρ)) : List (Told ρ) := told.filter fun entry => entry.seat = seat

theorem toldAt_append (seat : Nat) (first second : List (Told ρ)) :
    toldAt seat (first ++ second) = toldAt seat first ++ toldAt seat second := List.filter_append ..

theorem toldAt_eq_nil {seat : Nat} {log : List (Told ρ)} (elsewhere : ∀ entry ∈ log, entry.seat ≠ seat) : toldAt seat log = [] :=
  List.filter_eq_nil_iff.2 fun entry member here => elsewhere entry member (of_decide_eq_true here)

variable {observations : List (Observation ρ)} {observers : List (Nat × Nat)} {log : List (Told ρ)} {number seat : Nat}

theorem Telling.seated (telling : Telling seat observations log) : ∀ entry ∈ log, entry.seat = seat := by
  induction telling with
  | done => exact List.forall_mem_nil _
  | well _ ih => exact List.forall_mem_cons.2 ⟨rfl, ih⟩
  | failed fault => exact List.forall_mem_cons.2 ⟨rfl, List.forall_mem_nil _⟩

/-- An observer that does not fail is told everything. -/
theorem Telling.heard (telling : Telling seat observations log) (well : ∀ entry ∈ log, entry.answer = .ok ()) :
    log.map Told.observation = observations := by
  induction telling with
  | done => rfl
  | well _ ih => exact congrArg _ (ih fun entry member => well entry (List.mem_cons_of_mem _ member))
  | failed fault => cases well _ List.mem_cons_self

theorem Round.seated (round : Round observations observers log) : ∀ entry ∈ log, entry.seat ∈ observers.map Prod.snd := by
  induction round with
  | done => exact List.forall_mem_nil _
  | next telling _ ih =>
    intro entry member
    rcases List.mem_append.1 member with first | later
    · rw [telling.seated entry first]
      exact List.mem_cons_self
    · exact List.mem_cons_of_mem _ (ih entry later)

/-- Where seats differ, what is told at a seat is what its observer is told. -/
theorem Round.telling (round : Round observations observers log) (distinct : (observers.map Prod.snd).Nodup)
    (member : (number, seat) ∈ observers) : Telling seat observations (toldAt seat log) := by
  induction round with
  | done => cases member
  | @next other place rest log logs telling round ih =>
    rw [List.map_cons, List.nodup_cons] at distinct
    have elsewhere : ∀ entry ∈ logs, entry.seat ≠ place := fun entry member same =>
      distinct.1 (same ▸ round.seated entry member)
    rw [toldAt_append]
    rcases List.mem_cons.1 member with same | later
    · obtain ⟨rfl, rfl⟩ := Prod.mk.inj same
      have own : toldAt seat log = log := List.filter_eq_self.2 fun entry member => decide_eq_true (telling.seated entry member)
      rw [own, toldAt_eq_nil elsewhere, List.append_nil]
      exact telling
    · have seated : seat ∈ rest.map Prod.snd := List.mem_map.2 ⟨(number, seat), later, rfl⟩
      have differ : ∀ entry ∈ log, entry.seat ≠ seat := fun entry member same => by
        rw [telling.seated entry member] at same
        exact distinct.1 (same ▸ seated)
      rw [toldAt_eq_nil differ]
      exact ih distinct.2 later

/-- The seats of observers are their own, and only seats that are taken are told anything. -/
structure Seated (s : Station ρ) : Prop where
  distinct : (s.replica.observers.map Prod.snd).Nodup
  taken : ∀ seat ∈ s.replica.observers.map Prod.snd, seat < s.seats.length
  told : ∀ entry ∈ s.told, entry.seat < s.seats.length

variable {react : Reaction ρ} {settings : ReplicaSettings} {convert : Converter ρ} {s t : Station ρ} {steps : List (Step ρ)}

theorem Seated.moves (seated : s.Seated) (moves : Moves s t) : t.Seated := by
  cases moves with
  | rests _ observers => exact ⟨observers ▸ seated.distinct, observers ▸ seated.taken, seated.told⟩
  | commits staging _ observers round =>
    refine ⟨observers ▸ seated.distinct, observers ▸ seated.taken, fun entry member => ?_⟩
    rcases List.mem_append.1 member with before | new
    · exact seated.told entry before
    · exact seated.taken entry.seat (round.seated entry new)
  | joins =>
    -- The new seat is behind all others.
    have more : (s.seats ++ [s.replica.live.records]).length = s.seats.length + 1 := by simp
    have observers : (s.replica.observers ++ [(s.replica.nextObserver, s.seats.length)]).map Prod.snd =
        s.replica.observers.map Prod.snd ++ [s.seats.length] := by simp
    refine ⟨?_, fun seat member => ?_, fun entry member => ?_⟩
    · have new : s.seats.length ∉ s.replica.observers.map Prod.snd := fun member => by
        have before := seated.taken _ member
        omega
      simp only [Replica.addObserver, observers]
      exact List.nodup_append.2 ⟨seated.distinct, List.nodup_cons.2 ⟨List.not_mem_nil, List.nodup_nil⟩,
        fun seat old other last same => new (List.mem_singleton.1 last ▸ same ▸ old)⟩
    · simp only [Replica.addObserver, observers, List.mem_append, List.mem_singleton] at member
      rw [more]
      rcases member with old | rfl
      · have before := seated.taken seat old
        omega
      · omega
    · have before := seated.told entry member
      rw [more]
      omega
  | leaves number =>
    have fewer : ((s.replica.removeObserver number).2.observers.map Prod.snd).Sublist (s.replica.observers.map Prod.snd) :=
      List.filter_sublist.map Prod.snd
    exact ⟨seated.distinct.sublist fewer, fun seat member => seated.taken seat (fewer.subset member), seated.told⟩

theorem Run.seated (run : Run react (fresh settings convert) steps s) : s.Seated := by
  induction run with
  | start => exact ⟨List.nodup_nil, List.forall_mem_nil _, List.forall_mem_nil _⟩
  | next _ acts ih => exact ih.moves (act_moves acts)

/-- What a step is to the observer that keeps a seat: nothing, or a commit of which it is told everything. -/
inductive Attends (seat : Nat) (s t : Station ρ) : Option (Commit ρ) → Prop
  | nothing : t.replica.live = s.replica.live → toldAt seat t.told = toldAt seat s.told → Attends seat s t none
  | commit (staging : Staging ρ) : t.replica.live = (s.replica.live.commit staging).1 →
      (toldAt seat t.told).map Told.observation =
        (toldAt seat s.told).map Told.observation ++ (s.replica.live.commit staging).2.observations →
      Attends seat s t (some (s.replica.live.commit staging).2)

/-- An observer that does not fail and does not leave attends every step after the one that seated it. -/
theorem act_attends {action : Action} {answer : Except Fault Unit} (acts : act react action s = (answer, t)) (seated : s.Seated)
    (taken : seat < s.seats.length) (registered : (number, seat) ∈ t.replica.observers)
    (well : ∀ entry ∈ toldAt seat t.told, entry.answer = .ok ()) :
    (number, seat) ∈ s.replica.observers ∧ (∀ entry ∈ toldAt seat s.told, entry.answer = .ok ()) ∧
      t.seats[seat]? = s.seats[seat]? ∧ Attends seat s t (Step.commit? ⟨s, action, answer⟩) := by
  cases action with
  | arrive arrival =>
    have comes := s.replica.comes arrival
    obtain ⟨log, announced, _, rfl⟩ := act_arrive acts
    have before : (number, seat) ∈ s.replica.observers := comes.observers ▸ registered
    change ∀ entry ∈ toldAt seat (s.told ++ log), entry.answer = .ok () at well
    rw [toldAt_append] at well
    refine ⟨before, fun entry old => well entry (List.mem_append_left _ old), rfl, ?_⟩
    change Attends seat s _ (s.replica.take arrival).commit
    -- Only a commit is told of, and an observer that does not fail hears the whole of it.
    rcases comes.commits with ⟨quiet, same⟩ | ⟨staging, commits⟩
    · rw [Announced, quiet] at announced
      subst announced
      rw [quiet, telling_nil]
      exact .nothing same rfl
    · rw [commits] at announced ⊢
      have heard := (Round.telling announced seated.distinct before).heard fun entry new => well entry (List.mem_append_right _ new)
      refine .commit staging rfl ?_
      change (toldAt seat (s.told ++ log)).map Told.observation = _
      rw [toldAt_append, List.map_append, heard]
  | join =>
    cases acts
    rcases List.mem_append.1 registered with old | new
    · exact ⟨old, well, List.getElem?_append_left taken, .nothing rfl rfl⟩
    · have same : seat = s.seats.length := congrArg Prod.snd (List.mem_singleton.1 new)
      omega
  | leave gone =>
    cases acts
    exact ⟨(List.mem_filter.1 registered).1, well, rfl, .nothing rfl rfl⟩

section Attended

variable {β : Type} (Right : Keyed ρ → β → Prop) (start : Keyed ρ → β) (hear : β → Observation ρ → β)

/-- What every observer that has not failed keeps is right. -/
def Attended (s : Station ρ) : Prop :=
  ∀ number seat, (number, seat) ∈ s.replica.observers → (∀ entry ∈ toldAt seat s.told, entry.answer = .ok ()) →
    ∃ records, s.seats[seat]? = some records ∧
      Right s.replica.live.records (((toldAt seat s.told).map Told.observation).foldl hear (start records))

variable {Right start hear}

/-- What is right at the beginning and after every commit is right all the time. -/
theorem Run.attended (starts : ∀ records, Right records (start records))
    (commits : ∀ (c : Committed ρ) staging x, Right c.records x →
      Right (c.commit staging).1.records ((c.commit staging).2.observations.foldl hear x))
    (run : Run react (fresh settings convert) steps s) : s.Attended Right start hear := by
  induction run with
  | start => exact fun _ _ registered => absurd registered List.not_mem_nil
  | @next _ t action answer u previous acts attended =>
    have seated := previous.seated
    intro number seat registered well
    -- Whoever is registered now was registered before the step, or the step has seated it.
    by_cases before : seat < t.seats.length
    · obtain ⟨stayed, fine, same, attends⟩ := act_attends acts seated before registered well
      obtain ⟨records, taken, right⟩ := attended number seat stayed fine
      refine ⟨records, same.trans taken, ?_⟩
      generalize Step.commit? ⟨t, action, answer⟩ = commit at attends
      cases attends with
      | nothing live told =>
        rw [live, told]
        exact right
      | commit staging live told =>
        rw [live, told, List.foldl_append]
        exact commits _ staging _ right
    · have untaken : ∀ observers : List (Nat × Nat), (∀ place ∈ observers.map Prod.snd, place < t.seats.length) →
          (number, seat) ∉ observers := fun observers places member =>
        before (places seat (List.mem_map.2 ⟨_, member, rfl⟩))
      cases act_moves acts with
      | rests _ observers => exact absurd registered (observers ▸ untaken _ seated.taken)
      | commits _ _ observers => exact absurd registered (observers ▸ untaken _ seated.taken)
      | joins =>
        rcases List.mem_append.1 registered with old | new
        · exact absurd old (untaken _ seated.taken)
        · obtain ⟨rfl, rfl⟩ := Prod.mk.inj (List.mem_singleton.1 new)
          have untold : toldAt t.seats.length t.told = [] := toldAt_eq_nil fun entry member same => by
            have earlier := seated.told entry member
            omega
          refine ⟨t.replica.live.records, List.getElem?_concat_length, ?_⟩
          change Right t.replica.live.records (((toldAt t.seats.length t.told).map Told.observation).foldl hear _)
          rw [untold]
          exact starts _
      | leaves gone => exact absurd (List.mem_filter.1 registered).1 (untaken _ seated.taken)

end Attended

end Station

end ReferenceFeed
