import ReferenceFeed.Proofs.Payload
import ReferenceFeed.Proofs.Staged

namespace ReferenceFeed

/-!
Which events a transaction cannot refuse. A written entry can be completed; a stage whose block has begun takes every
update under its columns that belongs to its group, if it has one; and every removal.
-/

/-- An entry that may have been given some more groups. -/
structure Entry.Filled (entry filled : Entry) : Prop where
  id : filled.id = entry.id
  row : filled.row = entry.row
  groups : ∀ group value : String, entry.groups[group]? = some value → filled.groups[group]? = some value

theorem Entry.Filled.written {entry filled : Entry} {header : Header} (same : entry.Filled filled)
    (written : entry.Written header) : filled.Written header := by
  obtain ⟨rest, row, width⟩ := written
  exact ⟨rest, by rw [same.row, same.id, row], width⟩

namespace OriginSettings

variable {settings : OriginSettings} {entity : String} {header : Header} {entry filled : Entry}

/-- Only groups that an entry lacks are filled in. -/
theorem filled_foldl {missing : List String} (absent : ∀ group ∈ missing, entry.groups[group]? = none)
    (fieldOf : String → Field) : entry.Filled (missing.foldl (fun entry group =>
      match fieldOf group with
      | some value => entry.withGroup group value
      | none => entry) entry) := by
  have kept : ∀ (missing : List String) (now : Entry), (∀ group ∈ missing, entry.groups[group]? = none) → entry.Filled now →
      entry.Filled (missing.foldl (fun entry group =>
        match fieldOf group with
        | some value => entry.withGroup group value
        | none => entry) now) := by
    intro missing
    induction missing with
    | nil => exact fun now _ same => same
    | cons group rest ih =>
      intro now absent same
      refine ih _ (fun other member => absent other (List.mem_cons_of_mem _ member)) ?_
      dsimp only
      split
      · refine ⟨same.id, same.row, fun other held found => ?_⟩
        have different : group ≠ other := by
          rintro rfl
          rw [absent group List.mem_cons_self] at found
          cases found
        rw [Entry.withGroup, Keyed.getElem?_insert, if_neg different]
        exact same.groups other held found
      · exact same
  exact kept missing entry absent ⟨rfl, rfl, fun _ _ => id⟩

theorem complete_filled (complete : settings.complete entity header entry = .ok filled) : entry.Filled filled := by
  have absent : ∀ group ∈ (settings.groupsOf entity).filter (lacks header entry), entry.groups[group]? = none := by
    intro group member
    have lacking := (List.mem_filter.1 member).2
    simp only [lacks, Bool.and_eq_true, Bool.not_eq_true', Std.ExtTreeMap.contains_eq_isSome_getElem?] at lacking
    exact Option.isNone_iff_eq_none.1 (Option.isSome_eq_false_iff.1 lacking.1)
  unfold OriginSettings.complete at complete
  split at complete
  · cases complete
    exact ⟨rfl, rfl, fun _ _ => id⟩
  · split at complete
    · cases complete
    · next fields _ =>
      cases complete
      exact filled_foldl absent (fieldOf header fields)

/-- An entry with the groups that are filled in; one that cannot be read is left as it is. -/
def fill (settings : OriginSettings) (entity : String) (header : Header) (entry : Entry) : Entry :=
  ((settings.complete entity header entry).toOption).getD entry

theorem complete_eq_fill (complete : settings.complete entity header entry = .ok filled) :
    filled = settings.fill entity header entry := by
  rw [OriginSettings.fill, complete]
  rfl

theorem fill_filled (settings : OriginSettings) (entity : String) (header : Header) (entry : Entry) :
    entry.Filled (settings.fill entity header entry) := by
  rcases complete : settings.complete entity header entry with fault | filled
  · rw [OriginSettings.fill, complete]
    exact ⟨rfl, rfl, fun _ _ => id⟩
  · exact complete_eq_fill complete ▸ complete_filled complete

/-- An entry that is written can be completed. -/
theorem complete_ok (settings : OriginSettings) (entity : String) (written : entry.Written header) :
    ∃ filled, settings.complete entity header entry = .ok filled := by
  obtain ⟨rest, splits, _⟩ := written.fields
  unfold OriginSettings.complete
  split
  · exact ⟨entry, rfl⟩
  · rw [splits]
    exact ⟨_, rfl⟩

end OriginSettings

/-- A stage that an entry under some columns belongs to. -/
def Stage.Welcomes (header : Header) (entry : Entry) : Stage → Prop
  | .whole scratch _ => scratch.header = header
  | .group key _ _ => entry.groups[key.group]? = some key.value
  | .sparse _ _ => True

theorem Stage.Welcomes.filled {stage : Stage} {header : Header} {entry filled : Entry} (welcomes : stage.Welcomes header entry)
    (same : entry.Filled filled) : stage.Welcomes header filled := by
  cases stage with
  | whole => exact welcomes
  | group key => exact same.groups key.group key.value welcomes
  | sparse => trivial

/-- An event that a stage of its entity takes in whatever came before. -/
inductive Stage.Admits (entity : String) (stage : Stage) : Event → Prop
  | update {header entry} : entry.Written header → stage.Welcomes header entry → Admits entity stage (.update entity header entry)
  | remove {id} : Admits entity stage (.remove entity id)

/-- Two stages that welcome the same entries. -/
def Stage.Alike (stage other : Stage) : Prop := ∀ header entry, other.Welcomes header entry ↔ stage.Welcomes header entry

theorem Stage.Admits.alike {entity : String} {stage other : Stage} {event : Event} (admits : stage.Admits entity event)
    (alike : stage.Alike other) : other.Admits entity event := by
  cases admits with
  | update written welcomes => exact .update written ((alike _ _).2 welcomes)
  | remove => exact .remove

theorem Stage.Welcomes.update {stage : Stage} (entity : String) {header : Header} {entry : Entry} (begun : stage.begun = true)
    (welcomes : stage.Welcomes header entry) :
    ∃ next, stage.update entity header entry = .ok next ∧ next.begun = true ∧ stage.Alike next := by
  rcases stage with ⟨scratch, started⟩ | ⟨key, entries, started⟩ | ⟨updates, removes⟩
  · have agrees : checkHeader entity scratch.header header = .ok () := if_pos welcomes
    refine ⟨.whole (scratch.put entry) started, ?_, begun, fun _ _ => Iff.rfl⟩
    simp only [Stage.update, agrees]
    rfl
  · exact ⟨.group key (entries.insert entry.id entry) started, if_pos welcomes, begun, fun _ _ => Iff.rfl⟩
  · exact ⟨_, rfl, rfl, fun _ _ => Iff.rfl⟩

theorem Stage.remove_alike (stage : Stage) (id : String) :
    (stage.remove id).begun = stage.begun ∧ stage.Alike (stage.remove id) := by
  cases stage <;> exact ⟨rfl, fun _ _ => Iff.rfl⟩

/-- An event as it is told. -/
def Event.filled (settings : OriginSettings) : Event → Event
  | .update entity header entry => .update entity header (settings.fill entity header entry)
  | event => event

theorem Event.completed_eq_filled {settings : OriginSettings} {event told : Event} (complete : event.completed settings = .ok told) :
    event.filled settings = told := by
  cases event with
  | update entity header entry =>
    obtain ⟨filled, fills, rfl⟩ := map_ok complete
    rw [Event.filled, OriginSettings.complete_eq_fill fills]
  | reload | reloadGroup | block | remove =>
    cases complete
    rfl

/-- The events that replace something by some entries. -/
def replacing (marker : Event) (entity : String) (header : Header) (entries : List Entry) : List Event :=
  marker :: .block entity header :: entries.map (.update entity header ·)

theorem mem_replacing {marker event : Event} {entity : String} {header : Header} {entries : List Entry} :
    event ∈ replacing marker entity header entries ↔
      event = marker ∨ event = .block entity header ∨ ∃ entry ∈ entries, event = .update entity header entry := by
  simp only [replacing, List.mem_cons, List.mem_map, eq_comm]

theorem concerning_replacing {marker : Event} {entity : String} (own : marker.entity = entity) (header : Header)
    (entries : List Entry) (other : String) :
    concerning other (replacing marker entity header entries) =
      if entity = other then replacing marker entity header entries else [] := by
  refine concerning_own (fun event member => ?_) other
  rcases mem_replacing.1 member with rfl | rfl | ⟨entry, _, rfl⟩
  · exact own
  · rfl
  · rfl

namespace Stages

/-- Stages take events in one after another, and some events are told. -/
inductive Absorbs (settings : OriginSettings) (live : Keyed Store) : Stages → List Event → List Event → Stages → Prop
  | nil {stages} : Absorbs settings live stages [] [] stages
  | cons {stages event told next rest others last} : take settings live (some stages) event = .ok (told, next) →
      Absorbs settings live next rest others last → Absorbs settings live stages (event :: rest) (told :: others) last

variable {settings : OriginSettings} {live : Keyed Store} {stages next last : Stages} {events told : List Event}

/-- What is told is what was brought, as completed. -/
theorem Absorbs.completed (absorbs : Absorbs settings live stages events told next) :
    List.Forall₂ (fun event one => event.completed settings = .ok one) events told := by
  induction absorbs with
  | nil => exact .nil
  | cons took _ ih => exact .cons (take_ok took).1 ih

theorem Absorbs.told_eq (absorbs : Absorbs settings live stages events told next) : told = events.map (Event.filled settings) := by
  have same : List.Forall₂ (fun event one => event.filled settings = one) events told :=
    absorbs.completed.imp fun _ _ => Event.completed_eq_filled
  rw [← List.forall₂_map_left_iff, List.forall₂_eq_eq_eq] at same
  exact same.symm

theorem Absorbs.told_replacing {entity : String} {header : Header} {marker : Event} {entries : List Entry}
    (absorbs : Absorbs settings live stages (replacing marker entity header entries) told next) (marks : marker.isMarker = true) :
    told = replacing marker entity header (entries.map (settings.fill entity header)) := by
  have kept : marker.filled settings = marker := by
    cases marker with
    | reload | reloadGroup => rfl
    | block | update | remove => cases marks
  rw [absorbs.told_eq, replacing, List.map_cons, List.map_cons, List.map_map, kept, replacing, List.map_map]
  rfl

theorem Absorbs.mem_told (absorbs : Absorbs settings live stages events told next) :
    ∀ one ∈ told, ∃ event ∈ events, event.completed settings = .ok one := fun _ member =>
  exists_of_forall₂ absorbs.completed member

theorem Absorbs.mem_block (absorbs : Absorbs settings live stages events told next) {entity : String} {header : Header}
    (brought : .block entity header ∈ events) : .block entity header ∈ told := by
  obtain ⟨one, member, complete⟩ := exists_of_forall₂ absorbs.completed.flip brought
  cases complete
  exact member

theorem ready_stage {entity : String} {stage : Stage} (found : stages[entity]? = some stage) (begun : stage.begun = true) :
    ready (some stages) entity = .ok (stages, stage) := by
  simp only [ready, found, begun, if_true]

/-- One event that a stage admits. -/
theorem take_admitted (settings : OriginSettings) (live : Keyed Store) {entity : String} {stage : Stage} (found : stages[entity]? = some stage) (begun : stage.begun = true)
    {event : Event} (admits : stage.Admits entity event) :
    ∃ told after, take settings live (some stages) event = .ok (told, stages.insert entity after) ∧
      after.begun = true ∧ stage.Alike after := by
  have is_ready := ready_stage found begun
  cases admits with
  | @update header entry written welcomes =>
    obtain ⟨filled, complete⟩ := settings.complete_ok entity written
    obtain ⟨after, updates, still, alike⟩ :=
      (welcomes.filled (OriginSettings.complete_filled complete)).update entity begun
    refine ⟨.update entity header filled, after, ?_, still, alike⟩
    simp only [take, complete, is_ready, updates, bind, Except.bind]
    rfl
  | @remove id =>
    obtain ⟨still, alike⟩ := stage.remove_alike id
    refine ⟨.remove entity id, stage.remove id, ?_, still.trans begun, alike⟩
    simp only [take, is_ready, bind, Except.bind]
    rfl

/-- Where a block has begun, all that its stage admits is taken in, and nothing else is touched. -/
theorem absorbs_admitted (settings : OriginSettings) (live : Keyed Store) {entity : String} {stage : Stage} (found : stages[entity]? = some stage) (begun : stage.begun = true)
    {events : List Event} (admits : ∀ event ∈ events, stage.Admits entity event) :
    ∃ told next, Absorbs settings live stages events told next ∧ ∀ other, entity ≠ other → next[other]? = stages[other]? := by
  induction events generalizing stages stage with
  | nil => exact ⟨[], stages, .nil, fun _ _ => rfl⟩
  | cons event rest ih =>
    obtain ⟨told, after, takes, still, alike⟩ :=
      take_admitted settings live found begun (admits event List.mem_cons_self)
    have there : (stages.insert entity after)[entity]? = some after := by
      rw [Keyed.getElem?_insert, if_pos rfl]
    obtain ⟨others, next, absorbs, outside⟩ := ih there still fun other member =>
      (admits other (List.mem_cons_of_mem _ member)).alike alike
    refine ⟨told :: others, next, .cons takes absorbs, fun other different => ?_⟩
    rw [outside other different, Keyed.getElem?_insert, if_neg different]

theorem take_block {entity : String} {header : Header} {stage : Stage}
    (begins : Stage.begin live entity header stages[entity]? = .ok stage) :
    take settings live (some stages) (.block entity header) = .ok (.block entity header, stages.insert entity stage) := by
  simp only [take, begins, bind, Except.bind]
  rfl

/-- A marker, the block after it and the entries that replace something. -/
theorem absorbs_replacing (marked stage : Stage) {entity : String} {header : Header} {marker : Event} {entries : List Entry}
    (marks : take settings live (some stages) marker = .ok (marker, stages.insert entity marked))
    (begins : Stage.begin live entity header (some marked) = .ok stage) (begun : stage.begun = true)
    (written : ∀ entry ∈ entries, entry.Written header ∧ stage.Welcomes header entry) :
    ∃ told next, Absorbs settings live stages (replacing marker entity header entries) told next ∧
      ∀ other, entity ≠ other → next[other]? = stages[other]? := by
  have blocked : take settings live (some (stages.insert entity marked)) (.block entity header) =
      .ok (.block entity header, (stages.insert entity marked).insert entity stage) := by
    refine take_block ?_
    rw [Keyed.getElem?_insert, if_pos rfl]
    exact begins
  have there : ((stages.insert entity marked).insert entity stage)[entity]? = some stage := by
    rw [Keyed.getElem?_insert, if_pos rfl]
  have admitted : ∀ event ∈ entries.map (.update entity header ·), stage.Admits entity event := by
    intro event member
    obtain ⟨entry, inEntries, rfl⟩ := List.mem_map.1 member
    exact .update (written entry inEntries).1 (written entry inEntries).2
  obtain ⟨told, next, absorbs, outside⟩ := absorbs_admitted settings live there begun admitted
  refine ⟨_, next, .cons marks (.cons blocked absorbs), fun other different => ?_⟩
  rw [outside other different, Keyed.getElem?_insert, if_neg different, Keyed.getElem?_insert, if_neg different]

theorem mark_untouched {entity : String} (untouched : stages[entity]? = none) (otherwise : Violation) (stage : Stage) :
    mark (some stages) otherwise entity stage = .ok (stages.insert entity stage) := by
  have absent : stages.contains entity = false := by
    rw [Std.ExtTreeMap.contains_eq_isSome_getElem?, untouched]
    rfl
  simp only [mark, absent]
  rfl

/-- The whole content of an entity can be replaced if the transaction has not touched it. -/
theorem absorbs_whole (settings : OriginSettings) (live : Keyed Store) {entity : String} {header : Header} {entries : List Entry} (untouched : stages[entity]? = none)
    (written : ∀ entry ∈ entries, entry.Written header) :
    ∃ told next, Absorbs settings live stages (replacing (.reload entity header) entity header entries) told next ∧
      ∀ other, entity ≠ other → next[other]? = stages[other]? := by
  have marked := mark_untouched untouched .reloadOutside (.whole (.empty entity header) false)
  have agrees : checkHeader entity header header = .ok () := if_pos rfl
  refine absorbs_replacing (.whole (.empty entity header) false) (.whole (.empty entity header) true)
    ?_ ?_ rfl fun entry member => ⟨written entry member, rfl⟩
  · simp only [take, marked, bind, Except.bind]
    rfl
  · simp only [Stage.begin, Store.empty, agrees, bind, Except.bind]
    rfl

/-- What holds a group value can be replaced in an entity that is live under the same columns. -/
theorem absorbs_group {entity : String} {store : Store} {key : GroupValue} {entries : List Entry}
    (untouched : stages[entity]? = none) (declared : settings.checkGroup entity key.group = .ok ())
    (alive : live[entity]? = some store)
    (written : ∀ entry ∈ entries, entry.Written store.header ∧ entry.groups[key.group]? = some key.value) :
    ∃ told next, Absorbs settings live stages
        (replacing (.reloadGroup entity key.group key.value) entity store.header entries) told next ∧
      ∀ other, entity ≠ other → next[other]? = stages[other]? := by
  have marked := mark_untouched untouched .groupReloadOutside (.group key ∅ false)
  have found : liveStore live entity = .ok store := by rw [liveStore, alive]
  have agrees : checkHeader entity store.header store.header = .ok () := if_pos rfl
  refine absorbs_replacing (.group key ∅ false) (.group key ∅ true) ?_ ?_ rfl written
  · simp only [take, declared, found, marked, bind, Except.bind]
    rfl
  · simp only [Stage.begin, found, agrees, bind, Except.bind]
    rfl

/-- Single updates and removals of a live entity. -/
theorem absorbs_sparse {entity : String} {store : Store} {events : List Event} (untouched : stages[entity]? = none)
    (alive : live[entity]? = some store) (admits : ∀ event ∈ events, Stage.Admits entity (.sparse ∅ ∅) event) :
    ∃ told next, Absorbs settings live stages (.block entity store.header :: events) told next := by
  have found : liveStore live entity = .ok store := by rw [liveStore, alive]
  have agrees : checkHeader entity store.header store.header = .ok () := if_pos rfl
  have blocked : take settings live (some stages) (.block entity store.header) =
      .ok (.block entity store.header, stages.insert entity (.sparse ∅ ∅)) := by
    refine take_block ?_
    rw [untouched]
    simp only [Stage.begin, found, agrees, bind, Except.bind]
    rfl
  have there : (stages.insert entity (.sparse ∅ ∅))[entity]? = some (.sparse ∅ ∅) := by
    rw [Keyed.getElem?_insert, if_pos rfl]
  obtain ⟨told, next, absorbs, _⟩ := absorbs_admitted settings live there rfl admits
  exact ⟨_, next, .cons blocked absorbs⟩

end Stages

end ReferenceFeed
