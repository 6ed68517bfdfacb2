import Mathlib.Data.List.Induction
import ReferenceFeed.Origin.Commit
import ReferenceFeed.Proofs.Contents
import ReferenceFeed.Proofs.Effect

namespace ReferenceFeed

/-!
What the stages of a transaction are: the events that were taken in, sorted by entity and folded. The first event
of an entity decides what its stage replaces, and of several events about one id the last one counts.
-/

namespace Event

/-- What an event does to some entries. -/
def amend (entries : Keyed Entry) : Event → Keyed Entry
  | .update _ _ entry => entries.insert entry.id entry
  | .remove _ id => entries.erase id
  | .reload _ _ | .reloadGroup _ _ _ | .block _ _ => entries

/-- What an event says about an id: that it has an entry, that it has none, or nothing. -/
def word (id : String) : Event → Option (Option Entry)
  | .update _ _ entry => if entry.id = id then some (some entry) else none
  | .remove _ gone => if gone = id then some none else none
  | .reload _ _ | .reloadGroup _ _ _ | .block _ _ => none

/-- Whether an event announces that something is replaced as a whole. -/
def isMarker : Event → Bool
  | .reload _ _ | .reloadGroup _ _ _ => true
  | .block _ _ | .update _ _ _ | .remove _ _ => false

/-- The event as subscribers are told of it, with all groups that an origin can give an entry. -/
def completed (settings : OriginSettings) : Event → Except Failure Event
  | .update entity header entry => (settings.complete entity header entry).map (.update entity header ·)
  | event => .ok event

theorem completed_entity {settings : OriginSettings} {event told : Event} (complete : event.completed settings = .ok told) :
    told.entity = event.entity := by
  cases event with
  | update entity header entry =>
    obtain ⟨filled, _, rfl⟩ := map_ok complete
    rfl
  | reload | reloadGroup | block | remove => cases complete; rfl

end Event

/-- What some events do to some entries, one after another. -/
def amendAll (entries : Keyed Entry) (events : List Event) : Keyed Entry := events.foldl Event.amend entries

/-- The last that some events say about an id. -/
def lastWord (id : String) (events : List Event) : Option (Option Entry) := events.reverse.findSome? (Event.word id)

theorem amendAll_append (entries : Keyed Entry) (events : List Event) (event : Event) :
    amendAll entries (events ++ [event]) = event.amend (amendAll entries events) := by
  rw [amendAll, List.foldl_append]
  rfl

theorem lastWord_append (id : String) (events : List Event) (event : Event) :
    lastWord id (events ++ [event]) = (event.word id).or (lastWord id events) := by
  rw [lastWord, List.reverse_append, List.reverse_singleton, List.singleton_append, List.findSome?_cons]
  rcases event.word id with _ | word <;> rfl

theorem getElem?_amend (entries : Keyed Entry) (event : Event) (id : String) :
    (event.amend entries)[id]? = (event.word id).getD entries[id]? := by
  cases event with
  | update entity header entry =>
    rw [Event.amend, Keyed.getElem?_insert, Event.word]
    split <;> rfl
  | remove entity gone =>
    rw [Event.amend, Keyed.getElem?_erase, Event.word]
    split <;> rfl
  | reload | reloadGroup | block => rfl

/-- What is under an id in the end is what was said about it last. -/
theorem getElem?_amendAll (entries : Keyed Entry) (events : List Event) (id : String) :
    (amendAll entries events)[id]? = (lastWord id events).getD entries[id]? := by
  induction events using List.reverseRecOn with
  | nil => rfl
  | append_singleton events event ih =>
    rw [amendAll_append, getElem?_amend, lastWord_append, ih]
    rcases event.word id with _ | word <;> rfl

theorem OwnIds.amend {entries : Keyed Entry} (own : OwnIds entries) (event : Event) : OwnIds (event.amend entries) := by
  cases event with
  | update entity header entry => exact own.insert entry
  | remove entity id => exact own.erase id
  | reload | reloadGroup | block => exact own

theorem OwnIds.amendAll {entries : Keyed Entry} (own : OwnIds entries) (events : List Event) :
    OwnIds (amendAll entries events) := by
  induction events generalizing entries with
  | nil => exact own
  | cons event rest ih => exact ih (own.amend event)

/-- How an event that is taken in changes the stage of its entity. -/
inductive Stage.Takes (live : Keyed Store) : Option Stage → Event → Stage → Prop
  | reload {entity header} : Takes live none (.reload entity header) (.whole (.empty entity header) false)
  | reloadGroup {entity group value store} : live[entity]? = some store →
      Takes live none (.reloadGroup entity group value) (.group ⟨group, value⟩ ∅ false)
  | beginWhole {entity scratch begun} :
      Takes live (some (.whole scratch begun)) (.block entity scratch.header) (.whole scratch true)
  | beginGroup {entity store key entries begun} : live[entity]? = some store →
      Takes live (some (.group key entries begun)) (.block entity store.header) (.group key entries true)
  | beginAgain {entity store updates removes} : live[entity]? = some store →
      Takes live (some (.sparse updates removes)) (.block entity store.header) (.sparse updates removes)
  | begin {entity store} : live[entity]? = some store → Takes live none (.block entity store.header) (.sparse ∅ ∅)
  | updateWhole {entity scratch entry} :
      Takes live (some (.whole scratch true)) (.update entity scratch.header entry) (.whole (scratch.put entry) true)
  | updateGroup {entity header key entries entry} : entry.groups[key.group]? = some key.value →
      Takes live (some (.group key entries true)) (.update entity header entry)
        (.group key (entries.insert entry.id entry) true)
  | updateSparse {entity header updates removes entry} :
      Takes live (some (.sparse updates removes)) (.update entity header entry)
        (.sparse (updates.insert entry.id entry) (removes.erase entry.id))
  | removeWhole {entity scratch id} :
      Takes live (some (.whole scratch true)) (.remove entity id) (.whole (scratch.remove id) true)
  | removeGroup {entity key entries id} :
      Takes live (some (.group key entries true)) (.remove entity id) (.group key (entries.erase id) true)
  | removeSparse {entity updates removes id} :
      Takes live (some (.sparse updates removes)) (.remove entity id) (.sparse (updates.erase id) (removes.insert id))

theorem checkHeader_ok {entity : String} {expected got : Header} {done : Unit}
    (checked : checkHeader entity expected got = .ok done) : expected = got := by
  unfold checkHeader at checked
  split at checked
  · assumption
  · cases checked

theorem liveStore_ok {live : Keyed Store} {entity : String} {store : Store} (found : liveStore live entity = .ok store) :
    live[entity]? = some store := by
  unfold liveStore at found
  split at found
  · cases found
    assumption
  · cases found

namespace Stage

variable {live : Keyed Store} {entity : String} {header : Header} {stage next : Stage}

theorem live_header {done : Stage}
    (checked : (do checkHeader entity (← liveStore live entity).header header; return done) = .ok next) :
    ∃ store, live[entity]? = some store ∧ store.header = header ∧ done = next := by
  obtain ⟨store, found, rest⟩ := bind_ok checked
  obtain ⟨_, agrees, last⟩ := bind_ok rest
  exact ⟨store, liveStore_ok found, checkHeader_ok agrees, Except.ok.inj last⟩

theorem begin_ok {before : Option Stage} (begun : Stage.begin live entity header before = .ok next) :
    Takes live before (.block entity header) next := by
  rcases before with _ | (⟨scratch, started⟩ | ⟨key, entries, started⟩ | ⟨updates, removes⟩)
  · obtain ⟨store, alive, rfl, rfl⟩ := live_header begun
    exact .begin alive
  · obtain ⟨_, agrees, last⟩ := bind_ok begun
    cases checkHeader_ok agrees
    cases last
    exact .beginWhole
  · obtain ⟨store, alive, rfl, rfl⟩ := live_header begun
    exact .beginGroup alive
  · obtain ⟨store, alive, rfl, rfl⟩ := live_header begun
    exact .beginAgain alive

theorem update_ok {entry : Entry} (ready : stage.begun = true) (updated : stage.update entity header entry = .ok next) :
    Takes live (some stage) (.update entity header entry) next := by
  rcases stage with ⟨scratch, started⟩ | ⟨key, entries, started⟩ | ⟨updates, removes⟩
  · obtain ⟨_, agrees, last⟩ := bind_ok updated
    cases checkHeader_ok agrees
    cases ready
    cases last
    exact .updateWhole
  · cases ready
    simp only [Stage.update] at updated
    split at updated
    · next inside =>
      cases updated
      exact .updateGroup inside
    · cases updated
  · cases updated
    exact .updateSparse

theorem remove_takes (ready : stage.begun = true) (id : String) :
    Takes live (some stage) (.remove entity id) (stage.remove id) := by
  cases stage with
  | whole scratch begun => cases ready; exact .removeWhole
  | group key entries begun => cases ready; exact .removeGroup
  | sparse updates removes => exact .removeSparse

end Stage

namespace Stages

variable {settings : OriginSettings} {live : Keyed Store} {stages next : Stages} {event told : Event}

theorem mark_ok {otherwise : Violation} {entity : String} {stage : Stage}
    (marked : mark (some stages) otherwise entity stage = .ok next) :
    stages[entity]? = none ∧ next = stages.insert entity stage := by
  simp only [mark] at marked
  split at marked
  · cases marked
  · next untouched =>
    cases marked
    have absent : (stages[entity]?).isSome = false := by
      rw [← Std.ExtTreeMap.contains_eq_isSome_getElem?]
      exact Bool.eq_false_iff.2 untouched
    exact ⟨Option.isSome_eq_false_iff.1 absent |> Option.isNone_iff_eq_none.1, rfl⟩

theorem ready_ok {before : Option Stages} {entity : String} {stage : Stage}
    (is_ready : ready before entity = .ok (stages, stage)) :
    before = some stages ∧ stages[entity]? = some stage ∧ stage.begun = true := by
  unfold ready at is_ready
  split at is_ready
  · cases is_ready
  · split at is_ready
    · next found =>
      split at is_ready
      · next begun =>
        cases is_ready
        exact ⟨rfl, found, begun⟩
      · cases is_ready
    · cases is_ready

/-- An event that is taken in is told as completed, and changes the stage of its entity and no other. -/
theorem take_ok (took : take settings live (some stages) event = .ok (told, next)) :
    event.completed settings = .ok told ∧
      ∃ stage, next = stages.insert event.entity stage ∧ Stage.Takes live stages[event.entity]? told stage := by
  cases event with
  | reload entity header =>
    obtain ⟨marked, goes, last⟩ := bind_ok took
    cases last
    obtain ⟨absent, rfl⟩ := mark_ok goes
    exact ⟨rfl, _, rfl, absent ▸ .reload⟩
  | reloadGroup entity group value =>
    obtain ⟨_, _, rest⟩ := bind_ok took
    obtain ⟨store, found, rest⟩ := bind_ok rest
    obtain ⟨marked, goes, last⟩ := bind_ok rest
    cases last
    obtain ⟨absent, rfl⟩ := mark_ok goes
    exact ⟨rfl, _, rfl, absent ▸ .reloadGroup (liveStore_ok found)⟩
  | block entity header =>
    obtain ⟨stage, begun, last⟩ := bind_ok took
    cases last
    exact ⟨rfl, _, rfl, Stage.begin_ok begun⟩
  | update entity header entry =>
    obtain ⟨filled, complete, rest⟩ := bind_ok took
    obtain ⟨⟨_, stage⟩, is_ready, rest⟩ := bind_ok rest
    obtain ⟨same, found, begun⟩ := ready_ok is_ready
    cases same
    obtain ⟨updated, goes, last⟩ := bind_ok rest
    cases last
    refine ⟨?_, _, rfl, found ▸ Stage.update_ok begun goes⟩
    rw [Event.completed, complete]
    rfl
  | remove entity id =>
    obtain ⟨⟨_, stage⟩, is_ready, last⟩ := bind_ok took
    obtain ⟨same, found, begun⟩ := ready_ok is_ready
    cases same
    cases last
    exact ⟨rfl, _, rfl, found ▸ Stage.remove_takes begun id⟩

end Stages

theorem checkHeader_error {entity : String} {expected got : Header} :
    checkHeader entity expected got ≠ .error (.violation .foreignThread) := by
  unfold checkHeader
  split <;> simp

theorem liveStore_error {live : Keyed Store} {entity : String} : liveStore live entity ≠ .error (.violation .foreignThread) := by
  unfold liveStore
  split <;> simp

theorem OriginSettings.checkGroup_error {settings : OriginSettings} {entity group : String} :
    settings.checkGroup entity group ≠ .error (.violation .foreignThread) := by
  unfold OriginSettings.checkGroup
  split <;> simp

theorem OriginSettings.complete_error {settings : OriginSettings} {entity : String} {header : Header} {entry : Entry} :
    settings.complete entity header entry ≠ .error (.violation .foreignThread) := by
  unfold OriginSettings.complete
  repeat' split
  all_goals simp

namespace Stage

variable {live : Keyed Store} {entity : String} {header : Header}

theorem live_header_error {stage : Stage} :
    (do checkHeader entity (← liveStore live entity).header header; return stage) ≠ .error (.violation .foreignThread) :=
  bind_ne_error liveStore_error fun _ => bind_ne_error checkHeader_error fun _ => nofun

theorem begin_error {before : Option Stage} : Stage.begin live entity header before ≠ .error (.violation .foreignThread) := by
  rcases before with _ | (⟨scratch, begun⟩ | ⟨key, entries, begun⟩ | ⟨updates, removes⟩)
  · exact live_header_error
  · exact bind_ne_error checkHeader_error fun _ => nofun
  · exact live_header_error
  · exact live_header_error

theorem update_error {entry : Entry} {stage : Stage} :
    stage.update entity header entry ≠ .error (.violation .foreignThread) := by
  cases stage with
  | whole scratch begun => exact bind_ne_error checkHeader_error fun _ => nofun
  | group key entries begun =>
    simp only [Stage.update]
    split <;> simp
  | sparse updates removes => exact nofun

end Stage

namespace Stages

variable {stages : Option Stages} {entity : String}

theorem mark_error {otherwise : Violation} {stage : Stage} (other : otherwise ≠ .foreignThread) :
    mark stages otherwise entity stage ≠ .error (.violation .foreignThread) := by
  unfold mark
  split
  · simpa using other
  · split <;> simp

theorem ready_error : ready stages entity ≠ .error (.violation .foreignThread) := by
  unfold ready
  repeat' split
  all_goals simp

/-- Taking an event in does not depend on who calls. -/
theorem take_error {settings : OriginSettings} {live : Keyed Store} {event : Event} :
    take settings live stages event ≠ .error (.violation .foreignThread) := by
  cases event with
  | reload entity header => exact bind_ne_error (mark_error (by decide)) fun _ => nofun
  | reloadGroup entity group value =>
    refine bind_ne_error OriginSettings.checkGroup_error fun _ => bind_ne_error liveStore_error fun _ => ?_
    exact bind_ne_error (mark_error (by decide)) fun _ => nofun
  | block entity header =>
    cases stages with
    | none => exact nofun
    | some stages => exact bind_ne_error Stage.begin_error fun _ => nofun
  | update entity header entry =>
    refine bind_ne_error OriginSettings.complete_error fun _ => bind_ne_error ready_error fun _ => ?_
    exact bind_ne_error Stage.update_error fun _ => nofun
  | remove entity id => exact bind_ne_error ready_error fun _ => nofun

end Stages

/-- What a stage is after some events of its entity, none of which it has forgotten. -/
inductive Stage.Reflects (live : Keyed Store) (entity : String) : List Event → Option Stage → Prop
  | untouched : Reflects live entity [] none
  | whole {header : Header} {scratch : Store} {begun : Bool} {rest : List Event} (named : scratch.entity = entity)
      (columns : scratch.header = header) (sound : scratch.Sound) (entries : scratch.entries = amendAll ∅ rest) (flag : begun = !rest.isEmpty)
      (plain : ∀ event ∈ rest, event.isMarker = false) :
      Reflects live entity (.reload entity header :: rest) (some (.whole scratch begun))
  | group {key : GroupValue} {entries : Keyed Entry} {begun : Bool} {rest : List Event} {store : Store}
      (alive : live[entity]? = some store) (folded : entries = amendAll ∅ rest)
      (inside : ∀ (id : String) (entry : Entry), entries[id]? = some entry → entry.groups[key.group]? = some key.value)
      (flag : begun = !rest.isEmpty) (plain : ∀ event ∈ rest, event.isMarker = false) :
      Reflects live entity (.reloadGroup entity key.group key.value :: rest) (some (.group key entries begun))
  | sparse {updates : Keyed Entry} {removes : Names} {rest : List Event} {store : Store}
      (alive : live[entity]? = some store) (own : OwnIds updates) (apart : ∀ id ∈ removes, updates[id]? = none)
      (words : ∀ id, lastWord id rest = if id ∈ removes then some none else (updates[id]?).map some)
      (plain : ∀ event ∈ rest, event.isMarker = false) :
      Reflects live entity (.block entity store.header :: rest) (some (.sparse updates removes))

theorem plain_append {rest : List Event} {event : Event} (plain : ∀ event ∈ rest, event.isMarker = false)
    (last : event.isMarker = false) : ∀ other ∈ rest ++ [event], other.isMarker = false := by
  intro other member
  rcases List.mem_append.1 member with before | now
  · exact plain other before
  · rw [List.mem_singleton.1 now]
    exact last

theorem not_isEmpty_append (rest : List Event) (event : Event) : true = !(rest ++ [event]).isEmpty := by
  simp

namespace Stage

variable {live : Keyed Store} {entity : String} {events : List Event} {event : Event} {begun : Bool}

/-- How a reload goes on: the event does to the scratch store what it does to entries. -/
theorem Reflects.whole_append {scratch next : Store} (reflects : Reflects live entity events (some (.whole scratch begun)))
    (unmarked : event.isMarker = false) (named : next.entity = scratch.entity) (columns : next.header = scratch.header)
    (sound : scratch.Sound → next.Sound) (amended : next.entries = event.amend scratch.entries) :
    Reflects live entity (events ++ [event]) (some (.whole next true)) := by
  cases reflects with
  | whole was_named was_columns was_sound folded flag plain =>
    rw [List.cons_append]
    refine .whole (named.trans was_named) (columns.trans was_columns) (sound was_sound) ?_ (not_isEmpty_append _ _)
      (plain_append plain unmarked)
    rw [amended, folded, amendAll_append]

/-- How a group reload goes on: no event brings an entry of another group. -/
theorem Reflects.group_append {key : GroupValue} {entries : Keyed Entry}
    (reflects : Reflects live entity events (some (.group key entries begun))) (unmarked : event.isMarker = false)
    (brings : ∀ id entry, event.word id = some (some entry) → entry.groups[key.group]? = some key.value) :
    Reflects live entity (events ++ [event]) (some (.group key (event.amend entries) true)) := by
  cases reflects with
  | group alive folded inside flag plain =>
    rw [List.cons_append]
    refine .group alive ?_ (fun id entry found => ?_) (not_isEmpty_append _ _) (plain_append plain unmarked)
    · rw [folded, amendAll_append]
    · rw [getElem?_amend] at found
      rcases said : event.word id with _ | word
      · rw [said] at found
        exact inside id entry found
      · rw [said] at found
        cases found
        exact brings id entry said

/-- What a stage of changes says about an id. -/
def verdict (updates : Keyed Entry) (removes : Names) (id : String) : Option (Option Entry) :=
  if id ∈ removes then some none else (updates[id]?).map some

theorem verdict_update {updates : Keyed Entry} {removes : Names} {header : Header} {entry : Entry} (id : String) :
    verdict (updates.insert entry.id entry) (removes.erase entry.id) id =
      ((Event.update entity header entry).word id).or (verdict updates removes id) := by
  rw [verdict, verdict, Event.word, Keyed.getElem?_insert]
  by_cases same : entry.id = id
  · have kept : id ∉ removes.erase entry.id := fun member => (Names.mem_erase.1 member).1 same.symm
    rw [if_pos same, if_pos same, if_neg kept]
    rfl
  · have same_fate : id ∈ removes.erase entry.id ↔ id ∈ removes := by
      rw [Names.mem_erase]
      exact and_iff_right (Ne.symm same)
    simp only [if_neg same, same_fate, Option.none_or]

theorem verdict_remove {updates : Keyed Entry} {removes : Names} {gone : String} (id : String) :
    verdict (updates.erase gone) (removes.insert gone) id =
      ((Event.remove entity gone).word id).or (verdict updates removes id) := by
  rw [verdict, verdict, Event.word, Keyed.getElem?_erase]
  by_cases same : gone = id
  · rw [if_pos (Names.mem_insert.2 (.inl same.symm)), if_pos same]
    rfl
  · have same_fate : id ∈ removes.insert gone ↔ id ∈ removes := by
      rw [Names.mem_insert]
      exact or_iff_right (Ne.symm same)
    simp only [if_neg same, same_fate, Option.none_or]

/-- How a stage of changes goes on: the event has the last word. -/
theorem Reflects.sparse_append {updates amended : Keyed Entry} {removes removed : Names}
    (reflects : Reflects live entity events (some (.sparse updates removes))) (unmarked : event.isMarker = false)
    (own : OwnIds updates → OwnIds amended)
    (apart : (∀ id ∈ removes, updates[id]? = none) → ∀ id ∈ removed, amended[id]? = none)
    (words : ∀ id, verdict amended removed id = (event.word id).or (verdict updates removes id)) :
    Reflects live entity (events ++ [event]) (some (.sparse amended removed)) := by
  cases reflects with
  | sparse alive was_own was_apart was_said plain =>
    rw [List.cons_append]
    refine .sparse alive (own was_own) (apart was_apart) (fun id => ?_) (plain_append plain unmarked)
    rw [lastWord_append, was_said]
    exact (words id).symm

/-- Taking an event in keeps a stage true to what was taken in. -/
theorem Takes.reflects {before : Option Stage} {next : Stage} (takes : Takes live before event next)
    (here : event.entity = entity) (reflects : Reflects live entity events before) :
    Reflects live entity (events ++ [event]) (some next) := by
  cases takes with
  | reload =>
    cases here
    cases reflects
    exact .whole rfl rfl (Store.sound_empty _ _) rfl rfl (List.forall_mem_nil _)
  | @reloadGroup _ group value store alive =>
    cases here
    cases reflects
    have nothing : ∀ (id : String) (entry : Entry), (∅ : Keyed Entry)[id]? = some entry →
        entry.groups[group]? = some value := by
      intro id entry found
      rw [Std.ExtTreeMap.getElem?_empty] at found
      cases found
    exact @Reflects.group live _ ⟨group, value⟩ ∅ false [] store alive rfl nothing rfl (List.forall_mem_nil _)
  | begin alive =>
    cases here
    cases reflects
    refine .sparse alive OwnIds.empty (fun id _ => Std.ExtTreeMap.getElem?_empty) (fun id => ?_) (List.forall_mem_nil _)
    rw [if_neg Std.ExtTreeSet.not_mem_empty, Std.ExtTreeMap.getElem?_empty]
    rfl
  | beginWhole => exact reflects.whole_append rfl rfl rfl id rfl
  | beginGroup => exact reflects.group_append rfl nofun
  | beginAgain => exact reflects.sparse_append rfl id id fun _ => rfl
  | updateWhole => exact reflects.whole_append rfl rfl rfl (·.put _) rfl
  | removeWhole => exact reflects.whole_append rfl rfl rfl (·.remove _) rfl
  | @updateGroup _ header key entries entry inside =>
    refine reflects.group_append rfl fun id brought said => ?_
    rw [Event.word] at said
    split at said <;> cases said
    exact inside
  | removeGroup =>
    refine reflects.group_append rfl fun id brought said => ?_
    rw [Event.word] at said
    split at said <;> cases said
  | @updateSparse _ header updates removes entry =>
    refine reflects.sparse_append rfl (·.insert entry) (fun apart id member => ?_) verdict_update
    rw [Names.mem_erase] at member
    rw [Keyed.getElem?_insert, if_neg (Ne.symm member.1)]
    exact apart id member.2
  | @removeSparse _ updates removes gone =>
    refine reflects.sparse_append rfl (·.erase gone) (fun apart id member => ?_) verdict_remove
    rw [Keyed.getElem?_erase]
    split
    · rfl
    · next other =>
      rcases Names.mem_insert.1 member with same | before
      · exact absurd same.symm other
      · exact apart id before

end Stage

/-- The events of one entity. -/
def concerning (entity : String) (events : List Event) : List Event := events.filter fun event => event.entity = entity

theorem concerning_own {events : List Event} {entity : String} (own : ∀ event ∈ events, event.entity = entity) (other : String) :
    concerning other events = if entity = other then events else [] := by
  split
  · next here => exact List.filter_eq_self.2 fun event member => decide_eq_true ((own event member).trans here)
  · next differs =>
    exact List.filter_eq_nil_iff.2 fun event member here => differs ((own event member).symm.trans (of_decide_eq_true here))

theorem concerning_append_self {events : List Event} {event : Event} {entity : String} (here : event.entity = entity) :
    concerning entity (events ++ [event]) = concerning entity events ++ [event] := by
  rw [concerning, List.filter_append, List.filter_cons, if_pos (decide_eq_true here)]
  rfl

theorem concerning_append_other {events : List Event} {event : Event} {entity : String} (other : event.entity ≠ entity) :
    concerning entity (events ++ [event]) = concerning entity events := by
  rw [concerning, List.filter_append, List.filter_cons, if_neg (by simpa using other), List.filter_nil, List.append_nil]
  rfl

/-- The stages of a transaction that has taken some events in. -/
def Stages.Reflect (live : Keyed Store) (stages : Stages) (taken : List Event) : Prop :=
  ∀ entity, Stage.Reflects live entity (concerning entity taken) stages[entity]?

theorem Stages.Reflect.empty (live : Keyed Store) : Reflect live ∅ [] := by
  intro entity
  rw [Std.ExtTreeMap.getElem?_empty]
  exact .untouched

theorem Stages.Reflect.take {settings : OriginSettings} {live : Keyed Store} {stages next : Stages} {taken : List Event}
    {event told : Event} (reflect : Reflect live stages taken)
    (took : take settings live (some stages) event = .ok (told, next)) : Reflect live next (taken ++ [told]) := by
  obtain ⟨complete, stage, rfl, takes⟩ := take_ok took
  have same := Event.completed_entity complete
  intro entity
  rw [Keyed.getElem?_insert]
  by_cases here : event.entity = entity
  · rw [if_pos here, concerning_append_self (same.trans here)]
    refine takes.reflects (same.trans here) ?_
    rw [here]
    exact reflect entity
  · rw [if_neg here, concerning_append_other (same ▸ here)]
    exact reflect entity

end ReferenceFeed
