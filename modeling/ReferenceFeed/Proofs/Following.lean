import ReferenceFeed.Proofs.Commitment
import ReferenceFeed.Proofs.Station

namespace ReferenceFeed

/-!
What readers of a replica see after a transaction, and when that is what readers of the store see. A replica takes
out what is removed wherever it is; a store that replaces a group knows nothing of removals outside of the group.
-/

namespace Committed

variable {ρ : Type} {c : Committed ρ} {view : String → Option (ρ × Keyed String)}

/-- What readers see, said as one look-up. -/
structure Shows (c : Committed ρ) (view : String → Option (ρ × Keyed String)) : Prop where
  records : ∀ id : String, c.records[id]? = (view id).map Prod.fst
  indexed : c.membership.Indexes fun id => ((view id).map Prod.snd).getD ∅

theorem shows_empty : ({} : Committed ρ).Shows fun _ => none where
  records _ := Std.ExtTreeMap.getElem?_empty
  indexed := Membership.indexes_empty

theorem Shows.congr (shows : c.Shows view) {other : String → Option (ρ × Keyed String)} (same : ∀ id, other id = view id) :
    c.Shows other := by
  have equal : other = view := funext same
  rw [equal]
  exact shows

theorem Shows.erase (shows : c.Shows view) (gone : String) :
    ({ c with records := c.records.erase gone, membership := c.membership.remove gone } : Committed ρ).Shows
      fun id => if id = gone then none else view id where
  records id := by
    rw [Keyed.getElem?_erase, shows.records]
    by_cases same : id = gone
    · rw [if_pos same, if_pos same.symm]
      rfl
    · rw [if_neg same, if_neg (Ne.symm same)]
  indexed := by
    have moved : (fun id => ((if id = gone then none else view id).map Prod.snd).getD ∅) =
        Membership.reassign (fun id => ((view id).map Prod.snd).getD ∅) gone ∅ := by
      funext id
      rw [Membership.reassign]
      split <;> rfl
    rw [moved]
    exact shows.indexed.remove gone

theorem Shows.insert (shows : c.Shows view) (new : String) (record : ρ) (groups : Keyed String) :
    ({ c with records := c.records.insert new record, membership := c.membership.insert new groups } : Committed ρ).Shows
      fun id => if id = new then some (record, groups) else view id where
  records id := by
    rw [Keyed.getElem?_insert, shows.records]
    by_cases same : id = new
    · rw [if_pos same, if_pos same.symm]
      rfl
    · rw [if_neg same, if_neg (Ne.symm same)]
  indexed := by
    have moved : (fun id => ((if id = new then some (record, groups) else view id).map Prod.snd).getD ∅) =
        Membership.reassign (fun id => ((view id).map Prod.snd).getD ∅) new groups := by
      funext id
      rw [Membership.reassign]
      split <;> rfl
    rw [moved]
    exact shows.indexed.insert new groups

theorem Shows.without (shows : c.Shows view) (ids : Names) :
    (c.without ids).Shows fun id => if id ∈ ids then none else view id := by
  have all : ∀ (list : List String) (c : Committed ρ) (view : String → Option (ρ × Keyed String)), c.Shows view →
      (list.foldl (fun c id => { c with records := c.records.erase id, membership := c.membership.remove id }) c).Shows
        fun id => if id ∈ list then none else view id := by
    intro list
    induction list with
    | nil => exact fun _ _ shows => shows.congr fun id => if_neg List.not_mem_nil
    | cons gone rest ih =>
      intro c view shows
      refine (ih _ _ (shows.erase gone)).congr fun id => ?_
      by_cases first : id = gone
      · simp [first]
      · simp [first]
  refine (all ids.toList c view shows).congr fun id => ?_
  simp only [Std.ExtTreeSet.mem_toList]

/-- Staged records are put in under different ids, so their order does not matter. -/
theorem Shows.including (shows : c.Shows view) (updated : Keyed (ρ × Keyed String)) :
    (c.including updated).Shows fun id => (updated[id]?).or (view id) := by
  have all : ∀ (list : List (String × ρ × Keyed String)) (c : Committed ρ) (view : String → Option (ρ × Keyed String)),
      c.Shows view → (list.map Prod.fst).Nodup → ∃ after, (list.foldl (fun c pair =>
        { c with records := c.records.insert pair.1 pair.2.1, membership := c.membership.insert pair.1 pair.2.2 }) c).Shows after ∧
          (∀ pair ∈ list, after pair.1 = some pair.2) ∧ ∀ id, id ∉ list.map Prod.fst → after id = view id := by
    intro list
    induction list with
    | nil => exact fun c view shows _ => ⟨view, shows, List.forall_mem_nil _, fun _ _ => rfl⟩
    | cons pair rest ih =>
      rcases pair with ⟨new, record, groups⟩
      intro c view shows distinct
      rw [List.map_cons, List.nodup_cons] at distinct
      obtain ⟨after, shows, inside, outside⟩ := ih _ _ (shows.insert new record groups) distinct.2
      refine ⟨after, shows, fun pair member => ?_, fun id unsaid => ?_⟩
      · rcases List.mem_cons.1 member with rfl | later
        · exact (outside new distinct.1).trans (if_pos rfl)
        · exact inside pair later
      · rw [List.map_cons, List.mem_cons, not_or] at unsaid
        exact (outside id unsaid.2).trans (if_neg unsaid.1)
  have distinct := Keyed.nodup_toList updated
  obtain ⟨after, shown, inside, outside⟩ := all updated.toList c view shows distinct
  refine shown.congr fun id => ?_
  rcases found : updated[id]? with _ | pair
  · refine (outside id fun member => ?_).symm
    obtain ⟨⟨other, pair⟩, inList, rfl⟩ := List.mem_map.1 member
    rw [Std.ExtTreeMap.mem_toList_iff_getElem?_eq_some.1 inList] at found
    cases found
  · exact (inside (id, pair) (Std.ExtTreeMap.mem_toList_iff_getElem?_eq_some.2 found)).symm

/-- A commit puts the staged records over what is neither removed nor replaced. -/
theorem Shows.commit (shows : c.Shows view) (s : Staging ρ) : (c.commit s).1.Shows fun id =>
    (s.updated[id]?).or (if id ∈ s.removed ∨ id ∈ c.within s.scope then none else view id) := by
  have kept := (shows.without (c.leaving s)).including s.updated
  have same : (c.commit s).1.Shows fun id => (s.updated[id]?).or (if id ∈ c.leaving s then none else view id) :=
    ⟨kept.records, kept.indexed⟩
  refine same.congr fun id => ?_
  rcases found : s.updated[id]? with _ | pair
  · have missing : s.updated.contains id = false := by
      rw [Std.ExtTreeMap.contains_eq_isSome_getElem?, found]
      rfl
    rcases there : view id with _ | old
    · simp
    · have present : c.records.contains id = true := by
        rw [Std.ExtTreeMap.contains_eq_isSome_getElem?, shows.records, there]
        rfl
      have leaves : id ∈ c.leaving s ↔ id ∈ s.removed ∨ id ∈ c.within s.scope := by
        simp [leaving, Std.ExtTreeSet.mem_filter, missing, present]
      simp only [leaves]
  · rfl

end Committed

/-- A converter that keeps rows as they are, and never fails. -/
def rowOf : Converter String := fun _ entry => .ok entry.row

namespace Staging

/-- What an event does to what is staged, when rows are kept as they are. -/
def heed (s : Staging String) : Event → Staging String
  | .reload _ header => reload header
  | .reloadGroup _ group value => s.reloadGroup ⟨group, value⟩
  | .block _ header => { s with header := some header }
  | .update _ _ entry => s.update entry entry.row
  | .remove _ id => s.remove id

/-- What is staged is the last word on each id. -/
structure Words (s : Staging String) (events : List Event) : Prop where
  updated : ∀ id : String, s.updated[id]? = ((lastWord id events).join).map fun entry => (entry.row, entry.groups)
  removed : ∀ id : String, id ∈ s.removed ↔ lastWord id events = some none

theorem words_empty : Words {} [] where
  updated _ := Std.ExtTreeMap.getElem?_empty
  removed _ := iff_of_false Std.ExtTreeSet.not_mem_empty (by simp [lastWord])

/-- An event that says nothing about ids changes no word. -/
theorem Words.silent {s : Staging String} {events : List Event} (words : s.Words events) {event : Event}
    (silent : ∀ id, event.word id = none) {next : Staging String} (updated : next.updated = s.updated)
    (removed : next.removed = s.removed) : next.Words (events ++ [event]) where
  updated id := by rw [updated, lastWord_append, silent, Option.none_or, words.updated]
  removed id := by rw [removed, lastWord_append, silent, Option.none_or, words.removed]

theorem Words.heed {s : Staging String} {events : List Event} (words : s.Words events) {event : Event}
    (plain : event.isMarker = false) : (s.heed event).Words (events ++ [event]) ∧ (s.heed event).scope = s.scope := by
  refine ⟨?_, by cases event <;> first | rfl | cases plain⟩
  cases event with
  | reload | reloadGroup => cases plain
  | block entity header => exact words.silent (fun _ => rfl) rfl rfl
  | update entity header entry =>
    refine ⟨fun id => ?_, fun id => ?_⟩
    · rw [lastWord_append, Event.word, Staging.heed, Staging.update, Keyed.getElem?_insert, words.updated]
      by_cases same : entry.id = id
      · rw [if_pos same, if_pos same]
        rfl
      · rw [if_neg same, if_neg same, Option.none_or]
    · rw [lastWord_append, Event.word, Staging.heed, Staging.update, Names.mem_erase, words.removed]
      by_cases same : entry.id = id
      · simp [same]
      · simp [same, Ne.symm same]
  | remove entity gone =>
    refine ⟨fun id => ?_, fun id => ?_⟩
    · rw [lastWord_append, Event.word, Staging.heed, Staging.remove, Keyed.getElem?_erase, words.updated]
      by_cases same : gone = id
      · rw [if_pos same, if_pos same]
        rfl
      · rw [if_neg same, if_neg same, Option.none_or]
    · rw [lastWord_append, Event.word, Staging.heed, Staging.remove, Names.mem_insert, words.removed]
      by_cases same : gone = id
      · simp [same]
      · simp [same, Ne.symm same]

/-- All that some events stage. -/
def after (events : List Event) : Staging String := events.foldl heed {}

theorem after_append (events : List Event) (event : Event) : after (events ++ [event]) = (after events).heed event := by
  rw [after, List.foldl_append]
  rfl

/-- What the first event of a transaction makes a replica replace. -/
def scopeOf : Event → Scope
  | .reload _ _ => .everything
  | .reloadGroup _ group value => .groups [⟨group, value⟩]
  | .block _ _ | .update _ _ _ | .remove _ _ => .mentioned

/-- Where only the first event is a marker, it decides the scope, and the others have the words. -/
theorem after_cons {first : Event} {rest : List Event} (silent : ∀ id, first.word id = none)
    (plain : ∀ event ∈ rest, event.isMarker = false) :
    (after (first :: rest)).Words rest ∧ (after (first :: rest)).scope = scopeOf first := by
  induction rest using List.reverseRecOn with
  | nil =>
    cases first with
    | reload | reloadGroup | block => exact ⟨⟨words_empty.updated, words_empty.removed⟩, rfl⟩
    | update entity header entry => simp [Event.word] at silent
    | remove entity id => simp [Event.word] at silent
  | append_singleton rest event ih =>
    obtain ⟨words, scope⟩ := ih fun other member => plain other (List.mem_append_left _ member)
    obtain ⟨next, same⟩ := words.heed (plain event (List.mem_append_right _ (List.mem_singleton_self _)))
    rw [← List.cons_append, after_append]
    exact ⟨next, same.trans scope⟩

end Staging

/-- What readers of a store see. -/
def storeView (store : Option Store) (id : String) : Option (String × Keyed String) :=
  (store.bind (·.get? id)).map fun entry => (entry.row, entry.groups)

/-- A group is replaced, and something outside of it is removed. -/
def Strays (before : Option Store) (events : List Event) : Prop :=
  ∃ entity group value rest id entry, events = .reloadGroup entity group value :: rest ∧ lastWord id rest = some none ∧
    before.bind (·.get? id) = some entry ∧ entry.groups[group]? ≠ some value

variable {c : Committed String} {before after : Option Store} {first : Event} {rest : List Event}

theorem Settles.silent (settles : Settles before after (first :: rest)) (id : String) : first.word id = none := by
  cases first with
  | reload | reloadGroup | block => rfl
  | update | remove => exact settles.elim

/-- What readers of a replica see after the events of a transaction. -/
theorem Committed.Shows.events (shows : c.Shows (storeView before)) (silent : ∀ id, first.word id = none)
    (plain : ∀ event ∈ rest, event.isMarker = false) :
    (c.commit (Staging.after (first :: rest))).1.Shows fun id =>
      (((lastWord id rest).join).map fun entry => (entry.row, entry.groups)).or
        (if lastWord id rest = some none ∨ id ∈ c.within (Staging.scopeOf first) then none else storeView before id) := by
  obtain ⟨words, scope⟩ := Staging.after_cons silent plain
  refine (shows.commit _).congr fun id => ?_
  simp only [words.updated, words.removed, scope]

theorem mem_within_group (shows : c.Shows (storeView before)) {group value id : String} :
    id ∈ c.within (.groups [⟨group, value⟩]) ↔
      ∃ entry, before.bind (·.get? id) = some entry ∧ entry.groups[group]? = some value := by
  have held : id ∈ c.within (.groups [⟨group, value⟩]) ↔ id ∈ c.membership.of ⟨group, value⟩ := by
    simp [Committed.within, Std.ExtTreeSet.mem_union_iff]
  rw [held, shows.indexed.mem_of, storeView]
  rcases before.bind (·.get? id) with _ | entry
  · simp
  · simp

/-- A replica shows what the store does, unless something strays. -/
theorem Settles.shown (settles : Settles before after (first :: rest)) (plain : ∀ event ∈ rest, event.isMarker = false)
    (shows : c.Shows (storeView before)) (inside : ¬Strays before (first :: rest)) :
    (c.commit (Staging.after (first :: rest))).1.Shows (storeView after) := by
  refine (shows.events settles.silent plain).congr fun id => ?_
  cases first with
  | reload entity header =>
    obtain ⟨new, rfl, _, _, entries⟩ := settles
    have found : new.get? id = (lastWord id rest).join := by
      rw [Store.get?, entries, getElem?_amendAll, Std.ExtTreeMap.getElem?_empty]
      rcases lastWord id rest with _ | _ | entry <;> rfl
    have gone : (if lastWord id rest = some none ∨ id ∈ c.within (Staging.scopeOf (.reload entity header)) then none
        else storeView before id) = none := by
      rcases seen : storeView before id with _ | pair
      · exact ite_self _
      · refine if_pos (.inr (Keyed.mem_names.2 ?_))
        rw [shows.records, seen]
        rfl
    rw [gone, Option.or_none, storeView, Option.bind_some, found]
  | reloadGroup entity group value =>
    obtain ⟨old, new, rfl, rfl, _, _, entries⟩ := settles
    have held : id ∈ c.within (.groups [⟨group, value⟩]) ↔
        ∃ entry, (some old).bind (·.get? id) = some entry ∧ entry.groups[group]? = some value := mem_within_group shows
    rw [storeView, Option.bind_some, entries, getElem?_amendAll, Std.ExtTreeMap.getElem?_empty]
    simp only [Staging.scopeOf, held, Option.bind_some]
    rcases word : lastWord id rest with _ | _ | entry
    · rcases there : old.get? id with _ | entry
      · simp [storeView, there]
      · by_cases member : entry.groups[group]? = some value
        · simp [member, Option.filter]
        · simp [storeView, there, member, Option.filter]
    · rcases there : old.get? id with _ | entry
      · simp
      · by_cases member : entry.groups[group]? = some value
        · simp [member, Option.filter]
        · exact absurd ⟨entity, group, value, rest, id, entry, rfl, word, there, member⟩ inside
    · simp
  | block entity header =>
    obtain ⟨old, new, rfl, rfl, _, _, _, entries⟩ := settles
    have found : new.get? id = (lastWord id rest).getD (old.get? id) := by
      rw [Store.get?, entries, getElem?_amendAll]
      rfl
    have unscoped : id ∉ c.within (Staging.scopeOf (.block entity header)) := Std.ExtTreeSet.not_mem_empty
    simp only [storeView, Option.bind_some, found, unscoped, or_false]
    rcases lastWord id rest with _ | _ | entry
    · simp
    · simp
    · simp
  | update | remove => exact settles.elim

/-- What strays is gone from the replica and stays in the store. -/
theorem Settles.strayed (settles : Settles before after (first :: rest)) (plain : ∀ event ∈ rest, event.isMarker = false)
    (shows : c.Shows (storeView before)) (strays : Strays before (first :: rest)) :
    ∃ id : String, (storeView after id).isSome = true ∧ (c.commit (Staging.after (first :: rest))).1.records[id]? = none := by
  have shown := shows.events settles.silent plain
  obtain ⟨entity, group, value, rest, id, entry, same, word, there, outside⟩ := strays
  cases same
  obtain ⟨old, new, rfl, rfl, _, _, entries⟩ := settles
  rw [Option.bind_some] at there
  refine ⟨id, ?_, ?_⟩
  · rw [storeView, Option.bind_some, entries, getElem?_amendAll, word, there]
    simp [Option.filter, outside]
  · rw [shown.records, word, if_pos (.inl rfl)]
    rfl

namespace Replica

variable {ω : Type} {r : Replica String ω}

/-- A replica that has received some calls. -/
def heeding (r : Replica String ω) (signals : List Signal) : Replica String ω :=
  signals.foldl (fun r signal => (r.receive signal).replica) r

theorem heeding_append (r : Replica String ω) (first second : List Signal) :
    r.heeding (first ++ second) = (r.heeding first).heeding second := List.foldl_append

/-- A replica that keeps rows can stage every event. -/
theorem stage_ok (converts : r.convert = rowOf) (s : Staging String) (event : Event) : r.stage s event = .ok (s.heed event) := by
  cases event with
  | update entity header entry =>
    rw [stage, converted, converts]
    rfl
  | reload | reloadGroup | block | remove => rfl

theorem stages_events (converts : r.convert = rowOf) (s : Staging String) (events : List Event) :
    events.foldlM r.stage s = .ok (events.foldl Staging.heed s) := by
  induction events generalizing s with
  | nil => rfl
  | cons event rest ih =>
    rw [List.foldlM_cons, stage_ok converts]
    exact ih (s.heed event)

/-- An event of its own entity is never refused by a replica that keeps rows. -/
theorem event_ok (converts : r.convert = rowOf) {s : Staging String} (opened : r.phase = .opened s) {event : Event}
    (own : event.entity = r.entity) : r.event event = .ok { r with phase := .opened (s.heed event) } := by
  rw [event_opened opened own, stage_ok converts]
  rfl

theorem receive_event (converts : r.convert = rowOf) {s : Staging String} (opened : r.phase = .opened s) {event : Event}
    (own : event.entity = r.entity) :
    r.receive (.event event) = ⟨.ok (), { r with phase := .opened (s.heed event) }, none, []⟩ := by
  rw [receive, event_ok converts opened own]

/-- Where a replica is after the events of an open transaction. -/
theorem heeding_events (converts : r.convert = rowOf) (idle : r.phase = .idle) {events : List Event}
    (own : ∀ event ∈ events, event.entity = r.entity) :
    r.heeding (.start :: events.map .event) = { r with phase := .opened (Staging.after events) } := by
  induction events using List.reverseRecOn with
  | nil =>
    have started : r.start = .ok { r with phase := .opened {} } := by rw [start, idle]
    simp only [heeding, List.map_nil, List.foldl_cons, List.foldl_nil, receive, started]
    rfl
  | append_singleton events event ih =>
    have before := ih fun other member => own other (List.mem_append_left _ member)
    rw [List.map_append, ← List.cons_append, heeding_append, before, Staging.after_append]
    have last := receive_event (r := { r with phase := .opened (Staging.after events) }) converts rfl
      (own event (List.mem_append_right _ (List.mem_singleton_self _)))
    simp only [heeding, List.map_cons, List.map_nil, List.foldl_cons, List.foldl_nil, last]

/-- A replica of an entity that shows what its store does, with no transaction open. -/
structure Follows (r : Replica String ω) (entity : String) (store : Option Store) : Prop where
  named : r.entity = entity
  converts : r.convert = rowOf
  idle : r.phase = .idle
  shows : r.live.Shows (storeView store)

/-- What a finished transaction makes of a replica. -/
theorem heeding_finished (converts : r.convert = rowOf) (idle : r.phase = .idle) {events : List Event}
    (own : ∀ event ∈ events, event.entity = r.entity) :
    r.heeding (.start :: events.map .event ++ [.finish]) =
      { r with live := (r.live.commit (Staging.after events)).1, phase := .idle, loaded := true } := by
  rw [heeding_append, heeding_events converts idle own]
  rfl

/-- The records of a replica are the rows of a store, and its memberships are those of the store. -/
structure Mirrors (r : Replica String ω) (store : Option Store) : Prop where
  records : r.live.records = ((store.map Store.entries).getD ∅).map fun _ entry => entry.row
  membership : r.live.membership = (store.map Store.membership).getD ∅

theorem Follows.mirrors {entity : String} {store : Option Store} (follows : r.Follows entity store)
    (sound : ∀ found, store = some found → found.Sound) : r.Mirrors store where
  records := by
    refine Std.ExtTreeMap.ext_getElem? fun {id} => ?_
    rw [follows.shows.records, Std.ExtTreeMap.getElem?_map]
    rcases store with _ | store
    · simp [storeView]
    · simp [storeView, Store.get?, Function.comp_def]
  membership := by
    refine follows.shows.indexed.unique ?_
    rcases store with _ | store
    · exact Membership.indexes_empty
    · refine (sound store rfl).indexed.congr fun id => ?_
      rw [Store.groupsAt, storeView, Option.bind_some]
      rcases store.get? id <;> rfl

end Replica

end ReferenceFeed
