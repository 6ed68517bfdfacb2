import Mathlib.Data.Set.List
import ReferenceFeed.Origin
import ReferenceFeed.Proofs.CompositeId
import ReferenceFeed.Proofs.Source

namespace ReferenceFeed

/-!
What is fetched from the tables of a source. Of some ids those are fetched that have a row, each with the entry that its
row makes, and of a whole entity all of them. An id that is taken apart and put together again is the same id.
-/

namespace Feed

/-- A feed of results that ends well has no failure in it. -/
theorem ofResults_ok {results : List (Except Failure Event)} {done : Unit} (well : (ofResults results).ending = .ok done) :
    ∃ events : List Event, results = events.map .ok := by
  induction results with
  | nil => exact ⟨[], rfl⟩
  | cons result rest ih =>
    cases result with
    | error cause => cases well
    | ok event =>
      obtain ⟨events, rfl⟩ := ih well
      exact ⟨event :: events, rfl⟩

end Feed

/-- The entry of an entity that an event brings. -/
def Event.brings (entity : String) : Event → Option Entry
  | .update other _ entry => if other = entity then some entry else none
  | .reload _ _ | .reloadGroup _ _ _ | .block _ _ | .remove _ _ => none

namespace Recorder

theorem entriesOf_eq (r : Recorder) (entity : String) : r.entriesOf entity = r.events.filterMap (Event.brings entity) := by
  refine List.filterMap_congr fun event _ => ?_
  cases event <;> rfl

theorem receiveAll_ofEvents {r : Recorder} (opened : r.isOpen = true) (events : List Event) :
    r.receiveAll (Feed.ofEvents events).signals = .ok { r with events := r.events ++ events } := by
  induction events generalizing r with
  | nil => rw [List.append_nil]; rfl
  | cons event rest ih =>
    have received : r.receive (.event event) = .ok { r with events := r.events ++ [event] } := if_pos opened
    have later := ih (r := { r with events := r.events ++ [event] }) opened
    rw [List.append_assoc, List.singleton_append] at later
    change r.receiveAll (.event event :: (Feed.ofEvents rest).signals) = _
    rw [receiveAll, received]
    exact later

end Recorder

namespace Origin

variable {feed : Feed} {entity : String} {entries : List Entry}

theorem collect_ofEvents (events : List Event) (entity : String) :
    collect (.ofEvents events) entity = .ok (events.filterMap (Event.brings entity)) := by
  have recorded := Recorder.receiveAll_ofEvents (r := ⟨true, false, []⟩) rfl events
  rw [List.nil_append] at recorded
  have started : ({} : Recorder).receiveAll (.start :: (Feed.ofEvents events).signals) = .ok ⟨true, false, events⟩ := recorded
  rw [collect, started]
  exact congrArg Except.ok (Recorder.entriesOf_eq ⟨false, true, events⟩ entity)

theorem ending_of_collect (collects : collect feed entity = .ok entries) : feed.ending = .ok () := by
  unfold collect at collects
  split at collects
  · cases collects
  · split at collects
    · cases collects
    · assumption

end Origin

namespace Table

variable {t : Table} {entity id : String} {fields : List Field}

/-- The entry that is sent for an id, if it has a row. -/
def sentFor (t : Table) (id : String) : Option Entry := (t.rows[id]?).map (t.sent id)

theorem sentFor_id {entry : Entry} (found : t.sentFor id = some entry) : entry.id = id := by
  obtain ⟨fields, _, rfl⟩ := Option.map_eq_some_iff.1 found
  rfl

theorem sentFor_row (t : Table) (id : String) : (t.sentFor id).map Entry.row = (t.rows[id]?).map Row.render := by
  rw [sentFor, Option.map_map]
  rfl

theorem Sound.sentFor_written (sound : t.Sound) {entry : Entry} (found : t.sentFor id = some entry) :
    entry.Written t.header := by
  obtain ⟨fields, stored, rfl⟩ := Option.map_eq_some_iff.1 found
  exact sent_written (sound id fields stored)

/-- A requested id is looked up as it is, or refused. -/
theorem keyFor_ok {key : String} (keyed : t.keyFor entity id = .ok key) : key = id := by
  unfold keyFor at keyed
  split at keyed
  · exact (Except.ok.inj keyed).symm
  · split at keyed
    · cases keyed
    · next parts split =>
      split at keyed
      · exact (Except.ok.inj keyed).symm.trans (CompositeId.compose_parts split)
      · cases keyed

theorem Sound.answerFor_ok (sound : t.Sound) {event : Event} (answers : t.answerFor entity id = .ok event) :
    event.brings entity = t.sentFor id := by
  unfold answerFor at answers
  split at answers
  · cases answers
  · next key keyed =>
    cases keyFor_ok keyed
    rw [sentFor]
    split at answers
    · next fields found =>
      rw [eventOf_fits entity (sound id fields found)] at answers
      cases answers
      rw [found]
      exact if_pos rfl
    · next absent =>
      cases answers
      rw [absent]
      rfl

/-- A requested id that is looked up is answered. -/
theorem Sound.answerFor_keyed (sound : t.Sound) {key : String} (keyed : t.keyFor entity id = .ok key) :
    ∃ event, t.answerFor entity id = .ok event := by
  cases keyFor_ok keyed
  unfold answerFor
  simp only [keyed]
  rcases found : t.rows[id]? with _ | fields
  · exact ⟨_, rfl⟩
  · exact ⟨_, eventOf_fits entity (sound id fields found)⟩

/-- What is fetched by ids. -/
theorem Sound.collect_ids (sound : t.Sound) {ids : Names} {fetched : List Entry}
    (collects : Origin.collect (t.fetch (.ids entity ids)) entity = .ok fetched) :
    fetched = ids.toList.filterMap t.sentFor := by
  obtain ⟨events, all⟩ := Feed.ofResults_ok (Origin.ending_of_collect collects)
  have answered : ∀ (list : List String) (events : List Event), list.map (t.answerFor entity) = events.map .ok →
      events.filterMap (Event.brings entity) = list.filterMap t.sentFor := by
    intro list
    induction list with
    | nil =>
      intro events all
      rw [List.map_eq_nil_iff.1 all.symm]
      rfl
    | cons id rest ih =>
      intro events all
      obtain ⟨event, others, rfl, first, later⟩ := List.map_eq_cons_iff.1 all.symm
      rw [List.filterMap_cons, List.filterMap_cons, sound.answerFor_ok first.symm, ih others later.symm]
  have sends : t.fetch (.ids entity ids) = .ofEvents events := by
    rw [← Feed.ofResults_map, ← all]
    rfl
  obtain ⟨block, others, rfl, first, later⟩ := List.map_eq_cons_iff.1 all.symm
  cases first
  rw [sends, Origin.collect_ofEvents] at collects
  exact (Except.ok.inj collects).symm.trans (answered _ others later.symm)

/-- Ids of which none is refused are fetched. -/
theorem Sound.collect_accepted (sound : t.Sound) {ids : Names} (accepts : ∀ id ∈ ids, ∃ key, t.keyFor entity id = .ok key) :
    Origin.collect (t.fetch (.ids entity ids)) entity = .ok (ids.toList.filterMap t.sentFor) := by
  have answered : ids.toList.map (t.answerFor entity) ∈ Set.range (List.map Except.ok) := by
    rw [Set.range_list_map]
    intro result member
    obtain ⟨id, listed, rfl⟩ := List.mem_map.1 member
    obtain ⟨key, keyed⟩ := accepts id (Std.ExtTreeSet.mem_toList.1 listed)
    obtain ⟨event, answers⟩ := sound.answerFor_keyed keyed
    exact ⟨event, answers.symm⟩
  obtain ⟨events, all⟩ := answered
  have sends : t.fetch (.ids entity ids) = .ofEvents (.block entity t.header :: events) := by
    rw [← Feed.ofResults_map, List.map_cons, all]
    rfl
  have collects := Origin.collect_ofEvents (.block entity t.header :: events) entity
  rw [← sends] at collects
  rw [collects, sound.collect_ids collects]

theorem Sound.found_written (sound : t.Sound) {header : Header} (columns : t.header = header) {ids : Names} :
    ∀ entry ∈ ids.toList.filterMap t.sentFor, entry.Written header := by
  intro entry member
  obtain ⟨id, _, found⟩ := List.mem_filterMap.1 member
  exact columns ▸ sound.sentFor_written found

/-- All that a table has. -/
def content (t : Table) : List Entry := t.rows.toList.map fun pair => t.sent pair.1 pair.2

theorem Sound.content_written (sound : t.Sound) : ∀ entry ∈ t.content, entry.Written t.header := by
  intro entry member
  obtain ⟨⟨id, fields⟩, stored, rfl⟩ := List.mem_map.1 member
  exact sent_written (sound id fields (Std.ExtTreeMap.mem_toList_iff_getElem?_eq_some.1 stored))

theorem mem_content {entry : Entry} : entry ∈ t.content ↔ t.sentFor entry.id = some entry := by
  rw [content, List.mem_map]
  constructor
  · rintro ⟨⟨id, fields⟩, stored, rfl⟩
    change (t.rows[id]?).map (t.sent id) = _
    rw [Std.ExtTreeMap.mem_toList_iff_getElem?_eq_some.1 stored]
    rfl
  · intro found
    obtain ⟨fields, stored, same⟩ := Option.map_eq_some_iff.1 found
    exact ⟨(entry.id, fields), Std.ExtTreeMap.mem_toList_iff_getElem?_eq_some.2 stored, same⟩

theorem content_nodup (t : Table) : (t.content.map Entry.id).Nodup := by
  rw [content, List.map_map]
  exact Keyed.nodup_toList t.rows

theorem Sound.fetch_content (sound : t.Sound) (entity : String) :
    t.fetch (.whole entity) = .ofEvents (replacing (.reload entity t.header) entity t.header t.content) := by
  have sends : t.rows.values.map (t.eventOf entity) = (t.content.map (.update entity t.header ·)).map .ok := by
    rw [content, Keyed.values_eq_map, List.map_map, List.map_map, List.map_map]
    refine List.map_congr_left fun pair stored => ?_
    exact eventOf_fits entity (sound pair.1 pair.2 (Std.ExtTreeMap.mem_toList_iff_getElem?_eq_some.1 stored))
  rw [fetch, sends, ← Feed.ofResults_map]
  rfl

end Table

end ReferenceFeed
