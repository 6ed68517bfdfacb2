import ReferenceFeed.Proofs.Refresh
import ReferenceFeed.Proofs.Serving

namespace ReferenceFeed

/-!
An id that is announced whether or not its row has changed. Only the comparison with the stored row is left out: what is
fetched, what is stored and what becomes of an id without a row are those of a refresh.
-/

/-- Stores with the same columns and rows. The groups of an entry are no part of its row. -/
structure Store.Alike (first second : Store) : Prop where
  columns : first.header = second.header
  rows : ∀ id, first.row? id = second.row? id

theorem alike_same (store : Option Store) : Option.Rel Store.Alike store store := by
  cases store with
  | none => exact .none
  | some store => exact .some ⟨rfl, fun _ => rfl⟩

/-- A payload of one entry is its header line and its row. -/
theorem Payload.render_one (header : Header) (entry : Entry) : render header [entry] [] = header.text ++ "\n" ++ entry.row := rfl

namespace Store

theorem get?_apply_one (store : Store) (entry : Entry) (id : String) :
    (store.apply [entry] ∅).get? id = if entry.id = id then some entry else store.get? id := by
  rw [apply, get?_removeAll, if_neg Std.ExtTreeSet.not_mem_empty]
  exact store.get?_put entry id

theorem renderSubset_one {store : Store} {id : String} {entry : Entry} (stored : store.get? id = some entry) :
    store.renderSubset {id} ∅ = store.header.text ++ "\n" ++ entry.row := by
  rw [renderSubset, subset, Names.toList_singleton, List.filterMap_cons, stored]
  exact Payload.render_one store.header entry

end Store

namespace Delta

variable {old : Store} {id : String}

/-- An id that is not found is announced as by any other fetch. -/
theorem ofRepublish_none (old : Store) (id : String) : ofRepublish old id none = ofFetch old {id} [] := by
  have removed : (if old.contains id then {id} else ∅ : Names) =
      ({id} : Names).filter fun other => !(Names.ofList []).contains other && old.contains other := by
    refine Std.ExtTreeSet.ext_mem fun other => ?_
    have unfound : (Names.ofList []).contains other = false := by
      rw [Bool.eq_false_iff, ne_eq, Names.contains_iff, Names.mem_ofList]
      exact List.not_mem_nil
    rw [Names.mem_filter, Names.mem_singleton, unfound, Bool.not_false, Bool.true_and]
    split
    · next held =>
      rw [Names.mem_singleton, iff_self_and]
      rintro rfl
      exact held
    · next unheld =>
      refine iff_of_false Std.ExtTreeSet.not_mem_empty ?_
      rintro ⟨rfl, held⟩
      exact unheld held
  exact congrArg (fun gone => (⟨[], ∅, gone⟩ : Delta)) removed

theorem changed_ofRepublish (old : Store) (id : String) (entry : Entry) : (ofRepublish old id (some entry)).changed = [entry] := by
  have named : ({entry.id} : Names).contains entry.id = true := Names.contains_iff.2 (Names.mem_singleton.2 rfl)
  exact List.filter_cons_of_pos named

/-- An entry that is found is announced, and nothing else. -/
theorem coherent_ofRepublish (old : Store) (id : String) (entry : Entry) : (ofRepublish old id (some entry)).Coherent old where
  named other := by
    rw [changed_ofRepublish]
    exact List.mem_singleton.trans Names.mem_singleton.symm
  apart _ _ := Std.ExtTreeSet.not_mem_empty
  held _ removed := absurd removed Std.ExtTreeSet.not_mem_empty

end Delta

namespace Table

variable {t : Table} {entity id : String} {fields : List Field}

/-- An id that has a row is not refused. -/
theorem Regular.keyFor_held (regular : t.Regular) (entity : String) (held : t.rows[id]? = some fields) :
    ∃ key, t.keyFor entity id = .ok key := by
  refine keyFor_accepts fun composing => ?_
  obtain ⟨_, composes⟩ := regular.keyed composing id fields held
  refine ⟨_, composes ▸ CompositeId.parts_compose _, ?_⟩
  obtain ⟨part, rest, parts⟩ := List.exists_cons_of_ne_nil composing
  rw [idFields, parts]
  simp only [List.map_cons, CompositeId.normal, List.length_cons, List.length_map]

/-- What is fetched of one id is its entry, or nothing. -/
theorem Sound.collect_one (sound : t.Sound) {fetched : List Entry}
    (collects : Origin.collect (t.fetch (.ids entity {id})) entity = .ok fetched) : fetched = (t.sentFor id).toList := by
  rw [sound.collect_ids collects, Names.toList_singleton, List.filterMap_cons]
  cases t.sentFor id <;> rfl

end Table

namespace Site

variable {c : Conduct} {s t : Site} {entity id : String} {old : Store} {table : Table} {fields : List Field} {thread : Thread}

/-- What becomes of a row that is announced whether or not it has changed: it is sent in one message, and told once to
everybody who wants to hear of its entity. -/
structure Republished (entity : String) (header : Header) (id row : String) (s t : Site) : Prop where
  published : t.published = s.published ++ [⟨entity, header.text ++ "\n" ++ row, false⟩]
  reads : 2 ≤ header.width → Payload.read (header.text ++ "\n" ++ row) = .ok ⟨header, [.update ⟨id, row, ∅⟩]⟩
  told : ∃ entry, entry.id = id ∧ entry.row = row ∧ ∃ log, t.heard = s.heard ++ log ∧
    ∀ sub ∈ s.origin.fanout.subscribers, ∃ failed, Turn sub.channel
      (if sub.interest.covers entity then [.start, .event (.block entity header), .event (.update entity header entry), .finish] else [])
      true (partOf sub.channel log) failed

/-- An id without a row is published as it is refreshed. -/
theorem Tabled.republish_same (tabled : Tabled c) (alive : s.origin.live[entity]? = some old)
    (found : s.catalogue.tables[entity]? = some table) (whole : table.Sound) (absent : table.rows[id]? = none) :
    Flow.effect ((wiring c).republish entity id) s = Flow.effect ((wiring c).refresh entity {id}) s := by
  refine effect_run_congr fun number u catalogue live => ?_
  rw [tabled.effect_fetched catalogue live alive found, tabled.effect_fetched catalogue live alive found]
  rcases collects : Origin.collect (table.fetch (.ids entity {id})) entity with fault | fetched
  · rfl
  · have nothing : fetched = [] := by
      rw [whole.collect_one collects, Table.sentFor, absent]
      rfl
    rw [nothing]
    simp only [List.head?_nil, Delta.ofRepublish_none]

/-- An id with a row is published as the entry that its row makes. -/
theorem Tabled.announces_one (tabled : Tabled c) (sound : Sound s) (free : s.origin.fanout.isOpen = false)
    (alive : s.origin.live[entity]? = some old) (found : s.catalogue.tables[entity]? = some table) {entry : Entry}
    (collects : Origin.collect (table.fetch (.ids entity {id})) entity = .ok [entry]) (written : entry.Written old.header) :
    ∃ told next after, Flow.effect ((wiring c).republish entity id) s = (.ok ⟨{entry.id}, ∅⟩, after) ∧
      Landed s told told after ∧
      Stages.Absorbs s.origin.settings s.origin.live ∅ ((Delta.ofRepublish old id (some entry)).events entity old.header) told next := by
  refine sound.announces free alive (.ofRepublish old id (some entry)) (fun _ member => ?_) fun number u catalogue live => ?_
  · rw [List.mem_singleton.1 member]
    exact written
  · rw [tabled.effect_fetched catalogue live alive found, collects]
    rfl

/-- One entry is told with its block, to those who want to hear of its entity. -/
theorem finished_callsFor_one (interest : Interest) (entity : String) (header : Header) (entry : Entry) :
    finished (callsFor interest [.block entity header, .update entity header entry]) =
      if interest.covers entity then [.start, .event (.block entity header), .event (.update entity header entry), .finish] else [] := by
  unfold callsFor
  by_cases covers : interest.covers entity = true
  · simp only [List.filter_cons, Event.entity, covers, if_true, List.filter_nil]
    rfl
  · simp only [List.filter_cons, Event.entity, covers, List.filter_nil]
    rfl

/-- A row that takes effect is told, stored and sent as it is, and no other one is touched. -/
theorem Landed.republished {entry : Entry} {told : List Event} {next : Stages} (landed : Landed s told told t) (sound : Sound s)
    (alive : s.origin.live[entity]? = some old) (written : entry.Written old.header)
    (absorbs : Stages.Absorbs s.origin.settings s.origin.live ∅ ((Delta.ofRepublish old entry.id (some entry)).events entity old.header)
      told next) :
    Republished entity old.header entry.id entry.row s t ∧
      (∃ new, t.origin.live[entity]? = some new ∧ new.header = old.header ∧
        ∀ other, new.row? other = if entry.id = other then some entry.row else old.row? other) ∧
      ∀ other, other ≠ entity → t.origin.live[other]? = s.origin.live[other]? := by
  obtain ⟨new, filled, now, columns, completed, settled, rfl, others, published⟩ :=
    landed.announced sound (Delta.coherent_ofRepublish old entry.id entry) alive absorbs rfl
  rw [Delta.changed_ofRepublish] at completed
  -- what is told and stored is the entry with its groups filled in
  obtain ⟨last, same, rfl⟩ : ∃ last, Entry.Filled entry last ∧ filled = [last] := by
    cases completed with
    | cons same rest =>
      cases rest
      exact ⟨_, same, rfl⟩
  have lone : ∀ other, new.get? other = if entry.id = other then some last else old.get? other := by
    intro other
    rw [settled, ← same.id]
    exact old.get?_apply_one last other
  have rendered : new.renderSubset {entry.id} ∅ = old.header.text ++ "\n" ++ entry.row := by
    rw [Store.renderSubset_one ((lone entry.id).trans (if_pos rfl)), columns, same.row]
  have announces : (Delta.ofRepublish old entry.id (some entry)).changes.isEmpty = false := by
    refine Bool.eq_false_iff.2 fun empty => ?_
    have none : ({entry.id} : Names) = ∅ := (Changes.isEmpty_iff.1 empty).1
    exact Std.ExtTreeSet.not_mem_empty (none ▸ Names.mem_singleton.2 rfl)
  refine ⟨⟨?_, fun wide => ?_, last, same.id, same.row, ?_⟩, ⟨new, now, columns, fun other => ?_⟩, others⟩
  · rw [published, announces, if_neg Bool.false_ne_true]
    exact congrArg (fun payload => s.published ++ [⟨entity, payload, false⟩]) rendered
  · rw [← Payload.render_one]
    exact Payload.read_render wide (List.forall_mem_singleton.2 written) []
  · obtain ⟨u, log, logs, lost, among, heard, audience, ended, _⟩ := landed.concluded.heard
    refine ⟨log ++ logs, heard, fun sub member => ⟨decide (sub.id ∈ u.failed ++ lost), ?_⟩⟩
    have turn := audience.finished ended (among ▸ member)
    rw [Changes.announcing, announces, if_neg Bool.false_ne_true] at turn
    rwa [← finished_callsFor_one]
  · rw [Store.row?, lone]
    split
    · exact congrArg some same.row
    · rfl

/-- Where no transaction can begin, or the id has no row, it makes no difference whether an id is published or refreshed. -/
theorem Tabled.republish_act (tabled : Tabled c) (alive : s.origin.live[entity]? = some old)
    (found : s.catalogue.tables[entity]? = some table) (whole : table.Sound)
    (plain : table.rows[id]? = none ∨ s.origin.fanout.isOpen = true) (thread : Thread) :
    act c thread (.republish entity id) s = act c thread (.refresh entity {id}) s := by
  have same : Flow.effect ((wiring c).republish entity id) { s with thread } =
      Flow.effect ((wiring c).refresh entity {id}) { s with thread } := by
    rcases plain with absent | held
    · exact tabled.republish_same (s := { s with thread }) alive found whole absent
    · exact (effect_run_held (s := { s with thread }) _ held).trans (effect_run_held (s := { s with thread }) _ held).symm
  rw [act, act, perform, perform, Flow.effect_map, Flow.effect_map, same]

theorem republish_refused (entity id : String) (thread : Thread) (held : s.origin.fanout.isOpen = true) :
    (act c thread (.republish entity id) s).1 = .error (.failure (.violation (.held .start))) := by
  have refused : Flow.effect ((wiring c).republish entity id) { s with thread } = _ :=
    effect_run_held (s := { s with thread }) _ held
  rw [act, perform, Flow.effect_map, refused]
  rfl

/-- An id that has a row is refreshed and published with success, and the stores are alike after both. -/
theorem Tabled.republish_held (tabled : Tabled c) (sound : Sound s) (free : s.origin.fanout.isOpen = false)
    (alive : s.origin.live[entity]? = some old) (found : s.catalogue.tables[entity]? = some table) (regular : table.Regular)
    (columns : table.header = old.header) (held : table.rows[id]? = some fields) (thread : Thread) :
    ∃ t u changes, act c thread (.republish entity id) s = (.ok (.changes ⟨{id}, ∅⟩), t) ∧
      act c thread (.refresh entity {id}) s = (.ok (.changes changes), u) ∧ Republished entity old.header id (Row.render fields) s t ∧
      ∀ other : String, Option.Rel Store.Alike t.origin.live[other]? u.origin.live[other]? := by
  have sent : table.sentFor id = some (table.sent id fields) := by rw [Table.sentFor, held]; rfl
  have written : (table.sent id fields).Written old.header := columns ▸ regular.sound.sentFor_written sent
  have accepts : ∀ other ∈ ({id} : Names), ∃ key, table.keyFor entity other = .ok key := fun other asked =>
    Names.mem_singleton.1 asked ▸ regular.keyFor_held entity held
  have collects := regular.sound.collect_accepted accepts
  have one : Origin.collect (table.fetch (.ids entity {id})) entity = .ok [table.sent id fields] := by
    rw [collects, Names.toList_singleton, List.filterMap_cons, sent]
    rfl
  -- Both calls fetch the same entry: one announces it in any case, the other if it differs.
  obtain ⟨told, next, t, ends, landed, absorbs⟩ := tabled.announces_one (sound.on thread) free alive found one written
  obtain ⟨republished, ⟨new, now, header, rows⟩, others⟩ := landed.of_on.republished sound alive written absorbs
  obtain ⟨_, _, u, refreshes, arrived, absorbed⟩ :=
    tabled.refreshes (sound.on thread) free alive found collects (regular.sound.found_written columns)
  obtain ⟨other, after, refreshed, _, _, elsewhere, _⟩ :=
    arrived.of_on.refreshed sound alive (fun _ _ => Table.sentFor_id) absorbed rfl
  refine ⟨t, u, _, act_of_changes rfl ends, act_of_changes rfl refreshes, republished, fun name => ?_⟩
  by_cases here : name = entity
  · subst here
    rw [now, after]
    refine .some ⟨header.trans refreshed.columns.symm, fun asked => ?_⟩
    rw [rows, refreshed.row?_eq]
    by_cases mine : id = asked
    · subst mine
      rw [if_pos (Names.mem_singleton.2 rfl), sent]
      exact if_pos rfl
    · rw [if_neg (mt Names.mem_singleton.1 (Ne.symm mine))]
      exact if_neg mine
  · rw [others name here, elsewhere name here]
    exact alike_same _

/-- Publishing an id succeeds or fails as refreshing it does, and leaves the same columns and rows. An id that has a row is
reported as updated, whether or not the row has changed: it is sent in one message that holds just this row, and told once to
each subscriber of its entity. An id without one makes no difference between the two at all. -/
theorem Reachable.republishes (reach : Reachable c s) (tabled : Tabled c) (made : s.catalogue.Made)
    (alive : s.origin.live[entity]? = some old) (found : s.catalogue.tables[entity]? = some table)
    (columns : table.header = old.header) (id : String) (thread : Thread) :
    (act c thread (.republish entity id) s).1.isOk = (act c thread (.refresh entity {id}) s).1.isOk ∧
      (∀ other : String, Option.Rel Store.Alike (act c thread (.republish entity id) s).2.origin.live[other]?
        (act c thread (.refresh entity {id}) s).2.origin.live[other]?) ∧
      (∀ fields, table.rows[id]? = some fields →
        ((act c thread (.republish entity id) s).1.isOk = true ↔ s.origin.fanout.isOpen = false) ∧
          ∀ answer t, act c thread (.republish entity id) s = (.ok answer, t) →
            answer = .changes ⟨{id}, ∅⟩ ∧ Republished entity old.header id (Row.render fields) s t) ∧
      (table.rows[id]? = none → act c thread (.republish entity id) s = act c thread (.refresh entity {id}) s) := by
  have regular := made.regular entity table found
  -- a row makes a difference only if a transaction can begin
  by_cases plain : table.rows[id]? = none ∨ s.origin.fanout.isOpen = true
  · have same := tabled.republish_act alive found regular.sound plain thread
    rw [← same]
    refine ⟨rfl, fun other => alike_same _, fun fields stored => ?_, fun _ => rfl⟩
    have held : s.origin.fanout.isOpen = true := plain.resolve_left (stored ▸ Option.some_ne_none fields)
    have refused := republish_refused (c := c) entity id thread held
    refine ⟨iff_of_false ?_ ?_, fun answer t acts => ?_⟩
    · rw [refused]
      exact Bool.false_ne_true
    · rw [held]
      exact nofun
    · rw [acts] at refused
      cases refused
  · obtain ⟨held, free⟩ := not_or.1 plain
    obtain ⟨fields, held⟩ := Option.ne_none_iff_exists'.1 held
    obtain ⟨t, u, changes, acts, refreshes, republished, alike⟩ :=
      tabled.republish_held reach.sound (Bool.eq_false_iff.2 free) alive found regular columns held thread
    rw [acts, refreshes]
    refine ⟨rfl, alike, fun other same => ?_, fun absent => ?_⟩
    · cases held.symm.trans same
      refine ⟨iff_of_true rfl (Bool.eq_false_iff.2 free), ?_⟩
      rintro _ _ ⟨rfl, rfl⟩
      exact ⟨rfl, republished⟩
    · cases held.symm.trans absent

/-- One row of the table is still what is stored, and one was deleted. -/
theorem drifted_rows : ∃ old table, drifted.origin.live["e"]? = some old ∧ drifted.catalogue.tables["e"]? = some table ∧
    table.header = old.header ∧ old.row? "k/3" = some "k/3,k,3,x" ∧
    table.rows["k/3"]? = some [some "k/3", some "k", some "3", some "x"] ∧ table.rows["k/2"]? = none := by
  have live : (drifted.origin.live["e"]?).map (·.row? "k/3") = some (some "k/3,k,3,x") := by decide +kernel
  have tables : (drifted.catalogue.tables["e"]?).map (fun table => (table.rows["k/3"]?, table.rows["k/2"]?)) =
      some (some [some "k/3", some "k", some "3", some "x"], none) := by decide +kernel
  have headers : (drifted.origin.live["e"]?).map Store.header = (drifted.catalogue.tables["e"]?).map Table.header := by
    decide +kernel
  obtain ⟨old, alive, row⟩ := Option.map_eq_some_iff.1 live
  obtain ⟨table, found, rows⟩ := Option.map_eq_some_iff.1 tables
  rw [alive, found] at headers
  obtain ⟨held, gone⟩ := Prod.mk.inj rows
  exact ⟨old, table, alive, found, (Option.some.inj headers).symm, row, held, gone⟩

theorem republishes_drifted : ∃ old t, drifted.origin.live["e"]? = some old ∧ old.row? "k/3" = some "k/3,k,3,x" ∧
    (act staffed 1 (.refresh "e" {"k/3"}) drifted).1 = .ok (.changes {}) ∧
    act staffed 1 (.republish "e" "k/3") drifted = (.ok (.changes ⟨{"k/3"}, ∅⟩), t) ∧
    Republished "e" old.header "k/3" "k/3,k,3,x" drifted t ∧
    (act staffed 1 (.republish "e" "k/2") drifted).1 = .ok (.changes ⟨∅, {"k/2"}⟩) ∧
    act staffed 1 (.republish "e" "k/2") drifted = act staffed 1 (.refresh "e" {"k/2"}) drifted := by
  have answers : (act staffed 1 (.republish "e" "k/3") drifted).1 = .ok (.changes ⟨{"k/3"}, ∅⟩) := by decide +kernel
  obtain ⟨old, table, alive, found, columns, row, held, gone⟩ := drifted_rows
  obtain ⟨_, _, sends, _⟩ := drifted_reachable.republishes tabled_staffed drifted_made alive found columns "k/3" 1
  obtain ⟨_, _, _, plain⟩ := drifted_reachable.republishes tabled_staffed drifted_made alive found columns "k/2" 1
  obtain ⟨_, ended⟩ := sends _ held
  have acts : act staffed 1 (.republish "e" "k/3") drifted = (.ok (.changes ⟨{"k/3"}, ∅⟩), _) := Prod.ext answers rfl
  exact ⟨old, _, alive, row, by decide +kernel, acts, (ended _ _ acts).2, by decide +kernel, plain gone⟩

end Site

end ReferenceFeed
