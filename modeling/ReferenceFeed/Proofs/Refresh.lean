import ReferenceFeed.Proofs.Convergence
import ReferenceFeed.Proofs.Publication
import ReferenceFeed.Proofs.Reloading

namespace ReferenceFeed

/-!
Ids that are refreshed from the tables of a source. The answer, the store, the message and what subscribers hear all come
from one delta, and say the same.
-/

namespace Site

variable {c : Conduct} {s t : Site} {entity : String} {ids : Names} {old : Store} {table : Table} {thread : Thread}
  {changes : Changes}

/-- Whoever fetches some ids to compare them has the store that is live, and what the table answers. -/
theorem Tabled.effect_fetched (tabled : Tabled c) {u : Site} (catalogue : u.catalogue = s.catalogue)
    (live : u.origin.live = s.origin.live) (alive : s.origin.live[entity]? = some old)
    (found : s.catalogue.tables[entity]? = some table) (ids : Names) {α : Type} (next : Store → List Entry → Flow Site α) :
    Flow.effect ((wiring c).ask (·.store entity) >>= fun store => (wiring c).fetchIds entity ids >>= next store) u =
      match Origin.collect (table.fetch (.ids entity ids)) entity with
      | .ok fetched => Flow.effect (next old fetched) u
      | .error fault => (.error fault, u) := by
  have feeds : c.fetch u (.ids entity ids) = table.fetch (.ids entity ids) := tabled.fetch_table (catalogue ▸ found)
  rw [Flow.effect_bind, effect_ask, Origin.store, liveStore, live, alive]
  simp only [Except.mapError]
  rw [Flow.effect_bind, effect_fetchIds, feeds]
  cases Origin.collect (table.fetch (.ids entity ids)) entity <;> rfl

/-- What a refresh is answered is what it fetched, compared with what was stored. -/
theorem Tabled.refresh_ok (tabled : Tabled c) (runs : Flow.effect ((wiring c).refresh entity ids) s = (.ok changes, t))
    (alive : s.origin.live[entity]? = some old) (found : s.catalogue.tables[entity]? = some table) :
    ∃ fetched, Origin.collect (table.fetch (.ids entity ids)) entity = .ok fetched ∧
      changes = (Delta.ofFetch old ids fetched).changes := by
  obtain ⟨u, v, catalogue, live, produced⟩ := effect_run_ok runs
  rw [tabled.effect_fetched catalogue live alive found] at produced
  rcases collects : Origin.collect (table.fetch (.ids entity ids)) entity with fault | fetched
  · rw [collects] at produced
    cases produced
  · rw [collects] at produced
    obtain ⟨_, _, _, produced⟩ := Flow.effect_bind_ok produced
    cases produced
    exact ⟨fetched, rfl, rfl⟩

/-- A refresh takes effect once its entries are fetched. -/
theorem Tabled.refreshes (tabled : Tabled c) (sound : Sound s) (free : s.origin.fanout.isOpen = false)
    (alive : s.origin.live[entity]? = some old) (found : s.catalogue.tables[entity]? = some table) {fetched : List Entry}
    (collects : Origin.collect (table.fetch (.ids entity ids)) entity = .ok fetched)
    (written : ∀ entry ∈ fetched, entry.Written old.header) :
    ∃ told next after, Flow.effect ((wiring c).refresh entity ids) s = (.ok (Delta.ofFetch old ids fetched).changes, after) ∧
      Landed s told told after ∧
      Stages.Absorbs s.origin.settings s.origin.live ∅ ((Delta.ofFetch old ids fetched).events entity old.header) told next := by
  refine sound.announces free alive (.ofFetch old ids fetched) written fun number u catalogue live => ?_
  rw [tabled.effect_fetched catalogue live alive found, collects]

section Landing

variable {find : String → Option Entry} {told : List Event} {next : Stages}

/-- A refresh that takes effect leaves the rows that were found, tells what has changed, and publishes it. -/
theorem Landed.refreshed (landed : Landed s told told t) (sound : Sound s) (alive : s.origin.live[entity]? = some old)
    (own : ∀ id entry, find id = some entry → entry.id = id)
    (absorbs : Stages.Absorbs s.origin.settings s.origin.live ∅ ((Delta.ofFound old ids find).events entity old.header) told next)
    (changed : changes = (Delta.ofFound old ids find).changes) :
    ∃ new, t.origin.live[entity]? = some new ∧ Refreshed (fun id => (find id).map Entry.row) ids old new changes ∧
      told = changes.told entity new ∧ List.Forall₂ Entry.Filled (Delta.ofFound old ids find).changed (new.subset changes.updated) ∧
      (∀ other, other ≠ entity → t.origin.live[other]? = s.origin.live[other]?) ∧
      t.published = s.published ++
        if changes.isEmpty then [] else [⟨entity, new.renderSubset changes.updated changes.removed, false⟩] := by
  obtain ⟨new, filled, now, columns, completed, settled, rfl, others, published⟩ :=
    landed.announced sound (Delta.coherent_ofFetch ..) alive absorbs changed
  subst changed
  have subset := Delta.subset_updated own completed settled
  refine ⟨new, now, (Delta.tells_found own).refreshed completed settled columns, ?_, ?_, others, published⟩
  · rw [Changes.told, subset, columns]
  · rw [subset]
    exact completed

end Landing

/-- A refresh that is answered well takes effect with what was found for each id. -/
theorem Tabled.answered (tabled : Tabled c) (sound : Sound s) (alive : s.origin.live[entity]? = some old)
    (found : s.catalogue.tables[entity]? = some table) (whole : table.Sound) (columns : table.header = old.header)
    (acts : act c thread (.refresh entity ids) s = (.ok (.changes changes), t)) :
    s.origin.fanout.isOpen = false ∧
      Origin.collect (table.fetch (.ids entity ids)) entity = .ok (ids.toList.filterMap table.sentFor) ∧
      changes = (Delta.ofFound old ids table.sentFor).changes ∧
      ∃ told next, Landed s told told t ∧
        Stages.Absorbs s.origin.settings s.origin.live ∅ ((Delta.ofFound old ids table.sentFor).events entity old.header) told next := by
  have runs : Flow.effect ((wiring c).refresh entity ids) { s with thread } = (.ok changes, t) := changes_of_act rfl acts
  have free : s.origin.fanout.isOpen = false := free_of_run (s := { s with thread }) runs
  obtain ⟨fetched, collects, changed⟩ := tabled.refresh_ok runs alive found
  cases whole.collect_ids collects
  obtain ⟨told, next, after, ends, landed, absorbs⟩ :=
    tabled.refreshes (sound.on thread) free alive found collects (whole.found_written columns)
  cases runs.symm.trans ends
  exact ⟨free, collects, changed, told, next, landed.of_on, absorbs⟩

/-- What has no changes is told and sent to nobody. -/
theorem Tabled.refresh_again (tabled : Tabled c) (sound : Sound s) (free : s.origin.fanout.isOpen = false)
    (alive : s.origin.live[entity]? = some old) (found : s.catalogue.tables[entity]? = some table) (whole : table.Sound)
    (columns : table.header = old.header)
    (collects : Origin.collect (table.fetch (.ids entity ids)) entity = .ok (ids.toList.filterMap table.sentFor))
    (settled : (Delta.ofFound old ids table.sentFor).changes = {}) (thread : Thread) :
    ∃ t, act c thread (.refresh entity ids) s = (.ok (.changes {}), t) ∧
      t.origin.live = s.origin.live ∧ t.published = s.published ∧ t.heard = s.heard := by
  obtain ⟨told, next, t, ends, landed, absorbs⟩ :=
    tabled.refreshes (sound.on thread) free alive found collects (whole.found_written columns)
  have acts : act c thread (.refresh entity ids) s = (.ok (.changes {}), t) := act_of_changes rfl (settled ▸ ends)
  exact ⟨t, acts, landed.of_on.idle sound (Delta.coherent_ofFetch ..) alive absorbs settled⟩

theorem getElem?_rowsOf (store : Store) (id : String) : (rowsOf (some store))[id]? = store.row? id :=
  Std.ExtTreeMap.getElem?_map

/-- A reload is answered well where there is a table, and leaves its rows. -/
theorem Tabled.reload_rows (tabled : Tabled c) (sound : Sound s) (free : s.origin.fanout.isOpen = false)
    (found : s.catalogue.tables[entity]? = some table) (whole : table.Sound) (thread : Thread) :
    ∃ t, act c thread (.reload entity) s = (.ok .done, t) ∧
      ∀ id : String, (rowsOf t.origin.live[entity]?)[id]? = (table.rows[id]?).map Row.render := by
  obtain ⟨t, new, acts, now, _, _, lines, _⟩ := tabled.reload_lines sound free found whole thread
  refine ⟨t, acts, fun id => ?_⟩
  rw [now, getElem?_rowsOf, Store.row?, lines, Table.lineFor_row]

/-- A refresh from tables that is answered with some changes gives every id that was asked for the row of its table, or
none, and changes nothing else. The changes are just those of the rows; they are published in one message, if there are
any, and told to everybody they concern. The same refresh after it changes and publishes nothing, and if no row was left
out, a reload would have come to the same rows. -/
theorem Reachable.refresh_settles (reach : Reachable c s) (tabled : Tabled c) (made : s.catalogue.Made)
    (alive : s.origin.live[entity]? = some old) (found : s.catalogue.tables[entity]? = some table)
    (columns : table.header = old.header) (wide : 2 ≤ old.header.width)
    (acts : act c thread (.refresh entity ids) s = (.ok (.changes changes), t)) :
    ∃ new, t.origin.live[entity]? = some new ∧
      Refreshed (fun id => (table.rows[id]?).map Row.render) ids old new changes ∧
      (∀ other, other ≠ entity → t.origin.live[other]? = s.origin.live[other]?) ∧
      (∃ messages, t.published = s.published ++ messages ∧ changes.Sends entity new messages) ∧
      (∃ log, t.heard = s.heard ++ log ∧ ∀ sub ∈ s.origin.fanout.subscribers, ∃ failed,
        Turn sub.channel (finished (callsFor sub.interest (changes.told entity new))) true (partOf sub.channel log) failed) ∧
      (∀ again, ∃ u, act c again (.refresh entity ids) t = (.ok (.changes {}), u) ∧
        u.origin.live = t.origin.live ∧ u.published = t.published ∧ u.heard = t.heard) ∧
      ((∀ id, (old.row? id).isSome = true ∨ id ∈ table.rows → id ∈ ids) → ∀ again, ∃ u,
        act c again (.reload entity) s = (.ok .done, u) ∧ rowsOf u.origin.live[entity]? = rowsOf t.origin.live[entity]?) := by
  have whole := made.sound entity table found
  have own : ∀ id entry, table.sentFor id = some entry → entry.id = id := fun _ _ => Table.sentFor_id
  obtain ⟨free, collects, changed, told, next, landed, absorbs⟩ := tabled.answered reach.sound alive found whole columns acts
  obtain ⟨new, now, refreshed, rfl, completed, others, published⟩ := landed.refreshed reach.sound alive own absorbs changed
  have written : ∀ entry ∈ new.subset changes.updated, entry.Written new.header := by
    intro last member
    obtain ⟨entry, changed, same⟩ := exists_of_forall₂ completed member
    rw [refreshed.columns]
    exact same.written (whole.found_written columns entry (List.mem_filter.1 changed).1)
  have catalogue : t.catalogue = s.catalogue := by
    have sending : Sending { s with thread } (Flow.effect (perform c (.refresh entity ids)) { s with thread }).2 := .whole rfl _
    rw [act_after acts] at sending
    exact sending.catalogue
  have sentFor_rows : (fun id => (table.sentFor id).map Entry.row) = fun id => (table.rows[id]?).map Row.render :=
    funext table.sentFor_row
  refine ⟨new, now, sentFor_rows ▸ refreshed, others, ⟨_, published, Changes.sends_read (refreshed.columns ▸ wide) written⟩, ?_, ?_, ?_⟩
  · obtain ⟨u, log, logs, lost, among, heard, audience, ended, _⟩ := landed.concluded.heard
    exact ⟨log ++ logs, heard, fun sub member => ⟨_, audience.finished ended (among ▸ member)⟩⟩
  · intro again
    have closed : t.origin.fanout.isOpen = false := by rw [Fanout.isOpen, landed.concluded.closed]; rfl
    exact tabled.refresh_again (reach.sound.answered acts) closed now (catalogue ▸ found) whole
      (columns.trans refreshed.columns.symm) collects ((Delta.tells_found own).changes_again refreshed) again
  · intro covering again
    obtain ⟨u, reloads, rows⟩ := tabled.reload_rows reach.sound free found whole again
    refine ⟨u, reloads, Std.ExtTreeMap.ext_getElem? fun {id} => ?_⟩
    rw [rows, now, getElem?_rowsOf]
    -- An id that was not asked for is neither held nor in the table, so it has no row either way.
    by_cases asked : id ∈ ids
    · rw [refreshed.rows id asked, table.sentFor_row]
    · obtain ⟨unheld, absent⟩ := not_or.1 (mt (covering id) asked)
      have kept : new.row? id = old.row? id := congrArg (Option.map Entry.row) (refreshed.kept id (.inl asked))
      rw [kept, Option.not_isSome_iff_eq_none.1 unheld, Std.ExtTreeMap.getElem?_eq_none absent]
      rfl

/-- A table whose ids are composed, one of them of a part that has to be protected. -/
def composing : List Catalogue.Mutation :=
  [.load "e" "id,a,b,v\n1,k,1,x\n2,k,2,x\n3,k,3,x\n4,m/n,1,x", .composeIds "e" ["a", "b"]]

/-- One row becomes another, one goes away and one is new. -/
def drifting : List Catalogue.Mutation :=
  [.upsert "e" [none, some "k", some "1", some "y"], .delete "e" "k/2", .upsert "e" [none, some "k", some "5", some "x"]]

/-- A replica has joined, and the entity was reloaded, before the table changed. -/
def drifted : Site :=
  (enact staffed (overTables {} composing)
    ([(0, .register 0), (0, .subscribe (.only {"e"})), (0, .reload "e")] ++ drifting.map fun change => (0, .mutate change))).2

theorem drifted_reachable : Reachable staffed drifted := (run_enact ..).reachable (.fresh {} _)

theorem drifted_made : drifted.catalogue.Made := ⟨composing ++ drifting, by decide +kernel⟩

/-- All ids there were and are, and one that never was. -/
def asked : Names := {"k/1", "k/2", "k/3", "k/5", "k/9", "m\\/n/1"}

theorem refresh_settles_drifted : ∃ old new table messages, drifted.origin.live["e"]? = some old ∧
    drifted.catalogue.tables["e"]? = some table ∧
    Refreshed (fun id => (table.rows[id]?).map Row.render) asked old new ⟨{"k/5", "k/1"}, {"k/2"}⟩ ∧
    Changes.Sends ⟨{"k/5", "k/1"}, {"k/2"}⟩ "e" new messages ∧
    (act staffed 1 (.refresh "e" asked) drifted).2.published = drifted.published ++ messages ∧
    ∃ u, act staffed 0 (.reload "e") drifted = (.ok .done, u) ∧ rowsOf u.origin.live["e"]? = rowsOf (some new) := by
  have live : (drifted.origin.live["e"]?).map Store.ids = some ["k/1", "k/2", "k/3", "m\\/n/1"] := by decide +kernel
  have tables : (drifted.catalogue.tables["e"]?).map (·.rows.keys) = some ["k/1", "k/3", "k/5", "m\\/n/1"] := by decide +kernel
  have headers : (drifted.origin.live["e"]?).map Store.header = (drifted.catalogue.tables["e"]?).map Table.header := by
    decide +kernel
  have width : (drifted.origin.live["e"]?).map (fun store => store.header.width) = some 4 := by decide +kernel
  obtain ⟨old, alive, ids⟩ := Option.map_eq_some_iff.1 live
  obtain ⟨table, found, keys⟩ := Option.map_eq_some_iff.1 tables
  rw [alive, found] at headers
  rw [alive] at width
  have wide : 2 ≤ old.header.width := le_of_le_of_eq (by decide) (Option.some.inj width).symm
  have acts : act staffed 1 (.refresh "e" asked) drifted =
      (.ok (.changes ⟨{"k/5", "k/1"}, {"k/2"}⟩), (act staffed 1 (.refresh "e" asked) drifted).2) :=
    Prod.ext (by decide +kernel) rfl
  obtain ⟨new, now, refreshed, _, ⟨messages, published, sends⟩, _, _, reloads⟩ :=
    drifted_reachable.refresh_settles tabled_staffed drifted_made alive found (Option.some.inj headers).symm wide acts
  have all : ∀ id ∈ ["k/1", "k/2", "k/3", "m\\/n/1"] ++ ["k/1", "k/3", "k/5", "m\\/n/1"], id ∈ asked := by decide +kernel
  have covering : ∀ id, (old.row? id).isSome = true ∨ id ∈ table.rows → id ∈ asked := by
    rintro id (held | listed)
    · have inside : id ∈ old.ids := Std.ExtTreeMap.mem_keys.2 (Store.contains_iff_row?.2 held)
      rw [ids] at inside
      exact all id (List.mem_append_left _ inside)
    · have inside : id ∈ table.rows.keys := Std.ExtTreeMap.mem_keys.2 listed
      rw [keys] at inside
      exact all id (List.mem_append_right _ inside)
  obtain ⟨u, well, same⟩ := reloads covering 0
  exact ⟨old, new, table, messages, alive, found, refreshed, sends, published, u, well, now ▸ same⟩

end Site

end ReferenceFeed
