import ReferenceFeed.Proofs.Changes

namespace ReferenceFeed

/-!
Entities that are reloaded from the tables of a source. What is live afterwards are the lines of the table: the entries that
its rows make, with the groups filled in that an origin declares.
-/

/-- The entries that a block with some entries leaves are the last ones with their ids. -/
theorem getElem?_amendAll_updates (entity : String) (header : Header) (entries : List Entry) (id : String) :
    (amendAll ∅ (.block entity header :: entries.map (.update entity header ·)))[id]? = lastOf Entry.id entries id := by
  have stored := (Store.empty entity header).get?_putAll entries id
  rw [Store.get?_empty, Option.or_none, Store.get?, Store.entries_putAll _ entity header] at stored
  exact stored

namespace Table

/-- The entry that an origin has for an id once it was loaded from a table. -/
def lineFor (t : Table) (settings : OriginSettings) (entity id : String) : Option Entry :=
  (t.sentFor id).map (settings.fill entity t.header)

variable {t : Table} {settings : OriginSettings} {entity : String}

theorem lineFor_row (id : String) : (t.lineFor settings entity id).map Entry.row = (t.rows[id]?).map Row.render := by
  rw [← sentFor_row, lineFor, Option.map_map]
  exact congrArg (Option.map · _) (funext fun entry => (settings.fill_filled entity t.header entry).row)

theorem lastOf_content (t : Table) (id : String) : lastOf Entry.id t.content id = t.sentFor id := by
  rcases found : t.sentFor id with _ | entry
  · refine lastOf_none.2 fun member => ?_
    obtain ⟨entry, listed, rfl⟩ := List.mem_map.1 member
    rw [mem_content.1 listed] at found
    cases found
  · obtain rfl := sentFor_id found
    exact lastOf_of_nodup t.content_nodup (mem_content.2 found)

theorem lastOf_filled (entries : List Entry) (id : String) :
    lastOf Entry.id (entries.map (settings.fill entity t.header)) id =
      (lastOf Entry.id entries id).map (settings.fill entity t.header) := by
  rw [lastOf_map]
  congr 2
  exact funext fun entry => (settings.fill_filled entity t.header entry).id

end Table

namespace Site

variable {c : Conduct} {s t : Site} {entity : String} {table : Table}

/-- A reload takes effect with all that the table has. -/
theorem Tabled.reloads_content (tabled : Tabled c) (sound : Sound s) (free : s.origin.fanout.isOpen = false)
    (found : s.catalogue.tables[entity]? = some table) (whole : table.Sound) :
    ∃ told next after, Flow.effect ((wiring c).reload entity) s = (.ok (), after) ∧ Landed s told told after ∧
      Stages.Absorbs s.origin.settings s.origin.live ∅
        (replacing (.reload entity table.header) entity table.header table.content) told next := by
  have known : s.catalogue.header? entity = some table.header := Catalogue.header?_table found
  have lands : ∃ taken value after, Flow.effect ((wiring c).reload entity) s = (.ok value, after) ∧ Landed s taken taken after ∧
      ∃ next, Stages.Absorbs s.origin.settings s.origin.live ∅
        (replacing (.reload entity table.header) entity table.header table.content) taken next :=
    sound.runs free (fun number u begun => begun.reloading tabled found whole fun told next absorbs => ⟨next, absorbs⟩)
      fun _ settles _ _ => (settles.elim fun _ absorbs => (Served.whole known whole.content_written).absorbed absorbs).not_alone
  obtain ⟨told, _, after, ends, landed, next, absorbs⟩ := lands
  exact ⟨told, next, after, ends, landed, absorbs⟩

/-- An entity of which all was told that its table has, holds the lines of the table. -/
theorem Landed.refilled {told : List Event} (landed : Landed s told told t) (sound : Sound s)
    (all : concerning entity told = table.reloading s.origin.settings entity) :
    ∃ new, t.origin.live[entity]? = some new ∧ new.entity = entity ∧ new.header = table.header ∧
      ∀ id, new.get? id = table.lineFor s.origin.settings entity id := by
  have settles := (landed.settles sound entity).1
  rw [all] at settles
  obtain ⟨new, now, named, columns, entries⟩ := settles
  refine ⟨new, now, named, columns, fun id => ?_⟩
  rw [Store.get?, entries, getElem?_amendAll_updates, Table.lastOf_filled, Table.lastOf_content, Table.lineFor]

/-- A reload that takes effect leaves the lines of the table. -/
theorem Landed.reloaded {told : List Event} {next : Stages} (landed : Landed s told told t) (sound : Sound s)
    (absorbs : Stages.Absorbs s.origin.settings s.origin.live ∅
      (replacing (.reload entity table.header) entity table.header table.content) told next) :
    ∃ new, t.origin.live[entity]? = some new ∧ new.entity = entity ∧ new.header = table.header ∧
      (∀ id, new.get? id = table.lineFor s.origin.settings entity id) ∧
      ∀ other, entity ≠ other → t.origin.live[other]? = s.origin.live[other]? := by
  obtain rfl := absorbs.told_replacing rfl
  have own := table.concerning_reloading s.origin.settings entity
  obtain ⟨new, now, named, columns, lines⟩ := landed.refilled sound ((own entity).trans (if_pos rfl))
  refine ⟨new, now, named, columns, lines, fun other differs => landed.unspoken sound ?_⟩
  exact (own other).trans (if_neg differs)

/-- A reload is answered well where there is a table, and leaves its lines. -/
theorem Tabled.reload_lines (tabled : Tabled c) (sound : Sound s) (free : s.origin.fanout.isOpen = false)
    (found : s.catalogue.tables[entity]? = some table) (whole : table.Sound) (thread : Thread) :
    ∃ t new, act c thread (.reload entity) s = (.ok .done, t) ∧ t.origin.live[entity]? = some new ∧ new.entity = entity ∧
      new.header = table.header ∧ (∀ id, new.get? id = table.lineFor s.origin.settings entity id) ∧
      ∀ other, entity ≠ other → t.origin.live[other]? = s.origin.live[other]? := by
  obtain ⟨told, next, t, ends, landed, absorbs⟩ := tabled.reloads_content (sound.on thread) free found whole
  obtain ⟨new, now, named, columns, lines, others⟩ := landed.of_on.reloaded sound absorbs
  have acts : act c thread (.reload entity) s = (.ok .done, t) := by
    rw [act, perform, Flow.effect_map, ends]
    rfl
  exact ⟨t, new, acts, now, named, columns, lines, others⟩

/-- The reload of all entities is answered well, and leaves the lines of each table. -/
theorem Tabled.reloadAll_lines (tabled : Tabled c) (sound : Sound s) (free : s.origin.fanout.isOpen = false)
    (tables : s.catalogue.Sound) (thread : Thread) :
    ∃ t, act c thread .reloadAll s = (.ok .done, t) ∧ ∀ (entity : String) (table : Table), s.catalogue.tables[entity]? = some table →
      ∃ new : Store, t.origin.live[entity]? = some new ∧ new.entity = entity ∧ new.header = table.header ∧
        ∀ id, new.get? id = table.lineFor s.origin.settings entity id := by
  have lands : ∃ taken value after, Flow.effect ((wiring c).run fun number =>
      s.catalogue.entities.forM fun entity => (wiring c).fetchInto (.whole entity) number) { s with thread } = (.ok value, after) ∧
      Landed { s with thread } taken taken after ∧ Served s.catalogue taken ∧
      ∀ (entity : String) (table : Table), s.catalogue.tables[entity]? = some table →
        concerning entity taken = table.reloading s.origin.settings entity :=
    (sound.on thread).runs free
      (tabled.brings_reloadAll (s := Site.begun { s with thread }) tables fun told served each => ⟨served, each⟩)
      fun _ both _ _ => both.1.not_alone
  obtain ⟨told, value, t, ends, landed, _, each⟩ := lands
  have continues : Flow.effect (Flow.resume (c.serves { s with thread }) >>= fun entities : List String => (wiring c).run fun number =>
      entities.forM fun entity => (wiring c).fetchInto (.whole entity) number) { s with thread } = (.ok value, t) := by
    rw [tabled.serves, Flow.effect_bind, Flow.effect_resume]
    exact ends
  have reloads : Flow.effect (wiring c).reloadAll { s with thread } = (.ok value, t) := continues
  refine ⟨t, ?_, fun entity table found => landed.of_on.refilled sound (each entity table found)⟩
  rw [act, perform, Flow.effect_map, reloads]
  rfl

end Site

end ReferenceFeed
