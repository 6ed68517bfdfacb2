import ReferenceFeed.Proofs.Convergence
import ReferenceFeed.Proofs.Reloading
import ReferenceFeed.Proofs.Serving

namespace ReferenceFeed

/-!
However a payload is written, what an origin makes of it has one form. A table has a text of its own, and is the table that is
loaded from this text; and what an origin renders that is opened over some tables are their texts.
-/

namespace Table

variable {t : Table} {entity : String}

/-- A table as a payload: its rows in the order of their ids. -/
def text (t : Table) : String := Payload.render t.header t.content []

/-- A table whose rows are more than their ids, so that none of them is read as a removal. -/
def Legible (t : Table) : Prop := t.rows = ∅ ∨ 2 ≤ t.header.width

/-- The records of the text of a table. -/
def records (t : Table) : List Record := (t.content.map Entry.bare).map .update

theorem Sound.read_text (sound : t.Sound) (legible : t.Legible) : Payload.read t.text = .ok ⟨t.header, t.records⟩ := by
  rcases legible with empty | wide
  · have nothing : t.content = [] := by
      rw [content, empty]
      rfl
    rw [text, records, nothing]
    exact Payload.read_spelled .nil
  · have reads := Payload.read_render wide sound.content_written []
    rw [List.map_nil, List.append_nil] at reads
    rw [text, records, List.map_map]
    exact reads

theorem entries_records (t : Table) : Payload.entries ⟨t.header, t.records⟩ = t.content.map Entry.bare := by
  rw [Payload.entries, records, List.filterMap_map]
  exact List.filterMap_some

/-- The text of a table brings the rows of the table. -/
theorem Sound.rowsOf_records (sound : t.Sound) : Catalogue.rowsOf ⟨t.header, t.records⟩ = .ok t.rows := by
  have spelled : List.Forall₂ (fun entry pair => entry.id = pair.1 ∧ entry.fields = .ok pair.2)
      (Payload.entries ⟨t.header, t.records⟩) t.rows.toList := by
    rw [entries_records, content, List.map_map, List.forall₂_map_left_iff, List.forall₂_same]
    rintro ⟨id, fields⟩ listed
    obtain ⟨rest, rfl, _⟩ := sound id fields (Std.ExtTreeMap.mem_toList_iff_getElem?_eq_some.1 listed)
    exact ⟨rfl, Row.split_render _ _⟩
  rw [Catalogue.rowsOf_spelled spelled]
  refine congrArg Except.ok (Std.ExtTreeMap.ext_getElem? fun {id} => ?_)
  rw [getElem?_foldl_insert Prod.fst Prod.snd, lastOf_toList, Std.ExtTreeMap.getElem?_empty, Option.or_none]

/-- Every row sits where it is stored. -/
theorem Regular.storedAs_row (regular : t.Regular) (id : String) (fields : List Field) (found : t.rows[id]? = some fields) :
    t.storedAs fields = some (id, fields) := by
  have fits := regular.sound id fields found
  by_cases given : t.idParts = []
  · exact storedAs_fits given fits
  · obtain ⟨composable, composes⟩ := regular.keyed given id fields found
    obtain ⟨rest, rfl, _⟩ := fits
    rw [Table.storedAs, if_neg given, if_pos composable, composes]
    rfl

/-- Columns to compose ids of stand beside the id. -/
theorem placesOf_wide {header : Header} {columns : List String} {idParts : List (String × Nat)}
    (placed : placesOf entity header columns = .ok idParts) : 2 ≤ header.width := by
  obtain ⟨some, places⟩ := placesOf_ok_iff.1 placed
  cases places with
  | nil => exact absurd rfl some
  | cons first _ =>
    obtain ⟨_, stands, positive⟩ := first
    have inside := (List.findIdx?_eq_some_iff_findIdx_eq.1 stands).1
    exact Nat.lt_of_le_of_lt positive inside

end Table

namespace Catalogue

variable {c d : Catalogue} {entity : String} {t : Table} {header : Header}

/-- A table without its rows takes in a payload with its own columns. -/
theorem Regular.blank_same (regular : c.Regular) (found : c.tables[entity]? = some t) (records : List Record) :
    c.blank entity ⟨t.header, records⟩ t.idParts = { t with rows := ∅ } := by
  have same : t.groups.filterMap (fun group _ => t.header.position? group) = t.groups := by
    refine Std.ExtTreeMap.ext_getElem? fun {group} => ?_
    simp only [Std.ExtTreeMap.getElem?_filterMap, Std.ExtTreeMap.getKey_eq]
    rcases declared : t.groups[group]? with _ | place
    · rfl
    · exact (regular entity t found).grouped group place declared
  simp only [blank, tableOf, found]
  exact congrArg (fun groups => { t with groups, rows := ∅ }) same

/-- A table that is loaded from its own text stays as it is. -/
theorem Regular.load_text (regular : c.Regular) (found : c.tables[entity]? = some t) (legible : t.Legible) :
    (c.load entity t.text).answer = .ok () ∧ (c.load entity t.text).catalogue = c := by
  have whole := regular entity t found
  have blank := regular.blank_same found t.records
  have names : t.idParts.map Prod.fst = c.idColumns entity := by
    rw [idColumns, found]
    rfl
  have composes : t.idParts ≠ [] → Table.placesOf entity t.header (c.idColumns entity) = .ok t.idParts ∧
      ∀ fields ∈ t.rows.values, (c.blank entity ⟨t.header, t.records⟩ t.idParts).Composable fields := by
    intro composing
    refine ⟨Table.placesOf_ok_iff.2 ?_, fun fields member => ?_⟩
    · rw [← names, List.forall₂_map_left_iff, List.forall₂_same]
      exact ⟨mt List.map_eq_nil_iff.1 composing, fun part member => ⟨rfl, whole.placed part member⟩⟩
    · obtain ⟨id, stored⟩ := Keyed.mem_values.1 member
      rw [blank]
      exact (whole.keyed composing id fields stored).1
  obtain ⟨answers, leaves⟩ := load_accepted (whole.sound.read_text legible) whole.sound.rowsOf_records names composes
  rw [blank, Table.storeAll_values whole.storedAs_row, withTable_self found] at leaves
  exact ⟨answers, leaves⟩

/-- An entity has some columns, and a table that can be read from its text. -/
def Spells (c : Catalogue) (entity : String) (header : Header) : Prop :=
  ∃ t, c.tables[entity]? = some t ∧ t.header = header ∧ t.Legible

theorem spells_withTable (same : t.header = header) (legible : t.Legible) : (c.withTable entity t).Spells entity header :=
  ⟨t, by rw [getElem?_withTable, if_pos rfl], same, legible⟩

/-- What was loaded can be read from the text of its table. A payload for the ids alone brings no rows. -/
theorem load_spells {text : String} (accepted : (c.load entity text).answer = .ok ()) :
    ∃ payload, Payload.read text = .ok payload ∧ (c.load entity text).catalogue.Spells entity payload.header := by
  cases c.loads entity text with
  | refused fails _ => cases fails.symm.trans accepted
  | @loaded payload rows idParts reads brought _ _ _ leaves =>
    refine ⟨payload, reads, leaves ▸ spells_withTable rfl ?_⟩
    by_cases wide : 2 ≤ payload.header.width
    · exact .inr wide
    · have nothing : payload.entries = [] :=
        List.eq_nil_iff_forall_not_mem.2 fun entry member => wide (Payload.read_updates reads entry member).2
      have none : rowsOf payload = .ok ∅ := by
        rw [rowsOf, nothing]
        rfl
      cases none.symm.trans brought
      exact .inl rfl

/-- Groups and parts of ids are declared one after another, refused declarations among them. -/
inductive Declares (c : Catalogue) : Catalogue → Prop
  | nothing : Declares c c
  | ids {d : Catalogue} (entity : String) (columns : List String) :
      Declares c d → Declares c (d.mutate (.composeIds entity columns)).2
  | group {d : Catalogue} (entity group : String) : Declares c d → Declares c (d.mutate (.declareGroup entity group)).2

theorem Declares.regular (declares : c.Declares d) (regular : c.Regular) : d.Regular := by
  induction declares with
  | nothing => exact regular
  | ids entity columns _ ih => exact ih.mutate _
  | group entity group _ ih => exact ih.mutate _

theorem Spells.withTable (spells : c.Spells entity header) {other : String} (kept : other = entity → t.header = header ∧ t.Legible) :
    (c.withTable other t).Spells entity header := by
  by_cases same : other = entity
  · obtain ⟨columns, legible⟩ := kept same
    exact same ▸ spells_withTable columns legible
  · obtain ⟨old, found, columns⟩ := spells
    exact ⟨old, by rw [getElem?_withTable, if_neg same, found], columns⟩

/-- Ids are composed of columns beside the id, and rows that have those are more than their ids. -/
theorem Spells.ids (spells : c.Spells entity header) (other : String) (columns : List String) :
    (c.mutate (.composeIds other columns)).2.Spells entity header := by
  have placed : ∀ {t idParts rows}, c.tables[other]? = some t → Table.placesOf other t.header columns = .ok idParts →
      (c.withTable other ((declared t idParts).storeAll rows)).Spells entity header := by
    intro t idParts rows found places
    refine spells.withTable fun same => ⟨?_, .inr (Table.placesOf_wide places)⟩
    obtain ⟨old, there, columns, _⟩ := spells
    cases there.symm.trans (same ▸ found)
    exact columns
  change (c.composeIds other columns).catalogue.Spells entity header
  cases c.composes other columns with
  | refused _ kept _ => rwa [kept]
  | composed found places _ _ leaves =>
    rw [leaves]
    exact placed found places
  | stopped found places _ _ _ _ leaves =>
    rw [leaves]
    exact placed found places

theorem Spells.group (spells : c.Spells entity header) (other group : String) :
    (c.mutate (.declareGroup other group)).2.Spells entity header := by
  change (c.after id (c.declareGroup other group)).2.Spells entity header
  rcases declares : c.declareGroup other group with cause | d
  · exact spells
  · obtain ⟨t, found, declares⟩ := bind_ok declares
    split at declares
    · cases declares
    · cases declares
      refine spells.withTable fun same => ?_
      obtain ⟨old, there, kept⟩ := spells
      cases there.symm.trans (same ▸ table_ok found)
      exact kept

theorem Declares.spells (declares : c.Declares d) (spells : c.Spells entity header) : d.Spells entity header := by
  induction declares with
  | nothing => exact spells
  | ids other columns _ ih => exact ih.ids other columns
  | group other group _ ih => exact ih.group other group

end Catalogue

/-- A store with the lines of a table renders the text of the table: groups do not travel. -/
theorem Store.render_lines {store : Store} {t : Table} {settings : OriginSettings} {entity : String} (columns : store.header = t.header)
    (lines : ∀ id, store.get? id = t.lineFor settings entity id) : store.render = t.text := by
  have entries : store.entries = t.rows.map fun id fields => settings.fill entity t.header (t.sent id fields) := by
    refine Std.ExtTreeMap.ext_getElem? fun {id} => ?_
    have line : store.get? id = _ := lines id
    rw [Table.lineFor, Table.sentFor, Option.map_map] at line
    rw [Std.ExtTreeMap.getElem?_map]
    exact line
  have all : store.all = t.content.map (settings.fill entity t.header) := by
    rw [Store.all, entries, Keyed.values_eq_map, Std.ExtTreeMap.toList_map, List.map_map, Table.content, List.map_map]
    rfl
  have rows : store.all.map Entry.row = t.content.map Entry.row := by
    rw [all, List.map_map]
    exact List.map_congr_left fun entry _ => (settings.fill_filled entity t.header entry).row
  rw [Store.render, Table.text, Payload.render, Payload.render, rows, columns]

namespace Site

variable {c : Conduct} {tables declared : Catalogue} {entity text : String}

/-- An origin is opened over some tables: it loads all that they serve. -/
def opening (c : Conduct) (thread : Thread) (settings : OriginSettings) (tables : Catalogue) : Except Fault Answer × Site :=
  act c thread .reloadAll { origin := { settings }, catalogue := tables }

/-- What is opened over some tables renders the texts of these tables. -/
theorem Tabled.opens (tabled : Tabled c) (regular : tables.Regular) (settings : OriginSettings) (thread : Thread) :
    ∃ s, opening c thread settings tables = (.ok .done, s) ∧ ∀ (entity : String) (t : Table), tables.tables[entity]? = some t →
      ∃ store, s.origin.store entity = .ok store ∧ store.render = t.text := by
  have sound : tables.Sound := fun entity t found => (regular entity t found).sound
  obtain ⟨s, opened, lines⟩ := tabled.reloadAll_lines (Sound.fresh settings tables) rfl sound thread
  refine ⟨s, opened, fun entity t found => ?_⟩
  obtain ⟨store, alive, _, columns, lines⟩ := lines entity t found
  exact ⟨store, by rw [Origin.store, liveStore, alive], Store.render_lines columns lines⟩

/-- Whatever payload was loaded, before or after parts of ids were declared, the origin that is opened next renders it in its normal
form. This form is loaded too, and rendered the same by whatever is opened after that; and it reads as updates alone, under the columns
of the payload and in the order of their ids. -/
theorem Tabled.opening_normalizes (tabled : Tabled c) (made : tables.Made) (accepted : (tables.load entity text).answer = .ok ())
    (declares : (tables.load entity text).catalogue.Declares declared) (settings : OriginSettings) (thread : Thread) :
    ∃ payload s store, Payload.read text = .ok payload ∧ opening c thread settings declared = (.ok .done, s) ∧
      s.origin.store entity = .ok store ∧ (declared.load entity store.render).answer = .ok () ∧
      (∀ (settings : OriginSettings) (thread : Thread), ∃ t again,
        opening c thread settings (declared.load entity store.render).catalogue = (.ok .done, t) ∧
          t.origin.store entity = .ok again ∧ again.render = store.render) ∧
      ∃ entries : List Entry, Payload.read store.render = .ok ⟨payload.header, entries.map .update⟩ ∧
        entries.Pairwise fun a b => compare a.id b.id = .lt := by
  have regular := declares.regular (made.regular.load entity text)
  obtain ⟨payload, reads, spells⟩ := Catalogue.load_spells accepted
  obtain ⟨table, found, columns, legible⟩ := declares.spells spells
  obtain ⟨s, opened, renders⟩ := tabled.opens regular settings thread
  obtain ⟨store, alive, written⟩ := renders entity table found
  obtain ⟨answers, same⟩ := regular.load_text found legible
  refine ⟨payload, s, store, reads, opened, alive, written ▸ answers, fun settings thread => ?_, table.content.map Entry.bare, ?_, ?_⟩
  · obtain ⟨t, reopened, renders⟩ := tabled.opens regular settings thread
    obtain ⟨again, present, rewritten⟩ := renders entity table found
    rw [written, same]
    exact ⟨t, again, reopened, present, rewritten⟩
  · rw [written, ← columns]
    exact (regular entity table found).sound.read_text legible
  · exact List.pairwise_map.2 table.content_ordered

/-- A payload with quotes it does not need, line breaks of two kinds, a blank line, a removal and an id that comes twice. -/
def untidy : String := "id,a,b\r\n1,\"x\",y\r\n\r\n2,q,\"r\"\n1,p,\"m/n,o\"\r\n7\n\"3\",\"\",u"

/-- The tables with this payload, after its ids were composed of the other columns. -/
def rekeyed : Catalogue := ((({} : Catalogue).load "e" untidy).catalogue.mutate (.composeIds "e" ["a", "b"])).2

theorem opening_normalizes_untidy : (({} : Catalogue).load "e" untidy).answer = .ok () ∧
    ∃ s store, opening staffed 0 {} rekeyed = (.ok .done, s) ∧ s.origin.store "e" = .ok store ∧
      store.render = "id,a,b\n/u,\"\",u\n\"p/m\\/n,o\",p,\"m/n,o\"\nq/r,q,r" ∧
      (rekeyed.load "e" store.render).answer = .ok () ∧
      ∃ t again, opening staffed 1 {} (rekeyed.load "e" store.render).catalogue = (.ok .done, t) ∧
        t.origin.store "e" = .ok again ∧ again.render = store.render := by
  have accepted : (({} : Catalogue).load "e" untidy).answer = .ok () := by decide +kernel
  have declares : (({} : Catalogue).load "e" untidy).catalogue.Declares rekeyed := .ids "e" ["a", "b"] .nothing
  obtain ⟨payload, s, store, _, opened, alive, loaded, reopens, _⟩ :=
    tabled_staffed.opening_normalizes ⟨[], rfl⟩ accepted declares {} 0
  have rendered : ((opening staffed 0 {} rekeyed).2.origin.store "e").map Store.render =
      .ok "id,a,b\n/u,\"\",u\n\"p/m\\/n,o\",p,\"m/n,o\"\nq/r,q,r" := by decide +kernel
  rw [opened] at rendered
  have text : (s.origin.store "e").map Store.render = _ := rendered
  rw [alive] at text
  exact ⟨accepted, s, store, opened, alive, Except.ok.inj text, loaded, reopens {} 1⟩

end Site

end ReferenceFeed
