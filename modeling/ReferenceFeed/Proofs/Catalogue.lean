import ReferenceFeed.Proofs.Keyed
import ReferenceFeed.Proofs.Payload
import ReferenceFeed.Proofs.Site

namespace ReferenceFeed

/-!
The tables of a source. Every row is stored under its own id and is as wide as its header, whatever is done to a
table; and a table keeps its columns unless others are loaded.
-/

/-- A row with an id that has one field for each column. -/
def Header.Fits (header : Header) (id : String) (fields : List Field) : Prop :=
  ∃ rest, fields = some id :: rest ∧ rest.length + 1 = header.width

theorem Header.Fits.length {header : Header} {id : String} {fields : List Field} (fits : header.Fits id fields) :
    fields.length = header.width := by
  obtain ⟨rest, rfl, width⟩ := fits
  exact width

namespace Payload

variable {text : String} {payload : Payload}

/-- A record that is read as an update fills all columns, and there is one beside the id. -/
theorem recordOf_update {header : Header} {line : Except RowFault (List Field)} {entry : Entry}
    (reads : recordOf header line = .ok (.update entry)) : entry.Written header ∧ 2 ≤ header.width := by
  unfold recordOf at reads
  split at reads
  · cases reads
  · cases reads
  · next rest more =>
    split at reads
    · next width =>
      cases reads
      refine ⟨⟨rest, rfl, width⟩, ?_⟩
      cases rest with
      | nil => exact absurd rfl more
      | cons field rest => exact width ▸ Nat.le_add_left 2 rest.length
    · cases reads
  · cases reads

theorem read_updates (reads : read text = .ok payload) :
    ∀ entry ∈ payload.entries, entry.Written payload.header ∧ 2 ≤ payload.header.width := by
  unfold read at reads
  split at reads
  · cases reads
  · obtain ⟨header, _, reads⟩ := bind_ok reads
    obtain ⟨records, all, reads⟩ := bind_ok reads
    cases reads
    intro entry member
    obtain ⟨record, inRecords, picked⟩ := List.mem_filterMap.1 member
    obtain ⟨line, _, one⟩ := mapM_ok all record inRecords
    cases record with
    | remove id => cases picked
    | update other =>
      cases picked
      exact recordOf_update one

/-- What a payload reads as updates is written as wide as its header. -/
theorem read_written (reads : read text = .ok payload) : ∀ entry ∈ payload.entries, entry.Written payload.header := fun entry member =>
  (read_updates reads entry member).1

end Payload

namespace Table

variable {t : Table} {entity : String} {fields : List Field}

/-- Every row is stored under its own id, and is as wide as the header. -/
def Sound (t : Table) : Prop := ∀ (key : String) (fields : List Field), t.rows[key]? = some fields → t.header.Fits key fields

theorem sound_empty (t : Table) : Sound { t with rows := ∅ } := by
  intro key fields found
  rw [Std.ExtTreeMap.getElem?_empty] at found
  cases found

theorem Sound.insert (sound : t.Sound) {id : String} (fits : t.header.Fits id fields) :
    Sound { t with rows := t.rows.insert id fields } := by
  intro key other found
  rw [Keyed.getElem?_insert] at found
  split at found
  · next same =>
    cases found
    exact same ▸ fits
  · exact sound key other found

theorem Sound.erase (sound : t.Sound) (gone : String) : Sound { t with rows := t.rows.erase gone } := by
  intro key other found
  rw [Keyed.getElem?_erase] at found
  split at found
  · cases found
  · exact sound key other found

theorem Sound.values (sound : t.Sound) : ∀ fields ∈ t.rows.values, ∃ id, t.header.Fits id fields := by
  intro fields member
  obtain ⟨key, found⟩ := Keyed.mem_values.1 member
  exact ⟨key, sound key fields found⟩

/-- A composed id takes the place of the one that was given. -/
theorem composed_fits (width : fields.length = t.header.width) {id : String} {new : List Field}
    (composes : t.composed entity fields = .ok (id, new)) : t.header.Fits id new := by
  obtain ⟨parts, _, same⟩ := map_ok composes
  cases same
  obtain ⟨columns, names⟩ := t.header.names_cons
  cases fields with
  | nil =>
    rw [Header.width, names] at width
    cases width
  | cons first rest => exact ⟨rest, rfl, width⟩

theorem Sound.storeComposed (sound : t.Sound) {rows : List (List Field)} (wide : ∀ fields ∈ rows, fields.length = t.header.width) :
    (storeComposed entity t rows).1.Sound ∧ (storeComposed entity t rows).1.header = t.header := by
  induction rows generalizing t with
  | nil => exact ⟨sound, rfl⟩
  | cons fields rest ih =>
    unfold Table.storeComposed
    rcases composes : t.composed entity fields with cause | ⟨id, new⟩
    · exact ⟨sound, rfl⟩
    · have fits := composed_fits (wide fields List.mem_cons_self) composes
      exact ih (sound.insert fits) fun other member => wide other (List.mem_cons_of_mem _ member)

theorem Sound.recompose (sound : t.Sound) (entity : String) : (t.recompose entity).1.Sound ∧ (t.recompose entity).1.header = t.header := by
  have empty : Sound { t with rows := ∅ } := sound_empty t
  refine empty.storeComposed fun fields member => ?_
  obtain ⟨id, fits⟩ := sound.values fields member
  exact fits.length

end Table

namespace Catalogue

variable {c : Catalogue} {entity : String} {t : Table}

/-- Every table is sound. -/
def Sound (c : Catalogue) : Prop := ∀ (entity : String) (t : Table), c.tables[entity]? = some t → t.Sound

/-- The columns of an entity. -/
def header? (c : Catalogue) (entity : String) : Option Header := (c.tables[entity]?).map Table.header

theorem sound_empty : Sound {} := by
  intro entity t found
  rw [Std.ExtTreeMap.getElem?_empty] at found
  cases found

theorem getElem?_withTable (c : Catalogue) (entity : String) (t : Table) (other : String) :
    (c.withTable entity t).tables[other]? = if entity = other then some t else c.tables[other]? :=
  Keyed.getElem?_insert _ _ _ _

theorem Sound.withTable (sound : c.Sound) (whole : t.Sound) : (c.withTable entity t).Sound := by
  intro other found atOther
  rw [getElem?_withTable] at atOther
  split at atOther
  · cases atOther
    exact whole
  · exact sound other found atOther

theorem header?_table (found : c.tables[entity]? = some t) : c.header? entity = some t.header := by
  rw [header?, found]
  rfl

theorem table_ok (found : c.table entity = .ok t) : c.tables[entity]? = some t := by
  unfold table at found
  split at found
  · cases found
    assumption
  · cases found

/-- The columns of every entity that there was are what they were. -/
def Extends (c d : Catalogue) : Prop := ∀ entity header, c.header? entity = some header → d.header? entity = some header

theorem Extends.refl (c : Catalogue) : c.Extends c := fun _ _ => id

theorem extends_withTable (kept : ∀ old, c.tables[entity]? = some old → t.header = old.header) :
    c.Extends (c.withTable entity t) := by
  intro other header found
  rw [header?, getElem?_withTable]
  split
  · next same =>
    obtain ⟨old, atEntity, rfl⟩ := Option.map_eq_some_iff.1 found
    exact congrArg some (kept old (same ▸ atEntity))
  · exact found

theorem rowsOf_spelled {payload : Payload} {pairs : List (String × List Field)}
    (spelled : List.Forall₂ (fun entry pair => entry.id = pair.1 ∧ entry.fields = .ok pair.2) payload.entries pairs) :
    rowsOf payload = .ok (pairs.foldl (fun map pair => map.insert pair.1 pair.2) ∅) := by
  rw [rowsOf, mapM_ok_iff.2 (spelled.imp _)]
  · rfl
  · rintro entry pair ⟨named, split⟩
    rw [split, named]

theorem rowsOf_fits {payload : Payload} (written : ∀ entry ∈ payload.entries, entry.Written payload.header)
    {rows : Keyed (List Field)} (ends : rowsOf payload = .ok rows) :
    ∀ (key : String) (fields : List Field), rows[key]? = some fields → payload.header.Fits key fields := by
  obtain ⟨pairs, all, ends⟩ := bind_ok ends
  cases ends
  have fits : ∀ pair ∈ pairs, payload.header.Fits pair.1 pair.2 := by
    intro pair member
    obtain ⟨entry, inEntries, one⟩ := mapM_ok all pair member
    obtain ⟨rest, splits, width⟩ := (written entry inEntries).fields
    rw [splits] at one
    cases one
    exact ⟨rest, rfl, width⟩
  intro key fields found
  rw [getElem?_foldl_insert Prod.fst Prod.snd, Std.ExtTreeMap.getElem?_empty, Option.or_none, Option.map_eq_some_iff] at found
  obtain ⟨pair, last, rfl⟩ := found
  obtain ⟨member, rfl⟩ := lastOf_some last
  exact fits pair member

/-- What is loaded has to bring the columns that its entity has, if it has some. -/
def Mutation.KeepsColumns (c : Catalogue) : Mutation → Prop
  | .load entity text => ∀ payload ∈ (Payload.read text).toOption, ∀ header ∈ c.header? entity, payload.header = header
  | .composeIds _ _ | .declareGroup _ _ | .upsert _ _ | .delete _ _ => True

instance (c : Catalogue) : (change : Mutation) → Decidable (change.KeepsColumns c)
  | .load entity text =>
    inferInstanceAs (Decidable (∀ payload ∈ (Payload.read text).toOption, ∀ header ∈ c.header? entity, payload.header = header))
  | .composeIds _ _ | .declareGroup _ _ | .upsert _ _ | .delete _ _ => inferInstanceAs (Decidable True)

/-- A change of the tables puts a sound table in the place of another, or does nothing. -/
inductive Exchanges (c : Catalogue) (keeps : Prop) : Catalogue → Prop
  | nothing : Exchanges c keeps c
  | table {entity : String} {t : Table} : t.Sound → (keeps → ∀ old, c.tables[entity]? = some old → t.header = old.header) →
      Exchanges c keeps (c.withTable entity t)

theorem tableOf_sound {payload : Payload} {rows : Keyed (List Field)} {text : String} (reads : Payload.read text = .ok payload)
    (ends : rowsOf payload = .ok rows) (previous : Option Table) : (tableOf payload rows previous).Sound := by
  have fits := rowsOf_fits (Payload.read_written reads) ends
  exact fits

theorem load_exchanges (c : Catalogue) (entity text : String) :
    c.Exchanges (Mutation.KeepsColumns c (.load entity text)) (c.load entity text).catalogue := by
  unfold load
  extract_lets previous loaded
  have ends : loaded = (Payload.read text >>= fun payload => rowsOf payload >>= fun rows =>
    .ok (tableOf payload rows previous, (previous.map fun t => t.idParts.map Prod.fst).getD [])) := rfl
  clear_value loaded
  rcases loaded with cause | ⟨t, columns⟩
  · exact .nothing
  · obtain ⟨payload, reads, ends⟩ := bind_ok ends.symm
    obtain ⟨rows, brought, ends⟩ := bind_ok ends
    have whole := tableOf_sound reads brought previous
    have kept : Mutation.KeepsColumns c (.load entity text) → ∀ old, c.tables[entity]? = some old → payload.header = old.header := by
      intro keeps old found
      have columns : c.header? entity = some old.header := header?_table found
      have read : (Payload.read text).toOption = some payload := by rw [reads]; rfl
      exact keeps payload read old.header columns
    obtain ⟨same, _⟩ := Prod.mk.inj (Except.ok.inj ends)
    rw [same] at whole
    have header : t.header = payload.header := by rw [← same]; rfl
    -- Without columns to compose ids from, the rows stay as they were read; otherwise they are stored under composed ids.
    rcases columns with _ | ⟨column, columns⟩
    · exact .table whole fun keeps old found => header.trans (kept keeps old found)
    · simp only
      rcases Table.placesOf entity t.header (column :: columns) with cause | idParts
      · exact .nothing
      · have placed : Table.Sound { t with idParts } := whole
        obtain ⟨sound, same⟩ := placed.recompose entity
        simp only
        generalize Table.recompose { t with idParts } entity = outcome at sound same
        rcases outcome with ⟨new, notices, cause | _⟩
        · exact .nothing
        · exact .table sound fun keeps old found => same.trans (header.trans (kept keeps old found))

/-- A table that only got other rows, groups or parts of ids keeps its columns. -/
theorem exchanges_within {keeps : Prop} {c : Catalogue} {entity : String} {old new : Table} (found : c.tables[entity]? = some old)
    (sound : new.Sound) (header : new.header = old.header) : c.Exchanges keeps (c.withTable entity new) := by
  refine .table sound fun _ other atEntity => ?_
  cases found.symm.trans atEntity
  exact header

theorem exchanges_after {keeps : Prop} {c : Catalogue} {α : Type} {pick : α → Catalogue} {outcome : Except Failure α}
    (exchanges : ∀ value, outcome = .ok value → c.Exchanges keeps (pick value)) :
    c.Exchanges keeps (c.after pick outcome).2 := by
  cases outcome with
  | error cause => exact .nothing
  | ok value => exact exchanges value rfl

theorem Sound.composeIds_exchanges (sound : c.Sound) (entity : String) (columns : List String) {keeps : Prop} :
    c.Exchanges keeps (c.composeIds entity columns).catalogue := by
  unfold composeIds
  extract_lets placed
  have ends : placed = (c.table entity >>= fun t => Table.placesOf entity t.header columns >>= fun idParts =>
    .ok { t with idParts }) := rfl
  clear_value placed
  rcases placed with cause | t
  · exact .nothing
  · obtain ⟨old, found, ends⟩ := bind_ok ends.symm
    obtain ⟨idParts, _, ends⟩ := bind_ok ends
    cases ends
    have placed : Table.Sound { old with idParts } := sound entity old (table_ok found)
    obtain ⟨whole, same⟩ := placed.recompose entity
    exact exchanges_within (table_ok found) whole same

theorem declareGroup_exchanges (sound : c.Sound) {group : String} {d : Catalogue} {keeps : Prop}
    (declares : c.declareGroup entity group = .ok d) : c.Exchanges keeps d := by
  obtain ⟨old, found, declares⟩ := bind_ok declares
  have whole := sound entity old (table_ok found)
  split at declares
  · cases declares
  · cases declares
    exact exchanges_within (table_ok found) whole rfl

theorem upsert_exchanges (sound : c.Sound) {fields : List Field} {d : Catalogue} {keeps : Prop}
    (stores : c.upsert entity fields = .ok d) : c.Exchanges keeps d := by
  obtain ⟨old, found, stores⟩ := bind_ok stores
  have whole := sound entity old (table_ok found)
  split at stores
  · cases stores
  · next wide =>
    have width : fields.length = old.header.width := by simpa using wide
    split at stores
    · split at stores
      · cases stores
        exact exchanges_within (table_ok found) (whole.insert ⟨_, rfl, width⟩) rfl
      · cases stores
    · obtain ⟨⟨id, new⟩, composes, stores⟩ := bind_ok stores
      cases stores
      exact exchanges_within (table_ok found) (whole.insert (Table.composed_fits width composes)) rfl

theorem delete_exchanges (sound : c.Sound) {id : String} {gone : Bool} {d : Catalogue} {keeps : Prop}
    (deletes : c.delete entity id = .ok (gone, d)) : c.Exchanges keeps d := by
  obtain ⟨old, found, deletes⟩ := bind_ok deletes
  obtain ⟨key, _, deletes⟩ := bind_ok deletes
  cases deletes
  exact exchanges_within (table_ok found) ((sound entity old (table_ok found)).erase key) rfl

theorem Sound.exchanges (sound : c.Sound) (change : Mutation) : c.Exchanges (change.KeepsColumns c) (c.mutate change).2 := by
  cases change with
  | load entity text => exact load_exchanges c entity text
  | composeIds entity columns => exact sound.composeIds_exchanges entity columns
  | declareGroup entity group => exact exchanges_after fun d declares => declareGroup_exchanges sound declares
  | upsert entity fields => exact exchanges_after fun d stores => upsert_exchanges sound stores
  | delete entity id => exact exchanges_after fun _ deletes => delete_exchanges sound deletes

theorem Sound.mutate (sound : c.Sound) (change : Mutation) : (c.mutate change).2.Sound := by
  have exchanges := sound.exchanges change
  generalize (c.mutate change).2 = d at exchanges
  cases exchanges with
  | nothing => exact sound
  | table whole _ => exact sound.withTable whole

/-- Tables that were made by some changes, beginning with none. -/
def Made (c : Catalogue) : Prop := ∃ changes : List Mutation, c = changes.foldl (fun tables change => (tables.mutate change).2) {}

/-- What holds of no tables and is kept by every change, refused ones among them, holds of whatever tables were made. -/
theorem Made.kept (made : c.Made) {Keeps : Catalogue → Prop} (first : Keeps {})
    (step : ∀ (tables : Catalogue) (change : Mutation), Keeps tables → Keeps (tables.mutate change).2) : Keeps c := by
  obtain ⟨changes, rfl⟩ := made
  exact List.foldlRecOn changes _ first fun tables keeps change _ => step tables change keeps

theorem Made.sound (made : c.Made) : c.Sound := made.kept sound_empty fun _ change sound => sound.mutate change

theorem Sound.extends_mutate (sound : c.Sound) {change : Mutation} (keeps : change.KeepsColumns c) :
    c.Extends (c.mutate change).2 := by
  have exchanges := sound.exchanges change
  generalize (c.mutate change).2 = d at exchanges
  cases exchanges with
  | nothing => exact .refl c
  | table _ kept => exact extends_withTable (kept keeps)

end Catalogue

end ReferenceFeed
