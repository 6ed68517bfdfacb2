import ReferenceFeed.Proofs.Fetching
import ReferenceFeed.Proofs.Keying

namespace ReferenceFeed

/-!
What every change of the tables keeps, refused ones among them: groups and parts of ids stand where the columns of their names
stand, and where ids are composed each row has the one that its fields compose.
-/

open OriginSettings (fieldOf)

namespace Table

/-- The declarations of a table agree with its header, and its rows with both. -/
structure Regular (t : Table) : Prop where
  sound : t.Sound
  grouped : ∀ (group : String) place, t.groups[group]? = some place → t.header.position? group = some place
  placed : ∀ part ∈ t.idParts, t.header.position? part.1 = some part.2 ∧ 0 < part.2
  keyed : t.idParts ≠ [] → ∀ (id : String) fields, t.rows[id]? = some fields →
    t.Composable fields ∧ CompositeId.compose (t.idFields fields) = id

variable {t : Table} {fields : List Field}

/-- The id is none of its parts. -/
theorem Regular.idFields_set (regular : t.Regular) (fields : List Field) (id : Field) :
    t.idFields (fields.set 0 id) = t.idFields fields := by
  refine List.map_congr_left fun part member => ?_
  rw [List.getElem?_set_ne (regular.placed part member).2.ne]

theorem Regular.idFields_named (regular : t.Regular) (fields : List Field) :
    t.idFields fields = t.idParts.map fun part => fieldOf t.header fields part.1 := by
  refine List.map_congr_left fun part member => ?_
  rw [fieldOf, (regular.placed part member).1, Option.bind_some]

/-- The group values of a row are those of the columns of their names. -/
theorem Regular.groupsOf_named (regular : t.Regular) (fields : List Field) (group : String) :
    (t.groupsOf fields)[group]? = if t.groups.contains group then fieldOf t.header fields group else none := by
  rw [groupsOf, Std.ExtTreeMap.getElem?_filterMap, Std.ExtTreeMap.contains_eq_isSome_getElem?]
  rcases declared : t.groups[group]? with _ | place
  · rfl
  · rw [fieldOf, regular.grouped group place declared]
    rfl

/-- A row fits under the id it is stored with, which is composed of its fields where ids are. -/
theorem Regular.storedAs (regular : t.Regular) (wide : fields.length = t.header.width) {id : String} {row : List Field}
    (stored : t.storedAs fields = some (id, row)) :
    t.header.Fits id row ∧ (t.idParts ≠ [] → t.Composable row ∧ CompositeId.compose (t.idFields row) = id) := by
  unfold Table.storedAs at stored
  split at stored
  · next given =>
    split at stored
    · cases stored
      exact ⟨⟨_, rfl, wide⟩, absurd given⟩
    · cases stored
  · split at stored
    · next composable =>
      cases stored
      refine ⟨composed_fits wide (composed_of_composable "" composable), fun _ => ?_⟩
      rw [Composable, regular.idFields_set]
      exact ⟨composable, rfl⟩
    · cases stored

theorem Regular.insert (regular : t.Regular) {id : String} {row : List Field} (fits : t.header.Fits id row)
    (keyed : t.idParts ≠ [] → t.Composable row ∧ CompositeId.compose (t.idFields row) = id) :
    Regular { t with rows := t.rows.insert id row } := by
  refine ⟨regular.sound.insert fits, regular.grouped, regular.placed, fun composing key other found => ?_⟩
  rw [Keyed.getElem?_insert] at found
  split at found
  · next same =>
    cases found
    exact same ▸ keyed composing
  · exact regular.keyed composing key other found

theorem Regular.storeAll (regular : t.Regular) {rows : List (List Field)} (wide : ∀ fields ∈ rows, fields.length = t.header.width) :
    (t.storeAll rows).Regular := by
  induction rows generalizing t with
  | nil => exact regular
  | cons fields rest ih =>
    obtain ⟨here, wide⟩ := List.forall_mem_cons.1 wide
    have next : (t.storeAll [fields]).Regular := by
      rcases stored : t.storedAs fields with _ | ⟨id, row⟩
      · rw [storeAll_none stored]
        exact regular
      · rw [storeAll_some stored]
        obtain ⟨fits, keyed⟩ := regular.storedAs here stored
        exact regular.insert fits keyed
    rw [storeAll_cons]
    exact ih next wide

theorem Regular.erase (regular : t.Regular) (gone : String) : Regular { t with rows := t.rows.erase gone } := by
  refine ⟨regular.sound.erase gone, regular.grouped, regular.placed, fun composing key other found => ?_⟩
  rw [Keyed.getElem?_erase] at found
  split at found
  · cases found
  · exact regular.keyed composing key other found

theorem Regular.declare (regular : t.Regular) {group : String} {place : Nat} (placed : t.header.position? group = some place) :
    Regular { t with groups := t.groups.insert group place } := by
  refine ⟨regular.sound, fun other found atOther => ?_, regular.placed, regular.keyed⟩
  rw [Keyed.getElem?_insert] at atOther
  split at atOther
  · next same =>
    cases atOther
    exact same ▸ placed
  · exact regular.grouped other found atOther

/-- Without rows only the declarations count. -/
theorem regular_empty (empty : t.rows = ∅)
    (grouped : ∀ (group : String) place, t.groups[group]? = some place → t.header.position? group = some place)
    (placed : ∀ part ∈ t.idParts, t.header.position? part.1 = some part.2 ∧ 0 < part.2) : t.Regular := by
  have none : ∀ (id : String) fields, t.rows[id]? ≠ some fields := by
    intro id fields found
    rw [empty, Std.ExtTreeMap.getElem?_empty] at found
    cases found
  exact ⟨fun id fields found => absurd found (none id fields), grouped, placed,
    fun _ id fields found => absurd found (none id fields)⟩

end Table

namespace Catalogue

/-- Every table is regular. -/
def Regular (c : Catalogue) : Prop := ∀ (entity : String) (t : Table), c.tables[entity]? = some t → t.Regular

variable {c : Catalogue} {entity : String} {t : Table}

theorem regular_none : Regular {} := by
  intro entity t found
  rw [Std.ExtTreeMap.getElem?_empty] at found
  cases found

theorem Regular.withTable (regular : c.Regular) (whole : t.Regular) : (c.withTable entity t).Regular := by
  intro other found atOther
  rw [getElem?_withTable] at atOther
  split at atOther
  · cases atOther
    exact whole
  · exact regular other found atOther

theorem Regular.after (regular : c.Regular) {α : Type} {pick : α → Catalogue} {outcome : Except Failure α}
    (changed : ∀ value, outcome = .ok value → (pick value).Regular) : (c.after pick outcome).2.Regular := by
  cases outcome with
  | error cause => exact regular
  | ok value => exact changed value rfl

theorem regular_blank {payload : Payload} {idParts : List (String × Nat)}
    (placed : ∀ part ∈ idParts, payload.header.position? part.1 = some part.2 ∧ 0 < part.2) :
    (c.blank entity payload idParts).Regular := by
  refine Table.regular_empty rfl (fun group place found => ?_) placed
  simp only [Catalogue.blank, tableOf] at found
  rcases previous : c.tables[entity]? with _ | t <;> rw [previous] at found
  · rw [Std.ExtTreeMap.getElem?_empty] at found
    cases found
  · rw [Std.ExtTreeMap.getElem?_filterMap, Option.pbind_eq_some_iff] at found
    obtain ⟨_, _, placed⟩ := found
    rwa [Std.ExtTreeMap.getKey_eq] at placed

theorem Regular.load (regular : c.Regular) (entity text : String) : (c.load entity text).catalogue.Regular := by
  cases c.loads entity text with
  | refused _ kept => rwa [kept]
  | @loaded payload rows idParts reads brought _ composes _ leaves =>
    rw [leaves]
    have placed : ∀ part ∈ idParts, payload.header.position? part.1 = some part.2 ∧ 0 < part.2 := fun part member =>
      Table.placesOf_placed (composes (List.ne_nil_of_mem member)).1 part member
    refine regular.withTable ((regular_blank placed).storeAll fun fields member => ?_)
    obtain ⟨id, found⟩ := Keyed.mem_values.1 member
    exact (rowsOf_fits (Payload.read_written reads) brought id fields found).length

theorem Regular.composeIds (regular : c.Regular) (entity : String) (columns : List String) :
    (c.composeIds entity columns).catalogue.Regular := by
  have filled : ∀ {t : Table} {idParts : List (String × Nat)} {rows : List (List Field)}, c.tables[entity]? = some t →
      Table.placesOf entity t.header columns = .ok idParts → rows ⊆ t.rows.values →
      ((declared t idParts).storeAll rows).Regular := by
    intro t idParts rows found placed inside
    have whole := regular entity t found
    have empty : (declared t idParts).Regular := Table.regular_empty rfl whole.grouped (Table.placesOf_placed placed)
    refine empty.storeAll fun fields member => ?_
    obtain ⟨id, fits⟩ := whole.sound.values fields (inside member)
    exact fits.length
  cases c.composes entity columns with
  | refused _ kept _ => rwa [kept]
  | composed found placed _ _ leaves =>
    rw [leaves]
    exact regular.withTable (filled found placed (List.Subset.refl _))
  | stopped found placed split _ _ _ leaves =>
    rw [leaves]
    exact regular.withTable (filled found placed (split ▸ List.subset_append_left _ _))

theorem Regular.declareGroup (regular : c.Regular) {group : String} {d : Catalogue}
    (declares : c.declareGroup entity group = .ok d) : d.Regular := by
  obtain ⟨t, found, declares⟩ := bind_ok declares
  split at declares
  · cases declares
  · next placed =>
    cases declares
    exact regular.withTable ((regular entity t (table_ok found)).declare placed)

theorem Regular.upsert (regular : c.Regular) {fields : List Field} {d : Catalogue} (stores : c.upsert entity fields = .ok d) :
    d.Regular := by
  obtain ⟨t, found, begins⟩ := bind_ok stores
  have wide : fields.length = t.header.width := by
    by_contra narrow
    rw [if_pos narrow] at begins
    cases begins
  rcases upsert_stored (table_ok found) wide with ⟨_, ends⟩ | ⟨_, cause, fails⟩
  · cases ends.symm.trans stores
    refine regular.withTable ((regular entity t (table_ok found)).storeAll fun other member => ?_)
    rw [List.mem_singleton.1 member, wide]
  · cases fails.symm.trans stores

theorem Regular.delete (regular : c.Regular) {id : String} {gone : Bool} {d : Catalogue}
    (deletes : c.delete entity id = .ok (gone, d)) : d.Regular := by
  obtain ⟨t, found, deletes⟩ := bind_ok deletes
  obtain ⟨key, _, deletes⟩ := bind_ok deletes
  cases deletes
  exact regular.withTable ((regular entity t (table_ok found)).erase key)

theorem Regular.mutate (regular : c.Regular) (change : Mutation) : (c.mutate change).2.Regular := by
  cases change with
  | load entity text => exact regular.load entity text
  | composeIds entity columns => exact regular.composeIds entity columns
  | declareGroup entity group => exact regular.after fun _ declares => regular.declareGroup declares
  | upsert entity fields => exact regular.after fun _ stores => regular.upsert stores
  | delete entity id => exact regular.after fun _ deletes => regular.delete deletes

theorem Made.regular (made : c.Made) : c.Regular := made.kept regular_none fun _ change regular => regular.mutate change

end Catalogue

end ReferenceFeed
