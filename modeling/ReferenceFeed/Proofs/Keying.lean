import ReferenceFeed.Proofs.Catalogue

namespace ReferenceFeed

/-!
Under which ids a table stores its rows: those that are given, or those composed of some fields. A row without a value in
one of these fields has no id. Giving all rows of a table their composed ids stops at the first that has none.
-/

namespace Table

variable {t : Table} {entity : String} {fields : List Field}

/-- The fields of a row that its id is composed of. -/
def idFields (t : Table) (fields : List Field) : List Field := t.idParts.map fun part => (fields[part.2]?).join

/-- A row with a value in every field that its id is composed of. -/
def Composable (t : Table) (fields : List Field) : Prop := none ∉ t.idFields fields

instance (t : Table) (fields : List Field) : Decidable (t.Composable fields) :=
  inferInstanceAs (Decidable (none ∉ t.idFields fields))

/-- The id under which a row is stored, and the row as it is stored. -/
def storedAs (t : Table) (fields : List Field) : Option (String × List Field) :=
  if t.idParts = [] then
    match fields with
    | some id :: _ => some (id, fields)
    | _ => none
  else if t.Composable fields then
    some (CompositeId.compose (t.idFields fields), fields.set 0 (some (CompositeId.compose (t.idFields fields))))
  else none

/-- The table in which some rows are stored one after another, those that have an id. -/
def storeAll (t : Table) (rows : List (List Field)) : Table :=
  { t with rows := (rows.filterMap t.storedAs).foldl (fun stored pair => stored.insert pair.1 pair.2) t.rows }

theorem partsOf_ok_iff {columns : List (String × Nat)} {parts : List Field} :
    partsOf entity fields columns = .ok parts ↔
      none ∉ columns.map (fun part => (fields[part.2]?).join) ∧ parts = columns.map fun part => (fields[part.2]?).join := by
  induction columns generalizing parts with
  | nil => simp [partsOf, eq_comm]
  | cons column rest ih =>
    rw [partsOf, List.map_cons]
    rcases found : fields[column.2]? with _ | _ | text
    · simp
    · simp
    · constructor
      · intro ends
        obtain ⟨others, split, rfl⟩ := map_ok ends
        obtain ⟨present, rfl⟩ := ih.1 split
        exact ⟨by simpa using present, rfl⟩
      · rintro ⟨present, rfl⟩
        have others := ih.2 ⟨fun absent => present (List.mem_cons_of_mem _ absent), rfl⟩
        simp only [others]
        rfl

theorem composed_of_composable (entity : String) (composable : t.Composable fields) : t.composed entity fields =
    .ok (CompositeId.compose (t.idFields fields), fields.set 0 (some (CompositeId.compose (t.idFields fields)))) := by
  have parts : partsOf entity fields t.idParts = .ok (t.idFields fields) := partsOf_ok_iff.2 ⟨composable, rfl⟩
  rw [composed, parts]
  rfl

theorem composable_of_composed {pair : String × List Field} (composes : t.composed entity fields = .ok pair) :
    t.Composable fields := by
  obtain ⟨parts, split, _⟩ := map_ok composes
  exact (partsOf_ok_iff.1 split).1

theorem storedAs_composed (composing : t.idParts ≠ []) (entity : String) (fields : List Field) :
    t.storedAs fields = (t.composed entity fields).toOption := by
  unfold storedAs
  rw [if_neg composing]
  by_cases composable : t.Composable fields
  · rw [if_pos composable, composed_of_composable entity composable]
    rfl
  · rw [if_neg composable]
    rcases composes : t.composed entity fields with cause | pair
    · rfl
    · exact absurd (composable_of_composed composes) composable

theorem storeAll_cons (t : Table) (fields : List Field) (rest : List (List Field)) :
    t.storeAll (fields :: rest) = (t.storeAll [fields]).storeAll rest := by
  rw [storeAll, ← List.singleton_append, List.filterMap_append, List.foldl_append]
  rfl

theorem storeAll_some {id : String} {row : List Field} (stored : t.storedAs fields = some (id, row)) :
    t.storeAll [fields] = { t with rows := t.rows.insert id row } := by
  rw [storeAll, List.filterMap_cons, stored]
  rfl

theorem storeAll_none (unstored : t.storedAs fields = none) : t.storeAll [fields] = t := by
  rw [storeAll, List.filterMap_cons, unstored]
  rfl

/-- Under an id there is the last of the rows that were stored under it. -/
theorem getElem?_storeAll (t : Table) (rows : List (List Field)) (id : String) : (t.storeAll rows).rows[id]? =
    ((lastOf Prod.fst (rows.filterMap t.storedAs) id).map Prod.snd).or t.rows[id]? :=
  getElem?_foldl_insert Prod.fst Prod.snd _ _ _

theorem size_storeAll_le (t : Table) (rows : List (List Field)) : (t.storeAll rows).rows.size ≤ t.rows.size + rows.length := by
  induction rows generalizing t with
  | nil => exact Nat.le_refl _
  | cons fields rest ih =>
    have one : (t.storeAll [fields]).rows.size ≤ t.rows.size + 1 := by
      rcases stored : t.storedAs fields with _ | ⟨id, row⟩
      · rw [storeAll_none stored]
        exact Nat.le_succ _
      · rw [storeAll_some stored]
        exact Std.ExtTreeMap.size_insert_le
    have others := ih (t.storeAll [fields])
    rw [storeAll_cons, List.length_cons]
    omega

/-- Rows are stored under their composed ids to the end, or up to the first that has none. -/
theorem storeComposed_cases (composing : t.idParts ≠ []) (entity : String) (rows : List (List Field)) :
    (∀ fields ∈ rows, t.Composable fields) ∧ (storeComposed entity t rows).1 = t.storeAll rows ∧
        (storeComposed entity t rows).2.2 = .ok () ∨
      ∃ before fields after cause, rows = before ++ fields :: after ∧ (∀ fields ∈ before, t.Composable fields) ∧
        ¬t.Composable fields ∧ (storeComposed entity t rows).1 = t.storeAll before ∧
        (storeComposed entity t rows).2.2 = .error cause := by
  induction rows generalizing t with
  | nil => exact .inl ⟨List.forall_mem_nil _, rfl, rfl⟩
  | cons fields rest ih =>
    by_cases composable : t.Composable fields
    · have stored := storedAs_composed composing entity fields
      rw [composed_of_composable entity composable] at stored
      have next : (storeComposed entity t (fields :: rest)).1 = (storeComposed entity (t.storeAll [fields]) rest).1 ∧
          (storeComposed entity t (fields :: rest)).2.2 = (storeComposed entity (t.storeAll [fields]) rest).2.2 := by
        rw [storeComposed, composed_of_composable entity composable, storeAll_some stored]
        exact ⟨rfl, rfl⟩
      rw [next.1, next.2]
      rcases ih (t := t.storeAll [fields]) composing with
        ⟨all, ends, well⟩ | ⟨before, stop, after, cause, split, prior, stops, ends, fails⟩
      · exact .inl ⟨List.forall_mem_cons.2 ⟨composable, all⟩, ends.trans (storeAll_cons t fields rest).symm, well⟩
      · exact .inr ⟨fields :: before, stop, after, cause, by rw [split, List.cons_append],
          List.forall_mem_cons.2 ⟨composable, prior⟩, stops, ends.trans (storeAll_cons t fields before).symm, fails⟩
    · rcases composes : t.composed entity fields with cause | pair
      · refine .inr ⟨[], fields, rest, cause, rfl, List.forall_mem_nil _, composable, ?_⟩
        rw [storeComposed, composes]
        exact ⟨rfl, rfl⟩
      · exact absurd (composable_of_composed composes) composable

/-- Columns have places to compose ids of if there are some, and all of them are columns beside that of the ids. -/
theorem placesOf_ok_iff {header : Header} {columns : List String} {parts : List (String × Nat)} :
    placesOf entity header columns = .ok parts ↔ columns ≠ [] ∧
      List.Forall₂ (fun column part => part.1 = column ∧ header.position? column = some part.2 ∧ 0 < part.2) columns parts := by
  rw [placesOf]
  cases columns with
  | nil => simp
  | cons first rest =>
    rw [if_neg (by simp), mapM_ok_iff, and_iff_right (List.cons_ne_nil first rest)]
    constructor
    · refine List.Forall₂.imp fun column part places => ?_
      rcases found : header.position? column with _ | _ | place <;> rw [found] at places <;> cases places
      exact ⟨rfl, rfl, Nat.succ_pos place⟩
    · refine List.Forall₂.imp ?_
      rintro column ⟨name, place⟩ ⟨rfl, found, positive⟩
      cases place with
      | zero => cases positive
      | succ => rw [found]

theorem placesOf_placed {entity : String} {header : Header} {columns : List String} {idParts : List (String × Nat)}
    (placed : placesOf entity header columns = .ok idParts) :
    ∀ part ∈ idParts, header.position? part.1 = some part.2 ∧ 0 < part.2 := by
  intro part member
  obtain ⟨column, _, rfl, placed, positive⟩ := exists_of_forall₂ (placesOf_ok_iff.1 placed).2 member
  exact ⟨placed, positive⟩

/-- A row that gives its id is stored as it is. -/
theorem storedAs_fits (given : t.idParts = []) {id : String} (fits : t.header.Fits id fields) : t.storedAs fields = some (id, fields) := by
  obtain ⟨rest, rfl, _⟩ := fits
  rw [storedAs, if_pos given]

/-- Rows that sit where they are stored come out as they are. -/
theorem storeAll_values {rows : Keyed (List Field)}
    (stored : ∀ (id : String) (fields : List Field), rows[id]? = some fields → t.storedAs fields = some (id, fields)) :
    storeAll { t with rows := ∅ } rows.values = { t with rows } := by
  have kept : rows.values.filterMap (storedAs { t with rows := ∅ }) = rows.toList := by
    rw [Keyed.values_eq_map, List.filterMap_map]
    refine (List.filterMap_congr fun pair member => ?_).trans List.filterMap_some
    exact stored pair.1 pair.2 (Std.ExtTreeMap.mem_toList_iff_getElem?_eq_some.1 member)
  have same : (storeAll { t with rows := ∅ } rows.values).rows = rows := by
    refine Std.ExtTreeMap.ext_getElem? fun {id} => ?_
    rw [getElem?_storeAll, kept, lastOf_toList, Std.ExtTreeMap.getElem?_empty, Option.or_none]
  exact congrArg (fun rows => { t with rows }) same

end Table

namespace Catalogue

variable {c : Catalogue} {entity : String}

theorem withTable_self {t : Table} (found : c.tables[entity]? = some t) : c.withTable entity t = c := by
  have same : c.tables.insert entity t = c.tables := by
    refine Std.ExtTreeMap.ext_getElem? fun {other} => ?_
    rw [Keyed.getElem?_insert]
    split
    · next here => rw [← here, found]
    · rfl
  exact congrArg Catalogue.mk same

/-- The table without rows that takes in a payload: it has the columns of the payload and declarations from before. -/
def blank (c : Catalogue) (entity : String) (payload : Payload) (idParts : List (String × Nat)) : Table :=
  { tableOf payload ∅ c.tables[entity]? with idParts }

/-- The columns that the ids of an entity are composed of. -/
def idColumns (c : Catalogue) (entity : String) : List String :=
  ((c.tables[entity]?).map fun t => t.idParts.map Prod.fst).getD []

/-- A payload is loaded in full under the declarations that its entity has, or refused. -/
inductive Loads (c : Catalogue) (entity text : String) : Prop
  | refused {cause} : (c.load entity text).answer = .error cause → (c.load entity text).catalogue = c → Loads c entity text
  | loaded {payload rows idParts} : Payload.read text = .ok payload → rowsOf payload = .ok rows →
      idParts.map Prod.fst = c.idColumns entity →
      (idParts ≠ [] → Table.placesOf entity payload.header (c.idColumns entity) = .ok idParts ∧
        ∀ fields ∈ rows.values, (c.blank entity payload idParts).Composable fields) →
      (c.load entity text).answer = .ok () →
      (c.load entity text).catalogue = c.withTable entity ((c.blank entity payload idParts).storeAll rows.values) →
      Loads c entity text

section Loading

variable {text : String} {payload : Payload} {rows : Keyed (List Field)} (reads : Payload.read text = .ok payload)
  (brought : rowsOf payload = .ok rows)

include reads brought

/-- Where ids are composed, a payload is loaded if all of its rows can be stored. -/
theorem load_composing {column : String} {columns : List String} {idParts : List (String × Nat)} {last : Table}
    {notices : List Notice} {result : Except Failure Unit} (retained : c.idColumns entity = column :: columns)
    (placed : Table.placesOf entity payload.header (column :: columns) = .ok idParts)
    (fills : Table.storeComposed entity (c.blank entity payload idParts) rows.values = (last, notices, result)) :
    c.load entity text = ⟨result, match result with | .ok () => c.withTable entity last | .error _ => c, notices⟩ := by
  have places : Table.placesOf entity (tableOf payload rows c.tables[entity]?).header (column :: columns) = .ok idParts := placed
  have recomposed : ({ tableOf payload rows c.tables[entity]? with idParts } : Table).recompose entity =
      (last, notices, result) := fills
  unfold idColumns at retained
  simp only [load, reads, brought, bind, Except.bind, retained, pure, Except.pure, places, recomposed]
  cases result <;> rfl

/-- A payload whose rows have ids under the declarations of its entity is accepted. -/
theorem load_accepted {idParts : List (String × Nat)} (names : idParts.map Prod.fst = c.idColumns entity)
    (composes : idParts ≠ [] → Table.placesOf entity payload.header (c.idColumns entity) = .ok idParts ∧
      ∀ fields ∈ rows.values, (c.blank entity payload idParts).Composable fields) :
    (c.load entity text).answer = .ok () ∧
      (c.load entity text).catalogue = c.withTable entity ((c.blank entity payload idParts).storeAll rows.values) := by
  rcases retained : c.idColumns entity with _ | ⟨column, columns⟩
  · obtain rfl : idParts = [] := List.map_eq_nil_iff.1 (names.trans retained)
    have ends : c.load entity text = ⟨.ok (), c.withTable entity (tableOf payload rows c.tables[entity]?), []⟩ := by
      unfold idColumns at retained
      simp only [load, reads, brought, bind, Except.bind, retained, pure, Except.pure]
    have fits := rowsOf_fits (Payload.read_written reads) brought
    have stored := Table.storeAll_values (t := c.blank entity payload []) fun id fields found =>
      Table.storedAs_fits rfl (fits id fields found)
    rw [ends]
    exact ⟨rfl, congrArg (c.withTable entity) stored.symm⟩
  · have composing : idParts ≠ [] := by
      rintro rfl
      cases names.trans retained
    obtain ⟨placed, composable⟩ := composes composing
    have fills := Table.storeComposed_cases (t := c.blank entity payload idParts) composing entity rows.values
    rcases outcome : Table.storeComposed entity (c.blank entity payload idParts) rows.values with ⟨last, notices, result⟩
    rw [outcome] at fills
    rw [load_composing reads brought retained (retained ▸ placed) outcome]
    rcases fills with ⟨_, rfl, rfl⟩ | ⟨before, fields, after, _, split, _, lacking, _⟩
    · exact ⟨rfl, rfl⟩
    · exact absurd (composable fields (split ▸ by simp)) lacking

end Loading

theorem loads (c : Catalogue) (entity text : String) : c.Loads entity text := by
  rcases reads : Payload.read text with cause | payload
  · have ends : c.load entity text = ⟨.error cause, c, []⟩ := by
      simp only [load, reads]
      rfl
    exact .refused (by rw [ends]) (by rw [ends])
  rcases brought : rowsOf payload with cause | rows
  · have ends : c.load entity text = ⟨.error cause, c, []⟩ := by
      simp only [load, reads, brought, bind, Except.bind]
    exact .refused (by rw [ends]) (by rw [ends])
  rcases retained : c.idColumns entity with _ | ⟨column, columns⟩
  · have names : ([] : List (String × Nat)).map Prod.fst = c.idColumns entity := retained.symm
    obtain ⟨answers, leaves⟩ := load_accepted reads brought names (absurd rfl)
    exact .loaded reads brought names (absurd rfl) answers leaves
  rcases placed : Table.placesOf entity (tableOf payload rows c.tables[entity]?).header (column :: columns) with cause | idParts
  · have ends : c.load entity text = ⟨.error cause, c, []⟩ := by
      unfold idColumns at retained
      simp only [load, reads, brought, bind, Except.bind, retained, pure, Except.pure, placed]
    exact .refused (by rw [ends]) (by rw [ends])
  have names : idParts.map Prod.fst = c.idColumns entity := by
    rw [retained, ← List.forall₂_eq_eq_eq, List.forall₂_map_left_iff]
    exact ((Table.placesOf_ok_iff.1 placed).2.imp fun _ _ placed => placed.1).flip
  have composing : idParts ≠ [] := by
    rintro rfl
    cases names.trans retained
  -- From here on only an id that cannot be composed is a reason to refuse.
  by_cases composable : ∀ fields ∈ rows.values, (c.blank entity payload idParts).Composable fields
  · have composes := fun _ : idParts ≠ [] => And.intro (retained ▸ placed) composable
    obtain ⟨answers, leaves⟩ := load_accepted reads brought names composes
    exact .loaded reads brought names composes answers leaves
  · have fills := Table.storeComposed_cases (t := c.blank entity payload idParts) composing entity rows.values
    rcases outcome : Table.storeComposed entity (c.blank entity payload idParts) rows.values with ⟨last, notices, result⟩
    rw [outcome] at fills
    have ends := load_composing reads brought retained placed outcome
    rcases fills with ⟨all, _⟩ | ⟨_, _, _, cause, _, _, _, _, rfl⟩
    · exact absurd all composable
    · exact .refused (by rw [ends]) (by rw [ends])

/-- The table without rows under whose declarations ids are composed. -/
def declared (t : Table) (idParts : List (String × Nat)) : Table := { t with idParts, rows := ∅ }

/-- Ids are composed for all rows of an entity, for those up to the first that has none, or not at all. -/
inductive Composes (c : Catalogue) (entity : String) (columns : List String) : Prop
  | refused {cause} : (c.composeIds entity columns).answer = .error cause →
      (c.composeIds entity columns).catalogue = c →
      (∀ t idParts, c.tables[entity]? = some t → Table.placesOf entity t.header columns ≠ .ok idParts) →
      Composes c entity columns
  | composed {t idParts} : c.tables[entity]? = some t → Table.placesOf entity t.header columns = .ok idParts →
      (∀ fields ∈ t.rows.values, (declared t idParts).Composable fields) →
      (c.composeIds entity columns).answer = .ok () →
      (c.composeIds entity columns).catalogue = c.withTable entity ((declared t idParts).storeAll t.rows.values) →
      Composes c entity columns
  | stopped {t idParts before fields after cause} : c.tables[entity]? = some t →
      Table.placesOf entity t.header columns = .ok idParts → t.rows.values = before ++ fields :: after →
      (∀ fields ∈ before, (declared t idParts).Composable fields) → ¬(declared t idParts).Composable fields →
      (c.composeIds entity columns).answer = .error cause →
      (c.composeIds entity columns).catalogue = c.withTable entity ((declared t idParts).storeAll before) →
      Composes c entity columns

theorem composes (c : Catalogue) (entity : String) (columns : List String) : c.Composes entity columns := by
  rcases found : c.tables[entity]? with _ | t
  · have ends : c.composeIds entity columns = ⟨.error (.unknownEntity entity), c, []⟩ := by
      simp only [composeIds, table, found]
      rfl
    exact .refused (by rw [ends]) (by rw [ends]) fun t _ other => by rw [found] at other; cases other
  rcases placed : Table.placesOf entity t.header columns with cause | idParts
  · have ends : c.composeIds entity columns = ⟨.error cause, c, []⟩ := by
      simp only [composeIds, table, found, bind, Except.bind, placed]
    refine .refused (by rw [ends]) (by rw [ends]) fun other idParts same => ?_
    obtain rfl : t = other := Option.some.inj (found.symm.trans same)
    rw [placed]
    nofun
  have composing : idParts ≠ [] := by
    rintro rfl
    obtain ⟨some, places⟩ := Table.placesOf_ok_iff.1 placed
    exact some (List.forall₂_nil_right_iff.1 places)
  have fills := Table.storeComposed_cases (t := declared t idParts) composing entity t.rows.values
  rcases outcome : Table.storeComposed entity (declared t idParts) t.rows.values with ⟨last, notices, result⟩
  rw [outcome] at fills
  have recomposed : ({ t with idParts } : Table).recompose entity = (last, notices, result) := outcome
  have ends : c.composeIds entity columns = ⟨result, c.withTable entity last, notices⟩ := by
    simp only [composeIds, table, found, bind, Except.bind, placed, pure, Except.pure, recomposed]
  rcases fills with ⟨composable, filled, well⟩ | ⟨before, fields, after, cause, split, composable, stops, filled, fails⟩
  · exact .composed found placed composable (by rw [ends, ← well]) (by rw [ends, ← filled])
  · exact .stopped found placed split composable stops (by rw [ends, ← fails]) (by rw [ends, ← filled])

/-- A row of the right width is stored under its id, or refused if it has none. -/
theorem upsert_stored {t : Table} {fields : List Field} (found : c.tables[entity]? = some t)
    (wide : fields.length = t.header.width) :
    ((t.storedAs fields).isSome ∧ c.upsert entity fields = .ok (c.withTable entity (t.storeAll [fields]))) ∨
      t.storedAs fields = none ∧ ∃ cause, c.upsert entity fields = .error cause := by
  have kept : ¬fields.length ≠ t.header.width := not_not.2 wide
  by_cases given : t.idParts = []
  · have unkeyed : t.idParts.isEmpty = true := List.isEmpty_iff.2 given
    rcases fields with _ | ⟨_ | id, others⟩
    · refine .inr ⟨by simp [Table.storedAs, given], .encoding .storedRowWithoutId, ?_⟩
      simp only [upsert, table, found, bind, Except.bind, if_neg kept, if_pos unkeyed]
    · refine .inr ⟨by simp [Table.storedAs, given], .encoding .storedRowWithoutId, ?_⟩
      simp only [upsert, table, found, bind, Except.bind, if_neg kept, if_pos unkeyed]
    · have stored : t.storedAs (some id :: others) = some (id, some id :: others) := by simp [Table.storedAs, given]
      refine .inl ⟨by rw [stored]; rfl, ?_⟩
      rw [Table.storeAll_some stored]
      simp only [upsert, table, found, bind, Except.bind, if_neg kept, if_pos unkeyed, pure, Except.pure]
  · have keyed : ¬t.idParts.isEmpty = true := fun unkeyed => given (List.isEmpty_iff.1 unkeyed)
    have stored := Table.storedAs_composed given entity fields
    rcases composes : t.composed entity fields with cause | pair
    · rw [composes] at stored
      refine .inr ⟨stored, cause, ?_⟩
      simp only [upsert, table, found, bind, Except.bind, if_neg kept, if_neg keyed, composes]
    · rw [composes] at stored
      refine .inl ⟨by rw [stored]; rfl, ?_⟩
      rw [Table.storeAll_some stored]
      simp only [upsert, table, found, bind, Except.bind, if_neg kept, if_neg keyed, composes, pure, Except.pure]

theorem mutate_upsert {t : Table} {fields : List Field} (found : c.tables[entity]? = some t)
    (wide : fields.length = t.header.width) :
    (c.mutate (.upsert entity fields)).2 = c.withTable entity (t.storeAll [fields]) := by
  rcases upsert_stored found wide with ⟨_, ends⟩ | ⟨unstored, cause, fails⟩
  · rw [mutate, ends]
    rfl
  · rw [mutate, fails, Table.storeAll_none unstored]
    exact (withTable_self found).symm

end Catalogue

end ReferenceFeed
