import ReferenceFeed.Proofs.Keying

namespace ReferenceFeed

/-!
Changes of the tables that are refused. A refused change leaves all tables as they were, but for one: ids that are to be composed
of a field that some row lacks. There the rows are taken out before it is known that all of them can be put back.
-/

open OriginSettings (fieldOf)

namespace Table

theorem placed_iff {entity : String} {header : Header} {columns : List String} :
    (∃ idParts, placesOf entity header columns = .ok idParts) ↔
      columns ≠ [] ∧ ∀ column ∈ columns, ∃ place ∈ header.position? column, 0 < place := by
  simp only [placesOf_ok_iff, exists_and_left]
  refine and_congr_right' ⟨?_, ?_⟩
  · rintro ⟨idParts, places⟩ column member
    obtain ⟨part, _, _, placed, positive⟩ := exists_of_forall₂ places.flip member
    exact ⟨part.2, placed, positive⟩
  · intro all
    induction columns with
    | nil => exact ⟨[], .nil⟩
    | cons column rest ih =>
      obtain ⟨place, placed, positive⟩ := all column List.mem_cons_self
      obtain ⟨idParts, places⟩ := ih fun other member => all other (List.mem_cons_of_mem _ member)
      exact ⟨(column, place) :: idParts, .cons ⟨rfl, placed, positive⟩ places⟩

/-- A row has an id under newly declared columns if it has a value in each of them. -/
theorem composable_declared {t : Table} {entity : String} {columns : List String} {idParts : List (String × Nat)}
    {fields : List Field} (placed : placesOf entity t.header columns = .ok idParts) :
    (Catalogue.declared t idParts).Composable fields ↔ ∀ column ∈ columns, fieldOf t.header fields column ≠ none := by
  have places := (placesOf_ok_iff.1 placed).2
  have one : ∀ (column : String) (part : String × Nat), part.1 = column ∧ t.header.position? column = some part.2 ∧ 0 < part.2 →
      fieldOf t.header fields column = (fields[part.2]?).join := by
    rintro column part ⟨_, placed, _⟩
    rw [fieldOf, placed, Option.bind_some]
  have same : columns.map (fieldOf t.header fields) = (Catalogue.declared t idParts).idFields fields := by
    rw [← List.forall₂_eq_eq_eq, idFields, List.forall₂_map_left_iff, List.forall₂_map_right_iff]
    exact places.imp one
  rw [Composable, ← same]
  simp [List.mem_map]

end Table

namespace Catalogue

/-- Ids are to be composed of columns of an entity, and one of its rows lacks a value there. -/
def Mutation.Strands (c : Catalogue) : Mutation → Prop
  | .composeIds entity columns => ∃ t ∈ c.tables[entity]?,
      (columns ≠ [] ∧ ∀ column ∈ columns, ∃ place ∈ t.header.position? column, 0 < place) ∧
        ∃ fields ∈ t.rows.values, ∃ column ∈ columns, fieldOf t.header fields column = none
  | .load _ _ | .declareGroup _ _ | .upsert _ _ | .delete _ _ => False

theorem after_refused {c : Catalogue} {α : Type} {pick : α → Catalogue} {outcome : Except Failure α} {cause : Failure}
    (refused : (c.after pick outcome).1 = .error cause) : (c.after pick outcome).2 = c := by
  cases outcome with
  | error => rfl
  | ok => cases refused

theorem load_refused {c : Catalogue} {entity text : String} {cause : Failure}
    (refused : (c.load entity text).answer = .error cause) : (c.load entity text).catalogue = c := by
  cases c.loads entity text with
  | refused _ kept => exact kept
  | loaded _ _ _ _ well _ =>
    rw [well] at refused
    cases refused

/-- A change that strands its entity is refused all the same. What is left of the rows are those before the first that lacks
a part, under their new ids. -/
theorem Mutation.Strands.left {c : Catalogue} {change : Mutation} (strands : change.Strands c) :
    ∃ entity columns t idParts before fields after cause, change = .composeIds entity columns ∧ c.tables[entity]? = some t ∧
      Table.placesOf entity t.header columns = .ok idParts ∧ t.rows.values = before ++ fields :: after ∧
      (∀ fields ∈ before, (declared t idParts).Composable fields) ∧ ¬(declared t idParts).Composable fields ∧
      c.mutate change = (.error cause, c.withTable entity ((declared t idParts).storeAll before)) := by
  cases change with
  | composeIds entity columns =>
    obtain ⟨t, found, fine, row, member, column, inColumns, lacking⟩ := strands
    obtain ⟨idParts, placed⟩ := Table.placed_iff.2 fine
    cases c.composes entity columns with
    | refused _ _ unplaced => exact absurd placed (unplaced t idParts found)
    | composed again placedAgain composable _ _ =>
      cases found.symm.trans again
      cases placed.symm.trans placedAgain
      exact absurd lacking ((Table.composable_declared placed).1 (composable row member) column inColumns)
    | stopped again placedAgain split composable stops fails leaves =>
      cases found.symm.trans again
      cases placed.symm.trans placedAgain
      exact ⟨_, _, t, idParts, _, _, _, _, rfl, found, placed, split, composable, stops, Prod.ext fails leaves⟩
  | load | declareGroup | upsert | delete => exact strands.elim

/-- Some rows are gone when ids could not be composed for all. -/
theorem withTable_stopped_ne {c : Catalogue} {entity : String} {t : Table} {idParts : List (String × Nat)}
    {before after : List (List Field)} {fields : List Field} (found : c.tables[entity]? = some t)
    (split : t.rows.values = before ++ fields :: after) : c.withTable entity ((declared t idParts).storeAll before) ≠ c := by
  intro same
  have kept : (declared t idParts).storeAll before = t := by
    rw [← same, getElem?_withTable, if_pos rfl] at found
    exact Option.some.inj found
  have most := Table.size_storeAll_le (declared t idParts) before
  have size : t.rows.size = (before ++ fields :: after).length := by
    rw [← split, Keyed.values_eq_map, List.length_map, Std.ExtTreeMap.length_toList]
  have none : (declared t idParts).rows.size = 0 := Std.ExtTreeMap.size_empty
  rw [kept, none, size, List.length_append, List.length_cons] at most
  omega

/-- A refused change leaves every table as it was, exactly if it does not strand its entity. -/
theorem refused_unchanged_iff (c : Catalogue) (change : Mutation) :
    ((∀ cause, (c.mutate change).1 = .error cause → (c.mutate change).2 = c) ↔ ¬change.Strands c) ∧
      (change.Strands c → ∃ entity columns t idParts before fields after cause, change = .composeIds entity columns ∧
        c.tables[entity]? = some t ∧ Table.placesOf entity t.header columns = .ok idParts ∧
        t.rows.values = before ++ fields :: after ∧ (∀ fields ∈ before, (declared t idParts).Composable fields) ∧
        ¬(declared t idParts).Composable fields ∧
        c.mutate change = (.error cause, c.withTable entity ((declared t idParts).storeAll before))) := by
  refine ⟨⟨fun unchanged strands => ?_, fun spares cause refused => ?_⟩, Mutation.Strands.left⟩
  · obtain ⟨entity, _, t, idParts, _, _, _, cause, _, found, _, split, _, _, ends⟩ := strands.left
    have kept := unchanged cause (by rw [ends])
    rw [ends] at kept
    exact withTable_stopped_ne found split kept
  · cases change with
    | load entity text => exact load_refused refused
    | composeIds entity columns =>
      cases c.composes entity columns with
      | refused _ kept _ => exact kept
      | composed _ _ _ well _ =>
        rw [mutate, well] at refused
        cases refused
      | stopped found placed split _ stops _ _ =>
        have member := split ▸ List.mem_append_right _ List.mem_cons_self
        simp only [Table.composable_declared placed, not_forall, not_not, exists_prop] at stops
        exact absurd ⟨_, found, Table.placed_iff.1 ⟨_, placed⟩, _, member, stops⟩ spares
    | declareGroup entity group => exact after_refused refused
    | upsert entity fields => exact after_refused refused
    | delete entity id => exact after_refused refused

/-- Three rows, of which the second lacks a value. -/
def gapped : Catalogue := (mutate {} (.load "e" "id,a\n1,x\n2,\n3,z")).2

theorem made_gapped : gapped.Made := ⟨[.load "e" "id,a\n1,x\n2,\n3,z"], rfl⟩

/-- Composing ids is refused because of the second row; the first is left under its new id, and the third is gone. -/
theorem not_refused_unchanged :
    ¬∀ c : Catalogue, c.Made → ∀ change cause, (c.mutate change).1 = .error cause → (c.mutate change).2 = c := by
  intro unchanged
  have kept := unchanged gapped made_gapped (.composeIds "e" ["a"]) (.encoding (.absentPart "a" "e")) (by decide +kernel)
  have left : ((gapped.mutate (.composeIds "e" ["a"])).2.tables["e"]?.map fun t => t.rows.toList) =
      some [("x", [some "x", some "x"])] := by decide +kernel
  rw [kept] at left
  revert left
  decide +kernel

end Catalogue

end ReferenceFeed
