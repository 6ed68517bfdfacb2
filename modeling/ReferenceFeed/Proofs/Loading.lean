import ReferenceFeed.Proofs.Keying

namespace ReferenceFeed

/-!
Loading a payload against storing its rows one by one. Loading sorts the rows by the ids they give before it composes ids of them,
and storing one row passes over the id it gives; so the two can differ where ids are composed.
-/

/-- The rows of a payload as they are written, each with the id that it gives. -/
def Payload.Lines (payload : Payload) (lines : List (String × List Field)) : Prop :=
  List.Forall₂ (fun entry line => entry.id = line.1 ∧ entry.fields = .ok line.2) payload.entries lines

namespace Table

variable {t : Table} {lines : List (String × List Field)} {rows : Keyed (List Field)} {id : String} {row : List Field}

/-- A row is the last that is written for an id. Yet each row with it that is the last to give some id comes before another one
that has the same id composed and gives a greater one. -/
structure Misplaces (t : Table) (lines : List (String × List Field)) (id : String) (row : List Field) : Prop where
  last : lastOf Prod.fst (lines.filterMap fun line => t.storedAs line.2) id = some (id, row)
  outranked : ∀ given fields, lastOf Prod.fst lines given = some (given, fields) → t.storedAs fields = some (id, row) →
    ∃ above others other, lastOf Prod.fst lines above = some (above, others) ∧ compare given above = .lt ∧
      t.storedAs others = some (id, other)

theorem compare_asymm (a b : String × List Field) (less : compare a.1 b.1 = .lt) : ¬compare b.1 a.1 = .lt := by
  rw [Std.OrientedCmp.gt_of_lt less]
  decide

/-- What is stored of rows that are sorted by the ids they give. -/
theorem lastOf_sorted (sorted : ∀ given : String, rows[given]? = (lastOf Prod.fst lines given).map Prod.snd) :
    lastOf Prod.fst (rows.values.filterMap t.storedAs) id = some (id, row) ↔
      ∃ given fields, lastOf Prod.fst lines given = some (given, fields) ∧ t.storedAs fields = some (id, row) ∧
        ∀ above others, lastOf Prod.fst lines above = some (above, others) → compare given above = .lt →
          ∀ other, t.storedAs others ≠ some (id, other) := by
  have member : ∀ given fields, (given, fields) ∈ rows.toList ↔ lastOf Prod.fst lines given = some (given, fields) := by
    intro given fields
    rw [Std.ExtTreeMap.mem_toList_iff_getElem?_eq_some, sorted, Option.map_eq_some_iff]
    constructor
    · rintro ⟨pair, last, same⟩
      rw [last, ← (lastOf_some last).2, ← same]
    · exact fun last => ⟨_, last, rfl⟩
  have listed : rows.values.filterMap t.storedAs = rows.toList.filterMap fun line => t.storedAs line.2 := by
    rw [Keyed.values_eq_map, List.filterMap_map]
    rfl
  rw [listed, lastOf_filterMap_iff compare_asymm Std.ExtTreeMap.ordered_keys_toList]
  simp only [Prod.exists, Prod.forall, member, true_and]
  refine exists_congr fun given => exists_congr fun fields => and_congr_right fun _ => and_congr_right fun _ => ?_
  refine forall_congr' fun above => forall_congr' fun others => forall_congr' fun _ => forall_congr' fun _ => ?_
  exact ⟨fun lone other stored => lone id other stored rfl, fun none key other stored same => none other (same ▸ stored)⟩

theorem getElem?_stored (empty : t.rows = ∅) {list : List (List Field)} :
    (t.storeAll list).rows[id]? = some row ↔ lastOf Prod.fst (list.filterMap t.storedAs) id = some (id, row) := by
  rw [getElem?_storeAll, empty, Std.ExtTreeMap.getElem?_empty, Option.or_none, Option.map_eq_some_iff]
  constructor
  · rintro ⟨pair, last, same⟩
    rw [last, ← (lastOf_some last).2, ← same]
  · exact fun last => ⟨_, last, rfl⟩

/-- Two lists of rows leave the same table if they leave the same under each id. -/
theorem storeAll_eq_iff (empty : t.rows = ∅) {list other : List (List Field)} : t.storeAll list = t.storeAll other ↔
    ∀ id row, lastOf Prod.fst (list.filterMap t.storedAs) id = some (id, row) ↔
      lastOf Prod.fst (other.filterMap t.storedAs) id = some (id, row) := by
  simp only [← getElem?_stored empty]
  constructor
  · intro same id row
    rw [same]
  · intro same
    have rows : (t.storeAll list).rows = (t.storeAll other).rows :=
      Std.ExtTreeMap.ext_getElem? fun {id} => Option.ext fun row => same id row
    exact congrArg (fun rows => { t with rows }) rows

/-- Rows that are sorted first are stored as in written order, exactly if none of them is misplaced. -/
theorem storeAll_sorted_iff (empty : t.rows = ∅)
    (sorted : ∀ given : String, rows[given]? = (lastOf Prod.fst lines given).map Prod.snd) :
    t.storeAll rows.values = t.storeAll (lines.map Prod.snd) ↔ ∀ id row, ¬t.Misplaces lines id row := by
  have written : (lines.map Prod.snd).filterMap t.storedAs = lines.filterMap fun line => t.storedAs line.2 := by
    rw [List.filterMap_map]
    rfl
  rw [storeAll_eq_iff empty, written]
  constructor
  · rintro same id row ⟨last, outranked⟩
    obtain ⟨given, fields, final, stored, lone⟩ := (lastOf_sorted sorted).1 ((same id row).2 last)
    obtain ⟨above, others, other, higher, less, likewise⟩ := outranked given fields final stored
    exact lone above others higher less other likewise
  · intro placed
    have kept : ∀ id row, lastOf Prod.fst (lines.filterMap fun line => t.storedAs line.2) id = some (id, row) →
        lastOf Prod.fst (rows.values.filterMap t.storedAs) id = some (id, row) := by
      intro id row last
      by_contra other
      refine placed id row ⟨last, fun given fields final stored => ?_⟩
      by_contra lone
      refine other ((lastOf_sorted sorted).2 ⟨given, fields, final, stored, fun above others higher less other likewise => ?_⟩)
      exact lone ⟨above, others, other, higher, less, likewise⟩
    refine fun id row => ⟨fun found => ?_, kept id row⟩
    obtain ⟨given, fields, final, stored, _⟩ := (lastOf_sorted sorted).1 found
    have member : id ∈ (lines.filterMap fun line => t.storedAs line.2).map Prod.fst :=
      List.mem_map.2 ⟨(id, row), List.mem_filterMap.2 ⟨(given, fields), (lastOf_some final).1, stored⟩, rfl⟩
    obtain ⟨⟨key, last⟩, written⟩ := Option.isSome_iff_exists.1 (lastOf_isSome.2 member)
    obtain rfl : key = id := (lastOf_some written).2
    rw [written, ← kept key last written, found]

/-- Where ids are given no row is misplaced. -/
theorem not_misplaces_given (given : t.idParts = []) (written : ∀ line ∈ lines, ∃ rest, line.2 = some line.1 :: rest) :
    ¬t.Misplaces lines id row := by
  have own : ∀ line ∈ lines, t.storedAs line.2 = some line := by
    rintro ⟨id, fields⟩ member
    obtain ⟨rest, same⟩ := written _ member
    simp only at same
    rw [same]
    exact if_pos given
  rintro ⟨last, outranked⟩
  rw [List.filterMap_congr own, List.filterMap_some] at last
  obtain ⟨above, others, other, higher, less, stored⟩ := outranked id row last (own _ (lastOf_some last).1)
  cases (own _ (lastOf_some higher).1).symm.trans stored
  exact absurd less (by rw [Std.compare_self]; decide)

/-- Rows that come in the order of the ids they give are not misplaced. -/
theorem not_misplaces_ordered (ordered : lines.Pairwise fun a b => compare a.1 b.1 = .lt) : ¬t.Misplaces lines id row := by
  rintro ⟨last, outranked⟩
  obtain ⟨⟨given, fields⟩, member, stored, _, lone⟩ := (lastOf_filterMap_iff compare_asymm ordered).1 last
  have distinct : (lines.map Prod.fst).Nodup := List.pairwise_map.2 (ordered.imp fun {a b} less same => by simp [same] at less)
  obtain ⟨above, others, other, higher, less, likewise⟩ := outranked given fields (lastOf_of_nodup distinct member) stored
  exact lone (above, others) (lastOf_some higher).1 less (id, other) likewise rfl

end Table

namespace Catalogue

variable {c : Catalogue} {entity text : String} {payload : Payload} {t : Table}

/-- What a payload leaves of its rows: under each id the last that is written for it. -/
theorem rowsOf_lines {rows : Keyed (List Field)} (brought : rowsOf payload = .ok rows) : ∃ lines, payload.Lines lines ∧
    ∀ given : String, rows[given]? = (lastOf Prod.fst lines given).map Prod.snd := by
  obtain ⟨lines, all, ends⟩ := bind_ok brought
  cases ends
  refine ⟨lines, (mapM_ok_iff.1 all).imp ?_, fun given => ?_⟩
  · rintro entry line one
    rcases splits : entry.fields with fault | fields
    · rw [splits] at one
      cases one
    · rw [splits] at one
      cases one
      exact ⟨rfl, rfl⟩
  · rw [getElem?_foldl_insert Prod.fst Prod.snd, Std.ExtTreeMap.getElem?_empty, Option.or_none]

theorem withTable_withTable (c : Catalogue) (entity : String) (one other : Table) :
    (c.withTable entity one).withTable entity other = c.withTable entity other := by
  refine congrArg Catalogue.mk (Std.ExtTreeMap.ext_getElem? fun {key} => ?_)
  change ((c.withTable entity one).withTable entity other).tables[key]? = (c.withTable entity other).tables[key]?
  rw [getElem?_withTable, getElem?_withTable, getElem?_withTable]
  split <;> rfl

theorem withTable_inj (c : Catalogue) (entity : String) {one other : Table} :
    c.withTable entity one = c.withTable entity other ↔ one = other := by
  refine ⟨fun same => ?_, congrArg (c.withTable entity)⟩
  have found := getElem?_withTable c entity one entity
  rw [same, getElem?_withTable, if_pos rfl, if_pos rfl] at found
  exact (Option.some.inj found).symm

/-- Stores rows one after another, and goes on when one is refused. -/
def upserting (c : Catalogue) (entity : String) (rows : List (List Field)) : Catalogue :=
  rows.foldl (fun c fields => (c.mutate (.upsert entity fields)).2) c

theorem upserting_withTable (c : Catalogue) {rows : List (List Field)} (wide : ∀ fields ∈ rows, fields.length = t.header.width) :
    (c.withTable entity t).upserting entity rows = c.withTable entity (t.storeAll rows) := by
  induction rows generalizing t with
  | nil => rfl
  | cons fields rest ih =>
    obtain ⟨here, wide⟩ := List.forall_mem_cons.1 wide
    have found : (c.withTable entity t).tables[entity]? = some t := (getElem?_withTable ..).trans (if_pos rfl)
    rw [upserting, List.foldl_cons, mutate_upsert found here, withTable_withTable,
      Table.storeAll_cons t fields rest]
    exact ih wide

/-- A payload that is accepted is loaded as its rows would be stored in written order, exactly if none of them is misplaced. None is
where ids are given, or where the rows come in the order of the ids they give. -/
theorem load_upserting_iff (accepted : (c.load entity text).answer = .ok ()) :
    ∃ payload lines idParts, Payload.read text = .ok payload ∧ payload.Lines lines ∧
      idParts.map Prod.fst = c.idColumns entity ∧
      (∀ part ∈ idParts, payload.header.position? part.1 = some part.2 ∧ 0 < part.2) ∧
      ((c.load entity text).catalogue = (c.withTable entity (c.blank entity payload idParts)).upserting entity (lines.map Prod.snd) ↔
        ∀ id row, ¬(c.blank entity payload idParts).Misplaces lines id row) ∧
      (idParts = [] ∨ (lines.Pairwise fun a b => compare a.1 b.1 = .lt) →
        (c.load entity text).catalogue = (c.withTable entity (c.blank entity payload idParts)).upserting entity (lines.map Prod.snd)) := by
  cases c.loads entity text with
  | refused fails _ =>
    rw [fails] at accepted
    cases accepted
  | @loaded payload rows idParts reads brought named composes _ leaves =>
    obtain ⟨lines, spoken, sorted⟩ := rowsOf_lines brought
    have written : ∀ line ∈ lines, ∃ rest, line.2 = some line.1 :: rest ∧ rest.length + 1 = payload.header.width := by
      intro line member
      obtain ⟨entry, inEntries, own, splits⟩ := exists_of_forall₂ spoken member
      obtain ⟨rest, fields, width⟩ := (Payload.read_written reads entry inEntries).fields
      rw [splits] at fields
      exact ⟨rest, own ▸ Except.ok.inj fields, width⟩
    have wide : ∀ fields ∈ lines.map Prod.snd, fields.length = (c.blank entity payload idParts).header.width := by
      intro fields member
      obtain ⟨line, inLines, rfl⟩ := List.mem_map.1 member
      obtain ⟨rest, same, width⟩ := written line inLines
      rw [same]
      exact width
    have placed : ∀ part ∈ idParts, payload.header.position? part.1 = some part.2 ∧ 0 < part.2 := fun part member =>
      Table.placesOf_placed (composes (List.ne_nil_of_mem member)).1 part member
    -- The lines are stored sorted by the ids they are written with, which need not be those that they give.
    have same := Table.storeAll_sorted_iff (t := c.blank entity payload idParts) rfl sorted
    rw [← withTable_inj c entity, ← leaves, ← upserting_withTable c wide] at same
    refine ⟨payload, lines, idParts, reads, spoken, named, placed, same, ?_⟩
    rintro (given | ordered)
    · exact same.2 fun id row => Table.not_misplaces_given given fun line member =>
        (written line member).imp fun _ both => both.1
    · exact same.2 fun id row => Table.not_misplaces_ordered ordered

/-- An entity with ids that are composed of its second column. -/
def composing : Catalogue := (mutate (mutate {} (.load "e" "id,a,v\n1,p,x")).2 (.composeIds "e" ["a"])).2

theorem made_composing : composing.Made := ⟨[.load "e" "id,a,v\n1,p,x", .composeIds "e" ["a"]], rfl⟩

/-- Of two rows with one composed id the later is loaded here, as it gives the greater id. -/
theorem load_upserting_composing : (composing.load "e" "id,a,v\ny,q,1\nx,r,2\nz,q,3").answer = .ok () ∧
    ∃ payload lines idParts, Payload.read "id,a,v\ny,q,1\nx,r,2\nz,q,3" = .ok payload ∧ payload.Lines lines ∧
      idParts.map Prod.fst = composing.idColumns "e" ∧
      (∀ part ∈ idParts, payload.header.position? part.1 = some part.2 ∧ 0 < part.2) ∧
      ((composing.load "e" "id,a,v\ny,q,1\nx,r,2\nz,q,3").catalogue =
          (composing.withTable "e" (composing.blank "e" payload idParts)).upserting "e" (lines.map Prod.snd) ↔
        ∀ id row, ¬(composing.blank "e" payload idParts).Misplaces lines id row) ∧
      (idParts = [] ∨ (lines.Pairwise fun a b => compare a.1 b.1 = .lt) →
        (composing.load "e" "id,a,v\ny,q,1\nx,r,2\nz,q,3").catalogue =
          (composing.withTable "e" (composing.blank "e" payload idParts)).upserting "e" (lines.map Prod.snd)) := by
  have accepted : (composing.load "e" "id,a,v\ny,q,1\nx,r,2\nz,q,3").answer = .ok () := by decide +kernel
  exact ⟨accepted, load_upserting_iff accepted⟩

/-- Two rows that give one id and have different ones composed. -/
def twins : Payload :=
  ⟨⟨["id", "a", "v"], rfl, by decide, by decide⟩, [.update ⟨"x", "x,q,1", ∅⟩, .update ⟨"x", "x,r,2", ∅⟩]⟩

theorem twins_lines : twins.Lines [("x", [some "x", some "q", some "1"]), ("x", [some "x", some "r", some "2"])] :=
  .cons ⟨rfl, by decide +kernel⟩ (.cons ⟨rfl, by decide +kernel⟩ .nil)

/-- Of the two rows only the second is loaded, though both have ids of their own. -/
theorem not_load_upserting : ¬∀ (c : Catalogue) (entity text : String) (payload : Payload) (lines : List (String × List Field))
    (idParts : List (String × Nat)), c.Made → (c.load entity text).answer = .ok () → Payload.read text = .ok payload →
      payload.Lines lines → idParts.map Prod.fst = c.idColumns entity →
      (∀ part ∈ idParts, payload.header.position? part.1 = some part.2 ∧ 0 < part.2) →
      (c.load entity text).catalogue = (c.withTable entity (c.blank entity payload idParts)).upserting entity (lines.map Prod.snd) := by
  intro same
  have loaded := same composing "e" "id,a,v\nx,q,1\nx,r,2" twins _ [("a", 1)] made_composing (by decide +kernel) (by decide +kernel)
    twins_lines (by decide +kernel) (by decide +kernel)
  have ids := congrArg (fun c : Catalogue => (c.tables["e"]?).map fun t => t.rows.keys) loaded
  have one : ((composing.load "e" "id,a,v\nx,q,1\nx,r,2").catalogue.tables["e"]?.map fun t => t.rows.keys) = some ["r"] := by
    decide +kernel
  rw [one] at ids
  revert ids
  decide +kernel

end Catalogue

end ReferenceFeed
