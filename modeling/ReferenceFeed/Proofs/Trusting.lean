import ReferenceFeed.Proofs.Claim
import ReferenceFeed.Proofs.Refresh

namespace ReferenceFeed

/-!
Rows that are taken as they are. What they claim is sorted into updates and ids, so an id that is given a row and taken away
again keeps it, and one that gets its old row back is announced. Apart from that the rows are applied in their order.
-/

namespace Record

variable {records : List Record} {record : Record} {id : String}

/-- The last record of an id decides about its row. -/
theorem getElem?_foldl_amend (records : List Record) (rows : Keyed String) (id : String) :
    (records.foldl amend rows)[id]? = (lastOf Record.id records id).elim rows[id]? row? := by
  induction records using List.reverseRecOn with
  | nil => rfl
  | append_singleton records record ih =>
    rw [List.foldl_append, List.foldl_cons, List.foldl_nil, lastOf_append, lastOf_singleton]
    cases record with
    | update entry =>
      rw [amend, Keyed.getElem?_insert, ih]
      change (if entry.id = id then _ else _) = Option.elim (Option.or (if entry.id = id then _ else _) _) _ _
      split <;> rfl
    | remove gone =>
      rw [amend, Keyed.getElem?_erase, ih]
      change (if gone = id then _ else _) = Option.elim (Option.or (if gone = id then _ else _) _) _ _
      split <;> rfl

theorem lastOf_updates (entries : List Entry) (id : String) :
    lastOf Record.id (entries.map .update) id = (lastOf Entry.id entries id).map .update :=
  lastOf_map Record.update entries id

theorem lastOf_removals (ids : List String) (id : String) :
    lastOf Record.id (ids.map .remove) id = if id ∈ ids then some (.remove id) else none := by
  have named : (ids.map Record.remove).map Record.id = ids := by
    rw [List.map_map]
    exact List.map_id ids
  rcases found : lastOf Record.id (ids.map .remove) id with _ | record
  · have absent := lastOf_none.1 found
    rw [named] at absent
    rw [if_neg absent]
  · obtain ⟨listed, rfl⟩ := lastOf_some found
    obtain ⟨gone, member, rfl⟩ := List.mem_map.1 listed
    exact (if_pos member).symm

end Record

namespace Payload

variable {payload : Payload} {old new : Store} {changes : Changes} {id : String}

/-- The records with all removals in front of the updates. -/
def sorted (payload : Payload) : List Record := payload.removed.map .remove ++ payload.entries.map .update

theorem getElem?_foldl_sorted (rows : Keyed String) (id : String) : (payload.sorted.foldl Record.amend rows)[id]? =
    ((lastOf Entry.id payload.entries id).map Entry.row).or (if id ∈ payload.removed then none else rows[id]?) := by
  rw [Record.getElem?_foldl_amend, sorted, lastOf_append, Record.lastOf_updates, Record.lastOf_removals]
  rcases lastOf Entry.id payload.entries id with _ | entry
  · rw [Option.map_none, Option.none_or, Option.map_none, Option.none_or]
    split <;> rfl
  · rfl

/-- What is said of an id that is given no row is that it is gone. -/
theorem mem_ids_ungiven (ungiven : ∀ entry, .update entry ∈ payload.records → entry.id ≠ id) :
    id ∈ Names.ofList (payload.records.map Record.id) ↔ .remove id ∈ payload.records := by
  rw [Names.mem_ofList, List.mem_map]
  constructor
  · rintro ⟨record, member, rfl⟩
    cases record with
    | update entry => exact absurd rfl (ungiven entry member)
    | remove gone => exact member
  · exact fun member => ⟨_, member, rfl⟩

/-- A row is taken back: in the end its id has none, or the one that it had. -/
def TakesBack (payload : Payload) (old : Store) : Prop :=
  ∃ last entry, lastOf Record.id payload.records entry.id = some last ∧ .update entry ∈ payload.records ∧
    last.row? ≠ some entry.row ∧ (last.row? = none ∨ last.row? = old.row? entry.id)

/-- An id that is given a row gets its last row for good, if no row is taken back. -/
theorem lastOf_of_kept (kept : ¬payload.TakesBack old) {entry : Entry} (given : .update entry ∈ payload.records) :
    ∃ last, lastOf Record.id payload.records entry.id = some (.update last) := by
  rcases found : lastOf Record.id payload.records entry.id with _ | record
  · exact absurd (List.mem_map_of_mem given) (lastOf_none.1 found)
  · cases record with
    | update last => exact ⟨last, rfl⟩
    | remove gone => exact absurd ⟨.remove gone, entry, found, given, nofun, .inl rfl⟩ kept

end Payload

/-- The changes of the rows between two stores, no more and no less. -/
structure Changes.Exact (old new : Store) (changes : Changes) : Prop where
  updated : ∀ id, id ∈ changes.updated ↔ (new.row? id).isSome = true ∧ new.row? id ≠ old.row? id
  removed : ∀ id, id ∈ changes.removed ↔ (old.row? id).isSome = true ∧ new.row? id = none

/-- What the rows that are read as a payload make of a store that takes them as they are. Its removals are made first and its
updates after them; what is told is every update to a row that was not there, and every removal of a row that none updates. -/
structure Asserted (payload : Payload) (old new : Store) (changes : Changes) : Prop where
  columns : new.header = old.header
  rows : rowsOf (some new) = payload.sorted.foldl Record.amend (rowsOf (some old))
  updated : ∀ id, id ∈ changes.updated ↔
    ∃ entry, .update entry ∈ payload.records ∧ entry.id = id ∧ old.row? id ≠ some entry.row
  removed : ∀ id, id ∈ changes.removed ↔
    .remove id ∈ payload.records ∧ (∀ entry, .update entry ∈ payload.records → entry.id ≠ id) ∧ (old.row? id).isSome = true

namespace Asserted

variable {payload : Payload} {old new : Store} {changes : Changes} {id : String}

theorem row?_eq (asserted : Asserted payload old new changes) (id : String) : new.row? id =
    ((lastOf Entry.id payload.entries id).map Entry.row).or (if .remove id ∈ payload.records then none else old.row? id) := by
  have rows := @Payload.getElem?_foldl_sorted payload (rowsOf (some old)) id
  rw [← asserted.rows, Site.getElem?_rowsOf, Site.getElem?_rowsOf] at rows
  simpa only [Payload.mem_removed] using rows

theorem row?_last (asserted : Asserted payload old new changes) {last : Entry} (found : lastOf Entry.id payload.entries id = some last) :
    new.row? id = some last.row := by
  rw [asserted.row?_eq, found]
  rfl

theorem row?_ungiven (asserted : Asserted payload old new changes)
    (ungiven : ∀ entry, .update entry ∈ payload.records → entry.id ≠ id) :
    new.row? id = if .remove id ∈ payload.records then none else old.row? id := by
  rw [asserted.row?_eq, Payload.lastOf_entries_none.2 ungiven]
  rfl

/-- What claims make of a store, once it has settled. -/
theorem of_settled {claims : Claims} {completed : List Entry} (columns : new.header = old.header)
    (ids : claims.ids = Names.ofList (payload.records.map Record.id))
    (filled : List.Forall₂ Entry.Filled payload.entries claims.entries)
    (all : List.Forall₂ Entry.Filled (Delta.ofFetch old claims.ids claims.entries).changed completed)
    (settled : ∀ id, new.get? id =
      (old.apply completed (Delta.ofFetch old claims.ids claims.entries).changes.removed).get? id) :
    Asserted payload old new (Delta.ofFetch old claims.ids claims.entries).changes where
  columns := columns
  rows := by
    refine Std.ExtTreeMap.ext_getElem? fun {id} => ?_
    rw [Payload.getElem?_foldl_sorted, Site.getElem?_rowsOf, Site.getElem?_rowsOf, Delta.row?_settled all settled,
      Entry.Filled.last_row filled]
    rcases listed : lastOf Entry.id payload.entries id with _ | last
    · simp only [ids, Payload.mem_ids_ungiven (Payload.lastOf_entries_none.1 listed), Payload.mem_removed]
    · rfl
  updated id := by
    rw [Delta.mem_updated_iff]
    constructor
    · rintro ⟨claimed, member, rfl, differs⟩
      obtain ⟨entry, given, same⟩ := exists_of_forall₂ filled member
      exact ⟨entry, Payload.mem_entries.1 given, same.id.symm, same.row ▸ differs⟩
    · rintro ⟨entry, given, rfl, differs⟩
      obtain ⟨claimed, member, same⟩ := exists_of_forall₂ filled.flip (Payload.mem_entries.2 given)
      exact ⟨claimed, member, same.id, same.row.symm ▸ differs⟩
  removed id := by
    rw [Delta.mem_removed_iff, Entry.Filled.ids filled, ← lastOf_none, Payload.lastOf_entries_none, ids]
    constructor
    · rintro ⟨asked, ungiven, held⟩
      exact ⟨(Payload.mem_ids_ungiven ungiven).1 asked, ungiven, held⟩
    · rintro ⟨removed, ungiven, held⟩
      exact ⟨(Payload.mem_ids_ungiven ungiven).2 removed, ungiven, held⟩

/-- Each id has the row of the last record about it, if no row is taken back. -/
theorem rows_in_order (asserted : Asserted payload old new changes) (kept : ¬payload.TakesBack old) :
    rowsOf (some new) = payload.records.foldl Record.amend (rowsOf (some old)) := by
  refine Std.ExtTreeMap.ext_getElem? fun {id} => ?_
  rw [Record.getElem?_foldl_amend, Site.getElem?_rowsOf, Site.getElem?_rowsOf]
  rcases listed : lastOf Entry.id payload.entries id with _ | final
  · have ungiven := Payload.lastOf_entries_none.1 listed
    rw [asserted.row?_ungiven ungiven]
    rcases found : lastOf Record.id payload.records id with _ | record
    · exact if_neg fun removed => lastOf_none.1 found (List.mem_map_of_mem removed)
    · obtain ⟨member, here⟩ := lastOf_some found
      cases record with
      | update entry => exact absurd here (ungiven entry member)
      | remove gone =>
        cases here
        exact if_pos member
  · obtain ⟨member, rfl⟩ := lastOf_some listed
    obtain ⟨last, found⟩ := Payload.lastOf_of_kept kept (Payload.mem_entries.1 member)
    rw [asserted.row?_last (Record.lastOf_entries found), found]
    rfl

/-- What is told is what has changed, if no row is taken back. -/
theorem exact (asserted : Asserted payload old new changes) (kept : ¬payload.TakesBack old) : changes.Exact old new where
  updated id := by
    rw [asserted.updated]
    constructor
    · rintro ⟨entry, given, rfl, differs⟩
      -- If the last row of the id were the old one, a given row would have been taken back.
      obtain ⟨last, found⟩ := Payload.lastOf_of_kept kept given
      rw [asserted.row?_last (Record.lastOf_entries found)]
      refine ⟨rfl, fun same => kept ⟨.update last, entry, found, given, ?_, .inr same⟩⟩
      exact fun again => differs (same.symm.trans again)
    · rintro ⟨held, differs⟩
      rcases found : lastOf Entry.id payload.entries id with _ | last
      · rw [asserted.row?_ungiven (Payload.lastOf_entries_none.1 found)] at held differs
        split at held
        · cases held
        · next unremoved => exact absurd (if_neg unremoved) differs
      · obtain ⟨listed, here⟩ := lastOf_some found
        rw [asserted.row?_last found] at differs
        exact ⟨last, Payload.mem_entries.1 listed, here, Ne.symm differs⟩
  removed id := by
    rw [asserted.removed]
    constructor
    · rintro ⟨removed, ungiven, held⟩
      exact ⟨held, (asserted.row?_ungiven ungiven).trans (if_pos removed)⟩
    · rintro ⟨held, gone⟩
      rcases found : lastOf Entry.id payload.entries id with _ | last
      · have ungiven := Payload.lastOf_entries_none.1 found
        refine ⟨?_, ungiven, held⟩
        by_contra unremoved
        rw [asserted.row?_ungiven ungiven, if_neg unremoved] at gone
        rw [gone] at held
        cases held
      · cases (asserted.row?_last found).symm.trans gone

/-- Rows are applied in their order, and what is told is what has changed, if and only if no row is taken back. -/
theorem orderly_iff (asserted : Asserted payload old new changes) :
    rowsOf (some new) = payload.records.foldl Record.amend (rowsOf (some old)) ∧ changes.Exact old new ↔
      ¬payload.TakesBack old := by
  refine ⟨?_, fun kept => ⟨asserted.rows_in_order kept, asserted.exact kept⟩⟩
  rintro ⟨inOrder, exact⟩ ⟨last, entry, found, given, differs, back⟩
  have now : new.row? entry.id = last.row? := by
    rw [← Site.getElem?_rowsOf, inOrder, Record.getElem?_foldl_amend, found]
    rfl
  rcases back with gone | back
  · rcases listed : lastOf Entry.id payload.entries entry.id with _ | final
    · exact Payload.lastOf_entries_none.1 listed entry given rfl
    · cases (asserted.row?_last listed).symm.trans (now.trans gone)
  · have told := (asserted.updated entry.id).2 ⟨entry, given, rfl, back ▸ differs⟩
    exact ((exact.updated entry.id).1 told).2 (now.trans back)

end Asserted

namespace Site

variable {c : Conduct} {s t : Site} {entity : String} {rows : List String} {payload : Payload} {old : Store} {thread : Thread}
  {changes : Changes}

/-- Rows that are taken as they are amend the store of their entity, if they are answered well. -/
theorem Sound.amends (sound : Sound s) (trusts : s.origin.settings.policy = .trusted) (alive : s.origin.live[entity]? = some old)
    (spelled : List.Forall₂ (Payload.Spells payload.header) rows payload.records)
    (runs : Flow.effect ((wiring c).applyRows entity payload.header rows) s = (.ok changes, t)) :
    ∃ new, t.origin.live[entity]? = some new ∧ Asserted payload old new changes ∧
      ∀ other, other ≠ entity → t.origin.live[other]? = s.origin.live[other]? := by
  rw [Origin.Wiring.effect_applyRows, wiring_place_get, trusts] at runs
  split at runs
  · cases runs
  next claims claimed =>
  obtain ⟨_, again, columns, reads⟩ := Origin.claimsOf_ok claimed
  cases alive.symm.trans again
  obtain ⟨claims, reads', ids, filled⟩ := @Claims.ofRows_spelled s.origin.settings entity _ _ _ spelled
  cases reads.symm.trans reads'
  have written : ∀ entry ∈ claims.entries, entry.Written old.header := columns ▸ Claims.ofRows_written reads
  obtain ⟨told, next, after, ends, landed, absorbs⟩ := sound.considers_trusted (c := c) (free_of_run runs) alive written
  cases runs.symm.trans ends
  obtain ⟨new, completed, now, same, all, settled, _, others, _⟩ :=
    landed.announced sound (Delta.coherent_ofFetch ..) alive absorbs rfl
  exact ⟨new, now, .of_settled same ids filled all settled, others⟩

/-- Rows of a trusted transport that are answered well amend their entity and nothing else. They are applied in their order, and
the answer tells the changes of the rows, if and only if none of them is taken back. -/
theorem Reachable.trusted_in_order_iff (reach : Reachable c s) (trusts : s.origin.settings.policy = .trusted)
    (alive : s.origin.live[entity]? = some old)
    (spelled : List.Forall₂ (Payload.Spells payload.header) rows payload.records)
    (acts : act c thread (.applyRows entity payload.header rows) s = (.ok (.changes changes), t)) :
    ∃ new, t.origin.live[entity]? = some new ∧ Asserted payload old new changes ∧
      (∀ other, other ≠ entity → t.origin.live[other]? = s.origin.live[other]?) ∧
      (rowsOf (some new) = payload.records.foldl Record.amend (rowsOf (some old)) ∧ changes.Exact old new ↔
        ¬payload.TakesBack old) := by
  obtain ⟨new, now, asserted, others⟩ := (reach.sound.on thread).amends trusts alive spelled (changes_of_act rfl acts)
  exact ⟨new, now, asserted, others, asserted.orderly_iff⟩

/-- A table that was loaded, with rows that a transport is going to change. -/
def stocked : Site := (enact staffed (overTables {} [.load "e" "id,v\n1,x\n2,x\n3,x\n4,x"]) [(0, .reload "e")]).2

theorem stocked_reachable : Reachable staffed stocked := (run_enact ..).reachable (.fresh {} _)

/-- Rows that speak of some ids more than once, with quotes that one of them does not need. -/
def volatile : List String := ["\"1\",y", "3", "2,y", "3,w", "2,z", "9", "4"]

/-- What these rows are read as. -/
def volatileRead : Payload := ⟨keyAndValue, [.update ⟨"1", "1,y", ∅⟩, .remove "3", .update ⟨"2", "2,y", ∅⟩, .update ⟨"3", "3,w", ∅⟩,
  .update ⟨"2", "2,z", ∅⟩, .remove "9", .remove "4"]⟩

theorem volatile_spelled : List.Forall₂ (Payload.Spells volatileRead.header) volatile volatileRead.records := by decide +kernel

theorem trusted_in_order_volatile : ∃ old new, stocked.origin.live["e"]? = some old ∧
    (act staffed 1 (.applyRows "e" keyAndValue volatile) stocked).2.origin.live["e"]? = some new ∧
    rowsOf (some new) = volatileRead.records.foldl Record.amend (rowsOf (some old)) ∧
    Changes.Exact old new ⟨{"1", "2", "3"}, {"4"}⟩ := by
  have acts : act staffed 1 (.applyRows "e" volatileRead.header volatile) stocked =
      (.ok (.changes ⟨{"1", "2", "3"}, {"4"}⟩), (act staffed 1 (.applyRows "e" keyAndValue volatile) stocked).2) :=
    Prod.ext (by decide +kernel) rfl
  have lasting : (stocked.origin.live["e"]?).map (fun old => volatileRead.entries.all fun entry =>
      (lastOf Record.id volatileRead.records entry.id).all fun last =>
        last.row? = some entry.row ∨ last.row? ≠ none ∧ last.row? ≠ old.row? entry.id) = some true := by decide +kernel
  obtain ⟨old, alive, lasting⟩ := Option.map_eq_some_iff.1 lasting
  obtain ⟨new, now, _, _, inOrder⟩ := stocked_reachable.trusted_in_order_iff (by decide +kernel) alive volatile_spelled acts
  have kept : ¬volatileRead.TakesBack old := by
    rintro ⟨last, entry, found, given, differs, back⟩
    have last_word := List.all_eq_true.1 lasting entry (Payload.mem_entries.2 given)
    rw [found, Option.all_some, decide_eq_true_eq] at last_word
    rcases last_word with same | ⟨held, other⟩
    · exact differs same
    · exact back.elim held other
  obtain ⟨rows, exact⟩ := inOrder.2 kept
  exact ⟨old, new, alive, now, rows, exact⟩

/-- An id that is given a row and then removed should be gone, and is not. -/
theorem not_trusted_in_order : ¬∀ (c : Conduct) (s t : Site) (thread : Thread) (entity : String) (rows : List String)
    (payload : Payload) (old new : Store) (changes : Changes), Reachable c s → s.origin.settings.policy = .trusted →
    s.origin.live[entity]? = some old → 2 ≤ old.header.width →
    List.Forall₂ (Payload.Spells payload.header) rows payload.records →
    act c thread (.applyRows entity payload.header rows) s = (.ok (.changes changes), t) →
    t.origin.live[entity]? = some new →
    rowsOf (some new) = payload.records.foldl Record.amend (rowsOf (some old)) ∧ changes.Exact old new := by
  intro claim
  have acts : act staffed 1 (.applyRows "e" keyAndValue ["1,y", "1"]) stocked =
      (.ok (.changes ⟨{"1"}, ∅⟩), (act staffed 1 (.applyRows "e" keyAndValue ["1,y", "1"]) stocked).2) :=
    Prod.ext (by decide +kernel) rfl
  have spelled : List.Forall₂ (Payload.Spells keyAndValue) ["1,y", "1"] [.update ⟨"1", "1,y", ∅⟩, .remove "1"] := by decide +kernel
  have before : (stocked.origin.live["e"]?).map Store.header = some keyAndValue := by decide +kernel
  have after : ((act staffed 1 (.applyRows "e" keyAndValue ["1,y", "1"]) stocked).2.origin.live["e"]?).map (Store.row? · "1") =
      some (some "1,y") := by decide +kernel
  obtain ⟨old, alive, columns⟩ := Option.map_eq_some_iff.1 before
  obtain ⟨new, now, row⟩ := Option.map_eq_some_iff.1 after
  obtain ⟨rows, _⟩ := claim staffed stocked _ 1 "e" _ ⟨keyAndValue, _⟩ old new _ stocked_reachable (by decide +kernel) alive
    (by rw [columns]; decide) spelled acts now
  have gone : (rowsOf (some new))["1"]? = none := by
    rw [rows, Record.getElem?_foldl_amend]
    rfl
  rw [getElem?_rowsOf, row] at gone
  cases gone

end Site

end ReferenceFeed
