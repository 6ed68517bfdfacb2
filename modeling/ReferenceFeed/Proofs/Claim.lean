import ReferenceFeed.Proofs.Changes

namespace ReferenceFeed

/-!
What rows of a transport claim, and what an origin does about them. A row is read like a line of a payload: it gives an entry
under the columns, or an id alone, which is gone. The policy decides whether these claims count or only their ids.
-/

namespace Record

/-- The row that a record gives to its id, if it does not remove it. -/
def row? : Record → Option String
  | .update entry => some entry.row
  | .remove _ => none

/-- The entry of a record that does not remove its id. -/
def entry? : Record → Option Entry
  | .update entry => some entry
  | .remove _ => none

variable {records : List Record} {id : String}

theorem mem_entries {entry : Entry} : entry ∈ records.filterMap entry? ↔ .update entry ∈ records := by
  rw [List.mem_filterMap]
  constructor
  · rintro ⟨record, member, picked⟩
    cases record with
    | update other =>
      cases picked
      exact member
    | remove gone => cases picked
  · exact fun member => ⟨_, member, rfl⟩

theorem lastOf_entries_none : lastOf Entry.id (records.filterMap entry?) id = none ↔
    ∀ entry, .update entry ∈ records → entry.id ≠ id := by
  rw [lastOf_none, List.mem_map]
  simp only [mem_entries, not_exists, not_and, ne_eq]

/-- An id whose last record is an update has got its last entry by it. -/
theorem lastOf_entries {last : Entry} (found : lastOf Record.id records id = some (.update last)) :
    lastOf Entry.id (records.filterMap entry?) id = some last := by
  rw [lastOf] at found
  rw [lastOf, ← List.filterMap_reverse]
  generalize records.reverse = records at found ⊢
  induction records with
  | nil => cases found
  | cons record rest ih =>
    rw [List.find?_cons] at found
    cases record with
    | update entry =>
      rw [List.filterMap_cons, entry?, List.find?_cons]
      by_cases here : entry.id = id
      · simpa [Record.id, here] using found
      · simpa [Record.id, here] using ih (by simpa [Record.id, here] using found)
    | remove gone =>
      rw [List.filterMap_cons, entry?]
      by_cases here : gone = id
      · simp [Record.id, here] at found
      · exact ih (by simpa [Record.id, here] using found)

end Record

namespace Payload

variable {payload : Payload} {entry : Entry} {id : String}

theorem mem_entries : entry ∈ payload.entries ↔ .update entry ∈ payload.records := Record.mem_entries

theorem lastOf_entries_none : lastOf Entry.id payload.entries id = none ↔ ∀ entry, .update entry ∈ payload.records → entry.id ≠ id :=
  Record.lastOf_entries_none

theorem mem_removed : id ∈ payload.removed ↔ .remove id ∈ payload.records := by
  rw [removed, List.mem_filterMap]
  constructor
  · rintro ⟨record, member, picked⟩
    cases record with
    | update other => cases picked
    | remove gone =>
      cases picked
      exact member
  · exact fun member => ⟨_, member, rfl⟩

end Payload

namespace Claims

variable {settings : OriginSettings} {entity : String} {header : Header} {text : String} {rows : List String}

/-- A row claims what the record says that it is read as. -/
theorem entryOf_spelled {record : Record} (spells : Payload.Spells header text record) :
    ∃ claimed, entryOf settings entity header text = .ok (record.id, claimed) ∧ Option.Rel Entry.Filled record.entry? claimed := by
  obtain ⟨fields, splits, reads⟩ := spells
  unfold Payload.recordOf at reads
  unfold entryOf
  rw [splits]
  split at reads
  · cases reads
  · next same =>
    cases same
    cases reads
    exact ⟨none, rfl, .none⟩
  · next id rest solid same =>
    cases same
    split at reads
    · next width =>
      cases reads
      have written : Entry.Written header ⟨id, Row.render (some id :: rest), ∅⟩ := ⟨rest, rfl, width⟩
      obtain ⟨filled, completes⟩ := settings.complete_ok entity written
      refine ⟨some filled, ?_, .some (OriginSettings.complete_filled completes)⟩
      cases rest with
      | nil => exact absurd rfl solid
      | cons field rest =>
        simp only [if_pos width, completes]
        rfl
    · cases reads
  · cases reads

/-- Rows claim what the records say that they are read as. -/
theorem ofRows_spelled {records : List Record} (spelled : List.Forall₂ (Payload.Spells header) rows records) :
    ∃ claims, ofRows settings entity header rows = .ok claims ∧ claims.ids = Names.ofList (records.map Record.id) ∧
      List.Forall₂ Entry.Filled (records.filterMap Record.entry?) claims.entries := by
  have each : ∃ read, List.Forall₂ (fun row claim => entryOf settings entity header row = .ok claim) rows read ∧
      read.map Prod.fst = records.map Record.id ∧
      List.Forall₂ Entry.Filled (records.filterMap Record.entry?) (read.filterMap Prod.snd) := by
    induction spelled with
    | nil => exact ⟨[], .nil, rfl, .nil⟩
    | @cons row record rows records spells _ ih =>
      obtain ⟨claimed, reads, filled⟩ := @entryOf_spelled settings entity _ _ _ spells
      obtain ⟨read, all, ids, entries⟩ := ih
      refine ⟨(record.id, claimed) :: read, .cons reads all, congrArg (record.id :: ·) ids, ?_⟩
      rw [List.filterMap_cons, List.filterMap_cons]
      cases record with
      | update entry =>
        cases filled with
        | some same => exact .cons same entries
      | remove gone =>
        cases filled
        exact entries
  obtain ⟨read, all, ids, entries⟩ := each
  refine ⟨⟨Names.ofList (read.map Prod.fst), read.filterMap Prod.snd⟩, ?_, congrArg Names.ofList ids, entries⟩
  rw [ofRows, mapM_ok_iff.2 all]
  rfl

/-- The last row of an id. -/
theorem getElem?_rowsOf (entries : List Entry) (id : String) : (rowsOf entries)[id]? = (lastOf Entry.id entries id).map Entry.row := by
  rw [rowsOf, getElem?_foldl_insert Entry.id Entry.row, Std.ExtTreeMap.getElem?_empty, Option.or_none]

end Claims

namespace Site

variable {c : Conduct} {s : Site} {entity : String} {old : Store} {claims : Claims} {thread : Thread} {header : Header}
  {rows : List String}

/-- Rows that are refused leave everything as it is. -/
theorem act_refused {cause : Failure} (refused : s.origin.claimsOf entity header rows = .error cause) :
    act c thread (.applyRows entity header rows) s = (.error (.failure cause), { s with thread }) := by
  have here : ((wiring c).place.get { s with thread }).claimsOf entity header rows = .error cause := refused
  rw [act, perform, Flow.effect_map, Origin.Wiring.effect_applyRows, here]
  rfl

/-- What a thread is answered that has rows to apply is what considering their claims comes to. -/
theorem act_claimed (claimed : s.origin.claimsOf entity header rows = .ok claims) :
    act c thread (.applyRows entity header rows) s =
      let outcome := Flow.effect ((wiring c).consider entity claims s.origin.settings.policy) { s with thread }
      (outcome.1.map .changes, outcome.2) := by
  have here : ((wiring c).place.get { s with thread }).claimsOf entity header rows = .ok claims := claimed
  rw [act, perform, Flow.effect_map, Origin.Wiring.effect_applyRows, here]
  rfl

/-- Claims that count take effect. -/
theorem Sound.considers_trusted (sound : Sound s) (free : s.origin.fanout.isOpen = false)
    (alive : s.origin.live[entity]? = some old) (written : ∀ entry ∈ claims.entries, entry.Written old.header) :
    ∃ told next after, Flow.effect ((wiring c).consider entity claims .trusted) s =
        (.ok (Delta.ofFetch old claims.ids claims.entries).changes, after) ∧
      Landed s told told after ∧ Stages.Absorbs s.origin.settings s.origin.live ∅
        ((Delta.ofFetch old claims.ids claims.entries).events entity old.header) told next := by
  refine sound.announces free alive (.ofFetch old claims.ids claims.entries) written fun number u _ live => ?_
  rw [Flow.effect_bind, effect_ask, Origin.store, liveStore, live, alive]
  rfl

end Site

end ReferenceFeed
