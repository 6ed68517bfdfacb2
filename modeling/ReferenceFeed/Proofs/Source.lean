import ReferenceFeed.Origin.Claim
import ReferenceFeed.Proofs.Catalogue
import ReferenceFeed.Proofs.Intake

namespace ReferenceFeed

/-!
What a source of tables sends. Its rows are entries that are written as wide as their header, so a request is
refused before anything is sent, or answered in full.
-/

namespace Feed

theorem ofResults_map (events : List Event) : ofResults (events.map .ok) = ofEvents events := by
  induction events with
  | nil => rfl
  | cons event rest ih =>
    rw [List.map_cons, ofResults, ih]
    rfl

theorem mem_ofEvents {events : List Event} {event : Event} (member : .event event ∈ (ofEvents events).signals) :
    event ∈ events := by
  obtain ⟨other, sent, same⟩ := List.mem_map.1 member
  cases same
  exact sent

/-- What a feed of results sends was among the results. -/
theorem mem_ofResults {results : List (Except Failure Event)} {event : Event}
    (member : .event event ∈ (ofResults results).signals) : .ok event ∈ results := by
  induction results with
  | nil => cases member
  | cons result rest ih =>
    cases result with
    | error cause => cases member
    | ok first =>
      rcases List.mem_cons.1 member with same | later
      · cases same
        exact List.mem_cons_self
      · exact List.mem_cons_of_mem _ (ih later)

theorem ofResults_events (results : List (Except Failure Event)) :
    ∀ signal ∈ (ofResults results).signals, ∃ event, signal = .event event := by
  induction results with
  | nil => exact List.forall_mem_nil _
  | cons result rest ih =>
    cases result with
    | error cause => exact List.forall_mem_nil _
    | ok event =>
      intro signal member
      rcases List.mem_cons.1 member with rfl | later
      · exact ⟨event, rfl⟩
      · exact ih signal later

end Feed

/-- A source of tables sends nothing but events. -/
theorem Catalogue.fetch_events (c : Catalogue) (request : Request) :
    ∀ signal ∈ (c.fetch request).signals, ∃ event, signal = .event event := by
  unfold Catalogue.fetch
  split
  · exact List.forall_mem_nil _
  · cases request with
    | whole entity => exact Feed.ofResults_events _
    | ids entity ids => exact Feed.ofResults_events _
    | group entity key =>
      rw [Table.fetch]
      split
      · exact List.forall_mem_nil _
      · exact Feed.ofResults_events _

namespace Table

variable {t : Table}

/-- The entry that is sent for a row. -/
def sent (t : Table) (id : String) (fields : List Field) : Entry := ⟨id, Row.render fields, t.groupsOf fields⟩

section Sending

variable {id : String} {fields : List Field}

theorem eventOf_fits (entity : String) (fits : t.header.Fits id fields) :
    t.eventOf entity fields = .ok (.update entity t.header (t.sent id fields)) := by
  obtain ⟨rest, rfl, _⟩ := fits
  rfl

theorem sent_written (fits : t.header.Fits id fields) : (t.sent id fields).Written t.header := by
  obtain ⟨rest, rfl, width⟩ := fits
  exact ⟨rest, rfl, width⟩

end Sending

theorem eventOf_rows (entity : String) {rows : List (List Field)} (fit : ∀ fields ∈ rows, ∃ id, t.header.Fits id fields) :
    ∃ entries : List Entry, rows.map (t.eventOf entity) = (entries.map (.update entity t.header ·)).map .ok ∧
      ∀ entry ∈ entries, entry.Written t.header ∧ ∃ fields ∈ rows, entry.groups = t.groupsOf fields := by
  induction rows with
  | nil => exact ⟨[], rfl, List.forall_mem_nil _⟩
  | cons fields rest ih =>
    obtain ⟨entries, sends, written⟩ := ih fun other member => fit other (List.mem_cons_of_mem _ member)
    obtain ⟨id, fits⟩ := fit fields List.mem_cons_self
    refine ⟨t.sent id fields :: entries, ?_, fun other member => ?_⟩
    · rw [List.map_cons, eventOf_fits entity fits, sends]
      rfl
    · rcases List.mem_cons.1 member with rfl | later
      · exact ⟨sent_written fits, fields, List.mem_cons_self, rfl⟩
      · obtain ⟨other_spelled, other_fields, inRest, same⟩ := written other later
        exact ⟨other_spelled, other_fields, List.mem_cons_of_mem _ inRest, same⟩

/-- What is sent of a group value holds this value. -/
theorem Sound.fetch_group (sound : t.Sound) (entity : String) (key : GroupValue) :
    (∃ cause, t.fetch (.group entity key) = .failing cause) ∨
      ∃ entries, t.fetch (.group entity key) =
          .ofEvents (replacing (.reloadGroup entity key.group key.value) entity t.header entries) ∧
        ∀ entry ∈ entries, entry.Written t.header ∧ entry.groups[key.group]? = some key.value := by
  rcases declared : t.groups[key.group]? with _ | place
  · exact .inl ⟨_, by rw [fetch, declared]⟩
  · have fit : ∀ fields ∈ t.rows.values.filter fun fields => fields[place]? = some (some key.value),
        ∃ id, t.header.Fits id fields := fun fields member => sound.values fields (List.mem_filter.1 member).1
    obtain ⟨entries, sends, written⟩ := eventOf_rows entity fit
    refine .inr ⟨entries, ?_, fun entry member => ?_⟩
    · rw [fetch, declared]
      simp only
      rw [sends, ← Feed.ofResults_map]
      rfl
    · obtain ⟨spelled, fields, kept, groups⟩ := written entry member
      have holds : fields[place]? = some (some key.value) := of_decide_eq_true (List.mem_filter.1 kept).2
      refine ⟨spelled, ?_⟩
      rw [groups, groupsOf, Std.ExtTreeMap.getElem?_filterMap, declared]
      simp [holds]

/-- What is sent for some ids: a block, written entries under its columns, and the ids that are gone. -/
theorem Sound.mem_fetch_ids (sound : t.Sound) {entity : String} {ids : Names} {event : Event}
    (sent : .event event ∈ (t.fetch (.ids entity ids)).signals) :
    event = .block entity t.header ∨ (∃ entry : Entry, entry.Written t.header ∧ event = .update entity t.header entry) ∨
      ∃ id, event = .remove entity id := by
  rcases List.mem_cons.1 (Feed.mem_ofResults sent) with block | member
  · cases block
    exact .inl rfl
  · obtain ⟨id, _, answers⟩ := List.mem_map.1 member
    unfold answerFor at answers
    split at answers
    · cases answers
    · split at answers
      · next found =>
        have sends := eventOf_fits entity (sound _ _ found)
        cases sends.symm.trans answers
        exact .inr (.inl ⟨_, sent_written (sound _ _ found), rfl⟩)
      · cases answers
        exact .inr (.inr ⟨_, rfl⟩)

end Table

namespace Recorder

variable {before after : Recorder}

theorem receive_events {signal : Signal} (received : before.receive signal = .ok after) :
    ∀ event ∈ after.events, event ∈ before.events ∨ signal = .event event := by
  intro event member
  cases signal with
  | start =>
    simp only [receive] at received
    split at received
    · cases received
    · cases received
      cases member
  | event new =>
    simp only [receive] at received
    split at received
    · cases received
      rcases List.mem_append.1 member with old | here
      · exact .inl old
      · exact .inr (congrArg Signal.event (List.mem_singleton.1 here).symm)
    · cases received
  | finish =>
    simp only [receive] at received
    split at received
    · cases received
      exact .inl member
    · cases received
  | cancel =>
    cases received
    cases member

theorem receiveAll_events {signals : List Signal} (received : before.receiveAll signals = .ok after) :
    ∀ event ∈ after.events, event ∈ before.events ∨ .event event ∈ signals := by
  induction signals generalizing before with
  | nil =>
    cases received
    exact fun event member => .inl member
  | cons signal rest ih =>
    rw [receiveAll] at received
    rcases first : before.receive signal with cause | next
    · rw [first] at received
      cases received
    · rw [first] at received
      intro event member
      rcases ih received event member with earlier | later
      · rcases receive_events first event earlier with old | rfl
        · exact .inl old
        · exact .inr List.mem_cons_self
      · exact .inr (List.mem_cons_of_mem _ later)

end Recorder

/-- What is collected from a feed was sent by it. -/
theorem Origin.mem_collect {feed : Feed} {entity : String} {entries : List Entry} (collects : collect feed entity = .ok entries) :
    ∀ entry ∈ entries, ∃ header, .event (.update entity header entry) ∈ feed.signals := by
  unfold collect at collects
  split at collects
  · cases collects
  · next recorder recorded =>
    split at collects
    · cases collects
    · split at collects
      · cases collects
      · next last finished =>
        cases collects
        intro entry member
        obtain ⟨event, held, picked⟩ := List.mem_filterMap.1 member
        have sent : .event event ∈ feed.signals := by
          rcases Recorder.receive_events finished event held with earlier | absurd
          · rcases Recorder.receiveAll_events recorded event earlier with nothing | sent
            · cases nothing
            · rcases List.mem_cons.1 sent with absurd | sent
              · cases absurd
              · exact sent
          · cases absurd
        split at picked
        · split at picked
          · next same =>
            cases picked
            exact ⟨_, same ▸ sent⟩
          · cases picked
        · cases picked

/-- A row holds only an id, which it claims to be gone, or it claims an entry as wide as the columns. -/
theorem Claims.entryOf_cases {settings : OriginSettings} {entity : String} {header : Header} {row : String}
    {claim : String × Option Entry} (reads : entryOf settings entity header row = .ok claim) :
    Row.split row = .ok [some claim.1] ∧ claim.2 = none ∨
      ∃ rest entry, Row.split row = .ok (some claim.1 :: rest) ∧ rest ≠ [] ∧ claim.2 = some entry ∧ entry.id = claim.1 ∧
        entry.row = Row.render (some claim.1 :: rest) ∧ rest.length + 1 = header.width := by
  unfold entryOf at reads
  split at reads
  · cases reads
  · next id splits =>
    cases reads
    exact .inl ⟨splits, rfl⟩
  · next id rest solid splits =>
    split at reads
    · next width =>
      obtain ⟨entry, completes, rfl⟩ := map_ok reads
      have filled := OriginSettings.complete_filled completes
      exact .inr ⟨rest, entry, splits, fun none => solid (none ▸ rfl), rfl, filled.id, filled.row, width⟩
    · cases reads
  · cases reads

/-- What rows of a transport assert is written, whatever quotes they had. -/
theorem Claims.ofRows_written {settings : OriginSettings} {entity : String} {header : Header} {rows : List String} {claims : Claims}
    (claimed : ofRows settings entity header rows = .ok claims) : ∀ entry ∈ claims.entries, entry.Written header := by
  obtain ⟨read, all, claimed⟩ := bind_ok claimed
  cases claimed
  intro entry member
  obtain ⟨claim, inRead, picked⟩ := List.mem_filterMap.1 member
  obtain ⟨row, _, reads⟩ := mapM_ok all _ inRead
  rcases entryOf_cases reads with ⟨_, none⟩ | ⟨rest, filled, _, _, asserted, id, spelled, width⟩
  · cases none.symm.trans picked
  · cases asserted.symm.trans picked
    exact ⟨rest, id ▸ spelled, width⟩

end ReferenceFeed
