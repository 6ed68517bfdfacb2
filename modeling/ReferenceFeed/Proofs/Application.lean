import ReferenceFeed.Proofs.Attendance

namespace ReferenceFeed

/-!
What a payload comes to at a replica. It is refused and nothing has happened, or one of its records cannot be converted
and the life of the replica ends with what readers saw before, or all of its records take effect in written order.
-/

/-- A failed conversion is blamed on an entity. -/
def Failure.blaming (entity : String) : Failure → Failure
  | .conversion _ id reason => .conversion entity id reason
  | cause => cause

/-- Records after one more record of a payload. What cannot be converted changes nothing. -/
def Record.enter {ρ : Type} (convert : Converter ρ) (header : Header) (records : Keyed ρ) : Record → Keyed ρ
  | .update entry =>
    match convert header entry with
    | .ok record => records.insert entry.id record
    | .error _ => records
  | .remove id => records.erase id

/-- All updates among some records can be converted. -/
def Convertible {ρ : Type} (convert : Converter ρ) (header : Header) (records : List Record) : Prop :=
  ∀ entry, .update entry ∈ records → ∃ record, convert header entry = .ok record

namespace Committed

variable {ρ : Type} (c : Committed ρ) (s : Staging ρ)

theorem records_commit_update (entry : Entry) (record : ρ) :
    (c.commit (s.update entry record)).1.records = (c.commit s).1.records.insert entry.id record := by
  refine Std.ExtTreeMap.ext_getElem? fun {id} => ?_
  simp only [getElem?_commit, Staging.update, Keyed.getElem?_insert, Names.mem_erase]
  by_cases same : entry.id = id
  · rw [if_pos same, if_pos same]
    rfl
  · simp only [if_neg same, ne_eq, Ne.symm same, not_false_eq_true, true_and]

theorem records_commit_remove (gone : String) :
    (c.commit (s.remove gone)).1.records = (c.commit s).1.records.erase gone := by
  refine Std.ExtTreeMap.ext_getElem? fun {id} => ?_
  simp only [getElem?_commit, Staging.remove, Keyed.getElem?_erase, Names.mem_insert]
  by_cases same : gone = id
  · simp [same]
  · simp only [if_neg same, Ne.symm same, false_or]

/-- Where nothing has been staged, a commit leaves the records as they are, or none if all are replaced. -/
theorem records_commit_begun (whole : Bool) (header : Option Header) :
    (c.commit { scope := if whole then .everything else .mentioned, header }).1.records = if whole then ∅ else c.records := by
  refine Std.ExtTreeMap.ext_getElem? fun {id} => ?_
  rw [getElem?_commit]
  cases whole with
  | false => simp [within]
  | true =>
    rcases there : c.records[id]? with _ | old <;> simp [within, Keyed.mem_names, there]

end Committed

namespace Replica

variable {ρ ω : Type} {r : Replica ρ ω} {header : Header} {entry : Entry}

theorem converted_of_ok {record : ρ} (converts : r.convert header entry = .ok record) : r.converted header entry = .ok record := by
  rw [converted, converts]
  rfl

theorem converted_of_error {cause : Failure} (fails : r.convert header entry = .error cause) :
    r.converted header entry = .error (cause.blaming r.entity) := by
  rw [converted, fails]
  cases cause <;> rfl

/-- Records that can all be converted are staged so that a commit applies them in their order. -/
theorem stages_records (entity : String) {records : List Record} (converts : Convertible r.convert header records) (s : Staging ρ) :
    ∃ next, (records.map (Payload.eventOf entity header)).foldlM r.stage s = .ok next ∧ next.header = s.header ∧
      ∀ c : Committed ρ, (c.commit next).1.records = records.foldl (Record.enter r.convert header) (c.commit s).1.records := by
  induction records generalizing s with
  | nil => exact ⟨s, rfl, rfl, fun _ => rfl⟩
  | cons record rest ih =>
    have later : Convertible r.convert header rest := fun entry member => converts entry (List.mem_cons_of_mem _ member)
    rw [List.map_cons, List.foldlM_cons]
    cases record with
    | update entry =>
      obtain ⟨record, converted⟩ := converts entry List.mem_cons_self
      have staged : r.stage s (Payload.eventOf entity header (.update entry)) = .ok (s.update entry record) := by
        rw [Payload.eventOf, stage, converted_of_ok converted]
        rfl
      obtain ⟨next, stages, same, commits⟩ := ih later (s.update entry record)
      refine ⟨next, by rw [staged]; exact stages, same, fun c => ?_⟩
      rw [commits, Committed.records_commit_update, List.foldl_cons, Record.enter, converted]
    | remove id =>
      obtain ⟨next, stages, same, commits⟩ := ih later (s.remove id)
      refine ⟨next, stages, same, fun c => ?_⟩
      rw [commits, Committed.records_commit_remove, List.foldl_cons, Record.enter]

/-- The first record that cannot be converted ends the staging. -/
theorem stages_until (entity : String) {before after : List Record} {cause : Failure}
    (converts : Convertible r.convert header before) (fails : r.convert header entry = .error cause) (s : Staging ρ) :
    ((before ++ .update entry :: after).map (Payload.eventOf entity header)).foldlM r.stage s =
      .error (cause.blaming r.entity) := by
  obtain ⟨next, stages, _⟩ := stages_records entity converts s
  have refused : r.stage next (Payload.eventOf entity header (.update entry)) = .error (cause.blaming r.entity) := by
    rw [Payload.eventOf, stage, converted_of_error fails]
    rfl
  rw [List.map_append, List.foldlM_append, stages, List.map_cons]
  change ((Payload.eventOf entity header (.update entry)) :: _).foldlM r.stage next = _
  rw [List.foldlM_cons, refused]
  rfl

/-- The events of a payload come to those of its records, with everything replaced or nothing. -/
theorem stages_payload (payload : Payload) (entity : String) (whole : Bool) :
    (payload.events entity whole).foldlM r.stage {} = (payload.records.map (Payload.eventOf entity payload.header)).foldlM r.stage
      { scope := if whole then .everything else .mentioned, header := some payload.header } := by
  cases whole <;> rfl

section Payload

variable {text : String} {whole : Bool} {payload : Payload}

/-- A record that cannot be converted ends the life of a replica, which is blamed on its entity. -/
theorem applyPayload_breaks (idle : r.phase = .idle) (read : Payload.read text = .ok payload) {before after : List Record}
    {cause : Failure} (split : payload.records = before ++ .update entry :: after)
    (converts : Convertible r.convert payload.header before) (fails : r.convert payload.header entry = .error cause) :
    ∃ notices, r.applyPayload text whole =
      ⟨.error (cause.blaming r.entity), { r with phase := .poisoned }, none, notices⟩ := by
  have refused : (payload.events r.entity whole).foldlM r.stage {} = .error (cause.blaming r.entity) := by
    rw [stages_payload, split]
    exact stages_until r.entity converts fails _
  rcases applyPayload_idle idle read whole with ⟨staging, staged, _⟩ | ⟨other, notices, failed, broken⟩
  · rw [refused] at staged
    cases staged
  · rw [refused] at failed
    cases failed
    exact ⟨notices, broken⟩

/-- Records that can all be converted are committed in their order. -/
theorem applyPayload_applies (idle : r.phase = .idle) (read : Payload.read text = .ok payload)
    (converts : Convertible r.convert payload.header payload.records) :
    ∃ staging, r.applyPayload text whole = r.committing staging ∧ (r.committing staging).replica.live.header = some payload.header ∧
      (r.committing staging).replica.live.records =
        payload.records.foldl (Record.enter r.convert payload.header) (if whole then ∅ else r.live.records) := by
  obtain ⟨next, stages, header, commits⟩ := stages_records r.entity converts
    { scope := if whole then .everything else .mentioned, header := some payload.header }
  rw [← stages_payload] at stages
  refine ⟨next, applyPayload_staged idle read stages, ?_, (commits r.live).trans ?_⟩
  · change (next.header <|> r.live.header) = _
    rw [header]
    rfl
  · rw [Committed.records_commit_begun]

end Payload

end Replica

namespace Station

variable {ρ : Type}

/-- A payload whose records can all be converted is applied, whatever observers make of it. -/
theorem act_payload (react : Reaction ρ) {s : Station ρ} {text : String} (whole : Bool) {payload : Payload}
    (idle : s.replica.phase = .idle) (read : Payload.read text = .ok payload)
    (converts : Convertible s.replica.convert payload.header payload.records) :
    ∃ t, act react (.arrive (.payload text whole)) s = (.ok (), t) ∧ t.replica.phase = .idle ∧
      t.replica.live.header = some payload.header ∧
      t.replica.live.records = payload.records.foldl (Record.enter s.replica.convert payload.header)
        (if whole then ∅ else s.replica.live.records) := by
  obtain ⟨staging, applied, header, records⟩ := Replica.applyPayload_applies idle read converts
  rcases acts : act react (.arrive (.payload text whole)) s with ⟨answer, t⟩
  obtain ⟨log, _, rfl, rfl⟩ := act_arrive acts
  rw [Replica.take, applied]
  exact ⟨_, rfl, rfl, header, records⟩

/-- A payload takes effect as a whole or not at all. One that cannot be read or comes at the wrong time is refused, and
nothing has happened. The first record that cannot be converted is reported and ends the life of the replica, and that is
all that changes. Otherwise its records are applied in written order, to what there was or to nothing. -/
theorem payload_all_or_nothing (react : Reaction ρ) (s : Station ρ) (text : String) (whole : Bool) :
    (∀ cause, Payload.read text = .error cause →
      act react (.arrive (.payload text whole)) s = (.error (.failure cause), s)) ∧
    ∀ payload, Payload.read text = .ok payload →
      (∀ staging, s.replica.phase = .opened staging →
        act react (.arrive (.payload text whole)) s = (.error (.failure (.violation .startWhileOpen)), s)) ∧
      (s.replica.phase = .poisoned →
        act react (.arrive (.payload text whole)) s = (.error (.failure (.poisoned (.refusing s.replica.entity))), s)) ∧
      (s.replica.phase = .idle →
        (∀ before entry after cause, payload.records = before ++ .update entry :: after →
          Convertible s.replica.convert payload.header before → s.replica.convert payload.header entry = .error cause →
          act react (.arrive (.payload text whole)) s =
            (.error (.failure (cause.blaming s.replica.entity)), { s with replica := { s.replica with phase := .poisoned } })) ∧
        (Convertible s.replica.convert payload.header payload.records →
          ∃ t, act react (.arrive (.payload text whole)) s = (.ok (), t) ∧ t.replica.phase = .idle ∧
            t.replica.live.header = some payload.header ∧
            t.replica.live.records = payload.records.foldl (Record.enter s.replica.convert payload.header)
              (if whole then ∅ else s.replica.live.records))) := by
  refine ⟨fun cause unread => ?_, fun payload read => ⟨fun staging opened => ?_, fun poisoned => ?_, fun idle => ⟨?_, act_payload react whole idle read⟩⟩⟩
  · exact act_untold (show s.replica.take (.payload text whole) = ⟨.error cause, s.replica, none, []⟩ by
      simp only [Replica.take, Replica.applyPayload, unread])
  · exact act_untold (show s.replica.take (.payload text whole) = ⟨.error (.violation .startWhileOpen), s.replica, none, []⟩ by
      simp only [Replica.take, Replica.applyPayload, read, Replica.start, opened])
  · exact act_untold (show s.replica.take (.payload text whole) = ⟨.error s.replica.refusal, s.replica, none, []⟩ by
      simp only [Replica.take, Replica.applyPayload, read, Replica.start, poisoned])
  · intro before entry after cause split converts fails
    obtain ⟨notices, broken⟩ := Replica.applyPayload_breaks idle read split converts fails
    exact act_untold (show s.replica.take (.payload text whole) = _ from broken)

/-- The columns of names. -/
def keyAndName : Header := ⟨["id", "name"], rfl, by decide, by decide⟩

/-- A converter that keeps rows, and does not accept one of them. -/
def choosy : Converter String := fun _ entry =>
  if entry.row = "3,bad" then .error (.conversion "" entry.id "bad is refused") else .ok entry.row

/-- A replica with two rows. -/
def supplied : Station String where
  replica := { settings := { entity := "e" }, convert := choosy, live := { records := .ofList [("1", "1,x"), ("2", "2,y")] } }

theorem payload_all_or_nothing_interleaved :
    (∃ t, act .calm (.arrive (.payload "id,name\n1\n1,z\n2,z\n2" false)) supplied = (.ok (), t) ∧
      t.replica.live.records = (∅ : Keyed String).insert "1" "1,z") ∧
    act .calm (.arrive (.payload "id,name\n1,z\n3,bad\n2" false)) supplied =
      (.error (.failure (.conversion "e" "3" "bad is refused")),
        { supplied with replica := { supplied.replica with phase := .poisoned } }) ∧
    act .calm (.arrive (.payload "" false)) supplied = (.error (.failure (.encoding .noHeaderLine)), supplied) := by
  have spoken : Payload.read "id,name\n1\n1,z\n2,z\n2" =
      .ok ⟨keyAndName, [.remove "1", .update ⟨"1", "1,z", ∅⟩, .update ⟨"2", "2,z", ∅⟩, .remove "2"]⟩ := by decide +kernel
  have broken : Payload.read "id,name\n1,z\n3,bad\n2" =
      .ok ⟨keyAndName, [.update ⟨"1", "1,z", ∅⟩] ++ .update ⟨"3", "3,bad", ∅⟩ :: [.remove "2"]⟩ := by decide +kernel
  obtain ⟨_, _, applies⟩ := (payload_all_or_nothing .calm supplied "id,name\n1\n1,z\n2,z\n2" false).2 _ spoken
  obtain ⟨_, _, breaks⟩ := (payload_all_or_nothing .calm supplied "id,name\n1,z\n3,bad\n2" false).2 _ broken
  refine ⟨?_, ?_, (payload_all_or_nothing .calm supplied "" false).1 _ (by decide +kernel)⟩
  · obtain ⟨t, acts, _, _, records⟩ := (applies rfl).2 (by simp [Convertible, supplied, choosy])
    exact ⟨t, acts, records.trans (by decide +kernel)⟩
  · exact (breaks rfl).1 _ _ _ _ rfl (by simp [Convertible, supplied, choosy]) rfl

end Station

end ReferenceFeed
