import ReferenceFeed.Proofs.Remote
import ReferenceFeed.Proofs.Settlement

namespace ReferenceFeed

/-!
What the messages of a commit say to somebody who knows the rows from before: of each entity there is one message, or
none, and it takes these rows to the rows after the commit.
-/

/-- The rows of an entity, by id. -/
def rowsOf (store : Option Store) : Keyed String := ((store.map Store.entries).getD ∅).map fun _ entry => entry.row

/-- Rows after one more record of a payload. -/
def Record.amend (rows : Keyed String) : Record → Keyed String
  | .update entry => rows.insert entry.id entry.row
  | .remove id => rows.erase id

/-- A message that can be read, and whose records lead from some rows to others. -/
def Message.Carries (message : Message) (before after : Keyed String) : Prop :=
  ∃ payload, Payload.read message.payload = .ok payload ∧
    payload.records.foldl Record.amend (if message.whole then ∅ else before) = after

/-- One message that carries the change of some rows, or none, and no change. -/
def Relate (before after : Keyed String) : List Message → Prop
  | [] => after = before
  | [message] => message.Carries before after
  | _ => False

/-- An entry that was made of fields, one for each column. Its groups were given to it later. -/
def Entry.Made (header : Header) (entry : Entry) : Prop :=
  ∃ fields, Entry.ofFields fields = .ok entry.bare ∧ fields.length = header.width

theorem Entry.Made.written {header : Header} {entry : Entry} (made : entry.Made header) : entry.Written header := by
  obtain ⟨fields, made, width⟩ := made
  unfold ofFields at made
  split at made
  · next id rest =>
    have same : entry.bare = ⟨id, Row.render (some id :: rest), ∅⟩ := (Except.ok.inj made).symm
    have row : entry.row = Row.render (some id :: rest) := congrArg Entry.row same
    have own : entry.id = id := congrArg Entry.id same
    exact ⟨rest, own ▸ row, width⟩
  · cases made

namespace Store

/-- The rows of some entries after records are those of the entries after the events that the records stand for. -/
theorem foldl_amend (entity : String) (header : Header) (records : List Record) (entries : Keyed Entry) :
    records.foldl Record.amend (entries.map fun _ entry => entry.row) =
      (amendAll entries (records.map (Payload.eventOf entity header))).map fun _ entry => entry.row := by
  induction records generalizing entries with
  | nil => rfl
  | cons record rest ih =>
    have step : record.amend (entries.map fun _ entry => entry.row) =
        ((Payload.eventOf entity header record).amend entries).map fun _ entry => entry.row := by
      refine Std.ExtTreeMap.ext_getElem? fun {id} => ?_
      cases record with
      | update entry =>
        simp only [Record.amend, Payload.eventOf, Event.amend, Std.ExtTreeMap.getElem?_map, Keyed.getElem?_insert]
        split <;> rfl
      | remove gone =>
        simp only [Record.amend, Payload.eventOf, Event.amend, Std.ExtTreeMap.getElem?_map, Keyed.getElem?_erase]
        split <;> rfl
    rw [List.foldl_cons, step, ih]
    rfl

theorem rowsOf_bare (store : Store) : rowsOf (some store.bare) = rowsOf (some store) := Std.ExtTreeMap.map_map

variable {store old new : Store} {entity : String}

/-- The whole content carries all rows. -/
theorem Legible.carries_whole (legible : store.Legible) (sound : store.Sound) (before : Keyed String) :
    Message.Carries ⟨entity, store.render, true⟩ before (rowsOf (some store)) := by
  refine ⟨_, legible.read_render, ?_⟩
  obtain ⟨made, same, _, _, entries⟩ := sound.bare.settles_snapshot
  cases same
  have records : (store.all.map (fun entry : Entry => Record.update entry.bare) ++ ([] : List String).map Record.remove).map
      (Payload.eventOf store.entity store.header) = store.bare.all.map (.update store.entity store.header ·) := by
    rw [all_bare]
    simp [Payload.eventOf, Function.comp_def]
  have nothing : (∅ : Keyed String) = (∅ : Keyed Entry).map fun _ entry => entry.row := by
    refine Std.ExtTreeMap.ext_getElem? fun {id} => ?_
    simp
  change List.foldl Record.amend ∅ _ = _
  rw [nothing, foldl_amend store.entity store.header, records, ← rowsOf_bare, rowsOf, Option.map_some, entries]
  rfl

/-- What was updated and removed carries the change. -/
theorem Revised.carries {updated removed : Names} (revised : old.Revised new updated removed) (sound : new.Sound)
    (legible : new.Legible) :
    Message.Carries ⟨entity, new.renderSubset updated removed, false⟩ (rowsOf (some old)) (rowsOf (some new)) := by
  refine ⟨_, legible.read_renderSubset sound updated removed, ?_⟩
  have records : ((new.subset updated).map (fun entry : Entry => Record.update entry.bare) ++ removed.toList.map Record.remove).map
      (Payload.eventOf entity new.header) =
        (new.bare.subset updated).map (.update entity new.header ·) ++ removed.toList.map (.remove entity ·) := by
    rw [subset_bare]
    simp [Payload.eventOf, Function.comp_def]
  have settled : new.bare.entries = amendAll old.bare.entries ((new.bare.subset updated).map (.update entity new.header ·) ++
      removed.toList.map (.remove entity ·)) := by
    rw [← entries_apply]
    exact Std.ExtTreeMap.ext_getElem? fun {id} => (revised.bare.get?_apply_subset sound.bare.own id).symm
  change List.foldl Record.amend (rowsOf (some old)) _ = _
  rw [← rowsOf_bare old, ← rowsOf_bare new, rowsOf, Option.map_some, Option.getD_some, foldl_amend entity new.header, records,
    ← settled]
  rfl

/-- A revision is announced, unless there is none. -/
theorem Revised.relates {updated removed : Names} (revised : old.Revised new updated removed) (sound : new.Sound)
    (legible : new.Legible) :
    Relate (rowsOf (some old)) (rowsOf (some new)) (Prepared.announce entity new updated removed).messages := by
  unfold Prepared.announce
  split
  · next nothing =>
    rw [Bool.and_eq_true, Std.ExtTreeSet.isEmpty_iff, Std.ExtTreeSet.isEmpty_iff] at nothing
    obtain ⟨rfl, rfl⟩ := nothing
    have kept : new.entries = old.entries := Std.ExtTreeMap.ext_getElem? fun {id} =>
      revised.kept id Std.ExtTreeSet.not_mem_empty Std.ExtTreeSet.not_mem_empty
    change rowsOf (some new) = rowsOf (some old)
    rw [rowsOf, rowsOf, Option.map_some, kept]
    rfl
  · exact revised.carries sound legible

end Store

/-- The messages about an entity relate what it was to what a commit makes of it. -/
theorem Stages.Reflect.relates {live : Keyed Store} {stages : Stages} {taken : List Event}
    (reflect : Stages.Reflect live stages taken) (stores : SoundStores live) {entity : String}
    (legible : ∀ store, stages.settled live entity = some store → store.Legible) :
    Relate (rowsOf live[entity]?) (rowsOf (stages.settled live entity))
      ((stages.messages live).filter fun message => message.entity = entity) := by
  rw [filter_messages]
  rw [settled] at legible ⊢
  have reflects := reflect entity
  generalize stages[entity]? = stage at reflects legible ⊢
  generalize concerning entity taken = events at reflects
  cases reflects with
  | untouched => exact rfl
  | @whole header scratch begun rest named columns sound => exact (legible scratch rfl).carries_whole sound _
  | @group key entries begun rest store alive folded =>
    have own : OwnIds entries := folded ▸ OwnIds.empty.amendAll rest
    have sound := (stores entity store alive).2.replaceGroup key entries.values
    rw [alive] at legible ⊢
    exact (store.revised_replaceGroup key own).relates sound (legible _ rfl)
  | @sparse updates removes rest store alive own apart =>
    have sound := (stores entity store alive).2.apply updates.values removes
    rw [alive] at legible ⊢
    exact (store.revised_apply own apart).relates sound (legible _ rfl)

namespace Site

variable {c : Conduct} {s₀ s t : Site} {number : Nat} {owner thread : Thread} {steps : List Step} {answer : Answer}

/-- A commit publishes, for each entity whose entries were and are made of fields, one for each of two or more columns,
what takes the rows from before the transaction to the rows after it, in one message or in none. -/
theorem Reachable.published_relates (reach : Reachable c s₀) (transacting : Transacting c owner number s₀ steps s)
    (commits : act c thread (.call number .finish) s = (.ok answer, t)) :
    ∃ messages, t.published = s₀.published ++ messages ∧ ∀ entity : String,
      (∀ store, t.origin.live[entity]? = some store → 2 ≤ store.header.width) →
      (∀ store id entry, s₀.origin.live[entity]? = some store → store.get? id = some entry → entry.Made store.header) →
      (∀ store header entry, t.origin.live[entity]? = some store →
        .update entity header entry ∈ takenIn s₀.origin.settings number steps → entry.Made store.header) →
      Relate (rowsOf s₀.origin.live[entity]?) (rowsOf t.origin.live[entity]?)
        (messages.filter fun message => message.entity = entity) := by
  obtain ⟨_, _, under⟩ := reach.sound.transacting transacting
  obtain ⟨_, landed⟩ := under.finish_answered commits
  obtain ⟨stages, reflect, settled, sent⟩ := landed.applied.stores
  refine ⟨_, sent, fun entity wide old new => ?_⟩
  have sound : ∀ store, s₀.origin.live[entity]? = some store → store.Sound := fun store found =>
    (reach.sound.stores entity store found).2
  have settles := reflect.settles sound
  rw [settled] at wide new ⊢
  refine reflect.relates reach.sound.stores fun store alive => ⟨wide store alive, fun id entry found => ?_⟩
  rcases settles.origin alive found with ⟨entity', header, member⟩ | ⟨before, was, columns, there⟩
  · obtain ⟨inside, here⟩ := List.mem_filter.1 member
    have same : entity' = entity := of_decide_eq_true here
    exact (new store header entry alive (same ▸ inside)).written
  · rw [columns]
    exact (old before id entry was there).written

theorem published_relates_brought : ∃ messages, (committed 0).published = messages ∧
    Relate (rowsOf none) (rowsOf (committed 0).origin.live["e"]?) (messages.filter fun message => message.entity = "e") := by
  obtain ⟨messages, sent, relates⟩ := handled_reachable.published_relates transacting_brought
    (show act .quiet 0 (.call 0 .finish) (brought 0).2 = (.ok .done, committed 0) from rfl)
  have columns : (committed 0).origin.live["e"]?.map Store.header = some keyAndValue := by decide
  have taken : takenIn handled.origin.settings 0 (brought 0).1 =
      [.reload "e" keyAndValue, .block "e" keyAndValue, .update "e" keyAndValue ⟨"1", "1,x", ∅⟩] := by decide
  refine ⟨messages, sent, relates "e" (fun store alive => ?_) (fun _ _ _ nothing => by cases nothing) ?_⟩
  · rw [alive] at columns
    rw [Option.some.inj columns]
    decide
  · intro store header entry alive member
    rw [alive] at columns
    rw [taken] at member
    have same : header = keyAndValue ∧ entry = ⟨"1", "1,x", ∅⟩ := by simpa using member
    rw [Option.some.inj columns, same.2]
    exact ⟨[some "1", some "x"], rfl, rfl⟩

end Site

end ReferenceFeed
