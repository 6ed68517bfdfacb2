import Mathlib.Data.List.Induction
import ReferenceFeed.Proofs.Attendance

namespace ReferenceFeed

/-!
What a replica makes of a transaction. Nothing is seen of it before it is finished; then the last word counts for
every id, and readers, members of groups and observers learn of the same change.
-/

namespace Event

/-- Whether an event decides anew about an id. -/
def overrides (id : String) : Event → Bool
  | .reload _ _ => true
  | .update _ _ entry => entry.id = id
  | .remove _ gone => gone = id
  | .reloadGroup _ _ _ | .block _ _ => false

def updates (id : String) : Event → Bool
  | .update _ _ entry => entry.id = id
  | .reload _ _ | .reloadGroup _ _ _ | .block _ _ | .remove _ _ => false

/-- Whether an id is taken out by an event, unless it is updated after that. -/
def TakesOut (held : GroupValue → Names) (id : String) : Event → Prop
  | .reload _ _ => True
  | .reloadGroup _ group value => id ∈ held ⟨group, value⟩
  | .remove _ gone => gone = id
  | .update _ _ _ | .block _ _ => False

theorem overrides_of_updates {id : String} {event : Event} (updates : event.updates id = true) : event.overrides id = true := by
  cases event with
  | update => exact updates
  | reload | reloadGroup | block | remove => cases updates

end Event

/-- The last update that some events have for an id, if nothing undoes it later. -/
def LastUpdate (undoes : String → Event → Bool) (events : List Event) (header : Header) (entry : Entry) : Prop :=
  ∃ before entity later, events = before ++ .update entity header entry :: later ∧
    ∀ event ∈ later, undoes entry.id event = false

/-- An update that no later removal, reload or update takes back. -/
abbrev Survives : List Event → Header → Entry → Prop := LastUpdate Event.overrides

section LastUpdate

variable {undoes : String → Event → Bool} {events : List Event} {event : Event} {header : Header} {entry : Entry}

theorem not_lastUpdate_nil : ¬LastUpdate undoes [] header entry := by
  rintro ⟨before, entity, later, split, _⟩
  exact absurd split.symm (List.append_ne_nil_of_right_ne_nil before (List.cons_ne_nil _ later))

theorem lastUpdate_concat : LastUpdate undoes (events ++ [event]) header entry ↔
    (∃ entity, event = .update entity header entry) ∨
      LastUpdate undoes events header entry ∧ undoes entry.id event = false := by
  constructor
  · rintro ⟨before, entity, later, split, spared⟩
    rcases List.eq_nil_or_concat later with rfl | ⟨front, last, rfl⟩
    · exact .inl ⟨entity, (List.append_inj' split rfl).2 |> List.singleton_inj.1⟩
    · rw [List.concat_eq_append, ← List.cons_append, ← List.append_assoc] at split
      obtain ⟨rfl, same⟩ := List.append_inj' split rfl
      cases same
      refine .inr ⟨⟨before, entity, front, rfl, fun other member => ?_⟩, ?_⟩
      · exact spared other (List.concat_eq_append ▸ List.mem_append_left _ member)
      · exact spared event (List.concat_eq_append ▸ List.mem_append_right _ (List.mem_singleton_self _))
  · rintro (⟨entity, rfl⟩ | ⟨⟨before, entity, later, rfl, spared⟩, kept⟩)
    · exact ⟨events, entity, [], rfl, List.forall_mem_nil _⟩
    · refine ⟨before, entity, later ++ [event], by simp, fun other member => ?_⟩
      rcases List.mem_append.1 member with old | new
      · exact spared other old
      · rw [List.mem_singleton.1 new]
        exact kept

/-- There is one last update of an id at most. -/
theorem LastUpdate.unique (own : ∀ entity header entry, undoes entry.id (.update entity header entry) = true)
    (last : LastUpdate undoes events header entry) {otherHeader : Header} {other : Entry}
    (alike : LastUpdate undoes events otherHeader other) (same : other.id = entry.id) : otherHeader = header ∧ other = entry := by
  induction events using List.reverseRecOn with
  | nil => exact absurd last not_lastUpdate_nil
  | append_singleton events event ih =>
    rcases lastUpdate_concat.1 last with ⟨entity, rfl⟩ | ⟨last, kept⟩ <;>
      rcases lastUpdate_concat.1 alike with ⟨_, here⟩ | ⟨alike, spared⟩
    · cases here
      exact ⟨rfl, rfl⟩
    · rw [same, own] at spared
      cases spared
    · rw [here, ← same, own] at kept
      cases kept
    · exact ih last alike

/-- A last update is the last one of more events too, if none of those undoes it. -/
theorem LastUpdate.append (last : LastUpdate undoes events header entry) {more : List Event}
    (spared : ∀ event ∈ more, undoes entry.id event = false) : LastUpdate undoes (events ++ more) header entry := by
  obtain ⟨before, entity, later, rfl, kept⟩ := last
  refine ⟨before, entity, later ++ more, by simp, fun event member => ?_⟩
  rcases List.mem_append.1 member with old | new
  · exact kept event old
  · exact spared event new

theorem LastUpdate.after (last : LastUpdate undoes events header entry) (earlier : List Event) :
    LastUpdate undoes (earlier ++ events) header entry := by
  obtain ⟨before, entity, later, rfl, kept⟩ := last
  exact ⟨earlier ++ before, entity, later, by simp, kept⟩

/-- An id that is updated either survives or is taken out again. -/
theorem survives_or_taken {id : String} (held : GroupValue → Names) (updated : ∃ event ∈ events, event.updates id = true) :
    (∃ header entry, Survives events header entry ∧ entry.id = id) ∨ ∃ event ∈ events, event.TakesOut held id := by
  induction events using List.reverseRecOn with
  | nil => simp at updated
  | append_singleton events event ih =>
    by_cases decides : event.overrides id = true
    · cases event with
      | update entity header entry =>
        exact .inl ⟨header, entry, lastUpdate_concat.2 (.inl ⟨entity, rfl⟩), of_decide_eq_true decides⟩
      | reload => exact .inr ⟨_, List.mem_append_right _ (List.mem_singleton_self _), trivial⟩
      | remove entity gone =>
        have same : gone = id := of_decide_eq_true decides
        exact .inr ⟨.remove entity gone, List.mem_append_right _ (List.mem_singleton_self _), same⟩
      | reloadGroup | block => cases decides
    · have spares : event.overrides id = false := Bool.eq_false_iff.2 decides
      obtain ⟨updating, member, updates⟩ := updated
      have earlier : updating ∈ events := by
        rcases List.mem_append.1 member with old | new
        · exact old
        · rw [List.mem_singleton.1 new] at updates
          exact absurd (Event.overrides_of_updates updates) decides
      rcases ih ⟨updating, earlier, updates⟩ with ⟨header, entry, survives, rfl⟩ | ⟨taking, old, takes⟩
      · exact .inl ⟨header, entry, lastUpdate_concat.2 (.inr ⟨survives, spares⟩), rfl⟩
      · exact .inr ⟨taking, List.mem_append_left _ old, takes⟩

end LastUpdate

namespace Committed

variable {ρ : Type} {c : Committed ρ} {id : String}

theorem mem_within_groups {keys : List GroupValue} :
    id ∈ c.within (.groups keys) ↔ ∃ key ∈ keys, id ∈ c.membership.of key := by
  have all : ∀ ids : Names, id ∈ keys.foldl (fun ids key => ids ∪ c.membership.of key) ids ↔
      id ∈ ids ∨ ∃ key ∈ keys, id ∈ c.membership.of key := by
    induction keys with
    | nil => simp
    | cons key rest ih =>
      intro ids
      rw [List.foldl_cons, ih, Std.ExtTreeSet.mem_union_iff, or_assoc]
      simp only [List.mem_cons, or_and_right, exists_or, exists_eq_left]
  rw [within, all]
  simp

theorem mem_within_everything : id ∈ c.within .everything ↔ c.records[id]?.isSome = true := Keyed.mem_names

/-- One more group is replaced, or everything was replaced anyway. -/
theorem mem_within_reloadGroup (staging : Staging ρ) (key : GroupValue) (present : c.records[id]?.isSome = true) :
    id ∈ c.within (staging.reloadGroup key).scope ↔ id ∈ c.within staging.scope ∨ id ∈ c.membership.of key := by
  unfold Staging.reloadGroup
  rcases scope : staging.scope with _ | _ | keys
  · simp only [mem_within_groups, List.mem_singleton, exists_eq_left]
    simp [within]
  · simp only [scope, mem_within_everything, present, true_or]
  · simp only [mem_within_groups, List.mem_append, List.mem_singleton, or_and_right, exists_or, exists_eq_left]

end Committed

/-- What is staged is what the events of a transaction have brought. -/
structure Brought {ρ : Type} (convert : Converter ρ) (events : List Event) (staging : Staging ρ) : Prop where
  survives : ∀ (id : String) (record : ρ) (groups : Keyed String), staging.updated[id]? = some (record, groups) →
    ∃ header entry, Survives events header entry ∧ entry.id = id ∧ entry.groups = groups ∧ convert header entry = .ok record
  updated : ∀ header entry, Survives events header entry →
    ∃ record, convert header entry = .ok record ∧ staging.updated[entry.id]? = some (record, entry.groups)
  taken : ∀ (c : Committed ρ) (id : String), staging.updated[id]? = none → c.records[id]?.isSome = true →
    ((id ∈ staging.removed ∨ id ∈ c.within staging.scope) ↔ ∃ event ∈ events, event.TakesOut c.membership.of id)

section Brought

variable {ρ ω : Type} {convert : Converter ρ} {r : Replica ρ ω} {staging next : Staging ρ} {events : List Event} {event : Event}

theorem brought_nil : Brought convert [] {} where
  survives id record groups found := by cases Std.ExtTreeMap.getElem?_empty.symm.trans found
  updated header entry survives := absurd survives not_lastUpdate_nil
  taken c id _ _ := by simp [Committed.within]

/-- An event that decides about no id leaves the updates as they are. -/
theorem Brought.undecided (brought : Brought convert events staging) (silent : ∀ id, event.overrides id = false)
    (same : next.updated = staging.updated)
    (taken : ∀ (c : Committed ρ) (id : String), c.records[id]?.isSome = true →
      ((id ∈ next.removed ∨ id ∈ c.within next.scope) ↔
        (id ∈ staging.removed ∨ id ∈ c.within staging.scope) ∨ event.TakesOut c.membership.of id)) :
    Brought convert (events ++ [event]) next where
  survives id record groups found := by
    rw [same] at found
    obtain ⟨header, entry, survives, rest⟩ := brought.survives id record groups found
    exact ⟨header, entry, lastUpdate_concat.2 (.inr ⟨survives, silent _⟩), rest⟩
  updated header entry survives := by
    rw [same]
    rcases lastUpdate_concat.1 survives with ⟨entity, rfl⟩ | ⟨survives, _⟩
    · have spoken : decide (entry.id = entry.id) = false := silent entry.id
      simp at spoken
    · exact brought.updated header entry survives
  taken c id absent present := by
    rw [same] at absent
    rw [taken c id present, brought.taken c id absent present]
    simp only [List.mem_append, List.mem_singleton, or_and_right, exists_or, exists_eq_left]

theorem Replica.converted_ok {header : Header} {entry : Entry} {record : ρ} (converted : r.converted header entry = .ok record) :
    r.convert header entry = .ok record := by
  unfold Replica.converted at converted
  rcases found : r.convert header entry with cause | other
  · rw [found] at converted
    cases converted
  · rw [found] at converted
    exact converted

/-- Everything is replaced by what follows. -/
theorem brought_reload (events : List Event) (entity : String) (header : Header) :
    Brought convert (events ++ [.reload entity header]) (.reload header) where
  survives id record groups found := by cases Std.ExtTreeMap.getElem?_empty.symm.trans found
  updated header entry survives := by
    rcases lastUpdate_concat.1 survives with ⟨_, same⟩ | ⟨_, spared⟩
    · cases same
    · cases spared
  taken c id _ present := by
    refine iff_of_true (.inr (Committed.mem_within_everything.2 present)) ⟨.reload entity header, ?_, trivial⟩
    exact List.mem_append_right _ (List.mem_singleton_self _)

theorem Brought.update (brought : Brought convert events staging) (entity : String) {header : Header} {entry : Entry} {record : ρ}
    (converts : convert header entry = .ok record) :
    Brought convert (events ++ [.update entity header entry]) (staging.update entry record) where
  survives id found groups stored := by
    rw [Staging.update, Keyed.getElem?_insert] at stored
    split at stored
    · next same =>
      cases stored
      exact ⟨header, entry, lastUpdate_concat.2 (.inl ⟨entity, rfl⟩), same, rfl, converts⟩
    · next differ =>
      obtain ⟨other, line, survives, rfl, rest⟩ := brought.survives id found groups stored
      exact ⟨other, line, lastUpdate_concat.2 (.inr ⟨survives, decide_eq_false differ⟩), rfl, rest⟩
  updated other line survives := by
    rw [Staging.update, Keyed.getElem?_insert]
    rcases lastUpdate_concat.1 survives with ⟨_, same⟩ | ⟨survives, spared⟩
    · cases same
      exact ⟨record, converts, if_pos rfl⟩
    · rw [if_neg (of_decide_eq_false spared)]
      exact brought.updated other line survives
  taken c id absent present := by
    rw [Staging.update, Keyed.getElem?_insert] at absent
    split at absent
    · cases absent
    · next differ =>
      have unsaid : (id ∈ (staging.update entry record).removed ∨ id ∈ c.within (staging.update entry record).scope) ↔
          id ∈ staging.removed ∨ id ∈ c.within staging.scope := by
        simp only [Staging.update, Names.mem_erase, ne_eq, Ne.symm differ, not_false_eq_true, true_and]
      rw [unsaid, brought.taken c id absent present]
      simp [Event.TakesOut, or_and_right, exists_or]

theorem Brought.remove (brought : Brought convert events staging) (entity gone : String) :
    Brought convert (events ++ [.remove entity gone]) (staging.remove gone) where
  survives id found groups stored := by
    rw [Staging.remove, Keyed.getElem?_erase] at stored
    split at stored
    · cases stored
    · next differ =>
      obtain ⟨other, line, survives, rfl, rest⟩ := brought.survives id found groups stored
      exact ⟨other, line, lastUpdate_concat.2 (.inr ⟨survives, decide_eq_false differ⟩), rfl, rest⟩
  updated other line survives := by
    rcases lastUpdate_concat.1 survives with ⟨_, same⟩ | ⟨survives, spared⟩
    · cases same
    · rw [Staging.remove, Keyed.getElem?_erase, if_neg (of_decide_eq_false spared)]
      exact brought.updated other line survives
  taken c id absent present := by
    by_cases same : gone = id
    · refine iff_of_true (.inl (Names.mem_insert.2 (.inl same.symm))) ⟨.remove entity gone, ?_, same⟩
      exact List.mem_append_right _ (List.mem_singleton_self _)
    · rw [Staging.remove, Keyed.getElem?_erase, if_neg same] at absent
      have unsaid : (id ∈ (staging.remove gone).removed ∨ id ∈ c.within (staging.remove gone).scope) ↔
          id ∈ staging.removed ∨ id ∈ c.within staging.scope := by
        simp only [Staging.remove, Names.mem_insert, Ne.symm same, false_or]
      rw [unsaid, brought.taken c id absent present]
      simp [Event.TakesOut, same, or_and_right, exists_or]

theorem Brought.reloadGroup (brought : Brought convert events staging) (entity group value : String) :
    Brought convert (events ++ [.reloadGroup entity group value]) (staging.reloadGroup ⟨group, value⟩) := by
  have updated : (staging.reloadGroup ⟨group, value⟩).updated = staging.updated := by
    unfold Staging.reloadGroup
    split <;> rfl
  have removed : (staging.reloadGroup ⟨group, value⟩).removed = staging.removed := by
    unfold Staging.reloadGroup
    split <;> rfl
  refine brought.undecided (fun _ => rfl) updated fun c id present => ?_
  rw [removed, Committed.mem_within_reloadGroup staging _ present, or_assoc]
  rfl

/-- Whatever is staged is brought by its event. -/
theorem Brought.stage (brought : Brought r.convert events staging) (staged : r.stage staging event = .ok next) :
    Brought r.convert (events ++ [event]) next := by
  cases event with
  | reload entity header =>
    cases staged
    exact brought_reload events entity header
  | reloadGroup entity group value =>
    cases staged
    exact brought.reloadGroup entity group value
  | block entity header =>
    cases staged
    exact brought.undecided (fun _ => rfl) rfl fun c id _ => (or_iff_left not_false).symm
  | update entity header entry =>
    obtain ⟨record, converted, rfl⟩ := map_ok staged
    exact brought.update entity (Replica.converted_ok converted)
  | remove entity gone =>
    cases staged
    exact brought.remove entity gone

theorem Brought.foldlM (brought : Brought r.convert events staging) {more : List Event} (staged : more.foldlM r.stage staging = .ok next) :
    Brought r.convert (events ++ more) next := by
  induction more generalizing events staging with
  | nil =>
    cases staged
    rw [List.append_nil]
    exact brought
  | cons event rest ih =>
    rw [List.foldlM_cons] at staged
    obtain ⟨between, first, later⟩ := bind_ok staged
    rw [List.append_cons]
    exact ih (brought.stage first) later

end Brought

end ReferenceFeed
