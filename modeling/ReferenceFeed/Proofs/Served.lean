import ReferenceFeed.Delta
import ReferenceFeed.Proofs.Catalogue
import ReferenceFeed.Proofs.Following
import ReferenceFeed.Proofs.Intake
import ReferenceFeed.Proofs.Sound

namespace ReferenceFeed

/-!
What a source of tables brings to a transaction: entries that are written under the columns of their tables, a block
after every marker, and no removal together with a group. So nothing strays, and stores keep to the columns of the
tables.
-/

namespace Event

/-- An event under the columns of a table, with an entry that is written under them. -/
def Fits (c : Catalogue) : Event → Prop
  | .reload entity header => c.header? entity = some header
  | .update entity header entry => c.header? entity = some header ∧ entry.Written header
  | .reloadGroup _ _ _ | .block _ _ | .remove _ _ => True

def isRemoval : Event → Bool
  | .remove _ _ => true
  | .reload _ _ | .reloadGroup _ _ _ | .block _ _ | .update _ _ _ => false

/-- Whether an event announces that a group value is replaced. -/
def isRegrouping : Event → Bool
  | .reloadGroup _ _ _ => true
  | .reload _ _ | .block _ _ | .update _ _ _ | .remove _ _ => false

variable {settings : OriginSettings} {event told : Event} {c : Catalogue}

theorem completed_fits (complete : event.completed settings = .ok told) (fits : event.Fits c) : told.Fits c := by
  cases event with
  | update entity header entry =>
    obtain ⟨filled, fills, rfl⟩ := map_ok complete
    exact ⟨fits.1, (OriginSettings.complete_filled fills).written fits.2⟩
  | reload | reloadGroup | block | remove =>
    cases complete
    exact fits

theorem completed_kind (complete : event.completed settings = .ok told) :
    told.isRemoval = event.isRemoval ∧ told.isRegrouping = event.isRegrouping ∧ told.isMarker = event.isMarker := by
  cases event with
  | update entity header entry =>
    obtain ⟨filled, _, rfl⟩ := map_ok complete
    exact ⟨rfl, rfl, rfl⟩
  | reload | reloadGroup | block | remove =>
    cases complete
    exact ⟨rfl, rfl, rfl⟩

end Event

/-- What is announced of a delta: its block, entries that were fetched, and removals. -/
theorem Delta.mem_events {delta : Delta} {entity : String} {header : Header} {event : Event}
    (member : event ∈ delta.events entity header) :
    event = .block entity header ∨ (∃ entry ∈ delta.fetched, event = .update entity header entry) ∨
      ∃ id, event = .remove entity id := by
  unfold Delta.events at member
  split at member
  · cases member
  · rcases List.mem_cons.1 member with block | later
    · exact .inl block
    · rcases List.mem_append.1 later with updated | removed
      · obtain ⟨entry, changed, same⟩ := List.mem_map.1 updated
        exact .inr (.inl ⟨entry, (List.mem_filter.1 changed).1, same.symm⟩)
      · obtain ⟨id, _, same⟩ := List.mem_map.1 removed
        exact .inr (.inr ⟨id, same.symm⟩)

/-- What changed among written entries can be taken in. -/
theorem Delta.absorbed {settings : OriginSettings} {live : Keyed Store} {entity : String} {store : Store} (alive : live[entity]? = some store)
    {delta : Delta} (written : ∀ entry ∈ delta.fetched, entry.Written store.header) :
    ∃ told next, Stages.Absorbs settings live ∅ (delta.events entity store.header) told next := by
  unfold Delta.events
  split
  · exact ⟨[], ∅, .nil⟩
  · have untouched : (∅ : Stages)[entity]? = none := Std.ExtTreeMap.getElem?_empty
    refine Stages.absorbs_sparse untouched alive fun event member => ?_
    rcases List.mem_append.1 member with updated | removed
    · obtain ⟨entry, changed, rfl⟩ := List.mem_map.1 updated
      exact .update (written entry (List.mem_filter.1 changed).1) trivial
    · obtain ⟨id, _, rfl⟩ := List.mem_map.1 removed
      exact .remove

/-- Events as a source of tables brings them. -/
structure Served (c : Catalogue) (events : List Event) : Prop where
  fits : ∀ event ∈ events, event.Fits c
  apart : (∀ event ∈ events, event.isRemoval = false) ∨ ∀ event ∈ events, event.isRegrouping = false
  blocked : ∀ event ∈ events, event.isMarker = true → ∃ header, .block event.entity header ∈ events

namespace Served

variable {c : Catalogue} {events : List Event}

theorem nil (c : Catalogue) : Served c [] := ⟨List.forall_mem_nil _, .inl (List.forall_mem_nil _), List.forall_mem_nil _⟩

/-- Completing entries changes nothing about it. -/
theorem absorbed {settings : OriginSettings} {live : Keyed Store} {stages next : Stages} {told : List Event}
    (served : Served c events) (absorbs : Stages.Absorbs settings live stages events told next) : Served c told where
  fits one member := by
    obtain ⟨event, brought, complete⟩ := absorbs.mem_told one member
    exact Event.completed_fits complete (served.fits event brought)
  apart := by
    refine served.apart.imp (fun none one member => ?_) fun none one member => ?_
    all_goals obtain ⟨event, brought, complete⟩ := absorbs.mem_told one member
    · exact (Event.completed_kind complete).1.trans (none event brought)
    · exact (Event.completed_kind complete).2.1.trans (none event brought)
  blocked one member marker := by
    obtain ⟨event, brought, complete⟩ := absorbs.mem_told one member
    obtain ⟨header, block⟩ := served.blocked event brought ((Event.completed_kind complete).2.2.symm.trans marker)
    rw [Event.completed_entity complete]
    exact ⟨header, absorbs.mem_block block⟩

theorem append {more : List Event} (first : Served c events) (second : Served c more)
    (ungrouped : ∀ event ∈ events ++ more, event.isRegrouping = false) : Served c (events ++ more) where
  fits event member := (List.mem_append.1 member).elim (first.fits event) (second.fits event)
  apart := .inr ungrouped
  blocked event member marker := by
    rcases List.mem_append.1 member with before | after
    · obtain ⟨header, block⟩ := first.blocked event before marker
      exact ⟨header, List.mem_append_left _ block⟩
    · obtain ⟨header, block⟩ := second.blocked event after marker
      exact ⟨header, List.mem_append_right _ block⟩

theorem replacing {entity : String} {header : Header} {marker : Event} {entries : List Entry} (marks : marker.Fits c)
    (lasting : marker.isRemoval = false) (here : marker.entity = entity) (columns : c.header? entity = some header)
    (written : ∀ entry ∈ entries, entry.Written header) : Served c (replacing marker entity header entries) where
  fits event member := by
    rcases mem_replacing.1 member with rfl | rfl | ⟨entry, brought, rfl⟩
    · exact marks
    · trivial
    · exact ⟨columns, written entry brought⟩
  apart := by
    refine .inl fun event member => ?_
    rcases mem_replacing.1 member with rfl | rfl | ⟨entry, _, rfl⟩
    · exact lasting
    · rfl
    · rfl
  blocked event member marker := by
    rcases mem_replacing.1 member with rfl | rfl | ⟨entry, _, rfl⟩
    · exact ⟨header, here ▸ mem_replacing.2 (.inr (.inl rfl))⟩
    · cases marker
    · cases marker

/-- A whole entity that is sent under the columns of its table. -/
theorem whole {entity : String} {header : Header} {entries : List Entry} (columns : c.header? entity = some header)
    (written : ∀ entry ∈ entries, entry.Written header) :
    Served c (ReferenceFeed.replacing (.reload entity header) entity header entries) :=
  replacing columns rfl rfl columns written

/-- The events that announce what changed among written entries. -/
theorem changes {delta : Delta} {entity : String} {header : Header} (columns : c.header? entity = some header)
    (written : ∀ entry ∈ delta.fetched, entry.Written header) : Served c (delta.events entity header) := by
  have kinds : ∀ event ∈ delta.events entity header, event.Fits c ∧ event.isRegrouping = false ∧ event.isMarker = false := by
    intro event member
    rcases Delta.mem_events member with rfl | ⟨entry, fetched, rfl⟩ | ⟨id, rfl⟩
    · exact ⟨trivial, rfl, rfl⟩
    · exact ⟨⟨columns, written entry fetched⟩, rfl, rfl⟩
    · exact ⟨trivial, rfl, rfl⟩
  refine ⟨fun event member => (kinds event member).1, .inr fun event member => (kinds event member).2.1, ?_⟩
  intro event member marker
  exact absurd marker (by rw [(kinds event member).2.2]; decide)

/-- Every marker is followed by its block. -/
theorem not_alone (served : Served c events) {entity : String} {marker : Event} (marks : marker.isMarker = true) :
    concerning entity events ≠ [marker] := by
  intro alone
  have member : marker ∈ concerning entity events := by rw [alone]; exact List.mem_singleton_self _
  obtain ⟨inEvents, here⟩ := List.mem_filter.1 member
  obtain ⟨header, block⟩ := served.blocked marker inEvents marks
  have also : .block marker.entity header ∈ concerning entity events := List.mem_filter.2 ⟨block, here⟩
  rw [alone] at also
  rw [← List.mem_singleton.1 also] at marks
  cases marks

/-- A transaction that replaces a group removes nothing else. -/
theorem not_strays (served : Served c events) (entity : String) (before : Option Store) :
    ¬Strays before (concerning entity events) := by
  rintro ⟨entity', group, value, rest, id, entry, same, word, _⟩
  have inside : ∀ event, event ∈ Event.reloadGroup entity' group value :: rest → event ∈ events := by
    intro event member
    rw [← same] at member
    exact (List.mem_filter.1 member).1
  rcases served.apart with lasting | ungrouped
  · obtain ⟨event, member, speaks⟩ := List.exists_of_findSome?_eq_some word
    have stays := lasting event (inside event (List.mem_cons_of_mem _ (List.mem_reverse.1 member)))
    cases event with
    | remove => cases stays
    | update _ _ other =>
      rw [Event.word] at speaks
      split at speaks <;> cases speaks
    | reload | reloadGroup | block => cases speaks
  · cases ungrouped _ (inside _ List.mem_cons_self)

end Served

theorem replacing_ungrouped (entity : String) (header : Header) (entries : List Entry) :
    ∀ event ∈ replacing (.reload entity header) entity header entries, event.isRegrouping = false := by
  intro event member
  rcases mem_replacing.1 member with rfl | rfl | ⟨entry, _, rfl⟩ <;> rfl

theorem Stages.Absorbs.ungrouped {settings : OriginSettings} {live : Keyed Store} {stages next : Stages}
    {events told : List Event} (absorbs : Absorbs settings live stages events told next)
    (none : ∀ event ∈ events, event.isRegrouping = false) : ∀ event ∈ told, event.isRegrouping = false := by
  intro one member
  obtain ⟨event, brought, complete⟩ := absorbs.mem_told one member
  exact (Event.completed_kind complete).2.1.trans (none event brought)

/-- What some events leave under an id is what one of them brought, or what there was. -/
theorem mem_amendAll {entries : Keyed Entry} {events : List Event} {id : String} {entry : Entry}
    (found : (amendAll entries events)[id]? = some entry) :
    (∃ entity header, .update entity header entry ∈ events) ∨ entries[id]? = some entry := by
  induction events using List.reverseRecOn with
  | nil => exact .inr found
  | append_singleton events event ih =>
    rw [amendAll_append, getElem?_amend] at found
    rcases speaks : event.word id with _ | word
    · rw [speaks] at found
      rcases ih found with ⟨entity, header, member⟩ | before
      · exact .inl ⟨entity, header, List.mem_append_left _ member⟩
      · exact .inr before
    · rw [speaks, Option.getD_some] at found
      subst found
      cases event with
      | update entity header other =>
        rw [Event.word] at speaks
        split at speaks
        · cases speaks
          exact .inl ⟨entity, header, List.mem_append_right _ (List.mem_singleton_self _)⟩
        · cases speaks
      | remove entity gone =>
        rw [Event.word] at speaks
        split at speaks <;> cases speaks
      | reload | reloadGroup | block => cases speaks

/-- An entry of a store that was settled came with an update, or was there before, under the same columns. -/
theorem Settles.origin {before after : Option Store} {events : List Event} (settles : Settles before after events)
    {new : Store} (now : after = some new) {id : String} {entry : Entry} (found : new.get? id = some entry) :
    (∃ entity header, .update entity header entry ∈ events) ∨
      ∃ old, before = some old ∧ new.header = old.header ∧ old.get? id = some entry := by
  -- what was folded from nothing was brought
  have folded : ∀ {rest : List Event} {first : Event}, (amendAll ∅ rest)[id]? = some entry →
      ∃ entity header, .update entity header entry ∈ first :: rest := by
    intro rest first amended
    rcases mem_amendAll amended with ⟨entity, header, member⟩ | nothing
    · exact ⟨entity, header, List.mem_cons_of_mem _ member⟩
    · rw [Std.ExtTreeMap.getElem?_empty] at nothing
      cases nothing
  cases events with
  | nil =>
    cases settles
    exact .inr ⟨new, now, rfl, found⟩
  | cons first rest =>
    cases first with
    | reload entity header =>
      obtain ⟨made, same, _, _, entries⟩ := settles
      cases now.symm.trans same
      rw [Store.get?, entries] at found
      exact .inl (folded found)
    | reloadGroup entity group value =>
      obtain ⟨old, made, was, same, _, columns, entries⟩ := settles
      cases now.symm.trans same
      rw [entries, Option.or_eq_some_iff] at found
      rcases found with amended | ⟨_, kept⟩
      · exact .inl (folded amended)
      · exact .inr ⟨old, was, columns, (Option.filter_eq_some_iff.1 kept).1⟩
    | block entity header =>
      obtain ⟨old, made, was, same, _, columns, _, entries⟩ := settles
      cases now.symm.trans same
      rw [Store.get?, entries] at found
      rcases mem_amendAll found with ⟨entity', header', member⟩ | before
      · exact .inl ⟨entity', header', List.mem_cons_of_mem _ member⟩
      · exact .inr ⟨old, was, columns, before⟩
    | update | remove => exact settles.elim

/-- The columns of an entity after some events: those of a reload, or those there were. -/
def columnsAfter (before : Option Store) : List Event → Option Header
  | .reload _ header :: _ => some header
  | _ => before.map Store.header

theorem Settles.columns {before after : Option Store} {events : List Event} (settles : Settles before after events) :
    after.map Store.header = columnsAfter before events := by
  cases events with
  | nil =>
    cases settles
    rfl
  | cons first rest =>
    cases first with
    | reload entity header =>
      obtain ⟨made, rfl, _, columns, _⟩ := settles
      exact congrArg some columns
    | reloadGroup entity group value =>
      obtain ⟨old, made, rfl, rfl, _, columns, _⟩ := settles
      exact congrArg some columns
    | block entity header =>
      obtain ⟨old, made, rfl, rfl, _, columns, _⟩ := settles
      exact congrArg some columns
    | update | remove => exact settles.elim

/-- A store under the columns of its table, whose entries are all written. -/
structure Store.Fits (c : Catalogue) (store : Store) : Prop where
  columns : c.header? store.entity = some store.header
  written : ∀ (id : String) (entry : Entry), store.get? id = some entry → entry.Written store.header

theorem Store.Fits.extends {c d : Catalogue} {store : Store} (fits : store.Fits c) (extend : c.Extends d) : store.Fits d :=
  ⟨extend _ _ fits.columns, fits.written⟩

/-- Stores that fit their tables fit them after a transaction that was served. -/
theorem Settles.fits {c : Catalogue} {before after : Option Store} {entity : String} {events : List Event}
    (settles : Settles before after (concerning entity events)) (served : Served c events)
    (named : ∀ store, before = some store → store.entity = entity) (fits : ∀ store, before = some store → store.Fits c) :
    ∀ store, after = some store → store.entity = entity → store.Fits c := by
  have own : ∀ event ∈ concerning entity events, event.entity = entity ∧ event.Fits c := fun event member =>
    ⟨of_decide_eq_true (List.mem_filter.1 member).2, served.fits event (List.mem_filter.1 member).1⟩
  intro store new now
  have known : c.header? entity = some store.header := by
    have columns := settles.columns
    rw [new, Option.map_some] at columns
    have before_columns : ∀ {header : Header}, before.map Store.header = some header → c.header? entity = some header := by
      intro header same
      obtain ⟨old, was, rfl⟩ := Option.map_eq_some_iff.1 same
      exact named old was ▸ (fits old was).columns
    generalize concerning entity events = own_events at columns own
    unfold columnsAfter at columns
    split at columns
    · next entity' header rest =>
      obtain ⟨here, told⟩ := own _ List.mem_cons_self
      rw [Option.some.inj columns, ← show entity' = entity from here]
      exact told
    · exact before_columns columns.symm
  refine ⟨now.symm ▸ known, fun id entry found => ?_⟩
  rcases settles.origin new found with ⟨entity', header, member⟩ | ⟨old, was, columns, there⟩
  · obtain ⟨here, told, written⟩ := own _ member
    rw [show entity' = entity from here, known] at told
    exact Option.some.inj told ▸ written
  · rw [columns]
    exact (fits old was).written id entry there

end ReferenceFeed
