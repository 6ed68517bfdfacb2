import ReferenceFeed.Proofs.Delta
import ReferenceFeed.Proofs.Remote

namespace ReferenceFeed

/-!
What becomes of some changes in a transaction. They are told with their entries filled in, and stored as they are told;
the commit sends them as one message, or nothing if there are none.
-/

namespace Changes

/-- The events that announce some changes, with the entries that are updated. -/
def announcing (changes : Changes) (entity : String) (header : Header) (entries : List Entry) : List Event :=
  if changes.isEmpty then []
  else .block entity header :: (entries.map (.update entity header ·) ++ changes.removed.toList.map (.remove entity ·))

/-- What is told of some changes that a store has got: the entries that are updated, and the ids that are removed. -/
def told (changes : Changes) (entity : String) (new : Store) : List Event :=
  changes.announcing entity new.header (new.subset changes.updated)

/-- The records of a payload that tells of some changes. -/
def records (changes : Changes) (new : Store) : List Record :=
  (new.subset changes.updated).map (fun entry => .update entry.bare) ++ changes.removed.toList.map .remove

/-- Messages that tell of some changes of an entity: one that reads as what was updated and removed, or none at all. -/
def Sends (changes : Changes) (entity : String) (new : Store) : List Message → Prop
  | [] => changes.isEmpty = true
  | [message] => changes.isEmpty = false ∧ message.entity = entity ∧ message.whole = false ∧
      Payload.read message.payload = .ok ⟨new.header, changes.records new⟩
  | _ => False

variable {changes : Changes} {entity : String} {header : Header} {entries : List Entry}

theorem isEmpty_iff : changes.isEmpty = true ↔ changes.updated = ∅ ∧ changes.removed = ∅ := by
  rw [isEmpty, Bool.and_eq_true, Std.ExtTreeSet.isEmpty_iff, Std.ExtTreeSet.isEmpty_iff]

/-- What is announced of some changes: their block, entries, and removals. -/
theorem mem_announcing {event : Event} (member : event ∈ changes.announcing entity header entries) :
    event = .block entity header ∨ (∃ entry, event = .update entity header entry) ∨ ∃ id, event = .remove entity id := by
  unfold announcing at member
  split at member
  · cases member
  · rcases List.mem_cons.1 member with block | later
    · exact .inl block
    · rcases List.mem_append.1 later with updated | removed
      · obtain ⟨entry, _, same⟩ := List.mem_map.1 updated
        exact .inr (.inl ⟨entry, same.symm⟩)
      · obtain ⟨id, _, same⟩ := List.mem_map.1 removed
        exact .inr (.inr ⟨id, same.symm⟩)

theorem announcing_entity : ∀ event ∈ changes.announcing entity header entries, event.entity = entity := by
  intro event member
  rcases mem_announcing member with rfl | ⟨entry, rfl⟩ | ⟨id, rfl⟩ <;> rfl

theorem announcing_unmarked : ∀ event ∈ changes.announcing entity header entries, event.isMarker = false := by
  intro event member
  rcases mem_announcing member with rfl | ⟨entry, rfl⟩ | ⟨id, rfl⟩ <;> rfl

theorem concerning_announcing (entity : String) (header : Header) (entries : List Entry) (other : String) :
    concerning other (changes.announcing entity header entries) =
      if entity = other then changes.announcing entity header entries else [] :=
  concerning_own announcing_entity other

end Changes

/-- What changed is announced with the entries filled in. -/
theorem Stages.Absorbs.announcing {settings : OriginSettings} {live : Keyed Store} {stages next : Stages} {told : List Event}
    {entity : String} {header : Header} {delta : Delta}
    (absorbs : Absorbs settings live stages (delta.events entity header) told next) :
    ∃ filled, List.Forall₂ Entry.Filled delta.changed filled ∧ told = delta.changes.announcing entity header filled := by
  refine ⟨delta.changed.map (settings.fill entity header), ?_, ?_⟩
  · rw [List.forall₂_map_right_iff]
    exact List.forall₂_same.2 fun entry _ => settings.fill_filled entity header entry
  · rw [absorbs.told_eq, Delta.events, Changes.announcing, Delta.isEmpty]
    split
    · rfl
    · rw [List.map_cons, List.map_append, List.map_map, List.map_map, List.map_map]
      rfl

section Settling

variable {live : Keyed Store} {stages : Stages} {old new : Store} {changes : Changes} {entity : String} {header : Header}
  {entries : List Entry}

/-- Changes that are announced are made. -/
theorem Settles.announced {after : Option Store} (idle : changes.isEmpty = true → entries = [])
    (settles : Settles (some old) after (changes.announcing entity header entries)) :
    ∃ new, after = some new ∧ new.entity = old.entity ∧ new.header = old.header ∧
      ∀ id, new.get? id = (old.apply entries changes.removed).get? id := by
  unfold Changes.announcing at settles
  split at settles
  · next empty =>
    refine ⟨old, settles, rfl, rfl, fun id => ?_⟩
    rw [idle empty, (Changes.isEmpty_iff.1 empty).2, Store.apply, Store.get?_removeAll, if_neg Std.ExtTreeSet.not_mem_empty]
    rfl
  · obtain ⟨before, new, was, now, named, columns, _, made⟩ := settles
    cases was
    refine ⟨new, now, named, columns, fun id => ?_⟩
    rw [← Store.entries_apply] at made
    rw [Store.get?, made]
    rfl

theorem lastWord_updates (entries : List Entry) (id : String) :
    lastWord id (entries.map (.update entity header ·)) = (lastOf Entry.id entries id).map some := by
  rw [lastWord, lastOf, ← List.map_reverse]
  induction entries.reverse with
  | nil => rfl
  | cons entry rest ih =>
    rw [List.map_cons, List.findSome?_cons, List.find?_cons, Event.word]
    by_cases here : entry.id = id
    · simp [here]
    · simpa [here] using ih

theorem lastWord_removals (gone : Names) (id : String) :
    lastWord id (gone.toList.map (.remove entity ·)) = if id ∈ gone then some none else none := by
  have listed : ∀ list : List String, (list.map (Event.remove entity ·)).findSome? (Event.word id) =
      if id ∈ list then some none else none := by
    intro list
    induction list with
    | nil => rfl
    | cons first rest ih =>
      rw [List.map_cons, List.findSome?_cons, Event.word]
      by_cases here : first = id
      · simp [here]
      · simpa [here, Ne.symm here] using ih
  rw [lastWord, ← List.map_reverse, listed]
  simp only [List.mem_reverse, Std.ExtTreeSet.mem_toList]

/-- What the changes of an entity say about an id, if none is updated and removed. -/
theorem lastWord_changes (entity : String) (header : Header) (entries : List Entry) (gone : Names) (id : String) :
    lastWord id (entries.map (.update entity header ·) ++ gone.toList.map (.remove entity ·)) =
      if id ∈ gone then some none else (lastOf Entry.id entries id).map some := by
  have parts : lastWord id (entries.map (.update entity header ·) ++ gone.toList.map (.remove entity ·)) =
      (lastWord id (gone.toList.map (.remove entity ·))).or (lastWord id (entries.map (.update entity header ·))) := by
    rw [lastWord, List.reverse_append, List.findSome?_append]
    rfl
  rw [parts, lastWord_removals, lastWord_updates]
  split <;> rfl

/-- What is staged of changes that are announced: their entries, and the ids that are removed. -/
theorem names_of_words {updates : Keyed Entry} {removes gone : Names} (apart : ∀ id ∈ removes, updates[id]? = none)
    (distinct : ∀ entry ∈ entries, entry.id ∉ gone)
    (words : ∀ id, lastWord id (entries.map (.update entity header ·) ++ gone.toList.map (.remove entity ·)) =
      if id ∈ removes then some none else (updates[id]?).map some) :
    removes = gone ∧ ∀ id, id ∈ Keyed.names updates ↔ id ∈ entries.map Entry.id := by
  have both : ∀ id, (id ∈ removes ↔ id ∈ gone) ∧ (id ∈ Keyed.names updates ↔ id ∈ entries.map Entry.id) := by
    intro id
    have said := words id
    rw [lastWord_changes] at said
    rw [Keyed.mem_names]
    by_cases removed : id ∈ gone
    · rw [if_pos removed] at said
      -- the last word of an entry is an entry, so only a removal can have said this
      have inside : id ∈ removes := by
        by_contra outside
        rw [if_neg outside] at said
        obtain ⟨entry, _, absurd⟩ := Option.map_eq_some_iff.1 said.symm
        cases absurd
      have unlisted : id ∉ entries.map Entry.id := by
        rw [List.mem_map]
        rintro ⟨entry, member, rfl⟩
        exact distinct entry member removed
      rw [apart id inside]
      exact ⟨iff_of_true inside removed, iff_of_false (by decide) unlisted⟩
    · rw [if_neg removed] at said
      have outside : id ∉ removes := by
        intro inside
        rw [if_pos inside] at said
        obtain ⟨entry, _, absurd⟩ := Option.map_eq_some_iff.1 said
        cases absurd
      rw [if_neg outside] at said
      rw [← (Option.map_inj_right fun _ _ => Option.some.inj).1 said, lastOf_isSome]
      exact ⟨iff_of_false outside removed, Iff.rfl⟩
  exact ⟨Std.ExtTreeSet.ext_mem fun id => (both id).1, fun id => (both id).2⟩

/-- Where only one entity is staged, all messages are about it. -/
theorem Stages.messages_only (elsewhere : ∀ other, entity ≠ other → stages[other]? = none) :
    (stages.messages live).filter (fun message => message.entity = entity) = stages.messages live := by
  refine List.filter_eq_self.2 fun message member => decide_eq_true ?_
  obtain ⟨⟨other, stage⟩, inStages, sent⟩ := List.mem_flatMap.1 member
  rw [Stages.messages_entity message sent]
  by_contra differs
  rw [Stages.mem_toList, elsewhere other (Ne.symm differs)] at inStages
  cases inStages

/-- All messages of a transaction that announces changes of an entity are one about them, if there are any. -/
theorem Stages.Reflect.messages_announced (reflect : Stages.Reflect live stages (changes.announcing entity header entries))
    (alive : live[entity]? = some old) (now : stages.settled live entity = some new)
    (named : ∀ id, id ∈ entries.map Entry.id ↔ id ∈ changes.updated) (distinct : ∀ id ∈ changes.updated, id ∉ changes.removed)
    (held : ∀ id ∈ changes.removed, old.contains id = true) :
    stages.messages live =
      if changes.isEmpty then [] else [⟨entity, new.renderSubset changes.updated changes.removed, false⟩] := by
  have elsewhere : ∀ other, entity ≠ other → stages[other]? = none := by
    intro other differs
    have reflects := reflect other
    rw [Changes.concerning_announcing, if_neg differs] at reflects
    generalize stages[other]? = stage at reflects ⊢
    cases reflects
    rfl
  have reflects := reflect entity
  rw [Changes.concerning_announcing, if_pos rfl] at reflects
  rw [← Stages.messages_only elsewhere, Stages.filter_messages]
  rw [Stages.settled, alive] at now
  generalize stages[entity]? = stage at reflects now ⊢
  unfold Changes.announcing at reflects
  split at reflects
  · next empty =>
    rw [if_pos empty]
    cases reflects
    rfl
  · next announced =>
    rw [if_neg announced]
    cases reflects with
    | @sparse updates removes rest store _ _ apart words =>
      have listed : ∀ entry ∈ entries, entry.id ∈ changes.updated := fun entry member =>
        (named entry.id).1 (List.mem_map_of_mem member)
      obtain ⟨rfl, names⟩ := names_of_words apart (fun entry member => distinct _ (listed entry member)) words
      have updated : Keyed.names updates = changes.updated :=
        Std.ExtTreeSet.ext_mem fun id => (names id).trans (named id)
      have removed : changes.removed.filter old.contains = changes.removed := by
        refine Std.ExtTreeSet.ext_mem fun id => ?_
        rw [Names.mem_filter]
        exact and_iff_left_of_imp (held id)
      have told : ¬(changes.updated.isEmpty && changes.removed.isEmpty) = true := announced
      cases now
      rw [Option.map_some, Option.getD_some, Stage.messages, alive, Option.map_some, Option.getD_some, updated, removed,
        Prepared.announce, if_neg told]

/-- The message reads as the changes, if the entries are written and their columns are more than the id. -/
theorem Changes.sends_read (wide : 2 ≤ new.header.width)
    (written : ∀ entry ∈ new.subset changes.updated, entry.Written new.header) :
    changes.Sends entity new
      (if changes.isEmpty then [] else [⟨entity, new.renderSubset changes.updated changes.removed, false⟩]) := by
  split
  · next empty => exact empty
  · next announced =>
    exact ⟨Bool.eq_false_iff.2 announced, rfl, rfl, Payload.read_render wide written changes.removed.toList⟩

end Settling

namespace Site

variable {c : Conduct} {s t : Site} {entity : String} {old : Store} {changes : Changes}

/-- What an operation that answers with changes was asked for came to them. -/
theorem changes_of_act {thread : Thread} {action : Action} {operation : Flow Site Changes}
    (performs : perform c action = Answer.changes <$> operation) (acts : act c thread action s = (.ok (.changes changes), t)) :
    Flow.effect operation { s with thread } = (.ok changes, t) := by
  rw [act, performs, Flow.effect_map] at acts
  obtain ⟨answers, rfl⟩ := Prod.mk.inj acts
  obtain ⟨value, well, same⟩ := map_ok answers
  cases same
  exact Prod.ext well rfl

/-- An operation that comes to some changes is answered with them. -/
theorem act_of_changes {thread : Thread} {action : Action} {operation : Flow Site Changes}
    (performs : perform c action = Answer.changes <$> operation)
    (runs : Flow.effect operation { s with thread } = (.ok changes, t)) : act c thread action s = (.ok (.changes changes), t) := by
  rw [act, performs, Flow.effect_map, runs]
  rfl

/-- A whole transaction that ends well has had the fan-out for itself. -/
theorem free_of_run {α : Type} {producer : Nat → Flow Site α} {value : α}
    (runs : Flow.effect ((wiring c).run producer) s = (.ok value, t)) : s.origin.fanout.isOpen = false := by
  rw [Bool.eq_false_iff]
  intro held
  rw [effect_run_held producer held] at runs
  cases runs

/-- A whole transaction that cannot fail takes effect, if no marker in it is left without its block. -/
theorem Sound.runs {α : Type} (sound : Sound s) (free : s.origin.fanout.isOpen = false) {producer : Nat → Flow Site α}
    {Well : List Event → Prop} (brings : Brings s.begun Well (fun _ => False) α producer)
    (blocked : ∀ taken, Well taken → ∀ entity marker, Event.isMarker marker = true → concerning entity taken ≠ [marker]) :
    ∃ taken value after, Flow.effect ((wiring c).run producer) s = (.ok value, after) ∧ Landed s taken taken after ∧ Well taken := by
  obtain ⟨taken, after, ⟨value, ends, landed, well⟩ | ⟨_, _, _, ill | ⟨well, entity, marker, marks, alone⟩⟩⟩ :=
    sound.effect_run (c := c) free brings
  · exact ⟨taken, value, after, ends, landed, well⟩
  · exact ill.elim
  · exact absurd alone (blocked taken well entity marker marks)

/-- A whole transaction takes effect if all it comes to is announcing what changed among written entries. -/
theorem Sound.announces (sound : Sound s) (free : s.origin.fanout.isOpen = false) (alive : s.origin.live[entity]? = some old)
    (delta : Delta) (written : ∀ entry ∈ delta.fetched, entry.Written old.header) {producer : Nat → Flow Site Changes}
    (comes : ∀ number u, u.catalogue = s.catalogue → u.origin.live = s.origin.live →
      Flow.effect (producer number) u = Flow.effect ((wiring c).announce number old entity delta) u) :
    ∃ told next after, Flow.effect ((wiring c).run producer) s = (.ok delta.changes, after) ∧ Landed s told told after ∧
      Stages.Absorbs s.origin.settings s.origin.live ∅ (delta.events entity old.header) told next := by
  obtain ⟨told, next, absorbs⟩ := @Delta.absorbed s.origin.settings _ _ _ alive delta written
  have unmarked : ∀ event ∈ told, event.isMarker = false := by
    obtain ⟨filled, _, rfl⟩ := absorbs.announcing
    exact Changes.announcing_unmarked
  have lands : ∃ taken value after, Flow.effect ((wiring c).run producer) s = (.ok value, after) ∧
      Landed s taken taken after ∧ taken = told := by
    refine sound.runs free (fun number u begun => ?_) ?_
    · rw [comes number u begun.catalogue begun.under.unchanged.live]
      exact begun.telling absorbs rfl
    · intro taken same entity marker marks alone
      have member : marker ∈ concerning entity taken := by rw [alone]; exact List.mem_singleton_self _
      rw [same] at member
      cases marks.symm.trans (unmarked marker (List.mem_filter.1 member).1)
  obtain ⟨_, value, after, ends, landed, rfl⟩ := lands
  obtain ⟨u, v, catalogue, live, produced⟩ := effect_run_ok ends
  rw [comes _ u catalogue live] at produced
  obtain ⟨_, _, _, produced⟩ := Flow.effect_bind_ok produced
  cases produced
  exact ⟨_, next, after, ends, landed, absorbs⟩

/-- An entity of which nothing was told stays as it was. -/
theorem Landed.unspoken {told : List Event} (landed : Landed s told told t) (sound : Sound s) {other : String}
    (silent : concerning other told = []) : t.origin.live[other]? = s.origin.live[other]? := by
  have settles := (landed.settles sound other).1
  rw [silent] at settles
  exact settles

/-- What a delta comes to is announced, stored and sent as far as it changes something. -/
theorem Landed.announced {delta : Delta} {told : List Event} {next : Stages} (landed : Landed s told told t) (sound : Sound s)
    (coherent : delta.Coherent old) (alive : s.origin.live[entity]? = some old)
    (absorbs : Stages.Absorbs s.origin.settings s.origin.live ∅ (delta.events entity old.header) told next)
    (changed : changes = delta.changes) :
    ∃ new filled, t.origin.live[entity]? = some new ∧ new.header = old.header ∧
      List.Forall₂ Entry.Filled delta.changed filled ∧
      (∀ id, new.get? id = (old.apply filled delta.changes.removed).get? id) ∧
      told = changes.announcing entity old.header filled ∧
      (∀ other, other ≠ entity → t.origin.live[other]? = s.origin.live[other]?) ∧
      t.published = s.published ++
        if changes.isEmpty then [] else [⟨entity, new.renderSubset changes.updated changes.removed, false⟩] := by
  subst changed
  obtain ⟨filled, completed, rfl⟩ := absorbs.announcing
  have named : ∀ id, id ∈ filled.map Entry.id ↔ id ∈ delta.changes.updated := by
    intro id
    rw [Entry.Filled.ids completed]
    exact coherent.named id
  have idle : delta.changes.isEmpty = true → filled = [] := by
    intro empty
    refine List.eq_nil_iff_forall_not_mem.2 fun last member => ?_
    have updated := (named last.id).1 (List.mem_map_of_mem member)
    rw [(Changes.isEmpty_iff.1 empty).1] at updated
    exact Std.ExtTreeSet.not_mem_empty updated
  have settles := (landed.settles sound entity).1
  rw [Changes.concerning_announcing, if_pos rfl, alive] at settles
  obtain ⟨new, now, _, columns, settled⟩ := settles.announced idle
  refine ⟨new, filled, now, columns, completed, settled, rfl, fun other differs => landed.unspoken sound ?_, ?_⟩
  · rw [Changes.concerning_announcing, if_neg (Ne.symm differs)]
  · obtain ⟨stages, reflect, lives, sent⟩ := landed.applied.stores
    rw [sent, reflect.messages_announced alive ((lives entity).symm.trans now) named coherent.apart coherent.held]

/-- What changes nothing is told and sent to nobody. -/
theorem Landed.idle {delta : Delta} {told : List Event} {next : Stages} (landed : Landed s told told t) (sound : Sound s)
    (coherent : delta.Coherent old) (alive : s.origin.live[entity]? = some old)
    (absorbs : Stages.Absorbs s.origin.settings s.origin.live ∅ (delta.events entity old.header) told next)
    (nothing : delta.changes = {}) :
    t.origin.live = s.origin.live ∧ t.published = s.published ∧ t.heard = s.heard := by
  have empty : delta.changes.isEmpty = true := Changes.isEmpty_iff.2 (by rw [nothing]; exact ⟨rfl, rfl⟩)
  obtain ⟨_, _, _, _, _, _, rfl, _, published⟩ := landed.announced sound coherent alive absorbs rfl
  rw [Changes.announcing, if_pos empty] at landed
  rw [if_pos empty, List.append_nil] at published
  obtain ⟨live, heard⟩ := landed.silent sound
  exact ⟨live, published, heard⟩

end Site

end ReferenceFeed
