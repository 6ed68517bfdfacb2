import ReferenceFeed.Proofs.Revision
import ReferenceFeed.Proofs.Supply

namespace ReferenceFeed

/-!
A replica that is fed payloads. After the snapshot of a store and every later message about its entity, it holds the
rows of the store that is live.
-/

/-- A store that can be read from a payload. -/
structure Store.Legible (store : Store) : Prop where
  wide : 2 ≤ store.header.width
  written : ∀ (id : String) (entry : Entry), store.get? id = some entry → entry.Written store.header

namespace Store.Legible

variable {store : Store}

theorem read_render (legible : store.Legible) :
    Payload.read store.render = .ok ⟨store.header, store.all.map (fun entry => .update entry.bare) ++ [].map .remove⟩ := by
  refine Payload.read_render legible.wide (fun entry member => ?_) []
  obtain ⟨id, found⟩ := Keyed.mem_values.1 member
  exact legible.written id entry found

theorem read_renderSubset (legible : store.Legible) (sound : store.Sound) (updated removed : Names) :
    Payload.read (store.renderSubset updated removed) =
      .ok ⟨store.header, (store.subset updated).map (fun entry => .update entry.bare) ++ removed.toList.map .remove⟩ := by
  refine Payload.read_render legible.wide (fun entry member => ?_) removed.toList
  exact legible.written entry.id entry ((mem_subset sound.own).1 member).2

end Store.Legible

namespace Replica

variable {ρ ω : Type}

/-- What a replica makes of some messages one after another, or the first refusal. -/
def applying (r : Replica ρ ω) : List Message → Except Failure (Replica ρ ω)
  | [] => .ok r
  | message :: rest => do
    let received := r.applyPayload message.payload message.whole
    received.answer
    received.replica.applying rest

theorem applying_append {r q : Replica ρ ω} {first : List Message} (applies : r.applying first = .ok q) (second : List Message) :
    r.applying (first ++ second) = q.applying second := by
  induction first generalizing r with
  | nil =>
    cases applies
    rfl
  | cons message rest ih =>
    obtain ⟨_, well, later⟩ := bind_ok applies
    rw [List.cons_append, applying, well]
    exact ih later

theorem applying_single {r : Replica ρ ω} (message : Message)
    (well : (r.applyPayload message.payload message.whole).answer = .ok ()) :
    r.applying [message] = .ok (r.applyPayload message.payload message.whole).replica := by
  rw [applying, well]
  rfl

variable {r : Replica String ω} {entity : String} {before after : Option Store}

/-- A payload that can be read is applied as one transaction. -/
theorem Follows.applies (follows : r.Follows entity before) {text : String} {whole : Bool} {payload : Payload} {first : Event}
    {rest : List Event} (reads : Payload.read text = .ok payload) (brings : payload.events entity whole = first :: rest)
    (settles : Settles before after (first :: rest)) (plain : ∀ event ∈ rest, event.isMarker = false)
    (inside : ¬Strays before (first :: rest)) :
    (r.applyPayload text whole).answer = .ok () ∧ (r.applyPayload text whole).replica.Follows entity after := by
  have stages : (payload.events r.entity whole).foldlM r.stage {} = .ok (Staging.after (first :: rest)) := by
    rw [follows.named, brings]
    exact stages_events follows.converts {} (first :: rest)
  rw [applyPayload_staged follows.idle reads stages]
  exact ⟨rfl, follows.named, follows.converts, rfl, settles.shown plain follows.shows inside⟩

/-- A snapshot makes a replica hold what a store does, whatever it has held. -/
theorem Follows.snapshot (follows : r.Follows entity before) {store : Store} (sound : store.Sound) (named : store.entity = entity)
    (legible : store.Legible) :
    (r.applyPayload store.render true).answer = .ok () ∧
      (r.applyPayload store.render true).replica.Follows entity (some store.bare) := by
  have brings : (⟨store.header, store.all.map (fun entry => .update entry.bare) ++ [].map .remove⟩ : Payload).events entity true =
      Origin.snapshot store.bare := by
    rw [Origin.snapshot, Store.all_bare]
    simp [Payload.events, Payload.eventOf, Store.bare, named, Function.comp_def]
  have settles : Settles before (some store.bare) (Origin.snapshot store.bare) := sound.bare.settles_snapshot
  refine follows.applies legible.read_render brings settles (Origin.snapshot_plain store.bare) ?_
  rintro ⟨_, _, _, _, _, _, same, _⟩
  cases same

/-- A payload of what changed brings a replica from one store to the next. -/
theorem Follows.revised {old new : Store} (follows : r.Follows entity (some old.bare)) {updated removed : Names}
    (revised : old.Revised new updated removed) (sound : new.Sound) (same : new.entity = old.entity) (legible : new.Legible) :
    (r.applyPayload (new.renderSubset updated removed) false).answer = .ok () ∧
      (r.applyPayload (new.renderSubset updated removed) false).replica.Follows entity (some new.bare) := by
  have settles := revised.bare.settles sound.bare.own same entity
  have brings : (⟨new.header, (new.subset updated).map (fun entry => .update entry.bare) ++ removed.toList.map .remove⟩ :
      Payload).events entity false = .block entity new.bare.header ::
        ((new.bare.subset updated).map (.update entity new.bare.header ·) ++ removed.toList.map (.remove entity ·)) := by
    rw [Store.subset_bare]
    simp [Payload.events, Payload.eventOf, Store.bare, Function.comp_def]
  refine follows.applies (legible.read_renderSubset sound updated removed) brings settles (fun event member => ?_) ?_
  · rcases List.mem_append.1 member with update | removal
    · obtain ⟨entry, _, rfl⟩ := List.mem_map.1 update
      rfl
    · obtain ⟨id, _, rfl⟩ := List.mem_map.1 removal
      rfl
  · rintro ⟨_, _, _, _, _, _, same, _⟩
    cases same

/-- Where nothing is announced, nothing has changed. -/
theorem Follows.announced {old new : Store} (follows : r.Follows entity (some old.bare)) {updated removed : Names}
    (revised : old.Revised new updated removed) (sound : new.Sound) (same : new.entity = old.entity) (legible : new.Legible) :
    ∃ q, r.applying (Prepared.announce entity new updated removed).messages = .ok q ∧ q.Follows entity (some new.bare) := by
  unfold Prepared.announce
  split
  · next nothing =>
    rw [Bool.and_eq_true, Std.ExtTreeSet.isEmpty_iff, Std.ExtTreeSet.isEmpty_iff] at nothing
    obtain ⟨rfl, rfl⟩ := nothing
    refine ⟨r, rfl, follows.named, follows.converts, follows.idle, follows.shows.congr fun id => ?_⟩
    have kept := revised.bare.kept id Std.ExtTreeSet.not_mem_empty Std.ExtTreeSet.not_mem_empty
    rw [storeView, storeView, Option.bind_some, Option.bind_some, kept]
  · obtain ⟨well, mirrored⟩ := follows.revised revised sound same legible
    exact ⟨_, applying_single ⟨entity, new.renderSubset updated removed, false⟩ well, mirrored⟩

end Replica

namespace Stages

variable {live : Keyed Store} {stages : Stages} {entity : String}

theorem messages_entity {store : Option Store} {stage : Stage} : ∀ message ∈ stage.messages store entity, message.entity = entity := by
  have announced : ∀ store updated removed, ∀ message ∈ (Prepared.announce entity store updated removed).messages,
      message.entity = entity := by
    intro store updated removed message member
    unfold Prepared.announce at member
    split at member
    · cases member
    · rw [List.mem_singleton.1 member]
  intro message member
  rcases stage with ⟨scratch, begun⟩ | ⟨key, entries, begun⟩ | ⟨updates, removes⟩
  · rw [List.mem_singleton.1 member]
  · rcases store with _ | store
    · cases member
    · exact announced _ _ _ message member
  · rcases store with _ | store
    · cases member
    · exact announced _ _ _ message member

/-- The messages about an entity are those of its stage. -/
theorem filter_messages (live : Keyed Store) (stages : Stages) (entity : String) :
    (stages.messages live).filter (fun message => message.entity = entity) =
      ((stages[entity]?).map fun stage => stage.messages live[entity]? entity).getD [] := by
  have elsewhere : ∀ list : List (String × Stage), entity ∉ list.map Prod.fst →
      (list.flatMap fun pair => pair.2.messages live[pair.1]? pair.1).filter (fun message => message.entity = entity) = [] := by
    intro list absent
    rw [List.filter_eq_nil_iff]
    intro message member here
    obtain ⟨pair, inList, sent⟩ := List.mem_flatMap.1 member
    have same : pair.1 = entity := (messages_entity message sent).symm.trans (of_decide_eq_true here)
    exact absent (List.mem_map.2 ⟨pair, inList, same⟩)
  rcases found : stages[entity]? with _ | stage
  · refine elsewhere stages.toList fun member => ?_
    obtain ⟨⟨name, stage⟩, inStages, rfl⟩ := List.mem_map.1 member
    rw [mem_toList.1 inStages] at found
    cases found
  · obtain ⟨first, second, split⟩ := List.append_of_mem (mem_toList.2 found)
    have distinct := Keyed.nodup_toList stages
    rw [split, List.map_append, List.map_cons, List.nodup_append, List.nodup_cons] at distinct
    obtain ⟨_, ⟨later, _⟩, apart⟩ := distinct
    have earlier : entity ∉ first.map Prod.fst := fun member => apart entity member entity List.mem_cons_self rfl
    have own : (stage.messages live[entity]? entity).filter (fun message => message.entity = entity) =
        stage.messages live[entity]? entity :=
      List.filter_eq_self.2 fun message member => decide_eq_true (messages_entity message member)
    rw [messages, split, List.flatMap_append, List.flatMap_cons, List.filter_append, List.filter_append, elsewhere first earlier,
      elsewhere second later, own, List.nil_append, List.append_nil]
    rfl

/-- The message about an entity brings a replica to what the entity is after the commit. -/
theorem Reflect.applies {ω : Type} {r : Replica String ω} {taken : List Event} (reflect : Stages.Reflect live stages taken)
    (stores : SoundStores live) (legible : ∀ store, stages.settled live entity = some store → store.Legible)
    (follows : r.Follows entity (live[entity]?.map Store.bare)) :
    ∃ q, r.applying ((stages.messages live).filter fun message => message.entity = entity) = .ok q ∧
      q.Follows entity ((stages.settled live entity).map Store.bare) := by
  rw [filter_messages]
  rw [settled] at legible ⊢
  have reflects := reflect entity
  generalize stages[entity]? = stage at reflects legible ⊢
  generalize concerning entity taken = events at reflects
  cases reflects with
  | untouched => exact ⟨r, rfl, follows⟩
  | @whole header scratch begun rest named columns sound =>
    obtain ⟨well, mirrored⟩ := follows.snapshot sound named (legible scratch rfl)
    exact ⟨_, Replica.applying_single ⟨entity, scratch.render, true⟩ well, mirrored⟩
  | @group key entries begun rest store alive folded =>
    have own : OwnIds entries := folded ▸ OwnIds.empty.amendAll rest
    have sound := (stores entity store alive).2.replaceGroup key entries.values
    rw [alive] at follows legible ⊢
    exact follows.announced (store.revised_replaceGroup key own) sound (Store.replaceGroup_entity ..) (legible _ rfl)
  | @sparse updates removes rest store alive own apart =>
    have sound := (stores entity store alive).2.apply updates.values removes
    rw [alive] at follows legible ⊢
    exact follows.announced (store.revised_apply own apart) sound (Store.apply_entity ..) (legible _ rfl)

end Stages

namespace Site

variable {c : Conduct} {ω : Type} {q : Replica String ω} {entity : String} {s t : Site} {action : Action}

/-- A remote replica of an entity with more columns than its id, which has what is live. -/
structure Trailing (q : Replica String ω) (entity : String) (s : Site) : Prop where
  wide : ∃ header, s.catalogue.header? entity = some header ∧ 2 ≤ header.width
  follows : q.Follows entity (s.origin.live[entity]?.map Store.bare)

/-- Stores that fit the tables can be read from payloads. -/
theorem Supplied.legible (supplied : Supplied s) (wide : ∃ header, s.catalogue.header? entity = some header ∧ 2 ≤ header.width)
    {store : Store} (alive : s.origin.live[entity]? = some store) : store.Legible := by
  obtain ⟨header, known, wide⟩ := wide
  have columns := supplied.fitting entity store alive
  have same : header = store.header := Option.some.inj (known.symm.trans columns)
  exact ⟨same ▸ wide, (supplied.fits entity store alive).written⟩

/-- A snapshot is where a remote replica starts. -/
theorem Supplied.trailing (supplied : Supplied s) {r : Replica String ω} {before : Option Store} (follows : r.Follows entity before)
    {store : Store} (alive : s.origin.live[entity]? = some store) (wide : 2 ≤ store.header.width) :
    ∃ q, r.applying [⟨entity, store.render, true⟩] = .ok q ∧ Trailing q entity s := by
  have known : ∃ header, s.catalogue.header? entity = some header ∧ 2 ≤ header.width :=
    ⟨store.header, supplied.fitting entity store alive, wide⟩
  obtain ⟨named, sound⟩ := supplied.sound.stores entity store alive
  obtain ⟨well, mirrored⟩ := follows.snapshot sound named (supplied.legible known alive)
  refine ⟨_, Replica.applying_single ⟨entity, store.render, true⟩ well, known, ?_⟩
  rw [alive]
  exact mirrored

theorem Trailing.congr (trailing : Trailing q entity s) (live : t.origin.live = s.origin.live)
    (extend : s.catalogue.Extends t.catalogue) : Trailing q entity t := by
  obtain ⟨header, known, wide⟩ := trailing.wide
  refine ⟨⟨header, extend entity header known, wide⟩, ?_⟩
  rw [live]
  exact trailing.follows

/-- Whatever is asked, the messages that are published meanwhile take a remote replica along. -/
theorem Trailing.perform (trailing : Trailing q entity s) (supplied : Supplied s) (tabled : Tabled c)
    (tame : action.Tame s.catalogue) :
    ∃ more next, (Flow.effect (Site.perform c action) s).2.published = s.published ++ more ∧
      q.applying (more.filter fun message => message.entity = entity) = .ok next ∧
      Trailing next entity (Flow.effect (Site.perform c action) s).2 := by
  have silent : ∀ t : Site, t.published = s.published → t.origin.live = s.origin.live → s.catalogue.Extends t.catalogue →
      ∃ more next, t.published = s.published ++ more ∧
        q.applying (more.filter fun message => message.entity = entity) = .ok next ∧ Trailing next entity t :=
    fun t published live extend => ⟨[], q, by rw [published, List.append_nil], rfl, trailing.congr live extend⟩
  -- A tame action that is not whole uses no handle, so it publishes nothing.
  rcases isWhole : action.isWhole with _ | _
  · have beside := beside_perform (c := c) s tame isWhole
    exact silent _ beside.published beside.live (beside.tables supplied.tables).2
  · have next := supplied.perform tabled tame
    have same : (Flow.effect (Site.perform c action) s).2.catalogue = s.catalogue := (Sending.whole isWhole s).catalogue
    have turned := supplied.turned tabled isWhole
    generalize (Flow.effect (Site.perform c action) s).2 = t at next same turned ⊢
    cases turned with
    | refused nothing =>
      rw [nothing]
      exact silent s rfl rfl (.refl _)
    | landed landed served =>
      obtain ⟨stages, reflect, settled, sent⟩ := landed.applied.stores
      have wide : ∃ header, t.catalogue.header? entity = some header ∧ 2 ≤ header.width := same ▸ trailing.wide
      have legible : ∀ store, stages.settled s.origin.live entity = some store → store.Legible := fun store alive =>
        next.legible wide ((settled entity).trans alive)
      obtain ⟨last, applies, follows⟩ := reflect.applies supplied.sound.stores legible trailing.follows
      refine ⟨_, last, sent, applies, wide, ?_⟩
      rw [settled]
      exact follows
    | abandoned abandoned =>
      exact silent t abandoned.unchanged.published abandoned.unchanged.live (same ▸ .refl _)

/-- A remote replica has the rows that are live, and no transaction open. -/
theorem Trailing.records (trailing : Trailing q entity s) (sound : Sound s) :
    q.live.records = ((s.origin.live[entity]?.map Store.entries).getD ∅).map fun _ entry => entry.row := by
  have whole : ∀ found, s.origin.live[entity]?.map Store.bare = some found → found.Sound := by
    intro found alive
    obtain ⟨store, there, rfl⟩ := Option.map_eq_some_iff.1 alive
    exact (sound.stores entity store there).2.bare
  rw [(trailing.follows.mirrors whole).records]
  rcases s.origin.live[entity]? with _ | store
  · rfl
  · exact Std.ExtTreeMap.map_map

end Site

end ReferenceFeed
