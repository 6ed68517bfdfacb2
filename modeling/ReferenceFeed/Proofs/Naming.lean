import ReferenceFeed.Proofs.Repair

namespace ReferenceFeed

/-!
Whom a payload names. The ids are read without the rows, and wherever the rows can be read as well these are the ids of the
records. So whatever an origin gives out can come back as a list of ids, and just these are fetched again.
-/

/-- The row of an entry begins with its id. -/
def Entry.Named (entry : Entry) : Prop := ∃ rest, entry.fields = .ok (some entry.id :: rest)

namespace Payload

variable {header : Header} {text : String} {payload : Payload}

theorem idOf_of_recordOf {line : Except RowFault (List Field)} {record : Record} (reads : recordOf header line = .ok record) :
    idOf line = .ok record.id := by
  unfold recordOf at reads
  split at reads
  · cases reads
  · cases reads
    rfl
  · split at reads
    · cases reads
      rfl
    · cases reads
  · cases reads

/-- A text that is read as a payload names the ids of its records. -/
theorem readIds_of_read (reads : read text = .ok payload) : readIds text = .ok (payload.records.map Record.id) := by
  unfold read at reads
  unfold readIds
  rcases lines : Row.records text with _ | ⟨first, rest⟩ <;> rw [lines] at reads
  · cases reads
  · obtain ⟨header, title, reads⟩ := bind_ok reads
    obtain ⟨records, each, reads⟩ := bind_ok reads
    cases reads
    simp only [title]
    exact mapM_ok_iff.2 (List.forall₂_map_right_iff.2 ((mapM_ok_iff.1 each).imp fun _ _ => idOf_of_recordOf))

/-- What does not even name ids is not read as a payload. -/
theorem read_error_of_readIds {fault : Failure} (fails : readIds text = .error fault) : ∃ other, read text = .error other := by
  rcases reads : read text with other | payload
  · exact ⟨other, rfl⟩
  · cases fails.symm.trans (readIds_of_read reads)

/-- However wide its rows are, a payload that was rendered names its entries and what it removes. -/
theorem readIds_render {entries : List Entry} (named : ∀ entry ∈ entries, entry.Named) (removed : List String) :
    readIds (render header entries removed) = .ok (entries.map Entry.id ++ removed) := by
  have reads : List.Forall₂ (fun text id => ∃ fields, Row.split text = .ok fields ∧ idOf (.ok fields) = .ok id)
      (entries.map Entry.row ++ removed.map fun id => String.ofList (Row.encode (some id)))
      (entries.map Entry.id ++ removed) := by
    refine List.rel_append ?_ ?_
    · rw [List.forall₂_map_left_iff, List.forall₂_map_right_iff, List.forall₂_same]
      intro entry member
      obtain ⟨rest, fields⟩ := named entry member
      exact ⟨some entry.id :: rest, fields, rfl⟩
    · rw [List.forall₂_map_left_iff, List.forall₂_same]
      exact fun id _ => ⟨[some id], Row.split_render (some id) [], rfl⟩
  obtain ⟨lines, rows, ids⟩ := records_read header nofun reads
  have rendered : readIds (render header entries removed) =
      (headerOf (.ok (header.names.map some))).bind fun _ => lines.mapM idOf := by
    rw [readIds, render, List.cons_append, rows]
    rfl
  rw [rendered, headerOf_names]
  exact ids

end Payload

namespace Store

variable {store old new : Store} {updated removed : Names}

/-- A text about a store: some of its entries, and some ids that it does not hold. -/
structure Gives (store : Store) (text : String) (entries : List Entry) (absent : List String) : Prop where
  rendered : text = Payload.render store.header entries absent
  present : ∀ entry ∈ entries, store.get? entry.id = some entry
  gone : ∀ id ∈ absent, store.get? id = none

theorem Gives.named {text : String} {entries : List Entry} {absent : List String} (gives : store.Gives text entries absent)
    (named : ∀ entry ∈ entries, entry.Named) : Payload.readIds text = .ok (entries.map Entry.id ++ absent) := by
  rw [gives.rendered]
  exact Payload.readIds_render named absent

theorem gives_render (own : OwnIds store.entries) : store.Gives store.render store.all [] where
  rendered := rfl
  present entry member := by
    obtain ⟨id, found⟩ := Keyed.mem_values.1 member
    rw [own id entry found]
    exact found
  gone := List.forall_mem_nil _

theorem gives_renderSubset (own : OwnIds store.entries) (gone : ∀ id ∈ removed, store.get? id = none) :
    store.Gives (store.renderSubset updated removed) (store.subset updated) removed.toList where
  rendered := rfl
  present _ member := ((mem_subset own).1 member).2
  gone id member := gone id (Std.ExtTreeSet.mem_toList.1 member)

theorem gives_standing (own : OwnIds store.entries) (ids : Names) :
    store.Gives (store.renderSubset (store.standing ids).updated (store.standing ids).removed)
      (store.subset (store.standing ids).updated) (store.standing ids).removed.toList := by
  refine gives_renderSubset own fun id member => ?_
  have absent := (Names.mem_filter.1 member).2
  rw [contains_eq_isSome] at absent
  exact Option.isNone_iff_eq_none.1 (by simpa using absent)

/-- A payload for some ids names each of them, and nobody else. -/
theorem ofList_standing (own : OwnIds store.entries) (ids : Names) :
    Names.ofList ((store.subset (store.standing ids).updated).map Entry.id ++ (store.standing ids).removed.toList) = ids := by
  refine Std.ExtTreeSet.ext_mem fun id => ?_
  rw [Names.mem_ofList, List.mem_append, List.mem_map, Std.ExtTreeSet.mem_toList, standing, Names.mem_filter,
    contains_eq_isSome]
  constructor
  · rintro (⟨entry, member, rfl⟩ | ⟨asked, _⟩)
    · exact (Names.mem_filter.1 ((mem_subset own).1 member).1).1
    · exact asked
  · intro asked
    rcases found : store.get? id with _ | entry
    · exact .inr ⟨asked, rfl⟩
    · have named := own id entry found
      subst named
      exact .inl ⟨entry, (mem_subset own).2 ⟨Names.mem_filter.2 ⟨asked, by rw [contains_eq_isSome, found]; rfl⟩, found⟩, rfl⟩

/-- What is announced about a revision is about the revised store. -/
theorem Revised.gives (revised : old.Revised new updated removed) (own : OwnIds new.entries) {entity : String} {message : Message}
    (announced : message ∈ (Prepared.announce entity new updated removed).messages) :
    new.Gives message.payload (new.subset updated) removed.toList := by
  unfold Prepared.announce at announced
  split at announced
  · cases announced
  · rw [List.mem_singleton.1 announced]
    exact gives_renderSubset own revised.gone

end Store

/-- A commit sends messages about the stores that it makes live. -/
theorem Stages.Reflect.gives {live : Keyed Store} {stages : Stages} {taken : List Event}
    (reflect : Stages.Reflect live stages taken) (stores : SoundStores live) {message : Message}
    (sent : message ∈ stages.messages live) :
    ∃ store entries absent, stages.settled live message.entity = some store ∧ store.Gives message.payload entries absent := by
  obtain ⟨⟨entity, stage⟩, inStages, among⟩ := List.mem_flatMap.1 sent
  have found := mem_toList.1 inStages
  have reflects := reflect entity
  rw [found] at reflects
  rw [messages_entity message among, settled, found]
  generalize concerning entity taken = events at reflects
  cases reflects with
  | @whole _ scratch _ _ _ _ sound =>
    rw [List.mem_singleton.1 among]
    exact ⟨scratch, _, _, rfl, Store.gives_render sound.own⟩
  | @group key entries _ rest store alive folded =>
    have own : OwnIds entries := folded ▸ OwnIds.empty.amendAll rest
    have sound := (stores entity store alive).2.replaceGroup key entries.values
    simp only [alive] at among ⊢
    exact ⟨_, _, _, rfl, (store.revised_replaceGroup key own).gives sound.own among⟩
  | @sparse updates removes _ store alive own apart =>
    have sound := (stores entity store alive).2.apply updates.values removes
    simp only [alive] at among ⊢
    exact ⟨_, _, _, rfl, (store.revised_apply own apart).gives sound.own among⟩

namespace Site

variable {c : Conduct} {s t : Site} {number : Nat} {action : Action}

/-- Everything that was published from one site to another is about a store that is live in the end. -/
def Posts (s t : Site) : Prop :=
  ∃ messages, t.published = s.published ++ messages ∧ ∀ message ∈ messages, ∃ store entries absent,
    t.origin.live[message.entity]? = some store ∧ store.Gives message.payload entries absent

theorem Posts.of_silence (silent : t.published = s.published) : Posts s t :=
  ⟨[], silent.trans (List.append_nil _).symm, List.forall_mem_nil _⟩

theorem Applied.posts {taken : List Event} (applied : Applied s taken t) (sound : Sound s) : Posts s t := by
  obtain ⟨stages, reflect, settled, sent⟩ := applied.stores
  refine ⟨_, sent, fun message member => ?_⟩
  rw [settled]
  exact reflect.gives sound.stores member

/-- A whole transaction posts what it commits, if it does. -/
theorem Sound.posts_whole (sound : Sound s) (isWhole : action.isWhole = true) :
    Posts s (Flow.effect (Site.perform c action) s).2 := by
  obtain ⟨α, operation, answer, same, ⟨fault, fails⟩ | ⟨producer, announces, runs⟩⟩ := perform_whole (c := c) isWhole s
  · rw [same, Flow.effect_map, fails]
    exact .of_silence rfl
  · rw [same, Flow.effect_map, runs]
    by_cases held : s.origin.fanout.isOpen = true
    · rw [effect_run_held producer held]
      exact .of_silence rfl
    · obtain ⟨taken, after, ⟨value, ends, landed, _⟩ | ⟨fault, ends, abandoned, _⟩⟩ :=
        sound.effect_run (c := c) (Bool.eq_false_iff.2 held) (brings_of_announcing announces)
      · rw [ends]
        exact landed.applied.posts sound
      · rw [ends]
        exact .of_silence abandoned.unchanged.published

theorem Posts.complete (posts : Posts s t) (signal : Signal) : Posts s (Flow.effect ((wiring c).fanout.complete signal) t).2 := by
  obtain ⟨fanout, log, shape⟩ := complete_shape c signal t
  rw [shape]
  exact posts

/-- Of the calls of a handle only a commit posts anything. -/
theorem Sound.posts_receive (sound : Sound s) (signal : Signal) :
    Posts s (Flow.effect ((wiring c).receive number signal) s).2 := by
  cases signal with
  | start =>
    change Posts s (Flow.effect ((wiring c).start number) s).2
    rw [effect_start]
    split
    · exact .of_silence rfl
    · split <;> exact .of_silence rfl
  | event event =>
    change Posts s (Flow.effect ((wiring c).event number event) s).2
    rw [effect_event]
    split
    · exact .of_silence rfl
    · next told stages _ =>
      obtain ⟨fanout, log, shape⟩ :=
        deliver_shape c told (s.keeping number { s.origin.session number with stages := some stages })
      rw [shape]
      exact .of_silence rfl
  | finish =>
    change Posts s (Flow.effect ((wiring c).finish number) s).2
    rw [effect_finish_state]
    rcases staged : (s.origin.session number).stages with _ | stages
    · exact .of_silence rfl
    · -- Only a commit of stages that are all begun sends messages, and these come from what was taken in.
      obtain ⟨taken, reflect⟩ := sound.staged number stages staged
      rcases unbegun : stages.unbegun? with _ | entity
      · obtain ⟨next, prepared, commits, messages, settled⟩ := reflect.commit
        simp only [unbegun, commits]
        refine Posts.complete ⟨prepared.messages, rfl, fun message member => ?_⟩ _
        obtain ⟨store, entries, absent, alive, gives⟩ := reflect.gives sound.stores (messages ▸ member)
        exact ⟨store, entries, absent, (settled _).trans alive, gives⟩
      · simp only [unbegun]
        exact Posts.complete (.of_silence rfl) _
  | cancel =>
    change Posts s (Flow.effect ((wiring c).cancel number) s).2
    rw [effect_cancel]
    split
    · exact .of_silence rfl
    · exact Posts.complete (.of_silence rfl) _

theorem posts_drop (s : Site) (number : Nat) : Posts s (Flow.effect ((wiring c).drop number) s).2 := by
  rw [effect_drop_state]
  split
  · exact Posts.complete (.of_silence rfl) _
  · exact .of_silence rfl

/-- Whatever is asked of a site, what it publishes meanwhile is about the stores that it leaves live. -/
theorem Sound.posts (sound : Sound s) (c : Conduct) (action : Action) : Posts s (Flow.effect (Site.perform c action) s).2 := by
  rcases isWhole : action.isWhole with _ | _
  · cases action with
    | begin => exact .of_silence rfl
    | call number signal =>
      rcases sound.calls (c := c) number signal with ⟨_, goes⟩ | refused
      · rw [goes]
        exact sound.posts_receive signal
      · rw [refused]
        exact .of_silence rfl
    | drop number =>
      rcases sound.drops (c := c) number with ⟨_, goes⟩ | refused
      · rw [goes]
        exact posts_drop s number
      · rw [refused]
        exact .of_silence rfl
    | mutate change =>
      simp only [Site.perform, Flow.effect_bind, Flow.effect_get, Flow.effect_set, Flow.effect_map, Flow.effect_ofExcept]
      exact .of_silence rfl
    | subscribe | unsubscribe | register => exact .of_silence (beside_perform (c := c) s (by trivial) isWhole).published
    | reload | reloadAll | reloadGroup | refresh | refreshNamed | applyRows | republish => cases isWhole
  · exact sound.posts_whole isWhole

/-- A text on which just some ids are fetched again. Whoever brings it is answered as if they had named the ids; nothing else that
a source serves makes a difference; and the changes come from what it has for these ids. -/
structure Refetches (c : Conduct) (text : String) (ids : List String) : Prop where
  named : Payload.readIds text = .ok ids
  refreshed (s : Site) (thread : Thread) (entity : String) :
    act c thread (.refreshNamed entity text) s = act c thread (.refresh entity (Names.ofList ids)) s
  only (other : Conduct) (answer : other.answer = c.answer) (accept : other.accept = c.accept) (s : Site) (thread : Thread)
    (entity : String)
    (alike : ∀ site, other.fetch site (.ids entity (Names.ofList ids)) = c.fetch site (.ids entity (Names.ofList ids))) :
    act other thread (.refreshNamed entity text) s = act c thread (.refreshNamed entity text) s
  answered (s t : Site) (thread : Thread) (entity : String) (answer : Answer)
    (asked : act c thread (.refreshNamed entity text) s = (.ok answer, t)) :
    ∃ u store fetched, u.catalogue = s.catalogue ∧ u.origin.live = s.origin.live ∧ s.origin.live[entity]? = some store ∧
      Origin.collect (c.fetch u (.ids entity (Names.ofList ids))) entity = .ok fetched ∧
      answer = .changes (Delta.ofFetch store (Names.ofList ids) fetched).changes

theorem act_refreshNamed {text : String} {ids : List String} (names : Payload.readIds text = .ok ids) (c : Conduct) (s : Site)
    (thread : Thread) (entity : String) :
    act c thread (.refreshNamed entity text) s = act c thread (.refresh entity (Names.ofList ids)) s := by
  simp only [act, perform, Flow.effect_map, Origin.Wiring.refreshNamed, Flow.effect_bind, Flow.effect_ofExcept, names]
  rfl

/-- Sources that have the same for some ids make the same of a refresh of these. -/
theorem perform_refresh_congr {c other : Conduct} (answer : other.answer = c.answer) (accept : other.accept = c.accept)
    {entity : String} {ids : Names} (alike : ∀ site, other.fetch site (.ids entity ids) = c.fetch site (.ids entity ids)) :
    perform other (.refresh entity ids) = perform c (.refresh entity ids) := by
  have fetches : (wiring other).fetchIds entity ids = (wiring c).fetchIds entity ids :=
    Flow.ext fun s => by rw [effect_fetchIds, effect_fetchIds, alike]
  have refreshes : (wiring other).refresh entity ids = (wiring c).refresh entity ids := by
    -- What a source serves is looked up in one place only.
    have elsewhere : ∀ fetching : Flow Site (List Entry), (wiring other).run (fun number =>
        (wiring other).ask (·.store entity) >>= fun store => fetching >>= fun fetched =>
          (wiring other).announce number store entity (.ofFetch store ids fetched)) =
        (wiring c).run fun number => (wiring c).ask (·.store entity) >>= fun store => fetching >>= fun fetched =>
          (wiring c).announce number store entity (.ofFetch store ids fetched) := by
      obtain ⟨serves, fetch, _, _, _⟩ := c
      obtain ⟨_, _, _, _, _⟩ := other
      cases answer
      cases accept
      exact fun _ => rfl
    exact (elsewhere _).trans (by rw [fetches]; rfl)
  exact congrArg (Answer.changes <$> ·) refreshes

theorem refetches_of_readIds {text : String} {ids : List String} (names : Payload.readIds text = .ok ids) (c : Conduct) :
    Refetches c text ids where
  named := names
  refreshed s thread entity := act_refreshNamed names c s thread entity
  only other answer accept s thread entity alike := by
    rw [act_refreshNamed names other, act_refreshNamed names c, act, act, perform_refresh_congr answer accept alike]
  answered s t thread entity answer asked := by
    rw [act_refreshNamed names, act, perform, Flow.effect_map] at asked
    rcases runs : Flow.effect ((wiring c).refresh entity (Names.ofList ids)) { s with thread } with ⟨fault | changes, after⟩
    · rw [runs] at asked
      cases asked
    · rw [runs] at asked
      cases asked
      obtain ⟨u, v, catalogue, live, produced⟩ := effect_run_ok runs
      obtain ⟨store, between, looked, produced⟩ := Flow.effect_bind_ok produced
      obtain ⟨fetched, _, fetches, produced⟩ := Flow.effect_bind_ok produced
      obtain ⟨_, _, _, produced⟩ := Flow.effect_bind_ok produced
      cases produced
      rw [effect_ask, Origin.store, liveStore, live] at looked
      rw [effect_fetchIds] at fetches
      rcases alive : s.origin.live[entity]? with _ | found <;> rw [alive] at looked <;> cases looked
      exact ⟨u, store, fetched, catalogue, live, rfl, (Prod.mk.inj fetches).1, rfl⟩

/-- Who reads a payload in full and who reads its ids only agree: a text that is read names the ids of its records, in the order
they are written, and one whose ids cannot be read cannot be read at all. So on a text that is read, whoever it comes from, just
the ids of its records are fetched again. Snapshots, payloads for some ids and messages that an origin gives out name just the
entries they show and the ids they remove, as long as the row of an entry begins with its id. -/
theorem Reachable.names_refetched (reach : Reachable c s) :
    (∀ text payload, Payload.read text = .ok payload → Refetches c text (payload.records.map Record.id)) ∧
      (∀ text fault, Payload.readIds text = .error fault → ∃ other, Payload.read text = .error other) ∧
      (∀ (entity : String) (store : Store), s.origin.live[entity]? = some store →
        ((∀ entry ∈ store.all, entry.Named) → Refetches c store.render (store.all.map Entry.id)) ∧
        ∀ ids, ∃ text entries absent, s.origin.payloadFor entity ids = .ok text ∧ store.Gives text entries absent ∧
          Names.ofList (entries.map Entry.id ++ absent) = ids ∧
          ((∀ entry ∈ entries, entry.Named) → Refetches c text (entries.map Entry.id ++ absent))) ∧
      ∀ thread action, ∃ messages, (act c thread action s).2.published = s.published ++ messages ∧
        ∀ message ∈ messages, ∃ store entries absent, (act c thread action s).2.origin.live[message.entity]? = some store ∧
          store.Gives message.payload entries absent ∧
          ((∀ entry ∈ entries, entry.Named) → Refetches c message.payload (entries.map Entry.id ++ absent)) := by
  refine ⟨fun text payload reads => refetches_of_readIds (Payload.readIds_of_read reads) c,
    fun text fault fails => Payload.read_error_of_readIds fails, fun entity store alive => ?_, fun thread action => ?_⟩
  · have own := (reach.sound.stores entity store alive).2.own
    refine ⟨fun named => ?_, fun ids => ?_⟩
    · have names := (Store.gives_render own).named named
      rw [List.append_nil] at names
      exact refetches_of_readIds names c
    · have gives := Store.gives_standing own ids
      exact ⟨_, _, _, Store.payloadFor_standing alive ids, gives, Store.ofList_standing own ids,
        fun named => refetches_of_readIds (gives.named named) c⟩
  · obtain ⟨messages, published, about⟩ := (reach.sound.on thread).posts c action
    refine ⟨messages, published, fun message member => ?_⟩
    obtain ⟨store, entries, absent, alive, gives⟩ := about message member
    exact ⟨store, entries, absent, alive, gives, fun named => refetches_of_readIds (gives.named named) c⟩

/-- What is said when one of the ids is published again. -/
def repeated : Message := ⟨"e", "id,v\n\"two\nlines\",y", false⟩

theorem names_refetched_quoting :
    (∃ store, quoting.origin.live["e"]? = some store ∧ Refetches staffed store.render ["", "a\"b", "two\nlines"]) ∧
      (act staffed 1 (.republish "e" "two\nlines") quoting).2.published = quoting.published ++ [repeated] ∧
      Refetches staffed repeated.payload ["two\nlines"] := by
  have reach : Reachable staffed quoting := (run_enact ..).reachable (.fresh {} _)
  have before : (quoting.origin.live["e"]?).map Store.all =
      some [⟨"", "\"\",x", ∅⟩, ⟨"a\"b", "\"a\"\"b\",z", ∅⟩, ⟨"two\nlines", "\"two\nlines\",y", ∅⟩] := by
    decide +kernel
  have after : ((act staffed 1 (.republish "e" "two\nlines") quoting).2.origin.live["e"]?).map Store.all =
      (quoting.origin.live["e"]?).map Store.all := by
    decide +kernel
  have sent : (act staffed 1 (.republish "e" "two\nlines") quoting).2.published = quoting.published ++ [repeated] := by
    decide +kernel
  have named (store : Store) (same : some store.all = (quoting.origin.live["e"]?).map Store.all) :
      ∀ entry ∈ store.all, entry.Named := by
    rw [before] at same
    rw [Option.some.inj same]
    intro entry member
    simp only [List.mem_cons, List.not_mem_nil, or_false] at member
    rcases member with rfl | rfl | rfl
    · exact ⟨[some "x"], by decide +kernel⟩
    · exact ⟨[some "z"], by decide +kernel⟩
    · exact ⟨[some "y"], by decide +kernel⟩
  obtain ⟨_, _, snapshots, posted⟩ := reach.names_refetched
  refine ⟨?_, sent, ?_⟩
  · obtain ⟨store, alive, all⟩ := Option.map_eq_some_iff.1 before
    have refetches := (snapshots "e" store alive).1 (named store (by rw [alive]; rfl))
    rw [all] at refetches
    exact ⟨store, alive, refetches⟩
  · obtain ⟨messages, published, about⟩ := posted 1 (.republish "e" "two\nlines")
    have single : messages = [repeated] := List.append_cancel_left (published.symm.trans sent)
    obtain ⟨store, entries, absent, alive, gives, refetches⟩ := about repeated (single ▸ List.mem_singleton_self _)
    have inside : ∀ entry ∈ entries, entry ∈ store.all := fun entry member => Keyed.mem_values.2 ⟨_, gives.present entry member⟩
    have same : some store.all = (quoting.origin.live["e"]?).map Store.all :=
      (congrArg (Option.map Store.all) alive).symm.trans after
    have again := refetches fun entry member => named store same entry (inside entry member)
    have ids : Payload.readIds repeated.payload = .ok ["two\nlines"] := by decide +kernel
    rw [Except.ok.inj (again.named.symm.trans ids)] at again
    exact again

end Site

end ReferenceFeed
