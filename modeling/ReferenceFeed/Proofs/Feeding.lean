import ReferenceFeed.Proofs.Course
import ReferenceFeed.Proofs.Fetching
import ReferenceFeed.Proofs.Served

namespace ReferenceFeed

/-!
The operations of an origin whose source serves from the tables of its site. Each of them takes effect with events as
such a source brings them, or fails before a subscriber was told of anything.
-/

/-- What is told of a table when it is reloaded under some settings. -/
def Table.reloading (t : Table) (settings : OriginSettings) (entity : String) : List Event :=
  replacing (.reload entity t.header) entity t.header (t.content.map (settings.fill entity t.header))

theorem Table.concerning_reloading (t : Table) (settings : OriginSettings) (entity other : String) :
    concerning other (t.reloading settings entity) = if entity = other then t.reloading settings entity else [] :=
  concerning_replacing rfl ..

namespace Site

variable {c : Conduct} {s₀ s u : Site} {number : Nat} {α : Type}

/-- What stages absorb is told by the owner of a transaction, event by event. -/
theorem Underway.absorb {taken events told : List Event} {stages next : Stages}
    (under : Underway s₀ number s.thread taken taken s) (session : s.origin.session number = ⟨some stages, true⟩)
    (absorbs : Stages.Absorbs s₀.origin.settings s₀.origin.live stages events told next) :
    ∃ after, Flow.effect (events.forM ((wiring c).event number)) s = (.ok (), after) ∧ after.thread = s.thread ∧
      after.catalogue = s.catalogue ∧ after.origin.session number = ⟨some next, true⟩ ∧
      Underway s₀ number s.thread (taken ++ told) (taken ++ told) after := by
  induction absorbs generalizing s taken with
  | nil => exact ⟨s, rfl, rfl, rfl, session, by rw [List.append_nil]; exact under⟩
  | @cons stages event one next rest others last takes _ ih =>
    obtain ⟨middle, ⟨_, goes, under⟩ | ⟨other, _⟩, thread, catalogue, session⟩ := under.take (c := c) session takes
    · obtain ⟨after, follows, same, tables, kept, under⟩ := ih (thread ▸ under) session
      refine ⟨after, ?_, same.trans thread, tables.trans catalogue, kept, ?_⟩
      · rw [Flow.effect_forM_cons, goes]
        exact follows
      · rw [thread, List.append_assoc] at under
        exact under
    · exact absurd rfl other

theorem effect_fetchInto (request : Request) (s : Site) :
    Flow.effect ((wiring c).fetchInto request number) s =
      Flow.effect ((c.fetch s request).play ((wiring c).receive number)) s := by
  simp only [Origin.Wiring.fetchInto, Flow.effect_bind, Flow.effect_get]
  rfl

/-- A feed of events is announced event by event. -/
theorem effect_play (events : List Event) (s : Site) :
    Flow.effect ((Feed.ofEvents events).play ((wiring c).receive number)) s =
      Flow.effect (events.forM ((wiring c).event number)) s := by
  have announced : Flow.effect ((events.map Signal.event).forM ((wiring c).receive number)) s =
      Flow.effect (events.forM ((wiring c).event number)) s := Flow.effect_forM_map _ _ _ _
  simp only [Feed.play, Feed.ofEvents, Flow.effect_bind, announced, Flow.effect_resume]
  rcases Flow.effect (events.forM ((wiring c).event number)) s with ⟨_ | _, _⟩ <;> rfl

/-- The source of a site serves from the tables of the site. -/
structure Tabled (c : Conduct) : Prop where
  serves : ∀ site, c.serves site = .ok site.catalogue.entities
  fetch : ∀ site request, c.fetch site request = site.catalogue.fetch request

theorem Tabled.fetch_missing (tabled : Tabled c) {request : Request} (missing : s.catalogue.tables[request.entity]? = none) :
    c.fetch s request = .failing (.unknownEntity request.entity) := by
  rw [tabled.fetch, Catalogue.fetch, Catalogue.table, missing]

theorem Tabled.fetch_table (tabled : Tabled c) {request : Request} {t : Table}
    (found : s.catalogue.tables[request.entity]? = some t) : c.fetch s request = t.fetch request := by
  rw [tabled.fetch, Catalogue.fetch, Catalogue.table, found]

theorem effect_fetchInto_failing {request : Request} {cause : Failure} (feeds : c.fetch s request = .failing cause) :
    Flow.effect ((wiring c).fetchInto request number) s = (.error (.failure cause), s) := by
  rw [effect_fetchInto, feeds]
  rfl

/-- What a source sends is told, if it can be taken in. -/
theorem Underway.fetched {taken events told : List Event} {stages next : Stages} {request : Request}
    (under : Underway s₀ number s.thread taken taken s) (session : s.origin.session number = ⟨some stages, true⟩)
    (feeds : c.fetch s request = .ofEvents events)
    (absorbs : Stages.Absorbs s₀.origin.settings s₀.origin.live stages events told next) :
    ∃ after, Flow.effect ((wiring c).fetchInto request number) s = (.ok (), after) ∧ after.thread = s.thread ∧
      after.catalogue = s.catalogue ∧ after.origin.session number = ⟨some next, true⟩ ∧
      Underway s₀ number s.thread (taken ++ told) (taken ++ told) after := by
  rw [effect_fetchInto, feeds, effect_play]
  exact under.absorb session absorbs

theorem Begun.failing {Well : List Event → Prop} (begun : Begun s number u) {outcome : Except Fault α × Site} {fault : Fault}
    (fails : outcome = (.error fault, u)) : Brought s Well (· = []) number outcome := by
  rw [fails]
  exact ⟨[], begun.thread, begun.under, rfl⟩

theorem Begun.well {Well Ill : List Event → Prop} (begun : Begun s number u) {outcome : Except Fault α × Site} {value : α}
    {after : Site} {taken : List Event} (ends : outcome = (.ok value, after)) (thread : after.thread = u.thread)
    (under : Underway s number u.thread ([] ++ taken) ([] ++ taken) after) (well : Well taken) :
    Brought s Well Ill number outcome := by
  rw [ends]
  rw [begun.thread] at under thread
  exact ⟨taken, thread, under, well⟩

/-- An entity that has a table is reloaded with all that the table has. -/
theorem Begun.reloading {Well Ill : List Event → Prop} (begun : Begun s number u) (tabled : Tabled c) {entity : String} {t : Table}
    (found : s.catalogue.tables[entity]? = some t) (sound : t.Sound)
    (well : ∀ told next, Stages.Absorbs s.origin.settings s.origin.live ∅
      (replacing (.reload entity t.header) entity t.header t.content) told next → Well told) :
    Brought s Well Ill number (Flow.effect ((wiring c).fetchInto (.whole entity) number) u) := by
  have feeds : c.fetch u (.whole entity) = _ := (tabled.fetch_table (begun.catalogue ▸ found)).trans (sound.fetch_content entity)
  have untouched : (∅ : Stages)[entity]? = none := Std.ExtTreeMap.getElem?_empty
  obtain ⟨told, next, absorbs, _⟩ :=
    Stages.absorbs_whole s.origin.settings s.origin.live untouched sound.content_written
  obtain ⟨after, goes, thread, _, _, under⟩ :=
    (begun.thread.symm ▸ begun.under).fetched (c := c) begun.session feeds absorbs
  exact begun.well goes thread under (well told next absorbs)

/-- What holds a group value is replaced by all that the table has of it. -/
theorem Begun.regrouping {Well Ill : List Event → Prop} (begun : Begun s number u) {entity : String} {key : GroupValue}
    {store : Store} {entries : List Entry}
    (feeds : c.fetch u (.group entity key) =
      .ofEvents (replacing (.reloadGroup entity key.group key.value) entity store.header entries))
    (alive : s.origin.live[entity]? = some store) (declared : s.origin.settings.checkGroup entity key.group = .ok ())
    (written : ∀ entry ∈ entries, entry.Written store.header ∧ entry.groups[key.group]? = some key.value)
    (well : ∀ told next, Stages.Absorbs s.origin.settings s.origin.live ∅
      (replacing (.reloadGroup entity key.group key.value) entity store.header entries) told next → Well told) :
    Brought s Well Ill number (Flow.effect ((wiring c).fetchInto (.group entity key) number) u) := by
  have untouched : (∅ : Stages)[entity]? = none := Std.ExtTreeMap.getElem?_empty
  obtain ⟨told, next, absorbs, _⟩ := Stages.absorbs_group untouched declared alive written
  obtain ⟨after, goes, thread, _, _, under⟩ :=
    (begun.thread.symm ▸ begun.under).fetched (c := c) begun.session feeds absorbs
  exact begun.well goes thread under (well told next absorbs)

/-- An entity is reloaded in full, or it has no table. -/
theorem Tabled.brings_reload (tabled : Tabled c) (tables : s.catalogue.Sound) (entity : String) :
    Brings s (Served s.catalogue) (· = []) Unit ((wiring c).fetchInto (.whole entity)) := by
  intro number u begun
  rcases found : s.catalogue.tables[entity]? with _ | t
  · exact begun.failing (effect_fetchInto_failing (tabled.fetch_missing (begun.catalogue ▸ found)))
  · have sound := tables entity t found
    have columns : s.catalogue.header? entity = some t.header := Catalogue.header?_table found
    exact begun.reloading tabled found sound fun told next absorbs =>
      (Served.whole columns sound.content_written).absorbed absorbs

/-- Entities that have tables are reloaded one after another, and of each of them all is told that its table has. -/
theorem Tabled.reloads (tabled : Tabled c) (tables : s.catalogue.Sound) {entities : List String} (distinct : entities.Nodup)
    (known : ∀ entity ∈ entities, ∃ t, s.catalogue.tables[entity]? = some t) {taken : List Event} {stages : Stages}
    (under : Underway s number u.thread taken taken u) (catalogue : u.catalogue = s.catalogue)
    (session : u.origin.session number = ⟨some stages, true⟩) (untouched : ∀ entity ∈ entities, stages[entity]? = none) :
    ∃ told after, Flow.effect (entities.forM fun entity => (wiring c).fetchInto (.whole entity) number) u = (.ok (), after) ∧
      after.thread = u.thread ∧ Underway s number u.thread (taken ++ told) (taken ++ told) after ∧
      Served s.catalogue told ∧ (∀ event ∈ told, event.isRegrouping = false) ∧
      (∀ entity, entity ∉ entities → concerning entity told = []) ∧
      ∀ entity ∈ entities, ∀ t, s.catalogue.tables[entity]? = some t → concerning entity told = t.reloading s.origin.settings entity := by
  induction entities generalizing u taken stages with
  | nil =>
    refine ⟨[], u, rfl, rfl, ?_, .nil _, List.forall_mem_nil _, fun _ _ => rfl, List.forall_mem_nil _⟩
    rw [List.append_nil]
    exact under
  | cons entity rest ih =>
    rw [List.nodup_cons] at distinct
    obtain ⟨t, found⟩ := known entity List.mem_cons_self
    have sends := (tables entity t found).fetch_content entity
    have written := (tables entity t found).content_written
    have feeds : c.fetch u (.whole entity) = _ := (tabled.fetch_table (catalogue ▸ found)).trans sends
    obtain ⟨told, next, absorbs, outside⟩ := Stages.absorbs_whole s.origin.settings s.origin.live
      (untouched entity List.mem_cons_self) written
    obtain ⟨middle, goes, thread, same, session, under⟩ := under.fetched (c := c) session feeds absorbs
    obtain ⟨others, after, follows, last, under, served, ungrouped, elsewhere, each⟩ :=
      ih distinct.2 (fun other member => known other (List.mem_cons_of_mem _ member)) (thread.symm ▸ under)
        (same.trans catalogue) session fun other member => by
          rw [outside other fun here => distinct.1 (here ▸ member)]
          exact untouched other (List.mem_cons_of_mem _ member)
    have columns : s.catalogue.header? entity = some t.header := Catalogue.header?_table found
    have single := absorbs.ungrouped (replacing_ungrouped entity t.header t.content)
    have all : ∀ event ∈ told ++ others, event.isRegrouping = false := by
      intro event member
      exact (List.mem_append.1 member).elim (single event) (ungrouped event)
    have here : told = t.reloading s.origin.settings entity := absorbs.told_replacing rfl
    have own (other : String) : concerning other told = if entity = other then t.reloading s.origin.settings entity else [] :=
      here ▸ t.concerning_reloading s.origin.settings entity other
    have both (other : String) : concerning other (told ++ others) = concerning other told ++ concerning other others :=
      List.filter_append ..
    rw [thread] at last under
    rw [List.append_assoc] at under
    refine ⟨told ++ others, after, ?_, last, under, ?_, all, fun other absent => ?_, fun other member table there => ?_⟩
    · rw [Flow.effect_forM_cons, goes]
      exact follows
    · exact ((Served.whole columns written).absorbed absorbs).append served all
    · obtain ⟨differs, absent⟩ := not_or.1 (mt List.mem_cons.2 absent)
      rw [both, own, if_neg (Ne.symm differs), elsewhere other absent, List.append_nil]
    · rw [both, own]
      rcases List.mem_cons.1 member with rfl | later
      · cases found.symm.trans there
        rw [if_pos rfl, elsewhere other distinct.1, List.append_nil]
      · have differs : entity ≠ other := fun same => distinct.1 (same ▸ later)
        rw [if_neg differs, each other later table there, List.nil_append]

/-- All entities that have tables are reloaded in one transaction. -/
theorem Tabled.brings_reloadAll (tabled : Tabled c) (tables : s.catalogue.Sound) {Well Ill : List Event → Prop}
    (well : ∀ told, Served s.catalogue told → (∀ entity t, s.catalogue.tables[entity]? = some t →
      concerning entity told = t.reloading s.origin.settings entity) → Well told) :
    Brings s Well Ill PUnit fun number => s.catalogue.entities.forM fun entity => (wiring c).fetchInto (.whole entity) number := by
  intro number u begun
  have distinct : s.catalogue.entities.Nodup := by
    rw [Catalogue.entities, ← Std.ExtTreeMap.map_fst_toList_eq_keys]
    exact Keyed.nodup_toList _
  have known : ∀ entity ∈ s.catalogue.entities, ∃ t, s.catalogue.tables[entity]? = some t := by
    intro entity member
    exact ⟨_, Std.ExtTreeMap.getElem?_eq_some_getElem (Std.ExtTreeMap.mem_keys.1 member)⟩
  obtain ⟨told, after, goes, thread, under, served, _, _, each⟩ := tabled.reloads tables distinct known
    (begun.thread.symm ▸ begun.under) begun.catalogue begun.session fun _ _ => Std.ExtTreeMap.getElem?_empty
  refine begun.well goes thread under (well told served fun entity t found => each entity ?_ t found)
  exact Std.ExtTreeMap.mem_keys.2 (Std.ExtTreeMap.mem_iff_isSome_getElem?.2 (by rw [found]; rfl))

/-- Every store is under the columns of its table. -/
def Fitting (s : Site) : Prop := ∀ (entity : String) (store : Store), s.origin.live[entity]? = some store →
  s.catalogue.header? entity = some store.header

/-- What holds a group value is replaced in full, or the request is refused. -/
theorem Tabled.brings_reloadGroup (tabled : Tabled c) (tables : s.catalogue.Sound) (fitting : Fitting s) {entity : String}
    {key : GroupValue} (declared : s.origin.settings.checkGroup entity key.group = .ok ()) :
    Brings s (Served s.catalogue) (· = []) Unit ((wiring c).fetchInto (.group entity key)) := by
  intro number u begun
  rcases found : s.catalogue.tables[entity]? with _ | t
  · exact begun.failing (effect_fetchInto_failing (tabled.fetch_missing (begun.catalogue ▸ found)))
  · have answers : c.fetch u (.group entity key) = t.fetch (.group entity key) :=
      tabled.fetch_table (begun.catalogue ▸ found)
    rcases (tables entity t found).fetch_group entity key with ⟨cause, refuses⟩ | ⟨entries, sends, written⟩
    · exact begun.failing (effect_fetchInto_failing (answers.trans refuses))
    · have feeds := answers.trans sends
      rcases alive : s.origin.live[entity]? with _ | store
      · have refused : Stages.take s.origin.settings s.origin.live (some ∅) (.reloadGroup entity key.group key.value) =
            .error (.unknownEntity entity) := by
          simp only [Stages.take, declared, liveStore, alive, bind, Except.bind]
        have event := effect_event c number u (.reloadGroup entity key.group key.value)
        rw [begun.session, begun.under.unchanged.settings, begun.under.unchanged.live, refused] at event
        have fails : Flow.effect ((wiring c).fetchInto (.group entity key) number) u =
            (.error (.failure (.unknownEntity entity)), u) := by
          rw [effect_fetchInto, feeds, effect_play, replacing, Flow.effect_forM_cons, event]
        exact begun.failing fails
      · have columns : s.catalogue.header? entity = some t.header := Catalogue.header?_table found
        have same : store.header = t.header := Option.some.inj ((fitting entity store alive).symm.trans columns)
        rw [← same] at feeds written columns
        have served : Served s.catalogue (replacing (.reloadGroup entity key.group key.value) entity store.header entries) :=
          .replacing trivial rfl rfl columns fun entry member => (written entry member).1
        exact begun.regrouping feeds alive declared written fun told next absorbs => served.absorbed absorbs

variable {Well : List Event → Prop} {entity : String}

/-- A producer that needs the store of an entity fails at once where there is none. -/
theorem Begun.asking (begun : Begun s number u) {next : Store → Flow Site α}
    (continues : ∀ store, s.origin.live[entity]? = some store → Brought s Well (· = []) number (Flow.effect (next store) u)) :
    Brought s Well (· = []) number (Flow.effect ((wiring c).ask (·.store entity) >>= next) u) := by
  rw [Flow.effect_bind, effect_ask, Origin.store, begun.under.unchanged.live]
  rcases alive : s.origin.live[entity]? with _ | store
  · rw [liveStore, alive]
    exact begun.failing rfl
  · rw [liveStore, alive]
    exact continues store alive

/-- Entries that are fetched by their ids are written as their table is, or nothing is fetched. -/
theorem Begun.fetching (begun : Begun s number u) (tabled : Tabled c) (tables : s.catalogue.Sound) {ids : Names}
    {header : Header} (columns : s.catalogue.header? entity = some header) {next : List Entry → Flow Site α}
    (continues : ∀ fetched : List Entry, (∀ entry ∈ fetched, entry.Written header) →
      Brought s Well (· = []) number (Flow.effect (next fetched) u)) :
    Brought s Well (· = []) number (Flow.effect ((wiring c).fetchIds entity ids >>= next) u) := by
  rw [Flow.effect_bind, effect_fetchIds]
  rcases collects : Origin.collect (c.fetch u (.ids entity ids)) entity with fault | fetched
  · exact begun.failing rfl
  · refine continues fetched fun entry member => ?_
    obtain ⟨t, found, rfl⟩ := Option.map_eq_some_iff.1 columns
    obtain ⟨header, sent⟩ := Origin.mem_collect collects entry member
    have feeds : c.fetch u (.ids entity ids) = t.fetch (.ids entity ids) := tabled.fetch_table (begun.catalogue ▸ found)
    rw [feeds] at sent
    rcases (tables entity t found).mem_fetch_ids sent with absurd | ⟨other, spelled, same⟩ | ⟨_, absurd⟩
    · cases absurd
    · cases same
      exact spelled
    · cases absurd

/-- What can be taken in is announced to the end. -/
theorem Begun.telling {Ill : List Event → Prop} (begun : Begun s number u) {store : Store} {delta : Delta} {told : List Event}
    {next : Stages} (absorbs : Stages.Absorbs s.origin.settings s.origin.live ∅ (delta.events entity store.header) told next)
    (well : Well told) : Brought s Well Ill number (Flow.effect ((wiring c).announce number store entity delta) u) := by
  obtain ⟨after, goes, thread, _, _, under⟩ := (begun.thread.symm ▸ begun.under).absorb (c := c) begun.session absorbs
  have ends : Flow.effect ((wiring c).announce number store entity delta) u = (.ok delta.changes, after) := by
    rw [Origin.Wiring.announce, Flow.effect_bind, goes]
    rfl
  exact begun.well ends thread under well

/-- What changed among written entries is announced to the end. -/
theorem Begun.announcing (begun : Begun s number u) {store : Store} (alive : s.origin.live[entity]? = some store)
    (columns : s.catalogue.header? entity = some store.header) {delta : Delta}
    (written : ∀ entry ∈ delta.fetched, entry.Written store.header) :
    Brought s (Served s.catalogue) (· = []) number (Flow.effect ((wiring c).announce number store entity delta) u) := by
  obtain ⟨told, next, absorbs⟩ := Delta.absorbed alive written
  exact begun.telling absorbs ((Served.changes columns written).absorbed absorbs)

/-- Producers of a site that bring what its tables serve. -/
abbrev Serving (s : Site) : ∀ γ : Type, (Nat → Flow Site γ) → Prop := Brings s.begun (Served s.catalogue) (· = [])

theorem Tabled.whole_reload (tabled : Tabled c) (tables : s.catalogue.Sound) (entity : String) :
    Whole c (Serving s) ((wiring c).reload entity) s := by
  have brings : Serving s Unit ((wiring c).fetchInto (.whole entity)) := tabled.brings_reload (s := s.begun) tables entity
  exact whole_run brings s

theorem Tabled.whole_reloadAll (tabled : Tabled c) (tables : s.catalogue.Sound) : Whole c (Serving s) (wiring c).reloadAll s := by
  have served : Whole c (Serving s) (Flow.resume (c.serves s) >>= fun entities : List String => (wiring c).run fun number =>
      entities.forM fun entity => (wiring c).fetchInto (.whole entity) number) s := by
    refine .after (by rw [Flow.effect_resume]) fun entities serves => whole_run ?_ s
    rw [tabled.serves, Flow.effect_resume] at serves
    cases serves
    exact tabled.brings_reloadAll (s := s.begun) tables fun told served _ => served
  exact served

theorem Tabled.whole_reloadGroup (tabled : Tabled c) (tables : s.catalogue.Sound) (fitting : Fitting s) (entity : String)
    (key : GroupValue) : Whole c (Serving s) ((wiring c).reloadGroup entity key) s := by
  refine .after (by rw [effect_ask]) fun done declares => whole_run ?_ s
  rw [effect_ask] at declares
  rcases declared : s.origin.settings.checkGroup entity key.group with cause | _
  · rw [declared] at declares
    cases declares
  · exact tabled.brings_reloadGroup (s := s.begun) tables fitting declared

theorem Tabled.whole_refresh (tabled : Tabled c) (tables : s.catalogue.Sound) (fitting : Fitting s) (entity : String)
    (ids : Names) : Whole c (Serving s) ((wiring c).refresh entity ids) s := by
  refine whole_run (fun number u begun => ?_) s
  refine begun.asking fun store alive => ?_
  have columns := fitting entity store alive
  refine begun.fetching tabled tables columns fun fetched written => ?_
  exact begun.announcing alive columns written

theorem Tabled.whole_refreshNamed (tabled : Tabled c) (tables : s.catalogue.Sound) (fitting : Fitting s) (entity text : String) :
    Whole c (Serving s) ((wiring c).refreshNamed entity text) s :=
  .after (by rw [Flow.effect_ofExcept]) fun ids _ => tabled.whole_refresh tables fitting entity (Names.ofList ids)

theorem Tabled.whole_republish (tabled : Tabled c) (tables : s.catalogue.Sound) (fitting : Fitting s) (entity id : String) :
    Whole c (Serving s) ((wiring c).republish entity id) s := by
  refine whole_run (fun number u begun => ?_) s
  refine begun.asking fun store alive => ?_
  have columns := fitting entity store alive
  refine begun.fetching tabled tables columns fun fetched written => ?_
  refine begun.announcing alive columns fun entry member => ?_
  unfold Delta.ofRepublish at member
  split at member
  · next first found =>
    cases List.mem_singleton.1 member
    exact written _ (List.mem_of_head? found)
  · cases member

/-- Rows that are applied were checked against the columns that are live. -/
theorem Tabled.whole_applyRows (tabled : Tabled c) (tables : s.catalogue.Sound) (fitting : Fitting s) (entity : String)
    (header : Header) (rows : List String) : Whole c (Serving s) ((wiring c).applyRows entity header rows) s := by
  refine .applyRows (fun _ ids => tabled.whole_refresh tables fitting entity ids) fun _ old claims alive reads => ?_
  refine whole_run (fun number u begun => ?_) s
  refine begun.asking fun store there => ?_
  cases alive.symm.trans there
  exact begun.announcing alive (fitting entity old alive) (Claims.ofRows_written reads)

/-- Every whole action is one that serves from the tables, and its result is its answer. -/
theorem Tabled.perform_whole (tabled : Tabled c) (tables : s.catalogue.Sound) (fitting : Fitting s) {action : Action}
    (isWhole : action.isWhole = true) :
    ∃ (α : Type) (operation : Flow Site α) (answer : α → Answer),
      perform c action = answer <$> operation ∧ Whole c (Serving s) operation s := by
  cases action with
  | reload entity => exact ⟨_, _, _, rfl, tabled.whole_reload tables entity⟩
  | reloadAll => exact ⟨_, _, _, rfl, tabled.whole_reloadAll tables⟩
  | reloadGroup entity key => exact ⟨_, _, _, rfl, tabled.whole_reloadGroup tables fitting entity key⟩
  | refresh entity ids => exact ⟨_, _, _, rfl, tabled.whole_refresh tables fitting entity ids⟩
  | refreshNamed entity text => exact ⟨_, _, _, rfl, tabled.whole_refreshNamed tables fitting entity text⟩
  | applyRows entity header rows => exact ⟨_, _, _, rfl, tabled.whole_applyRows tables fitting entity header rows⟩
  | republish entity id => exact ⟨_, _, _, rfl, tabled.whole_republish tables fitting entity id⟩
  | begin | call | drop | subscribe | unsubscribe | register | mutate => cases isWhole

end Site

end ReferenceFeed
