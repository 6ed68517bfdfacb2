import ReferenceFeed.Proofs.Feeding

namespace ReferenceFeed

/-!
The columns under which entries are brought. A block is checked against the columns that its entity is going to have, an
update is not. So what a source sends under the columns it names itself is as wide as these columns, and what was fetched
by ids is as wide as the table it was fetched from.
-/

/-- The columns of an entity are decided by its first event. -/
theorem columnsAfter_append (before : Option Store) {events : List Event} (some_event : events ≠ []) (more : List Event) :
    columnsAfter before (events ++ more) = columnsAfter before events := by
  cases events with
  | nil => exact absurd rfl some_event
  | cons first rest => cases first <;> rfl

theorem columnsAfter_kept (before : Option Store) {events : List Event} (plain : ∀ event ∈ events, event.isMarker = false) :
    columnsAfter before events = before.map Store.header := by
  cases events with
  | nil => rfl
  | cons first rest =>
    have unmarked := plain first List.mem_cons_self
    cases first with
    | reload | reloadGroup => cases unmarked
    | block | update | remove => rfl

namespace Stage

variable {live : Keyed Store} {entity : String} {events : List Event} {before : Option Stage} {event : Event} {next : Stage}

/-- A block that is taken in names the columns that its entity is going to have. -/
theorem Takes.columns {header : Header} (takes : Takes live before (.block entity header) next)
    (reflects : Reflects live entity events before) :
    columnsAfter live[entity]? (events ++ [.block entity header]) = some header := by
  cases takes with
  | beginWhole =>
    cases reflects with
    | whole named columns => exact congrArg some columns.symm
  | beginGroup alive =>
    cases reflects with
    | group => exact congrArg (Option.map Store.header) alive
  | beginAgain alive =>
    cases reflects with
    | sparse => exact congrArg (Option.map Store.header) alive
  | begin alive =>
    cases reflects with
    | untouched => exact congrArg (Option.map Store.header) alive

/-- A stage is marked, or begun by a block, or had begun before. -/
theorem Takes.begun (takes : Takes live before event next) :
    next.begun = false ∧ event.isMarker = true ∨ (∃ header, event = .block event.entity header) ∨
      ∃ stage, before = some stage ∧ stage.begun = true := by
  cases takes with
  | reload | reloadGroup => exact .inl ⟨rfl, rfl⟩
  | beginWhole | beginGroup | beginAgain | begin => exact .inr (.inl ⟨_, rfl⟩)
  | updateWhole | updateGroup | updateSparse | removeWhole | removeGroup | removeSparse => exact .inr (.inr ⟨_, rfl, rfl⟩)

end Stage

namespace Stages

/-- Events that were taken in, each update of them after a block that names the columns its entity is going to have. -/
structure Headed (live : Keyed Store) (stages : Stages) (taken : List Event) : Prop where
  blocks : ∀ entity header, .block entity header ∈ taken → columnsAfter live[entity]? (concerning entity taken) = some header
  begun : ∀ (entity : String) (stage : Stage), stages[entity]? = some stage → stage.begun = true →
    ∃ header, .block entity header ∈ taken
  updates : ∀ entity header entry, .update entity header entry ∈ taken → ∃ named, .block entity named ∈ taken

variable {settings : OriginSettings} {live : Keyed Store} {stages next : Stages} {taken : List Event} {event told : Event}

theorem Headed.empty (live : Keyed Store) : Headed live ∅ [] where
  blocks _ _ absurd := by cases absurd
  begun entity stage found := by
    rw [Std.ExtTreeMap.getElem?_empty] at found
    cases found
  updates _ _ _ absurd := by cases absurd

theorem Headed.take (headed : Headed live stages taken) (reflect : Reflect live stages taken)
    (took : Stages.take settings live (some stages) event = .ok (told, next)) : Headed live next (taken ++ [told]) := by
  obtain ⟨complete, stage, rfl, takes⟩ := take_ok took
  have same := Event.completed_entity complete
  rw [← same] at takes ⊢
  -- A stage that is begun has had its block, and so has one that takes anything but a marker.
  have opened : stage.begun = true ∨ told.isMarker = false → ∃ header, .block told.entity header ∈ taken ++ [told] := by
    intro unmarked
    rcases takes.begun with ⟨idle, marker⟩ | ⟨header, here⟩ | ⟨earlier, found, begun⟩
    · rw [idle, marker] at unmarked
      rcases unmarked with absurd | absurd <;> cases absurd
    · exact ⟨header, List.mem_append_right _ (List.mem_singleton.2 here.symm)⟩
    · obtain ⟨header, member⟩ := headed.begun _ _ found begun
      exact ⟨header, List.mem_append_left _ member⟩
  refine ⟨fun entity header member => ?_, fun entity now found begun => ?_, fun entity header entry member => ?_⟩
  · rcases List.mem_append.1 member with before | last
    · have own : .block entity header ∈ concerning entity taken := List.mem_filter.2 ⟨before, decide_eq_true rfl⟩
      have parts : concerning entity (taken ++ [told]) = concerning entity taken ++ concerning entity [told] := List.filter_append ..
      rw [parts, columnsAfter_append _ (List.ne_nil_of_mem own)]
      exact headed.blocks entity header before
    · cases List.mem_singleton.1 last
      have here : (Event.block entity header).entity = entity := rfl
      rw [concerning_append_self here]
      exact takes.columns (reflect entity)
  · rw [Keyed.getElem?_insert] at found
    split at found
    · next here =>
      cases found
      exact here ▸ opened (.inl begun)
    · obtain ⟨header, member⟩ := headed.begun entity now found begun
      exact ⟨header, List.mem_append_left _ member⟩
  · rcases List.mem_append.1 member with before | last
    · obtain ⟨named, block⟩ := headed.updates entity header entry before
      exact ⟨named, List.mem_append_left _ block⟩
    · cases List.mem_singleton.1 last
      exact opened (.inr rfl)

end Stages

/-- Entries that are as wide as the columns their entities are going to have. -/
def Level (live : Keyed Store) (events : List Event) : Prop :=
  ∀ entity header entry, .update entity header entry ∈ events →
    ∃ columns, columnsAfter live[entity]? (concerning entity events) = some columns ∧ entry.Written columns

namespace Event

/-- An event that agrees with some columns: a block names them, and an entry is as wide as they are. -/
def Sent (columns : String → Option Header) : Event → Prop
  | .block entity header => columns entity = some header
  | .update entity _ entry => ∃ header, columns entity = some header ∧ entry.Written header
  | .reload _ _ | .reloadGroup _ _ _ | .remove _ _ => True

/-- An event about entries that were fetched from a table by their ids. -/
def Fetched (c : Catalogue) (entity : String) : Event → Prop
  | .update other _ entry => other = entity ∧ ∃ header, c.header? entity = some header ∧ entry.Written header
  | .reload _ _ | .reloadGroup _ _ _ => False
  | .block _ _ | .remove _ _ => True

variable {columns : String → Option Header} {c : Catalogue} {entity : String} {settings : OriginSettings} {event told : Event}

theorem Sent.completed (sent : event.Sent columns) (complete : event.completed settings = .ok told) : told.Sent columns := by
  cases event with
  | update entity header entry =>
    obtain ⟨filled, fills, rfl⟩ := map_ok complete
    obtain ⟨named, known, written⟩ := sent
    exact ⟨named, known, (OriginSettings.complete_filled fills).written written⟩
  | reload | reloadGroup | block | remove =>
    cases complete
    exact sent

theorem Fetched.completed (fetched : event.Fetched c entity) (complete : event.completed settings = .ok told) :
    told.Fetched c entity := by
  cases event with
  | update other header entry =>
    obtain ⟨filled, fills, rfl⟩ := map_ok complete
    obtain ⟨here, named, known, written⟩ := fetched
    exact ⟨here, named, known, (OriginSettings.complete_filled fills).written written⟩
  | reload | reloadGroup => exact fetched.elim
  | block | remove =>
    cases complete
    trivial

theorem Fetched.plain (fetched : event.Fetched c entity) : event.isMarker = false := by
  cases event with
  | reload | reloadGroup => exact fetched.elim
  | block | update | remove => rfl

end Event

/-- Who names the same columns in blocks and for entries brings entries as wide as the columns will be. -/
theorem Stages.Headed.level {live : Keyed Store} {stages : Stages} {taken : List Event} (headed : Headed live stages taken)
    {columns : String → Option Header} (sent : ∀ event ∈ taken, event.Sent columns) : Level live taken := by
  intro entity header entry member
  obtain ⟨named, block⟩ := headed.updates entity header entry member
  obtain ⟨known, found, written⟩ := sent _ member
  have agreed : columns entity = some named := sent _ block
  rw [agreed] at found
  cases found
  exact ⟨named, headed.blocks entity named block, written⟩

theorem Event.sent_replacing {columns : String → Option Header} {marker event : Event} {entity : String} {header : Header}
    {entries : List Entry} (marks : marker.Sent columns) (known : columns entity = some header)
    (written : ∀ entry ∈ entries, entry.Written header) (member : event ∈ replacing marker entity header entries) :
    event.Sent columns := by
  rcases mem_replacing.1 member with rfl | rfl | ⟨entry, brought, rfl⟩
  · exact marks
  · exact known
  · exact ⟨header, known, written entry brought⟩

/-- What a source of tables sends agrees with the columns of the tables. -/
theorem Catalogue.Sound.fetch_sent {c : Catalogue} (sound : c.Sound) {request : Request} {event : Event}
    (sends : .event event ∈ (c.fetch request).signals) : event.Sent c.header? := by
  unfold Catalogue.fetch at sends
  split at sends
  · cases sends
  · next t found =>
    have found := table_ok found
    have known : c.header? request.entity = some t.header := header?_table found
    have rows := sound _ t found
    cases request with
    | whole entity =>
      rw [rows.fetch_content entity] at sends
      have among := Feed.mem_ofEvents sends
      exact Event.sent_replacing (by trivial) known rows.content_written among
    | ids entity ids =>
      rcases rows.mem_fetch_ids sends with rfl | ⟨entry, written, rfl⟩ | ⟨id, rfl⟩
      · exact known
      · exact ⟨t.header, known, written⟩
      · trivial
    | group entity key =>
      rcases rows.fetch_group entity key with ⟨cause, refuses⟩ | ⟨entries, brings, written⟩
      · rw [refuses] at sends
        cases sends
      · rw [brings] at sends
        have among := Feed.mem_ofEvents sends
        exact Event.sent_replacing (by trivial) known (fun entry member => (written entry member).1) among

namespace Site

/-- A transaction of a site that has taken in events of some kind only. -/
structure Confined (s : Site) (Kind : Event → Prop) (number : Nat) (u : Site) : Prop where
  thread : u.thread = s.thread
  catalogue : u.catalogue = s.catalogue
  staged : ∃ stages taken, u.origin.session number = ⟨some stages, true⟩ ∧ Underway s number s.thread taken taken u ∧
    Stages.Headed s.origin.live stages taken ∧ ∀ event ∈ taken, Kind event

variable {c : Conduct} {s u : Site} {number : Nat} {Kind : Event → Prop} {α : Type} {entity : String}

theorem Begun.confined (begun : Begun s number u) : Confined s Kind number u :=
  ⟨begun.thread, begun.catalogue, ∅, [], begun.session, begun.under, .empty _, List.forall_mem_nil _⟩

theorem Confined.live (confined : Confined s Kind number u) : u.origin.live = s.origin.live := by
  obtain ⟨_, _, _, under, _⟩ := confined.staged
  exact under.unchanged.live

/-- An event of the kind that is refused changes nothing, and one that is not refused is of the kind. -/
theorem keeps_event {event : Event} (kind : ∀ told, event.completed s.origin.settings = .ok told → Kind told) :
    Flow.Keeps (Confined s Kind number) ((wiring c).event number event) := by
  intro u confined
  obtain ⟨stages, taken, session, under, headed, kinds⟩ := confined.staged
  obtain ⟨before, staged, reflect⟩ := under.staged
  rw [session] at staged
  cases staged
  rcases took : Stages.take s.origin.settings s.origin.live (some stages) event with cause | ⟨told, next⟩
  · have refused : Flow.effect ((wiring c).event number event) u = (.error (.failure cause), u) := by
      rw [effect_event, session, under.unchanged.settings, under.unchanged.live, took]
    rw [refused]
    exact confined
  · obtain ⟨after, ⟨_, goes, later⟩ | ⟨foreign, _⟩, thread, catalogue, kept⟩ := under.take (c := c) session took
    · rw [goes]
      refine ⟨thread.trans confined.thread, catalogue.trans confined.catalogue, next, _, kept, later, headed.take reflect took, ?_⟩
      intro one member
      rcases List.mem_append.1 member with before | last
      · exact kinds one before
      · cases List.mem_singleton.1 last
        exact kind told (Stages.take_ok took).1
    · exact absurd confined.thread foreign

/-- What a source sends is told if it is not refused, as a table sends it. -/
theorem Tabled.keeps_sending (tabled : Tabled c) {request : Request}
    (kinds : ∀ event, .event event ∈ (s.catalogue.fetch request).signals →
      ∀ told, event.completed s.origin.settings = .ok told → Kind told) :
    Flow.Keeps (Confined s Kind number) ((wiring c).fetchInto request number) := by
  intro u confined
  have feeds : c.fetch u request = s.catalogue.fetch request := by rw [tabled.fetch, confined.catalogue]
  have plays : Flow.Keeps (Confined s Kind number) ((s.catalogue.fetch request).play ((wiring c).receive number)) := by
    refine .bind (.forM fun signal member => ?_) fun _ => .resume _
    obtain ⟨event, rfl⟩ := s.catalogue.fetch_events request signal member
    exact keeps_event (kinds event member)
  rw [effect_fetchInto, feeds]
  exact plays u confined

theorem Tabled.keeps_fetchInto (tabled : Tabled c) (tables : s.catalogue.Sound) (request : Request) :
    Flow.Keeps (Confined s (Event.Sent s.catalogue.header?) number) ((wiring c).fetchInto request number) :=
  tabled.keeps_sending fun _ member _ complete => (tables.fetch_sent member).completed complete

theorem keeps_ask {next : Store → Flow Site α}
    (continues : ∀ store, s.origin.live[entity]? = some store → Flow.Keeps (Confined s Kind number) (next store)) :
    Flow.Keeps (Confined s Kind number) ((wiring c).ask (·.store entity) >>= next) := by
  refine .bind_of (.of_same fun u => by rw [effect_ask]) fun store => ?_
  rintro ⟨u, confined, found⟩
  rw [effect_ask, Origin.store, confined.live] at found
  rcases alive : liveStore s.origin.live entity with cause | there
  · rw [alive] at found
    cases found
  · rw [alive] at found
    cases found
    exact continues store (liveStore_ok alive)

/-- What is collected by ids was sent by a table. -/
theorem Tabled.keeps_collecting (tabled : Tabled c) {ids : Names} {next : List Entry → Flow Site α}
    (continues : ∀ fetched : List Entry,
      (∀ entry ∈ fetched, ∃ header, .event (.update entity header entry) ∈ (s.catalogue.fetch (.ids entity ids)).signals) →
      Flow.Keeps (Confined s Kind number) (next fetched)) :
    Flow.Keeps (Confined s Kind number) ((wiring c).fetchIds entity ids >>= next) := by
  refine .bind_of (.of_same fun u => by rw [effect_fetchIds]) fun fetched => ?_
  rintro ⟨u, confined, collects⟩
  rw [effect_fetchIds, tabled.fetch, confined.catalogue] at collects
  exact continues fetched (Origin.mem_collect collects)

/-- What is fetched by ids is as wide as the table. -/
theorem Tabled.keeps_fetchIds (tabled : Tabled c) (tables : s.catalogue.Sound) {ids : Names} {next : List Entry → Flow Site α}
    (continues : ∀ fetched : List Entry,
      (∀ entry ∈ fetched, ∃ header, s.catalogue.header? entity = some header ∧ entry.Written header) →
      Flow.Keeps (Confined s Kind number) (next fetched)) :
    Flow.Keeps (Confined s Kind number) ((wiring c).fetchIds entity ids >>= next) := by
  refine tabled.keeps_collecting fun fetched sent => continues fetched fun entry member => ?_
  obtain ⟨header, sends⟩ := sent entry member
  exact tables.fetch_sent sends

theorem keeps_announce {store : Store} {delta : Delta}
    (kinds : ∀ event ∈ delta.events entity store.header, ∀ told, event.completed s.origin.settings = .ok told → Kind told) :
    Flow.Keeps (Confined s Kind number) ((wiring c).announce number store entity delta) :=
  .bind (.forM fun event member => keeps_event (kinds event member)) fun _ => .pure _

theorem keeps_announce_fetched {store : Store} {delta : Delta}
    (spelled : ∀ entry ∈ delta.fetched, ∃ header, s.catalogue.header? entity = some header ∧ entry.Written header) :
    Flow.Keeps (Confined s (Event.Fetched s.catalogue entity) number) ((wiring c).announce number store entity delta) := by
  refine keeps_announce fun event member told complete => Event.Fetched.completed ?_ complete
  rcases Delta.mem_events member with rfl | ⟨entry, fetched, rfl⟩ | ⟨id, rfl⟩
  · trivial
  · exact ⟨rfl, spelled entry fetched⟩
  · trivial

/-- The columns of the stores that are live. -/
def columns (s : Site) (entity : String) : Option Header := (s.origin.live[entity]?).map Store.header

theorem keeps_announce_claimed {store : Store} {delta : Delta} (alive : s.origin.live[entity]? = some store)
    (spelled : ∀ entry ∈ delta.fetched, entry.Written store.header) :
    Flow.Keeps (Confined s (Event.Sent s.columns) number) ((wiring c).announce number store entity delta) := by
  have known : s.columns entity = some store.header := congrArg (Option.map Store.header) alive
  refine keeps_announce fun event member told complete => Event.Sent.completed ?_ complete
  rcases Delta.mem_events member with rfl | ⟨entry, claimed, rfl⟩ | ⟨id, rfl⟩
  · exact known
  · exact ⟨store.header, known, spelled entry claimed⟩
  · trivial

/-- The entity of which an action fetches entries by their ids, whatever their columns are. -/
def Action.refetches (policy : UpdatePolicy) : Action → Option String
  | .refresh entity _ | .refreshNamed entity _ | .republish entity _ => some entity
  | .applyRows entity _ _ => if policy = .trusted then none else some entity
  | _ => none

/-- Entries as wide as their columns are going to be, or as the table they were fetched from by their ids. -/
def Lined (s : Site) (refetched : Option String) (taken : List Event) : Prop :=
  match refetched with
  | none => Level s.origin.live taken
  | some entity => ∀ event ∈ taken, event.Fetched s.catalogue entity

/-- Producers of a site that bring such entries, if they end well. -/
abbrev Lining (s : Site) (refetched : Option String) : ∀ γ : Type, (Nat → Flow Site γ) → Prop :=
  Brings s.begun (Lined s refetched) fun _ => True

theorem Confined.brought {Well : List Event → Prop} {outcome : Except Fault α × Site} (confined : Confined s Kind number outcome.2)
    (well : ∀ stages taken, Stages.Headed s.origin.live stages taken → (∀ event ∈ taken, Kind event) → Well taken) :
    Brought s Well (fun _ => True) number outcome := by
  obtain ⟨stages, taken, _, under, headed, kinds⟩ := confined.staged
  refine ⟨taken, confined.thread, under, ?_⟩
  rcases outcome.1 with fault | value
  · trivial
  · exact well stages taken headed kinds

theorem lining_sent {producer : Nat → Flow Site α} (columns : String → Option Header)
    (keeps : ∀ number, Flow.Keeps (Confined s.begun (Event.Sent columns) number) (producer number)) :
    Lining s none α producer := by
  intro number u begun
  have confined := keeps number u begun.confined
  exact confined.brought fun stages taken headed sent => headed.level sent

theorem lining_fetched {producer : Nat → Flow Site α}
    (keeps : ∀ number, Flow.Keeps (Confined s.begun (Event.Fetched s.catalogue entity) number) (producer number)) :
    Lining s (some entity) α producer := by
  intro number u begun
  have confined := keeps number u begun.confined
  exact confined.brought fun stages taken _ fetched => fetched

theorem Tabled.lines_refresh (tabled : Tabled c) (tables : s.catalogue.Sound) (entity : String) (ids : Names) :
    Whole c (Lining s (some entity)) ((wiring c).refresh entity ids) s := by
  refine whole_run (lining_fetched fun number => ?_) s
  refine keeps_ask fun store _ => ?_
  exact tabled.keeps_fetchIds (s := s.begun) tables fun fetched spelled => keeps_announce_fetched spelled

theorem Tabled.lines_republish (tabled : Tabled c) (tables : s.catalogue.Sound) (entity id : String) :
    Whole c (Lining s (some entity)) ((wiring c).republish entity id) s := by
  refine whole_run (lining_fetched fun number => ?_) s
  refine keeps_ask fun store _ => ?_
  refine tabled.keeps_fetchIds (s := s.begun) tables fun fetched spelled => keeps_announce_fetched fun entry member => ?_
  unfold Delta.ofRepublish at member
  split at member
  · next first found =>
    cases List.mem_singleton.1 member
    exact spelled _ (List.mem_of_head? found)
  · cases member

theorem Tabled.lines_reloadAll (tabled : Tabled c) (tables : s.catalogue.Sound) : Whole c (Lining s none) (wiring c).reloadAll s := by
  have served : Whole c (Lining s none) (Flow.resume (c.serves s) >>= fun entities : List String => (wiring c).run fun number =>
      entities.forM fun entity => (wiring c).fetchInto (.whole entity) number) s := by
    refine .after (by rw [Flow.effect_resume]) fun entities _ => whole_run (lining_sent s.catalogue.header? fun number => ?_) s
    exact .forM fun entity _ => tabled.keeps_fetchInto (s := s.begun) tables (.whole entity)
  exact served

/-- Rows that are trusted were checked against the columns that are live. Others only name ids. -/
theorem Tabled.lines_applyRows (tabled : Tabled c) (tables : s.catalogue.Sound) (entity : String) (header : Header)
    (rows : List String) :
    Whole c (Lining s (Action.refetches s.origin.settings.policy (.applyRows entity header rows)))
      ((wiring c).applyRows entity header rows) s := by
  refine .applyRows (fun doubted ids => ?_) fun trusted old claims alive reads => ?_
  · rw [Action.refetches, if_neg doubted]
    exact tabled.lines_refresh tables entity ids
  · rw [Action.refetches, if_pos trusted]
    refine whole_run (lining_sent s.begun.columns fun number => ?_) s
    refine keeps_ask fun store there => keeps_announce_claimed there ?_
    cases alive.symm.trans there
    exact Claims.ofRows_written reads

/-- What the whole actions of an origin bring. -/
theorem Tabled.perform_lines (tabled : Tabled c) (tables : s.catalogue.Sound) {action : Action} (isWhole : action.isWhole = true) :
    ∃ (α : Type) (operation : Flow Site α) (answer : α → Answer), perform c action = answer <$> operation ∧
      Whole c (Lining s (action.refetches s.origin.settings.policy)) operation s := by
  cases action with
  | reload entity =>
    exact ⟨_, _, _, rfl, whole_run (lining_sent s.catalogue.header? fun _ => tabled.keeps_fetchInto (s := s.begun) tables _) s⟩
  | reloadAll => exact ⟨_, _, _, rfl, tabled.lines_reloadAll tables⟩
  | reloadGroup entity key =>
    refine ⟨_, _, _, rfl, .after (by rw [effect_ask]) fun _ _ => whole_run (lining_sent s.catalogue.header? fun number => ?_) s⟩
    exact tabled.keeps_fetchInto (s := s.begun) tables _
  | refresh entity ids => exact ⟨_, _, _, rfl, tabled.lines_refresh tables entity ids⟩
  | refreshNamed entity text =>
    exact ⟨_, _, _, rfl, .after (by rw [Flow.effect_ofExcept]) fun ids _ => tabled.lines_refresh tables entity (Names.ofList ids)⟩
  | applyRows entity header rows => exact ⟨_, _, _, rfl, tabled.lines_applyRows tables entity header rows⟩
  | republish entity id => exact ⟨_, _, _, rfl, tabled.lines_republish tables entity id⟩
  | begin | call | drop | subscribe | unsubscribe | register | mutate => cases isWhole

end Site

end ReferenceFeed
