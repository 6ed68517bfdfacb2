import ReferenceFeed.Proofs.Agreement
import ReferenceFeed.Proofs.Columns
import ReferenceFeed.Proofs.Convergence
import ReferenceFeed.Proofs.Publication

namespace ReferenceFeed

/-!
Rows as wide as the columns they stand under. The columns of a table may change between two operations. A reload brings
the new columns along, and the reload of a group is refused under other columns. What is fetched by its id is put under
the columns that are live, however wide it is.
-/

/-- A row of one field for each column, the first of which is the id. -/
def Entry.Aligned (header : Header) (entry : Entry) : Prop :=
  ∃ fields, Row.split entry.row = .ok fields ∧ fields.length = header.width ∧ fields.head? = some (some entry.id)

theorem Entry.Written.aligned {header : Header} {entry : Entry} (written : entry.Written header) : entry.Aligned header := by
  obtain ⟨rest, row, width⟩ := written
  exact ⟨some entry.id :: rest, by rw [row, Row.split_render], width, rfl⟩

theorem Entry.Written.of_width {header other : Header} {entry : Entry} (written : entry.Written header)
    (same : header.width = other.width) : entry.Written other := by
  obtain ⟨rest, row, width⟩ := written
  exact ⟨rest, row, width.trans same⟩

/-- A row cannot stand under columns of two widths. -/
theorem Entry.Written.width_eq {header other : Header} {entry : Entry} (written : entry.Written header)
    (aligned : entry.Aligned other) : header.width = other.width := by
  obtain ⟨fields, splits, width, _⟩ := written.aligned
  obtain ⟨others, again, same, _⟩ := aligned
  cases splits.symm.trans again
  exact width.symm.trans same

/-- A store whose entries are as wide as its columns. -/
def Store.Even (store : Store) : Prop := ∀ (id : String) (entry : Entry), store.get? id = some entry → entry.Written store.header

/-- A message is about a store that is live after the commit. -/
theorem Stages.Reflect.settled_of_message {live : Keyed Store} {stages : Stages} {taken : List Event}
    (reflect : Stages.Reflect live stages taken) {message : Message} (sent : message ∈ stages.messages live) :
    ∃ store, stages.settled live message.entity = some store := by
  obtain ⟨⟨entity, stage⟩, inStages, among⟩ := List.mem_flatMap.1 sent
  have found := mem_toList.1 inStages
  have reflects := reflect entity
  rw [found] at reflects
  have supported := reflects.supported
  rw [messages_entity message among, settled, found]
  cases stage with
  | whole scratch begun => exact ⟨scratch, rfl⟩
  | group | sparse =>
    obtain ⟨store, alive⟩ := Option.isSome_iff_exists.1 supported
    rw [alive]
    exact ⟨_, rfl⟩

namespace Site

variable {c : Conduct} {s t u : Site} {action : Action} {steps : List Step} {entity : String}

/-- Every line that is live is aligned with its columns, and a snapshot with more columns than the id can be read. -/
structure InOrder (s : Site) : Prop where
  aligned : ∀ (entity : String) (store : Store) (id : String) (entry : Entry), s.origin.live[entity]? = some store →
    store.get? id = some entry → entry.id = id ∧ entry.Aligned store.header
  snapshots : ∀ (entity : String) (store : Store), s.origin.live[entity]? = some store → 2 ≤ store.header.width →
    ∃ payload, Payload.read store.render = .ok payload

/-- What a step has published about stores with more columns than the id can be read. -/
def Step.Legible (c : Conduct) (step : Step) : Prop :=
  ∀ message ∈ (step.after c).published.drop step.before.published.length,
    ∃ store, (step.after c).origin.live[message.entity]? = some store ∧
      (2 ≤ store.header.width → ∃ payload, Payload.read message.payload = .ok payload)

/-- A step that fetches by ids, and leaves a new entry in a store that has not as many columns as the table. -/
def Step.Misplaces (c : Conduct) (step : Step) : Prop :=
  ∃ (entity : String) (header : Header) (old new : Store) (id : String) (entry : Entry),
    step.action.refetches step.before.origin.settings.policy = some entity ∧
    step.before.catalogue.header? entity = some header ∧ step.before.origin.live[entity]? = some old ∧
    header.width ≠ old.header.width ∧
    (step.after c).origin.live[entity]? = some new ∧ new.get? id = some entry ∧ old.get? id ≠ some entry

/-- A site with no transaction open and sound tables, whatever their columns are. -/
structure Resting (s : Site) : Prop where
  sound : Sound s
  closed : s.origin.fanout.transaction = none
  tables : s.catalogue.Sound

theorem Resting.on (resting : Resting s) (thread : Thread) : Resting { s with thread } :=
  ⟨resting.sound.on thread, resting.closed, resting.tables⟩

/-- What a step does to the stores: nothing, or what a transaction brings. -/
inductive Passes (action : Action) (s t : Site) : Prop
  | still : t.origin.live = s.origin.live → t.published = s.published → Passes action s t
  | landed {taken} : Landed s taken taken t → Lined s (action.refetches s.origin.settings.policy) taken → Passes action s t

theorem Resting.whole (resting : Resting s) (tabled : Tabled c) (isWhole : action.isWhole = true) :
    Passes action s (Flow.effect (perform c action) s).2 ∧
      (Flow.effect (perform c action) s).2.origin.fanout.transaction = none := by
  have free : s.origin.fanout.isOpen = false := by rw [Fanout.isOpen, resting.closed]; rfl
  obtain ⟨α, operation, answer, same, ⟨fault, fails⟩ | ⟨producer, lines, runs⟩⟩ := tabled.perform_lines resting.tables isWhole
  · rw [same, Flow.effect_map, fails]
    exact ⟨.still rfl rfl, resting.closed⟩
  · rw [same, Flow.effect_map, runs]
    obtain ⟨taken, after, ⟨value, ends, landed, lined⟩ | ⟨fault, ends, abandoned, _⟩⟩ :=
      resting.sound.effect_run (c := c) free lines
    · rw [ends]
      exact ⟨.landed landed lined, landed.concluded.closed⟩
    · rw [ends]
      exact ⟨.still abandoned.unchanged.live abandoned.unchanged.published, abandoned.concluded.closed⟩

/-- Whatever is asked short of using a handle, nothing is left open, and stores change in a transaction only. -/
theorem Resting.perform (resting : Resting s) (tabled : Tabled c) (plain : action.isHandle = false) :
    Passes action s (Flow.effect (Site.perform c action) s).2 ∧ Resting (Flow.effect (Site.perform c action) s).2 := by
  have sound := Sound.perform c action s resting.sound
  rcases isWhole : action.isWhole with _ | _
  · by_cases mutates : ∃ change, action = .mutate change
    · obtain ⟨change, rfl⟩ := mutates
      simp only [Site.perform, Flow.effect_bind, Flow.effect_get, Flow.effect_set, Flow.effect_map, Flow.effect_ofExcept] at sound ⊢
      exact ⟨.still rfl rfl, sound, resting.closed, resting.tables.mutate change⟩
    · have tame : action.Tame s.catalogue := by
        cases action with
        | mutate change => exact absurd ⟨change, rfl⟩ mutates
        | begin | call | drop => cases plain
        | reload | reloadAll | reloadGroup | refresh | refreshNamed | applyRows | republish => trivial
        | subscribe | unsubscribe | register => trivial
      have beside := beside_perform (c := c) s tame isWhole
      exact ⟨.still beside.live beside.published, sound, beside.transaction.trans resting.closed, (beside.tables resting.tables).1⟩
  · obtain ⟨passes, closed⟩ := resting.whole tabled isWhole
    have same : (Flow.effect (Site.perform c action) s).2.catalogue = s.catalogue := (Sending.whole isWhole s).catalogue
    exact ⟨passes, sound, closed, same ▸ resting.tables⟩

/-- An entry after a transaction was brought by it, or there before under the same columns. -/
theorem Landed.entry_origin {taken : List Event} (landed : Landed s taken taken t) (sound : Sound s) {new : Store}
    (alive : t.origin.live[entity]? = some new) {id : String} {entry : Entry} (found : new.get? id = some entry) :
    (∃ header, .update entity header entry ∈ taken ∧
        columnsAfter s.origin.live[entity]? (concerning entity taken) = some new.header) ∨
      ∃ old, s.origin.live[entity]? = some old ∧ new.header = old.header ∧ old.get? id = some entry := by
  obtain ⟨settles, _⟩ := landed.settles sound entity
  rcases settles.origin alive found with ⟨entity', header, member⟩ | before
  · obtain ⟨inside, here⟩ := List.mem_filter.1 member
    have same : entity' = entity := of_decide_eq_true here
    have columns := settles.columns
    rw [alive] at columns
    exact .inl ⟨header, same ▸ inside, columns.symm⟩
  · exact .inr before

/-- What was fetched by ids stands under the columns that were live. -/
theorem refetched_columns {taken : List Event} {refetched : String} (fetched : ∀ event ∈ taken, event.Fetched s.catalogue refetched)
    {header columns : Header} {entry : Entry} (member : .update entity header entry ∈ taken)
    (after : columnsAfter s.origin.live[entity]? (concerning entity taken) = some columns) :
    entity = refetched ∧ (∃ old, s.origin.live[entity]? = some old ∧ old.header = columns) ∧
      ∃ named, s.catalogue.header? entity = some named ∧ entry.Written named := by
  obtain ⟨here, named, known, written⟩ := fetched _ member
  have plain : ∀ event ∈ concerning entity taken, event.isMarker = false := fun event inside =>
    (fetched event (List.mem_filter.1 inside).1).plain
  rw [columnsAfter_kept _ plain] at after
  exact ⟨here, Option.map_eq_some_iff.1 after, named, here ▸ known, written⟩

/-- An entry after a step was there before under the same columns, or it is as wide as the columns it came with, or it was fetched
by its id and is as wide as its table. -/
theorem Passes.entry_origin (passes : Passes action s t) (sound : Sound s) {new : Store} (alive : t.origin.live[entity]? = some new)
    {id : String} {entry : Entry} (found : new.get? id = some entry) :
    (∃ old, s.origin.live[entity]? = some old ∧ new.header = old.header ∧ old.get? id = some entry) ∨ entry.Written new.header ∨
      ∃ old named, s.origin.live[entity]? = some old ∧ new.header = old.header ∧
        action.refetches s.origin.settings.policy = some entity ∧ s.catalogue.header? entity = some named ∧ entry.Written named := by
  cases passes with
  | still live _ => exact .inl ⟨new, live ▸ alive, rfl, found⟩
  | @landed taken landed lined =>
    rcases landed.entry_origin sound alive found with ⟨header, member, columns⟩ | before
    · rcases refetches : action.refetches s.origin.settings.policy with _ | refetched
      · rw [refetches] at lined
        obtain ⟨named, after, written⟩ := lined entity header entry member
        cases columns.symm.trans after
        exact .inr (.inl written)
      · rw [refetches] at lined
        obtain ⟨rfl, ⟨old, was, same⟩, named, known, written⟩ := refetched_columns lined member columns
        exact .inr (.inr ⟨old, named, was, same.symm, rfl, known, written⟩)
    · exact .inl before

/-- Stores that are even stay so, as long as nothing is misplaced. -/
theorem Passes.even {step : Step} (passes : Passes step.action step.before (step.after c)) (sound : Sound step.before)
    (placed : ¬step.Misplaces c) (even : ∀ (entity : String) (store : Store), step.before.origin.live[entity]? = some store → store.Even) :
    ∀ (entity : String) (store : Store), (step.after c).origin.live[entity]? = some store → store.Even := by
  intro entity new alive id entry found
  rcases passes.entry_origin sound alive found with ⟨old, was, same, there⟩ | written | ⟨old, named, was, same, refetches, known, written⟩
  · rw [same]
    exact even entity old was id entry there
  · exact written
  · rw [same]
    by_cases width : named.width = old.header.width
    · exact written.of_width width
    · -- Nothing is misplaced, so an entry of another width is one that the store held before.
      by_cases kept : old.get? id = some entry
      · exact even entity old was id entry kept
      · exact absurd ⟨entity, named, old, new, id, entry, refetches, known, was, width, alive, found, kept⟩ placed

/-- A step that misplaces an entry leaves it out of order. -/
theorem Passes.not_inOrder {step : Step} (passes : Passes step.action step.before (step.after c)) (sound : Sound step.before)
    (misplaces : step.Misplaces c) : ¬(step.after c).InOrder := by
  obtain ⟨entity, header, old, new, id, entry, refetches, known, was, width, alive, found, kept⟩ := misplaces
  intro inOrder
  cases passes with
  | still live _ =>
    rw [live, was] at alive
    cases alive
    exact kept found
  | @landed taken landed lined =>
    rw [refetches] at lined
    rcases landed.entry_origin sound alive found with ⟨_, member, columns⟩ | ⟨other, there, _, same⟩
    · obtain ⟨_, ⟨other, there, same⟩, named, agrees, written⟩ := refetched_columns lined member columns
      cases was.symm.trans there
      cases known.symm.trans agrees
      have aligned := (inOrder.aligned entity new id entry alive found).2
      rw [← same] at aligned
      exact width (written.width_eq aligned)
    · cases was.symm.trans there
      exact kept same

/-- Even stores are in order. -/
theorem Sound.inOrder (sound : Sound s)
    (even : ∀ (entity : String) (store : Store), s.origin.live[entity]? = some store → store.Even) : s.InOrder where
  aligned entity store id entry alive found :=
    ⟨(sound.stores entity store alive).2.own id entry found, (even entity store alive id entry found).aligned⟩
  snapshots entity store alive wide :=
    have legible : store.Legible := ⟨wide, even entity store alive⟩
    ⟨_, legible.read_render⟩

/-- What is published of stores that are even can be read. -/
theorem Passes.legible {step : Step} (passes : Passes step.action step.before (step.after c)) (sound : Sound step.before)
    (even : ∀ (entity : String) (store : Store), (step.after c).origin.live[entity]? = some store → store.Even) : step.Legible c := by
  intro message published
  cases passes with
  | still _ silent =>
    rw [silent, List.drop_length] at published
    cases published
  | landed landed _ =>
    obtain ⟨stages, reflect, settled, sent⟩ := landed.applied.stores
    rw [sent, List.drop_left] at published
    obtain ⟨store, alive⟩ := reflect.settled_of_message published
    rw [← settled] at alive
    refine ⟨store, alive, fun wide => ?_⟩
    have legible : ∀ other, stages.settled step.before.origin.live message.entity = some other → other.Legible := by
      intro other there
      rw [← settled] at there
      cases alive.symm.trans there
      exact ⟨wide, even message.entity store alive⟩
    have relates := reflect.relates sound.stores legible
    have own : message ∈ (stages.messages step.before.origin.live).filter fun other => other.entity = message.entity :=
      List.mem_filter.2 ⟨published, decide_eq_true rfl⟩
    generalize (stages.messages step.before.origin.live).filter _ = messages at relates own
    match messages, relates, own with
    | [only], carries, own =>
      obtain ⟨payload, reads, _⟩ := carries
      rw [List.mem_singleton.1 own]
      exact ⟨payload, reads⟩

theorem resting_overTables (settings : OriginSettings) (changes : List Catalogue.Mutation) : Resting (overTables settings changes) := by
  have supplied := supplied_overTables settings changes
  exact ⟨supplied.sound, supplied.closed, supplied.tables⟩

theorem Run.resting (run : Run c s steps t) (tabled : Tabled c) (plain : ∀ step ∈ steps, step.action.isHandle = false)
    (resting : Resting s) : Resting t ∧ ∀ step ∈ steps, Passes step.action step.before (step.after c) ∧ Sound step.before := by
  induction run with
  | start => exact ⟨resting, List.forall_mem_nil _⟩
  | @next steps t thread action answer u previous acts ih =>
    obtain ⟨before, passed⟩ := ih fun step member => plain step (List.mem_append_left _ member)
    have last := plain _ (List.mem_append_right _ (List.mem_singleton_self _))
    obtain ⟨passes, after⟩ := (before.on thread).perform tabled last
    refine ⟨?_, fun step member => ?_⟩
    · change Resting (act c thread action t).2 at after
      rw [acts] at after
      exact after
    · rcases List.mem_append.1 member with earlier | now
      · exact passed step earlier
      · cases List.mem_singleton.1 now
        refine ⟨?_, before.sound⟩
        change Passes action { t with thread } (act c thread action t).2 at passes
        cases passes with
        | still live published => exact .still live published
        | landed landed lined => exact .landed landed.of_on lined

/-- As long as nothing is misplaced, all that is live and all that is published is in order. -/
theorem Run.inOrder (run : Run c s steps t) (passes : ∀ step ∈ steps, Passes step.action step.before (step.after c) ∧ Sound step.before)
    (even : ∀ (entity : String) (store : Store), s.origin.live[entity]? = some store → store.Even)
    (placed : ∀ step ∈ steps, ¬step.Misplaces c) :
    (∀ (entity : String) (store : Store), t.origin.live[entity]? = some store → store.Even) ∧
      ∀ step ∈ steps, (step.after c).InOrder ∧ step.Legible c := by
  induction run with
  | start => exact ⟨even, List.forall_mem_nil _⟩
  | @next steps t thread action answer u previous acts ih =>
    have last := List.mem_append_right steps (List.mem_singleton_self (Step.mk t thread action answer))
    obtain ⟨before, earlier⟩ := ih (fun step member => passes step (List.mem_append_left _ member))
      fun step member => placed step (List.mem_append_left _ member)
    obtain ⟨passing, steady⟩ := passes _ last
    have after := passing.even steady (placed _ last) before
    have same : (Step.mk t thread action answer).after c = u := congrArg Prod.snd acts
    have still : Sound ((Step.mk t thread action answer).after c) := Sound.perform c action _ (steady.on thread)
    refine ⟨fun entity store alive => after entity store (same ▸ alive), fun step member => ?_⟩
    rcases List.mem_append.1 member with old | now
    · exact earlier step old
    · cases List.mem_singleton.1 now
      exact ⟨still.inOrder after, passing.legible steady after⟩

/-- Over the tables of a source, whose columns may change at any time, every line is aligned with its columns at every
point, and snapshots and messages can be read, if and only if no operation fetches an entry by its id from a table into
a store of another width. -/
theorem Tabled.in_order_iff (tabled : Tabled c) {settings : OriginSettings} {changes : List Catalogue.Mutation}
    (run : Run c (overTables settings changes) steps t) (plain : ∀ step ∈ steps, step.action.isHandle = false) :
    (∀ step ∈ steps, (step.after c).InOrder ∧ step.Legible c) ↔ ∀ step ∈ steps, ¬step.Misplaces c := by
  have resting := resting_overTables settings changes
  have passes := (run.resting tabled plain resting).2
  constructor
  · intro inOrder step member misplaces
    obtain ⟨passing, sound⟩ := passes step member
    exact passing.not_inOrder sound misplaces (inOrder step member).1
  · intro placed
    refine (run.inOrder passes (fun entity store alive => ?_) placed).2
    rw [overTables, Std.ExtTreeMap.getElem?_empty] at alive
    cases alive

/-- A table that gets another column after it was loaded, and what is asked then. -/
def outgrowing (script : List (Thread × Action)) : List Step × Site :=
  enact staffed (overTables {} [.load "e" "id,v\n1,x"])
    ([(0, .reload "e"), (0, .mutate (.load "e" "id,v,w\n1,y,z"))] ++ script)

/-- The new columns are loaded before something is fetched by its id. -/
def regrown : List Step × Site := outgrowing [(0, .reload "e"), (1, .refresh "e" {"1"})]

theorem in_order_regrown : (∀ step ∈ regrown.1, step.action.isHandle = false) ∧
    ∀ step ∈ regrown.1, (step.after staffed).InOrder ∧ step.Legible staffed := by
  have plain : ∀ step ∈ regrown.1, step.action.isHandle = false := by decide +kernel
  have fits : ∀ step ∈ regrown.1, ∀ entity ∈ step.action.refetches step.before.origin.settings.policy,
      (step.before.catalogue.header? entity).map Header.width =
        (step.before.origin.live[entity]?).map fun store => store.header.width := by decide +kernel
  refine ⟨plain, (tabled_staffed.in_order_iff (run_enact ..) plain).2 fun step member => ?_⟩
  rintro ⟨entity, header, old, _, _, _, refetches, known, was, width, _⟩
  have same := fits step member entity refetches
  rw [known, was] at same
  exact width (Option.some.inj same)

/-- The row is fetched by its id before anybody has reloaded the table. -/
def outgrown : Step := asking staffed (outgrowing []).2 0 (.refresh "e" {"1"})

/-- What is fetched by its id may stand under columns that it does not fit. -/
theorem not_in_order : ¬∀ (c : Conduct) (settings : OriginSettings) (changes : List Catalogue.Mutation) (steps : List Step)
    (t : Site), Tabled c → Run c (overTables settings changes) steps t → (∀ step ∈ steps, step.action.isHandle = false) →
      ∀ step ∈ steps, (step.after c).InOrder := by
  intro claim
  have run : Run staffed (overTables {} [.load "e" "id,v\n1,x"]) ((outgrowing []).1 ++ [outgrown]) (outgrown.after staffed) :=
    (run_enact ..).asking 0 (.refresh "e" {"1"})
  have inOrder := claim staffed _ _ _ _ tabled_staffed run (by decide +kernel) outgrown
    (List.mem_append_right _ (List.mem_singleton_self _))
  have live : ((outgrown.after staffed).origin.live["e"]?).bind (fun store => (store.get? "1").map fun entry =>
      (store.header.width, (Row.split entry.row).toOption.map List.length)) = some (2, some 3) := by decide +kernel
  obtain ⟨store, alive, live⟩ := Option.bind_eq_some_iff.1 live
  obtain ⟨entry, found, widths⟩ := Option.map_eq_some_iff.1 live
  obtain ⟨fields, splits, width, _⟩ := (inOrder.aligned "e" store "1" entry alive found).2
  rw [splits] at widths
  obtain ⟨two, three⟩ := Prod.mk.inj widths
  have length : fields.length = 3 := Option.some.inj three
  omega

end Site

end ReferenceFeed
