import ReferenceFeed.Proofs.Columns

namespace ReferenceFeed

/-!
Where the events of whole operations come from: from the tables of the source, which send them or have the entries that are
announced, or from the rows of a transport. Whatever is told is such an event, with its entry filled in.
-/

namespace Site

/-- An event that a whole operation may bring. -/
inductive Sourced (s : Site) : Event → Prop
  | sent {request event} : .event event ∈ (s.catalogue.fetch request).signals → Sourced s event
  | found {entity store ids header entry} : s.origin.live[entity]? = some store →
      .event (.update entity header entry) ∈ (s.catalogue.fetch (.ids entity ids)).signals →
      Sourced s (.update entity store.header entry)
  | claimed {entity store rows claims entry} : s.origin.live[entity]? = some store →
      Claims.ofRows s.origin.settings entity store.header rows = .ok claims → entry ∈ claims.entries →
      Sourced s (.update entity store.header entry)
  | block {entity store} : s.origin.live[entity]? = some store → Sourced s (.block entity store.header)
  | remove {entity id} : Sourced s (.remove entity id)

/-- An event that was told in place of one that may be brought. -/
def Stems (s : Site) (told : Event) : Prop := ∃ event, Sourced s event ∧ event.completed s.origin.settings = .ok told

/-- Producers of a site that bring such events. -/
abbrev Stemming (s : Site) : ∀ γ : Type, (Nat → Flow Site γ) → Prop :=
  Brings s.begun (fun taken => ∀ told ∈ taken, Stems s.begun told) fun _ => True

variable {c : Conduct} {s : Site} {number : Nat} {entity : String} {α : Type}

theorem stemming {producer : Nat → Flow Site α}
    (keeps : ∀ number, Flow.Keeps (Confined s.begun (Stems s.begun) number) (producer number)) : Stemming s α producer := by
  intro number u begun
  have confined := keeps number u begun.confined
  exact confined.brought fun _ _ _ stems => stems

theorem Tabled.stems_fetchInto (tabled : Tabled c) (request : Request) :
    Flow.Keeps (Confined s (Stems s) number) ((wiring c).fetchInto request number) :=
  tabled.keeps_sending fun event member _ complete => ⟨event, .sent member, complete⟩

/-- What is announced of a live entity stems from entries that were found for it or claimed. -/
theorem stems_announce {store : Store} {delta : Delta} (alive : s.origin.live[entity]? = some store)
    (sourced : ∀ entry ∈ delta.fetched, Sourced s (.update entity store.header entry)) :
    Flow.Keeps (Confined s (Stems s) number) ((wiring c).announce number store entity delta) := by
  refine keeps_announce fun event member told complete => ⟨event, ?_, complete⟩
  rcases Delta.mem_events member with rfl | ⟨entry, fetched, rfl⟩ | ⟨id, rfl⟩
  · exact .block alive
  · exact sourced entry fetched
  · exact .remove

/-- What is fetched of a live entity by ids and then announced. -/
theorem Tabled.stems_fetchIds (tabled : Tabled c) {store : Store} (alive : s.origin.live[entity]? = some store) {ids : Names}
    {next : List Entry → Flow Site α} (continues : ∀ fetched : List Entry,
      (∀ entry ∈ fetched, Sourced s (.update entity store.header entry)) →
        Flow.Keeps (Confined s (Stems s) number) (next fetched)) :
    Flow.Keeps (Confined s (Stems s) number) ((wiring c).fetchIds entity ids >>= next) := by
  refine tabled.keeps_collecting fun fetched sent => continues fetched fun entry member => ?_
  obtain ⟨header, sends⟩ := sent entry member
  exact .found alive sends

theorem Tabled.stems_refresh (tabled : Tabled c) (entity : String) (ids : Names) :
    Whole c (Stemming s) ((wiring c).refresh entity ids) s := by
  refine whole_run (stemming fun number => keeps_ask fun store alive => ?_) s
  exact tabled.stems_fetchIds alive fun fetched sourced => stems_announce alive sourced

theorem Tabled.stems_republish (tabled : Tabled c) (entity id : String) :
    Whole c (Stemming s) ((wiring c).republish entity id) s := by
  refine whole_run (stemming fun number => keeps_ask fun store alive => ?_) s
  refine tabled.stems_fetchIds alive fun fetched sourced => stems_announce alive fun entry member => ?_
  unfold Delta.ofRepublish at member
  split at member
  · next first found =>
    cases List.mem_singleton.1 member
    exact sourced _ (List.mem_of_head? found)
  · cases member

theorem Tabled.stems_reloadAll (tabled : Tabled c) : Whole c (Stemming s) (wiring c).reloadAll s := by
  have served : Whole c (Stemming s) (Flow.resume (c.serves s) >>= fun entities : List String => (wiring c).run fun number =>
      entities.forM fun entity => (wiring c).fetchInto (.whole entity) number) s := by
    refine .after (by rw [Flow.effect_resume]) fun entities _ => whole_run (stemming fun number => ?_) s
    exact .forM fun entity _ => tabled.stems_fetchInto (.whole entity)
  exact served

theorem Tabled.stems_applyRows (tabled : Tabled c) (entity : String) (header : Header) (rows : List String) :
    Whole c (Stemming s) ((wiring c).applyRows entity header rows) s := by
  refine .applyRows (fun _ ids => tabled.stems_refresh entity ids) fun _ old claims alive reads => ?_
  refine whole_run (stemming fun number => keeps_ask fun store there => ?_) s
  cases alive.symm.trans there
  exact stems_announce there fun entry member => .claimed there reads member

/-- All that whole actions bring. -/
theorem Tabled.perform_stems (tabled : Tabled c) {action : Action} (isWhole : action.isWhole = true) :
    ∃ (α : Type) (operation : Flow Site α) (answer : α → Answer), perform c action = answer <$> operation ∧
      Whole c (Stemming s) operation s := by
  cases action with
  | reload entity => exact ⟨_, _, _, rfl, whole_run (stemming fun _ => tabled.stems_fetchInto _) s⟩
  | reloadAll => exact ⟨_, _, _, rfl, tabled.stems_reloadAll⟩
  | reloadGroup entity key =>
    exact ⟨_, _, _, rfl, .after (by rw [effect_ask]) fun _ _ => whole_run (stemming fun _ => tabled.stems_fetchInto _) s⟩
  | refresh entity ids => exact ⟨_, _, _, rfl, tabled.stems_refresh entity ids⟩
  | refreshNamed entity text =>
    exact ⟨_, _, _, rfl, .after (by rw [Flow.effect_ofExcept]) fun ids _ => tabled.stems_refresh entity (Names.ofList ids)⟩
  | applyRows entity header rows => exact ⟨_, _, _, rfl, tabled.stems_applyRows entity header rows⟩
  | republish entity id => exact ⟨_, _, _, rfl, tabled.stems_republish entity id⟩
  | begin | call | drop | subscribe | unsubscribe | register | mutate => cases isWhole

end Site

end ReferenceFeed
