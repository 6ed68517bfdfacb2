import ReferenceFeed.Proofs.Delivery
import ReferenceFeed.Proofs.Feeding
import ReferenceFeed.Proofs.Playing

namespace ReferenceFeed

/-!
An origin that is only asked for whole operations, while the tables of its source change. Its stores fit the tables at
all times, and what an operation brings is what the tables serve.
-/

namespace Site

/-- What is asked of an origin and of the tables of its source, short of using handles. -/
def Action.Tame (catalogue : Catalogue) : Action → Prop
  | .begin | .call _ _ | .drop _ => False
  | .mutate change => change.KeepsColumns catalogue
  | .reload _ | .reloadAll | .reloadGroup _ _ | .refresh _ _ | .refreshNamed _ _ | .applyRows _ _ _ | .republish _ _
  | .subscribe _ | .unsubscribe _ | .register _ => True

instance (catalogue : Catalogue) : (action : Action) → Decidable (action.Tame catalogue)
  | .begin | .call _ _ | .drop _ => inferInstanceAs (Decidable False)
  | .mutate change => inferInstanceAs (Decidable (change.KeepsColumns catalogue))
  | .reload _ | .reloadAll | .reloadGroup _ _ | .refresh _ _ | .refreshNamed _ _ | .applyRows _ _ _ | .republish _ _
  | .subscribe _ | .unsubscribe _ | .register _ => inferInstanceAs (Decidable True)

/-- A site with no transaction open, whose stores fit the tables of its source. -/
structure Supplied (s : Site) : Prop where
  sound : Sound s
  closed : s.origin.fanout.transaction = none
  tables : s.catalogue.Sound
  fits : ∀ (entity : String) (store : Store), s.origin.live[entity]? = some store → store.Fits s.catalogue

/-- How a whole operation ends: it takes effect with what the tables serve, or nobody notices. -/
inductive Turned (s t : Site) : Prop
  | refused : t = s → Turned s t
  | landed {taken} : Landed s taken taken t → Served s.catalogue taken → Turned s t
  | abandoned : Abandoned s [] t → Turned s t

variable {c : Conduct} {s t : Site} {action : Action}

theorem Supplied.fitting (supplied : Supplied s) : Fitting s := by
  intro entity store alive
  have columns := (supplied.fits entity store alive).columns
  rw [(supplied.sound.stores entity store alive).1] at columns
  exact columns

theorem Supplied.free (supplied : Supplied s) : s.origin.fanout.isOpen = false := by
  rw [Fanout.isOpen, supplied.closed]
  rfl

theorem Supplied.on (supplied : Supplied s) (thread : Thread) : Supplied { s with thread } :=
  ⟨supplied.sound.on thread, supplied.closed, supplied.tables, supplied.fits⟩

/-- A whole operation never fails half way: either the source refuses at once, or all that it serves is committed. -/
theorem Supplied.turned (supplied : Supplied s) (tabled : Tabled c) (isWhole : action.isWhole = true) :
    Turned s (Flow.effect (perform c action) s).2 := by
  obtain ⟨α, operation, answer, same, ⟨fault, fails⟩ | ⟨producer, serving, runs⟩⟩ :=
    tabled.perform_whole supplied.tables supplied.fitting isWhole
  · rw [same, Flow.effect_map, fails]
    exact .refused rfl
  · rw [same, Flow.effect_map, runs]
    obtain ⟨taken, after, ⟨value, ends, landed, served⟩ | ⟨fault, ends, abandoned, spoiled⟩⟩ :=
      supplied.sound.effect_run (c := c) supplied.free serving
    · rw [ends]
      exact .landed landed served
    · rw [ends]
      rcases spoiled with untold | ⟨served, entity, marker, marks, alone⟩
      · have nothing : taken = [] := untold
        exact .abandoned (nothing ▸ abandoned)
      · exact absurd alone (served.not_alone marks)

theorem Turned.closed (turned : Turned s t) (supplied : Supplied s) : t.origin.fanout.transaction = none := by
  cases turned with
  | refused same =>
    rw [same]
    exact supplied.closed
  | landed landed _ => exact landed.concluded.closed
  | abandoned abandoned => exact abandoned.concluded.closed

theorem Turned.fits (turned : Turned s t) (supplied : Supplied s) (sound : Sound t) {entity : String} {store : Store}
    (alive : t.origin.live[entity]? = some store) : store.Fits s.catalogue := by
  cases turned with
  | refused same => exact supplied.fits entity store (same ▸ alive)
  | @landed taken landed served =>
    obtain ⟨settles, _⟩ := landed.settles supplied.sound entity
    have named : ∀ old, s.origin.live[entity]? = some old → old.entity = entity := fun old found =>
      (supplied.sound.stores entity old found).1
    exact settles.fits served named (supplied.fits entity) store alive (sound.stores entity store alive).1
  | abandoned abandoned => exact supplied.fits entity store (abandoned.unchanged.live ▸ alive)

/-- How a newcomer fares, it fares alone. -/
theorem effect_subscribe_shape (c : Conduct) (seat : Nat) (interest : Interest) (s : Site) :
    ∃ fanout log, (Flow.effect ((wiring c).subscribe interest seat) s).2 = (s.withFanout fanout).hearing log ∧
      (∀ h ∈ log, h.seat = seat) ∧ fanout.transaction = s.origin.fanout.transaction ∧
      s.origin.fanout.subscribers <+: fanout.subscribers := by
  rcases effect_subscribe c seat interest s with ⟨_, refused⟩ | ⟨_, joined | ⟨fault, log, failed, broken⟩⟩
  · refine ⟨s.origin.fanout, [], ?_, List.forall_mem_nil _, rfl, List.prefix_refl _⟩
    rw [refused, hearing, List.append_nil]
    rfl
  · refine ⟨s.origin.fanout.admitting interest seat, (shownTo s.origin interest).map (fine seat), by rw [joined],
      fun h member => ?_, rfl, List.prefix_append _ _⟩
    obtain ⟨signal, _, rfl⟩ := List.mem_map.1 member
    rfl
  · refine ⟨s.origin.fanout, log, ?_, broken.seated, rfl, List.prefix_refl _⟩
    rw [failed]
    rfl

/-- What is asked besides whole operations touches neither a store nor a table that has columns. Whoever sits at a seat
hears nothing of it, and stays unless it is taken away. -/
structure Beside (action : Action) (s t : Site) : Prop where
  live : t.origin.live = s.origin.live
  settings : t.origin.settings = s.origin.settings
  transaction : t.origin.fanout.transaction = s.origin.fanout.transaction
  published : t.published = s.published
  handed : t.handed = s.handed
  catalogue : t.catalogue = s.catalogue ∨ ∃ change, t.catalogue = (s.catalogue.mutate change).2
  tables : s.catalogue.Sound → t.catalogue.Sound ∧ s.catalogue.Extends t.catalogue
  heard : ∃ log, t.heard = s.heard ++ log ∧ ∀ h ∈ log, h.seat = s.seats
  stays : ∀ sub ∈ s.origin.fanout.subscribers, action ≠ .unsubscribe sub.id → sub ∈ t.origin.fanout.subscribers
  outbox : t.outbox = s.outbox ∨ ∃ sender, action = .register sender ∧ t.outbox = s.outbox.register sender

theorem silent_heard (s : Site) : ∃ log, s.heard = s.heard ++ log ∧ ∀ h ∈ log, h.seat = s.seats :=
  ⟨[], (List.append_nil _).symm, List.forall_mem_nil _⟩

theorem beside_perform (s : Site) (tame : action.Tame s.catalogue) (other : action.isWhole = false) :
    Beside action s (Flow.effect (perform c action) s).2 := by
  cases action with
  | subscribe interest =>
    obtain ⟨fanout, log, shape, seated, same, among⟩ :=
      effect_subscribe_shape c s.seats interest { s with seats := s.seats + 1 }
    simp only [perform, nextSeat, Flow.effect_bind, Flow.effect_get, Flow.effect_set, Flow.effect_pure, Flow.effect_map, shape]
    exact ⟨rfl, rfl, same, rfl, rfl, .inl rfl, fun sound => ⟨sound, .refl _⟩, ⟨log, rfl, seated⟩, fun sub member _ => among.subset member,
      .inl rfl⟩
  | unsubscribe id =>
    have untouched : Beside (.unsubscribe id) s s :=
      ⟨rfl, rfl, rfl, rfl, rfl, .inl rfl, fun sound => ⟨sound, .refl _⟩, silent_heard s, fun _ member _ => member, .inl rfl⟩
    simp only [perform, Flow.effect_map, effect_unsubscribe]
    split
    · exact untouched
    · refine ⟨rfl, rfl, rfl, rfl, rfl, .inl rfl, fun sound => ⟨sound, .refl _⟩, silent_heard s, fun sub member stays => ?_, .inl rfl⟩
      have different : sub.id ≠ id := fun same => stays (by rw [same])
      exact List.mem_filter.2 ⟨member, decide_eq_true different⟩
  | register sender =>
    exact ⟨rfl, rfl, rfl, rfl, rfl, .inl rfl, fun sound => ⟨sound, .refl _⟩, silent_heard s, fun _ member _ => member,
      .inr ⟨sender, rfl, rfl⟩⟩
  | mutate change =>
    simp only [perform, Flow.effect_bind, Flow.effect_get, Flow.effect_set, Flow.effect_map, Flow.effect_ofExcept]
    exact ⟨rfl, rfl, rfl, rfl, rfl, .inr ⟨change, rfl⟩, fun sound => ⟨sound.mutate change, sound.extends_mutate tame⟩, silent_heard s,
      fun _ member _ => member, .inl rfl⟩
  | begin | call | drop => exact tame.elim
  | reload | reloadAll | reloadGroup | refresh | refreshNamed | applyRows | republish => cases other

/-- What is asked is a whole operation, or something besides. -/
theorem Supplied.perform (supplied : Supplied s) (tabled : Tabled c) (tame : action.Tame s.catalogue) :
    Supplied (Flow.effect (Site.perform c action) s).2 := by
  have sound := Sound.perform c action s supplied.sound
  rcases isWhole : action.isWhole with _ | _
  · have beside := beside_perform (c := c) s tame isWhole
    obtain ⟨tables, extend⟩ := beside.tables supplied.tables
    refine ⟨sound, beside.transaction.trans supplied.closed, tables, fun entity store alive => ?_⟩
    exact (supplied.fits entity store (beside.live ▸ alive)).extends extend
  · have turned := supplied.turned tabled isWhole
    have same : (Flow.effect (Site.perform c action) s).2.catalogue = s.catalogue := (Sending.whole isWhole s).catalogue
    refine ⟨sound, turned.closed supplied, ?_, fun entity store alive => ?_⟩
    · rw [same]
      exact supplied.tables
    · rw [same]
      exact turned.fits supplied sound alive

variable {ω : Type} {r : Replica String ω} {entity : String} {sub : Subscriber Nat}

/-- A replica that plays its seat is kept up to date, until it is taken away. -/
theorem Attached.perform (attached : Attached r entity sub s) (supplied : Supplied s) (tabled : Tabled c)
    (tame : action.Tame s.catalogue) (truthful : Truthful c s) (plays : Plays c sub.channel r)
    (stays : action ≠ .unsubscribe sub.id) : Attached r entity sub (Flow.effect (Site.perform c action) s).2 := by
  rcases isWhole : action.isWhole with _ | _
  · have beside := beside_perform (c := c) s tame isWhole
    obtain ⟨log, heard, elsewhere⟩ := beside.heard
    have seated := supplied.sound.crowd.seated sub attached.member
    have silent : partOf sub.channel log = [] := partOf_eq_nil fun h member => by
      have seat := elsewhere h member
      omega
    refine ⟨beside.stays sub attached.member stays, attached.interest, ?_⟩
    rw [heard, callsAt_append, beside.live, callsAt, callsAt, silent, List.map_nil, List.append_nil]
    exact attached.follows
  · have still := (audible_truthful c).perform action s truthful
    have turned := supplied.turned tabled isWhole
    generalize (Flow.effect (Site.perform c action) s).2 = t at still turned ⊢
    cases turned with
    | refused same =>
      rw [same]
      exact attached
    | landed landed served =>
      exact landed.played supplied.sound still plays attached (served.not_strays entity _)
    | abandoned abandoned => exact abandoned.attached_untold attached

end Site

end ReferenceFeed
