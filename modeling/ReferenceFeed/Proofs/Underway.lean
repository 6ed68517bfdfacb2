import ReferenceFeed.Proofs.Reach

namespace ReferenceFeed

/-!
A transaction from its start to its end. While it is open, nothing that readers or senders see has changed since the
start; its stages are what was taken in, and its subscribers have heard what they were told.
-/

namespace Site

/-- What readers and senders see is what it was. -/
structure Unchanged (s₀ s : Site) : Prop where
  settings : s.origin.settings = s₀.origin.settings
  live : s.origin.live = s₀.origin.live
  generation : s.origin.generation = s₀.origin.generation
  published : s.published = s₀.published

/-- A session of a site has a transaction open since `s₀`. The thread that started it owns it. -/
structure Underway (s₀ : Site) (number : Nat) (owner : Thread) (taken told : List Event) (s : Site) : Prop where
  unchanged : Unchanged s₀ s
  staged : ∃ stages, s.origin.session number = ⟨some stages, true⟩ ∧ Stages.Reflect s₀.origin.live stages taken
  audience : ∃ t log, s.origin.fanout.transaction = some t ∧ t.owner = owner ∧
    t.subscribers = s₀.origin.fanout.subscribers ∧ s.heard = s₀.heard ++ log ∧ Audience t told log ∧
    s.origin.fanout.subscribers = s₀.origin.fanout.subscribers.filter fun sub => sub.id ∉ t.failed

variable {c : Conduct} {s₀ s : Site} {number : Nat} {owner : Thread} {taken told : List Event}

theorem owned_iff {t : Transaction Nat} {thread : Thread} {fanout : Fanout Nat} (held : fanout.transaction = some t) :
    fanout.owned thread = if t.owner = thread then .ok t else .error (.violation .foreignThread) := by
  rw [Fanout.owned, held]

/-- A start that is not refused opens a transaction for all subscribers there are. -/
theorem Sound.underway (sound : Sound s₀) {done : Unit} (started : Flow.effect ((wiring c).start number) s₀ = (.ok done, s)) :
    s₀.origin.fanout.transaction = none ∧ s.thread = s₀.thread ∧ Underway s₀ number s₀.thread [] [] s := by
  rw [effect_start] at started
  split at started
  · cases started
  · split at started
    · cases started
    · next _ closed =>
      cases started
      refine ⟨by simpa [Fanout.isOpen] using closed, rfl, ⟨rfl, rfl, rfl, rfl⟩, ⟨∅, ?_, Stages.Reflect.empty _⟩, ?_⟩
      · rw [session_keeping, if_pos rfl]
      · refine ⟨_, [], rfl, rfl, rfl, (List.append_nil _).symm, ?_, ?_⟩
        · exact Audience.opened sound.crowd.numbers sound.crowd.apart _
        · exact (List.filter_eq_self.2 (by simp)).symm

/-- An event that can be taken in is staged first. Only the owner gets it to the subscribers. -/
theorem Underway.take (under : Underway s₀ number owner taken told s) {stages next : Stages} {event amended : Event}
    (session : s.origin.session number = ⟨some stages, true⟩)
    (takes : Stages.take s₀.origin.settings s₀.origin.live (some stages) event = .ok (amended, next)) :
    ∃ after, (s.thread = owner ∧ Flow.effect ((wiring c).event number event) s = (.ok (), after) ∧
          Underway s₀ number owner (taken ++ [amended]) (told ++ [amended]) after ∨
        s.thread ≠ owner ∧
          Flow.effect ((wiring c).event number event) s = (.error (.failure (.violation .foreignThread)), after) ∧
          Underway s₀ number owner (taken ++ [amended]) told after) ∧
      after.thread = s.thread ∧ after.catalogue = s.catalogue ∧ after.origin.session number = ⟨some next, true⟩ := by
  obtain ⟨before, staged, reflect⟩ := under.staged
  have same : before = stages := by
    rw [session] at staged
    cases staged
    rfl
  subst same
  obtain ⟨t, log, held, own, among, heard, audience, others⟩ := under.audience
  have unchanged : ∀ fanout log, Unchanged s₀ (((s.keeping number ⟨some next, true⟩).withFanout fanout).hearing log) :=
    fun _ _ => ⟨under.unchanged.settings, under.unchanged.live, under.unchanged.generation, under.unchanged.published⟩
  have kept : (s.keeping number ⟨some next, true⟩).origin.session number = ⟨some next, true⟩ := by
    rw [session_keeping, if_pos rfl]
  rw [effect_event, session, under.unchanged.settings, under.unchanged.live, takes]
  by_cases mine : s.thread = owner
  · have owned : (s.keeping number ⟨some next, true⟩).origin.fanout.owned s.thread = .ok t :=
      (owned_iff held).trans (if_pos (own.trans mine.symm))
    obtain ⟨logs, lost, round, effect⟩ := effect_deliver c amended owned
    refine ⟨_, .inl ⟨mine, effect, unchanged _ _, ⟨next, kept, reflect.take takes⟩, ?_⟩, rfl, rfl, kept⟩
    refine ⟨_, log ++ logs, rfl, own, among, ?_, audience.deliver round, ?_⟩
    · rw [← List.append_assoc, ← heard]
      rfl
    · change s.origin.fanout.subscribers.filter _ = _
      rw [others, List.filter_filter]
      refine List.filter_congr fun sub _ => ?_
      simp [Transaction.reaching, Bool.and_comm]
  · have refused : (s.keeping number ⟨some next, true⟩).origin.fanout.owned s.thread = .error (.violation .foreignThread) :=
      (owned_iff held).trans (if_neg fun same => mine (same.symm.trans own))
    refine ⟨_, .inr ⟨mine, effect_deliver_refused c amended refused, ?_, ⟨next, kept, reflect.take takes⟩, ?_⟩, rfl, rfl, kept⟩
    · exact ⟨under.unchanged.settings, under.unchanged.live, under.unchanged.generation, under.unchanged.published⟩
    · exact ⟨t, log, held, own, among, heard, audience, others⟩

/-- An event is refused for what it is, or taken in. -/
theorem Underway.event (under : Underway s₀ number owner taken told s) (event : Event) :
    (∃ cause, cause ≠ .violation .foreignThread ∧
      Flow.effect ((wiring c).event number event) s = (.error (.failure cause), s)) ∨
    ∃ amended after, event.completed s₀.origin.settings = .ok amended ∧
      (s.thread = owner ∧ Flow.effect ((wiring c).event number event) s = (.ok (), after) ∧
          Underway s₀ number owner (taken ++ [amended]) (told ++ [amended]) after ∨
        s.thread ≠ owner ∧
          Flow.effect ((wiring c).event number event) s = (.error (.failure (.violation .foreignThread)), after) ∧
          Underway s₀ number owner (taken ++ [amended]) told after) ∧ after.thread = s.thread := by
  obtain ⟨stages, session, _⟩ := under.staged
  rcases took : Stages.take s₀.origin.settings s₀.origin.live (some stages) event with cause | ⟨amended, next⟩
  · refine .inl ⟨cause, fun foreign => Stages.take_error (foreign ▸ took), ?_⟩
    rw [effect_event, session, under.unchanged.settings, under.unchanged.live, took]
  · obtain ⟨complete, _⟩ := Stages.take_ok took
    obtain ⟨after, outcome, same, _⟩ := under.take (c := c) session took
    exact .inr ⟨amended, after, complete, outcome, same⟩

/-- Two sites that differ in nothing that matters to a transaction of a session. -/
structure Aside (number : Nat) (s t : Site) : Prop where
  settings : t.origin.settings = s.origin.settings
  live : t.origin.live = s.origin.live
  generation : t.origin.generation = s.origin.generation
  fanout : t.origin.fanout = s.origin.fanout
  published : t.published = s.published
  heard : t.heard = s.heard
  session : t.origin.session number = s.origin.session number

variable {t : Site}

theorem Aside.refl (number : Nat) (s : Site) : Aside number s s := ⟨rfl, rfl, rfl, rfl, rfl, rfl, rfl⟩

theorem Underway.aside (under : Underway s₀ number owner taken told s) (aside : Aside number s t) :
    Underway s₀ number owner taken told t where
  unchanged := ⟨aside.settings.trans under.unchanged.settings, aside.live.trans under.unchanged.live,
    aside.generation.trans under.unchanged.generation, aside.published.trans under.unchanged.published⟩
  staged := by
    rw [aside.session]
    exact under.staged
  audience := by
    rw [aside.fanout, aside.heard]
    exact under.audience

theorem Sound.lt_of_holds (sound : Sound s) (holds : (s.origin.session number).holds = true) :
    number < s.origin.nextSession := by
  by_contra beyond
  rw [Origin.session, sound.numbered number (Nat.le_of_not_lt beyond)] at holds
  cases holds

theorem effect_start_begun_held (held : s.origin.fanout.isOpen = true) :
    Flow.effect ((wiring c).start s.origin.nextSession) s.begun = (.error (.failure (.violation (.held .start))), s.begun) := by
  have still : s.begun.origin.fanout.isOpen = true := held
  rw [effect_start, session_begun_own, still]
  rfl

/-- A whole transaction has to wait for the fan-out. -/
theorem effect_run_held {α : Type} (producer : Nat → Flow Site α) (held : s.origin.fanout.isOpen = true) :
    Flow.effect ((wiring c).run producer) s =
      (.error (.failure (.violation (.held .start))), s.begun.forgetting s.origin.nextSession) := by
  have refused : Flow.effect (within c s.origin.nextSession (producer s.origin.nextSession)) s.begun =
      (.error (.failure (.violation (.held .start))), s.begun) := by
    rw [Flow.effect_bind, effect_start_begun_held held]
  rw [effect_run, Flow.effect_ensuring, refused]
  simp only [effect_drop, session_begun_own]
  rfl

/-- Ends of a transaction that are asked for through its handle. -/
def Action.ends (number : Nat) : Action → Bool
  | .call other .finish | .call other .cancel | .drop other => other = number
  | _ => false

/-- An event for a transaction. -/
def Action.eventOf? (number : Nat) : Action → Option Event
  | .call other (.event event) => if other = number then some event else none
  | _ => none

theorem Action.eq_of_eventOf {action : Action} {event : Event} (brings : action.eventOf? number = some event) :
    action = .call number (.event event) := by
  unfold eventOf? at brings
  split at brings
  · split at brings
    · next here =>
      cases brings
      rw [here]
    · cases brings
  · cases brings

/-- While a session holds the fan-out, no other one has anything open. -/
theorem Sound.others_rest (sound : Sound s) (holds : (s.origin.session number).holds = true) {other : Nat}
    (different : other ≠ number) : (s.origin.session other).stages = none ∧ (s.origin.session other).holds = false := by
  have free : (s.origin.session other).holds = false := by
    rw [Bool.eq_false_iff]
    exact fun also => different (sound.alone number other holds also).symm
  have unstaged := (sound.holds other).symm.trans free
  exact ⟨Option.isNone_iff_eq_none.1 (Option.isSome_eq_false_iff.1 unstaged), free⟩

/-- A call that brings no event to the session that holds the fan-out and does not end it leaves all as it is. -/
theorem Sound.receive_aside (sound : Sound s) (holds : (s.origin.session number).holds = true) (other : Nat) (signal : Signal)
    (unending : (Action.call other signal).ends number = false) (silent : (Action.call other signal).eventOf? number = none) :
    (Flow.effect ((wiring c).receive other signal) s).2 = s := by
  have held := sound.claimed number holds
  by_cases different : other = number
  · subst different
    cases signal with
    | start =>
      rw [Origin.Wiring.receive, effect_start, if_pos held]
      split <;> rfl
    | event event => simp [Action.eventOf?] at silent
    | finish | cancel => simp [Action.ends] at unending
  · obtain ⟨cause, refused⟩ :=
      effect_receive_resting (c := c) (sound.others_rest holds different).1 signal fun _ => held
    rw [refused]

/-- While a session holds the fan-out, nothing else that is asked of a site matters to its transaction. -/
theorem Sound.aside (sound : Sound s) (holds : (s.origin.session number).holds = true) {action : Action}
    (unending : action.ends number = false) (silent : action.eventOf? number = none) :
    Aside number s (Flow.effect (Site.perform c action) s).2 := by
  have known := sound.lt_of_holds holds
  have held := sound.claimed number holds
  have untouched : (s.begun.forgetting s.origin.nextSession).origin.session number = s.origin.session number := by
    rw [session_forgetting, if_neg (by omega), session_begun, if_neg (by omega)]
  by_cases isWhole : action.isWhole = true
  · obtain ⟨α, operation, answer, same, ⟨fault, fails⟩ | ⟨producer, _, runs⟩⟩ := perform_whole (c := c) isWhole s
    · rw [same, Flow.effect_map, fails]
      exact .refl number s
    · rw [same, Flow.effect_map, runs, effect_run_held producer held]
      exact ⟨rfl, rfl, rfl, rfl, rfl, rfl, untouched⟩
  · cases action with
    | begin =>
      refine ⟨rfl, rfl, rfl, rfl, rfl, rfl, ?_⟩
      exact (session_begun s number).trans (if_neg (by omega))
    | call other signal =>
      rcases sound.calls (c := c) other signal with ⟨_, goes⟩ | absent
      · rw [goes, sound.receive_aside holds other signal unending silent]
        exact .refl number s
      · rw [absent]
        exact .refl number s
    | drop other =>
      rcases sound.drops (c := c) other with ⟨_, goes⟩ | absent
      · have different := of_decide_eq_false unending
        rw [goes, effect_drop, (sound.others_rest holds different).2]
        refine ⟨rfl, rfl, rfl, rfl, rfl, rfl, ?_⟩
        exact (session_forgetting s other number).trans (if_neg different)
      · rw [absent]
        exact .refl number s
    | subscribe interest =>
      simp only [Site.perform, nextSeat, Flow.effect_bind, Flow.effect_get, Flow.effect_set, Flow.effect_pure, Flow.effect_map]
      rcases effect_subscribe c s.seats interest { s with seats := s.seats + 1 } with ⟨_, refused⟩ | ⟨closed, _⟩
      · rw [refused]
        exact ⟨rfl, rfl, rfl, rfl, rfl, rfl, rfl⟩
      · exact absurd (held.symm.trans closed) (by decide)
    | unsubscribe id =>
      simp only [Site.perform, Flow.effect_map, effect_unsubscribe, if_pos held]
      exact .refl number s
    | register sender => exact ⟨rfl, rfl, rfl, rfl, rfl, rfl, rfl⟩
    | mutate change =>
      simp only [Site.perform, Flow.effect_bind, Flow.effect_get, Flow.effect_set, Flow.effect_map, Flow.effect_ofExcept]
      exact ⟨rfl, rfl, rfl, rfl, rfl, rfl, rfl⟩
    | reload | reloadAll | reloadGroup | refresh | refreshNamed | applyRows | republish => exact absurd rfl isWhole

/-- Who was told how a transaction ended, and who is left. -/
structure Concluded (s₀ : Site) (signal : Signal) (told : List Event) (s : Site) : Prop where
  closed : s.origin.fanout.transaction = none
  heard : ∃ t log logs lost, t.subscribers = s₀.origin.fanout.subscribers ∧ s.heard = s₀.heard ++ (log ++ logs) ∧
    Audience t told log ∧ Ended t signal logs lost ∧
    s.origin.fanout.subscribers = s₀.origin.fanout.subscribers.filter fun sub => sub.id ∉ t.failed ++ lost

/-- The stages of a transaction are live and sent, and the commit is counted. -/
structure Applied (s₀ : Site) (taken : List Event) (s : Site) : Prop where
  settings : s.origin.settings = s₀.origin.settings
  generation : s.origin.generation = s₀.origin.generation + 1
  stores : ∃ stages, Stages.Reflect s₀.origin.live stages taken ∧
    (∀ entity : String, s.origin.live[entity]? = stages.settled s₀.origin.live entity) ∧
    s.published = s₀.published ++ stages.messages s₀.origin.live

/-- A transaction that took effect. -/
structure Landed (s₀ : Site) (taken told : List Event) (s : Site) : Prop where
  applied : Applied s₀ taken s
  concluded : Concluded s₀ .finish told s

/-- A transaction that took no effect. -/
structure Abandoned (s₀ : Site) (told : List Event) (s : Site) : Prop where
  unchanged : Unchanged s₀ s
  concluded : Concluded s₀ .cancel told s

/-- The owner of a transaction can end it, whatever has become of the stores and of the session by then. -/
theorem Underway.conclude (under : Underway s₀ number owner taken told s) {u : Site}
    (fanout : u.origin.fanout = s.origin.fanout) (heard : u.heard = s.heard) (mine : u.thread = owner) (signal : Signal) :
    ∃ others logs, Flow.effect ((wiring c).fanout.complete signal) u = (.ok (), (u.withFanout others).hearing logs) ∧
      Concluded s₀ signal told ((u.withFanout others).hearing logs) := by
  obtain ⟨t, log, held, own, among, before, audience, others⟩ := under.audience
  have owned : u.origin.fanout.owned u.thread = .ok t :=
    (owned_iff (fanout ▸ held)).trans (if_pos (own.trans mine.symm))
  obtain ⟨logs, lost, round, effect⟩ := effect_complete c signal owned
  refine ⟨_, logs, effect, rfl, t, log, logs, lost, among, ?_, audience, round, ?_⟩
  · rw [← List.append_assoc, ← before, ← heard]
    rfl
  · change u.origin.fanout.subscribers.filter _ = _
    rw [fanout, others, List.filter_filter]
    refine List.filter_congr fun sub _ => ?_
    simp [Bool.and_comm]

/-- Nobody else can. -/
theorem Underway.foreign (under : Underway s₀ number owner taken told s) {u : Site}
    (fanout : u.origin.fanout = s.origin.fanout) (other : u.thread ≠ owner) (signal : Signal) :
    Flow.effect ((wiring c).fanout.complete signal) u = (.error (.failure (.violation .foreignThread)), u) := by
  obtain ⟨t, log, held, own, _⟩ := under.audience
  refine effect_complete_refused c signal ((owned_iff (fanout ▸ held)).trans (if_neg fun same => other ?_))
  exact same.symm.trans own

/-- A session that is put to rest changes nothing that readers see. -/
theorem Unchanged.keeping (unchanged : Unchanged s₀ s) (number : Nat) (session : Session) :
    Unchanged s₀ (s.keeping number session) :=
  ⟨unchanged.settings, unchanged.live, unchanged.generation, unchanged.published⟩

theorem Unchanged.forgetting (unchanged : Unchanged s₀ s) (number : Nat) : Unchanged s₀ (s.forgetting number) :=
  ⟨unchanged.settings, unchanged.live, unchanged.generation, unchanged.published⟩

/-- What is said to subscribers changes nothing that readers see. -/
theorem Unchanged.speaking (unchanged : Unchanged s₀ s) (fanout : Fanout Nat) (log : List Heard) :
    Unchanged s₀ ((s.withFanout fanout).hearing log) :=
  ⟨unchanged.settings, unchanged.live, unchanged.generation, unchanged.published⟩

theorem Underway.cancel (under : Underway s₀ number owner taken told s) (mine : s.thread = owner) :
    ∃ after, Flow.effect ((wiring c).cancel number) s = (.ok (), after) ∧ Abandoned s₀ told after ∧
      after.origin.session number = {} := by
  obtain ⟨stages, session, _⟩ := under.staged
  obtain ⟨others, logs, effect, concluded⟩ :=
    under.conclude (c := c) (u := s.keeping number {}) rfl rfl mine .cancel
  refine ⟨_, ?_, ⟨(under.unchanged.keeping number {}).speaking others logs, concluded⟩, ?_⟩
  · rw [effect_cancel, session]
    exact effect
  · exact (session_keeping s number number {}).trans (if_pos rfl)

/-- A handle that goes away takes its transaction with it. -/
theorem Underway.drop (under : Underway s₀ number owner taken told s) (mine : s.thread = owner) :
    ∃ after, Flow.effect ((wiring c).drop number) s = (.ok (), after) ∧ Abandoned s₀ told after := by
  obtain ⟨stages, session, _⟩ := under.staged
  obtain ⟨others, logs, effect, concluded⟩ :=
    under.conclude (c := c) (u := s.forgetting number) rfl rfl mine .cancel
  refine ⟨_, ?_, (under.unchanged.forgetting number).speaking others logs, concluded⟩
  rw [effect_drop, session, if_pos rfl, effect]

/-- The stages of a transaction can all be applied, and then the fan-out is asked to tell of it. -/
theorem Underway.effect_commit (under : Underway s₀ number owner taken told s) :
    (∃ committed, committed.origin.fanout = s.origin.fanout ∧ committed.heard = s.heard ∧ committed.thread = s.thread ∧
      (∀ other, committed.origin.session other = if number = other then {} else s.origin.session other) ∧
      Flow.effect ((wiring c).finish number) s = Flow.effect ((wiring c).fanout.complete .finish) committed ∧
      ∀ fanout log, Applied s₀ taken ((committed.withFanout fanout).hearing log)) ∨
      ∃ entity marker, Event.isMarker marker = true ∧ concerning entity taken = [marker] ∧
        Flow.effect ((wiring c).finish number) s =
          Flow.effect ((wiring c).fanout.complete .cancel >>= fun _ => Flow.fail (.violation (.markerWithoutBlock entity)))
            (s.keeping number {}) := by
  obtain ⟨stages, session, reflect⟩ := under.staged
  rw [effect_finish, session]
  rcases unbegun : stages.unbegun? with _ | entity
  · obtain ⟨next, prepared, commits, messages, settled⟩ := reflect.commit
    refine .inl ⟨(s.committing next prepared).keeping number {}, rfl, rfl, rfl, fun other => ?_, ?_, fun fanout log => ?_⟩
    · exact session_keeping _ _ _ _
    · rw [under.unchanged.live]
      simp only [unbegun, commits]
    · have sent : s.published ++ prepared.messages = s₀.published ++ stages.messages s₀.origin.live := by
        rw [messages, under.unchanged.published]
      exact ⟨under.unchanged.settings, congrArg (· + 1) under.unchanged.generation, stages, reflect, settled, sent⟩
  · obtain ⟨marker, marks, alone⟩ := reflect.unbegun unbegun
    refine .inr ⟨entity, marker, marks, alone, ?_⟩
    rw [Flow.effect_bind]
    simp only [unbegun]
    rcases Flow.effect ((wiring c).fanout.complete .cancel) (s.keeping number {}) with ⟨_ | _, after⟩ <;> rfl

/-- A commit takes effect as a whole, or not at all: if some marker was not followed by its block. -/
theorem Underway.finish (under : Underway s₀ number owner taken told s) (mine : s.thread = owner) :
    (∃ after, Flow.effect ((wiring c).finish number) s = (.ok (), after) ∧ Landed s₀ taken told after ∧
        after.origin.session number = {}) ∨
      ∃ entity marker after, Event.isMarker marker = true ∧ concerning entity taken = [marker] ∧
        Flow.effect ((wiring c).finish number) s =
          (.error (.failure (.violation (.markerWithoutBlock entity))), after) ∧ Abandoned s₀ told after ∧
        after.origin.session number = {} := by
  rcases under.effect_commit (c := c)
    with ⟨committed, fanout, heard, thread, rested, commits, applied⟩ | ⟨entity, marker, marks, alone, cancels⟩
  · obtain ⟨others, logs, effect, concluded⟩ := under.conclude (c := c) fanout heard (thread.trans mine) .finish
    exact .inl ⟨_, commits.trans effect, ⟨applied others logs, concluded⟩, (rested number).trans (if_pos rfl)⟩
  · obtain ⟨others, logs, effect, concluded⟩ :=
      under.conclude (c := c) (u := s.keeping number {}) rfl rfl mine .cancel
    refine .inr ⟨entity, marker, _, marks, alone, ?_,
      ⟨(under.unchanged.keeping number {}).speaking others logs, concluded⟩, ?_⟩
    · rw [cancels, Flow.effect_bind, effect]
      rfl
    · exact (session_keeping s number number {}).trans (if_pos rfl)

/-- From another thread a commit is applied and then refused, and the fan-out stays held. -/
theorem Underway.finish_foreign (under : Underway s₀ number owner taken told s) (other : s.thread ≠ owner) :
    ∃ after, Flow.effect ((wiring c).finish number) s = (.error (.failure (.violation .foreignThread)), after) ∧
      after.origin.fanout = s.origin.fanout ∧
      (∀ other, after.origin.session other = if number = other then {} else s.origin.session other) ∧
      (Applied s₀ taken after ∨ Unchanged s₀ after) := by
  rcases under.effect_commit (c := c)
    with ⟨committed, fanout, heard, thread, rested, commits, applied⟩ | ⟨entity, _, _, _, cancels⟩
  · have refused := under.foreign (c := c) fanout (fun same => other (thread.symm.trans same)) .finish
    have here := applied committed.origin.fanout []
    rw [hearing, List.append_nil] at here
    exact ⟨committed, commits.trans refused, fanout, rested, .inl here⟩
  · have refused := under.foreign (c := c) (u := s.keeping number {}) rfl other .cancel
    exact ⟨s.keeping number {}, by rw [cancels, Flow.effect_bind, refused], rfl, fun other => session_keeping _ _ _ _,
      .inr (under.unchanged.keeping number {})⟩

theorem Underway.cancel_foreign (under : Underway s₀ number owner taken told s) (other : s.thread ≠ owner) :
    Flow.effect ((wiring c).cancel number) s = (.error (.failure (.violation .foreignThread)), s.keeping number {}) := by
  obtain ⟨stages, session, _⟩ := under.staged
  rw [effect_cancel, session]
  exact under.foreign (c := c) (u := s.keeping number {}) rfl other .cancel

/-- A handle that goes away on another thread leaves the fan-out held. -/
theorem Underway.drop_foreign (under : Underway s₀ number owner taken told s) (other : s.thread ≠ owner) :
    Flow.effect ((wiring c).drop number) s = (.ok (), s.forgetting number) := by
  obtain ⟨stages, session, _⟩ := under.staged
  have refused := under.foreign (c := c) (u := s.forgetting number) rfl other .cancel
  rw [effect_drop, session, if_pos rfl, refused]

/-- That a session was begun before a transaction does not matter, nor that it is gone after it. -/
theorem Landed.of_begun (landed : Landed s₀.begun taken told s) : Landed s₀ taken told s :=
  ⟨⟨landed.applied.settings, landed.applied.generation, landed.applied.stores⟩,
    landed.concluded.closed, landed.concluded.heard⟩

/-- Nor does it matter who asked for it. -/
theorem Landed.of_on {thread : Thread} (landed : Landed { s₀ with thread } taken told s) : Landed s₀ taken told s :=
  ⟨⟨landed.applied.settings, landed.applied.generation, landed.applied.stores⟩,
    landed.concluded.closed, landed.concluded.heard⟩

theorem Landed.forgetting (landed : Landed s₀ taken told s) (number : Nat) : Landed s₀ taken told (s.forgetting number) :=
  ⟨⟨landed.applied.settings, landed.applied.generation, landed.applied.stores⟩,
    landed.concluded.closed, landed.concluded.heard⟩

theorem Abandoned.of_begun (abandoned : Abandoned s₀.begun told s) : Abandoned s₀ told s :=
  ⟨⟨abandoned.unchanged.settings, abandoned.unchanged.live, abandoned.unchanged.generation, abandoned.unchanged.published⟩,
    abandoned.concluded.closed, abandoned.concluded.heard⟩

theorem Abandoned.forgetting (abandoned : Abandoned s₀ told s) (number : Nat) : Abandoned s₀ told (s.forgetting number) :=
  ⟨abandoned.unchanged.forgetting number, abandoned.concluded.closed, abandoned.concluded.heard⟩

end Site

end ReferenceFeed
