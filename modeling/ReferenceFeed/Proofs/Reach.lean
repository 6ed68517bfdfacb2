import ReferenceFeed.Proofs.Joining
import ReferenceFeed.Proofs.Producing
import ReferenceFeed.Proofs.Sound

namespace ReferenceFeed

/-!
Whatever is asked of a site leaves it sound, however it ends. So every site that can be reached is sound.
-/

theorem Fanout.owned_ok {fanout : Fanout Nat} {thread : Thread} {t : Transaction Nat}
    (owned : fanout.owned thread = .ok t) : fanout.transaction = some t ∧ t.owner = thread := by
  unfold Fanout.owned at owned
  split at owned
  · cases owned
  · next found =>
    split at owned
    · next own =>
      cases owned
      exact ⟨found, own⟩
    · cases owned

namespace Site

variable {c : Conduct} {s : Site} {number : Nat}

/-- Handing out an event concerns the fan-out and those it calls. -/
theorem deliver_shape (c : Conduct) (event : Event) (s : Site) :
    ∃ fanout log, (Flow.effect ((wiring c).fanout.deliver event) s).2 = (s.withFanout fanout).hearing log := by
  rcases owned : s.origin.fanout.owned s.thread with cause | t
  · exact ⟨s.origin.fanout, [], by rw [effect_deliver_refused c event owned, hearing, List.append_nil]; rfl⟩
  · obtain ⟨log, lost, _, effect⟩ := effect_deliver c event owned
    exact ⟨_, log, by rw [effect]⟩

theorem complete_shape (c : Conduct) (signal : Signal) (s : Site) :
    ∃ fanout log, (Flow.effect ((wiring c).fanout.complete signal) s).2 = (s.withFanout fanout).hearing log := by
  rcases owned : s.origin.fanout.owned s.thread with cause | t
  · exact ⟨s.origin.fanout, [], by rw [effect_complete_refused c signal owned, hearing, List.append_nil]; rfl⟩
  · obtain ⟨log, lost, _, effect⟩ := effect_complete c signal owned
    exact ⟨_, log, by rw [effect]⟩

theorem Sound.deliver (sound : Sound s) (event : Event) :
    Sound (Flow.effect ((wiring c).fanout.deliver event) s).2 := by
  rcases owned : s.origin.fanout.owned s.thread with cause | t
  · rw [effect_deliver_refused c event owned]
    exact sound
  · obtain ⟨log, lost, round, effect⟩ := effect_deliver c event owned
    rw [effect]
    have among := sound.crowd.inside t (Fanout.owned_ok owned).1
    have reached : ∀ sub ∈ (t.reaching event.entity).subscribers, sub.channel < s.seats := among
    refine sound.speaking ((sound.crowd.during reached).dropping lost) (fun _ _ => rfl) fun h member => ?_
    obtain ⟨target, inTargets, seat⟩ := round.seated h member
    rw [← seat]
    exact among _ (HandedOut.among target inTargets)

theorem Sound.complete (sound : Sound s) (idle : Idle s) (signal : Signal) :
    Sound (Flow.effect ((wiring c).fanout.complete signal) s).2 := by
  rcases owned : s.origin.fanout.owned s.thread with cause | t
  · rw [effect_complete_refused c signal owned]
    exact sound
  · obtain ⟨log, lost, round, effect⟩ := effect_complete c signal owned
    rw [effect]
    have among := sound.crowd.inside t (Fanout.owned_ok owned).1
    refine sound.speaking (sound.crowd.dropping lost).closed (fun number holds => ?_) fun h member => ?_
    · exact absurd holds (by rw [idle number]; decide)
    · obtain ⟨target, inTargets, seat⟩ := round.seated h member
      obtain ⟨sub, heeding, rfl⟩ := List.mem_map.1 inTargets
      obtain ⟨id, _, found⟩ := List.mem_filterMap.1 heeding
      rw [← seat]
      exact among sub (List.mem_of_find?_eq_some found)

/-- A sound site in which a session exists, or existed. -/
def Known (number : Nat) (s : Site) : Prop := Sound s ∧ number < s.origin.nextSession

theorem Sound.begin (sound : Sound s) : Known s.origin.nextSession (Flow.effect (wiring c).begin s).2 := by
  refine ⟨?_, Nat.lt_succ_self _⟩
  rw [effect_begin]
  have fresh : s.origin.session s.origin.nextSession = {} := by
    rw [Origin.session, sound.numbered _ (Nat.le_refl _)]
    rfl
  have same : ∀ other, (s.origin.withSession s.origin.nextSession {}).session other = s.origin.session other := by
    intro other
    rw [Origin.session_withSession]
    split
    · next here => rw [← here, fresh]
    · rfl
  refine sound.of_rested rfl rfl rfl rfl (fun number above => ?_) fun other => .inl (same other)
  have above : s.origin.nextSession + 1 ≤ number := above
  have different : s.origin.nextSession ≠ number := by omega
  change (s.origin.sessions.insert s.origin.nextSession {})[number]? = none
  rw [Keyed.getElem?_insert, if_neg different]
  exact sound.numbered number (by omega)

theorem Sound.idle_of_closed (sound : Sound s) (closed : s.origin.fanout.isOpen = false) : Idle s := by
  intro number
  rw [Bool.eq_false_iff]
  intro holds
  exact Bool.false_ne_true (closed.symm.trans (sound.claimed number holds))

theorem Known.start (known : Known number s) : Known number (Flow.effect ((wiring c).start number) s).2 := by
  rw [effect_start]
  by_cases twice : (s.origin.session number).stages.isSome = true
  · rw [if_pos twice]
    exact known
  · rw [if_neg twice]
    by_cases held : s.origin.fanout.isOpen = true
    · rw [if_pos held]
      exact known
    · rw [if_neg held]
      have idle := known.1.idle_of_closed (Bool.eq_false_iff.2 held)
      have crowd : Crowd (s.origin.fanout.opened s.thread s.origin.fanout.subscribers) s.seats :=
        known.1.crowd.during known.1.crowd.seated
      have opened : Sound ((s.withFanout (s.origin.fanout.opened s.thread s.origin.fanout.subscribers)).hearing []) :=
        known.1.speaking crowd (fun _ _ => rfl) (List.forall_mem_nil _)
      rw [hearing, List.append_nil] at opened
      refine ⟨opened.keeping known.2 rfl (fun _ => .inr ⟨idle, rfl⟩) fun stages found => ?_, known.2⟩
      cases found
      exact ⟨[], Stages.Reflect.empty _⟩

theorem take_none {settings : OriginSettings} {live : Keyed Store} {event : Event} {told : Event × Stages}
    (took : Stages.take settings live none event = .ok told) : False := by
  cases event with
  | reload entity header =>
    obtain ⟨_, absurd, _⟩ := bind_ok took
    cases absurd
  | reloadGroup entity group value =>
    obtain ⟨_, _, rest⟩ := bind_ok took
    obtain ⟨_, _, rest⟩ := bind_ok rest
    obtain ⟨_, absurd, _⟩ := bind_ok rest
    cases absurd
  | block entity header => cases took
  | update entity header entry =>
    obtain ⟨_, _, rest⟩ := bind_ok took
    obtain ⟨_, absurd, _⟩ := bind_ok rest
    cases absurd
  | remove entity id =>
    obtain ⟨_, absurd, _⟩ := bind_ok took
    cases absurd

/-- A handle with nothing open is refused everything but a start, and that as well while the fan-out is held. -/
theorem effect_receive_resting (resting : (s.origin.session number).stages = none) (signal : Signal)
    (held : signal = .start → s.origin.fanout.isOpen = true) :
    ∃ cause, Flow.effect ((wiring c).receive number signal) s = (.error (.failure cause), s) := by
  cases signal with
  | start =>
    refine ⟨.violation (.held .start), (effect_start c number s).trans ?_⟩
    rw [resting, if_neg (by decide), if_pos (held rfl)]
  | event event =>
    rcases took : Stages.take s.origin.settings s.origin.live none event with cause | told
    · refine ⟨cause, (effect_event c number s event).trans ?_⟩
      rw [resting, took]
    · exact (take_none took).elim
  | finish =>
    refine ⟨.violation .finishWithoutStart, (effect_finish c number s).trans ?_⟩
    rw [resting]
  | cancel =>
    refine ⟨.violation .cancelWithoutStart, (effect_cancel c number s).trans ?_⟩
    rw [resting]
    rfl

theorem Known.event (known : Known number s) (event : Event) :
    Known number (Flow.effect ((wiring c).event number event) s).2 := by
  rw [effect_event]
  rcases took : Stages.take s.origin.settings s.origin.live (s.origin.session number).stages event with cause | ⟨told, next⟩
  · exact known
  · rcases staged : (s.origin.session number).stages with _ | stages
    · rw [staged] at took
      exact (take_none took).elim
    · rw [staged] at took
      obtain ⟨taken, reflect⟩ := known.1.staged number stages staged
      have holds := known.1.holds number
      rw [staged] at holds
      have kept : Sound (s.keeping number { s.origin.session number with stages := some next }) := by
        refine known.1.keeping known.2 holds (fun _ => .inl holds) fun other found => ?_
        cases found
        exact ⟨_, reflect.take took⟩
      refine ⟨kept.deliver told, ?_⟩
      obtain ⟨fanout, log, shape⟩ :=
        deliver_shape c told (s.keeping number { s.origin.session number with stages := some next })
      change number < (Flow.effect ((wiring c).fanout.deliver told) _).2.origin.nextSession
      rw [shape]
      exact known.2

theorem Known.complete (known : Known number s) (idle : Idle s) (signal : Signal) :
    Known number (Flow.effect ((wiring c).fanout.complete signal) s).2 := by
  obtain ⟨fanout, log, shape⟩ := complete_shape c signal s
  refine ⟨known.1.complete idle signal, ?_⟩
  rw [shape]
  exact known.2

theorem Known.resting (known : Known number s) : Known number (s.keeping number {}) :=
  ⟨known.1.resting known.2, known.2⟩

theorem Sound.idle_resting (sound : Sound s) (holds : (s.origin.session number).holds = true) :
    Idle (s.keeping number {}) := sound.idle_without holds (session_keeping s number · {})

theorem Sound.holds_of_stages (sound : Sound s) {stages : Stages} (staged : (s.origin.session number).stages = some stages) :
    (s.origin.session number).holds = true := by
  rw [sound.holds, staged]
  rfl

theorem Known.cancel (known : Known number s) : Known number (Flow.effect ((wiring c).cancel number) s).2 := by
  rw [effect_cancel]
  rcases staged : (s.origin.session number).stages with _ | stages
  · exact known
  · have idle := known.1.idle_resting (known.1.holds_of_stages staged)
    exact known.resting.complete idle .cancel

theorem Known.finish (known : Known number s) : Known number (Flow.effect ((wiring c).finish number) s).2 := by
  rw [effect_finish_state]
  rcases staged : (s.origin.session number).stages with _ | stages
  · exact known
  · have idle := known.1.idle_resting (known.1.holds_of_stages staged)
    obtain ⟨taken, reflect⟩ := known.1.staged number stages staged
    rcases unbegun : stages.unbegun? with _ | entity
    · obtain ⟨next, prepared, commits, _, settled⟩ := reflect.commit
      have stores : SoundStores (prepared.swaps.foldl (fun live store => live.insert store.entity store) next) := by
        intro entity store found
        rw [settled] at found
        exact reflect.settled_sound known.1.stores found
      have committed : Known number ((s.keeping number {}).committing next prepared) :=
        ⟨known.resting.1.committing idle stores, known.2⟩
      simp only [unbegun, commits]
      exact committed.complete idle .finish
    · simp only [unbegun]
      exact known.resting.complete idle .cancel

theorem Known.drop (known : Known number s) : Sound (Flow.effect ((wiring c).drop number) s).2 := by
  rw [effect_drop_state]
  split
  · next holds =>
    have idle := known.1.idle_without holds (session_forgetting s number)
    exact (known.1.forgetting number).complete idle .cancel
  · exact known.1.forgetting number

/-- Soundness is kept by whatever is done with a session. -/
theorem sound_handling (c : Conduct) : Handling c Sound Known where
  begins _ sound := sound.begin
  starts _ _ known := known.start
  hears _ event _ known := known.event event
  finishes _ _ known := known.finish
  cancels _ _ known := known.cancel
  drops _ _ known := known.drop

theorem Sound.on (sound : Sound s) (thread : Thread) : Sound { s with thread } :=
  ⟨sound.stores, sound.numbered, sound.holds, sound.alone, sound.claimed, sound.staged, sound.crowd, sound.seated⟩

/-- Only sessions that were begun can be used. -/
theorem Sound.present (sound : Sound s) (number : Nat) :
    Flow.effect (present number) s = (.ok (), s) ∧ Known number s ∨
      Flow.effect (present number) s = (.error (.failure (.violation .outside)), s) := by
  simp only [Site.present, Flow.effect_bind, Flow.effect_get, Flow.effect_ofExcept]
  by_cases begun : s.origin.sessions.contains number = true
  · rw [if_pos begun]
    refine .inl ⟨rfl, sound, ?_⟩
    by_contra beyond
    rw [Std.ExtTreeMap.contains_eq_isSome_getElem?, sound.numbered number (Nat.le_of_not_lt beyond)] at begun
    cases begun
  · rw [if_neg begun]
    exact .inr rfl

/-- What is done for a session is done if it was begun, and refused if not. -/
theorem Sound.for_present (sound : Sound s) (number : Nat) (operation : Flow Site Unit) :
    Known number s ∧ Flow.effect (do Site.present number; (fun _ => Answer.done) <$> operation) s =
        ((Flow.effect operation s).1.map fun _ => .done, (Flow.effect operation s).2) ∨
      Flow.effect (do Site.present number; (fun _ => Answer.done) <$> operation) s = (.error (.failure (.violation .outside)), s) := by
  simp only [Flow.effect_bind]
  rcases sound.present number with ⟨present, known⟩ | absent
  · simp only [present, Flow.effect_map]
    exact .inl ⟨known, trivial⟩
  · simp only [absent]
    exact .inr trivial

/-- A call of a handle that was begun is a call for its session, and any other is refused. -/
theorem Sound.calls (sound : Sound s) (number : Nat) (signal : Signal) :
    Known number s ∧ Flow.effect (perform c (.call number signal)) s =
        ((Flow.effect ((wiring c).receive number signal) s).1.map fun _ => .done,
          (Flow.effect ((wiring c).receive number signal) s).2) ∨
      Flow.effect (perform c (.call number signal)) s = (.error (.failure (.violation .outside)), s) :=
  sound.for_present number _

theorem Sound.drops (sound : Sound s) (number : Nat) :
    Known number s ∧ Flow.effect (perform c (.drop number)) s =
        ((Flow.effect ((wiring c).drop number) s).1.map fun _ => .done, (Flow.effect ((wiring c).drop number) s).2) ∨
      Flow.effect (perform c (.drop number)) s = (.error (.failure (.violation .outside)), s) :=
  sound.for_present number _

theorem Known.receive (known : Known number s) (signal : Signal) :
    Sound (Flow.effect ((wiring c).receive number signal) s).2 := by
  cases signal with
  | start => exact known.start.1
  | event event => exact (known.event event).1
  | finish => exact known.finish.1
  | cancel => exact known.cancel.1

theorem Sound.seating (sound : Sound s) : Sound { s with seats := s.seats + 1 } where
  stores := sound.stores
  numbered := sound.numbered
  holds := sound.holds
  alone := sound.alone
  claimed := sound.claimed
  staged := sound.staged
  crowd := sound.crowd.more
  seated h member := Nat.lt_succ_of_lt (sound.seated h member)

/-- A newcomer gets the next seat, whether or not it is taken. -/
theorem Sound.subscribe (sound : Sound s) (interest : Interest) :
    Sound (Flow.effect ((wiring c).subscribe interest s.seats) { s with seats := s.seats + 1 }).2 := by
  have more := sound.seating
  rcases effect_subscribe c s.seats interest { s with seats := s.seats + 1 }
    with ⟨_, refused⟩ | ⟨closed, joined | ⟨fault, log, failed, broken⟩⟩
  · rw [refused]
    exact more
  · rw [joined]
    have nobody := more.idle_of_closed closed
    refine more.speaking (sound.crowd.admitting interest) (fun number holds => ?_) fun h member => ?_
    · exact absurd holds (by rw [nobody number]; decide)
    · obtain ⟨signal, _, rfl⟩ := List.mem_map.1 member
      exact Nat.lt_succ_self _
  · rw [failed]
    exact more.speaking more.crowd more.claimed fun h member => broken.seated h member ▸ Nat.lt_succ_self _

theorem Sound.unsubscribe (sound : Sound s) (id : Nat) : Sound (Flow.effect ((wiring c).unsubscribe id) s).2 := by
  rw [effect_unsubscribe]
  by_cases held : s.origin.fanout.isOpen = true
  · rw [if_pos held]
    exact sound
  · rw [if_neg held]
    have among : (s.origin.fanout.subscribers.filter fun sub => sub.id ≠ id).Sublist s.origin.fanout.subscribers :=
      List.filter_sublist
    have fewer := sound.speaking (sound.crowd.without among) sound.claimed (List.forall_mem_nil _)
    rw [hearing, List.append_nil] at fewer
    exact fewer

/-- Nothing that is asked of a site makes it unsound. -/
theorem Sound.perform (c : Conduct) (action : Action) : Flow.Keeps Sound (perform c action) := by
  intro s sound
  by_cases isWhole : action.isWhole = true
  · exact (sound_handling c).whole isWhole s sound
  · cases action with
    | begin => exact sound.begin.1
    | call number signal =>
      rcases sound.calls (c := c) number signal with ⟨known, goes⟩ | absent
      · rw [goes]
        exact known.receive signal
      · rw [absent]
        exact sound
    | drop number =>
      rcases sound.drops (c := c) number with ⟨known, goes⟩ | absent
      · rw [goes]
        exact known.drop
      · rw [absent]
        exact sound
    | subscribe interest =>
      simp only [Site.perform, nextSeat, Flow.effect_bind, Flow.effect_get, Flow.effect_set, Flow.effect_map]
      exact sound.subscribe interest
    | unsubscribe id =>
      simp only [Site.perform, Flow.effect_map]
      exact sound.unsubscribe id
    | register sender =>
      exact ⟨sound.stores, sound.numbered, sound.holds, sound.alone, sound.claimed, sound.staged, sound.crowd, sound.seated⟩
    | mutate change =>
      simp only [Site.perform, Flow.effect_bind, Flow.effect_get, Flow.effect_set, Flow.effect_map, Flow.effect_ofExcept]
      exact ⟨sound.stores, sound.numbered, sound.holds, sound.alone, sound.claimed, sound.staged, sound.crowd, sound.seated⟩
    | reload | reloadAll | reloadGroup | refresh | refreshNamed | applyRows | republish => exact absurd rfl isWhole

theorem Sound.answered {t : Site} {thread : Thread} {action : Action} {answer : Except Fault Answer} (sound : Sound s)
    (acts : act c thread action s = (answer, t)) : Sound t :=
  act_after acts ▸ Sound.perform c action _ (sound.on thread)

/-- Staged changes fit a store as long as its columns stay. -/
theorem reflect_insert {live : Keyed Store} {stages : Stages} {taken : List Event} {entity : String} {old new : Store}
    (reflect : Stages.Reflect live stages taken) (found : live[entity]? = some old) (columns : new.header = old.header) :
    Stages.Reflect (live.insert entity new) stages taken := by
  have alive : ∀ (other : String) (store : Store), live[other]? = some store →
      ∃ next, (live.insert entity new)[other]? = some next ∧ next.header = store.header := by
    intro other store before
    rw [Keyed.getElem?_insert]
    split
    · next same =>
      cases found.symm.trans (same ▸ before)
      exact ⟨new, rfl, columns⟩
    · exact ⟨store, before, rfl⟩
  intro other
  have reflects := reflect other
  generalize stages[other]? = stage at reflects ⊢
  generalize concerning other taken = events at reflects ⊢
  cases reflects with
  | untouched => exact .untouched
  | whole named columns sound entries flag plain => exact .whole named columns sound entries flag plain
  | group before folded inside flag plain =>
    obtain ⟨next, now, _⟩ := alive other _ before
    exact .group now folded inside flag plain
  | sparse before own apart words plain =>
    obtain ⟨next, now, same⟩ := alive other _ before
    rw [← same]
    exact .sparse now own apart words plain

theorem Sound.edit (sound : Sound s) {entity : String} {old new : Store} (found : s.origin.live[entity]? = some old)
    (name : new.entity = old.entity) (columns : new.header = old.header) (whole : new.Sound) :
    Sound (s.withLive (s.origin.live.insert entity new)) where
  stores := sound.stores.insert (name.trans (sound.stores entity old found).1) whole
  numbered := sound.numbered
  holds := sound.holds
  alone := sound.alone
  claimed := sound.claimed
  staged number stages staged := by
    obtain ⟨taken, reflect⟩ := sound.staged number stages staged
    exact ⟨taken, reflect_insert reflect found columns⟩
  crowd := sound.crowd
  seated := sound.seated

/-- Every site that can be reached is sound. -/
theorem Reachable.sound (reach : Reachable c s) : Sound s := by
  induction reach with
  | fresh settings catalogue => exact .fresh settings catalogue
  | next thread action _ sound => exact Sound.perform c action _ (sound.on thread)
  | @put s entity store entry _ found sound =>
    exact sound.edit found rfl rfl ((sound.stores entity store found).2.put entry)
  | @remove s entity store id _ found sound =>
    exact sound.edit found rfl rfl ((sound.stores entity store found).2.remove id)

end Site

end ReferenceFeed
