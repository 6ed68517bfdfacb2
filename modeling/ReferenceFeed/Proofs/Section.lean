import ReferenceFeed.Proofs.Atomicity

namespace ReferenceFeed

/-!
The exclusive section of an origin that one thread uses. The fan-out is held exactly as long as a handle has its
transaction open, no two handles have one, and whatever ends the transaction gives the fan-out back.
-/

namespace Site

/-- A handle that has a transaction open: it holds the fan-out, and it has stages. -/
def Holder (s : Site) (number : Nat) : Prop :=
  (s.origin.session number).holds = true ∧ (s.origin.session number).stages.isSome = true

/-- What a site can come to in the hands of one thread. -/
inductive Solo (c : Conduct) (thread : Thread) : Site → Prop
  | fresh (settings catalogue) : Solo c thread { origin := { settings }, catalogue }
  | next {s} (action) : Solo c thread s → Solo c thread (act c thread action s).2
  | put {s entity store} (entry) :
      Solo c thread s → s.origin.live[entity]? = some store →
      Solo c thread (s.withLive (s.origin.live.insert entity (store.put entry)))
  | remove {s entity store} (id) :
      Solo c thread s → s.origin.live[entity]? = some store →
      Solo c thread (s.withLive (s.origin.live.insert entity (store.remove id)))

/-- The actions that take hold of the fan-out, or try to. -/
def Action.takes : Action → Bool
  | .call _ .start | .subscribe _ | .unsubscribe _ => true
  | action => action.isWhole

/-- What takes hold of the fan-out hands no event in and ends no transaction. -/
theorem Action.takes_apart {action : Action} (takes : action.takes = true) (number : Nat) :
    action.ends number = false ∧ action.eventOf? number = none := by
  cases action with
  | call other signal => cases signal <;> first | exact ⟨rfl, rfl⟩ | cases takes
  | _ => first | exact ⟨rfl, rfl⟩ | cases takes

/-- What is held is held by the thread, for a handle. -/
structure Guarded (thread : Thread) (s : Site) : Prop where
  here : s.thread = thread
  owns : Owns thread s
  held : s.origin.fanout.isOpen = true → ∃ number, (s.origin.session number).holds = true

variable {c : Conduct} {thread : Thread} {s t : Site} {number : Nat}

/-- What does not touch the fan-out and leaves the holder its hold. -/
theorem Guarded.same (guarded : Guarded thread s) (stays : t.thread = s.thread) (fanout : t.origin.fanout = s.origin.fanout)
    (holders : ∀ number, (s.origin.session number).holds = true → ∃ other, (t.origin.session other).holds = true) :
    Guarded thread t where
  here := stays.trans guarded.here
  owns u open_now := guarded.owns u (fanout ▸ open_now)
  held is_open := by
    obtain ⟨number, holds⟩ := guarded.held (fanout ▸ is_open)
    exact holders number holds

/-- The thread that has the fan-out can close it. -/
theorem complete_closes (owns : Owns s.thread s) (signal : Signal) :
    (Flow.effect ((wiring c).fanout.complete signal) s).2.origin.fanout.transaction = none ∧
      (Flow.effect ((wiring c).fanout.complete signal) s).2.thread = s.thread := by
  rcases open_now : s.origin.fanout.transaction with _ | t
  · have outside : s.origin.fanout.owned s.thread = .error (.violation .outside) := by rw [Fanout.owned, open_now]
    rw [effect_complete_refused c signal outside]
    exact ⟨open_now, rfl⟩
  · obtain ⟨log, lost, _, effect⟩ := effect_complete c signal ((owned_iff open_now).trans (if_pos (owns t open_now)))
    rw [effect]
    exact ⟨rfl, rfl⟩

theorem Guarded.of_closed (stays : t.thread = thread) (closed : t.origin.fanout.transaction = none) : Guarded thread t where
  here := stays
  owns u open_now := by
    rw [closed] at open_now
    cases open_now
  held is_open := by
    rw [Fanout.isOpen, closed] at is_open
    cases is_open

/-- To end the transaction is to give the fan-out back, whatever has become of the rest. -/
theorem Guarded.closes (guarded : Guarded thread s) {u : Site} (stays : u.thread = s.thread)
    (fanout : u.origin.fanout = s.origin.fanout) (signal : Signal) :
    (Flow.effect ((wiring c).fanout.complete signal) u).2.origin.fanout.transaction = none ∧
      (Flow.effect ((wiring c).fanout.complete signal) u).2.thread = thread := by
  have here := stays.trans guarded.here
  have owns : Owns u.thread u := fun v open_now => (guarded.owns v (fanout ▸ open_now)).trans here.symm
  obtain ⟨closed, same⟩ := complete_closes (c := c) owns signal
  exact ⟨closed, same.trans here⟩

theorem Guarded.complete (guarded : Guarded thread s) {u : Site} (stays : u.thread = s.thread)
    (fanout : u.origin.fanout = s.origin.fanout) (signal : Signal) :
    Guarded thread (Flow.effect ((wiring c).fanout.complete signal) u).2 := by
  obtain ⟨closed, here⟩ := guarded.closes (c := c) stays fanout signal
  exact .of_closed here closed

/-- An event reaches the subscribers of a transaction and leaves it open. -/
theorem Guarded.deliver (guarded : Guarded thread s) (event : Event) :
    Guarded thread (Flow.effect ((wiring c).fanout.deliver event) s).2 := by
  rcases owned : s.origin.fanout.owned s.thread with cause | u
  · rw [effect_deliver_refused c event owned]
    exact guarded
  · obtain ⟨open_now, own⟩ := Fanout.owned_ok owned
    obtain ⟨log, lost, _, effect⟩ := effect_deliver c event owned
    have is_open : s.origin.fanout.isOpen = true := by rw [Fanout.isOpen, open_now]; rfl
    rw [effect]
    refine ⟨guarded.here, fun v now => ?_, fun _ => guarded.held is_open⟩
    cases now
    exact own.trans guarded.here

/-- A session that had nothing open is put in the place of what it was. -/
theorem Guarded.start (guarded : Guarded thread s) : Guarded thread (Flow.effect ((wiring c).start number) s).2 := by
  rw [effect_start]
  split
  · exact guarded
  · split
    · exact guarded
    · refine ⟨guarded.here, fun v now => ?_, fun _ => ⟨number, ?_⟩⟩
      · cases now
        exact guarded.here
      · rw [session_keeping, if_pos rfl]

theorem Guarded.event (guarded : Guarded thread s) (event : Event) :
    Guarded thread (Flow.effect ((wiring c).event number event) s).2 := by
  rw [effect_event]
  rcases Stages.take s.origin.settings s.origin.live (s.origin.session number).stages event with cause | ⟨told, stages⟩
  · exact guarded
  · have kept : Guarded thread (s.keeping number { s.origin.session number with stages := some stages }) := by
      refine guarded.same rfl rfl fun other holds => ⟨other, ?_⟩
      rw [session_keeping]
      split
      · next same => rw [same, holds]
      · exact holds
    exact kept.deliver told

theorem Guarded.finish (guarded : Guarded thread s) : Guarded thread (Flow.effect ((wiring c).finish number) s).2 := by
  rw [effect_finish_state]
  rcases (s.origin.session number).stages with _ | stages
  · exact guarded
  · rcases unbegun : stages.unbegun? with _ | entity
    · simp only [unbegun]
      rcases Stages.commit s.origin.live stages.toList with ⟨live, cause | prepared⟩
      · exact guarded.complete (by rfl) (by rfl) .cancel
      · exact guarded.complete (by rfl) (by rfl) .finish
    · simp only [unbegun]
      exact guarded.complete (by rfl) (by rfl) .cancel

theorem Guarded.cancel (guarded : Guarded thread s) : Guarded thread (Flow.effect ((wiring c).cancel number) s).2 := by
  rw [effect_cancel]
  split
  · exact guarded
  · exact guarded.complete (by rfl) (by rfl) .cancel

theorem Guarded.drop (guarded : Guarded thread s) : Guarded thread (Flow.effect ((wiring c).drop number) s).2 := by
  rw [effect_drop_state]
  by_cases holds : (s.origin.session number).holds = true
  · rw [if_pos holds]
    exact guarded.complete (by rfl) (by rfl) .cancel
  · rw [if_neg holds]
    refine guarded.same rfl rfl fun other holding => ⟨other, ?_⟩
    have different : number ≠ other := by
      rintro rfl
      exact holds holding
    rw [session_forgetting, if_neg different]
    exact holding

/-- A sound site whose fan-out is held by its thread, if it is held. -/
def Kept (thread : Thread) (s : Site) : Prop := Sound s ∧ Guarded thread s

theorem Guarded.begin (guarded : Guarded thread s) (sound : Sound s) : Guarded thread (Flow.effect (wiring c).begin s).2 := by
  refine guarded.same rfl rfl fun other holds => ⟨other, ?_⟩
  have below := sound.lt_of_holds holds
  exact ((session_begun s other).trans (if_neg (by omega))).symm ▸ holds

theorem kept_handling (c : Conduct) (thread : Thread) :
    Handling c (Kept thread) fun number s => Known number s ∧ Guarded thread s where
  begins _ kept := ⟨kept.1.begin, kept.2.begin kept.1⟩
  starts _ _ kept := ⟨kept.1.start, kept.2.start⟩
  hears _ event _ kept := ⟨kept.1.event event, kept.2.event event⟩
  finishes _ _ kept := ⟨kept.1.finish, kept.2.finish⟩
  cancels _ _ kept := ⟨kept.1.cancel, kept.2.cancel⟩
  drops _ _ kept := ⟨kept.1.drop, kept.2.drop⟩

/-- A subscriber comes and goes while the fan-out is free, and leaves it so. -/
theorem Guarded.subscribe (guarded : Guarded thread s) (interest : Interest) (seat : Nat) :
    Guarded thread (Flow.effect ((wiring c).subscribe interest seat) s).2 := by
  rcases effect_subscribe c seat interest s with ⟨_, refused⟩ | ⟨closed, joined | ⟨fault, log, failed, _⟩⟩
  · rw [refused]
    exact guarded
  · have idle : s.origin.fanout.transaction = none := by simpa [Fanout.isOpen] using closed
    rw [joined]
    exact .of_closed guarded.here idle
  · rw [failed]
    exact ⟨guarded.here, guarded.owns, guarded.held⟩

theorem Guarded.unsubscribe (guarded : Guarded thread s) (id : Nat) :
    Guarded thread (Flow.effect ((wiring c).unsubscribe id) s).2 := by
  rw [effect_unsubscribe]
  split
  · exact guarded
  · exact ⟨guarded.here, guarded.owns, guarded.held⟩

/-- Nothing that a thread asks for makes it lose what it holds, or leaves it held for nobody. -/
theorem Kept.perform (c : Conduct) (action : Action) : Flow.Keeps (Kept thread) (perform c action) := by
  intro s kept
  by_cases isWhole : action.isWhole = true
  · exact (kept_handling c thread).whole isWhole s kept
  · refine ⟨Sound.perform c action s kept.1, ?_⟩
    obtain ⟨sound, guarded⟩ := kept
    cases action with
    | begin => exact guarded.begin sound
    | call number signal =>
      rcases sound.calls (c := c) number signal with ⟨_, goes⟩ | absent
      · rw [goes]
        cases signal with
        | start => exact guarded.start
        | event event => exact guarded.event event
        | finish => exact guarded.finish
        | cancel => exact guarded.cancel
      · rw [absent]
        exact guarded
    | drop number =>
      rcases sound.drops (c := c) number with ⟨_, goes⟩ | absent
      · rw [goes]
        exact guarded.drop
      · rw [absent]
        exact guarded
    | subscribe interest =>
      have seated : Guarded thread { s with seats := s.seats + 1 } := ⟨guarded.here, guarded.owns, guarded.held⟩
      simp only [Site.perform, nextSeat, Flow.effect_bind, Flow.effect_get, Flow.effect_set, Flow.effect_map]
      exact seated.subscribe interest s.seats
    | unsubscribe id =>
      simp only [Site.perform, Flow.effect_map]
      exact guarded.unsubscribe id
    | register sender => exact ⟨guarded.here, guarded.owns, guarded.held⟩
    | mutate change =>
      simp only [Site.perform, Flow.effect_bind, Flow.effect_get, Flow.effect_set, Flow.effect_map, Flow.effect_ofExcept]
      exact ⟨guarded.here, guarded.owns, guarded.held⟩
    | reload | reloadAll | reloadGroup | refresh | refreshNamed | applyRows | republish => exact absurd rfl isWhole

theorem Solo.kept (solo : Solo c thread s) : Kept thread { s with thread } := by
  induction solo with
  | fresh settings catalogue =>
    exact ⟨(Sound.fresh settings catalogue).on thread, .of_closed rfl rfl⟩
  | @next s action _ kept =>
    have after := Kept.perform c action _ kept
    exact ⟨after.1.on thread, ⟨rfl, after.2.owns, after.2.held⟩⟩
  | @put s entity store entry _ found kept =>
    obtain ⟨sound, guarded⟩ := kept
    exact ⟨sound.edit found rfl rfl ((sound.stores entity store found).2.put entry), rfl, guarded.owns, guarded.held⟩
  | @remove s entity store id _ found kept =>
    obtain ⟨sound, guarded⟩ := kept
    exact ⟨sound.edit found rfl rfl ((sound.stores entity store found).2.remove id), rfl, guarded.owns, guarded.held⟩

/-- Nobody gets hold of a fan-out that is held. -/
theorem Sound.effect_takes (sound : Sound s) (held : s.origin.fanout.isOpen = true) {action : Action}
    (takes : action.takes = true) : ∃ fault, (Flow.effect (Site.perform c action) s).1 = .error fault := by
  by_cases isWhole : action.isWhole = true
  · obtain ⟨α, operation, answer, same, ⟨fault, fails⟩ | ⟨producer, _, runs⟩⟩ := perform_whole (c := c) isWhole s
    · exact ⟨fault, by rw [same, Flow.effect_map, fails]; rfl⟩
    · exact ⟨_, by rw [same, Flow.effect_map, runs, effect_run_held producer held]; rfl⟩
  · cases action with
    | call other signal =>
      cases signal with
      | start =>
        rcases sound.calls (c := c) other .start with ⟨_, goes⟩ | absent
        · rw [goes, Origin.Wiring.receive, effect_start, if_pos held]
          split <;> exact ⟨_, rfl⟩
        · exact ⟨_, by rw [absent]⟩
      | event | finish | cancel => cases takes
    | subscribe interest =>
      have taken : ({ s with seats := s.seats + 1 } : Site).origin.fanout.isOpen = true := held
      simp only [Site.perform, nextSeat, Flow.effect_bind, Flow.effect_get, Flow.effect_set, Flow.effect_pure, Flow.effect_map]
      rcases effect_subscribe c s.seats interest { s with seats := s.seats + 1 } with ⟨_, refused⟩ | ⟨closed, _⟩
      · exact ⟨_, by rw [refused]; rfl⟩
      · exact absurd (taken.symm.trans closed) (by decide)
    | unsubscribe id =>
      simp only [Site.perform, Flow.effect_map, effect_unsubscribe, if_pos held]
      exact ⟨_, rfl⟩
    | begin | drop | register | mutate => cases takes
    | reload | reloadAll | reloadGroup | refresh | refreshNamed | applyRows | republish => exact absurd rfl isWhole

/-- The end of a handle that has nothing open is refused, or at most makes the handle go away. -/
theorem Sound.effect_ends (sound : Sound s) (resting : (s.origin.session number).stages = none ∧ (s.origin.session number).holds = false)
    {action : Action} (ends : action.ends number = true) :
    (Flow.effect (Site.perform c action) s).2 = s ∨
      action = .drop number ∧ (Flow.effect (Site.perform c action) s).2 = s.forgetting number := by
  have refused : ∀ signal, signal ≠ .start → (Flow.effect (Site.perform c (.call number signal)) s).2 = s := by
    intro signal unstarted
    obtain ⟨cause, refused⟩ := effect_receive_resting (c := c) resting.1 signal fun start => absurd start unstarted
    rcases sound.calls (c := c) number signal with ⟨_, goes⟩ | absent
    · rw [goes, refused]
    · rw [absent]
  unfold Action.ends at ends
  split at ends
  · cases of_decide_eq_true ends
    exact .inl (refused .finish nofun)
  · cases of_decide_eq_true ends
    exact .inl (refused .cancel nofun)
  · cases of_decide_eq_true ends
    rcases sound.drops (c := c) number with ⟨_, goes⟩ | absent
    · refine .inr ⟨rfl, ?_⟩
      rw [goes, effect_drop, resting.2]
      rfl
    · exact .inl (by rw [absent])
  · cases ends

/-- The transaction of a handle that is finished, cancelled or dropped is closed, whatever becomes of its stages. -/
theorem Kept.ends (kept : Kept thread s) (holder : Holder s number) {action : Action} (ends : action.ends number = true) :
    (Flow.effect (Site.perform c action) s).2.origin.fanout.isOpen = false := by
  obtain ⟨sound, guarded⟩ := kept
  obtain ⟨holds, staged⟩ := holder
  obtain ⟨stages, session⟩ := Option.isSome_iff_exists.1 staged
  have present := present_of_holds holds
  have closes : ∀ (u : Site) (signal : Signal), u.thread = s.thread → u.origin.fanout = s.origin.fanout →
      (Flow.effect ((wiring c).fanout.complete signal) u).2.origin.fanout.isOpen = false := by
    intro u signal stays fanout
    rw [Fanout.isOpen, (guarded.closes (c := c) stays fanout signal).1]
    rfl
  unfold Action.ends at ends
  split at ends
  · cases of_decide_eq_true ends
    simp only [Site.perform, Flow.effect_bind, present, Flow.effect_map, Origin.Wiring.receive, effect_finish_state, session]
    rcases stages.unbegun? with _ | entity
    · rcases Stages.commit s.origin.live stages.toList with ⟨live, cause | prepared⟩
      · exact closes _ _ rfl rfl
      · exact closes _ _ rfl rfl
    · exact closes _ _ rfl rfl
  · cases of_decide_eq_true ends
    simp only [Site.perform, Flow.effect_bind, present, Flow.effect_map, Origin.Wiring.receive, effect_cancel, session]
    exact closes _ _ rfl rfl
  · cases of_decide_eq_true ends
    simp only [Site.perform, Flow.effect_bind, present, Flow.effect_map, effect_drop_state, if_pos holds]
    exact closes _ _ rfl rfl
  · cases ends

/-- In the hands of one thread, the fan-out is open exactly if one handle has its transaction open, and no two ever have.
Meanwhile nothing else gets hold of it, and nothing else that is asked for matters to that handle or to what is live.
Whoever ends the transaction of the handle, and whoever has been subscribed, leaves the fan-out free. -/
theorem Solo.section_held (solo : Solo c thread s) :
    (if s.origin.fanout.isOpen then ∃! number, Holder s number else ∀ number, ¬Holder s number) ∧
      (∀ number, Holder s number →
        (∀ action, action.takes = true →
          (∃ fault, (act c thread action s).1 = .error fault) ∧ Aside number s (act c thread action s).2) ∧
        (∀ other action, other ≠ number → action.ends other = true →
          (act c thread action s).2 = { s with thread } ∨
            action = .drop other ∧ (act c thread action s).2 = ({ s with thread } : Site).forgetting other) ∧
        ∀ action, action.ends number = true → (act c thread action s).2.origin.fanout.isOpen = false) ∧
      ∀ interest, (∀ number, ¬Holder s number) → (act c thread (.subscribe interest) s).2.origin.fanout.isOpen = false := by
  obtain ⟨sound, guarded⟩ := solo.kept
  have holder : ∀ number, (s.origin.session number).holds = true → Holder s number := fun number holds =>
    ⟨holds, (sound.holds number).symm.trans holds⟩
  refine ⟨?_, fun number holding => ⟨fun action takes => ?_, fun other action different ends => ?_, fun action ends => ?_⟩,
    fun interest nobody => ?_⟩
  · split
    · next is_open =>
      obtain ⟨number, holds⟩ := guarded.held is_open
      exact ⟨number, holder number holds, fun other also => sound.alone other number also.1 holds⟩
    · next closed => exact fun number holding => closed (sound.claimed number holding.1)
  · obtain ⟨unending, silent⟩ := Action.takes_apart takes number
    have aside := sound.aside (c := c) holding.1 unending silent
    exact ⟨sound.effect_takes (sound.claimed number holding.1) takes,
      aside.settings, aside.live, aside.generation, aside.fanout, aside.published, aside.heard, aside.session⟩
  · have resting := sound.others_rest holding.1 different
    exact sound.effect_ends resting ends
  · exact Kept.ends solo.kept holding ends
  · have after := Kept.perform c (.subscribe interest) _ solo.kept
    rcases effect_subscribe c s.seats interest { s with thread, seats := s.seats + 1 } with ⟨is_open, _⟩ | ⟨closed, joined⟩
    · obtain ⟨number, holds⟩ := guarded.held is_open
      exact absurd (holder number holds) (nobody number)
    · simp only [act, Site.perform, nextSeat, Flow.effect_bind, Flow.effect_get, Flow.effect_set, Flow.effect_pure,
        Flow.effect_map]
      rcases joined with joined | ⟨fault, log, failed, _⟩
      · rw [joined]
        exact closed
      · rw [failed]
        exact closed

/-- Two handles, of which the first has started a transaction. -/
def started : Site := (enact .quiet {} [(0, .begin), (0, .begin), (0, .call 0 .start)]).2

theorem section_held_started :
    (∃! number, Holder started number) ∧
      (∃ fault, (act .quiet 0 (.call 1 .start) started).1 = .error fault) ∧
      (act .quiet 0 (.call 1 .finish) started).2 = started ∧
      (act .quiet 0 (.call 0 .finish) started).2.origin.fanout.isOpen = false := by
  have solo : Solo .quiet 0 started := .next (.call 0 .start) (.next .begin (.next .begin (.fresh {} {})))
  obtain ⟨alone, holding, _⟩ := solo.section_held
  obtain ⟨takes, others, ends⟩ := holding 0 ⟨by decide, by decide⟩
  refine ⟨alone, (takes (.call 1 .start) rfl).1, ?_, ends (.call 0 .finish) rfl⟩
  rcases others 1 (.call 1 .finish) (by decide) rfl with same | ⟨absurd, _⟩
  · exact same
  · cases absurd

end Site

end ReferenceFeed
