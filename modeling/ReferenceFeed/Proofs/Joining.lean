import ReferenceFeed.Proofs.Session

namespace ReferenceFeed

/-!
How subscribers come and go. A new one is shown the content of what it is interested in, as one transaction, and
is one of the subscribers only if it has taken all of it well.
-/

namespace Site

/-- The events that show some entities, one after another. -/
def snapshots (live : Keyed Store) (entities : List String) : List Event :=
  entities.flatMap fun entity => ((live[entity]?).map Origin.snapshot).getD []

theorem snapshots_cons {live : Keyed Store} {entity : String} {store : Store} (found : live[entity]? = some store)
    (rest : List String) : snapshots live (entity :: rest) = Origin.snapshot store ++ snapshots live rest := by
  rw [snapshots, List.flatMap_cons, found]
  rfl

variable (c : Conduct) (seat : Nat)

/-- One entity as it is shown to a new subscriber. -/
abbrev page (entity : String) : Flow Site Unit := do
  let store ← (wiring c).ask (·.store entity)
  (Origin.snapshot store).forM fun event => call c seat (.event event)

theorem effect_page {s : Site} {entity : String} {store : Store} (found : s.origin.live[entity]? = some store) :
    Flow.effect (page c seat entity) s =
      Flow.effect (((Origin.snapshot store).map Signal.event).forM (call c seat)) s := by
  have asked : s.origin.store entity = .ok store := by
    rw [Origin.store, liveStore, found]
  rw [Flow.effect_forM_map]
  simp only [page, Origin.Wiring.ask, Flow.effect_bind, Place.effect_read, wiring_place_get, asked, Flow.effect_ofExcept]
  rfl

/-- Showing entities page by page is making the calls one by one. -/
theorem effect_pages {entities : List String} {s : Site}
    (present : ∀ entity ∈ entities, ∃ store, s.origin.live[entity]? = some store) :
    Flow.effect (entities.forM (page c seat)) s =
      Flow.effect (((snapshots s.origin.live entities).map Signal.event).forM (call c seat)) s := by
  induction entities generalizing s with
  | nil => rfl
  | cons entity rest ih =>
    obtain ⟨store, found⟩ := present entity List.mem_cons_self
    rw [Flow.effect_forM_cons, effect_page c seat found, snapshots_cons found, List.map_append, Flow.effect_forM_append]
    rcases effect_calls c seat ((Origin.snapshot store).map .event) s with well | ⟨_, _, _, fault, _, ends⟩
    · simp only [well]
      exact ih fun other member => present other (List.mem_cons_of_mem _ member)
    · simp only [ends]

/-- The calls of a replay. Nothing is said if there is nothing to show. -/
def replayCalls (live : Keyed Store) (entities : List String) : List Signal :=
  finished (introduced (snapshots live entities))

theorem replayCalls_cons {live : Keyed Store} {entity : String} {store : Store} (found : live[entity]? = some store)
    (rest : List String) : replayCalls live (entity :: rest) =
      .start :: (snapshots live (entity :: rest)).map .event ++ [.finish] := by
  rw [replayCalls, snapshots_cons found]
  rfl

/-- What a failure comes to, by how the cancel that follows it is taken: only a panic matters. -/
def reported (cause : Failure) : Except Fault Unit → Fault
  | .error (.panic message) => .panic message
  | .error (.failure _) | .ok _ => .failure cause

/-- What somebody has heard of a replay that goes wrong, and what it ends with. Who fails at an event is told to cancel.
Nothing follows a failure at the start or at the end, nor a panic. -/
inductive Broken (seat : Nat) (calls : List Signal) : List Heard → Fault → Prop
  | stopped (before) {signal after} (fault : Fault) : calls = before ++ signal :: after →
      (∀ event cause, signal = .event event → fault ≠ .failure cause) →
      Broken seat calls (before.map (fine seat) ++ [⟨seat, signal, .error fault⟩]) fault
  | cancelled (before) {event after} (cause : Failure) (last : Except Fault Unit) : calls = before ++ .event event :: after →
      Broken seat calls
        (before.map (fine seat) ++ [⟨seat, .event event, .error (.failure cause)⟩, ⟨seat, .cancel, last⟩]) (reported cause last)

theorem Broken.seated {seat : Nat} {calls : List Signal} {log : List Heard} {fault : Fault}
    (broken : Broken seat calls log fault) : ∀ h ∈ log, h.seat = seat := by
  cases broken <;> simp [fine, or_imp, forall_and]

/-- A replay goes well or ends at the first call that fails. Only the newcomer is called. -/
theorem effect_replay {entities : List String} {s : Site}
    (present : ∀ entity ∈ entities, ∃ store, s.origin.live[entity]? = some store) :
    Flow.effect ((wiring c).replay seat entities) s =
        (.ok (), s.hearing ((replayCalls s.origin.live entities).map (fine seat))) ∨
      ∃ fault log, Flow.effect ((wiring c).replay seat entities) s = (.error fault, s.hearing log) ∧
        Broken seat (replayCalls s.origin.live entities) log fault := by
  cases entities with
  | nil =>
    refine .inl ?_
    simp only [hearing, replayCalls, snapshots, introduced, finished, List.flatMap_nil, List.isEmpty_nil, if_true,
      List.map_nil, List.append_nil]
    rfl
  | cons entity rest =>
    obtain ⟨store, found⟩ := present entity List.mem_cons_self
    have pages : ∀ log, Flow.effect ((entity :: rest).forM (page c seat)) (s.hearing log) =
        Flow.effect (((snapshots s.origin.live (entity :: rest)).map Signal.event).forM (call c seat)) (s.hearing log) :=
      fun log => effect_pages c seat present
    rw [replayCalls_cons found]
    simp only [Origin.Wiring.replay, List.isEmpty_cons, Bool.false_eq_true, if_false, wiring_call, Flow.effect_bind, effect_call]
    -- A newcomer can fail at the start, at a page or at the finish; only at a page it is cancelled.
    rcases c.answer s seat .start with fault | _
    · exact .inr ⟨fault, _, rfl, .stopped [] fault rfl fun _ _ same => by cases same⟩
    · simp only [Flow.effect_attempt]
      rw [pages]
      rcases effect_calls c seat ((snapshots s.origin.live (entity :: rest)).map .event) (s.hearing [⟨seat, .start, .ok ()⟩])
        with well | ⟨before, signal, after, fault, split, ends⟩
      · simp only [well, effect_call, hearing_hearing]
        rcases c.answer _ seat .finish with fault | _
        · exact .inr ⟨fault, _, rfl, .stopped (.start :: _) fault rfl fun _ _ same => by cases same⟩
        · exact .inl (by simp [fine])
      · obtain ⟨event, rfl⟩ : ∃ event, signal = .event event := by
          have member : signal ∈ (snapshots s.origin.live (entity :: rest)).map Signal.event := by simp [split]
          obtain ⟨event, _, same⟩ := List.mem_map.1 member
          exact ⟨event, same.symm⟩
        have reached : .start :: (snapshots s.origin.live (entity :: rest)).map Signal.event ++ [.finish] =
            (.start :: before) ++ .event event :: (after ++ [.finish]) := by simp [split]
        simp only [ends, hearing_hearing]
        rcases fault with cause | message
        · simp only [Flow.effect_bind, Flow.effect_attempt, effect_call, hearing_hearing, List.append_assoc]
          generalize c.answer _ seat .cancel = last
          refine .inr ⟨reported cause last, _, ?_, .cancelled (.start :: before) cause last reached⟩
          rcases last with (_ | _) | _ <;> rfl
        · exact .inr ⟨.panic message, _, rfl, .stopped (.start :: before) _ reached fun _ _ _ same => by cases same⟩

/-- What a newcomer with an interest is shown. -/
def shownTo (o : Origin Nat) (interest : Interest) : List Signal :=
  replayCalls o.live (o.entities.filter interest.covers)

/-- What a newcomer does while the fan-out is held for it. -/
theorem effect_admission (interest : Interest) (entities : List String) (s : Site) :
    Flow.effect (do
      (wiring c).replay seat entities
      let f ← (wiring c).fanout.place.read
      (wiring c).fanout.place.write (f.admitting interest seat)
      return f.nextId) s =
      match Flow.effect ((wiring c).replay seat entities) s with
      | (.ok _, after) =>
        (.ok after.origin.fanout.nextId, after.withFanout (after.origin.fanout.admitting interest seat))
      | (.error fault, after) => (.error fault, after) := by
  rw [Flow.effect_bind]
  rcases Flow.effect ((wiring c).replay seat entities) s with ⟨_ | _, after⟩ <;> rfl

theorem effect_subscribe_held (interest : Interest) {s : Site} (held : s.origin.fanout.isOpen = true) :
    Flow.effect ((wiring c).subscribe interest seat) s = (.error (.failure (.violation (.held .subscribe))), s) := by
  simp only [Origin.Wiring.subscribe, Fanout.Wiring.subscribeAfter, Flow.effect_bind, Place.effect_read,
    wiring_place_get, wiring_fanout_place_get, Flow.effect_ofExcept, Fanout.free]
  rw [if_pos held]
  rfl

/-- A newcomer is admitted in between an opening and a closing of the fan-out. -/
theorem effect_subscribe_free (interest : Interest) {s : Site} (free : ¬s.origin.fanout.isOpen = true) :
    Flow.effect ((wiring c).subscribe interest seat) s =
      Flow.effect (Flow.ensuring (do
        (wiring c).replay seat (s.origin.entities.filter interest.covers)
        let f ← (wiring c).fanout.place.read
        (wiring c).fanout.place.write (f.admitting interest seat)
        return f.nextId) (wiring c).fanout.close) (s.withFanout (s.origin.fanout.opened s.thread [])) := by
  simp only [Origin.Wiring.subscribe, Fanout.Wiring.subscribeAfter, Flow.effect_bind, Place.effect_read,
    wiring_place_get, wiring_fanout_place_get, Flow.effect_ofExcept, Fanout.free]
  rw [if_neg free]
  rfl

/-- A newcomer that fails at anything is not taken, and nothing else has changed. -/
theorem effect_subscribe (interest : Interest) (s : Site) :
    s.origin.fanout.isOpen = true ∧
        Flow.effect ((wiring c).subscribe interest seat) s = (.error (.failure (.violation (.held .subscribe))), s) ∨
      s.origin.fanout.isOpen = false ∧
        (Flow.effect ((wiring c).subscribe interest seat) s = (.ok s.origin.fanout.nextId,
            (s.withFanout (s.origin.fanout.admitting interest seat)).hearing
              ((shownTo s.origin interest).map (fine seat))) ∨
          ∃ fault log, Flow.effect ((wiring c).subscribe interest seat) s = (.error fault, s.hearing log) ∧
            Broken seat (shownTo s.origin interest) log fault) := by
  by_cases held : s.origin.fanout.isOpen = true
  · exact .inl ⟨held, effect_subscribe_held c seat interest held⟩
  · refine .inr ⟨Bool.eq_false_iff.2 held, ?_⟩
    have idle : s.origin.fanout.transaction = none := by
      simpa [Fanout.isOpen] using held
    have present : ∀ entity ∈ s.origin.entities.filter interest.covers, ∃ store, s.origin.live[entity]? = some store := by
      intro entity member
      have inside : entity ∈ s.origin.live := Std.ExtTreeMap.mem_keys.1 (List.mem_filter.1 member).1
      exact ⟨_, Std.ExtTreeMap.getElem?_eq_some_getElem inside⟩
    rw [effect_subscribe_free c seat interest held, Flow.effect_ensuring, effect_admission]
    rcases effect_replay c seat (s := s.withFanout (s.origin.fanout.opened s.thread [])) present
      with well | ⟨fault, log, ends, broken⟩
    · refine .inl ?_
      rw [well, effect_close]
      have closes : ((s.origin.fanout.opened s.thread []).admitting interest seat).closed =
          s.origin.fanout.admitting interest seat := by
        rw [Fanout.admitting, Fanout.admitting, idle]
        rfl
      simp only [hearing, withFanout, closes]
      rfl
    · refine .inr ⟨fault, log, ?_, broken⟩
      rw [ends, effect_close]
      have closes : (s.origin.fanout.opened s.thread []).closed = s.origin.fanout := by
        rw [Fanout.closed, ← idle]
        rfl
      simp only [hearing, withFanout, closes]

/-- A site with somebody at its next seat. -/
def seating (s : Site) (thread : Thread) : Site := { s with thread, seats := s.seats + 1 }

/-- What comes of asking to be taken as a subscriber: a refusal, a replay that is heard to its end, or one that goes wrong. -/
theorem act_subscribe {thread : Thread} {interest : Interest} {s t : Site} {answer : Except Fault Answer}
    (subscribes : act c thread (.subscribe interest) s = (answer, t)) :
    s.origin.fanout.isOpen = true ∧ answer = .error (.failure (.violation (.held .subscribe))) ∧ t = s.seating thread ∨
      s.origin.fanout.isOpen = false ∧
        (answer = .ok (.number s.origin.fanout.nextId) ∧
            t = ((s.seating thread).withFanout (s.origin.fanout.admitting interest s.seats)).hearing
              ((shownTo s.origin interest).map (fine s.seats)) ∨
          ∃ fault log, answer = .error fault ∧ t = (s.seating thread).hearing log ∧
            Broken s.seats (shownTo s.origin interest) log fault) := by
  simp only [act, perform, nextSeat, Flow.effect_bind, Flow.effect_get, Flow.effect_set, Flow.effect_pure, Flow.effect_map]
    at subscribes
  obtain ⟨rfl, rfl⟩ := Prod.mk.inj subscribes
  rcases effect_subscribe c s.seats interest (s.seating thread)
    with ⟨held, refused⟩ | ⟨free, joined | ⟨fault, log, failed, broken⟩⟩
  · exact .inl ⟨held, congrArg (·.1.map Answer.number) refused, congrArg Prod.snd refused⟩
  · exact .inr ⟨free, .inl ⟨congrArg (·.1.map Answer.number) joined, congrArg Prod.snd joined⟩⟩
  · exact .inr ⟨free, .inr ⟨fault, log, congrArg (·.1.map Answer.number) failed, congrArg Prod.snd failed, broken⟩⟩

/-- Taking a subscriber away needs the fan-out for itself as well. -/
theorem effect_unsubscribe (id : Nat) (s : Site) :
    Flow.effect ((wiring c).unsubscribe id) s =
      if s.origin.fanout.isOpen then (.error (.failure (.violation (.held .unsubscribe))), s)
      else (.ok (!(s.origin.fanout.subscribers.filter fun sub => sub.id = id).isEmpty), s.withFanout
        { s.origin.fanout with subscribers := s.origin.fanout.subscribers.filter fun sub => sub.id ≠ id }) := by
  simp only [Origin.Wiring.unsubscribe, Fanout.Wiring.unsubscribe, Flow.effect_bind, Place.effect_read,
    wiring_fanout_place_get, Flow.effect_ofExcept, Fanout.free]
  by_cases held : s.origin.fanout.isOpen = true
  · rw [if_pos held, if_pos held]
    rfl
  · rw [if_neg held, if_neg held]
    have rest : (s.origin.fanout.subscribers.partition fun sub => sub.id = id) =
        (s.origin.fanout.subscribers.filter fun sub => sub.id = id, s.origin.fanout.subscribers.filter fun sub => sub.id ≠ id) := by
      simp [List.partition_eq_filter_filter, Function.comp_def]
    simp only [rest, Except.mapError, Place.effect_write, wiring_fanout_place_set, effect_letGo,
      Flow.effect_pure]

end Site

end ReferenceFeed
