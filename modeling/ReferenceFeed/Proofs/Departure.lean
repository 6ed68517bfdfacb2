import ReferenceFeed.Proofs.Agreement

namespace ReferenceFeed

/-!
Whoever has left a site, or was dropped, hears nothing any more. Those who come and go concern the fan-out alone.
-/

namespace Site

variable {c : Conduct} {s t : Site} {seat number : Nat} {calls : List Signal}

/-- Somebody has heard some calls, and hears nothing any more. -/
structure Gone (seat : Nat) (calls : List Signal) (s : Site) : Prop where
  taken : seat < s.seats
  heard : callsAt seat s.heard = calls
  absent : ∀ sub ∈ s.origin.fanout.subscribers, sub.channel ≠ seat
  dropped : ∀ t, s.origin.fanout.transaction = some t → ∀ sub ∈ t.subscribers, sub.channel = seat → sub.id ∈ t.failed

namespace Gone

theorem congr (gone : Gone seat calls s) (fanout : t.origin.fanout = s.origin.fanout) (heard : t.heard = s.heard)
    (seats : t.seats = s.seats) : Gone seat calls t where
  taken := by
    rw [seats]
    exact gone.taken
  heard := by
    rw [heard]
    exact gone.heard
  absent := by
    rw [fanout]
    exact gone.absent
  dropped := by
    rw [fanout]
    exact gone.dropped

/-- The turns of others. -/
theorem round (gone : Gone seat calls s) {targets : List (Subscriber Nat × List Signal)} {tell : Bool} {log : List Heard}
    {lost : List Nat} (round : Round tell targets log lost) (others : ∀ target ∈ targets, target.1.channel ≠ seat)
    {fanout : Fanout Nat} (fewer : fanout.subscribers.Sublist s.origin.fanout.subscribers)
    (dropped : ∀ t, fanout.transaction = some t → ∀ sub ∈ t.subscribers, sub.channel = seat → sub.id ∈ t.failed) :
    Gone seat calls ((s.withFanout fanout).hearing log) where
  taken := gone.taken
  heard := by
    have silent : partOf seat log = [] := partOf_eq_nil fun h member => by
      obtain ⟨target, inTargets, here⟩ := round.seated h member
      exact here ▸ others target inTargets
    change callsAt seat (s.heard ++ log) = calls
    rw [callsAt_append, gone.heard, callsAt, silent, List.map_nil, List.append_nil]
  absent sub member := gone.absent sub (fewer.subset member)
  dropped := dropped

theorem deliver (gone : Gone seat calls s) (event : Event) :
    Gone seat calls (Flow.effect ((wiring c).fanout.deliver event) s).2 := by
  rcases owned : s.origin.fanout.owned s.thread with cause | t
  · rw [effect_deliver_refused c event owned]
    exact gone
  · obtain ⟨log, lost, round, effect⟩ := effect_deliver c event owned
    have held := gone.dropped t (Fanout.owned_ok owned).1
    rw [effect]
    refine gone.round round (fun target inTargets here => ?_) List.filter_sublist fun u same sub member here => ?_
    · obtain ⟨sub, concerned, rfl⟩ := List.mem_map.1 inTargets
      obtain ⟨member, stands, _⟩ := mem_concerned.1 concerned
      exact stands (held sub member here)
    · cases same
      exact List.mem_append_left _ (held sub member here)

theorem complete (gone : Gone seat calls s) (signal : Signal) :
    Gone seat calls (Flow.effect ((wiring c).fanout.complete signal) s).2 := by
  rcases owned : s.origin.fanout.owned s.thread with cause | t
  · rw [effect_complete_refused c signal owned]
    exact gone
  · obtain ⟨log, lost, round, effect⟩ := effect_complete c signal owned
    have held := gone.dropped t (Fanout.owned_ok owned).1
    rw [effect]
    refine gone.round round (fun target inTargets here => ?_) List.filter_sublist fun u same => by cases same
    obtain ⟨sub, heeding, rfl⟩ := List.mem_map.1 inTargets
    obtain ⟨id, invoked, found⟩ := List.mem_filterMap.1 heeding
    have number : sub.id = id := by simpa using List.find?_some found
    have stands : sub.id ∉ t.failed := by
      rw [number]
      simpa using (List.mem_filter.1 invoked).2
    exact stands (held sub (List.mem_of_find?_eq_some found) here)

theorem start (gone : Gone seat calls s) : Gone seat calls (Flow.effect ((wiring c).start number) s).2 := by
  rw [effect_start]
  split
  · exact gone
  · split
    · exact gone
    · refine ⟨gone.taken, gone.heard, gone.absent, fun t opened sub member here => ?_⟩
      cases opened
      exact absurd here (gone.absent sub member)

theorem event (gone : Gone seat calls s) (event : Event) : Gone seat calls (Flow.effect ((wiring c).event number event) s).2 := by
  rw [effect_event]
  split
  · exact gone
  · refine Gone.deliver ?_ _
    exact gone.congr rfl rfl rfl

theorem finish (gone : Gone seat calls s) : Gone seat calls (Flow.effect ((wiring c).finish number) s).2 := by
  rw [effect_finish_state]
  split
  · exact gone
  · split
    · refine Gone.complete ?_ _
      exact gone.congr rfl rfl rfl
    · split
      · refine Gone.complete ?_ _
        exact gone.congr rfl rfl rfl
      · refine Gone.complete ?_ _
        exact gone.congr rfl rfl rfl

theorem cancel (gone : Gone seat calls s) : Gone seat calls (Flow.effect ((wiring c).cancel number) s).2 := by
  rw [effect_cancel]
  split
  · exact gone
  · refine Gone.complete ?_ _
    exact gone.congr rfl rfl rfl

theorem drop (gone : Gone seat calls s) : Gone seat calls (Flow.effect ((wiring c).drop number) s).2 := by
  have forgotten : Gone seat calls (s.forgetting number) := gone.congr rfl rfl rfl
  rw [effect_drop_state]
  split
  · exact forgotten.complete _
  · exact forgotten

theorem handling (c : Conduct) (seat : Nat) (calls : List Signal) : Handling c (Gone seat calls) fun _ => Gone seat calls where
  begins _ gone := gone.congr rfl rfl rfl
  starts _ _ gone := gone.start
  hears _ event _ gone := gone.event event
  finishes _ _ gone := gone.finish
  cancels _ _ gone := gone.cancel
  drops _ _ gone := gone.drop

end Gone

/-- What is asked besides transactions concerns the fan-out alone, and of all seats only a new one. -/
structure Passing (s t : Site) : Prop where
  origin : t.origin = { s.origin with fanout := t.origin.fanout }
  transaction : t.origin.fanout.transaction = s.origin.fanout.transaction
  members : ∀ sub ∈ t.origin.fanout.subscribers, sub ∈ s.origin.fanout.subscribers ∨ sub.channel = s.seats
  seats : s.seats ≤ t.seats
  heard : ∃ log, t.heard = s.heard ++ log ∧ ∀ h ∈ log, h.seat = s.seats

theorem Passing.of_same (origin : t.origin = s.origin) (heard : t.heard = s.heard) (seats : s.seats ≤ t.seats) : Passing s t where
  origin := by rw [origin]
  transaction := by rw [origin]
  members sub member := .inl (origin ▸ member)
  seats := seats
  heard := ⟨[], by rw [heard, List.append_nil], List.forall_mem_nil _⟩

variable {action : Action} {thread : Thread} {answer : Except Fault Answer}

theorem passing_perform (s : Site) (plain : action.isHandle = false) (other : action.isWhole = false) :
    Passing s (Flow.effect (perform c action) s).2 := by
  cases action with
  | subscribe interest =>
    simp only [perform, nextSeat, Flow.effect_bind, Flow.effect_get, Flow.effect_set, Flow.effect_pure, Flow.effect_map]
    rcases effect_subscribe c s.seats interest { s with seats := s.seats + 1 } with ⟨_, refused⟩ | ⟨_, joined | ⟨_, log, failed, broken⟩⟩
    · rw [refused]
      exact .of_same rfl rfl (Nat.le_succ _)
    · rw [joined]
      refine ⟨rfl, rfl, fun sub member => ?_, Nat.le_succ _, _, rfl, fun h member => ?_⟩
      · exact (List.mem_append.1 member).imp_right fun new => congrArg Subscriber.channel (List.mem_singleton.1 new)
      · obtain ⟨signal, _, rfl⟩ := List.mem_map.1 member
        rfl
    · rw [failed]
      exact ⟨rfl, rfl, fun sub member => .inl member, Nat.le_succ _, log, rfl, broken.seated⟩
  | unsubscribe id =>
    simp only [perform, Flow.effect_map, effect_unsubscribe]
    split
    · exact .of_same rfl rfl (Nat.le_refl _)
    · exact ⟨rfl, rfl, fun sub member => .inl (List.mem_filter.1 member).1, Nat.le_refl _, [], (List.append_nil _).symm,
        List.forall_mem_nil _⟩
  | register sender => exact .of_same rfl rfl (Nat.le_refl _)
  | mutate change =>
    simp only [perform, Flow.effect_bind, Flow.effect_get, Flow.effect_set, Flow.effect_map, Flow.effect_ofExcept]
    exact .of_same rfl rfl (Nat.le_refl _)
  | begin | call | drop => cases plain
  | reload | reloadAll | reloadGroup | refresh | refreshNamed | applyRows | republish => cases other

theorem Passing.silent (passing : Passing s t) (taken : seat < s.seats) : callsAt seat t.heard = callsAt seat s.heard := by
  obtain ⟨log, heard, elsewhere⟩ := passing.heard
  have silent : partOf seat log = [] := partOf_eq_nil fun h member here => Nat.ne_of_gt taken ((elsewhere h member).symm.trans here)
  rw [heard, callsAt_append, callsAt, callsAt, silent, List.map_nil, List.append_nil]

/-- Whatever is asked, whoever is gone stays so. -/
theorem Gone.perform (gone : Gone seat calls s) (action : Action) :
    Gone seat calls (Flow.effect (Site.perform c action) s).2 := by
  rcases isWhole : action.isWhole with _ | _
  · rcases handles : action.isHandle with _ | _
    · have passing := passing_perform (c := c) s handles isWhole
      refine ⟨Nat.lt_of_lt_of_le gone.taken passing.seats, (passing.silent gone.taken).trans gone.heard, fun sub member here => ?_, ?_⟩
      · rcases passing.members sub member with old | new
        · exact gone.absent sub old here
        · exact Nat.ne_of_gt gone.taken (new.symm.trans here)
      · rw [passing.transaction]
        exact gone.dropped
    · have present : ∀ number, Flow.Keeps (Gone seat calls) (present number) := fun number => .of_same fun s => by
        simp only [Site.present, Flow.effect_bind, Flow.effect_get, Flow.effect_ofExcept]
      cases action with
      | begin => exact gone.congr rfl rfl rfl
      | call number signal =>
        refine Flow.Keeps.bind (present number) (fun _ => .bind (fun u gone => ?_) fun _ => .pure _) s gone
        cases signal with
        | start => exact gone.start
        | event event => exact gone.event event
        | finish => exact gone.finish
        | cancel => exact gone.cancel
      | drop number =>
        exact Flow.Keeps.bind (present number) (fun _ => .bind (fun u gone => Gone.drop gone) fun _ => .pure _) s gone
      | _ => cases handles
  · exact (Gone.handling c seat calls).whole isWhole s gone

end Site

end ReferenceFeed
