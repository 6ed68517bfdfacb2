import Mathlib.Data.List.Nodup
import ReferenceFeed.Proofs.Turn

namespace ReferenceFeed

/-!
Who hears what of a transaction. As long as it is open, each of its subscribers that has not failed has heard the
events that concern it, in order and after a start; one that failed has heard a cancel last. The end of the
transaction is heard by those who heard of it at all and have not failed.
-/

namespace Transaction

variable {χ : Type}

/-- Those an event of an entity is for. -/
def concerned (t : Transaction χ) (entity : String) : List (Subscriber χ) :=
  t.subscribers.filter fun s => !t.failed.contains s.id && s.interest.covers entity

/-- The transaction once those an entity concerns have heard of it. -/
def reaching (t : Transaction χ) (entity : String) : Transaction χ :=
  { t with invoked := t.invoked ++ ((t.concerned entity).filter fun s => !t.invoked.contains s.id).map Subscriber.id }

/-- The calls that bring an event to a subscriber. -/
def callsOf (t : Transaction χ) (event : Event) (s : Subscriber χ) : List Signal :=
  if !t.invoked.contains s.id then [.start, .event event] else [.event event]

/-- Those who hear how the transaction ends. -/
def heeding (t : Transaction χ) : List (Subscriber χ) :=
  (t.invoked.filter fun id => !t.failed.contains id).filterMap fun id => t.subscribers.find? fun s => s.id = id

end Transaction

namespace Site

variable (c : Conduct)

theorem effect_deliver_refused {s : Site} {cause : Failure} (event : Event)
    (refused : s.origin.fanout.owned s.thread = .error cause) :
    Flow.effect ((wiring c).fanout.deliver event) s = (.error (.failure cause), s) := by
  have thread : (wiring c).fanout.thread s = s.thread := rfl
  simp only [Fanout.Wiring.deliver, Flow.effect_bind, Flow.effect_map, Flow.effect_get, Except.map,
    Place.effect_attempt, wiring_fanout_place_get, thread, Fanout.claim, refused]
  rfl

/-- An event is handed to everybody it concerns. -/
theorem effect_deliver {s : Site} {t : Transaction Nat} (event : Event)
    (owned : s.origin.fanout.owned s.thread = .ok t) :
    ∃ log lost, Round true ((t.concerned event.entity).map fun sub => (sub, t.callsOf event sub)) log lost ∧
      Flow.effect ((wiring c).fanout.deliver event) s = (.ok (),
        (s.withFanout ({ s.origin.fanout with transaction := some (t.reaching event.entity) }.dropping lost)).hearing log) := by
  obtain ⟨log, lost, round, effect⟩ :=
    effect_round c ((t.concerned event.entity).map fun sub => (sub, t.callsOf event sub)) true
      (s.withFanout { s.origin.fanout with transaction := some (t.reaching event.entity) })
  refine ⟨log, lost, round, ?_⟩
  have thread : (wiring c).fanout.thread s = s.thread := rfl
  have claimed : s.origin.fanout.claim s.thread event.entity =
      .ok ((t.concerned event.entity).map fun sub => (sub, !t.invoked.contains sub.id),
        { s.origin.fanout with transaction := some (t.reaching event.entity) }) := by
    rw [Fanout.claim, owned]
    rfl
  simp only [Fanout.Wiring.deliver, Flow.effect_bind, Flow.effect_map, Flow.effect_get, Except.map,
    Place.effect_attempt, wiring_fanout_place_get, thread, claimed, Flow.effect_modify, wiring_fanout_place_set]
  rw [Flow.effect_forM_map] at effect ⊢
  refine Eq.trans ?_ effect
  refine Flow.effect_forM_congr (fun sub _ after => ?_) _
  simp only [Flow.effect_bind, Transaction.callsOf]
  rcases Flow.effect _ after with ⟨_ | _, _⟩ <;> rfl

theorem effect_complete_refused {s : Site} {cause : Failure} (signal : Signal)
    (refused : s.origin.fanout.owned s.thread = .error cause) :
    Flow.effect ((wiring c).fanout.complete signal) s = (.error (.failure cause), s) := by
  have thread : (wiring c).fanout.thread s = s.thread := rfl
  simp only [Fanout.Wiring.complete, Flow.effect_bind, Flow.effect_map, Flow.effect_get, Except.map,
    Place.effect_read, wiring_fanout_place_get, thread, Fanout.audience, refused]
  rfl

/-- The end of a transaction is told to those who heard of it, and then the transaction is closed. -/
theorem effect_complete {s : Site} {t : Transaction Nat} (signal : Signal)
    (owned : s.origin.fanout.owned s.thread = .ok t) :
    ∃ log lost, Round (signal ≠ .cancel) (t.heeding.map fun sub => (sub, [signal])) log lost ∧
      Flow.effect ((wiring c).fanout.complete signal) s =
        (.ok (), (s.withFanout (s.origin.fanout.dropping lost).closed).hearing log) := by
  obtain ⟨log, lost, round, effect⟩ :=
    effect_round c (t.heeding.map fun sub => (sub, [signal])) (signal ≠ .cancel) s
  refine ⟨log, lost, round, ?_⟩
  have thread : (wiring c).fanout.thread s = s.thread := rfl
  have hold : ∀ seats, (wiring c).fanout.hold seats = id := fun _ => rfl
  have audience : s.origin.fanout.audience s.thread = .ok t.heeding := by
    rw [Fanout.audience, owned]
    rfl
  rw [Flow.effect_forM_map] at effect
  simp only [Fanout.Wiring.complete, Flow.effect_bind, Flow.effect_map, Flow.effect_get, Except.map, Place.effect_read,
    wiring_fanout_place_get, thread, audience, Flow.effect_ofExcept, Except.mapError, Flow.effect_modify, hold, id_eq,
    effect, effect_close]
  exact Flow.effect_forM_same (fun _ => rfl) _

/-- Some events with a start in front. Nobody hears of a transaction without events. -/
def introduced : List Event → List Signal
  | [] => []
  | first :: rest => .start :: .event first :: rest.map .event

theorem introduced_append (events : List Event) (event : Event) :
    introduced (events ++ [event]) =
      introduced events ++ if (introduced events).isEmpty then [.start, .event event] else [.event event] := by
  cases events with
  | nil => rfl
  | cons first rest => simp [introduced]

/-- The calls by which somebody with an interest is told of some events. -/
def callsFor (interest : Interest) (told : List Event) : List Signal :=
  introduced (told.filter fun event => interest.covers event.entity)

theorem callsFor_nil (interest : Interest) : callsFor interest [] = [] := rfl

theorem callsFor_append_of_not_covers {interest : Interest} {event : Event} (told : List Event)
    (uncovered : interest.covers event.entity = false) : callsFor interest (told ++ [event]) = callsFor interest told := by
  simp only [callsFor, List.filter_append, List.filter_cons, uncovered, Bool.false_eq_true, if_false,
    List.filter_nil, List.append_nil]

theorem callsFor_append_of_covers {interest : Interest} {event : Event} (told : List Event)
    (covered : interest.covers event.entity = true) :
    callsFor interest (told ++ [event]) = callsFor interest told ++
      if (callsFor interest told).isEmpty then [.start, .event event] else [.event event] := by
  rw [callsFor, List.filter_append, List.filter_cons, if_pos covered, List.filter_nil, introduced_append]
  rfl

theorem callsFor_continues (interest : Interest) (told : List Event) (event : Event) :
    ∃ more, callsFor interest (told ++ [event]) = callsFor interest told ++ more := by
  by_cases covered : interest.covers event.entity = true
  · exact ⟨_, callsFor_append_of_covers told covered⟩
  · exact ⟨[], by rw [callsFor_append_of_not_covers told (Bool.eq_false_iff.2 covered), List.append_nil]⟩

theorem cancel_not_mem_callsFor (interest : Interest) (told : List Event) : .cancel ∉ callsFor interest told := by
  unfold callsFor
  cases told.filter fun event => interest.covers event.entity with
  | nil => simp [introduced]
  | cons first rest => simp [introduced]

/-- Who has heard what since a transaction was opened. -/
structure Audience (t : Transaction Nat) (told : List Event) (log : List Heard) : Prop where
  numbers : (t.subscribers.map Subscriber.id).Nodup
  seats : (t.subscribers.map Subscriber.channel).Nodup
  once : t.invoked.Nodup
  known : ∀ id ∈ t.invoked, ∃ s ∈ t.subscribers, s.id = id
  seated : ∀ h ∈ log, ∃ s ∈ t.subscribers, s.channel = h.seat
  invoked : ∀ s ∈ t.subscribers, s.id ∉ t.failed → (s.id ∈ t.invoked ↔ callsFor s.interest told ≠ [])
  turns : ∀ s ∈ t.subscribers, Turn s.channel (callsFor s.interest told) true (partOf s.channel log) (decide (s.id ∈ t.failed))

theorem Audience.opened {subscribers : List (Subscriber Nat)} (numbers : (subscribers.map Subscriber.id).Nodup)
    (seats : (subscribers.map Subscriber.channel).Nodup) (owner : Thread) :
    Audience { owner, subscribers } [] [] where
  numbers := numbers
  seats := seats
  once := List.nodup_nil
  known _ member := by cases member
  seated _ member := by cases member
  invoked s _ _ := by simp [callsFor_nil]
  turns s _ := by
    rw [decide_eq_false List.not_mem_nil]
    exact .heeded

variable {t : Transaction Nat} {told : List Event} {log logs : List Heard} {lost : List Nat}

theorem Audience.eq_of_seat (audience : Audience t told log) {s u : Subscriber Nat} (here : s ∈ t.subscribers)
    (there : u ∈ t.subscribers) (same : s.channel = u.channel) : s = u :=
  List.inj_on_of_nodup_map audience.seats here there same

theorem Audience.eq_of_number (audience : Audience t told log) {s u : Subscriber Nat} (here : s ∈ t.subscribers)
    (there : u ∈ t.subscribers) (same : s.id = u.id) : s = u :=
  List.inj_on_of_nodup_map audience.numbers here there same

/-- The turns of some of the subscribers leave the others where they are. -/
theorem Audience.outside (audience : Audience t told log) {targets : List (Subscriber Nat × List Signal)} {tell : Bool}
    (among : ∀ target ∈ targets, target.1 ∈ t.subscribers) (round : Round tell targets logs lost)
    {s : Subscriber Nat} (member : s ∈ t.subscribers) (outside : ∀ calls, (s, calls) ∉ targets) :
    partOf s.channel logs = [] ∧ s.id ∉ lost := by
  constructor
  · refine partOf_eq_nil fun h inLogs here => ?_
    obtain ⟨target, inTargets, seat⟩ := round.seated h inLogs
    have same := audience.eq_of_seat (among target inTargets) member (seat.trans here)
    exact outside target.2 (same ▸ inTargets)
  · intro gone
    obtain ⟨target, inTargets, number⟩ := round.lost_mem _ gone
    have same := audience.eq_of_number (among target inTargets) member number
    exact outside target.2 (same ▸ inTargets)

theorem mem_concerned {s : Subscriber Nat} {entity : String} :
    s ∈ t.concerned entity ↔ s ∈ t.subscribers ∧ s.id ∉ t.failed ∧ s.interest.covers entity = true := by
  simp [Transaction.concerned]

/-- Whoever has not failed has heard all that concerns it. -/
theorem Audience.standing (audience : Audience t told log) {s : Subscriber Nat} (member : s ∈ t.subscribers)
    (stands : s.id ∉ t.failed) : partOf s.channel log = (callsFor s.interest told).map (fine s.channel) := by
  have turn := audience.turns s member
  rw [decide_eq_false stands] at turn
  exact turn.well

/-- What brings an event to somebody continues what it was told before. -/
theorem Audience.callsFor_next (audience : Audience t told log) {event : Event} {s : Subscriber Nat}
    (concerned : s ∈ t.concerned event.entity) :
    callsFor s.interest (told ++ [event]) = callsFor s.interest told ++ t.callsOf event s := by
  obtain ⟨member, stands, covers⟩ := mem_concerned.1 concerned
  rw [callsFor_append_of_covers told covers, Transaction.callsOf]
  have met := audience.invoked s member stands
  congr 1
  by_cases first : s.id ∈ t.invoked
  · have some_calls := met.1 first
    simp [first, some_calls]
  · have no_calls : callsFor s.interest told = [] := by
      by_contra some_calls
      exact first (met.2 some_calls)
    simp [first, no_calls]

/-- The turns in which an event is handed out. -/
abbrev HandedOut (t : Transaction Nat) (event : Event) (logs : List Heard) (lost : List Nat) : Prop :=
  Round true ((t.concerned event.entity).map fun sub => (sub, t.callsOf event sub)) logs lost

variable {event : Event} {s : Subscriber Nat}

theorem HandedOut.among (target : Subscriber Nat × List Signal)
    (member : target ∈ (t.concerned event.entity).map fun sub => (sub, t.callsOf event sub)) :
    target.1 ∈ t.subscribers := by
  obtain ⟨sub, concerned, rfl⟩ := List.mem_map.1 member
  exact (mem_concerned.1 concerned).1

/-- Whoever is concerned has a turn. -/
theorem HandedOut.turn (round : HandedOut t event logs lost) (audience : Audience t told log)
    (concerned : s ∈ t.concerned event.entity) :
    ∃ failed, Turn s.channel (t.callsOf event s) true (partOf s.channel logs) failed ∧ (s.id ∈ lost ↔ failed = true) := by
  refine Round.turn round ?_ ?_ (List.mem_map.2 ⟨s, concerned, rfl⟩)
  · rw [List.map_map]
    exact audience.numbers.sublist (List.filter_sublist.map _)
  · rw [List.map_map]
    exact audience.seats.sublist (List.filter_sublist.map _)

/-- Nothing happens to the others. -/
theorem HandedOut.spared (round : HandedOut t event logs lost) (audience : Audience t told log)
    (member : s ∈ t.subscribers) (unconcerned : s ∉ t.concerned event.entity) :
    partOf s.channel logs = [] ∧ s.id ∉ lost := by
  refine audience.outside HandedOut.among round member fun calls target => ?_
  obtain ⟨sub, concerned, same⟩ := List.mem_map.1 target
  cases same
  exact unconcerned concerned

theorem HandedOut.invoked (audience : Audience t told log) (member : s ∈ t.subscribers) (stands : s.id ∉ t.failed) :
    s.id ∈ (t.reaching event.entity).invoked ↔ callsFor s.interest (told ++ [event]) ≠ [] := by
  have met := audience.invoked s member stands
  by_cases covers : s.interest.covers event.entity = true
  · have concerned : s ∈ t.concerned event.entity := mem_concerned.2 ⟨member, stands, covers⟩
    have told_now : callsFor s.interest (told ++ [event]) ≠ [] := by
      rw [audience.callsFor_next concerned, Transaction.callsOf]
      split <;> simp
    have invoked_now : s.id ∈ (t.reaching event.entity).invoked := by
      by_cases before : s.id ∈ t.invoked
      · exact List.mem_append_left _ before
      · exact List.mem_append_right _ (List.mem_map.2 ⟨s, List.mem_filter.2 ⟨concerned, by simpa using before⟩, rfl⟩)
    exact iff_of_true invoked_now told_now
  · rw [callsFor_append_of_not_covers told (Bool.eq_false_iff.2 covers), ← met]
    refine ⟨fun now => ?_, fun before => List.mem_append_left _ before⟩
    rcases List.mem_append.1 now with before | new
    · exact before
    · obtain ⟨u, found, number⟩ := List.mem_map.1 new
      have concerned := mem_concerned.1 (List.mem_filter.1 found).1
      have same := audience.eq_of_number concerned.1 member number
      exact absurd (same ▸ concerned.2.2) covers

/-- Everybody has had a turn with one more event, unless it has failed before. -/
theorem HandedOut.turns (round : HandedOut t event logs lost) (audience : Audience t told log) (member : s ∈ t.subscribers) :
    Turn s.channel (callsFor s.interest (told ++ [event])) true (partOf s.channel (log ++ logs))
      (decide (s.id ∈ t.failed ++ lost)) := by
  by_cases concerned : s ∈ t.concerned event.entity
  · obtain ⟨failed, turn, lost_iff⟩ := round.turn audience concerned
    have stood := (mem_concerned.1 concerned).2.1
    have fate : decide (s.id ∈ t.failed ++ lost) = failed := by
      rw [Bool.eq_iff_iff, decide_eq_true_iff, List.mem_append, lost_iff]
      exact or_iff_right stood
    rw [fate, audience.callsFor_next concerned, partOf_append, audience.standing member stood]
    exact turn.after _
  · obtain ⟨nothing, kept⟩ := round.spared audience member concerned
    have before := audience.turns s member
    rw [partOf_append, nothing, List.append_nil]
    by_cases failed : s.id ∈ t.failed
    · rw [decide_eq_true failed] at before
      rw [decide_eq_true (List.mem_append_left _ failed)]
      obtain ⟨more, same⟩ := callsFor_continues s.interest told event
      rw [same]
      exact before.longer more
    · have uncovered : s.interest.covers event.entity = false := by
        rw [Bool.eq_false_iff]
        exact fun covers => concerned (mem_concerned.2 ⟨member, failed, covers⟩)
      rw [decide_eq_false failed] at before
      rw [decide_eq_false (by simp [failed, kept]), callsFor_append_of_not_covers told uncovered]
      exact before

/-- An event that is handed out leaves everybody where they have to be. -/
theorem Audience.deliver (audience : Audience t told log) (round : HandedOut t event logs lost) :
    Audience { t.reaching event.entity with failed := t.failed ++ lost } (told ++ [event]) (log ++ logs) where
  numbers := audience.numbers
  seats := audience.seats
  once := by
    have newcomers : (((t.concerned event.entity).filter fun s => !t.invoked.contains s.id).map Subscriber.id).Nodup :=
      audience.numbers.sublist ((List.filter_sublist.trans List.filter_sublist).map _)
    refine List.nodup_append.2 ⟨audience.once, newcomers, ?_⟩
    rintro id before _ new rfl
    obtain ⟨s, member, rfl⟩ := List.mem_map.1 new
    have unmet : s.id ∉ t.invoked := by simpa using (List.mem_filter.1 member).2
    exact unmet before
  known := by
    intro id member
    rcases List.mem_append.1 member with before | new
    · exact audience.known id before
    · obtain ⟨s, found, rfl⟩ := List.mem_map.1 new
      exact ⟨s, (mem_concerned.1 (List.mem_filter.1 found).1).1, rfl⟩
  seated := Round.seated_append (P := fun seat => ∃ s ∈ t.subscribers, s.channel = seat) round audience.seated
    fun target inTargets => ⟨target.1, HandedOut.among target inTargets, rfl⟩
  invoked s member stands := HandedOut.invoked audience member fun before => stands (List.mem_append_left _ before)
  turns s member := round.turns audience member

theorem Audience.find_number (audience : Audience t told log) (member : s ∈ t.subscribers) :
    (t.subscribers.find? fun u => u.id = s.id) = some s := by
  rcases found : t.subscribers.find? fun u => u.id = s.id with _ | u
  · rw [List.find?_eq_none] at found
    exact absurd (decide_eq_true rfl) (found s member)
  · have number : u.id = s.id := by simpa using List.find?_some found
    have same := audience.eq_of_number (List.mem_of_find?_eq_some found) member number
    rw [found, same]

theorem Audience.mem_heeding (audience : Audience t told log) :
    s ∈ t.heeding ↔ s ∈ t.subscribers ∧ s.id ∈ t.invoked ∧ s.id ∉ t.failed := by
  simp only [Transaction.heeding, List.mem_filterMap, List.mem_filter]
  constructor
  · rintro ⟨id, ⟨invoked, stands⟩, found⟩
    have number : s.id = id := by simpa using List.find?_some found
    exact ⟨List.mem_of_find?_eq_some found, number ▸ invoked, by simpa [number] using stands⟩
  · rintro ⟨member, invoked, stands⟩
    exact ⟨s.id, ⟨invoked, by simpa using stands⟩, audience.find_number member⟩

theorem Audience.heeding_nodup (audience : Audience t told log) : t.heeding.Nodup := by
  refine (audience.once.filter _).filterMap fun id other s atId atOther => ?_
  have number : s.id = id := by simpa using List.find?_some atId
  have again : s.id = other := by simpa using List.find?_some atOther
  exact number.symm.trans again

/-- The turns in which the end of a transaction is told. -/
abbrev Ended (t : Transaction Nat) (signal : Signal) (logs : List Heard) (lost : List Nat) : Prop :=
  Round (signal ≠ .cancel) (t.heeding.map fun sub => (sub, [signal])) logs lost

variable {signal : Signal}

theorem Ended.turn (round : Ended t signal logs lost) (audience : Audience t told log) (heeding : s ∈ t.heeding) :
    ∃ failed, Turn s.channel [signal] (signal ≠ .cancel) (partOf s.channel logs) failed ∧ (s.id ∈ lost ↔ failed = true) := by
  refine Round.turn round ?_ ?_ (List.mem_map.2 ⟨s, heeding, rfl⟩)
  · rw [List.map_map]
    refine audience.heeding_nodup.map_on fun u inHeeding v also same => ?_
    exact audience.eq_of_number (audience.mem_heeding.1 inHeeding).1 (audience.mem_heeding.1 also).1 same
  · rw [List.map_map]
    refine audience.heeding_nodup.map_on fun u inHeeding v also same => ?_
    exact audience.eq_of_seat (audience.mem_heeding.1 inHeeding).1 (audience.mem_heeding.1 also).1 same

theorem Ended.spared (round : Ended t signal logs lost) (audience : Audience t told log) (member : s ∈ t.subscribers)
    (unheeding : s ∉ t.heeding) : partOf s.channel logs = [] ∧ s.id ∉ lost := by
  refine audience.outside (fun target inTargets => ?_) round member fun calls inTargets => ?_
  · obtain ⟨sub, heeding, rfl⟩ := List.mem_map.1 inTargets
    exact (audience.mem_heeding.1 heeding).1
  · obtain ⟨sub, heeding, same⟩ := List.mem_map.1 inTargets
    cases same
    exact unheeding heeding

/-- Somebody heard nothing, or a cancel last and none before. -/
def Cancelled (seat : Nat) (part : List Heard) : Prop :=
  part = [] ∨ ∃ before answer, part = before ++ [⟨seat, .cancel, answer⟩] ∧ ∀ h ∈ before, h.signal ≠ .cancel

theorem Turn.cancelled {seat : Nat} {calls : List Signal} {part : List Heard} (turn : Turn seat calls true part true)
    (unended : .cancel ∉ calls) : Cancelled seat part ∧ ∃ answer, ⟨seat, .cancel, answer⟩ ∈ part := by
  cases turn with
  | @failed before signal after fault last split =>
    rw [if_pos rfl]
    refine ⟨.inr ⟨before.map (fine seat) ++ [⟨seat, signal, .error fault⟩], last, by simp, ?_⟩, last, by simp⟩
    have others : ∀ call ∈ before ++ [signal], call ≠ .cancel := by
      rintro call member rfl
      refine unended ?_
      rw [split]
      rcases List.mem_append.1 member with early | here
      · exact List.mem_append_left _ early
      · exact List.mem_append_right _ (List.mem_cons.2 (.inl (List.mem_singleton.1 here)))
    intro h member
    rcases List.mem_append.1 member with well | failing
    · obtain ⟨call, called, rfl⟩ := List.mem_map.1 well
      exact others call (List.mem_append_left _ called)
    · rw [List.mem_singleton.1 failing]
      exact others signal (List.mem_append_right _ (List.mem_singleton_self _))

/-- Whoever heard anything of a transaction that is cancelled has heard one cancel, at the end. -/
theorem Audience.cancelled (audience : Audience t told log) (round : Ended t .cancel logs lost) (seat : Nat) :
    Cancelled seat (partOf seat (log ++ logs)) := by
  by_cases seated : ∃ s ∈ t.subscribers, s.channel = seat
  · obtain ⟨s, member, rfl⟩ := seated
    -- Who has failed was cancelled then, who was invoked is cancelled now, and nobody else has heard anything.
    by_cases failed : s.id ∈ t.failed
    · have unheeding : s ∉ t.heeding := fun heeding => (audience.mem_heeding.1 heeding).2.2 failed
      rw [partOf_append, (round.spared audience member unheeding).1, List.append_nil]
      have turn := audience.turns s member
      rw [decide_eq_true failed] at turn
      exact (turn.cancelled (cancel_not_mem_callsFor _ _)).1
    · by_cases invoked : s.id ∈ t.invoked
      · obtain ⟨failure, turn, _⟩ := round.turn audience (audience.mem_heeding.2 ⟨member, invoked, failed⟩)
        have last : ∃ answer, partOf s.channel logs = [⟨s.channel, .cancel, answer⟩] := by
          rcases turn.single with ⟨_, well⟩ | ⟨_, fault, _, bad⟩
          · exact ⟨_, well⟩
          · exact ⟨_, bad⟩
        obtain ⟨answer, ended⟩ := last
        rw [partOf_append, ended, audience.standing member failed]
        refine .inr ⟨_, answer, rfl, fun h inPart same => ?_⟩
        obtain ⟨call, called, rfl⟩ := List.mem_map.1 inPart
        have isCancel : call = .cancel := same
        exact cancel_not_mem_callsFor _ _ (isCancel ▸ called)
      · have unheeding : s ∉ t.heeding := fun heeding => invoked (audience.mem_heeding.1 heeding).2.1
        have silent : callsFor s.interest told = [] := by
          by_contra some_calls
          exact invoked ((audience.invoked s member failed).2 some_calls)
        rw [partOf_append, (round.spared audience member unheeding).1, audience.standing member failed, silent]
        exact .inl rfl
  · refine .inl (partOf_eq_nil fun h member same => ?_)
    rcases List.mem_append.1 member with before | now
    · obtain ⟨s, inSubscribers, seat⟩ := audience.seated h before
      exact seated ⟨s, inSubscribers, seat.trans same⟩
    · obtain ⟨target, inTargets, seat⟩ := Round.seated round h now
      obtain ⟨s, heeding, rfl⟩ := List.mem_map.1 inTargets
      exact seated ⟨s, (audience.mem_heeding.1 heeding).1, seat.trans same⟩

/-- Nobody who was never told to cancel has failed. -/
theorem Audience.stands (audience : Audience t told log) (member : s ∈ t.subscribers)
    (calm : ∀ h ∈ partOf s.channel log, h.signal ≠ .cancel) : s.id ∉ t.failed := by
  intro failed
  have turn := audience.turns s member
  rw [decide_eq_true failed] at turn
  obtain ⟨answer, cancelled⟩ := (turn.cancelled (cancel_not_mem_callsFor _ _)).2
  exact calm _ cancelled rfl

/-- Some calls with a finish behind them. Nobody is told of the end of what it has not heard of. -/
def finished (calls : List Signal) : List Signal := if calls.isEmpty then [] else calls ++ [.finish]

theorem finished_continues (calls : List Signal) : ∃ more, finished calls = calls ++ more := by
  unfold finished
  split
  · next nothing => exact ⟨[], by rw [List.isEmpty_iff.1 nothing]; rfl⟩
  · exact ⟨_, rfl⟩

theorem cancel_not_mem_finished {calls : List Signal} (unended : .cancel ∉ calls) : .cancel ∉ finished calls := by
  unfold finished
  split
  · simp
  · simp [unended]

/-- A finished transaction is one turn of everybody, from start to end. -/
theorem Audience.finished (audience : Audience t told log) (round : Ended t .finish logs lost) (member : s ∈ t.subscribers) :
    Turn s.channel (finished (callsFor s.interest told)) true (partOf s.channel (log ++ logs))
      (decide (s.id ∈ t.failed ++ lost)) := by
  have before := audience.turns s member
  rw [partOf_append]
  by_cases failed : s.id ∈ t.failed
  · have unheeding : s ∉ t.heeding := fun heeding => (audience.mem_heeding.1 heeding).2.2 failed
    obtain ⟨more, same⟩ := finished_continues (callsFor s.interest told)
    rw [decide_eq_true failed] at before
    rw [decide_eq_true (List.mem_append_left _ failed), (round.spared audience member unheeding).1, List.append_nil, same]
    exact before.longer more
  · rw [audience.standing member failed]
    have met := audience.invoked s member failed
    by_cases invoked : s.id ∈ t.invoked
    · obtain ⟨failure, turn, lost_iff⟩ := round.turn audience (audience.mem_heeding.2 ⟨member, invoked, failed⟩)
      have fate : decide (s.id ∈ t.failed ++ lost) = failure := by
        rw [Bool.eq_iff_iff, decide_eq_true_iff, List.mem_append, lost_iff]
        exact or_iff_right failed
      rw [fate, Site.finished, if_neg (by simpa using met.1 invoked)]
      exact turn.after _
    · have unheeding : s ∉ t.heeding := fun heeding => invoked (audience.mem_heeding.1 heeding).2.1
      obtain ⟨nothing, kept⟩ := round.spared audience member unheeding
      have silent : callsFor s.interest told = [] := by
        by_contra some_calls
        exact invoked (met.2 some_calls)
      rw [nothing, silent, decide_eq_false (by simp [failed, kept])]
      exact .heeded

/-- Whoever has no calls to hear of a transaction does not hear of its end. -/
theorem Audience.passed (audience : Audience t told log) (round : Ended t signal logs lost) (member : s ∈ t.subscribers)
    (stands : s.id ∉ t.failed) (silent : callsFor s.interest told = []) :
    partOf s.channel (log ++ logs) = [] ∧ s.id ∉ t.failed ++ lost := by
  have unmet : s.id ∉ t.invoked := fun invoked => (audience.invoked s member stands).1 invoked silent
  have unheeding : s ∉ t.heeding := fun heeding => unmet (audience.mem_heeding.1 heeding).2.1
  obtain ⟨nothing, kept⟩ := round.spared audience member unheeding
  constructor
  · rw [partOf_append, nothing, audience.standing member stands, silent]
    rfl
  · simp [stands, kept]

/-- Nobody hears of a transaction in which nothing was told. -/
theorem Audience.untold (audience : Audience t [] log) (round : Ended t signal logs lost) (member : s ∈ t.subscribers) :
    partOf s.channel (log ++ logs) = [] ∧ s.id ∉ t.failed ++ lost := by
  refine audience.passed round member (fun failed => ?_) rfl
  have turn : Turn s.channel [] true (partOf s.channel log) (decide (s.id ∈ t.failed)) := audience.turns s member
  rw [decide_eq_true failed] at turn
  generalize partOf s.channel log = part at turn
  cases turn with
  | failed fault last split => simp at split

/-- Whoever was never told to cancel has heard nothing of a transaction that is cancelled. -/
theorem Audience.unheard (audience : Audience t told log) (round : Ended t .cancel logs lost) (member : s ∈ t.subscribers)
    (calm : ∀ h ∈ partOf s.channel (log ++ logs), h.signal ≠ .cancel) :
    partOf s.channel (log ++ logs) = [] ∧ s.id ∉ t.failed ++ lost := by
  have before : ∀ h ∈ partOf s.channel log, h.signal ≠ .cancel := by
    intro h inPart
    rw [partOf_append] at calm
    exact calm h (List.mem_append_left _ inPart)
  have stands := audience.stands member before
  refine audience.passed round member stands ?_
  by_contra some_calls
  have heeding := audience.mem_heeding.2 ⟨member, (audience.invoked s member stands).2 some_calls, stands⟩
  obtain ⟨failure, turn, _⟩ := round.turn audience heeding
  have cancelled : ∃ answer, ⟨s.channel, .cancel, answer⟩ ∈ partOf s.channel logs := by
    rcases turn.single with ⟨_, heard⟩ | ⟨_, fault, _, heard⟩
    · exact ⟨_, by rw [heard]; exact List.mem_singleton_self _⟩
    · exact ⟨.error fault, by rw [heard]; exact List.mem_cons_self⟩
  obtain ⟨answer, heard⟩ := cancelled
  rw [partOf_append] at calm
  exact calm _ (List.mem_append_right _ heard) rfl

end Site

end ReferenceFeed
