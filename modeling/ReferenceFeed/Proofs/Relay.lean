import ReferenceFeed.Proofs.Underway

namespace ReferenceFeed

/-!
A fan-out in the hands of one thread. What a subscriber hears follows from the calls of that thread, from its own
interest and from its own answers, and from nothing that another subscriber does.
-/

namespace Fanout

/-- What can be asked of a fan-out. -/
inductive Call where
  | subscribe (interest : Interest)
  | unsubscribe (id : Nat)
  | signal (signal : Signal)
  deriving DecidableEq

namespace Call

/-- The events of the open transaction, if there is one, after one more call. -/
def during : Option (List Event) → Call → Option (List Event)
  | none, .signal .start => some []
  | some told, .signal (.event event) => some (told ++ [event])
  | some _, .signal .finish => none
  | some _, .signal .cancel => none
  | now, _ => now

/-- Events and ends belong into a transaction. Everything else belongs between two. -/
def legal : Option (List Event) → Call → Bool
  | none, .subscribe _ | none, .unsubscribe _ | none, .signal .start => true
  | some _, .signal (.event _) | some _, .signal .finish | some _, .signal .cancel => true
  | _, _ => false

end Call

/-- The events of the transaction that some calls leave open, if they do. -/
def underway (calls : List Call) : Option (List Event) := calls.foldl Call.during none

/-- Some calls with the end of their transaction. Nobody is told of the end of what it has not heard of. -/
def closing (ending : Signal) (calls : List Signal) : List Signal := if calls.isEmpty then [] else calls ++ [ending]

/-- What happens while a subscription lasts, as far as the producer goes: the transactions that ended, each with how it
did, and the events of the one that is open. -/
structure Course where
  ended : List (List Event × Signal) := []
  current : Option (List Event) := none
  /-- Whether the subscription was given up. -/
  left : Bool := false

/-- A subscription is given up between transactions, and what comes later is no part of it. -/
def Course.after (id : Nat) (course : Course) (call : Call) : Course :=
  match course.left, course.current, call with
  | false, none, .signal .start => { course with current := some [] }
  | false, some told, .signal (.event event) => { course with current := some (told ++ [event]) }
  | false, some told, .signal .finish => { course with ended := course.ended ++ [(told, .finish)], current := none }
  | false, some told, .signal .cancel => { course with ended := course.ended ++ [(told, .cancel)], current := none }
  | false, none, .unsubscribe other => { course with left := other = id }
  | _, _, _ => course

/-- The calls that a subscription stands for, if none of them fails. -/
def Course.due (interest : Interest) (course : Course) : List Signal :=
  course.ended.flatMap (fun (told, ending) => closing ending (Site.callsFor interest told)) ++
    Site.callsFor interest (course.current.getD [])

/-- What somebody hears of the calls that are due to it, by how it answers: all of them, or those up to the first that
fails, with a cancel behind it unless it was one. -/
def heardOf : List Signal → List (Except Fault Unit) → List Signal
  | [], _ => []
  | signal :: rest, [] => signal :: rest
  | signal :: rest, .ok _ :: answers => signal :: heardOf rest answers
  | signal :: _, .error _ :: _ => if signal = .cancel then [signal] else [signal, .cancel]

/-- A call that is out of place neither begins nor ends a transaction. -/
theorem Call.during_illegal {now : Option (List Event)} {call : Call} (illegal : call.legal now = false) :
    call.during now = now := by
  cases now <;> rcases call with _ | _ | (_ | _ | _ | _) <;> first | rfl | cases illegal

theorem Call.during_end {ending : Signal} (ends : ending = .finish ∨ ending = .cancel) (events : List Event) :
    (Call.signal ending).during (some events) = none := by
  rcases ends with rfl | rfl <;> rfl

theorem closing_continues (ending : Signal) (calls : List Signal) : ∃ more, closing ending calls = calls ++ more := by
  unfold closing
  split
  · next nothing => exact ⟨[], by rw [List.isEmpty_iff.1 nothing]; rfl⟩
  · exact ⟨_, rfl⟩

variable {course : Course} {id : Nat} {interest : Interest} {told : List Event}

/-- A call that is out of place is no part of any subscription. -/
theorem Course.after_illegal {call : Call} (illegal : call.legal course.current = false) : course.after id call = course := by
  obtain ⟨ended, current, left⟩ := course
  cases left <;> cases current <;> rcases call with _ | _ | (_ | _ | _ | _) <;> first | rfl | cases illegal

theorem Course.after_left {call : Call} (left : course.left = true) : course.after id call = course := by
  obtain ⟨ended, current, _⟩ := course
  cases left
  rfl

/-- As long as it lasts, a subscription sees the transaction that is open. -/
theorem Course.current_after {now : Option (List Event)} {call : Call} (current : course.left = false → course.current = now)
    (lasts : (course.after id call).left = false) : (course.after id call).current = call.during now := by
  cases left : course.left with
  | true =>
    rw [after_left left, left] at lasts
    cases lasts
  | false =>
    cases current left
    obtain ⟨ended, now, _⟩ := course
    cases left
    cases now <;> rcases call with _ | _ | (_ | _ | _ | _) <;> rfl

/-- No signal gives a subscription up. -/
theorem Course.left_after (signal : Signal) : (course.after id (.signal signal)).left = course.left := by
  obtain ⟨_, _ | _, _ | _⟩ := course <;> cases signal <;> rfl

/-- An event continues what was due before. -/
theorem Course.due_event (stays : course.left = false) (here : course.current = some told) (event : Event) {more : List Signal}
    (continues : Site.callsFor interest (told ++ [event]) = Site.callsFor interest told ++ more) :
    (course.after id (.signal (.event event))).due interest = course.due interest ++ more := by
  obtain ⟨ended, current, left⟩ := course
  cases stays
  cases here
  simp only [after, due, Option.getD_some, continues, List.append_assoc]

/-- The end of a transaction continues it as well, for those who heard of it. -/
theorem Course.due_end (stays : course.left = false) (here : course.current = some told) {ending : Signal}
    (ends : ending = .finish ∨ ending = .cancel) {more : List Signal}
    (continues : closing ending (Site.callsFor interest told) = Site.callsFor interest told ++ more) :
    (course.after id (.signal ending)).due interest = course.due interest ++ more := by
  obtain ⟨ended, current, left⟩ := course
  cases stays
  cases here
  rcases ends with rfl | rfl <;>
    simp [after, due, Site.callsFor_nil, continues]

end Fanout

namespace Site

open Fanout

/-- What somebody has heard of the calls that are due to it, and whether it has failed. -/
inductive Received (seat : Nat) (due : List Signal) : List Heard → Bool → Prop
  | heeded : Received seat due (due.map (fine seat)) false
  | failed {before signal after} (fault : Fault) (last : Except Fault Unit) : due = before ++ signal :: after →
      Received seat due (before.map (fine seat) ++
        ⟨seat, signal, .error fault⟩ :: if signal = .cancel then [] else [⟨seat, .cancel, last⟩]) true

section Received

variable {seat : Nat} {due calls : List Signal} {part log : List Heard} {failed : Bool}

/-- One turn of somebody who is told to cancel exactly if it did not fail at a cancel. -/
theorem Turn.received {tell : Bool} (turn : Turn seat calls tell log failed)
    (tells : ∀ signal ∈ calls, tell = decide (signal ≠ .cancel)) : Received seat calls log failed := by
  cases turn with
  | heeded => exact .heeded
  | @failed before signal after fault last split =>
    have told : tell = decide (signal ≠ .cancel) := tells signal (by rw [split]; simp)
    have shape : (if tell = true then [⟨seat, .cancel, last⟩] else []) =
        if signal = .cancel then [] else [(⟨seat, .cancel, last⟩ : Heard)] := by
      rw [told]
      by_cases cancel : signal = .cancel <;> simp [cancel]
    rw [shape]
    exact .failed fault last split

/-- Somebody who has not failed goes on. -/
theorem Received.after (received : Received seat due part false) (turn : Received seat calls log failed) :
    Received seat (due ++ calls) (part ++ log) failed := by
  cases received with
  | heeded =>
    cases turn with
    | heeded =>
      rw [← List.map_append]
      exact .heeded
    | @failed before signal after fault last split =>
      rw [← List.append_assoc, ← List.map_append]
      exact .failed fault last (by rw [split, List.append_assoc])

/-- Somebody who has failed hears nothing any more, whatever else is due. -/
theorem Received.longer (received : Received seat due part true) (more : List Signal) : Received seat (due ++ more) part true := by
  cases received with
  | @failed before signal after fault last split =>
    exact .failed fault last (by rw [split, List.append_assoc]; rfl)

theorem heardOf_well (due calls : List Signal) (answers : List (Except Fault Unit)) :
    heardOf (due ++ calls) (due.map (fun _ => .ok ()) ++ answers) = due ++ heardOf calls answers := by
  induction due with
  | nil => rfl
  | cons signal rest ih => exact congrArg (signal :: ·) ih

/-- What is heard is a function of what is due and of the answers. -/
theorem Received.signals (received : Received seat due part failed) :
    part.map Heard.signal = heardOf due (part.map Heard.answer) := by
  cases received with
  | heeded =>
    have all := heardOf_well due [] []
    simp only [List.append_nil] at all
    simpa [fine, Function.comp_def] using (all.trans (List.append_nil due)).symm
  | @failed before signal after fault last split =>
    rw [split]
    have part := heardOf_well before (signal :: after)
      (.error fault :: if signal = .cancel then [] else [last])
    by_cases cancel : signal = .cancel
    · simp_all [fine, Function.comp_def, heardOf]
    · simp_all [fine, Function.comp_def, heardOf]

theorem Received.well_iff (received : Received seat due part failed) : failed = false ↔ ∀ h ∈ part, h.answer = .ok () := by
  cases received with
  | heeded => simp [fine]
  | @failed before signal after fault last split =>
    refine iff_of_false Bool.noConfusion fun well => ?_
    have failing := well ⟨seat, signal, .error fault⟩ (by simp)
    cases failing

end Received

/-- Asks something of a fan-out. A subscriber is called under its number. -/
def relay (c : Conduct) : Call → Flow Site Answer
  | .subscribe interest => do
    let site ← get
    .number <$> (wiring c).fanout.subscribe interest site.origin.fanout.nextId
  | .unsubscribe id => .flag <$> (wiring c).fanout.unsubscribe id
  | .signal signal => (fun _ => .done) <$> (wiring c).fanout.receive signal

/-- What some calls of one thread make of a new fan-out. -/
def relayed (c : Conduct) (thread : Thread) (calls : List Call) : Site :=
  calls.foldl (fun s call => (Flow.effect (relay c call) s).2) { thread }

/-- A fan-out between two calls of its only thread. -/
structure Attending (told : Option (List Event)) (s : Site) : Prop where
  crowd : Crowd s.origin.fanout s.origin.fanout.nextId
  own : ∀ sub ∈ s.origin.fanout.subscribers, sub.channel = sub.id
  seated : ∀ h ∈ s.heard, h.seat < s.origin.fanout.nextId
  idle : told = none → s.origin.fanout.transaction = none
  busy : ∀ events, told = some events → ∃ t log, s.origin.fanout.transaction = some t ∧ t.owner = s.thread ∧
    Audience t events log ∧ (∀ sub ∈ t.subscribers, sub.channel = sub.id) ∧
    s.origin.fanout.subscribers = t.subscribers.filter fun sub => sub.id ∉ t.failed

/-- What a call can come to. -/
inductive Relays (s : Site) : Option (List Event) → Call → Except Fault Answer → Site → Prop
  | refused {told call} (cause : Violation) : call.legal told = false →
      Relays s told call (.error (.failure (.violation cause))) s
  | joined (interest) : Relays s none (.subscribe interest) (.ok (.number s.origin.fanout.nextId))
      (s.withFanout (s.origin.fanout.admitting interest s.origin.fanout.nextId))
  | left (id) (found : Bool) : Relays s none (.unsubscribe id) (.ok (.flag found)) (s.withFanout
      { s.origin.fanout with subscribers := s.origin.fanout.subscribers.filter fun sub => sub.id ≠ id })
  | opened : Relays s none (.signal .start) (.ok .done)
      (s.withFanout (s.origin.fanout.opened s.thread s.origin.fanout.subscribers))
  | handed {told event t logs lost} : s.origin.fanout.transaction = some t → HandedOut t event logs lost →
      Relays s (some told) (.signal (.event event)) (.ok .done)
        ((s.withFanout ({ s.origin.fanout with transaction := some (t.reaching event.entity) }.dropping lost)).hearing logs)
  | ended {told signal t logs lost} : signal = .finish ∨ signal = .cancel → s.origin.fanout.transaction = some t →
      Ended t signal logs lost →
      Relays s (some told) (.signal signal) (.ok .done) ((s.withFanout (s.origin.fanout.dropping lost).closed).hearing logs)

variable {c : Conduct} {s : Site} {told : Option (List Event)}

/-- Between transactions, nothing of one can be asked for. -/
theorem relays_idle (idle : s.origin.fanout.transaction = none) (call : Call) :
    Relays s none call (Flow.effect (relay c call) s).1 (Flow.effect (relay c call) s).2 := by
  have closed : s.origin.fanout.isOpen = false := by rw [isOpen, idle]; rfl
  have outside : s.origin.fanout.owned s.thread = .error (.violation .outside) := by rw [owned, idle]
  have free : ∀ hold, s.origin.fanout.free hold = .ok () := fun hold => by
    rw [Fanout.free, closed]
    rfl
  cases call with
  | subscribe interest =>
    simp only [relay, Fanout.Wiring.subscribe, Flow.effect_bind, Flow.effect_get, Flow.effect_map, Place.effect_read,
      wiring_fanout_place_get, free, Flow.effect_ofExcept]
    exact .joined interest
  | unsubscribe id =>
    have done := effect_unsubscribe c id s
    rw [closed] at done
    simp only [relay, Flow.effect_map]
    rw [show (wiring c).fanout.unsubscribe id = (wiring c).unsubscribe id from rfl, done]
    exact .left id _
  | signal signal =>
    simp only [relay, Flow.effect_map]
    cases signal with
    | start =>
      simp only [Fanout.Wiring.receive, Flow.effect_bind, Place.effect_read, wiring_fanout_place_get, free,
        Flow.effect_ofExcept]
      exact .opened
    | event event =>
      rw [Fanout.Wiring.receive, effect_deliver_refused c event outside]
      exact .refused .outside rfl
    | finish | cancel =>
      rw [Fanout.Wiring.receive, effect_complete_refused c _ outside]
      exact .refused .outside rfl

/-- Within a transaction, its thread can ask for nothing else. -/
theorem relays_busy {t : Transaction Nat} (open_now : s.origin.fanout.transaction = some t) (own : t.owner = s.thread)
    (events : List Event) (call : Call) :
    Relays s (some events) call (Flow.effect (relay c call) s).1 (Flow.effect (relay c call) s).2 := by
  have held : s.origin.fanout.isOpen = true := by rw [isOpen, open_now]; rfl
  have owned : s.origin.fanout.owned s.thread = .ok t := (owned_iff open_now).trans (if_pos own)
  have taken : ∀ hold, s.origin.fanout.free hold = .error (.violation (.held hold)) := fun hold => by
    rw [Fanout.free, held]
    rfl
  cases call with
  | subscribe interest =>
    simp only [relay, Fanout.Wiring.subscribe, Flow.effect_bind, Flow.effect_get, Flow.effect_map, Place.effect_read,
      wiring_fanout_place_get, taken, Flow.effect_ofExcept]
    exact .refused (.held .subscribe) rfl
  | unsubscribe id =>
    have done := effect_unsubscribe c id s
    rw [held] at done
    simp only [relay, Flow.effect_map]
    rw [show (wiring c).fanout.unsubscribe id = (wiring c).unsubscribe id from rfl, done]
    exact .refused (.held .unsubscribe) rfl
  | signal signal =>
    simp only [relay, Flow.effect_map]
    cases signal with
    | start =>
      simp only [Fanout.Wiring.receive, Flow.effect_bind, Place.effect_read, wiring_fanout_place_get, taken,
        Flow.effect_ofExcept]
      exact .refused (.held .start) rfl
    | event event =>
      obtain ⟨logs, lost, round, effect⟩ := effect_deliver c event owned
      rw [Fanout.Wiring.receive, effect]
      exact .handed open_now round
    | finish =>
      obtain ⟨logs, lost, round, effect⟩ := effect_complete c .finish owned
      rw [Fanout.Wiring.receive, effect]
      exact .ended (.inl rfl) open_now round
    | cancel =>
      obtain ⟨logs, lost, round, effect⟩ := effect_complete c .cancel owned
      rw [Fanout.Wiring.receive, effect]
      exact .ended (.inr rfl) open_now round

theorem Attending.relays (attending : Attending told s) (call : Call) :
    Relays s told call (Flow.effect (relay c call) s).1 (Flow.effect (relay c call) s).2 := by
  cases told with
  | none => exact relays_idle (attending.idle rfl) call
  | some events =>
    obtain ⟨t, _, open_now, own, _⟩ := attending.busy events rfl
    exact relays_busy open_now own events call

theorem Attending.fresh (thread : Thread) : Attending none { thread } where
  crowd := (Sound.fresh {} {}).crowd.more
  own _ member := by cases member
  seated _ member := by cases member
  idle _ := rfl
  busy _ absurd := by cases absurd

variable {call : Call} {answer : Except Fault Answer} {t : Site}

section Order

variable {u : Transaction Nat} {events : List Event} {logs : List Heard} {lost : List Nat}

theorem Attending.opened (attending : Attending none s) :
    Attending (some []) (s.withFanout (s.origin.fanout.opened s.thread s.origin.fanout.subscribers)) := by
  refine ⟨attending.crowd.during attending.crowd.seated, attending.own, attending.seated, nofun, ?_⟩
  rintro events same
  cases same
  refine ⟨_, [], rfl, rfl, .opened attending.crowd.numbers attending.crowd.apart _, attending.own, ?_⟩
  exact (List.filter_eq_self.2 (by simp)).symm

/-- An event stays in order, and who fails at it leaves the subscribers and those of the transaction alike. -/
theorem Attending.handed {event : Event} (attending : Attending (some events) s)
    (open_now : s.origin.fanout.transaction = some u) (round : HandedOut u event logs lost) :
    Attending (some (events ++ [event]))
      ((s.withFanout ({ s.origin.fanout with transaction := some (u.reaching event.entity) }.dropping lost)).hearing logs) := by
  obtain ⟨v, log, held, own, audience, seats, among⟩ := attending.busy events rfl
  cases open_now.symm.trans held
  have inside := attending.crowd.inside u open_now
  have reached : ∀ sub ∈ (u.reaching event.entity).subscribers, sub.channel < s.origin.fanout.nextId := inside
  have heard := Round.seated_append (P := (· < s.origin.fanout.nextId)) round attending.seated fun target inTargets =>
    inside _ (HandedOut.among target inTargets)
  refine ⟨(attending.crowd.during reached).dropping lost, ?_, heard, nofun, ?_⟩
  · intro sub member
    exact attending.own sub (List.mem_filter.1 member).1
  · rintro more same
    cases same
    refine ⟨_, log ++ logs, rfl, own, audience.deliver round, seats, ?_⟩
    change s.origin.fanout.subscribers.filter _ = _
    rw [among, List.filter_filter]
    refine List.filter_congr fun sub _ => ?_
    simp [Transaction.reaching, Bool.and_comm]

theorem Attending.ended {signal : Signal} (attending : Attending (some events) s)
    (open_now : s.origin.fanout.transaction = some u) (round : Ended u signal logs lost) :
    Attending none ((s.withFanout (s.origin.fanout.dropping lost).closed).hearing logs) := by
  obtain ⟨v, log, held, _, audience, _, _⟩ := attending.busy events rfl
  cases open_now.symm.trans held
  refine ⟨(attending.crowd.dropping lost).closed, ?_, ?_, fun _ => rfl, nofun⟩
  · intro sub member
    exact attending.own sub (List.mem_filter.1 member).1
  · refine Round.seated_append (P := (· < s.origin.fanout.nextId)) round attending.seated fun target inTargets => ?_
    obtain ⟨sub, heeding, rfl⟩ := List.mem_map.1 inTargets
    exact attending.crowd.inside u open_now sub (audience.mem_heeding.1 heeding).1

end Order

/-- Whatever is asked of it, a fan-out stays in good order, and the calls tell whether a transaction is open. -/
theorem Relays.attending (relays : Relays s told call answer t) (attending : Attending told s) :
    Attending (call.during told) t := by
  cases relays with
  | refused cause illegal => exact (Call.during_illegal illegal).symm ▸ attending
  | joined interest =>
    refine ⟨attending.crowd.admitting interest, ?_, fun h member => ?_, fun _ => attending.idle rfl, nofun⟩
    · intro sub member
      rcases List.mem_append.1 member with old | new
      · exact attending.own sub old
      · rw [List.mem_singleton.1 new]
    · exact Nat.lt_succ_of_lt (attending.seated h member)
  | left id found =>
    refine ⟨attending.crowd.without List.filter_sublist, ?_, attending.seated, fun _ => attending.idle rfl, nofun⟩
    intro sub member
    exact attending.own sub (List.mem_filter.1 member).1
  | opened => exact attending.opened
  | handed open_now round => exact attending.handed open_now round
  | ended ends open_now round => exact (Call.during_end ends _).symm ▸ attending.ended open_now round

/-- A subscription on its course. -/
structure Following (sub : Subscriber Nat) (course : Course) (told : Option (List Event)) (s : Site) : Prop where
  own : sub.channel = sub.id
  known : sub.id < s.origin.fanout.nextId
  only : ∀ other ∈ s.origin.fanout.subscribers, other.id = sub.id → other = sub
  current : course.left = false → course.current = told
  received : ∃ failed, Received sub.id (course.due sub.interest) (partOf sub.id s.heard) failed ∧
    (sub ∈ s.origin.fanout.subscribers ↔ course.left = false ∧ failed = false)

variable {sub : Subscriber Nat} {course : Course}

/-- Nothing is said to somebody who is not registered. -/
theorem Following.unheard (following : Following sub course told s) (attending : Attending told s)
    {targets : List (Subscriber Nat × List Signal)} {tell : Bool} {logs : List Heard} {lost : List Nat}
    (round : Round tell targets logs lost) (among : ∀ target ∈ targets, target.1 ∈ s.origin.fanout.subscribers)
    (gone : sub ∉ s.origin.fanout.subscribers) : partOf sub.id logs = [] := by
  refine partOf_eq_nil fun h member here => ?_
  obtain ⟨target, inTargets, seat⟩ := round.seated h member
  have registered := among target inTargets
  have number : target.1.id = sub.id := (attending.own _ registered).symm.trans (seat.trans here)
  exact gone (following.only _ registered number ▸ registered)

section Round

variable {targets : List (Subscriber Nat × List Signal)} {tell : Bool} {logs : List Heard} {lost : List Nat}
  {fanout : Fanout Nat} {next : Course} {later : Option (List Event)}

/-- The turns of others, or its own, take a subscription further on its course. Only a turn of its own can end it. -/
theorem Following.round (following : Following sub course told s) (attending : Attending told s)
    (round : Round tell targets logs lost) (among : ∀ target ∈ targets, target.1 ∈ s.origin.fanout.subscribers)
    (rest : fanout.subscribers = s.origin.fanout.subscribers.filter fun other => other.id ∉ lost)
    (number : fanout.nextId = s.origin.fanout.nextId) (stays : next.left = course.left)
    (current : next.left = false → next.current = later)
    (lasting : course.left = true → next.due sub.interest = course.due sub.interest)
    (further : course.left = false → ∃ more, next.due sub.interest = course.due sub.interest ++ more)
    (turn : course.left = false → sub ∈ s.origin.fanout.subscribers → ∃ more failed,
      next.due sub.interest = course.due sub.interest ++ more ∧ Received sub.id more (partOf sub.id logs) failed ∧
        (sub.id ∈ lost ↔ failed = true)) :
    Following sub next later ((s.withFanout fanout).hearing logs) := by
  have kept : sub ∈ fanout.subscribers ↔ sub ∈ s.origin.fanout.subscribers ∧ sub.id ∉ lost := by
    rw [rest, List.mem_filter, decide_eq_true_iff]
  refine ⟨following.own, number.symm ▸ following.known, fun other member => ?_, current, ?_⟩
  · change other ∈ fanout.subscribers at member
    rw [rest] at member
    exact following.only other (List.mem_filter.1 member).1
  · change ∃ failed, Received _ _ (partOf sub.id (s.heard ++ logs)) failed ∧ (sub ∈ fanout.subscribers ↔ _)
    rw [partOf_append, kept, stays]
    obtain ⟨failed, received, registered⟩ := following.received
    by_cases here : sub ∈ s.origin.fanout.subscribers
    · obtain ⟨lasts, rfl⟩ := registered.1 here
      obtain ⟨more, failing, due, heard, fails⟩ := turn lasts here
      refine ⟨failing, due ▸ received.after heard, ?_⟩
      rw [fails]
      simp [here, lasts]
    · rw [following.unheard attending round among here, List.append_nil]
      refine ⟨failed, ?_, iff_of_false (fun both => here both.1) fun both => here (registered.2 both)⟩
      -- Who is not registered has given its subscription up, or has failed; nothing is due any more, or nothing is heard.
      cases left : course.left with
      | true => exact lasting left ▸ received
      | false =>
        have failing : failed = true := by
          by_contra well
          exact here (registered.2 ⟨left, Bool.eq_false_iff.2 well⟩)
        cases failing
        obtain ⟨more, due⟩ := further left
        exact due ▸ received.longer more

end Round

section Turns

variable {u : Transaction Nat} {events : List Event} {log logs : List Heard} {lost : List Nat}

/-- What an event means to a subscriber who has not failed. -/
theorem HandedOut.received {event : Event} (round : HandedOut u event logs lost) (audience : Audience u events log)
    (member : sub ∈ u.subscribers) (stands : sub.id ∉ u.failed) : ∃ more failed,
      callsFor sub.interest (events ++ [event]) = callsFor sub.interest events ++ more ∧
        Received sub.channel more (partOf sub.channel logs) failed ∧ (sub.id ∈ lost ↔ failed = true) := by
  by_cases concerned : sub ∈ u.concerned event.entity
  · obtain ⟨failed, turn, fails⟩ := round.turn audience concerned
    refine ⟨_, failed, audience.callsFor_next concerned, turn.received fun signal called => ?_, fails⟩
    have brings : signal = .start ∨ signal = .event event := by
      rw [Transaction.callsOf] at called
      split at called <;> simp_all
    rcases brings with rfl | rfl <;> rfl
  · obtain ⟨nothing, kept⟩ := round.spared audience member concerned
    have uncovered : sub.interest.covers event.entity = false := by
      rw [Bool.eq_false_iff]
      exact fun covers => concerned (mem_concerned.2 ⟨member, stands, covers⟩)
    refine ⟨[], false, ?_, ?_, iff_of_false kept Bool.noConfusion⟩
    · rw [callsFor_append_of_not_covers events uncovered, List.append_nil]
    · rw [nothing]
      exact .heeded

/-- What the end of a transaction means to a subscriber who has not failed. -/
theorem Ended.received {signal : Signal} (round : Ended u signal logs lost) (audience : Audience u events log)
    (member : sub ∈ u.subscribers) (stands : sub.id ∉ u.failed) : ∃ more failed,
      closing signal (callsFor sub.interest events) = callsFor sub.interest events ++ more ∧
        Received sub.channel more (partOf sub.channel logs) failed ∧ (sub.id ∈ lost ↔ failed = true) := by
  have met := audience.invoked sub member stands
  by_cases invoked : sub.id ∈ u.invoked
  · obtain ⟨failed, turn, fails⟩ := round.turn audience (audience.mem_heeding.2 ⟨member, invoked, stands⟩)
    refine ⟨[signal], failed, ?_, turn.received fun called same => ?_, fails⟩
    · rw [closing, if_neg (by simpa using met.1 invoked)]
    · rw [List.mem_singleton.1 same]
  · obtain ⟨nothing, kept⟩ := round.spared audience member fun heeding => invoked (audience.mem_heeding.1 heeding).2.1
    have silent : callsFor sub.interest events = [] := by
      by_contra some_calls
      exact invoked (met.2 some_calls)
    refine ⟨[], false, ?_, ?_, iff_of_false kept Bool.noConfusion⟩
    · rw [silent]
      rfl
    · rw [nothing]
      exact .heeded

/-- The subscribers there are in a transaction are those of its own who have not failed. -/
theorem Attending.registered (attending : Attending (some events) s) (open_now : s.origin.fanout.transaction = some u) :
    ∃ log, Audience u events log ∧
      ∀ other, other ∈ s.origin.fanout.subscribers ↔ other ∈ u.subscribers ∧ other.id ∉ u.failed := by
  obtain ⟨v, log, held, _, audience, _, among⟩ := attending.busy events rfl
  cases open_now.symm.trans held
  refine ⟨log, audience, fun other => ?_⟩
  rw [among, List.mem_filter, decide_eq_true_iff]

end Turns

section Course

variable {u : Transaction Nat} {events : List Event} {logs : List Heard} {lost : List Nat}

theorem Following.joined (following : Following sub course none s) (interest : Interest) :
    Following sub (course.after sub.id (.subscribe interest)) none
      (s.withFanout (s.origin.fanout.admitting interest s.origin.fanout.nextId)) := by
  have unmoved : course.after sub.id (.subscribe interest) = course := by
    obtain ⟨_, _ | _, _ | _⟩ := course <;> rfl
  have other : sub ∉ [(⟨s.origin.fanout.nextId, interest, s.origin.fanout.nextId⟩ : Subscriber Nat)] := by
    intro member
    have known := following.known
    rw [List.mem_singleton.1 member] at known
    exact Nat.lt_irrefl _ known
  obtain ⟨failed, received, registered⟩ := following.received
  rw [unmoved]
  refine ⟨following.own, Nat.lt_succ_of_lt following.known, fun one member number => ?_, following.current, failed, received, ?_⟩
  · rcases List.mem_append.1 member with old | new
    · exact following.only one old number
    · rw [List.mem_singleton.1 new] at number
      exact absurd number (Nat.ne_of_gt following.known)
  · rw [← registered]
    exact List.mem_append.trans (or_iff_left other)

/-- A subscription ends when it is given up itself. -/
theorem Following.left (following : Following sub course none s) (id : Nat) :
    Following sub (course.after sub.id (.unsubscribe id)) none (s.withFanout
      { s.origin.fanout with subscribers := s.origin.fanout.subscribers.filter fun sub => sub.id ≠ id }) := by
  have due : (course.after sub.id (.unsubscribe id)).due sub.interest = course.due sub.interest := by
    obtain ⟨_, _ | _, _ | _⟩ := course <;> rfl
  obtain ⟨failed, received, registered⟩ := following.received
  refine ⟨following.own, following.known, fun one member => following.only one (List.mem_filter.1 member).1,
    Course.current_after following.current, failed, due ▸ received, ?_⟩
  change sub ∈ s.origin.fanout.subscribers.filter _ ↔ _
  rw [List.mem_filter, registered]
  cases left : course.left with
  | true => simp [Course.after_left left, left]
  | false =>
    have none_open := following.current left
    obtain ⟨ended, now, _⟩ := course
    cases left
    cases none_open
    simp [Course.after, @eq_comm _ id sub.id, and_comm]

theorem Following.opened (following : Following sub course none s) :
    Following sub (course.after sub.id (.signal .start)) (some [])
      (s.withFanout (s.origin.fanout.opened s.thread s.origin.fanout.subscribers)) := by
  have due : (course.after sub.id (.signal .start)).due sub.interest = course.due sub.interest := by
    obtain ⟨_, _ | _, _ | _⟩ := course <;> rfl
  obtain ⟨failed, received, registered⟩ := following.received
  exact ⟨following.own, following.known, following.only, Course.current_after following.current, failed, due ▸ received,
    (Course.left_after .start).symm ▸ registered⟩

theorem Following.handed {event : Event} (following : Following sub course (some events) s)
    (attending : Attending (some events) s) (open_now : s.origin.fanout.transaction = some u)
    (round : HandedOut u event logs lost) :
    Following sub (course.after sub.id (.signal (.event event))) (some (events ++ [event]))
      ((s.withFanout ({ s.origin.fanout with transaction := some (u.reaching event.entity) }.dropping lost)).hearing logs) := by
  obtain ⟨log, audience, standing⟩ := attending.registered open_now
  refine following.round attending round ?_ rfl rfl (Course.left_after _) (Course.current_after following.current)
    (fun left => by rw [Course.after_left left]) (fun lasts => ?_) fun lasts here => ?_
  · intro target inTargets
    obtain ⟨one, concerned, rfl⟩ := List.mem_map.1 inTargets
    obtain ⟨member, stands, _⟩ := mem_concerned.1 concerned
    exact (standing one).2 ⟨member, stands⟩
  · obtain ⟨more, continues⟩ := callsFor_continues sub.interest events event
    exact ⟨more, Course.due_event lasts (following.current lasts) event continues⟩
  · obtain ⟨member, stands⟩ := (standing sub).1 here
    obtain ⟨more, failing, continues, heard, fails⟩ := HandedOut.received round audience member stands
    exact ⟨more, failing, Course.due_event lasts (following.current lasts) event continues, following.own ▸ heard, fails⟩

theorem Following.ended {signal : Signal} (following : Following sub course (some events) s)
    (attending : Attending (some events) s) (ends : signal = .finish ∨ signal = .cancel)
    (open_now : s.origin.fanout.transaction = some u) (round : Ended u signal logs lost) :
    Following sub (course.after sub.id (.signal signal)) none
      ((s.withFanout (s.origin.fanout.dropping lost).closed).hearing logs) := by
  obtain ⟨log, audience, standing⟩ := attending.registered open_now
  have current : (course.after sub.id (.signal signal)).left = false → (course.after sub.id (.signal signal)).current = none :=
    fun lasts => (Course.current_after following.current lasts).trans (Call.during_end ends events)
  refine following.round attending round ?_ rfl rfl (Course.left_after _) current
    (fun left => by rw [Course.after_left left]) (fun lasts => ?_) fun lasts here => ?_
  · intro target inTargets
    obtain ⟨one, heeding, rfl⟩ := List.mem_map.1 inTargets
    obtain ⟨member, _, stands⟩ := audience.mem_heeding.1 heeding
    exact (standing one).2 ⟨member, stands⟩
  · obtain ⟨more, continues⟩ := closing_continues signal (callsFor sub.interest events)
    exact ⟨more, Course.due_end lasts (following.current lasts) ends continues⟩
  · obtain ⟨member, stands⟩ := (standing sub).1 here
    obtain ⟨more, failing, continues, heard, fails⟩ := Ended.received round audience member stands
    exact ⟨more, failing, Course.due_end lasts (following.current lasts) ends continues, following.own ▸ heard, fails⟩

end Course

/-- Whatever is asked of a fan-out, a subscription stays on the course that the calls alone give it. -/
theorem Relays.following (relays : Relays s told call answer t) (attending : Attending told s)
    (following : Following sub course told s) : Following sub (course.after sub.id call) (call.during told) t := by
  cases relays with
  | refused cause illegal =>
    have unmoved : course.after sub.id call = course := by
      cases left : course.left with
      | true => exact Course.after_left left
      | false => exact Course.after_illegal (following.current left ▸ illegal)
    rw [Call.during_illegal illegal, unmoved]
    exact following
  | joined interest => exact following.joined interest
  | left id found => exact following.left id
  | opened => exact following.opened
  | handed open_now round => exact following.handed attending open_now round
  | ended ends open_now round => exact (Call.during_end ends _).symm ▸ following.ended attending ends open_now round

section Run

variable (c : Conduct) (thread : Thread)

theorem relayed_append (first second : List Call) : relayed c thread (first ++ second) =
    second.foldl (fun s call => (Flow.effect (relay c call) s).2) (relayed c thread first) := List.foldl_append ..

theorem underway_append (first second : List Call) : underway (first ++ second) = second.foldl Call.during (underway first) :=
  List.foldl_append ..

/-- Any calls leave a fan-out in good order. -/
theorem attending_relayed (calls : List Call) : Attending (underway calls) (relayed c thread calls) := by
  induction calls using List.reverseRecOn with
  | nil => exact .fresh thread
  | append_singleton calls call ih =>
    rw [relayed_append, underway_append]
    exact (ih.relays call).attending ih

/-- A subscription begins where nothing of it was heard yet. -/
theorem Attending.follows {interest : Interest} {id : Nat} (attending : Attending told s)
    (answered : (Flow.effect (relay c (.subscribe interest)) s).1 = .ok (.number id)) :
    Following ⟨id, interest, id⟩ {} none (Flow.effect (relay c (.subscribe interest)) s).2 := by
  have relays := attending.relays (c := c) (.subscribe interest)
  rw [answered] at relays
  generalize (Flow.effect (relay c (.subscribe interest)) s).2 = after at relays
  cases relays with
  | joined =>
    refine ⟨rfl, Nat.lt_succ_self _, fun other member number => ?_, fun _ => rfl, false, ?_, ?_⟩
    · rcases List.mem_append.1 member with old | new
      · exact absurd number (Nat.ne_of_lt (attending.crowd.numbered other old))
      · exact List.mem_singleton.1 new
    · have silent : partOf s.origin.fanout.nextId s.heard = [] :=
        partOf_eq_nil fun h member => Nat.ne_of_lt (attending.seated h member)
      change Received _ [] (partOf s.origin.fanout.nextId s.heard) false
      rw [silent]
      exact .heeded
    · exact iff_of_true (List.mem_append_right _ (List.mem_singleton_self _)) ⟨rfl, rfl⟩

theorem Following.foldl (calls : List Call) (attending : Attending told s) (following : Following sub course told s) :
    Following sub (calls.foldl (Course.after sub.id) course) (calls.foldl Call.during told)
      (calls.foldl (fun s call => (Flow.effect (relay c call) s).2) s) := by
  induction calls generalizing s course told with
  | nil => exact following
  | cons call rest ih =>
    have relays := attending.relays (c := c) call
    exact ih (relays.attending attending) (relays.following attending following)

end Run

/-- What each subscription hears is what is due to it by the calls of the producer, cut off at its own first failure.
It is registered until it fails or is given up. Calls in their place are answered well, whatever subscribers do, and
other calls change nothing. -/
theorem relayed_apart (c : Conduct) (thread : Thread) :
    (∀ (calls : List Call) (call : Call),
      if call.legal (underway calls) then
        ∃ answer, (Flow.effect (relay c call) (relayed c thread calls)).1 = .ok answer
      else ∃ cause, Flow.effect (relay c call) (relayed c thread calls) =
        (.error (.failure (.violation cause)), relayed c thread calls)) ∧
    ∀ (first later : List Call) (interest : Interest) (id : Nat),
      (Flow.effect (relay c (.subscribe interest)) (relayed c thread first)).1 = .ok (.number id) →
      let course := later.foldl (Course.after id) {}
      let s := relayed c thread (first ++ .subscribe interest :: later)
      let part := partOf id s.heard
      part.map Heard.signal = heardOf (course.due interest) (part.map Heard.answer) ∧
        ((∃ sub ∈ s.origin.fanout.subscribers, sub.id = id) ↔ course.left = false ∧ ∀ h ∈ part, h.answer = .ok ()) := by
  constructor
  · intro calls call
    have relays := (attending_relayed c thread calls).relays (c := c) call
    generalize effect : Flow.effect (relay c call) (relayed c thread calls) = outcome at relays
    obtain ⟨answer, after⟩ := outcome
    generalize underway calls = told at relays
    cases relays with
    | refused cause illegal =>
      rw [if_neg (by simp [illegal])]
      exact ⟨cause, rfl⟩
    | joined | left | opened | handed => exact ⟨_, rfl⟩
    | ended ends =>
      rcases ends with rfl | rfl <;> exact ⟨_, rfl⟩
  · intro first later interest id answered
    have attending := attending_relayed c thread first
    have relays := attending.relays (c := c) (.subscribe interest)
    -- The subscription begins its course between two transactions, and the later calls take it along.
    have begun := attending.follows c answered
    have idle : (Call.subscribe interest).during (underway first) = none := by
      rw [answered] at relays
      generalize underway first = told at relays
      generalize (Flow.effect (relay c (.subscribe interest)) (relayed c thread first)).2 = after at relays
      cases relays with
      | joined => rfl
    have follows := begun.foldl c later (idle ▸ relays.attending attending)
    have run : relayed c thread (first ++ .subscribe interest :: later) =
        later.foldl (fun s call => (Flow.effect (relay c call) s).2)
          (Flow.effect (relay c (.subscribe interest)) (relayed c thread first)).2 := relayed_append c thread _ _
    rw [← run] at follows
    obtain ⟨failed, received, registered⟩ := follows.received
    refine ⟨received.signals, ?_⟩
    rw [← received.well_iff, ← registered]
    constructor
    · rintro ⟨sub, member, number⟩
      exact follows.only sub member number ▸ member
    · exact fun member => ⟨_, member, rfl⟩

/-- The first subscriber panics when something is removed. -/
def startled : Conduct :=
  { Conduct.quiet with answer := fun _ seat signal =>
      if seat = 1 ∧ signal = .event (.remove "e" "1") then .error (.panic none) else .ok () }

/-- Another one subscribes, and then there are two transactions. -/
def removals : List Call :=
  [.subscribe .all, .signal .start, .signal (.event (.remove "e" "1")), .signal (.event (.remove "e" "2")), .signal .finish,
    .signal .start, .signal (.event (.remove "e" "3")), .signal .cancel]

theorem relayed_startled :
    let s := relayed startled 0 (.subscribe .all :: removals)
    (partOf 1 s.heard).map Heard.signal = [.start, .event (.remove "e" "1"), .cancel] ∧
      ¬(∃ sub ∈ s.origin.fanout.subscribers, sub.id = 1) ∧
      (partOf 2 s.heard).map Heard.signal = [.start, .event (.remove "e" "1"), .event (.remove "e" "2"), .finish,
        .start, .event (.remove "e" "3"), .cancel] := by
  have first := (relayed_apart startled 0).2 [] removals .all 1 rfl
  have second := (relayed_apart startled 0).2 [.subscribe .all] removals.tail .all 2 rfl
  refine ⟨first.1.trans rfl, fun registered => ?_, second.1.trans rfl⟩
  have well := (first.2.1 registered).2
  exact absurd (well ⟨1, .event (.remove "e" "1"), .error (.panic none)⟩ (.tail _ (.head _))) nofun

end Site

end ReferenceFeed
