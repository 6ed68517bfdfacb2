import ReferenceFeed.Proofs.Announcement
import ReferenceFeed.Proofs.Departure

namespace ReferenceFeed

/-!
What a subscriber hears is uniform, as long as the updates that it is told name the columns that their entities are going
to have. Only a reload has them compared.
-/

namespace Site

variable {c : Conduct} {s t : Site} {seat number : Nat} {action : Action} {thread : Thread} {answer : Except Fault Answer}

namespace Step

/-- Whether a step brings an update under other columns than its entity is going to have. -/
def misnames (step : Step) : Bool :=
  match step.action with
  | .call number (.event (.update entity header _)) => step.before.due number entity ≠ some header
  | _ => false

/-- The calls that a step makes to a seat. -/
def brings (c : Conduct) (seat : Nat) (step : Step) : List Signal :=
  (callsAt seat (step.after c).heard).drop (callsAt seat step.before.heard).length

/-- Whether a step brings an update under other columns than its entity is going to have, and the one at a seat is told. -/
def misleads (c : Conduct) (seat : Nat) (step : Step) : Bool :=
  step.misnames && (step.brings c seat).any Signal.isEvent

end Step

variable {sub : Subscriber Nat} {interest : Interest} {told : List Event} {before : Site} {owner : Thread}

/-- Whoever is no subscriber any more, and has failed in what transaction there is, is gone. -/
theorem Sound.gone (sound : Sound s) (member : sub ∈ s.origin.fanout.subscribers) (left : sub ∉ t.origin.fanout.subscribers)
    (members : ∀ other ∈ t.origin.fanout.subscribers, other ∈ s.origin.fanout.subscribers ∨ other.channel = s.seats)
    (taken : sub.channel < t.seats)
    (failed : ∀ u, t.origin.fanout.transaction = some u → u.subscribers = s.origin.fanout.subscribers ∧ sub.id ∈ u.failed) :
    Gone sub.channel (callsAt sub.channel t.heard) t where
  taken := taken
  heard := rfl
  absent other inside here := by
    rcases members other inside with old | new
    · exact left (List.inj_on_of_nodup_map sound.crowd.apart old member here ▸ inside)
    · exact Nat.ne_of_gt (sound.crowd.seated sub member) (new.symm.trans here)
  dropped u opened other inside here := by
    obtain ⟨among, fails⟩ := failed u opened
    rw [among] at inside
    exact List.inj_on_of_nodup_map sound.crowd.apart inside member here ▸ fails

/-- Somebody knows the columns of all that it wants to hear of: those that are live, and those that are to come. -/
def InTune (sub : Subscriber Nat) (s : Site) (due : String → Option Header) : Prop :=
  ∀ entity, sub.interest.covers entity = true →
    Announcement.of entity (callsAt sub.channel s.heard) = ⟨s.columns entity, due entity⟩

/-- Where a subscriber is in a run of transactions. -/
inductive Tuned (sub : Subscriber Nat) (s : Site) : Prop
  | resting : s.origin.fanout.isOpen = false → sub ∈ s.origin.fanout.subscribers → InTune sub s s.columns → Tuned sub s
  | midway {before number owner told u} : Sound before → sub ∈ before.origin.fanout.subscribers →
      Underway before number owner told told s → s.origin.fanout.transaction = some u → sub.id ∉ u.failed →
      InTune sub s (s.due number) → Tuned sub s
  | stuck {u} : s.origin.fanout.transaction = some u → sub ∈ u.subscribers → Idle s → Tuned sub s
  | gone : Gone sub.channel (callsAt sub.channel s.heard) s → Tuned sub s

/-- What is due to a subscriber who has not failed. -/
theorem Underway.callsAt_standing (under : Underway before number owner told told s) (member : sub ∈ before.origin.fanout.subscribers)
    {u : Transaction Nat} (opened : s.origin.fanout.transaction = some u) (stands : sub.id ∉ u.failed) :
    callsAt sub.channel s.heard = callsAt sub.channel before.heard ++ callsFor sub.interest told := by
  obtain ⟨v, log, held, _, among, heard, audience, _⟩ := under.audience
  cases opened.symm.trans held
  rw [heard, callsAt_append, callsAt_fine (audience.standing (among ▸ member) stands)]

theorem Underway.columns (under : Underway before number owner told told s) (entity : String) :
    s.columns entity = before.columns entity := by
  rw [Site.columns, under.unchanged.live]
  rfl

/-- The columns that are to come are decided by the events that were taken in. -/
theorem Underway.due (under : Underway before number owner told told s) (entity : String) :
    s.due number entity = columnsAfter before.origin.live[entity]? (concerning entity told) := by
  obtain ⟨stages, session, reflect⟩ := under.staged
  rw [Site.due, session, under.unchanged.live]
  exact (reflect entity).due

theorem Underway.due_untold (under : Underway before number owner told told s) (untold : callsFor interest told = []) {entity : String}
    (covers : interest.covers entity = true) : s.due number entity = s.columns entity := by
  have silent : concerning entity told = [] := by
    refine List.filter_eq_nil_iff.2 fun event member here => ?_
    have inside : event ∈ told.filter fun event => interest.covers event.entity :=
      List.mem_filter.2 ⟨member, (of_decide_eq_true here).symm ▸ covers⟩
    rcases shown : told.filter fun event => interest.covers event.entity with _ | ⟨first, rest⟩
    · exact List.ne_nil_of_mem inside shown
    · rw [callsFor, shown] at untold
      cases untold
  rw [under.due, under.columns, silent]
  rfl

/-- The end of a transaction is one turn of everybody it was for. Whoever fails at it is no subscriber any more. -/
theorem Concluded.received {signal : Signal} (concluded : Concluded s signal told t) (member : sub ∈ s.origin.fanout.subscribers) :
    ∃ log failed, t.heard = s.heard ++ log ∧
      Received sub.channel (Fanout.closing signal (callsFor sub.interest told)) (partOf sub.channel log) failed ∧
      (failed = false ↔ sub ∈ t.origin.fanout.subscribers) := by
  obtain ⟨u, log, logs, lost, among, heard, audience, ended, others⟩ := concluded.heard
  have inside : sub ∈ u.subscribers := among ▸ member
  have stays : sub ∈ t.origin.fanout.subscribers ↔ sub.id ∉ u.failed ∧ sub.id ∉ lost := by
    rw [others, List.mem_filter, decide_eq_true_iff, List.mem_append, not_or]
    exact and_iff_right member
  have turn := (audience.turns sub inside).received fun signal called => by
    have other : signal ≠ .cancel := fun same => cancel_not_mem_callsFor _ _ (same ▸ called)
    rw [decide_eq_true other]
  by_cases failed : sub.id ∈ u.failed
  · rw [decide_eq_true failed] at turn
    have unheeding : sub ∉ u.heeding := fun heeding => (audience.mem_heeding.1 heeding).2.2 failed
    obtain ⟨more, continues⟩ := Fanout.closing_continues signal (callsFor sub.interest told)
    refine ⟨log ++ logs, true, heard, ?_, iff_of_false Bool.noConfusion fun still => (stays.1 still).1 failed⟩
    rw [partOf_append, (ended.spared audience inside unheeding).1, List.append_nil, continues]
    exact turn.longer more
  · rw [decide_eq_false failed] at turn
    obtain ⟨more, failure, continues, received, fails⟩ := ended.received audience inside failed
    refine ⟨log ++ logs, failure, heard, ?_, ?_⟩
    · rw [partOf_append, continues]
      exact turn.after received
    · rw [stays, fails, Bool.not_eq_true]
      exact (and_iff_right failed).symm

/-- A subscriber of a transaction that ended knows what is live, or is gone. -/
theorem Concluded.tuned {signal : Signal} (concluded : Concluded before signal told t) (ends : signal = .finish ∨ signal = .cancel)
    (sound : Sound before) (after : Sound t) (member : sub ∈ before.origin.fanout.subscribers)
    (under : Underway before number owner told told s)
    (heard : callsAt sub.channel s.heard = callsAt sub.channel before.heard ++ callsFor sub.interest told)
    (tune : InTune sub s (s.due number))
    (settles : ∀ entity, t.columns entity = if signal = .finish then s.due number entity else s.columns entity) : Tuned sub t := by
  obtain ⟨log, failed, hears, received, stays⟩ := concluded.received member
  have closed := concluded.closed
  cases failed with
  | true =>
    obtain ⟨_, _, _, _, _, _, _, _, others⟩ := concluded.heard
    have taken : sub.channel < t.seats := by
      obtain ⟨h, inPart⟩ := List.exists_mem_of_ne_nil _ received.ne_nil
      obtain ⟨inLog, here⟩ := List.mem_filter.1 inPart
      exact of_decide_eq_true here ▸ after.seated h (hears ▸ List.mem_append_right _ inLog)
    refine .gone (sound.gone member (fun still => Bool.noConfusion (stays.2 still)) (fun other inside => ?_) taken fun u opened => ?_)
    · rw [others] at inside
      exact .inl (List.mem_filter.1 inside).1
    · rw [closed] at opened
      cases opened
  | false =>
    refine .resting (by rw [Fanout.isOpen, closed]; rfl) (stays.1 rfl) fun entity covers => ?_
    have known := tune entity covers
    rw [hears, callsAt_append, callsAt_fine received.well, Fanout.closing]
    by_cases untold : callsFor sub.interest told = []
    -- Whoever was told of no event is not told of the end either, and none of its entities is going to change.
    · have same := under.due_untold untold covers
      have kept : t.columns entity = s.columns entity := by
        rw [settles, same]
        exact ite_self _
      rw [heard, untold] at known
      rw [untold, kept]
      exact known.trans (by rw [same])
    · rw [if_neg (by simpa using untold), ← List.append_assoc, ← heard, Announcement.of_append, known, settles]
      rcases ends with rfl | rfl <;> rfl

/-- The end of a transaction is told without any event. -/
theorem Concluded.uniform_iff {signal : Signal} (concluded : Concluded before signal told t) (ends : signal = .finish ∨ signal = .cancel)
    (member : sub ∈ before.origin.fanout.subscribers)
    (heard : callsAt sub.channel s.heard = callsAt sub.channel before.heard ++ callsFor sub.interest told)
    (continues : s.heard <+: t.heard) :
    Uniform (callsAt sub.channel t.heard) ↔ Uniform (callsAt sub.channel s.heard) := by
  constructor
  · obtain ⟨more, same⟩ := continues
    rw [← same, callsAt_append]
    exact Uniform.of_append
  · intro uniform
    obtain ⟨log, failed, hears, received, _⟩ := concluded.received member
    rw [hears, callsAt_append]
    refine received.uniform ?_
    rw [heard] at uniform
    rw [Fanout.closing]
    split
    · next nothing =>
      rw [List.append_nil]
      exact uniform.of_append
    · rw [← List.append_assoc]
      refine uniform.quiet fun event told => ?_
      cases List.mem_singleton.1 told
      rcases ends with absurd | absurd <;> cases absurd

/-- Nobody hears of the end of a transaction that comes from the wrong thread. -/
theorem Underway.unheard (under : Underway before number owner told told s) (ends : action.ends number = true) (other : thread ≠ owner)
    (acts : act c thread action s = (answer, t)) : t.heard = s.heard := by
  have foreign := under.on thread
  unfold Action.ends at ends
  split at ends
  · cases of_decide_eq_true ends
    rw [under.effect_call, Flow.effect_map, Origin.Wiring.receive] at acts
    rcases foreign.effect_commit (c := c) with ⟨committed, fanout, heard, same, _, commits, _⟩ | ⟨_, _, _, _, cancels⟩
    · rw [commits, foreign.foreign fanout (fun mine => other (same.symm.trans mine)) .finish] at acts
      cases acts
      exact heard
    · rw [cancels, Flow.effect_bind, foreign.foreign (u := ({ s with thread } : Site).keeping number {}) rfl other .cancel] at acts
      cases acts
      rfl
  · cases of_decide_eq_true ends
    rw [under.effect_call, Flow.effect_map, Origin.Wiring.receive, foreign.cancel_foreign (c := c) other] at acts
    cases acts
    rfl
  · cases of_decide_eq_true ends
    rw [under.effect_dropping, Flow.effect_map, foreign.drop_foreign (c := c) other] at acts
    cases acts
    rfl
  · cases ends

/-- A transaction takes one more event in, and hands it out. -/
structure Handed (before : Site) (number : Nat) (owner : Thread) (told : List Event) (s : Site) (amended : Event) (t : Site) : Prop where
  under : Underway before number owner (told ++ [amended]) (told ++ [amended]) t
  due : ∀ entity (a : Announcement), a.current = s.due number entity → (a.after entity (.event amended)).current = t.due number entity
  block : ∀ entity header, amended = .block entity header → s.due number entity = some header
  turns : ∃ u log logs lost, s.origin.fanout.transaction = some u ∧ u.subscribers = before.origin.fanout.subscribers ∧
    Audience u told log ∧ HandedOut u amended logs lost ∧ t.heard = s.heard ++ logs ∧
    t.origin.fanout.transaction = some { u.reaching amended.entity with failed := u.failed ++ lost }

/-- An event for an open transaction is refused without a trace, or handed out, if it comes from the right thread. -/
theorem Underway.handed (under : Underway before number owner told told s) {event : Event}
    (acts : act c thread (.call number (.event event)) s = (answer, t))
    (native : Step.foreign ⟨s, thread, .call number (.event event), answer⟩ = false) :
    t = { s with thread } ∨
      ∃ amended, event.completed before.origin.settings = .ok amended ∧ Handed before number owner told s amended t := by
  have here := under.on thread
  obtain ⟨stages, session, _⟩ := here.staged
  rw [under.effect_call, Flow.effect_map, Origin.Wiring.receive] at acts
  rcases took : Stages.take before.origin.settings before.origin.live (some stages) event with cause | ⟨amended, next⟩
  · have refused : Flow.effect ((wiring c).event number event) { s with thread } = (.error (.failure cause), { s with thread }) := by
      rw [effect_event, session, here.unchanged.settings, here.unchanged.live, took]
    rw [refused] at acts
    cases acts
    exact .inl rfl
  · obtain ⟨complete, _⟩ := Stages.take_ok took
    obtain ⟨after, ⟨mine, goes, later⟩ | ⟨_, refused, _⟩, _, _, kept⟩ := here.take (c := c) session took
    · refine .inr ⟨amended, complete, ?_⟩
      obtain ⟨u, log, held, own, among, _, audience, _⟩ := here.audience
      have owned : (({ s with thread } : Site).keeping number ⟨some next, true⟩).origin.fanout.owned thread = .ok u :=
        (owned_iff held).trans (if_pos (own.trans mine.symm))
      obtain ⟨logs, lost, round, effect⟩ := effect_deliver c amended owned
      -- The session and the fan-out describe one and the same site afterwards.
      have delivered := goes
      rw [effect_event, session, here.unchanged.settings, here.unchanged.live, took] at delivered
      rw [goes] at acts
      cases acts
      cases delivered.symm.trans effect
      have known : ∀ entity, s.due number entity = Stage.due before.origin.live[entity]? stages[entity]? := by
        intro entity
        change Stage.due s.origin.live[entity]? ((({ s with thread } : Site).origin.session number).stages.bind _) = _
        rw [session, under.unchanged.live]
        rfl
      refine ⟨later, fun entity a current => ?_, fun entity header same => ?_, u, log, logs, lost, held, among, audience, round, rfl, rfl⟩
      · rw [Site.due, kept, later.unchanged.live]
        exact Stages.take_due took (current.trans (known entity))
      · subst same
        exact (known entity).trans (Stages.take_block_due took)
    · rw [refused] at acts
      cases acts
      cases native

theorem brings_eq {more : List Signal} (acts : act c thread action s = (answer, t))
    (grows : callsAt seat t.heard = callsAt seat s.heard ++ more) : Step.brings c seat ⟨s, thread, action, answer⟩ = more := by
  have left : Step.after c ⟨s, thread, action, answer⟩ = t := congrArg Prod.snd acts
  rw [Step.brings, left, grows, List.drop_left]

/-- Whoever is told of no event is not misled. -/
theorem uniform_silent {more : List Signal} (acts : act c thread action s = (answer, t))
    (grows : callsAt seat t.heard = callsAt seat s.heard ++ more) (silent : ∀ event, .event event ∉ more) :
    Uniform (callsAt seat t.heard) ↔
      Uniform (callsAt seat s.heard) ∧ Step.misleads c seat ⟨s, thread, action, answer⟩ = false := by
  have none_told : more.any Signal.isEvent = false := by
    refine List.any_eq_false.2 fun signal member => ?_
    cases signal with
    | event event => exact absurd member (silent event)
    | start | finish | cancel => simp [Signal.isEvent]
  rw [Step.misleads, brings_eq acts grows, none_told, Bool.and_false, grows, Uniform.quiet_iff silent]
  exact (and_iff_left rfl).symm

/-- An event that is handed to a subscriber comes under the columns it knows, unless it is an update that misnames them. -/
theorem Handed.uniform_iff {event amended : Event} (handed : Handed before number owner told s amended t)
    (complete : event.completed before.origin.settings = .ok amended)
    (acts : act c thread (.call number (.event event)) s = (answer, t)) (member : sub ∈ before.origin.fanout.subscribers)
    {u : Transaction Nat} (opened : s.origin.fanout.transaction = some u) (stands : sub.id ∉ u.failed)
    (tune : InTune sub s (s.due number)) :
    Uniform (callsAt sub.channel t.heard) ↔ Uniform (callsAt sub.channel s.heard) ∧
      Step.misleads c sub.channel ⟨s, thread, .call number (.event event), answer⟩ = false := by
  obtain ⟨v, log, logs, lost, held, among, audience, round, heard, _⟩ := handed.turns
  cases opened.symm.trans held
  obtain ⟨more, failed, continues, received, _⟩ := round.received audience (among ▸ member) stands
  have grows : callsAt sub.channel t.heard = callsAt sub.channel s.heard ++ (partOf sub.channel logs).map Heard.signal := by
    rw [heard, callsAt_append]
    rfl
  by_cases covers : sub.interest.covers amended.entity = true
  -- What is due is the event, perhaps after a start. Only an update may come under other columns than are going to be live.
  · obtain ⟨intro, rfl, starts⟩ := callsFor_told covers told continues
    rw [grows, received.uniform_iff starts, tune _ covers]
    refine and_congr_right fun _ => ?_
    rw [Step.misleads, brings_eq acts grows, Bool.and_eq_false_iff, ← Bool.not_eq_true (List.any _ _), received.any_isEvent starts]
    cases event with
    | update entity header entry =>
      obtain ⟨filled, _, rfl⟩ := map_ok complete
      have named : Step.misnames ⟨s, thread, .call number (.event (.update entity header entry)), answer⟩ = false ↔
          s.due number entity = some header := by
        simp [Step.misnames]
      rw [named, or_comm, ← imp_iff_not_or]
      refine imp_congr_right fun _ => ⟨fun known => known header rfl, fun known other names => ?_⟩
      cases names
      exact known
    | block entity header =>
      cases complete
      have known := handed.block entity header rfl
      simp [Step.misnames, Event.presumes, Event.entity, known]
    | reload | reloadGroup | remove =>
      cases complete
      simp [Step.misnames, Event.presumes]
  · rw [callsFor_append_of_not_covers told (Bool.eq_false_iff.2 covers)] at continues
    have nothing : more = [] := List.self_eq_append_right.1 continues
    refine uniform_silent acts grows fun event told => ?_
    obtain ⟨heard, ending, signals, within, silent⟩ := received.shape
    rw [nothing] at within
    rw [signals, List.prefix_nil.1 within] at told
    exact silent event told

/-- A subscriber to whom an event is handed knows what is to come, or is gone. -/
theorem Handed.tuned {amended : Event} (handed : Handed before number owner told s amended t)
    (under : Underway before number owner told told s) (sound : Sound before) (after : Sound t)
    (member : sub ∈ before.origin.fanout.subscribers) {u : Transaction Nat} (opened : s.origin.fanout.transaction = some u)
    (stands : sub.id ∉ u.failed) (tune : InTune sub s (s.due number)) : Tuned sub t := by
  obtain ⟨v, log, logs, lost, held, among, audience, round, heard, goes_on⟩ := handed.turns
  cases opened.symm.trans held
  obtain ⟨more, failed, continues, received, fails⟩ := round.received audience (among ▸ member) stands
  cases failed with
  | true =>
    have gone : sub.id ∈ u.failed ++ lost := List.mem_append_right _ (fails.2 rfl)
    obtain ⟨w, _, still, _, _, _, _, others⟩ := handed.under.audience
    cases goes_on.symm.trans still
    refine .gone (sound.gone member (fun inside => ?_) (fun other inside => ?_)
      (after.crowd.inside _ goes_on sub (among ▸ member)) fun w opens => ?_)
    · rw [others] at inside
      exact of_decide_eq_true (List.mem_filter.1 inside).2 gone
    · rw [others] at inside
      exact .inl (List.mem_filter.1 inside).1
    · cases goes_on.symm.trans opens
      exact ⟨among, gone⟩
  | false =>
    have kept : sub.id ∉ u.failed ++ lost := by simpa [stands] using fails
    refine .midway sound member handed.under goes_on kept fun entity covers => ?_
    have known := tune entity covers
    -- What it has heard grows by the event itself, or by nothing if the event is about another entity.
    have follows : Announcement.of entity (callsAt sub.channel t.heard) =
        (Announcement.of entity (callsAt sub.channel s.heard)).after entity (.event amended) := by
      rw [heard, callsAt_append, callsAt_fine received.well]
      by_cases concerned : sub.interest.covers amended.entity = true
      · obtain ⟨intro, rfl, rfl | rfl⟩ := callsFor_told concerned told continues
        · exact Announcement.of_append ..
        · exact Announcement.of_append ..
      · rw [callsFor_append_of_not_covers told (Bool.eq_false_iff.2 concerned)] at continues
        have other : amended.entity ≠ entity := fun same => concerned (same ▸ covers)
        rw [List.self_eq_append_right.1 continues, List.append_nil, Announcement.after_other other]
    have same : t.columns entity = s.columns entity := (handed.under.columns entity).trans (under.columns entity).symm
    rw [follows, known, Announcement.after_event, handed.due entity _ rfl, same]

theorem uniform_unheard (acts : act c thread action s = (answer, t)) (unheard : callsAt seat t.heard = callsAt seat s.heard) :
    Uniform (callsAt seat t.heard) ↔
      Uniform (callsAt seat s.heard) ∧ Step.misleads c seat ⟨s, thread, action, answer⟩ = false :=
  uniform_silent acts (unheard.trans (List.append_nil _).symm) (fun _ => List.not_mem_nil)

theorem InTune.congr {due other : String → Option Header} (tune : InTune sub s due)
    (heard : callsAt sub.channel t.heard = callsAt sub.channel s.heard) (live : t.origin.live = s.origin.live)
    (same : ∀ entity, other entity = due entity) : InTune sub t other := by
  intro entity covers
  rw [heard, tune entity covers, Site.columns, Site.columns, live, same]

/-- While no transaction is open, one may be started, and subscribers may come and go. -/
theorem Tuned.step_resting (closed : s.origin.fanout.isOpen = false) (member : sub ∈ s.origin.fanout.subscribers)
    (tune : InTune sub s s.columns) (sound : Sound s) (other : action.isWhole = false) (acts : act c thread action s = (answer, t)) :
    Tuned sub t ∧ callsAt sub.channel t.heard = callsAt sub.channel s.heard := by
  rcases handles : action.isHandle with _ | _
  · have passing : Passing { s with thread } t := act_after acts ▸ passing_perform (c := c) _ handles other
    have unheard : callsAt sub.channel t.heard = callsAt sub.channel s.heard := passing.silent (sound.crowd.seated sub member)
    have live : t.origin.live = s.origin.live := by rw [passing.origin]
    refine ⟨?_, unheard⟩
    -- Numbers and seats are not used again, so who has left is gone for good.
    by_cases stays : sub ∈ t.origin.fanout.subscribers
    · refine .resting ?_ stays (tune.congr unheard live fun entity => ?_)
      · rw [Fanout.isOpen, passing.transaction]
        exact closed
      · rw [Site.columns, live]
        rfl
    · refine .gone (sound.gone member stays passing.members (Nat.lt_of_lt_of_le (sound.crowd.seated sub member) passing.seats) ?_)
      intro u opened
      rw [passing.transaction] at opened
      rw [Fanout.isOpen, show s.origin.fanout.transaction = some u from opened] at closed
      cases closed
  · rcases sound.handling_idle (sound.idle_of_closed closed) handles acts with
      ⟨number, rfl, rfl, _, started⟩ | ⟨fanout, live, heard, _⟩
    · obtain ⟨_, _, under⟩ := (sound.on thread).underway started
      have known := under.due
      rw [effect_start] at started
      split at started
      · cases started
      · split at started
        · cases started
        · cases started
          exact ⟨.midway (sound.on thread) member under rfl List.not_mem_nil (tune.congr rfl rfl known), rfl⟩
    · have unheard : callsAt sub.channel t.heard = callsAt sub.channel s.heard := by rw [heard]
      refine ⟨.resting (by rw [fanout]; exact closed) (by rw [fanout]; exact member) (tune.congr unheard live fun entity => ?_), unheard⟩
      rw [Site.columns, live]
      rfl

/-- Where nothing can be ended any more, nobody hears anything. -/
theorem Tuned.step_stuck {u : Transaction Nat} (opened : s.origin.fanout.transaction = some u) (inside : sub ∈ u.subscribers)
    (idle : Idle s) (sound : Sound s) (other : action.isWhole = false) (acts : act c thread action s = (answer, t)) :
    Tuned sub t ∧ callsAt sub.channel t.heard = callsAt sub.channel s.heard := by
  rcases handles : action.isHandle with _ | _
  · have passing : Passing { s with thread } t := act_after acts ▸ passing_perform (c := c) _ handles other
    refine ⟨.stuck (passing.transaction.trans opened) inside fun number => ?_, passing.silent (sound.crowd.inside u opened sub inside)⟩
    rw [passing.origin]
    exact idle number
  · have held : s.origin.fanout.isOpen = true := by
      rw [Fanout.isOpen, opened]
      rfl
    rcases sound.handling_idle idle handles acts with ⟨_, _, _, free, _⟩ | ⟨fanout, _, heard, rested⟩
    · exact absurd (free.symm.trans held) (by decide)
    · exact ⟨.stuck (by rw [fanout]; exact opened) inside rested, by rw [heard]⟩

theorem Action.misleads_of_ends (ends : action.ends number = true) :
    Step.misleads c seat ⟨s, thread, action, answer⟩ = false := by
  cases action with
  | call other signal =>
    cases signal with
    | finish | cancel => rfl
    | start | event => cases ends
  | drop => rfl
  | _ => cases ends

/-- A subscriber hears of the end of a transaction. An end that comes from the wrong thread leaves the fan-out to nobody. -/
theorem Tuned.step_ending (sound₀ : Sound before) (member : sub ∈ before.origin.fanout.subscribers)
    (under : Underway before number owner told told s) {u : Transaction Nat} (opened : s.origin.fanout.transaction = some u)
    (stands : sub.id ∉ u.failed) (tune : InTune sub s (s.due number)) (sound : Sound s) (ends : action.ends number = true)
    (acts : act c thread action s = (answer, t)) :
    Tuned sub t ∧ (Uniform (callsAt sub.channel t.heard) ↔ Uniform (callsAt sub.channel s.heard)) := by
  have after : Sound t := sound.answered acts
  have called := under.callsAt_standing member opened stands
  by_cases mine : thread = owner
  · subst mine
    rcases under.concludes ends acts with ⟨_, landed⟩ | abandoned
    · refine ⟨landed.concluded.tuned (.inl rfl) sound₀ after member under called tune fun entity => ?_,
        landed.concluded.uniform_iff (.inl rfl) member called (act_continues acts)⟩
      exact (landed.settles sound₀ entity).1.columns.trans (under.due entity).symm
    · refine ⟨abandoned.concluded.tuned (.inr rfl) sound₀ after member under called tune fun entity => ?_,
        abandoned.concluded.uniform_iff (.inr rfl) member called (act_continues acts)⟩
      rw [if_neg (by decide), under.columns, Site.columns, abandoned.unchanged.live]
      rfl
  · obtain ⟨held, sessions⟩ := under.unreleased ends mine acts
    have unheard := under.unheard ends mine acts
    have inside : sub ∈ u.subscribers := by
      obtain ⟨v, _, open_now, _, among, _⟩ := under.audience
      cases opened.symm.trans open_now
      exact among ▸ member
    exact ⟨.stuck (held ▸ opened) inside (sound.idle_without under.holds sessions), by rw [unheard]⟩

/-- While a transaction is open, a subscriber hears of its events and of its end. -/
theorem Tuned.step_midway (sound₀ : Sound before) (member : sub ∈ before.origin.fanout.subscribers)
    (under : Underway before number owner told told s) {u : Transaction Nat} (opened : s.origin.fanout.transaction = some u)
    (stands : sub.id ∉ u.failed) (tune : InTune sub s (s.due number)) (sound : Sound s)
    (native : (action.eventOf? number).isSome = true → Step.foreign ⟨s, thread, action, answer⟩ = false)
    (acts : act c thread action s = (answer, t)) :
    Tuned sub t ∧ (Uniform (callsAt sub.channel t.heard) ↔ Uniform (callsAt sub.channel s.heard) ∧
      Step.misleads c sub.channel ⟨s, thread, action, answer⟩ = false) := by
  by_cases ends : action.ends number = true
  · rw [and_iff_left (Action.misleads_of_ends ends)]
    exact Tuned.step_ending sound₀ member under opened stands tune sound ends acts
  · rcases brought : action.eventOf? number with _ | event
    · have aside : Aside number { s with thread } t :=
        act_after acts ▸ (sound.on thread).aside (c := c) under.holds (Bool.eq_false_iff.2 ends) brought
      have unheard : callsAt sub.channel t.heard = callsAt sub.channel s.heard := by rw [aside.heard]
      refine ⟨.midway sound₀ member ((under.on thread).aside aside) (aside.fanout ▸ opened) stands ?_, uniform_unheard acts unheard⟩
      refine tune.congr unheard aside.live fun entity => ?_
      rw [Site.due, aside.live, aside.session]
      rfl
    · cases Action.eq_of_eventOf brought
      rcases under.handed acts (native (by rw [brought]; rfl)) with rfl | ⟨amended, complete, handed⟩
      · exact ⟨.midway sound₀ member (under.on thread) opened stands (tune.congr rfl rfl fun _ => rfl), uniform_unheard acts rfl⟩
      · exact ⟨handed.tuned under sound₀ (sound.answered acts) member opened stands tune,
          handed.uniform_iff complete acts member opened stands tune⟩

/-- One more step leaves what a subscriber hears uniform, unless it misleads. -/
theorem Tuned.step (tuned : Tuned sub s) (sound : Sound s) (other : action.isWhole = false)
    (native : ∀ number, (action.eventOf? number).isSome = true → Step.foreign ⟨s, thread, action, answer⟩ = false)
    (acts : act c thread action s = (answer, t)) :
    Tuned sub t ∧ (Uniform (callsAt sub.channel t.heard) ↔ Uniform (callsAt sub.channel s.heard) ∧
      Step.misleads c sub.channel ⟨s, thread, action, answer⟩ = false) := by
  cases tuned with
  | resting closed member tune =>
    obtain ⟨next, unheard⟩ := Tuned.step_resting closed member tune sound other acts
    exact ⟨next, uniform_unheard acts unheard⟩
  | midway sound₀ member under opened stands tune =>
    exact Tuned.step_midway sound₀ member under opened stands tune sound (native _) acts
  | stuck opened inside idle =>
    obtain ⟨next, unheard⟩ := Tuned.step_stuck opened inside idle sound other acts
    exact ⟨next, uniform_unheard acts unheard⟩
  | gone gone =>
    have here : Gone sub.channel (callsAt sub.channel s.heard) { s with thread } := gone.congr rfl rfl rfl
    have still : Gone sub.channel (callsAt sub.channel s.heard) t := act_after acts ▸ here.perform (c := c) action
    exact ⟨.gone (still.heard.symm ▸ still), uniform_unheard acts still.heard⟩

theorem Run.tuned {steps : List Step} (run : Run c s steps t) (tuned : Tuned sub s) (sound : Sound s)
    (handles : ∀ step ∈ steps, step.action.isWhole = false)
    (native : ∀ step ∈ steps, ∀ number, (step.action.eventOf? number).isSome = true → step.foreign = false) :
    Tuned sub t ∧ Sound t ∧ (Uniform (callsAt sub.channel t.heard) ↔ Uniform (callsAt sub.channel s.heard) ∧
      ∀ step ∈ steps, step.misleads c sub.channel = false) := by
  induction run with
  | start => exact ⟨tuned, sound, by simp⟩
  | @next steps u thread action answer v previous acts ih =>
    obtain ⟨earlier, sound, uniform⟩ := ih (fun step member => handles step (List.mem_append_left _ member))
      (fun step member => native step (List.mem_append_left _ member))
    have last := List.mem_append_right steps (List.mem_singleton_self (Step.mk u thread action answer))
    obtain ⟨now, next⟩ := earlier.step sound (handles _ last) (native _ last) acts
    refine ⟨now, sound.answered acts, ?_⟩
    rw [next, uniform, and_assoc, List.forall_mem_append, List.forall_mem_singleton]

/-- Whoever joins knows what is live, and was shown it under its columns. -/
theorem Sound.tuned_joined (sound : Sound s) {value : Answer} (joins : act c thread (.subscribe interest) s = (.ok value, t)) :
    Tuned ⟨s.origin.fanout.nextId, interest, s.seats⟩ t ∧ Uniform (callsAt s.seats t.heard) := by
  rcases act_subscribe c joins with ⟨_, refused, _⟩ | ⟨closed, ⟨joined, rfl⟩ | ⟨_, _, failed, _⟩⟩
  · cases refused
  · cases joined
    have shown := sound.callsAt_next (shownTo s.origin interest)
    obtain ⟨uniform, announced⟩ := uniform_shown sound.stores interest
    refine ⟨.resting closed (List.mem_append_right _ (List.mem_singleton_self _)) fun entity covers => ?_, shown.symm ▸ uniform⟩
    exact (congrArg (Announcement.of entity) shown).trans (announced entity covers)
  · cases failed

/-- An event whose columns are compared is refused under others, and nothing has happened. -/
theorem Sound.mismatch (sound : Sound s) {stages : Stages} {event : Event} {expected got : Header}
    (staged : (s.origin.session number).stages = some stages) (compares : stages.Compares s.origin.settings event)
    (presumes : event.presumes = some got) (due : s.due number event.entity = some expected) (differs : got ≠ expected) :
    act c thread (.call number (.event event)) s =
      (.error (.failure (.columnMismatch event.entity expected got.text)), { s with thread }) := by
  have present := present_of_holds (s := { s with thread }) (sound.holds_of_stages staged)
  have known : Stage.due s.origin.live[event.entity]? stages[event.entity]? = some expected := by
    rw [Site.due, staged] at due
    exact due
  have refused : Flow.effect ((wiring c).event number event) { s with thread } =
      (.error (.failure (.columnMismatch event.entity expected got.text)), { s with thread }) := by
    rw [effect_event, show (({ s with thread } : Site).origin.session number).stages = some stages from staged,
      Stages.take_mismatch compares presumes known differs]
  simp only [act, Site.perform, Flow.effect_bind, present, Flow.effect_map, Origin.Wiring.receive, refused]
  rfl

theorem Run.acted {steps : List Step} (run : Run c s steps t) (sound : Sound s) :
    Sound t ∧ ∀ step ∈ steps, Sound step.before ∧ act c step.thread step.action step.before = (step.answer, step.after c) := by
  induction run with
  | start => exact ⟨sound, List.forall_mem_nil _⟩
  | @next steps u thread action answer v previous acts ih =>
    obtain ⟨sound, before⟩ := ih
    refine ⟨sound.answered acts, List.forall_mem_append.2 ⟨before, List.forall_mem_singleton.2 ⟨sound, ?_⟩⟩⟩
    exact acts.trans (Prod.ext rfl (act_after acts).symm)

/-- What a subscriber hears is uniform from the moment it joins, just if it is not misled. A block is refused under other
columns than its entity is going to have, and so is an update in a reload. No event was refused because of its thread. -/
theorem Reachable.stays_uniform_iff {s₀ : Site} {value : Answer} {steps : List Step} (reach : Reachable c s₀)
    (joins : act c thread (.subscribe interest) s₀ = (.ok value, s)) (run : Run c s steps t)
    (handles : ∀ step ∈ steps, step.action.isWhole = false)
    (native : ∀ step ∈ steps, ∀ number, (step.action.eventOf? number).isSome = true → step.foreign = false) :
    (Uniform (callsAt s₀.seats t.heard) ↔ ∀ step ∈ steps, step.misleads c s₀.seats = false) ∧
      ∀ step ∈ steps, ∀ (number : Nat) (event : Event) (stages : Stages) (expected got : Header),
        step.action = .call number (.event event) → (step.before.origin.session number).stages = some stages →
        stages.Compares step.before.origin.settings event → event.presumes = some got →
        step.before.due number event.entity = some expected → got ≠ expected →
          step.answer = .error (.failure (.columnMismatch event.entity expected got.text)) ∧
            step.after c = { step.before with thread := step.thread } := by
  obtain ⟨tuned, uniform⟩ := reach.sound.tuned_joined joins
  have sound : Sound s := reach.sound.answered joins
  have told := (run.tuned tuned sound handles native).2.2
  refine ⟨told.trans (and_iff_right uniform), fun step inside => ?_⟩
  intro number event stages expected got asked staged compares presumes due differs
  obtain ⟨steady, acts⟩ := (run.acted sound).2 step inside
  rw [asked, steady.mismatch staged compares presumes due differs] at acts
  exact Prod.mk.inj acts.symm

/-- The columns of a small entity, under another name. -/
def keyAndWord : Header := ⟨["id", "w"], rfl, by decide, by decide⟩

/-- A site with a session, which somebody is going to listen to. -/
def watched : Site := (act .quiet 0 (.subscribe .all) handled).2

/-- An entity is loaded, and then updates to it are announced. -/
def announcing : List Step × Site := enact .quiet watched
  [(0, .call 0 .start), (0, .call 0 (.event (.reload "e" keyAndValue))), (0, .call 0 (.event (.block "e" keyAndValue))),
    (0, .call 0 (.event (.update "e" keyAndValue ⟨"1", "1,x", ∅⟩))), (0, .call 0 .finish), (0, .call 0 .start),
    (0, .call 0 (.event (.block "e" keyAndValue)))]

/-- One more event, under columns of other names. -/
def misnaming (event : Event) : Step := asking .quiet announcing.2 0 (.call 0 (.event event))

theorem run_misnaming (event : Event) :
    Run .quiet watched (announcing.1 ++ [misnaming event]) ((misnaming event).after .quiet) := by
  have before : Run .quiet watched announcing.1 announcing.2 := run_enact ..
  exact before.asking 0 (.call 0 (.event event))

theorem stays_uniform_misnamed :
    Uniform (callsAt handled.seats ((misnaming (.block "e" keyAndWord)).after .quiet).heard) ∧
      (misnaming (.block "e" keyAndWord)).answer = .error (.failure (.columnMismatch "e" keyAndValue "id,w")) := by
  have native : ∀ step ∈ announcing.1 ++ [misnaming (.block "e" keyAndWord)], step.foreign = false := by decide +kernel
  obtain ⟨uniform, refuses⟩ := handled_reachable.stays_uniform_iff
    (show act .quiet 0 (.subscribe .all) handled = (.ok (.number 1), watched) from Prod.ext rfl rfl)
    (run_misnaming (.block "e" keyAndWord)) (by decide +kernel) (fun step member _ _ => native step member)
  refine ⟨uniform.2 (by decide +kernel), ?_⟩
  have staged : ((announcing.2.origin.session 0).stages).isSome = true := by decide +kernel
  obtain ⟨stages, found⟩ := Option.isSome_iff_exists.1 staged
  exact (refuses _ (List.mem_append_right _ (List.mem_singleton_self _)) 0 _ stages keyAndValue keyAndWord rfl found trivial rfl
    (by decide +kernel) (by decide)).1

/-- A subscriber is told of an update under columns that were never announced to it. -/
theorem not_uniform : ¬∀ (c : Conduct) (s₀ s t : Site) (thread : Thread) (interest : Interest) (value : Answer) (steps : List Step),
    Reachable c s₀ → act c thread (.subscribe interest) s₀ = (.ok value, s) → Run c s steps t →
      (∀ step ∈ steps, step.action.isWhole = false) →
      (∀ step ∈ steps, ∀ number, (step.action.eventOf? number).isSome = true → step.foreign = false) →
      Uniform (callsAt s₀.seats t.heard) := by
  intro claim
  have native : ∀ step ∈ announcing.1 ++ [misnaming (.update "e" keyAndWord ⟨"1", "1,y", ∅⟩)], step.foreign = false := by
    decide +kernel
  have uniform := claim .quiet handled watched _ 0 .all (.number 1) _ handled_reachable (Prod.ext rfl rfl)
    (run_misnaming (.update "e" keyAndWord ⟨"1", "1,y", ∅⟩)) (by decide +kernel) (fun step member _ _ => native step member)
  have announced := uniform (callsAt handled.seats announcing.2.heard) (.update "e" keyAndWord ⟨"1", "1,y", ∅⟩) [] keyAndWord
    (by decide +kernel) rfl
  revert announced
  decide +kernel

end Site

end ReferenceFeed
