import ReferenceFeed.Proofs.Underway

namespace ReferenceFeed

/-!
The course of a transaction through the calls of its handle, while everybody else may ask for anything. An event is
accepted if its call is answered well. An event that only the fan-out refuses, because of its thread, is taken in
although it is not accepted.
-/

namespace Site

namespace Step

/-- The event that a step brings to a transaction, as it is staged and told. -/
def announced (settings : OriginSettings) (number : Nat) (step : Step) : Option Event :=
  (step.action.eventOf? number).bind fun event => (event.completed settings).toOption

/-- Whether a call was refused because of its thread. -/
def foreign (step : Step) : Bool :=
  match step.answer with
  | .error (.failure (.violation .foreignThread)) => true
  | _ => false

end Step

/-- The events that a transaction was brought by calls that were answered well. -/
def accepted (settings : OriginSettings) (number : Nat) (steps : List Step) : List Event :=
  steps.filterMap fun step => if step.answer.isOk then step.announced settings number else none

/-- The events that a transaction has taken in. -/
def takenIn (settings : OriginSettings) (number : Nat) (steps : List Step) : List Event :=
  steps.filterMap fun step => if step.answer.isOk || step.foreign then step.announced settings number else none

theorem accepted_append (settings : OriginSettings) (number : Nat) (steps : List Step) (step : Step) :
    accepted settings number (steps ++ [step]) = accepted settings number steps ++ accepted settings number [step] :=
  List.filterMap_append

theorem takenIn_append (settings : OriginSettings) (number : Nat) (steps : List Step) (step : Step) :
    takenIn settings number (steps ++ [step]) = takenIn settings number steps ++ takenIn settings number [step] :=
  List.filterMap_append

/-- Without calls from the wrong thread, what is taken in is what is accepted. -/
theorem takenIn_eq_accepted {settings : OriginSettings} {number : Nat} {steps : List Step}
    (native : ∀ step ∈ steps, (step.action.eventOf? number).isSome = true → step.foreign = false) :
    takenIn settings number steps = accepted settings number steps := by
  refine List.filterMap_congr fun step member => ?_
  rcases brought : step.action.eventOf? number with _ | event
  · simp [Step.announced, brought]
  · simp [native step member (by rw [brought]; rfl)]

variable {c : Conduct} {s₀ s t : Site} {number : Nat} {owner : Thread} {taken told : List Event}

theorem present_of_holds (holds : (s.origin.session number).holds = true) :
    Flow.effect (Site.present number) s = (.ok (), s) := by
  have begun : s.origin.sessions.contains number = true := by
    rw [Std.ExtTreeMap.contains_eq_isSome_getElem?]
    rcases found : s.origin.sessions[number]? with _ | session
    · rw [Origin.session, found] at holds
      cases holds
    · rfl
  simp only [Site.present, Flow.effect_bind, Flow.effect_get, Flow.effect_ofExcept, if_pos begun]
  rfl

theorem Underway.holds (under : Underway s₀ number owner taken told s) : (s.origin.session number).holds = true := by
  obtain ⟨stages, session, _⟩ := under.staged
  rw [session]

theorem Underway.on (under : Underway s₀ number owner taken told s) (thread : Thread) :
    Underway s₀ number owner taken told { s with thread } := under.aside ⟨rfl, rfl, rfl, rfl, rfl, rfl, rfl⟩

/-- How an accepted call for a session is answered: as the handle answers. -/
theorem Underway.effect_call (under : Underway s₀ number owner taken told s) (thread : Thread) (signal : Signal) :
    act c thread (.call number signal) s =
      Flow.effect ((fun _ => Answer.done) <$> (wiring c).receive number signal) { s with thread } := by
  have present := present_of_holds (s := { s with thread }) under.holds
  simp only [act, perform, Flow.effect_bind, present]

/-- Whatever is asked of a site, short of ending a transaction, leaves it underway. -/
theorem Underway.step (under : Underway s₀ number owner taken told s) (sound : Sound s) (thread : Thread) {action : Action}
    (unending : action.ends number = false) {answer : Except Fault Answer} (acts : act c thread action s = (answer, t)) :
    Underway s₀ number owner (taken ++ takenIn s₀.origin.settings number [⟨s, thread, action, answer⟩])
      (told ++ accepted s₀.origin.settings number [⟨s, thread, action, answer⟩]) t := by
  rcases brought : action.eventOf? number with _ | event
  · have aside := (sound.on thread).aside (c := c) under.holds unending brought
    change Flow.effect (perform c action) { s with thread } = (answer, t) at acts
    rw [acts] at aside
    simpa [takenIn, accepted, Step.announced, brought] using (under.on thread).aside aside
  · cases Action.eq_of_eventOf brought
    rw [under.effect_call, Flow.effect_map] at acts
    change (((Flow.effect ((wiring c).event number event) { s with thread }).1.map fun _ => Answer.done),
      (Flow.effect ((wiring c).event number event) { s with thread }).2) = (answer, t) at acts
    -- An event is refused for itself, taken in and told, or taken in and refused for its thread.
    rcases (under.on thread).event (c := c) event with ⟨cause, other, refused⟩ | ⟨amended, after, complete, outcome, _⟩
    · rw [refused] at acts
      cases acts
      have nothing : Step.foreign ⟨s, thread, .call number (.event event), .error (.failure cause)⟩ = false := by
        unfold Step.foreign
        split
        · next same =>
          cases same
          exact absurd rfl other
        · rfl
      simpa [takenIn, accepted, Except.map, nothing, Except.isOk, Except.toBool] using under.on thread
    · rcases outcome with ⟨_, effect, under⟩ | ⟨_, effect, under⟩
      · rw [effect] at acts
        cases acts
        simpa [takenIn, accepted, Except.map, Except.isOk, Except.toBool, Step.announced, Action.eventOf?, complete,
          Except.toOption] using under
      · rw [effect] at acts
        cases acts
        simpa [takenIn, accepted, Except.map, Except.isOk, Except.toBool, Step.announced, Step.foreign, Action.eventOf?,
          complete, Except.toOption] using under

theorem Underway.run {steps : List Step} (run : Run c s steps t) (under : Underway s₀ number owner taken told s) (sound : Sound s)
    (unending : ∀ step ∈ steps, step.action.ends number = false) :
    Underway s₀ number owner (taken ++ takenIn s₀.origin.settings number steps)
      (told ++ accepted s₀.origin.settings number steps) t ∧ Sound t := by
  induction run with
  | start => exact ⟨by simpa [takenIn, accepted] using under, sound⟩
  | @next steps u thread action answer v previous acts ih =>
    obtain ⟨before, sound⟩ := ih fun step member => unending step (List.mem_append_left _ member)
    have calm := unending _ (List.mem_append_right _ (List.mem_singleton_self _))
    have after := before.step sound thread calm acts
    rw [List.append_assoc, List.append_assoc, ← takenIn_append, ← accepted_append] at after
    have same : v = (act c thread action u).2 := by rw [acts]
    exact ⟨after, same ▸ Sound.perform c action _ (sound.on thread)⟩

/-- A handle has started a transaction, and has not ended it yet. -/
structure Transacting (c : Conduct) (owner : Thread) (number : Nat) (s₀ : Site) (steps : List Step) (s : Site) : Prop where
  begun : ∃ answer after, act c owner (.call number .start) s₀ = (.ok answer, after) ∧ Run c after steps s
  unending : ∀ step ∈ steps, step.action.ends number = false

theorem Sound.transacting (sound : Sound s₀) {steps : List Step} (transacting : Transacting c owner number s₀ steps s) :
    s₀.origin.fanout.transaction = none ∧ Sound s ∧
      Underway s₀ number owner (takenIn s₀.origin.settings number steps) (accepted s₀.origin.settings number steps) s := by
  obtain ⟨⟨answer, after, starts, run⟩, unending⟩ := transacting
  have next_sound : Sound after := sound.answered starts
  rcases (sound.on owner).calls (c := c) number .start with ⟨_, goes⟩ | absent
  · rw [act, goes] at starts
    rcases started : Flow.effect ((wiring c).receive number .start) { s₀ with thread := owner } with ⟨fault | done, u⟩
    · rw [started] at starts
      cases starts
    · rw [started] at starts
      cases starts
      obtain ⟨closed, _, under⟩ := (sound.on owner).underway started
      have opened : Underway s₀ number owner [] [] u :=
        ⟨⟨under.unchanged.settings, under.unchanged.live, under.unchanged.generation, under.unchanged.published⟩,
          under.staged, under.audience⟩
      obtain ⟨now, sound⟩ := opened.run run next_sound unending
      exact ⟨closed, sound, now⟩
  · rw [act, absent] at starts
    cases starts

/-- While the owner announces events, all that is taken in is told. -/
theorem Underway.announcing {α : Type} {producer : Flow Site α} (announces : Announces c number producer)
    (under : Underway s₀ number s.thread taken taken s) :
    (Flow.effect producer s).2.thread = s.thread ∧
      ∃ taken, Underway s₀ number s.thread taken taken (Flow.effect producer s).2 := by
  refine announces (fun u => u.thread = s.thread ∧ ∃ taken, Underway s₀ number s.thread taken taken u) ?_ s ⟨rfl, taken, under⟩
  rintro event u ⟨mine, taken, under⟩
  rcases under.event (c := c) event with ⟨cause, _, refused⟩ | ⟨amended, after, _, outcome, same⟩
  · rw [refused]
    exact ⟨mine, taken, under⟩
  · rcases outcome with ⟨_, effect, next⟩ | ⟨other, _⟩
    · rw [effect]
      exact ⟨same.trans mine, _, next⟩
    · exact absurd mine other

/-- A transaction of a session that has just begun. -/
structure Begun (s : Site) (number : Nat) (u : Site) : Prop where
  under : Underway s number s.thread [] [] u
  thread : u.thread = s.thread
  catalogue : u.catalogue = s.catalogue
  session : u.origin.session number = ⟨some ∅, true⟩

/-- What was announced in a transaction, where that ended well and where it failed. -/
def Brought (s : Site) (Well Ill : List Event → Prop) (number : Nat) {γ : Type} (outcome : Except Fault γ × Site) : Prop :=
  ∃ taken, outcome.2.thread = s.thread ∧ Underway s number s.thread taken taken outcome.2 ∧
    match outcome.1 with
    | .ok _ => Well taken
    | .error _ => Ill taken

/-- What a producer announces in a transaction that has just begun. -/
def Brings (s : Site) (Well Ill : List Event → Prop) (γ : Type) (producer : Nat → Flow Site γ) : Prop :=
  ∀ number u, Begun s number u → Brought s Well Ill number (Flow.effect (producer number) u)

variable {α : Type} {producer : Nat → Flow Site α} {Well Ill : List Event → Prop}

theorem brings_of_announcing (announces : Announcing c α producer) : Brings s (fun _ => True) (fun _ => True) α producer := by
  intro number u begun
  obtain ⟨mine, taken, under⟩ := (begun.thread.symm ▸ begun.under).announcing (announces number)
  rw [begun.thread] at mine under
  refine ⟨taken, mine, under, ?_⟩
  split <;> trivial

/-- A producer that fails, and with it the transaction; or one that leaves a marker without its block. -/
def Spoiled (Well Ill : List Event → Prop) (taken : List Event) : Prop :=
  Ill taken ∨ Well taken ∧ ∃ entity marker, Event.isMarker marker = true ∧ concerning entity taken = [marker]

/-- How a producer ends within a transaction. Only a panic leaves the transaction to the session that is dropped. -/
theorem Sound.effect_within (sound : Sound s) (free : s.origin.fanout.isOpen = false)
    (fresh : s.origin.session number = {}) (brings : Brings s Well Ill α producer) :
    ∃ taken after,
      (∃ value, Flow.effect (within c number (producer number)) s = (.ok value, after) ∧
        Landed s taken taken after ∧ after.origin.session number = {} ∧ Well taken) ∨
      ∃ fault, Flow.effect (within c number (producer number)) s = (.error fault, after) ∧ Spoiled Well Ill taken ∧
        (Abandoned s taken after ∧ after.origin.session number = {} ∨
          after.thread = s.thread ∧ Underway s number s.thread taken taken after) := by
  rcases started : Flow.effect ((wiring c).start number) s with ⟨fault | done, u⟩
  · rw [effect_start, fresh, free] at started
    cases started
  · obtain ⟨_, thread, under⟩ := sound.underway started
    have shape := started
    rw [effect_start, fresh, free] at shape
    have begun : Begun s number u := by
      refine ⟨under, thread, ?_, ?_⟩
      · rw [← (Prod.mk.inj shape).2]
        rfl
      · rw [← (Prod.mk.inj shape).2]
        exact (session_keeping _ _ _ _).trans (if_pos rfl)
    obtain ⟨taken, mine, under, result⟩ := brings number u begun
    simp only [within, Flow.effect_bind, started, Flow.effect_attempt]
    -- An error of the producer cancels the transaction, a panic leaves it open, a value is followed by the commit.
    rcases produced : Flow.effect (producer number) u with ⟨(cause | message) | value, v⟩
    · rw [produced] at mine under result
      obtain ⟨after, cancelled, abandoned, rested⟩ := under.cancel (c := c) mine
      refine ⟨taken, after, .inr ⟨.failure cause, ?_, .inl result, .inl ⟨abandoned, rested⟩⟩⟩
      simp only [Flow.effect_bind, Flow.effect_attempt, cancelled]
      rfl
    · rw [produced] at mine under result
      exact ⟨taken, v, .inr ⟨.panic message, rfl, .inl result, .inr ⟨mine, under⟩⟩⟩
    · rw [produced] at mine under result
      rcases under.finish (c := c) mine
        with ⟨after, finished, landed, rested⟩ | ⟨entity, marker, after, marks, alone, unfinished, abandoned, rested⟩
      · refine ⟨taken, after, .inl ⟨value, ?_, landed, rested, result⟩⟩
        simp only [Flow.effect_bind, finished]
        rfl
      · refine ⟨taken, after, .inr ⟨.failure (.violation (.markerWithoutBlock entity)), ?_,
          .inr ⟨result, entity, marker, marks, alone⟩, .inl ⟨abandoned, rested⟩⟩⟩
        simp only [Flow.effect_bind, unfinished]

/-- A whole transaction that gets the fan-out takes effect if it is answered well, and else does not. -/
theorem Sound.effect_run (sound : Sound s) (free : s.origin.fanout.isOpen = false)
    (brings : Brings s.begun Well Ill α producer) :
    ∃ taken after,
      (∃ value, Flow.effect ((wiring c).run producer) s = (.ok value, after) ∧ Landed s taken taken after ∧ Well taken) ∨
      ∃ fault, Flow.effect ((wiring c).run producer) s = (.error fault, after) ∧ Abandoned s taken after ∧
        Spoiled Well Ill taken := by
  have begun : Sound s.begun := (sound.begin (c := c)).1
  have fresh := session_begun_own s
  have resting : ∀ after : Site, after.origin.session s.origin.nextSession = {} →
      Flow.effect ((wiring c).drop s.origin.nextSession) after = (.ok (), after.forgetting s.origin.nextSession) := by
    intro after rested
    rw [effect_drop, rested]
    rfl
  rw [Site.effect_run, Flow.effect_ensuring]
  obtain ⟨taken, after, ⟨value, ends, landed, rested, well⟩ | ⟨fault, ends, ill, ⟨abandoned, rested⟩ | ⟨mine, under⟩⟩⟩ :=
    begun.effect_within (c := c) free fresh brings
  · have dropped := resting after rested
    exact ⟨taken, _, .inl ⟨value, by simp only [ends, dropped], landed.of_begun.forgetting s.origin.nextSession, well⟩⟩
  · have dropped := resting after rested
    exact ⟨taken, _, .inr ⟨fault, by simp only [ends, dropped], abandoned.of_begun.forgetting s.origin.nextSession, ill⟩⟩
  · obtain ⟨ended, dropped, abandoned⟩ := under.drop (c := c) mine
    exact ⟨taken, ended, .inr ⟨fault, by simp only [ends, dropped], abandoned.of_begun, ill⟩⟩

end Site

end ReferenceFeed
