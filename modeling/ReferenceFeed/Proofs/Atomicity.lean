import ReferenceFeed.Proofs.Settlement

namespace ReferenceFeed

/-!
What a transaction leaves that does not commit: nothing that readers or senders can see, no hold on the fan-out, and a
cancel for everybody who had heard of it. A handle keeps this promise on the thread that started its transaction, and
on no other.
-/

namespace Site

/-- Nothing of a transaction is left, and whoever heard of it was told once, and last, that it is cancelled. -/
structure Untouched (s₀ s : Site) : Prop where
  unchanged : Unchanged s₀ s
  released : s.origin.fanout.transaction = s₀.origin.fanout.transaction
  cancelled : ∃ log, s.heard = s₀.heard ++ log ∧ ∀ seat, Cancelled seat (partOf seat log)

variable {c : Conduct} {s₀ s t : Site} {number : Nat} {owner thread : Thread} {steps : List Step} {action : Action}
  {answer : Except Fault Answer} {fault : Fault}

theorem Untouched.of_silence (unchanged : Unchanged s₀ s)
    (released : s.origin.fanout.transaction = s₀.origin.fanout.transaction) (heard : s.heard = s₀.heard) :
    Untouched s₀ s :=
  ⟨unchanged, released, [], heard.trans (List.append_nil _).symm, fun _ => .inl rfl⟩

theorem Abandoned.untouched {told : List Event} (abandoned : Abandoned s₀ told s)
    (closed : s₀.origin.fanout.transaction = none) : Untouched s₀ s := by
  obtain ⟨t, log, logs, lost, _, heard, audience, ended, _⟩ := abandoned.concluded.heard
  exact ⟨abandoned.unchanged, abandoned.concluded.closed.trans closed.symm, log ++ logs, heard, audience.cancelled ended⟩

/-- A whole transaction that fails or panics leaves nothing. If it did not get the fan-out, whoever has it keeps it. -/
theorem Sound.whole_untouched (sound : Sound s₀) (whole : action.isWhole = true)
    (fails : act c thread action s₀ = (.error fault, s)) : Untouched s₀ s := by
  have quiet : Untouched s₀ { s₀ with thread } := .of_silence ⟨rfl, rfl, rfl, rfl⟩ rfl rfl
  rw [act] at fails
  obtain ⟨α, operation, change, same, ⟨early, refused⟩ | ⟨producer, announces, runs⟩⟩ :=
    perform_whole (c := c) whole { s₀ with thread }
  · rw [same, Flow.effect_map, refused] at fails
    cases fails
    exact quiet
  · rw [same, Flow.effect_map, runs] at fails
    by_cases held : s₀.origin.fanout.isOpen = true
    · rw [effect_run_held (s := { s₀ with thread }) producer held] at fails
      cases fails
      exact .of_silence ⟨rfl, rfl, rfl, rfl⟩ rfl rfl
    · have closed : s₀.origin.fanout.transaction = none := by
        simpa [Fanout.isOpen] using held
      obtain ⟨taken, after, ⟨value, runs, _⟩ | ⟨cause, runs, abandoned, _⟩⟩ :=
        (sound.on thread).effect_run (c := c) (Bool.eq_false_iff.2 held) (brings_of_announcing announces)
      · rw [runs] at fails
        cases fails
      · rw [runs] at fails
        cases fails
        obtain ⟨unchanged, released, cancelled⟩ := abandoned.untouched closed
        exact ⟨⟨unchanged.settings, unchanged.live, unchanged.generation, unchanged.published⟩, released, cancelled⟩

theorem Underway.effect_dropping {taken told : List Event} (under : Underway s₀ number owner taken told s) (thread : Thread) :
    act c thread (.drop number) s = Flow.effect ((fun _ => Answer.done) <$> (wiring c).drop number) { s with thread } := by
  have present := present_of_holds (s := { s with thread }) under.holds
  simp only [act, perform, Flow.effect_bind, present]

/-- The owner of a transaction that does not commit ends it without a trace. -/
theorem Underway.ended {taken told : List Event} (under : Underway s₀ number owner taken told s)
    (ends : action.ends number = true) (uncommitted : action = .call number .finish → answer.isOk = false)
    (acts : act c owner action s = (answer, t)) : Abandoned s₀ told t := by
  have mine := under.on owner
  unfold Action.ends at ends
  split at ends
  · next other =>
    cases of_decide_eq_true ends
    rw [under.effect_call, Flow.effect_map] at acts
    rcases mine.finish (c := c) rfl with ⟨after, finished, _⟩ | ⟨entity, _, after, _, _, unfinished, abandoned, _⟩
    · rw [Origin.Wiring.receive, finished] at acts
      cases acts
      cases uncommitted rfl
    · rw [Origin.Wiring.receive, unfinished] at acts
      cases acts
      exact abandoned
  · next other =>
    cases of_decide_eq_true ends
    rw [under.effect_call, Flow.effect_map] at acts
    obtain ⟨after, cancelled, abandoned, _⟩ := mine.cancel (c := c) rfl
    rw [Origin.Wiring.receive, cancelled] at acts
    cases acts
    exact abandoned
  · next other =>
    cases of_decide_eq_true ends
    rw [under.effect_dropping, Flow.effect_map] at acts
    obtain ⟨after, dropped, abandoned⟩ := mine.drop (c := c) rfl
    rw [dropped] at acts
    cases acts
    exact abandoned
  · cases ends

/-- The owner of a transaction ends it with a commit that is answered well, or without a trace. -/
theorem Underway.concludes {taken told : List Event} (under : Underway s₀ number owner taken told s)
    (ends : action.ends number = true) (acts : act c owner action s = (answer, t)) :
    (action = .call number .finish ∧ answer.isOk = true) ∧ Landed s₀ taken told t ∨ Abandoned s₀ told t := by
  by_cases committed : action = .call number .finish ∧ answer.isOk = true
  · obtain ⟨rfl, well⟩ := committed
    rcases answer with fault | value
    · cases well
    · exact .inl ⟨⟨rfl, well⟩, (under.finish_answered acts).2⟩
  · exact .inr (under.ended ends (fun same => by simpa [same] using committed) acts)

/-- On another thread the end of a transaction puts the session to rest, but does not reach the fan-out. -/
theorem Underway.unreleased {taken told : List Event} (under : Underway s₀ number owner taken told s)
    (ends : action.ends number = true) (other : thread ≠ owner) (acts : act c thread action s = (answer, t)) :
    t.origin.fanout = s.origin.fanout ∧
      ∀ one, t.origin.session one = if number = one then {} else s.origin.session one := by
  have foreign := under.on thread
  unfold Action.ends at ends
  split at ends
  · cases of_decide_eq_true ends
    rw [under.effect_call, Flow.effect_map] at acts
    obtain ⟨after, refused, held, rested, _⟩ := foreign.finish_foreign (c := c) other
    rw [Origin.Wiring.receive, refused] at acts
    cases acts
    exact ⟨held, rested⟩
  · cases of_decide_eq_true ends
    rw [under.effect_call, Flow.effect_map, Origin.Wiring.receive, foreign.cancel_foreign (c := c) other] at acts
    cases acts
    exact ⟨rfl, fun one => session_keeping _ _ _ _⟩
  · cases of_decide_eq_true ends
    rw [under.effect_dropping, Flow.effect_map, foreign.drop_foreign (c := c) other] at acts
    cases acts
    exact ⟨rfl, fun one => session_forgetting _ _ _⟩
  · cases ends

theorem Underway.untouched_iff {taken told : List Event} (under : Underway s₀ number owner taken told s)
    (closed : s₀.origin.fanout.transaction = none) (ends : action.ends number = true)
    (uncommitted : action = .call number .finish → answer.isOk = false) (acts : act c thread action s = (answer, t)) :
    Untouched s₀ t ↔ thread = owner := by
  constructor
  · intro untouched
    by_contra other
    obtain ⟨u, _, held, _⟩ := under.audience
    have released := untouched.released
    rw [(under.unreleased ends other acts).1, held, closed] at released
    cases released
  · rintro rfl
    exact (under.ended ends uncommitted acts).untouched closed

/-- The thread that an open transaction belongs to. -/
def Owns (thread : Thread) (s : Site) : Prop := ∀ t, s.origin.fanout.transaction = some t → t.owner = thread

/-- As long as a session has something staged, only another thread is refused the end of the transaction. -/
theorem Sound.effect_complete (sound : Sound s) (holds : (s.origin.session number).holds = true) {u : Site}
    (fanout : u.origin.fanout = s.origin.fanout) (signal : Signal) :
    (∃ after, Flow.effect ((wiring c).fanout.complete signal) u = (.ok (), after)) ∨
      Flow.effect ((wiring c).fanout.complete signal) u = (.error (.failure (.violation .foreignThread)), u) ∧
        ¬Owns u.thread s := by
  obtain ⟨t, held⟩ := Option.isSome_iff_exists.1 (sound.claimed number holds)
  have owned : u.origin.fanout.owned u.thread = if t.owner = u.thread then .ok t else .error (.violation .foreignThread) :=
    owned_iff (fanout ▸ held)
  by_cases mine : t.owner = u.thread
  · rw [if_pos mine] at owned
    obtain ⟨log, lost, _, effect⟩ := Site.effect_complete c signal owned
    exact .inl ⟨_, effect⟩
  · rw [if_neg mine] at owned
    exact .inr ⟨effect_complete_refused c signal owned, fun owns => mine (owns t held)⟩

/-- Why a commit can fail: it was not started, a marker has no block, or it is asked for by the wrong thread. No stage
that a handle can build is refused by a store. -/
theorem Sound.finish_fails (sound : Sound s) (begun : s.origin.sessions.contains number = true)
    (fails : act c thread (.call number .finish) s = (.error fault, t)) :
    fault = .failure (.violation .finishWithoutStart) ∧ (s.origin.session number).stages = none ∨
      (∃ stages entity, (s.origin.session number).stages = some stages ∧ stages.unbegun? = some entity ∧
        fault = .failure (.violation (.markerWithoutBlock entity))) ∨
      fault = .failure (.violation .foreignThread) ∧ ¬Owns thread s := by
  have present : Flow.effect (Site.present number) { s with thread } = (.ok (), { s with thread }) := by
    simp only [Site.present, Flow.effect_bind, Flow.effect_get, Flow.effect_ofExcept, if_pos begun]
    rfl
  simp only [act, Site.perform, Flow.effect_bind, present, Flow.effect_map, Origin.Wiring.receive] at fails
  rcases ends : Flow.effect ((wiring c).finish number) { s with thread } with ⟨cause | done, after⟩
  · rw [ends] at fails
    cases fails
    rw [effect_finish] at ends
    rcases staged : (s.origin.session number).stages with _ | stages
    · simp only [staged] at ends
      cases ends
      exact .inl ⟨rfl, rfl⟩
    · have holds := sound.holds_of_stages staged
      simp only [staged] at ends
      rcases unbegun : stages.unbegun? with _ | entity
      · -- Stages that reflect events can always be committed, so only the fan-out can refuse.
        obtain ⟨taken, reflect⟩ := sound.staged number stages staged
        obtain ⟨next, prepared, commits, _⟩ := reflect.commit
        simp only [unbegun, show Stages.commit s.origin.live stages.toList = (next, .ok prepared) from commits] at ends
        rcases sound.effect_complete (c := c) holds
          (u := (({ s with thread } : Site).committing next prepared).keeping number {}) rfl .finish with ⟨_, well⟩ | ⟨refused, other⟩
        · cases ends.symm.trans well
        · cases ends.symm.trans refused
          exact .inr (.inr ⟨rfl, other⟩)
      · -- A marker without a block is reported to the owner; anybody else is refused for its thread before that.
        simp only [unbegun] at ends
        rcases sound.effect_complete (c := c) holds (u := ({ s with thread } : Site).keeping number {}) rfl .cancel
          with ⟨_, well⟩ | ⟨refused, other⟩
        · rw [well] at ends
          cases ends
          exact .inr (.inl ⟨stages, entity, rfl, unbegun, rfl⟩)
        · rw [refused] at ends
          cases ends
          exact .inr (.inr ⟨rfl, other⟩)
  · rw [ends] at fails
    cases fails

/-- A transaction that does not commit leaves no trace, if it is a whole operation, or if its handle is ended on the
thread that started it, and only then. On that thread a commit fails for nothing but a missing start or a marker
without its block. -/
theorem Reachable.leaves_no_trace (reach : Reachable c s₀) :
    (∀ (thread : Thread) (action : Action) (fault : Fault) (s : Site), action.isWhole = true →
      act c thread action s₀ = (.error fault, s) → Untouched s₀ s) ∧
    (∀ (owner thread : Thread) (number : Nat) (steps : List Step) (s t : Site) (action : Action) (answer : Except Fault Answer),
      Transacting c owner number s₀ steps s → action.ends number = true →
      (action = .call number .finish → answer.isOk = false) → act c thread action s = (answer, t) →
        (Untouched s₀ t ↔ thread = owner)) ∧
    ∀ (thread : Thread) (number : Nat) (fault : Fault) (t : Site), s₀.origin.sessions.contains number = true →
      Owns thread s₀ → act c thread (.call number .finish) s₀ = (.error fault, t) →
        fault = .failure (.violation .finishWithoutStart) ∨
          ∃ entity, fault = .failure (.violation (.markerWithoutBlock entity)) := by
  refine ⟨fun thread action fault s whole fails => reach.sound.whole_untouched whole fails, ?_, ?_⟩
  · intro owner thread number steps s t action answer transacting ends uncommitted acts
    obtain ⟨closed, _, under⟩ := reach.sound.transacting transacting
    exact under.untouched_iff closed ends uncommitted acts
  · intro thread number fault t begun owns fails
    rcases reach.sound.finish_fails begun fails with ⟨missing, _⟩ | ⟨_, entity, _, _, marker⟩ | ⟨_, other⟩
    · exact .inl missing
    · exact .inr ⟨entity, marker⟩
    · exact absurd owns other

/-- A site where somebody wants to hear of everything, and a session has started nothing yet. -/
def attended : Site := (enact .quiet {} [(0, .subscribe .all), (0, .begin)]).2

/-- Something is announced there, and the handle goes away. -/
def announced : List Step × Site :=
  enact .quiet (act .quiet 0 (.call 0 .start) attended).2 [(0, .call 0 (.event (.reload "e" keyAndValue)))]

theorem untouched_dropped : Untouched attended (act .quiet 0 (.drop 0) announced.2).2 ∧
    (partOf 0 (act .quiet 0 (.drop 0) announced.2).2.heard).map Heard.signal =
      [.start, .event (.reload "e" keyAndValue), .cancel] := by
  have reach : Reachable .quiet attended := Run.reachable (run_enact ..) (.fresh {} {})
  have transacting : Transacting .quiet 0 0 attended announced.1 announced.2 := ⟨⟨.done, _, rfl, run_enact ..⟩, by decide⟩
  have ended := reach.leaves_no_trace.2.1 0 0 0 _ _ _ (.drop 0) (.ok .done) transacting (by decide) (fun same => by cases same) rfl
  exact ⟨ended.2 rfl, by decide⟩

/-- A commit that another thread asks for is applied, counted and sent, and then fails. -/
theorem not_untouched_finish : ¬∀ (c : Conduct) (s₀ s t : Site) (owner thread : Thread) (number : Nat) (steps : List Step)
    (fault : Fault), Reachable c s₀ → Transacting c owner number s₀ steps s →
      act c thread (.call number .finish) s = (.error fault, t) → Untouched s₀ t := by
  intro claim
  have untouched := claim .quiet handled (brought 0).2 (act .quiet 1 (.call 0 .finish) (brought 0).2).2 0 1 0 (brought 0).1
    (.failure (.violation .foreignThread)) handled_reachable ⟨⟨.done, _, rfl, run_enact ..⟩, by decide⟩ rfl
  have counted : (act .quiet 1 (.call 0 .finish) (brought 0).2).2.origin.generation = 1 := by decide
  exact absurd (counted.symm.trans untouched.unchanged.generation) (by decide)

end Site

end ReferenceFeed
