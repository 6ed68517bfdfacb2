import ReferenceFeed.Proofs.Reach

namespace ReferenceFeed

/-!
What is heard at the seats. Whatever is asked of a site, it only ever makes calls to seats, and each of them is
answered as the one who sits there answers at that moment.
-/

namespace Site

/-- A property that depends on what was heard, and survives every call. -/
structure Audible (c : Conduct) (P : Site → Prop) : Prop where
  calls : ∀ s seat signal, P s → P (s.hearing [⟨seat, signal, c.answer s seat signal⟩])
  same : ∀ s t : Site, t.heard = s.heard → P s → P t

variable {c : Conduct} {P : Site → Prop} {α : Type}

namespace Audible

theorem of_heard (audible : Audible c P) {step : Flow Site α} (same : ∀ s, (Flow.effect step s).2.heard = s.heard) :
    Flow.Keeps P step := fun s holds => audible.same s _ (same s) holds

theorem call (audible : Audible c P) (seat : Nat) (signal : Signal) : Flow.Keeps P (Site.call c seat signal) := by
  intro s holds
  rw [effect_call]
  exact audible.calls s seat signal holds

theorem outcome {step : Flow Site α} (keeps : Flow.Keeps P step) : Flow.Keeps P (Flow.outcome step) := by
  intro s holds
  rw [Flow.effect_outcome]
  exact keeps s holds

theorem drop (audible : Audible c P) (sub : Subscriber Nat) (cause : Failure) (tell : Bool) :
    Flow.Keeps P ((wiring c).fanout.drop sub cause tell) := by
  refine .bind (audible.of_heard fun _ => rfl) fun _ => .bind (audible.of_heard fun _ => rfl) fun _ => ?_
  split
  · refine .bind (outcome (audible.call _ _)) fun result => ?_
    rcases result with fault | _
    · exact audible.of_heard fun _ => rfl
    · exact .pure _
  · exact .pure _

theorem hear (audible : Audible c P) (sub : Subscriber Nat) (calls : List Signal) (tell : Bool) :
    Flow.Keeps P ((wiring c).fanout.hear sub calls tell) := by
  refine .bind (outcome (.forM fun signal _ => audible.call _ _)) fun result => ?_
  rcases result with fault | _
  · exact audible.drop _ _ _
  · exact .pure _

theorem deliver (audible : Audible c P) (event : Event) : Flow.Keeps P ((wiring c).fanout.deliver event) := by
  refine .bind (audible.of_heard fun _ => rfl) fun thread => .bind (audible.of_heard fun s => ?_) fun targets => ?_
  · rw [Place.effect_attempt]
    split <;> rfl
  · refine .bind (audible.of_heard fun _ => rfl) fun _ => .forM fun target _ => ?_
    exact .bind (audible.hear _ _ _) fun _ => .pure _

theorem complete (audible : Audible c P) (signal : Signal) : Flow.Keeps P ((wiring c).fanout.complete signal) := by
  refine .bind (audible.of_heard fun _ => rfl) fun thread => .bind (audible.of_heard fun _ => rfl) fun f => ?_
  refine .bind (.ofExcept _) fun audience => .bind (audible.of_heard fun _ => rfl) fun _ => ?_
  refine .bind (.forM fun sub _ => audible.hear _ _ _) fun _ => .bind (audible.of_heard fun s => ?_) fun _ => ?_
  · rw [effect_close]
    rfl
  · exact .forM fun sub _ => .pure _

theorem start (audible : Audible c P) (number : Nat) : Flow.Keeps P ((wiring c).start number) := by
  refine audible.of_heard fun s => ?_
  rw [effect_start]
  repeat' split
  all_goals rfl

theorem event (audible : Audible c P) (number : Nat) (event : Event) : Flow.Keeps P ((wiring c).event number event) := by
  intro s holds
  rw [effect_event]
  split
  · exact holds
  · exact audible.deliver _ _ (audible.same s _ rfl holds)

theorem cancel (audible : Audible c P) (number : Nat) : Flow.Keeps P ((wiring c).cancel number) := by
  intro s holds
  rw [effect_cancel]
  split
  · exact holds
  · exact audible.complete _ _ (audible.same s _ rfl holds)

theorem finish (audible : Audible c P) (number : Nat) : Flow.Keeps P ((wiring c).finish number) := by
  intro s holds
  rw [effect_finish_state]
  split
  · exact holds
  · split
    · exact audible.complete _ _ (audible.same s _ rfl holds)
    · split
      · exact audible.complete _ _ (audible.same s _ rfl holds)
      · exact audible.complete _ _ (audible.same s _ rfl holds)

theorem dropSession (audible : Audible c P) (number : Nat) : Flow.Keeps P ((wiring c).drop number) := by
  intro s holds
  have gone : P (s.forgetting number) := audible.same s _ rfl holds
  rw [effect_drop_state]
  split
  · exact audible.complete .cancel _ gone
  · exact gone

theorem handling (audible : Audible c P) : Handling c P fun _ => P where
  begins s holds := audible.same s _ rfl holds
  starts := audible.start
  hears := audible.event
  finishes := audible.finish
  cancels := audible.cancel
  drops number s holds := audible.dropSession number s holds

theorem replay (audible : Audible c P) (seat : Nat) (entities : List String) :
    Flow.Keeps P ((wiring c).replay seat entities) := by
  unfold Origin.Wiring.replay
  split
  · exact .pure _
  · refine .bind (audible.call _ _) fun _ => .bind (.attempt (.forM fun entity _ => ?_)) fun shown => ?_
    · refine .bind (audible.of_heard fun s => ?_) fun store => .forM fun event _ => audible.call _ _
      simp only [Origin.Wiring.ask, Flow.effect_bind, Place.effect_read, Flow.effect_ofExcept]
    · rcases shown with cause | _
      · refine .bind (.attempt (audible.call _ _)) fun result => ?_
        rcases result with again | _
        · exact .bind (audible.of_heard fun _ => rfl) fun _ => .fail _
        · exact .fail _
      · exact audible.call _ _

theorem subscribe (audible : Audible c P) (interest : Interest) (seat : Nat) :
    Flow.Keeps P ((wiring c).subscribe interest seat) := by
  refine .bind (audible.of_heard fun _ => rfl) fun o => .bind (audible.of_heard fun _ => rfl) fun f => ?_
  refine .bind (.ofExcept _) fun _ => .bind (audible.of_heard fun _ => rfl) fun thread => ?_
  refine .bind (audible.of_heard fun _ => rfl) fun _ => .ensuring ?_ (audible.of_heard fun s => ?_)
  · refine .bind (audible.replay _ _) fun _ => .bind (audible.of_heard fun _ => rfl) fun f => ?_
    exact .bind (audible.of_heard fun _ => rfl) fun _ => .pure _
  · rw [effect_close]
    rfl

/-- What survives calls survives whatever is asked of a site. -/
theorem perform (audible : Audible c P) (action : Action) : Flow.Keeps P (Site.perform c action) := by
  by_cases isWhole : action.isWhole = true
  · exact audible.handling.whole isWhole
  · cases action with
    | begin => exact .bind (audible.of_heard fun _ => rfl) fun _ => .pure _
    | call number signal =>
      refine .bind (audible.of_heard fun s => ?_) fun _ => .bind ?_ fun _ => .pure _
      · simp only [present, Flow.effect_bind, Flow.effect_get, Flow.effect_ofExcept]
      · cases signal with
        | start => exact audible.start number
        | event event => exact audible.event number event
        | finish => exact audible.finish number
        | cancel => exact audible.cancel number
    | drop number =>
      refine .bind (audible.of_heard fun s => ?_) fun _ => .bind (audible.dropSession number) fun _ => .pure _
      simp only [present, Flow.effect_bind, Flow.effect_get, Flow.effect_ofExcept]
    | subscribe interest =>
      exact .bind (audible.of_heard fun _ => rfl) fun seat => .bind (audible.subscribe _ _) fun _ => .pure _
    | unsubscribe id =>
      refine .bind (audible.of_heard fun s => ?_) fun _ => .pure _
      rw [effect_unsubscribe]
      split <;> rfl
    | register sender => exact .bind (audible.of_heard fun _ => rfl) fun _ => .pure _
    | mutate change =>
      refine audible.of_heard fun s => ?_
      simp only [Site.perform, Flow.effect_bind, Flow.effect_get, Flow.effect_set, Flow.effect_map, Flow.effect_ofExcept]
    | reload | reloadAll | reloadGroup | refresh | refreshNamed | applyRows | republish => exact absurd rfl isWhole

theorem run (audible : Audible c P) {s t : Site} {steps : List Step} (run : Run c s steps t) (holds : P s) : P t :=
  run.kept P holds (fun _ _ => trivial) fun step _ before => audible.perform step.action _ (audible.same step.before _ rfl before)

end Audible

/-- Nothing that was heard is ever forgotten. -/
theorem audible_continues (c : Conduct) (log : List Heard) : Audible c fun s => log <+: s.heard where
  calls _ _ _ before := before.trans (List.prefix_append _ _)
  same _ _ heard before := heard ▸ before

/-- All answers are those that were given when the calls were made. -/
def Truthful (c : Conduct) (s : Site) : Prop :=
  ∀ before h after, s.heard = before ++ h :: after → ∃ site : Site, site.heard = before ∧ h.answer = c.answer site h.seat h.signal

theorem audible_truthful (c : Conduct) : Audible c (Truthful c) where
  calls s seat signal truthful := by
    intro before h after split
    rcases List.eq_nil_or_concat after with rfl | ⟨rest, last, rfl⟩
    · obtain ⟨same, rfl⟩ := List.append_inj' split rfl |>.imp_right List.singleton_inj.1
      exact ⟨s, same, rfl⟩
    · rw [List.concat_eq_append, ← List.cons_append, ← List.append_assoc] at split
      exact truthful before h rest (List.append_inj' split rfl).1
  same s t heard truthful := by
    intro before h after split
    exact truthful before h after (heard ▸ split)

theorem Reachable.truthful {c : Conduct} {s : Site} (reach : Reachable c s) : Truthful c s := by
  induction reach with
  | fresh settings catalogue =>
    intro before h after split
    simp at split
  | @next s thread action _ truthful =>
    exact (audible_truthful c).perform action { s with thread } ((audible_truthful c).same s _ rfl truthful)
  | @put s entity store entry _ found truthful => exact (audible_truthful c).same s _ rfl truthful
  | @remove s entity store id _ found truthful => exact (audible_truthful c).same s _ rfl truthful

end Site

end ReferenceFeed
