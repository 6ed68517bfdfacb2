import ReferenceFeed.Proofs.Following
import ReferenceFeed.Proofs.Station

namespace ReferenceFeed

/-!
How the life of a replica ends. A cancel ends it while a transaction is open, and then nothing that arrives is
accepted or changes what readers see; a call that needs an open transaction and finds none has no effect at all.
-/

namespace Replica

variable {ρ ω : Type} {r : Replica ρ ω}

/-- What is the matter with an event before anything is said about transactions. -/
def misplaced (r : Replica ρ ω) (event : Event) (cause : Failure) : Failure :=
  if event.entity = r.entity then cause else .violation (.wrongEntity event.entity r.entity)

theorem receive_misplaced {event : Event} {cause : Failure} (closed : r.staging = .error cause) :
    r.receive (.event event) = ⟨.error (r.misplaced event cause), r, none, []⟩ := by
  have refused : r.event event = .error (r.misplaced event cause) := by
    unfold Replica.event checkEntity misplaced
    split
    · simp only [closed, bind, Except.bind]
    · rfl
  rw [receive, refused]

theorem staging_of_phase (closed : ∀ staging, r.phase ≠ .opened staging) : ∃ cause, r.staging = .error cause := by
  unfold Replica.staging
  rcases phase : r.phase with _ | staging | _
  · exact ⟨_, rfl⟩
  · exact absurd phase (closed staging)
  · exact ⟨_, rfl⟩

end Replica

namespace Station

variable {ρ : Type} {react : Reaction ρ} {s t u : Station ρ} {steps earlier later : List (Step ρ)} {step : Step ρ}
  {action : Action} {answer : Except Fault Unit}

/-- Whether a step cancels an open transaction: from outside, or because a record of a payload is refused. -/
def Step.Cancels (step : Step ρ) : Prop :=
  match step.action with
  | .arrive (.signal .cancel) => ∃ staging, step.before.replica.phase = .opened staging
  | .arrive (.payload text _) =>
    step.before.replica.phase = .idle ∧ (∃ payload, Payload.read text = .ok payload) ∧ ∃ fault, step.answer = .error fault
  | _ => False

/-- Whether a step needs an open transaction and finds none. -/
def Step.Untimely (step : Step ρ) : Prop :=
  (∀ staging, step.before.replica.phase ≠ .opened staging) ∧
    ∃ signal, step.action = .arrive (.signal signal) ∧ signal ≠ .start

/-- What has to be refused because the replica of an entity is poisoned, and how. -/
def Step.Refused (entity : String) (step : Step ρ) : Prop :=
  match step.action with
  | .arrive (.signal (.event event)) =>
    step.answer = .error (.failure
      (if event.entity = entity then .poisoned (.refusing entity) else .violation (.wrongEntity event.entity entity)))
  | .arrive (.signal _) => step.answer = .error (.failure (.poisoned (.refusing entity)))
  | .arrive (.payload text _) =>
    ∀ payload, Payload.read text = .ok payload → step.answer = .error (.failure (.poisoned (.refusing entity)))
  | .join | .leave _ => True

/-- A replica that is poisoned refuses what arrives, and nobody notices it. -/
theorem act_poisoned (poisoned : s.replica.phase = .poisoned) (acts : act react action s = (answer, t)) :
    t.replica.phase = .poisoned ∧ t.replica.entity = s.replica.entity ∧ t.replica.live = s.replica.live ∧ t.told = s.told ∧
      Step.Refused s.replica.entity ⟨s, action, answer⟩ := by
  cases action with
  | join | leave =>
    cases acts
    exact ⟨poisoned, rfl, rfl, rfl, trivial⟩
  | arrive arrival =>
    have same : ∀ cause, s.replica.take arrival = ⟨.error cause, s.replica, none, []⟩ →
        t = s ∧ answer = .error (.failure cause) := by
      intro cause taken
      rw [act_untold taken] at acts
      cases acts
      exact ⟨rfl, rfl⟩
    cases arrival with
    | signal signal =>
      cases signal with
      | event event =>
        have closed : s.replica.staging = .error s.replica.refusal := by rw [Replica.staging, poisoned]
        obtain ⟨rfl, rfl⟩ := same _ (Replica.receive_misplaced closed)
        exact ⟨poisoned, rfl, rfl, rfl, rfl⟩
      | start | finish | cancel =>
        obtain ⟨rfl, rfl⟩ := same s.replica.refusal
          (by simp only [Replica.take, Replica.receive, Replica.start, Replica.finish, Replica.cancel, poisoned])
        exact ⟨poisoned, rfl, rfl, rfl, rfl⟩
    | payload text whole =>
      rcases read : Payload.read text with cause | payload
      · obtain ⟨rfl, rfl⟩ := same cause (by simp only [Replica.take, Replica.applyPayload, read])
        exact ⟨poisoned, rfl, rfl, rfl, fun payload found => by rw [read] at found; cases found⟩
      · obtain ⟨rfl, rfl⟩ := same s.replica.refusal
          (by simp only [Replica.take, Replica.applyPayload, Replica.start, read, poisoned])
        exact ⟨poisoned, rfl, rfl, rfl, fun _ _ => rfl⟩

/-- A cancel poisons, and changes nothing that readers see. -/
theorem act_cancels (acts : act react action s = (answer, t)) (cancels : Step.Cancels ⟨s, action, answer⟩) :
    t.replica.phase = .poisoned ∧ t.replica.entity = s.replica.entity ∧ t.replica.live = s.replica.live ∧ t.told = s.told := by
  cases action with
  | join | leave => exact cancels.elim
  | arrive arrival =>
    cases arrival with
    | signal signal =>
      cases signal with
      | start | event | finish => exact cancels.elim
      | cancel =>
        obtain ⟨staging, opened⟩ := cancels
        have taken : s.replica.take (.signal .cancel) = ⟨.error (.cancelled s.replica.entity),
            { s.replica with phase := .poisoned }, none, [.replicaPoisoned s.replica.entity staging.size]⟩ := by
          change s.replica.phase = .opened staging at opened
          simp only [Replica.take, Replica.receive, Replica.cancel, opened]
        rw [act_untold taken] at acts
        cases acts
        exact ⟨rfl, rfl, rfl, rfl⟩
    | payload text whole =>
      obtain ⟨idle, ⟨payload, read⟩, fault, failed⟩ := cancels
      rcases Replica.applyPayload_idle idle read whole with ⟨staging, _, applied⟩ | ⟨cause, notices, _, broken⟩
      · obtain ⟨_, _, rfl, _⟩ := act_arrive acts
        change (s.replica.applyPayload text whole).answer.mapError .failure = .error fault at failed
        rw [applied] at failed
        cases failed
      · rw [act_untold (show s.replica.take (.payload text whole) = _ from broken)] at acts
        cases acts
        exact ⟨rfl, rfl, rfl, rfl⟩

/-- What finds no open transaction leaves no trace. -/
theorem act_untimely (acts : act react action s = (answer, t)) (untimely : Step.Untimely ⟨s, action, answer⟩) : t = s := by
  obtain ⟨closed, signal, rfl, other⟩ := untimely
  change ∀ staging, s.replica.phase ≠ .opened staging at closed
  have refused : ∃ cause, s.replica.take (.signal signal) = ⟨.error cause, s.replica, none, []⟩ := by
    cases signal with
    | start => exact absurd rfl other
    | event event =>
      obtain ⟨cause, staging⟩ := Replica.staging_of_phase closed
      exact ⟨_, Replica.receive_misplaced staging⟩
    | finish | cancel =>
      rcases phase : s.replica.phase with _ | staging | _
      · simp only [Replica.take, Replica.receive, Replica.finish, Replica.cancel, phase]
        exact ⟨_, rfl⟩
      · exact absurd phase (closed staging)
      · simp only [Replica.take, Replica.receive, Replica.finish, Replica.cancel, phase]
        exact ⟨_, rfl⟩
  obtain ⟨cause, taken⟩ := refused
  rw [act_untold taken] at acts
  exact (Prod.mk.inj acts).2.symm

theorem Run.poisoned (run : Run react s steps t) (poisoned : s.replica.phase = .poisoned) :
    (t.replica.phase = .poisoned ∧ t.replica.entity = s.replica.entity ∧ t.replica.live = s.replica.live ∧ t.told = s.told) ∧
      ∀ step ∈ steps, step.before.replica.live = s.replica.live ∧ step.before.told = s.told ∧
        step.Refused s.replica.entity := by
  induction run with
  | start => exact ⟨⟨poisoned, rfl, rfl, rfl⟩, List.forall_mem_nil _⟩
  | @next steps t action answer u _ acts ih =>
    obtain ⟨⟨phase, entity, live, told⟩, before⟩ := ih
    obtain ⟨still, same, nothing, quiet, refused⟩ := act_poisoned phase acts
    refine ⟨⟨still, same.trans entity, nothing.trans live, quiet.trans told⟩, fun step member => ?_⟩
    rcases List.mem_append.1 member with old | new
    · exact before step old
    · rw [List.mem_singleton.1 new]
      exact ⟨live, told, entity ▸ refused⟩

/-- Every step of a run is where the steps before it lead, and the others go on from what it leaves. -/
theorem Run.split (run : Run react s steps u) (split : steps = earlier ++ step :: later) :
    act react step.action step.before = (step.answer, step.after react) ∧ Run react (step.after react) later u := by
  induction run generalizing later with
  | start => exact absurd split.symm (List.append_ne_nil_of_right_ne_nil earlier (List.cons_ne_nil step later))
  | @next steps t action answer u previous acts ih =>
    rcases List.eq_nil_or_concat later with rfl | ⟨front, last, rfl⟩
    · obtain ⟨rfl, same⟩ := List.append_inj' split rfl
      cases same
      have left : Step.after react ⟨t, action, answer⟩ = u := congrArg Prod.snd acts
      rw [left]
      exact ⟨acts, .start⟩
    · rw [List.concat_eq_append, ← List.cons_append, ← List.append_assoc] at split
      obtain ⟨rfl, same⟩ := List.append_inj' split rfl
      cases same
      obtain ⟨here, rest⟩ := ih rfl
      rw [List.concat_eq_append]
      exact ⟨here, .next rest acts⟩

/-- From a cancel of an open transaction on nothing that readers see changes, no observer is called, and whatever
arrives is refused. What needs an open transaction and finds none changes nothing at any time. -/
theorem Run.poisoned_for_good (run : Run react s steps u) (split : steps = earlier ++ step :: later) :
    (step.Cancels → (u.replica.isPoisoned = true ∧ u.replica.live = step.before.replica.live ∧ u.told = step.before.told) ∧
      ∀ next ∈ later, next.before.replica.live = step.before.replica.live ∧ next.before.told = step.before.told ∧
        next.Refused step.before.replica.entity) ∧
      (step.Untimely → step.after react = step.before) := by
  obtain ⟨acts, rest⟩ := run.split split
  refine ⟨fun cancels => ?_, act_untimely acts⟩
  obtain ⟨poisoned, entity, live, told⟩ := act_cancels acts cancels
  obtain ⟨⟨phase, _, same, quiet⟩, refused⟩ := rest.poisoned poisoned
  refine ⟨⟨by rw [Replica.isPoisoned, phase], same.trans live, quiet.trans told⟩, fun next member => ?_⟩
  obtain ⟨before, heard, answered⟩ := refused next member
  exact ⟨before.trans live, heard.trans told, entity ▸ answered⟩

/-- A transaction is cancelled after its first event, and then another one is tried. -/
def cancelling : List (Step String) × Station String := enact .calm (fresh { entity := "customer" } rowOf)
  [.join, .arrive (.signal .start), .arrive (.signal (.event (.remove "customer" "1"))), .arrive (.signal .cancel),
    .arrive (.signal .start), .arrive (.payload "id,v\n1,x" true)]

theorem poisoned_for_good_cancelled :
    cancelling.2.replica.isPoisoned = true ∧
      ∀ next ∈ cancelling.1.drop 4, next.Refused "customer" := by
  have split : cancelling.1 = cancelling.1.take 3 ++ cancelling.1[3] :: cancelling.1.drop 4 := rfl
  obtain ⟨⟨poisoned, _⟩, refused⟩ := (Run.poisoned_for_good (run_enact ..) split).1 ⟨_, rfl⟩
  exact ⟨poisoned, fun next member => (refused next member).2.2⟩

end Station

end ReferenceFeed
