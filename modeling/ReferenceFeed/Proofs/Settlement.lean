import ReferenceFeed.Proofs.Course

namespace ReferenceFeed

/-!
What a commit leaves of every entity: the events that were taken in, folded in the order they came.
-/

namespace Site

variable {c : Conduct} {s₀ s t : Site} {number : Nat} {owner thread : Thread} {steps : List Step} {answer : Answer}

/-- Only the owner of a transaction gets a good answer to its end. -/
theorem Underway.finish_answered {taken told : List Event} (under : Underway s₀ number owner taken told s)
    (commits : act c thread (.call number .finish) s = (.ok answer, t)) : thread = owner ∧ Landed s₀ taken told t := by
  rw [under.effect_call, Flow.effect_map] at commits
  change ((Flow.effect ((wiring c).finish number) { s with thread }).1.map _,
    (Flow.effect ((wiring c).finish number) { s with thread }).2) = _ at commits
  by_cases mine : thread = owner
  · rcases (under.on thread).finish (c := c) mine with ⟨after, finished, landed, _⟩ | ⟨entity, _, after, _, _, unfinished, _⟩
    · rw [finished] at commits
      cases commits
      exact ⟨mine, landed⟩
    · rw [unfinished] at commits
      cases commits
  · obtain ⟨after, refused, _⟩ := (under.on thread).finish_foreign (c := c) mine
    rw [refused] at commits
    cases commits

/-- A commit settles every entity by the events that were taken in for it, whatever else was tried meanwhile. If no
event was refused for its thread, these are the events that were accepted. -/
theorem Reachable.commit_settles (reach : Reachable c s₀) (transacting : Transacting c owner number s₀ steps s)
    (commits : act c thread (.call number .finish) s = (.ok answer, t)) :
    t.origin.generation = s₀.origin.generation + 1 ∧
      (∀ entity : String, Settles s₀.origin.live[entity]? t.origin.live[entity]?
        (concerning entity (takenIn s₀.origin.settings number steps))) ∧
      ((∀ step ∈ steps, (step.action.eventOf? number).isSome = true → step.foreign = false) →
        ∀ entity : String, Settles s₀.origin.live[entity]? t.origin.live[entity]?
          (concerning entity (accepted s₀.origin.settings number steps))) := by
  obtain ⟨_, _, under⟩ := reach.sound.transacting transacting
  obtain ⟨_, landed⟩ := under.finish_answered commits
  obtain ⟨stages, reflect, settled, _⟩ := landed.applied.stores
  have settles : ∀ entity : String, Settles s₀.origin.live[entity]? t.origin.live[entity]?
      (concerning entity (takenIn s₀.origin.settings number steps)) := by
    intro entity
    rw [settled]
    exact reflect.settles fun store found => (reach.sound.stores entity store found).2
  refine ⟨landed.applied.generation, settles, fun native => ?_⟩
  rw [← takenIn_eq_accepted native]
  exact settles

/-- The columns of a small entity. -/
def keyAndValue : Header := ⟨["id", "v"], rfl, by decide, by decide⟩

/-- A site with a session that has not started anything. -/
def handled : Site := (act .quiet 0 .begin {}).2

theorem handled_reachable : Reachable .quiet handled := .next 0 .begin (.fresh {} {})

/-- A new entity is announced on one thread, after a call that is refused, and gets its only entry from another. -/
def bringing (thread : Thread) : List (Thread × Action) :=
  [(0, .call 0 (.event (.remove "e" "1"))), (0, .call 0 (.event (.reload "e" keyAndValue))),
    (0, .call 0 (.event (.block "e" keyAndValue))),
    (thread, .call 0 (.event (.update "e" keyAndValue ⟨"1", "1,x", ∅⟩)))]

/-- The transaction that brings the new entity. -/
def brought (thread : Thread) : List Step × Site :=
  enact .quiet (act .quiet 0 (.call 0 .start) handled).2 (bringing thread)

/-- The transaction after its end. -/
def committed (thread : Thread) : Site := (act .quiet 0 (.call 0 .finish) (brought thread).2).2

theorem transacting_brought : Transacting .quiet 0 0 handled (brought 0).1 (brought 0).2 :=
  ⟨⟨.done, _, rfl, run_enact ..⟩, by decide⟩

theorem commit_settles_brought : (committed 0).origin.generation = 1 ∧
    ∀ entity : String, Settles none (committed 0).origin.live[entity]?
      (concerning entity (accepted {} 0 (brought 0).1)) := by
  obtain ⟨counted, _, settles⟩ := handled_reachable.commit_settles transacting_brought
    (show act .quiet 0 (.call 0 .finish) (brought 0).2 = (.ok .done, committed 0) from rfl)
  exact ⟨counted, settles (by decide)⟩

theorem transacting_brought_foreign : Transacting .quiet 0 0 handled (brought 1).1 (brought 1).2 :=
  ⟨⟨.done, _, rfl, run_enact ..⟩, by decide⟩

/-- An event that was refused for its thread is committed nevertheless. -/
theorem not_accepted_settles : ¬∀ (c : Conduct) (s₀ s t : Site) (number : Nat) (owner thread : Thread) (steps : List Step)
    (answer : Answer), Reachable c s₀ → Transacting c owner number s₀ steps s →
      act c thread (.call number .finish) s = (.ok answer, t) →
      ∀ entity : String, Settles s₀.origin.live[entity]? t.origin.live[entity]?
        (concerning entity (accepted s₀.origin.settings number steps)) := by
  intro claim
  have settles := claim .quiet handled (brought 1).2 (committed 1) 0 0 0 (brought 1).1 .done handled_reachable
    transacting_brought_foreign rfl "e"
  have events : concerning "e" (accepted handled.origin.settings 0 (brought 1).1) =
      [.reload "e" keyAndValue, .block "e" keyAndValue] := by decide
  rw [events] at settles
  obtain ⟨new, found, _, _, entries⟩ := settles
  have present : ((committed 1).origin.live["e"]?).map Store.entries ≠ some ∅ := by decide
  exact present (by rw [found]; exact congrArg some entries)

end Site

end ReferenceFeed
