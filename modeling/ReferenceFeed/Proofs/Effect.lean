import Mathlib.Data.List.Forall2
import ReferenceFeed.Flow

namespace ReferenceFeed

/-!
What the remaining ways of putting steps together do to a state.
-/

/-- A computation that ends well has gone through well. -/
theorem bind_ok {ε α β : Type} {first : Except ε α} {next : α → Except ε β} {value : β}
    (ends : (first >>= next) = .ok value) : ∃ between, first = .ok between ∧ next between = .ok value := by
  cases first with
  | error fault => cases ends
  | ok between => exact ⟨between, rfl, ends⟩

/-- A computation has no fault that none of its parts has. -/
theorem bind_ne_error {ε α β : Type} {first : Except ε α} {next : α → Except ε β} {fault : ε}
    (at_first : first ≠ .error fault) (later : ∀ value, next value ≠ .error fault) : (first >>= next) ≠ .error fault := by
  cases first with
  | error other => exact fun same => at_first (congrArg Except.error (Except.error.inj same))
  | ok value => exact later value

theorem map_ok {ε α β : Type} {first : Except ε α} {change : α → β} {value : β} (ends : first.map change = .ok value) :
    ∃ between, first = .ok between ∧ change between = value := by
  cases first with
  | error fault => cases ends
  | ok between => exact ⟨between, rfl, Except.ok.inj ends⟩

/-- A list of computations goes well if each of them does. -/
theorem mapM_ok_iff {ε α β : Type} {f : α → Except ε β} {list : List α} {results : List β} :
    list.mapM f = .ok results ↔ List.Forall₂ (fun item result => f item = .ok result) list results := by
  induction list generalizing results with
  | nil =>
    rw [List.forall₂_nil_left_iff]
    exact ⟨fun ends => (Except.ok.inj ends).symm, fun none => congrArg Except.ok none.symm⟩
  | cons item rest ih =>
    rw [List.mapM_cons]
    constructor
    · intro ends
      obtain ⟨first, here, ends⟩ := bind_ok ends
      obtain ⟨others, there, ends⟩ := bind_ok ends
      cases ends
      exact .cons here (ih.1 there)
    · rintro (_ | ⟨here, there⟩)
      rw [here, ih.2 there]
      rfl

/-- Whatever is in the second of two lists that go together has something in the first that it goes with. -/
theorem exists_of_forall₂ {α β : Type} {related : α → β → Prop} {first : List α} {second : List β}
    (together : List.Forall₂ related first second) {one : β} (member : one ∈ second) : ∃ item ∈ first, related item one := by
  induction together with
  | nil => cases member
  | cons goes _ ih =>
    rcases List.mem_cons.1 member with rfl | later
    · exact ⟨_, List.mem_cons_self, goes⟩
    · obtain ⟨item, inRest, goes⟩ := ih later
      exact ⟨item, List.mem_cons_of_mem _ inRest, goes⟩

theorem mapM_ok {ε α β : Type} {f : α → Except ε β} {list : List α} {results : List β} (ends : list.mapM f = .ok results) :
    ∀ result ∈ results, ∃ item ∈ list, f item = .ok result := fun _ member =>
  exists_of_forall₂ (mapM_ok_iff.1 ends) member

namespace Flow

variable {σ α β : Type}

/-- A step is what it does. -/
theorem ext {step other : Flow σ α} (same : ∀ state, effect step state = effect other state) : step = other := funext same

theorem effect_get (state : σ) : effect (get : Flow σ σ) state = (.ok state, state) := rfl

theorem effect_set (next state : σ) : effect (set next : Flow σ PUnit) state = (.ok (), next) := rfl

theorem effect_modify (change : σ → σ) (state : σ) :
    effect (modify change : Flow σ PUnit) state = (.ok (), change state) := rfl

theorem effect_map (f : α → β) (step : Flow σ α) (state : σ) :
    effect (f <$> step) state = ((effect step state).1.map f, (effect step state).2) := by
  rw [← bind_pure_comp, effect_bind]
  rcases effect step state with ⟨_ | _, _⟩ <;> rfl

theorem effect_attempt (step : Flow σ α) (state : σ) :
    effect (attempt step) state =
      match effect step state with
      | (.ok value, after) => (.ok (.ok value), after)
      | (.error (.failure cause), after) => (.ok (.error cause), after)
      | (.error (.panic message), after) => (.error (.panic message), after) := by
  simp only [attempt, effect_bind, effect_outcome]
  rcases effect step state with ⟨(_ | _) | _, _⟩ <;> rfl

section Ends

variable {step : Flow σ α} {next : α → Flow σ β} {state after : σ} {value : α}

/-- Steps that end well have both ended well. -/
theorem effect_bind_ok {last : β} (ends : effect (step >>= next) state = (.ok last, after)) :
    ∃ value between, effect step state = (.ok value, between) ∧ effect (next value) between = (.ok last, after) := by
  rw [effect_bind] at ends
  rcases first : effect step state with ⟨fault | value, between⟩
  · rw [first] at ends
    cases ends
  · rw [first] at ends
    exact ⟨value, between, rfl, ends⟩

theorem effect_attempt_ok (ends : effect (attempt step) state = (.ok (.ok value), after)) :
    effect step state = (.ok value, after) := by
  rw [effect_attempt] at ends
  split at ends
  · next ended =>
    cases ends
    exact ended
  · cases ends
  · cases ends

theorem effect_ensuring_ok {cleanup : Flow σ Unit} (ends : effect (ensuring step cleanup) state = (.ok value, after)) :
    ∃ between, effect step state = (.ok value, between) := by
  rw [effect_ensuring] at ends
  split at ends
  · exact ⟨(effect step state).2, Prod.ext (Prod.mk.inj ends).1 rfl⟩
  · cases ends

end Ends

theorem effect_forM_nil (body : α → Flow σ PUnit) (state : σ) :
    effect (([] : List α).forM body) state = (.ok (), state) := rfl

theorem effect_forM_cons (head : α) (tail : List α) (body : α → Flow σ PUnit) (state : σ) :
    effect ((head :: tail).forM body) state =
      match effect (body head) state with
      | (.ok _, after) => effect (tail.forM body) after
      | (.error fault, after) => (.error fault, after) := by
  rw [show (head :: tail).forM body = (body head >>= fun _ => tail.forM body) from rfl, effect_bind]
  rcases effect (body head) state with ⟨_ | _, _⟩ <;> rfl

theorem effect_forM_append (first second : List α) (body : α → Flow σ PUnit) (state : σ) :
    effect ((first ++ second).forM body) state =
      match effect (first.forM body) state with
      | (.ok _, after) => effect (second.forM body) after
      | (.error fault, after) => (.error fault, after) := by
  induction first generalizing state with
  | nil => rfl
  | cons item rest ih =>
    rw [List.cons_append, effect_forM_cons, effect_forM_cons]
    rcases effect (body item) state with ⟨_ | _, after⟩
    · rfl
    · exact ih after

/-- A loop whose turns change nothing changes nothing. -/
theorem effect_forM_same {body : α → Flow σ PUnit} {state : σ}
    (turn : ∀ item, effect (body item) state = (.ok (), state)) (items : List α) :
    effect (items.forM body) state = (.ok (), state) := by
  induction items with
  | nil => rfl
  | cons item rest ih => rw [effect_forM_cons, turn]; exact ih

/-- A loop whose turns all go well makes their changes one after another. -/
theorem effect_forM_each {body : α → Flow σ PUnit} {change : σ → α → σ}
    (turn : ∀ item state, effect (body item) state = (.ok (), change state item)) (items : List α) (state : σ) :
    effect (items.forM body) state = (.ok (), items.foldl change state) := by
  induction items generalizing state with
  | nil => rfl
  | cons item rest ih => rw [effect_forM_cons, turn]; exact ih _

theorem effect_forM_map (change : α → β) (body : β → Flow σ PUnit) (items : List α) (state : σ) :
    effect ((items.map change).forM body) state = effect (items.forM fun item => body (change item)) state := by
  induction items generalizing state with
  | nil => rfl
  | cons item rest ih => simp only [List.map_cons, effect_forM_cons, ih]

/-- Equal turns make equal loops. -/
theorem effect_forM_congr {body other : α → Flow σ PUnit} {items : List α}
    (turn : ∀ item ∈ items, ∀ state, effect (body item) state = effect (other item) state) (state : σ) :
    effect (items.forM body) state = effect (items.forM other) state := by
  induction items generalizing state with
  | nil => rfl
  | cons item rest ih =>
    rw [effect_forM_cons, effect_forM_cons, turn item List.mem_cons_self]
    rcases effect (other item) state with ⟨_ | _, after⟩
    · rfl
    · exact ih (fun next member => turn next (List.mem_cons_of_mem _ member)) after

/-- A step that leaves a property as it is, however it ends. -/
def Keeps (P : σ → Prop) (step : Flow σ α) : Prop := ∀ state, P state → P (effect step state).2

section Keeps

variable {P : σ → Prop} {step : Flow σ α} {next : α → Flow σ β}

/-- A step that only looks keeps everything. -/
theorem Keeps.of_same (same : ∀ state, (effect step state).2 = state) : Keeps P step := by
  intro state holds
  rw [same]
  exact holds

theorem Keeps.pure (value : α) : Keeps P (pure value : Flow σ α) := .of_same fun _ => rfl

theorem Keeps.fail (cause : Failure) : Keeps P (fail cause : Flow σ α) := .of_same fun _ => rfl

theorem Keeps.ofExcept (outcome : Except Failure α) : Keeps P (ofExcept outcome : Flow σ α) :=
  .of_same fun state => by rw [effect_ofExcept]

theorem Keeps.resume (result : Except Fault α) : Keeps P (resume result : Flow σ α) :=
  .of_same fun state => by rw [effect_resume]

/-- What comes next may rely on how its value came about. -/
theorem Keeps.bind_of (first : Keeps P step)
    (later : ∀ value, (∃ state, P state ∧ (effect step state).1 = .ok value) → Keeps P (next value)) :
    Keeps P (step >>= next) := by
  intro state holds
  have between := first state holds
  rw [effect_bind]
  rcases ended : effect step state with ⟨fault | value, after⟩
  · rw [ended] at between
    exact between
  · rw [ended] at between
    exact later value ⟨state, holds, by rw [ended]⟩ after between

theorem Keeps.bind (first : Keeps P step) (later : ∀ value, Keeps P (next value)) : Keeps P (step >>= next) :=
  first.bind_of fun value _ => later value

/-- Catching what went wrong is no change. -/
theorem Keeps.attempt (keeps : Keeps P step) : Keeps P (attempt step) := by
  intro state holds
  have after := keeps state holds
  rw [effect_attempt]
  rcases ended : effect step state with ⟨(_ | _) | _, next⟩ <;> rw [ended] at after <;> exact after

/-- A cleanup has the last word on the state. -/
theorem effect_ensuring_state (step : Flow σ α) (cleanup : Flow σ Unit) (state : σ) :
    (effect (ensuring step cleanup) state).2 = (effect cleanup (effect step state).2).2 := by
  rw [effect_ensuring]
  rcases effect cleanup (effect step state).2 with ⟨_ | _, _⟩ <;> rfl

theorem Keeps.ensuring {cleanup : Flow σ Unit} (keeps : Keeps P step) (cleans : Keeps P cleanup) :
    Keeps P (ensuring step cleanup) := by
  intro state holds
  rw [effect_ensuring_state]
  exact cleans _ (keeps state holds)

theorem Keeps.forM {body : α → Flow σ PUnit} {items : List α} (turn : ∀ item ∈ items, Keeps P (body item)) :
    Keeps P (items.forM body) := by
  induction items with
  | nil => exact Keeps.pure PUnit.unit
  | cons item rest ih =>
    exact (turn item List.mem_cons_self).bind fun _ => ih fun other member => turn other (List.mem_cons_of_mem _ member)

end Keeps

end Flow

end ReferenceFeed
