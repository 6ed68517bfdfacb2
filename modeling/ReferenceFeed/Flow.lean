import ReferenceFeed.Notice

namespace ReferenceFeed

/-!
Steps over a shared state. A part of a feed that calls other parts cannot know what they do to the state, so
its steps are written for any state. A step ends with a value, with a failure, or with the panic of a
collaborator; what it did to the state before stays done.
-/

/-- How a step ends without a value. A panic carries a message or something that is no text. -/
inductive Fault where
  | failure (cause : Failure)
  | panic (message : Option String)
  deriving DecidableEq

/-- A fault that was caught where it must not spread. -/
def Fault.asFailure : Fault → Failure
  | .failure cause => cause
  | .panic message => .panicked (message.getD "non-string panic payload")

/-- A step over the state `σ`. -/
abbrev Flow (σ : Type) := ExceptT Fault (StateM σ)

namespace Flow

variable {σ α : Type}

/-- Ends with a failure. -/
def fail (cause : Failure) : Flow σ α := throw (.failure cause)

/-- Ends with the outcome of a computation that does not touch the state. -/
def ofExcept (outcome : Except Failure α) : Flow σ α :=
  match outcome with
  | .ok value => pure value
  | .error cause => fail cause

/-- How a step ended. The state is what the step left. -/
def outcome (step : Flow σ α) : Flow σ (Except Fault α) := fun state =>
  match step.run state with
  | (result, after) => (.ok result, after)

/-- Carries on as a step ended. -/
def resume (result : Except Fault α) : Flow σ α :=
  match result with
  | .ok value => pure value
  | .error fault => throw fault

/-- The value of a step or its failure. A panic goes on. -/
def attempt (step : Flow σ α) : Flow σ (Except Failure α) := do
  match ← outcome step with
  | .ok value => return .ok value
  | .error (.failure cause) => return .error cause
  | .error fault => throw fault

/-- Runs a cleanup however a step ends, and then ends as the step did. A fault of the cleanup comes first. -/
def ensuring (step : Flow σ α) (cleanup : Flow σ Unit) : Flow σ α := do
  let result ← outcome step
  cleanup
  resume result

/-- What a step does to a state: how it ends, and the state it leaves. -/
def effect (step : Flow σ α) (state : σ) : Except Fault α × σ := (ExceptT.run step).run state

theorem effect_pure (value : α) (state : σ) : effect (pure value) state = (.ok value, state) := rfl

theorem effect_fail (cause : Failure) (state : σ) :
    effect (fail cause : Flow σ α) state = (.error (.failure cause), state) := rfl

/-- A step after another one starts where that one ended, and does not happen if that one has no value. -/
theorem effect_bind {β : Type} (step : Flow σ α) (next : α → Flow σ β) (state : σ) :
    effect (step >>= next) state =
      match effect step state with
      | (.ok value, after) => effect (next value) after
      | (.error fault, after) => (.error fault, after) := by
  change (ExceptT.bind step next).run.run state = _
  simp only [effect, ExceptT.bind, ExceptT.run, ExceptT.mk, ExceptT.bindCont, StateT.run, bind, StateT.bind]
  rcases step state with ⟨result, after⟩
  cases result <;> rfl

theorem effect_ofExcept (outcome : Except Failure α) (state : σ) :
    effect (ofExcept outcome) state = (outcome.mapError .failure, state) := by
  cases outcome <;> rfl

theorem effect_resume (result : Except Fault α) (state : σ) : effect (resume result) state = (result, state) := by
  cases result <;> rfl

theorem effect_outcome (step : Flow σ α) (state : σ) :
    effect (outcome step) state = (.ok (effect step state).1, (effect step state).2) := rfl

/-- A cleanup starts where the step ended, and its own fault comes before that of the step. -/
theorem effect_ensuring (step : Flow σ α) (cleanup : Flow σ Unit) (state : σ) :
    effect (ensuring step cleanup) state =
      match effect cleanup (effect step state).2 with
      | (.ok _, after) => ((effect step state).1, after)
      | (.error fault, after) => (.error fault, after) := by
  simp only [ensuring, effect_bind, effect_outcome, effect_resume]
  rcases effect cleanup (effect step state).2 with ⟨_ | _, _⟩ <;> rfl

end Flow

/-- A state that keeps a journal. -/
class Journal (σ : Type) where
  /-- Writes a notice at the end. -/
  note : Notice → σ → σ

/-- Writes a notice into the journal. -/
def Flow.note {σ : Type} [Journal σ] (notice : Notice) : Flow σ Unit := modify (Journal.note notice)

/-- Where a part of type `α` is kept inside a state. -/
structure Place (σ α : Type) where
  get : σ → α
  set : α → σ → σ

namespace Place

variable {σ α β : Type}

/-- Reads a part. -/
def read (place : Place σ α) : Flow σ α := return place.get (← MonadState.get)

/-- Replaces a part. -/
def write (place : Place σ α) (part : α) : Flow σ Unit := modify (place.set part)

/-- Changes a part. -/
def update (place : Place σ α) (change : α → α) : Flow σ Unit :=
  modify fun state => place.set (change (place.get state)) state

theorem effect_read (place : Place σ α) (state : σ) : Flow.effect place.read state = (.ok (place.get state), state) := rfl

theorem effect_write (place : Place σ α) (part : α) (state : σ) :
    Flow.effect (place.write part) state = (.ok (), place.set part state) := rfl

theorem effect_update (place : Place σ α) (change : α → α) (state : σ) :
    Flow.effect (place.update change) state = (.ok (), place.set (change (place.get state)) state) := rfl

/-- Changes a part and answers, or fails and leaves it as it is. -/
def attempt (place : Place σ α) (change : α → Except Failure (β × α)) : Flow σ β := do
  match change (← place.read) with
  | .error cause => Flow.fail cause
  | .ok (answer, part) => place.write part; return answer

theorem effect_attempt (place : Place σ α) (change : α → Except Failure (β × α)) (state : σ) :
    Flow.effect (place.attempt change) state =
      match change (place.get state) with
      | .error cause => (.error (.failure cause), state)
      | .ok (answer, part) => (.ok answer, place.set part state) := by
  simp only [attempt, Flow.effect_bind, effect_read]
  cases change (place.get state) <;> rfl

end Place

end ReferenceFeed
