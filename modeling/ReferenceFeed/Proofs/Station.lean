import Mathlib.Data.List.Induction
import ReferenceFeed.Proofs.Effect
import ReferenceFeed.Proofs.Payload
import ReferenceFeed.Replica

namespace ReferenceFeed

/-!
A replica among its observers: calls and payloads arrive in any order, and observers come and go. Everybody is told
of a commit in turn, and one who fails hears nothing more of that commit.
-/

/-- What can arrive at a replica. -/
inductive Arrival where
  | signal (signal : Signal)
  | payload (text : String) (whole : Bool)
  deriving DecidableEq

namespace Replica

variable {ρ ω : Type}

/-- What an arrival leaves behind. -/
def take (r : Replica ρ ω) : Arrival → Received ρ ω
  | .signal signal => r.receive signal
  | .payload text whole => r.applyPayload text whole

/-- What a commit leaves behind. -/
def committing (r : Replica ρ ω) (staging : Staging ρ) : Received ρ ω where
  answer := .ok ()
  replica := { r with live := (r.live.commit staging).1, phase := .idle, loaded := true }
  commit := some (r.live.commit staging).2

/-- All that an arrival can come to. -/
inductive Comes (r : Replica ρ ω) : Arrival → Received ρ ω → Prop
  | refused {arrival cause} : Comes r arrival ⟨.error cause, r, none, []⟩
  | started : r.phase = .idle → Comes r (.signal .start) ⟨.ok (), { r with phase := .opened {} }, none, []⟩
  | staged {event before after} : r.phase = .opened before → event.entity = r.entity → r.stage before event = .ok after →
      Comes r (.signal (.event event)) ⟨.ok (), { r with phase := .opened after }, none, []⟩
  | finished {staging} : r.phase = .opened staging → Comes r (.signal .finish) (r.committing staging)
  | applied {text whole payload staging} : r.phase = .idle → Payload.read text = .ok payload →
      (payload.events r.entity whole).foldlM r.stage {} = .ok staging → Comes r (.payload text whole) (r.committing staging)
  | cancelled {staging notices} : r.phase = .opened staging →
      Comes r (.signal .cancel) ⟨.error (.cancelled r.entity), { r with phase := .poisoned }, none, notices⟩
  | broken {text whole payload cause notices} : r.phase = .idle → Payload.read text = .ok payload →
      Comes r (.payload text whole) ⟨.error cause, { r with phase := .poisoned }, none, notices⟩

variable {r : Replica ρ ω} {s : Staging ρ}

/-- What staging an event of its own entity comes to is what a replica with a transaction open answers. -/
theorem event_opened (opened : r.phase = .opened s) {event : Event} (own : event.entity = r.entity) :
    r.event event = (r.stage s event).map fun next => { r with phase := .opened next } := by
  have checked : r.checkEntity event.entity = .ok () := if_pos own
  have staging : r.staging = .ok s := by rw [staging, opened]
  simp only [Replica.event, checked, staging, bind, Except.bind, pure, Except.pure]
  cases r.stage s event <;> rfl

/-- The events of an open transaction are staged one after another, until one is refused. -/
theorem receiveEvents_opened (opened : r.phase = .opened s) {events : List Event} (own : ∀ event ∈ events, event.entity = r.entity) :
    (∃ staging, events.foldlM r.stage s = .ok staging ∧ r.receiveEvents events = (.ok (), { r with phase := .opened staging })) ∨
      ∃ cause staging, events.foldlM r.stage s = .error cause ∧
        r.receiveEvents events = (.error cause, { r with phase := .opened staging }) := by
  induction events generalizing r s with
  | nil =>
    refine .inl ⟨s, rfl, ?_⟩
    rw [receiveEvents, ← opened]
  | cons event rest ih =>
    rw [receiveEvents, event_opened opened (own event List.mem_cons_self), List.foldlM_cons]
    rcases r.stage s event with cause | next
    · refine .inr ⟨cause, s, rfl, ?_⟩
      rw [← opened]
      rfl
    · exact ih (r := { r with phase := .opened next }) rfl fun other member => own other (List.mem_cons_of_mem _ member)

/-- A payload that can be read is committed, or ends the life of the replica. -/
theorem applyPayload_idle {text : String} {payload : Payload} (idle : r.phase = .idle) (read : Payload.read text = .ok payload)
    (whole : Bool) :
    (∃ staging, (payload.events r.entity whole).foldlM r.stage {} = .ok staging ∧
      r.applyPayload text whole = r.committing staging) ∨
      ∃ cause notices, (payload.events r.entity whole).foldlM r.stage {} = .error cause ∧
        r.applyPayload text whole = ⟨.error cause, { r with phase := .poisoned }, none, notices⟩ := by
  have started : r.start = .ok { r with phase := .opened {} } := by rw [start, idle]
  simp only [applyPayload, read, started]
  rcases receiveEvents_opened (r := { r with phase := .opened {} }) rfl (payload.events_entity r.entity whole) with
    ⟨staging, staged, received⟩ | ⟨cause, staging, refused, received⟩
  · refine .inl ⟨staging, staged, ?_⟩
    simp only [received]
    rfl
  · refine .inr ⟨cause, [.replicaPoisoned r.entity staging.size], refused, ?_⟩
    simp only [received]
    rfl

/-- A payload whose events can all be staged is committed. -/
theorem applyPayload_staged {text : String} {payload : Payload} {whole : Bool} (idle : r.phase = .idle)
    (read : Payload.read text = .ok payload) (stages : (payload.events r.entity whole).foldlM r.stage {} = .ok s) :
    r.applyPayload text whole = r.committing s := by
  rcases applyPayload_idle idle read whole with ⟨staging, staged, applied⟩ | ⟨_, _, refused, _⟩
  · cases stages.symm.trans staged
    exact applied
  · cases stages.symm.trans refused

theorem event_accepted {event : Event} {next : Replica ρ ω} (taken : r.event event = .ok next) :
    event.entity = r.entity ∧ ∃ before after, r.phase = .opened before ∧ r.stage before event = .ok after ∧
      next = { r with phase := .opened after } := by
  obtain ⟨_, checked, rest⟩ := bind_ok taken
  obtain ⟨before, staging, rest⟩ := bind_ok rest
  obtain ⟨after, staged, same⟩ := bind_ok rest
  have own : event.entity = r.entity := by
    unfold checkEntity at checked
    split at checked
    · assumption
    · cases checked
  have opened : r.phase = .opened before := by
    unfold Replica.staging at staging
    split at staging
    · cases staging
      assumption
    · cases staging
    · cases staging
  exact ⟨own, before, after, opened, staged, (Except.ok.inj same).symm⟩

/-- Whatever arrives is refused or does what its kind does. -/
theorem comes (r : Replica ρ ω) (arrival : Arrival) : r.Comes arrival (r.take arrival) := by
  cases arrival with
  | signal signal =>
    cases signal with
    | start =>
      rcases phase : r.phase with _ | staging | _ <;> simp only [take, receive, start, phase]
      · exact .started phase
      · exact .refused
      · exact .refused
    | event event =>
      simp only [take, receive]
      rcases taken : r.event event with cause | next
      · exact .refused
      · obtain ⟨own, before, after, opened, staged, rfl⟩ := event_accepted taken
        exact .staged opened own staged
    | finish =>
      rcases phase : r.phase with _ | staging | _ <;> simp only [take, receive, finish, phase]
      · exact .refused
      · exact .finished phase
      · exact .refused
    | cancel =>
      rcases phase : r.phase with _ | staging | _ <;> simp only [take, receive, cancel, phase]
      · exact .refused
      · exact .cancelled phase
      · exact .refused
  | payload text whole =>
    rcases read : Payload.read text with cause | payload
    · simp only [take, applyPayload, read]
      exact .refused
    · rcases phase : r.phase with _ | staging | _
      · rcases applyPayload_idle phase read whole with ⟨staging, staged, applied⟩ | ⟨cause, notices, _, broken⟩
        · rw [take, applied]
          exact .applied phase read staged
        · rw [take, broken]
          exact .broken phase read
      · simp only [take, applyPayload, read, start, phase]
        exact .refused
      · simp only [take, applyPayload, read, start, phase]
        exact .refused

variable {arrival : Arrival} {received : Received ρ ω}

theorem Comes.observers (comes : r.Comes arrival received) : received.replica.observers = r.observers := by
  cases comes <;> rfl

/-- Only a commit changes what readers see. -/
theorem Comes.commits (comes : r.Comes arrival received) :
    (received.commit = none ∧ received.replica.live = r.live) ∨ ∃ staging, received = r.committing staging := by
  cases comes with
  | finished | applied => exact .inr ⟨_, rfl⟩
  | refused | started | staged | cancelled | broken => exact .inl ⟨rfl, rfl⟩

end Replica

/-- A call that an observer got at a seat, and how it ended. -/
structure Told (ρ : Type) where
  seat : Nat
  observation : Observation ρ
  answer : Except Fault Unit

/-- A replica, the records it had when each seat was taken, and what was told since then. Every observer that was
ever brought has a seat of its own. -/
structure Station (ρ : Type) where
  replica : Replica ρ Nat
  seats : List (Keyed ρ) := []
  told : List (Told ρ) := []

/-- Nothing here depends on notices, so a station does not keep them. -/
instance {ρ : Type} : Journal (Station ρ) := ⟨fun _ station => station⟩

/-- How observers end their calls, by all that happened before. They do not call back. -/
abbrev Reaction (ρ : Type) := Station ρ → Nat → Observation ρ → Except Fault Unit

/-- No observer fails. -/
def Reaction.calm {ρ : Type} : Reaction ρ := fun _ _ _ => .ok ()

namespace Station

variable {ρ : Type}

/-- More was told. -/
def telling (s : Station ρ) (log : List (Told ρ)) : Station ρ := { s with told := s.told ++ log }

/-- Calls the observer at a seat. -/
def observe (react : Reaction ρ) (seat : Nat) (observation : Observation ρ) : Flow (Station ρ) Unit := do
  let station ← get
  let answer := react station seat observation
  set (station.telling [⟨seat, observation, answer⟩])
  Flow.resume answer

/-- The replica of a station, as it reaches its observers. -/
def wiring (react : Reaction ρ) : Replica.Wiring (Station ρ) ρ Nat where
  keep replica := modify ({ · with replica })
  observe := observe react

/-- What can happen at a station. -/
inductive Action where
  | arrive (arrival : Arrival)
  /-- An observer takes the next seat. -/
  | join
  | leave (number : Nat)
  deriving DecidableEq

/-- Lets something happen. -/
def perform (react : Reaction ρ) : Action → Flow (Station ρ) Unit
  | .arrive arrival => do (wiring react).settle ((← get).replica.take arrival)
  | .join => modify fun s =>
    { s with replica := (s.replica.addObserver s.seats.length).2, seats := s.seats ++ [s.replica.live.records] }
  | .leave number => modify fun s => { s with replica := (s.replica.removeObserver number).2 }

/-- How an action ends, and what the station is afterwards. -/
def act (react : Reaction ρ) (action : Action) (s : Station ρ) : Except Fault Unit × Station ρ :=
  Flow.effect (perform react action) s

/-- One action of a run. -/
structure Step (ρ : Type) where
  before : Station ρ
  action : Action
  answer : Except Fault Unit

def Step.after (react : Reaction ρ) (step : Step ρ) : Station ρ := (act react step.action step.before).2

/-- A run is some actions one after another. -/
inductive Run (react : Reaction ρ) : Station ρ → List (Step ρ) → Station ρ → Prop
  | start {s} : Run react s [] s
  | next {s steps t action answer u} :
      Run react s steps t → act react action t = (answer, u) → Run react s (steps ++ [⟨t, action, answer⟩]) u

theorem Run.append {react : Reaction ρ} {s t u : Station ρ} {first second : List (Step ρ)} (run : Run react s first t)
    (next : Run react t second u) : Run react s (first ++ second) u := by
  induction next with
  | start =>
    rw [List.append_nil]
    exact run
  | next _ acts ih =>
    rw [← List.append_assoc]
    exact .next ih acts

/-- The run in which some things happen, one after another. -/
def enact (react : Reaction ρ) (s : Station ρ) (script : List Action) : List (Step ρ) × Station ρ :=
  script.foldl (fun (steps, s) action => (steps ++ [⟨s, action, (act react action s).1⟩], (act react action s).2)) ([], s)

theorem run_enact (react : Reaction ρ) (s : Station ρ) (script : List Action) :
    Run react s (enact react s script).1 (enact react s script).2 := by
  induction script using List.reverseRecOn with
  | nil => exact .start
  | append_singleton script action ih =>
    rw [enact, List.foldl_append]
    exact .next ih rfl

/-- A station where nothing has arrived yet. -/
def fresh (settings : ReplicaSettings) (convert : Converter ρ) : Station ρ := { replica := .ofSettings settings convert }

/-- What one observer is told of a commit: all of it, or what comes before the call that fails, and that call. -/
inductive Telling (seat : Nat) : List (Observation ρ) → List (Told ρ) → Prop
  | done : Telling seat [] []
  | well {observation rest log} : Telling seat rest log →
      Telling seat (observation :: rest) (⟨seat, observation, .ok ()⟩ :: log)
  | failed {observation rest} (fault : Fault) : Telling seat (observation :: rest) [⟨seat, observation, .error fault⟩]

/-- What all observers are told of a commit, one after another. -/
inductive Round (observations : List (Observation ρ)) : List (Nat × Nat) → List (Told ρ) → Prop
  | done : Round observations [] []
  | next {number seat rest log logs} : Telling seat observations log → Round observations rest logs →
      Round observations ((number, seat) :: rest) (log ++ logs)

/-- What was told of an arrival. -/
def Announced (received : Replica.Received ρ Nat) (log : List (Told ρ)) : Prop :=
  match received.commit with
  | some commit => Round commit.observations received.replica.observers log
  | none => log = []

section Effects

variable (react : Reaction ρ)

theorem telling_telling (s : Station ρ) (first second : List (Told ρ)) :
    (s.telling first).telling second = s.telling (first ++ second) := by
  simp only [telling, List.append_assoc]

theorem telling_nil (s : Station ρ) : s.telling [] = s := by simp only [telling, List.append_nil]

theorem effect_observe (seat : Nat) (observation : Observation ρ) (s : Station ρ) :
    Flow.effect (observe react seat observation) s =
      (react s seat observation, s.telling [⟨seat, observation, react s seat observation⟩]) := by
  simp only [observe, Flow.effect_bind, Flow.effect_get, Flow.effect_set, Flow.effect_resume]

theorem effect_observations (seat : Nat) (observations : List (Observation ρ)) (s : Station ρ) :
    ∃ result log, Telling seat observations log ∧
      Flow.effect (observations.forM (observe react seat)) s = (result, s.telling log) := by
  induction observations generalizing s with
  | nil =>
    refine ⟨.ok (), [], .done, ?_⟩
    rw [Flow.effect_forM_nil, telling_nil]
  | cons observation rest ih =>
    rw [Flow.effect_forM_cons, effect_observe]
    rcases react s seat observation with fault | _
    · exact ⟨.error fault, _, .failed fault, rfl⟩
    · obtain ⟨result, log, telling, later⟩ := ih (s.telling [⟨seat, observation, .ok ()⟩])
      refine ⟨result, _, .well telling, later.trans ?_⟩
      rw [telling_telling]
      rfl

/-- However the calls to one observer go, the next one has its turn. -/
theorem effect_tell (entity : String) (commit : Commit ρ) (observers : List (Nat × Nat)) (s : Station ρ) :
    ∃ log, Round commit.observations observers log ∧
      Flow.effect ((wiring react).tell entity commit observers) s = (.ok (), s.telling log) := by
  induction observers generalizing s with
  | nil =>
    refine ⟨[], .done, ?_⟩
    rw [Replica.Wiring.tell, Flow.effect_forM_nil, telling_nil]
  | cons observer rest ih =>
    obtain ⟨result, log, telling, first⟩ := effect_observations react observer.2 commit.observations s
    obtain ⟨logs, round, later⟩ := ih (s.telling log)
    refine ⟨log ++ logs, .next telling round, ?_⟩
    rw [← telling_telling, ← later, Replica.Wiring.tell, Flow.effect_forM_cons]
    have turn : Flow.effect (commit.observations.forM ((wiring react).observe observer.2)) s = (result, s.telling log) := first
    simp only [Flow.effect_bind, Flow.effect_outcome, turn]
    rcases result with (_ | _) | _ <;> rfl

theorem effect_settle (received : Replica.Received ρ Nat) (s : Station ρ) :
    ∃ log, Announced received log ∧ Flow.effect ((wiring react).settle received) s =
      (received.answer.mapError .failure, { s with replica := received.replica }.telling log) := by
  have kept : Flow.effect ((wiring react).keep received.replica) s = (.ok (), { s with replica := received.replica }) := rfl
  have noted : Flow.effect (received.notices.forM Flow.note) { s with replica := received.replica } =
      (.ok (), { s with replica := received.replica }) := Flow.effect_forM_same (fun _ => rfl) _
  simp only [Replica.Wiring.settle, Flow.effect_bind, kept, noted, Announced]
  rcases received.commit with _ | commit
  · refine ⟨[], rfl, ?_⟩
    rw [telling_nil]
    exact Flow.effect_ofExcept received.answer _
  · obtain ⟨log, round, told⟩ := effect_tell react received.replica.entity commit received.replica.observers
      { s with replica := received.replica }
    refine ⟨log, round, ?_⟩
    simp only [Flow.effect_bind, told, Flow.effect_ofExcept]

end Effects

variable {react : Reaction ρ} {s t u : Station ρ} {answer : Except Fault Unit}

/-- What an arrival does to a station. -/
theorem act_arrive {arrival : Arrival} (acts : act react (.arrive arrival) s = (answer, t)) :
    ∃ log, Announced (s.replica.take arrival) log ∧ answer = (s.replica.take arrival).answer.mapError .failure ∧
      t = { s with replica := (s.replica.take arrival).replica }.telling log := by
  obtain ⟨log, announced, settled⟩ := effect_settle react (s.replica.take arrival) s
  have same : act react (.arrive arrival) s = Flow.effect ((wiring react).settle (s.replica.take arrival)) s := by
    simp only [act, perform, Flow.effect_bind, Flow.effect_get]
  rw [acts, settled] at same
  exact ⟨log, announced, congrArg Prod.fst same, congrArg Prod.snd same⟩

/-- Nobody is told of what comes to no commit. -/
theorem act_untold {arrival : Arrival} {ended : Except Failure Unit} {replica : Replica ρ Nat} {notices : List Notice}
    (taken : s.replica.take arrival = ⟨ended, replica, none, notices⟩) :
    act react (.arrive arrival) s = (ended.mapError .failure, { s with replica }) := by
  obtain ⟨log, announced, settled⟩ := effect_settle react (s.replica.take arrival) s
  rw [taken] at announced settled
  cases announced
  rw [telling_nil] at settled
  simp only [act, perform, Flow.effect_bind, Flow.effect_get, taken]
  exact settled

theorem act_start (acts : act react (.arrive (.signal .start)) s = (.ok (), t)) :
    t = { s with replica := { s.replica with phase := .opened {} } } := by
  have comes := s.replica.comes (.signal .start)
  obtain ⟨log, announced, ended, rfl⟩ := act_arrive acts
  generalize s.replica.take (.signal .start) = received at comes ended announced
  cases comes with
  | started =>
    cases announced
    exact telling_nil _
  | refused => cases ended

/-- A transaction that is open can be finished. -/
theorem act_finish {staging : Staging ρ} (opened : s.replica.phase = .opened staging)
    (acts : act react (.arrive (.signal .finish)) s = (answer, t)) :
    answer = .ok () ∧ ∃ log, Round (s.replica.live.commit staging).2.observations s.replica.observers log ∧
      t = { s with replica := (s.replica.committing staging).replica }.telling log := by
  have finished : s.replica.take (.signal .finish) = s.replica.committing staging := by
    simp only [Replica.take, Replica.receive, Replica.finish, opened]
    rfl
  obtain ⟨log, announced, rfl, rfl⟩ := act_arrive acts
  rw [finished] at announced ⊢
  exact ⟨rfl, log, announced, rfl⟩

/-- What a step commits, if it commits anything. -/
def Step.commit? (step : Step ρ) : Option (Commit ρ) :=
  match step.action with
  | .arrive arrival => (step.before.replica.take arrival).commit
  | .join | .leave _ => none

/-- What an action can do to what readers see and observers are told. -/
inductive Moves (s : Station ρ) : Station ρ → Prop
  | rests {replica} : replica.live = s.replica.live → replica.observers = s.replica.observers → Moves s { s with replica }
  | commits {replica log} (staging : Staging ρ) : replica.live = (s.replica.live.commit staging).1 →
      replica.observers = s.replica.observers →
      Round (s.replica.live.commit staging).2.observations s.replica.observers log →
      Moves s ({ s with replica }.telling log)
  | joins : Moves s
      { s with replica := (s.replica.addObserver s.seats.length).2, seats := s.seats ++ [s.replica.live.records] }
  | leaves (number : Nat) : Moves s { s with replica := (s.replica.removeObserver number).2 }

theorem act_moves {action : Action} (acts : act react action s = (answer, t)) : Moves s t := by
  cases action with
  | arrive arrival =>
    have comes := s.replica.comes arrival
    obtain ⟨log, announced, _, rfl⟩ := act_arrive acts
    rcases comes.commits with ⟨quiet, same⟩ | ⟨staging, commits⟩
    · rw [Announced, quiet] at announced
      subst announced
      rw [telling_nil]
      exact .rests same comes.observers
    · rw [commits] at announced ⊢
      exact .commits staging rfl rfl announced
  | join =>
    cases acts
    exact .joins
  | leave number =>
    cases acts
    exact .leaves number

end Station

end ReferenceFeed
