import ReferenceFeed.Catalogue
import ReferenceFeed.Origin
import ReferenceFeed.Proofs.Effect

namespace ReferenceFeed

/-!
An origin among those who use it: subscribers, senders and a source of any behaviour, handles that are called in
any order, and threads that take turns. What a site can come to is what an origin can come to.
-/

/-- A call that somebody got at a seat, and how it was answered. -/
structure Heard where
  seat : Nat
  signal : Signal
  answer : Except Fault Unit

/-- An origin, the tables its source may serve from, and all that went out so far. -/
structure Site where
  origin : Origin Nat := {}
  catalogue : Catalogue := {}
  outbox : Outbox Nat := {}
  /-- The number of seats. Every channel that was ever brought has one of its own. -/
  seats : Nat := 0
  heard : List Heard := []
  published : List Message := []
  /-- What each sender was handed. -/
  handed : List (Nat × Message) := []
  thread : Thread := 0

/-- Nothing here depends on notices, so a site does not keep them. -/
instance : Journal Site := ⟨fun _ site => site⟩

/-- How everybody around an origin behaves. Nobody calls back; apart from that a behaviour may depend on all
that happened before. A source sends events only, and a sender may fail but does not panic. -/
structure Conduct where
  serves : Site → Except Fault (List String)
  fetch : Site → Request → Feed
  answer : Site → Nat → Signal → Except Fault Unit
  accept : Site → Nat → Message → Except Failure Unit
  fetch_events : ∀ site request, ∀ signal ∈ (fetch site request).signals, ∃ event, signal = .event event

/-- Nobody refuses anything, and the source has nothing. -/
def Conduct.quiet : Conduct where
  serves _ := .ok []
  fetch _ _ := ⟨[], .ok ()⟩
  answer _ _ _ := .ok ()
  accept _ _ _ := .ok ()
  fetch_events _ _ _ member := by cases member

/-- A change of the tables. -/
inductive Catalogue.Mutation where
  | load (entity text : String)
  | composeIds (entity : String) (columns : List String)
  | declareGroup (entity group : String)
  | upsert (entity : String) (fields : List Field)
  | delete (entity id : String)
  deriving DecidableEq

/-- The tables after a change that may have been refused. -/
def Catalogue.after (c : Catalogue) {α : Type} (pick : α → Catalogue) : Except Failure α → Except Failure Unit × Catalogue
  | .ok changed => (.ok (), pick changed)
  | .error cause => (.error cause, c)

/-- How a change of the tables is answered, and what it leaves. -/
def Catalogue.mutate (c : Catalogue) : Mutation → Except Failure Unit × Catalogue
  | .load entity text => ((c.load entity text).answer, (c.load entity text).catalogue)
  | .composeIds entity columns => ((c.composeIds entity columns).answer, (c.composeIds entity columns).catalogue)
  | .declareGroup entity group => c.after id (c.declareGroup entity group)
  | .upsert entity fields => c.after id (c.upsert entity fields)
  | .delete entity key => c.after Prod.snd (c.delete entity key)

namespace Site

def withFanout (s : Site) (fanout : Fanout Nat) : Site := { s with origin := { s.origin with fanout } }

def withLive (s : Site) (live : Keyed Store) : Site := { s with origin := { s.origin with live } }

/-- Some more calls were made. -/
def hearing (s : Site) (log : List Heard) : Site := { s with heard := s.heard ++ log }

/-- Makes a call to a seat. -/
def call (c : Conduct) (seat : Nat) (signal : Signal) : Flow Site Unit := do
  let site ← get
  let answer := c.answer site seat signal
  set (site.hearing [⟨seat, signal, answer⟩])
  Flow.resume answer

/-- Hands a message to one sender. -/
def hand (c : Conduct) (sender : Nat) (message : Message) : Flow Site Unit := do
  modify fun site => { site with handed := site.handed ++ [(sender, message)] }
  Flow.ofExcept (c.accept (← get) sender message)

/-- Hands a message to the senders. -/
def send (c : Conduct) (message : Message) : Flow Site Unit := do
  modify fun site => { site with published := site.published ++ [message] }
  (← get).outbox.publish (hand c) message

/-- The origin of a site, as it reaches everybody around it. -/
def wiring (c : Conduct) : Origin.Wiring Site Nat where
  call := call c
  hold _ site := site
  release _ := pure ()
  place := ⟨Site.origin, fun origin site => { site with origin }⟩
  thread := Site.thread
  serves := c.serves
  fetch := c.fetch
  send := send c
  retire _ site := site

/-- What can be asked of a site. -/
inductive Action where
  | begin
  | call (number : Nat) (signal : Signal)
  | drop (number : Nat)
  | reload (entity : String)
  | reloadAll
  | reloadGroup (entity : String) (key : GroupValue)
  | refresh (entity : String) (ids : Names)
  | refreshNamed (entity text : String)
  | applyRows (entity : String) (header : Header) (rows : List String)
  | republish (entity id : String)
  | subscribe (interest : Interest)
  | unsubscribe (id : Nat)
  | register (sender : Nat)
  | mutate (change : Catalogue.Mutation)
  deriving DecidableEq

inductive Answer where
  | done
  | number (value : Nat)
  | changes (value : Changes)
  | flag (value : Bool)
  deriving DecidableEq

/-- Refuses sessions that do not exist. -/
def present (number : Nat) : Flow Site Unit := do
  Flow.ofExcept (if (← get).origin.sessions.contains number then .ok () else .error (.violation .outside))

/-- Takes the next free seat. -/
def nextSeat : Flow Site Nat := do
  let site ← get
  set { site with seats := site.seats + 1 }
  return site.seats

/-- Does what is asked. -/
def perform (c : Conduct) : Action → Flow Site Answer
  | .begin => .number <$> (wiring c).begin
  | .call number signal => do
    present number
    (fun _ => .done) <$> (wiring c).receive number signal
  | .drop number => do
    present number
    (fun _ => .done) <$> (wiring c).drop number
  | .reload entity => (fun _ => .done) <$> (wiring c).reload entity
  | .reloadAll => (fun _ => .done) <$> (wiring c).reloadAll
  | .reloadGroup entity key => (fun _ => .done) <$> (wiring c).reloadGroup entity key
  | .refresh entity ids => .changes <$> (wiring c).refresh entity ids
  | .refreshNamed entity text => .changes <$> (wiring c).refreshNamed entity text
  | .applyRows entity header rows => .changes <$> (wiring c).applyRows entity header rows
  | .republish entity id => .changes <$> (wiring c).republish entity id
  | .subscribe interest => do
    let seat ← nextSeat
    .number <$> (wiring c).subscribe interest seat
  | .unsubscribe id => .flag <$> (wiring c).unsubscribe id
  | .register sender => do
    modify fun site => { site with outbox := site.outbox.register sender }
    return .done
  | .mutate change => do
    let site ← get
    set { site with catalogue := (site.catalogue.mutate change).2 }
    (fun _ => .done) <$> Flow.ofExcept (site.catalogue.mutate change).1

/-- How a thread is answered when it asks something of a site, and what the site is afterwards. -/
def act (c : Conduct) (thread : Thread) (action : Action) (s : Site) : Except Fault Answer × Site :=
  Flow.effect (perform c action) { s with thread }

theorem act_after {c : Conduct} {thread : Thread} {action : Action} {s t : Site} {answer : Except Fault Answer}
    (acts : act c thread action s = (answer, t)) : (Flow.effect (perform c action) { s with thread }).2 = t :=
  congrArg Prod.snd acts

/-- One action of a run. -/
structure Step where
  before : Site
  thread : Thread
  action : Action
  answer : Except Fault Answer

/-- A run is some actions one after another. -/
inductive Run (c : Conduct) : Site → List Step → Site → Prop
  | start {s} : Run c s [] s
  | next {s steps t thread action answer u} :
      Run c s steps t → act c thread action t = (answer, u) → Run c s (steps ++ [⟨t, thread, action, answer⟩]) u

/-- What a step leaves. -/
def Step.after (c : Conduct) (step : Step) : Site := (act c step.thread step.action step.before).2

/-- What is asked of a site next, with the answer. -/
def asking (c : Conduct) (s : Site) (thread : Thread) (action : Action) : Step :=
  ⟨s, thread, action, (act c thread action s).1⟩

theorem Run.asking {c : Conduct} {s t : Site} {steps : List Step} (run : Run c s steps t) (thread : Thread) (action : Action) :
    Run c s (steps ++ [asking c t thread action]) ((asking c t thread action).after c) := .next run rfl

/-- What a site can come to. A live store may also be changed directly, by whoever was given it. -/
inductive Reachable (c : Conduct) : Site → Prop
  | fresh (settings catalogue) : Reachable c { origin := { settings }, catalogue }
  | next {s} (thread action) : Reachable c s → Reachable c (act c thread action s).2
  | put {s entity store} (entry) :
      Reachable c s → s.origin.live[entity]? = some store →
      Reachable c (s.withLive (s.origin.live.insert entity (store.put entry)))
  | remove {s entity store} (id) :
      Reachable c s → s.origin.live[entity]? = some store →
      Reachable c (s.withLive (s.origin.live.insert entity (store.remove id)))

theorem Run.reachable {c : Conduct} {s t : Site} {steps : List Step} (run : Run c s steps t) (reach : Reachable c s) :
    Reachable c t := by
  induction run with
  | start => exact reach
  | @next steps t thread action answer u previous done ih =>
    have same : u = (act c thread action t).2 := by rw [done]
    rw [same]
    exact .next thread action ih

/-- What every allowed step keeps holds at the end of a run. -/
theorem Run.kept {c : Conduct} {s t : Site} {steps : List Step} {Allowed : Step → Prop} (run : Run c s steps t)
    (Kept : Site → Prop) (first : Kept s) (allowed : ∀ step ∈ steps, Allowed step)
    (keeps : ∀ step, Allowed step → Kept step.before → Kept (step.after c)) : Kept t := by
  induction run with
  | start => exact first
  | @next steps t thread action answer u _ acts ih =>
    have before := ih fun step member => allowed step (List.mem_append_left _ member)
    have after := keeps _ (allowed _ (List.mem_append_right _ (List.mem_singleton_self _))) before
    rw [Step.after, acts] at after
    exact after

theorem Run.append {c : Conduct} {s t u : Site} {first second : List Step} (run : Run c s first t) (next : Run c t second u) :
    Run c s (first ++ second) u := by
  induction next with
  | start =>
    rw [List.append_nil]
    exact run
  | next _ acts ih =>
    rw [← List.append_assoc]
    exact .next ih acts

/-- The run in which some threads ask for something, one after another. -/
def enact (c : Conduct) (s : Site) (script : List (Thread × Action)) : List Step × Site :=
  script.foldl (fun (steps, s) (thread, action) =>
    (steps ++ [asking c s thread action], (act c thread action s).2)) ([], s)

theorem run_enact (c : Conduct) (s : Site) (script : List (Thread × Action)) :
    Run c s (enact c s script).1 (enact c s script).2 := by
  have goes_on : ∀ steps t, Run c s steps t →
      Run c s (script.foldl (fun (steps, s) (thread, action) =>
        (steps ++ [asking c s thread action], (act c thread action s).2)) (steps, t)).1
        (script.foldl (fun (steps, s) (thread, action) =>
          (steps ++ [asking c s thread action], (act c thread action s).2)) (steps, t)).2 := by
    induction script with
    | nil => exact fun _ _ run => run
    | cons turn rest ih => exact fun steps t run => ih _ _ (run.asking turn.1 turn.2)
  exact goes_on [] s .start

variable (c : Conduct)

@[simp] theorem wiring_call : (wiring c).call = call c := rfl

@[simp] theorem wiring_send : (wiring c).send = send c := rfl

@[simp] theorem wiring_fanout_call : (wiring c).fanout.call = call c := rfl

@[simp] theorem wiring_fanout_place_get (s : Site) : (wiring c).fanout.place.get s = s.origin.fanout := rfl

@[simp] theorem wiring_fanout_place_set (s : Site) (fanout : Fanout Nat) :
    (wiring c).fanout.place.set fanout s = s.withFanout fanout := rfl

@[simp] theorem wiring_place_get (s : Site) : (wiring c).place.get s = s.origin := rfl

@[simp] theorem wiring_place_set (s : Site) (origin : Origin Nat) :
    (wiring c).place.set origin s = { s with origin } := rfl

theorem effect_call (seat : Nat) (signal : Signal) (s : Site) :
    Flow.effect (call c seat signal) s =
      (c.answer s seat signal, s.hearing [⟨seat, signal, c.answer s seat signal⟩]) := by
  simp only [call, Flow.effect_bind, Flow.effect_get, Flow.effect_set, Flow.effect_resume]

/-- Whatever senders do, each of them is handed every message, and nothing else happens. -/
theorem effect_publish (outbox : Outbox Nat) (message : Message) (s : Site) :
    Flow.effect (outbox.publish (hand c) message) s =
      (.ok (), { s with handed := s.handed ++ outbox.senders.map (·, message) }) := by
  have handing : ∀ (senders : List Nat) (s : Site),
      senders.foldl (fun s sender => { s with handed := s.handed ++ [(sender, message)] }) s =
        { s with handed := s.handed ++ senders.map (·, message) } := by
    intro senders
    induction senders with
    | nil => intro s; simp
    | cons sender rest ih => intro s; simp [ih]
  rw [Outbox.publish, ← handing]
  refine Flow.effect_forM_each (fun sender s => ?_) _ _
  simp only [hand, Flow.effect_bind, Flow.effect_attempt, Flow.effect_modify, Flow.effect_get, Flow.effect_ofExcept]
  rcases c.accept _ sender message with cause | _ <;> rfl

theorem effect_send (message : Message) (s : Site) :
    Flow.effect (send c message) s = (.ok (), { s with
      published := s.published ++ [message], handed := s.handed ++ s.outbox.senders.map (·, message) }) := by
  simp only [send, Flow.effect_bind, Flow.effect_modify, Flow.effect_get, effect_publish]

end Site

end ReferenceFeed
