import ReferenceFeed.Workbench.Part

namespace ReferenceFeed

/-!
How the parts on a workbench call each other, and how they end. The end of a part may be the end of others, and
a session that ends with a transaction open cancels it. A part may end up calling itself, so calls are only
followed to a certain depth; a fan-out takes no second transaction while it has one, and no chain of calls gets
that far.
-/

namespace Workbench

/-- Writes notices down. -/
def noteAll (notices : List Notice) : Flow Workbench Unit := notices.forM Flow.note

/-- Puts a part in the place of what it was. -/
def put (id : PartId) (part : Part) : Flow Workbench Unit := modify (·.withPart id part)

/-- Tells an observer what changed. -/
def observe (id : PartId) (observation : Observation DataRecord) : Flow Workbench Unit := do
  match (← get).part? id with
  | some (.observer p) =>
    put id (.observer (p.told observation))
    Flow.resume (p.answer observation)
  | some (.single x) =>
    let (x, notices) := x.observe observation
    put id (.single x)
    noteAll notices
  | some (.many x) => put id (.many (x.observe observation))
  | _ => return

/-- How a replica on a workbench is wired. -/
def replica (id : PartId) : Replica.Wiring Workbench DataRecord PartId where
  keep r := put id (.replica r)
  observe := observe

/-- Hands a message to a sender. -/
def send (id : PartId) (message : Message) : Flow Workbench Unit := do
  match (← get).part? id with
  | some (.sender p) =>
    put id (.sender (p.given message))
    match p.failure with
    | some cause => Flow.fail cause
    | none => return
  | some (.queue q sending) =>
    match q.offer message with
    | .error cause => Flow.fail cause
    | .ok (notices, q) =>
      put id (.queue q sending)
      noteAll notices
  | _ => return

/-- How a fan-out on a workbench is wired. -/
def fanoutWiring (channels : Channels Workbench PartId) (id : PartId) : Fanout.Wiring Workbench PartId where
  toChannels := channels
  place := fanoutPlace id
  thread := Workbench.thread

/-- How an origin on a workbench is wired. -/
def originWiring (channels : Channels Workbench PartId) (id : PartId) : Origin.Wiring Workbench PartId where
  toChannels := channels
  place := originPlace id
  thread := Workbench.thread
  serves b := (b.sourceOf id).entities
  fetch b request := (b.sourceOf id).fetch b.recorded request
  send message := do ((← get).outboxOf id).publish send message
  retire := retire id

/-- Makes a call to a part, which may pass it on. -/
def callBy (channels : Channels Workbench PartId) (id : PartId) (signal : Signal) : Flow Workbench Unit := do
  match (← get).part? id with
  | some (.recorder r) =>
    let r ← Flow.ofExcept (r.receive signal)
    put id (.recorder r)
  | some (.probe p) =>
    put id (.probe (p.heard signal))
    Flow.resume (p.answer signal)
  | some (.fanout _) => (fanoutWiring channels id).receive signal
  | some (.session origin number) => (originWiring channels origin).receive number signal
  | some (.replica r) => (replica id).settle (r.receive signal)
  | _ => return

/-- Ends a part that nobody holds. It lets go of what it holds after its own end. -/
def endBy (channels : Channels Workbench PartId) (id : PartId) (part : Part) : Flow Workbench Unit := do
  match part with
  | .session origin number => (originWiring channels origin).drop number
  | .origin o _ _ => modify fun b => o.live.values.foldl (fun b store => retire id store b) b
  | _ => pure ()
  modify fun b => { b with parts := b.parts.erase id }
  channels.letGo (heldBy part)

/-- Gives up one hold on a part in hand, and ends the part if that was the last. -/
def releaseBy (channels : Channels Workbench PartId) (id : PartId) : Flow Workbench Unit := do
  modify (·.dropping id)
  let b ← get
  match b.part? id with
  | some part => unless b.isHeld id do endBy channels id part
  | none => return

/-- The parts as channels, following at most `depth` calls and ends from one part to the next. -/
def channelsWithin : Nat → Channels Workbench PartId
  | 0 => { call := fun _ _ => throw (.panic none), hold := holding, release := fun _ => throw (.panic none) }
  | depth + 1 => {
      call := fun id signal => callBy (channelsWithin depth) id signal
      hold := holding
      release := fun id => releaseBy (channelsWithin depth) id }

/-- More calls in a row than the parts on a workbench can make. -/
def depth (b : Workbench) : Nat := 8 * b.next + 64

/-- The parts as channels. -/
def channels : Channels Workbench PartId where
  call id signal := do (channelsWithin (← get).depth).call id signal
  hold := holding
  release id := do (channelsWithin (← get).depth).release id

/-- Makes a call to a channel. -/
def call (id : PartId) (signal : Signal) : Flow Workbench Unit := channels.call id signal

/-- Gives up holds that are kept nowhere else any more. -/
def letGo (ids : List PartId) : Flow Workbench Unit := channels.letGo ids

/-- Takes a name away, and with it the hold of the name. -/
def unname (name : String) : Flow Workbench Unit := do
  let b ← get
  set (b.unnaming name)
  letGo (b.named? name).toList

/-- Names a part. What had the name before loses it. -/
def rename (name : String) (id : PartId) : Flow Workbench Unit := do
  let b ← get
  set ((b.unnaming name).naming name id)
  letGo (b.named? name).toList

/-- The wiring of a fan-out. -/
def fanout (id : PartId) : Fanout.Wiring Workbench PartId := fanoutWiring channels id

/-- The wiring of an origin. -/
def origin (id : PartId) : Origin.Wiring Workbench PartId := originWiring channels id

/-- Makes the calls that an act stands for. -/
def act (id : PartId) (act : Act) : Flow Workbench Unit := do
  let signals ← Flow.ofExcept (act.signals (← get).recorded)
  signals.forM (call id)

end Workbench

end ReferenceFeed
