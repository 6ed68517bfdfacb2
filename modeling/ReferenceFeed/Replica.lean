import ReferenceFeed.Conversion.Value
import ReferenceFeed.Flow
import ReferenceFeed.Membership
import ReferenceFeed.Payload
import ReferenceFeed.Settings

namespace ReferenceFeed

/-!
The records of one entity on the side of a consumer. Entries are converted as they arrive and staged; readers
see the last commit until the next one. A block cannot be taken up again in the middle, so a cancel with a
transaction open ends the life of a replica: it keeps serving what it has and accepts nothing more.
-/

/-- What readers of a replica see. -/
structure Committed (ρ : Type) where
  records : Keyed ρ := ∅
  membership : Membership := ∅
  /-- The columns of the last transaction that had some. -/
  header : Option Header := none

/-- What the staged entries replace. -/
inductive Scope where
  /-- Only the ids that are mentioned. -/
  | mentioned
  | everything
  /-- All that holds one of the group values. -/
  | groups (keys : List GroupValue)
  deriving DecidableEq, Repr

/-- What a transaction has brought so far. -/
structure Staging (ρ : Type) where
  scope : Scope := .mentioned
  header : Option Header := none
  updated : Keyed (ρ × Keyed String) := ∅
  removed : Names := ∅

/-- Where a replica is in the protocol. -/
inductive Phase (ρ : Type) where
  | idle
  | opened (staging : Staging ρ)
  | poisoned

/-- What a commit changed, as observers are told. -/
structure Commit (ρ : Type) where
  updated : Keyed ρ := ∅
  removed : Names := ∅

/-- The records of an entity, and the observers of its commits. -/
structure Replica (ρ ω : Type) where
  settings : ReplicaSettings
  convert : Converter ρ
  live : Committed ρ := {}
  phase : Phase ρ := .idle
  loaded : Bool := false
  observers : List (Nat × ω) := []
  nextObserver : Nat := 1

namespace Staging

variable {ρ : Type}

/-- The number of staged changes. -/
def size (s : Staging ρ) : Nat := s.updated.size + s.removed.size

/-- From here on everything is replaced, and what came before is void. -/
def reload (header : Header) : Staging ρ := { scope := .everything, header := some header }

/-- One more group value is replaced, unless everything is. -/
def reloadGroup (s : Staging ρ) (key : GroupValue) : Staging ρ :=
  match s.scope with
  | .everything => s
  | .groups keys => { s with scope := .groups (keys ++ [key]) }
  | .mentioned => { s with scope := .groups [key] }

def update (s : Staging ρ) (entry : Entry) (record : ρ) : Staging ρ :=
  { s with removed := s.removed.erase entry.id, updated := s.updated.insert entry.id (record, entry.groups) }

def remove (s : Staging ρ) (id : String) : Staging ρ :=
  { s with updated := s.updated.erase id, removed := s.removed.insert id }

end Staging

namespace Committed

variable {ρ : Type}

/-- The ids that a scope replaces. -/
def within (c : Committed ρ) : Scope → Names
  | .mentioned => ∅
  | .everything => Keyed.names c.records
  | .groups keys => keys.foldl (fun ids key => ids ∪ c.membership.of key) ∅

/-- The ids that a commit removes: those removed or replaced that are there and not updated. -/
def leaving (c : Committed ρ) (s : Staging ρ) : Names :=
  (s.removed ∪ c.within s.scope).filter fun id => !s.updated.contains id && c.records.contains id

/-- Takes records out. -/
def without (c : Committed ρ) (ids : Names) : Committed ρ :=
  ids.toList.foldl (fun c id => { c with records := c.records.erase id, membership := c.membership.remove id }) c

/-- Puts staged records in. -/
def including (c : Committed ρ) (updated : Keyed (ρ × Keyed String)) : Committed ρ :=
  updated.toList.foldl (fun c (id, record, groups) =>
    { c with records := c.records.insert id record, membership := c.membership.insert id groups }) c

/-- What readers see after a commit, and what changed. -/
def commit (c : Committed ρ) (s : Staging ρ) : Committed ρ × Commit ρ :=
  let leaving := c.leaving s
  ({ (c.without leaving).including s.updated with header := s.header <|> c.header },
    ⟨s.updated.map fun _ staged => staged.1, leaving⟩)

end Committed

/-- One call to an observer. -/
inductive Observation (ρ : Type) where
  | updated (records : Keyed ρ)
  | removed (ids : Names)

/-- The calls that tell an observer of a commit. Nothing is told of where nothing happened. -/
def Commit.observations {ρ : Type} (c : Commit ρ) : List (Observation ρ) :=
  (if c.updated.isEmpty then [] else [.updated c.updated]) ++ (if c.removed.isEmpty then [] else [.removed c.removed])

namespace Replica

variable {ρ ω : Type}

def entity (r : Replica ρ ω) : String := r.settings.entity

/-- A replica that has not heard of anything. -/
def ofSettings (settings : ReplicaSettings) (convert : Converter ρ) : Replica ρ ω := { settings, convert }

def isPoisoned (r : Replica ρ ω) : Bool :=
  match r.phase with
  | .poisoned => true
  | _ => false

/-- The answer of a replica whose life has ended. -/
def refusal (r : Replica ρ ω) : Failure := .poisoned (.refusing r.entity)

/-- Refuses events of other entities. -/
def checkEntity (r : Replica ρ ω) (entity : String) : Except Failure Unit :=
  if entity = r.entity then .ok () else .error (.violation (.wrongEntity entity r.entity))

/-- What is staged, if a transaction is open. -/
def staging (r : Replica ρ ω) : Except Failure (Staging ρ) :=
  match r.phase with
  | .opened s => .ok s
  | .idle => .error (.violation .outside)
  | .poisoned => .error r.refusal

/-- Converts an entry. A conversion that fails is blamed on the entity of the replica. -/
def converted (r : Replica ρ ω) (header : Header) (entry : Entry) : Except Failure ρ :=
  (r.convert header entry).mapError fun
    | .conversion _ id reason => .conversion r.entity id reason
    | cause => cause

/-- Opens a transaction. -/
def start (r : Replica ρ ω) : Except Failure (Replica ρ ω) :=
  match r.phase with
  | .idle => .ok { r with phase := .opened {} }
  | .opened _ => .error (.violation .startWhileOpen)
  | .poisoned => .error r.refusal

/-- Stages an event of the open transaction. -/
def stage (r : Replica ρ ω) (s : Staging ρ) : Event → Except Failure (Staging ρ)
  | .reload _ header => .ok (.reload header)
  | .reloadGroup _ group value => .ok (s.reloadGroup ⟨group, value⟩)
  | .block _ header => .ok { s with header := some header }
  | .update _ header entry => (r.converted header entry).map (s.update entry)
  | .remove _ id => .ok (s.remove id)

/-- Receives an event. -/
def event (r : Replica ρ ω) (event : Event) : Except Failure (Replica ρ ω) := do
  r.checkEntity event.entity
  let s ← r.staging
  return { r with phase := .opened (← r.stage s event) }

/-- Commits the open transaction. -/
def finish (r : Replica ρ ω) : Except Failure (Commit ρ × Replica ρ ω) :=
  match r.phase with
  | .opened s =>
    let (live, commit) := r.live.commit s
    .ok (commit, { r with live, phase := .idle, loaded := true })
  | .idle => .error (.violation .finishWithoutStart)
  | .poisoned => .error r.refusal

/-- Abandons the open transaction, which no replica survives. Every answer is a failure. -/
def cancel (r : Replica ρ ω) : Failure × Replica ρ ω × List Notice :=
  match r.phase with
  | .opened s => (.cancelled r.entity, { r with phase := .poisoned }, [.replicaPoisoned r.entity s.size])
  | .idle => (.violation .cancelWithoutStart, r, [])
  | .poisoned => (r.refusal, r, [])

/-- What a call leaves behind: an answer, the replica afterwards, the commit if there was one, and notices. -/
structure Received (ρ ω : Type) where
  answer : Except Failure Unit
  replica : Replica ρ ω
  commit : Option (Commit ρ) := none
  notices : List Notice := []

/-- Receives a call. A call that is refused changes nothing, except that a cancel may poison. -/
def receive (r : Replica ρ ω) : Signal → Received ρ ω
  | .start =>
    match r.start with
    | .ok r => ⟨.ok (), r, none, []⟩
    | .error cause => ⟨.error cause, r, none, []⟩
  | .event event =>
    match r.event event with
    | .ok r => ⟨.ok (), r, none, []⟩
    | .error cause => ⟨.error cause, r, none, []⟩
  | .finish =>
    match r.finish with
    | .ok (commit, r) => ⟨.ok (), r, some commit, []⟩
    | .error cause => ⟨.error cause, r, none, []⟩
  | .cancel =>
    let (cause, r, notices) := r.cancel
    ⟨.error cause, r, none, notices⟩

/-- Receives events until one is refused. -/
def receiveEvents (r : Replica ρ ω) : List Event → Except Failure Unit × Replica ρ ω
  | [] => (.ok (), r)
  | event :: rest =>
    match r.event event with
    | .error cause => (.error cause, r)
    | .ok r => r.receiveEvents rest

/-- Applies a payload as one transaction. If one of its records is refused, the transaction is cancelled, and
the answer is why it was refused. -/
def applyPayload (r : Replica ρ ω) (text : String) (whole : Bool) : Received ρ ω :=
  match Payload.read text with
  | .error cause => ⟨.error cause, r, none, []⟩
  | .ok payload =>
    match r.start with
    | .error cause => ⟨.error cause, r, none, []⟩
    | .ok started =>
      match started.receiveEvents (payload.events r.entity whole) with
      | (.ok (), r) => r.receive .finish
      | (.error cause, r) =>
        let (_, r, notices) := r.cancel
        ⟨.error cause, r, none, notices⟩

/-- The record of an id. -/
def get? (r : Replica ρ ω) (id : String) : Option ρ := r.live.records[id]?

/-- The record of an id that has to be there. -/
def find (r : Replica ρ ω) (id : String) : Except Failure ρ :=
  match r.get? id with
  | some record => .ok record
  | none => .error (.notFound r.entity id)

/-- The ids that hold a group value. -/
def membersOf (r : Replica ρ ω) (key : GroupValue) : Names := r.live.membership.of key

/-- The outcome of waiting a while for the first commit, when none comes. -/
def waitLoaded (r : Replica ρ ω) (milliseconds : Nat) : Except Failure Unit :=
  if r.loaded then .ok ()
  else if r.isPoisoned then .error (.poisoned (.beforeLoad r.entity))
  else .error (.unavailable (.notLoaded r.entity milliseconds))

/-- Adds an observer under the next number. -/
def addObserver (r : Replica ρ ω) (observer : ω) : Nat × Replica ρ ω :=
  (r.nextObserver, { r with observers := r.observers ++ [(r.nextObserver, observer)], nextObserver := r.nextObserver + 1 })

/-- Takes an observer away and gives it back, if it was there. -/
def removeObserver (r : Replica ρ ω) (id : Nat) : Option ω × Replica ρ ω :=
  ((r.observers.find? fun (number, _) => number = id).map Prod.snd,
    { r with observers := r.observers.filter fun (number, _) => number ≠ id })

/-- Where a replica is kept inside a state, and how its observers are told. -/
structure Wiring (σ ρ ω : Type) where
  keep : Replica ρ ω → Flow σ Unit
  observe : ω → Observation ρ → Flow σ Unit

namespace Wiring

variable {σ : Type} [Journal σ] (w : Wiring σ ρ ω)

/-- Tells every observer of a commit. One that panics hears nothing more of it. -/
def tell (entity : String) (commit : Commit ρ) (observers : List (Nat × ω)) : Flow σ Unit :=
  observers.forM fun (number, observer) => do
    match ← Flow.outcome (commit.observations.forM (w.observe observer)) with
    | .ok _ => return
    | .error (.panic message) =>
      Flow.note (.observerPanicked entity number (message.getD "non-string panic payload"))
    | .error (.failure cause) => Flow.note (.observerPanicked entity number cause.message)

/-- Keeps what a replica became, and tells its observers. -/
def settle (received : Received ρ ω) : Flow σ Unit := do
  w.keep received.replica
  received.notices.forM Flow.note
  match received.commit with
  | some commit => w.tell received.replica.entity commit received.replica.observers
  | none => pure ()
  Flow.ofExcept received.answer

end Wiring

end Replica

end ReferenceFeed
