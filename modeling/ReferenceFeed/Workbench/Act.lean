import ReferenceFeed.Catalogue
import ReferenceFeed.Recorder

namespace ReferenceFeed

/-!
Calls of the protocol as they are asked for, with headers and entries still in the form they were written in.
-/

/-- A header, as a text or by its names. -/
inductive HeaderForm where
  | text (header : String)
  | names (columns : List String)
  deriving DecidableEq, Repr

/-- The header that a form describes. -/
def HeaderForm.header : HeaderForm → Except Failure Header
  | .text written => Header.read written
  | .names columns => (Header.ofNames columns).mapError fun fault => .columns (.header fault)

/-- What an entry is made of. -/
inductive EntrySource where
  | fields (values : List Field)
  | row (written : String)
  /-- An id and a row that nobody compares. -/
  | given (id row : String)
  deriving DecidableEq, Repr

/-- An entry, by what it is made of and the groups it carries. -/
structure EntryForm where
  source : EntrySource
  groups : Keyed String := ∅
  deriving DecidableEq

/-- The entry that a form describes. -/
def EntryForm.entry (form : EntryForm) : Except Failure Entry :=
  let made : Except Entry.Fault Entry := match form.source with
    | .fields values => Entry.ofFields values
    | .row written => Entry.ofRow written
    | .given id row => .ok ⟨id, row, ∅⟩
  match made with
  | .ok entry => .ok { entry with groups := form.groups }
  | .error fault => .error (.encoding (.entry fault))

/-- A call, or several calls that are made together. -/
inductive Act where
  | start
  | reload (entity : String) (header : HeaderForm)
  | reloadGroup (entity group value : String)
  | block (entity : String) (header : HeaderForm)
  | update (entity : String) (header : HeaderForm) (entry : EntryForm)
  | remove (entity id : String)
  | finish
  | cancel
  /-- The events of a payload. -/
  | present (entity text : String) (whole : Bool)
  /-- The events that a recorder has. -/
  | replay (recorder : String)

/-- The calls that an act stands for. Recorders are looked up by name. -/
def Act.signals (recorded : String → List Event) : Act → Except Failure (List Signal)
  | .start => .ok [.start]
  | .reload entity header => do return [.event (.reload entity (← header.header))]
  | .reloadGroup entity group value => .ok [.event (.reloadGroup entity group value)]
  | .block entity header => do return [.event (.block entity (← header.header))]
  | .update entity header entry => do
    let header ← header.header
    return [.event (.update entity header (← entry.entry))]
  | .remove entity id => .ok [.event (.remove entity id)]
  | .finish => .ok [.finish]
  | .cancel => .ok [.cancel]
  | .present entity text whole => do return ((← Payload.read text).events entity whole).map .event
  | .replay recorder => .ok ((recorded recorder).map .event)

/-- A step of a script that a source follows. -/
inductive ScriptStep where
  | perform (act : Act)
  /-- What the source would have sent without the script. -/
  | real
  | stop (fault : Fault)

/-- What a source sends that follows a script. -/
def ScriptStep.feed (recorded : String → List Event) (real : Feed) : List ScriptStep → Feed
  | [] => .ofEvents []
  | .perform act :: rest =>
    match act.signals recorded with
    | .error cause => .failing cause
    | .ok signals => Feed.append ⟨signals, .ok ()⟩ (ScriptStep.feed recorded real rest)
  | .real :: rest => real.append (ScriptStep.feed recorded real rest)
  | .stop fault :: _ => ⟨[], .error fault⟩

/-- A catalogue whose answers can be scripted, by the name of what is asked. -/
structure ScriptedSource where
  catalogue : Catalogue := {}
  scripts : Keyed (List ScriptStep) := ∅

/-- The name of a request in scripts. -/
def Request.scriptName : Request → String
  | .whole entity => s!"fetch_all {entity}"
  | .ids entity _ => s!"fetch_by_ids {entity}"
  | .group entity _ => s!"fetch_by_group {entity}"

namespace ScriptedSource

/-- Answers a request. -/
def fetch (s : ScriptedSource) (recorded : String → List Event) (request : Request) : Feed :=
  let real := s.catalogue.fetch request
  match s.scripts[request.scriptName]? with
  | none => real
  | some steps => ScriptStep.feed recorded real steps

/-- The entities served, unless a script stops first. Nobody receives what a script sends here: all that counts
is how it ends, so the recorders may as well be empty. -/
def entities (s : ScriptedSource) : Except Fault (List String) :=
  match s.scripts["entity_ids"]? with
  | none => .ok s.catalogue.entities
  | some steps =>
    match (ScriptStep.feed (fun _ => []) (.ofEvents []) steps).ending with
    | .error fault => .error fault
    | .ok _ => .ok s.catalogue.entities

end ScriptedSource

end ReferenceFeed
