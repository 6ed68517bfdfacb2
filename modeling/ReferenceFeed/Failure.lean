import ReferenceFeed.CompositeId
import ReferenceFeed.Event
import ReferenceFeed.Text.Duration

namespace ReferenceFeed

/-!
Why an operation is refused, sorted by kind. Each cause has one wording.
-/

/-- A call that takes hold of a fan-out. -/
inductive Hold where
  | start
  | subscribe
  | unsubscribe
  deriving DecidableEq, Repr

def Hold.name : Hold → String
  | .start => "start"
  | .subscribe => "subscribe"
  | .unsubscribe => "unsubscribe"

/-- A call against the order of the protocol. -/
inductive Violation where
  | recordedOutside (event : Event)
  | recordingTwice
  | held (call : Hold)
  | foreignThread
  | outside
  | reloadOutside
  | groupReloadOutside
  | blockOutside
  | sessionTwice
  | finishWithoutStart
  | cancelWithoutStart
  | startWhileOpen
  | touched (entity : String)
  | beforeBlock (entity : String)
  | outsideGroup (entity id group value : String)
  | markerWithoutBlock (entity : String)
  | wrongEntity (entity replica : String)
  deriving DecidableEq

def Violation.message : Violation → String
  | .recordedOutside event => s!"{event.shown} received outside a transaction"
  | .recordingTwice => "start() called twice on a transaction buffer"
  | .held call => s!"{call.name}() called while this thread has a transaction open"
  | .foreignThread => "event from a thread that does not own the open transaction"
  | .outside => "event received outside a transaction"
  | .reloadOutside => "start_bulk() outside a transaction"
  | .groupReloadOutside => "start_group_bulk() outside a transaction"
  | .blockOutside => "start_block() outside a transaction"
  | .sessionTwice => "start() called twice on a cache transaction"
  | .finishWithoutStart => "finish() without start()"
  | .cancelWithoutStart => "cancel() without start()"
  | .startWhileOpen => "start() called while a transaction is open"
  | .touched entity => s!"{entity} already touched by this transaction"
  | .beforeBlock entity => s!"event for {entity} before start_block"
  | .outsideGroup entity id group value => s!"{entity}/{id} is outside group {group} = {value}"
  | .markerWithoutBlock entity => s!"{entity} marked for reload but no block followed"
  | .wrongEntity entity replica => s!"event for {entity} delivered to the {replica} cache"

/-- Text or fields that do not have the form they need. -/
inductive EncodingFault where
  | unsplit (fault : SplitFault)
  | compositeId (fault : IdFault)
  | entry (fault : Entry.Fault)
  | noHeaderLine
  | recordWithoutId
  | recordWidth (id : String) (found expected : Nat)
  | claimedRowWithoutId (row : String)
  | storedRowWithoutId
  | absentPart (column entity : String)
  | partCount (entity id : String) (expected : Nat)
  | boundTwice (names : List String)
  | unmatched (header : Header) (unbound missing : List String)
  deriving DecidableEq

def EncodingFault.message : EncodingFault → String
  | .unsplit fault => fault.message
  | .compositeId fault => fault.message
  | .entry fault => fault.message
  | .noHeaderLine => "payload has no header line"
  | .recordWithoutId => "record with a null id"
  | .recordWidth id found expected => s!"record {Text.quoted id} has {found} fields, header has {expected}"
  | .claimedRowWithoutId row => s!"row with a null id: {Text.quoted row}"
  | .storedRowWithoutId => "row requires a non-null id"
  | .absentPart column entity => s!"null value in composite id column {column} of {entity}"
  | .partCount entity id expected => s!"{entity} id {Text.quoted id} does not have {expected} components"
  | .boundTwice names => s!"column bound twice in field table: {Text.quotedList names}"
  | .unmatched header unbound missing =>
    s!"columns {header.text} do not match fields: unbound columns {Text.quotedList unbound}, " ++
      s!"fields without a column {Text.quotedList missing}"

/-- Column lists that cannot be used. -/
inductive ColumnsFault where
  | header (fault : HeaderFault)
  | noPartColumns (entity : String)
  | unknownPartColumn (entity column : String)
  deriving DecidableEq, Repr

def ColumnsFault.message : ColumnsFault → String
  | .header fault => fault.message
  | .noPartColumns entity => s!"composite id of {entity} needs at least one column"
  | .unknownPartColumn entity column => s!"{entity} has no column {column} to compose ids from"

/-- Settings that cannot be used. -/
inductive SettingsFault where
  | unreadable
  | emptyQueue
  | emptyGroup (entity : String)
  | noEntity
  deriving DecidableEq, Repr

def SettingsFault.message : SettingsFault → String
  | .unreadable => "not readable"
  | .emptyQueue => "outbound_buffer must be positive"
  | .emptyGroup entity => s!"empty group name declared for {entity}"
  | .noEntity => "consumer entity must be set"

/-- Something that cannot be reached now. -/
inductive Outage where
  | notLoaded (entity : String) (milliseconds : Nat)
  | queueClosed (entity : String)
  | reported (reason : String)
  deriving DecidableEq, Repr

def Outage.message : Outage → String
  | .notLoaded entity milliseconds => s!"{entity} not loaded within {Text.duration milliseconds}"
  | .queueClosed entity => s!"outbound queue closed, payload for {entity} lost"
  | .reported reason => reason

/-- How a poisoned replica answers. -/
inductive Poisoning where
  | beforeLoad (entity : String)
  | refusing (entity : String)
  deriving DecidableEq, Repr

def Poisoning.message : Poisoning → String
  | .beforeLoad entity => s!"{entity} was poisoned before its initial load"
  | .refusing entity => s!"{entity} cache refuses transactions after a cancel"

/-- Why an operation failed. -/
inductive Failure where
  | violation (cause : Violation)
  | encoding (fault : EncodingFault)
  | conversion (entity id reason : String)
  | columnMismatch (entity : String) (expected : Header) (got : String)
  | columns (fault : ColumnsFault)
  | unknownEntity (entity : String)
  | unknownGroup (entity group : String)
  | duplicateKey (index key previous id : String)
  | notFound (collection id : String)
  | cancelled (entity : String)
  | poisoned (cause : Poisoning)
  | unavailable (cause : Outage)
  | origin (reason : String)
  | settings (fault : SettingsFault)
  | panicked (reason : String)
  deriving DecidableEq

def Failure.message : Failure → String
  | .violation cause => s!"Protocol violation: {cause.message}"
  | .encoding fault => s!"Encoding error: {fault.message}"
  | .conversion entity id reason => s!"Could not convert {entity}/{id}: {reason}"
  | .columnMismatch entity expected got => s!"Column mismatch for {entity}: expected {expected.text}, got {got}"
  | .columns fault => s!"Invalid column list: {fault.message}"
  | .unknownEntity entity => s!"Unknown entity: {entity}"
  | .unknownGroup entity group => s!"Unknown group {group} for entity {entity}"
  | .duplicateKey index key previous id =>
    s!"Duplicate key in unique index {index}: {key} ({previous} and {id})"
  | .notFound collection id => s!"Not found: {collection}/{id}"
  | .cancelled entity => s!"Transaction cancelled for {entity}; consumer cache poisoned"
  | .poisoned cause => s!"Cache poisoned: {cause.message}"
  | .unavailable cause => s!"Unavailable: {cause.message}"
  | .origin reason => s!"Origin error: {reason}"
  | .settings fault => s!"Configuration error: {fault.message}"
  | .panicked reason => s!"Callback panicked: {reason}"

/-- A header read from its written form. -/
def Header.read (text : String) : Except Failure Header :=
  match Row.split text with
  | .error fault => .error (.encoding (.unsplit fault))
  | .ok fields => (ofFields fields).mapError fun fault => .columns (.header fault)

end ReferenceFeed
