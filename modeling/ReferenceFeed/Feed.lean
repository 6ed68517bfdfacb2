import ReferenceFeed.Flow

namespace ReferenceFeed

/-!
What a source sends when it is asked for content: some calls and an ending. A source that fails midway has
sent what comes before.
-/

/-- What can be asked of a source. -/
inductive Request where
  | whole (entity : String)
  | ids (entity : String) (ids : Names)
  | group (entity : String) (key : GroupValue)
  deriving DecidableEq

/-- The calls that a source makes, and how it ends. -/
structure Feed where
  signals : List Signal
  ending : Except Fault Unit

namespace Feed

/-- A feed of events. -/
def ofEvents (events : List Event) : Feed := ⟨events.map .event, .ok ()⟩

/-- A feed that sends nothing and fails. -/
def failing (cause : Failure) : Feed := ⟨[], .error (.failure cause)⟩

/-- Puts a call in front. -/
def cons (signal : Signal) (feed : Feed) : Feed := ⟨signal :: feed.signals, feed.ending⟩

/-- The events of a list up to its first failure. -/
def ofResults : List (Except Failure Event) → Feed
  | [] => ⟨[], .ok ()⟩
  | .error cause :: _ => failing cause
  | .ok event :: rest => cons (.event event) (ofResults rest)

/-- One feed after another, unless the first fails. -/
def append (first second : Feed) : Feed :=
  match first.ending with
  | .error _ => first
  | .ok _ => ⟨first.signals ++ second.signals, second.ending⟩

/-- Sends a feed to a sink, until the sink refuses or the feed ends. -/
def play {σ : Type} (feed : Feed) (sink : Signal → Flow σ Unit) : Flow σ Unit := do
  feed.signals.forM sink
  Flow.resume feed.ending

end Feed

end ReferenceFeed
