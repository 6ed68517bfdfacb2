import ReferenceFeed.Entry

namespace ReferenceFeed

/-!
The protocol that every hop of a feed speaks. A transaction is opened, carries the events of any number of
entities, and is committed or abandoned.
-/

/-- What happens to one entity inside a transaction. -/
inductive Event where
  /-- What follows is the whole content of the entity, and only here may its columns change. -/
  | reload (entity : String) (header : Header)
  /-- What follows is the whole content of one group value. -/
  | reloadGroup (entity group value : String)
  /-- Updates and removals of the entity follow. -/
  | block (entity : String) (header : Header)
  | update (entity : String) (header : Header) (entry : Entry)
  | remove (entity id : String)
  deriving DecidableEq

namespace Event

def entity : Event → String
  | .reload entity _ | .reloadGroup entity _ _ | .block entity _ | .update entity _ _ | .remove entity _ => entity

/-- An event inside a message. -/
def shown : Event → String
  | .reload entity header => s!"StartBulk \x7b entity: {Text.quoted entity}, columns: {header.shown} \x7d"
  | .reloadGroup entity group value =>
    s!"StartGroupBulk \x7b entity: {Text.quoted entity}, group: {Text.quoted group}, key: {Text.quoted value} \x7d"
  | .block entity header => s!"StartBlock \x7b entity: {Text.quoted entity}, columns: {header.shown} \x7d"
  | .update entity header entry =>
    s!"Update \x7b entity: {Text.quoted entity}, columns: {header.shown}, line: {entry.shown} \x7d"
  | .remove entity id => s!"Remove \x7b entity: {Text.quoted entity}, id: {Text.quoted id} \x7d"

end Event

/-- One call of the protocol. -/
inductive Signal where
  | start
  | event (event : Event)
  | finish
  | cancel
  deriving DecidableEq

end ReferenceFeed
