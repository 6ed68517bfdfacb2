import ReferenceFeed.Workbench.Operation

namespace ReferenceFeed

/-!
How the parts on a workbench answer. Each kind of part knows some operations, and a part that is asked for
another one is refused as if it were not there.
-/

namespace Work

/-- Answers nothing. -/
def done {α : Type} (work : Work α) : Work Reply := do
  let _ ← work
  return .nothing

/-- How a recorder answers. -/
def recorderReply (name : String) (id : PartId) (r : Recorder) : Operation → Work Reply
  | .take => do
    let (events, r) := r.take
    Workbench.put id (.recorder r)
    return .events events
  | .entriesOf entity => return .entries (r.entriesOf entity)
  | .removedOf entity => return .texts (r.removedOf entity)
  | _ => noPart name

/-- Takes the steps of a replay, whose calls go to a new subscriber of a fan-out. -/
def replaySteps (fanout channel : PartId) (steps : List ReplayStep) : Flow Workbench Unit :=
  steps.forM fun
    | .perform act => Workbench.act channel act
    | .stop cause => Flow.fail cause
    | .reenter => Workbench.call fanout .start

/-- How a fan-out answers. -/
def fanoutReply (name : String) (id : PartId) : Operation → Work Reply
  | .subscribe interest target => do
    let channel ← channel target
    return .number (← ofFlow ((Workbench.fanout id).subscribe interest channel))
  | .subscribeAfter interest target steps => do
    let channel ← channel target
    return .number (← ofFlow ((Workbench.fanout id).subscribeAfter interest channel (replaySteps id channel steps)))
  | .unsubscribe number => return .flag (← ofFlow ((Workbench.fanout id).unsubscribe number))
  | _ => noPart name

/-- How a membership answers. -/
def membershipReply (name : String) (id : PartId) (m : Membership) : Operation → Work Reply
  | .join member groups => done (ofFlow (Workbench.put id (.membership (m.insert member groups))))
  | .forget member => done (ofFlow (Workbench.put id (.membership (m.remove member))))
  | .members key => return .texts (m.of key).toList
  | _ => noPart name

/-- Keeps a catalogue as a change left it, and answers as the change did. -/
def settleCatalogue {α : Type} (id : PartId) (s : ScriptedSource) (changed : Catalogue.Changed α) : Work α := do
  Workbench.put id (.source { s with catalogue := changed.catalogue })
  Workbench.noteAll changed.notices
  ofExcept changed.answer

/-- How a source answers. -/
def sourceReply (name : String) (id : PartId) (s : ScriptedSource) : Operation → Work Reply
  | .load entity text => done (settleCatalogue id s (s.catalogue.load entity text))
  | .composeIds entity columns => done (settleCatalogue id s (s.catalogue.composeIds entity columns))
  | .declareGroup entity group => do
    let catalogue ← ofExcept (s.catalogue.declareGroup entity group)
    done (ofFlow (Workbench.put id (.source { s with catalogue })))
  | .upsert entity fields => do
    let catalogue ← ofExcept (s.catalogue.upsert entity fields)
    done (ofFlow (Workbench.put id (.source { s with catalogue })))
  | .delete entity row => do
    let (found, catalogue) ← ofExcept (s.catalogue.delete entity row)
    Workbench.put id (.source { s with catalogue })
    return .flag found
  | .header entity => return .header (← ofExcept (s.catalogue.table entity)).header
  | .entities => return .texts (← ofFlow (Flow.resume s.entities))
  | .fetch request target => do
    let channel ← channel target
    done (ofFlow ((s.fetch (← get).recorded request).play (Workbench.call channel)))
  | .follow method none => done (ofFlow (Workbench.put id (.source { s with scripts := s.scripts.erase method })))
  | .follow method (some script) =>
    done (ofFlow (Workbench.put id (.source { s with scripts := s.scripts.insert method script })))
  | _ => noPart name

/-- How an outbox answers. -/
def outboxReply (name : String) (id : PartId) (o : Outbox PartId) : Operation → Work Reply
  | .register target => do
    let sender ← sender target
    done (ofFlow (Workbench.put id (.outbox (o.register sender))))
  | .publish message => done (ofFlow (o.publish Workbench.send message))
  | .count => return .number o.senders.length
  | _ => noPart name

/-- How a queue answers. What is sent to it needs its sending end. -/
def queueReply (name : String) (id : PartId) (q : MessageQueue) (sending : Bool) : Operation → Work Reply
  | .send message => if sending then done (ofFlow (Workbench.send id message)) else noPart name
  | .receive =>
    match q.take? with
    | none => return .message none
    | some (message, q) => do
      Workbench.put id (.queue q sending)
      return .message (some message)
  | .length => return .length (if q.received then some q.messages.length else none)
  | .close => done (ofFlow (Workbench.put id (.queue q.close sending)))
  | _ => noPart name

/-- How an index of single ids answers. -/
def singleReply (name : String) (id : PartId) (x : SingleIndex DataRecord String) : Operation → Work Reply
  | .get key => return .textIfAny (x.get? key)
  | .find key => return .text (← ofExcept (x.find key))
  | .keyOf record => return .textIfAny x.keyOf[record]?
  | .info => return .index x.key.name x.size
  | .observe observation => done (ofFlow (Workbench.observe id observation))
  | _ => noPart name

/-- How an index of many ids answers. -/
def manyReply (name : String) (id : PartId) (x : ManyIndex DataRecord String) : Operation → Work Reply
  | .get key => return .texts (x.get key).toList
  | .find key => return .texts (← ofExcept (x.find key)).toList
  | .keyOf record => return .textIfAny x.keyOf[record]?
  | .info => return .index x.key.name x.size
  | .observe observation => done (ofFlow (Workbench.observe id observation))
  | _ => noPart name

/-- Keeps what a store became. -/
def keepStore (id : PartId) (s : Store) : Work Unit := modify (·.withStore id s)

/-- How a store answers. -/
def storeReply (name : String) (id : PartId) (s : Store) : Operation → Work Reply
  | .get key => return .entry (s.get? key)
  | .put form => do
    let entry ← ofExcept form.entry
    keepStore id (s.put entry)
    return .entry (s.get? entry.id)
  | .forget key => do
    keepStore id (s.remove key)
    return .flag (s.contains key)
  | .apply updates removes => do
    let entries ← ofExcept (updates.mapM EntryForm.entry)
    done (keepStore id (s.apply entries removes))
  | .replaceGroup key forms => do
    let entries ← ofExcept (forms.mapM EntryForm.entry)
    keepStore id (s.replaceGroup key entries)
    return .texts (s.leaving key entries).toList
  | .members key => return .texts (s.membersOf key).toList
  | .subset ids => return .entries (s.subset ids)
  | .ids => return .texts s.ids
  | .info => return .store s
  | .render => return .text s.render
  | .renderSubset updated removed => return .text (s.renderSubset updated removed)
  | _ => noPart name

/-- Applies messages one after the other, however each of them ends. -/
def applyMessages (id : PartId) : List Message → Work (List (Except Failure Unit))
  | [] => return []
  | message :: rest => do
    match (← get).part? id with
    | some (.replica r) =>
      let outcome ← ofFlow (Flow.attempt ((Workbench.replica id).settle (r.applyPayload message.payload message.whole)))
      return outcome :: (← applyMessages id rest)
    | _ => return []

/-- How a replica answers. -/
def replicaReply (name : String) (id : PartId) (r : Replica DataRecord PartId) : Operation → Work Reply
  | .attach target => do
    let origin ← origin target
    return .number (← ofFlow ((Workbench.origin origin).subscribe (.only {r.entity}) id))
  | .entity => return .text r.entity
  | .get key => return .record (r.get? key)
  | .find key => return .record (some (← ofExcept (r.find key)))
  | .getComposed parts => return .record (r.get? (CompositeId.compose parts))
  | .findComposed parts => return .record (some (← ofExcept (r.find (CompositeId.compose parts))))
  | .ids => return .ids r.live.records.keys
  | .members key => return .texts (r.membersOf key).toList
  | .waitLoaded milliseconds => done (ofExcept (r.waitLoaded (milliseconds.getD r.settings.loadTimeout)))
  | .addObserver target => do
    let observer ← observer target
    let (number, r) := r.addObserver observer
    Workbench.put id (.replica r)
    return .number number
  | .removeObserver number => do
    let (gone, r) := r.removeObserver number
    Workbench.put id (.replica r)
    Workbench.letGo gone.toList
    return .flag gone.isSome
  | .applyPayload text whole => done (ofFlow ((Workbench.replica id).settle (r.applyPayload text whole)))
  | .applyFrom target => do
    let (other, q, sending) ← queue target
    Workbench.put other (.queue { q with messages := [] } sending)
    return .outcomes (← applyMessages id q.messages)
  | _ => noPart name

/-- The part that stands for the store that is live for an entity. There is one as long as it is that store. -/
def liveStorePart (origin : PartId) (entity : String) : Work PartId := do
  let b ← get
  let same (part : Part) : Bool := match part with
    | .liveStore o e => o = origin && e = entity
    | _ => false
  match b.parts.toList.find? fun (_, part) => same part with
  | some (id, _) => return id
  | none =>
    set (b.adding (.liveStore origin entity))
    return b.next

/-- Adds a sender to the outbox of an origin. -/
def registerAt (outbox sender : PartId) : Work Unit := do
  match (← get).part? outbox with
  | some (.outbox o) => Workbench.put outbox (.outbox (o.register sender))
  | _ => return

/-- What an origin answers without doing anything. -/
def originContent (o : Origin PartId) : Operation → Option (Except Failure Reply)
  | .settings => some (.ok (.settings o.settings))
  | .entities => some (.ok (.texts o.entities))
  | .header entity => some ((o.store entity).map fun s => .header s.header)
  | .entry entity key => some ((o.store entity).map fun s => .entry (s.get? key))
  | .row entity key => some ((o.store entity).map fun s => .textIfAny ((s.get? key).map Entry.row))
  | .payload entity => some ((o.store entity).map fun s => .text s.render)
  | .payloadFor entity ids => some ((o.payloadFor entity ids).map .text)
  | .membersIn entity key => some ((o.store entity).map fun s => .texts (s.membersOf key).toList)
  | .generation => some (.ok (.number o.generation))
  | .isPast generation => some (.ok (.flag (generation < o.generation)))
  | .subscriptions => some (.ok (.number o.fanout.subscribers.length))
  | _ => none

/-- How an origin answers. -/
def originReply (name : String) (id outbox : PartId) (o : Origin PartId) : Operation → Work Reply
  | .subscribe interest target => do
    let channel ← channel target
    return .number (← ofFlow ((Workbench.origin id).subscribe interest channel))
  | .unsubscribe number => return .flag (← ofFlow ((Workbench.origin id).unsubscribe number))
  | .reload entity => done (ofFlow ((Workbench.origin id).reload entity))
  | .reloadAll => done (ofFlow (Workbench.origin id).reloadAll)
  | .reloadGroup entity key => done (ofFlow ((Workbench.origin id).reloadGroup entity key))
  | .refresh entity ids => return .changes (← ofFlow ((Workbench.origin id).refresh entity ids))
  | .refreshNamed entity text => return .changes (← ofFlow ((Workbench.origin id).refreshNamed entity text))
  | .applyRows entity form rows => do
    let header ← ofExcept form.header
    return .changes (← ofFlow ((Workbench.origin id).applyRows entity header rows))
  | .republish entity key => return .changes (← ofFlow ((Workbench.origin id).republish entity key))
  | .register target => do
    let sender ← sender target
    done (registerAt outbox sender)
  | .count => do
    match (← get).part? outbox with
    | some (.outbox o) => return .number o.senders.length
    | _ => return .number 0
  | .openQueue other => do
    let queue := (← get).next
    modify (·.adding (.queue { capacity := o.settings.queueCapacity } false))
    registerAt outbox queue
    done (ofFlow (Workbench.rename other queue))
  | .keep entity other => do
    let _ ← ofExcept (o.store entity)
    done (ofFlow (Workbench.rename other (← liveStorePart id entity)))
  | operation =>
    match originContent o operation with
    | some reply => ofExcept reply
    | none => noPart name

end Work

end ReferenceFeed
