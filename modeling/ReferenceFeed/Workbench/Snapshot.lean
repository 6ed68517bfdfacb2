import ReferenceFeed.Workbench.Operation

namespace ReferenceFeed

/-!
Looking at parts. What a probe was told, and what a queue holds, is given away by the look.
-/

/-- The content of one entity that a catalogue sends. -/
def Catalogue.content (c : Catalogue) (entity : String) : Option Store :=
  match c.tables[entity]? with
  | none => none
  | some t =>
    match Origin.collect (c.fetch (.whole entity)) entity with
    | .ok entries => some ((Store.empty entity t.header).putAll entries)
    | .error _ => none

namespace Workbench

/-- What is seen of a part, and what the look leaves of it. -/
def look (b : Workbench) (id : PartId) : Part → Snapshot × Part
  | .recorder r => (.recorder r.events r.finished, .recorder r)
  | .fanout f => (.fanout f.isOpen f.subscribers.length, .fanout f)
  | .membership m => (.nothing, .membership m)
  | .outbox o => (.count o.senders.length, .outbox o)
  | .store s => (.store s, .store s)
  | .liveStore origin entity =>
    match b.store? id with
    | some s => (.store s, .liveStore origin entity)
    | none => (.nothing, .liveStore origin entity)
  | .source s => (.stores (s.catalogue.entities.filterMap s.catalogue.content), .source s)
  | .probe p => (.calls p.calls, .probe { p with calls := [] })
  | .sender p => (.sent p.sent, .sender { p with sent := [] })
  | .queue q sending => (.messages q.messages, .queue { q with messages := [] } sending)
  | .origin o source outbox =>
    (.origin o.generation o.fanout.subscribers.length o.live.values, .origin o source outbox)
  | .session origin number => (.nothing, .session origin number)
  | .replica r =>
    (.replica r.loaded r.isPoisoned r.live.header r.observers.length r.live.records, .replica r)
  | .observer p => (.observations p.calls, .observer { p with calls := [] })
  | .single x => (.single x.idOf, .single x)
  | .many x => (.many x.idsOf, .many x)

/-- Looks at a part. -/
def snapshot (b : Workbench) (id : PartId) : Snapshot × Workbench :=
  match b.part? id with
  | none => (.nothing, b)
  | some part =>
    let (seen, part) := b.look id part
    (seen, b.withPart id part)

/-- Looks at the parts of those names that stand for one. -/
def snapshots (b : Workbench) : List String → List (String × Snapshot) × Workbench
  | [] => ([], b)
  | name :: rest =>
    match b.named? name with
    | none => b.snapshots rest
    | some id =>
      let (seen, b) := b.snapshot id
      let (more, b) := b.snapshots rest
      ((name, seen) :: more, b)

end Workbench

end ReferenceFeed
