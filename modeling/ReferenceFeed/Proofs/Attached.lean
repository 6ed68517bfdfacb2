import ReferenceFeed.Proofs.Following
import ReferenceFeed.Proofs.Underway

namespace ReferenceFeed

/-!
A replica that sits at a seat of a site. When it joins it is shown the store of its entity, and from then on every
transaction that takes effect brings it to where the store is, unless something strays.
-/

theorem Stage.Reflects.plain {live : Keyed Store} {entity : String} {first : Event} {rest : List Event} {stage : Option Stage}
    (reflects : Stage.Reflects live entity (first :: rest) stage) : ∀ event ∈ rest, event.isMarker = false := by
  cases reflects with
  | whole _ _ _ _ _ plain => exact plain
  | group _ _ _ _ plain => exact plain
  | sparse _ _ _ _ plain => exact plain

/-- Putting in some entries is what updates do. -/
theorem Store.entries_putAll (store : Store) (entity : String) (header : Header) (entries : List Entry) :
    (store.putAll entries).entries = amendAll store.entries (entries.map (.update entity header ·)) := by
  induction entries generalizing store with
  | nil => rfl
  | cons entry rest ih => exact ih (store.put entry)

/-- A snapshot is a transaction that makes its store out of nothing. -/
theorem Store.Sound.settles_snapshot {store : Store} (sound : store.Sound) :
    Settles none (some store) (Origin.snapshot store) := by
  refine ⟨store, rfl, rfl, rfl, Std.ExtTreeMap.ext_getElem? fun {id} => ?_⟩
  have filled : ((Store.empty store.entity store.header).putAll store.all).entries =
      amendAll ∅ (.block store.entity store.header :: store.all.map (.update store.entity store.header ·)) :=
    Store.entries_putAll _ _ _ _
  have stored := (Store.empty store.entity store.header).get?_putAll_values sound.own id
  rw [Store.get?_empty, Option.or_none] at stored
  rw [← filled]
  exact stored.symm

theorem Origin.snapshot_plain (store : Store) : ∀ event ∈ (Origin.snapshot store).tail, event.isMarker = false := by
  intro event member
  rcases List.mem_cons.1 member with rfl | later
  · rfl
  · obtain ⟨entry, _, rfl⟩ := List.mem_map.1 later
    rfl

theorem Origin.snapshot_entity (store : Store) : ∀ event ∈ Origin.snapshot store, event.entity = store.entity := by
  intro event member
  rcases List.mem_cons.1 member with rfl | later
  · rfl
  · rcases List.mem_cons.1 later with rfl | later
    · rfl
    · obtain ⟨entry, _, rfl⟩ := List.mem_map.1 later
      rfl

namespace Replica

variable {ω : Type} {r : Replica String ω} {entity : String} {before after : Option Store} {events : List Event}

/-- A replica that has heard nothing follows an entity that does not exist. -/
theorem follows_ofSettings (settings : ReplicaSettings) :
    (Replica.ofSettings settings rowOf : Replica String ω).Follows settings.entity none :=
  ⟨rfl, rfl, rfl, Committed.shows_empty.congr fun _ => rfl⟩

/-- A finished transaction brings a replica to where the store is, unless something strays. -/
theorem Follows.finished (follows : r.Follows entity before) (settles : Settles before after events)
    (plain : ∀ event ∈ events.tail, event.isMarker = false) (own : ∀ event ∈ events, event.entity = entity)
    (inside : ¬Strays before events) : (r.heeding (Site.finished (Site.introduced events))).Follows entity after := by
  cases events with
  | nil =>
    have same : after = before := settles
    rw [same]
    exact follows
  | cons first rest =>
    have heard := heeding_finished (r := r) follows.converts follows.idle fun event member =>
      (own event member).trans follows.named.symm
    change (r.heeding (.start :: (first :: rest).map .event ++ [.finish])).Follows entity after
    rw [heard]
    exact ⟨follows.named, follows.converts, rfl, settles.shown plain follows.shows inside⟩

/-- Where something strays, the replica does not mirror the store afterwards. -/
theorem Follows.strayed (follows : r.Follows entity before) (settles : Settles before after events)
    (plain : ∀ event ∈ events.tail, event.isMarker = false) (own : ∀ event ∈ events, event.entity = entity)
    (strays : Strays before events) : ¬(r.heeding (Site.finished (Site.introduced events))).Mirrors after := by
  intro mirrors
  cases events with
  | nil =>
    obtain ⟨_, _, _, _, _, _, absurd, _⟩ := strays
    cases absurd
  | cons first rest =>
    have heard := heeding_finished (r := r) follows.converts follows.idle fun event member =>
      (own event member).trans follows.named.symm
    change (r.heeding (.start :: (first :: rest).map .event ++ [.finish])).Mirrors after at mirrors
    rw [heard] at mirrors
    obtain ⟨id, there, gone⟩ := settles.strayed plain follows.shows strays
    have row := congrArg (fun records : Keyed String => records[id]?) mirrors.records
    simp only [gone, Std.ExtTreeMap.getElem?_map] at row
    rcases after with _ | store
    · cases there
    · have absent : store.get? id = none := Option.map_eq_none_iff.1 row.symm
      rw [storeView, Option.bind_some, absent] at there
      cases there

end Replica

namespace Site

/-- The calls that somebody got. -/
def callsAt (seat : Nat) (log : List Heard) : List Signal := (partOf seat log).map Heard.signal

theorem callsAt_append (seat : Nat) (first second : List Heard) :
    callsAt seat (first ++ second) = callsAt seat first ++ callsAt seat second := by
  rw [callsAt, partOf_append, List.map_append]
  rfl

theorem callsAt_fine {seat : Nat} {log : List Heard} {calls : List Signal} (heard : partOf seat log = calls.map (fine seat)) :
    callsAt seat log = calls := by
  rw [callsAt, heard, List.map_map]
  exact List.map_id _

theorem callsFor_only (entity : String) (told : List Event) :
    callsFor (.only {entity}) told = introduced (concerning entity told) := by
  refine congrArg introduced (List.filter_congr fun event _ => ?_)
  rw [Bool.eq_iff_iff, decide_eq_true_iff, Interest.covers, Std.ExtTreeSet.contains_iff_mem]
  change event.entity ∈ (∅ : Names).insert entity ↔ _
  rw [Names.mem_insert]
  exact or_iff_left Std.ExtTreeSet.not_mem_empty

/-- Somebody who hears of one entity, and a replica of it that shows what the store does. -/
structure Attached {ω : Type} (r : Replica String ω) (entity : String) (sub : Subscriber Nat) (s : Site) : Prop where
  member : sub ∈ s.origin.fanout.subscribers
  interest : sub.interest = .only {entity}
  follows : (r.heeding (callsAt sub.channel s.heard)).Follows entity s.origin.live[entity]?

variable {c : Conduct} {ω : Type} {r : Replica String ω} {entity : String} {sub : Subscriber Nat} {seat : Nat} {s t : Site}

theorem Attached.mirrors (attached : Attached r entity sub s) (sound : Sound s) :
    (r.heeding (callsAt sub.channel s.heard)).Mirrors s.origin.live[entity]? :=
  attached.follows.mirrors fun _ found => (sound.stores entity _ found).2

/-- A transaction that takes effect is one turn of everybody it was for, and whoever does not fail stays. -/
theorem Concluded.turn {told : List Event} (concluded : Concluded s .finish told t) {sub : Subscriber Nat}
    (member : sub ∈ s.origin.fanout.subscribers) :
    ∃ log failed, t.heard = s.heard ++ log ∧
      Turn sub.channel (Site.finished (callsFor sub.interest told)) true (partOf sub.channel log) failed ∧
      (failed = false → sub ∈ t.origin.fanout.subscribers) := by
  obtain ⟨u, log, logs, lost, among, heard, audience, ended, others⟩ := concluded.heard
  refine ⟨log ++ logs, _, heard, audience.finished ended (among ▸ member), fun stays => ?_⟩
  rw [others]
  exact List.mem_filter.2 ⟨member, by simpa using of_decide_eq_false stays⟩

/-- Whoever is at a seat did not fail at some calls that were made since. -/
def Unfailing (seat : Nat) (calls : List Signal) (s t : Site) : Prop :=
  ∀ log, t.heard = s.heard ++ log → ¬Turn seat calls true (partOf seat log) true

/-- Whoever was never told to cancel has not failed. -/
theorem unfailing_of_calm {calls : List Signal} (calm : ∀ h ∈ partOf seat t.heard, h.signal ≠ .cancel)
    (unended : .cancel ∉ calls) : Unfailing seat calls s t := by
  intro log heard turn
  obtain ⟨answer, cancelled⟩ := (turn.cancelled unended).2
  rw [heard, partOf_append] at calm
  exact calm _ (List.mem_append_right _ cancelled) rfl

/-- The calls that tell a replica of a whole transaction. -/
def tellings (entity : String) (events : List Event) : List Signal := Site.finished (introduced (concerning entity events))

theorem cancel_not_mem_tellings (entity : String) (events : List Event) : .cancel ∉ tellings entity events := by
  rw [tellings, ← callsFor_only]
  exact cancel_not_mem_finished (cancel_not_mem_callsFor _ _)

/-- What a transaction that takes effect makes of a replica that does not fail. -/
theorem Landed.heeding {taken : List Event} (landed : Landed s taken taken t) (attached : Attached r entity sub s)
    (well : Unfailing sub.channel (tellings entity taken) s t) :
    r.heeding (callsAt sub.channel t.heard) = (r.heeding (callsAt sub.channel s.heard)).heeding (tellings entity taken) ∧
      sub ∈ t.origin.fanout.subscribers := by
  obtain ⟨log, failed, heard, turn, stays⟩ := landed.concluded.turn attached.member
  rw [attached.interest, callsFor_only] at turn
  cases failed with
  | true => exact absurd turn (well log heard)
  | false =>
    rw [heard, callsAt_append, callsAt_fine turn.well, Replica.heeding_append]
    exact ⟨rfl, stays rfl⟩

theorem concerning_entity {entity : String} {events : List Event} :
    ∀ event ∈ concerning entity events, event.entity = entity := by
  intro event member
  exact of_decide_eq_true (List.mem_filter.1 member).2

/-- What a transaction that takes effect does to the store of an entity. -/
theorem Landed.settles {taken told : List Event} (landed : Landed s taken told t) (sound : Sound s) (entity : String) :
    Settles s.origin.live[entity]? t.origin.live[entity]? (concerning entity taken) ∧
      ∀ event ∈ (concerning entity taken).tail, event.isMarker = false := by
  obtain ⟨stages, reflect, settled, _⟩ := landed.applied.stores
  constructor
  · rw [settled]
    exact reflect.settles fun store found => (sound.stores entity store found).2
  · have reflects := reflect entity
    generalize concerning entity taken = events at reflects
    cases events with
    | nil => exact List.forall_mem_nil _
    | cons first rest => exact reflects.plain

/-- Nothing comes of a transaction in which nothing was told, except that it is counted. -/
theorem Landed.silent (landed : Landed s [] [] t) (sound : Sound s) :
    t.origin.live = s.origin.live ∧ t.heard = s.heard := by
  refine ⟨Std.ExtTreeMap.ext_getElem? fun {entity} => (landed.settles sound entity).1, ?_⟩
  obtain ⟨u, log, logs, lost, _, heard, audience, ended, _⟩ := landed.concluded.heard
  have nothing : log ++ logs = [] := by
    refine List.eq_nil_iff_forall_not_mem.2 fun h member => ?_
    have seated : ∃ sub ∈ u.subscribers, sub.channel = h.seat := by
      rcases List.mem_append.1 member with before | now
      · exact audience.seated h before
      · obtain ⟨target, inTargets, seat⟩ := Round.seated ended h now
        obtain ⟨sub, heeding, rfl⟩ := List.mem_map.1 inTargets
        exact ⟨sub, (audience.mem_heeding.1 heeding).1, seat⟩
    obtain ⟨sub, inside, seat⟩ := seated
    have part : h ∈ partOf sub.channel (log ++ logs) := List.mem_filter.2 ⟨member, decide_eq_true seat.symm⟩
    rw [(audience.untold ended inside).1] at part
    cases part
  rw [heard, nothing, List.append_nil]

theorem Landed.attached {taken : List Event} (landed : Landed s taken taken t) (sound : Sound s)
    (attached : Attached r entity sub s) (well : Unfailing sub.channel (tellings entity taken) s t)
    (inside : ¬Strays s.origin.live[entity]? (concerning entity taken)) : Attached r entity sub t := by
  obtain ⟨heard, member⟩ := landed.heeding attached well
  obtain ⟨settles, plain⟩ := landed.settles sound entity
  refine ⟨member, attached.interest, ?_⟩
  rw [heard]
  exact attached.follows.finished settles plain concerning_entity inside

theorem Landed.strayed {taken : List Event} (landed : Landed s taken taken t) (sound : Sound s)
    (attached : Attached r entity sub s) (well : Unfailing sub.channel (tellings entity taken) s t)
    (strays : Strays s.origin.live[entity]? (concerning entity taken)) :
    ¬(r.heeding (callsAt sub.channel t.heard)).Mirrors t.origin.live[entity]? := by
  obtain ⟨heard, _⟩ := landed.heeding attached well
  obtain ⟨settles, plain⟩ := landed.settles sound entity
  rw [heard]
  exact attached.follows.strayed settles plain concerning_entity strays

/-- A transaction without effect passes by whoever hears nothing of it. -/
theorem Abandoned.passing {told : List Event} (abandoned : Abandoned s told t) (attached : Attached r entity sub s)
    (passed : ∀ {u log logs lost}, t.heard = s.heard ++ (log ++ logs) → Audience u told log → Ended u .cancel logs lost →
      sub ∈ u.subscribers → partOf sub.channel (log ++ logs) = [] ∧ sub.id ∉ u.failed ++ lost) :
    Attached r entity sub t := by
  obtain ⟨u, log, logs, lost, among, heard, audience, ended, others⟩ := abandoned.concluded.heard
  obtain ⟨nothing, stays⟩ := passed heard audience ended (among ▸ attached.member)
  refine ⟨?_, attached.interest, ?_⟩
  · rw [others]
    exact List.mem_filter.2 ⟨attached.member, by simpa using stays⟩
  · have silent : callsAt sub.channel t.heard = callsAt sub.channel s.heard := by
      rw [heard, callsAt_append, callsAt, callsAt, nothing, List.map_nil, List.append_nil]
    rw [silent, abandoned.unchanged.live]
    exact attached.follows

theorem Abandoned.attached {told : List Event} (abandoned : Abandoned s told t) (attached : Attached r entity sub s)
    (calm : ∀ h ∈ partOf sub.channel t.heard, h.signal ≠ .cancel) : Attached r entity sub t := by
  refine abandoned.passing attached fun heard audience ended member => audience.unheard ended member fun h inPart => ?_
  rw [heard, partOf_append] at calm
  exact calm h (List.mem_append_right _ inPart)

theorem Abandoned.attached_untold (abandoned : Abandoned s [] t) (attached : Attached r entity sub s) :
    Attached r entity sub t :=
  abandoned.passing attached fun _ audience ended member => audience.untold ended member

/-- What does not touch the stores, the subscribers and what was heard does not touch a replica. -/
theorem Attached.congr (attached : Attached r entity sub s) (live : t.origin.live = s.origin.live)
    (subscribers : t.origin.fanout.subscribers = s.origin.fanout.subscribers) (heard : t.heard = s.heard) :
    Attached r entity sub t where
  member := by
    rw [subscribers]
    exact attached.member
  interest := attached.interest
  follows := by
    rw [live, heard]
    exact attached.follows

theorem filter_only (live : Keyed Store) (entity : String) :
    live.keys.filter (Interest.only {entity}).covers = if live.contains entity then [entity] else [] := by
  have covers : (Interest.only {entity}).covers = (· == entity) := by
    funext other
    rw [Bool.eq_iff_iff, beq_iff_eq, Interest.covers, Std.ExtTreeSet.contains_iff_mem]
    change other ∈ (∅ : Names).insert entity ↔ _
    rw [Names.mem_insert]
    exact or_iff_left Std.ExtTreeSet.not_mem_empty
  have distinct : live.keys.Nodup := by
    rw [← Std.ExtTreeMap.map_fst_toList_eq_keys]
    exact Keyed.nodup_toList live
  rw [covers, List.filter_beq, distinct.count]
  by_cases there : entity ∈ live.keys
  · rw [if_pos there, if_pos (by simpa [Std.ExtTreeMap.mem_keys] using there)]
    rfl
  · rw [if_neg there, if_neg (by simpa [Std.ExtTreeMap.mem_keys] using there)]
    rfl

/-- What is heard at the next seat from now on is all that was ever heard at it. -/
theorem Sound.partOf_next (sound : Sound s) {log : List Heard} (seated : ∀ h ∈ log, h.seat = s.seats) :
    partOf s.seats (s.heard ++ log) = log := by
  rw [partOf_append, partOf_eq_nil fun h member => Nat.ne_of_lt (sound.seated h member), List.nil_append, partOf_eq_self seated]

theorem Sound.callsAt_next (sound : Sound s) (calls : List Signal) :
    callsAt s.seats (s.heard ++ calls.map (fine s.seats)) = calls :=
  callsAt_fine (sound.partOf_next (by simp [fine]))

/-- A replica that joins is shown the store of its entity, if there is one. -/
theorem Sound.joined (sound : Sound s) (new : r.Follows entity none) {thread : Thread} {answer : Answer}
    (joins : act c thread (.subscribe (.only {entity})) s = (.ok answer, t)) :
    s.origin.fanout.transaction = none ∧ t.origin.fanout.transaction = none ∧
      answer = .number s.origin.fanout.nextId ∧ Attached r entity ⟨s.origin.fanout.nextId, .only {entity}, s.seats⟩ t := by
  rcases act_subscribe c joins with ⟨_, refused, _⟩ | ⟨closed, ⟨joined, rfl⟩ | ⟨_, _, failed, _⟩⟩
  · cases refused
  · cases joined
    have free : s.origin.fanout.transaction = none := by
      simpa [Fanout.isOpen] using closed
    refine ⟨free, free, rfl, List.mem_append_right _ (List.mem_singleton_self _), rfl, ?_⟩
    change (r.heeding (callsAt s.seats (s.heard ++ _))).Follows entity s.origin.live[entity]?
    rw [sound.callsAt_next, shownTo, Origin.entities, filter_only, Std.ExtTreeMap.contains_eq_isSome_getElem?]
    rcases found : s.origin.live[entity]? with _ | store
    · exact new
    · obtain ⟨named, whole⟩ := sound.stores entity store found
      have pages : snapshots s.origin.live [entity] = Origin.snapshot store := by
        rw [snapshots_cons found]
        exact List.append_nil _
      rw [Option.isSome_some, if_pos rfl, replayCalls, pages]
      refine new.finished whole.settles_snapshot (Origin.snapshot_plain store) ?_ ?_
      · exact fun event member => (Origin.snapshot_entity store event member).trans named
      · rintro ⟨_, _, _, _, _, _, same, _⟩
        cases same
  · cases failed

end Site

end ReferenceFeed
