import ReferenceFeed.Proofs.Doubting
import ReferenceFeed.Proofs.Refresh

namespace ReferenceFeed

/-!
Rows of a transport that say what the tables do. It makes no difference whether they are trusted: entries that are claimed and
entries that are fetched tell the same rows, and rows are all that a store, an answer and a message depend on.
-/

/-- A record that a table does not contradict: the id is one that it looks up, and has the row, or the lack of one, that the record
says it has. -/
structure Table.Confirms (table : Table) (entity : String) (record : Record) : Prop where
  accepted : ∃ key, table.keyFor entity record.id = .ok key
  agrees : record.row? = (table.rows[record.id]?).map Row.render

theorem Table.tells_sent (table : Table) (ids : Names) :
    Delta.Tells (fun id => (table.rows[id]?).map Row.render) ids (ids.toList.filterMap table.sentFor) := by
  have tells := @Delta.tells_found ids table.sentFor fun _ _ => Table.sentFor_id
  rwa [funext table.sentFor_row] at tells

namespace Claims

variable {entity : String} {table : Table} {records : List Record} {entries : List Entry}

/-- Claims that a table confirms tell its rows. -/
theorem tells_of_confirmed (confirmed : ∀ record ∈ records, table.Confirms entity record)
    (filled : List.Forall₂ Entry.Filled (records.filterMap Record.entry?) entries) :
    Delta.Tells (fun id => (table.rows[id]?).map Row.render) (Names.ofList (records.map Record.id)) entries := by
  intro id row
  rw [Names.mem_ofList, List.mem_map]
  constructor
  · rintro ⟨last, member, rfl, rfl⟩
    obtain ⟨entry, given, same⟩ := exists_of_forall₂ filled member
    have given := Record.mem_entries.1 given
    rw [same.id, same.row]
    exact ⟨⟨_, given, rfl⟩, (confirmed _ given).agrees.symm⟩
  · rintro ⟨⟨record, member, rfl⟩, has⟩
    have spoken : record.row? = some row := (confirmed record member).agrees.trans has
    cases record with
    | update entry =>
      cases spoken
      obtain ⟨last, claimed, same⟩ := exists_of_forall₂ filled.flip (Record.mem_entries.2 member)
      exact ⟨last, claimed, same.id, same.row⟩
    | remove gone => cases spoken

/-- Claims that tell the same rows as what is fetched are wrong about nothing. -/
theorem disputed_of_tells {claims : Claims} {found : String → Option String} {fetched : List Entry}
    (claimed : Delta.Tells found claims.ids claims.entries) (brought : Delta.Tells found claims.ids fetched) :
    (claims.disagreements entity fetched).filterMap Notice.disputed? = [] := by
  rw [disputed_disagreements, List.map_eq_nil_iff, List.eq_nil_iff_forall_not_mem]
  intro id wrong
  rw [Std.ExtTreeSet.mem_toList, Names.mem_filter, disagreement?_isSome, getElem?_rowsOf, getElem?_rowsOf] at wrong
  obtain ⟨asked, differ⟩ := wrong
  exact differ ((claimed.row_last asked).trans (brought.row_last asked).symm)

end Claims

namespace Site

variable {c : Conduct} {s t : Site} {entity : String} {old : Store} {thread : Thread} {table : Table} {header : Header}
  {rows : List String} {records : List Record}

/-- A site that treats rows of transports by another policy. -/
def withPolicy (s : Site) (policy : UpdatePolicy) : Site :=
  { s with origin := { s.origin with settings := { s.origin.settings with policy } } }

theorem Sound.withPolicy (sound : Sound s) (policy : UpdatePolicy) : Sound (s.withPolicy policy) :=
  ⟨sound.stores, sound.numbered, sound.holds, sound.alone, sound.claimed, sound.staged, sound.crowd, sound.seated⟩

/-- Outcomes with the same answer, the same entities with the same rows, and the same messages. -/
structure Alike (one other : Except Fault Answer × Site) : Prop where
  answer : one.1 = other.1
  columns : ∀ entity : String, (one.2.origin.live[entity]?).map Store.header = (other.2.origin.live[entity]?).map Store.header
  rows : ∀ entity : String, rowsOf one.2.origin.live[entity]? = rowsOf other.2.origin.live[entity]?
  published : one.2.published = other.2.published

theorem Alike.of_live {one other : Except Fault Answer × Site} (answer : one.1 = other.1)
    (live : one.2.origin.live = other.2.origin.live) (published : one.2.published = other.2.published) : Alike one other :=
  ⟨answer, fun _ => by rw [live], fun _ => by rw [live], published⟩

/-- An outcome where the changes of an entity were answered that some rows make, and nothing else was done than making them
and telling of them. -/
structure Told (found : String → Option String) (ids : Names) (entity : String) (old : Store) (s : Site)
    (outcome : Except Fault Answer × Site) (new : Store) (changes : Changes) : Prop where
  answer : outcome.1 = .ok (.changes changes)
  now : outcome.2.origin.live[entity]? = some new
  refreshed : Refreshed found ids old new changes
  others : ∀ other, other ≠ entity → outcome.2.origin.live[other]? = s.origin.live[other]?
  published : outcome.2.published = s.published ++
    if changes.isEmpty then [] else [⟨entity, new.renderSubset changes.updated changes.removed, false⟩]

section Telling

variable {found : String → Option String} {ids : Names} {outcome likewise : Except Fault Answer × Site} {new other : Store}
  {changes again : Changes}

/-- The rows decide what the outcome is. -/
theorem Told.alike (told : Told found ids entity old s outcome new changes) (retold : Told found ids entity old s likewise other again) :
    Alike outcome likewise := by
  obtain ⟨rfl, same⟩ := told.refreshed.unique retold.refreshed
  have columns : new.header = other.header := told.refreshed.columns.trans retold.refreshed.columns.symm
  refine ⟨told.answer.trans retold.answer.symm, fun one => ?_, fun one => ?_, ?_⟩
  · by_cases here : one = entity
    · rw [here, told.now, retold.now, Option.map_some, Option.map_some, columns]
    · rw [told.others one here, retold.others one here]
  · by_cases here : one = entity
    · rw [here, told.now, retold.now]
      refine Std.ExtTreeMap.ext_getElem? fun {id} => ?_
      rw [getElem?_rowsOf, getElem?_rowsOf, same]
    · rw [told.others one here, retold.others one here]
  · rw [told.published, retold.published, Store.renderSubset_congr columns same]

/-- Changes take effect as the rows that were told. -/
theorem Landed.told {fetched : List Entry} {events : List Event} {next : Stages} (landed : Landed s events events t) (sound : Sound s)
    (alive : s.origin.live[entity]? = some old)
    (absorbs : Stages.Absorbs s.origin.settings s.origin.live ∅ ((Delta.ofFetch old ids fetched).events entity old.header) events next)
    (tells : Delta.Tells found ids fetched) :
    ∃ new, Told found ids entity old s (.ok (.changes (Delta.ofFetch old ids fetched).changes), t) new
      (Delta.ofFetch old ids fetched).changes := by
  obtain ⟨new, filled, now, columns, completed, settled, _, others, published⟩ :=
    landed.announced sound (Delta.coherent_ofFetch ..) alive absorbs rfl
  exact ⟨new, rfl, now, tells.refreshed completed settled columns, others, published⟩

end Telling

/-- Rows are considered in a transaction of their own, whether they are trusted or not. -/
theorem consider_run (entity : String) (claims : Claims) (policy : UpdatePolicy) :
    ∃ producer, (wiring c).consider entity claims policy = (wiring c).run producer := by
  cases policy <;> exact ⟨_, rfl⟩

theorem act_held {claims : Claims} (claimed : s.origin.claimsOf entity header rows = .ok claims)
    (held : s.origin.fanout.isOpen = true) :
    act c thread (.applyRows entity header rows) s =
      (.error (.failure (.violation (.held .start))), ({ s with thread } : Site).begun.forgetting s.origin.nextSession) := by
  obtain ⟨producer, runs⟩ := consider_run (c := c) entity claims s.origin.settings.policy
  rw [act_claimed claimed, runs, effect_run_held (s := { s with thread }) producer held]
  rfl

section Confirmed

variable (alive : s.origin.live[entity]? = some old) (whole : table.Sound) (spelled : List.Forall₂ (Payload.Spells old.header) rows records)
  (confirmed : ∀ record ∈ records, table.Confirms entity record)

include confirmed whole

theorem collect_confirmed : Origin.collect (table.fetch (.ids entity (Names.ofList (records.map Record.id)))) entity =
    .ok ((Names.ofList (records.map Record.id)).toList.filterMap table.sentFor) := by
  refine whole.collect_accepted fun id asked => ?_
  obtain ⟨record, member, rfl⟩ := List.mem_map.1 (Names.mem_ofList.1 asked)
  exact (confirmed record member).accepted

include alive spelled

/-- Rows that the table confirms take effect as its rows, by whatever policy. -/
theorem Tabled.tells_confirmed (tabled : Tabled c) (sound : Sound s) (free : s.origin.fanout.isOpen = false)
    (found : s.catalogue.tables[entity]? = some table) (columns : table.header = old.header) (thread : Thread) :
    ∃ new changes, Told (fun id => (table.rows[id]?).map Row.render) (Names.ofList (records.map Record.id)) entity old s
      (act c thread (.applyRows entity old.header rows) s) new changes := by
  by_cases trusts : s.origin.settings.policy = .trusted
  · obtain ⟨claims, claimed, ids, filled⟩ := claims_of_spelled alive spelled
    obtain ⟨_, again, _, reads⟩ := Origin.claimsOf_ok claimed
    have tells := Claims.tells_of_confirmed confirmed filled
    rw [← ids] at tells
    obtain ⟨_, _, t, ends, landed, absorbs⟩ :=
      (sound.on thread).considers_trusted (c := c) free alive (Claims.ofRows_written reads)
    obtain ⟨new, told⟩ := landed.of_on.told sound alive absorbs tells
    refine ⟨new, (Delta.ofFetch old claims.ids claims.entries).changes, ?_⟩
    rw [act_claimed claimed, trusts, ends, ← ids]
    exact told
  · obtain ⟨_, _, t, ends, landed, absorbs⟩ :=
      tabled.refreshes (sound.on thread) free alive found (collect_confirmed whole confirmed) (whole.found_written columns)
    obtain ⟨new, told⟩ := landed.of_on.told sound alive absorbs (table.tells_sent _)
    refine ⟨new, (Delta.ofFound old (Names.ofList (records.map Record.id)) table.sentFor).changes, ?_⟩
    rw [act_doubted thread trusts alive spelled, act, perform, Flow.effect_map, ends]
    exact told

/-- There is nothing to warn about. -/
theorem Tabled.undisputed (tabled : Tabled c) (found : s.catalogue.tables[entity]? = some table)
    (reconciles : s.origin.settings.policy = .reconcile) (header : Header) (thread : Thread) :
    (Logged.applyRows c thread entity header rows s).2.filterMap Notice.disputed? = [] := by
  rcases claimed : s.origin.claimsOf entity header rows with cause | claims
  · rw [Logged.applyRows_refused claimed]
    rfl
  · rw [Logged.disputed_applyRows thread claimed, reconciles]
    obtain ⟨_, again, rfl, reads⟩ := Origin.claimsOf_ok claimed
    cases alive.symm.trans again
    obtain ⟨_, likewise, ids, filled⟩ := claims_of_spelled alive spelled
    cases claimed.symm.trans likewise
    rcases held : s.origin.fanout.isOpen with _ | _
    · have fetches : Origin.collect (c.fetch (transacting { s with thread }) (.ids entity claims.ids)) entity =
          .ok (claims.ids.toList.filterMap table.sentFor) := by
        have served : c.fetch (transacting { s with thread }) (.ids entity claims.ids) = table.fetch (.ids entity claims.ids) :=
          tabled.fetch_table found
        rw [served, ids]
        exact collect_confirmed whole confirmed
      have written := Logged.considered_reconcile (s := { s with thread }) held alive fetches
      rw [written]
      refine Claims.disputed_of_tells ?_ (table.tells_sent _)
      rw [ids]
      exact Claims.tells_of_confirmed confirmed filled
    · rw [Logged.considered_held (s := { s with thread }) held]
      rfl

end Confirmed

/-- Rows that the tables confirm have the same outcome by every policy, and where they are reconciled there is no warning. Unless
they stand under other columns or another transaction is open, they are answered with their changes and the entity has
the rows of its table. -/
theorem Reachable.policies_accord (reach : Reachable c s) (tabled : Tabled c) (made : s.catalogue.Made)
    (alive : s.origin.live[entity]? = some old) (found : s.catalogue.tables[entity]? = some table)
    (columns : table.header = old.header) (spelled : List.Forall₂ (Payload.Spells old.header) rows records)
    (confirmed : ∀ record ∈ records, table.Confirms entity record) (header : Header) (thread : Thread) (first second : UpdatePolicy) :
    Alike (act c thread (.applyRows entity header rows) (s.withPolicy first))
        (act c thread (.applyRows entity header rows) (s.withPolicy second)) ∧
      (Logged.applyRows c thread entity header rows (s.withPolicy .reconcile)).2.filterMap Notice.disputed? = [] ∧
      (header = old.header → s.origin.fanout.isOpen = false → ∃ new changes,
        Told (fun id => (table.rows[id]?).map Row.render) (Names.ofList (records.map Record.id)) entity old s
          (act c thread (.applyRows entity header rows) (s.withPolicy first)) new changes) := by
  have whole := made.sound entity table found
  have tells : ∀ policy, s.origin.fanout.isOpen = false → ∃ new changes,
      Told (fun id => (table.rows[id]?).map Row.render) (Names.ofList (records.map Record.id)) entity old s
        (act c thread (.applyRows entity old.header rows) (s.withPolicy policy)) new changes := fun policy free =>
    have ⟨new, changes, told⟩ := tabled.tells_confirmed (s := s.withPolicy policy) alive whole spelled confirmed
      (reach.sound.withPolicy policy) free found columns thread
    ⟨new, changes, told.answer, told.now, told.refreshed, told.others, told.published⟩
  refine ⟨?_, tabled.undisputed (s := s.withPolicy .reconcile) alive whole spelled confirmed found rfl header thread, ?_⟩
  · -- Other columns are refused alike by all policies, and so is everything while a transaction is open.
    by_cases same : old.header = header
    · subst same
      rcases held : s.origin.fanout.isOpen with _ | _
      · obtain ⟨_, _, told⟩ := tells first held
        obtain ⟨_, _, retold⟩ := tells second held
        exact told.alike retold
      · obtain ⟨_, claimed, _⟩ := claims_of_spelled (s := s.withPolicy first) alive spelled
        obtain ⟨_, likewise, _⟩ := claims_of_spelled (s := s.withPolicy second) alive spelled
        rw [act_held claimed held, act_held likewise held]
        exact .of_live rfl rfl rfl
    · have refused : ∀ policy, act c thread (.applyRows entity header rows) (s.withPolicy policy) =
          (.error (.failure (.columnMismatch entity old.header header.text)), { s.withPolicy policy with thread }) := fun policy =>
        act_refused (Origin.claimsOf_mismatched alive same rows)
      rw [refused, refused]
      exact .of_live rfl rfl rfl
  · rintro rfl free
    exact tells first free

/-- The columns of rows whose ids are composed of two of them. -/
def composedColumns : Header := ⟨["id", "a", "b", "v"], rfl, by decide, by decide⟩

/-- What a transport says that has seen the table change: a row in two spellings, ids that are gone or never were, a row
that the site has already, and one that is new to it. -/
def witnessed : List String := ["\"k/1\",k,1,\"y\"", "k/2", "k/1,k,1,y", "k/3,k,3,x", "k/9", "k/5,k,5,x"]

/-- What these rows are read as. -/
def witnessedRead : List Record := [.update ⟨"k/1", "k/1,k,1,y", ∅⟩, .remove "k/2", .update ⟨"k/1", "k/1,k,1,y", ∅⟩,
  .update ⟨"k/3", "k/3,k,3,x", ∅⟩, .remove "k/9", .update ⟨"k/5", "k/5,k,5,x", ∅⟩]

theorem policies_accord_drifted :
    Alike (act staffed 1 (.applyRows "e" composedColumns witnessed) (drifted.withPolicy .trusted))
        (act staffed 1 (.applyRows "e" composedColumns witnessed) (drifted.withPolicy .reconcile)) ∧
      (Logged.applyRows staffed 1 "e" composedColumns witnessed (drifted.withPolicy .reconcile)).2.filterMap Notice.disputed? = [] ∧
      ∃ old table new changes, drifted.origin.live["e"]? = some old ∧ drifted.catalogue.tables["e"]? = some table ∧
        Told (fun id => (table.rows[id]?).map Row.render) (Names.ofList (witnessedRead.map Record.id)) "e" old drifted
          (act staffed 1 (.applyRows "e" composedColumns witnessed) (drifted.withPolicy .trusted)) new changes := by
  have there : (drifted.origin.live["e"]?).map Store.header = some composedColumns := by decide +kernel
  have headers : (drifted.catalogue.tables["e"]?).map Table.header = some composedColumns := by decide +kernel
  have served : (drifted.catalogue.tables["e"]?).map (fun table => witnessedRead.all fun record =>
      table.keyFor "e" record.id = .ok record.id ∧ record.row? = (table.rows[record.id]?).map Row.render) = some true := by
    decide +kernel
  obtain ⟨old, alive, columns⟩ := Option.map_eq_some_iff.1 there
  obtain ⟨table, found, header⟩ := Option.map_eq_some_iff.1 headers
  rw [found, Option.map_some, Option.some_inj, List.all_eq_true] at served
  have spelled : List.Forall₂ (Payload.Spells old.header) witnessed witnessedRead := by
    rw [columns]
    decide +kernel
  have confirmed : ∀ record ∈ witnessedRead, table.Confirms "e" record := by
    intro record member
    obtain ⟨keyed, agrees⟩ := of_decide_eq_true (served record member)
    exact ⟨⟨record.id, keyed⟩, agrees⟩
  obtain ⟨alike, quiet, told⟩ := drifted_reachable.policies_accord tabled_staffed drifted_made alive found
    (header.trans columns.symm) spelled confirmed composedColumns 1 .trusted .reconcile
  obtain ⟨new, changes, told⟩ := told columns.symm (by decide +kernel)
  exact ⟨alike, quiet, old, table, new, changes, alive, found, told⟩

end Site

end ReferenceFeed
