import ReferenceFeed.Proofs.Claim
import ReferenceFeed.Proofs.Convergence
import ReferenceFeed.Proofs.Journal
import ReferenceFeed.Proofs.Settlement

namespace ReferenceFeed

/-!
Rows of a transport that is not trusted. Whatever they say, what becomes of them is a refresh of the ids they name; where they are
reconciled, a notice is written for each id on which they were wrong, and for no other.
-/

namespace Site

/-- A site in the open transaction of a session of its own. -/
def transacting (s : Site) : Site :=
  (s.begun.withFanout (s.origin.fanout.opened s.thread s.origin.fanout.subscribers)).keeping s.origin.nextSession ⟨some ∅, true⟩

theorem effect_start_begun {c : Conduct} {s : Site} (free : s.origin.fanout.isOpen = false) :
    Flow.effect ((wiring c).start s.origin.nextSession) s.begun = (.ok (), s.transacting) := by
  have still : s.begun.origin.fanout.isOpen = false := free
  rw [effect_start, session_begun_own, still]
  rfl

end Site

namespace Logged

variable {c : Conduct} {s : Site} {entity : String}

theorem echoes_note_all {notices : List Notice} (dispute : ∀ notice ∈ notices, notice.disputes = true) :
    Echoes (notices.forM Flow.note) (notices.forM Flow.note) fun _ => notices := by
  induction notices with
  | nil => exact Quiet.pure PUnit.unit
  | cons notice rest ih =>
    intro s
    have first : EchoesAt s (Flow.note notice) (Flow.note notice) [notice] := by
      refine ⟨[notice], rfl, ?_⟩
      rw [List.filter_cons_of_pos (dispute notice List.mem_cons_self)]
      rfl
    exact first.bind fun _ => ih fun other member => dispute other (List.mem_cons_of_mem _ member)

theorem disagreements_dispute (entity : String) (claims : Claims) (fetched : List Entry) :
    ∀ notice ∈ claims.disagreements entity fetched, notice.disputes = true := by
  intro notice member
  obtain ⟨id, _, made⟩ := List.mem_filterMap.1 member
  obtain ⟨how, _, rfl⟩ := Option.map_eq_some_iff.1 made
  rfl

/-- What is written about claims when the entries of their ids are fetched, if they are. -/
def disputed (c : Conduct) (entity : String) (claims : Claims) : Site → List Notice := fun s =>
  disputesAfter (fun _ u => disputesAfter (fun fetched _ => claims.disagreements entity fetched)
    (Flow.effect ((Site.wiring c).fetchIds entity claims.ids) u)) (Flow.effect ((Site.wiring c).ask (·.store entity)) s)

/-- What is written about claims under a policy. Who reconciles them does so in an open transaction. -/
def considered (c : Conduct) (entity : String) (claims : Claims) : UpdatePolicy → Site → List Notice
  | .reconcile, s => disputesAfter (fun _ => disputed c entity claims)
    (Flow.effect ((Site.wiring c).start s.origin.nextSession) s.begun)
  | .trusted, _ | .untrusted, _ => []

theorem echoes_consider (claims : Claims) (policy : UpdatePolicy) :
    Echoes ((wiring c).consider entity claims policy) ((Site.wiring c).consider entity claims policy)
      (considered c entity claims policy) := by
  cases policy with
  | trusted =>
    exact quiet_run fun number => (quiet_ask _).bind fun store => quiet_announce number store entity _
  | untrusted =>
    refine quiet_run fun number => (quiet_ask _).bind fun store => ?_
    exact (quiet_fetchIds entity claims.ids).bind fun fetched => quiet_announce number store entity _
  | reconcile =>
    refine echoes_run fun number => (quiet_ask _).followed _ fun store => ?_
    refine (quiet_fetchIds entity claims.ids).followed _ fun fetched => ?_
    exact (echoes_note_all (disagreements_dispute entity claims fetched)).bind fun _ => quiet_announce number store entity _

/-- How a thread is answered that has rows to apply, what the site is afterwards, and what was written meanwhile. -/
def applyRows (c : Conduct) (thread : Thread) (entity : String) (header : Header) (rows : List String) (s : Site) :
    (Except Fault Site.Answer × Site) × List Notice :=
  let outcome := Flow.effect ((wiring c).applyRows entity header rows) ⟨{ s with thread }, []⟩
  ((outcome.1.map .changes, outcome.2.site), outcome.2.notices)

variable {header : Header} {rows : List String} {claims : Claims}

/-- Nothing is written about rows that are refused. -/
theorem applyRows_refused {thread : Thread} {cause : Failure} (refused : s.origin.claimsOf entity header rows = .error cause) :
    applyRows c thread entity header rows s = ((.error (.failure cause), { s with thread }), []) := by
  have here : ((wiring c).place.get ⟨{ s with thread }, []⟩).claimsOf entity header rows = .error cause := refused
  rw [applyRows, Origin.Wiring.effect_applyRows, here]
  rfl

/-- What rows claim is considered as without a journal, and disputed as far as the policy has it. -/
theorem applyRows_claimed (thread : Thread) (claimed : s.origin.claimsOf entity header rows = .ok claims) :
    ∃ notices, applyRows c thread entity header rows s = (Site.act c thread (.applyRows entity header rows) s, notices) ∧
      notices.filter Notice.disputes = considered c entity claims s.origin.settings.policy { s with thread } := by
  obtain ⟨notices, effect, same⟩ := echoes_consider (c := c) claims s.origin.settings.policy ⟨{ s with thread }, []⟩
  refine ⟨notices, ?_, same⟩
  have here : ((wiring c).place.get ⟨{ s with thread }, []⟩).claimsOf entity header rows = .ok claims := claimed
  have answers := (wiring c).effect_applyRows entity header rows ⟨{ s with thread }, []⟩
  rw [here] at answers
  rw [applyRows, answers.trans effect, Site.act_claimed claimed]
  rfl

/-- Keeping notices makes no difference to a site. -/
theorem applyRows_eq (c : Conduct) (thread : Thread) (entity : String) (header : Header) (rows : List String) (s : Site) :
    (applyRows c thread entity header rows s).1 = Site.act c thread (.applyRows entity header rows) s := by
  rcases claimed : s.origin.claimsOf entity header rows with cause | claims
  · rw [applyRows_refused claimed, Site.act_refused claimed]
  · obtain ⟨notices, outcome, _⟩ := applyRows_claimed (c := c) thread claimed
    rw [outcome]

theorem considered_reconcile {old : Store} {fetched : List Entry} (free : s.origin.fanout.isOpen = false)
    (alive : s.origin.live[entity]? = some old)
    (fetches : Origin.collect (c.fetch s.transacting (.ids entity claims.ids)) entity = .ok fetched) :
    considered c entity claims .reconcile s = claims.disagreements entity fetched := by
  have still : s.transacting.origin.live[entity]? = some old := alive
  have there : s.transacting.origin.store entity = .ok old := by rw [Origin.store, liveStore, still]
  rw [considered, Site.effect_start_begun free, disputesAfter, disputed, Site.effect_ask, there]
  simp only [Except.mapError, disputesAfter, Site.effect_fetchIds, fetches]

theorem considered_held (held : s.origin.fanout.isOpen = true) : considered c entity claims .reconcile s = [] := by
  rw [considered, Site.effect_start_begun_held held, disputesAfter]

/-- Of what is written about rows, the warnings are about the claims that they make. -/
theorem disputed_applyRows (thread : Thread) (claimed : s.origin.claimsOf entity header rows = .ok claims) :
    (applyRows c thread entity header rows s).2.filterMap Notice.disputed? =
      (considered c entity claims s.origin.settings.policy { s with thread }).filterMap Notice.disputed? := by
  obtain ⟨notices, outcome, same⟩ := applyRows_claimed (c := c) thread claimed
  have only : ∀ notices : List Notice,
      (notices.filter Notice.disputes).filterMap Notice.disputed? = notices.filterMap Notice.disputed? := by
    intro notices
    rw [List.filterMap_filter]
    refine List.filterMap_congr fun notice _ => ?_
    unfold Notice.disputes
    rcases notice.disputed? with _ | _ <;> rfl
  rw [outcome, ← same, only]

end Logged

namespace Claims

variable {entity : String} {header : Header} {rows : List String} {records : List Record} {claims : Claims}

theorem disagreement?_isSome (claimed found : Option String) : (disagreement? claimed found).isSome = true ↔ claimed ≠ found := by
  rcases claimed with _ | claimed <;> rcases found with _ | found
  · exact iff_of_false (by decide) fun differ => differ rfl
  · exact iff_of_true rfl nofun
  · exact iff_of_true rfl nofun
  · unfold disagreement?
    by_cases same : claimed = found
    · simp [same]
    · simp [same]

/-- There is one notice for each id on which claims are wrong, in the order of the ids. -/
theorem disputed_disagreements (entity : String) (claims : Claims) (fetched : List Entry) :
    (claims.disagreements entity fetched).filterMap Notice.disputed? =
      (claims.ids.filter fun id => (disagreement? (rowsOf claims.entries)[id]? (rowsOf fetched)[id]?).isSome).toList.map (entity, ·) := by
  rw [disagreements, List.filterMap_filterMap, Names.toList_filter, ← List.filterMap_eq_filter, List.map_filterMap]
  refine List.filterMap_congr fun id _ => ?_
  rcases wrong : disagreement? (rowsOf claims.entries)[id]? (rowsOf fetched)[id]? with _ | how
  · simp [Option.guard, wrong]
  · simp [Option.guard, wrong, Notice.disputed?]

/-- What rows claim about an id that only one of them names. -/
theorem getElem?_rowsOf_spelled (filled : List.Forall₂ Entry.Filled (records.filterMap Record.entry?) claims.entries)
    (distinct : (records.map Record.id).Nodup) {record : Record} (member : record ∈ records) :
    (rowsOf claims.entries)[record.id]? = record.row? := by
  have last := lastOf_of_nodup distinct member
  rw [getElem?_rowsOf, Entry.Filled.last_row filled]
  cases record with
  | update entry =>
    rw [Record.lastOf_entries last]
    rfl
  | remove gone =>
    have absent : lastOf Entry.id (records.filterMap Record.entry?) gone = none := by
      rw [Record.lastOf_entries_none]
      rintro entry given rfl
      cases (lastOf_of_nodup distinct given).symm.trans last
    exact congrArg (Option.map Entry.row) absent

end Claims

namespace Site

variable {c : Conduct} {s : Site} {entity : String} {old : Store} {thread : Thread} {rows : List String} {records : List Record}

theorem claims_of_spelled (alive : s.origin.live[entity]? = some old) (spelled : List.Forall₂ (Payload.Spells old.header) rows records) :
    ∃ claims, s.origin.claimsOf entity old.header rows = .ok claims ∧ claims.ids = Names.ofList (records.map Record.id) ∧
      List.Forall₂ Entry.Filled (records.filterMap Record.entry?) claims.entries := by
  rw [Origin.claimsOf_alive alive]
  exact Claims.ofRows_spelled spelled

/-- Rows that are doubted are answered like a refresh of their ids. -/
theorem act_doubted (thread : Thread) (doubted : s.origin.settings.policy ≠ .trusted) (alive : s.origin.live[entity]? = some old)
    (spelled : List.Forall₂ (Payload.Spells old.header) rows records) :
    act c thread (.applyRows entity old.header rows) s = act c thread (.refresh entity (Names.ofList (records.map Record.id))) s := by
  obtain ⟨claims, claimed, ids, _⟩ := claims_of_spelled alive spelled
  rw [act_claimed claimed, consider_doubted doubted, ids, act, perform, Flow.effect_map]

/-- Whatever rows of a doubted transport say of some ids, the site comes to what a refresh of these ids makes of it, in its stores,
its messages and what subscribers hear, and the answer is that of the refresh. Where rows are reconciled, each of them
names another id and the ids are fetched, there is one warning for each id whose row, or whose absence, is not what was
fetched, and no other. -/
theorem content_ignored {others : List String} {doubles : List Record} {ids : Names} (thread : Thread)
    (doubted : s.origin.settings.policy ≠ .trusted) (alive : s.origin.live[entity]? = some old)
    (spelled : List.Forall₂ (Payload.Spells old.header) rows records) (named : Names.ofList (records.map Record.id) = ids)
    (likewise : List.Forall₂ (Payload.Spells old.header) others doubles) (alike : Names.ofList (doubles.map Record.id) = ids) :
    act c thread (.applyRows entity old.header rows) s = act c thread (.applyRows entity old.header others) s ∧
      act c thread (.applyRows entity old.header rows) s = act c thread (.refresh entity ids) s ∧
      (Logged.applyRows c thread entity old.header rows s).1 = act c thread (.applyRows entity old.header rows) s ∧
      (s.origin.settings.policy = .reconcile → s.origin.fanout.isOpen = false → (records.map Record.id).Nodup → ∀ fetched,
        Origin.collect (c.fetch (transacting { s with thread }) (.ids entity ids)) entity = .ok fetched → ∃ wrong : Names,
          (Logged.applyRows c thread entity old.header rows s).2.filterMap Notice.disputed? = wrong.toList.map (entity, ·) ∧
          ∀ id, id ∈ wrong ↔ ∃ record ∈ records, record.id = id ∧ record.row? ≠ (lastOf Entry.id fetched id).map Entry.row) := by
  have first := act_doubted (c := c) thread doubted alive spelled
  have second := act_doubted (c := c) thread doubted alive likewise
  rw [named] at first
  rw [alike] at second
  refine ⟨first.trans second.symm, first, Logged.applyRows_eq c thread entity old.header rows s, ?_⟩
  intro reconciles free distinct fetched fetches
  obtain ⟨claims, claimed, asked, filled⟩ := claims_of_spelled alive spelled
  rw [← named, ← asked] at fetches
  have written := Logged.considered_reconcile (c := c) (s := { s with thread }) free alive fetches
  have warned := Logged.disputed_applyRows (c := c) thread claimed
  rw [reconciles, written] at warned
  refine ⟨_, warned.trans (Claims.disputed_disagreements entity claims fetched), fun id => ?_⟩
  rw [Names.mem_filter, Claims.disagreement?_isSome, asked, Names.mem_ofList, List.mem_map, Claims.getElem?_rowsOf fetched]
  constructor
  · rintro ⟨⟨record, member, rfl⟩, differ⟩
    rw [Claims.getElem?_rowsOf_spelled filled distinct member] at differ
    exact ⟨record, member, rfl, differ⟩
  · rintro ⟨record, member, rfl, differ⟩
    rw [Claims.getElem?_rowsOf_spelled filled distinct member]
    exact ⟨⟨record, member, rfl⟩, differ⟩

/-- A site that reconciles rows, with a subscriber, and with a table that has changed since it was loaded. -/
def doubting : Site :=
  (enact staffed (overTables { policy := .reconcile } [.load "e" "id,v\n1,x\n2,x\n3,x"])
    ([(0, .register 0), (0, .subscribe (.only {"e"})), (0, .reload "e")] ++
      [.upsert "e" [some "1", some "y"], .delete "e" "2", .upsert "e" [some "4", some "x"]].map fun change => (0, .mutate change))).2

/-- Rows of which the first is right, with quotes that it does not need, and the last is right about an id that never was. -/
def mistaken : List String := ["\"1\",y", "2,x", "3", "4,w", "9"]

/-- What these rows are read as. -/
def mistakenRead : List Record :=
  [.update ⟨"1", "1,y", ∅⟩, .update ⟨"2", "2,x", ∅⟩, .remove "3", .update ⟨"4", "4,w", ∅⟩, .remove "9"]

/-- Other rows of the same ids, of which one is named twice. -/
def muddled : List String := ["4", "9,u", "1", "2", "1,v", "3,u"]

/-- What these rows are read as. -/
def muddledRead : List Record :=
  [.remove "4", .update ⟨"9", "9,u", ∅⟩, .remove "1", .remove "2", .update ⟨"1", "1,v", ∅⟩, .update ⟨"3", "3,u", ∅⟩]

theorem content_ignored_doubting :
    act staffed 1 (.applyRows "e" keyAndValue mistaken) doubting = act staffed 1 (.applyRows "e" keyAndValue muddled) doubting ∧
    act staffed 1 (.applyRows "e" keyAndValue mistaken) doubting = act staffed 1 (.refresh "e" {"1", "2", "3", "4", "9"}) doubting ∧
    ∃ wrong : Names, (Logged.applyRows staffed 1 "e" keyAndValue mistaken doubting).2.filterMap Notice.disputed? =
      wrong.toList.map ("e", ·) ∧ "2" ∈ wrong ∧ "3" ∈ wrong ∧ "4" ∈ wrong ∧ "1" ∉ wrong ∧ "9" ∉ wrong := by
  have columns : (doubting.origin.live["e"]?).map Store.header = some keyAndValue := by decide +kernel
  obtain ⟨old, alive, header⟩ := Option.map_eq_some_iff.1 columns
  have spelled : List.Forall₂ (Payload.Spells old.header) mistaken mistakenRead := by
    rw [header]
    decide +kernel
  have likewise : List.Forall₂ (Payload.Spells old.header) muddled muddledRead := by
    rw [header]
    decide +kernel
  have named : Names.ofList (mistakenRead.map Record.id) = {"1", "2", "3", "4", "9"} := by decide +kernel
  have alike : Names.ofList (muddledRead.map Record.id) = {"1", "2", "3", "4", "9"} := by decide +kernel
  have fetches : Origin.collect (staffed.fetch (transacting { doubting with thread := 1 }) (.ids "e" {"1", "2", "3", "4", "9"})) "e" =
      .ok [⟨"1", "1,y", ∅⟩, ⟨"3", "3,x", ∅⟩, ⟨"4", "4,x", ∅⟩] := by decide +kernel
  obtain ⟨same, refreshed, _, disputes⟩ :=
    content_ignored (c := staffed) 1 (by decide +kernel) alive spelled named likewise alike
  obtain ⟨wrong, written, exactly⟩ := disputes (by decide +kernel) (by decide +kernel) (by decide) _ fetches
  rw [header] at same refreshed written
  exact ⟨same, refreshed, wrong, written, (exactly _).2 (by decide +kernel), (exactly _).2 (by decide +kernel),
    (exactly _).2 (by decide +kernel), mt (exactly _).1 (by decide +kernel), mt (exactly _).1 (by decide +kernel)⟩

end Site

end ReferenceFeed
