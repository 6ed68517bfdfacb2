import ReferenceFeed.Proofs.Session
import ReferenceFeed.Proofs.Staged

namespace ReferenceFeed

/-!
The operations that run a whole transaction. Each of them either fails before it begins a session, or runs a
producer that does nothing to a site but announce events through that session.
-/

namespace Origin

variable {χ : Type} {o : Origin χ} {entity : String} {header : Header} {rows : List String} {old : Store} {claims : Claims}

/-- What the rows of a transport claim, if they stand under the columns of a live entity. -/
def claimsOf (o : Origin χ) (entity : String) (header : Header) (rows : List String) : Except Failure Claims := do
  let store ← o.store entity
  checkHeader entity store.header header
  Claims.ofRows o.settings entity header rows

theorem claimsOf_ok (claimed : o.claimsOf entity header rows = .ok claims) :
    ∃ old, o.live[entity]? = some old ∧ old.header = header ∧ Claims.ofRows o.settings entity header rows = .ok claims := by
  obtain ⟨old, there, checked⟩ := bind_ok claimed
  obtain ⟨_, agrees, reads⟩ := bind_ok checked
  exact ⟨old, liveStore_ok there, checkHeader_ok agrees, reads⟩

theorem claimsOf_alive (alive : o.live[entity]? = some old) (rows : List String) :
    o.claimsOf entity old.header rows = Claims.ofRows o.settings entity old.header rows := by
  have found : o.store entity = .ok old := by rw [Origin.store, liveStore, alive]
  have agrees : checkHeader entity old.header old.header = .ok () := if_pos rfl
  simp only [claimsOf, found, bind, Except.bind, agrees]

theorem claimsOf_mismatched (alive : o.live[entity]? = some old) (differs : old.header ≠ header) (rows : List String) :
    o.claimsOf entity header rows = .error (.columnMismatch entity old.header header.text) := by
  have found : o.store entity = .ok old := by rw [Origin.store, liveStore, alive]
  have refused : checkHeader entity old.header header = .error (.columnMismatch entity old.header header.text) := if_neg differs
  simp only [claimsOf, found, bind, Except.bind, refused]

namespace Wiring

variable {σ : Type} [Journal σ] (w : Wiring σ χ)

/-- What is done about claims under a policy. -/
def consider (entity : String) (claims : Claims) : UpdatePolicy → Flow σ Changes
  | .untrusted => w.refresh entity claims.ids
  | .trusted => w.run fun number => do
    let store ← w.ask (·.store entity)
    w.announce number store entity (.ofFetch store claims.ids claims.entries)
  | .reconcile => w.run fun number => do
    let store ← w.ask (·.store entity)
    let fetched ← w.fetchIds entity claims.ids
    (claims.disagreements entity fetched).forM Flow.note
    w.announce number store entity (.ofFetch store claims.ids fetched)

/-- Rows are refused at once, or what they claim is considered. -/
theorem effect_applyRows (entity : String) (header : Header) (rows : List String) (state : σ) :
    Flow.effect (w.applyRows entity header rows) state =
      match (w.place.get state).claimsOf entity header rows with
      | .error cause => (.error (.failure cause), state)
      | .ok claims => Flow.effect (w.consider entity claims (w.place.get state).settings.policy) state := by
  rw [applyRows, Flow.effect_bind, Place.effect_read]
  simp only [Flow.effect_bind, Flow.effect_ofExcept]
  rw [← claimsOf]
  rcases (w.place.get state).claimsOf entity header rows with cause | claims
  · rfl
  · simp only [Except.mapError]
    generalize (w.place.get state).settings.policy = policy
    cases policy <;> rfl

end Wiring

end Origin

namespace Site

/-- A producer that touches a site only by announcing events through its session. -/
def Announces (c : Conduct) (number : Nat) {α : Type} (producer : Flow Site α) : Prop :=
  ∀ P : Site → Prop, (∀ event, Flow.Keeps P ((wiring c).event number event)) → Flow.Keeps P producer

variable {c : Conduct} {number : Nat} {α β : Type}

/-- A step that only looks announces nothing. -/
theorem Announces.of_same {producer : Flow Site α} (same : ∀ s, (Flow.effect producer s).2 = s) :
    Announces c number producer := fun _ _ => .of_same same

theorem Announces.bind {first : Flow Site α} {next : α → Flow Site β} (announces : Announces c number first)
    (later : ∀ value, Announces c number (next value)) : Announces c number (first >>= next) :=
  fun P events => (announces P events).bind fun value => later value P events

theorem Announces.forM {items : List α} {body : α → Flow Site PUnit} (turn : ∀ item ∈ items, Announces c number (body item)) :
    Announces c number (items.forM body) := fun P events => .forM fun item member => turn item member P events

theorem effect_ask (question : Origin Nat → Except Failure α) (s : Site) :
    Flow.effect ((wiring c).ask question) s = ((question s.origin).mapError .failure, s) := by
  simp only [Origin.Wiring.ask, Flow.effect_bind, Place.effect_read, wiring_place_get, Flow.effect_ofExcept]

theorem effect_fetchIds (entity : String) (ids : Names) (s : Site) :
    Flow.effect ((wiring c).fetchIds entity ids) s = (Origin.collect (c.fetch s (.ids entity ids)) entity, s) := by
  simp only [Origin.Wiring.fetchIds, Flow.effect_bind, Flow.effect_get, Flow.effect_resume]
  rfl

theorem announces_ask (question : Origin Nat → Except Failure α) : Announces c number ((wiring c).ask question) :=
  .of_same fun s => by rw [effect_ask]

theorem announces_fetchIds (entity : String) (ids : Names) : Announces c number ((wiring c).fetchIds entity ids) :=
  .of_same fun s => by rw [effect_fetchIds]

/-- Whatever a source answers, it can only announce events. -/
theorem announces_fetchInto (request : Request) : Announces c number ((wiring c).fetchInto request number) := by
  refine Announces.bind (.of_same fun _ => rfl) fun s => ?_
  refine Announces.bind (.forM fun signal member => ?_) fun _ => .of_same fun t => by rw [Flow.effect_resume]
  obtain ⟨event, rfl⟩ := c.fetch_events s request signal member
  exact fun P events => events event

theorem announces_announce (store : Store) (entity : String) (delta : Delta) :
    Announces c number ((wiring c).announce number store entity delta) :=
  .bind (.forM fun event _ _ events => events event) fun _ => .of_same fun _ => rfl

/-- Producers that only announce events. -/
abbrev Announcing (c : Conduct) (γ : Type) (producer : Nat → Flow Site γ) : Prop :=
  ∀ number, Announces c number (producer number)

/-- An operation that fails at once, or runs a producer of some kind. -/
def Whole (c : Conduct) (Kind : ∀ γ : Type, (Nat → Flow Site γ) → Prop) (operation : Flow Site α) (s : Site) : Prop :=
  (∃ fault, Flow.effect operation s = (.error fault, s)) ∨
    ∃ producer : Nat → Flow Site α, Kind α producer ∧ Flow.effect operation s = Flow.effect ((wiring c).run producer) s

variable {Kind : ∀ γ : Type, (Nat → Flow Site γ) → Prop}

theorem whole_run {producer : Nat → Flow Site α} (kind : Kind α producer) (s : Site) :
    Whole c Kind ((wiring c).run producer) s := .inr ⟨producer, kind, rfl⟩

/-- A check that touches nothing comes before a whole operation. -/
theorem Whole.after {check : Flow Site β} {operation : β → Flow Site α} {s : Site}
    (same : (Flow.effect check s).2 = s)
    (whole : ∀ value, (Flow.effect check s).1 = .ok value → Whole c Kind (operation value) s) :
    Whole c Kind (check >>= operation) s := by
  rcases ended : Flow.effect check s with ⟨fault | value, after⟩
  · rw [ended] at same
    cases same
    exact .inl ⟨fault, by rw [Flow.effect_bind, ended]⟩
  · rw [ended] at same
    cases same
    have continues : Flow.effect (check >>= operation) after = Flow.effect (operation value) after := by
      rw [Flow.effect_bind, ended]
    rw [Whole, continues]
    exact whole value (by rw [ended])

theorem whole_reload (entity : String) (s : Site) : Whole c (Announcing c) ((wiring c).reload entity) s :=
  whole_run (fun _ => announces_fetchInto _) s

theorem whole_reloadAll (s : Site) : Whole c (Announcing c) (wiring c).reloadAll s := by
  have served : Whole c (Announcing c) (Flow.resume (c.serves s) >>= fun entities : List String => (wiring c).run fun number =>
      entities.forM fun entity => (wiring c).fetchInto (.whole entity) number) s :=
    Whole.after (by rw [Flow.effect_resume]) fun entities _ =>
      whole_run (fun number => .forM fun entity _ => announces_fetchInto _) s
  exact served

theorem whole_reloadGroup (entity : String) (key : GroupValue) (s : Site) :
    Whole c (Announcing c) ((wiring c).reloadGroup entity key) s :=
  .after (by rw [effect_ask]) fun _ _ => whole_run (fun _ => announces_fetchInto _) s

theorem whole_refresh (entity : String) (ids : Names) (s : Site) :
    Whole c (Announcing c) ((wiring c).refresh entity ids) s :=
  whole_run (fun _ => .bind (announces_ask _) fun _ => .bind (announces_fetchIds _ _) fun _ => announces_announce _ _ _) s

theorem whole_refreshNamed (entity text : String) (s : Site) :
    Whole c (Announcing c) ((wiring c).refreshNamed entity text) s :=
  .after (by rw [Flow.effect_ofExcept]) fun _ _ => whole_refresh _ _ s

theorem whole_republish (entity id : String) (s : Site) : Whole c (Announcing c) ((wiring c).republish entity id) s :=
  whole_run (fun _ => .bind (announces_ask _) fun _ => .bind (announces_fetchIds _ _) fun _ => announces_announce _ _ _) s

/-- As notices are not kept, it makes no difference whether claims are compared with what was fetched. -/
theorem consider_doubted {entity : String} {claims : Claims} {policy : UpdatePolicy} (doubted : policy ≠ .trusted) :
    (wiring c).consider entity claims policy = (wiring c).refresh entity claims.ids := by
  cases policy with
  | trusted => exact absurd rfl doubted
  | untrusted => rfl
  | reconcile =>
    have noted : ∀ (fetched : List Entry) (u : Site),
        Flow.effect ((claims.disagreements entity fetched).forM Flow.note) u = (.ok (), u) := fun _ _ =>
      Flow.effect_forM_same (fun _ => rfl) _
    refine congrArg (wiring c).run (funext fun number => Flow.ext fun u => ?_)
    simp only [Flow.effect_bind, noted]

/-- Rows that are applied count as they were read under the live columns, or else their ids are fetched again. -/
theorem Whole.applyRows {s : Site} {entity : String} {header : Header} {rows : List String}
    (doubted : s.origin.settings.policy ≠ .trusted → ∀ ids, Whole c Kind ((wiring c).refresh entity ids) s)
    (trusted : s.origin.settings.policy = .trusted → ∀ old claims, s.origin.live[entity]? = some old →
      Claims.ofRows s.origin.settings entity old.header rows = .ok claims →
      Whole c Kind ((wiring c).consider entity claims .trusted) s) :
    Whole c Kind ((wiring c).applyRows entity header rows) s := by
  have applied := (wiring c).effect_applyRows entity header rows s
  rw [wiring_place_get] at applied
  rcases claimed : s.origin.claimsOf entity header rows with cause | claims
  · simp only [claimed] at applied
    exact .inl ⟨_, applied⟩
  · simp only [claimed] at applied
    rw [Whole, applied]
    obtain ⟨old, alive, rfl, reads⟩ := Origin.claimsOf_ok claimed
    by_cases counts : s.origin.settings.policy = .trusted
    · rw [counts]
      exact trusted counts old claims alive reads
    · rw [consider_doubted counts]
      exact doubted counts claims.ids

theorem whole_applyRows (entity : String) (header : Header) (rows : List String) (s : Site) :
    Whole c (Announcing c) ((wiring c).applyRows entity header rows) s := by
  refine .applyRows (fun _ ids => whole_refresh entity ids s) fun _ _ _ _ _ => ?_
  exact whole_run (fun _ => .bind (announces_ask _) fun _ => announces_announce _ _ _) s

/-- The actions that run a whole transaction, if they get that far. -/
def Action.isWhole : Action → Bool
  | .reload _ | .reloadAll | .reloadGroup _ _ | .refresh _ _ | .refreshNamed _ _ | .applyRows _ _ _ | .republish _ _ => true
  | .begin | .call _ _ | .drop _ | .subscribe _ | .unsubscribe _ | .register _ | .mutate _ => false

/-- Every whole action is a whole operation whose result is its answer. -/
theorem perform_whole {action : Action} (isWhole : action.isWhole = true) (s : Site) :
    ∃ (α : Type) (operation : Flow Site α) (answer : α → Answer),
      perform c action = answer <$> operation ∧ Whole c (Announcing c) operation s := by
  cases action with
  | reload entity => exact ⟨_, _, _, rfl, whole_reload entity s⟩
  | reloadAll => exact ⟨_, _, _, rfl, whole_reloadAll s⟩
  | reloadGroup entity key => exact ⟨_, _, _, rfl, whole_reloadGroup entity key s⟩
  | refresh entity ids => exact ⟨_, _, _, rfl, whole_refresh entity ids s⟩
  | refreshNamed entity text => exact ⟨_, _, _, rfl, whole_refreshNamed entity text s⟩
  | applyRows entity header rows => exact ⟨_, _, _, rfl, whole_applyRows entity header rows s⟩
  | republish entity id => exact ⟨_, _, _, rfl, whole_republish entity id s⟩
  | begin | call | drop | subscribe | unsubscribe | register | mutate => cases isWhole

/-- A producer inside the transaction of a session. -/
abbrev within (c : Conduct) (number : Nat) (producer : Flow Site α) : Flow Site α := do
  (wiring c).start number
  match ← Flow.attempt producer with
  | .ok value =>
    (wiring c).finish number
    return value
  | .error cause =>
    match ← Flow.attempt ((wiring c).cancel number) with
    | .ok _ => Flow.fail cause
    | .error again =>
      Flow.note (.cancelFailed again)
      Flow.fail cause

/-- A site with one more session. -/
def begun (s : Site) : Site :=
  { s with origin := { s.origin.withSession s.origin.nextSession {} with nextSession := s.origin.nextSession + 1 } }

theorem session_begun (s : Site) (other : Nat) :
    s.begun.origin.session other = if s.origin.nextSession = other then {} else s.origin.session other :=
  Origin.session_withSession _ _ _ _

theorem session_begun_own (s : Site) : s.begun.origin.session s.origin.nextSession = {} := (session_begun s _).trans (if_pos rfl)

/-- A whole transaction has a session of its own, which is dropped in the end. -/
theorem effect_run (producer : Nat → Flow Site α) (s : Site) :
    Flow.effect ((wiring c).run producer) s =
      Flow.effect (Flow.ensuring (within c s.origin.nextSession (producer s.origin.nextSession))
        ((wiring c).drop s.origin.nextSession)) s.begun := by
  rw [Origin.Wiring.run, Flow.effect_bind, effect_begin]
  rfl

/-- Whoever starts a transaction finds the same tables and stores. -/
theorem start_keeps {s u : Site} {number : Nat} {answer : Except Fault Unit}
    (starts : Flow.effect ((wiring c).start number) s = (answer, u)) :
    u.catalogue = s.catalogue ∧ u.origin.live = s.origin.live := by
  rw [effect_start] at starts
  repeat' split at starts
  all_goals
    cases starts
    exact ⟨rfl, rfl⟩

/-- Producers that do the same over the same tables and stores make the same whole transaction. -/
theorem effect_run_congr {s : Site} {first second : Nat → Flow Site α}
    (same : ∀ number u, u.catalogue = s.catalogue → u.origin.live = s.origin.live →
      Flow.effect (first number) u = Flow.effect (second number) u) :
    Flow.effect ((wiring c).run first) s = Flow.effect ((wiring c).run second) s := by
  have inside : Flow.effect (within c s.origin.nextSession (first s.origin.nextSession)) s.begun =
      Flow.effect (within c s.origin.nextSession (second s.origin.nextSession)) s.begun := by
    rw [Flow.effect_bind, Flow.effect_bind]
    rcases starts : Flow.effect ((wiring c).start s.origin.nextSession) s.begun with ⟨fault | _, u⟩
    · rfl
    · obtain ⟨catalogue, live⟩ := start_keeps starts
      simp only [Flow.effect_bind, Flow.effect_attempt, same _ u catalogue live]
  rw [effect_run, effect_run, Flow.effect_ensuring, Flow.effect_ensuring, inside]

/-- What a whole transaction is answered is what its producer came to, over the same tables and stores. -/
theorem effect_run_ok {s t : Site} {producer : Nat → Flow Site α} {value : α}
    (runs : Flow.effect ((wiring c).run producer) s = (.ok value, t)) :
    ∃ u v, u.catalogue = s.catalogue ∧ u.origin.live = s.origin.live ∧
      Flow.effect (producer s.origin.nextSession) u = (.ok value, v) := by
  rw [effect_run] at runs
  obtain ⟨after, ends⟩ := Flow.effect_ensuring_ok runs
  obtain ⟨_, u, started, ends⟩ := Flow.effect_bind_ok ends
  obtain ⟨produced, v, attempted, ends⟩ := Flow.effect_bind_ok ends
  cases produced with
  | error cause =>
    obtain ⟨cancelled, _, _, ends⟩ := Flow.effect_bind_ok ends
    cases cancelled with
    | error again =>
      obtain ⟨_, _, _, ends⟩ := Flow.effect_bind_ok ends
      cases ends
    | ok done => cases ends
  | ok result =>
    obtain ⟨_, _, _, ends⟩ := Flow.effect_bind_ok ends
    cases ends
    obtain ⟨catalogue, live⟩ := start_keeps started
    exact ⟨u, v, catalogue, live, Flow.effect_attempt_ok attempted⟩

/-- A property of a site, and what becomes of it while a session of a given number is used. -/
structure Handling (c : Conduct) (P : Site → Prop) (Q : Nat → Site → Prop) : Prop where
  begins : ∀ s, P s → Q s.origin.nextSession (Flow.effect (wiring c).begin s).2
  starts : ∀ number, Flow.Keeps (Q number) ((wiring c).start number)
  hears : ∀ number event, Flow.Keeps (Q number) ((wiring c).event number event)
  finishes : ∀ number, Flow.Keeps (Q number) ((wiring c).finish number)
  cancels : ∀ number, Flow.Keeps (Q number) ((wiring c).cancel number)
  drops : ∀ number s, Q number s → P (Flow.effect ((wiring c).drop number) s).2

variable {P : Site → Prop} {Q : Nat → Site → Prop}

theorem Handling.within (handling : Handling c P Q) {producer : Flow Site α} (announces : Announces c number producer) :
    Flow.Keeps (Q number) (within c number producer) := by
  refine .bind (handling.starts _) fun _ => .bind (.attempt (announces _ (handling.hears _))) fun result => ?_
  rcases result with cause | value
  · refine .bind (.attempt (handling.cancels _)) fun result => ?_
    rcases result with again | _
    · exact .bind (.of_same fun _ => rfl) fun _ => .fail cause
    · exact .fail cause
  · exact .bind (handling.finishes _) fun _ => .pure value

/-- What calls of a handle preserve, a whole transaction preserves, however it ends. -/
theorem Handling.run (handling : Handling c P Q) {producer : Nat → Flow Site α}
    (announces : ∀ number, Announces c number (producer number)) : Flow.Keeps P ((wiring c).run producer) := by
  intro s holds
  rw [effect_run, Flow.effect_ensuring_state]
  exact handling.drops _ _ (handling.within (announces _) _ (handling.begins s holds))

theorem Handling.whole (handling : Handling c P Q) {action : Action} (isWhole : action.isWhole = true) :
    Flow.Keeps P (perform c action) := by
  intro s holds
  obtain ⟨α, operation, answer, same, fails | ⟨producer, announces, runs⟩⟩ := perform_whole (c := c) isWhole s
  · obtain ⟨fault, fails⟩ := fails
    rw [same, Flow.effect_map, fails]
    exact holds
  · rw [same, Flow.effect_map, runs]
    exact handling.run announces s holds

end Site

end ReferenceFeed
