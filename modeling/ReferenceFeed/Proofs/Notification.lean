import ReferenceFeed.Proofs.Transaction

namespace ReferenceFeed

/-!
What comes of a transaction among the observers of a replica: readers see nothing of it until it is finished, and
then they see what observers are told.
-/

/-- What a transaction makes of some records: what it updates, without what it takes out, over what was there. -/
structure Amended {ρ : Type} (convert : Converter ρ) (events : List Event) (before after : Committed ρ) : Prop where
  updated : ∀ header entry, Survives events header entry →
    ∃ record, convert header entry = .ok record ∧ after.records[entry.id]? = some record
  gone : ∀ id : String, (∀ header entry, Survives events header entry → entry.id ≠ id) →
    (∃ event ∈ events, event.TakesOut before.membership.of id) → after.records[id]? = none
  kept : ∀ id : String, (∀ header entry, Survives events header entry → entry.id ≠ id) →
    (∀ event ∈ events, ¬event.TakesOut before.membership.of id) → after.records[id]? = before.records[id]?

/-- The records of a replica belong to the last lines that were committed for them. -/
def Lined {ρ : Type} (lines : List Event) (c : Committed ρ) : Prop :=
  ∃ view, c.Shows view ∧ ∀ id record groups, view id = some (record, groups) →
    ∃ header entry, LastUpdate Event.updates lines header entry ∧ entry.id = id ∧ entry.groups = groups

section Commit

variable {ρ : Type} {convert : Converter ρ} {events lines : List Event} {staging : Staging ρ} {c : Committed ρ}
  {id : String}

theorem Brought.undecided_none (brought : Brought convert events staging)
    (undecided : ∀ header entry, Survives events header entry → entry.id ≠ id) : staging.updated[id]? = none := by
  rcases found : staging.updated[id]? with _ | ⟨record, groups⟩
  · rfl
  · obtain ⟨header, entry, survives, same, _⟩ := brought.survives id record groups found
    exact absurd same (undecided header entry survives)

theorem Brought.amended (brought : Brought convert events staging) (c : Committed ρ) :
    Amended convert events c (c.commit staging).1 := by
  have records := c.getElem?_commit staging
  refine ⟨fun header entry survives => ?_, fun id undecided taken => ?_, fun id undecided untaken => ?_⟩
  · obtain ⟨record, converts, updated⟩ := brought.updated header entry survives
    refine ⟨record, converts, ?_⟩
    rw [records, updated]
    rfl
  · have absent := brought.undecided_none undecided
    rw [records, absent, Option.map_none, Option.none_or]
    rcases there : c.records[id]? with _ | record
    · exact ite_self _
    · exact if_pos ((brought.taken c id absent (by rw [there]; rfl)).2 taken)
  · have absent := brought.undecided_none undecided
    rw [records, absent, Option.map_none, Option.none_or]
    rcases there : c.records[id]? with _ | record
    · exact ite_self _
    · refine if_neg fun taken => ?_
      obtain ⟨event, member, takes⟩ := (brought.taken c id absent (by rw [there]; rfl)).1 taken
      exact untaken event member takes

theorem lined_empty : Lined [] ({} : Committed ρ) := ⟨_, Committed.shows_empty, fun _ _ _ found => by cases found⟩

/-- The line of a record that is kept stays the last one: an update of its id would survive or be followed by what
takes the id out. -/
theorem Lined.commit (lined : Lined lines c) (brought : Brought convert events staging) :
    Lined (lines ++ events) (c.commit staging).1 := by
  obtain ⟨view, shows, last⟩ := lined
  refine ⟨_, shows.commit staging, fun id record groups found => ?_⟩
  -- The record was there before, and nothing that was brought updates its id; or it was brought itself.
  rcases updated : staging.updated[id]? with _ | pair
  · rw [updated, Option.none_or] at found
    split at found
    · cases found
    · next untaken =>
      obtain ⟨header, entry, latest, rfl, rest⟩ := last id record groups found
      have present : c.records[entry.id]?.isSome = true := by
        rw [shows.records, found]
        rfl
      have quiet : ∀ event ∈ events, event.updates entry.id = false := by
        by_contra some_updates
        simp only [not_forall, Bool.not_eq_false] at some_updates
        obtain ⟨event, member, updates⟩ := some_updates
        rcases survives_or_taken c.membership.of ⟨event, member, updates⟩ with ⟨header, other, survives, same⟩ | taken
        · obtain ⟨_, _, stored⟩ := brought.updated header other survives
          rw [same, updated] at stored
          cases stored
        · exact untaken ((brought.taken c entry.id updated present).2 taken)
      exact ⟨header, entry, latest.append quiet, rfl, rest⟩
  · rw [updated] at found
    cases found
    obtain ⟨header, entry, survives, same, rest, _⟩ := brought.survives id record groups updated
    have latest : LastUpdate Event.updates events header entry := by
      obtain ⟨before, entity, later, split, spared⟩ := survives
      refine ⟨before, entity, later, split, fun event member => Bool.eq_false_iff.2 fun updates => ?_⟩
      have decides := Event.overrides_of_updates updates
      rw [spared event member] at decides
      cases decides
    exact ⟨header, entry, latest.after lines, same, rest⟩

/-- The members of a group are the ids whose last line carries it. -/
theorem Lined.mem_of (lined : Lined lines c) (key : GroupValue) (id : String) :
    id ∈ c.membership.of key ↔ c.records[id]?.isSome = true ∧ ∃ header entry, LastUpdate Event.updates lines header entry ∧
      entry.id = id ∧ entry.groups[key.group]? = some key.value := by
  obtain ⟨view, shows, last⟩ := lined
  rw [shows.indexed.mem_of, shows.records]
  rcases found : view id with _ | ⟨record, groups⟩
  · simp
  · obtain ⟨header, entry, latest, same, rfl⟩ := last id record groups found
    simp only [Option.map_some, Option.getD_some, Option.isSome_some, true_and]
    constructor
    · exact fun holds => ⟨header, entry, latest, same, holds⟩
    · rintro ⟨other, line, alike, here, holds⟩
      have equal := latest.unique (fun _ _ _ => decide_eq_true rfl) alike (here.trans same.symm)
      rw [← equal.2]
      exact holds

end Commit

namespace Station

variable {ρ : Type}

/-- The events of the open transaction, and those of all transactions that were committed. -/
structure Ledger where
  current : List Event := []
  committed : List Event := []

/-- Enters a step into the ledger. What is refused is not entered. -/
def Step.enter (l : Ledger) (step : Step ρ) : Ledger :=
  match step.action, step.answer with
  | .arrive (.signal .start), .ok _ => { l with current := [] }
  | .arrive (.signal (.event event)), .ok _ => { l with current := l.current ++ [event] }
  | .arrive (.signal .finish), .ok _ => { current := [], committed := l.committed ++ l.current }
  | .arrive (.payload text whole), .ok _ =>
    match Payload.read text with
    | .ok payload => { l with committed := l.committed ++ payload.events step.before.replica.entity whole }
    | .error _ => l
  | _, _ => l

def ledger (steps : List (Step ρ)) : Ledger := steps.foldl Step.enter {}

/-- The event that a step brings, if it is accepted. -/
def Step.brings (step : Step ρ) : Option Event :=
  match step.action, step.answer with
  | .arrive (.signal (.event event)), .ok _ => some event
  | _, _ => none

def brought (steps : List (Step ρ)) : List Event := steps.filterMap Step.brings

variable {react : Reaction ρ} {settings : ReplicaSettings} {convert : Converter ρ} {s t u : Station ρ} {steps : List (Step ρ)}
  {action : Action} {answer : Except Fault Unit}

theorem enter_refused (l : Ledger) (s : Station ρ) (action : Action) (fault : Fault) :
    Step.enter l ⟨s, action, .error fault⟩ = l := by
  cases action with
  | arrive arrival =>
    cases arrival with
    | signal signal => cases signal <;> rfl
    | payload => rfl
  | join | leave => rfl

/-- A station is as the ledger says. -/
structure Booked (convert : Converter ρ) (l : Ledger) (s : Station ρ) : Prop where
  converts : s.replica.convert = convert
  opened : ∀ staging, s.replica.phase = .opened staging → Brought convert l.current staging
  lined : Lined l.committed s.replica.live

theorem Booked.step {l : Ledger} (booked : Booked convert l s) (acts : act react action s = (answer, t)) :
    Booked convert (Step.enter l ⟨s, action, answer⟩) t := by
  obtain ⟨rfl, opened, lined⟩ := booked
  cases action with
  | join | leave =>
    cases acts
    exact ⟨rfl, opened, lined⟩
  | arrive arrival =>
    have comes := s.replica.comes arrival
    obtain ⟨log, _, rfl, rfl⟩ := act_arrive acts
    generalize s.replica.take arrival = received at comes
    cases comes with
    | @refused _ cause =>
      change Booked _ (Step.enter l ⟨s, .arrive arrival, .error (.failure cause)⟩) _
      rw [enter_refused]
      exact ⟨rfl, opened, lined⟩
    | started =>
      refine ⟨rfl, fun staging same => ?_, lined⟩
      cases same
      exact brought_nil
    | staged before _ staged =>
      refine ⟨rfl, fun staging same => ?_, lined⟩
      cases same
      exact (opened _ before).stage staged
    | finished before => exact ⟨rfl, fun staging same => (by cases same), lined.commit (opened _ before)⟩
    | @applied text whole payload staging _ read staged =>
      have entered : Step.enter l ⟨s, .arrive (.payload text whole), .ok ()⟩ =
          { l with committed := l.committed ++ payload.events s.replica.entity whole } := by
        simp only [Step.enter, read]
      have brought : Brought s.replica.convert (payload.events s.replica.entity whole) staging := by
        simpa only [List.nil_append] using brought_nil.foldlM staged
      refine ⟨rfl, fun staging same => (by cases same), ?_⟩
      change Lined (Step.enter l ⟨s, .arrive (.payload text whole), .ok ()⟩).committed _
      rw [entered]
      exact lined.commit brought
    | cancelled | broken => exact ⟨rfl, fun staging same => (by cases same), lined⟩

theorem Run.booked (run : Run react (fresh settings convert) steps s) : Booked convert (ledger steps) s := by
  induction run with
  | start => exact ⟨rfl, fun staging same => (by cases same), lined_empty⟩
  | next _ acts booked =>
    rw [ledger, List.foldl_append]
    exact booked.step acts

/-- While a transaction is open, readers see what they saw before, and nobody is told anything. -/
structure Unseen (s : Station ρ) (steps : List (Step ρ)) (t : Station ρ) : Prop where
  opened : ∃ staging, t.replica.phase = .opened staging
  live : t.replica.live = s.replica.live
  told : t.told = s.told
  entered : ∀ l, steps.foldl Step.enter l = { l with current := l.current ++ brought steps }

theorem Unseen.next (unseen : Unseen s steps t) {step : Step ρ} (opened : ∃ staging, u.replica.phase = .opened staging)
    (live : u.replica.live = t.replica.live) (told : u.told = t.told)
    (entered : ∀ l, Step.enter l step = { l with current := l.current ++ step.brings.toList }) :
    Unseen s (steps ++ [step]) u := by
  refine ⟨opened, live.trans unseen.live, told.trans unseen.told, fun l => ?_⟩
  have last : brought [step] = step.brings.toList := by
    simp only [brought, List.filterMap_cons, List.filterMap_nil]
    cases step.brings <;> rfl
  have both : brought (steps ++ [step]) = brought steps ++ brought [step] := List.filterMap_append
  rw [List.foldl_append, unseen.entered, List.foldl_cons, List.foldl_nil, entered, both, last, List.append_assoc]

/-- Only what ends a transaction is seen. -/
theorem Unseen.step (unseen : Unseen s steps t)
    (undecided : action ≠ .arrive (.signal .finish) ∧ action ≠ .arrive (.signal .cancel))
    (acts : act react action t = (answer, u)) : Unseen s (steps ++ [⟨t, action, answer⟩]) u := by
  obtain ⟨staging, opened⟩ := unseen.opened
  have quiet : ∀ l : Ledger, l = { l with current := l.current ++ [] } := fun l => by rw [List.append_nil]
  cases action with
  | join | leave =>
    cases acts
    exact unseen.next ⟨staging, opened⟩ rfl rfl quiet
  | arrive arrival =>
    have comes := t.replica.comes arrival
    obtain ⟨log, announced, rfl, rfl⟩ := act_arrive acts
    generalize t.replica.take arrival = received at comes announced
    have silent : received.commit = none → log = [] := fun none => by
      rw [Announced, none] at announced
      exact announced
    -- A commit and a cancel are excluded, and whatever needs an idle replica meets one with a transaction open.
    cases comes with
    | @refused _ cause =>
      cases silent rfl
      have nothing : (⟨t, .arrive arrival, .error (.failure cause)⟩ : Step ρ).brings = none := by
        cases arrival with
        | signal signal => cases signal <;> rfl
        | payload => rfl
      refine unseen.next ⟨staging, opened⟩ rfl (List.append_nil _) fun l => ?_
      change Step.enter l ⟨t, .arrive arrival, .error (.failure cause)⟩ = { l with current := l.current ++
        (⟨t, .arrive arrival, .error (.failure cause)⟩ : Step ρ).brings.toList }
      rw [enter_refused, nothing]
      exact quiet l
    | staged =>
      cases silent rfl
      exact unseen.next ⟨_, rfl⟩ rfl (List.append_nil _) fun _ => rfl
    | finished => exact absurd rfl undecided.1
    | cancelled => exact absurd rfl undecided.2
    | started idle | applied idle | broken idle =>
      rw [opened] at idle
      cases idle

theorem Run.unseen (run : Run react s steps t) (opened : ∃ staging, s.replica.phase = .opened staging)
    (undecided : ∀ step ∈ steps, step.action ≠ .arrive (.signal .finish) ∧ step.action ≠ .arrive (.signal .cancel)) :
    Unseen s steps t ∧ ∀ step ∈ steps, step.before.replica.live = s.replica.live ∧ step.before.told = s.told := by
  induction run with
  | start => exact ⟨⟨opened, rfl, rfl, fun l => by rw [brought, List.filterMap_nil, List.append_nil, List.foldl_nil]⟩,
      List.forall_mem_nil _⟩
  | @next steps t action answer u _ acts ih =>
    obtain ⟨unseen, before⟩ := ih fun step member => undecided step (List.mem_append_left _ member)
    have last := undecided ⟨t, action, answer⟩ (List.mem_append_right _ (List.mem_singleton_self _))
    refine ⟨unseen.step last acts, fun step member => ?_⟩
    rcases List.mem_append.1 member with old | new
    · exact before step old
    · rw [List.mem_singleton.1 new]
      exact ⟨unseen.live, unseen.told⟩

/-- What observers are told of a transaction: what it updated, if anything, and then what was there and is gone, if
anything is. -/
structure Tells (convert : Converter ρ) (events : List Event) (before after : Station ρ) (changed : Keyed ρ) (lost : Names)
    (log : List (Told ρ)) : Prop where
  surviving : ∀ (id : String) (record : ρ), changed[id]? = some record ↔
    ∃ header entry, Survives events header entry ∧ entry.id = id ∧ convert header entry = .ok record
  missing : ∀ id, id ∈ lost ↔ (before.replica.get? id).isSome = true ∧ after.replica.get? id = none
  told : after.told = before.told ++ log
  telling : ∀ number seat, (number, seat) ∈ before.replica.observers → Telling seat
    ((if changed.isEmpty then [] else [.updated changed]) ++ (if lost.isEmpty then [] else [.removed lost])) (toldAt seat log)
  seated : ∀ entry ∈ log, entry.seat ∈ before.replica.observers.map Prod.snd

theorem tells_finished {staging : Staging ρ} {events : List Event} {log : List (Told ρ)} (seated : s.Seated)
    (brought : Brought convert events staging) (round : Round (s.replica.live.commit staging).2.observations s.replica.observers log) :
    Tells convert events s ({ s with replica := (s.replica.committing staging).replica }.telling log)
      (s.replica.live.commit staging).2.updated (s.replica.live.commit staging).2.removed log where
  surviving id record := by
    rw [Committed.getElem?_commit_updated]
    constructor
    · intro found
      obtain ⟨⟨_, groups⟩, updated, rfl⟩ := Option.map_eq_some_iff.1 found
      obtain ⟨header, entry, survives, same, _, converts⟩ := brought.survives id _ groups updated
      exact ⟨header, entry, survives, same, converts⟩
    · rintro ⟨header, entry, survives, rfl, converts⟩
      obtain ⟨other, alike, updated⟩ := brought.updated header entry survives
      rw [alike] at converts
      cases converts
      rw [updated]
      rfl
  missing := s.replica.live.mem_removed staging
  told := rfl
  telling number seat member := round.telling seated.distinct member
  seated := round.seated

/-- Nothing is seen of a transaction before it is finished. Then readers have what it has brought over what there was,
the members of a group are those whose last line carries it, observers are told what has changed, and whoever carries
out what it is told has the records. -/
theorem Run.transaction_settles {past : List (Step ρ)} {started : Station ρ}
    (before : Run react (fresh settings convert) past s)
    (opens : act react (.arrive (.signal .start)) s = (.ok (), started)) (during : Run react started steps t)
    (undecided : ∀ step ∈ steps, step.action ≠ .arrive (.signal .finish) ∧ step.action ≠ .arrive (.signal .cancel))
    (finishes : act react (.arrive (.signal .finish)) t = (answer, u)) :
    (∀ step ∈ steps, step.before.replica.live = s.replica.live ∧ step.before.told = s.told) ∧
      (t.replica.live = s.replica.live ∧ t.told = s.told) ∧ answer = .ok () ∧
      Amended convert (brought steps) s.replica.live u.replica.live ∧
      (∀ key id, id ∈ u.replica.membersOf key ↔ (u.replica.get? id).isSome = true ∧ ∃ header entry,
        LastUpdate Event.updates ((ledger past).committed ++ brought steps) header entry ∧ entry.id = id ∧
          entry.groups[key.group]? = some key.value) ∧
      (∃ changed lost log, Tells convert (brought steps) t u changed lost log) ∧
      ∀ number seat, (number, seat) ∈ u.replica.observers → (∀ entry ∈ toldAt seat u.told, entry.answer = .ok ()) →
        ∃ records, u.seats[seat]? = some records ∧
          ((toldAt seat u.told).map Told.observation).foldl Observation.carry records = u.replica.live.records := by
  have run : Run react (fresh settings convert) (past ++ [⟨s, .arrive (.signal .start), .ok ()⟩]) started :=
    .next before opens
  have same := act_start opens
  obtain ⟨unseen, quiet⟩ := during.unseen ⟨{}, by rw [same]⟩ undecided
  rw [same] at quiet
  have live : t.replica.live = s.replica.live := by rw [unseen.live, same]
  have told : t.told = s.told := by rw [unseen.told, same]
  have whole := run.append during
  -- the ledger at the end of the transaction: what it has brought, after what was committed before
  have entered : ledger (past ++ [⟨s, .arrive (.signal .start), .ok ()⟩] ++ steps) =
      { current := brought steps, committed := (ledger past).committed } := by
    rw [ledger, List.foldl_append, unseen.entered, List.foldl_append]
    rfl
  have booked := whole.booked
  rw [entered] at booked
  obtain ⟨staging, opened⟩ := unseen.opened
  have brought := booked.opened staging opened
  have lined := booked.lined.commit brought
  have attended : u.Attended (fun records kept => kept = records) id Observation.carry :=
    (Run.next whole finishes).attended (fun _ => rfl) fun c staging x same => by rw [same, c.carried]
  obtain ⟨ended, log, round, rfl⟩ := act_finish opened finishes
  refine ⟨quiet, ⟨live, told⟩, ended, ?_, fun key id => lined.mem_of key id, ?_, attended⟩
  · rw [← live]
    exact brought.amended _
  · exact ⟨_, _, log, tells_finished whole.seated brought round⟩

def idAndCurrency : Header := ⟨[idColumn, "currency"], rfl, by decide, by decide⟩

def customer (id currency : String) : Event :=
  .update "customer" idAndCurrency ⟨id, id ++ "," ++ currency, (∅ : Keyed String).insert "currency" currency⟩

/-- An observer is there when two customers come in. -/
def stocked : List (Step String) × Station String := enact .calm (fresh { entity := "customer" } rowOf)
  [.join, .arrive (.signal .start), .arrive (.signal (.event (customer "1" "GBP"))),
    .arrive (.signal (.event (customer "2" "EUR"))), .arrive (.signal .finish)]

def starting : List (Step String) × Station String := enact .calm stocked.2 [.arrive (.signal .start)]

/-- The customers of one currency are replaced. -/
def replacing : List (Step String) × Station String := enact .calm starting.2
  [.arrive (.signal (.event (.reloadGroup "customer" "currency" "GBP"))),
    .arrive (.signal (.event (customer "3" "GBP")))]

def replaced : Station String := (enact .calm replacing.2 [.arrive (.signal .finish)]).2

theorem transaction_settles_replaced :
    Amended rowOf (brought replacing.1) stocked.2.replica.live replaced.replica.live ∧ replaced.replica.get? "1" = none := by
  have opens : act .calm (.arrive (.signal .start)) stocked.2 = (.ok (), starting.2) := Prod.ext rfl rfl
  have finishes : act .calm (.arrive (.signal .finish)) replacing.2 =
    ((act .calm (.arrive (.signal .finish)) replacing.2).1, replaced) := rfl
  have settled := Run.transaction_settles (run_enact ..) opens (run_enact ..) (by decide +kernel) finishes
  exact ⟨settled.2.2.2.1, by decide +kernel⟩

end Station

end ReferenceFeed
