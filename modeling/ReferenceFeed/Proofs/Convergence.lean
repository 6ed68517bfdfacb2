import ReferenceFeed.Proofs.Remote

namespace ReferenceFeed

/-!
Three copies of an entity: the store that is live, a replica at a seat of the site, and one far away that is fed
payloads. They agree after every operation, however operations and changes of the tables take turns.
-/

namespace Site

variable {c : Conduct} {ω : Type} {r q : Replica String ω} {entity : String} {sub : Subscriber Nat} {s t u : Site}
  {steps : List Step} {action : Action} {sender : Nat}

theorem Run.last {step : Step} (run : Run c s (steps ++ [step]) u) :
    Run c s steps step.before ∧ act c step.thread step.action step.before = (step.answer, u) := by
  generalize whole : steps ++ [step] = all at run
  cases run with
  | start => simp at whole
  | next previous acts =>
    obtain ⟨rfl, same⟩ := List.append_inj' whole rfl
    cases same
    exact ⟨previous, acts⟩

/-- A run can be interrupted anywhere. -/
theorem Run.split {first second : List Step} (run : Run c s (first ++ second) u) :
    ∃ t, Run c s first t ∧ Run c t second u := by
  induction second using List.reverseRecOn generalizing u with
  | nil => exact ⟨u, by rw [List.append_nil] at run; exact run, .start⟩
  | append_singleton second step ih =>
    rw [← List.append_assoc] at run
    obtain ⟨before, acts⟩ := run.last
    obtain ⟨t, earlier, later⟩ := ih before
    exact ⟨t, earlier, .next later acts⟩

/-- An origin over tables that were made in any way. -/
def overTables (settings : OriginSettings) (changes : List Catalogue.Mutation) : Site :=
  { origin := { settings }, catalogue := changes.foldl (fun tables change => (tables.mutate change).2) {} }

theorem supplied_overTables (settings : OriginSettings) (changes : List Catalogue.Mutation) :
    Supplied (overTables settings changes) where
  sound := .fresh settings _
  closed := rfl
  tables := Catalogue.Made.sound ⟨changes, rfl⟩
  fits entity store alive := by
    rw [overTables, Std.ExtTreeMap.getElem?_empty] at alive
    cases alive

theorem truthful_overTables (settings : OriginSettings) (changes : List Catalogue.Mutation) :
    Truthful c (overTables settings changes) := (Reachable.fresh settings _).truthful

theorem Supplied.run (run : Run c s steps t) (tabled : Tabled c) (tame : ∀ step ∈ steps, step.action.Tame step.before.catalogue)
    (supplied : Supplied s) : Supplied t :=
  run.kept Supplied supplied tame fun step last before => (before.on step.thread).perform tabled last

/-- A replica at its seat is up to date after every step of a run, as long as nobody takes it away. -/
theorem Attached.run (run : Run c s steps t) (tabled : Tabled c) (tame : ∀ step ∈ steps, step.action.Tame step.before.catalogue)
    (plays : Plays c sub.channel r) (stays : ∀ step ∈ steps, step.action ≠ .unsubscribe sub.id) (supplied : Supplied s)
    (truthful : Truthful c s) (attached : Attached r entity sub s) : Attached r entity sub t := by
  have allowed : ∀ step ∈ steps, step.action.Tame step.before.catalogue ∧ step.action ≠ .unsubscribe sub.id := fun step member =>
    ⟨tame step member, stays step member⟩
  refine (run.kept (fun u => Supplied u ∧ Truthful c u ∧ Attached r entity sub u) ⟨supplied, truthful, attached⟩ allowed ?_).2.2
  rintro step ⟨last, stays⟩ ⟨before, still, here⟩
  have now : Supplied { step.before with thread := step.thread } := before.on step.thread
  have still : Truthful c { step.before with thread := step.thread } := (audible_truthful c).same step.before _ rfl still
  have here : Attached r entity sub { step.before with thread := step.thread } := here.congr rfl rfl rfl
  exact ⟨now.perform tabled last, (audible_truthful c).perform step.action _ still, here.perform now tabled last still plays stays⟩

/-- What is published during a run takes a remote replica along. -/
theorem Trailing.run (run : Run c s steps t) (tabled : Tabled c) (tame : ∀ step ∈ steps, step.action.Tame step.before.catalogue)
    (supplied : Supplied s) (trailing : Trailing q entity s) :
    ∃ more next, t.published = s.published ++ more ∧
      q.applying (more.filter fun message => message.entity = entity) = .ok next ∧ Trailing next entity t := by
  refine (run.kept (fun u => Supplied u ∧ ∃ more next, u.published = s.published ++ more ∧
    q.applying (more.filter fun message => message.entity = entity) = .ok next ∧ Trailing next entity u)
    ⟨supplied, [], q, (List.append_nil _).symm, rfl, trailing⟩ tame ?_).2
  rintro step last ⟨before, more, middle, published, applies, trails⟩
  have now : Supplied { step.before with thread := step.thread } := before.on step.thread
  have here : Trailing middle entity { step.before with thread := step.thread } := trails.congr rfl (.refl _)
  obtain ⟨others, next, sent, follows, after⟩ := here.perform now tabled last
  refine ⟨now.perform tabled last, more ++ others, next, ?_, ?_, after⟩
  · rw [← List.append_assoc, ← published]
    exact sent
  · rw [List.filter_append, Replica.applying_append applies]
    exact follows

/-- A sender that is registered once is handed what is published, whatever the others do. -/
structure Delivering (sender : Nat) (s t : Site) : Prop where
  once : t.outbox.senders.count sender = 1
  handed : ∃ more, t.published = s.published ++ more ∧ handedTo sender t.handed = handedTo sender s.handed ++ more

theorem Delivering.perform (delivering : Delivering sender s t) (tame : action.Tame t.catalogue)
    (never : action ≠ .register sender) : Delivering sender s (Flow.effect (Site.perform c action) t).2 := by
  obtain ⟨more, published, handed⟩ := delivering.handed
  rcases isWhole : action.isWhole with _ | _
  · have beside := beside_perform (c := c) t tame isWhole
    refine ⟨?_, more, beside.published.trans published, by rw [beside.handed, handed]⟩
    rcases beside.outbox with same | ⟨other, asked, registered⟩
    · rw [same]
      exact delivering.once
    · have different : other ≠ sender := fun same => never (asked.trans (by rw [same]))
      rw [registered, Outbox.register, List.count_append, delivering.once, List.count_singleton, if_neg (by simpa using different)]
  · have sending := Sending.whole (c := c) isWhole t
    obtain ⟨others, sent, given⟩ := sending.sent
    refine ⟨by rw [sending.outbox]; exact delivering.once, more ++ others, ?_, ?_⟩
    · rw [sent, published, List.append_assoc]
    · rw [given, handedTo_append, handed, handedTo_flatMap delivering.once, List.append_assoc]

theorem Delivering.run (run : Run c s steps t) (tame : ∀ step ∈ steps, step.action.Tame step.before.catalogue)
    (never : ∀ step ∈ steps, step.action ≠ .register sender) (once : s.outbox.senders.count sender = 1) :
    Delivering sender s t := by
  have allowed : ∀ step ∈ steps, step.action.Tame step.before.catalogue ∧ step.action ≠ .register sender := fun step member =>
    ⟨tame step member, never step member⟩
  refine run.kept (Delivering sender s) ⟨once, [], (List.append_nil _).symm, (List.append_nil _).symm⟩ allowed ?_
  rintro step ⟨last, never⟩ before
  have here : Delivering sender s { step.before with thread := step.thread } := ⟨before.once, before.handed⟩
  exact here.perform last never

/-- A step by which a replica takes a seat, and that it keeps it during some later steps. -/
structure Joins (c : Conduct) (r : Replica String ω) (joining : Step) (later : List Step) : Prop where
  asks : joining.action = .subscribe (.only {r.entity})
  plays : Plays c joining.before.seats r
  stays : ∃ id, joining.answer = .ok (.number id) ∧ ∀ step ∈ later, step.action ≠ .unsubscribe id

/-- A replica that has joined at some step of a run is up to date at the end. -/
theorem Joins.attached {first last : List Step} {joining : Step} {settings : ReplicaSettings}
    (joins : Joins c (Replica.ofSettings settings rowOf : Replica String ω) joining last) (run : Run c s (first ++ joining :: last) u)
    (tabled : Tabled c) (tame : ∀ step ∈ first ++ joining :: last, step.action.Tame step.before.catalogue) (supplied : Supplied s)
    (truthful : Truthful c s) :
    ∃ sub, sub.channel = joining.before.seats ∧
      Attached (Replica.ofSettings settings rowOf : Replica String ω) settings.entity sub u := by
  have parts : first ++ joining :: last = (first ++ [joining]) ++ last := by rw [List.append_assoc, List.singleton_append]
  rw [parts] at run tame
  obtain ⟨t, opening, later⟩ := run.split
  obtain ⟨earlier, acts⟩ := opening.last
  obtain ⟨id, answered, stays⟩ := joins.stays
  have before : Supplied joining.before := Supplied.run earlier tabled
    (fun step member => tame step (List.mem_append_left _ (List.mem_append_left _ member))) supplied
  have joined : Supplied t := Supplied.run opening tabled (fun step member => tame step (List.mem_append_left _ member)) supplied
  have still : Truthful c t := (audible_truthful c).run opening truthful
  rw [answered, joins.asks] at acts
  obtain ⟨_, _, number, attached⟩ := before.sound.joined (Replica.follows_ofSettings settings) acts
  cases number
  refine ⟨_, rfl, attached.run later tabled (fun step member => tame step (List.mem_append_right _ member)) joins.plays stays
    joined still⟩

/-- A replica of some settings that sits at a seat, after all that was heard there. -/
def seated (settings : ReplicaSettings) (seat : Nat) (s : Site) : Replica String ω :=
  (Replica.ofSettings settings rowOf).heeding (callsAt seat s.heard)

/-- A remote replica of some settings, after a snapshot and the messages about its entity that were published since. -/
def caughtUp (settings : ReplicaSettings) (snapshot : Store) (since s : Site) : Except Failure (Replica String ω) :=
  (Replica.ofSettings settings rowOf).applying (⟨settings.entity, snapshot.render, true⟩ ::
    (s.published.drop since.published.length).filter fun message => message.entity = settings.entity)

/-- Over the tables of a source, every entity has the same rows in the store that is live, in a replica that has joined
at any step, and in a remote one that has started from a snapshot and applied all messages since. The one that has joined
has the same memberships as well, and neither of them is ever poisoned. Whatever others make of it, a sender that is
registered once is handed just what is published. -/
theorem Tabled.converges (tabled : Tabled c) {settings : OriginSettings} {changes : List Catalogue.Mutation}
    {before after : List Step} (earlier : Run c (overTables settings changes) before s) (later : Run c s after u)
    (tame : ∀ step ∈ before ++ after, step.action.Tame step.before.catalogue) (replica : ReplicaSettings) :
    (∀ first joining last, before ++ after = first ++ joining :: last →
        Joins c (Replica.ofSettings replica rowOf : Replica String ω) joining last →
        (seated replica joining.before.seats u : Replica String ω).Mirrors u.origin.live[replica.entity]? ∧
          (seated replica joining.before.seats u : Replica String ω).phase = .idle) ∧
      (∀ snapshot, s.origin.live[replica.entity]? = some snapshot → 2 ≤ snapshot.header.width →
        ∃ remote : Replica String ω, caughtUp replica snapshot s u = .ok remote ∧
          remote.live.records = ((u.origin.live[replica.entity]?.map Store.entries).getD ∅).map (fun _ entry => entry.row) ∧
          remote.phase = .idle) ∧
      ∀ sender, s.outbox.senders.count sender = 1 → (∀ step ∈ after, step.action ≠ .register sender) →
        handedTo sender u.handed = handedTo sender s.handed ++ u.published.drop s.published.length := by
  have supplied := supplied_overTables settings changes
  have tame_before : ∀ step ∈ before, step.action.Tame step.before.catalogue := fun step member =>
    tame step (List.mem_append_left _ member)
  have tame_after : ∀ step ∈ after, step.action.Tame step.before.catalogue := fun step member =>
    tame step (List.mem_append_right _ member)
  have middle : Supplied s := Supplied.run earlier tabled tame_before supplied
  have final : Supplied u := Supplied.run later tabled tame_after middle
  refine ⟨fun first joining last split joins => ?_, fun snapshot alive wide => ?_, fun sender once never => ?_⟩
  · have whole := earlier.append later
    rw [split] at whole tame
    obtain ⟨sub, seat, attached⟩ := joins.attached whole tabled tame supplied (truthful_overTables settings changes)
    rw [← seat]
    exact ⟨attached.mirrors final.sound, attached.follows.idle⟩
  · obtain ⟨q, started, trailing⟩ := middle.trailing (Replica.follows_ofSettings (ω := ω) replica) alive wide
    obtain ⟨more, remote, published, applies, trails⟩ := trailing.run later tabled tame_after middle
    refine ⟨remote, ?_, trails.records final.sound, trails.follows.idle⟩
    rw [caughtUp, published, List.drop_left, ← List.singleton_append, Replica.applying_append started]
    exact applies
  · obtain ⟨more, published, handed⟩ := (Delivering.run later tame_after never once).handed
    rw [handed, published, List.drop_left]

/-- A source of tables, a replica at the first seat, and one sender that does not fail. Everybody else does. -/
def staffed : Conduct where
  serves site := .ok site.catalogue.entities
  fetch site request := site.catalogue.fetch request
  answer site seat signal :=
    if seat = 0 then (((seated { entity := "e" } 0 site : Replica String Nat).receive signal).answer).mapError .failure
    else .error (.panic none)
  accept _ sender message := if sender = 0 then .ok () else .error (.unknownEntity message.entity)
  fetch_events site request := site.catalogue.fetch_events request

theorem tabled_staffed : Tabled staffed := ⟨fun _ => rfl, fun _ _ => rfl⟩

/-- Two senders are registered over a table with one row. -/
def registering : List Step × Site :=
  enact staffed (overTables {} [.load "e" "id,v\n1,x"]) [(0, .register 1), (0, .register 0)]

/-- The replica takes the first seat, and then somebody who will fail joins as well. -/
def joiningFirst : Step := asking staffed registering.2 0 (.subscribe (.only {"e"}))

def loading : List Step × Site := enact staffed (joiningFirst.after staffed) [(0, .subscribe .all), (0, .reload "e")]

/-- The table changes meanwhile, and two of the operations fail. -/
def changing : List Step × Site :=
  enact staffed loading.2 [(0, .mutate (.upsert "e" [some "2", some "a,b"])), (1, .refresh "e" {"1", "2"}), (0, .reload "f"),
    (0, .mutate (.delete "e" "1")), (0, .refresh "f" {"1"}), (1, .mutate (.load "e" "id,v\n3,\"\"")), (0, .reloadAll)]

theorem run_loading : Run staffed (overTables {} [.load "e" "id,v\n1,x"]) (registering.1 ++ [joiningFirst] ++ loading.1) loading.2 := by
  have registered : Run staffed (overTables {} [.load "e" "id,v\n1,x"]) registering.1 registering.2 := run_enact ..
  exact (registered.asking 0 (.subscribe (.only {"e"}))).append (run_enact ..)

theorem converges_changing :
    (seated { entity := "e" } 0 changing.2 : Replica String Nat).Mirrors changing.2.origin.live["e"]? ∧
      (∃ snapshot, loading.2.origin.live["e"]? = some snapshot ∧
        ∃ remote : Replica String Nat, caughtUp { entity := "e" } snapshot loading.2 changing.2 = .ok remote ∧
          remote.live.records = ((changing.2.origin.live["e"]?.map Store.entries).getD ∅).map fun _ entry => entry.row) ∧
      handedTo 0 changing.2.handed = handedTo 0 loading.2.handed ++ changing.2.published.drop loading.2.published.length := by
  have later : Run staffed loading.2 changing.1 changing.2 := run_enact ..
  obtain ⟨attached, remote, handed⟩ := Tabled.converges (ω := Nat) tabled_staffed run_loading later (by decide +kernel)
    { entity := "e" }
  have split : registering.1 ++ [joiningFirst] ++ loading.1 ++ changing.1 =
      registering.1 ++ joiningFirst :: (loading.1 ++ changing.1) := by
    simp only [List.append_assoc, List.cons_append, List.nil_append]
  have seat : joiningFirst.before.seats = 0 := rfl
  have plays : Plays staffed 0 (Replica.ofSettings { entity := "e" } rowOf : Replica String Nat) := fun _ _ => rfl
  have joins : Joins staffed (Replica.ofSettings { entity := "e" } rowOf : Replica String Nat) joiningFirst (loading.1 ++ changing.1) :=
    ⟨rfl, seat.symm ▸ plays, 1, by decide +kernel, by decide +kernel⟩
  have live : ((loading.2.origin.live["e"]?).map fun store => store.header.width) = some 2 := by decide +kernel
  obtain ⟨snapshot, alive, width⟩ := Option.map_eq_some_iff.1 live
  obtain ⟨replica, applies, records, _⟩ := remote snapshot alive (Nat.le_of_eq width.symm)
  exact ⟨(attached _ _ _ split joins).1, ⟨snapshot, alive, replica, applies, records⟩,
    handed 0 (by decide +kernel) (by decide +kernel)⟩

end Site

end ReferenceFeed
