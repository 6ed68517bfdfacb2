import ReferenceFeed.Proofs.Holding

namespace ReferenceFeed

/-!
What an index finds over a run of the replica that it was attached to. Whatever it finds is right, in both directions.
That it finds something for the key of every record is a matter of whose keys commits take away.
-/

namespace Station

variable {ρ κ : Type} [Ord κ] [Std.TransOrd κ] {react : Reaction ρ} {settings : ReplicaSettings} {convert : Converter ρ}
  {s t u : Station ρ} {steps earlier later : List (Step ρ)} {x : SingleIndex ρ κ} {key : IndexKey ρ κ} {number seat : Nat}

/-- What an index has become by what it was told at its seat. -/
def following (x : SingleIndex ρ κ) (seat : Nat) (s : Station ρ) : SingleIndex ρ κ :=
  ((toldAt seat s.told).map Told.observation).foldl SingleIndex.hear x

/-- The stations of a run, from the first to the last. -/
def stations (steps : List (Step ρ)) (s : Station ρ) : List (Station ρ) := steps.map Step.before ++ [s]

/-- What an index says is right. -/
def Tracked (key : IndexKey ρ κ) (x : SingleIndex ρ κ) (seat : Nat) (s : Station ρ) : Prop :=
  SingleIndex.Tracks key s.replica.live.records (following x seat s)

/-- For the key of each record an index finds a record. -/
def Served (key : IndexKey ρ κ) (x : SingleIndex ρ κ) (seat : Nat) (s : Station ρ) : Prop :=
  SingleIndex.Serves key s.replica.live.records (following x seat s)

/-- Whether a step commits something by which a key of an index is abandoned. -/
def Step.Abandons (key : IndexKey ρ κ) (x : SingleIndex ρ κ) (seat : Nat) (step : Step ρ) : Prop :=
  ∃ commit, step.commit? = some commit ∧
    SingleIndex.Abandons key step.before.replica.live.records (following x seat step.before) commit

theorem Run.seats_le (run : Run react s steps t) : s.seats.length ≤ t.seats.length := by
  induction run with
  | start => exact Nat.le_refl _
  | next _ acts ih =>
    cases act_moves acts with
    | rests | commits | leaves => exact ih
    | joins => exact Nat.le_trans ih (by simp)

variable [Std.LawfulEqOrd κ] [DecidableEq κ]

/-- One step of a replica as an index takes it. -/
theorem act_follows {action : Action} {answer : Except Fault Unit} (acts : act react action s = (answer, t)) (seated : s.Seated)
    (taken : seat < s.seats.length) (registered : (number, seat) ∈ t.replica.observers)
    (well : ∀ entry ∈ toldAt seat t.told, entry.answer = .ok ()) (tracks : Tracked key x seat s) :
    Tracked key x seat t ∧
      (Served key x seat s → (Served key x seat t ↔ ¬Step.Abandons key x seat ⟨s, action, answer⟩)) := by
  obtain ⟨_, _, _, attends⟩ := act_attends acts seated taken registered well
  unfold Tracked Served Step.Abandons
  generalize Step.commit? ⟨s, action, answer⟩ = commit at attends
  cases attends with
  | nothing live told =>
    have same : following x seat t = following x seat s := by rw [following, told, following]
    rw [live, same]
    exact ⟨tracks, fun served => iff_of_true served nofun⟩
  | commit staging live told =>
    have heard : following x seat t = (s.replica.live.commit staging).2.observations.foldl SingleIndex.hear (following x seat s) := by
      rw [following, told, List.foldl_append, following]
    rw [live, heard]
    refine ⟨tracks.commit, fun served => (tracks.serves_commit served).trans (not_congr ?_)⟩
    simp only [Option.some.injEq, exists_eq_left']

/-- An index that is right at some point of a run is right from there on. -/
theorem Run.follows (before : Run react (fresh settings convert) earlier s) (since : Run react s later u)
    (taken : seat < s.seats.length) (tracks : Tracked key x seat s) (served : Served key x seat s)
    (registered : (number, seat) ∈ u.replica.observers) (well : ∀ entry ∈ toldAt seat u.told, entry.answer = .ok ()) :
    (∀ v ∈ stations later u, Tracked key x seat v) ∧
      ((∀ v ∈ stations later u, Served key x seat v) ↔ ∀ step ∈ later, ¬step.Abandons key x seat) := by
  induction since with
  | start =>
    have single : ∀ v ∈ stations [] s, v = s := fun v member => List.mem_singleton.1 member
    exact ⟨fun v member => single v member ▸ tracks, iff_of_true (fun v member => single v member ▸ served) (List.forall_mem_nil _)⟩
  | @next steps v action answer u previous acts ih =>
    have whole := before.append previous
    have here := Nat.lt_of_lt_of_le taken previous.seats_le
    obtain ⟨stayed, fine, _⟩ := act_attends acts whole.seated here registered well
    obtain ⟨inside, served⟩ := ih stayed fine
    have last : v ∈ stations steps v := List.mem_append_right _ (List.mem_singleton_self v)
    obtain ⟨tracks, serves⟩ := act_follows acts whole.seated here registered well (inside v last)
    have more : stations (steps ++ [⟨v, action, answer⟩]) u = stations steps v ++ [u] := by
      simp only [stations, List.map_append, List.map_cons, List.map_nil]
    rw [more]
    simp only [List.forall_mem_append, List.forall_mem_singleton]
    exact ⟨⟨inside, tracks⟩, (and_congr_left fun _ => served).trans (and_congr_right fun keeps => serves (served.2 keeps v last))⟩

/-- An index that is attached is right at once, and so it is right as long as it is attached. -/
theorem Run.attaches {notices : List Notice} {answer : Except Fault Unit} (run : Run react (fresh settings convert) earlier s)
    (built : SingleIndex.build key s.replica.live.records = .ok (x, notices)) (joins : act react .join s = (answer, t))
    (since : Run react t later u) (registered : (number, s.seats.length) ∈ u.replica.observers)
    (well : ∀ entry ∈ toldAt s.seats.length u.told, entry.answer = .ok ()) :
    (∀ v ∈ stations later u, Tracked key x s.seats.length v) ∧
      ((∀ v ∈ stations later u, Served key x s.seats.length v) ↔ ∀ step ∈ later, ¬step.Abandons key x s.seats.length) := by
  have untold : toldAt s.seats.length s.told = [] := toldAt_eq_nil fun entry member same => by
    have before := run.seated.told entry member
    omega
  have unheard : following x s.seats.length t = x := by
    cases joins
    exact congrArg (fun told => (told.map Told.observation).foldl SingleIndex.hear x) untold
  have live : t.replica.live = s.replica.live := by
    cases joins
    rfl
  have taken : s.seats.length < t.seats.length := by
    cases joins
    simp
  obtain ⟨tracks, serves⟩ := SingleIndex.tracks_build built
  refine (Run.next run joins).follows since taken ?_ ?_ registered well
  · rw [Tracked, unheard, live]
    exact tracks
  · rw [Served, unheard, live]
    exact serves

/-- Whatever an index finds is right. It finds something for the key of every record all the time, just if no commit
takes a key from its holder and leaves a record alone that has it, without bringing one. -/
theorem Run.served_iff {notices : List Notice} {answer : Except Fault Unit} (run : Run react (fresh settings convert) earlier s)
    (built : SingleIndex.build key s.replica.live.records = .ok (x, notices)) (joins : act react .join s = (answer, t))
    (since : Run react t later u) (registered : (number, s.seats.length) ∈ u.replica.observers)
    (well : ∀ entry ∈ toldAt s.seats.length u.told, entry.answer = .ok ()) :
    (∀ k id, (following x s.seats.length u).get? k = some id → ∃ record, u.replica.get? id = some record ∧ key.of record = some k) ∧
      ((∀ v ∈ stations later u, Served key x s.seats.length v) ↔ ∀ step ∈ later, ¬step.Abandons key x s.seats.length) := by
  obtain ⟨tracked, served⟩ := run.attaches built joins since registered well
  exact ⟨(tracked u (List.mem_append_right _ (List.mem_singleton_self u))).right, served⟩

/-- Records that are the field after the id. -/
def secondOf : Converter (Option String) := fun _ entry =>
  .ok (match entry.fields with
    | .ok (_ :: value :: _) => value
    | _ => none)

/-- Such records under themselves. -/
def bySecond : IndexKey (Option String) String where
  name := "second"
  of := id
  shown := Text.quoted

/-- A replica is filled by a payload. -/
def filling (text : String) : List (Step (Option String)) × Station (Option String) :=
  enact .calm (fresh { entity := "customer" } secondOf) [.arrive (.payload text true)]

/-- Then an index is attached. -/
def joining (text : String) : Station (Option String) := (act .calm .join (filling text).2).2

def indexing (text : String) : SingleIndex (Option String) String :=
  (SingleIndex.enterAll ⟨bySecond, ∅, ∅⟩ (filling text).2.replica.live.records.toList).1

/-- And then another payload comes. -/
def changing (text next : String) : List (Step (Option String)) × Station (Option String) :=
  enact .calm (joining text) [.arrive (.payload next false)]

/-- What the index has become by that. -/
def changed (text next : String) : SingleIndex (Option String) String :=
  following (indexing text) (filling text).2.seats.length (changing text next).2

theorem run_filling (text : String) : Run .calm (fresh { entity := "customer" } secondOf) (filling text).1 (filling text).2 :=
  run_enact ..

theorem run_changing (text next : String) : Run .calm (joining text) (changing text next).1 (changing text next).2 := run_enact ..

theorem build_indexing (text : String) :
    ∃ notices, SingleIndex.build bySecond (filling text).2.replica.live.records = .ok (indexing text, notices) :=
  SingleIndex.build_of_shared rfl _

/-- Two records that share a key. -/
def twins : String := "id,v\n1,x\n2,x"

/-- The one that was passed over is removed. -/
theorem served_iff_spared :
    Served bySecond (indexing twins) (filling twins).2.seats.length (changing twins "id,v\n1").2 := by
  obtain ⟨notices, built⟩ := build_indexing twins
  have registered : (1, (filling twins).2.seats.length) ∈ (changing twins "id,v\n1").2.replica.observers := by decide +kernel
  have served := (Run.served_iff (run_filling twins) built rfl (run_changing twins "id,v\n1") registered (by decide +kernel)).2
  refine served.2 ?_ _ (List.mem_append_right _ (List.mem_singleton_self _))
  rintro step member ⟨commit, brings, k, holder, _, _, held, touched, _⟩
  rw [List.mem_singleton.1 member] at held brings
  have only : (following (indexing twins) (filling twins).2.seats.length (joining twins)).idOf.toList = [("x", "2")] := by
    decide +kernel
  have same : (k, holder) ∈ [("x", "2")] := only ▸ Std.ExtTreeMap.mem_toList_iff_getElem?_eq_some.2 held
  obtain ⟨rfl, rfl⟩ := Prod.mk.inj (List.mem_singleton.1 same)
  have spared : ∀ commit ∈ Step.commit? (changing twins "id,v\n1").1[0], commit.touches "2" = false := by decide +kernel
  cases (spared commit brings).symm.trans touched

/-- The one that holds the key is removed, and the other one is not found. -/
theorem not_served : ¬∀ (react : Reaction (Option String)) (settings : ReplicaSettings) (convert : Converter (Option String))
    (key : IndexKey (Option String) String) (earlier later : List (Step (Option String))) (s t u : Station (Option String))
    (answer : Except Fault Unit) (x : SingleIndex (Option String) String) (notices : List Notice) (number : Nat),
    Run react (fresh settings convert) earlier s → SingleIndex.build key s.replica.live.records = .ok (x, notices) →
      act react .join s = (answer, t) → Run react t later u → (number, s.seats.length) ∈ u.replica.observers →
      (∀ entry ∈ toldAt s.seats.length u.told, entry.answer = .ok ()) → Served key x s.seats.length u := by
  intro claim
  obtain ⟨notices, built⟩ := build_indexing twins
  have served := claim .calm { entity := "customer" } secondOf bySecond _ _ _ (joining twins) _ (.ok ()) _ notices 1
    (run_filling twins) built rfl (run_changing twins "id,v\n2") (by decide +kernel) (by decide +kernel)
  obtain ⟨holder, _, held, _⟩ := served "1" (some "x") "x" (by decide +kernel) rfl
  have nobody : (changed twins "id,v\n2").get? "x" = none := by decide +kernel
  cases nobody.symm.trans held

/-- Both directions of an index say the same, and nothing wrong. If no two records have shared a key since it was attached,
it leads from the key of every record to this record. -/
theorem Run.holders_right {notices : List Notice} {answer : Except Fault Unit} (run : Run react (fresh settings convert) earlier s)
    (built : SingleIndex.build key s.replica.live.records = .ok (x, notices)) (joins : act react .join s = (answer, t))
    (since : Run react t later u) (registered : (number, s.seats.length) ∈ u.replica.observers)
    (well : ∀ entry ∈ toldAt s.seats.length u.told, entry.answer = .ok ()) :
    (∀ k id, (following x s.seats.length u).get? k = some id ↔ (following x s.seats.length u).keyOf[id]? = some k) ∧
      (∀ k id, (following x s.seats.length u).get? k = some id →
        ∃ record, u.replica.get? id = some record ∧ key.of record = some k) ∧
      ((∀ v ∈ stations later u, key.Apart v.replica.live.records) → ∀ id record k, u.replica.get? id = some record →
        key.of record = some k → (following x s.seats.length u).get? k = some id) := by
  obtain ⟨tracked, served⟩ := run.attaches built joins since registered well
  have last : u ∈ stations later u := List.mem_append_right _ (List.mem_singleton_self u)
  refine ⟨(tracked u last).paired, (tracked u last).right, fun apart id record k present has => ?_⟩
  have keeps : ∀ step ∈ later, ¬step.Abandons key x s.seats.length := by
    rintro step member ⟨commit, _, abandons⟩
    have among : step.before ∈ stations later u := List.mem_append_left _ (List.mem_map.2 ⟨step, member, rfl⟩)
    exact (tracked step.before among).not_abandons (apart step.before among) commit abandons
  obtain ⟨holder, found, held, there, same⟩ := served.2 keeps u last id record k present has
  rw [held, apart u last holder id found record k there present same has]

/-- Three records with keys of their own. -/
def trio : String := "id,v\n1,a\n2,b\n3,c"

/-- Two of them exchange their keys, and the third one leaves its key to a newcomer. -/
def exchange : String := "id,v\n1,b\n2,a\n4,c\n3"

theorem holders_right_exchanged : (changed trio exchange).get? "b" = some "1" ∧ (changed trio exchange).get? "c" = some "4" := by
  obtain ⟨notices, built⟩ := build_indexing trio
  have registered : (1, (filling trio).2.seats.length) ∈ (changing trio exchange).2.replica.observers := by decide +kernel
  have apart : ∀ v ∈ stations (changing trio exchange).1 (changing trio exchange).2, bySecond.Apart v.replica.live.records := by
    decide +kernel
  have found := (Run.holders_right (run_filling trio) built rfl (run_changing trio exchange) registered (by decide +kernel)).2.2 apart
  exact ⟨found "1" (some "b") "b" (by decide +kernel) rfl, found "4" (some "c") "c" (by decide +kernel) rfl⟩

end Station

end ReferenceFeed
