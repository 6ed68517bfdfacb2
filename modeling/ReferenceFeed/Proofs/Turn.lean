import ReferenceFeed.Proofs.Site

namespace ReferenceFeed

/-!
What a fan-out does to those it calls. Each subscriber has its turn: either it hears all calls that are meant for
it, or it is dropped at the first one that fails. Nobody's turn depends on how another one went.
-/

namespace Fanout

variable {χ : Type}

/-- Some subscribers taken away for good. -/
def dropping (f : Fanout χ) (lost : List Nat) : Fanout χ :=
  { f with
    subscribers := f.subscribers.filter fun s => s.id ∉ lost
    transaction := f.transaction.map fun t => { t with failed := t.failed ++ lost } }

theorem dropping_nil (f : Fanout χ) : f.dropping [] = f := by
  rcases f with ⟨_ | t, subscribers, nextId⟩ <;> simp [dropping]

theorem without_eq_dropping (f : Fanout χ) (id : Nat) : f.without id = f.dropping [id] := by
  simp [without, dropping]

theorem dropping_dropping (f : Fanout χ) (first second : List Nat) :
    (f.dropping first).dropping second = f.dropping (first ++ second) := by
  have order : ∀ s : Subscriber χ, (decide (s.id ∉ second) && decide (s.id ∉ first)) = decide (s.id ∉ first ++ second) := by
    intro s
    simp [Bool.and_comm]
  rcases f with ⟨_ | t, subscribers, nextId⟩ <;> simp only [dropping, List.filter_filter, order, Option.map_none,
    Option.map_some, List.append_assoc]

end Fanout

namespace Site

/-- A call that was taken well. -/
def fine (seat : Nat) (signal : Signal) : Heard := ⟨seat, signal, .ok ()⟩

/-- What somebody hears in one turn, and whether it fails. -/
inductive Turn (seat : Nat) (calls : List Signal) (tell : Bool) : List Heard → Bool → Prop
  | heeded : Turn seat calls tell (calls.map (fine seat)) false
  | failed {before signal after} (fault : Fault) (last : Except Fault Unit) : calls = before ++ signal :: after →
      Turn seat calls tell
        (before.map (fine seat) ++ ⟨seat, signal, .error fault⟩ :: if tell then [⟨seat, .cancel, last⟩] else []) true

/-- The turns of several subscribers, with all that they hear and the numbers of those that fail. -/
inductive Round (tell : Bool) : List (Subscriber Nat × List Signal) → List Heard → List Nat → Prop
  | done : Round tell [] [] []
  | next {s calls log lost rest logs losts} : Turn s.channel calls tell log lost → Round tell rest logs losts →
      Round tell ((s, calls) :: rest) (log ++ logs) ((if lost then [s.id] else []) ++ losts)

variable (c : Conduct)

theorem hearing_hearing (s : Site) (first second : List Heard) :
    (s.hearing first).hearing second = s.hearing (first ++ second) := by
  simp only [hearing, List.append_assoc]

/-- Nothing depends on who holds a channel. -/
theorem effect_letGo (held : List Nat) (s : Site) : Flow.effect ((wiring c).fanout.letGo held) s = (.ok (), s) := by
  have hold : (wiring c).fanout.hold held = id := rfl
  simp only [Channels.letGo, Flow.effect_bind, Flow.effect_modify, hold, id_eq]
  exact Flow.effect_forM_same (fun _ => rfl) held

theorem effect_close (s : Site) :
    Flow.effect (wiring c).fanout.close s = (.ok (), s.withFanout s.origin.fanout.closed) := by
  simp only [Fanout.Wiring.close, Flow.effect_bind, Place.effect_read, Place.effect_write, wiring_fanout_place_get,
    wiring_fanout_place_set, effect_letGo]

/-- A seat hears calls until one fails. -/
theorem effect_calls (seat : Nat) (calls : List Signal) (s : Site) :
    Flow.effect (calls.forM (call c seat)) s = (.ok (), s.hearing (calls.map (fine seat))) ∨
      ∃ before signal after fault, calls = before ++ signal :: after ∧
        Flow.effect (calls.forM (call c seat)) s =
          (.error fault, s.hearing (before.map (fine seat) ++ [⟨seat, signal, .error fault⟩])) := by
  induction calls generalizing s with
  | nil => exact .inl (by simp only [Flow.effect_forM_nil, hearing, List.map_nil, List.append_nil])
  | cons signal rest ih =>
    rw [Flow.effect_forM_cons, effect_call]
    rcases c.answer s seat signal with fault | _
    · exact .inr ⟨[], signal, rest, fault, rfl, rfl⟩
    · rcases ih (s.hearing [fine seat signal]) with well | ⟨before, other, after, fault, split, ends⟩
      · exact .inl (well.trans (by rw [hearing_hearing]; rfl))
      · refine .inr ⟨signal :: before, other, after, fault, congrArg (signal :: ·) split, ends.trans ?_⟩
        rw [hearing_hearing]
        rfl

theorem effect_dismiss (sub : Subscriber Nat) (cause : Failure) (tell : Bool) (s : Site) :
    ∃ last, Flow.effect ((wiring c).fanout.drop sub cause tell) s =
      (.ok (), (s.withFanout (s.origin.fanout.dropping [sub.id])).hearing
        (if tell then [⟨sub.channel, .cancel, last⟩] else [])) := by
  rw [← Fanout.without_eq_dropping]
  have turned : Flow.effect ((wiring c).fanout.place.update (·.without sub.id)) s =
      (.ok (), s.withFanout (s.origin.fanout.without sub.id)) := rfl
  refine ⟨c.answer (s.withFanout (s.origin.fanout.without sub.id)) sub.channel .cancel, ?_⟩
  simp only [Fanout.Wiring.drop, Flow.effect_bind, turned]
  cases tell with
  | false => simp [Flow.note, Flow.effect_modify, Flow.effect_pure, Journal.note, hearing]
  | true =>
    simp only [Flow.note, Flow.effect_modify, if_true, Flow.effect_bind, Flow.effect_outcome, Journal.note,
      wiring_fanout_call, effect_call]
    rcases c.answer _ sub.channel .cancel with fault | _ <;> rfl

theorem effect_hear (sub : Subscriber Nat) (calls : List Signal) (tell : Bool) (s : Site) :
    ∃ log lost, Turn sub.channel calls tell log lost ∧
      Flow.effect ((wiring c).fanout.hear sub calls tell) s =
        (.ok (), (s.withFanout (s.origin.fanout.dropping (if lost then [sub.id] else []))).hearing log) := by
  rcases effect_calls c sub.channel calls s with well | ⟨before, signal, after, fault, split, ends⟩
  · have heeded : Flow.effect ((wiring c).fanout.hear sub calls tell) s = (.ok (), s.hearing (calls.map (fine sub.channel))) := by
      simp only [Fanout.Wiring.hear, Flow.effect_bind, Flow.effect_outcome, wiring_fanout_call, well]
      rfl
    refine ⟨_, false, .heeded, ?_⟩
    rw [heeded]
    simp only [Bool.false_eq_true, if_false, Fanout.dropping_nil]
    rfl
  · obtain ⟨last, dropped⟩ := effect_dismiss c sub fault.asFailure tell
      (s.hearing (before.map (fine sub.channel) ++ [⟨sub.channel, signal, .error fault⟩]))
    refine ⟨_, true, .failed fault last split, ?_⟩
    simp only [Fanout.Wiring.hear, Flow.effect_bind, Flow.effect_outcome, wiring_fanout_call, ends]
    refine dropped.trans ?_
    simp only [if_true, hearing, withFanout, List.append_assoc]
    rfl

/-- All turns are taken, however each of them goes. -/
theorem effect_round (targets : List (Subscriber Nat × List Signal)) (tell : Bool) (s : Site) :
    ∃ log lost, Round tell targets log lost ∧
      Flow.effect (targets.forM fun target => (wiring c).fanout.hear target.1 target.2 tell) s =
        (.ok (), (s.withFanout (s.origin.fanout.dropping lost)).hearing log) := by
  induction targets generalizing s with
  | nil =>
    refine ⟨[], [], .done, ?_⟩
    rw [Flow.effect_forM_nil, Fanout.dropping_nil]
    simp only [hearing, List.append_nil]
    rfl
  | cons target rest ih =>
    obtain ⟨log, lost, turn, first⟩ := effect_hear c target.1 target.2 tell s
    obtain ⟨logs, losts, round, later⟩ :=
      ih ((s.withFanout (s.origin.fanout.dropping (if lost then [target.1.id] else []))).hearing log)
    refine ⟨_, _, .next turn round, ?_⟩
    rw [Flow.effect_forM_cons, first]
    refine later.trans ?_
    simp only [hearing, withFanout, Fanout.dropping_dropping, List.append_assoc]

/-- What was heard at one seat. -/
def partOf (seat : Nat) (log : List Heard) : List Heard := log.filter fun h => h.seat = seat

theorem partOf_append (seat : Nat) (first second : List Heard) :
    partOf seat (first ++ second) = partOf seat first ++ partOf seat second := List.filter_append ..

theorem partOf_eq_self {seat : Nat} {log : List Heard} (seated : ∀ h ∈ log, h.seat = seat) : partOf seat log = log :=
  List.filter_eq_self.2 fun h member => decide_eq_true (seated h member)

theorem partOf_eq_nil {seat : Nat} {log : List Heard} (elsewhere : ∀ h ∈ log, h.seat ≠ seat) : partOf seat log = [] :=
  List.filter_eq_nil_iff.2 fun h member here => elsewhere h member (of_decide_eq_true here)

variable {tell : Bool} {targets : List (Subscriber Nat × List Signal)} {log : List Heard} {lost : List Nat}

theorem Turn.seated {seat : Nat} {calls : List Signal} {failed : Bool} (turn : Turn seat calls tell log failed) :
    ∀ h ∈ log, h.seat = seat := by
  intro h member
  cases turn with
  | heeded =>
    obtain ⟨signal, _, rfl⟩ := List.mem_map.1 member
    rfl
  | failed fault last split =>
    rcases List.mem_append.1 member with well | ending
    · obtain ⟨signal, _, rfl⟩ := List.mem_map.1 well
      rfl
    · rcases List.mem_cons.1 ending with rfl | told
      · rfl
      · cases tell with
        | false => cases told
        | true => rw [List.mem_singleton.1 told]

/-- A turn of one call. -/
theorem Turn.single {seat : Nat} {signal : Signal} {failed : Bool} (turn : Turn seat [signal] tell log failed) :
    failed = false ∧ log = [fine seat signal] ∨
      failed = true ∧ ∃ fault last,
        log = ⟨seat, signal, .error fault⟩ :: if tell then [⟨seat, .cancel, last⟩] else [] := by
  cases turn with
  | heeded => exact .inl ⟨rfl, rfl⟩
  | @failed before stopped after fault last split =>
    cases before with
    | nil =>
      have same : signal = stopped := (List.cons.inj split).1
      exact .inr ⟨rfl, fault, last, same ▸ rfl⟩
    | cons first rest => simp at split

/-- A turn that goes on where somebody has heard some calls already. -/
theorem Turn.after {seat : Nat} {calls : List Signal} {failed : Bool} (turn : Turn seat calls tell log failed) (seen : List Signal) :
    Turn seat (seen ++ calls) tell (seen.map (fine seat) ++ log) failed := by
  cases turn with
  | heeded =>
    rw [← List.map_append]
    exact .heeded
  | @failed before signal after fault last split =>
    rw [← List.append_assoc, ← List.map_append]
    exact .failed fault last (by rw [split, List.append_assoc])

/-- Whoever has failed does not hear what comes later. -/
theorem Turn.longer {seat : Nat} {calls : List Signal} (turn : Turn seat calls tell log true) (more : List Signal) :
    Turn seat (calls ++ more) tell log true := by
  cases turn with
  | @failed before signal after fault last split =>
    exact .failed fault last (by rw [split, List.append_assoc]; rfl)

theorem Turn.well {seat : Nat} {calls : List Signal} (turn : Turn seat calls tell log false) : log = calls.map (fine seat) := by
  cases turn with
  | heeded => rfl

theorem Round.seated (round : Round tell targets log lost) : ∀ h ∈ log, ∃ target ∈ targets, target.1.channel = h.seat := by
  induction round with
  | done => simp
  | next turn _ ih =>
    intro h member
    rcases List.mem_append.1 member with here | later
    · exact ⟨_, List.mem_cons_self, (turn.seated h here).symm⟩
    · obtain ⟨target, inRest, seat⟩ := ih h later
      exact ⟨target, List.mem_cons_of_mem _ inRest, seat⟩

/-- Whatever holds of all seats that heard something before holds afterwards, if it holds of those who are told. -/
theorem Round.seated_append (round : Round tell targets log lost) {P : Nat → Prop} {heard : List Heard}
    (before : ∀ h ∈ heard, P h.seat) (told : ∀ target ∈ targets, P target.1.channel) : ∀ h ∈ heard ++ log, P h.seat := by
  intro h member
  rcases List.mem_append.1 member with earlier | now
  · exact before h earlier
  · obtain ⟨target, inTargets, seat⟩ := round.seated h now
    exact seat ▸ told target inTargets

theorem Round.lost_mem (round : Round tell targets log lost) : ∀ id ∈ lost, ∃ target ∈ targets, target.1.id = id := by
  induction round with
  | done => simp
  | @next s calls log failed rest logs losts turn _ ih =>
    intro id member
    rcases List.mem_append.1 member with here | later
    · cases failed with
      | false => cases here
      | true => exact ⟨_, List.mem_cons_self, (List.mem_singleton.1 here).symm⟩
    · obtain ⟨target, inRest, same⟩ := ih id later
      exact ⟨target, List.mem_cons_of_mem _ inRest, same⟩

/-- Among subscribers with different numbers and seats, what was heard at a seat is one turn. -/
theorem Round.turn (round : Round tell targets log lost) (numbers : (targets.map fun target => target.1.id).Nodup)
    (seats : (targets.map fun target => target.1.channel).Nodup) {sub : Subscriber Nat} {calls : List Signal}
    (member : (sub, calls) ∈ targets) :
    ∃ failed, Turn sub.channel calls tell (partOf sub.channel log) failed ∧ (sub.id ∈ lost ↔ failed = true) := by
  induction round with
  | done => cases member
  | @next s own log failed rest logs losts turn round ih =>
    rw [List.map_cons, List.nodup_cons] at numbers seats
    rw [partOf_append]
    rcases List.mem_cons.1 member with same | later
    · cases same
      -- No other target has this seat or this number, so the rest of the round is not about it.
      have alone : partOf sub.channel logs = [] := by
        refine partOf_eq_nil fun h inLogs here => ?_
        obtain ⟨target, inRest, seat⟩ := round.seated h inLogs
        exact seats.1 (List.mem_map.2 ⟨target, inRest, seat.trans here⟩)
      have once : sub.id ∉ losts := by
        intro again
        obtain ⟨target, inRest, number⟩ := round.lost_mem _ again
        exact numbers.1 (List.mem_map.2 ⟨target, inRest, number⟩)
      refine ⟨failed, ?_, ?_⟩
      · rw [alone, List.append_nil, partOf_eq_self turn.seated]
        exact turn
      · cases failed <;> simp [once]
    · obtain ⟨failure, own, number⟩ := ih numbers.2 seats.2 later
      have otherSeat : s.channel ≠ sub.channel := fun same =>
        seats.1 (List.mem_map.2 ⟨_, later, same.symm⟩)
      have otherNumber : sub.id ≠ s.id := fun same => numbers.1 (List.mem_map.2 ⟨_, later, same⟩)
      refine ⟨failure, ?_, ?_⟩
      · rw [partOf_eq_nil fun h inLog => turn.seated h inLog ▸ otherSeat, List.nil_append]
        exact own
      · cases failed <;> simp [number, otherNumber]

end Site

end ReferenceFeed
