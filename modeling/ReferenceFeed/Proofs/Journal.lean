import ReferenceFeed.Proofs.Producing

namespace ReferenceFeed

/-!
A site that keeps its notices. It does what a site without a journal does, and what it writes beside that disputes no claim
of a transport, except where claims are compared with what was fetched.
-/

/-- The entity and the id of a claim that a notice says to disagree with the origin. -/
def Notice.disputed? : Notice → Option (String × String)
  | .inconsistent entity id _ => some (entity, id)
  | _ => none

/-- Whether a notice disputes a claim. -/
def Notice.disputes (notice : Notice) : Bool := notice.disputed?.isSome

/-- A site with a journal. -/
structure Logged where
  site : Site
  notices : List Notice := []

instance : Journal Logged := ⟨fun notice s => { s with notices := s.notices ++ [notice] }⟩

namespace Logged

/-- A step that writes nothing. -/
def silently {α : Type} (step : Flow Site α) : Flow Logged α := fun s =>
  match step s.site with
  | (result, site) => (result, { s with site })

/-- Hands a message to the senders. -/
def send (c : Conduct) (message : Message) : Flow Logged Unit := do
  silently (modify fun site => { site with published := site.published ++ [message] })
  (← get).site.outbox.publish (fun sender message => silently (Site.hand c sender message)) message

/-- The origin of a site that keeps its notices. Those around it have no journal of their own. -/
def wiring (c : Conduct) : Origin.Wiring Logged Nat where
  call seat signal := silently (Site.call c seat signal)
  hold _ s := s
  release _ := pure ()
  place := ⟨fun s => s.site.origin, fun origin s => { s with site := { s.site with origin } }⟩
  thread s := s.site.thread
  serves s := c.serves s.site
  fetch s := c.fetch s.site
  send := send c
  retire _ s := s

variable {α β : Type}

/-- A step does to a site what another one does that keeps no notices, and writes some. -/
def EchoesAt (s : Logged) (step : Flow Logged α) (plain : Flow Site α) (disputes : List Notice) : Prop :=
  ∃ notices, Flow.effect step s = ((Flow.effect plain s.site).1, ⟨(Flow.effect plain s.site).2, s.notices ++ notices⟩) ∧
    notices.filter Notice.disputes = disputes

/-- What is disputed after a step, as that step ended. -/
def disputesAfter (later : α → Site → List Notice) : Except Fault α × Site → List Notice
  | (.ok value, after) => later value after
  | (.error _, _) => []

theorem disputesAfter_none (outcome : Except Fault α × Site) : disputesAfter (fun _ _ => []) outcome = [] := by
  rcases outcome with ⟨_ | _, _⟩ <;> rfl

/-- A step that does to any site what another one does. It depends on the site which claims are disputed. -/
def Echoes (step : Flow Logged α) (plain : Flow Site α) (disputes : Site → List Notice) : Prop :=
  ∀ s, EchoesAt s step plain (disputes s.site)

/-- A step that does what another one does, and disputes no claim. -/
abbrev Quiet (step : Flow Logged α) (plain : Flow Site α) : Prop := Echoes step plain fun _ => []

section Steps

variable {step : Flow Logged α} {plain : Flow Site α} {next : α → Flow Logged β} {follows : α → Flow Site β}
  {disputes : Site → List Notice} {later : α → Site → List Notice}

theorem Quiet.of_silent
    (silent : ∀ s, Flow.effect step s = ((Flow.effect plain s.site).1, { s with site := (Flow.effect plain s.site).2 })) :
    Quiet step plain := fun s => ⟨[], by rw [silent, List.append_nil], rfl⟩

theorem Quiet.silently (step : Flow Site α) : Quiet (silently step) step := .of_silent fun _ => rfl

theorem Quiet.pure (value : α) : Quiet (pure value) (pure value) := .of_silent fun _ => rfl

theorem Quiet.fail (cause : Failure) : Quiet (Flow.fail cause : Flow Logged α) (Flow.fail cause) := .of_silent fun _ => rfl

theorem Quiet.ofExcept (outcome : Except Failure α) : Quiet (Flow.ofExcept outcome) (Flow.ofExcept outcome) :=
  .of_silent fun s => by rw [Flow.effect_ofExcept, Flow.effect_ofExcept]

theorem Quiet.resume (result : Except Fault α) : Quiet (Flow.resume result) (Flow.resume result) :=
  .of_silent fun s => by rw [Flow.effect_resume, Flow.effect_resume]

theorem Quiet.note {notice : Notice} (calm : notice.disputes = false) : Quiet (Flow.note notice) (Flow.note notice) := fun s =>
  ⟨[notice], rfl, List.filter_eq_nil_iff.2 fun other member => by rw [List.mem_singleton.1 member, calm]; decide⟩

theorem Echoes.congr (echoes : Echoes step plain disputes) {others : Site → List Notice} (same : ∀ s, disputes s = others s) :
    Echoes step plain others := fun s => same s.site ▸ echoes s

theorem EchoesAt.bind {s : Logged} {first : List Notice} (echoes : EchoesAt s step plain first)
    (continues : ∀ value, Echoes (next value) (follows value) (later value)) :
    EchoesAt s (step >>= next) (plain >>= follows) (first ++ disputesAfter later (Flow.effect plain s.site)) := by
  obtain ⟨notices, effect, rfl⟩ := echoes
  unfold EchoesAt
  rw [Flow.effect_bind, Flow.effect_bind, effect]
  rcases Flow.effect plain s.site with ⟨fault | value, after⟩
  · exact ⟨notices, rfl, (List.append_nil _).symm⟩
  · obtain ⟨more, effect, same⟩ := continues value ⟨after, s.notices ++ notices⟩
    refine ⟨notices ++ more, ?_, ?_⟩
    · simp only [effect, List.append_assoc]
    · rw [List.filter_append, same]
      rfl

theorem Echoes.bind (first : Echoes step plain disputes) (continues : ∀ value, Quiet (next value) (follows value)) :
    Echoes (step >>= next) (plain >>= follows) disputes := by
  intro s
  have both := (first s).bind continues
  rw [disputesAfter_none, List.append_nil] at both
  exact both

theorem Quiet.bind (first : Quiet step plain) (continues : ∀ value, Quiet (next value) (follows value)) :
    Quiet (step >>= next) (plain >>= follows) := Echoes.bind first continues

theorem Quiet.followed (first : Quiet step plain) (later : α → Site → List Notice)
    (continues : ∀ value, Echoes (next value) (follows value) (later value)) :
    Echoes (step >>= next) (plain >>= follows) fun s => disputesAfter later (Flow.effect plain s) :=
  fun s => (first s).bind continues

/-- What a step looks at is the site. -/
theorem Echoes.get {next : Logged → Flow Logged β} {follows : Site → Flow Site β}
    (continues : ∀ s, EchoesAt s (next s) (follows s.site) (disputes s.site)) :
    Echoes (get >>= next) (get >>= follows) disputes := continues

theorem Echoes.outcome (echoes : Echoes step plain disputes) : Echoes (Flow.outcome step) (Flow.outcome plain) disputes := by
  intro s
  obtain ⟨notices, effect, same⟩ := echoes s
  exact ⟨notices, by rw [Flow.effect_outcome, Flow.effect_outcome, effect], same⟩

theorem Echoes.attempt (echoes : Echoes step plain disputes) : Echoes (Flow.attempt step) (Flow.attempt plain) disputes := by
  intro s
  obtain ⟨notices, effect, same⟩ := echoes s
  refine ⟨notices, ?_, same⟩
  rw [Flow.effect_attempt, Flow.effect_attempt, effect]
  rcases Flow.effect plain s.site with ⟨(_ | _) | _, _⟩ <;> rfl

theorem Echoes.ensuring {cleanup : Flow Logged Unit} {cleans : Flow Site Unit} (echoes : Echoes step plain disputes)
    (quiet : Quiet cleanup cleans) : Echoes (Flow.ensuring step cleanup) (Flow.ensuring plain cleans) disputes := by
  intro s
  obtain ⟨notices, effect, same⟩ := echoes s
  obtain ⟨more, cleaned, none⟩ := quiet ⟨(Flow.effect plain s.site).2, s.notices ++ notices⟩
  refine ⟨notices ++ more, ?_, by rw [List.filter_append, same, none, List.append_nil]⟩
  rw [Flow.effect_ensuring, Flow.effect_ensuring, effect, cleaned, List.append_assoc]
  rcases Flow.effect cleans (Flow.effect plain s.site).2 with ⟨_ | _, _⟩ <;> rfl

theorem Quiet.forM {items : List α} {body : α → Flow Logged PUnit} {turn : α → Flow Site PUnit}
    (quiet : ∀ item, Quiet (body item) (turn item)) : Quiet (items.forM body) (items.forM turn) := by
  induction items with
  | nil => exact .pure PUnit.unit
  | cons item rest ih => exact (quiet item).bind fun _ => ih

/-- A part that is read and written alike is changed alike. -/
theorem Quiet.change {γ : Type} {place : Place Logged γ} {kept : Place Site γ} (reads : Quiet place.read kept.read)
    (writes : ∀ part, Quiet (place.write part) (kept.write part)) (change : γ → Except Failure (β × γ)) :
    Quiet (place.attempt change) (kept.attempt change) := by
  refine reads.bind fun part => ?_
  rcases change part with cause | ⟨answer, changed⟩
  · exact .fail cause
  · exact (writes changed).bind fun _ => .pure answer

end Steps

section Fanout

variable {c : Conduct}

theorem quiet_read_fanout : Quiet (wiring c).fanout.place.read (Site.wiring c).fanout.place.read := .of_silent fun _ => rfl

theorem quiet_write_fanout (fanout : Fanout Nat) :
    Quiet ((wiring c).fanout.place.write fanout) ((Site.wiring c).fanout.place.write fanout) := .of_silent fun _ => rfl

theorem quiet_thread : Quiet ((wiring c).fanout.thread <$> get) ((Site.wiring c).fanout.thread <$> get) := .of_silent fun _ => rfl

theorem quiet_hold (held : List Nat) : Quiet (modify ((wiring c).fanout.hold held)) (modify ((Site.wiring c).fanout.hold held)) :=
  .of_silent fun _ => rfl

theorem quiet_letGo (held : List Nat) : Quiet ((wiring c).fanout.letGo held) ((Site.wiring c).fanout.letGo held) :=
  (quiet_hold held).bind fun _ => .forM fun _ => .pure ()

theorem quiet_drop_subscriber (sub : Subscriber Nat) (cause : Failure) (tell : Bool) :
    Quiet ((wiring c).fanout.drop sub cause tell) ((Site.wiring c).fanout.drop sub cause tell) := by
  refine Quiet.bind (.of_silent fun _ => rfl) fun _ => ?_
  refine Quiet.bind (.note rfl) fun _ => ?_
  cases tell with
  | false => exact .pure ()
  | true =>
    refine Quiet.bind (Echoes.outcome (Quiet.silently (Site.call c sub.channel .cancel))) fun result => ?_
    cases result with
    | ok _ => exact .pure ()
    | error fault => exact .note rfl

theorem quiet_hear (sub : Subscriber Nat) (calls : List Signal) (tell : Bool) :
    Quiet ((wiring c).fanout.hear sub calls tell) ((Site.wiring c).fanout.hear sub calls tell) := by
  have called : Quiet (calls.forM ((wiring c).fanout.call sub.channel)) (calls.forM ((Site.wiring c).fanout.call sub.channel)) :=
    .forM fun signal => .silently (Site.call c sub.channel signal)
  refine Quiet.bind (Echoes.outcome called) fun result => ?_
  cases result with
  | ok _ => exact .pure ()
  | error fault => exact quiet_drop_subscriber sub fault.asFailure tell

theorem quiet_deliver (event : Event) : Quiet ((wiring c).fanout.deliver event) ((Site.wiring c).fanout.deliver event) := by
  refine quiet_thread.bind fun thread => ?_
  refine Quiet.bind ?_ fun targets => ?_
  · exact .change quiet_read_fanout quiet_write_fanout _
  · exact (quiet_hold _).bind fun _ => .forM fun target => (quiet_hear _ _ _).bind fun _ => .pure ()

theorem quiet_close : Quiet (wiring c).fanout.close (Site.wiring c).fanout.close :=
  quiet_read_fanout.bind fun f => (quiet_write_fanout f.closed).bind fun _ => quiet_letGo _

theorem quiet_complete (signal : Signal) : Quiet ((wiring c).fanout.complete signal) ((Site.wiring c).fanout.complete signal) := by
  refine quiet_thread.bind fun thread => ?_
  refine quiet_read_fanout.bind fun f => ?_
  refine (Quiet.ofExcept (f.audience thread)).bind fun audience => ?_
  refine (quiet_hold _).bind fun _ => ?_
  refine Quiet.bind (.forM fun sub => quiet_hear sub _ _) fun _ => ?_
  exact quiet_close.bind fun _ => .forM fun _ => .pure ()

theorem quiet_receive_fanout (signal : Signal) :
    Quiet ((wiring c).fanout.receive signal) ((Site.wiring c).fanout.receive signal) := by
  cases signal with
  | start =>
    refine quiet_read_fanout.bind fun f => ?_
    refine (Quiet.ofExcept (f.free .start)).bind fun _ => ?_
    exact quiet_thread.bind fun thread => quiet_write_fanout _
  | event event => exact quiet_deliver event
  | finish => exact quiet_complete .finish
  | cancel => exact quiet_complete .cancel

end Fanout

section Origin

variable {c : Conduct} (number : Nat)

theorem quiet_read : Quiet (wiring c).place.read (Site.wiring c).place.read := .of_silent fun _ => rfl

theorem quiet_write (origin : Origin Nat) : Quiet ((wiring c).place.write origin) ((Site.wiring c).place.write origin) :=
  .of_silent fun _ => rfl

theorem quiet_update (change : Origin Nat → Origin Nat) :
    Quiet ((wiring c).place.update change) ((Site.wiring c).place.update change) := .of_silent fun _ => rfl

theorem quiet_ask (question : Origin Nat → Except Failure α) : Quiet ((wiring c).ask question) ((Site.wiring c).ask question) :=
  quiet_read.bind fun o => .ofExcept (question o)

theorem quiet_fetchIds (entity : String) (ids : Names) :
    Quiet ((wiring c).fetchIds entity ids) ((Site.wiring c).fetchIds entity ids) :=
  Echoes.get fun s => Quiet.resume (Origin.collect (c.fetch s.site (.ids entity ids)) entity) s

theorem quiet_leave (signal : Signal) : Quiet ((wiring c).leave number signal) ((Site.wiring c).leave number signal) :=
  (quiet_update _).bind fun _ => quiet_receive_fanout signal

theorem quiet_start : Quiet ((wiring c).start number) ((Site.wiring c).start number) := by
  refine quiet_read.bind fun o => ?_
  cases (o.session number).stages.isSome with
  | false => exact (quiet_receive_fanout .start).bind fun _ => quiet_update _
  | true => exact .fail _

theorem quiet_event (event : Event) : Quiet ((wiring c).event number event) ((Site.wiring c).event number event) :=
  (Quiet.change quiet_read quiet_write _).bind fun told => quiet_deliver told

theorem quiet_apply (stages : Stages) : Quiet ((wiring c).apply stages) ((Site.wiring c).apply stages) :=
  quiet_read.bind fun _ => (quiet_write _).bind fun _ => .pure _

theorem quiet_send (message : Message) : Quiet ((wiring c).send message) ((Site.wiring c).send message) := by
  refine (Quiet.silently _).bind fun _ => Echoes.get fun s => ?_
  have handed : Quiet (s.site.outbox.publish (fun sender message => silently (Site.hand c sender message)) message)
      (s.site.outbox.publish (Site.hand c) message) := by
    refine .forM fun sender => Quiet.bind (Echoes.attempt (Quiet.silently _)) fun result => ?_
    cases result with
    | ok _ => exact .pure ()
    | error cause => exact .note rfl
  exact handed s

/-- Nobody keeps a store that goes out of use. -/
theorem quiet_swap (swaps : List Store) : Quiet ((wiring c).swap swaps) ((Site.wiring c).swap swaps) := by
  refine quiet_read.bind fun o => (quiet_write _).bind fun _ => .of_silent fun s => ?_
  have kept : (o.retired swaps).foldl (fun s store => (wiring c).retire store s) s = s := List.foldl_fixed' (fun _ => rfl) _
  have same : (o.retired swaps).foldl (fun s store => (Site.wiring c).retire store s) s.site = s.site :=
    List.foldl_fixed' (fun _ => rfl) _
  rw [Flow.effect_modify, Flow.effect_modify, kept, same]

theorem quiet_finish : Quiet ((wiring c).finish number) ((Site.wiring c).finish number) := by
  refine quiet_read.bind fun o => ?_
  rcases o.session number with ⟨_ | stages, holds⟩
  · exact .fail _
  refine (quiet_update _).bind fun _ => ?_
  rcases stages.unbegun? with _ | entity
  · refine (quiet_apply stages).bind fun outcome => ?_
    rcases outcome with cause | prepared
    · exact (quiet_leave number .cancel).bind fun _ => .fail cause
    · refine (quiet_swap prepared.swaps).bind fun _ => ?_
      exact Quiet.bind (.forM fun message => quiet_send message) fun _ => quiet_leave number .finish
  · exact (quiet_leave number .cancel).bind fun _ => .fail _

theorem quiet_cancel : Quiet ((wiring c).cancel number) ((Site.wiring c).cancel number) := by
  refine quiet_read.bind fun o => ?_
  rcases o.session number with ⟨_ | stages, holds⟩
  · exact .fail _
  · exact (quiet_update _).bind fun _ => quiet_leave number .cancel

theorem quiet_begin : Quiet (wiring c).begin (Site.wiring c).begin :=
  quiet_read.bind fun _ => (quiet_write _).bind fun _ => .pure _

theorem quiet_drop : Quiet ((wiring c).drop number) ((Site.wiring c).drop number) := by
  refine quiet_read.bind fun o => ?_
  rcases o.session number with ⟨stages, _ | _⟩
  · exact (quiet_update _).bind fun _ => .pure ()
  · refine (quiet_update _).bind fun _ => ?_
    refine Quiet.bind (.note rfl) fun _ => ?_
    refine Quiet.bind (Echoes.attempt (quiet_receive_fanout .cancel)) fun result => ?_
    cases result with
    | ok _ => exact .pure ()
    | error cause => exact .note rfl

theorem quiet_announce (store : Store) (entity : String) (delta : Delta) :
    Quiet ((wiring c).announce number store entity delta) ((Site.wiring c).announce number store entity delta) :=
  Quiet.bind (.forM fun event => quiet_event number event) fun _ => .pure _

/-- A whole transaction disputes what its producer does, if it gets so far. -/
theorem echoes_run {producer : Nat → Flow Logged α} {plain : Nat → Flow Site α} {disputes : Site → List Notice}
    (echoes : ∀ number, Echoes (producer number) (plain number) disputes) :
    Echoes ((wiring c).run producer) ((Site.wiring c).run plain) fun s =>
      disputesAfter (fun _ => disputes) (Flow.effect ((Site.wiring c).start s.origin.nextSession) s.begun) := by
  intro s
  refine quiet_begin.followed (fun number u => disputesAfter (fun _ => disputes) (Flow.effect ((Site.wiring c).start number) u))
    (fun number => Echoes.ensuring (fun u => ?_) (quiet_drop number)) s
  refine (quiet_start number u).bind fun _ => Echoes.bind (echoes number).attempt fun result => ?_
  cases result with
  | ok value => exact (quiet_finish number).bind fun _ => .pure value
  | error cause =>
    refine Quiet.bind (Echoes.attempt (quiet_cancel number)) fun cancelled => ?_
    cases cancelled with
    | ok _ => exact .fail cause
    | error again => exact Quiet.bind (.note rfl) fun _ => .fail cause

theorem quiet_run {producer : Nat → Flow Logged α} {plain : Nat → Flow Site α}
    (quiet : ∀ number, Quiet (producer number) (plain number)) : Quiet ((wiring c).run producer) ((Site.wiring c).run plain) :=
  (echoes_run quiet).congr fun _ => disputesAfter_none _

end Origin

end Logged

end ReferenceFeed
