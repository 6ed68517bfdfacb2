import ReferenceFeed.Proofs.Atomicity
import ReferenceFeed.Proofs.Attached
import ReferenceFeed.Proofs.Hearing

namespace ReferenceFeed

/-!
A replica and its origin, while all transactions come through handles. They agree after every commit as long as
nothing strays: as long as no transaction that replaces a group removes something outside of it.
-/

namespace Site

/-- What a handle is used by. -/
def Action.isHandle : Action → Bool
  | .begin | .call _ _ | .drop _ => true
  | _ => false

namespace Step

/-- Whether a step starts a transaction of a session. -/
def starts (number : Nat) (step : Step) : Bool :=
  match step.action with
  | .call other .start => other = number && step.answer.isOk
  | _ => false

/-- Whether a step commits the transaction of a session. -/
def commits (number : Nat) (step : Step) : Bool :=
  match step.action with
  | .call other .finish => other = number && step.answer.isOk
  | _ => false

end Step

/-- The events that a session has accepted since it was started last. -/
def acceptedSince (settings : OriginSettings) (number : Nat) (steps : List Step) : List Event :=
  accepted settings number (steps.reverse.takeWhile fun step => !step.starts number).reverse

theorem acceptedSince_start {settings : OriginSettings} {number : Nat} {step : Step} (starts : step.starts number = true)
    (steps : List Step) : acceptedSince settings number (steps ++ [step]) = [] := by
  rw [acceptedSince, List.reverse_append, List.reverse_singleton, List.singleton_append, List.takeWhile_cons, starts]
  rfl

theorem acceptedSince_append {settings : OriginSettings} {number : Nat} {step : Step} (starts : step.starts number = false)
    (steps : List Step) :
    acceptedSince settings number (steps ++ [step]) = acceptedSince settings number steps ++ accepted settings number [step] := by
  rw [acceptedSince, List.reverse_append, List.reverse_singleton, List.singleton_append, List.takeWhile_cons, starts,
    Bool.not_false, if_pos rfl, List.reverse_cons, accepted_append]
  rfl

/-- Whether a step, after some others, commits a transaction that strays. -/
def Step.Astray (entity : String) (earlier : List Step) (step : Step) : Prop :=
  ∃ number, step.commits number = true ∧
    Strays step.before.origin.live[entity]? (concerning entity (acceptedSince step.before.origin.settings number earlier))

/-- Where a replica at a seat is in a run that only uses handles. If the end of a transaction came from the wrong
thread, the fan-out is held for good. -/
inductive Standing {ω : Type} (r : Replica String ω) (entity : String) (sub : Subscriber Nat) (steps : List Step) (s : Site) : Prop
  | resting : s.origin.fanout.isOpen = false → Attached r entity sub s → Standing r entity sub steps s
  | midway {before : Site} {number : Nat} {owner : Thread} : Sound before → Attached r entity sub before →
      Underway before number owner (acceptedSince s.origin.settings number steps)
        (acceptedSince s.origin.settings number steps) s → Standing r entity sub steps s
  | stuck : s.origin.fanout.isOpen = true → Idle s → Standing r entity sub steps s

variable {c : Conduct} {ω : Type} {r : Replica String ω} {entity : String} {sub : Subscriber Nat} {s t : Site} {number : Nat}
  {thread : Thread} {action : Action} {answer : Except Fault Answer} {steps : List Step}

theorem Sound.stages_of_idle (sound : Sound s) (idle : Idle s) (number : Nat) : (s.origin.session number).stages = none := by
  have same := sound.holds number
  rw [idle] at same
  exact Option.isNone_iff_eq_none.1 (Option.isSome_eq_false_iff.1 same.symm)

/-- A commit that is answered well was one of an open transaction. -/
theorem Sound.holds_of_commit (sound : Sound s) {value : Answer}
    (acts : act c thread (.call number .finish) s = (.ok value, t)) : (s.origin.session number).holds = true := by
  rcases staged : (s.origin.session number).stages with _ | stages
  · rcases (sound.on thread).calls (c := c) number .finish with ⟨_, goes⟩ | absent
    · obtain ⟨cause, refused⟩ := effect_receive_resting (c := c) (s := { s with thread }) staged .finish
        fun same => by cases same
      rw [act, goes, refused] at acts
      cases acts
    · rw [act, absent] at acts
      cases acts
  · exact sound.holds_of_stages staged

/-- Where nothing is open, a handle can only be used to start something. -/
theorem Sound.handling_idle (sound : Sound s) (idle : Idle s) (handle : action.isHandle = true)
    (acts : act c thread action s = (answer, t)) :
    (∃ number, action = .call number .start ∧ answer = .ok .done ∧ s.origin.fanout.isOpen = false ∧
        Flow.effect ((wiring c).start number) { s with thread } = (.ok (), t)) ∨
      t.origin.fanout = s.origin.fanout ∧ t.origin.live = s.origin.live ∧ t.heard = s.heard ∧ Idle t := by
  have none_staged := sound.stages_of_idle idle
  cases action with
  | begin =>
    cases acts
    refine .inr ⟨rfl, rfl, rfl, fun number => ?_⟩
    have session := session_begun { s with thread } number
    change (({ s with thread } : Site).begun.origin.session number).holds = false
    rw [session]
    split
    · rfl
    · exact idle number
  | call number signal =>
    rcases (sound.on thread).calls (c := c) number signal with ⟨_, goes⟩ | absent
    · rw [act, goes] at acts
      by_cases refuses : signal = .start → s.origin.fanout.isOpen = true
      · obtain ⟨cause, refused⟩ :=
          effect_receive_resting (c := c) (s := { s with thread }) (none_staged number) signal refuses
        rw [refused] at acts
        cases acts
        exact .inr ⟨rfl, rfl, rfl, idle⟩
      · obtain ⟨rfl, free⟩ := Classical.not_imp.1 refuses
        rcases started : Flow.effect ((wiring c).start number) { s with thread } with ⟨fault | done, u⟩
        · rw [effect_start, show ({ s with thread } : Site).origin = s.origin from rfl, none_staged, if_neg (by decide),
            if_neg free] at started
          cases started
        · simp only [Origin.Wiring.receive, started] at acts
          cases acts
          exact .inl ⟨number, rfl, rfl, Bool.eq_false_iff.2 free, started⟩
    · rw [act, absent] at acts
      cases acts
      exact .inr ⟨rfl, rfl, rfl, idle⟩
  | drop number =>
    rcases (sound.on thread).drops (c := c) number with ⟨_, goes⟩ | absent
    · have gone : Flow.effect ((wiring c).drop number) { s with thread } = (.ok (), ({ s with thread } : Site).forgetting number) := by
        rw [effect_drop, show ({ s with thread } : Site).origin = s.origin from rfl, idle number]
        rfl
      rw [act, goes, gone] at acts
      cases acts
      refine .inr ⟨rfl, rfl, rfl, fun other => ?_⟩
      rw [session_forgetting]
      split
      · rfl
      · exact idle other
    · rw [act, absent] at acts
      cases acts
      exact .inr ⟨rfl, rfl, rfl, idle⟩
  | _ => cases handle

/-- An event is accepted or refused, but not refused for its thread. -/
theorem takenIn_single {settings : OriginSettings} {step : Step}
    (native : (step.action.eventOf? number).isSome = true → step.foreign = false) :
    takenIn settings number [step] = accepted settings number [step] := by
  refine takenIn_eq_accepted fun other member brought => ?_
  cases List.mem_singleton.1 member
  exact native brought

/-- A start within a transaction is refused. -/
theorem Underway.starts {before : Site} {owner : Thread} {taken told : List Event}
    (under : Underway before number owner taken told s) (acts : act c thread action s = (answer, t)) : Step.starts number ⟨s, thread, action, answer⟩ = false := by
  unfold Step.starts
  split
  · next other same =>
    simp only at same
    rw [Bool.and_eq_false_iff]
    by_cases here : other = number
    · right
      subst here
      obtain ⟨stages, session, _⟩ := under.staged
      have refused : Flow.effect ((wiring c).start other) { s with thread } =
          (.error (.failure (.violation .sessionTwice)), { s with thread }) := by
        rw [effect_start, show ({ s with thread } : Site).origin = s.origin from rfl, session]
        rfl
      rw [same, under.effect_call, Flow.effect_map, Origin.Wiring.receive, refused] at acts
      cases acts
      rfl
    · left
      exact decide_eq_false here
  · rfl

/-- One more step of a handle leaves a replica in one of these places, if it does not commit what strays. -/
theorem Standing.step (standing : Standing r entity sub steps s) (sound : Sound s) (handle : action.isHandle = true)
    (native : ∀ number, (action.eventOf? number).isSome = true → Step.foreign ⟨s, thread, action, answer⟩ = false)
    (acts : act c thread action s = (answer, t)) (calm : ∀ h ∈ partOf sub.channel t.heard, h.signal ≠ .cancel)
    (inside : ¬Step.Astray entity steps ⟨s, thread, action, answer⟩) :
    Standing r entity sub (steps ++ [⟨s, thread, action, answer⟩]) t := by
  cases standing with
  | resting closed attached =>
    rcases sound.handling_idle (sound.idle_of_closed closed) handle acts with
      ⟨number, rfl, rfl, _, started⟩ | ⟨fanout, live, heard, _⟩
    · obtain ⟨_, _, under⟩ := (sound.on thread).underway started
      have nothing : acceptedSince t.origin.settings number (steps ++ [⟨s, thread, .call number .start, .ok .done⟩]) = [] :=
        acceptedSince_start (by simp [Step.starts, Except.isOk, Except.toBool]) steps
      rw [← nothing] at under
      exact .midway (sound.on thread) (attached.congr rfl rfl rfl) under
    · exact .resting (by rw [fanout]; exact closed) (attached.congr live (by rw [fanout]) heard)
  | @midway before number owner whole attached under =>
    by_cases ends : action.ends number = true
    · by_cases mine : thread = owner
      · subst mine
        rcases under.concludes ends acts with ⟨⟨rfl, well⟩, landed⟩ | abandoned
        · refine .resting (by rw [Fanout.isOpen, landed.concluded.closed]; rfl) ?_
          refine landed.attached whole attached (unfailing_of_calm calm (cancel_not_mem_tellings _ _)) fun strays => inside ⟨number, ?_, ?_⟩
          · simp [Step.commits, well]
          · change Strays s.origin.live[entity]? _
            rw [under.unchanged.live]
            exact strays
        · exact .resting (by rw [Fanout.isOpen, abandoned.concluded.closed]; rfl) (abandoned.attached attached calm)
      · obtain ⟨held, sessions⟩ := under.unreleased ends mine acts
        refine .stuck ?_ (sound.idle_without under.holds sessions)
        rw [held]
        exact sound.claimed number under.holds
    · have next := under.step sound thread (Bool.eq_false_iff.2 ends) acts
      have same : s.origin.settings = t.origin.settings := under.unchanged.settings.trans next.unchanged.settings.symm
      rw [takenIn_single (native number), ← under.unchanged.settings, ← acceptedSince_append (under.starts acts), same] at next
      exact .midway whole attached next
  | stuck held idle =>
    rcases sound.handling_idle idle handle acts with ⟨_, _, _, free, _⟩ | ⟨fanout, _, _, rested⟩
    · exact absurd (free.symm.trans held) (by decide)
    · exact .stuck (by rw [fanout]; exact held) rested

/-- A commit leaves the replica with what its store has, unless it strays. -/
theorem Standing.commit (standing : Standing r entity sub steps s) (sound : Sound s) {value : Answer}
    (acts : act c thread (.call number .finish) s = (.ok value, t))
    (calm : ∀ h ∈ partOf sub.channel t.heard, h.signal ≠ .cancel) :
    (r.heeding (callsAt sub.channel t.heard)).Mirrors t.origin.live[entity]? ↔
      ¬Strays s.origin.live[entity]? (concerning entity (acceptedSince s.origin.settings number steps)) := by
  have holds := sound.holds_of_commit acts
  cases standing with
  | resting closed _ => exact absurd ((sound.idle_of_closed closed number).symm.trans holds) (by decide)
  | stuck _ idle => exact absurd ((idle number).symm.trans holds) (by decide)
  | @midway before other owner whole attached under =>
    cases sound.alone number other holds under.holds
    obtain ⟨_, landed⟩ := under.finish_answered acts
    have well := unfailing_of_calm (s := before) calm (cancel_not_mem_tellings entity (acceptedSince s.origin.settings number steps))
    rw [under.unchanged.live]
    constructor
    · exact fun mirrors strays => landed.strayed whole attached well strays mirrors
    · intro inside
      exact (landed.attached whole attached well inside).mirrors (sound.answered acts)

theorem forall_prefix_concat {P : List Step → Step → Prop} {steps : List Step} {last : Step} :
    (∀ earlier step, earlier ++ [step] <+: steps ++ [last] → P earlier step) ↔
      (∀ earlier step, earlier ++ [step] <+: steps → P earlier step) ∧ P steps last := by
  constructor
  · intro all
    exact ⟨fun earlier step before => all earlier step (before.trans (List.prefix_append _ _)),
      all steps last (List.prefix_refl _)⟩
  · rintro ⟨before, now⟩ earlier step inside
    rcases List.prefix_concat_iff.1 inside with whole | inside
    · obtain ⟨same, ends⟩ := List.append_inj' whole rfl
      cases same
      cases List.singleton_inj.1 ends
      exact now
    · exact before earlier step inside

theorem Step.commits_iff {step : Step} :
    step.commits number = true ↔ step.action = .call number .finish ∧ ∃ value, step.answer = .ok value := by
  unfold Step.commits
  rcases step with ⟨before, thread, action, answer⟩
  constructor
  · intro commits
    split at commits
    · next other same =>
      rw [Bool.and_eq_true, decide_eq_true_iff] at commits
      obtain ⟨rfl, well⟩ := commits
      rcases answer with fault | value
      · cases well
      · exact ⟨same, value, rfl⟩
    · cases commits
  · rintro ⟨rfl, value, rfl⟩
    simp [Except.isOk, Except.toBool]

/-- What was heard of a site stays heard. -/
theorem act_continues (acts : act c thread action s = (answer, t)) : s.heard <+: t.heard :=
  act_after acts ▸ (audible_continues c s.heard).perform action { s with thread } (List.prefix_refl s.heard)

/-- Whoever was not told to cancel in a run was not told before its last step either. -/
theorem calm_before (acts : act c thread action s = (answer, t)) (calm : ∀ h ∈ partOf sub.channel t.heard, h.signal ≠ .cancel) :
    ∀ h ∈ partOf sub.channel s.heard, h.signal ≠ .cancel :=
  fun h member => calm h (((act_continues acts).filter _).subset member)

theorem Run.standing (run : Run c s steps t) (begins : Standing r entity sub [] s) (sound : Sound s)
    (handles : ∀ step ∈ steps, step.action.isHandle = true)
    (native : ∀ step ∈ steps, ∀ number, (step.action.eventOf? number).isSome = true → step.foreign = false)
    (calm : ∀ h ∈ partOf sub.channel t.heard, h.signal ≠ .cancel)
    (inside : ∀ earlier step, earlier ++ [step] <+: steps → ¬step.Astray entity earlier) :
    Standing r entity sub steps t ∧ Sound t := by
  induction run with
  | start => exact ⟨begins, sound⟩
  | @next steps u thread action answer v previous acts ih =>
    obtain ⟨before, last⟩ := forall_prefix_concat.1 inside
    obtain ⟨standing, sound⟩ := ih (fun step member => handles step (List.mem_append_left _ member))
      (fun step member => native step (List.mem_append_left _ member)) (calm_before acts calm) before
    have here := List.mem_append_right steps (List.mem_singleton_self ⟨u, thread, action, answer⟩)
    exact ⟨standing.step sound (handles _ here) (native _ here) acts calm last, sound.answered acts⟩

/-- A replica has, after every commit of a run, what its store has, just if nothing in the run strays. -/
theorem Run.agrees (run : Run c s steps t) (begins : Standing r entity sub [] s) (sound : Sound s)
    (handles : ∀ step ∈ steps, step.action.isHandle = true)
    (native : ∀ step ∈ steps, ∀ number, (step.action.eventOf? number).isSome = true → step.foreign = false)
    (calm : ∀ h ∈ partOf sub.channel t.heard, h.signal ≠ .cancel) :
    (∀ earlier step, earlier ++ [step] <+: steps → ∀ number, step.commits number = true →
        (r.heeding (callsAt sub.channel (step.after c).heard)).Mirrors (step.after c).origin.live[entity]?) ↔
      ∀ earlier step, earlier ++ [step] <+: steps → ¬step.Astray entity earlier := by
  induction run with
  | start => simp
  | @next steps u thread action answer v previous acts ih =>
    have inner := ih (fun step member => handles step (List.mem_append_left _ member))
      (fun step member => native step (List.mem_append_left _ member)) (calm_before acts calm)
    rw [forall_prefix_concat, forall_prefix_concat, inner]
    refine and_congr_right fun inside => ?_
    obtain ⟨standing, sound⟩ := previous.standing begins sound (fun step member => handles step (List.mem_append_left _ member))
      (fun step member => native step (List.mem_append_left _ member)) (calm_before acts calm) inside
    have left : Step.after c ⟨u, thread, action, answer⟩ = v := congrArg Prod.snd acts
    rw [Step.Astray, not_exists, left]
    refine forall_congr' fun number => ?_
    rw [not_and]
    refine imp_congr_right fun commits => ?_
    obtain ⟨asked, value, well⟩ := Step.commits_iff.1 commits
    cases asked
    cases well
    exact standing.commit sound acts calm

/-- After every commit that a handle makes, a replica that has joined has the records and memberships of its store, just
if no commit strays. The replica was not told to cancel, and no event was refused because of its thread. -/
theorem Reachable.agrees_iff (settings : ReplicaSettings) {s₀ : Site} {value : Answer} (reach : Reachable c s₀)
    (joins : act c thread (.subscribe (.only {settings.entity})) s₀ = (.ok value, s)) (run : Run c s steps t)
    (handles : ∀ step ∈ steps, step.action.isHandle = true)
    (native : ∀ step ∈ steps, ∀ number, (step.action.eventOf? number).isSome = true → step.foreign = false)
    (calm : ∀ h ∈ partOf s₀.seats t.heard, h.signal ≠ .cancel) :
    (∀ earlier step, earlier ++ [step] <+: steps → ∀ number, step.commits number = true →
        ((Replica.ofSettings settings rowOf : Replica String ω).heeding (callsAt s₀.seats (step.after c).heard)).Mirrors
          (step.after c).origin.live[settings.entity]?) ↔
      ∀ earlier step, earlier ++ [step] <+: steps → ¬step.Astray settings.entity earlier := by
  obtain ⟨_, closed, _, attached⟩ := reach.sound.joined (Replica.follows_ofSettings (ω := ω) settings) joins
  have sound : Sound s := by
    have same : s = (act c thread (.subscribe (.only {settings.entity})) s₀).2 := by rw [joins]
    exact same ▸ Sound.perform c _ _ (reach.sound.on thread)
  exact run.agrees (.resting (by rw [Fanout.isOpen, closed]; rfl) attached) sound handles native calm

/-- Whether an action announces that a group is replaced. -/
def Action.regroups : Action → Bool
  | .call _ (.event (.reloadGroup _ _ _)) => true
  | _ => false

/-- Nothing strays where no group is replaced. -/
theorem not_astray {earlier : List Step} (ungrouped : ∀ step ∈ earlier, step.action.regroups = false) (step : Step) :
    ¬step.Astray entity earlier := by
  rintro ⟨number, _, name, group, key, rest, _, _, events, _⟩
  have told : .reloadGroup name group key ∈
      concerning entity (acceptedSince step.before.origin.settings number earlier) := by
    rw [events]
    exact List.mem_cons_self
  obtain ⟨source, inside, brings⟩ := List.mem_filterMap.1 (List.mem_filter.1 told).1
  have among : source ∈ earlier := List.mem_reverse.1 ((List.takeWhile_sublist _).subset (List.mem_reverse.1 inside))
  split at brings
  · obtain ⟨event, asked, complete⟩ := Option.bind_eq_some_iff.1 brings
    have same : event = .reloadGroup name group key := by
      rcases completed : event.completed step.before.origin.settings with cause | told
      · rw [completed] at complete
        cases complete
      · rw [completed] at complete
        cases complete
        cases event with
        | update entity header entry =>
          obtain ⟨_, _, absurd⟩ := map_ok completed
          cases absurd
        | reload | block | remove => cases completed
        | reloadGroup => cases completed; rfl
    have regroups := ungrouped source among
    rw [Action.eq_of_eventOf asked, same] at regroups
    cases regroups
  · cases brings

/-- The columns of an entity that may be reloaded by currency. -/
def idAndCurrency : Header := ⟨["id", "currency"], rfl, by decide, by decide⟩

def customer (id currency : String) : Entry :=
  ⟨id, id ++ "," ++ currency, (∅ : Keyed String).insert "currency" currency⟩

/-- A site with a handle, which somebody is about to join. -/
def opened : Site :=
  (act .quiet 0 .begin { origin := { settings := ({} : OriginSettings).withGroup "customer" "currency" } }).2

theorem opened_reachable : Reachable .quiet opened := .next 0 .begin (.fresh _ _)

def joined : Site := (act .quiet 0 (.subscribe (.only {"customer"})) opened).2

/-- Two customers come in with a whole reload. -/
def filling : List Step × Site := enact .quiet joined
  [(0, .call 0 .start), (0, .call 0 (.event (.reload "customer" idAndCurrency))),
    (0, .call 0 (.event (.block "customer" idAndCurrency))),
    (0, .call 0 (.event (.update "customer" idAndCurrency (customer "1" "GBP")))),
    (0, .call 0 (.event (.update "customer" idAndCurrency (customer "2" "EUR"))))]

/-- The commit of the two customers, and the run that ends with it. -/
def filledBy : Step := asking .quiet filling.2 0 (.call 0 .finish)

theorem run_filling : Run .quiet joined (filling.1 ++ [filledBy]) (filledBy.after .quiet) := by
  have before : Run .quiet joined filling.1 filling.2 := run_enact ..
  exact before.asking 0 (.call 0 .finish)

theorem agrees_iff_filled :
    ((Replica.ofSettings { entity := "customer" } rowOf : Replica String Nat).heeding
      (callsAt opened.seats (filledBy.after .quiet).heard)).Mirrors (filledBy.after .quiet).origin.live["customer"]? := by
  have native : ∀ step ∈ filling.1 ++ [filledBy], step.foreign = false := by decide +kernel
  have ungrouped : ∀ step ∈ filling.1 ++ [filledBy], step.action.regroups = false := by decide +kernel
  have agrees := (Reachable.agrees_iff (ω := Nat) { entity := "customer" } opened_reachable
    (show act .quiet 0 (.subscribe (.only {"customer"})) opened = (.ok (.number 1), joined) from Prod.ext rfl rfl)
    run_filling (by decide +kernel) (fun step member _ _ => native step member) (by decide +kernel)).2
  refine agrees (fun earlier step inside => ?_) filling.1 filledBy (List.prefix_refl _) 0 (by decide +kernel)
  exact not_astray (fun other member => ungrouped other (inside.subset (List.mem_append_left _ member))) step

/-- The customers of one currency are replaced, and another one is removed meanwhile. -/
def straying : List Step × Site := enact .quiet (filledBy.after .quiet)
  [(0, .call 0 .start), (0, .call 0 (.event (.reloadGroup "customer" "currency" "GBP"))),
    (0, .call 0 (.event (.block "customer" idAndCurrency))), (0, .call 0 (.event (.remove "customer" "2")))]

def strayedBy : Step := asking .quiet straying.2 0 (.call 0 .finish)

theorem run_straying :
    Run .quiet joined (filling.1 ++ [filledBy] ++ straying.1 ++ [strayedBy]) (strayedBy.after .quiet) := by
  have before : Run .quiet (filledBy.after .quiet) straying.1 straying.2 := run_enact ..
  exact (run_filling.append before).asking 0 (.call 0 .finish)

/-- What a group reload removes outside of its group is gone from the replica and stays with the origin. -/
theorem not_agrees : ¬∀ (c : Conduct) (settings : ReplicaSettings) (s₀ s t : Site) (thread : Thread) (value : Answer)
    (steps : List Step), Reachable c s₀ → act c thread (.subscribe (.only {settings.entity})) s₀ = (.ok value, s) →
      Run c s steps t → (∀ step ∈ steps, step.action.isHandle = true) →
      (∀ step ∈ steps, ∀ number, (step.action.eventOf? number).isSome = true → step.foreign = false) →
      (∀ h ∈ partOf s₀.seats t.heard, h.signal ≠ .cancel) →
      ∀ earlier step, earlier ++ [step] <+: steps → ∀ number, step.commits number = true →
        ((Replica.ofSettings settings rowOf : Replica String Nat).heeding (callsAt s₀.seats (step.after c).heard)).Mirrors
          (step.after c).origin.live[settings.entity]? := by
  intro claim
  have native : ∀ step ∈ filling.1 ++ [filledBy] ++ straying.1 ++ [strayedBy], step.foreign = false := by decide +kernel
  have mirrors := claim .quiet { entity := "customer" } opened joined (strayedBy.after .quiet) 0 (.number 1) _ opened_reachable
    (Prod.ext rfl rfl) run_straying (by decide +kernel) (fun step member _ _ => native step member) (by decide +kernel)
    (filling.1 ++ [filledBy] ++ straying.1) strayedBy (List.prefix_refl _) 0 (by decide +kernel)
  have differs := congrArg Std.ExtTreeMap.keys mirrors.records
  revert differs
  decide +kernel

end Site

end ReferenceFeed
