import ReferenceFeed.Proofs.Audience
import ReferenceFeed.Proofs.Contents

namespace ReferenceFeed

/-!
What each call of a handle does to a site, as one equation: which calls are refused, what is kept of the session,
and what the fan-out is asked to do then.
-/

namespace Origin

variable {χ : Type}

theorem session_withSession (o : Origin χ) (number other : Nat) (session : Session) :
    (o.withSession number session).session other = if number = other then session else o.session other := by
  simp only [Origin.session, withSession, Keyed.getElem?_insert]
  split <;> rfl

theorem withSession_withSession (o : Origin χ) (number : Nat) (first second : Session) :
    (o.withSession number first).withSession number second = o.withSession number second := by
  have same : (o.sessions.insert number first).insert number second = o.sessions.insert number second := by
    refine Std.ExtTreeMap.ext_getElem? fun {other} => ?_
    simp only [Keyed.getElem?_insert]
    split <;> rfl
  simp only [withSession, same]

end Origin

namespace Site

/-- A session in the place of what it was. -/
def keeping (s : Site) (number : Nat) (session : Session) : Site :=
  { s with origin := s.origin.withSession number session }

/-- A session that is no more. -/
def forgetting (s : Site) (number : Nat) : Site :=
  { s with origin := { s.origin with sessions := s.origin.sessions.erase number } }

/-- What a commit leaves, before the subscribers are told. -/
def committing (s : Site) (live : Keyed Store) (prepared : Prepared) : Site :=
  { s with
    origin := { s.origin with live }.publish prepared.swaps
    published := s.published ++ prepared.messages
    handed := s.handed ++ prepared.messages.flatMap fun message => s.outbox.senders.map (·, message) }

variable (c : Conduct) (number : Nat) (s : Site)

theorem effect_begin :
    Flow.effect (wiring c).begin s =
      (.ok s.origin.nextSession, { s with
        origin := { s.origin.withSession s.origin.nextSession {} with nextSession := s.origin.nextSession + 1 } }) := rfl

theorem effect_start :
    Flow.effect ((wiring c).start number) s =
      if (s.origin.session number).stages.isSome then (.error (.failure (.violation .sessionTwice)), s)
      else if s.origin.fanout.isOpen then (.error (.failure (.violation (.held .start))), s)
      else (.ok (), (s.withFanout (s.origin.fanout.opened s.thread s.origin.fanout.subscribers)).keeping number
        ⟨some ∅, true⟩) := by
  simp only [Origin.Wiring.start, Flow.effect_bind, Place.effect_read, wiring_place_get]
  by_cases twice : (s.origin.session number).stages.isSome = true
  · rw [if_pos twice, if_pos twice]
    rfl
  · rw [if_neg twice, if_neg twice]
    simp only [Fanout.Wiring.receive, Origin.Wiring.keep, Flow.effect_bind, Place.effect_read, wiring_fanout_place_get,
      Flow.effect_ofExcept, Fanout.free]
    by_cases held : s.origin.fanout.isOpen = true
    · rw [if_pos held, if_pos held]
      rfl
    · rw [if_neg held, if_neg held]
      rfl

theorem effect_event (event : Event) :
    Flow.effect ((wiring c).event number event) s =
      match Stages.take s.origin.settings s.origin.live (s.origin.session number).stages event with
      | .error cause => (.error (.failure cause), s)
      | .ok (told, stages) =>
        Flow.effect ((wiring c).fanout.deliver told)
          (s.keeping number { s.origin.session number with stages := some stages }) := by
  simp only [Origin.Wiring.event, Flow.effect_bind, Place.effect_attempt, wiring_place_get]
  rcases Stages.take s.origin.settings s.origin.live (s.origin.session number).stages event with cause | ⟨told, stages⟩
  · rfl
  · rfl

theorem effect_leave (signal : Signal) (finishing : signal = .finish ∨ signal = .cancel) (holds : Bool) :
    Flow.effect ((wiring c).leave number signal) (s.keeping number ⟨none, holds⟩) =
      Flow.effect ((wiring c).fanout.complete signal) (s.keeping number {}) := by
  have session : (s.keeping number ⟨none, holds⟩).origin.session number = ⟨none, holds⟩ := by
    simp only [keeping, Origin.session_withSession, if_true]
  have left : ((s.keeping number ⟨none, holds⟩).origin.withSession number
      { (s.keeping number ⟨none, holds⟩).origin.session number with holds := false }) =
        (s.keeping number {}).origin := by
    rw [session]
    exact Origin.withSession_withSession _ _ _ _
  simp only [Origin.Wiring.leave, Flow.effect_bind, Place.effect_update, wiring_place_get, wiring_place_set, left]
  rcases finishing with rfl | rfl
  · rfl
  · rfl

theorem effect_cancel :
    Flow.effect ((wiring c).cancel number) s =
      if (s.origin.session number).stages.isNone then (.error (.failure (.violation .cancelWithoutStart)), s)
      else Flow.effect ((wiring c).fanout.complete .cancel) (s.keeping number {}) := by
  rw [← effect_leave c number s .cancel (.inr rfl) (s.origin.session number).holds]
  simp only [Origin.Wiring.cancel, Origin.Wiring.keep, Flow.effect_bind, Place.effect_read, wiring_place_get]
  by_cases idle : (s.origin.session number).stages.isNone = true
  · rw [if_pos idle, if_pos idle]
    rfl
  · rw [if_neg idle, if_neg idle]
    rfl

theorem effect_sendAll (messages : List Message) :
    Flow.effect (messages.forM (send c)) s = (.ok (), { s with
      published := s.published ++ messages
      handed := s.handed ++ messages.flatMap fun message => s.outbox.senders.map (·, message) }) := by
  induction messages generalizing s with
  | nil => simp only [Flow.effect_forM_nil, List.flatMap_nil, List.append_nil]
  | cons message rest ih =>
    simp only [Flow.effect_forM_cons, effect_send, ih, List.flatMap_cons, List.append_assoc, List.singleton_append]

/-- The source is not asked, and nobody keeps a store that went out of use. -/
theorem effect_swap (swaps : List Store) :
    Flow.effect ((wiring c).swap swaps) s = (.ok (), { s with origin := s.origin.publish swaps }) := by
  have untouched : ∀ (stores : List Store) (after : Site),
      stores.foldl (fun state store => (wiring c).retire store state) after = after := by
    intro stores
    induction stores with
    | nil => exact fun _ => rfl
    | cons store rest ih => exact ih
  simp only [Origin.Wiring.swap, Flow.effect_bind, Place.effect_read, Place.effect_write, wiring_place_get,
    wiring_place_set, Flow.effect_modify, untouched]

theorem effect_apply (stages : Stages) :
    Flow.effect ((wiring c).apply stages) s =
      (.ok (Stages.commit s.origin.live stages.toList).2, s.withLive (Stages.commit s.origin.live stages.toList).1) := rfl

/-- A commit that cannot be applied, or is not complete, is a cancel. -/
theorem effect_finish :
    Flow.effect ((wiring c).finish number) s =
      match (s.origin.session number).stages with
      | none => (.error (.failure (.violation .finishWithoutStart)), s)
      | some stages =>
        match stages.unbegun? with
        | some entity =>
          match Flow.effect ((wiring c).fanout.complete .cancel) (s.keeping number {}) with
          | (.ok _, after) => (.error (.failure (.violation (.markerWithoutBlock entity))), after)
          | (.error fault, after) => (.error fault, after)
        | none =>
          match Stages.commit s.origin.live stages.toList with
          | (live, .error cause) =>
            match Flow.effect ((wiring c).fanout.complete .cancel) ((s.withLive live).keeping number {}) with
            | (.ok _, after) => (.error (.failure cause), after)
            | (.error fault, after) => (.error fault, after)
          | (live, .ok prepared) =>
            Flow.effect ((wiring c).fanout.complete .finish) ((s.committing live prepared).keeping number {}) := by
  simp only [Origin.Wiring.finish, Flow.effect_bind, Place.effect_read, wiring_place_get]
  rcases (s.origin.session number).stages with _ | stages
  · rfl
  · simp only [Origin.Wiring.keep, Flow.effect_bind, Place.effect_update, wiring_place_get, wiring_place_set]
    -- The stages are taken out of the session first; its hold is given up with the fan-out.
    generalize (s.origin.session number).holds = holds
    have kept : { s with origin := s.origin.withSession number ⟨none, holds⟩ } = s.keeping number ⟨none, holds⟩ := rfl
    simp only [kept]
    rcases stages.unbegun? with _ | entity
    · have applied : (s.keeping number ⟨none, holds⟩).origin.live = s.origin.live := rfl
      simp only [Flow.effect_bind, effect_apply, applied]
      rcases Stages.commit s.origin.live stages.toList with ⟨live, cause | prepared⟩
      · have moved := effect_leave c number (s.withLive live) .cancel (.inr rfl) holds
        have same : (s.keeping number ⟨none, holds⟩).withLive live = (s.withLive live).keeping number ⟨none, holds⟩ := rfl
        simp only [same, Flow.effect_bind, moved, Flow.effect_fail]
        rcases Flow.effect ((wiring c).fanout.complete .cancel) _ with ⟨_ | _, _⟩ <;> rfl
      · have moved := effect_leave c number (s.committing live prepared) .finish (.inl rfl) holds
        simp only [Flow.effect_bind, effect_swap, wiring_send, effect_sendAll]
        exact moved
    · have moved := effect_leave c number s .cancel (.inr rfl) holds
      simp only [Flow.effect_bind, moved, Flow.effect_fail]
      rcases Flow.effect ((wiring c).fanout.complete .cancel) _ with ⟨_ | _, _⟩ <;> rfl

/-- Whatever a commit is answered in the end, the last thing it does is to complete the transaction. -/
theorem effect_finish_state :
    (Flow.effect ((wiring c).finish number) s).2 =
      match (s.origin.session number).stages with
      | none => s
      | some stages =>
        match stages.unbegun? with
        | some _ => (Flow.effect ((wiring c).fanout.complete .cancel) (s.keeping number {})).2
        | none =>
          match Stages.commit s.origin.live stages.toList with
          | (live, .error _) => (Flow.effect ((wiring c).fanout.complete .cancel) ((s.withLive live).keeping number {})).2
          | (live, .ok prepared) =>
            (Flow.effect ((wiring c).fanout.complete .finish) ((s.committing live prepared).keeping number {})).2 := by
  rw [effect_finish]
  rcases (s.origin.session number).stages with _ | stages
  · rfl
  · simp only
    rcases stages.unbegun? with _ | entity
    · rcases Stages.commit s.origin.live stages.toList with ⟨live, cause | prepared⟩
      · simp only
        rcases Flow.effect ((wiring c).fanout.complete .cancel) ((s.withLive live).keeping number {}) with ⟨_ | _, _⟩ <;> rfl
      · rfl
    · simp only
      rcases Flow.effect ((wiring c).fanout.complete .cancel) (s.keeping number {}) with ⟨_ | _, _⟩ <;> rfl

/-- A session that goes away with a transaction open cancels it, as far as it can. -/
theorem effect_drop :
    Flow.effect ((wiring c).drop number) s =
      if (s.origin.session number).holds then
        match Flow.effect ((wiring c).fanout.complete .cancel) (s.forgetting number) with
        | (.ok _, after) => (.ok (), after)
        | (.error (.failure _), after) => (.ok (), after)
        | (.error (.panic message), after) => (.error (.panic message), after)
      else (.ok (), s.forgetting number) := by
  simp only [Origin.Wiring.drop, Flow.effect_bind, Place.effect_read, Place.effect_update, wiring_place_get,
    wiring_place_set]
  by_cases holds : (s.origin.session number).holds = true
  · rw [if_pos holds, if_pos holds]
    have gone : { s with origin := { s.origin with sessions := s.origin.sessions.erase number } } = s.forgetting number := rfl
    have cancel : (wiring c).fanout.receive .cancel = (wiring c).fanout.complete .cancel := rfl
    simp only [Flow.note, Flow.effect_bind, Flow.effect_modify, Flow.effect_attempt, Journal.note, gone, cancel]
    rcases Flow.effect ((wiring c).fanout.complete .cancel) (s.forgetting number) with ⟨(_ | _) | _, _⟩ <;> rfl
  · rw [if_neg holds, if_neg holds]
    rfl

theorem effect_drop_state :
    (Flow.effect ((wiring c).drop number) s).2 =
      if (s.origin.session number).holds then (Flow.effect ((wiring c).fanout.complete .cancel) (s.forgetting number)).2
      else s.forgetting number := by
  rw [effect_drop]
  by_cases holds : (s.origin.session number).holds = true
  · rw [if_pos holds, if_pos holds]
    rcases Flow.effect ((wiring c).fanout.complete .cancel) (s.forgetting number) with ⟨(_ | _) | _, _⟩ <;> rfl
  · rw [if_neg holds, if_neg holds]

end Site

end ReferenceFeed
