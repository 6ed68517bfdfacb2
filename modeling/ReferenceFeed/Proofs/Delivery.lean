import ReferenceFeed.Proofs.Reach

namespace ReferenceFeed

/-!
What goes out while a whole transaction runs: every message is published once and handed to every sender, whatever
the senders make of it. The tables and the senders stay what they are.
-/

namespace Site

/-- The messages that somebody was handed. -/
def handedTo (sender : Nat) (handed : List (Nat × Message)) : List Message :=
  (handed.filter fun pair => pair.1 = sender).map Prod.snd

theorem handedTo_append (sender : Nat) (first second : List (Nat × Message)) :
    handedTo sender (first ++ second) = handedTo sender first ++ handedTo sender second := by
  rw [handedTo, List.filter_append, List.map_append]
  rfl

/-- A sender that was registered once is handed every message once. -/
theorem handedTo_flatMap {sender : Nat} {senders : List Nat} (once : senders.count sender = 1) (messages : List Message) :
    handedTo sender (messages.flatMap fun message => senders.map (·, message)) = messages := by
  have single : ∀ message, handedTo sender (senders.map (·, message)) = [message] := by
    intro message
    have picked : (senders.map (·, message)).filter (fun pair => pair.1 = sender) =
        (senders.filter (· == sender)).map (·, message) := by
      rw [List.filter_map]
      exact congrArg (List.map _) (List.filter_congr fun other _ => rfl)
    rw [handedTo, picked, List.filter_beq, once]
    rfl
  induction messages with
  | nil => rfl
  | cons message rest ih => rw [List.flatMap_cons, handedTo_append, single, ih, List.singleton_append]

/-- What was sent since a site, and to whom. -/
structure Sending (s₀ s : Site) : Prop where
  catalogue : s.catalogue = s₀.catalogue
  outbox : s.outbox = s₀.outbox
  sent : ∃ more, s.published = s₀.published ++ more ∧
    s.handed = s₀.handed ++ more.flatMap fun message => s₀.outbox.senders.map (·, message)

variable {c : Conduct} {s₀ s t : Site} {number : Nat}

theorem Sending.refl (s : Site) : Sending s s := ⟨rfl, rfl, [], by simp, by simp⟩

theorem Sending.silent (sending : Sending s₀ s) (catalogue : t.catalogue = s.catalogue) (outbox : t.outbox = s.outbox)
    (published : t.published = s.published) (handed : t.handed = s.handed) : Sending s₀ t := by
  obtain ⟨more, sent, given⟩ := sending.sent
  exact ⟨catalogue.trans sending.catalogue, outbox.trans sending.outbox, more, published.trans sent, handed.trans given⟩

theorem Sending.complete (sending : Sending s₀ s) (signal : Signal) :
    Sending s₀ (Flow.effect ((wiring c).fanout.complete signal) s).2 := by
  obtain ⟨fanout, log, shape⟩ := complete_shape c signal s
  rw [shape]
  exact sending.silent rfl rfl rfl rfl

/-- A commit sends what it prepared. -/
theorem Sending.committing (sending : Sending s₀ s) (live : Keyed Store) (prepared : Prepared) :
    Sending s₀ (s.committing live prepared) := by
  obtain ⟨more, sent, given⟩ := sending.sent
  refine ⟨sending.catalogue, sending.outbox, more ++ prepared.messages, ?_, ?_⟩
  · rw [← List.append_assoc, ← sent]
    rfl
  · rw [List.flatMap_append, ← List.append_assoc, ← given, ← sending.outbox]
    rfl

theorem Sending.start (sending : Sending s₀ s) : Sending s₀ (Flow.effect ((wiring c).start number) s).2 := by
  rw [effect_start]
  split
  · exact sending
  · split
    · exact sending
    · exact sending.silent rfl rfl rfl rfl

theorem Sending.event (sending : Sending s₀ s) (event : Event) :
    Sending s₀ (Flow.effect ((wiring c).event number event) s).2 := by
  rw [effect_event]
  split
  · exact sending
  · next told stages _ =>
    obtain ⟨fanout, log, shape⟩ :=
      deliver_shape c told (s.keeping number { s.origin.session number with stages := some stages })
    rw [shape]
    exact sending.silent rfl rfl rfl rfl

theorem Sending.keeping (sending : Sending s₀ s) (number : Nat) (session : Session) : Sending s₀ (s.keeping number session) :=
  sending.silent rfl rfl rfl rfl

theorem Sending.finish (sending : Sending s₀ s) : Sending s₀ (Flow.effect ((wiring c).finish number) s).2 := by
  rw [effect_finish_state]
  split
  · exact sending
  · split
    · exact (sending.keeping number {}).complete .cancel
    · split
      · next live cause _ =>
        have moved : Sending s₀ (s.withLive live) := sending.silent rfl rfl rfl rfl
        exact (moved.keeping number {}).complete .cancel
      · next live prepared _ =>
        have committed := sending.committing live prepared
        exact (committed.keeping number {}).complete .finish

theorem Sending.cancel (sending : Sending s₀ s) : Sending s₀ (Flow.effect ((wiring c).cancel number) s).2 := by
  rw [effect_cancel]
  split
  · exact sending
  · exact (sending.keeping number {}).complete .cancel

theorem Sending.drop (sending : Sending s₀ s) : Sending s₀ (Flow.effect ((wiring c).drop number) s).2 := by
  have gone : Sending s₀ (s.forgetting number) := sending.silent rfl rfl rfl rfl
  rw [effect_drop_state]
  split
  · exact gone.complete .cancel
  · exact gone

theorem sending_handling (c : Conduct) (s₀ : Site) : Handling c (Sending s₀) fun _ => Sending s₀ where
  begins _ sending := sending.silent rfl rfl rfl rfl
  starts _ _ sending := sending.start
  hears _ event _ sending := sending.event event
  finishes _ _ sending := sending.finish
  cancels _ _ sending := sending.cancel
  drops _ _ sending := sending.drop

theorem Sending.whole {action : Action} (isWhole : action.isWhole = true) (s : Site) :
    Sending s (Flow.effect (perform c action) s).2 := (sending_handling c s).whole isWhole s (.refl s)

end Site

end ReferenceFeed
