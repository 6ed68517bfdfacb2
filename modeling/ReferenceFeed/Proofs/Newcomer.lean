import ReferenceFeed.Proofs.Attached
import ReferenceFeed.Proofs.Hearing
import ReferenceFeed.Proofs.Settlement

namespace ReferenceFeed

/-!
A newcomer that fails at what it is shown. At an event it is told to cancel, as a subscriber is that fails during a
transaction. At the end it is told nothing, unlike a subscriber, and is left in the transaction that it could not finish.
-/

namespace Site

section Broken

variable {seat : Nat} {calls : List Signal} {log : List Heard} {fault : Fault} {signal : Signal} {cause : Failure}

/-- Whoever fails in its turn and is told to cancel hears that last. -/
theorem Turn.told (turn : Turn seat calls true log true) : (log.map Heard.signal).getLast? = some .cancel := by
  cases turn with
  | failed fault last split => simp

theorem reported_of_civil {last : Except Fault Unit} (civil : ∀ message, last ≠ .error (.panic message)) :
    reported cause last = .failure cause := by
  rcases last with (_ | message) | _
  · rfl
  · exact absurd rfl (civil message)
  · rfl

/-- A failure ends a replay. What is heard of it is a subscriber's turn, unless it came at the end. -/
theorem Broken.failed (broken : Broken seat calls log fault) (civil : ∀ h ∈ log, ∀ message, h.answer ≠ .error (.panic message))
    (fails : ⟨seat, signal, .error (.failure cause)⟩ ∈ log) (begun : signal ≠ .start) (own : signal ≠ .cancel) :
    fault = .failure cause ∧ (Turn seat calls true log true ↔ signal ≠ .finish) ∧
      ∃ before after, calls = before ++ signal :: after ∧
        log.map Heard.signal = before ++ signal :: if signal = .finish then [] else [.cancel] := by
  -- Only at a page a cancel follows the failure; at a finish the call stays the last one.
  cases broken with
  | @stopped before other after fault reached plain =>
    obtain ⟨rfl, rfl⟩ : signal = other ∧ .failure cause = fault := by simpa [fine] using fails
    have atEnd : signal = .finish := by
      cases signal with
      | start => exact absurd rfl begun
      | event event => exact absurd rfl (plain event cause rfl)
      | finish => rfl
      | cancel => exact absurd rfl own
    subst atEnd
    refine ⟨rfl, ⟨fun turn => ?_, fun other => absurd rfl other⟩, before, after, reached, by simp [fine, Function.comp_def]⟩
    have ending := turn.told
    simp at ending
  | @cancelled before event after first last reached =>
    obtain ⟨rfl, rfl⟩ : signal = .event event ∧ cause = first := by
      rcases List.mem_append.1 fails with well | late
      · simp [fine] at well
      · rcases List.mem_cons.1 late with same | told
        · cases same
          exact ⟨rfl, rfl⟩
        · cases List.mem_singleton.1 told
          exact absurd rfl own
    have taken : ∀ message, last ≠ .error (.panic message) := civil ⟨seat, .cancel, last⟩ (by simp)
    exact ⟨reported_of_civil taken, iff_of_true (.failed _ last reached) (fun same => by cases same), before, after, reached,
      by simp [fine, Function.comp_def]⟩

/-- Calls that end this way have one cancel behind them, unless they stop at the end. -/
theorem cancelled_once_iff {before after : List Signal} (due : .cancel ∉ before ++ signal :: after) :
    (∃ calls, .cancel ∉ calls ∧ (before ++ signal :: if signal = .finish then [] else [.cancel]) = calls ++ [.cancel]) ↔
      signal ≠ .finish := by
  simp only [List.mem_append, List.mem_cons, not_or] at due
  obtain ⟨earlier, other, _⟩ := due
  by_cases atEnd : signal = .finish
  · rw [if_pos atEnd]
    refine iff_of_false ?_ (not_not_intro atEnd)
    rintro ⟨calls, _, same⟩
    exact other (List.cons.inj (List.append_inj' same rfl).2).1.symm
  · rw [if_neg atEnd]
    exact iff_of_true ⟨before ++ [signal], by simp [earlier, other], by simp⟩ atEnd

end Broken

/-- Whoever sits at a seat may fail, but does not panic. -/
def Civil (c : Conduct) (seat : Nat) : Prop := ∀ site signal message, c.answer site seat signal ≠ .error (.panic message)

variable {c : Conduct} {s t : Site} {thread : Thread} {interest : Interest} {answer : Except Fault Answer} {signal : Signal}
  {cause : Failure}

theorem Civil.calm {seat : Nat} {earlier log : List Heard} (civil : Civil c seat) (truthful : Truthful c t)
    (heard : t.heard = earlier ++ log) (seated : ∀ h ∈ log, h.seat = seat) :
    ∀ h ∈ log, ∀ message, h.answer ≠ .error (.panic message) := by
  intro h member message panics
  obtain ⟨first, later, rfl⟩ := List.append_of_mem member
  obtain ⟨site, _, answers⟩ := truthful (earlier ++ first) h later (heard.trans (List.append_assoc ..).symm)
  rw [seated h member] at answers
  exact civil site h.signal message (answers ▸ panics)

theorem cancel_notMem_shownTo (o : Origin Nat) (interest : Interest) : .cancel ∉ shownTo o interest := by
  rw [shownTo, replayCalls]
  cases snapshots o.live (o.entities.filter interest.covers) <;> simp [introduced, finished]

/-- A newcomer that fails at an event or at the end is not taken, and the fan-out is as free as before. It hears one cancel
and nothing after it, as a subscriber does that fails during a transaction, exactly if it did not fail at the end. -/
theorem Reachable.newcomer_cancelled_iff (reach : Reachable c s) (civil : Civil c s.seats)
    (subscribes : act c thread (.subscribe interest) s = (answer, t))
    (fails : ⟨s.seats, signal, .error (.failure cause)⟩ ∈ t.heard) (begun : signal ≠ .start) (own : signal ≠ .cancel) :
    answer = .error (.failure cause) ∧ t.origin = s.origin ∧ t.origin.fanout.isOpen = false ∧
      (∃ before after, shownTo s.origin interest = before ++ signal :: after ∧
        callsAt s.seats t.heard = before ++ signal :: if signal = .finish then [] else [.cancel]) ∧
      ((∃ calls, .cancel ∉ calls ∧ callsAt s.seats t.heard = calls ++ [.cancel]) ↔ signal ≠ .finish) ∧
      (Turn s.seats (shownTo s.origin interest) true (partOf s.seats t.heard) true ↔ signal ≠ .finish) := by
  have unheard : ⟨s.seats, signal, .error (.failure cause)⟩ ∉ s.heard := fun earlier =>
    Nat.lt_irrefl _ (reach.sound.seated _ earlier)
  have truthful := (reach.next thread (.subscribe interest)).truthful
  rw [subscribes] at truthful
  rcases act_subscribe c subscribes with ⟨_, _, rfl⟩ | ⟨free, ⟨_, rfl⟩ | ⟨fault, log, rfl, rfl, broken⟩⟩
  · exact absurd fails unheard
  · rcases List.mem_append.1 fails with earlier | shown
    · exact absurd earlier unheard
    · simp [fine] at shown
  · have part : partOf s.seats (s.heard ++ log) = log := reach.sound.partOf_next broken.seated
    have calm := civil.calm truthful rfl broken.seated
    have late : ⟨s.seats, signal, .error (.failure cause)⟩ ∈ log := (List.mem_append.1 fails).resolve_left unheard
    obtain ⟨rfl, turn, before, after, reached, heard⟩ := broken.failed calm late begun own
    have calls : callsAt s.seats (s.heard ++ log) = before ++ signal :: if signal = .finish then [] else [.cancel] := by
      rw [callsAt, part, heard]
    refine ⟨rfl, rfl, free, ⟨before, after, reached, calls⟩, ?_, part.symm ▸ turn⟩
    rw [show callsAt s.seats ((s.seating thread).hearing log).heard = _ from calls]
    exact cancelled_once_iff (reached ▸ cancel_notMem_shownTo s.origin interest)

/-- Everybody fails at one kind of call, and nobody at another. -/
def failingAt (signal : Signal) : Conduct :=
  { Conduct.quiet with
    answer := fun _ _ other => if other = signal then .error (.failure (.unavailable (.reported "down"))) else .ok () }

theorem civil_failingAt (signal : Signal) (seat : Nat) : Civil (failingAt signal) seat := by
  intro site other message
  simp only [failingAt]
  split <;> exact fun same => by cases same

/-- A site where an entity with one row is live. -/
def laden (c : Conduct) : Site :=
  (enact c {} ((0, .begin) :: (0, .call 0 .start) :: bringing 0 ++ [(0, .call 0 .finish)])).2

theorem laden_reachable (c : Conduct) : Reachable c (laden c) := Run.reachable (run_enact ..) (.fresh {} {})

/-- The site after somebody joined who fails at one kind of call. -/
def refusing (signal : Signal) : Site := (act (failingAt signal) 0 (.subscribe .all) (laden (failingAt signal))).2

/-- The only row that a newcomer is shown. -/
abbrev onlyRow : Event := .update "e" keyAndValue ⟨"1", "1,x", ∅⟩

theorem newcomer_cancelled_row :
    callsAt 0 (refusing (.event onlyRow)).heard =
        [.start, .event (.reload "e" keyAndValue), .event (.block "e" keyAndValue), .event onlyRow, .cancel] ∧
      Turn 0 (shownTo (laden (failingAt (.event onlyRow))).origin .all) true (partOf 0 (refusing (.event onlyRow)).heard) true := by
  have fails : (refusing (.event onlyRow)).heard[3]? =
      some ⟨0, .event onlyRow, .error (.failure (.unavailable (.reported "down")))⟩ := rfl
  obtain ⟨_, _, _, _, _, turn⟩ := (laden_reachable (failingAt (.event onlyRow))).newcomer_cancelled_iff (civil_failingAt _ _)
    (show act (failingAt (.event onlyRow)) 0 (.subscribe .all) (laden _) = (_, refusing (.event onlyRow)) from Prod.ext rfl rfl)
    (List.mem_of_getElem? fails) (by decide) (by decide)
  exact ⟨by decide +kernel, turn.2 (by decide)⟩

/-- A newcomer that fails at the end hears no cancel. -/
theorem not_newcomer_cancelled : ¬∀ (c : Conduct) (s t : Site) (thread : Thread) (interest : Interest) (answer : Except Fault Answer)
    (signal : Signal) (cause : Failure), Reachable c s → Civil c s.seats → act c thread (.subscribe interest) s = (answer, t) →
      ⟨s.seats, signal, .error (.failure cause)⟩ ∈ t.heard → signal ≠ .start → signal ≠ .cancel →
      ∃ calls, .cancel ∉ calls ∧ callsAt s.seats t.heard = calls ++ [.cancel] := by
  intro claim
  have fails : (refusing .finish).heard[4]? = some ⟨0, .finish, .error (.failure (.unavailable (.reported "down")))⟩ := rfl
  obtain ⟨calls, _, last⟩ := claim (failingAt .finish) (laden (failingAt .finish)) (refusing .finish) 0 .all _ .finish _
    (laden_reachable _) (civil_failingAt _ _) (Prod.ext rfl rfl) (List.mem_of_getElem? fails) (by decide) (by decide)
  have heard : (callsAt 0 (refusing .finish).heard).getLast? = some .finish := by decide +kernel
  rw [show callsAt 0 (refusing .finish).heard = _ from last] at heard
  simp at heard

end Site

end ReferenceFeed
