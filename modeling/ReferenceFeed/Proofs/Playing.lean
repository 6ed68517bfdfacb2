import ReferenceFeed.Proofs.Attached
import ReferenceFeed.Proofs.Hearing

namespace ReferenceFeed

/-!
A seat that is taken by a replica, whose answers are what the others get to hear. A replica that keeps rows and follows
its entity never fails at anything that it is told of a transaction.
-/

namespace Replica

variable {ω : Type} {r : Replica String ω} {entity : String}

/-- A replica answers some calls well, one after another. -/
def Heeds (r : Replica String ω) : List Signal → Prop
  | [] => True
  | signal :: rest => (r.receive signal).answer = .ok () ∧ (r.receive signal).replica.Heeds rest

theorem Heeds.answer {before after : List Signal} {signal : Signal} (heeds : r.Heeds (before ++ signal :: after)) :
    ((r.heeding before).receive signal).answer = .ok () := by
  induction before generalizing r with
  | nil => exact heeds.1
  | cons first rest ih => exact ih heeds.2

/-- Events of its own entity are answered well while a transaction is open, and so is its end. -/
theorem heeds_events (converts : r.convert = rowOf) {s : Staging String} (opened : r.phase = .opened s) {events : List Event}
    (own : ∀ event ∈ events, event.entity = r.entity) : r.Heeds (events.map .event ++ [.finish]) := by
  induction events generalizing r s with
  | nil =>
    refine ⟨?_, trivial⟩
    simp only [receive, finish, opened]
  | cons event rest ih =>
    have received := receive_event converts opened (own event List.mem_cons_self)
    refine ⟨by rw [received], ?_⟩
    rw [received]
    have next : ({ r with phase := .opened (s.heed event) } : Replica String ω).convert = rowOf := converts
    exact ih next rfl fun other member => own other (List.mem_cons_of_mem _ member)

theorem Follows.heeds {store : Option Store} (follows : r.Follows entity store) (events : List Event) :
    r.Heeds (Site.tellings entity events) := by
  have own : ∀ event ∈ concerning entity events, event.entity = r.entity := fun event member =>
    (Site.concerning_entity event member).trans follows.named.symm
  rw [Site.tellings]
  generalize concerning entity events = told at own
  cases told with
  | nil => trivial
  | cons first rest =>
    have started : r.start = .ok { r with phase := .opened {} } := by rw [start, follows.idle]
    have received : r.receive .start = ⟨.ok (), { r with phase := .opened {} }, none, []⟩ := by rw [receive, started]
    refine ⟨by rw [received], ?_⟩
    rw [received]
    have next : ({ r with phase := .opened {} } : Replica String ω).convert = rowOf := follows.converts
    exact heeds_events next rfl own

end Replica

namespace Site

variable {c : Conduct} {ω : Type} {r : Replica String ω} {entity : String} {seat : Nat} {s t : Site}

/-- Whoever sits at a seat answers as a replica does that has received the calls so far. -/
def Plays (c : Conduct) (seat : Nat) (r : Replica String ω) : Prop :=
  ∀ site signal, c.answer site seat signal =
    (((r.heeding (callsAt seat site.heard)).receive signal).answer).mapError .failure

/-- Where the part of a seat stops, the log does. -/
theorem partOf_split {log : List Heard} {before after : List Heard} {h : Heard} (split : partOf seat log = before ++ h :: after) :
    ∃ first second, log = first ++ h :: second ∧ partOf seat first = before := by
  obtain ⟨first, others, rfl, same, rest⟩ := List.filter_eq_append_iff.1 split
  obtain ⟨between, second, rfl, elsewhere, _, _⟩ := List.filter_eq_cons_iff.1 rest
  have silent : partOf seat between = [] := partOf_eq_nil fun other member here => elsewhere other member (decide_eq_true here)
  refine ⟨first ++ between, second, by rw [List.append_assoc], ?_⟩
  rw [partOf_append, silent, List.append_nil]
  exact same

/-- A replica that answers all of some calls well does not fail at its seat. -/
theorem Plays.unfailing (plays : Plays c seat r) (truthful : Truthful c t) {calls : List Signal}
    (heeds : (r.heeding (callsAt seat s.heard)).Heeds calls) : Unfailing seat calls s t := by
  intro log heard turn
  generalize part : partOf seat log = heardThere at turn
  generalize fate : true = failed at turn
  cases turn with
  | heeded => cases fate
  | @failed before signal after fault last stops =>
    obtain ⟨first, second, rfl, same⟩ := partOf_split part
    rw [← List.append_assoc] at heard
    obtain ⟨site, then_, answers⟩ := truthful _ _ second heard
    have calls_before : callsAt seat site.heard = callsAt seat s.heard ++ before := by
      rw [then_, callsAt_append, callsAt_fine same]
    have well := (stops ▸ heeds).answer
    rw [plays, calls_before, Replica.heeding_append, well] at answers
    cases answers

/-- A replica that sits at its seat follows every transaction that takes effect, unless something strays. -/
theorem Landed.played {taken : List Event} {sub : Subscriber Nat} (landed : Landed s taken taken t) (sound : Sound s)
    (truthful : Truthful c t) (plays : Plays c sub.channel r) (attached : Attached r entity sub s)
    (inside : ¬Strays s.origin.live[entity]? (concerning entity taken)) : Attached r entity sub t := by
  have heeds := attached.follows.heeds taken
  exact landed.attached sound attached (plays.unfailing truthful heeds) inside

end Site

end ReferenceFeed
