import ReferenceFeed.Proofs.Columns
import ReferenceFeed.Proofs.Relay

namespace ReferenceFeed

/-!
The columns that are announced to somebody, and those that its later calls take to be known. An origin compares the
columns of every block with those that its entity is going to have, and those of an update in a reload only.
-/

/-- The columns that an event takes to be known. A reload makes them known. -/
def Event.presumes : Event → Option Header
  | .block _ header | .update _ header _ => some header
  | .reload _ _ | .reloadGroup _ _ _ | .remove _ _ => none

def Signal.isEvent : Signal → Bool
  | .event _ => true
  | .start | .finish | .cancel => false

/-- The columns of an entity that somebody was told to expect: when the last transaction ended, and by now. -/
structure Announcement where
  settled : Option Header := none
  current : Option Header := none
  deriving DecidableEq

namespace Announcement

/-- What a call makes of it. A transaction that is cancelled has announced nothing. -/
def after (entity : String) (a : Announcement) : Signal → Announcement
  | .event (.reload other header) => if other = entity then { a with current := some header } else a
  | .finish => { a with settled := a.current }
  | .cancel => { a with current := a.settled }
  | .start | .event _ => a

/-- What some calls announce. -/
def of (entity : String) (calls : List Signal) : Announcement := calls.foldl (after entity) {}

variable {entity : String} {a : Announcement} {event : Event}

theorem of_append (entity : String) (calls more : List Signal) :
    of entity (calls ++ more) = more.foldl (after entity) (of entity calls) := List.foldl_append

theorem after_other (other : event.entity ≠ entity) : a.after entity (.event event) = a := by
  cases event with
  | reload => exact if_neg other
  | reloadGroup | block | update | remove => rfl

theorem after_event (a : Announcement) (entity : String) (event : Event) :
    a.after entity (.event event) = ⟨a.settled, (a.after entity (.event event)).current⟩ := by
  cases event with
  | reload other header =>
    rw [after]
    split <;> rfl
  | reloadGroup | block | update | remove => rfl

end Announcement

/-- Nobody who gets these calls is ever told of entries under other columns than were announced last. -/
def Uniform (calls : List Signal) : Prop :=
  ∀ before event after header, calls = before ++ .event event :: after → event.presumes = some header →
    (Announcement.of event.entity before).current = some header

namespace Uniform

variable {calls more : List Signal} {event : Event}

theorem nil : Uniform [] := by
  intro before event after header split
  simp at split

theorem of_append (uniform : Uniform (calls ++ more)) : Uniform calls := by
  intro before event after header split presumes
  exact uniform before event (after ++ more) header (by rw [split, List.append_assoc]; rfl) presumes

/-- Calls that bring no event break nothing. -/
theorem quiet (uniform : Uniform calls) (silent : ∀ event, .event event ∉ more) : Uniform (calls ++ more) := by
  intro before event after header split presumes
  rcases List.append_eq_append_iff.1 split with ⟨middle, rfl, rest⟩ | ⟨middle, rfl, rest⟩
  · exact absurd (rest ▸ List.mem_append_right _ List.mem_cons_self) (silent event)
  · cases middle with
    | nil =>
      rw [List.nil_append] at rest
      exact absurd (rest ▸ List.mem_cons_self) (silent event)
    | cons first others =>
      cases (List.cons.inj rest).1
      exact uniform before event others header rfl presumes

theorem quiet_iff (silent : ∀ event, .event event ∉ more) : Uniform (calls ++ more) ↔ Uniform calls :=
  ⟨of_append, fun uniform => uniform.quiet silent⟩

/-- One more event is in order if it comes under the columns that were announced. -/
theorem event_iff : Uniform (calls ++ [.event event]) ↔
    Uniform calls ∧ ∀ header, event.presumes = some header → (Announcement.of event.entity calls).current = some header := by
  constructor
  · intro uniform
    exact ⟨uniform.of_append, fun header presumes => uniform calls event [] header rfl presumes⟩
  · rintro ⟨uniform, announced⟩ before other after header split presumes
    rcases List.eq_nil_or_concat after with rfl | ⟨rest, last, rfl⟩
    · obtain ⟨rfl, same⟩ := List.append_inj' split rfl
      cases List.singleton_inj.1 same
      exact announced header presumes
    · rw [List.concat_eq_append, ← List.cons_append, ← List.append_assoc] at split
      exact uniform before other rest header (List.append_inj' split rfl).1 presumes

/-- It does not matter whether it comes after a start. -/
theorem introduced_iff {intro : List Signal} (starts : intro = [] ∨ intro = [.start]) :
    Uniform (calls ++ (intro ++ [.event event])) ↔
      Uniform calls ∧ ∀ header, event.presumes = some header → (Announcement.of event.entity calls).current = some header := by
  rcases starts with rfl | rfl
  · exact event_iff
  · have silent : ∀ event, Signal.event event ∉ [Signal.start] := by simp
    rw [← List.append_assoc, event_iff, quiet_iff silent, Announcement.of_append]
    rfl

end Uniform

namespace Site

variable {seat : Nat} {calls due intro : List Signal} {part : List Heard} {failed : Bool} {event : Event}

theorem Received.well (received : Received seat due part false) : part = due.map (fine seat) := by
  cases received
  rfl

theorem Received.ne_nil (received : Received seat due part true) : part ≠ [] := by
  cases received
  simp

theorem Received.shape (received : Received seat due part failed) :
    ∃ heard ending, part.map Heard.signal = heard ++ ending ∧ heard <+: due ∧ ∀ event, .event event ∉ ending := by
  cases received with
  | heeded => exact ⟨due, [], by simp [fine, Function.comp_def], List.prefix_refl _, by simp⟩
  | @failed before signal after fault last split =>
    refine ⟨before ++ [signal], (if signal = .cancel then [] else [.cancel]), ?_, ⟨after, by rw [split]; simp⟩, ?_⟩
    · by_cases cancel : signal = .cancel <;> simp [cancel, fine, Function.comp_def]
    · by_cases cancel : signal = .cancel <;> simp [cancel]

/-- What somebody hears is in order if all that is due to it is. -/
theorem Received.uniform (received : Received seat due part failed) (uniform : Uniform (calls ++ due)) :
    Uniform (calls ++ part.map Heard.signal) := by
  obtain ⟨heard, ending, signals, ⟨rest, rfl⟩, silent⟩ := received.shape
  rw [← List.append_assoc] at uniform
  rw [signals, ← List.append_assoc]
  exact uniform.of_append.quiet silent

/-- Somebody to whom an event is due may fail before it is told. -/
theorem Received.uniform_iff (received : Received seat (intro ++ [.event event]) part failed)
    (starts : intro = [] ∨ intro = [.start]) :
    Uniform (calls ++ part.map Heard.signal) ↔ Uniform calls ∧ (.event event ∈ part.map Heard.signal →
      ∀ header, event.presumes = some header → (Announcement.of event.entity calls).current = some header) := by
  obtain ⟨heard, ending, signals, within, silent⟩ := received.shape
  rw [signals]
  rcases List.prefix_concat_iff.1 within with rfl | early
  · have told : .event event ∈ intro ++ [.event event] ++ ending := by simp
    rw [← List.append_assoc, Uniform.quiet_iff silent, Uniform.introduced_iff starts]
    exact and_congr_right fun _ => ⟨fun announced _ => announced, fun announced => announced told⟩
  · have untold : ∀ other, .event other ∉ heard ++ ending := by
      intro other member
      rcases List.mem_append.1 member with before | last
      · rcases starts with rfl | rfl <;> simpa using early.subset before
      · exact silent other last
    rw [Uniform.quiet_iff untold]
    exact (and_iff_left fun member => absurd member (untold event)).symm

/-- No other event is told to it. -/
theorem Received.any_isEvent (received : Received seat (intro ++ [.event event]) part failed) (starts : intro = [] ∨ intro = [.start]) :
    (part.map Heard.signal).any Signal.isEvent = true ↔ .event event ∈ part.map Heard.signal := by
  obtain ⟨heard, ending, signals, within, silent⟩ := received.shape
  rw [signals, List.any_eq_true]
  constructor
  · rintro ⟨signal, member, isEvent⟩
    rcases signal with _ | other | _ | _
    case event =>
      have inside : .event other ∈ heard := (List.mem_append.1 member).resolve_right (silent other)
      have here : .event other ∈ intro ++ [.event event] := within.subset inside
      have same : other = event := by rcases starts with rfl | rfl <;> simpa using here
      exact same ▸ member
    all_goals cases isEvent
  · exact fun member => ⟨_, member, rfl⟩

/-- What a subscriber is due when an event is handed to it. -/
theorem callsFor_told {interest : Interest} {event : Event} (covers : interest.covers event.entity = true) (told : List Event)
    {more : List Signal} (continues : callsFor interest (told ++ [event]) = callsFor interest told ++ more) :
    ∃ intro, more = intro ++ [.event event] ∧ (intro = [] ∨ intro = [.start]) := by
  rw [callsFor_append_of_covers told covers] at continues
  cases List.append_cancel_left continues
  split
  · exact ⟨[.start], rfl, .inr rfl⟩
  · exact ⟨[], rfl, .inl rfl⟩

end Site

namespace Stage

/-- The columns that an entity is going to have if its stage is committed. -/
def due (store : Option Store) : Option Stage → Option Header
  | some (.whole scratch _) => some scratch.header
  | some (.group _ _ _) | some (.sparse _ _) | none => store.map Store.header

variable {live : Keyed Store} {entity : String} {before : Option Stage} {event : Event} {next : Stage} {a : Announcement}

/-- What an origin is going to have it announces. -/
theorem Takes.due (takes : Takes live before event next) (current : a.current = Stage.due live[event.entity]? before) :
    (a.after event.entity (.event event)).current = Stage.due live[event.entity]? (some next) := by
  cases takes with
  | reload => exact congrArg Announcement.current (if_pos rfl)
  | reloadGroup | beginWhole | beginGroup | beginAgain | begin => exact current
  | updateWhole | updateGroup | updateSparse | removeWhole | removeGroup | removeSparse => exact current

/-- A block is taken in under these columns only. -/
theorem Takes.block_due {header : Header} (takes : Takes live before (.block entity header) next) :
    Stage.due live[entity]? before = some header := by
  cases takes with
  | beginWhole => rfl
  | beginGroup alive | beginAgain alive | begin alive => exact congrArg (Option.map Store.header) alive

theorem Reflects.due {events : List Event} {stage : Option Stage} (reflects : Reflects live entity events stage) :
    Stage.due live[entity]? stage = columnsAfter live[entity]? events := by
  cases reflects with
  | whole _ columns => exact congrArg some columns
  | untouched | group | sparse => rfl

end Stage

namespace Stages

variable {settings : OriginSettings} {live : Keyed Store} {stages next : Stages} {event told : Event} {entity : String}

/-- The columns that an entity is going to have change as they are announced. -/
theorem take_due (took : Stages.take settings live (some stages) event = .ok (told, next)) {a : Announcement}
    (current : a.current = Stage.due live[entity]? stages[entity]?) :
    (a.after entity (.event told)).current = Stage.due live[entity]? next[entity]? := by
  obtain ⟨complete, stage, rfl, takes⟩ := take_ok took
  have named := Event.completed_entity complete
  rw [Keyed.getElem?_insert]
  by_cases here : event.entity = entity
  · subst here
    rw [← named] at takes current ⊢
    rw [if_pos rfl]
    exact takes.due current
  · rw [if_neg here, Announcement.after_other (named ▸ here)]
    exact current

theorem take_block_due {header : Header} (took : Stages.take settings live (some stages) event = .ok (.block entity header, next)) :
    Stage.due live[entity]? stages[entity]? = some header := by
  obtain ⟨complete, stage, _, takes⟩ := take_ok took
  rw [← Event.completed_entity complete] at takes
  exact takes.block_due

end Stages

/-- Whether the columns of an event are compared before it is taken in: those of a block, and of an update in a reload. -/
def Stages.Compares (settings : OriginSettings) (stages : Stages) : Event → Prop
  | .block _ _ => True
  | .update entity header entry =>
    (settings.complete entity header entry).isOk = true ∧ ∃ scratch, stages[entity]? = some (.whole scratch true)
  | .reload _ _ | .reloadGroup _ _ _ | .remove _ _ => False

section Mismatch

variable {live : Keyed Store} {entity : String} {expected got : Header}

theorem checkHeader_differs (differs : got ≠ expected) :
    checkHeader entity expected got = .error (.columnMismatch entity expected got.text) := if_neg (Ne.symm differs)

theorem Stage.begin_mismatch {before : Option Stage} (due : Stage.due live[entity]? before = some expected)
    (differs : got ≠ expected) : Stage.begin live entity got before = .error (.columnMismatch entity expected got.text) := by
  rcases before with _ | ⟨scratch, begun⟩ | ⟨key, entries, begun⟩ | ⟨updates, removes⟩
  case some.whole =>
    cases due
    simp only [Stage.begin, checkHeader_differs differs]
    rfl
  all_goals
    obtain ⟨store, alive, rfl⟩ := Option.map_eq_some_iff.1 due
    simp only [Stage.begin, liveStore, alive, bind, Except.bind, checkHeader_differs differs]

/-- Columns that are compared have to be those that the entity is going to have. -/
theorem Stages.take_mismatch {settings : OriginSettings} {stages : Stages} {event : Event}
    (compares : stages.Compares settings event) (presumes : event.presumes = some got)
    (due : Stage.due live[event.entity]? stages[event.entity]? = some expected) (differs : got ≠ expected) :
    Stages.take settings live (some stages) event = .error (.columnMismatch event.entity expected got.text) := by
  cases event with
  | block entity header =>
    cases presumes
    have refused : Stage.begin live entity got stages[entity]? = _ := Stage.begin_mismatch due differs
    simp only [Stages.take, refused]
    rfl
  | update entity header entry =>
    cases presumes
    obtain ⟨completes, scratch, found⟩ := compares
    rcases completed : settings.complete entity got entry with cause | filled
    · rw [completed] at completes
      cases completes
    · change Stage.due live[entity]? stages[entity]? = some expected at due
      rw [found] at due
      cases due
      simp only [Stages.take, completed, Stages.ready, found, Stage.begun, if_true, bind, Except.bind, Stage.update,
        checkHeader_differs differs]
      rfl
  | reload | reloadGroup | remove => exact compares.elim

end Mismatch

namespace Site

/-- The columns that an entity is going to have if the transaction of a session is committed. -/
def due (s : Site) (number : Nat) (entity : String) : Option Header :=
  Stage.due s.origin.live[entity]? ((s.origin.session number).stages.bind fun stages => stages[entity]?)

/-- Once the columns of an entity are announced, nothing changes them as long as entries come under them. -/
theorem uniform_entries {entity : String} {header : Header} (events : List Event) {calls : List Signal} (uniform : Uniform calls)
    (announced : (Announcement.of entity calls).current = some header)
    (inside : ∀ event ∈ events, event.entity = entity ∧ event.presumes = some header) :
    Uniform (calls ++ events.map .event) ∧
      ∀ other, Announcement.of other (calls ++ events.map .event) = Announcement.of other calls := by
  induction events generalizing calls with
  | nil =>
    rw [List.map_nil, List.append_nil]
    exact ⟨uniform, fun _ => rfl⟩
  | cons event rest ih =>
    obtain ⟨here, presumes⟩ := inside event List.mem_cons_self
    have same : ∀ other, Announcement.of other (calls ++ [.event event]) = Announcement.of other calls := by
      intro other
      rw [Announcement.of_append]
      cases event with
      | reload => cases presumes
      | reloadGroup | block | update | remove => rfl
    have next : Uniform (calls ++ [.event event]) := Uniform.event_iff.2 ⟨uniform, fun known names => by
      rw [here, announced, ← presumes, names]⟩
    obtain ⟨whole, kept⟩ := ih next ((congrArg _ (same _)).trans announced) fun other member =>
      inside other (List.mem_cons_of_mem _ member)
    rw [List.map_cons, List.append_cons]
    exact ⟨whole, fun other => (kept other).trans (same other)⟩

/-- The events that show a store announce its columns, and come under them. -/
theorem uniform_page (store : Store) {calls : List Signal} (uniform : Uniform calls) :
    Uniform (calls ++ (Origin.snapshot store).map .event) ∧
      ∀ entity, Announcement.of entity (calls ++ (Origin.snapshot store).map .event) =
        if store.entity = entity then { Announcement.of entity calls with current := some store.header }
        else Announcement.of entity calls := by
  have marked : Uniform (calls ++ [.event (.reload store.entity store.header)]) :=
    Uniform.event_iff.2 ⟨uniform, fun header absurd => by cases absurd⟩
  have announced : ∀ entity, Announcement.of entity (calls ++ [.event (.reload store.entity store.header)]) =
      if store.entity = entity then { Announcement.of entity calls with current := some store.header }
      else Announcement.of entity calls := fun entity => Announcement.of_append ..
  have shown : (Origin.snapshot store).map Signal.event =
      .event (.reload store.entity store.header) :: (Origin.snapshot store).tail.map .event := rfl
  have inside : ∀ event ∈ (Origin.snapshot store).tail, event.entity = store.entity ∧ event.presumes = some store.header := by
    intro event member
    rcases List.mem_cons.1 member with rfl | later
    · exact ⟨rfl, rfl⟩
    · obtain ⟨entry, _, rfl⟩ := List.mem_map.1 later
      exact ⟨rfl, rfl⟩
  obtain ⟨whole, kept⟩ := uniform_entries _ marked (by rw [announced, if_pos rfl]) inside
  rw [shown, List.append_cons]
  exact ⟨whole, fun entity => (kept entity).trans (announced entity)⟩

theorem uniform_pages {live : Keyed Store} (stores : SoundStores live) (entities : List String) {calls : List Signal}
    (present : ∀ entity ∈ entities, ∃ store, live[entity]? = some store) (uniform : Uniform calls) :
    Uniform (calls ++ (snapshots live entities).map .event) ∧
      ∀ entity, Announcement.of entity (calls ++ (snapshots live entities).map .event) =
        if entity ∈ entities then { Announcement.of entity calls with current := live[entity]?.map Store.header }
        else Announcement.of entity calls := by
  induction entities generalizing calls with
  | nil =>
    rw [snapshots, List.flatMap_nil, List.map_nil, List.append_nil]
    exact ⟨uniform, fun _ => rfl⟩
  | cons first rest ih =>
    obtain ⟨store, found⟩ := present first List.mem_cons_self
    have named := (stores first store found).1
    obtain ⟨page, announced⟩ := uniform_page store uniform
    obtain ⟨whole, kept⟩ := ih (fun entity member => present entity (List.mem_cons_of_mem _ member)) page
    rw [snapshots_cons found, List.map_append, ← List.append_assoc]
    refine ⟨whole, fun entity => ?_⟩
    rw [kept, announced, named]
    by_cases later : entity ∈ rest
    · by_cases here : first = entity <;> simp [later, here]
    · by_cases here : first = entity
      · subst here
        simp [later, found]
      · simp [later, here, Ne.symm here]

/-- A newcomer is shown the columns of all that it wants to hear of, and nothing under others. -/
theorem uniform_shown {o : Origin Nat} (stores : SoundStores o.live) (interest : Interest) :
    Uniform (shownTo o interest) ∧ ∀ entity, interest.covers entity = true →
      Announcement.of entity (shownTo o interest) = ⟨o.live[entity]?.map Store.header, o.live[entity]?.map Store.header⟩ := by
  have listed : ∀ entity, entity ∈ o.entities.filter interest.covers ↔ entity ∈ o.live ∧ interest.covers entity = true := by
    intro entity
    rw [List.mem_filter, Origin.entities, Std.ExtTreeMap.mem_keys]
  have present : ∀ entity ∈ o.entities.filter interest.covers, ∃ store, o.live[entity]? = some store := fun entity member =>
    ⟨_, Std.ExtTreeMap.getElem?_eq_some_getElem ((listed entity).1 member).1⟩
  have absent : ∀ entity, interest.covers entity = true → entity ∉ o.entities.filter interest.covers → o.live[entity]? = none :=
    fun entity covers unlisted => Std.ExtTreeMap.getElem?_eq_none fun alive => unlisted ((listed entity).2 ⟨alive, covers⟩)
  rw [shownTo]
  generalize o.entities.filter interest.covers = entities at present absent ⊢
  rcases entities with _ | ⟨first, rest⟩
  · refine ⟨Uniform.nil, fun entity covers => ?_⟩
    rw [absent entity covers List.not_mem_nil]
    rfl
  · obtain ⟨store, found⟩ := present first List.mem_cons_self
    have begun : Uniform [.start] := Uniform.nil.quiet (by simp)
    obtain ⟨whole, announced⟩ := uniform_pages stores (first :: rest) present begun
    rw [replayCalls_cons found, ← List.singleton_append]
    refine ⟨whole.quiet (by simp), fun entity covers => ?_⟩
    rw [Announcement.of_append, announced]
    by_cases member : entity ∈ first :: rest
    · rw [if_pos member]
      rfl
    · rw [if_neg member, absent entity covers member]
      rfl

end Site

end ReferenceFeed
