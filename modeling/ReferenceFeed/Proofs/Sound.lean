import ReferenceFeed.Proofs.Commitment
import ReferenceFeed.Proofs.Session

namespace ReferenceFeed

/-!
What is true of a site at all times. Stores are sound and kept under the names of their entities, at most one
session has a transaction open and then holds the fan-out, and no two subscribers share a number or a seat.
-/

/-- Subscribers can be told apart, by number and by seat. -/
structure Crowd (fanout : Fanout Nat) (seats : Nat) : Prop where
  numbers : (fanout.subscribers.map Subscriber.id).Nodup
  apart : (fanout.subscribers.map Subscriber.channel).Nodup
  numbered : ∀ sub ∈ fanout.subscribers, sub.id < fanout.nextId
  seated : ∀ sub ∈ fanout.subscribers, sub.channel < seats
  inside : ∀ t, fanout.transaction = some t → ∀ sub ∈ t.subscribers, sub.channel < seats

namespace Crowd

variable {fanout : Fanout Nat} {seats : Nat}

theorem dropping (crowd : Crowd fanout seats) (lost : List Nat) : Crowd (fanout.dropping lost) seats where
  numbers := crowd.numbers.sublist (List.filter_sublist.map _)
  apart := crowd.apart.sublist (List.filter_sublist.map _)
  numbered sub member := crowd.numbered sub (List.mem_filter.1 member).1
  seated sub member := crowd.seated sub (List.mem_filter.1 member).1
  inside t held := by
    obtain ⟨before, was, rfl⟩ := Option.map_eq_some_iff.1 held
    exact crowd.inside before was

/-- Another transaction among the same subscribers. -/
theorem during (crowd : Crowd fanout seats) {t : Transaction Nat} (among : ∀ sub ∈ t.subscribers, sub.channel < seats) :
    Crowd { fanout with transaction := some t } seats where
  numbers := crowd.numbers
  apart := crowd.apart
  numbered := crowd.numbered
  seated := crowd.seated
  inside other held := by
    cases held
    exact among

theorem closed (crowd : Crowd fanout seats) : Crowd fanout.closed seats where
  numbers := crowd.numbers
  apart := crowd.apart
  numbered := crowd.numbered
  seated := crowd.seated
  inside t held := by cases held

/-- A subscriber that is admitted with a new seat. -/
theorem admitting (crowd : Crowd fanout seats) (interest : Interest) :
    Crowd (fanout.admitting interest seats) (seats + 1) where
  numbers := by
    rw [Fanout.admitting, List.map_append]
    refine List.nodup_append.2 ⟨crowd.numbers, List.nodup_singleton _, ?_⟩
    rintro id old _ new rfl
    obtain ⟨sub, member, rfl⟩ := List.mem_map.1 old
    have below := crowd.numbered sub member
    have same : sub.id = fanout.nextId := List.mem_singleton.1 new
    omega
  apart := by
    rw [Fanout.admitting, List.map_append]
    refine List.nodup_append.2 ⟨crowd.apart, List.nodup_singleton _, ?_⟩
    rintro seat old _ new rfl
    obtain ⟨sub, member, rfl⟩ := List.mem_map.1 old
    have below := crowd.seated sub member
    have same : sub.channel = seats := List.mem_singleton.1 new
    omega
  numbered sub member := by
    rcases List.mem_append.1 member with old | new
    · have below := crowd.numbered sub old
      exact Nat.lt_succ_of_lt below
    · rw [List.mem_singleton.1 new]
      exact Nat.lt_succ_self _
  seated sub member := by
    rcases List.mem_append.1 member with old | new
    · exact Nat.lt_succ_of_lt (crowd.seated sub old)
    · rw [List.mem_singleton.1 new]
      exact Nat.lt_succ_self _
  inside t held sub member := Nat.lt_succ_of_lt (crowd.inside t held sub member)

theorem more (crowd : Crowd fanout seats) : Crowd fanout (seats + 1) where
  numbers := crowd.numbers
  apart := crowd.apart
  numbered := crowd.numbered
  seated sub member := Nat.lt_succ_of_lt (crowd.seated sub member)
  inside t held sub member := Nat.lt_succ_of_lt (crowd.inside t held sub member)

theorem without (crowd : Crowd fanout seats) {kept : List (Subscriber Nat)} (sublist : kept.Sublist fanout.subscribers) :
    Crowd { fanout with subscribers := kept } seats where
  numbers := crowd.numbers.sublist (sublist.map _)
  apart := crowd.apart.sublist (sublist.map _)
  numbered sub member := crowd.numbered sub (sublist.mem member)
  seated sub member := crowd.seated sub (sublist.mem member)
  inside := crowd.inside

end Crowd

/-- Stores are sound and kept under the names of their entities. -/
def SoundStores (live : Keyed Store) : Prop :=
  ∀ (entity : String) (store : Store), live[entity]? = some store → store.entity = entity ∧ store.Sound

theorem SoundStores.insert {live : Keyed Store} (sound : SoundStores live) {entity : String} {store : Store}
    (named : store.entity = entity) (whole : store.Sound) : SoundStores (live.insert entity store) := by
  intro other found atOther
  rw [Keyed.getElem?_insert] at atOther
  split at atOther
  · next same =>
    cases atOther
    exact ⟨named.trans same, whole⟩
  · exact sound other found atOther

/-- A commit leaves sound stores. -/
theorem Stages.Reflect.settled_sound {live : Keyed Store} {stages : Stages} {taken : List Event}
    (reflect : Stages.Reflect live stages taken) (sound : SoundStores live) {entity : String} {store : Store}
    (settled : stages.settled live entity = some store) : store.entity = entity ∧ store.Sound := by
  have reflects := reflect entity
  rw [Stages.settled] at settled
  generalize stages[entity]? = stage at reflects settled
  generalize concerning entity taken = events at reflects
  cases reflects with
  | untouched => exact sound entity store settled
  | whole named columns whole =>
    cases settled
    exact ⟨named, whole⟩
  | group alive =>
    rw [alive] at settled
    cases settled
    obtain ⟨named, whole⟩ := sound entity _ alive
    exact ⟨(Store.replaceGroup_entity ..).trans named, whole.replaceGroup _ _⟩
  | sparse alive =>
    rw [alive] at settled
    cases settled
    obtain ⟨named, whole⟩ := sound entity _ alive
    exact ⟨(Store.apply_entity ..).trans named, whole.apply _ _⟩

namespace Site

structure Sound (s : Site) : Prop where
  stores : SoundStores s.origin.live
  numbered : ∀ number, s.origin.nextSession ≤ number → s.origin.sessions[number]? = none
  holds : ∀ number, (s.origin.session number).holds = (s.origin.session number).stages.isSome
  alone : ∀ number other, (s.origin.session number).holds = true → (s.origin.session other).holds = true → number = other
  claimed : ∀ number, (s.origin.session number).holds = true → s.origin.fanout.isOpen = true
  staged : ∀ number stages, (s.origin.session number).stages = some stages →
    ∃ taken, Stages.Reflect s.origin.live stages taken
  crowd : Crowd s.origin.fanout s.seats
  seated : ∀ h ∈ s.heard, h.seat < s.seats

/-- No session has a transaction open. -/
def Idle (s : Site) : Prop := ∀ number, (s.origin.session number).holds = false

theorem Sound.fresh (settings : OriginSettings) (catalogue : Catalogue) :
    Sound { origin := { settings }, catalogue } := by
  have idle : ∀ number, ({ settings } : Origin Nat).session number = {} := by
    intro number
    simp only [Origin.session, Std.ExtTreeMap.getElem?_empty, Option.getD_none]
  refine ⟨?_, ?_, ?_, ?_, ?_, ?_, ⟨?_, ?_, ?_, ?_, ?_⟩, ?_⟩
  · intro entity store found
    rw [Std.ExtTreeMap.getElem?_empty] at found
    cases found
  · intro number _
    exact Std.ExtTreeMap.getElem?_empty
  · intro number
    rw [idle]
    rfl
  · intro number other holds
    rw [idle] at holds
    cases holds
  · intro number holds
    rw [idle] at holds
    cases holds
  · intro number stages found
    rw [idle] at found
    cases found
  · exact List.nodup_nil
  · exact List.nodup_nil
  · exact List.forall_mem_nil _
  · exact List.forall_mem_nil _
  · intro t absurd
    cases absurd
  · exact List.forall_mem_nil _

variable {s t : Site} {number : Nat}

theorem session_keeping (s : Site) (number other : Nat) (session : Session) :
    (s.keeping number session).origin.session other = if number = other then session else s.origin.session other :=
  Origin.session_withSession _ _ _ _

theorem session_forgetting (s : Site) (number other : Nat) :
    (s.forgetting number).origin.session other = if number = other then {} else s.origin.session other := by
  simp only [forgetting, Origin.session, Keyed.getElem?_erase]
  split <;> rfl

/-- Whether a session is put to rest or forgotten, there is no transaction then if it was the one that held it. -/
theorem Sound.idle_without (sound : Sound s) (holds : (s.origin.session number).holds = true)
    (others : ∀ other, t.origin.session other = if number = other then {} else s.origin.session other) : Idle t := by
  intro other
  rw [others]
  split
  · rfl
  · next different =>
    rw [Bool.eq_false_iff]
    exact fun also => different (sound.alone number other holds also)

/-- A session changes, and everything else stays. -/
theorem Sound.keeping (sound : Sound s) (known : number < s.origin.nextSession) {session : Session}
    (holds : session.holds = session.stages.isSome)
    (alone : session.holds = true → (s.origin.session number).holds = true ∨ Idle s ∧ s.origin.fanout.isOpen = true)
    (staged : ∀ stages, session.stages = some stages → ∃ taken, Stages.Reflect s.origin.live stages taken) :
    Sound (s.keeping number session) where
  stores := sound.stores
  numbered other above := by
    have different : number ≠ other := by
      have above : s.origin.nextSession ≤ other := above
      omega
    change (s.origin.sessions.insert number session)[other]? = none
    rw [Keyed.getElem?_insert, if_neg different]
    exact sound.numbered other above
  holds other := by
    rw [session_keeping]
    split
    · exact holds
    · exact sound.holds other
  alone one other := by
    rw [session_keeping, session_keeping]
    intro first second
    split at first <;> split at second
    · omega
    · next same different =>
      rcases alone first with before | ⟨idle, _⟩
      · exact same ▸ sound.alone number other before second
      · exact absurd second (by rw [idle other]; decide)
    · next different same =>
      rcases alone second with before | ⟨idle, _⟩
      · exact same ▸ sound.alone one number first before
      · exact absurd first (by rw [idle one]; decide)
    · exact sound.alone one other first second
  claimed other := by
    rw [session_keeping]
    intro held
    split at held
    · rcases alone held with before | ⟨_, is_open⟩
      · exact sound.claimed number before
      · exact is_open
    · exact sound.claimed other held
  staged other stages := by
    rw [session_keeping]
    intro found
    split at found
    · exact staged stages found
    · exact sound.staged other stages found
  crowd := sound.crowd
  seated := sound.seated

theorem Sound.resting (sound : Sound s) (known : number < s.origin.nextSession) : Sound (s.keeping number {}) :=
  sound.keeping known rfl (fun held => by cases held) (fun stages found => by cases found)

/-- Sessions may come to rest while everything else stays. -/
theorem Sound.of_rested (sound : Sound s) (live : t.origin.live = s.origin.live) (fanout : t.origin.fanout = s.origin.fanout)
    (seats : t.seats = s.seats) (heard : t.heard = s.heard)
    (numbered : ∀ number, t.origin.nextSession ≤ number → t.origin.sessions[number]? = none)
    (rested : ∀ number, t.origin.session number = s.origin.session number ∨ t.origin.session number = {}) : Sound t := by
  have held : ∀ number, (t.origin.session number).holds = true → (s.origin.session number).holds = true := by
    intro number holds
    rcases rested number with same | rest
    · exact same ▸ holds
    · rw [rest] at holds
      cases holds
  refine ⟨live ▸ sound.stores, numbered, fun number => ?_, fun one other first second => ?_, fun number holds => ?_,
    fun number stages found => ?_, fanout ▸ seats ▸ sound.crowd, heard ▸ seats ▸ sound.seated⟩
  · rcases rested number with same | rest
    · exact same ▸ sound.holds number
    · rw [rest]
      rfl
  · exact sound.alone one other (held one first) (held other second)
  · exact fanout ▸ sound.claimed number (held number holds)
  · rcases rested number with same | rest
    · exact live ▸ sound.staged number stages (same ▸ found)
    · rw [rest] at found
      cases found

theorem Sound.forgetting (sound : Sound s) (number : Nat) : Sound (s.forgetting number) := by
  refine sound.of_rested rfl rfl rfl rfl (fun other above => ?_) fun other => ?_
  · change (s.origin.sessions.erase number)[other]? = none
    rw [Keyed.getElem?_erase]
    split
    · rfl
    · exact sound.numbered other above
  · rw [session_forgetting]
    split
    · exact .inr rfl
    · exact .inl rfl

/-- The fan-out changes, and some calls are made. -/
theorem Sound.speaking (sound : Sound s) {fanout : Fanout Nat} {log : List Heard} (crowd : Crowd fanout s.seats)
    (claimed : ∀ number, (s.origin.session number).holds = true → fanout.isOpen = true)
    (seated : ∀ h ∈ log, h.seat < s.seats) : Sound ((s.withFanout fanout).hearing log) where
  stores := sound.stores
  numbered := sound.numbered
  holds := sound.holds
  alone := sound.alone
  claimed := claimed
  staged := sound.staged
  crowd := crowd
  seated h member := by
    rcases List.mem_append.1 member with before | now
    · exact sound.seated h before
    · exact seated h now

/-- Stores change while nothing is staged. -/
theorem Sound.committing (sound : Sound s) (idle : Idle s) {live : Keyed Store} {prepared : Prepared}
    (stores : SoundStores (prepared.swaps.foldl (fun live store => live.insert store.entity store) live)) :
    Sound (s.committing live prepared) where
  stores := stores
  numbered := sound.numbered
  holds := sound.holds
  alone := sound.alone
  claimed := sound.claimed
  staged number stages found := by
    have holds := sound.holds number
    have found : (s.origin.session number).stages = some stages := found
    rw [idle, found] at holds
    cases holds
  crowd := sound.crowd
  seated := sound.seated

end Site

end ReferenceFeed
