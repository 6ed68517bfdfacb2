import ReferenceFeed.Proofs.Provenance
import ReferenceFeed.Proofs.Serving
import ReferenceFeed.Proofs.Width

namespace ReferenceFeed

/-!
The groups that entries are filed under. Whichever way an entry comes into a store, the groups it carries are those of its columns,
and it carries every group that is declared for its entity and has a value there.
-/

open OriginSettings (fieldOf)

/-- An entry that carries no group value but that of the column. -/
def Entry.Honest (header : Header) (entry : Entry) : Prop :=
  ∃ fields, entry.fields = .ok fields ∧
    ∀ group value : String, entry.groups[group]? = some value → fieldOf header fields group = some value

/-- An entry that carries the values of all groups that are declared for it. -/
def Entry.Filed (settings : OriginSettings) (entity : String) (header : Header) (entry : Entry) : Prop :=
  ∃ fields, entry.fields = .ok fields ∧
    (∀ group value : String, entry.groups[group]? = some value → fieldOf header fields group = some value) ∧
    ∀ group, settings.declares entity group = true → entry.groups[group]? = fieldOf header fields group

namespace OriginSettings

variable {settings : OriginSettings} {entity : String} {header : Header} {entry filled : Entry} {fields : List Field}

/-- Groups that are filled in one after another. -/
theorem groups_foldl (missing : List String) (valueOf : String → Field) (entry : Entry) (group : String) :
    (missing.foldl (fun entry group =>
      match valueOf group with
      | some value => entry.withGroup group value
      | none => entry) entry).groups[group]? =
      if group ∈ missing then (valueOf group).or entry.groups[group]? else entry.groups[group]? := by
  induction missing generalizing entry with
  | nil => rfl
  | cons first rest ih =>
    rw [List.foldl_cons, ih]
    by_cases here : first = group
    · subst here
      rcases valueOf first with _ | value
      · simp
      · simp [Entry.withGroup]
    · have kept : (match valueOf first with
          | some value => entry.withGroup first value
          | none => entry).groups[group]? = entry.groups[group]? := by
        rcases valueOf first with _ | value
        · rfl
        · exact (Keyed.getElem?_insert _ _ _ _).trans (if_neg here)
      rw [kept]
      simp [List.mem_cons, Ne.symm here]

/-- What an entry is completed to carries the group values it came with, and for declared groups those of its columns. -/
theorem complete_groups (complete : settings.complete entity header entry = .ok filled) (splits : entry.fields = .ok fields)
    (group : String) : filled.groups[group]? =
      (entry.groups[group]?).or (if settings.declares entity group then fieldOf header fields group else none) := by
  have folds : filled = ((settings.groupsOf entity).filter (lacks header entry)).foldl (fun entry group =>
      match fieldOf header fields group with
      | some value => entry.withGroup group value
      | none => entry) entry := by
    unfold OriginSettings.complete at complete
    split at complete
    · next none =>
      cases complete
      rw [none]
      rfl
    · rw [splits] at complete
      cases complete
      rfl
  -- What is filled in are the declared groups that the entry lacks and that are columns.
  have missing : group ∈ (settings.groupsOf entity).filter (lacks header entry) ↔
      settings.declares entity group = true ∧ entry.groups[group]? = none ∧ (header.position? group).isSome = true := by
    rw [List.mem_filter, declares, List.contains_iff_mem, lacks, Bool.and_eq_true, Bool.not_eq_true',
      Std.ExtTreeMap.contains_eq_isSome_getElem?, Option.isSome_eq_false_iff, Option.isNone_iff_eq_none]
  rw [folds, groups_foldl]
  by_cases lacking : group ∈ (settings.groupsOf entity).filter (lacks header entry)
  · obtain ⟨declared, absent, _⟩ := missing.1 lacking
    rw [if_pos lacking, absent, if_pos declared, Option.or_none, Option.none_or]
  · rw [if_neg lacking]
    rcases came : entry.groups[group]? with _ | value
    · by_cases declared : settings.declares entity group = true
      · have unplaced : header.position? group = none := by
          rw [← Option.not_isSome_iff_eq_none]
          exact fun placed => lacking (missing.2 ⟨declared, came, placed⟩)
        rw [if_pos declared, fieldOf, unplaced]
        rfl
      · rw [if_neg declared]
        rfl
    · rfl

/-- An honest entry is filed when it is completed. -/
theorem filed_of_complete (complete : settings.complete entity header entry = .ok filled) (honest : entry.Honest header) :
    filled.Filed settings entity header := by
  obtain ⟨fields, splits, own⟩ := honest
  have groups := complete_groups complete splits
  have row := (complete_filled complete).row
  refine ⟨fields, by rw [Entry.fields, row]; exact splits, fun group value carried => ?_, fun group declared => ?_⟩
  · rw [groups] at carried
    rcases came : entry.groups[group]? with _ | given
    · rw [came, Option.none_or] at carried
      split at carried
      · exact carried
      · cases carried
    · rw [came] at carried
      cases carried
      exact own group _ came
  · rw [groups, if_pos declared]
    rcases came : entry.groups[group]? with _ | given
    · rfl
    · exact (own group given came).symm

end OriginSettings

namespace Event

/-- An event under the columns of its entity, with an honest entry if it has one. -/
def Honest (columns : String → Option Header) : Event → Prop
  | .update entity header entry => columns entity = some header ∧ entry.Honest header
  | .reload _ _ | .reloadGroup _ _ _ | .block _ _ | .remove _ _ => True

/-- An event under the columns of its entity, with an entry that is filed if it has one. -/
def Filed (settings : OriginSettings) (columns : String → Option Header) : Event → Prop
  | .update entity header entry => columns entity = some header ∧ entry.Filed settings entity header
  | .reload _ _ | .reloadGroup _ _ _ | .block _ _ | .remove _ _ => True

theorem Honest.completed {settings : OriginSettings} {columns : String → Option Header} {event told : Event}
    (honest : event.Honest columns) (complete : event.completed settings = .ok told) : told.Filed settings columns := by
  cases event with
  | update entity header entry =>
    obtain ⟨filled, fills, rfl⟩ := map_ok complete
    exact ⟨honest.1, OriginSettings.filed_of_complete fills honest.2⟩
  | reload | reloadGroup | block | remove =>
    cases complete
    trivial

end Event

theorem Entry.Filed.honest {settings : OriginSettings} {entity : String} {header : Header} {entry : Entry}
    (filed : entry.Filed settings entity header) : entry.Honest header := by
  obtain ⟨fields, splits, own, _⟩ := filed
  exact ⟨fields, splits, own⟩

/-- The entries of a table carry the values of its columns. -/
theorem Table.Regular.content_honest {t : Table} (regular : t.Regular) {entry : Entry} (member : entry ∈ t.content) :
    entry.Honest t.header := by
  obtain ⟨fields, splits, _, groups, _⟩ := regular.content_spelled member
  refine ⟨_, splits, fun group value carried => ?_⟩
  rw [groups] at carried
  split at carried
  · exact carried
  · cases carried

theorem Catalogue.Regular.fetch_update {c : Catalogue} (regular : c.Regular) {request : Request} {entity : String} {header : Header}
    {entry : Entry} (sends : .event (.update entity header entry) ∈ (c.fetch request).signals) :
    c.header? entity = some header ∧ entry.Honest header := by
  unfold Catalogue.fetch at sends
  split at sends
  · cases sends
  · next t found =>
    have found := table_ok found
    have whole := regular request.entity t found
    obtain ⟨rfl, rfl, listed⟩ := whole.fetch_update sends
    exact ⟨Catalogue.header?_table found, whole.content_honest listed⟩

/-- The entries of claims carry the values of their columns. -/
theorem Claims.ofRows_honest {settings : OriginSettings} {entity : String} {header : Header} {rows : List String} {claims : Claims}
    (claimed : ofRows settings entity header rows = .ok claims) : ∀ entry ∈ claims.entries, entry.Honest header := by
  obtain ⟨read, all, claimed⟩ := bind_ok claimed
  cases claimed
  intro entry member
  obtain ⟨⟨id, asserted⟩, inRead, picked⟩ := List.mem_filterMap.1 member
  obtain ⟨row, _, one⟩ := mapM_ok all _ inRead
  unfold entryOf at one
  split at one
  · cases one
  · cases one
    cases picked
  · split at one
    · obtain ⟨filled, completes, same⟩ := map_ok one
      cases same
      cases picked
      refine (OriginSettings.filed_of_complete completes ⟨_, Row.split_render _ _, fun group value carried => ?_⟩).honest
      rw [Std.ExtTreeMap.getElem?_empty] at carried
      cases carried
    · cases one
  · cases one

namespace Site

/-- Whatever may be brought is under the columns of its table and honest, where stores are under these columns as well. -/
theorem Sourced.honest {s : Site} {event : Event} (sourced : Sourced s event) (regular : s.catalogue.Regular) (fitting : Fitting s) :
    event.Honest s.catalogue.header? := by
  cases sourced with
  | sent sends =>
    cases event with
    | update => exact regular.fetch_update sends
    | reload | reloadGroup | block | remove => trivial
  | found alive sends =>
    have known := fitting _ _ alive
    obtain ⟨columns, honest⟩ := regular.fetch_update sends
    cases known.symm.trans columns
    exact ⟨known, honest⟩
  | claimed alive claims member => exact ⟨fitting _ _ alive, Claims.ofRows_honest claims _ member⟩
  | block | remove => trivial

/-- A site with no transaction open, over regular tables that its stores fit, where every live entry is filed. -/
structure Filing (settings : OriginSettings) (s : Site) : Prop where
  supplied : Supplied s
  regular : s.catalogue.Regular
  steady : s.origin.settings = settings
  filed : ∀ (entity : String) (store : Store), s.origin.live[entity]? = some store →
    ∀ (id : String) (entry : Entry), store.get? id = some entry → entry.Filed settings entity store.header

variable {c : Conduct} {s t : Site} {settings : OriginSettings} {action : Action} {steps : List Step}

theorem filing_overTables (settings : OriginSettings) (changes : List Catalogue.Mutation) :
    Filing settings (overTables settings changes) where
  supplied := supplied_overTables settings changes
  regular := Catalogue.Made.regular ⟨changes, rfl⟩
  steady := rfl
  filed entity store alive := by
    rw [overTables, Std.ExtTreeMap.getElem?_empty] at alive
    cases alive

theorem Filing.on (filing : Filing settings s) (thread : Thread) : Filing settings { s with thread } :=
  ⟨filing.supplied.on thread, filing.regular, filing.steady, filing.filed⟩

/-- What a transaction leaves was filed before, or is filed as it is told. -/
theorem Filing.landed (filing : Filing settings s) {taken : List Event} (landed : Landed s taken taken t) (supplied : Supplied t)
    (same : t.catalogue = s.catalogue) (stems : ∀ told ∈ taken, Stems s.begun told) : Filing settings t := by
  refine ⟨supplied, same ▸ filing.regular, landed.applied.settings.trans filing.steady, ?_⟩
  intro entity store alive id entry found
  rcases landed.entry_origin filing.supplied.sound alive found with ⟨header, member, _⟩ | ⟨old, was, columns, held⟩
  · obtain ⟨event, sourced, complete⟩ := stems _ member
    have told := (sourced.honest filing.regular filing.supplied.fitting).completed complete
    have known := supplied.fitting entity store alive
    rw [same] at known
    cases known.symm.trans told.1
    rw [← filing.steady]
    exact told.2
  · rw [columns]
    exact filing.filed entity old was id entry held

theorem Filing.perform (filing : Filing settings s) (tabled : Tabled c) (tame : action.Tame s.catalogue) :
    Filing settings (Flow.effect (Site.perform c action) s).2 := by
  have supplied := filing.supplied.perform tabled tame
  rcases isWhole : action.isWhole with _ | _
  · have beside := beside_perform (c := c) s tame isWhole
    refine ⟨supplied, ?_, beside.settings.trans filing.steady, fun entity store alive => ?_⟩
    · rcases beside.catalogue with same | ⟨change, same⟩ <;> rw [same]
      · exact filing.regular
      · exact filing.regular.mutate change
    · exact filing.filed entity store (beside.live ▸ alive)
  · have same : (Flow.effect (Site.perform c action) s).2.catalogue = s.catalogue := (Sending.whole isWhole s).catalogue
    obtain ⟨α, operation, answer, asks, ⟨fault, fails⟩ | ⟨producer, stems, runs⟩⟩ := tabled.perform_stems (s := s) isWhole
    · rw [asks, Flow.effect_map, fails]
      exact filing
    · rw [asks, Flow.effect_map, runs] at supplied same ⊢
      obtain ⟨taken, after, ⟨value, ends, landed, stems⟩ | ⟨fault, ends, abandoned, _⟩⟩ :=
        filing.supplied.sound.effect_run (c := c) filing.supplied.free stems
      · rw [ends] at supplied same ⊢
        exact filing.landed landed supplied same stems
      · rw [ends] at supplied same ⊢
        refine ⟨supplied, same ▸ filing.regular, abandoned.unchanged.settings.trans filing.steady, fun entity store alive => ?_⟩
        exact filing.filed entity store (abandoned.unchanged.live ▸ alive)

theorem Filing.run (run : Run c s steps t) (tabled : Tabled c) (tame : ∀ step ∈ steps, step.action.Tame step.before.catalogue)
    (filing : Filing settings s) : Filing settings t :=
  run.kept (Filing settings) filing tame fun step last before => (before.on step.thread).perform tabled last

end Site

end ReferenceFeed
