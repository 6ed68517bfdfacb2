import ReferenceFeed.Proofs.Filing
import ReferenceFeed.Proofs.Refresh

namespace ReferenceFeed

/-!
Reloading an entity group value by group value. In between, rows that have moved from one value to another may be missing or may
be there already; once all values were reloaded, in whatever order, the store is the one that a full reload leaves.
-/

open OriginSettings (fieldOf)

section Filling

variable {settings : OriginSettings} {entity : String} {header : Header} {entry : Entry}

/-- What is filled in does not touch a group value that the entry has from its columns. -/
theorem OriginSettings.fill_groups {fields : List Field} {group : String} (splits : entry.fields = .ok fields)
    (carried : entry.groups[group]? = fieldOf header fields group) :
    (settings.fill entity header entry).groups[group]? = entry.groups[group]? := by
  unfold OriginSettings.fill
  rcases complete : settings.complete entity header entry with fault | filled
  · rfl
  · refine (complete_groups complete splits group).trans ?_
    rw [carried]
    split
    · exact Option.or_self
    · exact Option.or_none

end Filling

namespace Table

variable {t : Table} {settings : OriginSettings} {entity group : String} {key : GroupValue} {id : String}

/-- All that a table has of a group value. -/
def contentOf (t : Table) (key : GroupValue) : List Entry := t.content.filter fun entry => entry.groups[key.group]? = some key.value

theorem Sound.contentOf_written (sound : t.Sound) (key : GroupValue) :
    ∀ entry ∈ t.contentOf key, entry.Written t.header ∧ entry.groups[key.group]? = some key.value := by
  intro entry member
  obtain ⟨listed, holds⟩ := List.mem_filter.1 member
  exact ⟨sound.content_written entry listed, of_decide_eq_true holds⟩

/-- The group value of a line is that of its column. -/
theorem Regular.lineFor_group (regular : t.Regular) (grouped : t.groups.contains group = true) {entry : Entry}
    (sent : t.sentFor id = some entry) : (settings.fill entity t.header entry).groups[group]? = entry.groups[group]? := by
  obtain rfl := sentFor_id sent
  obtain ⟨fields, splits, _, groups, _⟩ := regular.content_spelled (mem_content.2 sent)
  exact OriginSettings.fill_groups splits (by rw [groups, if_pos grouped])

/-- The lines with a group value that are brought, by their ids. -/
theorem Regular.lastOf_contentOf (regular : t.Regular) (settings : OriginSettings) (entity : String)
    (grouped : t.groups.contains key.group = true) (id : String) :
    lastOf Entry.id ((t.contentOf key).map (settings.fill entity t.header)) id =
      (t.lineFor settings entity id).filter fun entry => entry.groups[key.group]? = some key.value := by
  rw [lastOf_filled, contentOf, lastOf_filter_of_nodup t.content_nodup, lastOf_content, lineFor]
  rcases sent : t.sentFor id with _ | entry
  · rfl
  · have same : (settings.fill entity t.header entry).groups[key.group]? = entry.groups[key.group]? :=
      regular.lineFor_group grouped sent
    rw [Option.map_some, Option.filter_some, Option.filter_some]
    simp only [same]
    split <;> rfl

end Table

namespace Site

variable {c : Conduct} {s t u : Site} {settings : OriginSettings} {entity group : String} {old : Store} {table : Table}
  {thread : Thread} {key : GroupValue} {told : List Event} {next : Stages}

/-- The reload of a group value that takes effect puts its lines in the place of those that had the value. -/
theorem Landed.regrouped (landed : Landed s told told t) (sound : Sound s) (alive : s.origin.live[entity]? = some old)
    (regular : table.Regular) (grouped : table.groups.contains key.group = true)
    (absorbs : Stages.Absorbs s.origin.settings s.origin.live ∅
      (replacing (.reloadGroup entity key.group key.value) entity table.header (table.contentOf key)) told next) :
    ∃ new, t.origin.live[entity]? = some new ∧ new.entity = old.entity ∧ new.header = old.header ∧
      (∀ id, new.get? id =
        ((table.lineFor s.origin.settings entity id).filter fun entry => entry.groups[key.group]? = some key.value).or
          ((old.get? id).filter fun entry => entry.groups[key.group]? ≠ some key.value)) ∧
      ∀ other, entity ≠ other → t.origin.live[other]? = s.origin.live[other]? := by
  obtain rfl := absorbs.told_replacing rfl
  have own : (Event.reloadGroup entity key.group key.value).entity = entity := rfl
  have others : ∀ other, entity ≠ other → t.origin.live[other]? = s.origin.live[other]? := fun other differs =>
    landed.unspoken sound (by rw [concerning_replacing own, if_neg differs])
  have settles := (landed.settles sound entity).1
  rw [concerning_replacing own, if_pos rfl] at settles
  obtain ⟨before, new, was, now, named, columns, entries⟩ := settles
  cases alive.symm.trans was
  refine ⟨new, now, named, columns, fun id => ?_, others⟩
  rw [entries, getElem?_amendAll_updates, regular.lastOf_contentOf _ _ grouped]

/-- The reload of a group value takes effect with all that the table has of it. -/
theorem Tabled.regroups_content (tabled : Tabled c) (key : GroupValue) (sound : Sound s) (free : s.origin.fanout.isOpen = false)
    (found : s.catalogue.tables[entity]? = some table) (regular : table.Regular) (alive : s.origin.live[entity]? = some old)
    (columns : old.header = table.header) (declared : s.origin.settings.declares entity key.group = true)
    (grouped : table.groups.contains key.group = true) :
    ∃ told next after, Flow.effect ((wiring c).reloadGroup entity key) s = (.ok (), after) ∧ Landed s told told after ∧
      Stages.Absorbs s.origin.settings s.origin.live ∅
        (replacing (.reloadGroup entity key.group key.value) entity table.header (table.contentOf key)) told next := by
  have checked : s.origin.settings.checkGroup entity key.group = .ok () := if_pos declared
  have known : s.catalogue.header? entity = some table.header := Catalogue.header?_table found
  have feeds := regular.fetch_group entity grouped
  have written := regular.sound.contentOf_written key
  have served : Served s.catalogue (replacing (.reloadGroup entity key.group key.value) entity table.header (table.contentOf key)) :=
    .replacing trivial rfl rfl known fun entry member => (written entry member).1
  rw [← columns] at feeds written served ⊢
  have lands : ∃ taken value after, Flow.effect ((wiring c).run ((wiring c).fetchInto (.group entity key))) s = (.ok value, after) ∧
      Landed s taken taken after ∧ ∃ next, Stages.Absorbs s.origin.settings s.origin.live ∅
        (replacing (.reloadGroup entity key.group key.value) entity old.header (table.contentOf key)) taken next :=
    sound.runs free (fun number u begun =>
      begun.regrouping ((tabled.fetch_table (begun.catalogue ▸ found)).trans feeds) alive checked written
        fun told next absorbs => ⟨next, absorbs⟩)
      fun _ settles _ _ => (settles.elim fun _ absorbs => served.absorbed absorbs).not_alone
  obtain ⟨told, _, after, ends, landed, next, absorbs⟩ := lands
  refine ⟨told, next, after, ?_, landed, absorbs⟩
  rw [Origin.Wiring.reloadGroup, Flow.effect_bind, effect_ask, checked]
  exact ends

end Site

/-- An entry with one of some group values. -/
def Entry.Among (group : String) (values : List String) (entry : Entry) : Prop := ∃ value ∈ values, entry.groups[group]? = some value

instance (group : String) (values : List String) (entry : Entry) : Decidable (entry.Among group values) :=
  inferInstanceAs (Decidable (∃ value ∈ values, entry.groups[group]? = some value))

/-- The lines of a table have one of some values of a declared group if the column has one in all rows. -/
theorem Table.Regular.lineFor_among {t : Table} {group : String} {values : List String} (regular : t.Regular)
    (settings : OriginSettings) (entity : String) (grouped : t.groups.contains group = true)
    (stored : ∀ (id : String) fields, t.rows[id]? = some fields → fieldOf t.header fields group ≠ none)
    (covers : ∀ value (id : String) fields, t.rows[id]? = some fields → fieldOf t.header fields group = some value →
      value ∈ values) :
    ∀ id, ∀ line ∈ t.lineFor settings entity id, line.Among group values := by
  intro id line brought
  obtain ⟨entry, sent, rfl⟩ := Option.map_eq_some_iff.1 brought
  obtain ⟨fields, row, rfl⟩ := Option.map_eq_some_iff.1 sent
  have carried : (t.sent id fields).groups[group]? = fieldOf t.header fields group := by
    rw [Table.sent, regular.groupsOf_named, if_pos grouped]
  obtain ⟨value, valued⟩ := Option.ne_none_iff_exists'.1 (stored id fields row)
  refine ⟨value, covers value id fields row valued, ?_⟩
  rw [regular.lineFor_group grouped sent, carried, valued]

/-- A store in which some values of a group were reloaded: lines with these values are those that were loaded, and lines with other
values are those from before, unless the id got another line. -/
structure Store.Regrouped (lineFor : String → Option Entry) (group : String) (values : List String) (old new : Store) : Prop where
  entity : new.entity = old.entity
  header : new.header = old.header
  lines : ∀ id, new.get? id = ((lineFor id).filter fun entry => entry.Among group values).or
    ((old.get? id).filter fun entry => ¬entry.Among group values)

namespace Store.Regrouped

variable {lineFor : String → Option Entry} {group value : String} {values : List String} {old new next : Store}

theorem refl (lineFor : String → Option Entry) (group : String) (old : Store) : Regrouped lineFor group [] old old := by
  refine ⟨rfl, rfl, fun id => ?_⟩
  have none : ∀ entry : Entry, ¬entry.Among group [] := fun entry among => by
    obtain ⟨value, member, _⟩ := among
    cases member
  rcases lineFor id with _ | line <;> rcases old.get? id with _ | entry <;> simp [Option.filter_some, none]

/-- One more value. -/
theorem step (regrouped : Regrouped lineFor group values old new) (entity : next.entity = new.entity) (header : next.header = new.header)
    (lines : ∀ id, next.get? id = ((lineFor id).filter fun entry => entry.groups[group]? = some value).or
      ((new.get? id).filter fun entry => entry.groups[group]? ≠ some value)) :
    Regrouped lineFor group (values ++ [value]) old next := by
  refine ⟨entity.trans regrouped.entity, header.trans regrouped.header, fun id => ?_⟩
  have more : ∀ entry : Entry,
      entry.Among group (values ++ [value]) ↔ entry.Among group values ∨ entry.groups[group]? = some value := by
    intro entry
    simp [Entry.Among, or_and_right, exists_or]
  rw [lines, regrouped.lines]
  -- What matters of a line, and of the entry before it, is whether its value was reloaded earlier and whether it is reloaded now.
  have cases : ∀ line before : Option Entry,
      (line.filter fun entry => entry.groups[group]? = some value).or
          (((line.filter fun entry => entry.Among group values).or (before.filter fun entry => ¬entry.Among group values)).filter
            fun entry => entry.groups[group]? ≠ some value) =
        (line.filter fun entry => entry.Among group (values ++ [value])).or
          (before.filter fun entry => ¬entry.Among group (values ++ [value])) := by
    intro line before
    rcases line with _ | line <;> rcases before with _ | entry
    · rfl
    · by_cases earlier : entry.Among group values <;> by_cases now : entry.groups[group]? = some value <;>
        simp [Option.filter_some, more, earlier, now]
    · by_cases earlier : line.Among group values <;> by_cases now : line.groups[group]? = some value <;>
        simp [Option.filter_some, more, earlier, now]
    · by_cases earlier : line.Among group values <;> by_cases now : line.groups[group]? = some value <;>
        by_cases before : entry.Among group values <;> by_cases again : entry.groups[group]? = some value <;>
          simp [Option.filter_some, more, earlier, now, before, again]
  exact cases (lineFor id) (old.get? id)

/-- Once all values were reloaded that there are, only lines that were loaded are left. -/
theorem covered (regrouped : Regrouped lineFor group values old new) (loaded : ∀ id, ∀ line ∈ lineFor id, line.Among group values)
    (held : ∀ id, ∀ entry ∈ old.get? id, entry.Among group values) (id : String) : new.get? id = lineFor id := by
  rw [regrouped.lines]
  have gone : ((old.get? id).filter fun entry => ¬entry.Among group values) = none := by
    rw [Option.filter_eq_none_iff]
    exact fun entry here => by simpa using held id entry here
  have kept : ((lineFor id).filter fun entry => entry.Among group values) = lineFor id := by
    rcases brought : lineFor id with _ | line
    · rfl
    · rw [Option.filter_some, if_pos (decide_eq_true (loaded id line brought))]
  rw [gone, kept, Option.or_none]

end Store.Regrouped

namespace Site

variable {c : Conduct} {s t : Site} {settings : OriginSettings} {changes : List Catalogue.Mutation} {entity group value : String}
  {old : Store} {table : Table} {thread : Thread} {values : List String} {before after : List Step}

/-- What is live is under the columns of its table. -/
theorem Filing.header_eq (filing : Filing settings s) (alive : s.origin.live[entity]? = some old)
    (found : s.catalogue.tables[entity]? = some table) : old.header = table.header :=
  Option.some.inj ((filing.supplied.fitting entity old alive).symm.trans (Catalogue.header?_table found))

/-- The reload of a group value is answered well where its entity is live, and changes nothing but the lines with the value. -/
theorem Filing.regroup (filing : Filing settings s) (tabled : Tabled c) (alive : s.origin.live[entity]? = some old)
    (found : s.catalogue.tables[entity]? = some table) (declared : settings.declares entity group = true)
    (grouped : table.groups.contains group = true) (thread : Thread) (value : String) :
    ∃ t new, act c thread (.reloadGroup entity ⟨group, value⟩) s = (.ok .done, t) ∧ Filing settings t ∧
      t.catalogue = s.catalogue ∧ t.origin.live[entity]? = some new ∧ new.entity = old.entity ∧ new.header = old.header ∧
      (∀ id, new.get? id = ((table.lineFor settings entity id).filter fun entry => entry.groups[group]? = some value).or
        ((old.get? id).filter fun entry => entry.groups[group]? ≠ some value)) ∧
      ∀ other, entity ≠ other → t.origin.live[other]? = s.origin.live[other]? := by
  have regular := filing.regular entity table found
  have now := filing.on thread
  obtain ⟨told, next, t, ends, landed, absorbs⟩ := tabled.regroups_content ⟨group, value⟩ now.supplied.sound now.supplied.free
    found regular alive (filing.header_eq alive found) (now.steady ▸ declared) grouped
  obtain ⟨new, there, named, header, lines, others⟩ := landed.regrouped now.supplied.sound alive regular grouped absorbs
  have acts : act c thread (.reloadGroup entity ⟨group, value⟩) s = (.ok .done, t) := by
    rw [act, Site.perform, Flow.effect_map, ends]
    rfl
  have filed : Filing settings (act c thread (.reloadGroup entity ⟨group, value⟩) s).2 := now.perform tabled trivial
  have sending : Sending { s with thread } (act c thread (.reloadGroup entity ⟨group, value⟩) s).2 := .whole rfl _
  rw [acts] at filed sending
  rw [now.steady] at lines
  exact ⟨t, new, acts, filed, sending.catalogue, there, named, header, lines, others⟩

/-- Reloads of some values of a group, one after another. -/
theorem Filing.regroups (filing : Filing settings s) (tabled : Tabled c) (run : Run c s after t)
    (asks : after.map Step.action = values.map fun value => .reloadGroup entity ⟨group, value⟩)
    (alive : s.origin.live[entity]? = some old) (found : s.catalogue.tables[entity]? = some table)
    (declared : settings.declares entity group = true) (grouped : table.groups.contains group = true) :
    (∀ step ∈ after, step.answer = .ok .done) ∧ Filing settings t ∧ t.catalogue = s.catalogue ∧
      (∃ new, t.origin.live[entity]? = some new ∧ Store.Regrouped (table.lineFor settings entity) group values old new) ∧
      ∀ other, entity ≠ other → t.origin.live[other]? = s.origin.live[other]? := by
  induction run generalizing values with
  | start =>
    obtain rfl : values = [] := by simpa using asks.symm
    exact ⟨List.forall_mem_nil _, filing, rfl, ⟨old, alive, .refl _ group old⟩, fun _ _ => rfl⟩
  | @next steps t thread action answer u previous acts ih =>
    rw [List.map_append] at asks
    obtain ⟨earlier, last, rfl, first, second⟩ := List.append_eq_map_iff.1 asks
    obtain ⟨value, rfl, asked⟩ : ∃ value, last = [value] ∧ .reloadGroup entity ⟨group, value⟩ = action := by
      obtain ⟨value, others, rfl, same, none⟩ := List.map_eq_cons_iff.1 second
      rw [List.map_eq_nil_iff.1 none]
      exact ⟨value, rfl, same⟩
    -- The last reload finds what the earlier ones left, and adds its value to theirs.
    obtain ⟨answered, still, same, ⟨middle, there, regrouped⟩, outside⟩ := ih first.symm
    subst asked
    obtain ⟨after, new, goes, filed, kept, now, named, header, lines, others⟩ :=
      still.regroup tabled there (same ▸ found) declared grouped thread value
    cases acts.symm.trans goes
    have more := regrouped.step named header lines
    refine ⟨fun step member => ?_, filed, kept.trans same, ⟨new, now, more⟩, fun other differs => ?_⟩
    · rcases List.mem_append.1 member with before | now
      · exact answered step before
      · rw [List.mem_singleton.1 now]
    · rw [others other differs, outside other differs]

/-- Live lines have one of some values of a declared group if the column has one in all rows. -/
theorem Filing.live_among (filing : Filing settings s) (alive : s.origin.live[entity]? = some old)
    (declared : settings.declares entity group = true)
    (held : ∀ id entry fields, old.get? id = some entry → entry.fields = .ok fields → fieldOf old.header fields group ≠ none)
    (covers : ∀ value id entry fields, old.get? id = some entry → entry.fields = .ok fields →
      fieldOf old.header fields group = some value → value ∈ values) :
    ∀ id, ∀ entry ∈ old.get? id, entry.Among group values := by
  intro id entry here
  obtain ⟨fields, splits, _, carried⟩ := filing.filed entity old alive id entry here
  obtain ⟨value, valued⟩ := Option.ne_none_iff_exists'.1 (held id entry fields here splits)
  exact ⟨value, covers value id entry fields here splits valued, (carried group declared).trans valued⟩

/-- A value that a group has in some row of a store or of a table. -/
def Occurs (group : String) (store : Store) (table : Table) (value : String) : Prop :=
  (∃ (id : String) (entry : Entry) (fields : List Field),
      store.get? id = some entry ∧ entry.fields = .ok fields ∧ fieldOf store.header fields group = some value) ∨
    ∃ (id : String) (fields : List Field), table.rows[id]? = some fields ∧ fieldOf table.header fields group = some value

/-- Over the tables of a source, the values of a group that an origin and a table both declare may be reloaded one by one, in any
order: if every row has a value and every value that occurs is reloaded, then all that is live is what a reload of the entity would
have left instead. -/
theorem Tabled.regroups_as_reload (tabled : Tabled c) (earlier : Run c (overTables settings changes) before s)
    (tame : ∀ step ∈ before, step.action.Tame step.before.catalogue) (later : Run c s after t)
    (asks : after.map Step.action = values.map fun value => .reloadGroup entity ⟨group, value⟩)
    (alive : s.origin.live[entity]? = some old) (found : s.catalogue.tables[entity]? = some table)
    (declared : settings.declares entity group = true) (grouped : table.groups.contains group = true)
    (held : ∀ id entry fields, old.get? id = some entry → entry.fields = .ok fields → fieldOf old.header fields group ≠ none)
    (stored : ∀ (id : String) fields, table.rows[id]? = some fields → fieldOf table.header fields group ≠ none)
    (covers : ∀ value, Occurs group old table value → value ∈ values) (thread : Thread) :
    (∀ step ∈ after, step.answer = .ok .done) ∧
      ∃ u, act c thread (.reload entity) s = (.ok .done, u) ∧ t.origin.live = u.origin.live := by
  have filing : Filing settings s := Filing.run earlier tabled tame (filing_overTables settings changes)
  have regular := filing.regular entity table found
  have named : old.entity = entity := (filing.supplied.sound.stores entity old alive).1
  obtain ⟨answered, filed, _, ⟨new, now, regrouped⟩, others⟩ := filing.regroups tabled later asks alive found declared grouped
  obtain ⟨u, whole, acts, there, own, header, lines, outside⟩ :=
    tabled.reload_lines filing.supplied.sound filing.supplied.free found regular.sound thread
  rw [filing.steady] at lines
  have sound := filing.supplied.sound.answered acts
  have loaded := regular.lineFor_among settings entity grouped stored fun value id fields row valued =>
    covers value (.inr ⟨id, fields, row, valued⟩)
  have kept := filing.live_among alive declared held fun value id entry fields here splits valued =>
    covers value (.inl ⟨id, entry, fields, here, splits, valued⟩)
  -- Sound stores of one entity are equal if they have the same columns and the same entries.
  have same : new = whole := by
    have left := (filed.supplied.sound.stores entity new now).2
    have right := (sound.stores entity whole there).2
    refine left.ext right ?_ ?_ fun id => ?_
    · rw [regrouped.entity, named, own]
    · rw [regrouped.header, filing.header_eq alive found, header]
    · rw [regrouped.covered loaded kept, lines]
  refine ⟨answered, u, acts, Std.ExtTreeMap.ext_getElem? fun {other} => ?_⟩
  by_cases here : entity = other
  · subst here
    rw [now, there, same]
  · rw [others other here, outside other here]

/-- Rows of an origin and a table that group them by the same column. -/
def grouping : List Catalogue.Mutation := [.load "e" "id,g,v\n1,x,a\n2,y,b\n3,x,c", .declareGroup "e" "g"]

/-- Since the entity was reloaded, one row has moved, one is gone and one is new, and a transport has brought a row of its own. -/
def scattering : List Step × Site :=
  enact staffed (overTables (({} : OriginSettings).withGroup "e" "g") grouping)
    [(0, .reload "e"), (0, .mutate (.upsert "e" [some "1", some "y", some "a"])), (0, .mutate (.delete "e" "2")),
      (1, .applyRows "e" ⟨["id", "g", "v"], rfl, by decide, by decide⟩ ["5,w,e"]),
      (0, .mutate (.upsert "e" [some "4", some "z", some "d"]))]

/-- The values are reloaded by several threads. -/
def gathering : List Step × Site :=
  enact staffed scattering.2 [(0, .reloadGroup "e" ⟨"g", "x"⟩), (1, .reloadGroup "e" ⟨"g", "z"⟩),
    (0, .reloadGroup "e" ⟨"g", "w"⟩), (2, .reloadGroup "e" ⟨"g", "y"⟩)]

theorem regroups_as_reload_scattered : ∃ old table, scattering.2.origin.live["e"]? = some old ∧
    scattering.2.catalogue.tables["e"]? = some table ∧
    (∀ value, Occurs "g" old table value → value ∈ ["x", "z", "w", "y"]) ∧ (∀ step ∈ gathering.1, step.answer = .ok .done) ∧
    ∃ u, act staffed 1 (.reload "e") scattering.2 = (.ok .done, u) ∧ gathering.2.origin.live = u.origin.live := by
  have live : (scattering.2.origin.live["e"]?).map (fun store => store.all.map fun entry =>
      fieldOf store.header (entry.fields.toOption.getD []) "g") = some [some "x", some "y", some "x", some "w"] := by decide +kernel
  have rows : (scattering.2.catalogue.tables["e"]?).map (fun table => table.rows.values.map fun fields =>
      fieldOf table.header fields "g") = some [some "y", some "x", some "z"] := by decide +kernel
  have grouped : (scattering.2.catalogue.tables["e"]?).map (·.groups.contains "g") = some true := by decide +kernel
  obtain ⟨old, alive, held⟩ := Option.map_eq_some_iff.1 live
  obtain ⟨table, found, stored⟩ := Option.map_eq_some_iff.1 rows
  rw [found] at grouped
  have within : ∀ field ∈ [some "x", some "y", some "x", some "w"] ++ [some "y", some "x", some "z"],
      ∃ value ∈ ["x", "z", "w", "y"], field = some value := by decide
  have ofEntry : ∀ id entry fields, old.get? id = some entry → entry.fields = .ok fields →
      ∃ value ∈ ["x", "z", "w", "y"], fieldOf old.header fields "g" = some value := by
    intro id entry fields here splits
    refine within _ (List.mem_append_left _ (held ▸ List.mem_map.2 ⟨entry, Keyed.mem_values.2 ⟨id, here⟩, ?_⟩))
    rw [splits]
    rfl
  have ofRow : ∀ (id : String) fields, table.rows[id]? = some fields →
      ∃ value ∈ ["x", "z", "w", "y"], fieldOf table.header fields "g" = some value := fun id fields row =>
    within _ (List.mem_append_right _ (stored ▸ List.mem_map.2 ⟨fields, Keyed.mem_values.2 ⟨id, row⟩, rfl⟩))
  have covers : ∀ value, Occurs "g" old table value → value ∈ ["x", "z", "w", "y"] := by
    rintro value (⟨id, entry, fields, here, splits, valued⟩ | ⟨id, fields, row, valued⟩)
    · obtain ⟨other, listed, carried⟩ := ofEntry id entry fields here splits
      exact Option.some.inj (valued.symm.trans carried) ▸ listed
    · obtain ⟨other, listed, carried⟩ := ofRow id fields row
      exact Option.some.inj (valued.symm.trans carried) ▸ listed
  have run : Run staffed (overTables (({} : OriginSettings).withGroup "e" "g") grouping) scattering.1 scattering.2 := run_enact ..
  have later : Run staffed scattering.2 gathering.1 gathering.2 := run_enact ..
  have valued : ∀ id entry fields, old.get? id = some entry → entry.fields = .ok fields →
      fieldOf old.header fields "g" ≠ none := by
    intro id entry fields here splits
    obtain ⟨_, _, carried⟩ := ofEntry id entry fields here splits
    exact Option.ne_none_iff_exists'.2 ⟨_, carried⟩
  have filled : ∀ (id : String) fields, table.rows[id]? = some fields → fieldOf table.header fields "g" ≠ none := by
    intro id fields row
    obtain ⟨_, _, carried⟩ := ofRow id fields row
    exact Option.ne_none_iff_exists'.2 ⟨_, carried⟩
  obtain ⟨answered, whole⟩ := tabled_staffed.regroups_as_reload run (by decide +kernel) later (by decide +kernel) alive found
    (by decide +kernel) (Option.some.inj grouped) valued filled covers 1
  exact ⟨old, table, alive, found, covers, answered, whole⟩

end Site

end ReferenceFeed
