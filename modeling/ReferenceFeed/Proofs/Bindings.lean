import ReferenceFeed.Conversion.Bindings
import ReferenceFeed.Proofs.Keyed

namespace ReferenceFeed

/-!
A table of bound columns and the plan it keeps. The plan is only ever the one of the header it is kept with, so a table that
has converted any entries before converts the next one as if it were new.
-/

namespace Bindings

variable {ρ : Type} {t : Bindings ρ} {header : Header} {entry : Entry} {initial : ρ}

/-- A header has the columns of a table, each of them bound once, and apart from these only ignored ones. -/
structure Matches (t : Bindings ρ) (header : Header) : Prop where
  once : t.columns.Nodup
  known : ∀ name ∈ header.names, name ∈ t.columns ∨ name ∈ t.ignored
  present : ∀ column ∈ t.columns, column ∈ header.names

theorem validate_eq_ok_iff : t.validate header = .ok () ↔ t.Matches header := by
  have known : (header.names.filter fun name => !t.columns.contains name && !t.ignored.contains name).isEmpty ↔
      ∀ name ∈ header.names, name ∈ t.columns ∨ name ∈ t.ignored := by
    simp [List.isEmpty_iff, ← Std.ExtTreeSet.contains_iff_mem, Classical.or_iff_not_imp_left]
  have present : (t.columns.filter fun column => !header.names.contains column).isEmpty ↔
      ∀ column ∈ t.columns, column ∈ header.names := by
    simp [List.isEmpty_iff]
  rw [validate]
  split
  case isTrue twice => exact ⟨nofun, fun fits => absurd fits.once twice⟩
  case isFalse once =>
    simp only [Bool.and_eq_true, known, present]
    split
    case isTrue both => exact ⟨fun _ => ⟨not_not.1 once, both.1, both.2⟩, fun _ => rfl⟩
    case isFalse neither => exact ⟨nofun, fun fits => absurd ⟨fits.known, fits.present⟩ neither⟩

theorem validate_eq_error (mismatch : ¬ t.Matches header) : ∃ fault, t.validate header = .error fault := by
  cases checked : t.validate header with
  | error fault => exact ⟨fault, rfl⟩
  | ok done => exact absurd (validate_eq_ok_iff.1 checked) mismatch

/-- What columns and their fields make of a record. Each bound column's setter takes the field of its own column, in the order
of the columns, and the first setter that fails ends it. -/
inductive Sets (t : Bindings ρ) : ρ → List (String × Field) → Except String ρ → Prop
  | done {record} : Sets t record [] (.ok record)
  | ignored {record column field rest outcome} : column ∉ t.columns → Sets t record rest outcome →
      Sets t record ((column, field) :: rest) outcome
  | set {record binding field next rest outcome} : binding ∈ t.bound → binding.set record field = .ok next →
      Sets t next rest outcome → Sets t record ((binding.column, field) :: rest) outcome
  | failed {record binding field reason rest} : binding ∈ t.bound → binding.set record field = .error reason →
      Sets t record ((binding.column, field) :: rest) (.error reason)

/-- What the conversion of an entry comes to. -/
inductive Converts (t : Bindings ρ) (initial : ρ) (header : Header) (entry : Entry) : Except Failure ρ → Prop
  | mismatched {fault} : ¬ t.Matches header → t.validate header = .error fault →
      Converts t initial header entry (.error (.encoding fault))
  | unsplit {fault} : t.Matches header → entry.fields = .error fault →
      Converts t initial header entry (.error (.encoding (.unsplit fault)))
  | uneven {fields} : t.Matches header → entry.fields = .ok fields → fields.length ≠ header.width →
      Converts t initial header entry (.error (entry.unconverted s!"{fields.length} fields for {header.width} columns"))
  | set {fields outcome} : t.Matches header → entry.fields = .ok fields → fields.length = header.width →
      Sets t initial (header.names.zip fields) outcome →
      Converts t initial header entry (outcome.mapError entry.unconverted)

/-- A column that is bound once is looked up as what it is bound to. -/
theorem find?_column (once : t.columns.Nodup) {binding : Binding ρ} (bound : binding ∈ t.bound) :
    (t.bound.find? fun other => other.column = binding.column) = some binding := find?_of_nodup once bound

theorem find?_column_eq_none {column : String} (absent : column ∉ t.columns) :
    (t.bound.find? fun other => other.column = column) = none := by
  rw [List.find?_eq_none]
  rintro binding bound same
  exact absent (List.mem_map.2 ⟨binding, bound, by simpa using same⟩)

/-- Along the plan of its columns a record becomes what the fields of these columns make of it. -/
theorem Sets.assign_eq (once : t.columns.Nodup) {record : ρ} {columns : List String} {fields : List Field} {outcome : Except String ρ}
    (sets : Sets t record (columns.zip fields) outcome) :
    assign entry record (fields.zip (columns.map fun column => t.bound.find? fun binding => binding.column = column)) =
      outcome.mapError entry.unconverted := by
  induction columns generalizing fields record with
  | nil =>
    cases sets
    simp [assign, Except.mapError]
  | cons column columns ih =>
    cases fields with
    | nil =>
      cases sets
      rfl
    | cons field fields =>
      cases sets with
      | ignored absent rest => simp only [List.map_cons, List.zip_cons_cons, find?_column_eq_none absent, assign, ih rest]
      | set bound done rest => simp only [List.map_cons, List.zip_cons_cons, find?_column once bound, assign, done, ih rest]
      | failed bound fails =>
        simp only [List.map_cons, List.zip_cons_cons, find?_column once bound, assign, fails, Except.mapError]

/-- Some columns and their fields always make something of a record. -/
theorem Sets.total (t : Bindings ρ) (columns : List (String × Field)) (record : ρ) : ∃ outcome, Sets t record columns outcome := by
  induction columns generalizing record with
  | nil => exact ⟨_, .done⟩
  | cons head rest ih =>
    obtain ⟨column, field⟩ := head
    by_cases known : column ∈ t.columns
    · obtain ⟨binding, bound, rfl⟩ := List.mem_map.1 known
      cases set : binding.set record field with
      | error reason => exact ⟨_, .failed bound set⟩
      | ok next => exact (ih next).imp fun _ sets => .set bound set sets
    · exact (ih record).imp fun _ sets => .ignored known sets

theorem convert_of_matches (fits : t.Matches header) :
    t.convert initial header entry =
      (entry.fieldsFor header.width).bind fun fields => assign entry initial (fields.zip (t.plan header)) := by
  have width : (t.plan header).length = header.width := List.length_map _
  rw [convert, validate_eq_ok_iff.2 fits]
  change build initial (t.plan header) entry = _
  rw [build, width]
  rfl

/-- A table that plans every time converts as it should. -/
theorem Converts.convert_eq {outcome : Except Failure ρ} (converts : t.Converts initial header entry outcome) :
    t.convert initial header entry = outcome := by
  cases converts with
  | mismatched _ refused =>
    rw [convert, refused]
    rfl
  | unsplit fits split =>
    rw [convert_of_matches fits, Entry.fieldsFor, split]
    rfl
  | uneven fits split uneven =>
    rw [convert_of_matches fits, Entry.fieldsFor, split]
    simp only [if_neg uneven, Except.bind]
  | set fits split even sets =>
    rw [convert_of_matches fits, Entry.fieldsFor, split]
    simp only [if_pos even, Except.bind]
    exact sets.assign_eq fits.once

theorem Converts.total (t : Bindings ρ) (initial : ρ) (header : Header) (entry : Entry) :
    ∃ outcome, t.Converts initial header entry outcome := by
  by_cases fits : t.Matches header
  · cases split : entry.fields with
    | error fault => exact ⟨_, .unsplit fits split⟩
    | ok fields =>
      by_cases even : fields.length = header.width
      · obtain ⟨outcome, sets⟩ := Sets.total t (header.names.zip fields) initial
        exact ⟨_, .set fits split even sets⟩
      · exact ⟨_, .uneven fits split even⟩
  · obtain ⟨fault, refused⟩ := validate_eq_error fits
    exact ⟨_, .mismatched fits refused⟩

theorem convert_eq_iff {outcome : Except Failure ρ} :
    t.convert initial header entry = outcome ↔ t.Converts initial header entry outcome := by
  refine ⟨?_, Converts.convert_eq⟩
  rintro rfl
  obtain ⟨outcome, converts⟩ := Converts.total t initial header entry
  rwa [converts.convert_eq]

end Bindings

namespace PlannedBindings

variable {ρ : Type} {t : PlannedBindings ρ} {initial : ρ}

/-- The plan that is kept is the one of the header it is kept with, and that header matches. -/
def Current (t : PlannedBindings ρ) : Prop :=
  ∀ header steps, t.last = some (header, steps) → t.table.Matches header ∧ steps = t.table.plan header

theorem current_mk (table : Bindings ρ) : (mk table none).Current := nofun

/-- The plan for a header is the one that is kept, or it is refused and nothing is kept anew, or it is made and kept. -/
theorem planFor_cases (t : PlannedBindings ρ) (header : Header) :
    (∃ steps, t.last = some (header, steps) ∧ t.planFor header = (.ok steps, t)) ∨
      (∃ fault, t.table.validate header = .error fault ∧ t.planFor header = (.error (.encoding fault), t)) ∨
      (t.table.validate header = .ok () ∧
        t.planFor header = (.ok (t.table.plan header), { t with last := some (header, t.table.plan header) })) := by
  rw [planFor]
  split
  case h_1 known steps kept =>
    by_cases same : known = header
    · subst same
      exact .inl ⟨steps, kept, if_pos rfl⟩
    · rw [if_neg same]
      cases t.table.validate header <;> simp
  case h_2 => cases t.table.validate header <;> simp

/-- A conversion answers as the table does that plans every time, and what it keeps is current again. -/
theorem Current.convert (current : t.Current) (initial : ρ) (header : Header) (entry : Entry) :
    (t.convert initial header entry).1 = t.table.convert initial header entry ∧
      (t.convert initial header entry).2.table = t.table ∧ (t.convert initial header entry).2.Current := by
  have converts : t.table.convert initial header entry =
      ((t.table.validate header).mapError .encoding).bind fun _ => Bindings.build initial (t.table.plan header) entry := rfl
  rw [converts, PlannedBindings.convert]
  rcases t.planFor_cases header with ⟨steps, kept, found⟩ | ⟨fault, refused, found⟩ | ⟨checked, found⟩
  · obtain ⟨fits, rfl⟩ := current header steps kept
    rw [found, Bindings.validate_eq_ok_iff.2 fits]
    exact ⟨rfl, rfl, current⟩
  · rw [found, refused]
    exact ⟨rfl, rfl, current⟩
  · rw [found, checked]
    refine ⟨rfl, rfl, ?_⟩
    rintro other steps ⟨⟩
    exact ⟨Bindings.validate_eq_ok_iff.1 checked, rfl⟩

/-- A table as some conversions leave it. -/
def after (t : PlannedBindings ρ) (initial : ρ) (calls : List (Header × Entry)) : PlannedBindings ρ :=
  calls.foldl (fun t call => (t.convert initial call.1 call.2).2) t

theorem Current.after (current : t.Current) (initial : ρ) (calls : List (Header × Entry)) :
    (t.after initial calls).Current ∧ (t.after initial calls).table = t.table := by
  induction calls generalizing t with
  | nil => exact ⟨current, rfl⟩
  | cons call rest ih =>
    obtain ⟨_, same, next⟩ := current.convert initial call.1 call.2
    obtain ⟨kept, table⟩ := ih next
    exact ⟨kept, table.trans same⟩

theorem Current.convertAll (current : t.Current) (initial : ρ) (calls : List (Header × Entry)) :
    t.convertAll initial calls = calls.map fun call => t.table.convert initial call.1 call.2 := by
  induction calls generalizing t with
  | nil => rfl
  | cons call rest ih =>
    obtain ⟨answer, same, next⟩ := current.convert initial call.1 call.2
    rw [PlannedBindings.convertAll, List.map_cons, answer, ih next, same]

/-- The plan that a table keeps is not seen from outside. However headers follow one another, each entry is converted as by a
new table with the same bindings: refused exactly when the columns do not match, or when the fields do not fit these, or by the
first setter that fails, and else made of each bound column's own field. -/
theorem convertAll_transparent (table : Bindings ρ) (initial : ρ) :
    (∀ calls : List (Header × Entry), (mk table none).convertAll initial calls =
        calls.map fun call => ((mk table none).convert initial call.1 call.2).1) ∧
      ∀ (header : Header) (entry : Entry) (outcome : Except Failure ρ),
        ((mk table none).convert initial header entry).1 = outcome ↔ table.Converts initial header entry outcome := by
  have alone (header : Header) (entry : Entry) :
      ((mk table none).convert initial header entry).1 = table.convert initial header entry :=
    ((current_mk table).convert initial header entry).1
  simp only [alone]
  exact ⟨(current_mk table).convertAll initial, fun header entry outcome => Bindings.convert_eq_iff⟩

/-- Columns that change places between two conversions keep their setters, also past a header that is refused. -/
example :
    let table : Bindings (List String) := (Bindings.mk [] ∅).bind "v" (fun record field => .ok (record ++ ["v", field.getD ""]))
      |>.bind "w" (fun record field => .ok (record ++ ["w", field.getD ""])) |>.ignore "id"
    (mk table none).convertAll [] [(⟨["id", "v", "w"], rfl, by decide, by decide⟩, ⟨"1", "1,a,b", ∅⟩),
      (⟨["id", "v"], rfl, by decide, by decide⟩, ⟨"1", "1,a", ∅⟩),
      (⟨["id", "w", "v"], rfl, by decide, by decide⟩, ⟨"1", "1,a,b", ∅⟩)] =
      [.ok ["v", "a", "w", "b"], .error (.encoding (.unmatched ⟨["id", "v"], rfl, by decide, by decide⟩ [] ["w"])),
        .ok ["w", "a", "v", "b"]] := by
  cbv

end PlannedBindings

end ReferenceFeed
