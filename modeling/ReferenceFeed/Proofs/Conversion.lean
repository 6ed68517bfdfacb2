import ReferenceFeed.Conversion.Schema
import ReferenceFeed.Proofs.Bindings
import ReferenceFeed.Proofs.Effect
import ReferenceFeed.Proofs.Keyed

namespace ReferenceFeed

/-!
Two ways to convert an entry. A type of records is described once, and converted to by a table that binds its columns as well
as by a schema that knows its slots. Under any header that has just these columns both refuse the same entries, and make the
same of all others.
-/

namespace Text

variable {range : IntegerRange} {limit magnitude : Nat} {overflow : IntegerFault} {n : Nat} {value : Int} {text : List Char}

/-- The numbers that are read for a range: those in it, and zero. -/
def IntegerRange.Holds (range : IntegerRange) (value : Int) : Prop := min range.least 0 ≤ value ∧ value ≤ max range.greatest 0

theorem readMagnitude_le (within : magnitude ≤ limit) (reads : readMagnitude limit overflow magnitude text = .ok n) :
    n ≤ limit := by
  induction text generalizing magnitude with
  | nil =>
    cases reads
    exact within
  | cons c rest ih =>
    rw [readMagnitude] at reads
    split at reads
    · cases reads
    · split at reads
      · cases reads
      · next fits => exact ih (Nat.le_of_not_lt fits) reads

theorem readInteger_holds (reads : readInteger range text = .ok value) : range.Holds value := by
  have upward (digits : List Char) (reads : (readMagnitude range.greatest.toNat .tooLarge 0 digits).map Int.ofNat = .ok value) :
      range.Holds value := by
    obtain ⟨n, magnitude, rfl⟩ := map_ok reads
    have bound := readMagnitude_le (Nat.zero_le _) magnitude
    simp only [IntegerRange.Holds, Int.ofNat_eq_natCast]
    omega
  unfold readInteger at reads
  split at reads
  · cases reads
  · cases reads
  · cases reads
  · exact upward _ reads
  · split at reads
    · obtain ⟨n, magnitude, rfl⟩ := map_ok reads
      have bound := readMagnitude_le (Nat.zero_le _) magnitude
      simp only [IntegerRange.Holds, Int.ofNat_eq_natCast]
      omega
    · cases reads
  · exact upward _ reads

end Text

namespace Scalar

/-- The values of a type. -/
def Holds : Scalar → Value → Prop
  | .text, .text _ | .flag, .flag _ | .character, .character _ => True
  | .integer range, .integer value => range.Holds value
  | .binary format, .binary other _ => other = format
  | _, _ => False

theorem read_holds {type : Scalar} {text : String} {value : Value} (reads : type.read text = .ok value) : type.Holds value := by
  unfold read at reads
  split at reads
  · cases reads
    trivial
  · split at reads
    · cases reads
      trivial
    · split at reads <;> cases reads
      trivial
  · split at reads <;> cases reads
    trivial
  · split at reads <;> cases reads
    exact Text.readInteger_holds ‹_›
  · split at reads <;> cases reads
    rfl

end Scalar

/-- A part of a record: what it is called, how it is read and from which column, and how it is looked up and set. -/
structure RecordPart (ρ : Type) where
  name : String
  column : String
  type : Scalar
  optional : Bool
  get : ρ → Option Value
  set : ρ → Option Value → ρ

namespace RecordPart

variable {ρ : Type} (part : RecordPart ρ)

/-- The slot that a schema has for a part. -/
def slot : Slot := ⟨part.name, part.column, .scalar part.type, if part.optional then .optional else .mandatory⟩

/-- Binds the column of a part. -/
def bindTo (table : Bindings ρ) : Bindings ρ :=
  if part.optional then table.optional part.column part.type part.set
  else table.required part.column part.type fun record value => part.set record (some value)

/-- What a field makes of a record whose column it stands in. -/
def setField (record : ρ) : Field → Except String ρ
  | none => if part.optional then .ok (part.set record none) else .error s!"{part.column} is null"
  | some text => (Bindings.readAs part.column part.type text).map fun value => part.set record (some value)

theorem bindTo_eq (table : Bindings ρ) : part.bindTo table = table.bind part.column part.setField := by
  rw [bindTo]
  cases optional : part.optional with
  | true =>
    refine congrArg (table.bind part.column) (funext fun record => funext fun field => ?_)
    cases field <;> simp [setField, optional]
  | false =>
    refine congrArg (table.bind part.column) (funext fun record => funext fun field => ?_)
    cases field <;> simp [setField, optional]

/-- The values that a part can be set to. -/
def Takes : Option Value → Prop
  | none => part.optional = true
  | some value => part.type.Holds value

theorem takes_of_read {field : Field} {value : Option Value} (reads : part.slot.ofField field = .ok value) :
    part.Takes value := by
  cases field with
  | none =>
    cases optional : part.optional with
    | true =>
      simp only [slot, Slot.ofField, optional, if_true] at reads
      cases reads
      exact optional
    | false => simp [slot, Slot.ofField, optional] at reads
  | some text =>
    obtain ⟨read, found, rfl⟩ := map_ok reads
    change (part.type.read text).mapError _ = .ok read at found
    cases typed : part.type.read text with
    | error reason =>
      rw [typed] at found
      cases found
    | ok given =>
      rw [typed] at found
      cases found
      exact Scalar.read_holds typed

/-- A field is read for a part, and the part is set to it, or it is refused both by the slot and by the table. -/
theorem setField_cases (record : ρ) (field : Field) :
    (∃ value, part.slot.ofField field = .ok value ∧ part.setField record field = .ok (part.set record value)) ∨
      ∃ reason other, part.slot.ofField field = .error reason ∧ part.setField record field = .error other := by
  cases field with
  | none => cases optional : part.optional <;> simp [slot, setField, Slot.ofField, optional]
  | some text =>
    simp only [slot, setField, Slot.ofField, SlotType.read, Bindings.readAs]
    cases part.type.read text with
    | error reason => exact .inr ⟨_, _, rfl, rfl⟩
    | ok value => exact .inl ⟨some value, rfl, rfl⟩

end RecordPart

/-- A type of records that is described by its parts. What a part is set to is found there again, and no other part is touched. -/
structure RecordType (ρ : Type) where
  parts : List (RecordPart ρ)
  names_nodup : (parts.map RecordPart.name).Nodup
  get_set : ∀ part ∈ parts, ∀ record value, part.Takes value → part.get (part.set record value) = value
  get_set_other : ∀ part ∈ parts, ∀ other ∈ parts, other.name ≠ part.name →
    ∀ record value, other.get (part.set record value) = other.get record

theorem Entry.length_fieldsFor {entry : Entry} {width : Nat} {fields : List Field} (fits : entry.fieldsFor width = .ok fields) :
    fields.length = width := by
  unfold fieldsFor at fits
  split at fits
  · cases fits
  · split at fits
    · next even =>
      cases fits
      exact even
    · cases fits

namespace RecordType

variable {ρ : Type} (t : RecordType ρ)

def columns : List String := t.parts.map RecordPart.column

/-- The table that binds every column to its part. -/
def bindings : Bindings ρ := t.parts.foldl (fun table part => part.bindTo table) {}

/-- The schema of the parts, which may refuse other columns or not. -/
def schema (strict : Bool) : Schema := ⟨t.parts.map RecordPart.slot, strict⟩

/-- Two records with the same in the parts that some columns stand for, and no more than these in the second one. -/
structure Same (columns : List String) (record : ρ) (data : DataRecord) : Prop where
  holds : ∀ part ∈ t.parts, part.column ∈ columns → data[part.name]? = some (part.get record)
  named : ∀ (name : String) (value : Option Value), data[name]? = some value →
    ∃ part ∈ t.parts, part.column ∈ columns ∧ part.name = name

/-- Both ways refuse an entry, or both make the same of it. -/
inductive Accord (columns : List String) {ε φ : Type} : Except ε ρ → Except φ DataRecord → Prop
  | refused {cause other} : Accord columns (.error cause) (.error other)
  | made {record data} : t.Same columns record data → Accord columns (.ok record) (.ok data)

theorem Accord.mapError {t : RecordType ρ} {columns : List String} {ε φ ε' φ' : Type} {f : ε → ε'} {g : φ → φ'}
    {one : Except ε ρ} {other : Except φ DataRecord} (accord : t.Accord columns one other) :
    t.Accord columns (one.mapError f) (other.mapError g) := by
  cases accord with
  | refused => exact .refused
  | made same => exact .made same

theorem bound_bindings : t.bindings.bound = t.parts.map fun part => ⟨part.column, part.setField⟩ := by
  have goes_on : ∀ (parts : List (RecordPart ρ)) (table : Bindings ρ),
      (parts.foldl (fun table part => part.bindTo table) table).bound =
        table.bound ++ parts.map fun part => ⟨part.column, part.setField⟩ := by
    intro parts
    induction parts with
    | nil => exact fun table => (List.append_nil _).symm
    | cons part rest ih =>
      intro table
      rw [List.foldl_cons, ih, part.bindTo_eq, List.map_cons, Bindings.bind, List.append_assoc, List.singleton_append]
  exact goes_on t.parts {}

theorem columns_bindings : t.bindings.columns = t.columns := by
  rw [Bindings.columns, bound_bindings, List.map_map]
  rfl

variable {t} {strict : Bool} {part : RecordPart ρ} {columns done : List String} {record : ρ} {data : DataRecord} {header : Header}

/-- A column is known to a schema as the slot of its part. -/
theorem slot?_column (once : t.columns.Nodup) (member : part ∈ t.parts) :
    (t.schema strict).slot? part.column = some part.slot := by
  rw [Schema.slot?, schema, List.find?_map]
  exact congrArg (Option.map RecordPart.slot) (find?_of_nodup once member)

theorem same_nil (record : ρ) : t.Same [] record ∅ where
  holds _ _ known := by cases known
  named name value stored := by
    rw [Std.ExtTreeMap.getElem?_empty] at stored
    cases stored

theorem Same.congr {others : List String} (same : t.Same columns record data)
    (alike : ∀ column, column ∈ columns ↔ column ∈ others) : t.Same others record data where
  holds part member known := same.holds part member ((alike _).2 known)
  named name value stored :=
    (same.named name value stored).imp fun _ found => ⟨found.1, (alike _).1 found.2.1, found.2.2⟩

/-- One more part is set on both sides. -/
theorem Same.set (same : t.Same done record data) (once : t.columns.Nodup) (member : part ∈ t.parts) {field : Field}
    {value : Option Value} (reads : part.slot.ofField field = .ok value) :
    t.Same (done ++ [part.column]) (part.set record value) (data.insert part.name value) where
  holds other inside known := by
    rw [Keyed.getElem?_insert]
    by_cases here : other.name = part.name
    · rw [List.inj_on_of_nodup_map t.names_nodup inside member here, if_pos rfl,
        t.get_set part member record value (part.takes_of_read reads)]
    · rw [if_neg (Ne.symm here), t.get_set_other part member other inside here]
      refine same.holds other inside ((List.mem_append.1 known).resolve_right fun last => here ?_)
      rw [List.inj_on_of_nodup_map once inside member (List.mem_singleton.1 last)]
  named name found stored := by
    rw [Keyed.getElem?_insert] at stored
    split at stored
    · next here => exact ⟨part, member, List.mem_append_right _ (List.mem_singleton_self _), here⟩
    · obtain ⟨other, inside, known, named⟩ := same.named name found stored
      exact ⟨other, inside, List.mem_append_left _ known, named⟩

/-- Column by column the table and the schema fail together, or set the same part to the same. -/
theorem Same.accord (same : t.Same done record data) (once : t.columns.Nodup) {pairs : List (String × Field)}
    (known : ∀ pair ∈ pairs, pair.1 ∈ t.columns) {outcome : Except String ρ} (sets : t.bindings.Sets record pairs outcome) :
    t.Accord (done ++ pairs.map Prod.fst) outcome ((t.schema strict).fill data pairs) := by
  induction sets generalizing done data with
  | done =>
    rw [List.map_nil, List.append_nil]
    exact .made same
  | ignored absent =>
    rw [columns_bindings] at absent
    exact absurd (known _ List.mem_cons_self) absent
  | @set record binding field next rest outcome bound took _ ih =>
    rw [bound_bindings] at bound
    obtain ⟨part, member, rfl⟩ := List.mem_map.1 bound
    rcases part.setField_cases record field with ⟨value, reads, sets⟩ | ⟨_, _, _, fails⟩
    · cases sets.symm.trans took
      have later := ih (same.set once member reads) fun pair inside => known pair (List.mem_cons_of_mem _ inside)
      rw [List.append_assoc] at later
      simp only [Schema.fill, slot?_column once member, reads]
      exact later
    · cases fails.symm.trans took
  | @failed record binding field reason rest bound fails =>
    rw [bound_bindings] at bound
    obtain ⟨part, member, rfl⟩ := List.mem_map.1 bound
    rcases part.setField_cases record field with ⟨_, _, sets⟩ | ⟨_, _, refused, _⟩
    · cases sets.symm.trans fails
    · simp only [Schema.fill, slot?_column once member, refused]
      exact .refused

/-- Where every slot has its column, there is nothing to complete. -/
theorem complete_present {slots : List Slot} (present : ∀ slot ∈ slots, slot.column ∈ columns) :
    Schema.complete columns data slots = .ok data := by
  induction slots with
  | nil => rfl
  | cons slot rest ih =>
    rw [Schema.complete, if_pos (List.contains_iff_mem.2 (present slot List.mem_cons_self)),
      ih fun other member => present other (List.mem_cons_of_mem _ member)]

section Header

variable (perm : header.names.Perm t.columns)

include perm

theorem columns_nodup : t.columns.Nodup := perm.nodup_iff.1 header.names_nodup

theorem matches_of_perm : t.bindings.Matches header where
  once := by
    rw [columns_bindings]
    exact columns_nodup perm
  known name member := .inl (by
    rw [columns_bindings]
    exact perm.mem_iff.1 member)
  present column member := by
    rw [columns_bindings] at member
    exact perm.mem_iff.2 member

/-- As a header has all columns, what was set under its columns is the whole record. -/
theorem Accord.read {outcome : Except String ρ} {fields : List Field}
    (accord : t.Accord header.names outcome ((t.schema strict).fill ∅ (header.names.zip fields))) :
    t.Accord t.columns outcome ((t.schema strict).read header.names fields) := by
  have reads : (t.schema strict).read header.names fields = ((t.schema strict).fill ∅ (header.names.zip fields)).bind fun data =>
      Schema.complete header.names data (t.schema strict).slots := rfl
  rw [reads]
  generalize (t.schema strict).fill ∅ (header.names.zip fields) = filled at accord ⊢
  cases accord with
  | refused => exact .refused
  | @made record data same =>
    have present : ∀ slot ∈ (t.schema strict).slots, slot.column ∈ header.names := by
      intro slot member
      obtain ⟨part, inside, rfl⟩ := List.mem_map.1 member
      exact perm.mem_iff.2 (List.mem_map_of_mem inside)
    change t.Accord t.columns _ (Schema.complete header.names data (t.schema strict).slots)
    rw [complete_present present]
    exact .made (same.congr fun _ => perm.mem_iff)

/-- A table that plans every time does what the schema does. -/
theorem convert_accord (initial : ρ) (strict : Bool) (entry : Entry) :
    t.Accord t.columns (t.bindings.convert initial header entry) ((t.schema strict).convert header entry) := by
  have converts : (t.schema strict).convert header entry = (entry.fieldsFor header.width).bind fun fields =>
      ((t.schema strict).read header.names fields).mapError entry.unconverted := rfl
  rw [Bindings.convert_of_matches (matches_of_perm perm), converts]
  rcases fits : entry.fieldsFor header.width with cause | fields
  · exact .refused
  · have once := columns_nodup perm
    have names : (header.names.zip fields).map Prod.fst = header.names :=
      List.map_fst_zip (Nat.le_of_eq (Entry.length_fieldsFor fits).symm)
    obtain ⟨outcome, sets⟩ := Bindings.Sets.total t.bindings (header.names.zip fields) initial
    have known : ∀ pair ∈ header.names.zip fields, pair.1 ∈ t.columns := fun pair inside =>
      perm.mem_iff.1 (names ▸ List.mem_map_of_mem inside)
    have accord : t.Accord ([] ++ (header.names.zip fields).map Prod.fst) outcome
        ((t.schema strict).fill ∅ (header.names.zip fields)) := (same_nil initial).accord once known sets
    rw [List.nil_append, names] at accord
    change t.Accord t.columns (Bindings.assign entry initial (fields.zip (t.bindings.plan header))) _
    rw [Bindings.plan, sets.assign_eq ((columns_bindings t).symm ▸ once)]
    exact (accord.read perm).mapError

end Header

/-- Two ways to convert to one type of records. Whatever a table has converted before, under a header of just its columns, in
whichever order, it makes a record of an entry if and only if the schema does, and both have the same in every part. -/
theorem conversions_accord (t : RecordType ρ) (initial : ρ) (strict : Bool) (calls : List (Header × Entry)) {header : Header}
    (perm : header.names.Perm t.columns) (entry : Entry) :
    t.Accord t.columns (((PlannedBindings.mk t.bindings none).after initial calls).convert initial header entry).1
      ((t.schema strict).convert header entry) := by
  obtain ⟨current, same⟩ := (PlannedBindings.current_mk t.bindings).after initial calls
  rw [(current.convert initial header entry).1, same]
  exact convert_accord perm initial strict entry

/-- A record with a part of each kind, two of which may be absent. -/
structure Account where
  id : String
  credit : UInt16
  grade : Option Char
  active : Option Bool
  deriving DecidableEq

/-- The grade of an account stands in a column of another name. -/
def account : RecordType Account where
  parts := [
    { name := "id", column := "id", type := .text, optional := false
      get := fun account => some (.text account.id)
      set := fun account value => match value with
        | some (.text id) => { account with id }
        | _ => account },
    { name := "credit", column := "credit", type := .integer (.natural 16), optional := false
      get := fun account => some (.integer account.credit.toNat)
      set := fun account value => match value with
        | some (.integer credit) => { account with credit := .ofNat credit.toNat }
        | _ => account },
    { name := "grade", column := "class", type := .character, optional := true
      get := fun account => account.grade.map .character
      set := fun account value => match value with
        | some (.character grade) => { account with grade := some grade }
        | _ => { account with grade := none } },
    { name := "active", column := "active", type := .flag, optional := true
      get := fun account => account.active.map .flag
      set := fun account value => match value with
        | some (.flag active) => { account with active := some active }
        | _ => { account with active := none } }]
  names_nodup := by decide
  get_set part member record value takes := by
    simp only [List.mem_cons, List.not_mem_nil, or_false] at member
    rcases member with rfl | rfl | rfl | rfl <;> rcases value with _ | _ | _ | _ | credit | _ <;>
      first | rfl | exact False.elim takes | exact absurd takes Bool.false_ne_true | skip
    -- What is left is the credit, whose range is the one it is stored in.
    have bound : min (0 : Int) 0 ≤ credit ∧ credit ≤ max 65535 0 := takes
    have fits : (UInt16.ofNat credit.toNat).toNat = credit.toNat := UInt16.toNat_ofNat_of_lt' (by change _ < 65536; omega)
    change some (Value.integer (UInt16.ofNat credit.toNat).toNat) = some (.integer credit)
    rw [fits, Int.toNat_of_nonneg (by omega)]
  get_set_other part member other inside apart record value := by
    simp only [List.mem_cons, List.not_mem_nil, or_false] at member inside
    rcases member with rfl | rfl | rfl | rfl <;> rcases inside with rfl | rfl | rfl | rfl <;>
      first | exact absurd rfl apart | (rcases value with _ | _ | _ | _ | _ | _ <;> rfl)

/-- An account is made under a header in another order than the one before, and past a header that was refused. Both ways make
the same of it, and both refuse an account whose credit is out of range. -/
theorem account_conversions_accord :
    let before : List (Header × Entry) :=
      [(⟨["id", "active", "class", "credit"], rfl, by decide, by decide⟩, ⟨"6", "6,true,A,0", ∅⟩),
        (⟨["id", "credit"], rfl, by decide, by decide⟩, ⟨"6", "6,0", ∅⟩)]
    let header : Header := ⟨["id", "class", "credit", "active"], rfl, by decide, by decide⟩
    let blank : Account := ⟨"", 0, none, none⟩
    let planned := (PlannedBindings.mk account.bindings none).after blank before
    let entry : Entry := ⟨"7", "7,\",\",65535,", ∅⟩
    let beyond : Entry := ⟨"8", "8,,65536,true", ∅⟩
    (account.Accord account.columns (planned.convert blank header entry).1 ((account.schema false).convert header entry) ∧
      (planned.convert blank header entry).1 = .ok ⟨"7", 65535, some ',', none⟩) ∧
      account.Accord account.columns (planned.convert blank header beyond).1 ((account.schema false).convert header beyond) ∧
      (planned.convert blank header beyond).1 =
        .error (.conversion "" "8" "credit = \"65536\": number too large to fit in target type") :=
  ⟨⟨conversions_accord account _ false _ (by decide) _, by decide +kernel⟩,
    conversions_accord account _ false _ (by decide) _, by decide +kernel⟩

end RecordType

end ReferenceFeed
