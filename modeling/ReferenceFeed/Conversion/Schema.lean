import ReferenceFeed.Conversion.Value

namespace ReferenceFeed

/-!
Conversion by the declared shape of a record. The columns of an entry are looked at in their order, each for
the slot that carries its name, so columns may be missing or unknown where the shape allows it.
-/

/-- What a slot of a record is made of. A field holds one text, so a slot of any other make is never filled. -/
inductive SlotType where
  | scalar (kind : Scalar)
  | other (expected : String)
  deriving DecidableEq, Repr

/-- What a slot is without a text for it. -/
inductive Need where
  | mandatory
  | optional
  /-- The value of a slot whose column is missing. -/
  | fallback (value : Value)
  deriving DecidableEq, Repr

/-- One slot of a record: its name, the column it is read from, and how. -/
structure Slot where
  name : String
  column : String
  type : SlotType
  need : Need
  deriving DecidableEq, Repr

/-- The slots of a record in the order of their declaration. A strict schema refuses other columns. -/
structure Schema where
  slots : List Slot
  strict : Bool := false
  deriving DecidableEq, Repr

/-- A record as a map from the names of its slots to their values. -/
abbrev DataRecord := Keyed (Option Value)

/-- Reads a text as what a slot is made of. -/
def SlotType.read (type : SlotType) (text : String) : Except String Value :=
  match type with
  | .scalar kind => (kind.read text).mapError fun reason => s!"{Text.quoted text}: {reason}"
  | .other expected => .error s!"invalid type: string {Text.quoted text}, expected {expected}"

namespace Slot

/-- The value of a slot for the field of its column. Only an optional slot can be absent there. -/
def ofField (slot : Slot) (field : Field) : Except String (Option Value) :=
  match field with
  | some text => (slot.type.read text).map some
  | none => if slot.need = .optional then .ok none else .error "null value for a non-optional field"

/-- The value of a slot whose column is missing. -/
def ofNothing (slot : Slot) : Except String (Option Value) :=
  match slot.need with
  | .mandatory => .error s!"missing field `{slot.column}`"
  | .optional => .ok none
  | .fallback value => .ok (some value)

end Slot

namespace Schema

/-- The slot that is read from a column. -/
def slot? (s : Schema) (column : String) : Option Slot := s.slots.find? fun slot => slot.column = column

/-- Why a strict schema refuses a column. -/
def unknownColumn (s : Schema) (column : String) : String :=
  s!"unknown field `{column}`, expected one of " ++
    String.intercalate ", " (s.slots.map fun slot => s!"`{slot.column}`")

/-- Fills the slots of a record from the columns that are there. -/
def fill (s : Schema) : DataRecord → List (String × Field) → Except String DataRecord
  | record, [] => .ok record
  | record, (column, field) :: rest =>
    match s.slot? column with
    | none => if s.strict then .error (s.unknownColumn column) else s.fill record rest
    | some slot =>
      match slot.ofField field with
      | .error reason => .error reason
      | .ok value => s.fill (record.insert slot.name value) rest

/-- Fills the slots whose columns are missing, in the order of their declaration. -/
def complete (columns : List String) : DataRecord → List Slot → Except String DataRecord
  | record, [] => .ok record
  | record, slot :: rest =>
    if columns.contains slot.column then complete columns record rest
    else match slot.ofNothing with
      | .error reason => .error reason
      | .ok value => complete columns (record.insert slot.name value) rest

/-- The record of some columns and their fields. -/
def read (s : Schema) (columns : List String) (fields : List Field) : Except String DataRecord := do
  complete columns (← s.fill ∅ (columns.zip fields)) s.slots

/-- Converts an entry. -/
def convert (s : Schema) : Converter DataRecord := fun header entry => do
  let fields ← entry.fieldsFor header.width
  (s.read header.names fields).mapError entry.unconverted

end Schema

end ReferenceFeed
