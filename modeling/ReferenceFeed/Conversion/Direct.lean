import ReferenceFeed.Conversion.Bindings
import ReferenceFeed.Conversion.Schema

namespace ReferenceFeed

/-!
Conversions that take the fields as they are, and tables that are put together from a description.
-/

namespace Converter

/-- The record of the whole row. -/
def row : Converter DataRecord := fun _ entry => .ok ((∅ : DataRecord).insert "row" (some (.text entry.row)))

/-- The record with a part for each column. -/
def columns : Converter DataRecord := fun header entry => do
  let fields ← entry.fieldsFor header.width
  return (header.names.zip fields).foldl (fun record (name, field) => record.insert name (field.map .text)) ∅

/-- The record with a part for each column that has a field. Fields with a certain text are refused. -/
def refusing (text : String) : Converter DataRecord := fun header entry =>
  match entry.fields with
  | .error fault => .error (.encoding (.unsplit fault))
  | .ok fields => (header.names.zip fields).foldlM (fun (record : DataRecord) (name, field) =>
      if field = some text then .error (.origin s!"{name} refused") else .ok (record.insert name (field.map .text))) ∅

end Converter

/-- How a column of a described table is bound. -/
inductive BindingForm where
  | required (type : Scalar)
  | optional (type : Scalar)
  | ignored
  /-- Takes any field but a certain text. -/
  | refusing (text : String)
  deriving DecidableEq, Repr

/-- Binds a column as described. The part of the record has the name of the column. -/
def BindingForm.addTo (table : Bindings DataRecord) (column : String) : BindingForm → Bindings DataRecord
  | .required type => table.required column type fun record value => record.insert column (some value)
  | .optional type => table.optional column type fun record value => record.insert column value
  | .ignored => table.ignore column
  | .refusing text => table.bind column fun record field =>
    if field = some text then .error s!"{column} is {text}" else .ok (record.insert column (field.map .text))

/-- The table of described columns. -/
def Bindings.ofForms (columns : List (String × BindingForm)) : Bindings DataRecord :=
  columns.foldl (fun table (column, form) => form.addTo table column) {}

/-- A way to convert entries. -/
inductive Conversion where
  | table (bindings : Bindings DataRecord)
  | schema (shape : Schema)
  | direct (convert : Converter DataRecord)

namespace Conversion

/-- The conversion of one entry. -/
def converter : Conversion → Converter DataRecord
  | .table bindings => bindings.convert ∅
  | .schema shape => shape.convert
  | .direct convert => convert

/-- Converts entries one after the other. A table keeps its plan from one to the next. -/
def convertAll (conversion : Conversion) (entries : List (Header × Entry)) : List (Except Failure DataRecord) :=
  match conversion with
  | .table bindings => (PlannedBindings.mk bindings none).convertAll ∅ entries
  | conversion => entries.map fun (header, entry) => conversion.converter header entry

end Conversion

end ReferenceFeed
