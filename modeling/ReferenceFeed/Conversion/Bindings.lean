import ReferenceFeed.Conversion.Value

namespace ReferenceFeed

/-!
Conversion by a table that binds columns to the parts of a record. The columns of an entry have to match the
table one to one, apart from columns that are ignored on purpose. A table remembers how it matched the last
header, which saves the match and changes no answer.
-/

/-- A column, and what its field does to a record. -/
structure Binding (ρ : Type) where
  column : String
  set : ρ → Field → Except String ρ

/-- The bound columns, in the order they were bound, and the ignored ones. -/
structure Bindings (ρ : Type) where
  bound : List (Binding ρ) := []
  ignored : Names := ∅

namespace Bindings

variable {ρ : Type}

/-- Binds one more column. -/
def bind (t : Bindings ρ) (column : String) (set : ρ → Field → Except String ρ) : Bindings ρ :=
  { t with bound := t.bound ++ [⟨column, set⟩] }

/-- Reads a text under the name of its column. -/
def readAs (column : String) (scalar : Scalar) (text : String) : Except String Value :=
  (scalar.read text).mapError fun reason => s!"{column} = {Text.quoted text}: {reason}"

/-- Binds a column that has to hold a text. -/
def required (t : Bindings ρ) (column : String) (scalar : Scalar) (assign : ρ → Value → ρ) : Bindings ρ :=
  t.bind column fun record field =>
    match field with
    | none => .error s!"{column} is null"
    | some text => (readAs column scalar text).map (assign record)

/-- Binds a column that may hold nothing. -/
def optional (t : Bindings ρ) (column : String) (scalar : Scalar) (assign : ρ → Option Value → ρ) : Bindings ρ :=
  t.bind column fun record field =>
    match field with
    | none => .ok (assign record none)
    | some text => (readAs column scalar text).map fun value => assign record (some value)

/-- Accepts a column without binding it. -/
def ignore (t : Bindings ρ) (column : String) : Bindings ρ := { t with ignored := t.ignored.insert column }

/-- The bound columns. -/
def columns (t : Bindings ρ) : List String := t.bound.map Binding.column

/-- Checks that the columns of a header and the bound ones correspond. -/
def validate (t : Bindings ρ) (header : Header) : Except EncodingFault Unit :=
  if ¬ t.columns.Nodup then .error (.boundTwice t.columns)
  else
    let unbound := header.names.filter fun name => !t.columns.contains name && !t.ignored.contains name
    let missing := t.columns.filter fun column => !header.names.contains column
    if unbound.isEmpty && missing.isEmpty then .ok () else .error (.unmatched header unbound missing)

/-- Which binding each column of a header has. -/
def plan (t : Bindings ρ) (header : Header) : List (Option (Binding ρ)) :=
  header.names.map fun name => t.bound.find? fun binding => binding.column = name

/-- Sets the parts of a record, field by field. -/
def assign (entry : Entry) : ρ → List (Field × Option (Binding ρ)) → Except Failure ρ
  | record, [] => .ok record
  | record, (_, none) :: rest => assign entry record rest
  | record, (field, some binding) :: rest =>
    match binding.set record field with
    | .error reason => .error (entry.unconverted reason)
    | .ok record => assign entry record rest

/-- Builds a record along a plan. -/
def build (initial : ρ) (steps : List (Option (Binding ρ))) (entry : Entry) : Except Failure ρ := do
  let fields ← entry.fieldsFor steps.length
  assign entry initial (fields.zip steps)

/-- Converts an entry, starting from a record without any of its parts. -/
def convert (t : Bindings ρ) (initial : ρ) : Converter ρ := fun header entry => do
  (t.validate header).mapError .encoding
  build initial (t.plan header) entry

end Bindings

/-- A table with the plan of the header it matched last. -/
structure PlannedBindings (ρ : Type) where
  table : Bindings ρ
  last : Option (Header × List (Option (Binding ρ))) := none

namespace PlannedBindings

variable {ρ : Type}

/-- The plan for a header, remembered when it is new. -/
def planFor (t : PlannedBindings ρ) (header : Header) :
    Except Failure (List (Option (Binding ρ))) × PlannedBindings ρ :=
  let renew : Except Failure (List (Option (Binding ρ))) × PlannedBindings ρ :=
    match t.table.validate header with
    | .error fault => (.error (.encoding fault), t)
    | .ok _ => (.ok (t.table.plan header), { t with last := some (header, t.table.plan header) })
  match t.last with
  | some (known, steps) => if known = header then (.ok steps, t) else renew
  | none => renew

/-- Converts an entry, and keeps what was learned about its header. -/
def convert (t : PlannedBindings ρ) (initial : ρ) (header : Header) (entry : Entry) :
    Except Failure ρ × PlannedBindings ρ :=
  match t.planFor header with
  | (.error failure, t) => (.error failure, t)
  | (.ok steps, t) => (Bindings.build initial steps entry, t)

/-- Converts entries one after the other. -/
def convertAll (t : PlannedBindings ρ) (initial : ρ) : List (Header × Entry) → List (Except Failure ρ)
  | [] => []
  | (header, entry) :: rest =>
    (t.convert initial header entry).1 :: (t.convert initial header entry).2.convertAll initial rest

end PlannedBindings

end ReferenceFeed
