import ReferenceFeed.Row

namespace ReferenceFeed

/-!
The columns of an entity. The first column is the id, and every other column has a name of its own.
-/

/-- The name of the first column. -/
def idColumn : String := "id"

/-- Why some names are no header. -/
inductive HeaderFault where
  | idNotFirst (names : List String)
  | emptyName (names : List String)
  | repeatedName (names : List String)
  | absentName
  deriving DecidableEq, Repr

def HeaderFault.message : HeaderFault → String
  | .idNotFirst names => s!"{idColumn} must be the first column: {Text.quotedList names}"
  | .emptyName names => s!"empty column name in {Text.quotedList names}"
  | .repeatedName names => s!"duplicate column name in {Text.quotedList names}"
  | .absentName => "null column name in header"

/-- The names of the columns, in order. -/
structure Header where
  names : List String
  id_first : names.head? = some idColumn
  names_nonempty : "" ∉ names
  names_nodup : names.Nodup
  deriving DecidableEq

namespace Header

/-- The header with the given names. Of several faults the first in the order of the checks is reported. -/
def ofNames (names : List String) : Except HeaderFault Header :=
  if first : names.head? = some idColumn then
    if nonempty : "" ∉ names then
      if nodup : names.Nodup then .ok ⟨names, first, nonempty, nodup⟩ else .error (.repeatedName names)
    else .error (.emptyName names)
  else .error (.idNotFirst names)

/-- The header that a record of fields spells out. -/
def ofFields (fields : List Field) : Except HeaderFault Header :=
  match fields.mapM id with
  | none => .error .absentName
  | some names => ofNames names

/-- The header as a row. -/
def text (header : Header) : String := Row.render (header.names.map some)

/-- The number of columns. -/
def width (header : Header) : Nat := header.names.length

/-- Where a column stands, counted from the id at zero. -/
def position? (header : Header) (name : String) : Option Nat := header.names.findIdx? (· == name)

/-- A header inside a message. -/
def shown (header : Header) : String := s!"Columns({header.text})"

end Header

end ReferenceFeed
