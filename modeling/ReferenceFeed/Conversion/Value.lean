import ReferenceFeed.Failure
import ReferenceFeed.Text.Binary
import ReferenceFeed.Text.Integer

namespace ReferenceFeed

/-!
Typed values of fields, and the texts they are read from.
-/

/-- What a field is read as. -/
inductive Scalar where
  | text
  | flag
  | character
  | integer (range : Text.IntegerRange)
  | binary (format : Text.BinaryFormat)
  deriving DecidableEq, Repr

/-- A value that was read. Of a binary number the bits are kept, which the value that is no number has none of. -/
inductive Value where
  | text (text : String)
  | flag (value : Bool)
  | character (c : Char)
  | integer (value : Int)
  | binary (format : Text.BinaryFormat) (bits : Option Nat)
  deriving DecidableEq, Repr

/-- The text of a value, which a flag has none of. A binary number is written by its bits. -/
def Value.text? : Value → Option String
  | .text written => some written
  | .flag _ => none
  | .character c => some (String.singleton c)
  | .integer value => some (toString value)
  | .binary format bits =>
    let width := format.precision + format.exponentBits
    let shown : List Char := match bits with
      | none => "nan".toList
      | some n => List.replicate (width / 4 - (Nat.toDigits 16 n).length) '0' ++ Nat.toDigits 16 n
    some s!"f{width}:{String.ofList shown}"

namespace Scalar

/-- The value a text is read as, or why it cannot be. -/
def read (scalar : Scalar) (text : String) : Except String Value :=
  match scalar with
  | .text => .ok (.text text)
  | .flag =>
    if text = "true" then .ok (.flag true)
    else if text = "false" then .ok (.flag false)
    else .error "provided string was not `true` or `false`"
  | .character =>
    match text.toList with
    | [] => .error "cannot parse char from empty string"
    | [c] => .ok (.character c)
    | _ => .error "too many characters in string"
  | .integer range =>
    match Text.readInteger range text.toList with
    | .ok value => .ok (.integer value)
    | .error fault => .error fault.message
  | .binary format =>
    match Text.readDecimal text.toList with
    | .ok decimal => .ok (.binary format (format.bits decimal))
    | .error fault => .error fault.message

end Scalar

/-- Turns an entry into a record. -/
abbrev Converter (ρ : Type) := Header → Entry → Except Failure ρ

namespace Entry

/-- The entry cannot be converted, for a reason found in it. The entity is not known here. -/
def unconverted (entry : Entry) (reason : String) : Failure := .conversion "" entry.id reason

/-- The fields of an entry, as many as there are columns. -/
def fieldsFor (entry : Entry) (width : Nat) : Except Failure (List Field) :=
  match entry.fields with
  | .error fault => .error (.encoding (.unsplit fault))
  | .ok fields =>
    if fields.length = width then .ok fields
    else .error (entry.unconverted s!"{fields.length} fields for {width} columns")

end Entry

end ReferenceFeed
