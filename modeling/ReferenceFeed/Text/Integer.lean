namespace ReferenceFeed.Text

/-!
Reading whole numbers of a fixed range. Digits are read from the left, so of two faults in one text the
leftmost is reported: a number that has left its range is refused before a later character is looked at.
-/

/-- Why a text is no number of the range asked for. -/
inductive IntegerFault where
  | empty
  | invalidDigit
  | tooLarge
  | tooSmall
  deriving DecidableEq, Repr

def IntegerFault.message : IntegerFault → String
  | .empty => "cannot parse integer from empty string"
  | .invalidDigit => "invalid digit found in string"
  | .tooLarge => "number too large to fit in target type"
  | .tooSmall => "number too small to fit in target type"

/-- A range of whole numbers. -/
structure IntegerRange where
  least : Int
  greatest : Int
  deriving DecidableEq, Repr

/-- The numbers of `bits` bits without a sign. -/
def IntegerRange.natural (bits : Nat) : IntegerRange := ⟨0, Nat.pow 2 bits - 1⟩

/-- The numbers of `bits` bits in two's complement. -/
def IntegerRange.signed (bits : Nat) : IntegerRange := ⟨-Nat.pow 2 (bits - 1), Nat.pow 2 (bits - 1) - 1⟩

/-- The value of a decimal digit. -/
def digit? (c : Char) : Option Nat :=
  if c.isDigit then some (c.toNat - '0'.toNat) else none

/-- Appends digits to a magnitude that may not exceed `limit`. -/
def readMagnitude (limit : Nat) (overflow : IntegerFault) : Nat → List Char → Except IntegerFault Nat
  | magnitude, [] => .ok magnitude
  | magnitude, c :: rest =>
    match digit? c with
    | none => .error .invalidDigit
    | some d => if limit < magnitude * 10 + d then .error overflow else readMagnitude limit overflow (magnitude * 10 + d) rest

/-- A number of `range`, with an optional sign. A minus sign is a sign only where the range has negative
numbers; a sign alone is no number. -/
def readInteger (range : IntegerRange) (text : List Char) : Except IntegerFault Int :=
  match text with
  | [] => .error .empty
  | ['+'] | ['-'] => .error .invalidDigit
  | '+' :: digits => (readMagnitude range.greatest.toNat .tooLarge 0 digits).map Int.ofNat
  | '-' :: digits =>
    if range.least < 0 then (readMagnitude (-range.least).toNat .tooSmall 0 digits).map fun n => -Int.ofNat n
    else .error .invalidDigit
  | digits => (readMagnitude range.greatest.toNat .tooLarge 0 digits).map Int.ofNat

end ReferenceFeed.Text
