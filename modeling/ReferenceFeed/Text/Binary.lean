namespace ReferenceFeed.Text

/-!
Reading decimal numbers into binary floating point. The value of the text is kept as an exact fraction and
rounded once, to the nearest representable number and to an even last bit on a tie.
-/

/-- A binary interchange format: the bits of the significand, the first one included, and the bits of the exponent. -/
structure BinaryFormat where
  precision : Nat
  exponentBits : Nat
  deriving DecidableEq, Repr

def BinaryFormat.single : BinaryFormat := ⟨24, 8⟩

def BinaryFormat.double : BinaryFormat := ⟨53, 11⟩

/-- A number read from a text. -/
inductive Decimal where
  | finite (negative : Bool) (significand : Nat) (exponent : Int)
  | infinite (negative : Bool)
  | notANumber
  deriving DecidableEq, Repr

inductive DecimalFault where
  | empty
  | invalid
  deriving DecidableEq, Repr

def DecimalFault.message : DecimalFault → String
  | .empty => "cannot parse float from empty string"
  | .invalid => "invalid float literal"

/-- The number that a run of digits stands for. -/
def magnitude (digits : List Char) : Nat :=
  digits.foldl (fun n c => n * 10 + (c.toNat - '0'.toNat)) 0

/-- The exponent that ends a number: nothing, or a letter `e`, an optional sign and digits. -/
def readExponent : List Char → Option Int
  | [] => some 0
  | c :: rest =>
    let digits (text : List Char) : Option Nat :=
      if text.isEmpty || !text.all Char.isDigit then none else some (magnitude text)
    if c = 'e' ∨ c = 'E' then
      match rest with
      | '+' :: text => (digits text).map Int.ofNat
      | '-' :: text => (digits text).map fun n => -Int.ofNat n
      | text => (digits text).map Int.ofNat
    else none

/-- An unsigned number: digits with at most one point among or beside them, then an exponent, or a word.
The words are read in any case of their letters. -/
def readUnsigned (negative : Bool) (text : List Char) : Option Decimal :=
  let word := text.map Char.toLower
  if word = "inf".toList ∨ word = "infinity".toList then some (.infinite negative)
  else if word = "nan".toList then some .notANumber
  else
    let whole := text.takeWhile Char.isDigit
    let (fraction, rest) :=
      match text.dropWhile Char.isDigit with
      | '.' :: rest => (rest.takeWhile Char.isDigit, rest.dropWhile Char.isDigit)
      | rest => ([], rest)
    if whole.isEmpty && fraction.isEmpty then none
    else (readExponent rest).map fun e => .finite negative (magnitude (whole ++ fraction)) (e - fraction.length)

/-- A number with an optional sign. -/
def readDecimal (text : List Char) : Except DecimalFault Decimal :=
  let read : Option Decimal :=
    match text with
    | '+' :: rest => readUnsigned false rest
    | '-' :: rest => readUnsigned true rest
    | rest => readUnsigned false rest
  match text, read with
  | [], _ => .error .empty
  | _, none => .error .invalid
  | _, some d => .ok d

/-- The whole number nearest to a fraction, the even one of two that are equally near. -/
def nearest (num den : Nat) : Nat :=
  let q := num / den
  let r := num % den
  if 2 * r < den then q else if den < 2 * r then q + 1 else if q % 2 = 0 then q else q + 1

/-- The exponent of two at which the fraction `num / den` fills a significand of `precision` bits. The sizes
of the two parts leave one of two neighbours. -/
def scaleOf (precision num den : Nat) : Int :=
  let lower := (Nat.log2 num : Int) - Nat.log2 den - precision
  if num * Nat.pow 2 (-lower).toNat < den * Nat.pow 2 lower.toNat * Nat.pow 2 precision then lower else lower + 1

namespace BinaryFormat

/-- The biased exponent of infinities. -/
def topExponent (f : BinaryFormat) : Nat := Nat.pow 2 f.exponentBits - 1

/-- The exponent of two of the last bit of the smallest numbers. -/
def leastScale (f : BinaryFormat) : Int := 3 - Nat.pow 2 (f.exponentBits - 1) - f.precision

/-- The bits of infinity, which are also the first bits past every finite number. -/
def infinity (f : BinaryFormat) : Nat := f.topExponent * Nat.pow 2 (f.precision - 1)

/-- The bits of the number nearest to a positive fraction. A significand that rounds up to the next power of
two carries into the exponent by itself. -/
def roundFraction (f : BinaryFormat) (num den : Nat) : Nat :=
  let scale := max (scaleOf f.precision num den) f.leastScale
  let significand := nearest (num * Nat.pow 2 (-scale).toNat) (den * Nat.pow 2 scale.toNat)
  let bits := (scale - f.leastScale).toNat * Nat.pow 2 (f.precision - 1) + significand
  min bits f.infinity

/-- Past these powers of ten a number is infinite or zero in every format, whatever its digits. -/
def reach : Int := 400

/-- The magnitude of a finite number. A number whose size alone decides the answer is not expanded. -/
def roundFinite (f : BinaryFormat) (significand : Nat) (exponent : Int) : Nat :=
  let digits : Int := (Nat.toDigits 10 significand).length
  if significand = 0 then 0
  else if digits + exponent > reach then f.infinity
  else if digits + exponent < -reach then 0
  else f.roundFraction (significand * Nat.pow 10 exponent.toNat) (Nat.pow 10 (-exponent).toNat)

/-- The bits of a magnitude with its sign, which stands above the exponent. -/
def withSign (f : BinaryFormat) (negative : Bool) (magnitude : Nat) : Nat :=
  if negative then magnitude + Nat.pow 2 (f.precision - 1 + f.exponentBits) else magnitude

/-- The bits of a number. `none` is the value that is no number. -/
def bits (f : BinaryFormat) : Decimal → Option Nat
  | .finite negative significand exponent => some (f.withSign negative (f.roundFinite significand exponent))
  | .infinite negative => some (f.withSign negative f.infinity)
  | .notANumber => none

end BinaryFormat

end ReferenceFeed.Text
