import ReferenceFeed.Text.Integer

namespace ReferenceFeed

/-!
Reading JSON texts. Members of an object keep their order and repeats, so that the reader of an object can
refuse what is said twice.
-/

/-- A JSON value. -/
inductive Json where
  | null
  | bool (value : Bool)
  /-- A number without sign, fraction and exponent. -/
  | natural (value : Nat)
  /-- Any other number. -/
  | number
  /-- `none` is a string with half a surrogate pair, which stands for no text. -/
  | string (text : Option String)
  | list (items : List Json)
  | object (members : List (Option String × Json))

namespace Json

/-- Drops blanks. -/
def skip : List Char → List Char := List.dropWhile fun c => c = ' ' || c = '\n' || c = '\t' || c = '\r'

/-- What follows a word, if the text starts with it. -/
def word? (expected : String) (text : List Char) : Option (List Char) :=
  if expected.toList.isPrefixOf text then some (text.drop expected.length) else none

/-- The value of a hexadecimal digit. -/
def hex? (c : Char) : Option Nat :=
  if c.isDigit then some (c.toNat - '0'.toNat)
  else if 'a' ≤ c ∧ c ≤ 'f' then some (c.toNat - 'a'.toNat + 10)
  else if 'A' ≤ c ∧ c ≤ 'F' then some (c.toNat - 'A'.toNat + 10)
  else none

/-- One unit of a string: a character or a surrogate. -/
inductive StringUnit where
  | char (c : Char)
  | surrogate (value : Nat)

/-- The unit that four hexadecimal digits name. -/
def StringUnit.ofCode (n : Nat) : StringUnit :=
  if 0xd800 ≤ n ∧ n ≤ 0xdfff then .surrogate n else .char (Char.ofNat n)

/-- The characters that an escape of one letter stands for. -/
def escapes : List (Char × Char) :=
  [('"', '"'), ('\\', '\\'), ('/', '/'), ('b', '\x08'), ('f', '\x0c'), ('n', '\n'), ('r', '\r'), ('t', '\t')]

/-- What follows an opening quote: the units up to the closing one, and the rest. Control characters have to
be escaped. -/
def readUnits : List Char → Option (List StringUnit × List Char)
  | [] => none
  | '"' :: rest => some ([], rest)
  | '\\' :: 'u' :: a :: b :: c :: d :: rest => do
    let code := (← hex? a) * 4096 + (← hex? b) * 256 + (← hex? c) * 16 + (← hex? d)
    let (units, after) ← readUnits rest
    return (.ofCode code :: units, after)
  | '\\' :: c :: rest => do
    let escaped ← escapes.lookup c
    let (units, after) ← readUnits rest
    return (.char escaped :: units, after)
  | c :: rest =>
    if c.toNat < 0x20 then none
    else (readUnits rest).map fun (units, after) => (.char c :: units, after)

/-- Joins pairs of surrogates into characters. -/
def joinUnits : List StringUnit → Option (List Char)
  | [] => some []
  | .char c :: rest => (joinUnits rest).map (c :: ·)
  | .surrogate high :: .surrogate low :: rest =>
    if high < 0xdc00 ∧ 0xdc00 ≤ low then
      (joinUnits rest).map (Char.ofNat (0x10000 + (high - 0xd800) * 1024 + (low - 0xdc00)) :: ·)
    else none
  | .surrogate _ :: _ => none

/-- A string after its opening quote. -/
def readString (text : List Char) : Option (Option String × List Char) :=
  (readUnits text).map fun (units, rest) => ((joinUnits units).map String.ofList, rest)

/-- Digits, at least one. -/
def digits? (text : List Char) : Option (List Char × List Char) :=
  let run := text.takeWhile Char.isDigit
  if run.isEmpty then none else some (run, text.dropWhile Char.isDigit)

/-- What follows the exponent of a number, if there is one. -/
def skipExponent (text : List Char) : Option (Bool × List Char) :=
  let afterSign (rest : List Char) : List Char :=
    match rest with
    | '+' :: more => more
    | '-' :: more => more
    | more => more
  match text with
  | 'e' :: rest => (digits? (afterSign rest)).map fun (_, after) => (true, after)
  | 'E' :: rest => (digits? (afterSign rest)).map fun (_, after) => (true, after)
  | rest => some (false, rest)

/-- What follows the fraction of a number, if there is one. -/
def skipFraction (text : List Char) : Option (Bool × List Char) :=
  match text with
  | '.' :: rest => (digits? rest).map fun (_, after) => (true, after)
  | rest => some (false, rest)

/-- A number. Its digits do not start with a zero unless that is all of them. -/
def readNumber (text : List Char) : Option (Json × List Char) := do
  let (negative, unsigned) := match text with
    | '-' :: rest => (true, rest)
    | rest => (false, rest)
  let (whole, rest) ← digits? unsigned
  if whole.length > 1 && whole.head? == some '0' then none
  let (fraction, rest) ← skipFraction rest
  let (exponent, rest) ← skipExponent rest
  if negative || fraction || exponent then return (.number, rest)
  else return (.natural (whole.foldl (fun n c => n * 10 + (c.toNat - '0'.toNat)) 0), rest)

mutual

/-- A value with the blanks before it. Each level of nesting and each further item takes one step of the bound. -/
def readValue : Nat → List Char → Option (Json × List Char)
  | 0, _ => none
  | bound + 1, text =>
    match skip text with
    | '"' :: rest => (readString rest).map fun (value, after) => (.string value, after)
    | '[' :: rest =>
      match skip rest with
      | ']' :: after => some (.list [], after)
      | rest => (readItems bound rest).map fun (items, after) => (.list items, after)
    | '\x7b' :: rest =>
      match skip rest with
      | '\x7d' :: after => some (.object [], after)
      | rest => (readMembers bound rest).map fun (members, after) => (.object members, after)
    | rest =>
      match word? "null" rest, word? "true" rest, word? "false" rest with
      | some after, _, _ => some (.null, after)
      | _, some after, _ => some (.bool true, after)
      | _, _, some after => some (.bool false, after)
      | _, _, _ => readNumber rest

/-- The items of a list that has some. -/
def readItems : Nat → List Char → Option (List Json × List Char)
  | 0, _ => none
  | bound + 1, text =>
    match readValue bound text with
    | none => none
    | some (item, rest) =>
      match skip rest with
      | ']' :: after => some ([item], after)
      | ',' :: rest => (readItems bound rest).map fun (items, after) => (item :: items, after)
      | _ => none

/-- The members of an object that has some. -/
def readMembers : Nat → List Char → Option (List (Option String × Json) × List Char)
  | 0, _ => none
  | bound + 1, text =>
    match skip text with
    | '"' :: rest =>
      match readString rest with
      | none => none
      | some (name, rest) =>
        match skip rest with
        | ':' :: rest =>
          match readValue bound rest with
          | none => none
          | some (value, rest) =>
            match skip rest with
            | '\x7d' :: after => some ([(name, value)], after)
            | ',' :: rest => (readMembers bound rest).map fun (members, after) => ((name, value) :: members, after)
            | _ => none
        | _ => none
    | _ => none

end

/-- The value of a whole text. Every step of the reader takes a character, so the length of the text bounds them. -/
def ofText (text : String) : Option Json :=
  match readValue (text.length + 1) text.toList with
  | some (value, rest) => if (skip rest).isEmpty then some value else none
  | none => none

end Json

end ReferenceFeed
