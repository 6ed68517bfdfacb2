import ReferenceFeed.Row

namespace ReferenceFeed

/-!
Ids composed of several parts. Parts are joined by slashes, and a backslash protects slashes and backslashes
inside a part, so that an id splits into the parts it was made of. An empty part reads back as an absent one.
-/

/-- Why a text is no composite id. -/
inductive IdFault where
  | invalidEscape (escaped : Char) (id : String)
  | danglingEscape (id : String)
  deriving DecidableEq, Repr

def IdFault.message : IdFault → String
  | .invalidEscape escaped id => s!"invalid escape sequence \\{escaped} in composite id {Text.quoted id}"
  | .danglingEscape id => s!"dangling escape at end of composite id {Text.quoted id}"

namespace CompositeId

/-- One part inside an id. -/
def protect : List Char → List Char
  | [] => []
  | c :: rest => if c = '\\' || c = '/' then '\\' :: c :: protect rest else c :: protect rest

/-- The parts of an id with slashes between them. -/
def joinParts : List Field → List Char
  | [] => []
  | [part] => protect (part.getD "").toList
  | part :: rest => protect (part.getD "").toList ++ '/' :: joinParts rest

/-- The id composed of some parts. -/
def compose (parts : List Field) : String := String.ofList (joinParts parts)

/-- Puts a character in front of the first piece. -/
def extendFirst (c : Char) : List (List Char) → List (List Char)
  | [] => [[c]]
  | piece :: rest => (c :: piece) :: rest

/-- The pieces between the slashes that nothing protects, with the protection taken away. The whole id is
only named in a fault. -/
def pieces (id : String) : List Char → Except IdFault (List (List Char))
  | [] => .ok [[]]
  | '\\' :: c :: rest =>
    if c = '\\' || c = '/' then (pieces id rest).map (extendFirst c) else .error (.invalidEscape c id)
  | ['\\'] => .error (.danglingEscape id)
  | '/' :: rest => (pieces id rest).map ([] :: ·)
  | c :: rest => (pieces id rest).map (extendFirst c)

/-- A piece without characters is an absent part. -/
def partOf (piece : List Char) : Field := if piece.isEmpty then none else some (String.ofList piece)

/-- The parts an id is composed of. -/
def parts (id : String) : Except IdFault (List Field) :=
  (pieces id id.toList).map (List.map partOf)

end CompositeId

end ReferenceFeed
