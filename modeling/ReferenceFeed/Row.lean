import ReferenceFeed.Text.Quoted

namespace ReferenceFeed

/-!
Rows of delimited fields. Nothing between two commas is the absent field, a pair of quotes is the empty text,
and quotes protect commas, quotes and line breaks inside a field. What is rendered here reads back as it was.
-/

/-- A field holds a text or nothing. -/
abbrev Field := Option String

/-- Why a text is no row. Positions count the UTF-8 bytes before the fault, from the start of the whole text. -/
inductive RowFault where
  | unterminatedQuote (position : Nat)
  | strayQuote (field : String)
  | afterQuote (position : Nat)
  deriving DecidableEq, Repr

def RowFault.message : RowFault → String
  | .unterminatedQuote position => s!"unterminated quoted field starting at byte {position}"
  | .strayQuote field => s!"unexpected quote in unquoted field: {Text.quoted field}"
  | .afterQuote position => s!"unexpected character after quoted field at byte {position}"

namespace Row

/-- The characters that end a field which no quotes protect. -/
def isBreak (c : Char) : Bool := c = ',' || c = '\n' || c = '\r'

/-- Whether a field has to be quoted to read back as it is. -/
def needsQuotes (text : List Char) : Bool := text.any fun c => isBreak c || c = '"'

/-- Writes each quote twice. -/
def doubled : List Char → List Char
  | [] => []
  | c :: rest => if c = '"' then '"' :: '"' :: doubled rest else c :: doubled rest

/-- The written form of a field. -/
def encode : Field → List Char
  | none => []
  | some text =>
    if text.toList.isEmpty || needsQuotes text.toList then '"' :: doubled text.toList ++ ['"'] else text.toList

/-- The fields of a row with commas between them. -/
def encodeAll : List Field → List Char
  | [] => []
  | [field] => encode field
  | field :: rest => encode field ++ ',' :: encodeAll rest

/-- The written form of a row. -/
def render (fields : List Field) : String := String.ofList (encodeAll fields)

/-- The size of a text in UTF-8. -/
def byteSize : List Char → Nat
  | [] => 0
  | c :: rest => c.utf8Size + byteSize rest

/-- What follows an opening quote: the text up to the closing quote, and the rest after it. -/
def readQuoted : List Char → Option (List Char × List Char)
  | [] => none
  | '"' :: '"' :: rest => (readQuoted rest).map fun (text, after) => ('"' :: text, after)
  | '"' :: rest => some ([], rest)
  | c :: rest => (readQuoted rest).map fun (text, after) => (c :: text, after)

/-- The first field of a text whose last `byteSize text` bytes out of `total` are left, and the rest after it.
A field without quotes ends before the next break. -/
def readField (total : Nat) (text : List Char) : Except RowFault (Field × List Char) :=
  match text with
  | '"' :: inside =>
    match readQuoted inside with
    | none => .error (.unterminatedQuote (total - byteSize text))
    | some (value, rest) => .ok (some (String.ofList value), rest)
  | text =>
    let raw := text.takeWhile fun c => !isBreak c
    let rest := text.dropWhile fun c => !isBreak c
    if '"' ∈ raw then .error (.strayQuote (String.ofList raw))
    else if raw.isEmpty then .ok (none, rest) else .ok (some (String.ofList raw), rest)

theorem readQuoted_length {text value rest : List Char} (read : readQuoted text = some (value, rest)) :
    rest.length < text.length := by
  fun_induction readQuoted text generalizing value rest with
  | case1 => cases read
  | case2 tail ih =>
    obtain ⟨⟨value', rest'⟩, inner, same⟩ := Option.map_eq_some_iff.1 read
    cases same
    have := ih inner
    simp only [List.length_cons]; omega
  | case3 tail => cases read; simp
  | case4 c tail _ _ ih =>
    obtain ⟨⟨value', rest'⟩, inner, same⟩ := Option.map_eq_some_iff.1 read
    cases same
    have := ih inner
    simp only [List.length_cons]; omega

theorem readField_length {total : Nat} {text rest : List Char} {field : Field}
    (read : readField total text = .ok (field, rest)) : rest.length ≤ text.length := by
  unfold readField at read
  split at read
  · split at read
    · cases read
    · next inside value after inner =>
      cases read
      have := readQuoted_length inner
      simp only [List.length_cons]; omega
  · have bound := (List.dropWhile_suffix (l := text) fun c => !isBreak c).length_le
    dsimp only at read
    split at read
    · cases read
    · split at read <;> (cases read; exact bound)

/-- What stands behind a field. -/
inductive FieldEnd where
  | comma (rest : List Char)
  | lineBreak (rest : List Char)
  | other
  deriving DecidableEq, Repr

/-- A carriage return and the line feed after it are one line break, and so is the end of the text. -/
def fieldEnd : List Char → FieldEnd
  | [] => .lineBreak []
  | ',' :: rest => .comma rest
  | '\n' :: rest => .lineBreak rest
  | '\r' :: '\n' :: rest => .lineBreak rest
  | '\r' :: rest => .lineBreak rest
  | _ => .other

theorem fieldEnd_comma {text rest : List Char} (atEnd : fieldEnd text = .comma rest) : text = ',' :: rest := by
  unfold fieldEnd at atEnd
  split at atEnd <;> simp_all

theorem fieldEnd_lineBreak {text rest : List Char} (atEnd : fieldEnd text = .lineBreak rest) :
    text = [] ∧ rest = [] ∨ rest.length < text.length := by
  unfold fieldEnd at atEnd
  split at atEnd
  · cases atEnd; exact .inl ⟨rfl, rfl⟩
  · cases atEnd
  · cases atEnd; exact .inr (Nat.lt_succ_self _)
  · cases atEnd; exact .inr (by simp only [List.length_cons]; omega)
  · cases atEnd; exact .inr (Nat.lt_succ_self _)
  · cases atEnd

/-- The first record of a text: its fields, and the rest after the line break that ends it. -/
def readRecord (total : Nat) (text : List Char) : Except RowFault (List Field × List Char) :=
  match _read : readField total text with
  | .error fault => .error fault
  | .ok (field, rest) =>
    match _atEnd : fieldEnd rest with
    | .lineBreak after => .ok ([field], after)
    | .other => .error (.afterQuote (total - byteSize rest))
    | .comma more =>
      match readRecord total more with
      | .error fault => .error fault
      | .ok (fields, after) => .ok (field :: fields, after)
termination_by text.length
decreasing_by
  have bound := readField_length _read
  rw [fieldEnd_comma _atEnd, List.length_cons] at bound; omega

/-- A record takes at least one character of a text that has any. -/
theorem readRecord_length {total : Nat} {text rest : List Char} {fields : List Field}
    (read : readRecord total text = .ok (fields, rest)) : rest.length < text.length ∨ text = [] ∧ rest = [] := by
  fun_induction readRecord total text generalizing fields rest with
  | case1 | case3 | case4 => cases read
  | case2 text field rest' bound after atEnd =>
    cases read
    have shorter := readField_length bound
    rcases fieldEnd_lineBreak atEnd with ⟨rfl, rfl⟩ | less
    · cases text with
      | nil => exact .inr ⟨rfl, rfl⟩
      | cons => exact .inl (by simp)
    · exact .inl (by omega)
  | case5 text field rest' bound more atEnd fields' after again ih =>
    cases read
    have shorter := readField_length bound
    rw [fieldEnd_comma atEnd, List.length_cons] at shorter
    rcases ih again with less | ⟨rfl, rfl⟩
    · exact .inl (by omega)
    · exact .inl (by simp only [List.length_nil] at *; omega)

/-- The records of a text. Line breaks before a record are blank lines, and nothing is read after a fault. -/
def readRecords (total : Nat) (text : List Char) : List (Except RowFault (List Field)) :=
  match text with
  | [] => []
  | '\n' :: rest => readRecords total rest
  | '\r' :: rest => readRecords total rest
  | c :: rest =>
    match _read : readRecord total (c :: rest) with
    | .error fault => [.error fault]
    | .ok (fields, after) => .ok fields :: readRecords total after
termination_by text.length
decreasing_by
  · simp
  · simp
  · rcases readRecord_length _read with less | ⟨absurd, _⟩
    · exact less
    · cases absurd

/-- The records of a text with many lines. -/
def records (text : String) : List (Except RowFault (List Field)) :=
  readRecords (byteSize text.toList) text.toList

end Row

/-- Why a text is not exactly one row. -/
inductive SplitFault where
  | row (fault : RowFault)
  | several (text : String)
  deriving DecidableEq, Repr

def SplitFault.message : SplitFault → String
  | .row fault => fault.message
  | .several text => s!"row holds more than one record: {Text.quoted text}"

/-- The fields of a text that is one row, with at most one line break at its end. -/
def Row.split (text : String) : Except SplitFault (List Field) :=
  match Row.readRecord (Row.byteSize text.toList) text.toList with
  | .error fault => .error (.row fault)
  | .ok (fields, rest) => if rest.isEmpty then .ok fields else .error (.several text)

end ReferenceFeed
