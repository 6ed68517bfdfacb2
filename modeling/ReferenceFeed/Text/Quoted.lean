import ReferenceFeed.Text.Hidden

namespace ReferenceFeed.Text

/-!
Quoted text, as messages show the values they speak about. A value can be told from the words around it,
and no character of it can break a line or hide.
-/

/-- One character inside quotes. The double quote and the backslash are escaped because they have a meaning
there; the single quote has none and stays. -/
def escaped (c : Char) : List Char :=
  match c with
  | '"' => ['\\', '"']
  | '\\' => ['\\', '\\']
  | '\n' => ['\\', 'n']
  | '\r' => ['\\', 'r']
  | '\t' => ['\\', 't']
  | '\x00' => ['\\', '0']
  | c => if hidden c then '\\' :: 'u' :: '\x7b' :: Nat.toDigits 16 c.toNat ++ ['\x7d'] else [c]

/-- A text between double quotes. -/
def quoted (text : String) : String :=
  String.ofList ('"' :: text.toList.flatMap escaped ++ ['"'])

/-- A list of values that are already written out, between brackets. -/
def bracketed (items : List String) : String :=
  "[" ++ String.intercalate ", " items ++ "]"

/-- A list of quoted texts. -/
def quotedList (texts : List String) : String :=
  bracketed (texts.map quoted)

end ReferenceFeed.Text
