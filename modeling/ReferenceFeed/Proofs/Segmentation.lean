import ReferenceFeed.Proofs.Grammar

namespace ReferenceFeed

/-!
Rows one below the other. Where a row ends is found again whichever line breaks are used and however many blank lines
stand between the rows, and neither a line break inside a text nor an absent first field is taken for the end of a row.
-/

namespace Row

/-- What blank lines are made of. -/
def Blank (text : List Char) : Prop := ∀ c ∈ text, c = '\n' ∨ c = '\r'

instance (text : List Char) : Decidable (Blank text) := List.decidableBAll (fun c => c = '\n' ∨ c = '\r') text

/-- A row among others, with what ends it and the blank lines behind it. -/
structure Line where
  fields : List Field
  lineBreak : Option LineBreak
  blank : List Char
  filled : fields ≠ []
  solid : fields ≠ [none]
  isBlank : Blank blank

def Line.text (line : Line) : List Char := (render line.fields).toList ++ (ending line.lineBreak ++ line.blank)

section Blank

variable {text : List Char}

theorem Blank.append {more : List Char} (blank : Blank text) (other : Blank more) : Blank (text ++ more) :=
  List.forall_mem_append.2 ⟨blank, other⟩

theorem blank_ending (lineBreak : Option LineBreak) : Blank (ending lineBreak) := by
  rcases lineBreak with _ | (_ | _ | _) <;> decide

theorem readRecords_blank (total : Nat) (blank : Blank text) (tail : List Char) : readRecords total (text ++ tail) = readRecords total tail := by
  induction text with
  | nil => rfl
  | cons c text ih =>
    obtain ⟨skipped, others⟩ := List.forall_mem_cons.1 blank
    rcases skipped with rfl | rfl
    all_goals rw [List.cons_append, readRecords, ih others]

/-- A row that is followed by blank lines ends with the first line break there, and the other ones are skipped. -/
theorem fieldEnd_blank (total : Nat) (blank : Blank text) (filled : text ≠ []) (tail : List Char) :
    ∃ after, fieldEnd (text ++ tail) = .lineBreak after ∧ readRecords total after = readRecords total tail := by
  obtain ⟨c, text, rfl⟩ := List.exists_cons_of_ne_nil filled
  obtain ⟨first, others⟩ := List.forall_mem_cons.1 blank
  have skipped := readRecords_blank total others tail
  rcases first with rfl | rfl
  · exact ⟨text ++ tail, rfl, skipped⟩
  · rcases fieldEnd_return (text ++ tail) with alone | ⟨rest, more, joined⟩
    · exact ⟨text ++ tail, alone, skipped⟩
    · rw [more, readRecords] at skipped
      exact ⟨rest, joined, skipped⟩

end Blank

/-- One row is read, and then what stands behind it and its blank lines. -/
theorem Line.readRecords_append {total : Nat} {tail : List Char} (line : Line) (apart : line.lineBreak.isSome ∨ tail = []) :
    readRecords total (line.text ++ tail) = .ok line.fields :: readRecords total tail := by
  obtain ⟨after, ended, rest⟩ : ∃ after, fieldEnd (ending line.lineBreak ++ line.blank ++ tail) = .lineBreak after ∧
      readRecords total after = readRecords total tail := by
    by_cases filled : ending line.lineBreak ++ line.blank = []
    · obtain ⟨bare, _⟩ := List.append_eq_nil_iff.1 filled
      have last : tail = [] := apart.resolve_left fun some => by
        obtain ⟨lineBreak, same⟩ := Option.isSome_iff_exists.1 some
        rw [same] at bare
        cases lineBreak <;> cases bare
      exact ⟨[], by rw [filled, last]; rfl, by rw [last]⟩
    · exact fieldEnd_blank total ((blank_ending _).append line.isBlank) filled tail
  obtain ⟨field, fields, same⟩ := List.exists_cons_of_ne_nil line.filled
  have alone := readRecord_encodeAll 0 field fields
  rw [← same] at alone
  obtain ⟨left, read, found⟩ := readRecord_append total alone ended
  rw [Line.text, render, String.toList_ofList, List.append_assoc, readRecords_cons line.solid read, found, rest]

/-- Of rows one below the other each is found as it was written, and nothing else: each row but the last needs a line break
of some kind behind it, and there may be any number of further ones before, between and after them. -/
theorem records_segmented {blank : List Char} {lines : List Line} (leading : Blank blank)
    (apart : ∀ line ∈ lines.dropLast, line.lineBreak.isSome) :
    records (String.ofList (blank ++ lines.flatMap Line.text)) = lines.map fun line => .ok line.fields := by
  suffices read : ∀ total, readRecords total (lines.flatMap Line.text) = lines.map fun line => .ok line.fields by
    rw [records, String.toList_ofList, readRecords_blank _ leading, read]
  intro total
  induction lines with
  | nil =>
    rw [List.flatMap_nil, readRecords]
    rfl
  | cons line lines ih =>
    rw [List.flatMap_cons, List.map_cons]
    cases lines with
    | nil => rw [List.flatMap_nil, line.readRecords_append (.inr rfl), readRecords, List.map_nil]
    | cons next lines =>
      rw [List.dropLast_cons_cons] at apart
      rw [line.readRecords_append (.inl (apart line List.mem_cons_self)),
        ih fun other member => apart other (List.mem_cons_of_mem _ member)]

/-- Rows with line breaks of every kind, one of them with a line break in a text behind an absent field. -/
def mixed : List Line :=
  [⟨[some "id", some "name"], some .both, [], by decide, by decide, by decide⟩,
    ⟨[none, some "two\nlines"], some .carriageReturn, ['\n', '\n', '\r'], by decide, by decide, by decide⟩,
    ⟨[some ""], some .feed, [], by decide, by decide, by decide⟩,
    ⟨[none, none], none, ['\r'], by decide, by decide, by decide⟩]

theorem records_segmented_mixed :
    Blank ['\r', '\n', '\r'] ∧ (∀ line ∈ mixed.dropLast, line.lineBreak.isSome) ∧
      records "\r\n\rid,name\r\n,\"two\nlines\"\r\n\n\r\"\"\n,\r" =
        [.ok [some "id", some "name"], .ok [none, some "two\nlines"], .ok [some ""], .ok [none, none]] := by
  have leading : Blank ['\r', '\n', '\r'] := by decide
  have apart : ∀ line ∈ mixed.dropLast, line.lineBreak.isSome := by decide
  have text : "\r\n\rid,name\r\n,\"two\nlines\"\r\n\n\r\"\"\n,\r" =
      String.ofList (['\r', '\n', '\r'] ++ mixed.flatMap Line.text) := by decide +kernel
  exact ⟨leading, apart, text ▸ records_segmented leading apart⟩

end Row

end ReferenceFeed
