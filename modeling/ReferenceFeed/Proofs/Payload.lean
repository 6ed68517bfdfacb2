import ReferenceFeed.Payload
import ReferenceFeed.Proofs.Row

namespace ReferenceFeed

/-!
What is rendered as a payload is read as the same changes. Groups do not travel, and a row has to have the width of
the header: one that is only an id would be read as a removal. How a row was written makes no difference, and each row
is written anew.
-/

/-- An entry as it travels in a payload, without its groups. -/
def Entry.bare (entry : Entry) : Entry := { entry with groups := ∅ }

/-- The row of an entry spells out its id, and one field for each of the other columns. -/
def Entry.Written (header : Header) (entry : Entry) : Prop :=
  ∃ rest, entry.row = Row.render (some entry.id :: rest) ∧ rest.length + 1 = header.width

theorem Entry.Written.fields {header : Header} {entry : Entry} (written : entry.Written header) :
    ∃ rest, entry.fields = .ok (some entry.id :: rest) ∧ rest.length + 1 = header.width := by
  obtain ⟨rest, row, width⟩ := written
  exact ⟨rest, by rw [Entry.fields, row, Row.split_render], width⟩

/-- The row of an entry can be read, as some id and one field for each of the other columns. -/
def Entry.Accepted (header : Header) (entry : Entry) : Prop :=
  ∃ id rest, entry.fields = .ok (some id :: rest) ∧ rest.length + 1 = header.width

/-- An entry as it is made of the fields of its row, the first of which is the id. -/
def Entry.renewed (entry : Entry) : Entry :=
  match entry.fields with
  | .ok (some id :: rest) => ⟨id, Row.render (some id :: rest), ∅⟩
  | _ => entry

theorem Entry.Written.accepted {header : Header} {entry : Entry} (written : entry.Written header) : entry.Accepted header :=
  ⟨entry.id, written.fields⟩

/-- A row in the usual form stays as it is. -/
theorem Entry.Written.renewed {header : Header} {entry : Entry} (written : entry.Written header) : entry.renewed = entry.bare := by
  obtain ⟨rest, row, _⟩ := written
  have fields : entry.fields = .ok (some entry.id :: rest) := by rw [Entry.fields, row, Row.split_render]
  have made : entry.renewed = ⟨entry.id, Row.render (some entry.id :: rest), ∅⟩ := by rw [Entry.renewed, fields]
  rw [made, ← row]
  rfl

namespace Header

theorem ofNames_names (header : Header) : ofNames header.names = .ok header := by
  rw [ofNames, dif_pos header.id_first, dif_pos header.names_nonempty, dif_pos header.names_nodup]

theorem ofFields_names (header : Header) : ofFields (header.names.map some) = .ok header := by
  have present : ∀ names : List String, (names.map some).mapM (id : Field → Option String) = some names := by
    intro names
    induction names with
    | nil => rfl
    | cons name rest ih =>
      rw [List.map_cons, List.mapM_cons, ih]
      rfl
  rw [ofFields, present]
  exact ofNames_names header

theorem names_cons (header : Header) : ∃ rest, header.names = idColumn :: rest := by
  rcases named : header.names with _ | ⟨first, rest⟩
  · have first := header.id_first
    rw [named] at first
    cases first
  · have same := header.id_first
    rw [named] at same
    exact ⟨rest, by rw [Option.some.inj same]⟩

end Header

namespace Payload

variable {header : Header}

/-- A text that is read as one record. -/
def Spells (header : Header) (text : String) (record : Record) : Prop :=
  ∃ fields, Row.split text = .ok fields ∧ recordOf header (.ok fields) = .ok record

theorem spells_iff {text : String} {record : Record} : Spells header text record ↔
    ∃ fields ∈ (Row.split text).toOption, recordOf header (.ok fields) = .ok record := by
  unfold Spells
  rcases Row.split text with fault | fields
  · exact ⟨nofun, nofun⟩
  · simp [Except.toOption]

instance (header : Header) (text : String) (record : Record) : Decidable (Spells header text record) :=
  decidable_of_iff _ spells_iff.symm

/-- A row as wide as a header with more than the id is an update. -/
theorem recordOf_row (wide : 2 ≤ header.width) {id : String} {rest : List Field} (width : rest.length + 1 = header.width) :
    recordOf header (.ok (some id :: rest)) = .ok (.update ⟨id, Row.render (some id :: rest), ∅⟩) := by
  cases rest with
  | nil =>
    have narrow : header.width = 1 := width.symm
    omega
  | cons field rest => exact if_pos width

theorem spells_row (wide : 2 ≤ header.width) {entry : Entry} (accepted : entry.Accepted header) :
    Spells header entry.row (.update entry.renewed) := by
  obtain ⟨id, rest, fields, width⟩ := accepted
  refine ⟨some id :: rest, fields, ?_⟩
  rw [recordOf_row wide width, Entry.renewed, fields]

theorem spells_id (id : String) : Spells header (String.ofList (Row.encode (some id))) (.remove id) :=
  ⟨[some id], Row.split_render (some id) [], rfl⟩

theorem headerOf_names (header : Header) : headerOf (.ok (header.names.map some)) = .ok header := by
  rw [headerOf, header.ofFields_names]
  rfl

/-- Lines below a header are read one by one. A reader that refuses a line without anything in it does not miss one. -/
theorem records_read (header : Header) {α : Type} {reader : Except RowFault (List Field) → Except Failure α}
    (solid : ∀ value, reader (.ok [none]) ≠ .ok value) {texts : List String} {values : List α}
    (reads : List.Forall₂ (fun text value => ∃ fields, Row.split text = .ok fields ∧ reader (.ok fields) = .ok value) texts values) :
    ∃ lines, Row.records ("\n".intercalate (header.text :: texts)) = .ok (header.names.map some) :: lines ∧
      lines.mapM reader = .ok values := by
  have below : ∃ rows : List (List Field), List.Forall₂ Row.Spells texts rows ∧ (rows.map Except.ok).mapM reader = .ok values := by
    induction reads with
    | nil => exact ⟨[], .nil, rfl⟩
    | @cons text value texts values here _ ih =>
      obtain ⟨fields, split, read⟩ := here
      obtain ⟨rows, spelled, others⟩ := ih
      have filled : fields ≠ [none] := by
        rintro rfl
        exact solid value read
      refine ⟨fields :: rows, .cons ⟨split, filled⟩ spelled, ?_⟩
      rw [List.map_cons, List.mapM_cons, read, others]
      rfl
  obtain ⟨rows, spelled, others⟩ := below
  obtain ⟨columns, names⟩ := header.names_cons
  have title : Row.Spells header.text (header.names.map some) := by
    rw [Header.text, names]
    exact ⟨Row.split_render (some idColumn) (columns.map some), nofun⟩
  exact ⟨rows.map .ok, by rw [Row.records_lines (.cons title spelled), List.map_cons], others⟩

/-- A payload is read line by line. -/
theorem read_spelled {texts : List String} {records : List Record} (spelled : List.Forall₂ (Spells header) texts records) :
    read ("\n".intercalate (header.text :: texts)) = .ok ⟨header, records⟩ := by
  obtain ⟨lines, rows, reads⟩ := records_read header nofun spelled
  rw [read, rows]
  simp only [headerOf_names, bind, Except.bind, reads]
  rfl

theorem spelled_lines (wide : 2 ≤ header.width) {entries : List Entry} (accepted : ∀ entry ∈ entries, entry.Accepted header)
    (removed : List String) :
    List.Forall₂ (Spells header) (entries.map Entry.row ++ removed.map fun id => String.ofList (Row.encode (some id)))
      (entries.map (fun entry => .update entry.renewed) ++ removed.map .remove) := by
  refine List.rel_append ?_ ?_
  · rw [List.forall₂_map_left_iff, List.forall₂_map_right_iff, List.forall₂_same]
    exact fun entry member => spells_row wide (accepted entry member)
  · rw [List.forall₂_map_left_iff, List.forall₂_map_right_iff, List.forall₂_same]
    exact fun id _ => spells_id id

/-- Rows in the usual form come back as they are. -/
theorem read_render (wide : 2 ≤ header.width) {entries : List Entry} (written : ∀ entry ∈ entries, entry.Written header)
    (removed : List String) :
    read (render header entries removed) =
      .ok ⟨header, entries.map (fun entry => .update entry.bare) ++ removed.map .remove⟩ := by
  have same : entries.map (fun entry => Record.update entry.bare) = entries.map (fun entry => .update entry.renewed) :=
    List.map_congr_left fun entry member => by rw [(written entry member).renewed]
  rw [same]
  exact read_spelled (spelled_lines wide (fun entry member => (written entry member).accepted) removed)

/-- A payload reads back as what was rendered, whatever its names, rows and ids hold, and however its rows were written. -/
theorem read_render_accepted (wide : 2 ≤ header.width) {entries : List Entry}
    (accepted : ∀ entry ∈ entries, entry.Accepted header) (removed : List String) :
    read (render header entries removed) =
      .ok ⟨header, entries.map (fun entry => .update entry.renewed) ++ removed.map .remove⟩ :=
  read_spelled (spelled_lines wide accepted removed)

/-- All that a payload brings is about the entity that it is brought to. -/
theorem events_entity (payload : Payload) (entity : String) (whole : Bool) :
    ∀ event ∈ payload.events entity whole, event.entity = entity := by
  intro event member
  rcases List.mem_append.1 member with marker | later
  · split at marker
    · rw [List.mem_singleton.1 marker]
      rfl
    · cases marker
  · rcases List.mem_cons.1 later with rfl | later
    · rfl
    · obtain ⟨record, _, rfl⟩ := List.mem_map.1 later
      cases record <;> rfl

/-- Columns with names that have to be quoted. -/
def punctuated : Header where
  names := ["id", "a,b", "two\nlines"]
  id_first := rfl
  names_nonempty := by decide
  names_nodup := by decide

/-- Rows with quotes they do not need, or with a line break of their own. -/
def careless : List Entry :=
  [⟨"?", "\"1\",x,\r\n", ∅⟩, ⟨"?", "2,\"\",\"y\"\r", (∅ : Keyed String).insert "g" "k"⟩, ⟨"?", "\"\",\"a\nb\",\n", ∅⟩]

theorem careless_accepted : ∀ entry ∈ careless, entry.Accepted punctuated := by
  intro entry member
  simp only [careless, List.mem_cons, List.not_mem_nil, or_false] at member
  rcases member with rfl | rfl | rfl
  · exact ⟨"1", [some "x", none], by decide +kernel, rfl⟩
  · exact ⟨"2", [some "", some "y"], by decide +kernel, rfl⟩
  · exact ⟨"", [some "a\nb", none], by decide +kernel, rfl⟩

theorem read_render_careless :
    render punctuated careless ["", "3\n4"] =
        "id,\"a,b\",\"two\nlines\"\n\"1\",x,\r\n\n2,\"\",\"y\"\r\n\"\",\"a\nb\",\n\n\"\"\n\"3\n4\"" ∧
      read (render punctuated careless ["", "3\n4"]) =
        .ok ⟨punctuated, [.update ⟨"1", "1,x,", ∅⟩, .update ⟨"2", "2,\"\",y", ∅⟩, .update ⟨"", "\"\",\"a\nb\",", ∅⟩,
          .remove "", .remove "3\n4"]⟩ := by
  refine ⟨by decide +kernel, ?_⟩
  rw [read_render_accepted (show 2 ≤ punctuated.width by decide) careless_accepted]
  decide +kernel

end Payload

end ReferenceFeed
