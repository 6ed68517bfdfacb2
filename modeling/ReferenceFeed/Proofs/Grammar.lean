import ReferenceFeed.Failure
import ReferenceFeed.Proofs.Row

namespace ReferenceFeed

/-!
The texts that are rows. A row is one or more written fields with commas between them, and a line break may stand at
its end. A text can be taken for a row in one way at most, and a text that cannot is refused.
-/

namespace Row

/-- What may stand at the end of a row. -/
inductive LineBreak where
  | feed
  | carriageReturn
  | both
  deriving DecidableEq, Repr

def LineBreak.text : LineBreak → List Char
  | .feed => ['\n']
  | .carriageReturn => ['\r']
  | .both => ['\r', '\n']

/-- A line break, or nothing. -/
def ending (lineBreak : Option LineBreak) : List Char := lineBreak.elim [] LineBreak.text

/-- A way to take a text for one row. -/
structure Reading (text : List Char) where
  forms : List (List Char)
  fields : List Field
  lineBreak : Option LineBreak
  filled : forms ≠ []
  reads : List.Forall₂ Form forms fields
  spells : text = [','].intercalate forms ++ ending lineBreak

section Fields

variable {total : Nat} {text rest : List Char} {field : Field}

theorem readQuoted_sound {value : List Char} (read : readQuoted text = some (value, rest)) :
    text = doubled value ++ '"' :: rest := by
  fun_induction readQuoted text generalizing value rest with
  | case1 => cases read
  | case2 inside ih =>
    obtain ⟨⟨value, rest⟩, inner, same⟩ := Option.map_eq_some_iff.1 read
    cases same
    rw [ih inner]
    rfl
  | case3 inside closed =>
    cases read
    rfl
  | case4 c inside _ other ih =>
    obtain ⟨⟨value, rest⟩, inner, same⟩ := Option.map_eq_some_iff.1 read
    cases same
    rw [ih inner, doubled, if_neg (fun quote => other quote)]
    rfl

/-- A field that is read stands in front of what is left. -/
theorem form_of_readField (read : readField total text = .ok (field, rest)) : ∃ form, Form form field ∧ text = form ++ rest := by
  by_cases quoted : text.head? = some '"'
  · obtain ⟨inside, rfl⟩ := List.head?_eq_some_iff.1 quoted
    rw [readField] at read
    split at read
    · cases read
    · next value left inner =>
      cases read
      refine ⟨_, .quoted value, ?_⟩
      rw [readQuoted_sound inner, List.cons_append, List.cons_append, List.append_assoc, List.singleton_append]
  · rw [readField_plain total quoted] at read
    have whole := (List.takeWhile_append_dropWhile (p := fun c => !isBreak c) (l := text)).symm
    split at read
    · cases read
    · next unquoted =>
      split at read
      · next blank =>
        cases read
        rw [List.isEmpty_iff.1 blank] at whole
        exact ⟨[], .absent, whole⟩
      · next filled =>
        cases read
        refine ⟨_, .bare (by simpa using filled) fun c member => ?_, whole⟩
        have plain : isBreak c = false := by simpa using List.all_eq_true.1 List.all_takeWhile c member
        have other : c ≠ '"' := fun same => unquoted (same ▸ member)
        simp only [isBreak, Bool.or_eq_false_iff, decide_eq_false_iff_not] at plain
        exact ⟨plain.1.1, other, plain.1.2, plain.2⟩

/-- Two written fields in front of a break each are the same if the whole texts are. -/
theorem Form.unique {form other tail after : List Char} {second : Field} (first : Form form field) (ends : Ends tail)
    (again : Form other second) (stops : Ends after) (same : form ++ tail = other ++ after) :
    form = other ∧ field = second ∧ tail = after := by
  have read := readField_append 0 (first.readField 0) ends
  rw [same, readField_append 0 (again.readField 0) stops] at read
  cases read
  exact ⟨List.append_cancel_right same, rfl, rfl⟩

end Fields

/-- What stands behind the first field of a row. -/
def behind (forms : List (List Char)) (lineBreak : Option LineBreak) : List Char :=
  forms.flatMap (',' :: ·) ++ ending lineBreak

theorem behind_cons (form : List Char) (forms : List (List Char)) (lineBreak : Option LineBreak) :
    behind (form :: forms) lineBreak = ',' :: (form ++ behind forms lineBreak) := by
  rw [behind, List.flatMap_cons, List.cons_append, List.cons_append, List.append_assoc, ← behind]

theorem intercalate_ending (form : List Char) (forms : List (List Char)) (lineBreak : Option LineBreak) :
    [','].intercalate (form :: forms) ++ ending lineBreak = form ++ behind forms lineBreak := by
  induction forms generalizing form with
  | nil => rw [List.intercalate_singleton, behind, List.flatMap_nil, List.nil_append]
  | cons next forms ih =>
    rw [List.intercalate_cons_cons, behind_cons, ← ih, List.append_assoc, List.append_assoc, List.singleton_append]

theorem fieldEnd_ending (lineBreak : Option LineBreak) : fieldEnd (ending lineBreak) = .lineBreak [] := by
  rcases lineBreak with _ | (_ | _ | _) <;> rfl

theorem ending_of_fieldEnd {text : List Char} (ended : fieldEnd text = .lineBreak []) :
    ∃ lineBreak, text = ending lineBreak := by
  unfold fieldEnd at ended
  split at ended
  · exact ⟨none, rfl⟩
  · cases ended
  · cases ended
    exact ⟨some .feed, rfl⟩
  · cases ended
    exact ⟨some .both, rfl⟩
  · cases ended
    exact ⟨some .carriageReturn, rfl⟩
  · cases ended

theorem ending_injective {lineBreak last : Option LineBreak} (same : ending lineBreak = ending last) : lineBreak = last := by
  rcases lineBreak with _ | (_ | _ | _) <;> rcases last with _ | (_ | _ | _) <;> first | rfl | cases same

theorem ending_ne_comma (lineBreak : Option LineBreak) (rest : List Char) : ending lineBreak ≠ ',' :: rest := fun same => by
  have ended := fieldEnd_ending lineBreak
  rw [same] at ended
  cases ended

theorem ends_behind (forms : List (List Char)) (lineBreak : Option LineBreak) : Ends (behind forms lineBreak) := by
  cases forms with
  | nil => exact Ends.of_lineBreak (fieldEnd_ending lineBreak)
  | cons form forms =>
    rw [behind_cons]
    exact rfl

section Records

variable {total : Nat} {text : List Char} {fields : List Field}

theorem readRecord_forms (total : Nat) {form : List Char} {forms : List (List Char)} {field : Field} (lineBreak : Option LineBreak)
    (first : Form form field) (others : List.Forall₂ Form forms fields) :
    readRecord total (form ++ behind forms lineBreak) = .ok (field :: fields, []) := by
  have read := readField_append total (first.readField 0) (ends_behind forms lineBreak)
  induction others generalizing form field with
  | nil => exact readRecord_last read (fieldEnd_ending lineBreak)
  | @cons next second forms fields again _ ih =>
    rw [behind_cons] at read ⊢
    exact readRecord_comma read (ih again (readField_append total (again.readField 0) (ends_behind _ _)))

theorem forms_of_readRecord (read : readRecord total text = .ok (fields, [])) :
    ∃ form forms lineBreak, List.Forall₂ Form (form :: forms) fields ∧ text = form ++ behind forms lineBreak := by
  fun_induction readRecord total text generalizing fields with
  | case1 | case3 | case4 => cases read
  | case2 text field rest first _ ended =>
    cases read
    obtain ⟨form, written, rfl⟩ := form_of_readField first
    obtain ⟨lineBreak, rfl⟩ := ending_of_fieldEnd ended
    exact ⟨form, [], lineBreak, .cons written .nil, rfl⟩
  | case5 text field rest first more ended others _ inner ih =>
    cases read
    obtain ⟨form, written, rfl⟩ := form_of_readField first
    obtain ⟨next, forms, lineBreak, reads, rfl⟩ := ih inner
    exact ⟨form, next :: forms, lineBreak, .cons written reads, by rw [fieldEnd_comma ended, behind_cons]⟩

/-- Written fields and what stands at their end can be told from the whole text. -/
theorem forms_unique {form other : List Char} {forms others : List (List Char)} {field second : Field} {seconds : List Field}
    {lineBreak last : Option LineBreak} (first : Form form field) (reads : List.Forall₂ Form forms fields)
    (again : Form other second) (rereads : List.Forall₂ Form others seconds)
    (same : form ++ behind forms lineBreak = other ++ behind others last) :
    form = other ∧ field = second ∧ forms = others ∧ fields = seconds ∧ lineBreak = last := by
  obtain ⟨rfl, rfl, rest⟩ := first.unique (ends_behind _ _) again (ends_behind _ _) same
  refine ⟨rfl, rfl, ?_⟩
  clear first again same
  induction reads generalizing others seconds with
  | nil =>
    cases rereads with
    | nil => exact ⟨rfl, rfl, ending_injective rest⟩
    | cons => exact absurd (rest.trans (behind_cons _ _ _)) (ending_ne_comma lineBreak _)
  | cons first _ ih =>
    cases rereads with
    | nil => exact absurd (rest.symm.trans (behind_cons _ _ _)) (ending_ne_comma last _)
    | cons again rereads =>
      rw [behind_cons, behind_cons] at rest
      obtain ⟨rfl, rfl, rest⟩ := first.unique (ends_behind _ _) again (ends_behind _ _) (List.cons.inj rest).2
      obtain ⟨rfl, rfl, rfl⟩ := ih rereads rest
      exact ⟨rfl, rfl, rfl⟩

end Records

theorem Reading.subsingleton (text : List Char) : Subsingleton (Reading text) := by
  refine ⟨fun first second => ?_⟩
  obtain ⟨_, _, _, filled, reads, spells⟩ := first
  obtain ⟨_, _, _, some, rereads, same⟩ := second
  cases reads with
  | nil => exact absurd rfl filled
  | cons form reads =>
    cases rereads with
    | nil => exact absurd rfl some
    | cons other rereads =>
      rw [spells, intercalate_ending, intercalate_ending] at same
      obtain ⟨rfl, rfl, rfl, rfl, rfl⟩ := forms_unique form reads other rereads same
      rfl

theorem split_iff_reading (text : String) (fields : List Field) :
    split text = .ok fields ↔ ∃ reading : Reading text.toList, reading.fields = fields := by
  rw [split_ok_iff]
  constructor
  · intro read
    obtain ⟨form, forms, lineBreak, reads, same⟩ := forms_of_readRecord read
    exact ⟨⟨form :: forms, fields, lineBreak, List.cons_ne_nil _ _, reads, same.trans (intercalate_ending _ _ _).symm⟩, rfl⟩
  · rintro ⟨⟨_, _, lineBreak, filled, reads, spells⟩, rfl⟩
    cases reads with
    | nil => exact absurd rfl filled
    | cons form reads =>
      have read := readRecord_forms (byteSize text.toList) lineBreak form reads
      rw [← intercalate_ending, ← spells] at read
      exact read

/-- A text is taken for a row exactly if it is one, and then for the only row that it is: some written fields with commas
between them, behind which stands one line break at most. Every other text is refused as wrongly encoded. -/
theorem split_exactly (text : String) :
    Subsingleton (Reading text.toList) ∧
    (∀ fields, split text = .ok fields ↔ ∃ reading : Reading text.toList, reading.fields = fields) ∧
    (IsEmpty (Reading text.toList) ↔
      ∃ fault, (split text).mapError (fun cause => Failure.encoding (.unsplit cause)) = .error (.encoding fault)) := by
  refine ⟨Reading.subsingleton _, split_iff_reading text, ⟨fun none => ?_, ?_⟩⟩
  · cases read : split text with
    | error fault => exact ⟨_, rfl⟩
    | ok fields =>
      obtain ⟨reading, _⟩ := (split_iff_reading text fields).1 read
      exact (none.false reading).elim
  · rintro ⟨fault, refused⟩
    refine ⟨fun reading => ?_⟩
    rw [(split_iff_reading text _).2 ⟨reading, rfl⟩] at refused
    cases refused

end Row

end ReferenceFeed
