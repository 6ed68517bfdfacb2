import ReferenceFeed.Entry
import Mathlib.Data.List.Forall2

namespace ReferenceFeed

/-!
What is written as a row reads back as it was. What follows a field has to be a break, or nothing. A row that was
written by others, with quotes it does not need or a line break of its own, is the same row among other rows.
-/

namespace Row

/-- What may follow a field. -/
def Ends : List Char → Prop
  | [] => True
  | c :: _ => isBreak c = true

theorem Ends.ne_quote {tail : List Char} (ends : Ends tail) : tail.head? ≠ some '"' := by
  cases tail with
  | nil => simp
  | cons c rest =>
    intro same
    have quote : c = '"' := Option.some.inj same
    rw [Ends, quote] at ends
    exact absurd ends (by decide)

theorem Ends.append {text tail : List Char} (ends : Ends text) (more : Ends tail) : Ends (text ++ tail) := by
  cases text with
  | nil => exact more
  | cons c rest => exact ends

theorem ends_dropWhile (text : List Char) : Ends (text.dropWhile fun c => !isBreak c) := by
  have first := List.head?_dropWhile_not (fun c => !isBreak c) text
  cases left : text.dropWhile fun c => !isBreak c with
  | nil => exact True.intro
  | cons c rest =>
    rw [left] at first
    simpa [Ends] using first

/-- A field without quotes ends where a break follows. -/
theorem takeWhile_ends {text tail : List Char} (plain : ∀ c ∈ text, isBreak c = false) (ends : Ends tail) :
    (text ++ tail).takeWhile (fun c => !isBreak c) = text ∧ (text ++ tail).dropWhile (fun c => !isBreak c) = tail := by
  have goes : ∀ c ∈ text, (!isBreak c) = true := fun c member => by rw [plain c member]; rfl
  rw [List.takeWhile_append_of_pos goes, List.dropWhile_append_of_pos goes]
  cases tail with
  | nil => exact ⟨List.append_nil _, rfl⟩
  | cons c rest =>
    have stops : (!isBreak c) = false := by rw [show isBreak c = true from ends]; rfl
    rw [List.takeWhile_cons, List.dropWhile_cons, stops]
    exact ⟨List.append_nil _, rfl⟩

theorem readQuoted_doubled (text : List Char) : readQuoted (doubled text ++ ['"']) = some (text, []) := by
  induction text with
  | nil => rfl
  | cons c rest ih =>
    rw [doubled]
    by_cases quote : c = '"'
    · rw [if_pos quote, List.cons_append, List.cons_append, readQuoted, ih, quote]
      rfl
    · rw [if_neg quote, List.cons_append, readQuoted, ih]
      · rfl
      · simp [quote]
      · exact quote

theorem readField_plain (total : Nat) {text : List Char} (unquoted : text.head? ≠ some '"') :
    readField total text =
      if '"' ∈ text.takeWhile (fun c => !isBreak c) then
        .error (.strayQuote (String.ofList (text.takeWhile fun c => !isBreak c)))
      else if (text.takeWhile fun c => !isBreak c).isEmpty then .ok (none, text.dropWhile fun c => !isBreak c)
      else .ok (some (String.ofList (text.takeWhile fun c => !isBreak c)), text.dropWhile fun c => !isBreak c) := by
  unfold readField
  split
  · next inside => exact absurd rfl unquoted
  · rfl

/-- How a field may be written. -/
inductive Form : List Char → Field → Prop
  | absent : Form [] none
  | bare {text : List Char} (filled : text ≠ []) (plain : ∀ c ∈ text, c ≠ ',' ∧ c ≠ '"' ∧ c ≠ '\n' ∧ c ≠ '\r') :
    Form text (some (String.ofList text))
  | quoted (text : List Char) : Form ('"' :: doubled text ++ ['"']) (some (String.ofList text))

theorem Form.readField (total : Nat) {text : List Char} {field : Field} (form : Form text field) :
    readField total text = .ok (field, []) := by
  cases form with
  | absent => rfl
  | @bare text filled plain =>
    have unbroken : ∀ c ∈ text, isBreak c = false := by
      intro c member
      obtain ⟨comma, _, feed, carriage⟩ := plain c member
      simp [isBreak, comma, feed, carriage]
    obtain ⟨taken, left⟩ := takeWhile_ends unbroken (show Ends [] from True.intro)
    rw [List.append_nil] at taken left
    have unquoted : text.head? ≠ some '"' := fun first => (plain _ (List.mem_of_head? first)).2.1 rfl
    rw [readField_plain total unquoted, taken, left, if_neg fun member => (plain _ member).2.1 rfl,
      if_neg (by simpa using filled)]
  | quoted text =>
    rw [List.cons_append, Row.readField, readQuoted_doubled]

theorem form_encode (field : Field) : Form (encode field) field := by
  rcases field with _ | text
  · exact .absent
  · rw [← String.ofList_toList (s := text), encode, String.toList_ofList]
    by_cases quoted : (text.toList.isEmpty || needsQuotes text.toList) = true
    · rw [if_pos quoted]
      exact .quoted text.toList
    · obtain ⟨filled, bare⟩ := not_or.1 (fun either => quoted (Bool.or_eq_true_iff.2 either))
      rw [if_neg quoted]
      refine .bare (by simpa using filled) fun c member => ?_
      have harmless := List.any_eq_false.1 (Bool.eq_false_iff.2 bare) c member
      simp only [isBreak, Bool.or_eq_true, decide_eq_true_eq, not_or] at harmless
      exact ⟨harmless.1.1.1, harmless.2, harmless.1.1.2, harmless.1.2⟩

section Following

variable {total : Nat} (larger : Nat) {text tail rest after : List Char} {field : Field} {fields : List Field}

theorem readQuoted_append {value : List Char} (read : readQuoted text = some (value, rest)) (next : tail.head? ≠ some '"') :
    readQuoted (text ++ tail) = some (value, rest ++ tail) := by
  fun_induction readQuoted text generalizing value rest with
  | case1 => cases read
  | case2 inside ih =>
    obtain ⟨⟨value, rest⟩, inner, same⟩ := Option.map_eq_some_iff.1 read
    cases same
    rw [List.cons_append, List.cons_append, readQuoted, ih inner]
    rfl
  | case3 inside closed =>
    cases read
    rw [List.cons_append, readQuoted]
    intro more same
    cases inside with
    | nil => exact next (by rw [← List.nil_append tail, same]; rfl)
    | cons c inside => exact closed inside (by rw [(List.cons.inj same).1])
  | case4 c inside _ other ih =>
    obtain ⟨⟨value, rest⟩, inner, same⟩ := Option.map_eq_some_iff.1 read
    cases same
    rw [List.cons_append, readQuoted, ih inner]
    · rfl
    · exact fun _ quote => absurd quote other
    · exact other

/-- A field is read up to its end, whatever follows there. -/
theorem readField_append (read : readField total text = .ok (field, rest)) (ends : Ends tail) :
    readField larger (text ++ tail) = .ok (field, rest ++ tail) := by
  by_cases quoted : text.head? = some '"'
  · obtain ⟨inside, rfl⟩ := List.head?_eq_some_iff.1 quoted
    rw [readField] at read
    split at read
    · cases read
    · next value left inner =>
      cases read
      rw [List.cons_append, readField, readQuoted_append inner ends.ne_quote]
  · have unquoted : (text ++ tail).head? ≠ some '"' := by
      cases text with
      | nil => exact ends.ne_quote
      | cons c rest => exact quoted
    have plain : ∀ c ∈ text.takeWhile (fun c => !isBreak c), isBreak c = false := fun c member => by
      simpa using List.all_eq_true.1 List.all_takeWhile c member
    -- What follows the text begins with a break, so the field ends where it did without it.
    obtain ⟨taken, left⟩ := takeWhile_ends plain ((ends_dropWhile text).append ends)
    rw [← List.append_assoc, List.takeWhile_append_dropWhile] at taken left
    rw [readField_plain total quoted] at read
    rw [readField_plain larger unquoted, taken, left]
    split at read
    · cases read
    · next lone =>
      rw [if_neg lone]
      split at read
      · next blank =>
        cases read
        rw [if_pos blank]
      · next filled =>
        cases read
        rw [if_neg filled]

/-- A field that is written reads back, whatever breaks it off. -/
theorem readField_encode (field : Field) (ends : Ends tail) : readField larger (encode field ++ tail) = .ok (field, tail) :=
  readField_append larger ((form_encode field).readField 0) ends

theorem Ends.of_lineBreak (ended : fieldEnd text = .lineBreak rest) : Ends text := by
  unfold fieldEnd at ended
  split at ended
  · exact True.intro
  all_goals first | exact rfl | cases ended

theorem readRecord_last (read : readField total text = .ok (field, tail)) (line : fieldEnd tail = .lineBreak rest) :
    readRecord total text = .ok ([field], rest) := by
  rw [readRecord]
  split
  · next fault failed => cases read.symm.trans failed
  · next found after well =>
    cases read.symm.trans well
    split
    · next ended =>
      cases line.symm.trans ended
      rfl
    · next ended => cases line.symm.trans ended
    · next ended => cases line.symm.trans ended

theorem readRecord_comma {more : List Char} (read : readField total text = .ok (field, ',' :: more))
    (later : readRecord total more = .ok (fields, rest)) : readRecord total text = .ok (field :: fields, rest) := by
  rw [readRecord]
  split
  · next fault failed => cases read.symm.trans failed
  · next found after well =>
    cases read.symm.trans well
    split
    · next ended => cases ended
    · next ended => cases ended
    · next ended =>
      cases ended
      rw [later]

theorem readRecord_encodeAll (total : Nat) (field : Field) (fields : List Field) :
    readRecord total (encodeAll (field :: fields)) = .ok (field :: fields, []) := by
  induction fields generalizing field with
  | nil =>
    have read := readField_encode total field (show Ends [] from True.intro)
    rw [List.append_nil] at read
    exact readRecord_last read rfl
  | cons next fields ih =>
    have read : readField total (encode field ++ ',' :: encodeAll (next :: fields)) = .ok (field, _) :=
      readField_encode total field rfl
    exact readRecord_comma read (ih next)

theorem split_ok_iff {text : String} {fields : List Field} :
    split text = .ok fields ↔ readRecord (byteSize text.toList) text.toList = .ok (fields, []) := by
  unfold split
  split
  · next fault failed => simp [failed]
  · next found rest read =>
    cases rest with
    | nil => simp [read]
    | cons c rest => simp [read]

theorem split_render (field : Field) (fields : List Field) : split (render (field :: fields)) = .ok (field :: fields) := by
  rw [split_ok_iff, render, String.toList_ofList]
  exact readRecord_encodeAll _ field fields

theorem fieldEnd_return (tail : List Char) :
    fieldEnd ('\r' :: tail) = .lineBreak tail ∨ ∃ rest, tail = '\n' :: rest ∧ fieldEnd ('\r' :: tail) = .lineBreak rest := by
  rcases tail with _ | ⟨c, tail⟩
  · exact .inl rfl
  · by_cases feed : c = '\n'
    · exact .inr ⟨tail, by rw [feed], by rw [feed]; rfl⟩
    · exact .inl (by simp [fieldEnd, feed])

/-- A line break that ends a text may become one with the line break after it, or leave this one over. -/
theorem fieldEnd_append (ended : fieldEnd text = .lineBreak []) (line : fieldEnd tail = .lineBreak rest) :
    fieldEnd (text ++ tail) = .lineBreak rest ∨ fieldEnd (text ++ tail) = .lineBreak tail := by
  unfold fieldEnd at ended
  split at ended
  · exact .inl line
  · cases ended
  · cases ended
    exact .inr rfl
  · cases ended
    exact .inr rfl
  · cases ended
    rcases fieldEnd_return tail with kept | ⟨_, rfl, joined⟩
    · exact .inr kept
    · cases line
      exact .inl joined
  · cases ended

theorem readRecords_lineBreak (line : fieldEnd tail = .lineBreak rest) : readRecords total tail = readRecords total rest := by
  unfold fieldEnd at line
  split at line
  · cases line
    rfl
  · cases line
  · cases line
    rw [readRecords]
  · cases line
    rw [readRecords, readRecords]
  · cases line
    rw [readRecords]
  · cases line

/-- A row is read the same if a line break follows it, and what follows is left. -/
theorem readRecord_append (read : readRecord total text = .ok (fields, [])) (line : fieldEnd tail = .lineBreak after) :
    ∃ left, readRecord larger (text ++ tail) = .ok (fields, left) ∧ readRecords larger left = readRecords larger after := by
  have ends := Ends.of_lineBreak line
  -- Field by field: what is appended is not met before the last one.
  fun_induction readRecord total text generalizing fields with
  | case1 | case3 | case4 => cases read
  | case2 text field rest first _ ended =>
    cases read
    have again := readField_append larger first ends
    -- A row that ends in a carriage return takes a line feed after it along.
    rcases fieldEnd_append ended line with joined | kept
    · exact ⟨_, readRecord_last again joined, rfl⟩
    · exact ⟨_, readRecord_last again kept, readRecords_lineBreak line⟩
  | case5 text field rest first more ended fields _ inner ih =>
    cases read
    obtain ⟨left, later, same⟩ := ih inner
    have again := readField_append larger first ends
    rw [fieldEnd_comma ended] at again
    exact ⟨left, readRecord_comma again later, same⟩

/-- A blank line is the row of one absent field. -/
theorem readRecord_blank (line : fieldEnd text = .lineBreak rest) : readRecord total text = .ok ([none], rest) :=
  readRecord_last (readField_encode total none (Ends.of_lineBreak line)) line

theorem readRecords_cons (solid : fields ≠ [none]) (read : readRecord total text = .ok (fields, rest)) :
    readRecords total text = .ok fields :: readRecords total rest := by
  have unbroken : ∀ after, fieldEnd text ≠ .lineBreak after := fun after line => by
    cases (readRecord_blank line).symm.trans read
    exact solid rfl
  rcases text with _ | ⟨c, text⟩
  · exact absurd rfl (unbroken [])
  rw [readRecords]
  · split
    · next fault failed => cases read.symm.trans failed
    · next found after well =>
      cases read.symm.trans well
      rfl
  · rintro rfl
    exact unbroken text rfl
  · rintro rfl
    rcases fieldEnd_return text with line | ⟨_, _, line⟩
    · exact unbroken _ line
    · exact unbroken _ line

end Following

/-- A text that is one row, and no blank line. -/
def Spells (text : String) (fields : List Field) : Prop := split text = .ok fields ∧ fields ≠ [none]

theorem intercalate_cons (text : List Char) (texts : List (List Char)) :
    ∃ tail, ['\n'].intercalate (text :: texts) = text ++ tail ∧ fieldEnd tail = .lineBreak (['\n'].intercalate texts) := by
  cases texts with
  | nil => exact ⟨[], by rw [List.intercalate_singleton, List.append_nil], rfl⟩
  | cons next texts =>
    exact ⟨'\n' :: ['\n'].intercalate (next :: texts),
      by rw [List.intercalate_cons_cons, List.append_assoc, List.singleton_append], rfl⟩

/-- The records of rows that are joined by line feeds. -/
theorem records_lines {texts : List String} {lines : List (List Field)} (spelled : List.Forall₂ Spells texts lines) :
    records ("\n".intercalate texts) = lines.map .ok := by
  have read : ∀ total, readRecords total (['\n'].intercalate (texts.map String.toList)) = lines.map .ok := by
    intro total
    induction spelled with
    | nil =>
      rw [List.map_nil, List.intercalate_nil, readRecords]
      rfl
    | @cons text fields texts lines spells _ ih =>
      obtain ⟨tail, joined, line⟩ := intercalate_cons text.toList (texts.map String.toList)
      obtain ⟨left, first, same⟩ := readRecord_append total (split_ok_iff.1 spells.1) line
      rw [List.map_cons, joined, readRecords_cons spells.2 first, same, ih, List.map_cons]
  rw [records, String.toList_intercalate]
  exact read _

/-- Some fields that are written as a row can be told from all other ones, whatever texts they hold and whichever of them
hold none. The entry that is made of them has them in its row, its id first. -/
theorem reads_back {fields : List Field} (filled : fields ≠ []) :
    split (render fields) = .ok fields ∧
      (∀ others : List Field, others ≠ [] → render others = render fields → others = fields) ∧
      ∀ id, fields.head? = some (some id) →
        ∃ entry, Entry.ofFields fields = .ok entry ∧ entry.id = id ∧ split entry.row = .ok fields := by
  have back : ∀ {others : List Field}, others ≠ [] → split (render others) = .ok others := by
    intro others filled
    obtain ⟨field, rest, rfl⟩ := List.exists_cons_of_ne_nil filled
    exact split_render field rest
  refine ⟨back filled, fun others some same => ?_, fun id first => ?_⟩
  · exact Except.ok.inj ((back some).symm.trans ((congrArg split same).trans (back filled)))
  · obtain ⟨rest, rfl⟩ := List.head?_eq_some_iff.1 first
    exact ⟨⟨id, render (some id :: rest), ∅⟩, rfl, rfl, back filled⟩

/-- Fields in which everything occurs that has a meaning in a row. -/
def intricate : List Field := [some "a,\"b\"", none, some "", some "two\r\nlines", some "\n", some "c", none]

theorem reads_back_intricate :
    render intricate = "\"a,\"\"b\"\"\",,\"\",\"two\r\nlines\",\"\n\",c," ∧ split (render intricate) = .ok intricate ∧
      ∃ entry, Entry.ofFields intricate = .ok entry ∧ entry.id = "a,\"b\"" ∧ split entry.row = .ok intricate := by
  obtain ⟨back, _, made⟩ := reads_back (show intricate ≠ [] by decide)
  exact ⟨by decide +kernel, back, made _ rfl⟩

end Row

end ReferenceFeed
