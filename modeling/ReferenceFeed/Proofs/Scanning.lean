import ReferenceFeed.Proofs.Segmentation

namespace ReferenceFeed

/-!
Rows found by position. A scanner keeps the place of a byte, searches ahead from there, and cuts out what lies between. It takes
a limited number of turns, may not look beyond the end or into the middle of a character, and finds what readers of the rest find.
-/

namespace Row

/-- The text from a position on. There is none beyond the end or inside a character. -/
def textFrom? (text : List Char) (pos : Nat) : Option (List Char) :=
  if pos = 0 then some text
  else match text with
    | [] => none
    | c :: rest => if pos < c.utf8Size then none else textFrom? rest (pos - c.utf8Size)

/-- The first bytes of a text. -/
def upTo? (text : List Char) (size : Nat) : Option (List Char) :=
  if size = 0 then some []
  else match text with
    | [] => none
    | c :: rest => if size < c.utf8Size then none else (upTo? rest (size - c.utf8Size)).map (c :: ·)

/-- What lies between two positions. -/
def slice? (text : List Char) (start stop : Nat) : Option (List Char) :=
  if stop < start then none else (textFrom? text start).bind (upTo? · (stop - start))

/-- The number of bytes before the first character of some kind. -/
def offset? (kind : Char → Bool) : List Char → Option Nat
  | [] => none
  | c :: rest => if kind c then some 0 else (offset? kind rest).map (c.utf8Size + ·)

/-- Whether a character of some kind stands at a position. At the end no character does. -/
def meets? (text : List Char) (kind : Char → Bool) (pos : Nat) : Option Bool :=
  if pos < byteSize text then (textFrom? text pos).map fun rest => rest.head?.any kind else some false

/-- Looks for the closing quote of a field that was opened at a position. What was found of the field so far is handed on. Like
all scans it has no outcome if it would have to look outside the text, or if it runs out of turns. -/
def scanQuoted (text : List Char) (opening : Nat) : Nat → Nat → List Char → Option (Except RowFault (List Char × Nat))
  | 0, _, _ => none
  | turns + 1, pos, value => do
    match offset? (· = '"') (← textFrom? text pos) with
    | none => return .error (.unterminatedQuote opening)
    | some offset =>
      let piece ← slice? text pos (pos + offset)
      if ← meets? text (· = '"') (pos + offset + 1) then
        scanQuoted text opening turns (pos + offset + 2) (value ++ piece ++ ['"'])
      else return .ok (value ++ piece, pos + offset + 1)

/-- Scans the field at a position, with the position after it. -/
def scanField (text : List Char) (pos : Nat) : Option (Except RowFault (Field × Nat)) := do
  if ← meets? text (· = '"') pos then
    match ← scanQuoted text pos (byteSize text) (pos + 1) [] with
    | .error fault => return .error fault
    | .ok (value, stop) => return .ok (some (String.ofList value), stop)
  else
    let stop := ((offset? isBreak (← textFrom? text pos)).map (pos + ·)).getD (byteSize text)
    let raw ← slice? text pos stop
    if '"' ∈ raw then return .error (.strayQuote (String.ofList raw))
    else return .ok (if raw.isEmpty then none else some (String.ofList raw), stop)

/-- Looks what stands behind a field: another field or the end of the record, and from where on, or something else. -/
def scanEnd (text : List Char) (stop : Nat) : Option (Option (Bool × Nat)) := do
  if byteSize text ≤ stop then return some (false, byteSize text)
  else if ← meets? text (· = ',') stop then return some (true, stop + 1)
  else if ← meets? text (· = '\n') stop then return some (false, stop + 1)
  else if ← meets? text (· = '\r') stop then
    if ← meets? text (· = '\n') (stop + 1) then return some (false, stop + 2) else return some (false, stop + 1)
  else return none

/-- Scans the fields from a position on, up to a line break, with the position after it. -/
def scanFields (text : List Char) : Nat → Nat → List Field → Option (Except RowFault (List Field × Nat))
  | 0, _, _ => none
  | turns + 1, pos, fields => do
    match ← scanField text pos with
    | .error fault => return .error fault
    | .ok (field, stop) =>
      match ← scanEnd text stop with
      | none => return .error (.afterQuote stop)
      | some (true, next) => scanFields text turns next (fields ++ [field])
      | some (false, next) => return .ok (fields ++ [field], next)

/-- Scans the record that starts at a position. -/
def scanRecord (text : List Char) (start : Nat) : Option (Except RowFault (List Field × Nat)) :=
  scanFields text (byteSize text + 1) start []

/-- The characters that line breaks are made of. -/
def endsLine (c : Char) : Bool := c = '\n' || c = '\r'

/-- Skips line breaks. -/
def scanBlank (text : List Char) : Nat → Nat → Option Nat
  | 0, _ => none
  | turns + 1, pos => do
    if ← meets? text endsLine pos then scanBlank text turns (pos + 1) else return pos

/-- Scans what comes next after a position, if anything does. Behind a fault nothing is left. -/
def scanNext (text : List Char) (pos : Nat) : Option (Option (Except RowFault (List Field) × Nat)) := do
  let start ← scanBlank text (byteSize text + 1) pos
  if byteSize text ≤ start then return none
  else match ← scanRecord text start with
    | .error fault => return some (.error fault, byteSize text)
    | .ok (fields, stop) => return some (.ok fields, stop)

/-- Scans one item after another, each with the position that it leaves. -/
def scanAll (text : List Char) : Nat → Nat → Option (List (Except RowFault (List Field) × Nat))
  | 0, _ => none
  | turns + 1, pos => do
    match ← scanNext text pos with
    | none => return []
    | some (item, stop) => return (item, stop) :: (← scanAll text turns stop)

/-- Where the rest of a text starts. -/
def startOf (text rest : List Char) : Nat := byteSize text - byteSize rest

/-- Positions are those of a text in memory. -/
theorem byteSize_eq (text : String) : byteSize text.toList = text.utf8ByteSize := by
  have measured (chars : List Char) : byteSize chars = (String.ofList chars).utf8ByteSize := by
    induction chars with
    | nil => exact (String.utf8ByteSize_eq_zero_iff.2 rfl).symm
    | cons c chars ih => rw [String.ofList_cons, String.utf8ByteSize_append, String.utf8ByteSize_singleton, byteSize, ih]
  rw [measured, String.ofList_toList]

theorem byteSize_append (first second : List Char) : byteSize (first ++ second) = byteSize first + byteSize second := by
  induction first with
  | nil => exact (Nat.zero_add _).symm
  | cons c first ih => rw [List.cons_append, byteSize, byteSize, ih, Nat.add_assoc]

theorem length_le_byteSize (text : List Char) : text.length ≤ byteSize text := by
  induction text with
  | nil => exact Nat.le_refl 0
  | cons c text ih =>
    have size := c.utf8Size_pos
    rw [List.length_cons, byteSize]
    omega

theorem textFrom?_append (before rest : List Char) : textFrom? (before ++ rest) (byteSize before) = some rest := by
  induction before with
  | nil =>
    unfold textFrom?
    exact if_pos rfl
  | cons c before ih =>
    have size := c.utf8Size_pos
    rw [List.cons_append, byteSize, textFrom?, if_neg (by omega), if_neg (by omega), Nat.add_sub_cancel_left, ih]

theorem upTo?_append (piece rest : List Char) : upTo? (piece ++ rest) (byteSize piece) = some piece := by
  induction piece with
  | nil =>
    unfold upTo?
    exact if_pos rfl
  | cons c piece ih =>
    have size := c.utf8Size_pos
    rw [List.cons_append, byteSize, upTo?, if_neg (by omega), if_neg (by omega), Nat.add_sub_cancel_left, ih]
    rfl

/-- A position from which there is text is where a rest of it starts. -/
theorem textFrom?_some {text rest : List Char} {pos : Nat} (found : textFrom? text pos = some rest) :
    rest <:+ text ∧ pos = startOf text rest := by
  induction text generalizing pos with
  | nil =>
    unfold textFrom? at found
    split at found
    · cases found
      exact ⟨List.suffix_refl _, by simpa [startOf] using ‹pos = 0›⟩
    · cases found
  | cons c text ih =>
    unfold textFrom? at found
    split at found
    · cases found
      exact ⟨List.suffix_refl _, by simpa [startOf] using ‹pos = 0›⟩
    · simp only at found
      split at found
      · cases found
      · obtain ⟨suffix, place⟩ := ih found
        obtain ⟨before, same⟩ := suffix
        refine ⟨⟨c :: before, by rw [List.cons_append, same]⟩, ?_⟩
        rw [startOf, byteSize]
        rw [startOf, ← same, byteSize_append] at place
        rw [← same, byteSize_append]
        omega

section Places

variable {text rest piece : List Char}

theorem startOf_append (suffix : piece ++ rest <:+ text) : startOf text (piece ++ rest) + byteSize piece = startOf text rest := by
  obtain ⟨before, rfl⟩ := suffix
  simp only [startOf, byteSize_append]
  omega

theorem startOf_cons {c : Char} (suffix : c :: rest <:+ text) : startOf text (c :: rest) + c.utf8Size = startOf text rest :=
  @startOf_append text rest [c] suffix

theorem startOf_nil (text : List Char) : startOf text [] = byteSize text := rfl

theorem startOf_lt (suffix : rest <:+ text) : startOf text rest < byteSize text ↔ rest ≠ [] := by
  obtain ⟨before, rfl⟩ := suffix
  cases rest with
  | nil => simp [startOf, byteSize]
  | cons c rest =>
    have size := c.utf8Size_pos
    simp only [startOf, byteSize_append, byteSize]
    exact ⟨fun _ => List.cons_ne_nil _ _, fun _ => by omega⟩

theorem startOf_lt_startOf {after : List Char} (suffix : rest <:+ text) (inside : after <:+ rest)
    (shorter : after.length < rest.length) : startOf text rest < startOf text after := by
  obtain ⟨piece, rfl⟩ := inside
  rw [List.length_append] at shorter
  have size := length_le_byteSize piece
  have moved := startOf_append suffix
  omega

theorem textFrom?_startOf (suffix : rest <:+ text) : textFrom? text (startOf text rest) = some rest := by
  obtain ⟨before, rfl⟩ := suffix
  have place : startOf (before ++ rest) rest = byteSize before := by simp [startOf, byteSize_append]
  rw [place, textFrom?_append]

theorem slice?_startOf (suffix : piece ++ rest <:+ text) :
    slice? text (startOf text (piece ++ rest)) (startOf text rest) = some piece := by
  have size := startOf_append suffix
  rw [slice?, if_neg (by omega), textFrom?_startOf suffix, Option.bind_some]
  have between : startOf text rest - startOf text (piece ++ rest) = byteSize piece := by omega
  rw [between, upTo?_append]

theorem meets?_startOf (suffix : rest <:+ text) (kind : Char → Bool) :
    meets? text kind (startOf text rest) = some (rest.head?.any kind) := by
  rw [meets?, textFrom?_startOf suffix]
  split
  · rfl
  · next outside =>
    have last : rest = [] := by
      by_contra more
      exact outside ((startOf_lt suffix).2 more)
    rw [last]
    rfl

theorem meets?_char (suffix : rest <:+ text) (d : Char) :
    meets? text (fun c => decide (c = d)) (startOf text rest) = some (decide (rest.head? = some d)) := by
  rw [meets?_startOf suffix]
  cases rest <;> simp

/-- A search stops in front of the first character of its kind, if there is any. -/
theorem offset?_cases (kind : Char → Bool) (text : List Char) :
    offset? kind text = none ∧ (∀ c ∈ text, kind c = false) ∨
      ∃ piece c rest, text = piece ++ c :: rest ∧ (∀ c ∈ piece, kind c = false) ∧ kind c = true ∧
        offset? kind text = some (byteSize piece) := by
  induction text with
  | nil => exact .inl ⟨rfl, List.forall_mem_nil _⟩
  | cons c text ih =>
    rw [offset?]
    by_cases here : kind c = true
    · exact .inr ⟨[], c, text, rfl, List.forall_mem_nil _, here, if_pos here⟩
    · rw [if_neg here]
      have other := Bool.eq_false_iff.2 here
      rcases ih with ⟨nowhere, none⟩ | ⟨piece, found, rest, rfl, plain, isKind, place⟩
      · exact .inl ⟨by rw [nowhere]; rfl, List.forall_mem_cons.2 ⟨other, none⟩⟩
      · exact .inr ⟨c :: piece, found, rest, rfl, List.forall_mem_cons.2 ⟨other, plain⟩, isKind, by rw [place]; rfl⟩

end Places

section Reading

variable {text rest after : List Char}

/-- Characters in front of a quote belong to the field. -/
theorem readQuoted_piece {piece : List Char} (plain : ∀ c ∈ piece, decide (c = '"') = false) (rest : List Char) :
    readQuoted (piece ++ rest) = (readQuoted rest).map fun (value, after) => (piece ++ value, after) := by
  induction piece with
  | nil => cases h : readQuoted rest <;> simp [h]
  | cons c piece ih =>
    obtain ⟨other, plain⟩ := List.forall_mem_cons.1 plain
    have other : c ≠ '"' := of_decide_eq_false other
    rw [List.cons_append, readQuoted, ih plain, Option.map_map]
    · rfl
    · simp [other]
    · exact other

theorem scanQuoted_eq (opening : Nat) {turns : Nat} (suffix : rest <:+ text) (enough : rest.length < turns) (value : List Char) :
    scanQuoted text opening turns (startOf text rest) value = some (match readQuoted rest with
      | none => .error (.unterminatedQuote opening)
      | some (more, after) => .ok (value ++ more, startOf text after)) := by
  induction turns generalizing rest value with
  | zero => omega
  | succ turns ih =>
    rw [scanQuoted, textFrom?_startOf suffix]
    simp only [Option.bind_eq_bind, Option.bind_some]
    rcases offset?_cases (fun c => decide (c = '"')) rest with ⟨nowhere, plain⟩ | ⟨piece, c, after, rfl, plain, quote, place⟩
    · have unclosed := readQuoted_piece plain []
      rw [List.append_nil] at unclosed
      rw [nowhere, unclosed]
      rfl
    · cases of_decide_eq_true quote
      have atQuote := startOf_append suffix
      have fromQuote : '"' :: after <:+ text := (List.suffix_append _ _).trans suffix
      have behind : startOf text ('"' :: after) + 1 = startOf text after := startOf_cons fromQuote
      have fromAfter : after <:+ text := (List.suffix_cons _ _).trans fromQuote
      rw [place, readQuoted_piece plain]
      simp only [atQuote, behind, slice?_startOf suffix, meets?_char fromAfter, Option.bind_some]
      by_cases again : after.head? = some '"'
      · -- Two quotes stand for one, and the field goes on behind them.
        obtain ⟨more, rfl⟩ := List.head?_eq_some_iff.1 again
        have beyond : startOf text ('"' :: '"' :: more) + 2 = startOf text more := by
          rw [← startOf_cons fromAfter, ← behind]
          rfl
        rw [List.length_append, List.length_cons, List.length_cons] at enough
        simp only [List.head?_cons, decide_true, if_true, beyond, ih ((List.suffix_cons _ _).trans fromAfter) (by omega),
          readQuoted]
        rcases readQuoted more with _ | ⟨inside, last⟩
        · rfl
        · simp
      · have closes : readQuoted ('"' :: after) = some ([], after) := by
          rw [readQuoted]
          rintro more rfl
          exact again rfl
        simp [again, closes]

theorem suffix_of_readField {total : Nat} {field : Field} (read : readField total text = .ok (field, rest)) : rest <:+ text := by
  obtain ⟨form, _, rfl⟩ := form_of_readField read
  exact List.suffix_append _ _

/-- A field without quotes goes up to the next break or to the end. -/
theorem offset?_break (suffix : rest <:+ text) : ∃ piece after, rest = piece ++ after ∧ (∀ c ∈ piece, isBreak c = false) ∧
    Ends after ∧ ((offset? isBreak rest).map (startOf text rest + ·)).getD (byteSize text) = startOf text after := by
  rcases offset?_cases isBreak rest with ⟨nowhere, plain⟩ | ⟨piece, c, after, rfl, plain, isKind, place⟩
  · exact ⟨rest, [], (List.append_nil _).symm, plain, True.intro, by rw [nowhere]; rfl⟩
  · refine ⟨piece, c :: after, rfl, plain, isKind, ?_⟩
    rw [place, ← startOf_append suffix]
    rfl

/-- A field is found where it is read. -/
theorem scanField_eq (suffix : rest <:+ text) : scanField text (startOf text rest) =
    some ((readField (byteSize text) rest).map fun (field, after) => (field, startOf text after)) := by
  rw [scanField, meets?_char suffix]
  by_cases quoted : rest.head? = some '"'
  · obtain ⟨inside, rfl⟩ := List.head?_eq_some_iff.1 quoted
    have enough : inside.length < byteSize text := by
      have shorter := suffix.length_le
      have size := length_le_byteSize text
      rw [List.length_cons] at shorter
      omega
    have opens : startOf text ('"' :: inside) + 1 = startOf text inside := startOf_cons suffix
    have scans := scanQuoted_eq (startOf text ('"' :: inside)) ((List.suffix_cons _ _).trans suffix) enough []
    simp only [List.head?_cons, decide_true, Option.bind_eq_bind, Option.bind_some, if_true, opens, scans, readField]
    rcases readQuoted inside with _ | ⟨value, after⟩ <;> rfl
  · rw [decide_eq_false quoted]
    obtain ⟨piece, after, rfl, plain, ends, stop⟩ := offset?_break suffix
    obtain ⟨taken, left⟩ := takeWhile_ends plain ends
    rw [readField_plain _ quoted, taken, left]
    simp only [Option.bind_eq_bind, Option.bind_some, Bool.false_eq_true, if_false, textFrom?_startOf suffix, stop,
      slice?_startOf suffix]
    split
    · rfl
    · split <;> rfl

theorem scanEnd_eq (suffix : rest <:+ text) : scanEnd text (startOf text rest) = some (match fieldEnd rest with
    | .comma more => some (true, startOf text more)
    | .lineBreak more => some (false, startOf text more)
    | .other => none) := by
  unfold scanEnd
  rcases rest with _ | ⟨c, rest⟩
  · rw [startOf_nil, if_pos (Nat.le_refl _)]
    rfl
  · have inside := (startOf_lt suffix).2 (List.cons_ne_nil c rest)
    have next := startOf_cons suffix
    have later := (List.suffix_cons c rest).trans suffix
    rw [if_neg (Nat.not_le_of_gt inside), meets?_char suffix, meets?_char suffix, meets?_char suffix]
    simp only [List.head?_cons, Option.some.injEq, Option.bind_eq_bind, Option.bind_some, decide_eq_true_eq]
    by_cases comma : c = ','
    · subst comma
      have behind : startOf text (',' :: rest) + 1 = startOf text rest := next
      rw [if_pos rfl, behind]
      rfl
    rw [if_neg comma]
    by_cases feed : c = '\n'
    · subst feed
      have behind : startOf text ('\n' :: rest) + 1 = startOf text rest := next
      rw [if_pos rfl, behind]
      rfl
    rw [if_neg feed]
    by_cases carriage : c = '\r'
    · subst carriage
      have behind : startOf text ('\r' :: rest) + 1 = startOf text rest := next
      rw [if_pos rfl, behind, meets?_char later]
      by_cases joined : rest.head? = some '\n'
      · obtain ⟨more, rfl⟩ := List.head?_eq_some_iff.1 joined
        have beyond : startOf text ('\r' :: '\n' :: more) + 2 = startOf text more := by
          rw [← startOf_cons later, ← behind]
          rfl
        rw [beyond]
        rfl
      · have alone : fieldEnd ('\r' :: rest) = .lineBreak rest :=
          (fieldEnd_return rest).resolve_right fun ⟨_, same, _⟩ => joined (by rw [same, List.head?_cons])
        rw [alone, decide_eq_false joined]
        rfl
    · have other : fieldEnd (c :: rest) = .other := by
        unfold fieldEnd
        split <;> simp_all
      rw [if_neg carriage, other]
      rfl

/-- A record is read field by field. -/
theorem readRecord_eq (total : Nat) (text : List Char) : readRecord total text =
    (readField total text).bind fun (field, rest) => match fieldEnd rest with
      | .lineBreak after => .ok ([field], after)
      | .other => .error (.afterQuote (total - byteSize rest))
      | .comma more => (readRecord total more).map fun (fields, after) => (field :: fields, after) := by
  rw [readRecord]
  split
  · next read =>
    rw [read]
    rfl
  · next field rest read =>
    simp only [read, Except.bind]
    split
    · next atEnd => rw [atEnd]
    · next atEnd => rw [atEnd]
    · next more atEnd =>
      rw [atEnd]
      change _ = (readRecord total more).map _
      rcases readRecord total more with fault | ⟨fields, after⟩ <;> rfl

/-- Fields are found where they are read. -/
theorem scanFields_eq {turns : Nat} (suffix : rest <:+ text) (enough : rest.length < turns) (fields : List Field) :
    scanFields text turns (startOf text rest) fields =
      some ((readRecord (byteSize text) rest).map fun (more, after) => (fields ++ more, startOf text after)) := by
  induction turns generalizing rest fields with
  | zero => omega
  | succ turns ih =>
    rw [scanFields, scanField_eq suffix, readRecord_eq]
    rcases read : readField (byteSize text) rest with fault | ⟨field, left⟩
    · rfl
    · have fromLeft := (suffix_of_readField read).trans suffix
      simp only [Except.map, Except.bind, Option.bind_eq_bind, Option.bind_some, scanEnd_eq fromLeft]
      rcases atEnd : fieldEnd left with more | after | _
      · have comma := fieldEnd_comma atEnd
        have shorter := readField_length read
        rw [comma, List.length_cons] at shorter
        have fromMore : more <:+ text := (comma ▸ List.suffix_cons _ _).trans fromLeft
        simp only [ih fromMore (by omega : more.length < turns)]
        rcases readRecord (byteSize text) more with fault | ⟨others, after⟩
        · rfl
        · simp [Except.map]
      · rfl
      · rfl

theorem scanRecord_eq (suffix : rest <:+ text) : scanRecord text (startOf text rest) =
    some ((readRecord (byteSize text) rest).map fun (fields, after) => (fields, startOf text after)) := by
  have enough : rest.length < byteSize text + 1 := Nat.lt_succ_of_le (Nat.le_trans suffix.length_le (length_le_byteSize text))
  exact scanFields_eq suffix enough []

theorem suffix_of_lineBreak (atEnd : fieldEnd text = .lineBreak rest) : rest <:+ text := by
  unfold fieldEnd at atEnd
  split at atEnd <;> cases atEnd
  · exact List.suffix_refl _
  · exact List.suffix_cons _ _
  · exact (List.suffix_cons _ _).trans (List.suffix_cons _ _)
  · exact List.suffix_cons _ _

/-- What is left behind a record is a rest of the text, and the record has fields. -/
theorem suffix_of_readRecord {total : Nat} {fields : List Field} (read : readRecord total text = .ok (fields, rest)) :
    rest <:+ text ∧ fields ≠ [] := by
  fun_induction readRecord total text generalizing fields with
  | case1 | case3 | case4 => cases read
  | case2 text field left first after atEnd =>
    cases read
    exact ⟨(suffix_of_lineBreak atEnd).trans (suffix_of_readField first), List.cons_ne_nil _ _⟩
  | case5 text field left first more atEnd others after again ih =>
    cases read
    have fromMore : more <:+ text := (fieldEnd_comma atEnd ▸ List.suffix_cons _ _).trans (suffix_of_readField first)
    exact ⟨(ih again).1.trans fromMore, List.cons_ne_nil _ _⟩

/-- Line breaks in front are skipped. -/
theorem scanBlank_eq {turns : Nat} (suffix : rest <:+ text) (enough : rest.length < turns) :
    scanBlank text turns (startOf text rest) = some (startOf text (rest.dropWhile endsLine)) := by
  induction turns generalizing rest with
  | zero => omega
  | succ turns ih =>
    rw [scanBlank, meets?_startOf suffix]
    rcases rest with _ | ⟨c, rest⟩
    · rfl
    · rw [List.dropWhile_cons]
      rcases skipped : endsLine c with _ | _
      · simp [skipped]
      · have narrow : c.utf8Size = 1 := by
          rcases Bool.or_eq_true_iff.1 skipped with feed | carriage
          · rw [of_decide_eq_true feed]
            rfl
          · rw [of_decide_eq_true carriage]
            rfl
        have next := startOf_cons suffix
        rw [narrow] at next
        rw [List.length_cons] at enough
        simp [skipped, next, ih ((List.suffix_cons _ _).trans suffix) (by omega)]

theorem blank_takeWhile (text : List Char) : Blank (text.takeWhile endsLine) := by
  intro c member
  have ends : endsLine c = true := List.all_eq_true.1 List.all_takeWhile c member
  exact (Bool.or_eq_true_iff.1 ends).imp of_decide_eq_true of_decide_eq_true

/-- Blank lines are skipped, and what is left is read record by record. -/
theorem readRecords_eq (total : Nat) (text : List Char) : readRecords total text =
    if text.dropWhile endsLine = [] then []
    else match readRecord total (text.dropWhile endsLine) with
      | .error fault => [.error fault]
      | .ok (fields, after) => .ok fields :: readRecords total after := by
  have skipped := readRecords_blank total (blank_takeWhile text) (text.dropWhile endsLine)
  rw [List.takeWhile_append_dropWhile] at skipped
  rw [skipped]
  have first := List.head?_dropWhile_not endsLine text
  rcases left : text.dropWhile endsLine with _ | ⟨c, rest⟩
  · rw [readRecords, if_pos rfl]
  · rw [left] at first
    have solid : endsLine c = false := by simpa using first
    rw [if_neg (List.cons_ne_nil c rest), readRecords]
    · split
      · next read => rw [read]
      · next read => rw [read]
    · rintro rfl
      cases solid
    · rintro rfl
      cases solid

/-- What comes next is found where it is read. -/
theorem scanNext_eq (suffix : rest <:+ text) : scanNext text (startOf text rest) = some (
    if rest.dropWhile endsLine = [] then none
    else match readRecord (byteSize text) (rest.dropWhile endsLine) with
      | .error fault => some (.error fault, byteSize text)
      | .ok (fields, after) => some (.ok fields, startOf text after)) := by
  have enough : rest.length < byteSize text + 1 := Nat.lt_succ_of_le (Nat.le_trans suffix.length_le (length_le_byteSize text))
  have fromLeft : rest.dropWhile endsLine <:+ text := (List.dropWhile_suffix _).trans suffix
  rw [scanNext, scanBlank_eq suffix enough]
  simp only [Option.bind_eq_bind, Option.bind_some, scanRecord_eq fromLeft]
  by_cases last : rest.dropWhile endsLine = []
  · rw [if_pos last, last, startOf_nil, if_pos (Nat.le_refl _)]
    rfl
  · rw [if_neg last, if_neg (Nat.not_le_of_gt ((startOf_lt fromLeft).2 last))]
    rcases readRecord (byteSize text) (rest.dropWhile endsLine) with fault | ⟨fields, after⟩ <;> rfl

end Reading

/-- Items that were scanned from a position on: each ends behind where it began, within the text, and only the last can be a
fault. -/
structure Advances (text : List Char) (pos : Nat) (items : List (Except RowFault (List Field) × Nat)) : Prop where
  forward : (pos :: items.map Prod.snd).IsChain (· < ·)
  inside : ∀ item ∈ items, item.2 ≤ byteSize text
  well : ∀ item ∈ items.dropLast, item.1.isOk = true

section Items

variable {text rest : List Char} {pos : Nat} {items : List (Except RowFault (List Field) × Nat)}

theorem Advances.nil (text : List Char) (pos : Nat) : Advances text pos [] :=
  ⟨.singleton _, List.forall_mem_nil _, List.forall_mem_nil _⟩

theorem Advances.cons {next : Nat} (advances : Advances text next items) (further : pos < next) (within : next ≤ byteSize text)
    (fields : List Field) : Advances text pos ((.ok fields, next) :: items) where
  forward := List.isChain_cons_cons.2 ⟨further, advances.forward⟩
  inside := List.forall_mem_cons.2 ⟨within, advances.inside⟩
  well := by
    rcases items with _ | ⟨item, items⟩
    · exact List.forall_mem_nil _
    · exact List.forall_mem_cons.2 ⟨rfl, advances.well⟩

theorem Advances.last (further : pos < byteSize text) (fault : RowFault) : Advances text pos [(.error fault, byteSize text)] where
  forward := List.isChain_cons_cons.2 ⟨further, .singleton _⟩
  inside := List.forall_mem_singleton.2 (Nat.le_refl _)
  well := List.forall_mem_nil _

/-- There are no more items than bytes. -/
theorem Advances.length_le (advances : Advances text pos items) (within : pos ≤ byteSize text) :
    items.length ≤ byteSize text - pos := by
  have steps := advances.forward
  have inside := advances.inside
  clear advances
  induction items generalizing pos with
  | nil => exact Nat.zero_le _
  | cons item items ih =>
    obtain ⟨further, later⟩ := List.isChain_cons_cons.1 steps
    obtain ⟨here, rest⟩ := List.forall_mem_cons.1 inside
    have others := ih here later rest
    rw [List.length_cons]
    omega

/-- One item after another is found where it is read. -/
theorem scanAll_eq {turns : Nat} (suffix : rest <:+ text) (enough : rest.length < turns) :
    ∃ items, scanAll text turns (startOf text rest) = some items ∧ items.map Prod.fst = readRecords (byteSize text) rest ∧
      Advances text (startOf text rest) items := by
  induction turns generalizing rest with
  | zero => omega
  | succ turns ih =>
    rw [scanAll, scanNext_eq suffix, readRecords_eq]
    simp only [Option.bind_eq_bind, Option.bind_some]
    by_cases last : rest.dropWhile endsLine = []
    · rw [if_pos last, if_pos last]
      exact ⟨[], rfl, rfl, .nil _ _⟩
    · rw [if_neg last, if_neg last]
      have fromLeft : rest.dropWhile endsLine <:+ rest := List.dropWhile_suffix _
      have shorter := fromLeft.length_le
      rcases read : readRecord (byteSize text) (rest.dropWhile endsLine) with fault | ⟨fields, after⟩
      · have filled : rest ≠ [] := by
          rintro rfl
          exact last rfl
        have size := List.length_pos_iff.2 filled
        -- Behind a fault the reader stands at the end, where nothing is left.
        obtain ⟨items, scans, none, _⟩ := ih List.nil_suffix (by omega : 0 < turns)
        rw [readRecords_eq] at none
        cases List.map_eq_nil_iff.1 none
        rw [startOf_nil] at scans
        simp only [scans, Option.bind_some]
        exact ⟨[(.error fault, byteSize text)], rfl, rfl, .last ((startOf_lt suffix).2 filled) fault⟩
      · have fewer : after.length < rest.length := by
          rcases readRecord_length read with less | ⟨nothing, _⟩
          · omega
          · exact absurd nothing last
        have inside := (suffix_of_readRecord read).1.trans fromLeft
        obtain ⟨items, scans, reads, advances⟩ := ih (inside.trans suffix) (by omega)
        simp only [scans, Option.bind_some]
        refine ⟨(.ok fields, startOf text after) :: items, rfl, by rw [List.map_cons, reads], ?_⟩
        exact advances.cons (startOf_lt_startOf suffix inside fewer) (Nat.sub_le _ _) fields

end Items

/-- The records of a text are found by position within as many turns as the text has bytes, and one more, and nothing is looked
at outside the text. Each item leaves a position further on and not past the end, so there are no more items than bytes, and only
the last can be a fault. At any position within the text there is a record with at least one field that ends further on, or a
fault. -/
theorem records_scanned (text : String) :
    (∃ items, scanAll text.toList (text.utf8ByteSize + 1) 0 = some items ∧ items.map Prod.fst = records text ∧
        (0 :: items.map Prod.snd).IsChain (· < ·) ∧ (∀ item ∈ items, item.2 ≤ text.utf8ByteSize) ∧
        items.length ≤ text.utf8ByteSize ∧ ∀ item ∈ items.dropLast, item.1.isOk = true) ∧
      ∀ start rest, textFrom? text.toList start = some rest → rest ≠ [] →
        (∃ fault, scanRecord text.toList start = some (.error fault) ∧ readRecord text.utf8ByteSize rest = .error fault) ∨
          ∃ fields stop after, scanRecord text.toList start = some (.ok (fields, stop)) ∧
            readRecord text.utf8ByteSize rest = .ok (fields, after) ∧ textFrom? text.toList stop = some after ∧
            fields ≠ [] ∧ start < stop ∧ stop ≤ text.utf8ByteSize := by
  rw [← byteSize_eq]
  constructor
  · have enough : text.toList.length < byteSize text.toList + 1 := Nat.lt_succ_of_le (length_le_byteSize _)
    obtain ⟨items, scans, reads, advances⟩ := scanAll_eq (List.suffix_refl text.toList) enough
    have origin : startOf text.toList text.toList = 0 := Nat.sub_self _
    rw [origin] at scans advances
    exact ⟨items, scans, reads, advances.forward, advances.inside, advances.length_le (Nat.zero_le _), advances.well⟩
  · intro start rest found filled
    obtain ⟨suffix, rfl⟩ := textFrom?_some found
    rw [scanRecord_eq suffix]
    rcases read : readRecord (byteSize text.toList) rest with fault | ⟨fields, after⟩
    · exact .inl ⟨fault, rfl, rfl⟩
    · obtain ⟨inside, some⟩ := suffix_of_readRecord read
      have fewer : after.length < rest.length := (readRecord_length read).resolve_right fun nothing => filled nothing.1
      exact .inr ⟨fields, _, after, rfl, rfl, textFrom?_startOf (inside.trans suffix), some,
        startOf_lt_startOf suffix inside fewer, Nat.sub_le _ _⟩

/-- A comma and a quote as the last characters, behind line breaks of each kind and a character of two bytes. -/
example : scanAll "\r\n\ra,\"é\"\"\"\r\n\nb,\n,\"".toList 22 0 =
    some [(.ok [some "a", some "é\""], 13), (.ok [some "b", none], 17), (.error (.unterminatedQuote 18), 19)] := by
  decide +kernel

end Row

end ReferenceFeed
