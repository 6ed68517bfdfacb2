import ReferenceFeed.CompositeId
import ReferenceFeed.Proofs.Effect

namespace ReferenceFeed

/-!
Parts and the ids composed of them are two writings of one thing. What an id cannot tell apart are an absent part
and an empty one, and no parts and a single absent one; every id that can be split is the one its parts compose.
-/

namespace CompositeId

/-- The text a part has inside an id. -/
def textOf (part : Field) : List Char := (part.getD "").toList

/-- Pieces with slashes between them, each of them protected. -/
def join (found : List (List Char)) : List Char := ['/'].intercalate (found.map protect)

/-- The parts as an id has them: the empty ones are absent, and there is at least one. -/
def normal : List Field → List Field
  | [] => [none]
  | part :: rest => (part :: rest).map (Option.filter fun text => text ≠ "")

theorem join_cons_cons (piece next : List Char) (rest : List (List Char)) :
    join (piece :: next :: rest) = protect piece ++ '/' :: join (next :: rest) := by
  simp only [join, List.map_cons, List.intercalate_cons_cons, List.append_assoc, List.singleton_append]

theorem joinParts_eq_join (part : Field) (rest : List Field) :
    joinParts (part :: rest) = join ((part :: rest).map textOf) := by
  induction rest generalizing part with
  | nil => simp only [joinParts, join, List.map_cons, List.map_nil, List.intercalate_singleton, textOf]
  | cons next rest ih =>
    simp only [List.map_cons] at ih ⊢
    rw [join_cons_cons, ← ih, joinParts, textOf]
    exact List.cons_ne_nil next rest

theorem partOf_textOf (part : Field) : partOf (textOf part) = part.filter fun text => text ≠ "" := by
  rcases part with _ | text
  · rfl
  · by_cases empty : text = ""
    · subst empty
      rfl
    · have filled : text.toList.isEmpty = false := by simpa using empty
      rw [textOf, Option.getD_some, partOf, filled]
      simp [Option.filter, empty]

theorem textOf_partOf (piece : List Char) : textOf (partOf piece) = piece := by
  cases piece with
  | nil => rfl
  | cons c piece => simp [textOf, partOf]

section Pieces

variable {id : String} {text : List Char} {found : List (List Char)}

/-- A protected piece is taken off as a whole. What follows it goes on with the first piece. -/
theorem pieces_protect_append (piece : List Char) {first tail : List Char} {rest : List (List Char)}
    (read : pieces id tail = .ok (first :: rest)) :
    pieces id (protect piece ++ tail) = .ok ((piece ++ first) :: rest) := by
  induction piece with
  | nil => exact read
  | cons c piece ih =>
    rw [protect]
    by_cases special : c = '\\' ∨ c = '/'
    · have guarded : (c = '\\' || c = '/') = true := by simpa using special
      rw [if_pos guarded, List.cons_append, List.cons_append, pieces, if_pos guarded, ih]
      rfl
    · obtain ⟨escape, slash⟩ := not_or.1 special
      rw [if_neg (by simpa using special), List.cons_append, pieces]
      · rw [ih]
        rfl
      · exact fun _ _ same => absurd same escape
      · exact fun same => absurd same escape
      · exact slash

theorem pieces_join (id : String) (piece : List Char) (rest : List (List Char)) :
    pieces id (join (piece :: rest)) = .ok (piece :: rest) := by
  induction rest generalizing piece with
  | nil =>
    have alone : pieces id (protect piece ++ []) = .ok _ := pieces_protect_append piece rfl
    simpa only [List.append_nil, join, List.map_cons, List.map_nil, List.intercalate_singleton] using alone
  | cons next rest ih =>
    have after : pieces id ('/' :: join (next :: rest)) = .ok ([] :: next :: rest) := by
      rw [pieces, ih]
      rfl
    rw [join_cons_cons, pieces_protect_append piece after, List.append_nil]

theorem join_extendFirst (c : Char) (filled : found ≠ []) : join (extendFirst c found) = protect [c] ++ join found := by
  obtain ⟨piece, rest, rfl⟩ := List.exists_cons_of_ne_nil filled
  have head : protect (c :: piece) = protect [c] ++ protect piece := by
    simp only [protect]
    split <;> rfl
  cases rest with
  | nil => simp only [extendFirst, join, List.map_cons, List.map_nil, List.intercalate_singleton, head]
  | cons next rest => rw [extendFirst, join_cons_cons, join_cons_cons, head, List.append_assoc]

theorem join_nil_cons (filled : found ≠ []) : join ([] :: found) = '/' :: join found := by
  obtain ⟨piece, rest, rfl⟩ := List.exists_cons_of_ne_nil filled
  exact join_cons_cons [] piece rest

/-- Pieces that were found stand in the text as they would be written. -/
theorem join_pieces (read : pieces id text = .ok found) : found ≠ [] ∧ join found = text := by
  fun_induction pieces id text generalizing found with
  | case1 =>
    cases read
    exact ⟨List.cons_ne_nil _ _, rfl⟩
  | case2 c rest guarded ih =>
    obtain ⟨inner, split, rfl⟩ := map_ok read
    obtain ⟨filled, same⟩ := ih split
    refine ⟨by cases inner <;> exact List.cons_ne_nil _ _, ?_⟩
    rw [join_extendFirst c filled, same, protect, if_pos guarded]
    rfl
  | case3 | case4 => cases read
  | case5 rest ih =>
    obtain ⟨inner, split, rfl⟩ := map_ok read
    obtain ⟨filled, same⟩ := ih split
    exact ⟨List.cons_ne_nil _ _, by rw [join_nil_cons filled, same]⟩
  | case6 c rest paired lone slash ih =>
    have escape : c ≠ '\\' := by
      cases rest with
      | nil => exact fun same => lone same rfl
      | cons next rest => exact fun same => paired next rest same rfl
    obtain ⟨inner, split, rfl⟩ := map_ok read
    obtain ⟨filled, same⟩ := ih split
    refine ⟨by cases inner <;> exact List.cons_ne_nil _ _, ?_⟩
    have plain : ¬(c = '\\' || c = '/') = true := by simpa using ⟨escape, slash⟩
    rw [join_extendFirst c filled, same, protect, if_neg plain]
    rfl

end Pieces

theorem parts_compose (components : List Field) : parts (compose components) = .ok (normal components) := by
  cases components with
  | nil => rfl
  | cons part rest =>
    have read := pieces_join (compose (part :: rest)) (textOf part) (rest.map textOf)
    rw [← List.map_cons, ← joinParts_eq_join] at read
    have same : ((part :: rest).map textOf).map partOf = normal (part :: rest) := by
      rw [normal, List.map_map]
      exact List.map_congr_left fun other _ => partOf_textOf other
    rw [parts, compose, String.toList_ofList, ← compose, read, ← same]
    rfl

/-- An id that splits into parts is the id of these parts. -/
theorem compose_parts {id : String} {components : List Field} (read : parts id = .ok components) :
    compose components = id := by
  obtain ⟨found, split, rfl⟩ := map_ok read
  obtain ⟨filled, same⟩ := join_pieces split
  obtain ⟨piece, rest, rfl⟩ := List.exists_cons_of_ne_nil filled
  have back : ((piece :: rest).map partOf).map textOf = piece :: rest := by
    simp only [List.map_map, Function.comp_def, textOf_partOf, List.map_id']
  rw [compose, List.map_cons, joinParts_eq_join, ← List.map_cons, back, same, String.ofList_toList]

theorem compose_normal (components : List Field) : compose (normal components) = compose components :=
  compose_parts (parts_compose components)

/-- Composing and splitting undo each other. Parts that are composed are split off again as an id has them, so that only
parts which are the same then share an id; and an id splits at all if and only if it is composed of some parts, those that
it splits into among them. -/
theorem parts_inverts_compose :
    (∀ components, parts (compose components) = .ok (normal components)) ∧
    (∀ first second, compose first = compose second ↔ normal first = normal second) ∧
    (∀ id components, parts id = .ok components → compose components = id) ∧
    ∀ id, (∃ components, parts id = .ok components) ↔ ∃ components, compose components = id := by
  refine ⟨parts_compose, fun first second => ⟨fun same => ?_, fun same => ?_⟩, fun _ _ => compose_parts, fun id => ⟨?_, ?_⟩⟩
  · exact Except.ok.inj ((parts_compose first).symm.trans ((congrArg parts same).trans (parts_compose second)))
  · rw [← compose_normal first, same, compose_normal]
  · rintro ⟨components, read⟩
    exact ⟨components, compose_parts read⟩
  · rintro ⟨components, rfl⟩
    exact ⟨normal components, parts_compose components⟩

end CompositeId

end ReferenceFeed
