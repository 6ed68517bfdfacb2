import ReferenceFeed.Proofs.Regular

namespace ReferenceFeed

/-!
The three fetches of a table tell of one content. A group value has those entries of the content that carry it, and an id has the
entry of the content with this id or none.
-/

open OriginSettings (fieldOf)

namespace Table

variable {t : Table} {entity : String}

/-- How a request for an id is answered by some content. -/
def replyOf (entity : String) (header : Header) (content : List Entry) (id : String) : Event :=
  match content.find? fun entry => entry.id = id with
  | some entry => .update entity header entry
  | none => .remove entity id

/-- The content comes in the order of its ids. -/
theorem content_ordered (t : Table) : t.content.Pairwise fun a b => compare a.id b.id = .lt :=
  List.pairwise_map.2 Std.ExtTreeMap.ordered_keys_toList

theorem find?_content (t : Table) (id : String) : (t.content.find? fun entry => entry.id = id) = t.sentFor id := by
  rcases found : t.content.find? fun entry => entry.id = id with _ | entry
  · rcases sent : t.sentFor id with _ | entry
    · exact found
    · obtain rfl := sentFor_id sent
      have absent := List.find?_eq_none.1 found entry (mem_content.2 sent)
      exact absurd (decide_eq_true rfl) absent
  · have same : entry.id = id := by simpa using List.find?_some found
    rw [← same, mem_content.1 (List.mem_of_find?_eq_some found), same, found]

/-- What an entry of the content says is what the header makes of its fields. -/
theorem Regular.content_spelled (regular : t.Regular) {entry : Entry} (member : entry ∈ t.content) :
    ∃ fields, entry.fields = .ok (some entry.id :: fields) ∧ fields.length + 1 = t.header.width ∧
      (∀ group : String, entry.groups[group]? =
        if t.groups.contains group then fieldOf t.header (some entry.id :: fields) group else none) ∧
      (t.idParts ≠ [] → (∀ part ∈ t.idParts, fieldOf t.header (some entry.id :: fields) part.1 ≠ none) ∧
        entry.id = CompositeId.compose (t.idParts.map fun part => fieldOf t.header (some entry.id :: fields) part.1)) := by
  obtain ⟨⟨id, row⟩, listed, rfl⟩ := List.mem_map.1 member
  have stored := Std.ExtTreeMap.mem_toList_iff_getElem?_eq_some.1 listed
  obtain ⟨rest, rfl, width⟩ := regular.sound id row stored
  refine ⟨rest, Row.split_render _ _, width, regular.groupsOf_named _, fun composing => ?_⟩
  obtain ⟨composable, composed⟩ := regular.keyed composing id _ stored
  rw [Composable, regular.idFields_named] at composable
  rw [regular.idFields_named] at composed
  refine ⟨fun part member lacking => composable ?_, composed.symm⟩
  exact List.mem_map.2 ⟨part, member, lacking⟩

/-- Of a declared group those entries are sent that carry the value. -/
theorem Regular.fetch_group (regular : t.Regular) (entity : String) {key : GroupValue} (declared : t.groups.contains key.group) :
    t.fetch (.group entity key) = .ofEvents (replacing (.reloadGroup entity key.group key.value) entity t.header
      (t.content.filter fun entry => entry.groups[key.group]? = some key.value)) := by
  obtain ⟨place, found⟩ := Keyed.contains_iff.1 declared
  have sends : (t.rows.values.filter fun fields => fields[place]? = some (some key.value)).map (t.eventOf entity) =
      ((t.content.filter fun entry => entry.groups[key.group]? = some key.value).map (.update entity t.header ·)).map .ok := by
    have carries : ∀ fields, (t.groupsOf fields)[key.group]? = some key.value ↔ fields[place]? = some (some key.value) := by
      intro fields
      rw [groupsOf, Std.ExtTreeMap.getElem?_filterMap, found]
      exact Option.join_eq_some_iff
    rw [content, Keyed.values_eq_map, List.filter_map, List.filter_map, List.map_map, List.map_map, List.map_map]
    have kept : t.rows.toList.filter ((fun fields => fields[place]? = some (some key.value)) ∘ Prod.snd) =
        t.rows.toList.filter ((fun entry => entry.groups[key.group]? = some key.value) ∘ fun pair => t.sent pair.1 pair.2) :=
      List.filter_congr fun pair _ => decide_eq_decide.2 (carries pair.2).symm
    rw [kept]
    refine List.map_congr_left fun pair member => eventOf_fits entity (regular.sound pair.1 pair.2 ?_)
    exact Std.ExtTreeMap.mem_toList_iff_getElem?_eq_some.1 (List.mem_filter.1 member).1
  rw [fetch, found]
  simp only
  rw [sends, ← Feed.ofResults_map]
  rfl

/-- An id that can be looked up is answered by the content. -/
theorem Regular.answerFor_reply (regular : t.Regular) {id key : String} (keyed : t.keyFor entity id = .ok key) :
    t.answerFor entity id = .ok (replyOf entity t.header t.content id) := by
  cases keyFor_ok keyed
  simp only [replyOf, find?_content, answerFor, keyed, sentFor]
  rcases found : t.rows[id]? with _ | fields
  · rfl
  · exact eventOf_fits entity (regular.sound id fields found)

/-- Of ids that can be looked up each is answered by the content. -/
theorem Regular.fetch_ids (regular : t.Regular) (entity : String) {ids : Names}
    (accepted : ∀ id ∈ ids, ∃ key, t.keyFor entity id = .ok key) :
    t.fetch (.ids entity ids) = .ofEvents (.block entity t.header :: ids.toList.map (replyOf entity t.header t.content)) := by
  have answers : ids.toList.map (t.answerFor entity) = (ids.toList.map (replyOf entity t.header t.content)).map .ok := by
    rw [List.map_map]
    refine List.map_congr_left fun id listed => ?_
    obtain ⟨key, keyed⟩ := accepted id (Std.ExtTreeSet.mem_toList.1 listed)
    exact regular.answerFor_reply keyed
  rw [fetch, answers, ← Feed.ofResults_map]
  rfl

/-- Whatever is fetched, the entries that are sent are some of the content, and are sent under the columns of the table. -/
theorem Regular.fetch_update (regular : t.Regular) {request : Request} {other : String} {header : Header} {entry : Entry}
    (sends : .event (.update other header entry) ∈ (t.fetch request).signals) :
    other = request.entity ∧ header = t.header ∧ entry ∈ t.content := by
  -- A reload of either kind sends part of the content behind its marker.
  have brought : ∀ {marker : Event} {entity : String} {entries : List Entry}, entries ⊆ t.content →
      marker.isMarker = true → .update other header entry ∈ replacing marker entity t.header entries →
      other = entity ∧ header = t.header ∧ entry ∈ t.content := by
    intro marker entity entries inside marks member
    rcases mem_replacing.1 member with rfl | block | ⟨same, listed, update⟩
    · cases marks
    · cases block
    · cases update
      exact ⟨rfl, rfl, inside listed⟩
  cases request with
  | whole entity =>
    rw [regular.sound.fetch_content] at sends
    exact brought (List.Subset.refl _) rfl (Feed.mem_ofEvents sends)
  | ids entity ids =>
    rcases List.mem_cons.1 (Feed.mem_ofResults sends) with block | member
    · cases block
    · obtain ⟨id, _, answers⟩ := List.mem_map.1 member
      rcases keyed : t.keyFor entity id with cause | key
      · rw [answerFor, keyed] at answers
        cases answers
      · rw [regular.answerFor_reply keyed] at answers
        unfold replyOf at answers
        split at answers
        · next found =>
          cases answers
          exact ⟨rfl, rfl, List.mem_of_find?_eq_some found⟩
        · cases answers
  | group entity key =>
    by_cases declared : t.groups.contains key.group = true
    · rw [regular.fetch_group entity declared] at sends
      exact brought (List.filter_subset_self _) rfl (Feed.mem_ofEvents sends)
    · have missing : t.groups[key.group]? = none := by
        rw [Std.ExtTreeMap.contains_eq_isSome_getElem?] at declared
        exact Option.not_isSome_iff_eq_none.1 declared
      rw [fetch, missing] at sends
      cases sends

/-- An id is looked up if ids are given, or if it splits into as many parts as ids are composed of. -/
theorem keyFor_accepts {id : String} (splits : t.idParts ≠ [] →
    ∃ parts, CompositeId.parts id = .ok parts ∧ parts.length = t.idParts.length) : ∃ key, t.keyFor entity id = .ok key := by
  unfold keyFor
  by_cases given : t.idParts.isEmpty = true
  · exact ⟨id, if_pos given⟩
  · obtain ⟨parts, split, count⟩ := splits fun none => given (List.isEmpty_iff.2 none)
    simp only [if_neg given, split, if_pos count]
    exact ⟨_, rfl⟩

end Table

namespace Catalogue

variable {c : Catalogue} {entity : String} {t : Table}

/-- Whatever was done to the tables, refused changes among it, what is fetched of an entity is one content: all of it, the entries
with a group value, or the answers for some ids. -/
theorem Made.fetches_content (made : c.Made) (found : c.tables[entity]? = some t) :
    c.fetch (.whole entity) = .ofEvents (replacing (.reload entity t.header) entity t.header t.content) ∧
      (t.content.Pairwise fun a b => compare a.id b.id = .lt) ∧
      (∀ entry ∈ t.content, ∃ fields, entry.fields = .ok (some entry.id :: fields) ∧ fields.length + 1 = t.header.width ∧
        (∀ group : String, entry.groups[group]? =
          if t.groups.contains group then fieldOf t.header (some entry.id :: fields) group else none) ∧
        (t.idParts ≠ [] → (∀ part ∈ t.idParts, fieldOf t.header (some entry.id :: fields) part.1 ≠ none) ∧
          entry.id = CompositeId.compose (t.idParts.map fun part => fieldOf t.header (some entry.id :: fields) part.1))) ∧
      (∀ key : GroupValue, t.groups.contains key.group →
        c.fetch (.group entity key) = .ofEvents (replacing (.reloadGroup entity key.group key.value) entity t.header
          (t.content.filter fun entry => entry.groups[key.group]? = some key.value))) ∧
      ∀ ids : Names, (t.idParts ≠ [] →
          ∀ id ∈ ids, ∃ parts, CompositeId.parts id = .ok parts ∧ parts.length = t.idParts.length) →
        c.fetch (.ids entity ids) =
          .ofEvents (.block entity t.header :: ids.toList.map (Table.replyOf entity t.header t.content)) := by
  have regular := made.regular entity t found
  have asks : ∀ request : Request, request.entity = entity → c.fetch request = t.fetch request := by
    rintro request rfl
    simp only [fetch, table, found]
  refine ⟨?_, t.content_ordered, fun entry => regular.content_spelled, fun key declared => ?_, fun ids splits => ?_⟩
  · rw [asks _ rfl, regular.sound.fetch_content]
  · rw [asks _ rfl, regular.fetch_group entity declared]
  · rw [asks _ rfl, regular.fetch_ids entity fun id asked => Table.keyFor_accepts fun composing => splits composing id asked]

/-- Three rows in two groups. Their ids are to be composed of a column that the last row lacks a value in; one row is stored after
that. -/
def patched : Catalogue :=
  ([.load "e" "id,a,g\n2,y,k\n1,x,k\n3,,l", .declareGroup "e" "g", .composeIds "e" ["a"], .upsert "e" [none, some "/", some "l"]] :
    List Mutation).foldl (fun tables change => (tables.mutate change).2) {}

theorem made_patched : patched.Made := ⟨_, rfl⟩

theorem patched_present : (patched.tables["e"]?).isSome := by decide +kernel

def patchedTable : Table := (patched.tables["e"]?).get patched_present

theorem fetches_content_patched : patched.Made ∧ patched.tables["e"]? = some patchedTable ∧ patchedTable.idParts = [("a", 1)] ∧
    patchedTable.content.map Entry.row = ["\\/,/,l", "x,x,k", "y,y,k"] ∧
    patched.fetch (.whole "e") = .ofEvents (replacing (.reload "e" patchedTable.header) "e" patchedTable.header patchedTable.content) ∧
    patched.fetch (.group "e" ⟨"g", "k"⟩) = .ofEvents (replacing (.reloadGroup "e" "g" "k") "e" patchedTable.header
      (patchedTable.content.filter fun entry => entry.groups["g"]? = some "k")) ∧
    patched.fetch (.ids "e" {"\\/"}) = .ofEvents (.block "e" patchedTable.header ::
      ({"\\/"} : Names).toList.map (Table.replyOf "e" patchedTable.header patchedTable.content)) := by
  have found : patched.tables["e"]? = some patchedTable := (Option.some_get patched_present).symm
  obtain ⟨whole, _, _, groups, ids⟩ := made_patched.fetches_content found
  refine ⟨made_patched, found, by decide +kernel, by decide +kernel, whole, groups ⟨"g", "k"⟩ (by decide +kernel), ?_⟩
  refine ids _ fun _ id asked => ?_
  have same : compare "\\/" id = .eq := by simpa [eq_comm] using asked
  obtain rfl := Std.compare_eq_iff_eq.1 same
  exact ⟨[some "/"], by decide +kernel, by decide +kernel⟩

end Catalogue

end ReferenceFeed
