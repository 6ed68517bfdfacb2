import Mathlib.Data.List.Nodup
import ReferenceFeed.Keyed

namespace ReferenceFeed

/-!
Look-ups in keyed maps and sets of names, said with equality of keys, and in lists where the last item with a key counts.
-/

namespace Names

theorem mem_insert {names : Names} {added name : String} : name ∈ names.insert added ↔ name = added ∨ name ∈ names := by
  rw [Std.ExtTreeSet.mem_insert, Std.compare_eq_iff_eq, @eq_comm _ added]

theorem mem_erase {names : Names} {erased name : String} :
    name ∈ names.erase erased ↔ name ≠ erased ∧ name ∈ names := by
  rw [Std.ExtTreeSet.mem_erase, ne_eq, Std.compare_eq_iff_eq, @eq_comm _ erased]

theorem contains_iff {names : Names} {name : String} : names.contains name = true ↔ name ∈ names :=
  Std.ExtTreeSet.contains_iff_mem

theorem mem_ofList {list : List String} {name : String} : name ∈ ofList list ↔ name ∈ list := by
  rw [ofList, Std.ExtTreeSet.mem_ofList, List.contains_iff_mem]

/-- Names that are in order already stay as they are. -/
theorem toList_ofList {list : List String} {names : Names} (inside : list.Sublist names.toList) :
    (ofList list).toList = list := by
  have sorted : list.Pairwise fun a b => compare a b = .lt := Std.ExtTreeSet.ordered_toList.sublist inside
  have differ : ∀ a b : String, compare a b = .lt → a ≠ b := by
    rintro a _ less rfl
    simp at less
  have members : ∀ name, name ∈ (ofList list).toList ↔ name ∈ list := fun name => by
    rw [Std.ExtTreeSet.mem_toList, mem_ofList]
  refine List.Perm.eq_of_pairwise (fun a b _ _ less more => ?_) Std.ExtTreeSet.ordered_toList sorted ?_
  · exact absurd (Std.OrientedCmp.gt_of_lt less) (by rw [more]; decide)
  · rw [List.perm_ext_iff_of_nodup (Std.ExtTreeSet.ordered_toList.imp fun {a b} => differ a b) (sorted.imp fun {a b} => differ a b)]
    exact members

theorem mem_singleton {id other : String} : other ∈ ({id} : Names) ↔ other = id := by
  change other ∈ (∅ : Names).insert id ↔ _
  rw [mem_insert, or_iff_left Std.ExtTreeSet.not_mem_empty]

theorem toList_singleton (id : String) : ({id} : Names).toList = [id] := by
  have distinct : ({id} : Names).toList.Nodup :=
    Std.ExtTreeSet.distinct_toList.imp fun differ same => differ (Std.compare_eq_iff_eq.2 same)
  refine List.perm_singleton.1 ((List.perm_ext_iff_of_nodup distinct (List.nodup_singleton id)).2 fun other => ?_)
  rw [Std.ExtTreeSet.mem_toList, mem_singleton, List.mem_singleton]

theorem mem_filter {names : Names} {keep : String → Bool} {name : String} :
    name ∈ names.filter keep ↔ name ∈ names ∧ keep name = true := by
  rw [Std.ExtTreeSet.mem_filter]
  simp

theorem toList_filter (names : Names) (keep : String → Bool) : (names.filter keep).toList = names.toList.filter keep := by
  have same : names.filter keep = ofList (names.toList.filter keep) := by
    refine Std.ExtTreeSet.ext_mem fun name => ?_
    rw [mem_filter, mem_ofList, List.mem_filter, Std.ExtTreeSet.mem_toList]
  rw [same]
  exact toList_ofList List.filter_sublist

end Names

namespace Keyed

variable {α : Type} {κ : Type} [Ord κ] [Std.TransOrd κ]

theorem values_eq_map (map : Std.ExtTreeMap κ α) : map.values = map.toList.map Prod.snd := by
  have folded : map.values = map.foldr (fun _ value rest => value :: rest) [] := by
    rcases map with ⟨⟨inner⟩⟩
    rfl
  rw [folded, Std.ExtTreeMap.foldr_eq_foldr_toList]
  induction map.toList with
  | nil => rfl
  | cons pair rest ih => simp [ih]

theorem contains_iff {map : Std.ExtTreeMap κ α} {key : κ} : map.contains key = true ↔ ∃ value, map[key]? = some value := by
  rw [Std.ExtTreeMap.contains_eq_isSome_getElem?, Option.isSome_iff_exists]

variable [Std.LawfulEqOrd κ]

theorem getElem?_insert [DecidableEq κ] (map : Std.ExtTreeMap κ α) (key other : κ) (value : α) :
    (map.insert key value)[other]? = if key = other then some value else map[other]? := by
  simp only [Std.ExtTreeMap.getElem?_insert, Std.compare_eq_iff_eq]

theorem getElem?_erase [DecidableEq κ] (map : Std.ExtTreeMap κ α) (key other : κ) :
    (map.erase key)[other]? = if key = other then none else map[other]? := by
  simp only [Std.ExtTreeMap.getElem?_erase, Std.compare_eq_iff_eq]

theorem mem_values {map : Std.ExtTreeMap κ α} {value : α} : value ∈ map.values ↔ ∃ key : κ, map[key]? = some value := by
  simp only [values_eq_map, List.mem_map, Prod.exists, Std.ExtTreeMap.mem_toList_iff_getElem?_eq_some]
  constructor
  · rintro ⟨key, _, stored, rfl⟩
    exact ⟨key, stored⟩
  · rintro ⟨key, stored⟩
    exact ⟨key, value, stored, rfl⟩

theorem mem_names {map : Keyed α} {name : String} : name ∈ names map ↔ map[name]?.isSome := by
  simp [names, Std.ExtTreeSet.mem_ofList, Std.ExtTreeMap.mem_keys]

theorem nodup_toList (map : Std.ExtTreeMap κ α) : (map.toList.map Prod.fst).Nodup := by
  rw [Std.ExtTreeMap.map_fst_toList_eq_keys]
  exact Std.ExtTreeMap.distinct_keys.imp fun differ same => differ (Std.compare_eq_iff_eq.2 same)

/-- Values that know their keys come in the order of these. -/
theorem map_values {map : Std.ExtTreeMap κ α} {keyOf : α → κ} (keyed : ∀ key value, map[key]? = some value → keyOf value = key) :
    map.values.map keyOf = map.keys := by
  rw [values_eq_map, List.map_map, ← Std.ExtTreeMap.map_fst_toList_eq_keys]
  refine List.map_congr_left ?_
  rintro ⟨key, value⟩ member
  exact keyed key value (Std.ExtTreeMap.mem_toList_iff_getElem?_eq_some.1 member)

theorem nodup_values_map {map : Std.ExtTreeMap κ α} {keyOf : α → κ}
    (keyed : ∀ key value, map[key]? = some value → keyOf value = key) : (map.values.map keyOf).Nodup := by
  rw [map_values keyed, ← Std.ExtTreeMap.map_fst_toList_eq_keys]
  exact nodup_toList map

end Keyed

/-- Where every key has one item, an item is found by its key. -/
theorem find?_of_nodup {α : Type} {keyOf : α → String} {items : List α} (distinct : (items.map keyOf).Nodup) {item : α}
    (member : item ∈ items) : (items.find? fun other => keyOf other = keyOf item) = some item := by
  cases found : items.find? fun other => keyOf other = keyOf item with
  | none => simpa using List.find?_eq_none.1 found item member
  | some other =>
    have same : keyOf other = keyOf item := by simpa using List.find?_some found
    rw [List.inj_on_of_nodup_map distinct (List.mem_of_find?_eq_some found) member same]

/-- The last item with a key. -/
def lastOf {α : Type} (keyOf : α → String) (items : List α) (key : String) : Option α :=
  items.reverse.find? fun item => keyOf item = key

section Last

variable {α β : Type} {keyOf : α → String} {items : List α} {item : α} {key : String}

theorem lastOf_some (found : lastOf keyOf items key = some item) : item ∈ items ∧ keyOf item = key := by
  rw [lastOf] at found
  exact ⟨List.mem_reverse.1 (List.mem_of_find?_eq_some found), by simpa using List.find?_some found⟩

theorem lastOf_none : lastOf keyOf items key = none ↔ key ∉ items.map keyOf := by
  simp only [lastOf, List.find?_eq_none, List.mem_reverse, decide_eq_true_eq, List.mem_map, not_exists, not_and]

theorem lastOf_isSome : (lastOf keyOf items key).isSome = true ↔ key ∈ items.map keyOf := by
  rw [← not_iff_not, Bool.not_eq_true, Option.isSome_eq_false_iff, Option.isNone_iff_eq_none, lastOf_none]

theorem lastOf_of_nodup (distinct : (items.map keyOf).Nodup) (member : item ∈ items) :
    lastOf keyOf items (keyOf item) = some item := by
  refine find?_of_nodup ?_ (List.mem_reverse.2 member)
  rw [List.map_reverse]
  exact List.nodup_reverse.2 distinct

theorem lastOf_toList (map : Keyed β) (key : String) : (lastOf Prod.fst map.toList key).map Prod.snd = map[key]? := by
  rcases last : lastOf Prod.fst map.toList key with _ | ⟨other, value⟩
  · have absent : key ∉ map := fun member => lastOf_none.1 last (by
      rw [Std.ExtTreeMap.map_fst_toList_eq_keys]
      exact Std.ExtTreeMap.mem_keys.2 member)
    exact (Std.ExtTreeMap.getElem?_eq_none absent).symm
  · obtain ⟨member, rfl⟩ := lastOf_some last
    exact (Std.ExtTreeMap.mem_toList_iff_getElem?_eq_some.1 member).symm

theorem lastOf_singleton (item : α) (key : String) : lastOf keyOf [item] key = if keyOf item = key then some item else none := by
  by_cases here : keyOf item = key
  · simp [lastOf, here]
  · simp [lastOf, here]

theorem lastOf_append (first second : List α) (key : String) :
    lastOf keyOf (first ++ second) key = (lastOf keyOf second key).or (lastOf keyOf first key) := by
  rw [lastOf, List.reverse_append, List.find?_append]
  rfl

theorem lastOf_cons (item : α) (rest : List α) (key : String) :
    lastOf keyOf (item :: rest) key = (lastOf keyOf rest key).or (if keyOf item = key then some item else none) := by
  rw [← lastOf_singleton]
  exact lastOf_append [item] rest key

theorem lastOf_map {keyOf : β → String} (change : α → β) (items : List α) (key : String) :
    lastOf keyOf (items.map change) key = (lastOf (keyOf ∘ change) items key).map change := by
  rw [lastOf, lastOf, ← List.map_reverse, List.find?_map]
  rfl

/-- A selection by keys keeps the last item of a key, or has none. -/
theorem lastOf_filter (items : List α) (keep : String → Bool) (key : String) :
    lastOf keyOf (items.filter fun item => keep (keyOf item)) key = if keep key = true then lastOf keyOf items key else none := by
  rw [lastOf, lastOf, ← List.filter_reverse]
  induction items.reverse with
  | nil => simp
  | cons item rest ih =>
    rw [List.filter_cons, List.find?_cons]
    by_cases here : keyOf item = key
    · by_cases kept : keep key = true
      · simp [here, kept]
      · simpa [here, kept] using ih
    · by_cases kept : keep (keyOf item) = true
      · simpa [here, kept] using ih
      · simpa [here, kept] using ih

/-- Where every key has one item, a selection keeps this item or has none. -/
theorem lastOf_filter_of_nodup (distinct : (items.map keyOf).Nodup) (keep : α → Bool) (key : String) :
    lastOf keyOf (items.filter keep) key = (lastOf keyOf items key).filter keep := by
  have chosen : ((items.filter keep).map keyOf).Nodup := distinct.sublist (List.filter_sublist.map keyOf)
  rcases last : lastOf keyOf items key with _ | item
  · refine lastOf_none.2 fun member => lastOf_none.1 last ?_
    exact (List.filter_sublist.map keyOf).subset member
  · obtain ⟨member, rfl⟩ := lastOf_some last
    by_cases kept : keep item = true
    · rw [Option.filter_some, if_pos kept]
      exact lastOf_of_nodup chosen (List.mem_filter.2 ⟨member, kept⟩)
    · rw [Option.filter_some, if_neg kept]
      refine lastOf_none.2 fun among => kept ?_
      obtain ⟨other, listed, same⟩ := List.mem_map.1 among
      rw [← List.inj_on_of_nodup_map distinct (List.mem_filter.1 listed).1 member same]
      exact (List.mem_filter.1 listed).2

/-- Among what items of a list in order have, the last with a key is that of an item above which no other has one with that key. -/
theorem lastOf_filterMap_iff {order : β → β → Prop} (asymm : ∀ a b, order a b → ¬order b a) {pick : β → Option α} {list : List β}
    (ordered : list.Pairwise order) : lastOf keyOf (list.filterMap pick) key = some item ↔
      ∃ holder ∈ list, pick holder = some item ∧ keyOf item = key ∧
        ∀ above ∈ list, order holder above → ∀ other, pick above = some other → keyOf other ≠ key := by
  induction list with
  | nil => simp [lastOf]
  | cons first rest ih =>
    obtain ⟨least, ordered⟩ := List.pairwise_cons.1 ordered
    have irreflexive : ¬order first first := fun less => asymm first first less less
    rw [List.exists_mem_cons_iff]
    simp only [List.forall_mem_cons, irreflexive, false_implies, true_and]
    -- Whoever holds the item further on stands above the first one, so what the first one has does not matter.
    have later : (∃ holder ∈ rest, pick holder = some item ∧ keyOf item = key ∧
        (order holder first → ∀ other, pick first = some other → keyOf other ≠ key) ∧
        ∀ above ∈ rest, order holder above → ∀ other, pick above = some other → keyOf other ≠ key) ↔
        lastOf keyOf (rest.filterMap pick) key = some item := by
      rw [ih ordered]
      refine exists_congr fun holder => and_congr_right fun member => and_congr_right fun _ => and_congr_right fun _ => ?_
      exact and_iff_right fun less => absurd less (asymm first holder (least holder member))
    rw [later, List.filterMap_cons]
    rcases picked : pick first with _ | value
    · simp
    · rw [lastOf_cons]
      rcases last : lastOf keyOf (rest.filterMap pick) key with _ | other
      · have none : ∀ above ∈ rest, ∀ other, pick above = some other → keyOf other ≠ key := by
          intro above member other has same
          exact lastOf_none.1 last (List.mem_map.2 ⟨other, List.mem_filterMap.2 ⟨above, member, has⟩, same⟩)
        by_cases here : keyOf value = key
        · simp only [Option.none_or, here, if_true, Option.some.injEq, reduceCtorEq, or_false]
          refine ⟨?_, And.left⟩
          rintro rfl
          exact ⟨rfl, here, fun above member _ => none above member⟩
        · simp only [Option.none_or, here, if_false, Option.some.injEq, reduceCtorEq, or_false, false_iff]
          rintro ⟨rfl, same, _⟩
          exact here same
      · obtain ⟨listed, same⟩ := lastOf_some last
        obtain ⟨above, member, has⟩ := List.mem_filterMap.1 listed
        simp only [Option.some_or, Option.some.injEq]
        refine (or_iff_right ?_).symm
        rintro ⟨_, _, lone⟩
        exact absurd same (lone above member (least above member) other has)

/-- What is written into a map item by item is there as it was written last. -/
theorem getElem?_foldl_insert (keyOf : α → String) (valueOf : α → β) (items : List α) (map : Keyed β) (key : String) :
    (items.foldl (fun map item => map.insert (keyOf item) (valueOf item)) map)[key]? =
      ((lastOf keyOf items key).map valueOf).or map[key]? := by
  induction items generalizing map with
  | nil => rfl
  | cons item rest ih =>
    rw [List.foldl_cons, ih, Keyed.getElem?_insert, lastOf_cons]
    rcases lastOf keyOf rest key with _ | last
    · by_cases here : keyOf item = key
      · rw [if_pos here, if_pos here]
        rfl
      · rw [if_neg here, if_neg here]
        rfl
    · rfl

end Last

end ReferenceFeed
