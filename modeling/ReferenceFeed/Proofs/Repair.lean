import ReferenceFeed.Proofs.Application
import ReferenceFeed.Proofs.Trusting

namespace ReferenceFeed

/-!
A payload that is made for some ids. It says of each of them which row it has, or that it has none, and says nothing else:
whoever applies it agrees about these ids, whatever he had before.
-/

/-- A converter that keeps rows amends them by records. -/
theorem Record.enter_rowOf (header : Header) : Record.enter rowOf header = Record.amend := by
  funext rows record
  cases record <;> rfl

namespace Store

variable {store : Store}

/-- What a store has to say of some ids: which of them it has, and which it has not. -/
def standing (store : Store) (ids : Names) : Changes := ⟨ids.filter store.contains, ids.filter fun id => !store.contains id⟩

theorem payloadFor_standing {o : Origin Nat} {entity : String} (alive : o.live[entity]? = some store) (ids : Names) :
    o.payloadFor entity ids = .ok (store.renderSubset (store.standing ids).updated (store.standing ids).removed) := by
  rw [Origin.payloadFor, Origin.store, liveStore, alive]
  rfl

/-- Of each id that is asked for the records say which row it has, in one place or the other. -/
theorem lastOf_standing (own : OwnIds store.entries) (ids : Names) (id : String) :
    lastOf Record.id ((store.standing ids).records store) id =
      if id ∈ ids then some ((store.get? id).elim (.remove id) fun entry => .update entry.bare) else none := by
  have updates : lastOf Record.id ((store.subset (ids.filter store.contains)).map fun entry => .update entry.bare) id =
      (lastOf Entry.id (store.subset (ids.filter store.contains)) id).map fun entry => .update entry.bare := lastOf_map ..
  rw [Changes.records, standing, lastOf_append, Record.lastOf_removals, updates, lastOf_subset own]
  simp only [Std.ExtTreeSet.mem_toList, Names.mem_filter, contains_eq_isSome]
  -- the two parts speak of different ids, so it does not matter that the removals come last
  by_cases asked : id ∈ ids
  · rcases store.get? id with _ | entry <;> simp [asked]
  · simp [asked]

/-- Rows after the records for some ids: those of the store for these ids, and what they were for all others. -/
theorem getElem?_foldl_standing (own : OwnIds store.entries) (ids : Names) (rows : Keyed String) (id : String) :
    (((store.standing ids).records store).foldl Record.amend rows)[id]? = if id ∈ ids then store.row? id else rows[id]? := by
  rw [Record.getElem?_foldl_amend, lastOf_standing own]
  split
  · rw [row?]
    cases store.get? id <;> rfl
  · rfl

end Store

namespace Site

variable {c : Conduct} {s : Site} {entity : String} {store : Store}

/-- A payload for some ids, in any order and with repetitions, brings a replica that keeps rows to where the entity is with
these ids and leaves all others alone, whatever the replica had before and whatever its observers make of it. -/
theorem Reachable.payload_repairs (reach : Reachable c s) (alive : s.origin.live[entity]? = some store)
    (wide : 2 ≤ store.header.width) (made : ∀ (id : String) entry, store.get? id = some entry → entry.Made store.header)
    (ids : List String) (react : Reaction String) {q : Station String} (converts : q.replica.convert = rowOf)
    (idle : q.replica.phase = .idle) :
    ∃ text t, s.origin.payloadFor entity (Names.ofList ids) = .ok text ∧
      Station.act react (.arrive (.payload text false)) q = (.ok (), t) ∧ t.replica.phase = .idle ∧
      ∀ id : String, t.replica.live.records[id]? = if id ∈ ids then store.row? id else q.replica.live.records[id]? := by
  have sound := (reach.sound.stores entity store alive).2
  have legible : store.Legible := ⟨wide, fun id entry stored => (made id entry stored).written⟩
  let said := store.standing (Names.ofList ids)
  have read := legible.read_renderSubset sound said.updated said.removed
  have converting : Convertible q.replica.convert store.header (said.records store) := by
    rw [converts]
    exact fun entry _ => ⟨entry.row, rfl⟩
  obtain ⟨t, acts, resting, _, records⟩ := Station.act_payload react false idle read converting
  refine ⟨_, t, Store.payloadFor_standing alive _, acts, resting, fun id => ?_⟩
  rw [records, converts, Record.enter_rowOf]
  refine (Store.getElem?_foldl_standing sound.own (Names.ofList ids) _ id).trans ?_
  simp only [Names.mem_ofList]
  rfl

/-- An entity with ids that have to be quoted. -/
def quoting : Site :=
  (enact staffed (overTables {} [.load "e" "id,v\n\"\",x\n\"two\nlines\",y\n\"a\"\"b\",z"]) [(0, .reload "e")]).2

/-- A replica that holds an old row, one that is gone, and one that nobody asks for. -/
def outdated : Station String where
  replica := { settings := { entity := "e" }, convert := rowOf,
               live := { records := .ofList [("", "\"\",w"), ("1\n", "\"1\n\",w"), ("2", "2,w")] } }

/-- What is written for ids that are there and ids that are not. -/
def corrections : String := "id,v\n\"\",x\n\"two\nlines\",y\n\"1\n\"\n3"

theorem payload_repairs_outdated : ∃ store t, quoting.origin.live["e"]? = some store ∧
    quoting.origin.payloadFor "e" (Names.ofList ["two\nlines", "1\n", "", "3", "1\n"]) = .ok corrections ∧
    Station.act .calm (.arrive (.payload corrections false)) outdated = (.ok (), t) ∧
    t.replica.live.records[""]? = some "\"\",x" ∧ t.replica.live.records["two\nlines"]? = store.row? "two\nlines" ∧
    t.replica.live.records["1\n"]? = none ∧ t.replica.live.records["2"]? = some "2,w" := by
  have reach : Reachable staffed quoting := (run_enact ..).reachable (.fresh {} _)
  have content : (quoting.origin.live["e"]?).map (fun store => (store.header.names, store.all)) =
      some (["id", "v"], [⟨"", "\"\",x", ∅⟩, ⟨"a\"b", "\"a\"\"b\",z", ∅⟩, ⟨"two\nlines", "\"two\nlines\",y", ∅⟩]) := by
    decide +kernel
  have rows : (quoting.origin.live["e"]?).map (fun store => (store.row? "", store.row? "1\n")) = some (some "\"\",x", none) := by
    decide +kernel
  have written : quoting.origin.payloadFor "e" (Names.ofList ["two\nlines", "1\n", "", "3", "1\n"]) = .ok corrections := by
    decide +kernel
  obtain ⟨store, alive, same⟩ := Option.map_eq_some_iff.1 content
  obtain ⟨columns, all⟩ := Prod.mk.inj same
  rw [alive] at rows
  obtain ⟨empty, gone⟩ := Prod.mk.inj (Option.some.inj rows)
  have width : store.header.width = 2 := congrArg List.length columns
  have made : ∀ (id : String) entry, store.get? id = some entry → entry.Made store.header := by
    intro id entry stored
    have listed : entry ∈ store.all := Keyed.mem_values.2 ⟨id, stored⟩
    rw [all] at listed
    simp only [List.mem_cons, List.not_mem_nil, or_false] at listed
    rcases listed with rfl | rfl | rfl
    · exact ⟨[some "", some "x"], rfl, width.symm⟩
    · exact ⟨[some "a\"b", some "z"], rfl, width.symm⟩
    · exact ⟨[some "two\nlines", some "y"], rfl, width.symm⟩
  obtain ⟨text, t, renders, acts, _, records⟩ := reach.payload_repairs alive width.ge made
    ["two\nlines", "1\n", "", "3", "1\n"] .calm (q := outdated) rfl rfl
  cases written.symm.trans renders
  refine ⟨store, t, alive, written, acts, (records "").trans empty, records "two\nlines", (records "1\n").trans gone, ?_⟩
  exact (records "2").trans ((if_neg (by decide)).trans (by decide +kernel))

end Site

end ReferenceFeed
