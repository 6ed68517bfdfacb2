import ReferenceFeed.Proofs.Trusting
import ReferenceFeed.Proofs.Width

namespace ReferenceFeed

/-!
Rows that differ in nothing but their quotes. A row is rendered anew before it is compared, and every row of a live store was
rendered from its fields, so how a transport writes its rows is never a change.
-/

namespace Row

/-- Two texts that are split into the same fields. -/
def Alike (one other : String) : Prop := ∃ fields, split one = .ok fields ∧ split other = .ok fields

theorem alike_iff {one other : String} : Alike one other ↔ ∃ fields ∈ (split one).toOption, split other = .ok fields := by
  unfold Alike
  rcases split one with fault | fields
  · exact ⟨nofun, nofun⟩
  · simp [Except.toOption]

instance (one other : String) : Decidable (Alike one other) := decidable_of_iff _ alike_iff.symm

theorem Alike.symm {one other : String} (alike : Alike one other) : Alike other one :=
  alike.imp fun _ => And.symm

end Row

/-- A row that is the rendering of its fields, the id first. -/
def Entry.Canonical (entry : Entry) : Prop := ∃ rest, entry.row = Row.render (some entry.id :: rest)

theorem Entry.Written.canonical {header : Header} {entry : Entry} (written : entry.Written header) : entry.Canonical :=
  written.imp fun _ => And.left

/-- The row that is stored under the id of a row has the same fields. -/
def Store.Has (store : Store) (row : String) : Prop :=
  ∃ id rest entry, Row.split row = .ok (some id :: rest) ∧ store.get? id = some entry ∧ Row.split entry.row = .ok (some id :: rest)

theorem Store.has_iff {store : Store} {row : String} : store.Has row ↔ ∃ fields ∈ (Row.split row).toOption,
    ∃ id ∈ fields.head?.join, ∃ entry ∈ store.get? id, Row.split entry.row = .ok fields := by
  unfold Has
  rcases Row.split row with fault | fields
  · exact ⟨nofun, nofun⟩
  · rcases fields with _ | ⟨_ | id, rest⟩ <;> simp [Except.toOption]

instance (store : Store) (row : String) : Decidable (store.Has row) := decidable_of_iff _ Store.has_iff.symm

namespace Claims

variable {settings : OriginSettings} {entity : String} {header : Header} {row other : String} {rows others : List String}

/-- What a row claims is a matter of its fields. -/
theorem entryOf_alike (alike : Row.Alike row other) {claim : String × Option Entry}
    (reads : entryOf settings entity header row = .ok claim) : entryOf settings entity header other = .ok claim := by
  obtain ⟨fields, splits, likewise⟩ := alike
  rw [entryOf, splits] at reads
  rw [entryOf, likewise]
  split at reads
  · next splits => cases splits
  · next splits =>
    cases splits
    exact reads
  · next id rest solid splits =>
    cases splits
    split at reads
    · next width =>
      cases rest with
      | nil => exact absurd rfl solid
      | cons field rest => simpa only [if_pos width] using reads
    · cases reads
  · cases reads

theorem ofRows_alike (alike : List.Forall₂ Row.Alike rows others) {claims : Claims}
    (reads : ofRows settings entity header rows = .ok claims) : ofRows settings entity header others = .ok claims := by
  obtain ⟨read, all, made⟩ := bind_ok reads
  have likewise : others.mapM (entryOf settings entity header) = .ok read := by
    rw [mapM_ok_iff] at all ⊢
    clear reads made
    induction alike generalizing read with
    | nil => exact all
    | cons same _ ih =>
      cases all with
      | cons here rest => exact .cons (entryOf_alike same here) (ih _ rest)
  rw [ofRows, likewise]
  exact made

section Reading

variable {claims : Claims} {id : String} (reads : ofRows settings entity header rows = .ok claims)

include reads

theorem mem_ids : id ∈ claims.ids ↔ ∃ row ∈ rows, ∃ rest, Row.split row = .ok (some id :: rest) := by
  obtain ⟨read, all, made⟩ := bind_ok reads
  cases made
  have each := mapM_ok_iff.1 all
  rw [Names.mem_ofList, List.mem_map]
  constructor
  · rintro ⟨claim, inRead, rfl⟩
    obtain ⟨row, given, asserts⟩ := exists_of_forall₂ each inRead
    rcases entryOf_cases asserts with ⟨splits, _⟩ | ⟨rest, _, splits, _⟩
    · exact ⟨row, given, [], splits⟩
    · exact ⟨row, given, rest, splits⟩
  · rintro ⟨row, given, rest, splits⟩
    obtain ⟨claim, inRead, asserts⟩ := exists_of_forall₂ each.flip given
    refine ⟨claim, inRead, ?_⟩
    rcases entryOf_cases asserts with ⟨again, _⟩ | ⟨_, _, again, _⟩
    · cases splits.symm.trans again
      rfl
    · cases splits.symm.trans again
      rfl

/-- An entry that is claimed is rendered from the fields of a row that has more than the id. -/
theorem spelled_of_mem {entry : Entry} (member : entry ∈ claims.entries) :
    ∃ row ∈ rows, ∃ rest, Row.split row = .ok (some entry.id :: rest) ∧ rest ≠ [] ∧ entry.row = Row.render (some entry.id :: rest) := by
  obtain ⟨read, all, made⟩ := bind_ok reads
  cases made
  obtain ⟨claim, inRead, picked⟩ := List.mem_filterMap.1 member
  obtain ⟨row, given, asserts⟩ := exists_of_forall₂ (mapM_ok_iff.1 all) inRead
  rcases entryOf_cases asserts with ⟨_, none⟩ | ⟨rest, filled, splits, solid, asserted, named, spelled, _⟩
  · cases none.symm.trans picked
  · cases asserted.symm.trans picked
    rw [← named] at splits spelled
    exact ⟨row, given, rest, splits, solid, spelled⟩

theorem mem_of_spelled {rest : List Field} (given : row ∈ rows) (splits : Row.split row = .ok (some id :: rest)) (solid : rest ≠ []) :
    id ∈ claims.entries.map Entry.id := by
  obtain ⟨read, all, made⟩ := bind_ok reads
  cases made
  obtain ⟨claim, inRead, asserts⟩ := exists_of_forall₂ (mapM_ok_iff.1 all).flip given
  rcases entryOf_cases asserts with ⟨again, _⟩ | ⟨_, entry, again, _, asserted, named, _⟩
  · cases splits.symm.trans again
    exact absurd rfl solid
  · cases splits.symm.trans again
    exact List.mem_map.2 ⟨entry, List.mem_filterMap.2 ⟨claim, inRead, asserted⟩, named⟩

variable {old : Store} (had : ∀ row ∈ rows, old.Has row)

include had

/-- A row that is stored already and holds only an id takes this id away. -/
theorem removed_of_bare (given : row ∈ rows) (splits : Row.split row = .ok [some id]) :
    id ∈ (Delta.ofFetch old claims.ids claims.entries).changes.removed := by
  obtain ⟨_, _, stored, again, found, held⟩ := had row given
  cases splits.symm.trans again
  refine Delta.mem_removed_iff.2 ⟨(mem_ids reads).2 ⟨row, given, [], splits⟩, ?_, by rw [Store.row?, found]; rfl⟩
  intro claimed
  obtain ⟨entry, member, rfl⟩ := List.mem_map.1 claimed
  obtain ⟨text, among, rest, apart, solid, _⟩ := spelled_of_mem reads member
  -- Both rows are the one that is stored under their id, so this one holds only an id as well.
  obtain ⟨_, _, twin, again, likewise, same⟩ := had text among
  cases apart.symm.trans again
  cases found.symm.trans likewise
  cases held.symm.trans same
  exact solid rfl

/-- Rows that are stored already and hold more than an id change nothing. -/
theorem changes_of_filled (canonical : ∀ id entry, old.get? id = some entry → entry.Canonical)
    (filled : ∀ row ∈ rows, ∀ id, Row.split row ≠ .ok [some id]) :
    (Delta.ofFetch old claims.ids claims.entries).changes = {} := by
  have updated : (Delta.ofFetch old claims.ids claims.entries).changes.updated = ∅ := by
    refine Std.ExtTreeSet.ext_mem fun id => iff_of_false ?_ Std.ExtTreeSet.not_mem_empty
    rw [Delta.mem_updated_iff]
    rintro ⟨entry, member, rfl, differs⟩
    obtain ⟨row, given, rest, splits, _, spelled⟩ := spelled_of_mem reads member
    obtain ⟨_, _, stored, again, found, held⟩ := had row given
    cases splits.symm.trans again
    obtain ⟨others, written⟩ := canonical entry.id stored found
    rw [written, Row.split_render] at held
    refine differs ?_
    rw [Store.row?, found, Option.map_some, written, Except.ok.inj held, spelled]
  have removed : (Delta.ofFetch old claims.ids claims.entries).changes.removed = ∅ := by
    refine Std.ExtTreeSet.ext_mem fun id => iff_of_false ?_ Std.ExtTreeSet.not_mem_empty
    rw [Delta.mem_removed_iff]
    rintro ⟨asked, ungiven, _⟩
    obtain ⟨row, given, rest, splits⟩ := (mem_ids reads).1 asked
    exact ungiven (mem_of_spelled reads given splits fun none => filled row given id (none ▸ splits))
  exact congrArg₂ Changes.mk updated removed

/-- Rows that are stored already change nothing, unless one of them holds only an id, which counts as gone. -/
theorem changes_of_had (canonical : ∀ id entry, old.get? id = some entry → entry.Canonical) :
    (Delta.ofFetch old claims.ids claims.entries).changes = {} ↔ ∀ row ∈ rows, ∀ id, Row.split row ≠ .ok [some id] := by
  refine ⟨fun nothing row given id splits => ?_, changes_of_filled reads had canonical⟩
  have removed := removed_of_bare reads had given splits
  rw [nothing] at removed
  exact Std.ExtTreeSet.not_mem_empty removed

end Reading

end Claims

theorem Origin.claimsOf_alike {o : Origin Nat} {entity : String} {header : Header} {rows others : List String} {claims : Claims}
    (alike : List.Forall₂ Row.Alike rows others) (claimed : o.claimsOf entity header rows = .ok claims) :
    o.claimsOf entity header others = .ok claims := by
  obtain ⟨old, alive, rfl, reads⟩ := claimsOf_ok claimed
  rw [claimsOf_alive alive]
  exact Claims.ofRows_alike alike reads

namespace Site

variable {c : Conduct} {s t : Site} {entity : String} {rows others : List String} {old : Store} {thread : Thread} {steps : List Step}

/-- Rows are refused or considered whatever their quotes are, and come to the same. -/
theorem act_alike (alike : List.Forall₂ Row.Alike rows others) (c : Conduct) (s : Site) (thread : Thread) (entity : String)
    (header : Header) :
    (act c thread (.applyRows entity header rows) s).1.toOption = (act c thread (.applyRows entity header others) s).1.toOption ∧
      (act c thread (.applyRows entity header rows) s).2 = (act c thread (.applyRows entity header others) s).2 := by
  have back : List.Forall₂ Row.Alike others rows := alike.flip.imp fun _ _ => Row.Alike.symm
  cases claimed : s.origin.claimsOf entity header rows with
  | ok claims =>
    rw [act_claimed claimed, act_claimed (Origin.claimsOf_alike alike claimed)]
    exact ⟨rfl, rfl⟩
  | error cause =>
    cases likewise : s.origin.claimsOf entity header others with
    | ok claims => cases claimed.symm.trans (Origin.claimsOf_alike back likewise)
    | error other =>
      rw [act_refused claimed, act_refused likewise]
      exact ⟨rfl, rfl⟩

/-- Every row that is live is the rendering of its fields. -/
def Canonical (s : Site) : Prop :=
  ∀ (entity : String) (store : Store) (id : String) (entry : Entry), s.origin.live[entity]? = some store →
    store.get? id = some entry → entry.Canonical

theorem Passes.canonical {action : Action} (passes : Passes action s t) (sound : Sound s) (canonical : s.Canonical) : t.Canonical := by
  intro entity new id entry alive found
  rcases passes.entry_origin sound alive found with ⟨old, was, _, there⟩ | written | ⟨_, _, _, _, _, _, written⟩
  · exact canonical entity old id entry was there
  · exact written.canonical
  · exact written.canonical

/-- Whatever its columns were, a row that has become live was rendered from its fields. -/
theorem Run.canonical (run : Run c s steps t) (passes : ∀ step ∈ steps, Passes step.action step.before (step.after c) ∧ Sound step.before)
    (canonical : s.Canonical) : t.Canonical := by
  induction run with
  | start => exact canonical
  | @next steps t thread action answer u previous acts ih =>
    obtain ⟨passing, sound⟩ := passes _ (List.mem_append_right steps (List.mem_singleton_self (Step.mk t thread action answer)))
    have after := passing.canonical sound (ih fun step member => passes step (List.mem_append_left _ member))
    rwa [Step.after, acts] at after

/-- Over the tables of a source, whose columns may change at any time, how the rows of a trusted transport are quoted makes no
difference to what they come to. Rows that are stored already, however they are quoted, change nothing and are told and sent
to nobody, if and only if none of them holds only an id. -/
theorem Tabled.quoting_harmless_iff (tabled : Tabled c) {settings : OriginSettings} {changes : List Catalogue.Mutation}
    (run : Run c (overTables settings changes) steps s) (plain : ∀ step ∈ steps, step.action.isHandle = false)
    (trusts : s.origin.settings.policy = .trusted) (alike : List.Forall₂ Row.Alike rows others) (entity : String) (header : Header)
    (thread : Thread) :
    ((act c thread (.applyRows entity header rows) s).1.toOption = (act c thread (.applyRows entity header others) s).1.toOption ∧
      (act c thread (.applyRows entity header rows) s).2 = (act c thread (.applyRows entity header others) s).2) ∧
    ∀ old changes t, s.origin.live[entity]? = some old →
      act c thread (.applyRows entity header rows) s = (.ok (.changes changes), t) → (∀ row ∈ rows, old.Has row) →
      (changes = {} ∧ t.origin.live = s.origin.live ∧ t.published = s.published ∧ t.heard = s.heard ↔
        ∀ row ∈ rows, ∀ id, Row.split row ≠ .ok [some id]) := by
  refine ⟨act_alike alike c s thread entity header, fun old changes t alive acts had => ?_⟩
  obtain ⟨resting, passes⟩ := run.resting tabled plain (resting_overTables ..)
  have sound := resting.sound
  have canonical : s.Canonical := by
    refine run.canonical passes fun entity store id entry there => ?_
    rw [overTables, Std.ExtTreeMap.getElem?_empty] at there
    cases there
  have free : s.origin.fanout.isOpen = false := by rw [Fanout.isOpen, resting.closed]; rfl
  cases claimed : s.origin.claimsOf entity header rows with
  | error cause => cases (act_refused claimed).symm.trans acts
  | ok claims =>
    obtain ⟨_, again, rfl, reads⟩ := Origin.claimsOf_ok claimed
    cases alive.symm.trans again
    obtain ⟨told, next, after, ends, landed, absorbs⟩ :=
      (sound.on thread).considers_trusted (c := c) free alive (Claims.ofRows_written reads)
    rw [act_claimed claimed, trusts, ends] at acts
    cases acts
    rw [← Claims.changes_of_had reads had fun id entry => canonical entity old id entry alive]
    refine ⟨And.left, fun nothing => ⟨nothing, ?_⟩⟩
    exact landed.of_on.idle sound (Delta.coherent_ofFetch ..) alive absorbs nothing

/-- A table that was loaded, with a text that has to be quoted, an empty one and none. -/
def quoted : List Step × Site :=
  enact staffed (overTables {} [.load "e" "id,v,w\n1,\"a,b\",x\n2,\"\",\n3,y,z"])
    [(0, .register 0), (0, .subscribe (.only {"e"})), (0, .reload "e")]

/-- Two of its rows, as they are stored, and with quotes and line ends that they do not need. -/
def bareRows : List String := ["2,\"\",", "1,\"a,b\",x"]

def quotedRows : List String := ["\"2\",\"\",\r\n", "1,\"a,b\",\"x\"\n"]

theorem quoting_harmless_quoted : ∃ old t, quoted.2.origin.live["e"]? = some old ∧
    act staffed 1 (.applyRows "e" old.header quotedRows) quoted.2 = (.ok (.changes {}), t) ∧
    t.origin.live = quoted.2.origin.live ∧ t.published = quoted.2.published ∧ t.heard = quoted.2.heard ∧
    (act staffed 1 (.applyRows "e" old.header bareRows) quoted.2).2 = t := by
  have there : (quoted.2.origin.live["e"]?).map (fun old =>
      (decide (∀ row ∈ quotedRows, old.Has row), (act staffed 1 (.applyRows "e" old.header quotedRows) quoted.2).1)) =
        some (true, .ok (.changes {})) := by decide +kernel
  obtain ⟨old, alive, there⟩ := Option.map_eq_some_iff.1 there
  obtain ⟨had, answered⟩ := Prod.mk.inj there
  obtain ⟨⟨_, same⟩, harmless⟩ := tabled_staffed.quoting_harmless_iff (run_enact ..) (show ∀ step ∈ quoted.1, _ by decide +kernel)
    (by decide +kernel) (show List.Forall₂ Row.Alike quotedRows bareRows by decide +kernel) "e" old.header 1
  have filled : ∀ row ∈ quotedRows, ∀ id, Row.split row ≠ .ok [some id] := by
    intro row given id bare
    have long : ∀ row ∈ quotedRows, (Row.split row).toOption.map List.length = some 3 := by decide +kernel
    have three := long row given
    rw [bare] at three
    cases three
  obtain ⟨_, live, published, heard⟩ :=
    (harmless old {} _ alive (Prod.ext answered rfl) (of_decide_eq_true had)).2 filled
  exact ⟨old, _, alive, Prod.ext answered rfl, live, published, heard, same.symm⟩

/-- A table that has only ids in the end, one of which is fetched into the store of a table that had more. -/
def narrowed : List Step × Site :=
  enact staffed (overTables {} [.load "e" "id,v\n1,x"])
    [(0, .reload "e"), (0, .mutate (.load "e" "id")), (0, .mutate (.upsert "e" [some "1"])), (0, .refresh "e" {"1"})]

/-- A row that is stored as it is given may be taken for a removal. -/
theorem not_quoting_harmless : ¬∀ (c : Conduct) (settings : OriginSettings) (changes : List Catalogue.Mutation) (steps : List Step)
    (s t : Site) (thread : Thread) (entity : String) (rows : List String) (old : Store) (found : Changes),
    Tabled c → Run c (overTables settings changes) steps s → (∀ step ∈ steps, step.action.isHandle = false) →
    s.origin.settings.policy = .trusted → s.origin.live[entity]? = some old → 2 ≤ old.header.width →
    act c thread (.applyRows entity old.header rows) s = (.ok (.changes found), t) → (∀ row ∈ rows, old.Has row) →
    found = {} ∧ t.origin.live = s.origin.live ∧ t.published = s.published ∧ t.heard = s.heard := by
  intro claim
  have there : (narrowed.2.origin.live["e"]?).map (fun old => (decide (2 ≤ old.header.width), decide (old.Has "1"),
      (act staffed 0 (.applyRows "e" old.header ["1"]) narrowed.2).1)) = some (true, true, .ok (.changes ⟨∅, {"1"}⟩)) := by
    decide +kernel
  obtain ⟨old, alive, there⟩ := Option.map_eq_some_iff.1 there
  obtain ⟨wide, there⟩ := Prod.mk.inj there
  obtain ⟨had, answered⟩ := Prod.mk.inj there
  obtain ⟨nothing, _⟩ := claim staffed _ _ narrowed.1 narrowed.2 _ 0 "e" ["1"] old _ tabled_staffed (run_enact ..)
    (by decide +kernel) (by decide +kernel) alive (of_decide_eq_true wide) (Prod.ext answered rfl)
    (List.forall_mem_singleton.2 (of_decide_eq_true had))
  exact absurd nothing (by decide +kernel)

end Site

end ReferenceFeed
