import ReferenceFeed.Settings
import ReferenceFeed.Settings.Json

namespace ReferenceFeed

/-!
Settings written as JSON: an object with a member for each setting, or a list of the settings in order. What
is not mentioned keeps its value, what is not known is passed over, and nothing known may be said twice.
-/

namespace Json

/-- A text. -/
def text? : Json → Option String
  | .string text => text
  | _ => none

/-- A number that fits into 64 bits. -/
def word64? : Json → Option Nat
  | .natural n => if n < Nat.pow 2 64 then some n else none
  | _ => none

/-- A list of texts. -/
def texts? : Json → Option (List String)
  | .list items => items.mapM text?
  | _ => none

/-- Lists of texts by name. Of two with one name the later counts. -/
def textLists? : Json → Option (Keyed (List String))
  | .object members => do
    let lists ← members.mapM fun (name, value) => return (← name, ← value.texts?)
    return lists.foldl (fun map (name, texts) => map.insert name texts) ∅
  | _ => none

/-- A policy, by its name or as an object that has the name as its only member. -/
def policy? : Json → Option UpdatePolicy
  | .string text => text.bind UpdatePolicy.ofName?
  | .object [(name, .null)] => name.bind UpdatePolicy.ofName?
  | _ => none

/-- The names of an object's members, if all of them are texts and none of `known` is repeated. -/
def memberNames? (known : List String) (members : List (Option String × Json)) : Option (List String) := do
  let names ← members.mapM Prod.fst
  if known.any fun name => names.count name > 1 then none else some names

/-- A member by its name, or what stands for it when it is missing. -/
def member {α : Type} (members : List (Option String × Json)) (name : String) (read : Json → Option α)
    (missing : α) : Option α :=
  match members.find? fun (key, _) => key = some name with
  | some (_, value) => read value
  | none => some missing

/-- An item by its place, or what stands for it when the list is shorter. -/
def item {α : Type} (items : List Json) (place : Nat) (read : Json → Option α) (missing : α) : Option α :=
  match items[place]? with
  | some value => read value
  | none => some missing

end Json

/-- The settings of an origin as a JSON value. -/
def OriginSettings.ofJson? (json : Json) : Option OriginSettings :=
  let unsaid : OriginSettings := {}
  match json with
  | .object members => do
    let _ ← Json.memberNames? ["groups", "update_mode", "outbound_buffer"] members
    return ⟨← Json.member members "groups" Json.textLists? unsaid.groups,
      ← Json.member members "update_mode" Json.policy? unsaid.policy,
      ← Json.member members "outbound_buffer" Json.word64? unsaid.queueCapacity⟩
  | .list items => do
    if items.length > 3 then none
    return ⟨← Json.item items 0 Json.textLists? unsaid.groups, ← Json.item items 1 Json.policy? unsaid.policy,
      ← Json.item items 2 Json.word64? unsaid.queueCapacity⟩
  | _ => none

/-- The settings of a replica as a JSON value. -/
def ReplicaSettings.ofJson? (json : Json) : Option ReplicaSettings :=
  let unsaid : ReplicaSettings := {}
  match json with
  | .object members => do
    let _ ← Json.memberNames? ["entity", "load_timeout_ms"] members
    return ⟨← Json.member members "entity" Json.text? unsaid.entity,
      ← Json.member members "load_timeout_ms" Json.word64? unsaid.loadTimeout⟩
  | .list items => do
    if items.length > 2 then none
    return ⟨← Json.item items 0 Json.text? unsaid.entity, ← Json.item items 1 Json.word64? unsaid.loadTimeout⟩
  | _ => none

/-- The settings that a text spells out, checked only for being readable. -/
def OriginSettings.parse (text : String) : Except SettingsFault OriginSettings :=
  match (Json.ofText text).bind OriginSettings.ofJson? with
  | some settings => .ok settings
  | none => .error .unreadable

/-- The settings of an origin from their text. -/
def OriginSettings.read (text : String) : Except SettingsFault OriginSettings := do
  (← OriginSettings.parse text).checked

/-- The settings of a replica from their text. -/
def ReplicaSettings.read (text : String) : Except SettingsFault ReplicaSettings :=
  match (Json.ofText text).bind ReplicaSettings.ofJson? with
  | some settings => settings.checked
  | none => .error .unreadable

end ReferenceFeed
