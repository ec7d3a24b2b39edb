import Bindery.Navigation.Descriptor
import Bindery.Packages.Json.Document
import Bindery.Text.Integer

namespace Bindery.Packages.Descriptor

/-- A step from a value to a part of it. -/
inductive Step
  | field (name : String)
  | index (i : Nat)
  deriving DecidableEq, Repr

/-- The way from the whole document to a value, last step first. -/
abbrev Place := List Step

/-- A step as it is written. -/
def Step.text : Step → Text
  | .field name => '.' :: name.toList
  | .index i => '[' :: Text.ofNat i ++ [']']

/-- A place as it is written. -/
def Place.text (place : Place) : Text :=
  '$' :: place.reverse.flatMap Step.text

/-- Why bytes are not those of a descriptor. The first flaw that is met from left to right is the
    one reported. -/
inductive Flaw
  /-- The text is not JSON. -/
  | malformed
  /-- A string is not text. -/
  | notText
  | mismatch (expected found : String) (place : Place)
  /-- A number is greater than any floating point one. -/
  | outOfRange (place : Place)
  | missing (field : String) (place : Place)
  deriving DecidableEq, Repr

/-- Where a flaw is, for a part of the document. -/
def placeNote (place : Place) : Text :=
  if place.isEmpty then []
  else " - at \x60".toList ++ Place.text place ++ ['\x60']

/-- The wording of a flaw. A string that is not text has none. -/
def Flaw.message : Flaw → Text
  | .malformed => "malformed".toList
  | .notText => []
  | .mismatch expected found place =>
    "Expected \x60".toList ++ expected.toList ++ "\x60, got \x60".toList ++ found.toList ++
      ['\x60'] ++ placeNote place
  | .outOfRange place => "Number out of range".toList ++ placeNote place
  | .missing field place =>
    "Object missing required field \x60".toList ++ field.toList ++ ['\x60'] ++ placeNote place

/-- Fails unless the value could be read to its end. -/
def closedOr {α : Type} (closed : Bool) (value : α) : Except Flaw α :=
  if closed then .ok value else .error .malformed

/-- Fails at a value of another kind. A number is read before its kind is asked for, so one that is
    too great is reported as that. -/
def mismatch {α : Type} (expected : String) (place : Place) : Json → Except Flaw α
  | .float (.infinite _) => .error (.outOfRange place)
  | value => .error (.mismatch expected value.kind place)

/-- A value as text. -/
def text (place : Place) : Json → Except Flaw Text
  | .string bytes =>
    match Text.ofUtf8? bytes with
    | some text => .ok text
    | none => .error .notText
  | value => mismatch "str" place value

/-- Passes over a value that means nothing. -/
def pass (value : Json) : Except Flaw Unit :=
  closedOr value.intact ()

/-- Whether a key is the given word. -/
def isField (name : String) (key : Json.Bytes) : Bool :=
  key == Json.ascii name

/-- The fields of a group as far as they have been read. -/
structure GroupFields where
  name : Option Text
  items : List NavItem

/-- The group that the fields make. -/
def GroupFields.finish (closed : Bool) (place : Place) (fields : GroupFields) :
    Except Flaw (Text × List NavItem) := do
  closedOr closed ()
  match fields.name with
  | some name => return (name, fields.items)
  | none => throw (.missing "group" place)

mutual

/-- An entry of a group. -/
def item (place : Place) : Json → Except Flaw NavItem
  | .string bytes => return .page (← text place (.string bytes))
  | .object fields closed => do
    let (name, items) ← (← groupFields place ⟨none, []⟩ fields).finish closed place
    return .group name items
  | value => mismatch "str | object" place value

/-- The entries of a group from an index on. -/
def itemsFrom (place : Place) (i : Nat) : List Json → Except Flaw (List NavItem)
  | [] => return []
  | value :: rest =>
    return (← item (.index i :: place) value) :: (← itemsFrom place (i + 1) rest)

/-- What the remaining fields add to a group. -/
def groupFields (place : Place) (found : GroupFields) :
    List (Json.Bytes × Json) → Except Flaw GroupFields
  | [] => return found
  | (key, value) :: rest => do
    if isField "group" key then
      let name ← text (.field "group" :: place) value
      groupFields place { found with name := some name } rest
    else if isField "pages" key then
      let place' := .field "pages" :: place
      match value with
      | .array values closed =>
        let items ← itemsFrom place' 0 values
        closedOr closed ()
        groupFields place { found with items } rest
      | value => mismatch "array" place' value
    else
      pass value
      groupFields place found rest

end

/-- A group. -/
def group (place : Place) : Json → Except Flaw NavGroup
  | .object fields closed => do
    let (name, items) ← (← groupFields place ⟨none, []⟩ fields).finish closed place
    return ⟨name, items⟩
  | value => mismatch "object" place value

/-- The values of an array, read one after the other from an index on. -/
def arrayFrom {α : Type} (read : Place → Json → Except Flaw α) (place : Place) (i : Nat) :
    List Json → Except Flaw (List α)
  | [] => return []
  | value :: rest =>
    return (← read (.index i :: place) value) :: (← arrayFrom read place (i + 1) rest)

/-- An array. -/
def array {α : Type} (read : Place → Json → Except Flaw α) (place : Place) :
    Json → Except Flaw (List α)
  | .array values closed => do
    let items ← arrayFrom read place 0 values
    closedOr closed items
  | value => mismatch "array" place value

/-- What one field adds to a tab. -/
def tabField (place : Place) (tab : NavTab) (field : Json.Bytes × Json) : Except Flaw NavTab := do
  let (key, value) := field
  if isField "tab" key then
    return { tab with name := ← text (.field "tab" :: place) value }
  else if isField "groups" key then
    return { tab with groups := ← array group (.field "groups" :: place) value }
  else
    pass value
    return tab

/-- A tab. -/
def tab (place : Place) : Json → Except Flaw NavTab
  | .object fields closed => do
    let found ← fields.foldlM (tabField place) ⟨[], []⟩
    closedOr closed found
  | value => mismatch "object" place value

/-- What one field adds to the tabs and groups of a navigation. -/
def navigationField (place : Place) (found : List NavTab × List NavGroup)
    (field : Json.Bytes × Json) : Except Flaw (List NavTab × List NavGroup) := do
  let (key, value) := field
  if isField "tabs" key then
    return (← array tab (.field "tabs" :: place) value, found.2)
  else if isField "groups" key then
    return (found.1, ← array group (.field "groups" :: place) value)
  else
    pass value
    return found

/-- A navigation. -/
def navigation (place : Place) : Json → Except Flaw Navigation
  | .null => return .absent
  | .array values closed => return .plain (← array group place (.array values closed))
  | .object fields closed => do
    let (tabs, groups) ← fields.foldlM (navigationField place) ([], [])
    closedOr closed (.tabbed tabs groups)
  | value => mismatch "object | array | null" place value

/-- What one field adds to a descriptor. -/
def descriptorField (found : Navigation) (field : Json.Bytes × Json) :
    Except Flaw Navigation := do
  let (key, value) := field
  if isField "navigation" key then navigation [.field "navigation"] value
  else
    pass value
    return found

/-- The navigation of a whole document. -/
def ofJson : Json → Except Flaw Navigation
  | .object fields closed => do
    let found ← fields.foldlM descriptorField .absent
    closedOr closed found
  | value => mismatch "object" [] value

/-- The navigation that the bytes of a descriptor file hold. -/
def ofBytes (bytes : Json.Bytes) : Except Flaw Navigation := do
  let document := Json.Document.ofBytes bytes
  match document.root with
  | some value =>
    let found ← ofJson value
    closedOr document.complete found
  | none => throw .malformed

/-- The flaw as it is told of a descriptor file. -/
def Flaw.fault : Flaw → Bindery.Descriptor.Fault
  | .notText => .notText
  | flaw => .refused flaw.message

/-- The decoder that is installed. -/
instance decoder : Bindery.Descriptor.Decoder where
  decode bytes := (ofBytes bytes).mapError Flaw.fault

end Bindery.Packages.Descriptor
