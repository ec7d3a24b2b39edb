import Bindery.Text.Quoted

namespace Bindery

/-- An entry of a group: a reference to a page, or a group inside it. -/
inductive NavItem where
  | page (reference : Text)
  | group (name : Text) (items : List NavItem)
  deriving Inhabited, Repr

/-- A group of pages. -/
structure NavGroup where
  name : Text
  items : List NavItem
  deriving Inhabited, Repr

/-- A set of groups under a name. -/
structure NavTab where
  name : Text
  groups : List NavGroup
  deriving Inhabited, Repr

/-- The forms in which a descriptor gives its groups. -/
inductive Navigation
  | absent
  /-- Groups without any tabs. -/
  | plain (groups : List NavGroup)
  /-- Groups under tabs; those outside any tab count only where there are no tabs. -/
  | tabbed (tabs : List NavTab) (groups : List NavGroup)
  deriving Inhabited, Repr

mutual

/-- The pages of an entry in reading order. -/
def NavItem.pages : NavItem → List Text
  | .page reference => [reference]
  | .group _ items => NavItem.pagesOf items

/-- The pages of entries in reading order. -/
def NavItem.pagesOf : List NavItem → List Text
  | [] => []
  | item :: rest => item.pages ++ NavItem.pagesOf rest

end

/-- The pages of a group in reading order, those of inner groups included. -/
def NavGroup.pages (group : NavGroup) : List Text :=
  NavItem.pagesOf group.items

/-- No tab of the descriptor has the name. -/
structure UnknownTab where
  name : Text
  deriving DecidableEq, Repr

/-- The wording of an error. -/
def UnknownTab.message (e : UnknownTab) : Text :=
  "Navigation tab ".toList ++ Text.quoted e.name ++ " not found.".toList

/-- The groups of the first tab with the given name, or of the first tab when none is asked for. A
    navigation without tabs has the same groups for every name. -/
def Navigation.select (tab : Option Text) : Navigation → Except UnknownTab (List NavGroup)
  | .absent => .ok []
  | .plain groups => .ok groups
  | .tabbed [] groups => .ok groups
  | .tabbed (first :: others) _ =>
    match tab with
    | none => .ok first.groups
    | some name =>
      match (first :: others).find? (·.name == name) with
      | some found => .ok found.groups
      | none => .error ⟨name⟩

end Bindery
