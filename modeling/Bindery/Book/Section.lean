import Bindery.Log
import Bindery.Navigation.Reading
import Bindery.Page.Reading
import Bindery.Settings.Basic
import Bindery.Text.Integer

namespace Bindery

/-- A section with its pages in reading order. -/
structure Section where
  number : Text
  title : Text
  description : Text
  style : Text
  pages : List Page
  deriving DecidableEq, Repr

/-- Why the sections of a book cannot be read. -/
inductive SectionsError
  | navigation (error : NavigationError)
  | page (error : PageError)
  deriving DecidableEq, Repr

/-- The wording of an error. -/
def SectionsError.message : SectionsError → Text
  | .navigation error => error.message
  | .page error => error.message

namespace Section

/-- The pages of all sections in reading order. -/
def allPages (sections : List Section) : List Page :=
  sections.flatMap pages

/-- The path of the page that a reference means. -/
def pagePath (settings : Settings) (reference : Text) : Text :=
  Text.trimClass (· == '/') reference ++ settings.sourceExtension

/-- The pages that the references mean. A missing page is noted and left out. -/
def readPages (tree : FileTree) (settings : Settings) (dir : Path) :
    List Text → Logged SectionsError (List Page)
  | [] => return []
  | reference :: rest => do
    let path := pagePath settings reference
    match Page.read tree dir path with
    | .ok page => return page :: (← readPages tree settings dir rest)
    | .error (.missing _) =>
      Logged.note .warning .navigation ("File not found: ".toList ++ path)
      readPages tree settings dir rest
    | .error error => Logged.fail (.page error)

/-- The section of a group with the given number. -/
def ofGroup (settings : Settings) (number : Nat) (group : NavGroup) (pages : List Page) :
    Section where
  number := (if number < 10 then ['0'] else []) ++ Text.ofNat number
  title := group.name
  description := settings.describe group.name
  style := settings.sectionStyle.name
  pages := pages

/-- The sections of the groups, the first of which has the given number. A group without any
    pages is noted and left out. -/
def ofGroupsFrom (tree : FileTree) (settings : Settings) (dir : Path) :
    Nat → List NavGroup → Logged SectionsError (List Section)
  | _, [] => return []
  | number, group :: rest => do
    let pages ← readPages tree settings dir group.pages
    if pages.isEmpty then
      Logged.note .info .navigation ("skipping empty section ".toList ++ group.name)
      ofGroupsFrom tree settings dir (number + 1) rest
    else
      let others ← ofGroupsFrom tree settings dir (number + 1) rest
      return ofGroup settings number group pages :: others

/-- The sections of the groups. -/
def ofGroups (tree : FileTree) (settings : Settings) (dir : Path) (groups : List NavGroup) :
    Logged SectionsError (List Section) :=
  ofGroupsFrom tree settings dir 1 groups

/-- The sections of the documentation in a directory. -/
def load [Descriptor.Decoder] (tree : FileTree) (settings : Settings) (dir : Path) :
    Logged SectionsError (List Section) := do
  let groups ← Logged.ofExcept
    ((Navigation.load tree dir settings.descriptorNames settings.tab).mapError .navigation)
  ofGroups tree settings dir groups

end Section

end Bindery
