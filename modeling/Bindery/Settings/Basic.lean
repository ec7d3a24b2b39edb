import Bindery.Pairs
import Bindery.Path.Basic

namespace Bindery

/-- The look of the page that opens a section. -/
inductive SectionStyle
  | dark
  | light
  deriving DecidableEq, Repr

/-- The styles in the order in which they are listed. -/
def SectionStyle.all : List SectionStyle :=
  [.dark, .light]

/-- The name by which a style is chosen. -/
def SectionStyle.name : SectionStyle → Text
  | .dark => "dark".toList
  | .light => "light".toList

/-- The style with the given name. -/
def SectionStyle.ofName? (name : Text) : Option SectionStyle :=
  SectionStyle.all.find? fun style => style.name == name

/-- The settings of one book. -/
structure Settings where
  title : Text
  subtitle : Text
  version : Text
  /-- The navigation tab that is bound, the first one when none is named. -/
  tab : Option Text
  /-- The names that a navigation descriptor may have, best first. -/
  descriptorNames : List Text
  /-- What a reference to a page lacks of the name of its file. -/
  sourceExtension : Text
  outputDir : Path
  /-- The name of both written files, without their extensions. -/
  outputName : Text
  templatePath : Path
  sectionStyle : SectionStyle
  /-- The introductions of sections, by the names of their groups. -/
  sectionDescriptions : Pairs
  /-- The introduction of every other section. -/
  defaultDescription : Text
  deriving DecidableEq, Repr

namespace Settings

/-- The place of the group's name in an introduction. -/
def titleSlot : Text :=
  "\x7btitle\x7d".toList

/-- The settings of a tool that stands in the given directory and is told nothing else. -/
def default (tool : Path) : Settings where
  title := "Documentation".toList
  subtitle := []
  version := []
  tab := none
  descriptorNames := ["docs.json".toList, "mint.json".toList]
  sourceExtension := ".mdx".toList
  outputDir := tool.child "output".toList
  outputName := "documentation".toList
  templatePath := tool.child "mdx_typst/typst/template.typ".toList
  sectionStyle := .dark
  sectionDescriptions := []
  defaultDescription := "Content for ".toList ++ titleSlot ++ ".".toList

/-- The name of the file that the source of the book is written to. -/
def sourceName (settings : Settings) : Text :=
  settings.outputName ++ ".typ".toList

/-- The name of the file that the finished book is written to. -/
def bookName (settings : Settings) : Text :=
  settings.outputName ++ ".pdf".toList

/-- The introduction of the section of a group. -/
def describe (settings : Settings) (group : Text) : Text :=
  match settings.sectionDescriptions.get? group with
  | some description => description
  | none => Text.replace titleSlot group settings.defaultDescription

end Settings

end Bindery
