import Bindery.Pairs
import Bindery.Text.Casing
import Bindery.Typst.Markup

namespace Bindery.Typeset

open Text Typst

/-- What an element is set as. -/
inductive Component
  /-- A box whose kind an attribute names. -/
  | callout
  /-- A box of the given style, which the name of the element is the default title of. -/
  | box (style : String)
  /-- Cards in a grid. -/
  | columns
  | card
  /-- Numbered steps. -/
  | steps
  | step
  | accordion
  | tabs
  /-- An entry of a list of changes. -/
  | update
  /-- A key of the keyboard. -/
  | key
  /-- Nothing at all. -/
  | hidden
  /-- The content in place of the element. -/
  | content
  deriving DecidableEq, Repr

/-- The components by the name of their element. -/
def components : List (String × Component) :=
  [("Callout", .callout), ("Note", .box "note"), ("Info", .box "note"), ("Tip", .box "tip"),
   ("Check", .box "tip"), ("Warning", .box "caution"), ("Danger", .box "danger"),
   ("Error", .box "danger"), ("Columns", .columns), ("Card", .card), ("CardGroup", .content),
   ("Steps", .steps), ("Step", .step), ("Accordion", .accordion), ("AccordionGroup", .content),
   ("Tabs", .tabs), ("Update", .update), ("Frame", .content), ("img", .hidden),
   ("Image", .hidden), ("Icon", .hidden), ("kbd", .key)]

/-- What an element of the given name is set as. -/
def Component.named (name : Text) : Component :=
  match components.find? (·.1.toList == name) with
  | some (_, component) => component
  | none => .content

/-- The first text, or the second one when that is empty. -/
def orElse (s default : Text) : Text :=
  if s.isEmpty then default else s

/-- The style of a box of each kind. -/
def calloutStyles : List (String × String) :=
  [("note", "note"), ("info", "note"), ("tip", "tip"), ("check", "tip"), ("success", "tip"),
   ("warning", "caution"), ("caution", "caution"), ("danger", "danger"), ("error", "danger")]

/-- The style of a box of the given kind, the mildest one for an unknown kind. -/
def calloutStyle (kind : Text) : Text :=
  match calloutStyles.find? (·.1.toList == Text.toLower kind) with
  | some (_, style) => style.toList
  | none => "tip".toList

/-- A call with a title and a body on lines of its own. -/
def titledCall (function title body : Text) : Text :=
  '#' :: function ++ "(title: ".toList ++ literal title ++ ")[\n".toList ++ body ++ ['\n', ']']

/-- A box whose kind the attribute `type` names. -/
def calloutMarkup (attributes : Pairs) (body : Text) : Text :=
  let kind := trim (attributes.get "type".toList)
  let style := calloutStyle kind
  let title :=
    orElse (attributes.get "title".toList) (orElse (capitalize kind) (capitalize style))
  titledCall style title body

/-- A box of a style that the element's name tells. -/
def boxMarkup (style : String) (name : Text) (attributes : Pairs) (body : Text) : Text :=
  titledCall style.toList (orElse (attributes.get "title".toList) name) body

/-- A card outside a grid. -/
def cardMarkup (attributes : Pairs) (body : Text) : Text :=
  titledCall "card".toList (attributes.get "title".toList) body

/-- The entry of a card in a grid, with the label of the page that it leads to. -/
def cardEntry (attributes : Pairs) (body : Text) (label : Option Text) : Text :=
  let icon := orElse (attributes.get "icon".toList) "circle".toList
  let target := label.getD []
  "  (".toList ++ literal icon ++ ", ".toList ++ literal (attributes.get "title".toList) ++
    ", [".toList ++ body ++ "]".toList ++
    (if target.isEmpty then [] else ", ".toList ++ literal target) ++ "),\n".toList

/-- The number of columns of a grid: what the attribute says, but at least one, or two where it
    says no number. -/
def columnCount (attributes : Pairs) : Int :=
  match integer? (attributes.get "cols".toList) with
  | some n => max n 1
  | none => 2

/-- A grid of cards. -/
def gridMarkup (attributes : Pairs) (entries : List Text) : Text :=
  "#card-grid(cols: ".toList ++ ofInt (columnCount attributes) ++ ",\n".toList ++
    entries.flatten ++ [')']

/-- A body below a bold title, either of which may be missing. -/
def titled (title body separator : Text) : Text :=
  if title.isEmpty then body
  else if body.isEmpty then strong (escape title)
  else strong (escape title) ++ separator ++ body

/-- The entry of a step in a numbered list. -/
def stepEntry (attributes : Pairs) (body : Text) : Text :=
  "  [".toList ++ titled (trim (attributes.get "title".toList)) body ['\n', '\n'] ++ "],\n".toList

/-- Numbered steps. -/
def stepsMarkup (entries : List Text) : Text :=
  "#steps(\n".toList ++ entries.flatten ++ [')']

/-- A tab, its title followed by a colon. -/
def tabMarkup (attributes : Pairs) (body : Text) : Text :=
  let title := attributes.get "title".toList
  if title.isEmpty then body else titled (title ++ [':']) body ['\n']

/-- An entry of a list of changes: its label and its description in one line, then its body. -/
def updateMarkup (attributes : Pairs) (body : Text) : Text :=
  let label := attributes.get "label".toList
  let description := attributes.get "description".toList
  let head := if label.isEmpty then [] else strong (escape label)
  let head :=
    if description.isEmpty then head else trim (head ++ " - ".toList ++ escape description)
  if head.isEmpty then body else if body.isEmpty then head else head ++ ['\n', '\n'] ++ body

/-- The markup of a component that is made of its attributes and its body alone. -/
def Component.markup (component : Component) (name : Text) (attributes : Pairs) (body : Text) :
    Text :=
  match component with
  | .callout => calloutMarkup attributes body
  | .box style => boxMarkup style name attributes body
  | .card => cardMarkup attributes body
  | .step => titled (attributes.get "title".toList) body ['\n']
  | .accordion => titled (attributes.get "title".toList) body ['\n', '\n']
  | .update => updateMarkup attributes body
  | .hidden => []
  | .columns | .steps | .tabs | .key | .content => body

end Bindery.Typeset
