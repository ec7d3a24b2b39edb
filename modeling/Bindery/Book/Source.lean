import Bindery.Book.Section
import Bindery.Typeset.Node

namespace Bindery

/-- Why sections make no book. -/
inductive BookError
  | page (error : Typeset.SetError)
  /-- The template lies where the compiler does not read. -/
  | template (error : Path.OutsideError)
  deriving Repr

namespace Book

/-- One named argument of a call, on a line of its own. -/
def argument (name : String) (value : Text) : Text :=
  "  ".toList ++ name.toList ++ ": ".toList ++ Typst.literal value ++ ",\n".toList

/-- The comment, the import of the template and the cover. -/
def cover (settings : Settings) (template : Text) : Text :=
  "// ".toList ++ settings.title ++
    "\n// Generated from Mintlify MDX sources by mdx-typst. Do not edit by hand.\n".toList ++
    "\n#import ".toList ++ Typst.literal template ++ ": *\n".toList ++
    "\n#show: docs-book.with(\n".toList ++
    argument "title" settings.title ++ argument "subtitle" settings.subtitle ++
    argument "version" settings.version ++ ")\n".toList

/-- What introduces a section. -/
def opening (part : Section) : Text :=
  "\n#section-break(\n".toList ++
    argument "number" part.number ++ argument "title" part.title ++
    argument "description" part.description ++ argument "style" part.style ++ ")\n".toList

/-- A page with its heading, around the markup of its body. -/
def chapter (page : Page) (body : Text) : Text :=
  "\n#pagebreak(weak: true)\n= ".toList ++ Typst.escape page.title ++
    " <".toList ++ page.label ++ ">\n".toList ++
    if body.isEmpty then [] else '\n' :: body ++ ['\n']

/-- The labels of all pages. -/
def labels (sections : List Section) : List Text :=
  (Section.allPages sections).map Page.label

/-- The pages of a section, each with its heading. -/
def chapters (context : Typeset.Context) : List Page → Except Typeset.SetError Text
  | [] => return []
  | page :: rest =>
    return chapter page (← Typeset.setPage context page.body) ++ (← chapters context rest)

/-- The sections, each with its introduction. -/
def parts (context : Typeset.Context) : List Section → Except Typeset.SetError Text
  | [] => return []
  | part :: rest =>
    return opening part ++ (← chapters context part.pages) ++ (← parts context rest)

/-- What the template is imported by: its place for the compiler or, where nothing is known about
    the compiler's root, its own path. -/
def templateImport (settings : Settings) (assets : Option Assets) :
    Except Path.OutsideError Text :=
  match assets with
  | some assets => assets.importPath settings.templatePath
  | none => .ok settings.templatePath.text

/-- The source of the book of the given sections. -/
def source [Typst.Lexers] (settings : Settings) (assets : Option Assets)
    (sections : List Section) : Except BookError Text := do
  let content ← (parts ⟨assets, labels sections⟩ sections).mapError .page
  let template ← (templateImport settings assets).mapError .template
  return cover settings template ++ content

end Book

end Bindery
