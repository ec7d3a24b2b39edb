import Bindery.Label
import Bindery.Page.FrontMatter

namespace Bindery

/-- A page: its path below the documentation, its body and its front matter. -/
structure Page where
  path : Text
  body : Text
  metadata : Pairs
  deriving DecidableEq, Repr

namespace Page

/-- The path up to its last dot; empty without one. -/
def stem (path : Text) : Text :=
  ((path.reverse.dropWhile (· != '.')).drop 1).reverse

/-- The title that the front matter gives, or else the path without its extension. -/
def title (page : Page) : Text :=
  let title := page.metadata.get "title".toList
  if !title.isEmpty then title
  else if !(stem page.path).isEmpty then stem page.path
  else page.path

/-- The label by which other pages refer to the page. -/
def label (page : Page) : Text :=
  labelOf (if (stem page.path).isEmpty then page.path else stem page.path)

/-- The page at a path with the given content. -/
def ofContent (path content : Text) : Page :=
  let (metadata, body) := splitMatter content
  ⟨path, body, metadata⟩

end Page

end Bindery
