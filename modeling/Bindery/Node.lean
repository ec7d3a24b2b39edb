import Bindery.Pairs

namespace Bindery

/-- A node of a page. -/
inductive Node where
  /-- Prose as the reader sees it. -/
  | text (text : Text)
  /-- Code within a line. -/
  | code (code : Text)
  /-- A reference; its text is still markup. -/
  | link (text url : Text)
  | image (alt src : Text)
  | strong (children : List Node)
  | emph (children : List Node)
  /-- Text that is strong and emphasised at once. -/
  | strongEmph (children : List Node)
  /-- One line of prose. -/
  | paragraph (children : List Node)
  | heading (level : Int) (children : List Node)
  /-- An entry of a list, with the width of the white space before its marker. -/
  | listItem (indent : Int) (ordered : Bool) (children : List Node)
  /-- A horizontal rule. -/
  | rule
  /-- A run of blank lines. -/
  | blank
  | codeBlock (language code : Text)
  /-- A table of one header row and further rows of cells. -/
  | table (header : List (List Node)) (rows : List (List (List Node)))
  /-- A tag with its content, which is made of blocks when the tag opened at the start of a line
      and of spans otherwise. -/
  | element (name : Text) (attributes : Pairs) (children : List Node) (block : Bool)
  /-- A node without any content. -/
  | empty
  deriving Inhabited, Repr

namespace Node

/-- Whether the node is an element with the given name. -/
def isElement (name : Text) : Node → Bool
  | .element n _ _ _ => n == name
  | _ => false

/-- The nodes inside an element; none for any other node. -/
def content : Node → List Node
  | .element _ _ children _ => children
  | _ => []

/-- The elements with the given name among the nodes. -/
def elements (name : Text) (nodes : List Node) : List Node :=
  nodes.filter (isElement name)

/-- The elements with the given name directly inside a node. -/
def find (node : Node) (name : Text) : List Node :=
  elements name node.content

end Node

end Bindery
