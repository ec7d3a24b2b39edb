import Bindery.Node
import Bindery.Typeset.Mode
import Bindery.Typst.Markup

namespace Bindery.Typeset

open Text

/-- Whether an inline node leaves a paragraph a mere place for pictures. -/
def isPicture : Node → Bool
  | .image _ _ => true
  | .text t => allBlank t
  | _ => false

/-- Whether a block has blank lines around it. A paragraph does when it holds nothing but
    pictures. -/
def standsAlone : Node → Bool
  | .paragraph children => children.all isPicture
  | .heading _ _ | .rule | .codeBlock _ _ | .table _ _ | .element _ _ _ _ => true
  | _ => false

/-- A block in a layout. -/
inductive Entry
  /-- A blank line of the page. -/
  | gap
  | chunk (text : Text) (alone : Bool)

/-- The entry of a node that is set as the given text. -/
def Entry.of (node : Node) (text : Text) : Entry :=
  match node with
  | .blank => .gap
  | node => .chunk text (standsAlone node)

/-- The entries below each other. The flags say whether anything has been set before them, and
    whether a blank line is due before the next text. A text of blanks is left out, but the break
    around it remains. -/
def layoutFrom : (started due : Bool) → List Entry → Text
  | _, _, [] => []
  | started, _, .gap :: rest => layoutFrom started true rest
  | started, due, .chunk text alone :: rest =>
    if allBlank text then layoutFrom started (due || alone) rest
    else
      (if !started then [] else if due || alone then ['\n', '\n'] else ['\n']) ++ text ++
        layoutFrom true alone rest

/-- The entries below each other. -/
def layout (entries : List Entry) : Text :=
  layoutFrom false false entries

/-- The texts that nodes are set as, put together as their place asks for. -/
def arrange (place : Place) (nodes : List Node) (texts : List Text) : Text :=
  match place with
  | .block => layout (nodes.zipWith Entry.of texts)
  | .line => Typst.join texts

end Bindery.Typeset
