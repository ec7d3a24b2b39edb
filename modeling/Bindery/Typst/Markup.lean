import Bindery.Text.Integer
import Bindery.Typst.Escape

namespace Bindery.Typst

/-- A function of one body, the form of emphasis that holds within a word too. -/
def call (name : String) (body : Text) : Text :=
  '#' :: name.toList ++ '[' :: body ++ [']']

/-- Strong text. -/
def strong (body : Text) : Text :=
  call "strong" body

/-- Emphasised text. -/
def emph (body : Text) : Text :=
  call "emph" body

/-- Text that is strong and emphasised. -/
def strongEmph (body : Text) : Text :=
  strong (emph body)

/-- A live link. -/
def link (url body : Text) : Text :=
  "#link(".toList ++ literal url ++ ")[".toList ++ body ++ [']']

/-- A picture over the full width; an empty caption is left out. -/
def figure (path caption : Text) : Text :=
  "#figure(\n  image(".toList ++ literal path ++ ", width: 100%),\n".toList ++
    (if caption.isEmpty then [] else "  caption: [".toList ++ caption ++ "],\n".toList) ++ [')']

/-- A horizontal rule. -/
def rule : Text :=
  "#line(length: 100%, stroke: 0.5pt + rgb(\"#e5e7eb\"))".toList

/-- A heading has a level that the template does not know. -/
structure LevelError where
  level : Int
  deriving DecidableEq, Repr

/-- The wording of an error: the level alone. -/
def LevelError.message (e : LevelError) : Text :=
  Text.ofInt e.level

/-- A heading of one of the four levels. -/
def heading (level : Int) (body : Text) : Except LevelError Text :=
  if 1 ≤ level && level ≤ 4 then .ok (List.replicate level.toNat '=' ++ ' ' :: body)
  else .error ⟨level⟩

/-- An entry of a list, indented by two spaces for each two columns of its own indentation. -/
def listItem (indent : Int) (ordered : Bool) (body : Text) : Text :=
  List.replicate (2 * indent.fdiv 2).toNat ' ' ++ (if ordered then '+' else '-') :: ' ' :: body

/-- Whether a text would go on with an expression that ends right before it: a field access or an
    argument list. -/
def continuesExpression : Text → Bool
  | '(' :: _ => true
  | '.' :: c :: _ => c.isAlpha || c == '_'
  | _ => false

/-- The text as it has to follow another one. A backslash keeps it from going on with an
    expression. -/
def detach (previous text : Text) : Text :=
  if previous.head? == some '#' && continuesExpression text then '\\' :: text else text

/-- Pieces of markup one after the other, each detached from the last one that is not empty. -/
def joinAfter (previous : Text) : List Text → Text
  | [] => []
  | piece :: rest =>
    if piece.isEmpty then joinAfter previous rest
    else
      let piece := detach previous piece
      piece ++ joinAfter piece rest

/-- Pieces of markup on one line. -/
def join (pieces : List Text) : Text :=
  joinAfter [] pieces

end Bindery.Typst
