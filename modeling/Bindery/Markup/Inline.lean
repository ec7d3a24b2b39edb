import Bindery.Markup.Span
import Bindery.Node

namespace Bindery.Markup

open Text

/-- A piece of a line. -/
inductive Piece
  | char (c : Char)
  | node (node : Node)
  /-- The place of something that is not shown. -/
  | gap

/-- Puts a text node in front, unless the text is empty. -/
def consText (text : Text) (nodes : List Node) : List Node :=
  if text.isEmpty then nodes else .text text :: nodes

/-- The prose at the beginning of the pieces, and the nodes that follow it. -/
def gatherText : List Piece → Text × List Node
  | [] => ([], [])
  | .char c :: rest =>
    let (text, nodes) := gatherText rest
    (c :: text, nodes)
  | .node node :: rest =>
    let (text, nodes) := gatherText rest
    ([], node :: consText text nodes)
  | .gap :: rest =>
    let (text, nodes) := gatherText rest
    ([], consText text nodes)

/-- The nodes that the pieces make. -/
def gather (pieces : List Piece) : List Node :=
  let (text, nodes) := gatherText pieces
  consText text nodes

/-- The node of emphasised content. -/
def Strength.node : Strength → List Node → Node
  | .emph => .emph
  | .strong => .strong
  | .strongEmph => .strongEmph

/-- The piece that a construct makes, with the nodes of its content. -/
def Span.piece (children : List Node) : Span → Piece
  | .code t => .node (.code t)
  | .image alt src => .node (.image alt src)
  | .link t url => .node (.link t url)
  | .emphasis strength _ => .node (strength.node children)
  | .element name attributes _ => .node (.element name attributes children false)
  | .escaped c => .char c
  | .hidden => .gap

/-- The pieces of a text. The flag says whether a letter or a digit stands right before it. -/
def pieces (afterWord : Bool) (s : Text) : List Piece :=
  match s with
  | [] => []
  | c :: s =>
    match h : Span.at? afterWord (c :: s) with
    | some (span, rest) =>
      have := Span.length_of_at? h
      span.piece (gather (pieces false span.inside)) :: pieces false rest
    | none => .char c :: pieces (isAlphanumeric c) s
termination_by s.length
decreasing_by
  · exact this.2
  · exact this.1
  · exact Nat.lt_succ_self _

/-- The inline nodes of a line, or of a part of one. -/
def parseInline (s : Text) : List Node :=
  gather (pieces false s)

end Bindery.Markup
