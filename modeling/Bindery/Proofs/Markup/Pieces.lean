import Bindery.Markup.Inline

namespace Bindery.Markup

open Text

variable {s rest : Text}

theorem pieces_of_at? {afterWord : Bool} {c : Char} {span : Span}
    (h : Span.at? afterWord (c :: s) = some (span, rest)) :
    pieces afterWord (c :: s) = span.piece (parseInline span.inside) :: pieces false rest := by
  rw [pieces]
  split
  · next hat =>
    rw [h] at hat
    cases hat
    rfl
  · next hat =>
    rw [h] at hat
    cases hat

theorem pieces_of_none {afterWord : Bool} {c : Char} (h : Span.at? afterWord (c :: s) = none) :
    pieces afterWord (c :: s) = .char c :: pieces (isAlphanumeric c) s := by
  rw [pieces]
  split
  · next hat =>
    rw [h] at hat
    cases hat
  · rfl

/-- Characters that may begin a construct of a line. -/
def isSpanMark (c : Char) : Bool :=
  ['\x60', '!', '[', '<', '\x7b', '*', '_', '\\'].contains c

theorem at?_of_not_mark (afterWord : Bool) {c : Char} (hc : isSpanMark c = false) (s : Text) :
    Span.at? afterWord (c :: s) = none := by
  rw [Span.at?]
  split
  case h_9 => rfl
  all_goals
    next h =>
      obtain rfl := Option.some.inj h
      exact absurd hc (by decide)

/-- Characters that begin no construct are prose, whatever follows them. -/
theorem exists_pieces_append (afterWord : Bool) (hs : s.any isSpanMark = false) (rest : Text) :
    ∃ afterWord', pieces afterWord (s ++ rest) =
      s.map Piece.char ++ pieces afterWord' rest := by
  induction s generalizing afterWord with
  | nil => exact ⟨afterWord, rfl⟩
  | cons c s ih =>
    rw [List.any_cons, Bool.or_eq_false_iff] at hs
    obtain ⟨afterWord', hpieces⟩ := ih (isAlphanumeric c) hs.2
    refine ⟨afterWord', ?_⟩
    rw [List.cons_append, pieces_of_none (at?_of_not_mark afterWord hs.1 (s ++ rest)), hpieces]
    rfl

theorem pieces_nil (afterWord : Bool) : pieces afterWord [] = [] := by
  rw [pieces]

theorem pieces_of_not_mark (afterWord : Bool) (hs : s.any isSpanMark = false) :
    pieces afterWord s = s.map Piece.char := by
  obtain ⟨afterWord', hpieces⟩ := exists_pieces_append afterWord hs []
  rwa [List.append_nil, pieces_nil, List.append_nil] at hpieces

theorem gatherText_append (s : Text) (parts : List Piece) :
    gatherText (s.map Piece.char ++ parts) =
      (s ++ (gatherText parts).1, (gatherText parts).2) := by
  induction s with
  | nil => rfl
  | cons c s ih => rw [List.map_cons, List.cons_append, gatherText, ih, List.cons_append]

theorem gather_chars (s : Text) : gather (s.map Piece.char) = consText s [] := by
  have htext := gatherText_append s []
  rw [List.append_nil, gatherText, List.append_nil] at htext
  rw [gather, htext]

/-- A node ends the text before it. -/
theorem gather_append_node (s : Text) (node : Node) (parts : List Piece) :
    gather (s.map Piece.char ++ .node node :: parts) = consText s (node :: gather parts) := by
  rw [gather, gatherText_append, gatherText, List.append_nil]
  rfl

/-- So does what is not shown. -/
theorem gather_append_gap (s : Text) (parts : List Piece) :
    gather (s.map Piece.char ++ .gap :: parts) = consText s (gather parts) := by
  rw [gather, gatherText_append, gatherText, List.append_nil]
  rfl

theorem gather_node_cons (node : Node) (parts : List Piece) :
    gather (.node node :: parts) = node :: gather parts :=
  gather_append_node [] node parts

theorem parseInline_nil : parseInline [] = [] := by
  rw [parseInline, pieces_nil]
  rfl

/-- The node of a construct stands in front of the nodes of what follows the construct. -/
theorem parseInline_of_at? {c : Char} {span : Span} {node : Node}
    (h : Span.at? false (c :: s) = some (span, rest))
    (hnode : span.piece (parseInline span.inside) = .node node) :
    parseInline (c :: s) = node :: parseInline rest := by
  rw [parseInline, pieces_of_at? h, hnode, gather_node_cons]
  rfl

/-- The nodes of a text that is one construct are the node of the construct alone. -/
theorem parseInline_eq_singleton {c : Char} {span : Span} {node : Node}
    (h : Span.at? false (c :: s) = some (span, []))
    (hnode : span.piece (parseInline span.inside) = .node node) :
    parseInline (c :: s) = [node] := by
  rw [parseInline_of_at? h hnode, parseInline_nil]

/-- If they are one node, then that of the construct that the text begins with. -/
theorem eq_of_parseInline {c : Char} {span : Span} {node other : Node}
    (h : Span.at? false (c :: s) = some (span, rest))
    (hnode : span.piece (parseInline span.inside) = .node other)
    (hparse : parseInline (c :: s) = [node]) : other = node := by
  rw [parseInline_of_at? h hnode] at hparse
  exact (List.cons.inj hparse).1

theorem gather_pieces_char {afterWord : Bool} {c : Char}
    (h : Span.at? afterWord (c :: s) = none) :
    ∃ t nodes, gather (pieces afterWord (c :: s)) = .text (c :: t) :: nodes := by
  rw [pieces_of_none h, gather, gatherText]
  exact ⟨_, _, rfl⟩

/-- A text that begins no construct is not read as a node of another kind. -/
theorem parseInline_ne_of_none {c : Char} {node : Node}
    (h : Span.at? false (c :: s) = none) (hnode : ∀ t, node ≠ .text t) :
    parseInline (c :: s) ≠ [node] := by
  obtain ⟨t, nodes, hgather⟩ := gather_pieces_char h
  rw [parseInline, hgather]
  exact fun heq => hnode _ (List.cons.inj heq).1.symm

end Bindery.Markup
