import Bindery.Markup.Line
import Bindery.Markup.Table

namespace Bindery.Markup

open Text

/-- What a text begins with. -/
inductive Block
  /-- Nothing that is shown: a comment, a statement, or a tag without a partner. -/
  | hidden
  | leaf (node : Node)
  | element (name : Text) (attributes : Pairs) (inside : Text)

namespace Block

/-- The text of a block that is read for further blocks. -/
def inside : Block → Text
  | .element _ _ inside => inside
  | _ => []

/-- Where the reading goes on after something that ends within a line: at the next line if there
    are only blanks before it. -/
def resume (s : Text) : Text :=
  if restOfLineIsBlank s then afterLine s else s

/-- A comment of either form, and where the reading goes on. -/
def comment? (s : Text) : Option Text :=
  match afterExpressionComment? s with
  | some rest => some (resume rest)
  | none => (afterHypertextComment? s).map resume

/-- An element that opens a line, and where the reading goes on. An element that shares its only
    line with more text is left to the reading of the line. -/
def element? (s : Text) : Option (Block × Text) :=
  match (closeTag? s).filter fun (name, _) => isComponent name with
  | some (_, rest) => some (.hidden, resume rest)
  | none =>
    match openTag? s with
    | none => none
    | some (tag, rest) =>
      if lineNames.contains tag.name || !isComponent tag.name then none
      else if tag.closed then some (.element tag.name tag.attributes [], resume rest)
      else
        match closing? tag.name false rest with
        | none => some (.hidden, resume rest)
        | some (inside, rest) =>
          if !inside.contains '\n' && !restOfLineIsBlank rest then none
          else some (.element tag.name tag.attributes inside, resume rest)

/-- The block of a line that no larger block takes. -/
def ofLine (line : Text) : Block :=
  match lineNode? line with
  | some node => .leaf node
  | none => .hidden

/-- The block of a line that is not blank and opens no fence, or the larger block that begins on
    it, and where the reading goes on. -/
def nextUnfenced (s : Text) : Block × Text :=
  let start := s.dropWhile isBlank
  match comment? start with
  | some rest => (.hidden, rest)
  | none =>
    match element? start with
    | some (block, rest) => (block, rest)
    | none =>
      match table? s with
      | some (node, rest) => (.leaf node, rest)
      | none => (ofLine (line s), afterLine s)

/-- What a text begins with, and where the reading goes on. -/
def next (s : Text) : Block × Text :=
  if allBlank (line s) then (.leaf .blank, afterLine s)
  else
    match Fence.ofLine? (line s) with
    | some fence =>
      let (code, rest) := fence.body (afterLine s)
      (.leaf (.codeBlock fence.language (Fence.code code)), rest)
    | none => nextUnfenced s

theorem length_resume_le (s : Text) : (resume s).length ≤ s.length := by
  rw [resume]
  split
  · exact (afterLine_suffix s).length_le
  · exact Nat.le_refl _

theorem length_of_comment? {s rest : Text} (h : comment? s = some rest) :
    rest.length < s.length := by
  rw [comment?] at h
  split at h
  · next hc =>
    cases h
    exact Nat.lt_of_le_of_lt (length_resume_le _) (length_of_afterExpressionComment? hc)
  · obtain ⟨r, hc, rfl⟩ := Option.map_eq_some_iff.1 h
    exact Nat.lt_of_le_of_lt (length_resume_le _) (length_of_afterHypertextComment? hc)

theorem length_of_element? {s rest : Text} {block : Block} (h : element? s = some (block, rest)) :
    block.inside.length + rest.length < s.length := by
  have done {b : Block} {r : Text} (hr : b.inside.length + r.length < s.length) :
      b.inside.length + (resume r).length < s.length :=
    Nat.lt_of_le_of_lt (Nat.add_le_add_left (length_resume_le r) _) hr
  have empty {b : Block} {r : Text} (hb : b.inside = []) (hr : r.length < s.length) :
      b.inside.length + r.length < s.length := by
    rwa [hb, List.length_nil, Nat.zero_add]
  unfold element? at h
  split at h
  · next hc =>
    obtain ⟨rfl, rfl⟩ := Prod.mk.inj (Option.some.inj h)
    exact done (empty rfl (length_of_closeTag? (Option.filter_eq_some_iff.1 hc).1))
  · split at h
    · simp at h
    · next ho =>
      have := length_of_openTag? ho
      split at h
      · simp at h
      · split at h
        · obtain ⟨rfl, rfl⟩ := Prod.mk.inj (Option.some.inj h)
          exact done (empty rfl this)
        · split at h
          · obtain ⟨rfl, rfl⟩ := Prod.mk.inj (Option.some.inj h)
            exact done (empty rfl this)
          · next hclose =>
            have hlen := length_of_closing? hclose
            split at h
            · simp at h
            · obtain ⟨rfl, rfl⟩ := Prod.mk.inj (Option.some.inj h)
              exact done (by simp only [inside]; omega)

/-- What is inside a block and where the reading goes on are together shorter than the text. -/
theorem length_add_next_lt {s : Text} (hs : s ≠ []) :
    (next s).1.inside.length + (next s).2.length < s.length := by
  have hline := length_afterLine_lt hs
  have hstart := (List.dropWhile_suffix (l := s) isBlank).length_le
  have empty {block : Block} {rest : Text} (hinside : block.inside = [])
      (hr : rest.length < s.length) : block.inside.length + rest.length < s.length := by
    rwa [hinside, List.length_nil, Nat.zero_add]
  rw [next]
  split
  · exact empty rfl hline
  · split
    · next fence _ => exact empty rfl (Nat.lt_of_le_of_lt (Fence.length_body_le fence _) hline)
    · rw [nextUnfenced]
      split
      · next hc => exact empty rfl (Nat.lt_of_lt_of_le (length_of_comment? hc) hstart)
      · split
        · next he => exact Nat.lt_of_lt_of_le (length_of_element? he) hstart
        · split
          · next ht => exact empty rfl (length_of_table? ht)
          · rw [ofLine]
            split <;> exact empty rfl hline

/-- Where the reading goes on, and what is inside a block, are shorter than the text. -/
theorem length_next_lt {s : Text} (hs : s ≠ []) :
    (next s).2.length < s.length ∧ (next s).1.inside.length < s.length := by
  have := length_add_next_lt hs
  omega

/-- The node that a block makes, with the nodes of its content. -/
def node? (children : List Node) : Block → Option Node
  | .hidden => none
  | .leaf node => some node
  | .element name attributes _ => some (.element name attributes children true)

end Block

/-- The nodes with each run of blank ones made one. -/
def mergeBlanks : List Node → List Node
  | [] => []
  | node :: rest =>
    match node, mergeBlanks rest with
    | .blank, .blank :: rest => .blank :: rest
    | node, rest => node :: rest

/-- The nodes of a text, one for every blank line. -/
def blockNodes (s : Text) : List Node :=
  match s with
  | [] => []
  | c :: t =>
    match _h : Block.next (c :: t) with
    | (block, rest) =>
      let children := mergeBlanks (blockNodes (dedentContent block.inside))
      (block.node? children).toList ++ blockNodes rest
termination_by s.length
decreasing_by
  · have hlt := (Block.length_next_lt (List.cons_ne_nil c t)).2
    rw [_h] at hlt
    exact Nat.lt_of_le_of_lt (length_dedentContent_le _) hlt
  · have hlt := (Block.length_next_lt (List.cons_ne_nil c t)).1
    rwa [_h] at hlt

/-- The block nodes of a text whose lines end in newlines. -/
def parseBlocks (s : Text) : List Node :=
  mergeBlanks (blockNodes s)

/-- The block nodes of a page. -/
def parse (s : Text) : List Node :=
  parseBlocks (normalizeNewlines s)

end Bindery.Markup
