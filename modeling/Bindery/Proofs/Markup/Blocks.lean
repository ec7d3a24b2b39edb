import Bindery.Markup.Block
import Bindery.Proofs.Text.Cutting

namespace Bindery.Markup

open Text

@[simp]
theorem blockNodes_nil : blockNodes [] = [] := by
  rw [blockNodes]

/-- The nodes of a block's content as they stand in the node of the block. -/
def Block.children (block : Block) : List Node :=
  mergeBlanks (blockNodes (dedentContent block.inside))

/-- The nodes of a text are those of its first block, and then those of the text after it. -/
theorem blockNodes_of_next {s rest : Text} {block : Block} (hs : s ≠ [])
    (h : Block.next s = (block, rest)) :
    blockNodes s = (block.node? block.children).toList ++ blockNodes rest := by
  obtain ⟨c, s, rfl⟩ := List.exists_cons_of_ne_nil hs
  rw [blockNodes]
  split
  next hnext =>
    rw [h] at hnext
    cases hnext
    rfl

theorem blockNodes_of_leaf {s rest : Text} {node : Node} (hs : s ≠ [])
    (h : Block.next s = (.leaf node, rest)) : blockNodes s = node :: blockNodes rest :=
  blockNodes_of_next hs h

theorem next_newline (s : Text) : Block.next ('\n' :: s) = (.leaf .blank, s) := by
  have hline : line ('\n' :: s) = [] := rfl
  have hblank : allBlank [] = true := rfl
  rw [Block.next, hline, if_pos hblank]
  rfl

theorem blockNodes_newline (s : Text) : blockNodes ('\n' :: s) = .blank :: blockNodes s :=
  blockNodes_of_leaf (List.cons_ne_nil _ s) (next_newline s)

theorem mergeBlanks_cons_of_ne {node : Node} (hnode : node ≠ .blank) (nodes : List Node) :
    mergeBlanks (node :: nodes) = node :: mergeBlanks nodes := by
  rw [mergeBlanks]
  intro rest heq
  exact absurd heq hnode

theorem mergeBlanks_of_forall {nodes : List Node} (h : ∀ node ∈ nodes, node ≠ .blank) :
    mergeBlanks nodes = nodes := by
  induction nodes with
  | nil => rfl
  | cons node nodes ih =>
    rw [List.forall_mem_cons] at h
    rw [mergeBlanks_cons_of_ne h.1, ih h.2]

theorem mergeBlanks_blank_cons {nodes : List Node} (h : ∀ node ∈ nodes, node ≠ .blank) :
    mergeBlanks (.blank :: nodes) = .blank :: nodes := by
  unfold mergeBlanks
  rw [mergeBlanks_of_forall h]
  cases nodes with
  | nil => rfl
  | cons node nodes =>
    rw [List.forall_mem_cons] at h
    split
    · next heq => exact absurd (List.cons.inj heq).1 h.1
    · rfl

/-- A blank node goes into a run of them that follows it. -/
theorem mergeBlanks_blank_cons_eq (nodes : List Node) :
    (mergeBlanks nodes).head? ≠ some .blank ∧
        mergeBlanks (.blank :: nodes) = .blank :: mergeBlanks nodes ∨
      ∃ rest, mergeBlanks nodes = .blank :: rest ∧
        mergeBlanks (.blank :: nodes) = .blank :: rest := by
  cases hmerged : mergeBlanks nodes with
  | nil => exact .inl ⟨by simp, by simp only [mergeBlanks, hmerged]⟩
  | cons node rest =>
    by_cases hnode : node = .blank
    · subst hnode
      exact .inr ⟨rest, rfl, by simp only [mergeBlanks, hmerged]⟩
    · refine .inl ⟨fun heq => hnode (Option.some.inj heq), ?_⟩
      unfold mergeBlanks
      rw [hmerged]
      split
      · next heq => exact absurd (List.cons.inj heq).1 hnode
      · rfl

/-- A page that one block takes is read as the node of that block. -/
theorem parse_of_next {s t : Text} {block : Block} (hnormal : normalizeNewlines s = t)
    (ht : t ≠ []) (hnext : Block.next t = (block, [])) :
    parse s = (block.node? block.children).toList := by
  have hsingle (node : Node) : mergeBlanks [node] = [node] := by
    cases node <;> rfl
  rw [parse, hnormal, parseBlocks, blockNodes_of_next ht hnext, blockNodes_nil, List.append_nil]
  cases block.node? block.children with
  | none => rfl
  | some node => exact hsingle node

theorem mem_of_mem_mergeBlanks {nodes : List Node} {node : Node} (h : node ∈ mergeBlanks nodes) :
    node ∈ nodes := by
  induction nodes with
  | nil => exact h
  | cons first nodes ih =>
    by_cases hfirst : first = .blank
    · subst hfirst
      rcases mergeBlanks_blank_cons_eq nodes with ⟨-, heq⟩ | ⟨rest, hrest, heq⟩
      · rw [heq] at h
        exact List.mem_cons.2 ((List.mem_cons.1 h).imp_right ih)
      · rw [heq, ← hrest] at h
        exact List.mem_cons_of_mem _ (ih h)
    · rw [mergeBlanks_cons_of_ne hfirst] at h
      exact List.mem_cons.2 ((List.mem_cons.1 h).imp_right ih)

theorem comment?_eq_none {s : Text} (hangle : s.head? ≠ some '<')
    (hcomment : ¬expressionCommentStart <+: s) : Block.comment? s = none := by
  have hexpression : afterStart? expressionCommentStart s = none := afterStart?_eq_none hcomment
  have hhypertext : afterStart? hypertextCommentStart s = none := by
    refine afterStart?_eq_none ?_
    rintro ⟨rest, rfl⟩
    exact hangle rfl
  simp [Block.comment?, afterExpressionComment?, afterHypertextComment?, afterEnclosed?,
    hexpression, hhypertext]

theorem element?_eq_none {s : Text} (hangle : s.head? ≠ some '<') : Block.element? s = none := by
  have hclose : closeTag? s = none := by
    unfold closeTag?
    split
    · exact absurd rfl hangle
    · rfl
  have hopen : openTag? s = none := by
    unfold openTag?
    split
    · exact absurd rfl hangle
    · rfl
  simp [Block.element?, hclose, hopen]

theorem isTableRow_of_head {s t : Text} {c : Char} (hdrop : s.dropWhile isGap = c :: t)
    (hbar : c ≠ '|') : isTableRow s = false := by
  have hgap : isGap c = false := by
    have hhead := head?_dropWhile isGap s
    rwa [hdrop] at hhead
  have htrim : trimClass isGap s = c :: dropEndWhile isGap t := by
    rw [trimClass, hdrop, dropEndWhile_cons_of_neg hgap]
  simp [isTableRow, htrim, hbar]

theorem table?_eq_none {s : Text} (h : isTableRow (line s) = false) : table? s = none := by
  simp [table?, h]

/-- Where a line begins with an angle bracket, an element does or no larger block. -/
theorem next_angle {s : Text} (hcomment : Block.comment? ('<' :: s) = none) :
    Block.next ('<' :: s) = (Block.element? ('<' :: s)).getD
      (Block.ofLine (line ('<' :: s)), afterLine ('<' :: s)) := by
  have hline : line ('<' :: s) = '<' :: line s := rfl
  have hblank : ¬allBlank ('<' :: line s) = true := by
    simp [allBlank, show isBlank '<' = false by decide]
  have hfence : Fence.ofLine? ('<' :: line s) = none := rfl
  have hstart : ('<' :: s).dropWhile isBlank = '<' :: s :=
    List.dropWhile_cons_of_neg (by decide)
  have htable : table? ('<' :: s) = none :=
    table?_eq_none (isTableRow_of_head (List.dropWhile_cons_of_neg (by decide)) (by decide))
  rw [Block.next, hline, if_neg hblank, hfence]
  simp only [Block.nextUnfenced, hstart, hcomment, htable, hline]
  cases Block.element? ('<' :: s) with
  | none => rfl
  | some found => rfl

end Bindery.Markup
