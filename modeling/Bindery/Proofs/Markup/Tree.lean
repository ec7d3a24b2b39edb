import Bindery.Node

namespace Bindery

/-- All the nodes directly inside a node, those of all the cells of a table. -/
def Node.inner : Node → List Node
  | .strong children | .emph children | .strongEmph children | .paragraph children
  | .heading _ children | .listItem _ _ children | .element _ _ children _ => children
  | .table header rows => header.flatten ++ rows.flatten.flatten
  | _ => []

theorem Node.sizeOf_lt_of_mem_inner {node n : Node} (h : n ∈ node.inner) :
    sizeOf n < sizeOf node := by
  have child (children : List Node) (h : n ∈ children) : sizeOf n < sizeOf children :=
    List.sizeOf_lt_of_mem h
  have cell {cells : List (List Node)} (h : n ∈ cells.flatten) : sizeOf n < sizeOf cells := by
    obtain ⟨nodes, hnodes, hn⟩ := List.mem_flatten.1 h
    exact Nat.lt_trans (child nodes hn) (List.sizeOf_lt_of_mem hnodes)
  cases node with
  | strong children | emph children | strongEmph children | paragraph children
  | heading level children | listItem indent ordered children
  | element name attributes children block =>
    have hn := child children h
    simp only [strong.sizeOf_spec, emph.sizeOf_spec, strongEmph.sizeOf_spec,
      paragraph.sizeOf_spec, heading.sizeOf_spec, listItem.sizeOf_spec, element.sizeOf_spec]
    omega
  | table header rows =>
    rw [table.sizeOf_spec]
    rcases List.mem_append.1 h with h | h
    · have hn := cell h
      omega
    · obtain ⟨nodes, hnodes, hn⟩ := List.mem_flatten.1 h
      obtain ⟨row, hrow, hcell⟩ := List.mem_flatten.1 hnodes
      have hn := child nodes hn
      have hnodes := List.sizeOf_lt_of_mem hcell
      have hrow := List.sizeOf_lt_of_mem hrow
      omega
  | _ => cases h

/-- What holds of a node when it holds of all nodes inside it holds of every node. -/
@[elab_as_elim]
theorem Node.induction {P : Node → Prop} (step : ∀ node, (∀ n ∈ node.inner, P n) → P node)
    (node : Node) : P node :=
  step node fun n hn =>
    have := Node.sizeOf_lt_of_mem_inner hn
    Node.induction step n
termination_by sizeOf node

/-- The node is one of the nodes, or stands inside one of them at any depth. -/
inductive Node.Among (n : Node) : List Node → Prop
  | here {nodes : List Node} (h : n ∈ nodes) : Among n nodes
  | inside {nodes : List Node} {outer : Node} (houter : outer ∈ nodes) (h : Among n outer.inner) :
    Among n nodes

namespace Node

variable {n : Node} {nodes others : List Node}

theorem Among.of_subset (h : n.Among nodes) (hsubset : nodes ⊆ others) : n.Among others := by
  cases h with
  | here hn => exact .here (hsubset hn)
  | inside houter h => exact .inside (hsubset houter) h

@[simp]
theorem not_among_nil : ¬n.Among [] := by
  rintro (h | ⟨h, -⟩) <;> exact List.not_mem_nil h

theorem among_cons_iff {node : Node} :
    n.Among (node :: nodes) ↔ (n = node ∨ n.Among node.inner) ∨ n.Among nodes := by
  constructor
  · rintro (h | ⟨houter, h⟩)
    · exact (List.mem_cons.1 h).imp .inl .here
    · rcases List.mem_cons.1 houter with rfl | houter
      · exact .inl (.inr h)
      · exact .inr (.inside houter h)
  · rintro ((rfl | h) | h)
    · exact .here List.mem_cons_self
    · exact .inside List.mem_cons_self h
    · exact h.of_subset (List.subset_cons_self node nodes)

end Node

end Bindery
