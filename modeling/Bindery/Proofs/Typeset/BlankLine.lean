import Bindery.Packages.Lexers
import Bindery.Proofs.Markup.BlankLine
import Bindery.Proofs.Typeset.Layout
import Bindery.Proofs.Typeset.Setting

namespace Bindery.Typeset

open Text Markup

variable {env : Env} {mode : Mode}

/-- The entries that blocks make in a layout. -/
def setEntries (env : Env) (mode : Mode) (nodes : List Node) : Except SetError (List Entry) := do
  return nodes.zipWith Entry.of (← setNodes env .block mode nodes)

theorem setBlocks_eq_map (context : Context) (mode : Mode) (nodes : List Node) :
    setBlocks context mode nodes = layout <$> setEntries context.env mode nodes := by
  simp only [setBlocks, setEntries, arrange, map_bind, map_pure]

theorem setEntries_cons (node : Node) (nodes : List Node) :
    setEntries env mode (node :: nodes) = do
      return Entry.of node (← setNode env .block mode node) :: (← setEntries env mode nodes) := by
  simp only [setEntries, setNodes, bind_assoc, pure_bind, List.zipWith_cons_cons]

/-- One block is set as its own text, unless that is blank. -/
theorem setBlocks_singleton (context : Context) (mode : Mode) (node : Node) :
    setBlocks context mode [node] = do
      let text ← setNode context.env .block mode node
      return if allBlank text then [] else text := by
  have hlayout (text : Text) (alone : Bool) :
      layout [.chunk text alone] = if allBlank text then [] else text := by
    split
    · next h => exact layout_of_allBlank h alone []
    · next h => rw [layout_of_shown (by simpa using h), layoutFrom_nil, List.append_nil]
  rw [setBlocks_eq_map, setEntries_cons]
  cases hnode : setNode context.env .block mode node with
  | error e => rfl
  | ok text =>
    cases node with
    | blank =>
      rw [setNode_blank] at hnode
      cases hnode
      rfl
    | _ => exact congrArg Except.ok (hlayout text _)

theorem setEntries_blank_cons (nodes : List Node) :
    setEntries env mode (.blank :: nodes) = (.gap :: ·) <$> setEntries env mode nodes := by
  rw [setEntries_cons, setNode_blank]
  rfl

theorem setEntries_append (nodes others : List Node) :
    setEntries env mode (nodes ++ others) = do
      return (← setEntries env mode nodes) ++ (← setEntries env mode others) := by
  induction nodes with
  | nil => simp only [List.nil_append, setEntries, setNodes, pure_bind, List.zipWith_nil_left,
      bind_pure]
  | cons node nodes ih =>
    rw [List.cons_append, setEntries_cons, ih, setEntries_cons]
    simp only [bind_assoc, pure_bind, List.cons_append]

theorem setEntries_replicate_blank (n : Nat) :
    setEntries env mode (List.replicate n .blank) = .ok (List.replicate n .gap) := by
  induction n with
  | zero => rfl
  | succ n ih =>
    rw [List.replicate_succ, setEntries_blank_cons, ih]
    rfl

/-- The blocks below each other, in the state that the layout has reached. -/
def setFrom (env : Env) (mode : Mode) (started due : Bool) (nodes : List Node) :
    Except SetError Text :=
  layoutFrom started due <$> setEntries env mode nodes

theorem setFrom_blank_cons (started due : Bool) (nodes : List Node) :
    setFrom env mode started due (.blank :: nodes) = setFrom env mode started true nodes := by
  rw [setFrom, setEntries_blank_cons, setFrom, Functor.map_map]
  rfl

theorem setFrom_cons_congr {nodes others : List Node} (node : Node)
    (h : ∀ started due, setFrom env mode started due nodes = setFrom env mode started due others)
    (started due : Bool) :
    setFrom env mode started due (node :: nodes) =
      setFrom env mode started due (node :: others) := by
  rw [setFrom, setFrom, setEntries_cons, setEntries_cons]
  cases setNode env .block mode node with
  | error e => rfl
  | ok text =>
    obtain ⟨head, started', due', hstep⟩ := exists_layoutFrom_cons started due (Entry.of node text)
    have hset (nodes : List Node) :
        (layoutFrom started due <$> do
          return Entry.of node text :: (← setEntries env mode nodes)) =
          (head ++ ·) <$> setFrom env mode started' due' nodes := by
      simp only [setFrom, hstep, bind_pure_comp, Functor.map_map]
    exact (hset nodes).trans ((congrArg _ (h started' due')).trans (hset others).symm)

/-- A run of blank nodes is set as one of them is. -/
theorem setFrom_mergeBlanks (started due : Bool) (nodes : List Node) :
    setFrom env mode started due (mergeBlanks nodes) = setFrom env mode started due nodes := by
  induction nodes generalizing started due with
  | nil => rfl
  | cons node nodes ih =>
    by_cases hnode : node = .blank
    · subst hnode
      rw [setFrom_blank_cons, ← ih]
      rcases mergeBlanks_blank_cons_eq nodes with ⟨-, heq⟩ | ⟨rest, hrest, heq⟩
      · rw [heq, setFrom_blank_cons]
      · rw [heq, hrest, setFrom_blank_cons, setFrom_blank_cons]
    · rw [mergeBlanks_cons_of_ne hnode]
      exact setFrom_cons_congr node ih started due

theorem setBlocks_mergeBlanks (context : Context) (mode : Mode) (nodes : List Node) :
    setBlocks context mode (mergeBlanks nodes) = setBlocks context mode nodes := by
  rw [setBlocks_eq_map, setBlocks_eq_map]
  exact setFrom_mergeBlanks false false nodes

theorem setBlocks_append_blanks (context : Context) (mode : Mode) (nodes others : List Node)
    (n : Nat) :
    setBlocks context mode (nodes ++ List.replicate (n + 1) .blank ++ others) = do
      return below (← setBlocks context mode nodes) (← setBlocks context mode others) := by
  simp only [setBlocks_eq_map, setEntries_append, setEntries_replicate_blank]
  cases setEntries context.env mode nodes with
  | error e => rfl
  | ok entries =>
    cases setEntries context.env mode others with
    | error e => rfl
    | ok entries' =>
      have hlayout : layout (entries ++ List.replicate (n + 1) .gap ++ entries') =
          below (layout entries) (layout entries') := by
        rw [List.replicate_succ', ← List.append_assoc, List.append_assoc, List.singleton_append,
          layout_append_gap, layout_append_replicate_gap]
      exact congrArg Except.ok hlayout

/-- What stands above a blank line is set as a page of its own, and so is what stands below it.
The text above holds no angle bracket, no comment in braces and no fence, so that none of its
blocks can go on over the blank line; nothing is asked of the text below. -/
theorem setPage_append_blankLine (context : Context) {a : Text} (hreturn : '\r' ∉ a)
    (hangle : '<' ∉ a) (hcomment : ¬expressionCommentStart <:+: a)
    (hfence : ∀ l ∈ lines a, Fence.ofLine? l = none) (b : Text) :
    setPage context (a ++ "\n\n".toList ++ b) = do
      return below (← setPage context a) (← setPage context b) := by
  obtain ⟨n, hn⟩ :=
    blockNodes_append_blankLine ⟨hangle, hcomment, hfence⟩ (normalizeNewlines b)
  have hnormal : normalizeNewlines (a ++ "\n\n".toList ++ b) =
      a ++ '\n' :: '\n' :: normalizeNewlines b := by
    have hboth : '\r' ∉ a ++ "\n\n".toList := by
      rw [List.mem_append]
      exact fun h => h.elim hreturn (by decide)
    rw [normalizeNewlines_append_of_not_mem hboth, List.append_assoc]
    rfl
  simp only [setPage, parse, parseBlocks, setBlocks_mergeBlanks, hnormal, hn,
    normalizeNewlines_of_not_mem hreturn, setBlocks_append_blanks]

/-- A table up to the blank line, and below it a line that would be one more row. -/
theorem setPage_append_blankLine_table :
    setPage ⟨none, []⟩ ("|a|\n|-|".toList ++ "\n\n".toList ++ "|d|".toList) =
      below "#table(\n  columns: 1,\n  align: (left,) * 1,\n  [#strong[a]],\n)".toList <$>
        setPage ⟨none, []⟩ "|d|".toList := by
  have hangle : '<' ∉ "|a|\n|-|".toList := by decide
  have hcomment : ¬expressionCommentStart <:+: "|a|\n|-|".toList := fun h =>
    absurd (h.subset List.mem_cons_self) (by decide)
  have htable : parse "|a|\n|-|".toList = [.table [[.text "a".toList]] []] := by
    with_unfolding_all rfl
  have habove : setPage ⟨none, []⟩ "|a|\n|-|".toList =
      .ok "#table(\n  columns: 1,\n  align: (left,) * 1,\n  [#strong[a]],\n)".toList := by
    rw [setPage, htable]
    with_unfolding_all rfl
  rw [setPage_append_blankLine ⟨none, []⟩ (by decide) hangle hcomment (by decide), habove]
  rfl

end Bindery.Typeset
