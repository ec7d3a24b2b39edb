import Bindery.Packages.Lexers
import Bindery.Proofs.Typeset.BlankLine

namespace Bindery.Typeset

open Text

variable {entries hidden : List Entry}

theorem isShown_of_allBlank {text : Text} (h : allBlank text = true) (node : Node) :
    (Entry.of node text).isShown = false := by
  have hchunk (alone : Bool) : (Entry.chunk text alone).isShown = false := by
    rw [Entry.isShown, h, Bool.not_true]
  cases node with
  | blank => rfl
  | _ => exact hchunk _

/-- Entries that are not shown change nothing above them. -/
theorem layoutFrom_append_hidden (h : ∀ entry ∈ hidden, entry.isShown = false)
    (started due : Bool) (entries : List Entry) :
    layoutFrom started due (entries ++ hidden) = layoutFrom started due entries := by
  induction entries generalizing started due with
  | nil =>
    rw [List.nil_append, layoutFrom_nil, layoutFrom_eq_nil_iff, List.any_eq_false]
    exact fun entry hentry => Bool.eq_false_iff.1 (h entry hentry)
  | cons entry entries ih =>
    obtain ⟨head, started', due', hstep⟩ := exists_layoutFrom_cons started due entry
    rw [List.cons_append, hstep, hstep, ih]

/-- Nor do they below them, when nothing is above. -/
theorem layout_hidden_append (h : ∀ entry ∈ hidden, entry.isShown = false) :
    layout (hidden ++ entries) = layout entries := by
  induction hidden with
  | nil => rfl
  | cons entry hidden ih =>
    rw [List.forall_mem_cons] at h
    rw [List.cons_append]
    cases entry with
    | gap => rw [layout_gap_cons, ih h.2]
    | chunk text alone =>
      have hblank : allBlank text = true := by simpa [Entry.isShown] using h.1
      rw [layout_of_allBlank hblank, ih h.2]

/-- The block is set without an error, and as nothing but blanks. -/
def SetsNothing (env : Env) (mode : Mode) (node : Node) : Prop :=
  ∃ text, setNode env .block mode node = .ok text ∧ allBlank text = true

theorem setsNothing_blank (env : Env) (mode : Mode) : SetsNothing env mode .blank :=
  ⟨[], setNode_blank env .block mode, rfl⟩

variable {env : Env} {context : Context} {mode : Mode} {nodes others : List Node}

theorem exists_setEntries_of_setsNothing (h : ∀ node ∈ nodes, SetsNothing env mode node) :
    ∃ entries, setEntries env mode nodes = .ok entries ∧
      ∀ entry ∈ entries, entry.isShown = false := by
  induction nodes with
  | nil => exact ⟨[], rfl, fun _ hentry => absurd hentry List.not_mem_nil⟩
  | cons node nodes ih =>
    rw [List.forall_mem_cons] at h
    obtain ⟨text, htext, hblank⟩ := h.1
    obtain ⟨entries, hentries, hhidden⟩ := ih h.2
    refine ⟨Entry.of node text :: entries, ?_, ?_⟩
    · rw [setEntries_cons, htext, hentries]
      rfl
    · exact List.forall_mem_cons.2 ⟨isShown_of_allBlank hblank node, hhidden⟩

theorem setBlocks_append_hidden (h : ∀ node ∈ others, SetsNothing context.env mode node)
    (nodes : List Node) :
    setBlocks context mode (nodes ++ others) = setBlocks context mode nodes := by
  obtain ⟨entries, hentries, hhidden⟩ := exists_setEntries_of_setsNothing h
  rw [setBlocks_eq_map, setBlocks_eq_map, setEntries_append, hentries]
  cases setEntries context.env mode nodes with
  | error e => rfl
  | ok above => exact congrArg Except.ok (layoutFrom_append_hidden hhidden false false above)

theorem setBlocks_hidden_append (h : ∀ node ∈ nodes, SetsNothing context.env mode node)
    (others : List Node) :
    setBlocks context mode (nodes ++ others) = setBlocks context mode others := by
  obtain ⟨entries, hentries, hhidden⟩ := exists_setEntries_of_setsNothing h
  rw [setBlocks_eq_map, setBlocks_eq_map, setEntries_append, hentries]
  cases setEntries context.env mode others with
  | error e => rfl
  | ok below => exact congrArg Except.ok (layout_hidden_append hhidden)

theorem setsNothing_replicate_blank (env : Env) (mode : Mode) (n : Nat) :
    ∀ node ∈ List.replicate n Node.blank, SetsNothing env mode node := by
  intro node hnode
  rw [List.eq_of_mem_replicate hnode]
  exact setsNothing_blank env mode

theorem setBlocks_append_blank_cons (context : Context) (mode : Mode) (nodes others : List Node) :
    setBlocks context mode (nodes ++ .blank :: others) = do
      return below (← setBlocks context mode nodes) (← setBlocks context mode others) := by
  have hone := setBlocks_append_blanks context mode nodes others 0
  rwa [List.append_assoc] at hone

/-- Around a blank node, blocks are set as two lists are, with a blank line between the texts where
both are there. It does not matter how many blank nodes stand there, whether any stand at the
beginning or the end, or whether blocks that are set as nothing stand next to them. -/
theorem setBlocks_around_blank (context : Context) (mode : Mode) (nodes others : List Node) :
    (setBlocks context mode (nodes ++ .blank :: others) = do
        return below (← setBlocks context mode nodes) (← setBlocks context mode others)) ∧
      (∀ n, setBlocks context mode (nodes ++ List.replicate (n + 1) .blank ++ others) =
        setBlocks context mode (nodes ++ .blank :: others)) ∧
      (∀ n, setBlocks context mode (List.replicate n .blank ++ nodes) =
          setBlocks context mode nodes ∧
        setBlocks context mode (nodes ++ List.replicate n .blank) =
          setBlocks context mode nodes) ∧
      ∀ hidden : List Node, (∀ node ∈ hidden, SetsNothing context.env mode node) →
        setBlocks context mode (nodes ++ hidden ++ .blank :: others) =
            setBlocks context mode (nodes ++ .blank :: others) ∧
          setBlocks context mode (nodes ++ .blank :: (hidden ++ others)) =
            setBlocks context mode (nodes ++ .blank :: others) := by
  refine ⟨setBlocks_append_blank_cons context mode nodes others, fun n => ?_, fun n => ?_, ?_⟩
  · rw [setBlocks_append_blanks, setBlocks_append_blank_cons]
  · have hblanks := setsNothing_replicate_blank context.env mode n
    exact ⟨setBlocks_hidden_append hblanks nodes, setBlocks_append_hidden hblanks nodes⟩
  · intro hidden hhidden
    rw [setBlocks_append_blank_cons, setBlocks_append_blank_cons, setBlocks_append_blank_cons,
      setBlocks_append_hidden hhidden, setBlocks_hidden_append hhidden]
    exact ⟨rfl, rfl⟩

/-- An icon, which is set as nothing, between a paragraph and the blank node below it, and a
paragraph of spaces between that and a rule. -/
theorem setBlocks_around_blank_icon :
    (∀ node ∈ [Node.element "Icon".toList [] [] true, .paragraph [.text "  ".toList]],
        SetsNothing (⟨none, []⟩ : Context).env .full node) ∧
      setBlocks ⟨none, []⟩ .full ([.paragraph [.text "a".toList]] ++
          [.element "Icon".toList [] [] true, .paragraph [.text "  ".toList]] ++
          .blank :: [.rule]) =
        .ok ("a\n\n".toList ++ Typst.rule) := by
  have hhidden : ∀ node ∈ [Node.element "Icon".toList [] [] true, .paragraph [.text "  ".toList]],
      SetsNothing (⟨none, []⟩ : Context).env .full node := by
    rw [List.forall_mem_cons, List.forall_mem_singleton]
    exact ⟨⟨[], by with_unfolding_all rfl, rfl⟩, "  ".toList, by with_unfolding_all rfl, by decide⟩
  refine ⟨hhidden, ?_⟩
  obtain ⟨hcut, -, -, hremoved⟩ :=
    setBlocks_around_blank ⟨none, []⟩ .full [.paragraph [.text "a".toList]] [.rule]
  rw [(hremoved _ hhidden).1, hcut]
  with_unfolding_all rfl

end Bindery.Typeset
