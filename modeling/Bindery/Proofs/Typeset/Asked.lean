import Bindery.Proofs.Markup.Tree
import Bindery.Proofs.Typeset.Constructs
import Bindery.Proofs.Typeset.Setting

namespace Bindery.Typeset

open Text Typst

/-- The reference of a card, where it has one. -/
def cardLink? : Node → Option Text
  | .element _ attributes _ _ => attributes.get? "href".toList
  | _ => none

/-- The references of the cards that stand directly in a grid. -/
def gridLinks : Node → List Text
  | .element name _ children _ =>
    if name = "Columns".toList then (Node.elements "Card".toList children).filterMap cardLink?
    else []
  | _ => []

/-- What two environments have in common that the nodes ask for. -/
structure Env.AgreesOn (env env' : Env) (nodes : List Node) : Prop where
  assets : env.context.assets = env'.context.assets
  lexers : env.context.lexers = env'.context.lexers
  linkText : ∀ t url, (Node.link t url).Among nodes → env.linkText t = env'.linkText t
  label : ∀ n, n.Among nodes → ∀ href ∈ gridLinks n,
    env.context.resolveLabel href = env'.context.resolveLabel href

variable {env env' : Env} {place : Place} {mode : Mode} {nodes : List Node} {node : Node}

theorem Env.AgreesOn.of_mem (h : env.AgreesOn env' nodes) (hnode : node ∈ nodes) :
    env.AgreesOn env' [node] where
  assets := h.assets
  lexers := h.lexers
  linkText t url ht := h.linkText t url (ht.of_subset (by simpa using hnode))
  label n hn := h.label n (hn.of_subset (by simpa using hnode))

theorem Env.AgreesOn.inner (h : env.AgreesOn env' [node]) : env.AgreesOn env' node.inner where
  assets := h.assets
  lexers := h.lexers
  linkText t url ht := h.linkText t url (.inside (List.mem_singleton_self node) ht)
  label n hn := h.label n (.inside (List.mem_singleton_self node) hn)

theorem Env.AgreesOn.of_mem_inner {n : Node} (h : env.AgreesOn env' [node])
    (hn : n ∈ node.inner) : env.AgreesOn env' [n] :=
  h.inner.of_mem hn

/-- Wherever the node stands, it is set alike in both environments. -/
def SetsSame (env env' : Env) (node : Node) : Prop :=
  ∀ place mode, setNode env place mode node = setNode env' place mode node

theorem setNodes_eq_of_same (h : ∀ n ∈ nodes, SetsSame env env' n) (place : Place) (mode : Mode) :
    setNodes env place mode nodes = setNodes env' place mode nodes := by
  induction nodes with
  | nil => rfl
  | cons node nodes ih =>
    rw [List.forall_mem_cons] at h
    rw [setNodes, setNodes, h.1 place mode, ih h.2]

theorem setCells_eq_of_same {cells : List (List Node)}
    (h : ∀ cell ∈ cells, ∀ n ∈ cell, SetsSame env env' n) (width : Nat) :
    setCells env width cells = setCells env' width cells := by
  induction cells generalizing width with
  | nil => rw [setCells, setCells]
  | cons cell cells ih =>
    rw [List.forall_mem_cons] at h
    cases width with
    | zero => rw [setCells, setCells]
    | succ width => rw [setCells, setCells, setNodes_eq_of_same h.1, ih h.2]

theorem setRows_eq_of_same {rows : List (List (List Node))}
    (h : ∀ row ∈ rows, ∀ cell ∈ row, ∀ n ∈ cell, SetsSame env env' n) (width : Nat) :
    setRows env width rows = setRows env' width rows := by
  induction rows with
  | nil => rfl
  | cons row rows ih =>
    rw [List.forall_mem_cons] at h
    rw [setRows, setRows, setCells_eq_of_same h.1, ih h.2]

/-- Elements are set alike when their contents are, and what is made of a content is the same for
    each element of the name. -/
theorem setElements_eq_of_same {name : Text} {entry entry' : Pairs → Text → Except SetError Text}
    (h : ∀ n ∈ nodes, ∀ c ∈ n.content, SetsSame env env' c)
    (hentry : ∀ attributes children block, .element name attributes children block ∈ nodes →
      ∀ body, entry attributes body = entry' attributes body) (mode : Mode) :
    setElements env name mode entry nodes = setElements env' name mode entry' nodes := by
  induction nodes with
  | nil => rw [setElements, setElements]
  | cons node nodes ih =>
    rw [List.forall_mem_cons] at h
    have hrest := ih h.2 fun attributes children block hmem =>
      hentry attributes children block (List.mem_cons_of_mem node hmem)
    cases node with
    | element n attributes children block =>
      rw [setElements, setElements]
      split
      · next hname =>
        have hown := hentry attributes children block (by rw [eq_of_beq hname]; simp)
        have hchildren := setNodes_eq_of_same h.1 (Place.ofBlock block) mode
        simp only [Node.content] at hchildren
        simp only [hchildren, hown, hrest]
      · exact hrest
    | _ => exact hrest

theorem resolveLabel_nil (context : Context) : context.resolveLabel [] = .ok none :=
  rfl

/-- A card without a reference has no label, whatever labels are known. -/
theorem setCardEntry_eq_of_same {attributes : Pairs}
    (h : ∀ href, attributes.get? "href".toList = some href →
      env.context.resolveLabel href = env'.context.resolveLabel href) (body : Text) :
    setCardEntry env attributes body = setCardEntry env' attributes body := by
  have hlabel : env.context.resolveLabel (attributes.get "href".toList) =
      env'.context.resolveLabel (attributes.get "href".toList) := by
    rw [Pairs.get]
    cases hhref : attributes.get? "href".toList with
    | none => rw [Option.getD_none, resolveLabel_nil, resolveLabel_nil]
    | some href => exact h href hhref
  rw [setCardEntry, setCardEntry, hlabel]

theorem setsSame_element {name : Text} {attributes : Pairs} {children : List Node} {block : Bool}
    (hcards : ∀ href ∈ gridLinks (.element name attributes children block),
      env.context.resolveLabel href = env'.context.resolveLabel href)
    (h : ∀ n ∈ children, SetsSame env env' n ∧ ∀ c ∈ n.content, SetsSame env env' c) :
    SetsSame env env' (.element name attributes children block) := by
  intro place mode
  have hnodes := setNodes_eq_of_same fun n hn => (h n hn).1
  have helements {name : Text} (entry : Pairs → Text → Except SetError Text) (mode : Mode) :
      setElements env name mode entry children = setElements env' name mode entry children :=
    setElements_eq_of_same (fun n hn => (h n hn).2) (fun _ _ _ _ _ => rfl) mode
  rw [setNode, setNode]
  cases hnamed : Component.named name with
  | columns =>
    have hentry : ∀ card cardChildren cardBlock,
        .element "Card".toList card cardChildren cardBlock ∈ children →
          ∀ body, setCardEntry env card body = setCardEntry env' card body := by
      intro card cardChildren cardBlock hmem
      refine setCardEntry_eq_of_same fun href hhref => hcards href ?_
      rw [gridLinks, if_pos (name_of_named hnamed (by decide) (by decide))]
      have hcard : Node.element "Card".toList card cardChildren cardBlock ∈
          Node.elements "Card".toList children :=
        List.mem_filter.2 ⟨hmem, beq_self_eq_true _⟩
      exact List.mem_filterMap.2 ⟨_, hcard, hhref⟩
    have hentries := setElements_eq_of_same (fun n hn => (h n hn).2) hentry .card
    simp only
    split
    · simp only [hnodes]
    · exact congrArg (· >>= fun entries => pure (gridMarkup attributes entries)) hentries
  | callout | box _ | card | steps | step | accordion | tabs | update | key | hidden | content =>
    simp only [hnodes, helements]

/-- The content of the elements inside a node is part of what the induction carries, since cards,
    steps and tabs set it directly. -/
theorem setsSame_of_agreesOn (node : Node) (h : env.AgreesOn env' [node]) :
    SetsSame env env' node ∧ ∀ c ∈ node.content, SetsSame env env' c := by
  have leaf {node : Node} (hcontent : node.content = []) (h : SetsSame env env' node) :
      SetsSame env env' node ∧ ∀ c ∈ node.content, SetsSame env env' c := by
    rw [hcontent]
    exact ⟨h, fun c hc => absurd hc List.not_mem_nil⟩
  induction node using Node.induction with
  | step node ih =>
    have hinner (n : Node) (hn : n ∈ node.inner) := ih n hn (h.of_mem_inner hn)
    have hnodes (place : Place) (mode : Mode) :
        setNodes env place mode node.inner = setNodes env' place mode node.inner :=
      setNodes_eq_of_same (fun n hn => (hinner n hn).1) place mode
    cases node with
    | link t url =>
      refine leaf rfl fun place mode => ?_
      rw [setNode, setNode, h.linkText t url (.here (List.mem_singleton_self _))]
    | image alt src =>
      refine leaf rfl fun place mode => ?_
      rw [setNode, setNode, Context.image, Context.image, h.assets]
    | strong children | emph children | strongEmph children | paragraph children
    | heading level children | listItem indent ordered children =>
      refine leaf rfl fun place mode => ?_
      simp only [Node.inner] at hnodes
      rw [setNode, setNode, hnodes]
    | table header rows =>
      have hheader : ∀ cell ∈ header, ∀ n ∈ cell, SetsSame env env' n := fun cell hcell n hn =>
        (hinner n (List.mem_append_left _ (List.mem_flatten.2 ⟨cell, hcell, hn⟩))).1
      have hrows : ∀ row ∈ rows, ∀ cell ∈ row, ∀ n ∈ cell, SetsSame env env' n := by
        intro row hrow cell hcell n hn
        have hcells := List.mem_flatten.2 ⟨row, hrow, hcell⟩
        exact (hinner n (List.mem_append_right _ (List.mem_flatten.2 ⟨cell, hcells, hn⟩))).1
      refine leaf rfl fun place mode => ?_
      rw [setNode, setNode, setCells_eq_of_same hheader, setRows_eq_of_same hrows]
    | element name attributes children block =>
      have hcards := h.label _ (.here (List.mem_singleton_self _))
      exact ⟨setsSame_element hcards hinner, fun c hc => (hinner c hc).1⟩
    | codeBlock language code =>
      exact leaf rfl fun place mode => by rw [setNode, setNode, h.lexers]
    | text t | code t | rule | blank | empty =>
      exact leaf rfl fun place mode => by rw [setNode, setNode]

/-- Nodes are set alike in environments that agree on what the nodes ask for. -/
theorem setNodes_eq_of_agreesOn (h : env.AgreesOn env' nodes) (place : Place) (mode : Mode) :
    setNodes env place mode nodes = setNodes env' place mode nodes :=
  setNodes_eq_of_same (fun n hn => (setsSame_of_agreesOn n (h.of_mem hn)).1) place mode

end Bindery.Typeset
