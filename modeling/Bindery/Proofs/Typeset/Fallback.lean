import Bindery.Proofs.Markup.FittingPage
import Bindery.Typeset.Node

namespace Bindery.Typeset

open Text Typst Markup

/-- Whether the node has no setting of its own at the place: a node of a line among blocks, a block
    within a line, a heading without a mark for its level, or a node without content. -/
def fallsBack : Place → Node → Bool
  | .line, .paragraph _ | .line, .heading _ _ | .line, .listItem _ _ _ | .line, .rule
  | .line, .blank | .line, .codeBlock _ _ | .line, .table _ _ => true
  | .block, .text _ | .block, .code _ | .block, .link _ _ | .block, .image _ _
  | .block, .strong _ | .block, .emph _ | .block, .strongEmph _ => true
  | .block, .heading level _ => !(1 ≤ level && level ≤ 4)
  | _, .empty => true
  | _, _ => false

/-- What is done with a node that has no setting of its own at its place. -/
abbrev Other := Place → Node → Except SetError Text

/-- The setting of a node, where it has one of its own. -/
def Other.unless (other : Other) (place : Place) (node : Node)
    (own : Unit → Except SetError Text) : Except SetError Text :=
  if fallsBack place node then other place node else own ()

mutual

/-- The markup of a node, with another outcome for one that has no setting of its own. -/
def setNodeOr (other : Other) (env : Env) (place : Place) (mode : Mode) :
    Node → Except SetError Text
  | .text t => other.unless place (.text t) fun _ => return escape t
  | .code t => other.unless place (.code t) fun _ => return rawSpan t
  | .link t url => other.unless place (.link t url) fun _ => do
    reference mode url (← env.linkText t)
  | .image alt src => other.unless place (.image alt src) fun _ => env.context.image mode alt src
  | .strong children => other.unless place (.strong children) fun _ => do
    return emphasized mode strong (join (← setNodesOr other env .line mode children))
  | .emph children => other.unless place (.emph children) fun _ => do
    return emphasized mode emph (join (← setNodesOr other env .line mode children))
  | .strongEmph children => other.unless place (.strongEmph children) fun _ => do
    return emphasized mode strongEmph (join (← setNodesOr other env .line mode children))
  | .paragraph children => other.unless place (.paragraph children) fun _ =>
    return join (← setNodesOr other env .line mode children)
  | .heading level children => other.unless place (.heading level children) fun _ => do
    let body := join (← setNodesOr other env .line mode children)
    (heading level body).mapError .level
  | .listItem indent ordered children =>
    other.unless place (.listItem indent ordered children) fun _ =>
      return listItem indent ordered (join (← setNodesOr other env .line mode children))
  | .rule => other.unless place .rule fun _ => return rule
  | .blank => other.unless place .blank fun _ => return []
  | .codeBlock language code => other.unless place (.codeBlock language code) fun _ =>
    return @rawBlock env.context.lexers language code
  | .table header rows => other.unless place (.table header rows) fun _ => do
    let headerTexts ← setCellsOr other env header.length header
    return tableMarkup headerTexts (← setRowsOr other env header.length rows)
  | .element name attributes children block => do
    let inner := Place.ofBlock block
    let content (mode : Mode) :=
      return arrange inner children (← setNodesOr other env inner mode children)
    match Component.named name with
    | .hidden => return []
    | .key => return rawSpan (plainTexts children)
    | .card => return cardMarkup attributes (← content .card)
    | .columns =>
      if (Node.elements "Card".toList children).isEmpty then content .full
      else
        let entry (attributes : Pairs) (body : Text) := do
          let label ← (env.context.resolveLabel (attributes.get "href".toList)).mapError .url
          return cardEntry attributes body label
        return gridMarkup attributes (← setElementsOr other env "Card".toList .card entry children)
    | .steps =>
      if (Node.elements "Step".toList children).isEmpty then content .full
      else
        let entry (attributes : Pairs) (body : Text) := return stepEntry attributes body
        return stepsMarkup (← setElementsOr other env "Step".toList .full entry children)
    | .tabs =>
      if (Node.elements "Tab".toList children).isEmpty then content .full
      else
        let entry (attributes : Pairs) (body : Text) := return tabMarkup attributes body
        return joinWith ['\n', '\n'] (← setElementsOr other env "Tab".toList .full entry children)
    | component => return component.markup name attributes (← content .full)
  | .empty => other place .empty

/-- The markup of each node. -/
def setNodesOr (other : Other) (env : Env) (place : Place) (mode : Mode) :
    List Node → Except SetError (List Text)
  | [] => return []
  | node :: rest =>
    return (← setNodeOr other env place mode node) :: (← setNodesOr other env place mode rest)

/-- The cells of a row, cut off or filled up with empty ones to the given number. -/
def setCellsOr (other : Other) (env : Env) :
    (width : Nat) → List (List Node) → Except SetError (List Text)
  | width, [] => return List.replicate width []
  | 0, _ :: _ => return []
  | width + 1, cell :: rest =>
    return join (← setNodesOr other env .line .plain cell) :: (← setCellsOr other env width rest)

/-- The cells of each row. -/
def setRowsOr (other : Other) (env : Env) (width : Nat) :
    List (List (List Node)) → Except SetError (List (List Text))
  | [] => return []
  | row :: rest => return (← setCellsOr other env width row) :: (← setRowsOr other env width rest)

/-- What each element of the given name contributes, by its attributes and its content. -/
def setElementsOr (other : Other) (env : Env) (name : Text) (mode : Mode)
    (entry : Pairs → Text → Except SetError Text) : List Node → Except SetError (List Text)
  | [] => return []
  | .element n attributes children block :: rest => do
    if n == name then
      let inner := Place.ofBlock block
      let text ← entry attributes
        (arrange inner children (← setNodesOr other env inner mode children))
      return text :: (← setElementsOr other env name mode entry rest)
    else setElementsOr other env name mode entry rest
  | _ :: rest => setElementsOr other env name mode entry rest

end

/-- The markup of the text of a link, with another outcome where the setting has none. -/
def setLinkTextOr (other : Other) (context : Context) (s : Text) : Except SetError Text := do
  let inner (t : Text) :=
    if _h : t.length < s.length then setLinkTextOr other context t else return []
  return join (← setNodesOr other ⟨context, inner⟩ .line .plain (parseInline s))
termination_by s.length

/-- The markup of a page, with another outcome where the setting has none. -/
def setPageOr (other : Other) (context : Context) (page : Text) : Except SetError Text := do
  let nodes := parse page
  return arrange .block nodes
    (← setNodesOr other ⟨context, setLinkTextOr other context⟩ .block .full nodes)

theorem fallsBack_of_fitsIn {place : Place} {node : Node} (h : node.FitsIn place) :
    fallsBack place node = false := by
  cases h with
  | heading hlevel => simpa [fallsBack] using hlevel
  | _ => rfl

theorem Other.unless_of_fitsIn (other : Other) {place : Place} {node : Node}
    (h : node.FitsIn place) (own : Unit → Except SetError Text) :
    other.unless place node own = own () := by
  rw [Other.unless, fallsBack_of_fitsIn h]
  rfl

variable {other : Other} {env env' : Env} {place : Place} {node : Node}

/-- The two settings go by the same of what pages share and of link texts on one line. -/
structure Env.Agrees (env' env : Env) : Prop where
  context : env'.context = env.context
  linkText : ∀ t, OneLine t → env'.linkText t = env.linkText t

/-- In both settings the node is set alike. -/
def SetsAlike (other : Other) (env env' : Env) (place : Place) (node : Node) : Prop :=
  ∀ mode, setNodeOr other env' place mode node = setNode env place mode node

theorem setNodesOr_eq {nodes : List Node} (h : ∀ n ∈ nodes, SetsAlike other env env' place n)
    (mode : Mode) : setNodesOr other env' place mode nodes = setNodes env place mode nodes := by
  induction nodes with
  | nil => rfl
  | cons node nodes ih =>
    rw [List.forall_mem_cons] at h
    rw [setNodesOr, setNodes, h.1 mode, ih h.2]

theorem setCellsOr_eq {cells : List (List Node)}
    (h : ∀ cell ∈ cells, ∀ n ∈ cell, SetsAlike other env env' .line n) (width : Nat) :
    setCellsOr other env' width cells = setCells env width cells := by
  induction cells generalizing width with
  | nil => rw [setCellsOr, setCells]
  | cons cell cells ih =>
    rw [List.forall_mem_cons] at h
    cases width with
    | zero => rw [setCellsOr, setCells]
    | succ width => rw [setCellsOr, setCells, setNodesOr_eq h.1, ih h.2]

theorem setRowsOr_eq {rows : List (List (List Node))}
    (h : ∀ row ∈ rows, ∀ cell ∈ row, ∀ n ∈ cell, SetsAlike other env env' .line n) (width : Nat) :
    setRowsOr other env' width rows = setRows env width rows := by
  induction rows with
  | nil => rfl
  | cons row rows ih =>
    rw [List.forall_mem_cons] at h
    rw [setRowsOr, setRows, setCellsOr_eq h.1, ih h.2]

theorem place_of_element {name : Text} {attributes : Pairs} {children : List Node} {block : Bool}
    (h : Node.FitsIn place (.element name attributes children block)) :
    place = Place.ofBlock block := by
  cases h with
  | inner => rfl
  | outer => rfl

theorem setElementsOr_eq {nodes : List Node} (hplace : ∀ n ∈ nodes, n.FitsIn place)
    (h : ∀ n ∈ nodes, ∀ c ∈ n.content, SetsAlike other env env' place c) (name : Text) (mode : Mode)
    (entry : Pairs → Text → Except SetError Text) :
    setElementsOr other env' name mode entry nodes = setElements env name mode entry nodes := by
  induction nodes with
  | nil => rw [setElementsOr, setElements]
  | cons node nodes ih =>
    rw [List.forall_mem_cons] at hplace h
    have hrest := ih hplace.2 h.2
    cases node with
    | element n attributes children block =>
      have hchildren : setNodesOr other env' (Place.ofBlock block) mode children =
          setNodes env (Place.ofBlock block) mode children :=
        setNodesOr_eq (place_of_element hplace.1 ▸ h.1) mode
      rw [setElementsOr, setElements]
      simp only [hrest, hchildren]
    | _ => exact hrest

theorem setNodeOr_element_eq (henv : env'.Agrees env) {name : Text} {attributes : Pairs}
    {children : List Node} {block : Bool} (hplace : ∀ n ∈ children, n.FitsIn (Place.ofBlock block))
    (h : ∀ n ∈ children, SetsAlike other env env' (Place.ofBlock block) n ∧
      ∀ c ∈ n.content, SetsAlike other env env' (Place.ofBlock block) c) :
    SetsAlike other env env' place (.element name attributes children block) := by
  intro mode
  have hnodes := setNodesOr_eq fun n hn => (h n hn).1
  have helements := setElementsOr_eq hplace fun n hn => (h n hn).2
  rw [setNodeOr, setNode]
  cases Component.named name <;> simp only [hnodes, helements, henv.context]

/-- Nodes that fit at their place are set alike. Cards, steps and tabs set the content of the
    elements inside them directly, so that the content is part of what the induction carries. -/
theorem setsAlike_of_fitsIn (henv : env'.Agrees env) (h : node.FitsIn place) :
    SetsAlike other env env' place node ∧
      ∀ c ∈ node.content, SetsAlike other env env' place c := by
  have leaf {place : Place} {node : Node} (hcontent : node.content = [])
      (h : SetsAlike other env env' place node) : SetsAlike other env env' place node ∧
        ∀ c ∈ node.content, SetsAlike other env env' place c := by
    rw [hcontent]
    exact ⟨h, fun c hc => absurd hc List.not_mem_nil⟩
  have own {place : Place} {node : Node} (h : node.FitsIn place) := other.unless_of_fitsIn h
  induction h with
  | text ht hline =>
    exact leaf rfl fun mode => by rw [setNodeOr, own (.text ht hline), setNode]
  | code ht hline =>
    exact leaf rfl fun mode => by rw [setNodeOr, own (.code ht hline), setNode]
  | link hline hurl =>
    refine leaf rfl fun mode => ?_
    rw [setNodeOr, own (.link hline hurl), setNode, henv.linkText _ hline]
  | image hline hsrc =>
    refine leaf rfl fun mode => ?_
    rw [setNodeOr, own (.image hline hsrc), setNode, henv.context]
  | strong h ih =>
    refine leaf rfl fun mode => ?_
    rw [setNodeOr, own (.strong h), setNode, setNodesOr_eq fun n hn => (ih n hn).1]
  | emph h ih =>
    refine leaf rfl fun mode => ?_
    rw [setNodeOr, own (.emph h), setNode, setNodesOr_eq fun n hn => (ih n hn).1]
  | strongEmph h ih =>
    refine leaf rfl fun mode => ?_
    rw [setNodeOr, own (.strongEmph h), setNode, setNodesOr_eq fun n hn => (ih n hn).1]
  | paragraph h ih =>
    refine leaf rfl fun mode => ?_
    rw [setNodeOr, own (.paragraph h), setNode, setNodesOr_eq fun n hn => (ih n hn).1]
    rfl
  | heading hlevel h ih =>
    refine leaf rfl fun mode => ?_
    rw [setNodeOr, own (.heading hlevel h), setNode, setNodesOr_eq fun n hn => (ih n hn).1]
    rfl
  | listItem indent ordered h ih =>
    refine leaf rfl fun mode => ?_
    rw [setNodeOr, own (.listItem indent ordered h), setNode,
      setNodesOr_eq fun n hn => (ih n hn).1]
    rfl
  | rule => exact leaf rfl fun mode => by rw [setNodeOr, own .rule, setNode]; rfl
  | blank => exact leaf rfl fun mode => by rw [setNodeOr, own .blank, setNode]
  | codeBlock hlanguage hcode =>
    refine leaf rfl fun mode => ?_
    rw [setNodeOr, own (.codeBlock hlanguage hcode), setNode, henv.context]
    rfl
  | table hheader hrows ihheader ihrows =>
    refine leaf rfl fun mode => ?_
    rw [setNodeOr, own (.table hheader hrows), setNode,
      setCellsOr_eq fun cell hc n hn => (ihheader cell hc n hn).1,
      setRowsOr_eq fun row hrow cell hc n hn => (ihrows row hrow cell hc n hn).1]
    rfl
  | inner attributes hname h ih =>
    exact ⟨setNodeOr_element_eq henv h ih, fun c hc => (ih c hc).1⟩
  | outer attributes hname hblanks h ih =>
    exact ⟨setNodeOr_element_eq henv h ih, fun c hc => (ih c hc).1⟩

theorem setNodesOr_of_fitsIn (other : Other) (henv : env'.Agrees env) {nodes : List Node}
    (h : ∀ n ∈ nodes, n.FitsIn place) (mode : Mode) :
    setNodesOr other env' place mode nodes = setNodes env place mode nodes :=
  setNodesOr_eq (fun n hn => (setsAlike_of_fitsIn henv (h n hn)).1) mode

/-- The induction is on the length of the text, since the links inside have shorter texts. -/
theorem setLinkTextOr_eq (other : Other) (context : Context) {t : Text} (ht : OneLine t) :
    setLinkTextOr other context t = setLinkText context t := by
  induction hlength : t.length using Nat.strongRecOn generalizing t with
  | ind length ih =>
    have henv : Env.Agrees
        ⟨context, fun u => if _h : u.length < t.length then setLinkTextOr other context u
          else return []⟩
        ⟨context, fun u => if _h : u.length < t.length then setLinkText context u
          else return []⟩ := by
      refine ⟨rfl, fun u hu => ?_⟩
      simp only
      split
      · next hshorter => exact ih _ (hlength ▸ hshorter) hu rfl
      · rfl
    have hnodes := setNodesOr_of_fitsIn other henv (parseInline_fitsIn ht) .plain
    rw [setLinkTextOr, setLinkText]
    simp only [hnodes]

theorem agrees_env (other : Other) (context : Context) :
    Env.Agrees ⟨context, setLinkTextOr other context⟩ context.env :=
  ⟨rfl, fun _ ht => setLinkTextOr_eq other context ht⟩

/-- Every page is read as a tree of the node model, down to the leaves: blocks stand among blocks
and spans within lines, no two blank lines meet, headings have one of four levels, code and prose
are not empty, nothing within a line goes over its end, and destinations hold no blank. So the
setting of a page never comes to a node that it has no setting for: whatever were done with one
instead, the page would be set as it is. -/
theorem parse_fitsIn_and_setPageOr_eq (page : Text) :
    SingleBlanks (parse page) ∧ (∀ n ∈ parse page, n.FitsIn .block) ∧
      ∀ other context, setPageOr other context page = setPage context page := by
  obtain ⟨hblanks, hfits⟩ := parse_fitsIn page
  refine ⟨hblanks, hfits, fun other context => ?_⟩
  have hnodes := setNodesOr_of_fitsIn other (agrees_env other context) hfits .full
  rw [setPageOr, setPage, setBlocks]
  simp only [hnodes]

end Bindery.Typeset
