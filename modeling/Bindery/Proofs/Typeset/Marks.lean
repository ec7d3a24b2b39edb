import Bindery.Proofs.Markup.Tree
import Bindery.Proofs.Typeset.Events
import Bindery.Typeset.Node

namespace Bindery.Typeset

open Text Typst Markup

/-- How the constructs within a line are written. -/
structure Marks where
  link : (url body : Text) → Text
  strong : Text → Text
  emph : Text → Text
  figure : (path caption : Text) → Text

/-- The functions of Typst. -/
def Marks.typst : Marks :=
  ⟨Typst.link, Typst.strong, Typst.emph, Typst.figure⟩

/-- A reference around a body that has been set. -/
def referenceBy (marks : Marks) (mode : Mode) (url body : Text) : Except SetError Text := do
  if !mode.links then return body
  match ← (Url.kind url).mapError .url with
  | .inside => return marks.strong body
  | .mail | .outside => return marks.link url body

/-- A picture, or its alternative text where the mode has no figures. -/
def Context.imageBy (marks : Marks) (context : Context) (mode : Mode) (alt src : Text) :
    Except SetError Text := do
  let caption := escape alt
  if !mode.figures then return caption
  if ← (Url.isRemote src).mapError .url then
    let body := orElse caption (escape src)
    return if mode.links then marks.link src body else body
  match context.assets with
  | some assets => return marks.figure (← (assets.resolve src).mapError .outside) caption
  | none => return marks.figure src caption

mutual

/-- The markup of a node. -/
def setNodeBy (marks : Marks) (env : Env) (place : Place) (mode : Mode) :
    Node → Except SetError Text
  | .text t => return escape t
  | .code t => return rawSpan t
  | .link t url => do referenceBy marks mode url (← env.linkText t)
  | .image alt src => env.context.imageBy marks mode alt src
  | .strong children => do
    return emphasized mode marks.strong (join (← setNodesBy marks env .line mode children))
  | .emph children => do
    return emphasized mode marks.emph (join (← setNodesBy marks env .line mode children))
  | .strongEmph children => do
    let body := join (← setNodesBy marks env .line mode children)
    return emphasized mode (fun body => marks.strong (marks.emph body)) body
  | .paragraph children =>
    onlyAmongBlocks place fun _ => return join (← setNodesBy marks env .line mode children)
  | .heading level children =>
    onlyAmongBlocks place fun _ => do
      let body := join (← setNodesBy marks env .line mode children)
      (heading level body).mapError .level
  | .listItem indent ordered children =>
    onlyAmongBlocks place fun _ =>
      return listItem indent ordered (join (← setNodesBy marks env .line mode children))
  | .rule => onlyAmongBlocks place fun _ => return rule
  | .blank => return []
  | .codeBlock language code =>
    onlyAmongBlocks place fun _ => return @rawBlock env.context.lexers language code
  | .table header rows =>
    onlyAmongBlocks place fun _ => do
      let headerTexts ← setCellsBy marks env header.length header
      return tableMarkup headerTexts (← setRowsBy marks env header.length rows)
  | .element name attributes children block => do
    let inner := Place.ofBlock block
    let content (mode : Mode) :=
      return arrange inner children (← setNodesBy marks env inner mode children)
    match Component.named name with
    | .hidden => return []
    | .key => return rawSpan (plainTexts children)
    | .card => return cardMarkup attributes (← content .card)
    | .columns =>
      if (Node.elements "Card".toList children).isEmpty then content .full
      else
        let entry (attributes : Pairs) (body : Text) := do
          let label ← (env.context.resolveLabel (attributes.get "href".toList)).mapError .url
          return cardEntry attributes body label
        return gridMarkup attributes (← setElementsBy marks env "Card".toList .card entry children)
    | .steps =>
      if (Node.elements "Step".toList children).isEmpty then content .full
      else
        let entry (attributes : Pairs) (body : Text) := return stepEntry attributes body
        return stepsMarkup (← setElementsBy marks env "Step".toList .full entry children)
    | .tabs =>
      if (Node.elements "Tab".toList children).isEmpty then content .full
      else
        let entry (attributes : Pairs) (body : Text) := return tabMarkup attributes body
        return joinWith ['\n', '\n'] (← setElementsBy marks env "Tab".toList .full entry children)
    | component => return component.markup name attributes (← content .full)
  | .empty => return []

/-- The markup of each node. -/
def setNodesBy (marks : Marks) (env : Env) (place : Place) (mode : Mode) :
    List Node → Except SetError (List Text)
  | [] => return []
  | node :: rest =>
    return (← setNodeBy marks env place mode node) :: (← setNodesBy marks env place mode rest)

/-- The cells of a row, cut off or filled up with empty ones to the given number. -/
def setCellsBy (marks : Marks) (env : Env) :
    (width : Nat) → List (List Node) → Except SetError (List Text)
  | width, [] => return List.replicate width []
  | 0, _ :: _ => return []
  | width + 1, cell :: rest =>
    return join (← setNodesBy marks env .line .plain cell) :: (← setCellsBy marks env width rest)

/-- The cells of each row. -/
def setRowsBy (marks : Marks) (env : Env) (width : Nat) :
    List (List (List Node)) → Except SetError (List (List Text))
  | [] => return []
  | row :: rest => return (← setCellsBy marks env width row) :: (← setRowsBy marks env width rest)

/-- What each element of the given name contributes, by its attributes and its content. -/
def setElementsBy (marks : Marks) (env : Env) (name : Text) (mode : Mode)
    (entry : Pairs → Text → Except SetError Text) : List Node → Except SetError (List Text)
  | [] => return []
  | .element n attributes children block :: rest => do
    if n == name then
      let inner := Place.ofBlock block
      let text ← entry attributes
        (arrange inner children (← setNodesBy marks env inner mode children))
      return text :: (← setElementsBy marks env name mode entry rest)
    else setElementsBy marks env name mode entry rest
  | _ :: rest => setElementsBy marks env name mode entry rest

end

/-- The markup of the text of a link. -/
def setLinkTextBy (marks : Marks) (context : Context) (s : Text) : Except SetError Text := do
  let inner (t : Text) :=
    if _h : t.length < s.length then setLinkTextBy marks context t else return []
  return join (← setNodesBy marks ⟨context, inner⟩ .line .plain (parseInline s))
termination_by s.length

/-- The markup of inline nodes. -/
def setInlineBy (marks : Marks) (context : Context) (mode : Mode) (nodes : List Node) :
    Except SetError Text := do
  return join (← setNodesBy marks ⟨context, setLinkTextBy marks context⟩ .line mode nodes)

/-- The markup of block nodes. -/
def setBlocksBy (marks : Marks) (context : Context) (mode : Mode) (nodes : List Node) :
    Except SetError Text := do
  let texts ← setNodesBy marks ⟨context, setLinkTextBy marks context⟩ .block mode nodes
  return arrange .block nodes texts

/-- One of the marks. -/
inductive Mark
  | link
  | strong
  | emph
  | figure
  deriving DecidableEq, Repr

/-- The marks that an event writes. A reference within the documentation is strong text, and a
    picture of the web a link. -/
def Event.marks : Event → List Mark
  | .emphasis mode strength =>
    if !mode.emphasis then []
    else
      match strength with
      | .emph => [.emph]
      | .strong => [.strong]
      | .strongEmph => [.strong, .emph]
  | .link mode url =>
    if !mode.links then []
    else
      match Url.kind url with
      | .ok .inside => [.strong]
      | .ok _ => [.link]
      | .error _ => []
  | .image mode src =>
    if !mode.figures then []
    else
      match Url.isRemote src with
      | .ok true => if mode.links then [.link] else []
      | .ok false => [.figure]
      | .error _ => []
  | .within event => event.marks
  | .entry _ => []

/-- The mark is written as in Typst. -/
def Marks.Keeps (marks : Marks) : Mark → Prop
  | .link => marks.link = Typst.link
  | .strong => marks.strong = Typst.strong
  | .emph => marks.emph = Typst.emph
  | .figure => marks.figure = Typst.figure

/-- All the marks of the events are written as in Typst. -/
def Marks.KeepsAll (marks : Marks) (events : List Event) : Prop :=
  ∀ event ∈ events, ∀ mark ∈ event.marks, marks.Keeps mark

variable {marks : Marks} {first rest : List Event}

theorem Marks.keepsAll_append :
    marks.KeepsAll (first ++ rest) ↔ marks.KeepsAll first ∧ marks.KeepsAll rest :=
  List.forall_mem_append

theorem Marks.keepsAll_within : marks.KeepsAll (first.map .within) ↔ marks.KeepsAll first :=
  List.forall_mem_map

theorem Marks.keepsAll_singleton {event : Event} :
    marks.KeepsAll [event] ↔ ∀ mark ∈ event.marks, marks.Keeps mark :=
  List.forall_mem_singleton

theorem referenceBy_eq {mode : Mode} {url : Text}
    (h : ∀ mark ∈ (Event.link mode url).marks, marks.Keeps mark) (body : Text) :
    referenceBy marks mode url body = reference mode url body := by
  rw [referenceBy, reference]
  rw [Event.marks] at h
  cases hlinks : mode.links with
  | false => rfl
  | true =>
    rw [hlinks] at h
    cases hkind : Url.kind url with
    | error cause => rfl
    | ok kind =>
      rw [hkind] at h
      cases kind with
      | inside =>
        have hstrong : marks.strong = Typst.strong := h .strong (List.mem_singleton_self _)
        exact congrArg (fun strong => Except.ok (strong body)) hstrong
      | mail | outside =>
        have hlink : marks.link = Typst.link := h .link (List.mem_singleton_self _)
        exact congrArg (fun link => Except.ok (link url body)) hlink

theorem imageBy_eq {mode : Mode} {src : Text}
    (h : ∀ mark ∈ (Event.image mode src).marks, marks.Keeps mark) (context : Context) (alt : Text) :
    context.imageBy marks mode alt src = context.image mode alt src := by
  rw [Context.imageBy, Context.image]
  rw [Event.marks] at h
  cases hfigures : mode.figures with
  | false => rfl
  | true =>
    rw [hfigures] at h
    cases hremote : Url.isRemote src with
    | error cause => rfl
    | ok remote =>
      rw [hremote] at h
      cases remote with
      | true =>
        cases hlinks : mode.links with
        | false => rfl
        | true =>
          simp only [hlinks, if_true] at h
          have hlink : marks.link = Typst.link := h .link (List.mem_singleton_self _)
          exact congrArg (fun link => Except.ok (link src (orElse (escape alt) (escape src)))) hlink
      | false =>
        have hfigure : marks.figure = Typst.figure := h .figure (List.mem_singleton_self _)
        simp only [hfigure]
        rfl

/-- Emphasis is the same if it is written in the same way wherever the mode has any. -/
theorem emphasized_eq {mode : Mode} {markup markup' : Text → Text}
    (h : mode.emphasis = true → markup' = markup) (body : Text) :
    emphasized mode markup' body = emphasized mode markup body := by
  rw [emphasized, emphasized]
  split
  · next hemphasis => rw [h hemphasis]
  · rfl

variable {ofLink : Text → List Event} {env env' : Env} {place : Place} {mode : Mode}
  {nodes : List Node}

/-- Wherever the node stands, it is set alike if its marks are written as in Typst. -/
def SetsAlikeBy (marks : Marks) (ofLink : Text → List Event) (env env' : Env) (node : Node) :
    Prop :=
  ∀ place mode, marks.KeepsAll (events ofLink place mode node) →
    setNodeBy marks env' place mode node = setNode env place mode node

theorem setNodesBy_eq (h : ∀ n ∈ nodes, SetsAlikeBy marks ofLink env env' n)
    (hkeeps : marks.KeepsAll (eventsOf ofLink place mode nodes)) :
    setNodesBy marks env' place mode nodes = setNodes env place mode nodes := by
  induction nodes with
  | nil => rfl
  | cons node nodes ih =>
    rw [List.forall_mem_cons] at h
    rw [eventsOf, Marks.keepsAll_append] at hkeeps
    rw [setNodesBy, setNodes, h.1 place mode hkeeps.1, ih h.2 hkeeps.2]

theorem setCellsBy_eq {cells : List (List Node)}
    (h : ∀ cell ∈ cells, ∀ n ∈ cell, SetsAlikeBy marks ofLink env env' n) {width : Nat}
    (hkeeps : marks.KeepsAll (cellEvents ofLink width cells)) :
    setCellsBy marks env' width cells = setCells env width cells := by
  induction cells generalizing width with
  | nil => rw [setCellsBy, setCells]
  | cons cell cells ih =>
    rw [List.forall_mem_cons] at h
    cases width with
    | zero => rw [setCellsBy, setCells]
    | succ width =>
      rw [cellEvents, Marks.keepsAll_append] at hkeeps
      rw [setCellsBy, setCells, setNodesBy_eq h.1 hkeeps.1, ih h.2 hkeeps.2]

theorem setRowsBy_eq {rows : List (List (List Node))}
    (h : ∀ row ∈ rows, ∀ cell ∈ row, ∀ n ∈ cell, SetsAlikeBy marks ofLink env env' n) {width : Nat}
    (hkeeps : marks.KeepsAll (rowEvents ofLink width rows)) :
    setRowsBy marks env' width rows = setRows env width rows := by
  induction rows with
  | nil => rfl
  | cons row rows ih =>
    rw [List.forall_mem_cons] at h
    rw [rowEvents, Marks.keepsAll_append] at hkeeps
    rw [setRowsBy, setRows, setCellsBy_eq h.1 hkeeps.1, ih h.2 hkeeps.2]

theorem setElementsBy_eq (h : ∀ n ∈ nodes, ∀ c ∈ n.content, SetsAlikeBy marks ofLink env env' c)
    (name : Text) (mode : Mode) (own : Pairs → List Event)
    (entry : Pairs → Text → Except SetError Text)
    (hkeeps : marks.KeepsAll (elementEvents ofLink name mode own nodes)) :
    setElementsBy marks env' name mode entry nodes = setElements env name mode entry nodes := by
  induction nodes with
  | nil => rw [setElementsBy, setElements]
  | cons node nodes ih =>
    rw [List.forall_mem_cons] at h
    cases node with
    | element n attributes children block =>
      rw [setElementsBy, setElements]
      rw [elementEvents] at hkeeps
      split
      · next hname =>
        rw [if_pos hname, Marks.keepsAll_append, Marks.keepsAll_append] at hkeeps
        have hchildren : setNodesBy marks env' (Place.ofBlock block) mode children =
            setNodes env (Place.ofBlock block) mode children :=
          setNodesBy_eq h.1 hkeeps.1.1
        simp only [ih h.2 hkeeps.2, hchildren]
      · next hname =>
        rw [if_neg hname] at hkeeps
        exact ih h.2 hkeeps
    | _ => exact ih h.2 hkeeps

/-- A component that is made of elements is set alike from them, or from all its content when it has
    no such element. -/
theorem entriesBy_eq (h : ∀ n ∈ nodes, SetsAlikeBy marks ofLink env env' n ∧
      ∀ c ∈ n.content, SetsAlikeBy marks ofLink env env' c) {name : Text}
    {own : Pairs → List Event} (entry : Pairs → Text → Except SetError Text)
    (markup : List Text → Text)
    (hkeeps : marks.KeepsAll (if (Node.elements name nodes).isEmpty then
      eventsOf ofLink place .full nodes else elementEvents ofLink name mode own nodes)) :
    (if (Node.elements name nodes).isEmpty then
        setNodesBy marks env' place .full nodes >>= fun texts => pure (arrange place nodes texts)
      else setElementsBy marks env' name mode entry nodes >>= fun entries =>
        pure (markup entries)) =
      if (Node.elements name nodes).isEmpty then
        setNodes env place .full nodes >>= fun texts => pure (arrange place nodes texts)
      else setElements env name mode entry nodes >>= fun entries => pure (markup entries) := by
  split
  · next hempty =>
    rw [if_pos hempty] at hkeeps
    rw [setNodesBy_eq (fun n hn => (h n hn).1) hkeeps]
  · next hempty =>
    rw [if_neg hempty] at hkeeps
    rw [setElementsBy_eq (fun n hn => (h n hn).2) name mode own entry hkeeps]

theorem setNodeBy_element_eq (hcontext : env'.context = env.context) {name : Text}
    {attributes : Pairs} {children : List Node} {block : Bool}
    (h : ∀ n ∈ children, SetsAlikeBy marks ofLink env env' n ∧
      ∀ c ∈ n.content, SetsAlikeBy marks ofLink env env' c) :
    SetsAlikeBy marks ofLink env env' (.element name attributes children block) := by
  intro place mode hkeeps
  have hnodes (mode : Mode)
      (hkeeps : marks.KeepsAll (eventsOf ofLink (Place.ofBlock block) mode children)) :=
    setNodesBy_eq (fun n hn => (h n hn).1) hkeeps
  rw [events, Marks.keepsAll_within] at hkeeps
  rw [setNodeBy, setNode, hcontext]
  simp only at hkeeps ⊢
  cases hnamed : Component.named name with
  | hidden | key => rfl
  | card =>
    rw [hnamed] at hkeeps
    simp only [hnodes .card hkeeps]
  | columns | steps | tabs =>
    rw [hnamed] at hkeeps
    exact entriesBy_eq h _ _ hkeeps
  | callout | box _ | step | accordion | update | content =>
    rw [hnamed] at hkeeps
    simp only [hnodes .full hkeeps]

section

variable {children : List Node} (h : ∀ n ∈ children, SetsAlikeBy marks ofLink env env' n)

include h

theorem setNodeBy_strong_eq : SetsAlikeBy marks ofLink env env' (.strong children) := by
  intro place mode hkeeps
  rw [events, Marks.keepsAll_append, Marks.keepsAll_singleton] at hkeeps
  have hmarkup (hemphasis : mode.emphasis = true) : marks.strong = Typst.strong :=
    hkeeps.2 .strong (by simp [Event.marks, hemphasis])
  rw [setNodeBy, setNode, setNodesBy_eq h hkeeps.1]
  simp only [emphasized_eq hmarkup]

theorem setNodeBy_emph_eq : SetsAlikeBy marks ofLink env env' (.emph children) := by
  intro place mode hkeeps
  rw [events, Marks.keepsAll_append, Marks.keepsAll_singleton] at hkeeps
  have hmarkup (hemphasis : mode.emphasis = true) : marks.emph = Typst.emph :=
    hkeeps.2 .emph (by simp [Event.marks, hemphasis])
  rw [setNodeBy, setNode, setNodesBy_eq h hkeeps.1]
  simp only [emphasized_eq hmarkup]

theorem setNodeBy_strongEmph_eq : SetsAlikeBy marks ofLink env env' (.strongEmph children) := by
  intro place mode hkeeps
  rw [events, Marks.keepsAll_append, Marks.keepsAll_singleton] at hkeeps
  have hmarkup (hemphasis : mode.emphasis = true) :
      (fun body => marks.strong (marks.emph body)) = strongEmph := by
    have hstrong : marks.strong = Typst.strong :=
      hkeeps.2 .strong (by simp [Event.marks, hemphasis])
    have hemph : marks.emph = Typst.emph := hkeeps.2 .emph (by simp [Event.marks, hemphasis])
    rw [hstrong, hemph]
    rfl
  rw [setNodeBy, setNode, setNodesBy_eq h hkeeps.1]
  simp only [emphasized_eq hmarkup]

end

theorem setNodeBy_table_eq {header : List (List Node)} {rows : List (List (List Node))}
    (hheader : ∀ cell ∈ header, ∀ n ∈ cell, SetsAlikeBy marks ofLink env env' n)
    (hrows : ∀ row ∈ rows, ∀ cell ∈ row, ∀ n ∈ cell, SetsAlikeBy marks ofLink env env' n) :
    SetsAlikeBy marks ofLink env env' (.table header rows) := by
  intro place mode hkeeps
  rw [setNodeBy, setNode]
  cases place with
  | line => rfl
  | block =>
    rw [events, amongBlocks, Marks.keepsAll_append] at hkeeps
    rw [setCellsBy_eq hheader hkeeps.1, setRowsBy_eq hrows hkeeps.2]

/-- The two settings go by the same of what pages share, and by the same link texts where their
    marks are written as in Typst. -/
structure Env.AgreesBy (marks : Marks) (ofLink : Text → List Event) (env' env : Env) : Prop where
  context : env'.context = env.context
  linkText : ∀ t, marks.KeepsAll (ofLink t) → env'.linkText t = env.linkText t

/-- Marks that a node does not write make no difference to it. Cards, steps and tabs set the content
    of the elements inside them directly, so that the content is part of what the induction
    carries. -/
theorem setsAlikeBy (henv : env'.AgreesBy marks ofLink env) (node : Node) :
    SetsAlikeBy marks ofLink env env' node ∧
      ∀ c ∈ node.content, SetsAlikeBy marks ofLink env env' c := by
  induction node using Node.induction with
  | step node ih =>
    refine ⟨fun place mode hkeeps => ?_, ?_⟩
    · have hinner (n : Node) (hn : n ∈ node.inner) := (ih n hn).1
      cases node with
      | text t | code t | rule | blank | empty => rfl
      | codeBlock language code => rw [setNodeBy, setNode, henv.context]
      | link t url =>
        rw [events, Marks.keepsAll_append, Marks.keepsAll_singleton] at hkeeps
        rw [setNodeBy, setNode, henv.linkText t hkeeps.1]
        simp only [referenceBy_eq hkeeps.2]
      | image alt src =>
        rw [events, Marks.keepsAll_singleton] at hkeeps
        rw [setNodeBy, setNode, imageBy_eq hkeeps, henv.context]
      | strong children => exact setNodeBy_strong_eq hinner place mode hkeeps
      | emph children => exact setNodeBy_emph_eq hinner place mode hkeeps
      | strongEmph children => exact setNodeBy_strongEmph_eq hinner place mode hkeeps
      | paragraph children | heading level children | listItem indent ordered children =>
        rw [setNodeBy, setNode]
        cases place with
        | line => rfl
        | block =>
          have hchildren : setNodesBy marks env' .line mode children =
              setNodes env .line mode children :=
            setNodesBy_eq hinner hkeeps
          rw [hchildren]
      | table header rows =>
        refine setNodeBy_table_eq (fun cell hcell n hn => hinner n ?_)
          (fun row hrow cell hcell n hn => hinner n ?_) place mode hkeeps
        · exact List.mem_append_left _ (List.mem_flatten.2 ⟨cell, hcell, hn⟩)
        · have hcell := List.mem_flatten.2 ⟨row, hrow, hcell⟩
          exact List.mem_append_right _ (List.mem_flatten.2 ⟨cell, hcell, hn⟩)
      | element name attributes children block =>
        exact setNodeBy_element_eq henv.context ih place mode hkeeps
    · cases node with
      | element name attributes children block => exact fun c hc => (ih c hc).1
      | _ => exact fun c hc => absurd hc List.not_mem_nil

/-- The induction is on the length of the text, since the links inside have shorter texts. -/
theorem setLinkTextBy_eq {context : Context} {s : Text} (h : marks.KeepsAll (linkEvents s)) :
    setLinkTextBy marks context s = setLinkText context s := by
  induction hlength : s.length using Nat.strongRecOn generalizing s with
  | ind length ih =>
    rw [linkEvents] at h
    rw [setLinkTextBy, setLinkText]
    have henv : Env.AgreesBy marks (fun t => if _h : t.length < s.length then linkEvents t else [])
        ⟨context, fun t => if _h : t.length < s.length then setLinkTextBy marks context t
          else return []⟩
        ⟨context, fun t => if _h : t.length < s.length then setLinkText context t
          else return []⟩ := by
      refine ⟨rfl, fun t ht => ?_⟩
      simp only at ht ⊢
      split
      · next hshorter =>
        rw [dif_pos hshorter] at ht
        exact ih t.length (hlength ▸ hshorter) ht rfl
      · rfl
    have hnodes := setNodesBy_eq (fun n _ => (setsAlikeBy henv n).1) h
    simp only [hnodes]

theorem agreesBy_env (marks : Marks) (context : Context) :
    Env.AgreesBy marks linkEvents ⟨context, setLinkTextBy marks context⟩ context.env :=
  ⟨rfl, fun _ h => setLinkTextBy_eq h⟩

/-- Marks that the nodes do not write make no difference to them. -/
theorem setNodesBy_eq_of_keepsAll {context : Context}
    (h : marks.KeepsAll (eventsOf linkEvents place mode nodes)) :
    setNodesBy marks ⟨context, setLinkTextBy marks context⟩ place mode nodes =
      setNodes context.env place mode nodes :=
  setNodesBy_eq (fun n _ => (setsAlikeBy (agreesBy_env marks context) n).1) h

theorem setInlineBy_eq {context : Context}
    (h : marks.KeepsAll (eventsOf linkEvents .line mode nodes)) :
    setInlineBy marks context mode nodes = setInline context mode nodes := by
  rw [setInlineBy, setNodesBy_eq_of_keepsAll h]
  rfl

theorem setBlocksBy_eq {context : Context}
    (h : marks.KeepsAll (eventsOf linkEvents .block mode nodes)) :
    setBlocksBy marks context mode nodes = setBlocks context mode nodes := by
  rw [setBlocksBy, setNodesBy_eq_of_keepsAll h]
  rfl

/-- With the marks of Typst the setting is the one that pages have. -/
theorem setNodesBy_typst (context : Context) (place : Place) (mode : Mode) (nodes : List Node) :
    setNodesBy .typst ⟨context, setLinkTextBy .typst context⟩ place mode nodes =
      setNodes context.env place mode nodes := by
  refine setNodesBy_eq_of_keepsAll fun event _ mark _ => ?_
  cases mark <;> rfl

end Bindery.Typeset
