import Bindery.Proofs.Typeset.Constructs
import Bindery.Proofs.Typeset.Setting

namespace Bindery

open Text Typst Typeset

/-- The raw texts of the node can be told from their delimiters: no code within a line is empty,
    no key is without text, and no label of a language holds a backtick. The same holds of the
    nodes inside, those of a link's text included. -/
inductive Node.Delimited : Node → Prop
  | text (t : Text) : Delimited (.text t)
  | code {t : Text} (ht : t ≠ []) : Delimited (.code t)
  | link {t url : Text} (ht : ∀ n ∈ Markup.parseInline t, Delimited n) : Delimited (.link t url)
  | image (alt src : Text) : Delimited (.image alt src)
  | strong {children : List Node} (h : ∀ n ∈ children, Delimited n) : Delimited (.strong children)
  | emph {children : List Node} (h : ∀ n ∈ children, Delimited n) : Delimited (.emph children)
  | strongEmph {children : List Node} (h : ∀ n ∈ children, Delimited n) :
    Delimited (.strongEmph children)
  | paragraph {children : List Node} (h : ∀ n ∈ children, Delimited n) :
    Delimited (.paragraph children)
  | heading (level : Int) {children : List Node} (h : ∀ n ∈ children, Delimited n) :
    Delimited (.heading level children)
  | listItem (indent : Int) (ordered : Bool) {children : List Node}
    (h : ∀ n ∈ children, Delimited n) : Delimited (.listItem indent ordered children)
  | rule : Delimited .rule
  | blank : Delimited .blank
  | codeBlock {language : Text} (hlanguage : '\x60' ∉ language) (code : Text) :
    Delimited (.codeBlock language code)
  | table {header : List (List Node)} {rows : List (List (List Node))}
    (hheader : ∀ cell ∈ header, ∀ n ∈ cell, Delimited n)
    (hrows : ∀ row ∈ rows, ∀ cell ∈ row, ∀ n ∈ cell, Delimited n) :
    Delimited (.table header rows)
  | element {name : Text} {attributes : Pairs} {children : List Node} {block : Bool}
    (hkey : name = "kbd".toList → plainTexts children ≠ []) (h : ∀ n ∈ children, Delimited n) :
    Delimited (.element name attributes children block)
  | empty : Delimited .empty

namespace Typeset

/-- What the setting of a link's text needs: only links with shorter texts stand in it. -/
def Context.linkEnv (context : Context) (s : Text) : Env :=
  ⟨context, fun t => if _h : t.length < s.length then setLinkText context t else return []⟩

theorem setLinkText_eq (context : Context) (s : Text) : setLinkText context s = do
    return join (← setNodes (context.linkEnv s) .line .plain (Markup.parseInline s)) := by
  rw [setLinkText]
  rfl

/-- Nodes that stand next to each other, with their place, with the mode that they are set in and
    with what their setting needs. -/
structure Group where
  env : Env
  place : Place
  mode : Mode
  nodes : List Node

/-- The line of a link's text. -/
def Context.linkGroup (context : Context) (t : Text) : Group :=
  ⟨context.linkEnv t, .line, .plain, Markup.parseInline t⟩

end Typeset

/-- What stands inside an element, in a mode; nothing for any other node. -/
def Node.contentGroup (env : Env) (mode : Mode) : Node → Group
  | .element _ _ children block => ⟨env, Place.ofBlock block, mode, children⟩
  | _ => ⟨env, .block, mode, []⟩

/-- The groups of nodes that are set as the content of an element. -/
def Typeset.elementGroups (env : Env) (name : Text) (children : List Node) (block : Bool) :
    List Group :=
  match (Component.named name).setsContent children with
  | .nothing => []
  | .whole mode => [⟨env, Place.ofBlock block, mode, children⟩]
  | .parts part mode => (Node.elements part children).map (Node.contentGroup env mode)

/-- The groups of nodes that are set when a node is set in a mode. The text of a link is a line of
    its own. -/
def Node.groups (context : Context) (env : Env) (mode : Mode) : Node → List Group
  | .link t _ => [context.linkGroup t]
  | .strong children | .emph children | .strongEmph children | .paragraph children
  | .heading _ children | .listItem _ _ children => [⟨env, .line, mode, children⟩]
  | .table header rows =>
    (header ++ rows.flatMap (·.take header.length)).map fun cell => ⟨env, .line, .plain, cell⟩
  | .element name _ children block => elementGroups env name children block
  | _ => []

/-- The group is set somewhere inside the node when that is set in the mode. -/
inductive Node.Holds (context : Context) (group : Group) : Env → Mode → Node → Prop
  | here {env : Env} {mode : Mode} {node : Node} (h : group ∈ node.groups context env mode) :
    Holds context group env mode node
  | inside {env : Env} {mode : Mode} {node n : Node} {outer : Group}
    (houter : outer ∈ node.groups context env mode) (hn : n ∈ outer.nodes)
    (h : Holds context group outer.env outer.mode n) : Holds context group env mode node

/-- In each line inside the node, as the line is set when the node is set in the mode, the pieces
    are as the predicate says. -/
def Node.EachLine (P : List Text → Prop) (context : Context) (env : Env) (mode : Mode)
    (node : Node) : Prop :=
  ∀ group : Group, node.Holds context group env mode → group.place = .line →
    ∀ texts, setNodes group.env .line group.mode group.nodes = .ok texts → P texts

/-- The same of a group, which may be a line itself. -/
structure Typeset.Group.EachLine (P : List Text → Prop) (context : Context) (group : Group) :
    Prop where
  line : group.place = .line →
    ∀ texts, setNodes group.env .line group.mode group.nodes = .ok texts → P texts
  nodes : ∀ n ∈ group.nodes, n.EachLine P context group.env group.mode

variable {P : List Text → Prop} {context : Context} {env : Env} {mode : Mode} {node : Node}

theorem Node.EachLine.imp {Q : List Text → Prop} (hPQ : ∀ texts, P texts → Q texts)
    (h : node.EachLine P context env mode) : node.EachLine Q context env mode :=
  fun group hgroup hplace texts htexts => hPQ texts (h group hgroup hplace texts htexts)

theorem Node.eachLine_iff : node.EachLine P context env mode ↔
    ∀ group ∈ node.groups context env mode, group.EachLine P context := by
  constructor
  · intro h group hgroup
    exact ⟨h group (.here hgroup), fun n hn inner hinner => h inner (.inside hgroup hn hinner)⟩
  · intro h group hgroup
    cases hgroup with
    | here hgroup => exact (h group hgroup).line
    | inside houter hn hinside => exact (h _ houter).nodes _ hn group hinside

@[simp]
theorem Node.eachLine_text (t : Text) : (Node.text t).EachLine P context env mode :=
  Node.eachLine_iff.2 fun _ hgroup => nomatch hgroup

/-- The lines of a node with nothing but one line of nodes in it. -/
theorem Node.eachLine_of_groups_eq {group : Group} (h : node.groups context env mode = [group])
    (hgroup : group.EachLine P context) : node.EachLine P context env mode := by
  refine Node.eachLine_iff.2 fun group' hmem => ?_
  rw [h, List.mem_singleton] at hmem
  exact hmem ▸ hgroup

namespace Typeset

variable {w : Watch}

theorem name_of_key {name : Text} (h : Component.named name = .key) : name = "kbd".toList :=
  name_of_named h (by decide) (by decide)

theorem quietList_setCardEntry (attributes : Pairs) {body out : Text} (hbody : Quiet w body)
    (h : setCardEntry env attributes body = .ok out) : QuietList w out := by
  obtain ⟨label, -, h⟩ := bind_eq_ok_iff.1 h
  exact pure_eq_ok_iff.1 h ▸ quietList_cardEntry attributes hbody label

/-- Wherever the node stands, what it is set as in the mode is read to its end. -/
def SetsQuiet (w : Watch) (env : Env) (mode : Mode) (node : Node) : Prop :=
  ∀ place out, setNode env place mode node = .ok out → Quiet w out

theorem quiet_setNodes {nodes : List Node} (hnodes : ∀ n ∈ nodes, SetsQuiet w env mode n)
    {place : Place} {texts : List Text} (h : setNodes env place mode nodes = .ok texts) :
    ∀ t ∈ texts, Quiet w t := by
  intro t ht
  obtain ⟨node, hnode, hset⟩ := exists_of_mem_setNodes h ht
  exact hnodes node hnode place t hset

/-- The nodes of a group are set as markup that is read to its end, and so are they together. -/
structure Group.SetsQuiet (w : Watch) (group : Group) : Prop where
  nodes : ∀ n ∈ group.nodes, Typeset.SetsQuiet w group.env group.mode n
  seamless : group.place = .line →
    ∀ texts, setNodes group.env .line group.mode group.nodes = .ok texts → w.Seamless texts

theorem Group.SetsQuiet.arrange {place : Place} {nodes : List Node}
    (h : Group.SetsQuiet w ⟨env, place, mode, nodes⟩) {texts : List Text}
    (htexts : setNodes env place mode nodes = .ok texts) : Quiet w (arrange place nodes texts) := by
  refine quiet_arrange nodes (quiet_setNodes h.nodes htexts) fun hplace => ?_
  subst hplace
  exact h.seamless rfl texts htexts

theorem Group.SetsQuiet.join {nodes : List Node} (h : Group.SetsQuiet w ⟨env, .line, mode, nodes⟩)
    {texts : List Text} (htexts : setNodes env .line mode nodes = .ok texts) :
    Quiet w (join texts) :=
  h.arrange htexts

theorem quiet_setCells {width : Nat} {cells : List (List Node)}
    (hcells : ∀ cell ∈ cells.take width, Group.SetsQuiet w ⟨env, .line, .plain, cell⟩)
    {texts : List Text} (h : setCells env width cells = .ok texts) : ∀ t ∈ texts, Quiet w t := by
  intro t ht
  rcases exists_of_mem_setCells h ht with rfl | ⟨cell, hcell, texts, htexts, rfl⟩
  · exact quiet_nil w
  · exact (hcells cell hcell).join htexts

theorem forall_setElements {nodes : List Node} {name : Text}
    (hparts : ∀ group ∈ (Node.elements name nodes).map (Node.contentGroup env mode),
      group.SetsQuiet w)
    {entry : Pairs → Text → Except SetError Text} {P : Text → Prop}
    (hentry : ∀ attributes body out, Quiet w body → entry attributes body = .ok out → P out)
    {texts : List Text} (h : setElements env name mode entry nodes = .ok texts) :
    ∀ t ∈ texts, P t := by
  intro t ht
  obtain ⟨attributes, children, block, bodies, hmem, hbodies, hout⟩ :=
    exists_of_mem_setElements h ht
  have hpart : Group.SetsQuiet w ⟨env, Place.ofBlock block, mode, children⟩ :=
    hparts _ (List.mem_map.2 ⟨_, element_mem_elements hmem, rfl⟩)
  exact hentry attributes _ t (hpart.arrange hbodies) hout

theorem quiet_setElement {name : Text} {attributes : Pairs} {children : List Node} {block : Bool}
    (hkey : name = "kbd".toList → plainTexts children ≠ [])
    (hgroups : ∀ group ∈ elementGroups env name children block, group.SetsQuiet w) {out : Text}
    (h : SetElement env name attributes children block out) : Quiet w out := by
  rw [elementGroups] at hgroups
  cases h with
  | hidden => exact quiet_nil w
  | key hname => exact quiet_rawSpan w (hkey (name_of_key hname))
  | card hname htexts =>
    rw [hname] at hgroups
    exact quiet_titledCall (by decide) _ ((hgroups _ (List.mem_singleton_self _)).arrange htexts)
  | grid _ hcontent hentries =>
    rw [hcontent] at hgroups
    refine quiet_gridMarkup attributes (forall_setElements hgroups ?_ hentries)
    intro a body out hbody h
    exact quietList_setCardEntry a hbody h
  | steps _ hcontent hentries =>
    rw [hcontent] at hgroups
    refine quiet_stepsMarkup (forall_setElements hgroups ?_ hentries)
    intro a body out hbody h
    cases h
    exact quietList_stepEntry a hbody
  | tabs _ hcontent hentries =>
    rw [hcontent] at hgroups
    refine quiet_joinWith (by decide) (forall_setElements hgroups ?_ hentries)
    intro a body out hbody h
    cases h
    exact quiet_tabMarkup a hbody
  | content hcontent htexts =>
    rw [hcontent] at hgroups
    exact quiet_markup rfl attributes ((hgroups _ (List.mem_singleton_self _)).arrange htexts)

/-- Link texts whose nodes are delimited, and whose lines are seamless, are set as markup that is
    read to its end. -/
def Env.QuietLinks (w : Watch) (context : Context) (env : Env) : Prop :=
  ∀ t out, (∀ n ∈ Markup.parseInline t, n.Delimited) →
    (context.linkGroup t).EachLine w.Seamless context → env.linkText t = .ok out → Quiet w out

theorem Group.setsQuiet_of_eachLine {group : Group} (hlines : group.EachLine w.Seamless context)
    (h : ∀ n ∈ group.nodes, ∀ mode, n.EachLine w.Seamless context group.env mode →
      Typeset.SetsQuiet w group.env mode n) : group.SetsQuiet w :=
  ⟨fun n hn => h n hn _ (hlines.nodes n hn), hlines.line⟩

theorem setsQuiet_text (t : Text) : SetsQuiet w env mode (.text t) := by
  intro place out h
  rw [setNode, pure_eq_ok_iff] at h
  exact h ▸ quiet_escape w t

theorem setsQuiet_code {t : Text} (ht : t ≠ []) : SetsQuiet w env mode (.code t) := by
  intro place out h
  rw [setNode, pure_eq_ok_iff] at h
  exact h ▸ quiet_rawSpan w ht

theorem setsQuiet_link (henv : env.QuietLinks w context) {t url : Text}
    (ht : ∀ n ∈ Markup.parseInline t, n.Delimited)
    (hlines : (context.linkGroup t).EachLine w.Seamless context) :
    SetsQuiet w env mode (.link t url) := by
  intro place out h
  obtain ⟨body, hbody, h⟩ := setNode_link_eq_ok_iff.1 h
  have hquiet := henv t body ht hlines hbody
  rcases reference_eq_ok h with rfl | rfl | rfl
  · exact hquiet
  · exact quiet_strong hquiet
  · exact quiet_link url hquiet

theorem setsQuiet_image (alt src : Text) : SetsQuiet w env mode (.image alt src) := by
  intro place out h
  have hbody : Quiet w (orElse (escape alt) (escape src)) := by
    rw [orElse]
    split
    · exact quiet_escape w src
    · exact quiet_escape w alt
  rw [setNode] at h
  rcases image_eq_ok h with rfl | rfl | rfl | ⟨path, rfl⟩
  · exact quiet_escape w alt
  · exact hbody
  · exact quiet_link src hbody
  · exact quiet_figure path (quiet_escape w alt)

variable {children : List Node}

theorem Group.SetsQuiet.strong (h : Group.SetsQuiet w ⟨env, .line, mode, children⟩) :
    Typeset.SetsQuiet w env mode (.strong children) := by
  intro place out hset
  obtain ⟨texts, htexts, rfl⟩ := setNode_strong_eq_ok_iff.1 hset
  have hbody := h.join htexts
  exact quiet_emphasized (quiet_strong hbody) hbody

theorem Group.SetsQuiet.emph (h : Group.SetsQuiet w ⟨env, .line, mode, children⟩) :
    Typeset.SetsQuiet w env mode (.emph children) := by
  intro place out hset
  obtain ⟨texts, htexts, rfl⟩ := setNode_emph_eq_ok_iff.1 hset
  have hbody := h.join htexts
  exact quiet_emphasized (quiet_emph hbody) hbody

theorem Group.SetsQuiet.strongEmph (h : Group.SetsQuiet w ⟨env, .line, mode, children⟩) :
    Typeset.SetsQuiet w env mode (.strongEmph children) := by
  intro place out hset
  obtain ⟨texts, htexts, rfl⟩ := setNode_strongEmph_eq_ok_iff.1 hset
  have hbody := h.join htexts
  exact quiet_emphasized (quiet_strong (quiet_emph hbody)) hbody

theorem Group.SetsQuiet.paragraph (h : Group.SetsQuiet w ⟨env, .line, mode, children⟩) :
    Typeset.SetsQuiet w env mode (.paragraph children) := by
  intro place out hset
  rcases setNode_paragraph_eq_ok hset with rfl | ⟨texts, htexts, rfl⟩
  · exact quiet_nil w
  · exact h.join htexts

theorem Group.SetsQuiet.heading (h : Group.SetsQuiet w ⟨env, .line, mode, children⟩)
    (level : Int) : Typeset.SetsQuiet w env mode (.heading level children) := by
  intro place out hset
  rcases setNode_heading_eq_ok hset with rfl | ⟨texts, htexts, hheading⟩
  · exact quiet_nil w
  · exact quiet_heading (h.join htexts) hheading

theorem Group.SetsQuiet.listItem (h : Group.SetsQuiet w ⟨env, .line, mode, children⟩)
    (indent : Int) (ordered : Bool) :
    Typeset.SetsQuiet w env mode (.listItem indent ordered children) := by
  intro place out hset
  rcases setNode_listItem_eq_ok hset with rfl | ⟨texts, htexts, rfl⟩
  · exact quiet_nil w
  · exact quiet_listItem indent ordered (h.join htexts)

theorem setsQuiet_rule : SetsQuiet w env mode .rule := by
  intro place out h
  rw [setNode] at h
  rcases onlyAmongBlocks_eq_ok h with h | rfl
  · exact pure_eq_ok_iff.1 h ▸ quiet_rule
  · exact quiet_nil w

theorem setsQuiet_codeBlock (hlexers : env.context.lexers.Plain) {language : Text}
    (hlanguage : '\x60' ∉ language) (code : Text) :
    SetsQuiet w env mode (.codeBlock language code) := by
  intro place out h
  rw [setNode] at h
  rcases onlyAmongBlocks_eq_ok h with h | rfl
  · rw [← pure_eq_ok_iff.1 h]
    exact quiet_rawBlock w hlexers hlanguage code
  · exact quiet_nil w

theorem setsQuiet_table {header : List (List Node)} {rows : List (List (List Node))}
    (hcells : ∀ cell ∈ header ++ rows.flatMap (·.take header.length),
      Group.SetsQuiet w ⟨env, .line, .plain, cell⟩) :
    SetsQuiet w env mode (.table header rows) := by
  intro place out h
  rcases setNode_table_eq_ok h with rfl | ⟨headerTexts, rowTexts, hheader, hrows, rfl⟩
  · exact quiet_nil w
  · refine quiet_tableMarkup (quiet_setCells (fun cell hcell => ?_) hheader) ?_
    · exact hcells cell (List.mem_append_left _ (List.mem_of_mem_take hcell))
    · intro texts htexts
      obtain ⟨row, hrow, hset⟩ := exists_of_mem_setRows hrows htexts
      refine quiet_setCells (fun cell hcell => hcells cell (List.mem_append_right _ ?_)) hset
      exact List.mem_flatMap.2 ⟨row, hrow, hcell⟩

theorem setsQuiet_of_nothing (h : ∀ place, setNode env place mode node = .ok []) :
    SetsQuiet w env mode node := by
  intro place out hset
  cases (h place).symm.trans hset
  exact quiet_nil w

/-- What stands inside the node, if it is an element, is set as markup that is read to its end. -/
def ContentQuiet (w : Watch) (context : Context) (env : Env) (node : Node) : Prop :=
  ∀ mode, (node.contentGroup env mode).EachLine w.Seamless context →
    (node.contentGroup env mode).SetsQuiet w

theorem contentQuiet_of_nothing
    (h : ∀ mode, node.contentGroup env mode = ⟨env, .block, mode, []⟩) :
    ContentQuiet w context env node := by
  intro mode _
  rw [h]
  exact ⟨List.forall_mem_nil _, fun hplace => nomatch hplace⟩

/-- Delimited nodes with seamless lines are set as markup that is read to its end. Cards, steps and
    tabs set the content of the elements inside them directly, so that the content is part of what
    the induction carries. -/
theorem setsQuiet_of_delimited (henv : env.QuietLinks w context)
    (hlexers : env.context.lexers.Plain) (hnode : node.Delimited) :
    (∀ mode, node.EachLine w.Seamless context env mode → SetsQuiet w env mode node) ∧
      ContentQuiet w context env node := by
  have hline {node : Node} {mode : Mode} {nodes : List Node}
      (hgroups : node.groups context env mode = [⟨env, .line, mode, nodes⟩])
      (hlines : node.EachLine w.Seamless context env mode)
      (ih : ∀ n ∈ nodes, (∀ mode, n.EachLine w.Seamless context env mode →
        SetsQuiet w env mode n) ∧ ContentQuiet w context env n) :
      Group.SetsQuiet w ⟨env, .line, mode, nodes⟩ :=
    Group.setsQuiet_of_eachLine
      (Node.eachLine_iff.1 hlines _ (hgroups ▸ List.mem_singleton_self _)) fun n hn => (ih n hn).1
  induction hnode with
  | text t => exact ⟨fun _ _ => setsQuiet_text t, contentQuiet_of_nothing fun _ => rfl⟩
  | code ht => exact ⟨fun _ _ => setsQuiet_code ht, contentQuiet_of_nothing fun _ => rfl⟩
  | link ht _ =>
    refine ⟨fun mode hlines => setsQuiet_link henv ht ?_, contentQuiet_of_nothing fun _ => rfl⟩
    exact Node.eachLine_iff.1 hlines _ (List.mem_singleton_self _)
  | image alt src =>
    exact ⟨fun _ _ => setsQuiet_image alt src, contentQuiet_of_nothing fun _ => rfl⟩
  | strong _ ih =>
    exact ⟨fun _ hlines => (hline rfl hlines ih).strong, contentQuiet_of_nothing fun _ => rfl⟩
  | emph _ ih =>
    exact ⟨fun _ hlines => (hline rfl hlines ih).emph, contentQuiet_of_nothing fun _ => rfl⟩
  | strongEmph _ ih =>
    exact ⟨fun _ hlines => (hline rfl hlines ih).strongEmph, contentQuiet_of_nothing fun _ => rfl⟩
  | paragraph _ ih =>
    exact ⟨fun _ hlines => (hline rfl hlines ih).paragraph, contentQuiet_of_nothing fun _ => rfl⟩
  | heading level _ ih =>
    exact ⟨fun _ hlines => (hline rfl hlines ih).heading level,
      contentQuiet_of_nothing fun _ => rfl⟩
  | listItem indent ordered _ ih =>
    exact ⟨fun _ hlines => (hline rfl hlines ih).listItem indent ordered,
      contentQuiet_of_nothing fun _ => rfl⟩
  | rule => exact ⟨fun _ _ => setsQuiet_rule, contentQuiet_of_nothing fun _ => rfl⟩
  | blank =>
    exact ⟨fun _ _ => setsQuiet_of_nothing fun _ => by rw [setNode]; rfl,
      contentQuiet_of_nothing fun _ => rfl⟩
  | codeBlock hlanguage code =>
    exact ⟨fun _ _ => setsQuiet_codeBlock hlexers hlanguage code,
      contentQuiet_of_nothing fun _ => rfl⟩
  | @table header rows _ _ ihheader ihrows =>
    refine ⟨fun mode hlines => setsQuiet_table fun cell hcell => ?_,
      contentQuiet_of_nothing fun _ => rfl⟩
    refine Group.setsQuiet_of_eachLine
      (Node.eachLine_iff.1 hlines _ (List.mem_map.2 ⟨cell, hcell, rfl⟩)) fun n hn => ?_
    rcases List.mem_append.1 hcell with hcell | hcell
    · exact (ihheader cell hcell n hn).1
    · obtain ⟨row, hrow, hcell⟩ := List.mem_flatMap.1 hcell
      exact (ihrows row hrow cell (List.mem_of_mem_take hcell) n hn).1
  | @element name attributes children block hkey _ ih =>
    have hcontent : ContentQuiet w context env (.element name attributes children block) :=
      fun mode hlines => Group.setsQuiet_of_eachLine hlines fun n hn => (ih n hn).1
    refine ⟨fun mode hlines place out h => ?_, hcontent⟩
    refine quiet_setElement hkey (fun group hgroup => ?_) (setNode_element_eq_ok h)
    have hgroupLines := Node.eachLine_iff.1 hlines group hgroup
    rw [elementGroups] at hgroup
    split at hgroup
    · cases hgroup
    · obtain rfl := List.mem_singleton.1 hgroup
      exact hcontent _ hgroupLines
    · obtain ⟨part, hpart, rfl⟩ := List.mem_map.1 hgroup
      exact (ih part (List.mem_of_mem_filter hpart)).2 _ hgroupLines
  | empty =>
    exact ⟨fun _ _ => setsQuiet_of_nothing fun _ => by rw [setNode]; rfl,
      contentQuiet_of_nothing fun _ => rfl⟩

/-- The text of a link is set as markup that is read to its end. The induction is on its length,
    since the links inside are set as shorter texts. -/
theorem quiet_setLinkText (hlexers : context.lexers.Plain) {t out : Text}
    (ht : ∀ n ∈ Markup.parseInline t, n.Delimited)
    (hlines : (context.linkGroup t).EachLine w.Seamless context)
    (h : setLinkText context t = .ok out) : Quiet w out := by
  induction hlength : t.length using Nat.strongRecOn generalizing t out with
  | ind length ih =>
    rw [setLinkText_eq] at h
    obtain ⟨texts, htexts, h⟩ := bind_eq_ok_iff.1 h
    rw [← pure_eq_ok_iff.1 h]
    have hlinks : (context.linkEnv t).QuietLinks w context := by
      intro inner body hinner hlines hbody
      rw [Context.linkEnv] at hbody
      simp only at hbody
      split at hbody
      · next hshorter => exact ih inner.length (hlength ▸ hshorter) hinner hlines hbody rfl
      · -- A text that is not shorter stands nowhere inside, and would be set as nothing.
        exact pure_eq_ok_iff.1 hbody ▸ quiet_nil w
    have hgroup : (context.linkGroup t).SetsQuiet w :=
      Group.setsQuiet_of_eachLine hlines fun n hn =>
        (setsQuiet_of_delimited hlinks hlexers (ht n hn)).1
    exact hgroup.join htexts

theorem quietLinks_env (w : Watch) {context : Context} (hlexers : context.lexers.Plain) :
    context.env.QuietLinks w context :=
  fun _ _ ht hlines h => quiet_setLinkText hlexers ht hlines h

end Typeset

end Bindery
