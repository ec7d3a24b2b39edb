import Bindery.Proofs.Markup.FittingPage
import Bindery.Proofs.Markup.Tree
import Bindery.Proofs.Packages.Lexers
import Bindery.Proofs.Typeset.Spacing
import Bindery.Proofs.Typeset.WellNested

namespace Bindery

open Packages Text Typst Typeset

namespace Typeset

variable {env : Env} {node : Node} {nodes children : List Node} {place : Place}

/-- The nodes inside a node whose markup stands in the markup of the node outside of brackets. The
    content of a tab is put directly below the title of the tab. -/
def openInside : Node → List Node
  | .paragraph children | .heading _ children | .listItem _ _ children => children
  | .element name _ children _ =>
    match Component.named name with
    | .columns => if (Node.elements "Card".toList children).isEmpty then children else []
    | .steps => if (Node.elements "Step".toList children).isEmpty then children else []
    | .tabs =>
      if (Node.elements "Tab".toList children).isEmpty then children
      else (Node.elements "Tab".toList children).flatMap Node.content
    | .step | .accordion | .update | .content => children
    | _ => []
  | _ => []

/-- Whether the markup of what stands inside the node is put into brackets. -/
def isBracketed : Node → Bool
  | .link _ _ | .strong _ | .emph _ | .strongEmph _ | .table _ _ => true
  | .element name _ children _ =>
    match (Component.named name).setsContent children with
    | .nothing => false
    | .whole _ => !(Component.named name).opensBody
    | .parts _ _ => Component.named name != .tabs
  | _ => false

/-- The raw text of the node itself can be told from its delimiters. -/
def OwnDelimited : Node → Prop
  | .code t => t ≠ []
  | .codeBlock language _ => '\x60' ∉ language
  | .element name _ children _ => name = "kbd".toList → plainTexts children ≠ []
  | _ => True

/-- The group is set as markup that is read to its end with nothing left open. -/
def Group.SetsNested (group : Group) : Prop :=
  ∀ texts, setNodes group.env group.place group.mode group.nodes = .ok texts →
    Nested (arrange group.place group.nodes texts)

/-- Tabs with something to show between any two of their breaks, if there are several, and with
    bodies that can stand below their titles. -/
structure SpacedTabs (env : Env) (children : List Node) : Prop where
  entries : ∀ entries, setElements env "Tab".toList .full
    (fun attributes body => .ok (tabMarkup attributes body)) children = .ok entries →
      entries.length ≤ 1 ∨ ∀ t ∈ entries, allBlank t = false
  bodies : ∀ attributes nodes block texts, .element "Tab".toList attributes nodes block ∈ children →
    setNodes env (Place.ofBlock block) .full nodes = .ok texts →
      StandsBelow (attributes.get "title".toList) (arrange (Place.ofBlock block) nodes texts)

/-- What the node asks of the nodes inside it, so that no break of its own stands beside a blank
    line. -/
def SpacedAt (env : Env) : Node → Prop
  | .element name attributes children block =>
    (Component.named name = .tabs → SpacedTabs env children) ∧
      ∀ texts, setNodes env (Place.ofBlock block) .full children = .ok texts →
        (Component.named name).Spaced attributes (arrange (Place.ofBlock block) children texts)
  | _ => True

end Typeset

/-- Outside of brackets the raw texts of the node can be told from their delimiters, and what is put
    into brackets is read to their end. -/
inductive Node.DelimitedOutside (context : Context) : Node → Prop
  | step {node : Node} (own : OwnDelimited node)
    (brackets : isBracketed node = true →
      ∀ group ∈ node.groups context context.env .full, group.SetsNested)
    (inside : ∀ n ∈ openInside node, DelimitedOutside context n) : DelimitedOutside context node

/-- No break of the node, nor of a node that is set outside of brackets inside it, stands beside a
    blank line. -/
inductive Node.Spaced (env : Env) : Node → Prop
  | step {node : Node} (here : SpacedAt env node) (inside : ∀ n ∈ openInside node, Spaced env n) :
    Spaced env node

namespace Typeset

variable {env : Env} {node : Node} {nodes children : List Node} {place : Place}

/-- Wherever the node stands, what it is set as in full is tidy. -/
def SetsTidy (env : Env) (node : Node) : Prop :=
  ∀ place out, setNode env place .full node = .ok out → Tidy out

theorem tidy_setNodes (hnodes : ∀ n ∈ nodes, SetsTidy env n) {texts : List Text}
    (h : setNodes env place .full nodes = .ok texts) : ∀ t ∈ texts, Tidy t := by
  intro t ht
  obtain ⟨node, hnode, hset⟩ := exists_of_mem_setNodes h ht
  exact hnodes node hnode place t hset

theorem tidy_join_setNodes (hnodes : ∀ n ∈ nodes, SetsTidy env n) {texts : List Text}
    (h : setNodes env place .full nodes = .ok texts) : Tidy (join texts) :=
  tidy_join (tidy_setNodes hnodes h)

/-- The entries of a component are made of bodies that are well nested. -/
theorem exists_nested_of_mem_setElements {name : Text} {mode : Mode}
    {entry : Pairs → Text → Except SetError Text} {entries : List Text} {t : Text}
    (hparts : ∀ group ∈ (Node.elements name nodes).map (Node.contentGroup env mode),
      group.SetsNested)
    (h : setElements env name mode entry nodes = .ok entries) (ht : t ∈ entries) :
    ∃ attributes body, Nested body ∧ entry attributes body = .ok t := by
  obtain ⟨attributes, children, block, texts, hmem, hset, hentry⟩ := exists_of_mem_setElements h ht
  have hpart := hparts _ (List.mem_map.2 ⟨_, element_mem_elements hmem, rfl⟩)
  exact ⟨attributes, _, hpart texts hset, hentry⟩

theorem newline_not_mem_plainTexts (h : ∀ n ∈ nodes, '\n' ∉ plainText n) :
    '\n' ∉ plainTexts nodes := by
  induction nodes with
  | nil => exact List.not_mem_nil
  | cons node nodes ih =>
    rw [List.forall_mem_cons] at h
    rw [plainTexts, List.mem_append, not_or]
    exact ⟨h.1, ih h.2⟩

theorem newline_not_mem_plainText (h : node.FitsIn .line) : '\n' ∉ plainText node := by
  induction node using Node.induction with
  | step node ih =>
    cases h with
    | text _ hline | code _ hline | link hline | image hline => exact hline.1
    | strong h | emph h | strongEmph h | inner attributes hname h =>
      exact newline_not_mem_plainTexts fun n hn => ih n hn (h n hn)

theorem newline_not_mem_of_isDestination {s : Text} (hs : IsDestination s) : '\n' ∉ s :=
  fun hmem => absurd (hs.2 _ hmem).1 (by decide)

theorem setsTidy_text {t : Text} (ht : '\n' ∉ t) : SetsTidy env (.text t) := by
  intro place out h
  rw [setNode, pure_eq_ok_iff] at h
  exact h ▸ tidy_escape ht

theorem setsTidy_code {t : Text} (hne : t ≠ []) (ht : '\n' ∉ t) : SetsTidy env (.code t) := by
  intro place out h
  rw [setNode, pure_eq_ok_iff] at h
  exact h ▸ tidy_rawSpan hne ht

theorem setsTidy_link {context : Context} {t url : Text}
    (hgroup : (context.linkGroup t).SetsNested) : SetsTidy context.env (.link t url) := by
  intro place out h
  obtain ⟨body, hbody, h⟩ := setNode_link_eq_ok_iff.1 h
  have hnested : Nested body := by
    rw [show context.env.linkText t = setLinkText context t from rfl, setLinkText_eq] at hbody
    obtain ⟨texts, htexts, hbody⟩ := bind_eq_ok_iff.1 hbody
    exact pure_eq_ok_iff.1 hbody ▸ hgroup texts htexts
  rw [reference, if_neg (by decide)] at h
  obtain ⟨kind, -, h⟩ := bind_eq_ok_iff.1 h
  cases kind with
  | inside => exact pure_eq_ok_iff.1 h ▸ tidy_strong hnested
  | mail | outside => exact pure_eq_ok_iff.1 h ▸ tidy_link url hnested

theorem setsTidy_image {alt src : Text} (halt : '\n' ∉ alt) (hsrc : '\n' ∉ src) :
    SetsTidy env (.image alt src) := by
  intro place out h
  have hbody : Tidy (orElse (escape alt) (escape src)) := by
    rw [orElse]
    split
    · exact tidy_escape hsrc
    · exact tidy_escape halt
  rw [setNode] at h
  rcases image_eq_ok h with rfl | rfl | rfl | ⟨path, rfl⟩
  · exact tidy_escape halt
  · exact hbody
  · exact tidy_link src hbody.nested
  · exact tidy_figure path (tidy_escape halt).nested

section Elements

variable {name : Text} {attributes : Pairs} {block : Bool} {out : Text}

theorem tidy_grid {entries : List Text}
    (hparts : ∀ group ∈ (Node.elements "Card".toList children).map (Node.contentGroup env .card),
      group.SetsNested)
    (h : setElements env "Card".toList .card (setCardEntry env) children = .ok entries) :
    Tidy (gridMarkup attributes entries) := by
  have hentry (t : Text) (ht : t ∈ entries) :
      ∃ attributes body label, Nested body ∧ cardEntry attributes body label = t := by
    obtain ⟨attributes, body, hbody, hset⟩ := exists_nested_of_mem_setElements hparts h ht
    obtain ⟨label, -, hset⟩ := bind_eq_ok_iff.1 hset
    exact ⟨attributes, body, label, hbody, pure_eq_ok_iff.1 hset⟩
  refine tidy_gridMarkup attributes (fun t ht => ?_) fun t ht => ?_
  · obtain ⟨attributes, body, label, hbody, rfl⟩ := hentry t ht
    exact quietList_cardEntry attributes (nested_iff_quiet.1 hbody) label
  · obtain ⟨attributes, body, label, hbody, rfl⟩ := hentry t ht
    exact lays_cardEntry attributes hbody label

theorem tidy_steps {entries : List Text}
    (hparts : ∀ group ∈ (Node.elements "Step".toList children).map (Node.contentGroup env .full),
      group.SetsNested)
    (h : setElements env "Step".toList .full
      (fun attributes body => .ok (stepEntry attributes body)) children = .ok entries) :
    Tidy (stepsMarkup entries) := by
  have hentry (t : Text) (ht : t ∈ entries) :
      ∃ attributes body, Nested body ∧ stepEntry attributes body = t := by
    obtain ⟨attributes, body, hbody, hset⟩ := exists_nested_of_mem_setElements hparts h ht
    exact ⟨attributes, body, hbody, pure_eq_ok_iff.1 hset⟩
  refine tidy_stepsMarkup (fun t ht => ?_) fun t ht => ?_
  · obtain ⟨attributes, body, hbody, rfl⟩ := hentry t ht
    exact quietList_stepEntry attributes (nested_iff_quiet.1 hbody)
  · obtain ⟨attributes, body, hbody, rfl⟩ := hentry t ht
    exact lays_stepEntry attributes hbody

theorem tidy_tabs (htabs : SpacedTabs env children)
    (hinside : ∀ n ∈ (Node.elements "Tab".toList children).flatMap Node.content, SetsTidy env n)
    {entries : List Text}
    (h : setElements env "Tab".toList .full
      (fun attributes body => .ok (tabMarkup attributes body)) children = .ok entries) :
    Tidy (joinWith ['\n', '\n'] entries) := by
  refine tidy_joinWith (.inr rfl) (fun t ht => ?_) (htabs.entries entries h)
  obtain ⟨attributes, nodes, block, texts, hmem, htexts, hset⟩ := exists_of_mem_setElements h ht
  have hnodes (n : Node) (hn : n ∈ nodes) : SetsTidy env n :=
    hinside n (List.mem_flatMap.2 ⟨_, element_mem_elements hmem, hn⟩)
  rw [← pure_eq_ok_iff.1 hset]
  exact tidy_tabMarkup attributes (tidy_arrange _ _ (tidy_setNodes hnodes htexts))
    (htabs.bodies attributes nodes block texts hmem htexts)

/-- Content that is set as it stands, and not in brackets, is set outside of them. -/
theorem openInside_of_whole {mode : Mode}
    (hcontent : (Component.named name).setsContent children = .whole mode)
    (hopen : (Component.named name).opensBody = true) :
    openInside (.element name attributes children block) = children := by
  rw [openInside]
  cases hnamed : Component.named name with
  | columns | steps | tabs =>
    rw [hnamed, Component.setsContent, Component.setsContent.partsOrWhole] at hcontent
    split at hcontent
    · next hnone => exact if_pos hnone
    · cases hcontent
  | step | accordion | update | content => rfl
  | callout | box _ | card | key | hidden =>
    rw [hnamed] at hopen
    cases hopen

theorem openInside_of_tabs (hname : Component.named name = .tabs)
    (hcontent : (Component.named name).setsContent children = .parts "Tab".toList .full) :
    openInside (.element name attributes children block) =
      (Node.elements "Tab".toList children).flatMap Node.content := by
  rw [hname, Component.setsContent, Component.setsContent.partsOrWhole] at hcontent
  rw [openInside, hname]
  split at hcontent
  · cases hcontent
  · next hsome => exact if_neg hsome

theorem setsTidy_element
    (hkey : name = "kbd".toList → plainTexts children ≠ [] ∧ '\n' ∉ plainTexts children)
    (hspaced : SpacedAt env (.element name attributes children block))
    (hbrackets : isBracketed (.element name attributes children block) = true →
      ∀ group ∈ elementGroups env name children block, group.SetsNested)
    (hinside : ∀ n ∈ openInside (.element name attributes children block), SetsTidy env n) :
    SetsTidy env (.element name attributes children block) := by
  intro place out h
  obtain ⟨htabs, hbody⟩ := hspaced
  rw [elementGroups, isBracketed] at hbrackets
  cases setNode_element_eq_ok h with
  | hidden => exact tidy_nil
  | key hname =>
    obtain ⟨hne, hline⟩ := hkey (name_of_key hname)
    exact tidy_rawSpan hne hline
  | card hname htexts =>
    rw [hname] at hbrackets
    exact tidy_titledCall (by decide) _ (hbrackets rfl _ (List.mem_singleton_self _) _ htexts)
  | grid hname hcontent hentries =>
    rw [hcontent, hname] at hbrackets
    exact tidy_grid (hbrackets rfl) hentries
  | steps hname hcontent hentries =>
    rw [hcontent, hname] at hbrackets
    exact tidy_steps (hbrackets rfl) hentries
  | tabs hname hcontent hentries =>
    rw [openInside_of_tabs hname hcontent] at hinside
    exact tidy_tabs (htabs hname) hinside hentries
  | @content texts hcontent htexts =>
    have hnotKey : Component.named name ≠ .key := by
      intro hname
      rw [hname] at hcontent
      cases hcontent
    have hopen (hopens : (Component.named name).opensBody = true) :
        Tidy (arrange (Place.ofBlock block) children texts) := by
      rw [openInside_of_whole hcontent hopens] at hinside
      exact tidy_arrange _ _ (tidy_setNodes hinside htexts)
    have hnested : Nested (arrange (Place.ofBlock block) children texts) := by
      cases hopens : (Component.named name).opensBody with
      | true => exact (hopen hopens).nested
      | false =>
        rw [hcontent, hopens] at hbrackets
        exact hbrackets rfl _ (List.mem_singleton_self _) _ htexts
    exact tidy_markup rfl hnested hopen hnotKey (hbody texts htexts)

end Elements

theorem setsTidy_strong (hgroup : Group.SetsNested ⟨env, .line, .full, children⟩) :
    SetsTidy env (.strong children) := by
  intro place out h
  obtain ⟨texts, htexts, rfl⟩ := setNode_strong_eq_ok_iff.1 h
  exact tidy_strong (hgroup texts htexts)

theorem setsTidy_emph (hgroup : Group.SetsNested ⟨env, .line, .full, children⟩) :
    SetsTidy env (.emph children) := by
  intro place out h
  obtain ⟨texts, htexts, rfl⟩ := setNode_emph_eq_ok_iff.1 h
  exact tidy_emph (hgroup texts htexts)

theorem setsTidy_strongEmph (hgroup : Group.SetsNested ⟨env, .line, .full, children⟩) :
    SetsTidy env (.strongEmph children) := by
  intro place out h
  obtain ⟨texts, htexts, rfl⟩ := setNode_strongEmph_eq_ok_iff.1 h
  exact tidy_strong (tidy_emph (hgroup texts htexts)).nested

theorem setsTidy_paragraph (h : ∀ n ∈ children, SetsTidy env n) :
    SetsTidy env (.paragraph children) := by
  intro place out hset
  rcases setNode_paragraph_eq_ok hset with rfl | ⟨texts, htexts, rfl⟩
  · exact tidy_nil
  · exact tidy_join_setNodes h htexts

theorem setsTidy_heading (level : Int) (h : ∀ n ∈ children, SetsTidy env n) :
    SetsTidy env (.heading level children) := by
  intro place out hset
  rcases setNode_heading_eq_ok hset with rfl | ⟨texts, htexts, hheading⟩
  · exact tidy_nil
  · exact tidy_heading (tidy_join_setNodes h htexts) hheading

theorem setsTidy_listItem (indent : Int) (ordered : Bool) (h : ∀ n ∈ children, SetsTidy env n) :
    SetsTidy env (.listItem indent ordered children) := by
  intro place out hset
  rcases setNode_listItem_eq_ok hset with rfl | ⟨texts, htexts, rfl⟩
  · exact tidy_nil
  · exact tidy_listItem indent ordered (tidy_join_setNodes h htexts)

theorem setsTidy_rule : SetsTidy env .rule := by
  intro place out h
  rw [setNode] at h
  rcases onlyAmongBlocks_eq_ok h with h | rfl
  · exact pure_eq_ok_iff.1 h ▸ tidy_rule
  · exact tidy_nil

theorem setsTidy_blank : SetsTidy env .blank := by
  intro place out h
  rw [setNode_blank] at h
  cases h
  exact tidy_nil

theorem setsTidy_codeBlock (hlexers : env.context.lexers.Plain) {language : Text}
    (hlanguage : '\x60' ∉ language) (code : Text) : SetsTidy env (.codeBlock language code) := by
  intro place out h
  rw [setNode] at h
  rcases onlyAmongBlocks_eq_ok h with h | rfl
  · rw [← pure_eq_ok_iff.1 h]
    exact tidy_rawBlock hlexers hlanguage code
  · exact tidy_nil

theorem setsTidy_table {header : List (List Node)} {rows : List (List (List Node))}
    (hcells : ∀ cell ∈ header ++ rows.flatMap (·.take header.length),
      Group.SetsNested ⟨env, .line, .plain, cell⟩) : SetsTidy env (.table header rows) := by
  have hrow {cells : List (List Node)} {texts : List Text}
      (hcells : ∀ cell ∈ cells.take header.length, Group.SetsNested ⟨env, .line, .plain, cell⟩)
      (hset : setCells env header.length cells = .ok texts) : ∀ t ∈ texts, Nested t := by
    intro t ht
    rcases exists_of_mem_setCells hset ht with rfl | ⟨cell, hcell, texts, htexts, rfl⟩
    · exact tidy_nil.nested
    · exact hcells cell hcell texts htexts
  intro place out h
  rcases setNode_table_eq_ok h with rfl | ⟨headerTexts, rowTexts, hheaderSet, hrowsSet, rfl⟩
  · exact tidy_nil
  · refine tidy_tableMarkup (hrow (fun cell hcell => ?_) hheaderSet) fun texts htexts => ?_
    · exact hcells cell (List.mem_append_left _ (List.mem_of_mem_take hcell))
    · obtain ⟨row, hmem, hset⟩ := exists_of_mem_setRows hrowsSet htexts
      refine hrow (fun cell hcell => hcells cell (List.mem_append_right _ ?_)) hset
      exact List.mem_flatMap.2 ⟨row, hmem, hcell⟩

/-- What is set outside of brackets inside a node stands directly inside it, or in an element that
    does. -/
theorem mem_openInside {n : Node} (h : n ∈ openInside node) :
    n ∈ node.inner ∨ ∃ m ∈ node.inner, n ∈ m.inner := by
  unfold openInside at h
  split at h
  · exact .inl h
  · exact .inl h
  · exact .inl h
  · split at h
    · split at h
      · exact .inl h
      · cases h
    · split at h
      · exact .inl h
      · cases h
    · split at h
      · exact .inl h
      · obtain ⟨tab, htab, hn⟩ := List.mem_flatMap.1 h
        refine .inr ⟨tab, List.mem_of_mem_filter htab, ?_⟩
        cases tab with
        | element => exact hn
        | _ => cases hn
    · exact .inl h
    · exact .inl h
    · exact .inl h
    · exact .inl h
    · cases h
  · cases h

theorem exists_cell_of_mem_inner {header : List (List Node)} {rows : List (List (List Node))}
    {n : Node} (hn : n ∈ (Node.table header rows).inner) :
    (∃ cell ∈ header, n ∈ cell) ∨ ∃ row ∈ rows, ∃ cell ∈ row, n ∈ cell := by
  rcases List.mem_append.1 hn with hn | hn
  · obtain ⟨cell, hcell, hn⟩ := List.mem_flatten.1 hn
    exact .inl ⟨cell, hcell, hn⟩
  · obtain ⟨cell, hcell, hn⟩ := List.mem_flatten.1 hn
    obtain ⟨row, hrow, hcell⟩ := List.mem_flatten.1 hcell
    exact .inr ⟨row, hrow, cell, hcell, hn⟩

theorem exists_fitsIn_of_mem_inner (hfits : node.FitsIn place) {n : Node} (hn : n ∈ node.inner) :
    ∃ inner, n.FitsIn inner := by
  cases hfits with
  | text | code | link | image | rule | blank | codeBlock => cases hn
  | strong h | emph h | strongEmph h | paragraph h => exact ⟨_, h n hn⟩
  | heading hlevel h => exact ⟨_, h n hn⟩
  | listItem indent ordered h => exact ⟨_, h n hn⟩
  | inner attributes hname h => exact ⟨_, h n hn⟩
  | outer attributes hname hblanks h => exact ⟨_, h n hn⟩
  | table hheader hrows =>
    rcases exists_cell_of_mem_inner hn with ⟨cell, hcell, hn⟩ | ⟨row, hrow, cell, hcell, hn⟩
    · exact ⟨_, hheader cell hcell n hn⟩
    · exact ⟨_, hrows row hrow cell hcell n hn⟩

theorem delimited_of_mem_inner (hnode : node.Delimited) {n : Node} (hn : n ∈ node.inner) :
    n.Delimited := by
  cases hnode with
  | text | code | link | image | rule | blank | codeBlock | empty => cases hn
  | strong h | emph h | strongEmph h | paragraph h => exact h n hn
  | heading level h => exact h n hn
  | listItem indent ordered h => exact h n hn
  | element hkey h => exact h n hn
  | table hheader hrows =>
    rcases exists_cell_of_mem_inner hn with ⟨cell, hcell, hn⟩ | ⟨row, hrow, cell, hcell, hn⟩
    · exact hheader cell hcell n hn
    · exact hrows row hrow cell hcell n hn

theorem delimited_of_mem_openInside (hnode : node.Delimited) {n : Node}
    (hn : n ∈ openInside node) : n.Delimited := by
  rcases mem_openInside hn with hmem | ⟨m, hm, hmem⟩
  · exact delimited_of_mem_inner hnode hmem
  · exact delimited_of_mem_inner (delimited_of_mem_inner hnode hm) hmem

theorem sizeOf_lt_of_mem_openInside {n : Node} (hn : n ∈ openInside node) :
    sizeOf n < sizeOf node := by
  rcases mem_openInside hn with hmem | ⟨m, hm, hmem⟩
  · exact Node.sizeOf_lt_of_mem_inner hmem
  · exact Nat.lt_trans (Node.sizeOf_lt_of_mem_inner hmem) (Node.sizeOf_lt_of_mem_inner hm)

theorem nests_linkEnv {context : Context} (hlexers : context.lexers.Plain) (t : Text) :
    (context.linkEnv t).Nests := by
  intro u out hu h
  simp only [Context.linkEnv] at h
  split at h
  · exact nests_env hlexers u out hu h
  · exact pure_eq_ok_iff.1 h ▸ tidy_nil.nested

/-- All groups of a delimited node are set as well-nested markup. -/
theorem setsNested_of_mem_groups {context : Context} (hlexers : context.lexers.Plain)
    (hnode : node.Delimited) {mode : Mode} {group : Group}
    (hgroup : group ∈ node.groups context context.env mode) : group.SetsNested := by
  have nested {env : Env} (henv : env.Nests) (hcontext : env.context.lexers.Plain) (place : Place)
      (mode : Mode) {nodes : List Node} (hnodes : ∀ n ∈ nodes, n.Delimited) :
      Group.SetsNested ⟨env, place, mode, nodes⟩ := fun texts htexts =>
    nested_arrange place nodes (nested_setNodes (fun n hn =>
      setsNested_of_delimited henv hcontext (hnodes n hn)) htexts)
  have henv := nests_env hlexers
  cases hnode with
  | text | code | image | rule | blank | codeBlock | empty => cases hgroup
  | link ht =>
    cases List.mem_singleton.1 hgroup
    exact nested (nests_linkEnv hlexers _) hlexers .line .plain ht
  | strong h | emph h | strongEmph h | paragraph h | heading _ h | listItem _ _ h =>
    cases List.mem_singleton.1 hgroup
    exact nested henv hlexers .line mode h
  | table hheader hrows =>
    obtain ⟨cell, hcell, rfl⟩ := List.mem_map.1 hgroup
    refine nested henv hlexers .line .plain ?_
    rcases List.mem_append.1 hcell with hcell | hcell
    · exact hheader cell hcell
    · obtain ⟨row, hrow, hcell⟩ := List.mem_flatMap.1 hcell
      exact hrows row hrow cell (List.mem_of_mem_take hcell)
  | element hkey h =>
    rw [Node.groups, elementGroups] at hgroup
    split at hgroup
    · cases hgroup
    · cases List.mem_singleton.1 hgroup
      exact nested henv hlexers _ _ h
    · obtain ⟨part, hpart, rfl⟩ := List.mem_map.1 hgroup
      cases h part (List.mem_of_mem_filter hpart) with
      | element _ hinner => exact nested henv hlexers _ _ hinner
      | _ => exact nested henv hlexers _ _ (List.forall_mem_nil _)

theorem ownDelimited_of_delimited (hnode : node.Delimited) : OwnDelimited node := by
  cases hnode with
  | code ht => exact ht
  | codeBlock hlanguage => exact hlanguage
  | element hkey => exact hkey
  | _ => exact trivial

/-- Nodes whose raw texts can be told from their delimiters everywhere are so outside of brackets,
    and within them nothing is left open then. -/
theorem delimitedOutside_of_delimited {context : Context} (hlexers : context.lexers.Plain)
    {node : Node} (hnode : node.Delimited) : node.DelimitedOutside context :=
  .step (ownDelimited_of_delimited hnode)
    (fun _ _ hgroup => setsNested_of_mem_groups hlexers hnode hgroup)
    fun _ hn => delimitedOutside_of_delimited hlexers (delimited_of_mem_openInside hnode hn)
termination_by sizeOf node
decreasing_by exact sizeOf_lt_of_mem_openInside hn

/-- Nodes of a page are set as tidy markup, where no break of theirs stands beside a blank line. The
    induction is over the nodes that are set outside of brackets. -/
theorem setsTidy_of_spaced {context : Context} (hlexers : context.lexers.Plain)
    (hspaced : node.Spaced context.env) (hfits : node.FitsIn place)
    (hnode : node.DelimitedOutside context) : SetsTidy context.env node := by
  induction hspaced generalizing place with
  | @step node here inside ih =>
    obtain ⟨hown, hbrackets, hopen⟩ := hnode
    have hinside (n : Node) (hn : n ∈ openInside node) : SetsTidy context.env n := by
      rcases mem_openInside hn with hmem | ⟨m, hm, hmem⟩
      · obtain ⟨_, hinner⟩ := exists_fitsIn_of_mem_inner hfits hmem
        exact ih n hn hinner (hopen n hn)
      · obtain ⟨_, houter⟩ := exists_fitsIn_of_mem_inner hfits hm
        obtain ⟨_, hinner⟩ := exists_fitsIn_of_mem_inner houter hmem
        exact ih n hn hinner (hopen n hn)
    cases hfits with
    | text ht hline => exact setsTidy_text hline.1
    | code ht hline => exact setsTidy_code ht hline.1
    | link hline hurl => exact setsTidy_link (hbrackets rfl _ (List.mem_singleton_self _))
    | image hline hsrc => exact setsTidy_image hline.1 (newline_not_mem_of_isDestination hsrc)
    | strong _ => exact setsTidy_strong (hbrackets rfl _ (List.mem_singleton_self _))
    | emph _ => exact setsTidy_emph (hbrackets rfl _ (List.mem_singleton_self _))
    | strongEmph _ => exact setsTidy_strongEmph (hbrackets rfl _ (List.mem_singleton_self _))
    | paragraph _ => exact setsTidy_paragraph hinside
    | heading _ _ => exact setsTidy_heading _ hinside
    | listItem indent ordered _ => exact setsTidy_listItem indent ordered hinside
    | rule => exact setsTidy_rule
    | blank => exact setsTidy_blank
    | codeBlock _ _ => exact setsTidy_codeBlock hlexers hown _
    | table _ _ =>
      exact setsTidy_table fun cell hcell => hbrackets rfl _ (List.mem_map.2 ⟨cell, hcell, rfl⟩)
    | inner attributes hname h =>
      have hline := newline_not_mem_plainTexts fun n hn => newline_not_mem_plainText (h n hn)
      exact setsTidy_element (fun heq => ⟨hown heq, hline⟩) here hbrackets hinside
    | outer attributes hname hblanks h =>
      -- A key stays within its line, so that it is no block.
      have hline : "kbd".toList ∈ Markup.lineNames := by decide
      exact setsTidy_element (fun heq => absurd (heq ▸ hline) hname.2) here hbrackets hinside

/-- A page is set without a blank line at its beginning or its end, and outside of raw blocks and of
the blocks of markup in brackets there are no two blank lines in a row. Only a break of the page's
own constructs could undo that: one between tabs of which nothing is shown, one below a title with
nothing but blanks to follow, or those that the description of an update brings along. -/
theorem spacing_of_setPage (context : Context) (hlexers : context.lexers.Plain) {page out : Text}
    (hnodes : ∀ n ∈ Markup.parse page, n.DelimitedOutside context)
    (hspaced : ∀ n ∈ Markup.parse page, n.Spaced context.env)
    (h : setPage context page = .ok out) :
    (out ≠ [] → ShownEdges out) ∧
      ∀ before rest q, out = before ++ rest → Reader.start.run before = some q →
        q.isCovered = false → ¬BlankRun rest := by
  obtain ⟨texts, htexts, h⟩ := bind_eq_ok_iff.1 h
  have hset (n : Node) (hn : n ∈ Markup.parse page) : SetsTidy context.env n :=
    setsTidy_of_spaced hlexers (hspaced n hn) ((Markup.parse_fitsIn page).2 n hn)
      (hnodes n hn)
  have htidy : Tidy out :=
    pure_eq_ok_iff.1 h ▸ tidy_arrange .block _ (tidy_setNodes hset htexts)
  have hshown : out = [] ∨ allBlank out = false :=
    pure_eq_ok_iff.1 h ▸ layout_eq_nil_or_shown _
  refine ⟨fun hne => htidy.shownEdges (hshown.resolve_left hne), ?_⟩
  rintro before rest q rfl hbefore hq
  exact htidy.not_blankRun hbefore hq

set_option maxRecDepth 4000 in
/-- A title with a body below it, and a paragraph below two blank lines. -/
theorem spacing_of_setPage_accordion :
    ∃ page out, setPage ⟨none, []⟩ page = .ok out ∧
      out = "#strong[a]\n\nb\n\nc".toList ∧
      (out ≠ [] → ShownEdges out) ∧
      ∀ before rest q, out = before ++ rest → Reader.start.run before = some q →
        q.isCovered = false → ¬BlankRun rest := by
  let nodes : List Node := [
    .element "Accordion".toList [("title".toList, ['a'])] [.blank, .paragraph [.text ['b']]] true,
    .blank, .paragraph [.text ['c']]]
  have hparse : Markup.parse "<Accordion title=\"a\">\nb\n</Accordion>\n\n\nc".toList = nodes := by
    with_unfolding_all rfl
  have hset : setPage ⟨none, []⟩ "<Accordion title=\"a\">\nb\n</Accordion>\n\n\nc".toList =
      .ok "#strong[a]\n\nb\n\nc".toList := by
    rw [setPage, hparse]
    with_unfolding_all rfl
  have hbody : setNodes (Context.env ⟨none, []⟩) .block .full
      [.blank, .paragraph [.text ['b']]] = .ok [[], ['b']] := by
    with_unfolding_all rfl
  have hnamed : Component.named "Accordion".toList = .accordion := by decide
  refine ⟨_, _, hset, rfl, spacing_of_setPage ⟨none, []⟩ lexers_plain ?_ ?_ hset⟩
  · rw [hparse]
    have hparagraph (t : Text) : (Node.paragraph [.text t]).Delimited := by
      simp [Node.Delimited.paragraph, Node.Delimited.text]
    have hinside : ∀ n ∈ [Node.blank, .paragraph [.text ['b']]], n.Delimited := by
      simp [Node.Delimited.blank, hparagraph]
    have hnodes : ∀ n ∈ nodes, n.Delimited := by
      simp only [nodes, List.mem_cons, List.not_mem_nil, or_false, forall_eq_or_imp, forall_eq]
      exact ⟨.element (fun h => absurd h (by decide)) hinside, .blank, hparagraph _⟩
    exact fun n hn => delimitedOutside_of_delimited lexers_plain (hnodes n hn)
  · rw [hparse]
    have hleaf {node : Node} (hat : SpacedAt (Context.env ⟨none, []⟩) node)
        (hinside : openInside node = []) : node.Spaced (Context.env ⟨none, []⟩) :=
      .step hat fun n hn => absurd (hinside ▸ hn) List.not_mem_nil
    have hparagraph (t : Text) : (Node.paragraph [.text t]).Spaced (Context.env ⟨none, []⟩) := by
      refine .step trivial fun n hn => ?_
      cases List.mem_singleton.1 hn
      exact hleaf trivial rfl
    simp only [nodes, List.mem_cons, List.not_mem_nil, or_false, forall_eq_or_imp, forall_eq]
    refine ⟨.step ⟨fun htabs => ?_, fun texts htexts => ?_⟩ ?_, hleaf trivial rfl, hparagraph _⟩
    · cases hnamed.symm.trans htabs
    · cases hbody.symm.trans htexts
      rw [hnamed]
      exact .inr (.inr rfl)
    · rw [openInside, hnamed]
      simp only [List.mem_cons, List.not_mem_nil, or_false, forall_eq_or_imp, forall_eq]
      exact ⟨hleaf trivial rfl, hparagraph _⟩

set_option maxRecDepth 4000 in
/-- Nothing is shown of the second tab, but the break before it stands at the end. -/
theorem exists_blank_edge :
    ∃ out, setPage ⟨none, []⟩
      "<Tabs>\n<Tab title=\"a\">\nx\n</Tab>\n<Tab>\n</Tab>\n</Tabs>".toList = .ok out ∧
        out ≠ [] ∧ ¬ShownEdges out := by
  have hparse : Markup.parse
      "<Tabs>\n<Tab title=\"a\">\nx\n</Tab>\n<Tab>\n</Tab>\n</Tabs>".toList =
      [.element "Tabs".toList [] [.blank,
        .element "Tab".toList [("title".toList, ['a'])] [.blank, .paragraph [.text ['x']]] true,
        .element "Tab".toList [] [.blank] true] true] := by
    with_unfolding_all rfl
  have hset : setPage ⟨none, []⟩
      "<Tabs>\n<Tab title=\"a\">\nx\n</Tab>\n<Tab>\n</Tab>\n</Tabs>".toList =
      .ok "#strong[a:]\nx\n\n".toList := by
    rw [setPage, hparse]
    with_unfolding_all rfl
  refine ⟨_, hset, by simp, ?_⟩
  intro h
  have hlast := h.2 [] (by decide)
  cases hlast

end Typeset

end Bindery
