import Bindery.Packages.Lexers
import Bindery.Proofs.Markup.FittingPage
import Bindery.Proofs.Markup.Tree
import Bindery.Proofs.Text.InOrder
import Bindery.Proofs.Typeset.Bodies
import Bindery.Proofs.Typeset.Fallback
import Bindery.Proofs.Typeset.Lines
import Bindery.Proofs.Typst.Escape

namespace Bindery.Typeset

open Text Typst Markup

/-- The text of a node that is prose, code, a link or a picture. -/
def ownText : Node → List Text
  | .text t | .code t | .link t _ | .image t _ => [t]
  | _ => []

/-- The texts of a node and of all nodes inside it. -/
def leafTexts (node : Node) : List Text :=
  ownText node ++ node.inner.attach.flatMap fun n => leafTexts n.1
termination_by sizeOf node
decreasing_by exact Node.sizeOf_lt_of_mem_inner n.2

theorem leafTexts_eq (node : Node) :
    leafTexts node = ownText node ++ node.inner.flatMap leafTexts := by
  rw [leafTexts, List.flatMap_subtype (fun n _ => rfl), List.unattach_attach]

/-- A leaf of a page. -/
inductive Leaf
  /-- Prose with more than blanks in it. -/
  | prose (t : Text) (h : allBlank t = false)
  | code (t : Text)
  /-- The texts inside a key, which are shown together. -/
  | key (texts : List Text)

/-- The leaf is shown by the piece of source: prose by its escaped form, code as raw text, and the
    texts of a key one after the other in one raw text. -/
def Leaf.Shown : Leaf → Text → Prop
  | .prose t _, piece => piece = escape t
  | .code t, piece => piece = rawSpan t
  | .key texts, piece => ∃ s, piece = rawSpan s ∧ InOrder Eq texts s

/-- The elements of the given name, or all the nodes if there is no such element. -/
def elementsOrAll (name : Text) (nodes : List Node) : List Node :=
  if (Node.elements name nodes).isEmpty then nodes else Node.elements name nodes

/-- The nodes directly inside a node whose leaves count as leaves of the node. Not among them are
    the content of a picture or an icon, the cells of a table beyond its header, and what stands
    beside the cards, steps or tabs of a component that has some. -/
def shownInside (node : Node) : List Node :=
  match node with
  | .table header rows => header.flatten ++ rows.flatMap fun row => (row.take header.length).flatten
  | .element name _ children _ =>
    match Component.named name with
    | .hidden | .key => []
    | .columns => elementsOrAll "Card".toList children
    | .steps => elementsOrAll "Step".toList children
    | .tabs => elementsOrAll "Tab".toList children
    | _ => children
  | _ => node.inner

section

-- The leaves of the text of a link.
variable (ofLink : Text → List Leaf)

/-- What a node adds to the leaves of the nodes inside it. -/
def ownLeaves : Node → List Leaf
  | .text t => if h : allBlank t = false then [.prose t h] else []
  | .code t => [.code t]
  | .link t _ => ofLink t
  | .element name _ children _ =>
    if Component.named name = .key then [.key (children.flatMap leafTexts)] else []
  | _ => []

theorem elementsOrAll_subset (name : Text) (nodes : List Node) :
    elementsOrAll name nodes ⊆ nodes := by
  rw [elementsOrAll]
  split
  · exact List.Subset.refl nodes
  · exact List.filter_subset_self nodes

theorem shownInside_subset (node : Node) : shownInside node ⊆ node.inner := by
  cases node with
  | table header rows =>
    refine List.append_subset.2 ⟨List.subset_append_left _ _, fun n hn => ?_⟩
    obtain ⟨row, hrow, hn⟩ := List.mem_flatMap.1 hn
    obtain ⟨cell, hcell, hn⟩ := List.mem_flatten.1 hn
    have hcell := List.mem_flatten.2 ⟨row, hrow, List.mem_of_mem_take hcell⟩
    exact List.mem_append_right _ (List.mem_flatten.2 ⟨cell, hcell, hn⟩)
  | element name attributes children block =>
    rw [shownInside, Node.inner]
    split
    · exact List.nil_subset children
    · exact List.nil_subset children
    · exact elementsOrAll_subset _ children
    · exact elementsOrAll_subset _ children
    · exact elementsOrAll_subset _ children
    · exact List.Subset.refl children
  | _ => exact List.Subset.refl _

/-- The leaves of a node in their order. -/
def leaves (node : Node) : List Leaf :=
  ownLeaves ofLink node ++ (shownInside node).attach.flatMap fun n => leaves n.1
termination_by sizeOf node
decreasing_by exact Node.sizeOf_lt_of_mem_inner (shownInside_subset node n.2)

theorem leaves_eq (node : Node) :
    leaves ofLink node = ownLeaves ofLink node ++ (shownInside node).flatMap (leaves ofLink) := by
  rw [leaves, List.flatMap_subtype (fun n _ => rfl), List.unattach_attach]

end

/-- The leaves of the text of a link. The links inside have shorter texts. -/
def linkLeaves (s : Text) : List Leaf :=
  let inner (t : Text) := if _h : t.length < s.length then linkLeaves t else []
  (parseInline s).flatMap (leaves inner)
termination_by s.length

/-- The leaves of a page. -/
def pageLeaves (page : Text) : List Leaf :=
  (parse page).flatMap (leaves linkLeaves)

theorem mem_escape {s : Text} {c : Char} (hc : c ∈ s) : c ∈ escape s := by
  revert hc
  induction s using escape_induction with
  | nil => exact id
  | escaped d s t _ ih => simp only [List.mem_cons]; tauto
  | plain d s t _ _ ih => simp only [List.mem_cons]; tauto

theorem allBlank_escape {s : Text} (h : allBlank s = false) : allBlank (escape s) = false := by
  obtain ⟨c, hc, hblank⟩ := List.all_eq_false.1 h
  exact allBlank_of_mem (mem_escape hc) (by simpa using hblank)

theorem allBlank_rawSpan (code : Text) : allBlank (rawSpan code) = false := by
  rw [rawSpan]
  split
  · exact allBlank_of_mem (c := '#') (by simp) (by decide)
  · exact allBlank_of_mem (c := '\x60') (by simp) (by decide)

theorem Leaf.Shown.allBlank {leaf : Leaf} {piece : Text} (h : leaf.Shown piece) :
    allBlank piece = false := by
  cases leaf with
  | prose t ht => exact h ▸ allBlank_escape ht
  | code t => exact h ▸ allBlank_rawSpan t
  | key texts =>
    obtain ⟨s, rfl, -⟩ := h
    exact allBlank_rawSpan s

theorem flatten_flatMap_leafTexts {nodes : List Node}
    (h : ∀ n ∈ nodes, (leafTexts n).flatten = plainText n) :
    (nodes.flatMap leafTexts).flatten = plainTexts nodes := by
  induction nodes with
  | nil => rfl
  | cons node nodes ih =>
    rw [List.forall_mem_cons] at h
    rw [List.flatMap_cons, plainTexts, List.flatten_append, h.1, ih h.2]

/-- The plain text of a node within a line is made of all the texts inside it. -/
theorem flatten_leafTexts {node : Node} (h : node.FitsIn .line) :
    (leafTexts node).flatten = plainText node := by
  induction node using Node.induction with
  | step node ih =>
    rw [leafTexts_eq]
    cases h with
    | text | code | link | image => exact List.append_nil _
    | strong h | emph h | strongEmph h | inner attributes hname h =>
      exact flatten_flatMap_leafTexts fun n hn => ih n hn (h n hn)

theorem inOrder_flatten (parts : List Text) : InOrder Eq parts parts.flatten := by
  induction parts with
  | nil => trivial
  | cons part parts ih => exact ⟨[], part, parts.flatten, rfl, rfl, ih⟩

theorem shown_key {children : List Node} (h : ∀ n ∈ children, n.FitsIn .line) :
    (Leaf.key (children.flatMap leafTexts)).Shown (rawSpan (plainTexts children)) := by
  refine ⟨plainTexts children, rfl, ?_⟩
  rw [← flatten_flatMap_leafTexts fun n hn => flatten_leafTexts (h n hn)]
  exact inOrder_flatten _

variable {items others : List Leaf} {text : Text} {texts : List Text}

/-- A text of blanks shows no leaf. -/
theorem eq_nil_of_allBlank (h : InOrder Leaf.Shown items text) (ht : allBlank text = true) :
    items = [] :=
  h.eq_nil_of_allBlank (fun _ _ hshown => hshown.allBlank) ht

theorem inOrder_joinAfter (h : InOrderAcross Leaf.Shown items texts) (previous : Text) :
    InOrder Leaf.Shown items (joinAfter previous texts) := by
  obtain ⟨groups, rfl, hgroups⟩ := h
  induction hgroups generalizing previous with
  | nil => trivial
  | @cons group piece groups rest hpiece hrest ih =>
    rw [joinAfter]
    split
    · next hempty =>
      -- An empty piece takes no place, and shows nothing that could be lost.
      obtain rfl : piece = [] := by simpa using hempty
      rw [List.flatten_cons, eq_nil_of_allBlank hpiece rfl]
      exact ih previous
    · exact (hpiece.mono (infix_detach previous piece)).append (ih _)

theorem inOrder_join (h : InOrderAcross Leaf.Shown items texts) :
    InOrder Leaf.Shown items (join texts) :=
  inOrder_joinAfter h []

theorem inOrder_layoutFrom_cons {entries : List Entry} (h : InOrder Leaf.Shown items text)
    (hrest : ∀ started due, InOrder Leaf.Shown others (layoutFrom started due entries))
    (started due alone : Bool) :
    InOrder Leaf.Shown (items ++ others)
      (layoutFrom started due (.chunk text alone :: entries)) := by
  cases hblank : allBlank text with
  | true =>
    rw [layoutFrom_of_allBlank hblank, eq_nil_of_allBlank h hblank]
    exact hrest started (due || alone)
  | false =>
    rw [layoutFrom_of_shown hblank]
    exact (h.append_left _).append (hrest true alone)

variable {ofLink : Text → List Leaf} {env : Env} {place : Place} {mode : Mode} {nodes : List Node}

/-- What the node is set as shows its leaves. -/
def ShowsLeaves (ofLink : Text → List Leaf) (env : Env) (place : Place) (node : Node) : Prop :=
  ∀ mode out, setNode env place mode node = .ok out →
    InOrder Leaf.Shown (leaves ofLink node) out

theorem inOrderAcross_setNodes (h : ∀ n ∈ nodes, ShowsLeaves ofLink env place n)
    (hset : setNodes env place mode nodes = .ok texts) :
    InOrderAcross Leaf.Shown (nodes.flatMap (leaves ofLink)) texts := by
  induction nodes generalizing texts with
  | nil => exact inOrderAcross_nil texts
  | cons node nodes ih =>
    rw [List.forall_mem_cons] at h
    obtain ⟨text, others, htext, hothers, rfl⟩ := exists_of_setNodes_cons hset
    rw [List.flatMap_cons]
    exact .cons (h.1 mode text htext) (ih h.2 hothers)

theorem leaves_blank : leaves ofLink .blank = [] := by
  rw [leaves_eq]
  rfl

theorem inOrder_layoutFrom (h : ∀ n ∈ nodes, ShowsLeaves ofLink env place n)
    (hset : setNodes env place mode nodes = .ok texts) (started due : Bool) :
    InOrder Leaf.Shown (nodes.flatMap (leaves ofLink))
      (layoutFrom started due (nodes.zipWith Entry.of texts)) := by
  induction nodes generalizing texts started due with
  | nil => trivial
  | cons node nodes ih =>
    rw [List.forall_mem_cons] at h
    obtain ⟨text, others, htext, hothers, rfl⟩ := exists_of_setNodes_cons hset
    rw [List.flatMap_cons, List.zipWith_cons_cons]
    cases node with
    | blank =>
      -- A blank line is a gap, whatever text it is set as.
      rw [leaves_blank]
      exact ih h.2 hothers started true
    | _ => exact inOrder_layoutFrom_cons (h.1 mode text htext) (ih h.2 hothers) started due _

theorem inOrder_arrange (h : ∀ n ∈ nodes, ShowsLeaves ofLink env place n)
    (hset : setNodes env place mode nodes = .ok texts) :
    InOrder Leaf.Shown (nodes.flatMap (leaves ofLink)) (arrange place nodes texts) := by
  cases place with
  | block => exact inOrder_layoutFrom h hset false false
  | line => exact inOrder_join (inOrderAcross_setNodes h hset)

theorem inOrderAcross_setCells {cells : List (List Node)}
    (h : ∀ cell ∈ cells, ∀ n ∈ cell, ShowsLeaves ofLink env .line n) {width : Nat}
    (hset : setCells env width cells = .ok texts) :
    InOrderAcross Leaf.Shown ((cells.take width).flatten.flatMap (leaves ofLink)) texts := by
  induction cells generalizing width texts with
  | nil =>
    rw [List.take_nil]
    exact inOrderAcross_nil texts
  | cons cell cells ih =>
    rw [List.forall_mem_cons] at h
    cases width with
    | zero => exact inOrderAcross_nil texts
    | succ width =>
      rw [setCells] at hset
      obtain ⟨bodies, hbodies, hset⟩ := bind_eq_ok_iff.1 hset
      obtain ⟨others, hothers, hset⟩ := bind_eq_ok_iff.1 hset
      rw [← pure_eq_ok_iff.1 hset, List.take_succ_cons, List.flatten_cons, List.flatMap_append]
      exact .cons (inOrder_join (inOrderAcross_setNodes h.1 hbodies)) (ih h.2 hothers)

theorem inOrder_rowMarkup (h : InOrderAcross Leaf.Shown items texts) :
    InOrder Leaf.Shown items (rowMarkup texts) := by
  obtain ⟨groups, rfl, hgroups⟩ := h
  cases hgroups with
  | nil => trivial
  | @cons group first groups others hfirst hothers =>
    have hacross : InOrderAcross Leaf.Shown groups.flatten others := ⟨groups, rfl, hothers⟩
    rw [rowMarkup, List.flatMap_def]
    exact (hfirst.mono (infix_strongCell first)).append (hacross.map infix_plainCell).flatten

theorem inOrderAcross_setRows {rows : List (List (List Node))}
    (h : ∀ row ∈ rows, ∀ cell ∈ row, ∀ n ∈ cell, ShowsLeaves ofLink env .line n) {width : Nat}
    {rowTexts : List (List Text)} (hset : setRows env width rows = .ok rowTexts) :
    InOrderAcross Leaf.Shown
      ((rows.flatMap fun row => (row.take width).flatten).flatMap (leaves ofLink))
      (rowTexts.map rowMarkup) := by
  induction rows generalizing rowTexts with
  | nil => exact inOrderAcross_nil _
  | cons row rows ih =>
    rw [List.forall_mem_cons] at h
    rw [setRows] at hset
    obtain ⟨cells, hcells, hset⟩ := bind_eq_ok_iff.1 hset
    obtain ⟨others, hothers, hset⟩ := bind_eq_ok_iff.1 hset
    rw [← pure_eq_ok_iff.1 hset, List.flatMap_cons, List.flatMap_append]
    exact .cons (inOrder_rowMarkup (inOrderAcross_setCells h.1 hcells)) (ih h.2 hothers)

/-- The leaves of elements of the given name are those of all their content. -/
def ContentLeaves (ofLink : Text → List Leaf) (name : Text) : Prop :=
  ∀ attributes children block,
    leaves ofLink (.element name attributes children block) = children.flatMap (leaves ofLink)

/-- The entries of a component show the leaves of the elements that it is made of. -/
theorem inOrderAcross_setElements {name : Text} {entry : Pairs → Text → Except SetError Text}
    (hname : ContentLeaves ofLink name)
    (hentry : ∀ attributes body out, entry attributes body = .ok out → body <:+: out)
    (hplace : ∀ n ∈ nodes, n.FitsIn place)
    (h : ∀ n ∈ nodes, ∀ c ∈ n.content, ShowsLeaves ofLink env place c)
    (hset : setElements env name mode entry nodes = .ok texts) :
    InOrderAcross Leaf.Shown ((Node.elements name nodes).flatMap (leaves ofLink)) texts := by
  induction nodes generalizing texts with
  | nil => exact inOrderAcross_nil texts
  | cons node nodes ih =>
    rw [List.forall_mem_cons] at hplace h
    cases node with
    | element n attributes children block =>
      rw [setElements] at hset
      rw [Node.elements]
      split at hset
      · next heq =>
        have hnamed : Node.isElement name (.element n attributes children block) = true := heq
        obtain ⟨bodies, hbodies, hset⟩ := bind_eq_ok_iff.1 hset
        obtain ⟨text, htext, hset⟩ := bind_eq_ok_iff.1 hset
        obtain ⟨others, hothers, hset⟩ := bind_eq_ok_iff.1 hset
        have hbody := inOrder_arrange (place_of_element hplace.1 ▸ h.1) hbodies
        rw [← pure_eq_ok_iff.1 hset, List.filter_cons_of_pos hnamed, List.flatMap_cons,
          eq_of_beq heq, hname]
        exact .cons (hbody.mono (hentry attributes _ text htext)) (ih hplace.2 h.2 hothers)
      · next hne =>
        have hnamed : ¬Node.isElement name (.element n attributes children block) = true := hne
        rw [List.filter_cons_of_neg hnamed]
        exact ih hplace.2 h.2 hset
    | _ => exact ih hplace.2 h.2 hset

theorem inOrder_content {component : Component} (hcomponent : component ≠ .hidden) {name : Text}
    {attributes : Pairs} (h : ∀ n ∈ nodes, ShowsLeaves ofLink env place n) {out : Text}
    (hset : (setNodes env place mode nodes >>= fun texts =>
      pure (component.markup name attributes (arrange place nodes texts))) = .ok out) :
    InOrder Leaf.Shown (nodes.flatMap (leaves ofLink)) out := by
  obtain ⟨texts, htexts, hset⟩ := bind_eq_ok_iff.1 hset
  rw [← pure_eq_ok_iff.1 hset]
  exact (inOrder_arrange h htexts).mono (infix_markup hcomponent name attributes _)

/-- A component that is made of elements shows their leaves, or those of all its content when it
    has no such element. -/
theorem inOrder_entries {name : Text} {entry : Pairs → Text → Except SetError Text}
    {markup : List Text → Text}
    (hmarkup : ∀ items entries, InOrderAcross Leaf.Shown items entries →
      InOrder Leaf.Shown items (markup entries))
    (hname : ContentLeaves ofLink name)
    (hentry : ∀ attributes body out, entry attributes body = .ok out → body <:+: out)
    (hplace : ∀ n ∈ nodes, n.FitsIn place)
    (h : ∀ n ∈ nodes, ShowsLeaves ofLink env place n ∧
      ∀ c ∈ n.content, ShowsLeaves ofLink env place c) {out : Text}
    (hset : (if (Node.elements name nodes).isEmpty then
        setNodes env place .full nodes >>= fun texts => pure (arrange place nodes texts)
      else setElements env name mode entry nodes >>= fun entries => pure (markup entries)) =
        .ok out) :
    InOrder Leaf.Shown ((elementsOrAll name nodes).flatMap (leaves ofLink)) out := by
  rw [elementsOrAll]
  split at hset
  · next hempty =>
    rw [if_pos hempty]
    obtain ⟨texts, htexts, hset⟩ := bind_eq_ok_iff.1 hset
    exact pure_eq_ok_iff.1 hset ▸ inOrder_arrange (fun n hn => (h n hn).1) htexts
  · next hempty =>
    rw [if_neg hempty]
    obtain ⟨entries, hentries, hset⟩ := bind_eq_ok_iff.1 hset
    rw [← pure_eq_ok_iff.1 hset]
    exact hmarkup _ entries
      (inOrderAcross_setElements hname hentry hplace (fun n hn => (h n hn).2) hentries)

theorem contentLeaves_card : ContentLeaves ofLink "Card".toList := fun _ _ _ => leaves_eq ofLink _

theorem contentLeaves_step : ContentLeaves ofLink "Step".toList := fun _ _ _ => leaves_eq ofLink _

theorem contentLeaves_tab : ContentLeaves ofLink "Tab".toList := fun _ _ _ => leaves_eq ofLink _

theorem showsLeaves_element {name : Text} {attributes : Pairs} {children : List Node} {block : Bool}
    (hkey : name = "kbd".toList → block = false)
    (hplace : ∀ n ∈ children, n.FitsIn (Place.ofBlock block))
    (h : ∀ n ∈ children, ShowsLeaves ofLink env (Place.ofBlock block) n ∧
      ∀ c ∈ n.content, ShowsLeaves ofLink env (Place.ofBlock block) c) :
    ShowsLeaves ofLink env place (.element name attributes children block) := by
  intro mode out hset
  have hchildren (n : Node) (hn : n ∈ children) := (h n hn).1
  rw [setNode] at hset
  rw [leaves_eq, ownLeaves, shownInside]
  simp only at hset ⊢
  cases hnamed : Component.named name with
  | hidden => trivial
  | key =>
    obtain rfl := hkey (name_of_key hnamed)
    rw [hnamed] at hset
    rw [← pure_eq_ok_iff.1 hset]
    exact inOrder_singleton (shown_key hplace)
  | card =>
    rw [hnamed] at hset
    simp only [bind_assoc, pure_bind] at hset
    obtain ⟨texts, htexts, hset⟩ := bind_eq_ok_iff.1 hset
    rw [← pure_eq_ok_iff.1 hset]
    exact (inOrder_arrange hchildren htexts).mono (infix_titledCall _ _ _)
  | columns =>
    rw [hnamed] at hset
    refine inOrder_entries (fun items entries hacross => ?_) contentLeaves_card infix_setCardEntry
      hplace h hset
    exact hacross.flatten.mono (infix_gridMarkup attributes entries)
  | steps =>
    rw [hnamed] at hset
    refine inOrder_entries (fun items entries hacross => ?_) contentLeaves_step
      (infix_of_pure infix_stepEntry) hplace h hset
    exact hacross.flatten.mono (infix_stepsMarkup entries)
  | tabs =>
    rw [hnamed] at hset
    refine inOrder_entries (fun items entries hacross => ?_) contentLeaves_tab
      (infix_of_pure infix_tabMarkup) hplace h hset
    exact hacross.joinWith ['\n', '\n']
  | callout | box _ | step | accordion | update | content =>
    rw [hnamed] at hset
    simp only [bind_assoc, pure_bind] at hset
    exact inOrder_content (by simp) hchildren hset

theorem showsLeaves_of_leaves_eq_nil {node : Node} (h : leaves ofLink node = []) :
    ShowsLeaves ofLink env place node :=
  fun _ out _ => h ▸ inOrder_nil out

/-- Link texts on one line are set as markup that shows their leaves. -/
def Env.ShowsLinks (env : Env) (ofLink : Text → List Leaf) : Prop :=
  ∀ t out, OneLine t → env.linkText t = .ok out → InOrder Leaf.Shown (ofLink t) out

theorem showsLeaves_text (t : Text) : ShowsLeaves ofLink env place (.text t) := by
  intro mode out hset
  rw [setNode, pure_eq_ok_iff] at hset
  have hown : leaves ofLink (.text t) = ownLeaves ofLink (.text t) :=
    (leaves_eq ofLink _).trans (List.append_nil _)
  rw [hown, ownLeaves]
  split
  · exact inOrder_singleton hset.symm
  · trivial

theorem showsLeaves_code (t : Text) : ShowsLeaves ofLink env place (.code t) := by
  intro mode out hset
  rw [setNode, pure_eq_ok_iff] at hset
  rw [leaves_eq]
  exact inOrder_singleton hset.symm

theorem showsLeaves_link (henv : env.ShowsLinks ofLink) {t : Text} (ht : OneLine t) (url : Text) :
    ShowsLeaves ofLink env place (.link t url) := by
  intro mode out hset
  obtain ⟨body, hbody, hset⟩ := setNode_link_eq_ok_iff.1 hset
  have hown : leaves ofLink (.link t url) = ofLink t :=
    (leaves_eq ofLink _).trans (List.append_nil _)
  rw [hown]
  exact (henv t body ht hbody).mono (infix_reference hset)

section

variable {children : List Node} (h : ∀ n ∈ children, ShowsLeaves ofLink env .line n)

include h

theorem showsLeaves_strong : ShowsLeaves ofLink env place (.strong children) := by
  intro mode out hset
  obtain ⟨texts, htexts, rfl⟩ := setNode_strong_eq_ok_iff.1 hset
  rw [leaves_eq]
  exact (inOrder_arrange h htexts).mono (infix_emphasized mode (infix_call "strong" _))

theorem showsLeaves_emph : ShowsLeaves ofLink env place (.emph children) := by
  intro mode out hset
  obtain ⟨texts, htexts, rfl⟩ := setNode_emph_eq_ok_iff.1 hset
  rw [leaves_eq]
  exact (inOrder_arrange h htexts).mono (infix_emphasized mode (infix_call "emph" _))

theorem showsLeaves_strongEmph : ShowsLeaves ofLink env place (.strongEmph children) := by
  intro mode out hset
  obtain ⟨texts, htexts, rfl⟩ := setNode_strongEmph_eq_ok_iff.1 hset
  have hboth (body : Text) : body <:+: strongEmph body :=
    (infix_call "emph" body).trans (infix_call "strong" _)
  rw [leaves_eq]
  exact (inOrder_arrange h htexts).mono (infix_emphasized mode (hboth _))

theorem showsLeaves_paragraph : ShowsLeaves ofLink env .block (.paragraph children) := by
  intro mode out hset
  rw [setNode] at hset
  obtain ⟨texts, htexts, hset⟩ := bind_eq_ok_iff.1 hset
  rw [← pure_eq_ok_iff.1 hset, leaves_eq]
  exact inOrder_arrange h htexts

theorem showsLeaves_heading (level : Int) :
    ShowsLeaves ofLink env .block (.heading level children) := by
  intro mode out hset
  rw [setNode] at hset
  obtain ⟨texts, htexts, hset⟩ := bind_eq_ok_iff.1 hset
  rw [leaves_eq]
  exact (inOrder_arrange h htexts).mono (infix_heading (mapError_eq_ok_iff.1 hset))

theorem showsLeaves_listItem (indent : Int) (ordered : Bool) :
    ShowsLeaves ofLink env .block (.listItem indent ordered children) := by
  intro mode out hset
  rw [setNode] at hset
  obtain ⟨texts, htexts, hset⟩ := bind_eq_ok_iff.1 hset
  rw [← pure_eq_ok_iff.1 hset, leaves_eq]
  exact (inOrder_arrange h htexts).mono (infix_listItem indent ordered _)

end

theorem showsLeaves_table {header : List (List Node)} {rows : List (List (List Node))}
    (hheader : ∀ cell ∈ header, ∀ n ∈ cell, ShowsLeaves ofLink env .line n)
    (hrows : ∀ row ∈ rows, ∀ cell ∈ row, ∀ n ∈ cell, ShowsLeaves ofLink env .line n) :
    ShowsLeaves ofLink env .block (.table header rows) := by
  intro mode out hset
  rw [setNode] at hset
  obtain ⟨headerTexts, hheaderTexts, hset⟩ := bind_eq_ok_iff.1 hset
  obtain ⟨rowTexts, hrowTexts, hset⟩ := bind_eq_ok_iff.1 hset
  have hcells := inOrderAcross_setCells hheader hheaderTexts
  rw [List.take_length] at hcells
  have hhead := hcells.map infix_strongCell
  have hbody := inOrderAcross_setRows hrows hrowTexts
  rw [← pure_eq_ok_iff.1 hset, leaves_eq, shownInside, List.flatMap_append]
  exact (hhead.flatten.append hbody.flatten).mono (infix_tableMarkup headerTexts rowTexts)

/-- Nodes that fit at their place show their leaves. Cards, steps and tabs set the content of the
    elements inside them directly, so that the content is part of what the induction carries. -/
theorem showsLeaves_of_fitsIn (henv : env.ShowsLinks ofLink) {node : Node} (h : node.FitsIn place) :
    ShowsLeaves ofLink env place node ∧ ∀ c ∈ node.content, ShowsLeaves ofLink env place c := by
  have leaf {place : Place} {node : Node} (hcontent : node.content = [])
      (h : ShowsLeaves ofLink env place node) : ShowsLeaves ofLink env place node ∧
        ∀ c ∈ node.content, ShowsLeaves ofLink env place c := by
    rw [hcontent]
    exact ⟨h, fun c hc => absurd hc List.not_mem_nil⟩
  induction h with
  | text => exact leaf rfl (showsLeaves_text _)
  | code => exact leaf rfl (showsLeaves_code _)
  | link hline => exact leaf rfl (showsLeaves_link henv hline _)
  | image | rule | blank | codeBlock =>
    exact leaf rfl (showsLeaves_of_leaves_eq_nil (leaves_eq ofLink _))
  | strong h ih => exact leaf rfl (showsLeaves_strong fun n hn => (ih n hn).1)
  | emph h ih => exact leaf rfl (showsLeaves_emph fun n hn => (ih n hn).1)
  | strongEmph h ih => exact leaf rfl (showsLeaves_strongEmph fun n hn => (ih n hn).1)
  | paragraph h ih => exact leaf rfl (showsLeaves_paragraph fun n hn => (ih n hn).1)
  | heading hlevel h ih => exact leaf rfl (showsLeaves_heading (fun n hn => (ih n hn).1) _)
  | listItem indent ordered h ih =>
    exact leaf rfl (showsLeaves_listItem (fun n hn => (ih n hn).1) indent ordered)
  | table hheader hrows ihheader ihrows =>
    exact leaf rfl (showsLeaves_table (fun cell hcell n hn => (ihheader cell hcell n hn).1)
      fun row hrow cell hcell n hn => (ihrows row hrow cell hcell n hn).1)
  | inner attributes hname h ih =>
    exact ⟨showsLeaves_element (fun _ => rfl) h ih, fun c hc => (ih c hc).1⟩
  | outer attributes hname hblanks h ih =>
    -- A key stays within its line, so that it is no block.
    have hkey : "kbd".toList ∈ lineNames := by decide
    refine ⟨showsLeaves_element (fun heq => ?_) h ih, fun c hc => (ih c hc).1⟩
    exact absurd (heq ▸ hkey) hname.2

variable {context : Context}

/-- The text of a link is set as markup that shows its leaves. The induction is on its length, since
    the links inside are set as shorter texts. -/
theorem inOrder_setLinkText {s out : Text} (hs : OneLine s)
    (h : setLinkText context s = .ok out) : InOrder Leaf.Shown (linkLeaves s) out := by
  induction hlength : s.length using Nat.strongRecOn generalizing s out with
  | ind length ih =>
    rw [setLinkText] at h
    obtain ⟨texts, htexts, h⟩ := bind_eq_ok_iff.1 h
    rw [← pure_eq_ok_iff.1 h, linkLeaves]
    refine inOrder_arrange (fun n hn => ?_) htexts
    refine (showsLeaves_of_fitsIn (fun t body ht hbody => ?_) (parseInline_fitsIn hs n hn)).1
    simp only at hbody
    split at hbody
    · next hshorter =>
      rw [dif_pos hshorter]
      exact ih t.length (hlength ▸ hshorter) ht hbody rfl
    · next hlonger =>
      -- A text that is not shorter stands nowhere inside, and gives no leaf.
      rw [dif_neg hlonger]
      trivial

/-- All the prose and the code of a page is shown in the source that the page is set as, in the
order of the page: prose that is not blank in its escaped form, code as raw text, and what a key
holds as raw text too. Nothing is left out but the content of pictures and icons, the cells beyond
the header of their table, and what stands beside the cards, the steps or the tabs of a component
that has some. -/
theorem leaves_inOrder_of_setPage {page out : Text} (h : setPage context page = .ok out) :
    InOrder Leaf.Shown (pageLeaves page) out := by
  obtain ⟨texts, htexts, h⟩ := bind_eq_ok_iff.1 h
  rw [← pure_eq_ok_iff.1 h]
  have henv : context.env.ShowsLinks linkLeaves := fun t body ht hbody =>
    inOrder_setLinkText ht hbody
  exact inOrder_arrange
    (fun n hn => (showsLeaves_of_fitsIn henv ((parse_fitsIn page).2 n hn)).1) htexts

set_option maxRecDepth 4000 in
/-- Code, a key and the text of a link within a step. -/
theorem leaves_inOrder_of_setPage_step :
    ∃ page out, setPage ⟨none, []⟩ page = .ok out ∧
      pageLeaves page = [.code ['b'], .key [['k']], .prose ['c'] rfl] ∧
      InOrder Leaf.Shown (pageLeaves page) out := by
  have hparse : parse "<Step>\n\x60b\x60<kbd>k</kbd>[*c*](d)\n</Step>".toList =
      [.element "Step".toList [] [.blank, .paragraph [.code ['b'],
        .element "kbd".toList [] [.text ['k']] false, .link "*c*".toList ['d']]] true] := by
    with_unfolding_all rfl
  have hset : setPage ⟨none, []⟩ "<Step>\n\x60b\x60<kbd>k</kbd>[*c*](d)\n</Step>".toList =
      .ok "\x60b\x60\x60k\x60#strong[c]".toList := by
    rw [setPage, hparse]
    with_unfolding_all rfl
  have hleaves : pageLeaves "<Step>\n\x60b\x60<kbd>k</kbd>[*c*](d)\n</Step>".toList =
      [.code ['b'], .key [['k']], .prose ['c'] rfl] := by
    rw [pageLeaves, hparse]
    with_unfolding_all rfl
  exact ⟨_, _, hset, hleaves, leaves_inOrder_of_setPage hset⟩

set_option maxRecDepth 4000 in
/-- Beside a tab, a paragraph of the component that holds them is lost. -/
theorem exists_leaf_not_shown :
    ∃ page out t, parse page = [.element "Tabs".toList [] [.blank, .element "Tab".toList []
        [.blank, .paragraph [.text ['x']]] true, .paragraph [.text t]] true] ∧
      allBlank t = false ∧ setPage ⟨none, []⟩ page = .ok out ∧ ¬escape t <:+: out := by
  have hparse : parse "<Tabs>\n<Tab>\nx\n</Tab>\ny\n</Tabs>".toList =
      [.element "Tabs".toList [] [.blank, .element "Tab".toList []
        [.blank, .paragraph [.text ['x']]] true, .paragraph [.text ['y']]] true] := by
    with_unfolding_all rfl
  have hset : setPage ⟨none, []⟩ "<Tabs>\n<Tab>\nx\n</Tab>\ny\n</Tabs>".toList =
      .ok ['x'] := by
    rw [setPage, hparse]
    with_unfolding_all rfl
  exact ⟨_, _, ['y'], hparse, rfl, hset, by decide⟩

end Bindery.Typeset
