import Bindery.Typeset.Node

namespace Bindery.Typeset

open Text Typst

variable {env : Env} {place : Place} {mode : Mode} {children : List Node} {out : Text}

theorem bind_eq_ok_iff {ε α β : Type} {x : Except ε α} {f : α → Except ε β} {b : β} :
    (x >>= f) = .ok b ↔ ∃ a, x = .ok a ∧ f a = .ok b := by
  cases x <;> simp [bind, Except.bind]

theorem pure_eq_ok_iff {ε α : Type} {a b : α} : (pure a : Except ε α) = .ok b ↔ a = b := by
  simp [pure, Except.pure]

theorem mapError_eq_ok_iff {ε ε' α : Type} {x : Except ε α} {f : ε → ε'} {a : α} :
    x.mapError f = .ok a ↔ x = .ok a := by
  cases x with
  | ok b =>
    have hok : (Except.ok b : Except ε α).mapError f = .ok b := rfl
    rw [hok, Except.ok.injEq, Except.ok.injEq]
  | error e =>
    have herror : (Except.error e : Except ε α).mapError f = .error (f e) := rfl
    rw [herror]
    simp

theorem onlyAmongBlocks_eq_ok {text : Unit → Except SetError Text}
    (h : onlyAmongBlocks place text = .ok out) : text () = .ok out ∨ [] = out := by
  cases place with
  | block => exact .inl h
  | line => exact .inr (pure_eq_ok_iff.1 h)

theorem setNode_strong_eq_ok_iff : setNode env place mode (.strong children) = .ok out ↔
    ∃ texts, setNodes env .line mode children = .ok texts ∧
      emphasized mode strong (join texts) = out := by
  rw [setNode, bind_eq_ok_iff]
  simp only [pure_eq_ok_iff]

theorem setNode_emph_eq_ok_iff : setNode env place mode (.emph children) = .ok out ↔
    ∃ texts, setNodes env .line mode children = .ok texts ∧
      emphasized mode emph (join texts) = out := by
  rw [setNode, bind_eq_ok_iff]
  simp only [pure_eq_ok_iff]

theorem setNode_strongEmph_eq_ok_iff : setNode env place mode (.strongEmph children) = .ok out ↔
    ∃ texts, setNodes env .line mode children = .ok texts ∧
      emphasized mode strongEmph (join texts) = out := by
  rw [setNode, bind_eq_ok_iff]
  simp only [pure_eq_ok_iff]

theorem setNode_link_eq_ok_iff {t url : Text} : setNode env place mode (.link t url) = .ok out ↔
    ∃ body, env.linkText t = .ok body ∧ reference mode url body = .ok out := by
  rw [setNode, bind_eq_ok_iff]

/-- The text of a link stands by itself, as strong text, or in a link. -/
theorem reference_eq_ok {url body : Text} (h : reference mode url body = .ok out) :
    body = out ∨ strong body = out ∨ link url body = out := by
  rw [reference] at h
  split at h
  · exact .inl (pure_eq_ok_iff.1 h)
  · obtain ⟨kind, -, h⟩ := bind_eq_ok_iff.1 h
    cases kind with
    | inside => exact .inr (.inl (pure_eq_ok_iff.1 h))
    | mail => exact .inr (.inr (pure_eq_ok_iff.1 h))
    | outside => exact .inr (.inr (pure_eq_ok_iff.1 h))

/-- An image is set as its caption, as a link, or as a figure. -/
theorem image_eq_ok {context : Context} {alt src : Text}
    (h : context.image mode alt src = .ok out) :
    escape alt = out ∨ orElse (escape alt) (escape src) = out ∨
      link src (orElse (escape alt) (escape src)) = out ∨
      ∃ path, figure path (escape alt) = out := by
  rw [Context.image] at h
  split at h
  · exact .inl (pure_eq_ok_iff.1 h)
  · obtain ⟨remote, -, h⟩ := bind_eq_ok_iff.1 h
    cases remote with
    | true =>
      rw [if_pos rfl, pure_eq_ok_iff] at h
      split at h
      · exact .inr (.inr (.inl h))
      · exact .inr (.inl h)
    | false =>
      rw [if_neg (by decide)] at h
      cases hassets : context.assets with
      | none =>
        rw [hassets] at h
        exact .inr (.inr (.inr ⟨src, pure_eq_ok_iff.1 h⟩))
      | some assets =>
        rw [hassets] at h
        obtain ⟨path, -, h⟩ := bind_eq_ok_iff.1 h
        exact .inr (.inr (.inr ⟨path, pure_eq_ok_iff.1 h⟩))

theorem setNode_paragraph_eq_ok (h : setNode env place mode (.paragraph children) = .ok out) :
    [] = out ∨ ∃ texts, setNodes env .line mode children = .ok texts ∧ join texts = out := by
  rw [setNode] at h
  cases onlyAmongBlocks_eq_ok h with
  | inr hnil => exact .inl hnil
  | inl h =>
    obtain ⟨texts, htexts, h⟩ := bind_eq_ok_iff.1 h
    exact .inr ⟨texts, htexts, pure_eq_ok_iff.1 h⟩

theorem setNode_heading_eq_ok {level : Int}
    (h : setNode env place mode (.heading level children) = .ok out) :
    [] = out ∨ ∃ texts, setNodes env .line mode children = .ok texts ∧
      heading level (join texts) = .ok out := by
  rw [setNode] at h
  cases onlyAmongBlocks_eq_ok h with
  | inr hnil => exact .inl hnil
  | inl h =>
    obtain ⟨texts, htexts, h⟩ := bind_eq_ok_iff.1 h
    exact .inr ⟨texts, htexts, mapError_eq_ok_iff.1 h⟩

theorem setNode_listItem_eq_ok {indent : Int} {ordered : Bool}
    (h : setNode env place mode (.listItem indent ordered children) = .ok out) :
    [] = out ∨ ∃ texts, setNodes env .line mode children = .ok texts ∧
      listItem indent ordered (join texts) = out := by
  rw [setNode] at h
  cases onlyAmongBlocks_eq_ok h with
  | inr hnil => exact .inl hnil
  | inl h =>
    obtain ⟨texts, htexts, h⟩ := bind_eq_ok_iff.1 h
    exact .inr ⟨texts, htexts, pure_eq_ok_iff.1 h⟩

theorem setNode_table_eq_ok {header : List (List Node)} {rows : List (List (List Node))}
    (h : setNode env place mode (.table header rows) = .ok out) :
    [] = out ∨ ∃ headerTexts rowTexts, setCells env header.length header = .ok headerTexts ∧
      setRows env header.length rows = .ok rowTexts ∧ tableMarkup headerTexts rowTexts = out := by
  rw [setNode] at h
  cases onlyAmongBlocks_eq_ok h with
  | inr hnil => exact .inl hnil
  | inl h =>
    obtain ⟨headerTexts, hheader, h⟩ := bind_eq_ok_iff.1 h
    obtain ⟨rowTexts, hrows, h⟩ := bind_eq_ok_iff.1 h
    exact .inr ⟨headerTexts, rowTexts, hheader, hrows, pure_eq_ok_iff.1 h⟩

/-- The entry of a card: its markup with the label that its destination leads to. -/
def setCardEntry (env : Env) (attributes : Pairs) (body : Text) : Except SetError Text := do
  let label ← (env.context.resolveLabel (attributes.get "href".toList)).mapError .url
  return cardEntry attributes body label

/-- How the content of an element is set. -/
inductive Content
  | nothing
  /-- As it stands, in the given mode. -/
  | whole (mode : Mode)
  /-- Only what stands in the elements of the given name, in the given mode. -/
  | parts (name : Text) (mode : Mode)
  deriving DecidableEq

/-- How a component sets the content of its element. -/
def Component.setsContent (children : List Node) : Component → Content
  | .hidden | .key => .nothing
  | .card => .whole .card
  | .columns => partsOrWhole "Card".toList .card
  | .steps => partsOrWhole "Step".toList .full
  | .tabs => partsOrWhole "Tab".toList .full
  | .callout | .box _ | .step | .accordion | .update | .content => .whole .full
where
  /-- The elements of the name, or everything if there are none. -/
  partsOrWhole (name : Text) (mode : Mode) : Content :=
    if (Node.elements name children).isEmpty then .whole .full else .parts name mode

/-- The ways in which an element is set, with the text that each of them makes. -/
inductive SetElement (env : Env) (name : Text) (attributes : Pairs) (children : List Node)
    (block : Bool) : Text → Prop
  | hidden : SetElement env name attributes children block []
  | key (hname : Component.named name = .key) :
    SetElement env name attributes children block (rawSpan (plainTexts children))
  | card {texts : List Text} (hname : Component.named name = .card)
    (htexts : setNodes env (Place.ofBlock block) .card children = .ok texts) :
    SetElement env name attributes children block
      (cardMarkup attributes (arrange (Place.ofBlock block) children texts))
  | grid {entries : List Text} (hname : Component.named name = .columns)
    (hcontent : (Component.named name).setsContent children = .parts "Card".toList .card)
    (hentries : setElements env "Card".toList .card (setCardEntry env) children = .ok entries) :
    SetElement env name attributes children block (gridMarkup attributes entries)
  | steps {entries : List Text} (hname : Component.named name = .steps)
    (hcontent : (Component.named name).setsContent children = .parts "Step".toList .full)
    (hentries : setElements env "Step".toList .full
      (fun attributes body => .ok (stepEntry attributes body)) children = .ok entries) :
    SetElement env name attributes children block (stepsMarkup entries)
  | tabs {entries : List Text} (hname : Component.named name = .tabs)
    (hcontent : (Component.named name).setsContent children = .parts "Tab".toList .full)
    (hentries : setElements env "Tab".toList .full
      (fun attributes body => .ok (tabMarkup attributes body)) children = .ok entries) :
    SetElement env name attributes children block (joinWith ['\n', '\n'] entries)
  | content {texts : List Text}
    (hcontent : (Component.named name).setsContent children = .whole .full)
    (htexts : setNodes env (Place.ofBlock block) .full children = .ok texts) :
    SetElement env name attributes children block
      ((Component.named name).markup name attributes
        (arrange (Place.ofBlock block) children texts))

theorem setNode_element_eq_ok {name : Text} {attributes : Pairs} {block : Bool}
    (h : setNode env place mode (.element name attributes children block) = .ok out) :
    SetElement env name attributes children block out := by
  have content (hcontent : (Component.named name).setsContent children = .whole .full)
      (h : (setNodes env (Place.ofBlock block) .full children >>= fun texts =>
        pure ((Component.named name).markup name attributes
          (arrange (Place.ofBlock block) children texts))) = .ok out) :
      SetElement env name attributes children block out := by
    obtain ⟨texts, htexts, h⟩ := bind_eq_ok_iff.1 h
    exact pure_eq_ok_iff.1 h ▸ .content hcontent htexts
  rw [setNode] at h
  simp only at h
  cases hnamed : Component.named name with
  | hidden =>
    rw [hnamed] at h
    exact pure_eq_ok_iff.1 h ▸ .hidden
  | key =>
    rw [hnamed] at h
    exact pure_eq_ok_iff.1 h ▸ .key hnamed
  | card =>
    rw [hnamed] at h
    simp only [bind_assoc, pure_bind] at h
    obtain ⟨texts, htexts, h⟩ := bind_eq_ok_iff.1 h
    exact pure_eq_ok_iff.1 h ▸ .card hnamed htexts
  | columns =>
    rw [hnamed] at h content
    simp only at h
    split at h
    · next hnone => exact content (if_pos hnone) h
    · next hsome =>
      obtain ⟨entries, hentries, h⟩ := bind_eq_ok_iff.1 h
      exact pure_eq_ok_iff.1 h ▸ .grid hnamed (by rw [hnamed]; exact if_neg hsome) hentries
  | steps =>
    rw [hnamed] at h content
    simp only at h
    split at h
    · next hnone => exact content (if_pos hnone) h
    · next hsome =>
      obtain ⟨entries, hentries, h⟩ := bind_eq_ok_iff.1 h
      exact pure_eq_ok_iff.1 h ▸ .steps hnamed (by rw [hnamed]; exact if_neg hsome) hentries
  | tabs =>
    rw [hnamed] at h content
    simp only at h
    split at h
    · next hnone => exact content (if_pos hnone) h
    · next hsome =>
      obtain ⟨entries, hentries, h⟩ := bind_eq_ok_iff.1 h
      exact pure_eq_ok_iff.1 h ▸ .tabs hnamed (by rw [hnamed]; exact if_neg hsome) hentries
  | callout | box _ | step | accordion | update | content =>
    rw [hnamed] at h content
    simp only [bind_assoc, pure_bind] at h
    exact content rfl h

theorem exists_of_setNodes_cons {node : Node} {nodes : List Node} {outs : List Text}
    (h : setNodes env place mode (node :: nodes) = .ok outs) :
    ∃ out others, setNode env place mode node = .ok out ∧
      setNodes env place mode nodes = .ok others ∧ outs = out :: others := by
  rw [setNodes] at h
  obtain ⟨out, hout, h⟩ := bind_eq_ok_iff.1 h
  obtain ⟨others, hothers, h⟩ := bind_eq_ok_iff.1 h
  exact ⟨out, others, hout, hothers, (pure_eq_ok_iff.1 h).symm⟩

theorem exists_of_mem_setNodes {nodes : List Node} {outs : List Text} {t : Text}
    (h : setNodes env place mode nodes = .ok outs) (ht : t ∈ outs) :
    ∃ node ∈ nodes, setNode env place mode node = .ok t := by
  induction nodes generalizing outs with
  | nil =>
    rw [setNodes, pure_eq_ok_iff] at h
    simp [← h] at ht
  | cons node rest ih =>
    obtain ⟨out, outs', hout, houts, rfl⟩ := exists_of_setNodes_cons h
    rw [List.mem_cons] at ht
    cases ht with
    | inl heq => exact ⟨node, List.mem_cons_self, heq ▸ hout⟩
    | inr hmem =>
      obtain ⟨n, hn, hset⟩ := ih houts hmem
      exact ⟨n, List.mem_cons_of_mem node hn, hset⟩

/-- A cell that fills a row up is empty. The cells of a row beyond its width are cut off. -/
theorem exists_of_mem_setCells {width : Nat} {cells : List (List Node)} {outs : List Text}
    {t : Text} (h : setCells env width cells = .ok outs) (ht : t ∈ outs) :
    [] = t ∨ ∃ cell ∈ cells.take width, ∃ texts, setNodes env .line .plain cell = .ok texts ∧
      join texts = t := by
  induction cells generalizing width outs with
  | nil =>
    rw [setCells, pure_eq_ok_iff] at h
    rw [← h] at ht
    exact .inl (List.eq_of_mem_replicate ht).symm
  | cons cell rest ih =>
    cases width with
    | zero =>
      rw [setCells, pure_eq_ok_iff] at h
      simp [← h] at ht
    | succ width =>
      rw [setCells] at h
      obtain ⟨texts, htexts, h⟩ := bind_eq_ok_iff.1 h
      obtain ⟨outs', houts, h⟩ := bind_eq_ok_iff.1 h
      rw [← pure_eq_ok_iff.1 h, List.mem_cons] at ht
      rw [List.take_succ_cons]
      cases ht with
      | inl heq => exact .inr ⟨cell, List.mem_cons_self, texts, htexts, heq.symm⟩
      | inr hmem =>
        rcases ih houts hmem with hnil | ⟨c, hc, hset⟩
        · exact .inl hnil
        · exact .inr ⟨c, List.mem_cons_of_mem cell hc, hset⟩

theorem exists_of_mem_setRows {width : Nat} {rows : List (List (List Node))}
    {outs : List (List Text)} {texts : List Text} (h : setRows env width rows = .ok outs)
    (ht : texts ∈ outs) : ∃ row ∈ rows, setCells env width row = .ok texts := by
  induction rows generalizing outs with
  | nil =>
    rw [setRows, pure_eq_ok_iff] at h
    simp [← h] at ht
  | cons row rest ih =>
    rw [setRows] at h
    obtain ⟨cells, hcells, h⟩ := bind_eq_ok_iff.1 h
    obtain ⟨outs', houts, h⟩ := bind_eq_ok_iff.1 h
    rw [← pure_eq_ok_iff.1 h, List.mem_cons] at ht
    cases ht with
    | inl heq => exact ⟨row, List.mem_cons_self, heq ▸ hcells⟩
    | inr hmem =>
      obtain ⟨r, hr, hset⟩ := ih houts hmem
      exact ⟨r, List.mem_cons_of_mem row hr, hset⟩

theorem element_mem_elements {name : Text} {attributes : Pairs} {block : Bool} {nodes : List Node}
    (h : .element name attributes children block ∈ nodes) :
    .element name attributes children block ∈ Node.elements name nodes :=
  List.mem_filter.2 ⟨h, beq_self_eq_true name⟩

/-- Each entry comes from the attributes and the content of one of the elements. -/
theorem exists_of_mem_setElements {name : Text} {entry : Pairs → Text → Except SetError Text}
    {nodes : List Node} {outs : List Text} {t : Text}
    (h : setElements env name mode entry nodes = .ok outs) (ht : t ∈ outs) :
    ∃ attributes children block texts, .element name attributes children block ∈ nodes ∧
      setNodes env (Place.ofBlock block) mode children = .ok texts ∧
      entry attributes (arrange (Place.ofBlock block) children texts) = .ok t := by
  induction nodes generalizing outs with
  | nil =>
    rw [setElements, pure_eq_ok_iff] at h
    simp [← h] at ht
  | cons node rest ih =>
    have later {outs : List Text} (h : setElements env name mode entry rest = .ok outs)
        (ht : t ∈ outs) : ∃ attributes children block texts,
          .element name attributes children block ∈ node :: rest ∧
          setNodes env (Place.ofBlock block) mode children = .ok texts ∧
          entry attributes (arrange (Place.ofBlock block) children texts) = .ok t := by
      obtain ⟨attributes, children, block, texts, hmem, hset⟩ := ih h ht
      exact ⟨attributes, children, block, texts, List.mem_cons_of_mem node hmem, hset⟩
    unfold setElements at h
    split at h
    · next heq => cases heq
    · next n attributes children block rest' heq =>
      obtain ⟨rfl, rfl⟩ := List.cons.inj heq
      split at h
      · next hname =>
        obtain ⟨texts, htexts, h⟩ := bind_eq_ok_iff.1 h
        obtain ⟨text, htext, h⟩ := bind_eq_ok_iff.1 h
        obtain ⟨others, hothers, h⟩ := bind_eq_ok_iff.1 h
        rw [← pure_eq_ok_iff.1 h, List.mem_cons] at ht
        cases ht with
        | inl heq =>
          refine ⟨attributes, children, block, texts, ?_, htexts, heq ▸ htext⟩
          rw [eq_of_beq hname]
          exact List.mem_cons_self
        | inr hmem => exact later hothers hmem
      · exact later h ht
    · next heq =>
      obtain ⟨rfl, rfl⟩ := List.cons.inj heq
      exact later h ht

end Bindery.Typeset
