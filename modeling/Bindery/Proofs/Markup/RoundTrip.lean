import Bindery.Proofs.Markup.Outline

namespace Bindery.Markup.Outline

open Text

variable {o : Outline} {outlines : List Outline} {name : Text} {attributes : Pairs}

theorem passes_endLines {name : Text} {depth : Nat}
    (h : ∀ o ∈ outlines, Passes name (endLines (lines depth o))) :
    Passes name (endLines (linesAll depth outlines)) := by
  induction outlines with
  | nil => exact passes_nil
  | cons o rest ih =>
    rw [List.forall_mem_cons] at h
    rw [linesAll, endLines_append]
    exact h.1.append (ih h.2)

theorem passes_indent (name : Text) (depth : Nat) : Passes name (indent depth) := by
  refine passes_of_not_mem fun h => ?_
  exact absurd (List.eq_of_mem_replicate h) (by decide)

/-- The search for a closing tag passes a written tree. -/
theorem WellFormed.passes (h : o.WellFormed) (hname : IsTagName name) (depth : Nat) :
    Passes name (endLines (lines depth o)) := by
  have hnewline : Passes name ['\n'] := passes_of_not_mem (by decide)
  induction h generalizing depth with
  | @paragraph text hprose =>
    have hshape : endLines (lines depth (.paragraph text)) = indent depth ++ (text ++ ['\n']) := by
      simp [lines, endLines]
    rw [hshape]
    have htext : Passes name text := passes_of_not_mem (hprose.not_mem (by decide) (by decide))
    exact (passes_indent name depth).append (htext.append hnewline)
  | @element other attributes children hother _ _ hattributes hvalues hkeys _ ih =>
    have hshape : endLines (lines depth (.element other attributes children)) =
        indent depth ++ ((openTagText other attributes ++
          ((['\n'] ++ (endLines (linesAll (depth + 1) children) ++ indent depth)) ++
            closeTagText other)) ++ ['\n']) := by
      simp [lines, endLines]
    have hangle : ∀ a ∈ attributes, '<' ∉ a.2 := fun a ha => hvalues a ha '<' (by decide)
    have hchildren := passes_endLines fun child hchild => ih child hchild (depth + 1)
    have hbody := hnewline.append (hchildren.append (passes_indent name depth))
    rw [hshape]
    exact (passes_indent name depth).append
      ((passes_element hname hother hattributes hangle hkeys hbody).append hnewline)

theorem passes_contentText (h : ∀ o ∈ outlines, o.WellFormed) (hname : IsTagName name) :
    Passes name (contentText outlines) := by
  have hnewline : Passes name ['\n'] := passes_of_not_mem (by decide)
  exact hnewline.append (passes_endLines fun o ho => (h o ho).passes hname 1)

theorem not_mem_endLines {parts : List Text} {c : Char} (hc : c ≠ '\n')
    (h : ∀ l ∈ parts, c ∉ l) : c ∉ endLines parts := by
  intro hmem
  obtain ⟨l, hl, hmem⟩ := List.mem_flatMap.1 hmem
  rcases List.mem_append.1 hmem with hmem | hmem
  · exact h l hl hmem
  · exact hc (List.mem_singleton.1 hmem)

theorem unfenced_of_not_mem {s : Text} (htick : '\x60' ∉ s) (htilde : '~' ∉ s) : Unfenced s := by
  intro c hc
  rw [isFenceMark, Bool.or_eq_false_iff]
  have h₁ : c ≠ '\x60' := fun h => htick (h ▸ hc)
  have h₂ : c ≠ '~' := fun h => htilde (h ▸ hc)
  exact ⟨by simpa using h₁, by simpa using h₂⟩

theorem WellFormed.text_not_mem (h : o.WellFormed) {c : Char} (hc : c ∈ reserved) (hne : c ≠ '\n') :
    c ∉ text o := by
  intro hmem
  rcases mem_of_mem_joinWith hmem with hmem | ⟨l, hl, hmem⟩
  · exact hne (List.mem_singleton.1 hmem)
  · exact h.not_mem hc 0 l hl hmem

theorem WellFormed.unfenced (h : o.WellFormed) : Unfenced (text o) :=
  unfenced_of_not_mem (h.text_not_mem (by decide) (by decide))
    (h.text_not_mem (by decide) (by decide))

theorem resume_of_endsLine {tail : Text} (h : EndsLine tail) : Block.resume tail = tail.drop 1 := by
  have hline : line tail = [] := line_append_of_endsLine List.not_mem_nil h
  have hafter : afterLine tail = tail.drop 1 := afterLine_append_of_endsLine List.not_mem_nil h
  have hblank : restOfLineIsBlank tail = true := by
    rw [restOfLineIsBlank, hline]
    rfl
  rw [Block.resume, if_pos hblank, hafter]

theorem closeTag?_openTagText (hname : IsTagName name) (attributes : Pairs) (rest : Text) :
    closeTag? (openTagText name attributes ++ rest) = none := by
  have hclose := closeTag?_name hname (attributes.flatMap attributeText ++ '>' :: rest)
  simpa [openTagText] using hclose

/-- A name right after an angle bracket begins no comment. -/
theorem comment?_name (hname : IsTagName name) (rest : Text) :
    Block.comment? ('<' :: (name ++ rest)) = none := by
  obtain ⟨c, s, rfl, hc⟩ := hname.exists_cons
  have hmark : ('!' == c) = false := (beq_of_isAlpha hc (by decide)).2
  simp [Block.comment?, afterExpressionComment?, afterHypertextComment?, afterEnclosed?,
    expressionCommentStart, hypertextCommentStart, afterStart?, hmark]

theorem comment?_openTagText (hname : IsTagName name) (attributes : Pairs) (rest : Text) :
    Block.comment? (openTagText name attributes ++ rest) = none := by
  have hcomment := comment?_name hname (attributes.flatMap attributeText ++ '>' :: rest)
  simpa [openTagText] using hcomment

theorem afterHypertextComment?_openTagText (hname : IsTagName name) (attributes : Pairs)
    (rest : Text) : afterHypertextComment? (openTagText name attributes ++ rest) = none := by
  obtain ⟨d, s, rfl, hd⟩ := hname.exists_cons
  have hmark : ('!' == d) = false := (beq_of_isAlpha hd (by decide)).2
  simp [openTagText, afterHypertextComment?, afterEnclosed?, hypertextCommentStart, afterStart?,
    hmark]

/-- Within a line, an opening tag begins its element, or is dropped if it has no partner. -/
theorem ofTag?_openTagText (hname : IsTagName name) (hcomponent : isComponent name = true)
    (rest : Text) :
    Span.ofTag? (openTagText name [] ++ rest) =
      some ((closing? name false rest).elim (.hidden, rest)
        fun found => (.element name [] found.1, found.2)) := by
  have hopen := openTag?_written hname (List.forall_mem_nil _) List.nodup_nil rest
  rw [Span.ofTag?, afterHypertextComment?_openTagText hname, closeTag?_openTagText hname, hopen]
  simp only [hcomponent, Bool.not_true, Bool.false_eq_true, ↓reduceIte]
  cases closing? name false rest with
  | none => rfl
  | some found => rfl

theorem next_openTagText (hname : IsTagName name) (attributes : Pairs) (rest : Text) :
    Block.next (openTagText name attributes ++ rest) =
      (Block.element? (openTagText name attributes ++ rest)).getD
        (Block.ofLine (line (openTagText name attributes ++ rest)),
          afterLine (openTagText name attributes ++ rest)) :=
  next_angle (comment?_openTagText hname attributes rest)

variable {children : List Outline} {tail : Text}

/-- An element is found where its end is, unless it shares its only line with more text. -/
theorem element?_openTagText (hname : IsTagName name) (hcomponent : isComponent name = true)
    (hblock : name ∉ lineNames) (hattributes : ∀ a ∈ attributes, IsAttribute a)
    (hkeys : (attributes.map Prod.fst).Nodup) {after inside rest : Text}
    (hclose : closing? name false after = some (inside, rest)) (hlines : '\n' ∈ inside) :
    Block.element? (openTagText name attributes ++ after) =
      some (.element name attributes inside, Block.resume rest) := by
  have hopen := openTag?_written hname hattributes hkeys after
  have hnames : ¬(lineNames.contains name || !isComponent name) = true := by
    simp [hblock, hcomponent]
  have hnewline : inside.contains '\n' = true := by simpa using hlines
  rw [Block.element?, closeTag?_openTagText hname]
  simp only [Option.filter_none, hopen, if_neg hnames, hclose, hnewline, Bool.not_true,
    Bool.false_and, Bool.false_eq_true, ↓reduceIte]

/-- An element is found with its attributes and its content, and the reading goes on after its
    last line. -/
theorem element?_text (h : (Outline.element name attributes children).WellFormed)
    (htail : EndsLine tail) (hfences : Unfenced tail) :
    Block.element? (text (.element name attributes children) ++ tail) =
      some (.element name attributes (contentText children), tail.drop 1) := by
  have hall := h.unfenced.append hfences
  cases h with
  | element hname hcomponent hblock hattributes _ hkeys hchildren =>
    rw [text_element, List.append_assoc, List.append_assoc] at hall ⊢
    have hclose := closing?_of_passes hname (passes_contentText hchildren hname)
      (hall.of_subset (List.subset_append_right _ _)) false
    have hnewline : '\n' ∈ contentText children := List.mem_cons_self
    rw [element?_openTagText hname hcomponent hblock hattributes hkeys hclose hnewline,
      resume_of_endsLine htail]

theorem next_element (h : (Outline.element name attributes children).WellFormed)
    (htail : EndsLine tail) (hfences : Unfenced tail) :
    Block.next (text (.element name attributes children) ++ tail) =
      (.element name attributes (contentText children), tail.drop 1) := by
  have hfound := element?_text h htail hfences
  cases h with
  | element hname _ _ hattributes hvalues _ _ =>
    have hshape : text (.element name attributes children) ++ tail =
        openTagText name attributes ++ (contentText children ++ (closeTagText name ++ tail)) := by
      rw [text_element, List.append_assoc, List.append_assoc]
    rw [hshape] at hfound ⊢
    rw [next_openTagText hname, hfound, Option.getD_some]

/-- The text of the tree, with whatever lines follow, is read as its node and what these give. -/
def Reads (o : Outline) : Prop :=
  ∀ tail, EndsLine tail → Unfenced tail →
    blockNodes (text o ++ tail) = node o :: blockNodes (tail.drop 1)

theorem node_ne_blank (o : Outline) : node o ≠ .blank := by
  cases o with
  | paragraph => simp [node]
  | element => simp [node]

theorem ne_blank_of_mem_nodes : ∀ n ∈ nodes outlines, n ≠ .blank := by
  induction outlines with
  | nil => exact fun n hn => absurd hn List.not_mem_nil
  | cons o rest ih =>
    rw [nodes, List.forall_mem_cons]
    exact ⟨node_ne_blank o, ih⟩

theorem unfenced_endLines (h : ∀ o ∈ outlines, o.WellFormed) :
    Unfenced (endLines (linesAll 0 outlines)) := by
  have htick := not_mem_linesAll h (c := '\x60') (by decide) 0
  have htilde := not_mem_linesAll h (c := '~') (by decide) 0
  exact unfenced_of_not_mem (not_mem_endLines (by decide) htick)
    (not_mem_endLines (by decide) htilde)

theorem unfenced_newline_cons {s : Text} (h : Unfenced s) : Unfenced ('\n' :: s) := by
  intro c hc
  rcases List.mem_cons.1 hc with rfl | hc
  · decide
  · exact h c hc

theorem blockNodes_endLines (hreads : ∀ o ∈ outlines, Reads o)
    (h : ∀ o ∈ outlines, o.WellFormed) :
    blockNodes (endLines (linesAll 0 outlines)) = nodes outlines := by
  induction outlines with
  | nil => exact blockNodes_nil
  | cons o rest ih =>
    rw [List.forall_mem_cons] at hreads h
    rw [endLines_linesAll_cons, hreads.1 _ (.inr ⟨_, rfl⟩)
      (unfenced_newline_cons (unfenced_endLines h.2)), List.drop_one, List.tail_cons,
      ih hreads.2 h.2, nodes]

theorem text_ne_nil (h : o.WellFormed) : text o ≠ [] := by
  cases h with
  | paragraph hprose =>
    rw [text_paragraph]
    exact hprose.ne_nil
  | element =>
    rw [text_element]
    exact List.cons_ne_nil _ _

/-- The content of an element is a blank line and the nodes of the trees in it. -/
theorem children_element (name : Text) (attributes : Pairs)
    (hreads : ∀ o ∈ children, Reads o) (h : ∀ o ∈ children, o.WellFormed) :
    (Block.element name attributes (contentText children)).children = .blank :: nodes children := by
  have hblank : blockNodes ('\n' :: endLines (linesAll 0 children)) = .blank :: nodes children := by
    rw [blockNodes_of_leaf (List.cons_ne_nil _ _) (next_newline _), blockNodes_endLines hreads h]
  rw [Block.children, Block.inside, contentText, dedentContent_newline, dedent_linesAll h, hblank,
    mergeBlanks_blank_cons ne_blank_of_mem_nodes]

theorem reads_of_wellFormed (h : o.WellFormed) : Reads o := by
  induction h with
  | paragraph hprose =>
    intro tail htail _
    rw [text_paragraph, blockNodes_of_leaf (by simp [hprose.ne_nil]) (hprose.next htail), node]
  | element hname hcomponent hblock hattributes hvalues hkeys hchildren ih =>
    have helement := WellFormed.element hname hcomponent hblock hattributes hvalues hkeys hchildren
    intro tail htail hfences
    rw [blockNodes_of_next (by simp [text_ne_nil helement]) (next_element helement htail hfences),
      children_element _ _ ih hchildren, node]
    rfl

/-- The text of trees below each other. -/
def page (outlines : List Outline) : Text :=
  joinWith ['\n'] (linesAll 0 outlines)

theorem page_singleton (o : Outline) : page [o] = text o := by
  simp [page, linesAll, text]

theorem page_cons_cons (o next : Outline) (rest : List Outline) :
    page (o :: next :: rest) = text o ++ '\n' :: page (next :: rest) := by
  have hrest : linesAll 0 (next :: rest) ≠ [] := by
    simp [linesAll, lines_ne_nil]
  rw [page, linesAll, joinWith_append (lines_ne_nil 0 o) hrest, List.append_assoc,
    List.singleton_append]
  rfl

theorem page_not_mem (h : ∀ o ∈ outlines, o.WellFormed) {c : Char} (hc : c ∈ reserved)
    (hne : c ≠ '\n') : c ∉ page outlines := by
  intro hmem
  rcases mem_of_mem_joinWith hmem with hmem | ⟨l, hl, hmem⟩
  · exact hne (List.mem_singleton.1 hmem)
  · exact not_mem_linesAll h hc 0 l hl hmem

theorem blockNodes_page (h : ∀ o ∈ outlines, o.WellFormed) :
    blockNodes (page outlines) = nodes outlines := by
  induction outlines with
  | nil => exact blockNodes_nil
  | cons o rest ih =>
    rw [List.forall_mem_cons] at h
    have hfences : Unfenced (page rest) :=
      unfenced_of_not_mem (page_not_mem h.2 (by decide) (by decide))
        (page_not_mem h.2 (by decide) (by decide))
    cases rest with
    | nil =>
      have hread := reads_of_wellFormed h.1 [] (.inl rfl) hfences
      rwa [List.append_nil, List.drop_nil, blockNodes_nil, ← page_singleton] at hread
    | cons next rest =>
      have hends : EndsLine ('\n' :: page (next :: rest)) := .inr ⟨_, rfl⟩
      have hread := reads_of_wellFormed h.1 _ hends (unfenced_newline_cons hfences)
      rwa [List.drop_one, List.tail_cons, ih h.2, ← page_cons_cons] at hread

/-- Trees of elements are read back as they were written: every element with its name, its
attributes and exactly its own content, however deep it stands and whatever the elements around it
and inside it are called. A newline at the end of the page changes nothing. -/
theorem parse_page (outlines : List Outline) (h : ∀ o ∈ outlines, o.WellFormed) :
    parse (page outlines) = nodes outlines ∧
      parse (endLines (linesAll 0 outlines)) = nodes outlines := by
  have hmerge : mergeBlanks (nodes outlines) = nodes outlines :=
    mergeBlanks_of_forall ne_blank_of_mem_nodes
  have hreads : ∀ o ∈ outlines, Reads o := fun o ho => reads_of_wellFormed (h o ho)
  have hreturn : '\r' ∉ endLines (linesAll 0 outlines) :=
    not_mem_endLines (by decide) (not_mem_linesAll h (by decide) 0)
  constructor
  · rw [parse, normalizeNewlines_of_not_mem (page_not_mem h (by decide) (by decide)), parseBlocks,
      blockNodes_page h, hmerge]
  · rw [parse, normalizeNewlines_of_not_mem hreturn, parseBlocks, blockNodes_endLines hreads h,
      hmerge]

/-- A card in a card, beside an element whose name goes on from its own. -/
theorem parse_page_cards :
    parse ("<Card title=\"a>b\">\n  <CardGroup>\n    in it\n  </CardGroup>\n".toList ++
        "  <Card>\n  </Card>\n</Card>".toList) =
      [.element "Card".toList [("title".toList, "a>b".toList)]
        [.blank, .element "CardGroup".toList [] [.blank, .paragraph [.text "in it".toList]] true,
          .element "Card".toList [] [.blank] true] true] := by
  have hcard : IsTagName "Card".toList := ⟨by decide, by decide⟩
  have hgroup : IsTagName "CardGroup".toList := ⟨by decide, by decide⟩
  have hprose : IsProse "in it".toList := ⟨by decide, by decide, by decide, by decide⟩
  have htitle : IsAttribute ("title".toList, "a>b".toList) := ⟨by decide, by decide, by decide⟩
  have hvalue : ∀ c ∈ ['<', '\x60', '~', '\n', '\r'], c ∉ "a>b".toList := by simp
  have hinner : (element "Card".toList [] []).WellFormed :=
    .element hcard (by decide) (by decide) (by simp) (by simp) (by simp) (by simp)
  have hbeside : (element "CardGroup".toList [] [.paragraph "in it".toList]).WellFormed :=
    .element hgroup (by decide) (by decide) (by simp) (by simp) (by simp)
      (by simpa using WellFormed.paragraph hprose)
  have houter := WellFormed.element hcard (by decide) (by decide)
    (List.forall_mem_singleton.2 htitle) (List.forall_mem_singleton.2 hvalue) (by simp)
    (List.forall_mem_cons.2 ⟨hbeside, List.forall_mem_singleton.2 hinner⟩)
  exact (parse_page _ (List.forall_mem_singleton.2 houter)).1

end Bindery.Markup.Outline
