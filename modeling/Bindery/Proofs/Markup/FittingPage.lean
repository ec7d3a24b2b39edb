import Bindery.Proofs.Markup.Fitting
import Bindery.Proofs.Markup.Progress
import Bindery.Proofs.Text.Dedent

namespace Bindery.Markup

open Text Typeset

variable {s t rest : Text}

theorem oneLine_line (hs : '\r' ∉ s) : OneLine (line s) :=
  ⟨newline_not_mem_line s, fun h => hs ((List.takeWhile_prefix _).subset h)⟩

theorem dropClosingMarks_subset (s : Text) : dropClosingMarks s ⊆ s := by
  have hunmarked := (prefix_dropEndWhile isGap s).subset
  rw [dropClosingMarks]
  split
  · exact List.Subset.trans
      ((prefix_dropEndWhile _ _).trans (prefix_dropEndWhile _ _)).subset hunmarked
  · exact hunmarked

theorem heading?_parts {level : Nat} (h : heading? s = some (level, t)) :
    (1 ≤ level ∧ level ≤ 4) ∧ t ⊆ s := by
  have hafter := (List.dropWhile_suffix (l := s) (· == '#')).subset
  rw [heading?] at h
  split at h
  · next hlevel =>
    simp only [Bool.and_eq_true, decide_eq_true_eq] at hlevel
    split at h
    · cases h
      exact ⟨hlevel.1, List.Subset.trans (dropClosingMarks_subset _)
        (List.Subset.trans (List.dropWhile_suffix _).subset hafter)⟩
    · split at h
      · cases h
        exact ⟨hlevel.1, List.Subset.trans (List.drop_subset _ _)
          (List.Subset.trans (List.takeWhile_prefix _).subset hafter)⟩
      · cases h
  · cases h

theorem listMarker?_suffix {ordered : Bool} (h : listMarker? s = some (ordered, rest)) :
    rest <:+ s := by
  cases s with
  | nil => cases h
  | cons c s =>
    rw [listMarker?] at h
    split at h
    · cases h
      exact List.suffix_cons c _
    · split at h
      · have hdrop := List.dropWhile_suffix (l := s) isDigit
        split at h
        · next d r heq =>
          split at h
          · cases h
            rw [heq] at hdrop
            exact ((List.suffix_cons d rest).trans hdrop).trans (List.suffix_cons c s)
          · cases h
        · cases h
      · cases h

theorem listItem?_subset {indent : Nat} {ordered : Bool}
    (h : listItem? s = some (indent, ordered, t)) : t ⊆ s := by
  rw [listItem?] at h
  split at h
  · next hmarker =>
    simp only at h
    split at h
    · cases h
      have hafter := ((listMarker?_suffix hmarker).trans (List.dropWhile_suffix _)).subset
      exact List.Subset.trans (prefix_dropEndWhile _ _).subset
        (List.Subset.trans (List.dropWhile_suffix _).subset hafter)
    · cases h
  · cases h

theorem lineNode?_fitsIn {node : Node} (hs : OneLine s) (h : lineNode? s = some node) :
    node.FitsIn .block := by
  rw [lineNode?] at h
  split at h
  · cases h
  · split at h
    · next hheading =>
      cases h
      obtain ⟨⟨hlow, hhigh⟩, hpart⟩ := heading?_parts hheading
      exact .heading ⟨by omega, by omega⟩ (parseInline_fitsIn (hs.of_subset hpart))
    · split at h
      · cases h
        exact .rule
      · split at h
        · next hitem =>
          cases h
          exact .listItem _ _ (parseInline_fitsIn (hs.of_subset (listItem?_subset hitem)))
        · cases h
          exact .paragraph
            (parseInline_fitsIn (hs.of_subset (prefix_dropEndWhile _ _).subset))

theorem subset_of_mem_splitBars {escaped : Bool} (h : t ∈ splitBars escaped s) : t ⊆ s := by
  induction s generalizing escaped t with
  | nil =>
    rw [splitBars, List.mem_singleton] at h
    exact h ▸ List.Subset.refl []
  | cons c s ih =>
    have hlater := List.subset_cons_self c s
    rw [splitBars] at h
    split at h
    · rcases List.mem_cons.1 h with rfl | h
      · exact List.nil_subset _
      · exact List.Subset.trans (ih h) hlater
    · split at h
      · rw [List.mem_singleton] at h
        exact h ▸ List.cons_subset_cons c (List.nil_subset s)
      · next first others heq =>
        have hpart {t : Text} (ht : t ∈ first :: others) : t ⊆ s := ih (heq ▸ ht)
        rcases List.mem_cons.1 h with rfl | h
        · exact List.cons_subset_cons c (hpart List.mem_cons_self)
        · exact List.Subset.trans (hpart (List.mem_cons_of_mem first h)) hlater

theorem unescapeBars_subset (s : Text) : unescapeBars s ⊆ s := by
  fun_induction unescapeBars s with
  | case1 => exact List.Subset.refl []
  | case2 s ih =>
    exact List.Subset.trans (List.cons_subset_cons '|' ih) (List.subset_cons_self '\\' _)
  | case3 c s _ ih => exact List.cons_subset_cons c ih

theorem subset_of_mem_rowCells (h : t ∈ rowCells s) : t ⊆ s := by
  obtain ⟨cell, hcell, rfl⟩ := List.mem_map.1 h
  have hpart := subset_of_mem_splitBars (List.drop_subset 1 _ (List.dropLast_subset _ hcell))
  have htrim (s : Text) : trim s ⊆ s := (infix_trimClass isBlank s).subset
  have hkept := List.Subset.trans (unescapeBars_subset _) (htrim cell)
  exact List.Subset.trans hkept (List.Subset.trans hpart (htrim s))

/-- Each cell of the rows is part of one line of the text. -/
theorem tableRows_oneLine (hs : '\r' ∉ s) :
    ∀ row ∈ (tableRows s).1, ∀ cell ∈ row, OneLine cell := by
  fun_induction tableRows s with
  | case1 => exact fun row h => absurd h List.not_mem_nil
  | case2 c s _ rows rest heq ih =>
    have hline := oneLine_line hs
    have hrows := ih fun h => hs ((afterLine_suffix (c :: s)).subset h)
    rw [heq] at hrows
    exact List.forall_mem_cons.2
      ⟨fun cell hcell => hline.of_subset (subset_of_mem_rowCells hcell), hrows⟩
  | case3 => exact fun row h => absurd h List.not_mem_nil

theorem table?_fitsIn {node : Node} (hs : '\r' ∉ s) (h : table? s = some (node, rest)) :
    node.FitsIn .block := by
  rw [table?] at h
  simp only at h
  split at h
  · cases h
    have hlater := (afterLine_suffix (afterLine s)).trans (afterLine_suffix s)
    have hrows := tableRows_oneLine (s := afterLine (afterLine s))
      fun h => hs (hlater.subset h)
    refine .table ?_ ?_
    · intro cell hcell
      obtain ⟨t, ht, rfl⟩ := List.mem_map.1 hcell
      exact parseInline_fitsIn ((oneLine_line hs).of_subset (subset_of_mem_rowCells ht))
    · intro row hrow cell hcell
      obtain ⟨cells, hcells, rfl⟩ := List.mem_map.1 hrow
      obtain ⟨t, ht, rfl⟩ := List.mem_map.1 hcell
      exact parseInline_fitsIn (hrows cells hcells t ht)
  · cases h

theorem codeBlock_fitsIn (fence : Fence) (lines : List Text) :
    Node.FitsIn .block (.codeBlock fence.language (Fence.code lines)) := by
  refine .codeBlock (fun c hc => ?_) ⟨fun hfirst => ?_, fun hlast => ?_⟩
  · have hkept := List.all_eq_true.1 List.all_takeWhile c hc
    simpa [and_assoc] using hkept
  · have hhead := head?_trimClass (· == '\n') (joinWith ['\n'] lines)
    rw [Fence.code] at hfirst
    rw [hfirst] at hhead
    cases hhead
  · have hend := getLast?_dropEndWhile (· == '\n')
      ((joinWith ['\n'] lines).dropWhile (· == '\n'))
    rw [Fence.code, trimClass] at hlast
    rw [hlast] at hend
    cases hend

namespace Block

/-- A block whose content is text of a page, and that makes a node that fits among blocks if the
    nodes of its content do. -/
structure FitsIn (block : Block) : Prop where
  inside : '\r' ∉ block.inside
  node : ∀ children, SingleBlanks children → (∀ n ∈ children, Node.FitsIn .block n) →
    ∀ n ∈ block.node? children, n.FitsIn .block

theorem fitsIn_hidden : FitsIn .hidden where
  inside := List.not_mem_nil
  node := fun children _ _ n hn => by cases hn

theorem fitsIn_leaf {node : Node} (h : node.FitsIn .block) : FitsIn (.leaf node) where
  inside := List.not_mem_nil
  node := fun children _ _ n hn => by
    cases hn
    exact h

theorem fitsIn_element {name inside : Text} (attributes : Pairs)
    (hname : isComponent name = true ∧ name ∉ lineNames) (hinside : '\r' ∉ inside) :
    FitsIn (.element name attributes inside) where
  inside := hinside
  node := fun children hblanks hchildren n hn => by
    cases hn
    exact .outer attributes hname hblanks hchildren

theorem fitsIn_ofLine (hs : OneLine s) : (ofLine s).FitsIn := by
  rw [ofLine]
  cases hnode : lineNode? s with
  | none => exact fitsIn_hidden
  | some node => exact fitsIn_leaf (lineNode?_fitsIn hs hnode)

theorem element?_fitsIn {block : Block} (hs : '\r' ∉ s) (h : element? s = some (block, rest)) :
    block.FitsIn := by
  unfold element? at h
  split at h
  · cases h
    exact fitsIn_hidden
  · split at h
    · cases h
    · next tag after hopen =>
      have hafter := suffix_of_openTag? hopen
      split at h
      · cases h
      · next hname =>
        have hfits : isComponent tag.name = true ∧ tag.name ∉ lineNames := by
          simpa [not_or, and_comm] using hname
        split at h
        · cases h
          exact fitsIn_element _ hfits List.not_mem_nil
        · split at h
          · cases h
            exact fitsIn_hidden
          · next inside later hclosing =>
            split at h
            · cases h
            · obtain ⟨rfl, rfl⟩ := Prod.mk.inj (Option.some.inj h)
              have hinside := (parts_of_closingFrom? hclosing).1
              exact fitsIn_element _ hfits fun h => hs (hafter.subset (hinside.subset h))

theorem nextUnfenced_fitsIn (hs : '\r' ∉ s) : (nextUnfenced s).1.FitsIn := by
  have hstart := List.dropWhile_suffix (l := s) isBlank
  rw [nextUnfenced]
  split
  · exact fitsIn_hidden
  · split
    · next helement => exact element?_fitsIn (fun h => hs (hstart.subset h)) helement
    · split
      · next htable => exact fitsIn_leaf (table?_fitsIn hs htable)
      · exact fitsIn_ofLine (oneLine_line hs)

/-- What a page begins with fits. -/
theorem next_fitsIn (hs : '\r' ∉ s) : (next s).1.FitsIn := by
  rw [next]
  split
  · exact fitsIn_leaf .blank
  · split
    · next fence _ => exact fitsIn_leaf (codeBlock_fitsIn fence _)
    · exact nextUnfenced_fitsIn hs

end Block

theorem singleBlanks_cons {node : Node} {nodes : List Node}
    (h : node = .blank → nodes.head? ≠ some .blank) (hnodes : SingleBlanks nodes) :
    SingleBlanks (node :: nodes) := by
  intro hpair
  rcases List.infix_cons_iff.1 hpair with hstart | hlater
  · obtain ⟨hfirst, hrest⟩ := List.cons_prefix_cons.1 hstart
    obtain ⟨others, rfl⟩ := hrest
    exact h hfirst.symm rfl
  · exact hnodes hlater

theorem singleBlanks_mergeBlanks (nodes : List Node) : SingleBlanks (mergeBlanks nodes) := by
  induction nodes with
  | nil =>
    intro hpair
    cases List.infix_nil.1 hpair
  | cons node nodes ih =>
    by_cases hnode : node = .blank
    · subst hnode
      rcases mergeBlanks_blank_cons_eq nodes with ⟨hhead, heq⟩ | ⟨rest, hrest, heq⟩
      · rw [heq]
        exact singleBlanks_cons (fun _ => hhead) ih
      · rw [heq, ← hrest]
        exact ih
    · rw [mergeBlanks_cons_of_ne hnode]
      exact singleBlanks_cons (fun heq => absurd heq hnode) ih

theorem blockNodes_fitsIn (hs : '\r' ∉ s) : ∀ n ∈ blockNodes s, n.FitsIn .block := by
  induction hlength : s.length using Nat.strongRecOn generalizing s with
  | ind length ih =>
    by_cases hempty : s = []
    · subst hempty
      rw [blockNodes_nil]
      exact fun n hn => absurd hn List.not_mem_nil
    · have hfits := Block.next_fitsIn hs
      have hrest := Block.next_suffix s
      obtain ⟨hshorter, hinside⟩ := Block.length_next_lt hempty
      have hcontent := not_mem_dedentContent (c := '\r') (by decide) hfits.inside
      have hcontentLength := Nat.lt_of_le_of_lt (length_dedentContent_le _) hinside
      have hchildren := ih _ (hlength ▸ hcontentLength) hcontent rfl
      rw [blockNodes_of_next hempty rfl]
      intro n hn
      rcases List.mem_append.1 hn with hn | hn
      · refine hfits.node _ (singleBlanks_mergeBlanks _) ?_ n (Option.mem_toList.1 hn)
        exact fun child hchild => hchildren child (mem_of_mem_mergeBlanks hchild)
      · exact ih _ (hlength ▸ hshorter) (fun h => hs (hrest.subset h)) rfl n hn

/-- Every page is read as blocks that fit, without two blank lines next to each other. -/
theorem parse_fitsIn (page : Text) :
    SingleBlanks (parse page) ∧ ∀ n ∈ parse page, n.FitsIn .block := by
  refine ⟨singleBlanks_mergeBlanks _, fun n hn => ?_⟩
  exact blockNodes_fitsIn (not_mem_normalizeNewlines page) n (mem_of_mem_mergeBlanks hn)

end Bindery.Markup
