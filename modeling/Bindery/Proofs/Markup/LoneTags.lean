import Bindery.Proofs.Markup.RoundTrip

namespace Bindery.Markup

open Text

/-- A line of a page: prose, or a tag alone. -/
inductive PageLine
  | prose (text : Text)
  | opening (name : Text)
  | closing (name : Text)

namespace PageLine

/-- The line as it is written. -/
def text : PageLine → Text
  | .prose text => text
  | .opening name => openTagText name []
  | .closing name => closeTagText name

/-- Prose, or a tag whose name has a meaning. -/
inductive WellFormed : PageLine → Prop
  | prose {text : Text} (h : IsProse text) : WellFormed (.prose text)
  | opening {name : Text} (hname : IsTagName name) (hcomponent : isComponent name = true) :
    WellFormed (.opening name)
  | closing {name : Text} (hname : IsTagName name) (hcomponent : isComponent name = true) :
    WellFormed (.closing name)

/-- The prose of a line. -/
def prose? : PageLine → Option Text
  | .prose text => some text
  | _ => none

/-- The prose among the lines. -/
def proseOf (lines : List PageLine) : List Text :=
  lines.filterMap prose?

/-- No tag that opens an element is followed by one that closes it. -/
def Unpaired (lines : List PageLine) : Prop :=
  lines.Pairwise fun line later => ∀ name, line = .opening name → later ≠ .closing name

/-- The lines below each other. -/
def page (lines : List PageLine) : Text :=
  joinWith ['\n'] (lines.map text)

/-- What a line is read as where no tag has its partner. -/
def block : PageLine → Block
  | .prose text => .leaf (.paragraph [.text text])
  | .opening name => if lineNames.contains name then .leaf (.paragraph []) else .hidden
  | .closing _ => .hidden

/-- The node of a line. -/
def node? (line : PageLine) : Option Node :=
  line.block.node? []

variable {line : PageLine} {lines : List PageLine} {name tail : Text}

@[simp]
theorem proseOf_prose (t : Text) (lines : List PageLine) :
    proseOf (.prose t :: lines) = t :: proseOf lines := rfl

@[simp]
theorem proseOf_opening (name : Text) (lines : List PageLine) :
    proseOf (.opening name :: lines) = proseOf lines := rfl

@[simp]
theorem proseOf_closing (name : Text) (lines : List PageLine) :
    proseOf (.closing name :: lines) = proseOf lines := rfl

theorem isProse_of_mem_proseOf (h : ∀ line ∈ lines, line.WellFormed) {t : Text}
    (ht : t ∈ proseOf lines) : IsProse t := by
  obtain ⟨line, hline, hprose⟩ := List.mem_filterMap.1 ht
  cases h line hline with
  | prose h =>
    cases hprose
    exact h
  | opening _ _ => cases hprose
  | closing _ _ => cases hprose

/-- The marks of fences and the characters that end a line stand in no line. -/
theorem WellFormed.not_mem (h : line.WellFormed) {c : Char} (hc : c ∈ Outline.reserved) :
    c ∉ line.text := by
  cases h with
  | prose h =>
    have hletter := Outline.of_mem_reserved (p := (!Char.isAlpha ·)) (by decide) hc
    exact h.not_mem (by simpa using hletter) (Outline.ne_of_mem_reserved hc (by decide))
  | opening hname _ =>
    exact Outline.not_mem_openTagText hname (List.forall_mem_nil _) hc (List.forall_mem_nil _)
  | closing hname _ => exact Outline.not_mem_closeTagText hname hc

theorem WellFormed.text_ne_nil (h : line.WellFormed) : line.text ≠ [] := by
  cases h with
  | prose h => exact h.ne_nil
  | opening _ _ => exact List.cons_ne_nil _ _
  | closing _ _ => exact List.cons_ne_nil _ _

/-- The later lines of a page, each after its newline. -/
def below (lines : List PageLine) : Text :=
  (lines.map text).flatMap ('\n' :: ·)

theorem page_cons (line : PageLine) (lines : List PageLine) :
    page (line :: lines) = line.text ++ below lines :=
  joinWith_newline line.text (lines.map text)

theorem endsLine_below (lines : List PageLine) : EndsLine (below lines) :=
  endsLine_newlines (lines.map text)

theorem drop_one_below (lines : List PageLine) : (below lines).drop 1 = page lines :=
  drop_one_newlines (lines.map text)

theorem below_cons (line : PageLine) (lines : List PageLine) :
    below (line :: lines) = '\n' :: (line.text ++ below lines) :=
  rfl

theorem unfenced_below (h : ∀ line ∈ lines, line.WellFormed) : Unfenced (below lines) := by
  have hmark (c : Char) (hc : c ∈ Outline.reserved) (hnewline : c ≠ '\n') : c ∉ below lines := by
    intro hmem
    obtain ⟨part, hpart, hmem⟩ := List.mem_flatMap.1 hmem
    obtain ⟨line, hline, rfl⟩ := List.mem_map.1 hpart
    exact (List.mem_cons.1 hmem).elim hnewline ((h line hline).not_mem hc)
  exact Outline.unfenced_of_not_mem (hmark '\x60' (by decide) (by decide))
    (hmark '~' (by decide) (by decide))

/-- A search goes over a line, on its level or further down, if the line does not close what is
    searched. -/
theorem exists_closingIn?_text (hname : IsTagName name) (h : line.WellFormed)
    (hopen : line ≠ .closing name) (depth : Nat) : ∃ depth', ∀ rest,
      closingIn? name (depth + 1) 0 (line.text ++ rest) =
        prepend line.text (closingIn? name (depth' + 1) 0 rest) := by
  cases h with
  | prose h =>
    have hpasses : Passes name _ := passes_of_not_mem (h.not_mem (c := '<') (by decide) (by decide))
    exact ⟨depth, hpasses depth⟩
  | @opening other hother _ =>
    by_cases heq : name = other
    · subst heq
      exact ⟨depth + 1, closingIn?_open hname (List.forall_mem_nil _) (List.forall_mem_nil _)
        List.nodup_nil (depth + 1)⟩
    · exact ⟨depth, passes_open hname hother heq (List.forall_mem_nil _) (List.forall_mem_nil _)
        List.nodup_nil depth⟩
  | @closing other hother _ =>
    have hne : name ≠ other := fun heq => hopen (congrArg _ heq.symm)
    exact ⟨depth, passes_close hname hother hne depth⟩

theorem closingIn?_below (hname : IsTagName name)
    (h : ∀ line ∈ lines, line.WellFormed ∧ line ≠ .closing name) (depth : Nat) :
    closingIn? name (depth + 1) 0 (below lines) = none := by
  induction lines generalizing depth with
  | nil => rfl
  | cons line lines ih =>
    rw [List.forall_mem_cons] at h
    obtain ⟨depth', hline⟩ := exists_closingIn?_text hname h.1.1 h.1.2 depth
    have hnewline : Passes name ['\n'] := passes_of_not_mem (by decide)
    have hcut := hnewline depth (line.text ++ below lines)
    rw [List.singleton_append] at hcut
    rw [below_cons, hcut, hline, ih h.2]
    rfl

theorem closing?_below (hname : IsTagName name) (h : ∀ line ∈ lines, line.WellFormed)
    (hopen : ∀ line ∈ lines, line ≠ .closing name) : closing? name false (below lines) = none := by
  rw [closing?, closingFrom?_of_unfenced (unfenced_below h)]
  exact closingIn?_below hname (fun line hline => ⟨h line hline, hopen line hline⟩) 0

theorem comment?_slash (s : Text) : Block.comment? ('<' :: '/' :: s) = none := by
  simp [Block.comment?, afterExpressionComment?, afterHypertextComment?, afterEnclosed?,
    expressionCommentStart, hypertextCommentStart, afterStart?]

/-- A closing tag without a partner is dropped with its line. -/
theorem next_closeTagText (hname : IsTagName name) (hcomponent : isComponent name = true)
    (htail : EndsLine tail) : Block.next (closeTagText name ++ tail) = (.hidden, tail.drop 1) := by
  have helement : Block.element? (closeTagText name ++ tail) = some (.hidden, tail.drop 1) := by
    rw [Block.element?, closeTag?_written hname]
    simp only [Option.filter_some, hcomponent, ↓reduceIte, Outline.resume_of_endsLine htail]
  rw [closeTagText, List.cons_append, List.cons_append] at helement ⊢
  rw [next_angle (comment?_slash _), helement, Option.getD_some]

/-- An opening tag without a partner is dropped with its line. -/
theorem next_openTagText_of_block (hname : IsTagName name) (hcomponent : isComponent name = true)
    (hblock : name ∉ lineNames) (hclose : closing? name false tail = none)
    (htail : EndsLine tail) :
    Block.next (openTagText name [] ++ tail) = (.hidden, tail.drop 1) := by
  have hopen := openTag?_written hname (List.forall_mem_nil _) List.nodup_nil tail
  have hnames : ¬(lineNames.contains name || !isComponent name) = true := by
    simp [hblock, hcomponent]
  have helement : Block.element? (openTagText name [] ++ tail) = some (.hidden, tail.drop 1) := by
    rw [Block.element?, Outline.closeTag?_openTagText hname]
    simp only [Option.filter_none, hopen, if_neg hnames, hclose, Bool.false_eq_true, ↓reduceIte,
      Outline.resume_of_endsLine htail]
  rw [Outline.next_openTagText hname, helement, Option.getD_some]

/-- In a line of its own, an opening tag is all that there is, and is dropped. -/
theorem parseInline_openTagText (hname : IsTagName name) (hcomponent : isComponent name = true) :
    parseInline (openTagText name []) = [] := by
  have hat : Span.at? false (openTagText name []) = some (.hidden, []) := by
    have htag := Outline.ofTag?_openTagText hname hcomponent []
    rw [List.append_nil, closing?, closingFrom?] at htag
    exact htag
  rw [openTagText] at hat ⊢
  rw [parseInline, pieces_of_at? hat, pieces_nil]
  rfl

theorem lineNode?_openTagText (hname : IsTagName name) (hcomponent : isComponent name = true) :
    lineNode? (openTagText name []) = some (.paragraph []) := by
  have hlast : (openTagText name []).getLast? = some '>' :=
    List.getLast?_concat (l := '<' :: name)
  have himport : beforeQuotedEnd? (openTagText name []) = none :=
    beforeQuotedEnd?_of_getLast hlast (by decide) (by decide) (by decide)
  have hexport : afterWordAndBlank? "export".toList (openTagText name []) = none := rfl
  have hstatement : isStatement (openTagText name []) = false := by
    rw [isStatement, himport, hexport]
    rfl
  have htrim : trimEnd (openTagText name []) = openTagText name [] :=
    dropEndWhile_of_getLast hlast (by decide)
  have hheading : heading? (openTagText name []) = none := rfl
  have hrule : isRule (openTagText name []) = false := by
    simp [isRule, openTagText, isGap]
  have hitem : listItem? (openTagText name []) = none := rfl
  rw [lineNode?, hstatement]
  simp only [Bool.false_eq_true, ↓reduceIte, hheading, hrule, hitem, htrim,
    parseInline_openTagText hname hcomponent]

/-- An opening tag of an element that only stands within a line leaves its line behind, as a
    paragraph of nothing. -/
theorem next_openTagText_of_line (hname : IsTagName name) (hcomponent : isComponent name = true)
    (hline : name ∈ lineNames) (htail : EndsLine tail) :
    Block.next (openTagText name [] ++ tail) = (.leaf (.paragraph []), tail.drop 1) := by
  have hopen := openTag?_written hname (List.forall_mem_nil _) List.nodup_nil tail
  have hnames : (lineNames.contains name || !isComponent name) = true := by simp [hline]
  have helement : Block.element? (openTagText name [] ++ tail) = none := by
    rw [Block.element?, Outline.closeTag?_openTagText hname]
    simp only [Option.filter_none, hopen, if_pos hnames]
  have hnewline : '\n' ∉ openTagText name [] :=
    (WellFormed.opening hname hcomponent).not_mem (by decide)
  rw [Outline.next_openTagText hname, helement, Option.getD_none,
    line_append_of_endsLine hnewline htail, afterLine_append_of_endsLine hnewline htail,
    Block.ofLine, lineNode?_openTagText hname hcomponent]

/-- A line is read as its own block, whatever lines follow it, if none of them closes an element
    that it opens. -/
theorem next_text (h : line.WellFormed) (hlines : ∀ line ∈ lines, line.WellFormed)
    (hopen : ∀ later ∈ lines, ∀ name, line = .opening name → later ≠ .closing name) :
    Block.next (line.text ++ below lines) = (line.block, page lines) := by
  have htail := endsLine_below lines
  rw [← drop_one_below]
  cases h with
  | prose h => exact h.next htail
  | @opening name hname hcomponent =>
    rw [block]
    split
    · next hline =>
      exact next_openTagText_of_line hname hcomponent (List.contains_iff_mem.1 hline) htail
    · next hcontains =>
      have hblock : name ∉ lineNames := by simpa using hcontains
      have hclose := closing?_below hname hlines fun later hlater => hopen later hlater name rfl
      exact next_openTagText_of_block hname hcomponent hblock hclose htail
  | closing hname hcomponent => exact next_closeTagText hname hcomponent htail

theorem node?_block (line : PageLine) (children : List Node) :
    line.block.node? children = line.node? := by
  cases line with
  | prose text => rfl
  | closing name => rfl
  | opening name =>
    rw [node?, block]
    split <;> rfl

theorem node?_ne_blank (line : PageLine) : line.node? ≠ some .blank := by
  cases line with
  | prose text => simp [node?, block, Block.node?]
  | closing name => simp [node?, block, Block.node?]
  | opening name =>
    rw [node?, block]
    split <;> simp [Block.node?]

theorem blockNodes_page (h : ∀ line ∈ lines, line.WellFormed) (hunpaired : Unpaired lines) :
    blockNodes (page lines) = lines.filterMap node? := by
  induction lines with
  | nil => exact blockNodes_nil
  | cons line lines ih =>
    rw [List.forall_mem_cons] at h
    obtain ⟨hopen, hlater⟩ := List.pairwise_cons.1 hunpaired
    have hne : line.text ++ below lines ≠ [] := List.append_ne_nil_of_left_ne_nil h.1.text_ne_nil _
    rw [page_cons, blockNodes_of_next hne (next_text h.1 h.2 hopen), node?_block, ih h.2 hlater]
    cases hnode : line.node? with
    | none => rw [List.filterMap_cons_none hnode]; rfl
    | some node => rw [List.filterMap_cons_some hnode]; rfl

/-- Lines without pairs of tags are read one by one. -/
theorem parse_lines (h : ∀ line ∈ lines, line.WellFormed) (hunpaired : Unpaired lines) :
    parse (page lines) = lines.filterMap node? := by
  have hreturn : '\r' ∉ page lines := by
    intro hmem
    rcases mem_of_mem_joinWith hmem with hmem | ⟨part, hpart, hmem⟩
    · exact absurd (List.mem_singleton.1 hmem) (by decide)
    · obtain ⟨line, hline, rfl⟩ := List.mem_map.1 hpart
      exact (h line hline).not_mem (by decide) hmem
  have hblank : ∀ node ∈ lines.filterMap node?, node ≠ .blank := by
    rintro node hnode rfl
    obtain ⟨line, -, hline⟩ := List.mem_filterMap.1 hnode
    exact node?_ne_blank line hline
  rw [parse, normalizeNewlines_of_not_mem hreturn, parseBlocks, blockNodes_page h hunpaired,
    mergeBlanks_of_forall hblank]

end PageLine

end Bindery.Markup
