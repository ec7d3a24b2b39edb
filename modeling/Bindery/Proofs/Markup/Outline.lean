import Bindery.Proofs.Markup.Closing
import Bindery.Proofs.Markup.Prose
import Bindery.Proofs.Text.Dedent

namespace Bindery.Markup

open Text

/-- A line of prose, or an element around further ones. -/
inductive Outline
  | paragraph (text : Text)
  | element (name : Text) (attributes : Pairs) (children : List Outline)

namespace Outline

/-- Two spaces for each element around a line. -/
def indent (depth : Nat) : Text :=
  List.replicate (2 * depth) ' '

mutual

/-- The lines of a tree that stands inside so many elements. -/
def lines (depth : Nat) : Outline → List Text
  | .paragraph text => [indent depth ++ text]
  | .element name attributes children =>
    (indent depth ++ openTagText name attributes) ::
      (linesAll (depth + 1) children ++ [indent depth ++ closeTagText name])

/-- The lines of trees below each other. -/
def linesAll (depth : Nat) : List Outline → List Text
  | [] => []
  | outline :: rest => lines depth outline ++ linesAll depth rest

end

mutual

/-- The node of a tree. The line break after an opening tag is a blank line of its content. -/
def node : Outline → Node
  | .paragraph text => .paragraph [.text text]
  | .element name attributes children => .element name attributes (.blank :: nodes children) true

/-- The nodes of trees below each other. -/
def nodes : List Outline → List Node
  | [] => []
  | outline :: rest => node outline :: nodes rest

end

/-- Every line of prose is one, and every tag is that of an element with content of its own: its
    name has a meaning and stays out of lines, its keys are distinct, and no value holds a quote, an
    angle bracket, a mark of fences or the end of a line. -/
inductive WellFormed : Outline → Prop
  | paragraph {text : Text} (h : IsProse text) : WellFormed (.paragraph text)
  | element {name : Text} {attributes : Pairs} {children : List Outline} (hname : IsTagName name)
    (hcomponent : isComponent name = true) (hblock : name ∉ lineNames)
    (hattributes : ∀ a ∈ attributes, IsAttribute a)
    (hvalues : ∀ a ∈ attributes, ∀ c ∈ ['<', '\x60', '~', '\n', '\r'], c ∉ a.2)
    (hkeys : (attributes.map Prod.fst).Nodup) (h : ∀ child ∈ children, WellFormed child) :
    WellFormed (.element name attributes children)

variable {o : Outline} {outlines : List Outline} {name : Text} {attributes : Pairs}

theorem mem_linesAll_iff {depth : Nat} {l : Text} :
    l ∈ linesAll depth outlines ↔ ∃ o ∈ outlines, l ∈ lines depth o := by
  induction outlines with
  | nil => simp [linesAll]
  | cons o rest ih => simp [linesAll, ih]

/-- Characters that end a line or begin a fence. -/
def reserved : List Char :=
  ['\x60', '~', '\n', '\r']

theorem of_mem_reserved {p : Char → Bool} (h : reserved.all p = true) {c : Char}
    (hc : c ∈ reserved) : p c = true :=
  List.all_eq_true.1 h c hc

theorem ne_of_mem_reserved {c d : Char} (hc : c ∈ reserved) (hd : d ∉ reserved) : c ≠ d := by
  rintro rfl
  exact hd hc

theorem not_mem_tagName (hname : IsTagName name) {c : Char} (hc : c ∈ reserved) :
    c ∉ name := by
  have hchar := of_mem_reserved (p := (!isNameChar ·)) (by decide) hc
  exact hname.not_mem (by simpa using hchar)

theorem not_mem_openTagText (hname : IsTagName name) (hattributes : ∀ a ∈ attributes, IsAttribute a)
    {c : Char} (hc : c ∈ reserved) (hvalues : ∀ a ∈ attributes, c ∉ a.2) :
    c ∉ openTagText name attributes := by
  have hmark (d : Char) (hd : d ∉ reserved) : c ≠ d := ne_of_mem_reserved hc hd
  have hpair : ∀ a ∈ attributes, c ∉ attributeText a := by
    intro a ha
    have hvalue := hvalues a ha
    have hkey : c ∉ a.1 := by
      intro h
      have hchar := of_mem_reserved (p := (!isKeyChar ·)) (by decide) hc
      simp [List.all_eq_true.1 (hattributes a ha).chars c h] at hchar
    simp [attributeText, hmark ' ' (by decide), hmark '=' (by decide), hmark '\x22' (by decide),
      hkey, hvalue]
  have hpairs : c ∉ attributes.flatMap attributeText := by
    intro h
    obtain ⟨a, ha, h⟩ := List.mem_flatMap.1 h
    exact hpair a ha h
  simp [openTagText, hmark '<' (by decide), hmark '>' (by decide), not_mem_tagName hname hc, hpairs]

theorem not_mem_closeTagText (hname : IsTagName name) {c : Char} (hc : c ∈ reserved) :
    c ∉ closeTagText name := by
  have hmark (d : Char) (hd : d ∉ reserved) : c ≠ d := ne_of_mem_reserved hc hd
  simp [closeTagText, hmark '<' (by decide), hmark '>' (by decide), hmark '/' (by decide),
    not_mem_tagName hname hc]

/-- The marks of fences and the characters that end a line stand in no line of a tree. -/
theorem WellFormed.not_mem (h : o.WellFormed) {c : Char} (hc : c ∈ reserved) (depth : Nat) :
    ∀ l ∈ lines depth o, c ∉ l := by
  have hspace : c ≠ ' ' := ne_of_mem_reserved hc (by decide)
  have hletter := of_mem_reserved (p := (!Char.isAlpha ·)) (by decide) hc
  have hindent (n : Nat) : c ∉ indent n := fun h => hspace (List.eq_of_mem_replicate h)
  induction h generalizing depth with
  | paragraph h =>
    intro l hl
    rw [lines, List.mem_singleton] at hl
    subst hl
    simp [hindent, h.not_mem (by simpa using hletter) hspace]
  | element hname _ _ hattributes hvalues _ _ ih =>
    have hopen := not_mem_openTagText hname hattributes hc
      fun a ha => hvalues a ha c (List.mem_cons_of_mem _ hc)
    have hclose := not_mem_closeTagText hname hc
    intro l hl
    rw [lines, List.mem_cons, List.mem_append, List.mem_singleton] at hl
    rcases hl with rfl | hl | rfl
    · simp [hindent, hopen]
    · obtain ⟨child, hchild, hl⟩ := mem_linesAll_iff.1 hl
      exact ih child hchild (depth + 1) l hl
    · simp [hindent, hclose]

theorem not_mem_linesAll (h : ∀ o ∈ outlines, o.WellFormed) {c : Char} (hc : c ∈ reserved)
    (depth : Nat) : ∀ l ∈ linesAll depth outlines, c ∉ l := by
  intro l hl
  obtain ⟨o, ho, hl⟩ := mem_linesAll_iff.1 hl
  exact (h o ho).not_mem hc depth l hl

/-- Every line of a tree holds more than its indentation. -/
theorem WellFormed.shown (h : o.WellFormed) (depth : Nat) :
    ∀ l ∈ lines depth o, ∃ c ∈ l, isGap c = false := by
  induction h generalizing depth with
  | paragraph h =>
    obtain ⟨c, s, rfl, hc⟩ := h.exists_cons
    intro l hl
    rw [lines, List.mem_singleton] at hl
    exact ⟨c, by simp [hl], isGap_of_isAlpha hc⟩
  | element _ _ _ _ _ _ _ ih =>
    intro l hl
    rw [lines, List.mem_cons, List.mem_append, List.mem_singleton] at hl
    rcases hl with rfl | hl | rfl
    · exact ⟨'<', by simp [openTagText], by decide⟩
    · obtain ⟨child, hchild, hl⟩ := mem_linesAll_iff.1 hl
      exact ih child hchild (depth + 1) l hl
    · exact ⟨'<', by simp [closeTagText], by decide⟩

theorem indent_succ (depth : Nat) : indent (depth + 1) = indent 1 ++ indent depth := by
  rw [indent, indent, indent, List.replicate_append_replicate]
  congr 1
  omega

mutual

theorem lines_succ (depth : Nat) : ∀ o, lines (depth + 1) o = (lines depth o).map (indent 1 ++ ·)
  | .paragraph text => by
    rw [lines, lines, indent_succ depth, List.map_singleton, List.append_assoc]
  | .element name attributes children => by
    rw [lines, lines, indent_succ depth, linesAll_succ (depth + 1) children, List.map_cons,
      List.map_append, List.map_singleton, List.append_assoc, List.append_assoc]

theorem linesAll_succ (depth : Nat) :
    ∀ outlines, linesAll (depth + 1) outlines = (linesAll depth outlines).map (indent 1 ++ ·)
  | [] => rfl
  | o :: rest => by
    rw [linesAll, linesAll, lines_succ depth o, linesAll_succ depth rest, List.map_append]

end

/-- The lines of trees begin without indentation. -/
theorem head?_linesAll (h : ∀ o ∈ outlines, o.WellFormed) :
    (linesAll 0 outlines).head?.all (fun l => l.head?.any (!isGap ·)) = true := by
  cases outlines with
  | nil => rfl
  | cons o rest =>
    rw [List.forall_mem_cons] at h
    cases h.1 with
    | paragraph hprose =>
      obtain ⟨c, s, rfl, hc⟩ := hprose.exists_cons
      simp [linesAll, lines, indent, isGap_of_isAlpha hc]
    | element => rfl

/-- Inside an element the lines of its content are indented, and lose this when it is read. -/
theorem dedent_linesAll (h : ∀ o ∈ outlines, o.WellFormed) :
    dedent (endLines (linesAll 1 outlines)) = endLines (linesAll 0 outlines) := by
  have hnewline := not_mem_linesAll h (c := '\n') (by decide) 0
  have hshown : ∀ l ∈ linesAll 0 outlines, ∃ c ∈ l, isGap c = false := by
    intro l hl
    obtain ⟨o, ho, hl⟩ := mem_linesAll_iff.1 hl
    exact (h o ho).shown 0 l hl
  rw [linesAll_succ]
  exact dedent_endLines (by decide) hnewline hshown (head?_linesAll h)

/-- The text of a tree that stands in no element. -/
def text (o : Outline) : Text :=
  joinWith ['\n'] (lines 0 o)

theorem lines_ne_nil (depth : Nat) (o : Outline) : lines depth o ≠ [] := by
  cases o with
  | paragraph => simp [lines]
  | element => simp [lines]

theorem text_paragraph (t : Text) : text (.paragraph t) = t := by
  simp [text, lines, indent, joinWith]

/-- What stands between the tags of an element. -/
def contentText (children : List Outline) : Text :=
  '\n' :: endLines (linesAll 1 children)

theorem text_element (name : Text) (attributes : Pairs) (children : List Outline) :
    text (.element name attributes children) =
      openTagText name attributes ++ (contentText children ++ closeTagText name) := by
  have hindent : indent 0 = [] := rfl
  rw [text, lines, hindent, joinWith_cons (by simp), contentText]
  cases hlines : linesAll 1 children with
  | nil => simp [joinWith, endLines]
  | cons l rest =>
    rw [joinWith_append (List.cons_ne_nil l rest) (List.cons_ne_nil _ _),
      endLines_eq_joinWith (List.cons_ne_nil l rest)]
    simp [joinWith]

theorem endLines_linesAll_cons (o : Outline) (rest : List Outline) :
    endLines (linesAll 0 (o :: rest)) = text o ++ '\n' :: endLines (linesAll 0 rest) := by
  rw [linesAll, endLines_append, endLines_eq_joinWith (lines_ne_nil 0 o), text, List.append_assoc,
    List.singleton_append]

end Outline

end Bindery.Markup
