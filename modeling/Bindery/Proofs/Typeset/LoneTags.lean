import Bindery.Packages.Lexers
import Bindery.Proofs.Markup.LoneTags
import Bindery.Proofs.Typeset.BlankLine
import Bindery.Proofs.Typeset.ProseLine

namespace Bindery.Typeset

open Text Typst Markup PageLine

variable {env : Env} {line : PageLine} {lines : List PageLine} {t tail : Text}

theorem escape_letters (h : IsLetters t) : escape t = t := by
  refine escape_eq_self fun c hc => ?_
  rcases h.letter_or_space c hc with hletter | rfl
  · exact ⟨not_of_isAlpha (p := isSpecial) (by decide) hletter, ne_of_isAlpha hletter (by decide)⟩
  · decide

/-- The entry of a line. -/
def chunk? : PageLine → Option Entry
  | .prose text => some (.chunk text false)
  | .opening name => if lineNames.contains name then some (.chunk [] true) else none
  | .closing _ => none

/-- The entries of the lines. -/
def entriesOf (lines : List PageLine) : List Entry :=
  lines.filterMap chunk?

/-- A tag that may stand in a line makes a break due. -/
theorem layoutFrom_opening (started due : Bool) (name : Text) (lines : List PageLine) :
    layoutFrom started due (entriesOf (.opening name :: lines)) =
      layoutFrom started (due || lineNames.contains name) (entriesOf lines) := by
  cases hname : lineNames.contains name with
  | true =>
    rw [entriesOf, List.filterMap_cons_some (by rw [chunk?, if_pos hname]),
      layoutFrom_of_allBlank rfl]
    rfl
  | false =>
    rw [entriesOf, List.filterMap_cons_none (by rw [chunk?, if_neg (Bool.eq_false_iff.1 hname)]),
      Bool.or_false]
    rfl

theorem layoutFrom_prose (h : IsProse t) (started due : Bool) (lines : List PageLine) :
    layoutFrom started due (entriesOf (.prose t :: lines)) =
      (if !started then [] else if due then ['\n', '\n'] else ['\n']) ++ t ++
        layoutFrom true false (entriesOf lines) := by
  have hstep := layoutFrom_of_shown h.beginsWithLetter.allBlank started due false (entriesOf lines)
  rwa [Bool.or_false] at hstep

theorem setNode_prose (h : IsProse t) :
    setNode env .block .full (.paragraph [.text t]) = .ok t := by
  have hone : join ([t].map escape) = t := by
    rw [join, joinAfter_escape (by simp), List.map_singleton, List.flatten_singleton,
      escape_letters h.letters]
  rw [setNode, onlyAmongBlocks, ← List.map_singleton, setNodes_texts]
  exact congrArg Except.ok hone

theorem standsAlone_prose (h : IsProse t) : standsAlone (.paragraph [.text t]) = false := by
  simp [standsAlone, isPicture, h.beginsWithLetter.allBlank]

/-- A line makes the entry that its node does. -/
theorem setEntries_node? (h : line.WellFormed) :
    setEntries env .full line.node?.toList = .ok (chunk? line).toList := by
  cases h with
  | closing _ _ => rfl
  | @prose t h =>
    have hnode : node? (.prose t) = some (.paragraph [.text t]) := rfl
    have hentry : Entry.of (.paragraph [.text t]) t = .chunk t false :=
      congrArg (Entry.chunk t) (standsAlone_prose h)
    rw [hnode, Option.toList_some, setEntries_cons, setNode_prose h]
    exact congrArg (fun entry => Except.ok [entry]) hentry
  | @opening name _ _ =>
    rw [node?, block, chunk?]
    split <;> rfl

theorem setEntries_lines (h : ∀ line ∈ lines, line.WellFormed) :
    setEntries env .full (lines.filterMap node?) = .ok (entriesOf lines) := by
  rw [entriesOf, List.filterMap_eq_flatMap_toList, List.filterMap_eq_flatMap_toList]
  induction lines with
  | nil => rfl
  | cons line lines ih =>
    rw [List.forall_mem_cons] at h
    rw [List.flatMap_cons, setEntries_append, setEntries_node? h.1, ih h.2]
    rfl

/-- A page is laid out from the entries of its lines. -/
theorem setPage_page (h : ∀ line ∈ lines, line.WellFormed) (hunpaired : Unpaired lines)
    (context : Context) :
    setPage context (page lines) = .ok (layout (entriesOf lines)) := by
  rw [setPage, setBlocks_eq_map, parse_lines h hunpaired, setEntries_lines h]
  rfl

variable {texts : List Text}

theorem layoutFrom_map_prose (h : ∀ t ∈ texts, IsProse t) :
    layoutFrom true false (entriesOf (texts.map .prose)) = texts.flatMap ('\n' :: ·) := by
  induction texts with
  | nil => rfl
  | cons t texts ih =>
    rw [List.forall_mem_cons] at h
    rw [List.map_cons, layoutFrom_prose h.1, ih h.2]
    rfl

theorem layout_map_prose (h : ∀ t ∈ texts, IsProse t) :
    layout (entriesOf (texts.map .prose)) = joinWith ['\n'] texts := by
  cases texts with
  | nil => rfl
  | cons t texts =>
    rw [List.forall_mem_cons] at h
    rw [List.map_cons, layout, layoutFrom_prose h.1, layoutFrom_map_prose h.2, joinWith_newline]
    rfl

/-- Lines of prose are set as they stand. -/
theorem setPage_prose (h : ∀ t ∈ texts, IsProse t) (context : Context) :
    setPage context (joinWith ['\n'] texts) = .ok (joinWith ['\n'] texts) := by
  have hlines : ∀ line ∈ texts.map PageLine.prose, line.WellFormed := by
    rw [List.forall_mem_map]
    exact fun t ht => .prose (h t ht)
  have hunpaired : Unpaired (texts.map PageLine.prose) :=
    List.pairwise_map.2 (List.pairwise_of_forall fun _ _ _ heq => nomatch heq)
  have hpage : page (texts.map PageLine.prose) = joinWith ['\n'] texts := by
    rw [page, List.map_map]
    exact congrArg _ (List.map_id' texts)
  have hset := setPage_page hlines hunpaired context
  rwa [hpage, layout_map_prose h] at hset

/-- A tag that may stand in a line stands below some prose, be it on the page or before it, and
    above some. -/
def DividedFrom (started : Bool) (lines : List PageLine) : Prop :=
  ∃ before name after, lines = before ++ .opening name :: after ∧ name ∈ lineNames ∧
    (started = true ∨ proseOf before ≠ []) ∧ proseOf after ≠ []

theorem not_dividedFrom_nil (started : Bool) : ¬DividedFrom started [] := by
  rintro ⟨before, name, after, heq, -⟩
  exact List.append_ne_nil_of_right_ne_nil before (List.cons_ne_nil _ _) heq.symm

theorem dividedFrom_cons_iff {started : Bool} : DividedFrom started (line :: lines) ↔
    (∃ name, line = .opening name ∧ name ∈ lineNames ∧ started = true ∧ proseOf lines ≠ []) ∨
      DividedFrom (started || line.prose?.isSome) lines := by
  have hprose (before : List PageLine) : proseOf (line :: before) ≠ [] ↔
      line.prose?.isSome = true ∨ proseOf before ≠ [] := by
    rw [proseOf, proseOf, List.filterMap_cons]
    cases line.prose? <;> simp
  constructor
  · rintro ⟨before, name, after, heq, hname, habove, hbelow⟩
    cases before with
    | nil =>
      obtain ⟨rfl, rfl⟩ := List.cons.inj heq
      exact .inl ⟨name, rfl, hname, habove.resolve_right (absurd rfl), hbelow⟩
    | cons first before =>
      obtain ⟨rfl, rfl⟩ := List.cons.inj heq
      refine .inr ⟨before, name, after, rfl, hname, ?_, hbelow⟩
      rw [Bool.or_eq_true, or_assoc, ← hprose]
      exact habove
  · rintro (⟨name, rfl, hname, hstarted, hbelow⟩ |
      ⟨before, name, after, rfl, hname, habove, hbelow⟩)
    · exact ⟨[], name, lines, rfl, hname, .inl hstarted, hbelow⟩
    · refine ⟨line :: before, name, after, rfl, hname, ?_, hbelow⟩
      rwa [Bool.or_eq_true, or_assoc, ← hprose] at habove

theorem dividedFrom_false_iff : DividedFrom false lines ↔
    ∃ above name below, lines = above ++ .opening name :: below ∧ name ∈ lineNames ∧
      proseOf above ≠ [] ∧ proseOf below ≠ [] := by
  simp only [DividedFrom, Bool.false_eq_true, false_or]

/-- The lines are laid out as their prose alone, unless a break was due before them or a tag divides
    them. -/
theorem layoutFrom_entriesOf_iff (h : ∀ line ∈ lines, line.WellFormed) (started due : Bool) :
    layoutFrom started due (entriesOf lines) =
        layoutFrom started false (entriesOf ((proseOf lines).map .prose)) ↔
      ¬(started = true ∧ due = true ∧ proseOf lines ≠ []) ∧ ¬DividedFrom started lines := by
  induction lines generalizing started due with
  | nil => simp [proseOf, entriesOf, not_dividedFrom_nil, layoutFrom_nil]
  | cons line lines ih =>
    rw [List.forall_mem_cons] at h
    rw [dividedFrom_cons_iff]
    cases h.1 with
    | @closing name _ _ =>
      have hentries : entriesOf (.closing name :: lines) = entriesOf lines := rfl
      rw [hentries, proseOf_closing, ih h.2]
      simp [prose?]
    | @opening name _ _ =>
      rw [layoutFrom_opening, proseOf_opening, ih h.2]
      simp [prose?]
      tauto
    | @prose t ht =>
      rw [proseOf_prose, List.map_cons, layoutFrom_prose ht, layoutFrom_prose ht]
      by_cases hdue : started = true ∧ due = true
      · -- The second newline of the break stands where the prose begins otherwise.
        obtain ⟨rfl, rfl⟩ := hdue
        obtain ⟨c, s, rfl, hc⟩ := ht.exists_cons
        refine iff_of_false (fun heq => ?_) (by simp)
        exact absurd (List.cons.inj (List.cons.inj heq).2).1.symm (ne_of_isAlpha hc (by decide))
      · have hbreak : (if !started then [] else if due then ['\n', '\n'] else ['\n']) =
            if !started then [] else if false then ['\n', '\n'] else ['\n'] := by
          cases started <;> simp_all
        have hfree : ¬(started = true ∧ due = true ∧ t :: proseOf lines ≠ []) :=
          fun hall => hdue ⟨hall.1, hall.2.1⟩
        rw [hbreak, List.append_right_inj, ih h.2, and_iff_right hfree]
        simp [prose?]

/-- The lines of a text that are not empty. -/
def shownLines (s : Text) : List Text :=
  (Text.lines s).filter (· ≠ [])

theorem shownLines_newline (s : Text) : shownLines ('\n' :: s) = shownLines s := by
  have hlines := splitOn_append_cons (List.not_mem_nil (a := '\n')) s
  rw [List.nil_append] at hlines
  rw [shownLines, Text.lines, hlines, List.filter_cons_of_neg (by simp)]
  rfl

theorem shownLines_append (ht : t ≠ []) (hline : '\n' ∉ t) (htail : EndsLine tail) :
    shownLines (t ++ tail) = t :: shownLines tail := by
  rcases htail with rfl | ⟨s, rfl⟩
  · rw [List.append_nil, shownLines, Text.lines, splitOn_of_not_mem hline,
      List.filter_cons_of_pos (by simpa using ht)]
    rfl
  · rw [shownLines_newline, shownLines, Text.lines, splitOn_append_cons hline,
      List.filter_cons_of_pos (by simpa using ht)]
    rfl

/-- What is laid out below something begins with a break. -/
theorem endsLine_layoutFrom (due : Bool) (entries : List Entry) :
    EndsLine (layoutFrom true due entries) := by
  induction entries generalizing due with
  | nil => exact .inl rfl
  | cons entry entries ih =>
    cases entry with
    | gap => exact ih true
    | chunk text alone =>
      cases h : allBlank text with
      | true =>
        rw [layoutFrom_of_allBlank h]
        exact ih _
      | false =>
        rw [layoutFrom_of_shown h]
        cases due || alone <;> exact .inr ⟨_, rfl⟩

/-- The lines that are shown are those of the prose. -/
theorem shownLines_layoutFrom (h : ∀ line ∈ lines, line.WellFormed) (started due : Bool) :
    shownLines (layoutFrom started due (entriesOf lines)) = proseOf lines := by
  induction lines generalizing started due with
  | nil => rfl
  | cons line lines ih =>
    rw [List.forall_mem_cons] at h
    cases h.1 with
    | closing _ _ => exact ih h.2 started due
    | @opening name _ _ =>
      rw [layoutFrom_opening]
      exact ih h.2 _ _
    | @prose t ht =>
      have hshown := shownLines_append ht.ne_nil (ht.not_mem (by decide) (by decide))
        (endsLine_layoutFrom false (entriesOf lines))
      rw [ih h.2] at hshown
      rw [layoutFrom_prose ht, List.append_assoc]
      cases started with
      | false => exact hshown
      | true =>
        cases due with
        | false => exact (shownLines_newline _).trans hshown
        | true => exact (shownLines_newline _).trans ((shownLines_newline _).trans hshown)

/-- The prose of a page in which no tag has its partner is set as it stands, and the tags add no
text to it. They add no break either if and only if no tag that may stand in a line has prose both
above and below it. -/
theorem setPage_loneTags_iff (h : ∀ line ∈ lines, line.WellFormed) (hunpaired : Unpaired lines)
    (context : Context) :
    setPage context (joinWith ['\n'] (proseOf lines)) = .ok (joinWith ['\n'] (proseOf lines)) ∧
    (∃ out, setPage context (page lines) = .ok out ∧ shownLines out = proseOf lines) ∧
    (setPage context (page lines) = setPage context (joinWith ['\n'] (proseOf lines)) ↔
      ¬∃ above name below, lines = above ++ .opening name :: below ∧ name ∈ lineNames ∧
        proseOf above ≠ [] ∧ proseOf below ≠ []) := by
  have hprose : ∀ t ∈ proseOf lines, IsProse t := fun t ht => isProse_of_mem_proseOf h ht
  have hpage := setPage_page h hunpaired context
  refine ⟨setPage_prose hprose context, ⟨_, hpage, shownLines_layoutFrom h false false⟩, ?_⟩
  rw [hpage, setPage_prose hprose, Except.ok.injEq, ← layout_map_prose hprose, layout, layout,
    layoutFrom_entriesOf_iff h, dividedFrom_false_iff]
  simp only [Bool.false_eq_true, false_and, not_false_eq_true, true_and]

/-- A closing tag, an opening one that only stands among blocks, and one that may stand in a line,
below all the prose. -/
theorem setPage_loneTags_iff_note :
    setPage ⟨none, []⟩ "</Note>\na\n<Note>\nb\n<b>".toList = .ok "a\nb".toList := by
  have hnote : IsTagName "Note".toList := ⟨by decide, by decide⟩
  have hbold : IsTagName "b".toList := ⟨by decide, by decide⟩
  have ha : IsProse "a".toList := ⟨by decide, by decide, by decide, by decide⟩
  have hb : IsProse "b".toList := ⟨by decide, by decide, by decide, by decide⟩
  have hlines : ∀ line ∈ [PageLine.closing "Note".toList, .prose "a".toList,
      .opening "Note".toList, .prose "b".toList, .opening "b".toList], line.WellFormed := by
    simp only [List.forall_mem_cons]
    exact ⟨.closing hnote (by decide), .prose ha, .opening hnote (by decide), .prose hb,
      .opening hbold (by decide), List.forall_mem_nil _⟩
  obtain ⟨hset, -, hsame⟩ := setPage_loneTags_iff hlines (by simp [Unpaired]) ⟨none, []⟩
  refine (hsame.2 ?_).trans hset
  rw [← dividedFrom_false_iff]
  simp [dividedFrom_cons_iff, not_dividedFrom_nil, prose?, proseOf, lineNames]

/-- A tag that may stand in a line, between two lines of prose: a blank line comes in its place. -/
theorem setPage_loneTag_ne :
    IsProse "a".toList ∧ IsProse "c".toList ∧ IsTagName "b".toList ∧
      isComponent "b".toList = true ∧
      setPage ⟨none, []⟩ "a\n<b>\nc".toList = .ok "a\n\nc".toList ∧
      setPage ⟨none, []⟩ "a\nc".toList = .ok "a\nc".toList ∧
      setPage ⟨none, []⟩ "a\n<b>\nc".toList ≠ setPage ⟨none, []⟩ "a\nc".toList := by
  have ha : IsProse "a".toList := ⟨by decide, by decide, by decide, by decide⟩
  have hc : IsProse "c".toList := ⟨by decide, by decide, by decide, by decide⟩
  have htag : setPage ⟨none, []⟩ "a\n<b>\nc".toList = .ok "a\n\nc".toList := by
    have hparse : parse "a\n<b>\nc".toList =
        [.paragraph [.text "a".toList], .paragraph [], .paragraph [.text "c".toList]] := by
      with_unfolding_all rfl
    rw [setPage, hparse]
    with_unfolding_all rfl
  have hprose : setPage ⟨none, []⟩ "a\nc".toList = .ok "a\nc".toList :=
    setPage_prose (List.forall_mem_cons.2 ⟨ha, List.forall_mem_singleton.2 hc⟩) _
  exact ⟨ha, hc, ⟨by decide, by decide⟩, by decide, htag, hprose, by rw [htag, hprose]; simp⟩

end Bindery.Typeset
