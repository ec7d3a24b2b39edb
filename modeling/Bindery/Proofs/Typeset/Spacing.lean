import Bindery.Proofs.Typeset.Constructs
import Bindery.Proofs.Typst.Spacing

namespace Bindery.Typeset

open Text Typst Reader

variable {text body separator : Text}

theorem newline_not_mem_escape {s : Text} (hs : '\n' ∉ s) : '\n' ∉ escape s := by
  revert hs
  induction s using escape_induction with
  | nil => exact id
  | escaped c s t _ ih | plain c s t _ _ ih => simp only [List.mem_cons, not_or]; tauto

theorem tidy_escape {s : Text} (hs : '\n' ∉ s) : Tidy (escape s) :=
  tidy_of_not_mem (nested_iff_quiet.2 (quiet_escape _ s)) (newline_not_mem_escape hs)

theorem tidy_rawSpan {code : Text} (hcode : code ≠ []) (hline : '\n' ∉ code) :
    Tidy (rawSpan code) := by
  refine tidy_of_not_mem (nested_iff_quiet.2 (quiet_rawSpan _ hcode)) ?_
  rw [rawSpan]
  split
  · simp [newline_not_mem_literal]
  · simp [hline]

theorem tidy_rawBlock {lexers : Lexers} (hlexers : lexers.Plain) {label : Text}
    (hlabel : '\x60' ∉ label) (code : Text) : Tidy (rawBlock label code) :=
  tidy_of_bare (nested_iff_quiet.2 (quiet_rawBlock _ hlexers hlabel code))
    (by rw [bare_rawBlock hlexers hlabel]; decide)

theorem tidy_strong {body : Text} (hbody : Nested body) : Tidy (strong body) :=
  tidy_call (by decide) hbody

theorem tidy_emph {body : Text} (hbody : Nested body) : Tidy (emph body) :=
  tidy_call (by decide) hbody

theorem nested_strong {body : Text} (hbody : Nested body) : Nested (strong body) :=
  (tidy_strong hbody).nested

theorem tidy_link (url : Text) {body : Text} (hbody : Nested body) : Tidy (link url body) := by
  rw [link_eq_call]
  exact tidy_callWith (by decide) (quietList_literal _ url) (newline_not_mem_literal url) hbody

theorem tidy_rule : Tidy rule :=
  tidy_of_not_mem (nested_iff_quiet.2 quiet_rule) (by decide)

/-- The arguments of a picture stand on lines of their own. -/
theorem tidy_figure (path : Text) {caption : Text} (hcaption : Nested caption) :
    Tidy (figure path caption) := by
  have hs := nested_iff_quiet.2 (quiet_figure path (nested_iff_quiet.1 hcaption))
  have hpath : Lays .shown (literal path ++ ", width: 100%".toList) .shown :=
    ((quietList_literal _ path).append (quietList_of_arguments _ (by decide))).lays
      (by simp [newline_not_mem_literal])
  have himage : Lays .shown ("\n  image".toList ++
      ('(' :: (literal path ++ ", width: 100%".toList) ++ [')']) ++ ",\n".toList)
      (.blank false) :=
    ((lays_of_arguments (by decide) rfl).append (hpath.parens _)).append
      (lays_of_arguments (by decide) rfl)
  have hrest : Lays (.blank false) (if caption.isEmpty then [] else
      "  caption: ".toList ++ ('[' :: caption ++ [']']) ++ ",\n".toList) (.blank false) := by
    split
    · exact lays_nil _
    · exact ((lays_of_arguments (by decide) rfl).append (hcaption.lays_block _)).append
        (lays_of_arguments (by decide) rfl)
  rw [figure_eq_call] at hs ⊢
  exact (himage.append hrest).call (by decide) hs

theorem tidy_of_plain {s : Text} (hs : s.all isPlain = true) (hslash : '/' ∉ s)
    (hline : '\n' ∉ s) : Tidy s :=
  tidy_of_not_mem (nested_iff_quiet.2 (quiet_of_plain _ hs hslash)) hline

theorem tidy_replicate {c : Char} (hc : isPlain c = true) (hslash : c ≠ '/') (hline : c ≠ '\n')
    (n : Nat) : Tidy (List.replicate n c) := by
  have hmem {d : Char} (hd : c ≠ d) : d ∉ List.replicate n c :=
    fun hmem => hd (List.eq_of_mem_replicate hmem).symm
  refine tidy_of_plain (List.all_eq_true.2 fun d hd => ?_) (hmem hslash) (hmem hline)
  exact List.eq_of_mem_replicate hd ▸ hc

theorem tidy_heading {level : Int} {out : Text} (hbody : Tidy body)
    (h : heading level body = .ok out) : Tidy out := by
  rw [heading] at h
  split at h
  · cases h
    have hspace : Tidy [' '] := tidy_of_plain (by decide) (by decide) (by decide)
    exact (tidy_replicate (by decide) (by decide) (by decide) _).append (hspace.append hbody)
  · cases h

theorem tidy_listItem (indent : Int) (ordered : Bool) (hbody : Tidy body) :
    Tidy (listItem indent ordered body) := by
  have hmarker : Tidy [if ordered then '+' else '-', ' '] := by
    cases ordered
    · exact tidy_of_plain (by decide) (by decide) (by decide)
    · exact tidy_of_plain (by decide) (by decide) (by decide)
  exact (tidy_replicate (by decide) (by decide) (by decide) _).append (hmarker.append hbody)

theorem tidy_detach (previous : Text) (ht : Tidy text) : Tidy (detach previous text) := by
  rcases detach_cases previous text with hsame | ⟨c, rest, rfl, hc, hescaped⟩
  · rwa [hsame]
  · rw [hescaped]
    refine ht.cons_backslash ?_
    rcases hc with rfl | rfl <;> decide

theorem tidy_joinAfter {pieces : List Text} (h : ∀ t ∈ pieces, Tidy t) (previous : Text) :
    Tidy (joinAfter previous pieces) := by
  induction pieces generalizing previous with
  | nil => exact tidy_nil
  | cons piece rest ih =>
    rw [List.forall_mem_cons] at h
    rw [joinAfter]
    split
    · exact ih h.2 previous
    · exact (tidy_detach previous h.1).append (ih h.2 _)

theorem tidy_join {pieces : List Text} (h : ∀ t ∈ pieces, Tidy t) : Tidy (join pieces) :=
  tidy_joinAfter h []

theorem allBlank_append_left {s : Text} (hs : allBlank s = false) (t : Text) :
    allBlank (s ++ t) = false := by
  rw [allBlank_append, hs, Bool.false_and]

/-- Pieces with a break between any two of them, of which none is blank if there are several. -/
theorem tidy_joinWith (hsep : IsBreak separator) {parts : List Text} (h : ∀ t ∈ parts, Tidy t)
    (hshown : parts.length ≤ 1 ∨ ∀ t ∈ parts, allBlank t = false) :
    Tidy (joinWith separator parts) := by
  fun_induction joinWith separator parts with
  | case1 => exact tidy_nil
  | case2 part => exact h part List.mem_cons_self
  | case3 part next rest ih =>
    rw [List.forall_mem_cons] at h
    have hall := hshown.resolve_left (by simp)
    rw [List.forall_mem_cons] at hall
    obtain ⟨tail, htail⟩ := prefix_joinWith separator next rest
    refine h.1.below hsep (ih h.2 (.inr hall.2)) hall.1 ?_
    rw [← htail]
    exact allBlank_append_left (hall.2 next List.mem_cons_self) tail

/-- What is set below a text is set below a break, and only if something is shown of it. -/
theorem tidy_append_layoutFrom {above : Text} (habove : Tidy above)
    (hshown : allBlank above = false) (due : Bool) {entries : List Entry}
    (h : ∀ text alone, Entry.chunk text alone ∈ entries → Tidy text) :
    Tidy (above ++ layoutFrom true due entries) := by
  induction entries generalizing above due with
  | nil => exact (List.append_nil above).symm ▸ habove
  | cons entry rest ih =>
    have hrest : ∀ text alone, Entry.chunk text alone ∈ rest → Tidy text :=
      fun text alone hmem => h text alone (List.mem_cons_of_mem entry hmem)
    cases entry with
    | gap => exact ih habove hshown true hrest
    | chunk text alone =>
      cases hblank : allBlank text with
      | true =>
        rw [layoutFrom_of_allBlank hblank]
        exact ih habove hshown (due || alone) hrest
      | false =>
        have hbreak : IsBreak (if due || alone then ['\n', '\n'] else ['\n']) := by
          split
          · exact .inr rfl
          · exact .inl rfl
        have htext := habove.below hbreak (h text alone List.mem_cons_self) hshown hblank
        rw [layoutFrom_of_shown hblank, ← List.append_assoc, ← List.append_assoc]
        exact ih htext (allBlank_append_left (allBlank_append_left hshown _) _) alone hrest

theorem tidy_layout {entries : List Entry}
    (h : ∀ text alone, Entry.chunk text alone ∈ entries → Tidy text) : Tidy (layout entries) := by
  induction entries with
  | nil => exact tidy_nil
  | cons entry rest ih =>
    have hrest : ∀ text alone, Entry.chunk text alone ∈ rest → Tidy text :=
      fun text alone hmem => h text alone (List.mem_cons_of_mem entry hmem)
    cases entry with
    | gap =>
      rw [layout_gap_cons]
      exact ih hrest
    | chunk text alone =>
      cases hblank : allBlank text with
      | true =>
        rw [layout_of_allBlank hblank]
        exact ih hrest
      | false =>
        rw [layout_of_shown hblank]
        exact tidy_append_layoutFrom (h text alone List.mem_cons_self) hblank alone hrest

/-- A layout is empty or shows something. -/
theorem layout_eq_nil_or_shown (entries : List Entry) :
    layout entries = [] ∨ allBlank (layout entries) = false := by
  induction entries with
  | nil => exact .inl rfl
  | cons entry rest ih =>
    cases entry with
    | gap =>
      rw [layout_gap_cons]
      exact ih
    | chunk text alone =>
      cases hblank : allBlank text with
      | true =>
        rw [layout_of_allBlank hblank]
        exact ih
      | false =>
        rw [layout_of_shown hblank]
        exact .inr (allBlank_append_left hblank _)

theorem tidy_arrange (place : Place) (nodes : List Node) {texts : List Text}
    (h : ∀ t ∈ texts, Tidy t) : Tidy (arrange place nodes texts) := by
  cases place with
  | line => exact tidy_join h
  | block => exact tidy_layout fun text _ hmem => h text (mem_of_mem_zipWith hmem)

theorem newline_not_mem_ofNat (n : Nat) : '\n' ∉ ofNat n := by
  intro hmem
  have hdigit : '\n'.isDigit = true := Nat.isDigit_of_mem_toDigits (by decide) (by decide) hmem
  exact absurd hdigit (by decide)

theorem lays_number (n : Nat) : Lays .shown (ofNat n) .shown :=
  (quietList_number n).lays (newline_not_mem_ofNat n)

theorem lays_plainCell (htext : Nested text) :
    Lays (.blank false) (plainCell text) (.blank false) := by
  rw [plainCell_eq]
  exact ((lays_of_arguments (by decide) rfl).append (htext.lays_block _)).append
    (lays_of_arguments (by decide) rfl)

theorem lays_rowMarkup {cells : List Text} (h : ∀ t ∈ cells, Nested t) :
    Lays (.blank false) (rowMarkup cells) (.blank false) := by
  cases cells with
  | nil => exact lays_nil _
  | cons first others =>
    rw [List.forall_mem_cons] at h
    refine (lays_plainCell (nested_strong h.1)).append (Lays.flatten fun t ht => ?_)
    obtain ⟨cell, hcell, rfl⟩ := List.mem_map.1 ht
    exact lays_plainCell (h.2 cell hcell)

/-- Each cell stands on a line of its own, with its own markup in brackets. -/
theorem tidy_tableMarkup {header : List Text} {rows : List (List Text)}
    (hheader : ∀ t ∈ header, Nested t) (hrows : ∀ row ∈ rows, ∀ t ∈ row, Nested t) :
    Tidy (tableMarkup header rows) := by
  have hs : Nested (tableMarkup header rows) := nested_iff_quiet.2
    (quiet_tableMarkup (fun t ht => nested_iff_quiet.1 (hheader t ht))
      fun row hrow t ht => nested_iff_quiet.1 (hrows row hrow t ht))
  have hcells : Lays (.blank false) (header.flatMap strongCell) (.blank false) := by
    refine Lays.flatten fun t ht => ?_
    obtain ⟨cell, hcell, rfl⟩ := List.mem_map.1 ht
    exact lays_plainCell (nested_strong (hheader cell hcell))
  have hbody : Lays (.blank false) (rows.flatMap rowMarkup) (.blank false) := by
    refine Lays.flatten fun t ht => ?_
    obtain ⟨row, hrow, rfl⟩ := List.mem_map.1 ht
    exact lays_rowMarkup (hrows row hrow)
  have hwidth : Lays .shown ("\n  columns: ".toList ++ ofNat header.length ++ ",\n  align: ".toList)
      .shown :=
    ((lays_of_arguments (by decide) rfl).append (lays_number _)).append
      (lays_of_arguments (by decide) rfl)
  have hleft : Lays .shown "left,".toList .shown := lays_of_arguments (by decide) rfl
  have halign : Lays .shown
      (('(' :: "left,".toList ++ [')']) ++ " * ".toList ++ ofNat header.length ++ ",\n".toList)
      (.blank false) :=
    (((hleft.parens _).append (lays_of_arguments (by decide) rfl)).append (lays_number _)).append
      (lays_of_arguments (by decide) rfl)
  rw [tableMarkup_eq_call] at hs ⊢
  exact (((hwidth.append halign).append hcells).append hbody).call (by decide) hs

theorem tidy_titledCall {function : Text} (hfunction : isName function = true) (title : Text)
    (hbody : Nested body) : Tidy (titledCall function title body) := by
  have hlines : Nested ('\n' :: body ++ ['\n']) :=
    nested_iff_quiet.2 (((nested_iff_quiet.1 hbody).cons (by decide)).append_right (by decide))
  have htitle : QuietList .idle ("title: ".toList ++ literal title) :=
    (quietList_of_arguments _ (by decide)).append (quietList_literal _ title)
  rw [titledCall_eq_call]
  exact tidy_callWith hfunction htitle (by simp [newline_not_mem_literal]) hlines

theorem lays_literal (s : Text) : Lays .shown (literal s) .shown :=
  (quietList_literal _ s).lays (newline_not_mem_literal s)

theorem lays_cardEntry (attributes : Pairs) (hbody : Nested body) (label : Option Text) :
    Lays (.blank false) (cardEntry attributes body label) (.blank false) := by
  have hcomma : Lays .shown ", ".toList .shown := lays_of_arguments (by decide) rfl
  have htarget (target : Text) :
      Lays .shown (if target.isEmpty then [] else ", ".toList ++ literal target) .shown := by
    split
    · exact lays_nil _
    · exact hcomma.append (lays_literal target)
  have harguments (icon title target : Text) := (((((lays_literal icon).append hcomma).append
    (lays_literal title)).append hcomma).append (hbody.lays_block _)).append (htarget target)
  rw [cardEntry_eq]
  exact ((lays_of_arguments (by decide) rfl).append ((harguments _ _ _).parens _)).append
    (lays_of_arguments (by decide) rfl)

theorem tidy_gridMarkup (attributes : Pairs) {entries : List Text}
    (hquiet : ∀ t ∈ entries, QuietList .idle t)
    (h : ∀ t ∈ entries, Lays (.blank false) t (.blank false)) :
    Tidy (gridMarkup attributes entries) := by
  have hs := nested_iff_quiet.2 (quiet_gridMarkup attributes hquiet)
  have hnumber : Lays .shown (ofInt (columnCount attributes)) .shown := by
    refine (quietList_integer _).lays ?_
    rw [ofInt]
    split
    · simp [newline_not_mem_ofNat]
    · exact newline_not_mem_ofNat _
  have hcolumns : Lays .shown ("cols: ".toList ++ ofInt (columnCount attributes) ++ ",\n".toList)
      (.blank false) :=
    ((lays_of_arguments (by decide) rfl).append hnumber).append (lays_of_arguments (by decide) rfl)
  rw [gridMarkup_eq_call] at hs ⊢
  exact (hcolumns.append (Lays.flatten h)).call (by decide) hs

theorem tidy_stepsMarkup {entries : List Text} (hquiet : ∀ t ∈ entries, QuietList .idle t)
    (h : ∀ t ∈ entries, Lays (.blank false) t (.blank false)) : Tidy (stepsMarkup entries) := by
  have hs := nested_iff_quiet.2 (quiet_stepsMarkup hquiet)
  have hopened : Lays .shown "\n".toList (.blank false) := lays_of_arguments (by decide) rfl
  rw [stepsMarkup_eq_call] at hs ⊢
  exact (hopened.append (Lays.flatten h)).call (by decide) hs

/-- The body can stand below the line: one of them is left out, or something is shown of the
    body. -/
def StandsBelow (line body : Text) : Prop :=
  line = [] ∨ body = [] ∨ allBlank body = false

theorem tidy_below {left : Bool} {line : Text} (hline : Tidy line)
    (hshown : left = false → allBlank line = false) (hsep : IsBreak separator) (hbody : Tidy body)
    (h : left = true ∨ body = [] ∨ allBlank body = false) :
    Tidy (if left then body else if body.isEmpty then line else line ++ separator ++ body) := by
  split
  · exact hbody
  · next hleft =>
    have hright : left = false := by simpa using hleft
    split
    · exact hline
    · next hsome =>
      have hbodyShown : allBlank body = false := by
        rcases h with h | rfl | h
        · exact absurd h hleft
        · exact absurd rfl hsome
        · exact h
      exact hline.below hsep hbody (hshown hright) hbodyShown

theorem tidy_titled {title : Text} (hbody : Tidy body) (hsep : IsBreak separator)
    (h : StandsBelow title body) : Tidy (titled title body separator) := by
  have htitle : Tidy (strong (escape title)) :=
    tidy_strong (nested_iff_quiet.2 (quiet_escape _ title))
  exact tidy_below htitle (fun _ => rfl) hsep hbody (h.imp_left List.isEmpty_iff.2)

/-- In the list of steps, the title and the body of a step stand in brackets. -/
theorem lays_stepEntry (attributes : Pairs) (hbody : Nested body) :
    Lays (.blank false) (stepEntry attributes body) (.blank false) :=
  lays_plainCell (nested_iff_quiet.2 (quiet_titled _ (nested_iff_quiet.1 hbody) (by decide)))

theorem tidy_tabMarkup (attributes : Pairs) (hbody : Tidy body)
    (h : StandsBelow (attributes.get "title".toList) body) : Tidy (tabMarkup attributes body) := by
  rw [tabMarkup]
  split
  · exact hbody
  · next htitle =>
    refine tidy_titled hbody (.inl rfl) (.inr (h.resolve_left fun hnil => htitle ?_))
    rw [hnil]
    rfl

/-- Prose is bare, also without the blanks at its end. -/
theorem bare_trimEnd_escape (s : Text) :
    start.bare (trimEnd (escape s)) = trimEnd (escape s) := by
  refine escape_induction (P := fun _ t => start.bare (trimEnd t) = trimEnd t) rfl ?_ ?_ s
  · intro c _ t hblank ht
    rw [trimEnd, dropEndWhile_cons_of_neg (by decide), dropEndWhile_cons_of_neg hblank,
      bare_escaped, ← trimEnd, ht]
  · intro c _ t hc _ ht
    rw [trimEnd, dropEndWhile]
    split
    · split
      · rfl
      · exact bare_plain (isPlain_of_not_special hc) []
    · rw [bare_plain (isPlain_of_not_special hc)]
      exact congrArg _ ht

/-- A dash before a description is tidy if the description is. -/
theorem tidy_dash {description : Text} (h : ¬HasBlankRun (trimEnd (escape description))) :
    Tidy (dropEndWhile isBlank ('-' :: ' ' :: escape description)) := by
  have hlater : LineState.shown.after (start.bare (dropEndWhile isBlank
      (' ' :: escape description))) = some .shown := by
    rw [dropEndWhile]
    split
    · rfl
    · have hspace : LineState.shown.next ' ' = some .shown := rfl
      have hbare : start.bare (dropEndWhile isBlank (escape description)) =
          trimEnd (escape description) := bare_trimEnd_escape description
      rw [bare_plain rfl, LineState.after_cons_of hspace, hbare, LineState.after_trimEnd h]
  refine ⟨nested_iff_quiet.2 (quiet_dash description), fun l => ?_⟩
  rw [dropEndWhile_cons_of_neg (by decide), bare_plain rfl,
    LineState.after_cons_of (LineState.next_of_shown rfl), hlater]
  rfl

/-- The line of an update is tidy if its description, as it is set, has no two blank lines in a
    row. -/
theorem tidy_updateHead {attributes : Pairs}
    (h : ¬HasBlankRun (trimEnd (escape (attributes.get "description".toList)))) :
    Tidy (updateHead attributes) ∧
      (updateHead attributes = [] ∨ allBlank (updateHead attributes) = false) := by
  have hlabel (label : Text) : Tidy (strong (escape label)) :=
    tidy_strong (nested_iff_quiet.2 (quiet_escape _ label))
  have hdash := tidy_dash h
  have hdashShown : allBlank (dropEndWhile isBlank
      ('-' :: ' ' :: escape (attributes.get "description".toList))) = false := by
    rw [dropEndWhile_cons_of_neg (by decide)]
    rfl
  have hspace : Tidy [' '] := tidy_of_plain (by decide) (by decide) (by decide)
  unfold updateHead
  simp only
  split
  · split
    · exact ⟨tidy_nil, .inl rfl⟩
    · exact ⟨hlabel _, .inr rfl⟩
  · split
    · rw [trim_dash_nil]
      exact ⟨hdash, .inr hdashShown⟩
    · rw [trim_dash rfl]
      exact ⟨((hlabel _).append hspace).append hdash, .inr rfl⟩

/-- What an update needs: a description, as it is set, without two blank lines in a row, and a body
    that can stand below it. -/
structure SpacedUpdate (attributes : Pairs) (body : Text) : Prop where
  description : ¬HasBlankRun (trimEnd (escape (attributes.get "description".toList)))
  body : StandsBelow (updateHead attributes) body

theorem SpacedUpdate.tidy {attributes : Pairs} (h : SpacedUpdate attributes body)
    (hbody : Tidy body) : Tidy (updateMarkup attributes body) := by
  obtain ⟨hhead, hshown⟩ := tidy_updateHead h.description
  rw [updateMarkup_eq]
  refine tidy_below hhead (fun hleft => ?_) (.inr rfl) hbody (h.body.imp_left List.isEmpty_iff.2)
  exact hshown.resolve_left (by simpa using hleft)

/-- Whether the body of a component stands in its markup outside of brackets. -/
def Component.opensBody : Component → Bool
  | .columns | .steps | .tabs | .step | .accordion | .update | .content => true
  | _ => false

/-- What a component asks of its title and its body, so that a line that it puts its body below is
    followed by something. -/
def Component.Spaced (component : Component) (attributes : Pairs) (body : Text) : Prop :=
  match component with
  | .step | .accordion => StandsBelow (attributes.get "title".toList) body
  | .update => SpacedUpdate attributes body
  | _ => True

theorem tidy_markup {component : Component} {name : Text}
    (hnamed : Component.named name = component) {attributes : Pairs} (hnested : Nested body)
    (hbody : component.opensBody = true → Tidy body) (hkey : component ≠ .key)
    (h : component.Spaced attributes body) : Tidy (component.markup name attributes body) := by
  cases component with
  | callout => exact tidy_titledCall (isName_calloutStyle _) _ hnested
  | box style => exact tidy_titledCall (isName_of_named hnamed) _ hnested
  | card => exact tidy_titledCall (by decide) _ hnested
  | step => exact tidy_titled (hbody rfl) (.inl rfl) h
  | accordion => exact tidy_titled (hbody rfl) (.inr rfl) h
  | update => exact h.tidy (hbody rfl)
  | hidden => exact tidy_nil
  | columns | steps | tabs | content => exact hbody rfl
  | key => exact absurd rfl hkey

end Bindery.Typeset
