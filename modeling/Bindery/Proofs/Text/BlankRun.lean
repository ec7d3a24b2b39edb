import Bindery.Proofs.Text.Cutting

namespace Bindery.Text

/-- Two blank lines stand between what is before the text and what is in it: the end of a line, and
    two lines of nothing but blanks. -/
def BlankRun (s : Text) : Prop :=
  ∃ gap gap' rest, s = '\n' :: gap ++ '\n' :: gap' ++ '\n' :: rest ∧ allBlank gap = true ∧
    allBlank gap' = true

/-- Somewhere in the text two blank lines stand in a row. -/
def HasBlankRun (s : Text) : Prop :=
  ∃ t, t <:+ s ∧ BlankRun t

/-- Neither the first line nor the last one is blank. -/
def ShownEdges (s : Text) : Prop :=
  (∀ l ∈ (lines s).head?, allBlank l = false) ∧ ∀ l ∈ (lines s).getLast?, allBlank l = false

theorem allBlank_cons (c : Char) (s : Text) : allBlank (c :: s) = (isBlank c && allBlank s) := rfl

theorem allBlank_append (s t : Text) : allBlank (s ++ t) = (allBlank s && allBlank t) :=
  List.all_append

theorem head?_lines (s : Text) : (lines s).head? = some (line s) := by
  rcases lines_eq_cons s with ⟨hlines, -⟩ | hlines
  · rw [hlines, List.head?_cons]
  · rw [hlines, List.head?_cons]

/-- The last line is the whole text, or what follows the end of a line. -/
theorem eq_append_of_getLast?_lines {s last : Text} (h : (lines s).getLast? = some last) :
    s = last ∨ ∃ before, s = before ++ '\n' :: last := by
  obtain ⟨init, hinit⟩ := List.getLast?_eq_some_iff.1 h
  have hs := joinWith_splitOn '\n' s
  rw [← lines, hinit] at hs
  by_cases hempty : init = []
  · subst hempty
    exact .inl hs.symm
  · rw [joinWith_append hempty (List.cons_ne_nil last []), List.append_assoc] at hs
    exact .inr ⟨_, hs.symm⟩

/-- How far a line has come: something is shown on it, or it is blank so far, with another blank
    line right above it or not. -/
inductive LineState
  | shown
  | blank (below : Bool)
  deriving DecidableEq, Repr

namespace LineState

/-- The state after one more character; none at the end of a second blank line. -/
def next (l : LineState) (c : Char) : Option LineState :=
  if c == '\n' then
    match l with
    | .shown => some (.blank false)
    | .blank below => if below then none else some (.blank true)
  else if isBlank c then some l
  else some .shown

/-- The state after a text. -/
def after (l : LineState) (s : Text) : Option LineState :=
  s.foldlM next l

variable {l l' : LineState} {c : Char} {s t : Text}

theorem after_cons (l : LineState) (c : Char) (s : Text) :
    l.after (c :: s) = (l.next c).bind fun l' => l'.after s := by
  rw [after, List.foldlM_cons]
  rfl

theorem after_cons_of (h : l.next c = some l') (s : Text) : l.after (c :: s) = l'.after s := by
  rw [after_cons, h, Option.bind_some]

theorem after_append (l : LineState) (s t : Text) :
    l.after (s ++ t) = (l.after s).bind fun l' => l'.after t := by
  rw [after, List.foldlM_append]
  rfl

theorem after_append_of (h : l.after s = some l') (t : Text) : l.after (s ++ t) = l'.after t := by
  rw [after_append, h, Option.bind_some]

theorem next_of_isBlank (hc : isBlank c = true) (hnewline : c ≠ '\n') : l.next c = some l := by
  simp [next, hc, hnewline]

theorem next_of_shown (hc : isBlank c = false) : l.next c = some .shown := by
  have hnewline : c ≠ '\n' := by
    rintro rfl
    cases hc
  simp [next, hc, hnewline]

/-- On one line, blanks change nothing and everything else is shown. -/
theorem after_of_not_mem (h : '\n' ∉ s) (l : LineState) :
    l.after s = some (if allBlank s then l else .shown) := by
  induction s generalizing l with
  | nil => rfl
  | cons c s ih =>
    rw [List.mem_cons, not_or] at h
    rw [allBlank_cons]
    cases hc : isBlank c with
    | true => rw [after_cons_of (next_of_isBlank hc (Ne.symm h.1)), ih h.2, Bool.true_and]
    | false =>
      rw [after_cons_of (next_of_shown hc), ih h.2, Bool.false_and, ite_self, if_neg (by decide)]

theorem after_shown_of_not_mem (h : '\n' ∉ s) : LineState.shown.after s = some .shown := by
  rw [after_of_not_mem h, ite_self]

theorem exists_next_newline (h : l.next '\n' = some l') : ∃ below, l' = .blank below ∧
    (l ≠ .shown → below = true) := by
  cases l with
  | shown =>
    cases h
    exact ⟨false, rfl, fun h => absurd rfl h⟩
  | blank below =>
    cases below with
    | true => cases h
    | false =>
      cases h
      exact ⟨true, rfl, fun _ => rfl⟩

/-- Blanks leave a blank line blank, and do not make up for the one above it. -/
theorem exists_after_of_allBlank {below : Bool} (hs : allBlank s = true)
    (h : (LineState.blank below).after s = some l') :
    ∃ below', l' = .blank below' ∧ (below = true → below' = true) := by
  induction s generalizing below with
  | nil =>
    cases h
    exact ⟨below, rfl, id⟩
  | cons c s ih =>
    rw [allBlank_cons, Bool.and_eq_true] at hs
    rw [after_cons] at h
    obtain ⟨l₁, hnext, h⟩ := Option.bind_eq_some_iff.1 h
    by_cases hc : c = '\n'
    · subst hc
      obtain ⟨below₁, rfl, hbelow⟩ := exists_next_newline hnext
      obtain ⟨below', rfl, hlater⟩ := ih hs.2 h
      exact ⟨below', rfl, fun _ => hlater (hbelow (by simp))⟩
    · rw [next_of_isBlank hs.1 hc] at hnext
      cases hnext
      exact ih hs.2 h

/-- A line that nothing is shown on ends blank, whatever is above it. -/
theorem exists_after_newline (hs : allBlank s = true) (h : l.after ('\n' :: s) = some l') :
    ∃ below, l' = .blank below ∧ (l ≠ .shown → below = true) := by
  rw [after_cons] at h
  obtain ⟨l₁, hnext, h⟩ := Option.bind_eq_some_iff.1 h
  obtain ⟨below₁, rfl, hbelow⟩ := exists_next_newline hnext
  obtain ⟨below, rfl, hlater⟩ := exists_after_of_allBlank hs h
  exact ⟨below, rfl, fun hl => hlater (hbelow hl)⟩

/-- What is read to its end holds no two blank lines in a row. -/
theorem not_blankRun_of_after {before : Text} (h : l.after (before ++ s) = some l') :
    ¬BlankRun s := by
  rintro ⟨gap, gap', rest, rfl, hgap, hgap'⟩
  rw [after_append] at h
  obtain ⟨l₁, -, h⟩ := Option.bind_eq_some_iff.1 h
  rw [List.append_assoc, after_append] at h
  obtain ⟨l₂, hfirst, h⟩ := Option.bind_eq_some_iff.1 h
  obtain ⟨below₂, rfl, -⟩ := exists_after_newline hgap hfirst
  rw [List.cons_append, ← List.cons_append, after_append] at h
  obtain ⟨l₃, hsecond, h⟩ := Option.bind_eq_some_iff.1 h
  obtain ⟨below₃, rfl, hbelow⟩ := exists_after_newline hgap' hsecond
  obtain rfl := hbelow (by simp)
  cases h

/-- Where a line is due to be shown at the beginning, the first line is not blank. -/
theorem allBlank_line_of_after (h : (LineState.blank true).after s = some .shown) :
    allBlank (line s) = false := by
  rw [← Bool.not_eq_true]
  intro hline
  obtain ⟨tail, hends, hs, -⟩ := exists_endsLine s
  rw [hs, after_append] at h
  obtain ⟨l₁, hfirst, h⟩ := Option.bind_eq_some_iff.1 h
  obtain ⟨below, rfl, hbelow⟩ := exists_after_of_allBlank hline hfirst
  obtain rfl := hbelow rfl
  rcases hends with rfl | ⟨rest, rfl⟩
  · cases h
  · cases h

/-- Where the last line is shown, it is not blank. -/
theorem allBlank_last_of_after {before last : Text}
    (h : l.after (before ++ '\n' :: last) = some .shown) : allBlank last = false := by
  rw [← Bool.not_eq_true]
  intro hlast
  rw [after_append] at h
  obtain ⟨l₁, -, h⟩ := Option.bind_eq_some_iff.1 h
  obtain ⟨below, hbelow, -⟩ := exists_after_newline hlast h
  cases hbelow

/-- The blanks since the end of the last line that something is shown on, as the state knows of
    them. -/
def Behind : LineState → Text → Prop
  | .shown, _ => True
  | .blank false, s => ∃ gap, s = '\n' :: gap ∧ allBlank gap = true
  | .blank true, s => ∃ gap gap', s = '\n' :: gap ++ '\n' :: gap' ∧ allBlank gap = true ∧
      allBlank gap' = true

theorem Behind.concat (h : l.Behind s) (hc : isBlank c = true) : l.Behind (s ++ [c]) := by
  have hlonger {gap : Text} (hgap : allBlank gap = true) : allBlank (gap ++ [c]) = true := by
    rw [allBlank_append, hgap, allBlank_cons, hc]
    rfl
  cases l with
  | shown => trivial
  | blank below =>
    cases below with
    | false =>
      obtain ⟨gap, rfl, hgap⟩ := h
      exact ⟨gap ++ [c], rfl, hlonger hgap⟩
    | true =>
      obtain ⟨gap, gap', rfl, hgap, hgap'⟩ := h
      exact ⟨gap, gap' ++ [c], by simp, hgap, hlonger hgap'⟩

/-- The end of a line that would be a second blank one makes a run of blank lines. -/
theorem Behind.exists_next (h : l.Behind t) (hrun : ∀ u, u <:+ t ++ '\n' :: s → ¬BlankRun u) :
    ∃ l' t', l.next '\n' = some l' ∧ l'.Behind t' ∧ t' <:+ t ++ ['\n'] := by
  cases l with
  | shown => exact ⟨_, ['\n'], rfl, ⟨[], rfl, rfl⟩, List.suffix_append t _⟩
  | blank below =>
    cases below with
    | false =>
      obtain ⟨gap, rfl, hgap⟩ := h
      exact ⟨_, _, rfl, ⟨gap, [], rfl, hgap, rfl⟩, List.suffix_refl _⟩
    | true =>
      obtain ⟨gap, gap', rfl, hgap, hgap'⟩ := h
      exact absurd ⟨gap, gap', s, rfl, hgap, hgap'⟩ (hrun _ (List.suffix_refl _))

/-- Behind a character that is not blank, a line is shown. -/
theorem after_concat (hc : isBlank c = false) (h : l.after (s ++ [c]) = some l') : l' = .shown := by
  rw [after_append] at h
  obtain ⟨l₁, -, h⟩ := Option.bind_eq_some_iff.1 h
  rw [after_cons_of (next_of_shown hc)] at h
  cases h
  rfl

/-- Reading stops nowhere but at two blank lines in a row. -/
theorem exists_after_of_behind (ht : l.Behind t) (h : ∀ u, u <:+ t ++ s → ¬BlankRun u) :
    ∃ l', l.after s = some l' := by
  induction s generalizing l t with
  | nil => exact ⟨l, rfl⟩
  | cons c s ih =>
    have later {l₁ : LineState} {t₁ : Text} (hnext : l.next c = some l₁) (hbehind : l₁.Behind t₁)
        (hsuffix : t₁ <:+ t ++ [c]) : ∃ l', l.after (c :: s) = some l' := by
      rw [after_cons_of hnext]
      refine ih hbehind fun u hu => h u (hu.trans ?_)
      obtain ⟨before, hbefore⟩ := hsuffix
      exact ⟨before, by rw [← List.append_assoc, hbefore, List.append_assoc, List.singleton_append]⟩
    have hnone : ([] : Text) <:+ t ++ [c] := List.nil_suffix
    by_cases hnewline : c = '\n'
    · subst hnewline
      obtain ⟨l₁, t₁, hnext, hbehind, hsuffix⟩ := ht.exists_next h
      exact later hnext hbehind hsuffix
    · cases hc : isBlank c with
      | true => exact later (next_of_isBlank hc hnewline) (ht.concat hc) (List.suffix_refl _)
      | false => exact later (next_of_shown hc) trivial hnone

theorem exists_after (h : ¬HasBlankRun s) : ∃ l', LineState.shown.after s = some l' :=
  exists_after_of_behind (t := []) trivial fun u hu hrun => h ⟨u, hu, hrun⟩

theorem after_trimEnd (h : ¬HasBlankRun (trimEnd s)) :
    LineState.shown.after (trimEnd s) = some .shown := by
  obtain ⟨l', hafter⟩ := exists_after h
  rcases List.eq_nil_or_concat (trimEnd s) with hnil | ⟨init, c, hconcat⟩
  · rw [hnil]
    rfl
  · have hlast : (trimEnd s).getLast?.any isBlank = false := getLast?_dropEndWhile isBlank s
    rw [List.concat_eq_append] at hconcat
    rw [hconcat, List.getLast?_concat] at hlast
    rw [hconcat] at hafter ⊢
    rw [hafter, after_concat hlast hafter]

end LineState

end Bindery.Text
