import Bindery.Proofs.Markup.Blocks

namespace Bindery.Markup

open Text

/-- Nothing in the text can begin a block that goes on over a blank line. -/
structure Linewise (s : Text) : Prop where
  angle : '<' ∉ s
  comment : ¬expressionCommentStart <:+: s
  fence : ∀ l ∈ lines s, Fence.ofLine? l = none

/-- Where the reading of a text goes on when a blank line and more text follow it: before both, or
    at the blank line if the last line of the text has been read with the newline after it. -/
def GoesOn (more rest rest' : Text) : Prop :=
  rest' = rest ++ '\n' :: '\n' :: more ∨ rest = [] ∧ rest' = '\n' :: more

variable {more s s' tail : Text}

theorem line_append_tail (s : Text) (htail : EndsLine tail) : line (s ++ tail) = line s := by
  have hnewline := newline_not_mem_line s
  obtain ⟨rest, hends, hs, -⟩ := exists_endsLine s
  have hboth : EndsLine (rest ++ tail) := by
    rcases hends with rfl | ⟨r, rfl⟩
    · exact htail
    · exact .inr ⟨r ++ tail, rfl⟩
  calc line (s ++ tail) = line (line s ++ (rest ++ tail)) := by rw [← List.append_assoc, ← hs]
    _ = line s := line_append_of_endsLine hnewline hboth

theorem GoesOn.line_eq (h : GoesOn more s s') : line s' = line s := by
  rcases h with rfl | ⟨rfl, rfl⟩
  · exact line_append_tail s (.inr ⟨_, rfl⟩)
  · rfl

theorem goesOn_afterLine (h : GoesOn more s s') (hs : s ≠ []) :
    GoesOn more (afterLine s) (afterLine s') := by
  rcases h with rfl | ⟨rfl, -⟩
  · have hnewline := newline_not_mem_line s
    obtain ⟨rest, hends, heq, hafter⟩ := exists_endsLine s
    rcases hends with rfl | ⟨r, rfl⟩
    · refine .inr ⟨hafter, ?_⟩
      rw [List.append_nil] at heq
      rw [heq, afterLine_append_of_endsLine hnewline (.inr ⟨_, rfl⟩)]
      rfl
    · refine .inl ?_
      rw [hafter]
      calc afterLine (s ++ '\n' :: '\n' :: more)
          = afterLine (line s ++ '\n' :: (r ++ '\n' :: '\n' :: more)) := by
            rw [← List.cons_append, ← List.append_assoc, ← heq]
        _ = r ++ '\n' :: '\n' :: more :=
            afterLine_append_of_endsLine hnewline (.inr ⟨_, rfl⟩)
  · exact absurd rfl hs

theorem linewise_nil : Linewise [] where
  angle := List.not_mem_nil
  comment := by simp [expressionCommentStart]
  fence := by simp [lines, splitOn, Fence.ofLine?, markRun?]

theorem linewise_afterLine (h : Linewise s) : Linewise (afterLine s) := by
  rcases lines_eq_cons s with ⟨-, hafter⟩ | hlines
  · rw [hafter]
    exact linewise_nil
  · have hsuffix := afterLine_suffix s
    refine ⟨fun hmem => h.angle (hsuffix.subset hmem),
      fun hoccurs => h.comment (hoccurs.trans hsuffix.isInfix), fun l hl => h.fence l ?_⟩
    rw [hlines]
    exact List.mem_cons_of_mem _ hl

theorem Linewise.ofLine?_line (h : Linewise s) : Fence.ofLine? (line s) = none := by
  refine h.fence _ ?_
  rcases lines_eq_cons s with ⟨hlines, -⟩ | hlines
  · rw [hlines]
    exact List.mem_singleton_self _
  · rw [hlines]
    exact List.mem_cons_self

/-- No comment and no element begins at the first character of a line that is shown, whatever
    follows the text. -/
theorem Linewise.start (h : Linewise s) (hshown : ¬allBlank (line s) = true)
    (htail : EndsLine tail) :
    Block.comment? ((s ++ tail).dropWhile isBlank) = none ∧
      Block.element? ((s ++ tail).dropWhile isBlank) = none := by
  have hsuffix := List.dropWhile_suffix (l := s) isBlank
  obtain ⟨c, start, hstart⟩ : ∃ c start, s.dropWhile isBlank = c :: start := by
    refine List.exists_cons_of_ne_nil fun hnil => hshown ?_
    have hall : s.all isBlank = true := by
      rw [← List.takeWhile_append_dropWhile (p := isBlank) (l := s), hnil, List.append_nil]
      exact List.all_takeWhile
    rw [allBlank, List.all_eq_true]
    intro c hc
    exact List.all_eq_true.1 hall c ((List.takeWhile_prefix _).subset hc)
  have hshape : (s ++ tail).dropWhile isBlank = (c :: start) ++ tail := by
    rw [List.dropWhile_append, hstart, if_neg (by simp)]
  rw [hstart] at hsuffix
  have hangle : ((c :: start) ++ tail).head? ≠ some '<' := by
    intro heq
    have hc : c = '<' := by simpa using heq
    exact h.angle (hsuffix.subset (hc ▸ List.mem_cons_self))
  have hcomment : ¬expressionCommentStart <+: (c :: start) ++ tail := by
    intro hprefix
    have hstarts : expressionCommentStart <+: c :: start := by
      rcases htail with rfl | ⟨rest, rfl⟩
      · rwa [List.append_nil] at hprefix
      · exact prefix_of_prefix_append_cons (by decide) hprefix
    exact h.comment (hstarts.isInfix.trans hsuffix.isInfix)
  rw [hshape]
  exact ⟨comment?_eq_none hangle hcomment, element?_eq_none hangle⟩

theorem tableRows_of_row (hrow : isTableRow (line s) = true) :
    tableRows s =
      (rowCells (line s) :: (tableRows (afterLine s)).1, (tableRows (afterLine s)).2) := by
  cases s with
  | nil => exact absurd hrow (by decide)
  | cons c s => rw [tableRows, if_pos hrow]

theorem tableRows_of_not_row (hrow : isTableRow (line s) = false) : tableRows s = ([], s) := by
  cases s with
  | nil => rw [tableRows]
  | cons c s => rw [tableRows, if_neg (by simp [hrow])]

theorem linewise_tableRows (h : Linewise s) : Linewise (tableRows s).2 := by
  induction hlength : s.length using Nat.strongRecOn generalizing s with
  | ind length ih =>
    cases hrow : isTableRow (line s) with
    | false =>
      rw [tableRows_of_not_row hrow]
      exact h
    | true =>
      have hs : s ≠ [] := by
        rintro rfl
        exact absurd hrow (by decide)
      rw [tableRows_of_row hrow]
      exact ih _ (hlength ▸ length_afterLine_lt hs) (linewise_afterLine h) rfl

/-- The rows of a table end at a blank line. -/
theorem goesOn_tableRows (h : GoesOn more s s') :
    (tableRows s').1 = (tableRows s).1 ∧
      GoesOn more (tableRows s).2 (tableRows s').2 := by
  induction hlength : s.length using Nat.strongRecOn generalizing s s' with
  | ind length ih =>
    cases hrow : isTableRow (line s) with
    | false =>
      rw [tableRows_of_not_row hrow, tableRows_of_not_row (h.line_eq ▸ hrow)]
      exact ⟨rfl, h⟩
    | true =>
      have hs : s ≠ [] := by
        rintro rfl
        exact absurd hrow (by decide)
      obtain ⟨hrows, hrest⟩ := ih _ (hlength ▸ length_afterLine_lt hs) (goesOn_afterLine h hs) rfl
      rw [tableRows_of_row hrow, tableRows_of_row (h.line_eq ▸ hrow), h.line_eq, hrows]
      exact ⟨rfl, hrest⟩

/-- Whether a table begins on the first line of the text. -/
def startsTable (s : Text) : Bool :=
  isTableRow (line s) && isSeparator (line (afterLine s))

theorem table?_of_startsTable (h : startsTable s = true) :
    table? s = some (.table ((rowCells (line s)).map parseInline)
      ((tableRows (afterLine (afterLine s))).1.map (·.map parseInline)),
        (tableRows (afterLine (afterLine s))).2) := by
  rw [startsTable] at h
  simp only [table?, h, ↓reduceIte]

theorem table?_of_not_startsTable (h : startsTable s = false) : table? s = none := by
  rw [startsTable] at h
  simp only [table?, h, Bool.false_eq_true, ↓reduceIte]

theorem ne_nil_of_startsTable (h : startsTable s = true) : s ≠ [] ∧ afterLine s ≠ [] := by
  rw [startsTable, Bool.and_eq_true] at h
  constructor
  · rintro rfl
    exact absurd h.1 (by decide)
  · intro hafter
    rw [hafter] at h
    exact absurd h.2 (by decide)

/-- What a text begins with when its first line belongs to no fence, comment or element, and where
    the reading goes on. -/
def wholeLines (s : Text) : Block × Text :=
  if allBlank (line s) then (.leaf .blank, afterLine s)
  else
    match table? s with
    | some (node, rest) => (.leaf node, rest)
    | none => (Block.ofLine (line s), afterLine s)

theorem Linewise.next (h : Linewise s) (htail : EndsLine tail) :
    Block.next (s ++ tail) = wholeLines (s ++ tail) := by
  have hline := line_append_tail s htail
  rw [Block.next, wholeLines, hline]
  split
  · rfl
  · next hshown =>
    obtain ⟨hcomment, helement⟩ := h.start hshown htail
    rw [h.ofLine?_line]
    cases htable : table? (s ++ tail) with
    | none => simp only [Block.nextUnfenced, hcomment, helement, hline, htable]
    | some found => simp only [Block.nextUnfenced, hcomment, helement, htable]

theorem linewise_wholeLines (h : Linewise s) : Linewise (wholeLines s).2 := by
  rw [wholeLines]
  split
  · exact linewise_afterLine h
  · cases htable : startsTable s with
    | true =>
      rw [table?_of_startsTable htable]
      exact linewise_tableRows (linewise_afterLine (linewise_afterLine h))
    | false =>
      rw [table?_of_not_startsTable htable]
      exact linewise_afterLine h

/-- The first block of a text of whole lines is the same when a blank line and more text follow. -/
theorem goesOn_wholeLines (h : GoesOn more s s') (hs : s ≠ []) :
    (wholeLines s').1 = (wholeLines s).1 ∧
      GoesOn more (wholeLines s).2 (wholeLines s').2 := by
  have hafter := goesOn_afterLine h hs
  have hstarts : startsTable s' = startsTable s := by
    rw [startsTable, startsTable, h.line_eq, hafter.line_eq]
  rw [wholeLines, wholeLines, h.line_eq]
  split
  · exact ⟨rfl, hafter⟩
  · cases htable : startsTable s with
    | true =>
      obtain ⟨hrows, hrest⟩ :=
        goesOn_tableRows (goesOn_afterLine hafter (ne_nil_of_startsTable htable).2)
      rw [table?_of_startsTable htable, table?_of_startsTable (hstarts ▸ htable), h.line_eq, hrows]
      exact ⟨rfl, hrest⟩
    | false =>
      rw [table?_of_not_startsTable htable, table?_of_not_startsTable (hstarts ▸ htable)]
      exact ⟨rfl, hafter⟩

theorem Linewise.next_of_goesOn (h : Linewise s) (hgoes : GoesOn more s s') (hs : s ≠ []) :
    Block.next s = ((wholeLines s).1, (wholeLines s).2) ∧
      Block.next s' = ((wholeLines s').1, (wholeLines s').2) := by
  have halone := h.next (.inl rfl)
  rw [List.append_nil] at halone
  refine ⟨halone, ?_⟩
  rcases hgoes with rfl | ⟨rfl, -⟩
  · exact h.next (.inr ⟨_, rfl⟩)
  · exact absurd rfl hs

theorem GoesOn.ne_nil (h : GoesOn more s s') : s' ≠ [] := by
  rcases h with rfl | ⟨-, rfl⟩
  · simp
  · simp

/-- After a text of whole lines the blank line gives a blank node or two, and the blocks after it
    are read as if they stood alone. -/
theorem blockNodes_goesOn (h : Linewise s) (hgoes : GoesOn more s s') :
    ∃ n, blockNodes s' = blockNodes s ++ List.replicate (n + 1) .blank ++ blockNodes more := by
  induction hlength : s.length using Nat.strongRecOn generalizing s s' with
  | ind length ih =>
    by_cases hs : s = []
    · -- The first newline may have ended the last line of the text already.
      subst hs
      rcases hgoes with rfl | ⟨-, rfl⟩
      · exact ⟨1, by simp [blockNodes_newline]⟩
      · exact ⟨0, by simp [blockNodes_newline]⟩
    · obtain ⟨hnext, hnext'⟩ := h.next_of_goesOn hgoes hs
      obtain ⟨hblock, hrest⟩ := goesOn_wholeLines hgoes hs
      have hshorter := (Block.length_next_lt hs).1
      rw [hnext, hlength] at hshorter
      obtain ⟨n, hn⟩ := ih _ hshorter (linewise_wholeLines h) hrest rfl
      refine ⟨n, ?_⟩
      rw [blockNodes_of_next hs hnext, blockNodes_of_next hgoes.ne_nil hnext', hblock, hn]
      simp only [List.append_assoc]

/-- A blank line separates what is read before it from what is read after it. -/
theorem blockNodes_append_blankLine (h : Linewise s) (more : Text) :
    ∃ n, blockNodes (s ++ '\n' :: '\n' :: more) =
      blockNodes s ++ List.replicate (n + 1) .blank ++ blockNodes more :=
  blockNodes_goesOn h (.inl rfl)

end Bindery.Markup
