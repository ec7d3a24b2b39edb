import Bindery.Proofs.Markup.BlankLine

namespace Bindery.Markup

open Text

variable {cell ending : Text} {cells header : List Text} {rows : List (List Text)} {columns : Nat}

/-- A text that a row can hold: it is in one line and has no blanks at its ends. -/
structure IsCell (cell : Text) : Prop where
  noNewline : '\n' ∉ cell
  noReturn : '\r' ∉ cell
  trimmed : trim cell = cell

instance (cell : Text) : Decidable (IsCell cell) :=
  decidable_of_iff ('\n' ∉ cell ∧ '\r' ∉ cell ∧ trim cell = cell)
    ⟨fun h => ⟨h.1, h.2.1, h.2.2⟩, fun h => ⟨h.noNewline, h.noReturn, h.trimmed⟩⟩

/-- The cells of a row, of which there is at least one. -/
structure IsRow (cells : List Text) : Prop where
  nonempty : cells ≠ []
  cell : ∀ cell ∈ cells, IsCell cell

instance (cells : List Text) : Decidable (IsRow cells) :=
  decidable_of_iff (cells ≠ [] ∧ ∀ cell ∈ cells, IsCell cell)
    ⟨fun h => ⟨h.1, h.2⟩, fun h => ⟨h.nonempty, h.cell⟩⟩

/-- A cell with each of its bars after a backslash. -/
def cellText (cell : Text) : Text :=
  replaceChar '|' ['\\', '|'] cell

/-- A cell with the blanks that keep it from the bars of its row. -/
def paddedText (cell : Text) : Text :=
  ' ' :: (cellText cell ++ [' '])

/-- The given parts between bars. -/
def barredText (parts : List Text) : Text :=
  '|' :: parts.flatMap (· ++ ['|'])

/-- The line of a row. -/
def rowText (cells : List Text) : Text :=
  barredText (cells.map paddedText)

/-- The line below the header. -/
def separatorText (columns : Nat) : Text :=
  barredText (List.replicate columns "---".toList)

/-- A table with the given cells. -/
def tableText (columns : Nat) (header : List Text) (rows : List (List Text)) : Text :=
  joinWith ['\n'] (rowText header :: separatorText columns :: rows.map rowText)

theorem cellText_cons_bar (cell : Text) : cellText ('|' :: cell) = '\\' :: '|' :: cellText cell :=
  rfl

theorem cellText_cons_of_ne {c : Char} (hc : c ≠ '|') (cell : Text) :
    cellText (c :: cell) = c :: cellText cell := by
  rw [cellText, replaceChar, List.flatMap_cons, if_neg (by simpa using hc)]
  rfl

theorem not_mem_cellText {c : Char} (hbar : c ≠ '|') (hslash : c ≠ '\\') (h : c ∉ cell) :
    c ∉ cellText cell := by
  intro hmem
  obtain ⟨d, hd, hmem⟩ := List.mem_flatMap.1 hmem
  split at hmem
  · simp [hbar, hslash] at hmem
  · rw [List.mem_singleton] at hmem
    exact h (hmem ▸ hd)

theorem not_mem_barredText {c : Char} (hbar : c ≠ '|') {parts : List Text}
    (h : ∀ part ∈ parts, c ∉ part) : c ∉ barredText parts := by
  intro hmem
  rcases List.mem_cons.1 hmem with heq | hmem
  · exact hbar heq
  · obtain ⟨part, hpart, hmem⟩ := List.mem_flatMap.1 hmem
    simp [h part hpart, hbar] at hmem

theorem not_mem_rowText {c : Char} (hbar : c ≠ '|') (hslash : c ≠ '\\') (hspace : c ≠ ' ')
    (h : ∀ cell ∈ cells, c ∉ cell) : c ∉ rowText cells := by
  refine not_mem_barredText hbar (List.forall_mem_map.2 fun cell hcell => ?_)
  simp [paddedText, not_mem_cellText hbar hslash (h cell hcell), hspace]

theorem not_mem_separatorText {c : Char} (hbar : c ≠ '|') (hdash : c ≠ '-') (columns : Nat) :
    c ∉ separatorText columns := by
  refine not_mem_barredText hbar fun part hpart => ?_
  rw [List.eq_of_mem_replicate hpart]
  simp [hdash]

theorem getLast?_barredText (parts : List Text) : (barredText parts).getLast? = some '|' := by
  rcases List.eq_nil_or_concat parts with rfl | ⟨init, part, rfl⟩
  · rfl
  · exact List.getLast?_eq_some_iff.2 ⟨'|' :: (init.flatMap (· ++ ['|']) ++ part), by
      simp [barredText]⟩

/-- Nothing is outside the bars of a row. -/
theorem trimClass_barredText {p : Char → Bool} (hp : p '|' = false) (parts : List Text) :
    trimClass p (barredText parts) = barredText parts := by
  refine trimClass_eq_self hp ?_
  rw [getLast?_barredText, Option.any_some, hp]

/-- A character that is no bar, or one after a backslash, belongs to the part that it begins. -/
theorem splitBars_cons {escaped : Bool} {c : Char} (hc : c ≠ '|' ∨ escaped = true) {s first : Text}
    {others : List Text} (h : splitBars (c == '\\') s = first :: others) :
    splitBars escaped (c :: s) = (c :: first) :: others := by
  have hbar : ¬(c == '|' && !escaped) = true := by
    rcases hc with hc | rfl
    · simp [hc]
    · simp
  rw [splitBars, if_neg hbar, h]

/-- The bars of a cell are not those of its row, whatever stands before the cell. -/
theorem splitBars_cellText (escaped : Bool) (cell rest : Text) :
    splitBars escaped (cellText cell ++ ' ' :: '|' :: rest) =
      (cellText cell ++ [' ']) :: splitBars false rest := by
  induction cell generalizing escaped with
  | nil => exact splitBars_cons (.inl (by decide)) rfl
  | cons c cell ih =>
    by_cases hc : c = '|'
    · subst hc
      exact splitBars_cons (.inl (by decide)) (splitBars_cons (.inr rfl) (ih _))
    · rw [cellText_cons_of_ne hc]
      exact splitBars_cons (.inl hc) (ih _)

theorem splitBars_paddedText (cell rest : Text) :
    splitBars false (paddedText cell ++ '|' :: rest) =
      paddedText cell :: splitBars false rest := by
  rw [paddedText, List.cons_append, List.append_assoc]
  exact splitBars_cons (.inl (by decide)) (splitBars_cellText _ cell rest)

theorem splitBars_rowText (cells : List Text) :
    splitBars false (rowText cells) = [] :: (cells.map paddedText ++ [[]]) := by
  have hbar : (('|' == '|') && !false) = true := by decide
  rw [rowText, barredText, splitBars, if_pos hbar]
  congr 1
  induction cells with
  | nil => rfl
  | cons cell cells ih =>
    rw [List.map_cons, List.flatMap_cons, List.append_assoc, List.singleton_append,
      splitBars_paddedText, ih, List.cons_append]

theorem unescapeBars_cellText (cell : Text) : unescapeBars (cellText cell) = cell := by
  induction cell with
  | nil => rfl
  | cons c cell ih =>
    by_cases hc : c = '|'
    · subst hc
      rw [cellText_cons_bar, unescapeBars, ih]
    · rw [cellText_cons_of_ne hc, unescapeBars, ih]
      -- No written cell begins with a bar, so that a backslash before it stays.
      intro s hs heq
      cases cell with
      | nil => cases heq
      | cons d cell =>
        by_cases hd : d = '|'
        · subst hd
          rw [cellText_cons_bar] at heq
          cases heq
        · rw [cellText_cons_of_ne hd] at heq
          exact hd (List.cons.inj heq).1

theorem head?_cellText (h : cell.head?.any isBlank = false) :
    (cellText cell).head?.any isBlank = false := by
  cases cell with
  | nil => rfl
  | cons c cell =>
    by_cases hc : c = '|'
    · subst hc
      rfl
    · rw [cellText_cons_of_ne hc]
      exact h

theorem getLast?_cellText (cell : Text) : (cellText cell).getLast? = cell.getLast? := by
  rcases List.eq_nil_or_concat cell with rfl | ⟨init, c, rfl⟩
  · rfl
  · rw [List.concat_eq_append, cellText, replaceChar, List.flatMap_append, List.flatMap_singleton]
    split
    · next hc => simp [eq_of_beq hc]
    · simp

/-- The blanks around a cell are all that trimming takes from it. -/
theorem trim_paddedText (h : trim cell = cell) : trim (paddedText cell) = cellText cell := by
  have hhead : (cellText cell).head?.any isBlank = false :=
    head?_cellText (h ▸ head?_trimClass isBlank cell)
  have hlast : (cellText cell).getLast?.any isBlank = false := by
    rw [getLast?_cellText, ← h]
    exact getLast?_dropEndWhile isBlank _
  have hstart : trim (paddedText cell) = trim (cellText cell ++ [' ']) := by
    rw [trim, trimClass, paddedText, List.dropWhile_cons_of_pos (by decide), ← trimClass, ← trim]
  rw [hstart, trim, trimClass_append_of_all _ (by decide), trimClass_eq_self hhead hlast]

/-- The cells of a row that has been written are those that it was written from. -/
theorem rowCells_rowText (h : ∀ cell ∈ cells, IsCell cell) : rowCells (rowText cells) = cells := by
  have hcell : ∀ cell ∈ cells, unescapeBars (trim (paddedText cell)) = cell := fun cell hmem => by
    rw [trim_paddedText (h cell hmem).trimmed, unescapeBars_cellText]
  rw [rowCells, trim, rowText, trimClass_barredText (by decide), ← rowText, splitBars_rowText,
    List.drop_one, List.tail_cons, List.dropLast_concat, List.map_map]
  exact (List.map_congr_left hcell).trans (List.map_id cells)

theorem isTableRow_rowText (h : cells ≠ []) : isTableRow (rowText cells) = true := by
  have hlength : 2 ≤ (rowText cells).length := by
    obtain ⟨cell, cells, rfl⟩ := List.exists_cons_of_ne_nil h
    simp [rowText, barredText, paddedText]
  have hlast : (rowText cells).getLast? = some '|' := getLast?_barredText _
  rw [isTableRow, rowText, trimClass_barredText (by decide), ← rowText]
  simp only [hlength, hlast]
  rfl

theorem splitOn_barredText {parts : List Text} (h : ∀ part ∈ parts, '|' ∉ part) :
    splitOn '|' (barredText parts) = [] :: (parts ++ [[]]) := by
  rw [barredText, splitOn, if_pos (by decide)]
  congr 1
  induction parts with
  | nil => rfl
  | cons part parts ih =>
    rw [List.forall_mem_cons] at h
    rw [List.flatMap_cons, List.append_assoc, List.singleton_append, splitOn_append_cons h.1,
      ih h.2, List.cons_append]

theorem isSeparator_separatorText (h : 0 < columns) :
    isSeparator (separatorText columns) = true := by
  have hparts : ∀ part ∈ List.replicate columns "---".toList, '|' ∉ part := fun part hpart => by
    rw [List.eq_of_mem_replicate hpart]
    decide
  have hdashes : (List.replicate columns "---".toList).all isDashes = true := by
    rw [List.all_eq_true]
    intro part hpart
    rw [List.eq_of_mem_replicate hpart]
    decide
  have hlength : 2 ≤ (List.replicate columns "---".toList ++ [[]]).length := by
    rw [List.length_append, List.length_replicate]
    exact Nat.succ_le_succ h
  rw [isSeparator, separatorText, trimClass_barredText (by decide), splitOn_barredText hparts]
  simp only [List.dropLast_concat, hdashes, hlength]
  simp

/-- What may stand after the last line of a page: nothing, or its newline. -/
def EndsPage (ending : Text) : Prop :=
  ending = [] ∨ ending = ['\n']

theorem endsLine_ending (hending : EndsPage ending) (lines : List Text) :
    EndsLine (lines.flatMap ('\n' :: ·) ++ ending) := by
  cases lines with
  | cons first lines => exact .inr ⟨_, rfl⟩
  | nil =>
    rcases hending with rfl | rfl
    · exact .inl rfl
    · exact .inr ⟨[], rfl⟩

/-- The rows of a table are read to the end of the text. -/
theorem tableRows_rowTexts (h : ∀ row ∈ rows, IsRow row) (hending : EndsPage ending) :
    tableRows (((rows.map rowText).flatMap ('\n' :: ·) ++ ending).drop 1) = (rows, []) := by
  induction rows with
  | nil =>
    rcases hending with rfl | rfl
    · exact tableRows_of_not_row rfl
    · exact tableRows_of_not_row rfl
  | cons row rows ih =>
    rw [List.forall_mem_cons] at h
    have hnewline : '\n' ∉ rowText row :=
      not_mem_rowText (by decide) (by decide) (by decide) fun cell hcell =>
        (h.1.cell cell hcell).noNewline
    have htail := endsLine_ending hending (rows.map rowText)
    have hline := line_append_of_endsLine hnewline htail
    have hafter := afterLine_append_of_endsLine hnewline htail
    have hrow := hline.symm ▸ isTableRow_rowText h.1.nonempty
    rw [List.map_cons, List.flatMap_cons, List.append_assoc, List.cons_append, List.drop_one,
      List.tail_cons, tableRows_of_row hrow, hline, hafter, ih h.2, rowCells_rowText h.1.cell]

theorem tableText_append (columns : Nat) (header : List Text) (rows : List (List Text))
    (ending : Text) : tableText columns header rows ++ ending = rowText header ++ '\n' ::
      (separatorText columns ++ ((rows.map rowText).flatMap ('\n' :: ·) ++ ending)) := by
  rw [tableText, joinWith_newline, List.flatMap_cons]
  simp only [List.append_assoc, List.cons_append]

theorem table?_tableText (hcolumns : 0 < columns) (hheader : IsRow header)
    (hrows : ∀ row ∈ rows, IsRow row) (hending : EndsPage ending) :
    table? (tableText columns header rows ++ ending) =
      some (.table (header.map parseInline) (rows.map (·.map parseInline)), []) := by
  have hnewline : '\n' ∉ rowText header :=
    not_mem_rowText (by decide) (by decide) (by decide) fun cell hcell =>
      (hheader.cell cell hcell).noNewline
  have hseparator : '\n' ∉ separatorText columns := not_mem_separatorText (by decide) (by decide) _
  have htail := endsLine_ending hending (rows.map rowText)
  have hline (s : Text) : line (rowText header ++ '\n' :: s) = rowText header :=
    line_append_of_endsLine hnewline (.inr ⟨s, rfl⟩)
  have hafter (s : Text) : afterLine (rowText header ++ '\n' :: s) = s :=
    afterLine_append_of_endsLine hnewline (.inr ⟨s, rfl⟩)
  rw [tableText_append]
  have hstarts : startsTable (rowText header ++ '\n' :: (separatorText columns ++
      ((rows.map rowText).flatMap ('\n' :: ·) ++ ending))) = true := by
    rw [startsTable, hline, hafter, line_append_of_endsLine hseparator htail,
      isTableRow_rowText hheader.nonempty, isSeparator_separatorText hcolumns, Bool.and_self]
  rw [table?_of_startsTable hstarts, hline, hafter, afterLine_append_of_endsLine hseparator htail,
    tableRows_rowTexts hrows hending, rowCells_rowText hheader.cell]

/-- A text that begins with a bar begins with a table or with a line. -/
theorem next_of_bar {s rest : Text} {node : Node} (h : table? ('|' :: s) = some (node, rest)) :
    Block.next ('|' :: s) = (.leaf node, rest) := by
  have hline : line ('|' :: s) = '|' :: line s := rfl
  have hshown : ¬allBlank ('|' :: line s) = true := by
    simp [allBlank_of_mem (c := '|') List.mem_cons_self (by decide)]
  have hfence : Fence.ofLine? ('|' :: line s) = none := rfl
  have hstart : ('|' :: s).dropWhile isBlank = '|' :: s := List.dropWhile_cons_of_neg (by decide)
  have hcomment : Block.comment? ('|' :: s) = none :=
    comment?_eq_none (by simp) (by simp [expressionCommentStart])
  have helement : Block.element? ('|' :: s) = none := element?_eq_none (by simp)
  rw [Block.next, hline, if_neg hshown, hfence]
  simp only [Block.nextUnfenced, hstart, hcomment, helement, h]

/-- A table that has been written is one node, with the cells that it was written from. -/
theorem parse_tableText (hcolumns : 0 < columns) (hheader : IsRow header)
    (hrows : ∀ row ∈ rows, IsRow row) (hending : EndsPage ending) :
    parse (tableText columns header rows ++ ending) =
      [.table (header.map parseInline) (rows.map (·.map parseInline))] := by
  have hrow {row : List Text} (h : IsRow row) : '\r' ∉ rowText row :=
    not_mem_rowText (by decide) (by decide) (by decide) fun cell hcell =>
      (h.cell cell hcell).noReturn
  have hlines : '\r' ∉ tableText columns header rows := by
    intro hmem
    rcases mem_of_mem_joinWith hmem with hmem | ⟨line, hline, hmem⟩
    · simp at hmem
    · rcases List.mem_cons.1 hline with rfl | hline
      · exact hrow hheader hmem
      rcases List.mem_cons.1 hline with rfl | hline
      · exact not_mem_separatorText (by decide) (by decide) columns hmem
      obtain ⟨row, hmemRow, rfl⟩ := List.mem_map.1 hline
      exact hrow (hrows row hmemRow) hmem
  have hreturn : '\r' ∉ tableText columns header rows ++ ending := by
    rw [List.mem_append, not_or]
    refine ⟨hlines, ?_⟩
    rcases hending with rfl | rfl
    · exact List.not_mem_nil
    · decide
  have htable := table?_tableText hcolumns hheader hrows hending
  obtain ⟨s, hs⟩ : ∃ s, tableText columns header rows ++ ending = '|' :: s :=
    ⟨_, tableText_append columns header rows ending⟩
  rw [hs] at hreturn htable ⊢
  exact parse_of_next (normalizeNewlines_of_not_mem hreturn) (List.cons_ne_nil _ s)
    (next_of_bar htable)

end Bindery.Markup
