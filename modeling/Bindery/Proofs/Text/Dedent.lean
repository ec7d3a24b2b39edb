import Bindery.Proofs.Text.Cutting

namespace Bindery.Text

theorem prefix_commonStart {shared s t : Text} (hs : shared <+: s) (ht : shared <+: t) :
    shared <+: commonStart s t := by
  induction shared generalizing s t with
  | nil => exact List.nil_prefix
  | cons c shared ih =>
    obtain ⟨s, rfl⟩ := hs
    obtain ⟨t, rfl⟩ := ht
    rw [List.cons_append, List.cons_append, commonStart, if_pos (by simp), List.cons_prefix_cons]
    exact ⟨rfl, ih (List.prefix_append shared s) (List.prefix_append shared t)⟩

theorem commonStart_nil_right (s : Text) : commonStart s [] = [] := by
  cases s <;> rfl

theorem commonStart_eq_left {s t : Text} (h : s <+: t) : commonStart s t = s := by
  obtain ⟨t, rfl⟩ := h
  induction s with
  | nil => rw [commonStart]; simp
  | cons c s ih => rw [List.cons_append, commonStart, if_pos (by simp), ih]

/-- The margin of lines that all begin with the same spaces begins with these. -/
theorem prefix_margin {indent : Text} {lines : List Text}
    (hlines : ∀ l ∈ lines, l ≠ [] → indent <+: l.takeWhile isGap) {shared : Text}
    (h : margin lines = some shared) : indent <+: shared := by
  induction lines generalizing shared with
  | nil => cases h
  | cons l lines ih =>
    rw [List.forall_mem_cons] at hlines
    rw [margin] at h
    split at h
    · exact ih hlines.2 h
    · next hempty =>
      have hl : indent <+: l.takeWhile isGap := hlines.1 (by simpa using hempty)
      simp only at h
      split at h
      · next rest hrest =>
        cases h
        exact prefix_commonStart hl (ih hlines.2 hrest)
      · cases h
        exact hl

theorem takeWhile_gap_append {indent : Text} (hindent : indent.all isGap = true) (l : Text) :
    (indent ++ l).takeWhile isGap = indent ++ l.takeWhile isGap :=
  List.takeWhile_append_of_pos (List.all_eq_true.1 hindent)

/-- The margin of indented lines is the indentation, if the first line has none of its own. -/
theorem margin_map_append {indent first : Text} (hindent : indent.all isGap = true)
    (hfirst : first.head?.any (!isGap ·) = true) (rest : List Text) :
    margin ((first :: rest).map (indent ++ ·) ++ [[]]) = some indent := by
  obtain ⟨c, first, rfl⟩ : ∃ c s, first = c :: s := by
    cases first with
    | nil => cases hfirst
    | cons c s => exact ⟨c, s, rfl⟩
  have hc : ¬isGap c = true := by simpa using hfirst
  have htake : (indent ++ c :: first).takeWhile isGap = indent := by
    rw [takeWhile_gap_append hindent, List.takeWhile_cons_of_neg hc, List.append_nil]
  have hlines : ∀ l ∈ rest.map (indent ++ ·) ++ [[]], l ≠ [] → indent <+: l.takeWhile isGap := by
    intro l hl hne
    rcases List.mem_append.1 hl with hl | hl
    · obtain ⟨l, -, rfl⟩ := List.mem_map.1 hl
      rw [takeWhile_gap_append hindent]
      exact List.prefix_append indent _
    · exact absurd (List.mem_singleton.1 hl) hne
  rw [List.map_cons, List.cons_append, margin, if_neg (by simp), htake]
  simp only
  split
  · next shared hshared => rw [commonStart_eq_left (prefix_margin hlines hshared)]
  · rfl

theorem emptyGaps_of_mem {s : Text} {c : Char} (hc : c ∈ s) (hgap : isGap c = false) :
    emptyGaps s = s := by
  have hall : ¬s.all isGap = true := by
    intro h
    rw [List.all_eq_true.1 h c hc] at hgap
    cases hgap
  rw [emptyGaps, if_neg hall]

theorem lines_endLines_indent {indent : Text} (hindent : indent.all isGap = true)
    {parts : List Text} (hnewline : ∀ l ∈ parts, '\n' ∉ l)
    (hshown : ∀ l ∈ parts, ∃ c ∈ l, isGap c = false) :
    (lines (endLines (parts.map (indent ++ ·)))).map emptyGaps =
      parts.map (indent ++ ·) ++ [[]] := by
  have hnone : '\n' ∉ indent := fun h => absurd (List.all_eq_true.1 hindent _ h) (by decide)
  have hlines : ∀ l ∈ parts.map (indent ++ ·), '\n' ∉ l := by
    intro l hl
    obtain ⟨l, hmem, rfl⟩ := List.mem_map.1 hl
    simp [hnone, hnewline l hmem]
  have hkept : ∀ l ∈ parts.map (indent ++ ·), emptyGaps l = l := by
    intro l hl
    obtain ⟨l, hmem, rfl⟩ := List.mem_map.1 hl
    obtain ⟨c, hc, hgap⟩ := hshown l hmem
    exact emptyGaps_of_mem (List.mem_append_right indent hc) hgap
  rw [lines_endLines hlines, List.map_append, List.map_congr_left hkept, List.map_id']
  rfl

/-- Lines that hold more than gaps lose exactly the indentation that they were all given. -/
theorem dedent_endLines {indent : Text} (hindent : indent.all isGap = true) {parts : List Text}
    (hnewline : ∀ l ∈ parts, '\n' ∉ l) (hshown : ∀ l ∈ parts, ∃ c ∈ l, isGap c = false)
    (hfirst : parts.head?.all (fun l => l.head?.any (!isGap ·)) = true) :
    dedent (endLines (parts.map (indent ++ ·))) = endLines parts := by
  have hlines := lines_endLines_indent hindent hnewline hshown
  rw [dedent]
  simp only [hlines]
  cases parts with
  | nil => rfl
  | cons first rest =>
    have hdrop : ∀ l ∈ first :: rest, (indent ++ l).drop indent.length = l := fun l _ =>
      List.drop_left
    rw [margin_map_append hindent (by simpa using hfirst), Option.getD_some, List.map_append,
      List.map_map, Function.comp_def, List.map_congr_left hdrop, List.map_id']
    exact (congrArg (fun last => joinWith ['\n'] (first :: rest ++ [last])) List.drop_nil).trans
      (joinWith_append_nil (first :: rest))

/-- A line with more indentation before it, unless it is empty. -/
def indentLine (indent l : Text) : Text :=
  if l.isEmpty then [] else indent ++ l

theorem indentLine_of_ne_nil (indent : Text) {l : Text} (h : l ≠ []) :
    indentLine indent l = indent ++ l :=
  if_neg (by simpa using h)

theorem emptyGaps_append {indent : Text} (hindent : indent.all isGap = true) (l : Text) :
    emptyGaps (indent ++ l) = indentLine indent (emptyGaps l) := by
  rw [emptyGaps, emptyGaps, List.all_append, hindent, Bool.true_and]
  split
  · rfl
  · next hshown =>
    have hne : l ≠ [] := by
      rintro rfl
      exact hshown rfl
    exact (indentLine_of_ne_nil indent hne).symm

theorem commonStart_append (indent s t : Text) :
    commonStart (indent ++ s) (indent ++ t) = indent ++ commonStart s t := by
  induction indent with
  | nil => rfl
  | cons c indent ih =>
    rw [List.cons_append, List.cons_append, commonStart, if_pos (by simp), ih, List.cons_append]

/-- More indentation before all lines is more of the margin. -/
theorem margin_map_indentLine {indent : Text} (hindent : indent.all isGap = true)
    (lines : List Text) :
    margin (lines.map (indentLine indent)) = (margin lines).map (indent ++ ·) := by
  induction lines with
  | nil => rfl
  | cons l lines ih =>
    rw [List.map_cons, margin, margin, ih]
    by_cases hl : l = []
    · subst hl
      rfl
    · have hindented : ¬(indent ++ l).isEmpty = true := by simp [hl]
      have hshown : ¬l.isEmpty = true := by simpa using hl
      rw [indentLine_of_ne_nil indent hl, if_neg hindented, if_neg hshown,
        takeWhile_gap_append hindent]
      cases margin lines with
      | none => rfl
      | some shared => exact congrArg some (commonStart_append indent _ shared)

/-- Without lines that are not empty there is no margin. -/
theorem eq_nil_of_margin_eq_none {lines : List Text} (h : margin lines = none) :
    ∀ l ∈ lines, l = [] := by
  induction lines with
  | nil => exact fun l hl => absurd hl List.not_mem_nil
  | cons l lines ih =>
    rw [margin] at h
    split at h
    · next hempty => exact List.forall_mem_cons.2 ⟨by simpa using hempty, ih h⟩
    · simp only at h
      split at h
      · cases h
      · cases h

/-- Lines lose the indentation that was put before all of them along with their margin. -/
theorem map_drop_indentLine {indent : Text} (hindent : indent.all isGap = true)
    (lines : List Text) :
    (lines.map (indentLine indent)).map
        (·.drop ((margin (lines.map (indentLine indent))).getD []).length) =
      lines.map (·.drop ((margin lines).getD []).length) := by
  rw [margin_map_indentLine hindent, List.map_map]
  refine List.map_congr_left fun l hl => ?_
  rw [Function.comp_apply]
  by_cases hempty : l = []
  · subst hempty
    exact List.drop_nil.trans List.drop_nil.symm
  · cases hmargin : margin lines with
    | none => exact absurd (eq_nil_of_margin_eq_none hmargin l hl) hempty
    | some shared =>
      rw [indentLine_of_ne_nil indent hempty, Option.map_some, Option.getD_some, Option.getD_some,
        List.length_append, List.drop_length_add_append]

/-- Lines that are all indented further come back the same, whatever their own indentation is. -/
theorem dedent_endLines_map {indent : Text} (hindent : indent.all isGap = true)
    {parts : List Text} (hparts : ∀ l ∈ parts, '\n' ∉ l) :
    dedent (endLines (parts.map (indent ++ ·))) = dedent (endLines parts) := by
  have hnone : '\n' ∉ indent := fun h => absurd (List.all_eq_true.1 hindent _ h) (by decide)
  have hindented : ∀ l ∈ parts.map (indent ++ ·), '\n' ∉ l := by
    intro l hl
    obtain ⟨l, hmem, rfl⟩ := List.mem_map.1 hl
    simp [hnone, hparts l hmem]
  have hgaps : (parts.map (indent ++ ·) ++ [[]]).map emptyGaps =
      ((parts ++ [[]]).map emptyGaps).map (indentLine indent) := by
    rw [List.map_append, List.map_append, List.map_append, List.map_map, List.map_map]
    exact congrArg (· ++ [[]]) (List.map_congr_left fun l _ => emptyGaps_append hindent l)
  rw [dedent, dedent, lines_endLines hindented, lines_endLines hparts, hgaps]
  simp only [map_drop_indentLine hindent]

/-- A line that begins with what is no gap leaves no margin. -/
theorem margin_of_flush {lines : List Text} (h : ∃ l ∈ lines, l.head?.any (!isGap ·) = true) :
    margin lines = some [] := by
  obtain ⟨l, hl, hflush⟩ := h
  induction lines with
  | nil => cases hl
  | cons first rest ih =>
    rw [margin]
    rcases List.mem_cons.1 hl with rfl | hl
    · obtain ⟨c, t, rfl⟩ : ∃ c t, l = c :: t := by
        cases l with
        | nil => cases hflush
        | cons c t => exact ⟨c, t, rfl⟩
      have hc : ¬isGap c = true := by simpa using hflush
      rw [if_neg (by simp), List.takeWhile_cons_of_neg hc]
      cases margin rest with
      | none => rfl
      | some shared => rfl
    · rw [ih hl]
      split
      · rfl
      · exact congrArg some (commonStart_nil_right _)

/-- A text with such a line keeps its lines, but that those of gaps become empty. -/
theorem dedent_of_flush {s : Text} (h : ∃ l ∈ lines s, l.head?.any (!isGap ·) = true) :
    dedent s = joinWith ['\n'] ((lines s).map emptyGaps) := by
  have hmargin : margin ((lines s).map emptyGaps) = some [] := by
    obtain ⟨l, hl, hflush⟩ := h
    refine margin_of_flush ⟨l, List.mem_map.2 ⟨l, hl, ?_⟩, hflush⟩
    cases l with
    | nil => cases hflush
    | cons c t => exact emptyGaps_of_mem List.mem_cons_self (by simpa using hflush)
  have hdrop : (fun l : Text => l.drop 0) = id := rfl
  rw [dedent]
  simp only [hmargin, Option.getD_some, List.length_nil, hdrop, List.map_id]

theorem infix_emptyGaps (l : Text) : emptyGaps l <:+: l := by
  rw [emptyGaps]
  split
  · exact List.nil_infix
  · exact List.infix_rfl

/-- Where the ends of a text are shown, only what is between them can change: no word comes into it,
    and a single line is kept. -/
theorem exists_emptyGaps {p q : Text} (hp : '\n' ∉ p) (hq : '\n' ∉ q)
    (hpshown : ∃ c ∈ p, isGap c = false) (hqshown : ∃ c ∈ q, isGap c = false) (s : Text) :
    ∃ t, joinWith ['\n'] ((lines (p ++ (s ++ q))).map emptyGaps) = p ++ (t ++ q) ∧
      (∀ word, word ≠ [] → '\n' ∉ word → word <:+: t → word <:+: s) ∧ ('\n' ∉ s → t = s) := by
  obtain ⟨cp, hcp, hpgap⟩ := hpshown
  obtain ⟨cq, hcq, hqgap⟩ := hqshown
  obtain ⟨pieces, last, hsplit⟩ := exists_splitOn_append '\n' s
  have hlines : lines s = pieces ++ [last] := by
    have h := hsplit [] List.not_mem_nil
    rwa [List.append_nil, List.append_nil] at h
  have hboth : lines (s ++ q) = pieces ++ [last ++ q] := hsplit q hq
  have hend : emptyGaps (last ++ q) = last ++ q :=
    emptyGaps_of_mem (List.mem_append_right last hcq) hqgap
  cases pieces with
  | nil =>
    have hs : s = last := by
      rw [← joinWith_splitOn '\n' s, ← lines, hlines]
      rfl
    subst hs
    refine ⟨s, ?_, fun word _ _ h => h, fun _ => rfl⟩
    have hall : emptyGaps (p ++ (s ++ q)) = p ++ (s ++ q) :=
      emptyGaps_of_mem (List.mem_append_left _ hcp) hpgap
    rw [lines, splitOn_append_of_not_mem hp hboth, List.map_singleton, hall]
    rfl
  | cons first middle =>
    have hbegin : emptyGaps (p ++ first) = p ++ first :=
      emptyGaps_of_mem (List.mem_append_left first hcp) hpgap
    refine ⟨joinWith ['\n'] (first :: (middle.map emptyGaps ++ [last])), ?_, ?_, ?_⟩
    · rw [List.cons_append] at hboth
      rw [lines, splitOn_append_of_not_mem hp hboth, List.map_cons, List.map_append,
        List.map_singleton, hbegin, hend, joinWith_cons (by simp), joinWith_append_last,
        joinWith_cons (by simp)]
      simp only [List.append_assoc]
    · intro word hne hword h
      obtain ⟨part, hpart, hword⟩ := exists_infix_of_infix_joinWith hne hword h
      have hline {l : Text} (hl : l ∈ first :: middle ++ [last]) : l <:+: s :=
        infix_of_mem_splitOn (hlines ▸ hl)
      rw [← List.cons_append, List.mem_append, List.mem_cons] at hpart
      rcases hpart with (rfl | hpart) | hpart
      · exact hword.trans (hline (by simp))
      · obtain ⟨l, hl, rfl⟩ := List.mem_map.1 hpart
        exact (hword.trans (infix_emptyGaps l)).trans (hline (by simp [hl]))
      · obtain rfl := List.mem_singleton.1 hpart
        exact hword.trans (hline (by simp))
    · intro hnewline
      rw [lines, splitOn_of_not_mem hnewline] at hlines
      simp at hlines

theorem dedentContent_newline (s : Text) : dedentContent ('\n' :: s) = '\n' :: dedent s := by
  have hcut : cutAt? ['\n'] ('\n' :: s) = some ([], s) := rfl
  rw [dedentContent, hcut]
  rfl

/-- Removing indentation brings no character into a text but newlines. -/
theorem not_mem_dedent {s : Text} {c : Char} (hc : c ≠ '\n') (hs : c ∉ s) : c ∉ dedent s := by
  intro hmem
  rcases mem_of_mem_joinWith hmem with hmem | ⟨part, hpart, hmem⟩
  · exact hc (List.mem_singleton.1 hmem)
  · obtain ⟨gapped, hgapped, rfl⟩ := List.mem_map.1 hpart
    obtain ⟨l, hl, rfl⟩ := List.mem_map.1 hgapped
    have hline : emptyGaps l ⊆ l := by
      rw [emptyGaps]
      split
      · exact List.nil_subset l
      · exact List.Subset.refl l
    exact hs (subset_of_mem_splitOn hl (hline (List.drop_subset _ _ hmem)))

theorem not_mem_dedentContent {s : Text} {c : Char} (hc : c ≠ '\n') (hs : c ∉ s) :
    c ∉ dedentContent s := by
  have htrim (t : Text) : trim t ⊆ t := (infix_trimClass isBlank t).subset
  rw [dedentContent]
  split
  · next first rest hcut =>
    rw [eq_append_of_cutAt? hcut] at hs
    simp only [List.mem_append, not_or] at hs
    rw [List.mem_append, List.mem_cons, not_or, not_or]
    exact ⟨fun h => hs.1.1 (htrim first h), hc, not_mem_dedent hc hs.2⟩
  · exact fun h => hs (htrim s h)

end Bindery.Text
