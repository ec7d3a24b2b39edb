import Bindery.Proofs.Markup.Blocks
import Bindery.Proofs.Markup.Pieces
import Bindery.Proofs.Text.Letter

namespace Bindery.Markup

open Text

variable {t : Text}

/-- Letters and spaces. -/
def IsLetters (t : Text) : Prop :=
  t.all (fun c => c.isAlpha || c == ' ') = true

theorem IsLetters.letter_or_space (h : IsLetters t) : ∀ c ∈ t, c.isAlpha = true ∨ c = ' ' := by
  intro c hc
  simpa using List.all_eq_true.1 h c hc

theorem IsLetters.not_mem (h : IsLetters t) {c : Char} (hc : c.isAlpha = false) (hspace : c ≠ ' ') :
    c ∉ t := by
  intro hmem
  rcases h.letter_or_space c hmem with hletter | hletter
  · rw [hc] at hletter
    cases hletter
  · exact hspace hletter

theorem IsLetters.not_mark (h : IsLetters t) : t.any isSpanMark = false := by
  rw [List.any_eq_false]
  intro c hc
  rcases h.letter_or_space c hc with hletter | rfl
  · simpa using not_of_isAlpha (p := isSpanMark) (by decide) hletter
  · decide

theorem IsLetters.parseInline (h : IsLetters t) (ht : t ≠ []) : parseInline t = [.text t] := by
  have hempty : ¬t.isEmpty = true := by simpa using ht
  rw [Markup.parseInline, pieces_of_not_mark false h.not_mark, gather_chars]
  exact if_neg hempty

/-- Letters and spaces, with a letter at both ends, that are no statement. -/
structure IsProse (t : Text) : Prop where
  letters : t.all (fun c => c.isAlpha || c == ' ') = true
  first : t.head?.any Char.isAlpha = true
  last : t.getLast?.any Char.isAlpha = true
  shown : isStatement t = false

theorem IsProse.exists_cons (h : IsProse t) : ∃ c s, t = c :: s ∧ c.isAlpha = true := by
  have hfirst := h.first
  cases t with
  | nil => cases hfirst
  | cons c s => exact ⟨c, s, rfl, by simpa using hfirst⟩

theorem IsProse.ne_nil (h : IsProse t) : t ≠ [] := by
  obtain ⟨c, s, rfl, -⟩ := h.exists_cons
  exact List.cons_ne_nil c s

theorem IsProse.not_mem (h : IsProse t) {c : Char} (hc : c.isAlpha = false) (hspace : c ≠ ' ') :
    c ∉ t :=
  IsLetters.not_mem h.letters hc hspace

theorem IsProse.parseInline (h : IsProse t) : parseInline t = [.text t] :=
  IsLetters.parseInline h.letters h.ne_nil

/-- The first character that is no gap is a letter. -/
def BeginsWithLetter (s : Text) : Prop :=
  (s.dropWhile isGap).head?.any Char.isAlpha = true

variable {s tail : Text}

theorem beginsWithLetter_cons {c : Char} (hc : c.isAlpha = true) (s : Text) :
    BeginsWithLetter (c :: s) := by
  rw [BeginsWithLetter, List.dropWhile_cons_of_neg (by simp [isGap_of_isAlpha hc])]
  exact hc

theorem BeginsWithLetter.exists_cons (h : BeginsWithLetter s) :
    ∃ c t, c.isAlpha = true ∧ s.dropWhile isGap = c :: t := by
  rw [BeginsWithLetter] at h
  cases hdrop : s.dropWhile isGap with
  | nil =>
    rw [hdrop] at h
    cases h
  | cons c t =>
    rw [hdrop] at h
    exact ⟨c, t, h, rfl⟩

theorem isBlank_of_isGap {c : Char} (h : isGap c = true) : isBlank c = true := by
  rw [isGap, Bool.or_eq_true, beq_iff_eq, beq_iff_eq] at h
  rcases h with rfl | rfl
  · decide
  · decide

theorem BeginsWithLetter.append (h : BeginsWithLetter s) (t : Text) :
    BeginsWithLetter (s ++ t) := by
  obtain ⟨c, rest, hc, hdrop⟩ := h.exists_cons
  rw [BeginsWithLetter, List.dropWhile_append, hdrop]
  exact hc

/-- Such a text is blank or begins with a letter. -/
theorem IsLetters.blank_or_letter (h : IsLetters t) : t.all isGap = true ∨ BeginsWithLetter t := by
  rw [BeginsWithLetter]
  cases hdrop : t.dropWhile isGap with
  | nil =>
    have hall := List.takeWhile_append_dropWhile (p := isGap) (l := t)
    rw [hdrop, List.append_nil] at hall
    exact .inl (hall ▸ List.all_takeWhile)
  | cons c rest =>
    have hgap : isGap c = false := by
      have hhead := head?_dropWhile isGap t
      rwa [hdrop] at hhead
    have hc : c ∈ t := (List.dropWhile_suffix isGap).subset (hdrop ▸ List.mem_cons_self)
    rcases h.letter_or_space c hc with hletter | rfl
    · exact .inr hletter
    · exact absurd hgap (by decide)

theorem BeginsWithLetter.dropWhile_isBlank (h : BeginsWithLetter s) :
    s.dropWhile isBlank = s.dropWhile isGap := by
  obtain ⟨c, t, hc, hdrop⟩ := h.exists_cons
  have hgaps : (s.takeWhile isGap).all isBlank = true := by
    refine List.all_eq_true.2 fun d hd => ?_
    exact isBlank_of_isGap (List.all_eq_true.1 List.all_takeWhile d hd)
  have hstop : (c :: t).head?.any isBlank = false := isBlank_of_isAlpha hc
  have hshape := List.takeWhile_append_dropWhile (p := isGap) (l := s)
  rw [hdrop] at hshape ⊢
  rw [← hshape]
  exact dropWhile_append_of_head hgaps hstop

theorem BeginsWithLetter.allBlank (h : BeginsWithLetter s) : allBlank s = false := by
  obtain ⟨c, t, hc, hdrop⟩ := h.exists_cons
  have hmem : c ∈ s := (List.dropWhile_suffix isGap).subset (hdrop ▸ List.mem_cons_self)
  exact allBlank_of_mem hmem (isBlank_of_isAlpha hc)

/-- A line with an end that no quoted name has imports nothing. -/
theorem beforeQuotedEnd?_of_getLast {c : Char} (hlast : s.getLast? = some c)
    (hblank : isBlank c = false) (hquote : isQuote c = false) (hend : c ≠ ';') :
    beforeQuotedEnd? s = none := by
  have htrim : Text.trimEnd s = s := dropEndWhile_of_getLast hlast hblank
  simp [beforeQuotedEnd?, htrim, hlast, hquote, hend]

theorem BeginsWithLetter.heading? (h : BeginsWithLetter s) : heading? s = none := by
  obtain ⟨c, t, hc, hdrop⟩ := h.exists_cons
  have hsign : s.takeWhile (· == '#') = [] := by
    cases s with
    | nil => rfl
    | cons d s =>
      by_cases hd : d = '#'
      · subst hd
        rw [List.dropWhile_cons_of_neg (by decide)] at hdrop
        exact absurd (List.cons.inj hdrop).1.symm (ne_of_isAlpha hc (by decide))
      · exact List.takeWhile_cons_of_neg (by simpa using hd)
  simp [Markup.heading?, hsign]

theorem BeginsWithLetter.isRule (h : BeginsWithLetter s) : isRule s = false := by
  obtain ⟨c, t, hc, hdrop⟩ := h.exists_cons
  have hmark : (c == '-' || c == '*' || c == '_') = false :=
    not_of_isAlpha (p := fun c => c == '-' || c == '*' || c == '_') (by decide) hc
  simp [Markup.isRule, hdrop, hmark]

theorem BeginsWithLetter.listItem? (h : BeginsWithLetter s) : listItem? s = none := by
  obtain ⟨c, t, hc, hdrop⟩ := h.exists_cons
  have hmark : (c == '-' || c == '*' || c == '+') = false :=
    not_of_isAlpha (p := fun c => c == '-' || c == '*' || c == '+') (by decide) hc
  have hnone : listMarker? (c :: t) = none := by
    simp [listMarker?, hmark, isDigit_of_isAlpha hc]
  rw [Markup.listItem?, hdrop, hnone]

/-- Such a line is a paragraph, unless it is a statement. -/
theorem BeginsWithLetter.lineNode? (h : BeginsWithLetter s) (hshown : isStatement s = false) :
    lineNode? s = some (.paragraph (parseInline (Text.trimEnd s))) := by
  rw [Markup.lineNode?, hshown]
  simp only [Bool.false_eq_true, ↓reduceIte, h.heading?, h.isRule, h.listItem?]

theorem BeginsWithLetter.isTableRow (h : BeginsWithLetter s) : isTableRow s = false := by
  obtain ⟨c, t, hc, hdrop⟩ := h.exists_cons
  exact isTableRow_of_head hdrop (ne_of_isAlpha hc (by decide))

theorem BeginsWithLetter.ofLine? (h : BeginsWithLetter s) : Fence.ofLine? s = none := by
  obtain ⟨c, t, hc, hdrop⟩ := h.exists_cons
  have hmark : isFenceMark c = false := not_of_isAlpha (by decide) hc
  rw [Fence.ofLine?, hdrop, markRun?, if_neg (by simp [hmark])]

theorem comment?_of_isAlpha {c : Char} (hc : c.isAlpha = true) (s : Text) :
    Block.comment? (c :: s) = none := by
  have hbrace : '\x7b' ≠ c := (ne_of_isAlpha hc (by decide)).symm
  have hangle : c ≠ '<' := ne_of_isAlpha hc (by decide)
  exact comment?_eq_none (by simpa using hangle) (by simp [expressionCommentStart, hbrace])

theorem element?_of_isAlpha {c : Char} (hc : c.isAlpha = true) (s : Text) :
    Block.element? (c :: s) = none := by
  have hangle : c ≠ '<' := ne_of_isAlpha hc (by decide)
  exact element?_eq_none (by simpa using hangle)

/-- Where a line begins with a letter, no larger block does. -/
theorem BeginsWithLetter.next (h : BeginsWithLetter s) (hs : '\n' ∉ s) (htail : EndsLine tail) :
    Block.next (s ++ tail) = (Block.ofLine s, tail.drop 1) := by
  have hline := line_append_of_endsLine hs htail
  have hafter := afterLine_append_of_endsLine hs htail
  have htable : table? (s ++ tail) = none := table?_eq_none (hline.symm ▸ h.isTableRow)
  obtain ⟨c, t, hc, hdrop⟩ := h.exists_cons
  have hstart : (s ++ tail).dropWhile isBlank = c :: (t ++ tail) := by
    rw [List.dropWhile_append, h.dropWhile_isBlank, hdrop]
    rfl
  rw [Block.next, hline, if_neg (by simp [h.allBlank]), h.ofLine?]
  simp only [Block.nextUnfenced, hstart, comment?_of_isAlpha hc, element?_of_isAlpha hc, htable,
    hline, hafter]

theorem IsProse.beginsWithLetter (h : IsProse t) : BeginsWithLetter t := by
  obtain ⟨c, s, rfl, hc⟩ := h.exists_cons
  exact beginsWithLetter_cons hc s

theorem IsProse.trimEnd (h : IsProse t) : trimEnd t = t := by
  have hlast := h.last
  cases hcases : t.getLast? with
  | none =>
    rw [hcases] at hlast
    cases hlast
  | some c =>
    rw [hcases] at hlast
    exact dropEndWhile_of_getLast hcases (isBlank_of_isAlpha (by simpa using hlast))

theorem IsProse.next (h : IsProse t) {tail : Text} (htail : EndsLine tail) :
    Block.next (t ++ tail) = (.leaf (.paragraph [.text t]), tail.drop 1) := by
  have hnewline : '\n' ∉ t := h.not_mem (by decide) (by decide)
  have hnode := h.beginsWithLetter.lineNode? h.shown
  rw [h.trimEnd, h.parseInline] at hnode
  rw [h.beginsWithLetter.next hnewline htail, Block.ofLine, hnode]

end Bindery.Markup
