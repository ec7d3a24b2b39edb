import Bindery.Proofs.Markup.Fitting
import Bindery.Proofs.Markup.Prose
import Mathlib.Data.List.TakeWhile

namespace Bindery.Markup

open Text

theorem table?_of_oneLine {s : Text} (h : '\n' ∉ s) : table? s = none := by
  have hseparator : isSeparator (line []) = false := rfl
  simp [table?, (line_of_not_mem h).2, hseparator]

/-- What a line without any construct in it is read as: a blank line, the beginning of code, or what
    the line alone says. -/
theorem next_of_not_mark {s : Text} (hline : '\n' ∉ s) (hmarks : s.any isSpanMark = false) :
    Block.next s = (.leaf .blank, []) ∨
      (∃ language code, Block.next s = (.leaf (.codeBlock language code), [])) ∨
      Block.next s = (Block.ofLine s, []) := by
  obtain ⟨hwhole, hafter⟩ := line_of_not_mem hline
  have hstart {c : Char} (hc : isSpanMark c = true) : c ∉ s.dropWhile isBlank := fun h =>
    absurd hc (List.any_eq_false.1 hmarks c ((List.dropWhile_suffix isBlank).subset h))
  have hangle : (s.dropWhile isBlank).head? ≠ some '<' := fun h =>
    hstart (by decide) (List.mem_of_head? h)
  have hcomment : ¬expressionCommentStart <+: s.dropWhile isBlank := fun h =>
    hstart (c := '\x7b') (by decide) (h.subset List.mem_cons_self)
  rw [Block.next, hwhole, hafter]
  split
  · exact .inl rfl
  · split
    · next fence _ =>
      have hbody : fence.body [] = ([], []) := by rw [Fence.body]
      rw [hbody]
      exact .inr (.inl ⟨_, _, rfl⟩)
    · refine .inr (.inr ?_)
      simp only [Block.nextUnfenced, comment?_eq_none hangle hcomment, element?_eq_none hangle,
        table?_of_oneLine hline, hwhole, hafter]

/-- A line without any construct in it that is read as a paragraph is no line of another kind. -/
theorem lineNode?_of_parse {s : Text} {children : List Node} (hline : OneLine s)
    (hmarks : s.any isSpanMark = false) (hparse : parse s = [.paragraph children]) :
    lineNode? s = some (.paragraph children) := by
  have hne : s ≠ [] := by
    rintro rfl
    have hnone : parse [] = [] := by with_unfolding_all rfl
    rw [hnone] at hparse
    cases hparse
  have hread {block : Block} (h : Block.next s = (block, [])) :
      mergeBlanks (block.node? block.children).toList = [.paragraph children] := by
    rw [← hparse, parse, normalizeNewlines_of_not_mem hline.2, parseBlocks,
      blockNodes_of_next hne h, blockNodes_nil, List.append_nil]
  rcases next_of_not_mark hline.1 hmarks with h | ⟨language, code, h⟩ | h
  · exact absurd (hread h) (by simp [Block.node?, mergeBlanks])
  · exact absurd (hread h) (by simp [Block.node?, mergeBlanks])
  · have hnodes := hread h
    rw [Block.ofLine] at hnodes
    cases hnode : lineNode? s with
    | none => simp [hnode, Block.node?, mergeBlanks] at hnodes
    | some node =>
      simpa [hnode, Block.node?, mergeBlanks] using hnodes

theorem parts_of_lineNode? {s : Text} {children : List Node}
    (h : lineNode? s = some (.paragraph children)) :
    listItem? s = none ∧ parseInline (trimEnd s) = children := by
  rw [lineNode?] at h
  split at h
  · cases h
  · split at h
    · cases h
    · split at h
      · cases h
      · split at h
        · cases h
        · next hitem =>
          cases h
          exact ⟨hitem, rfl⟩

/-- A marker with a gap behind it and something shown after that begins an entry of a list. -/
theorem listItem?_ne_none {s after : Text} {ordered : Bool}
    (hmarker : listMarker? (s.dropWhile isGap) = some (ordered, after))
    (hgap : after.head?.any isGap = true) (hshown : ∃ c ∈ after, isBlank c = false)
    (hblanks : ∀ c ∈ after, isBlank c = true → isGap c = true) : listItem? s ≠ none := by
  have hlength : (after.dropWhile isGap).length < after.length := by
    cases after with
    | nil => cases hgap
    | cons c after =>
      rw [List.dropWhile_cons_of_pos (by simpa using hgap), List.length_cons]
      exact Nat.lt_succ_of_le (List.dropWhile_suffix isGap).length_le
  have hhead : (after.dropWhile isGap).head?.any (!isBlank ·) = true := by
    cases hdrop : after.dropWhile isGap with
    | nil =>
      obtain ⟨c, hc, hblank⟩ := hshown
      have hgaps := List.dropWhile_eq_nil_iff.1 hdrop c hc
      rw [isBlank_of_isGap hgaps] at hblank
      cases hblank
    | cons c text =>
      have hc : isGap c = false := by
        have hhead := head?_dropWhile isGap after
        rwa [hdrop] at hhead
      have hmem : c ∈ after := (List.dropWhile_suffix isGap).subset (hdrop ▸ List.mem_cons_self)
      have hblank : ¬isBlank c = true := fun hblank => by simp [hblanks c hmem hblank] at hc
      simpa using hblank
  rw [listItem?, hmarker]
  simp [hlength, hhead]

theorem dropWhile_isGap {s : Text} (h : ∀ c ∈ s, isBlank c = true → isGap c = true) :
    s.dropWhile isGap = s.dropWhile isBlank := by
  induction s with
  | nil => rfl
  | cons c s ih =>
    rw [List.forall_mem_cons] at h
    have hc : isGap c = isBlank c := by
      rw [Bool.eq_iff_iff]
      exact ⟨isBlank_of_isGap, h.1⟩
    rw [List.dropWhile_cons, List.dropWhile_cons, hc, ih h.2]

end Bindery.Markup
