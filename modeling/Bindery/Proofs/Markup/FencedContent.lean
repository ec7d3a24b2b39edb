import Bindery.Proofs.Markup.FencedTags

namespace Bindery.Markup

open Text

variable {name : Text}

theorem length_emptyGaps_le (l : Text) : (emptyGaps l).length ≤ l.length :=
  (infix_emptyGaps l).length_le

/-- Emptying takes characters from the lines exactly if one that is not empty holds only gaps. -/
theorem length_flatten_emptyGaps_le (lines : List Text) :
    (lines.map emptyGaps).flatten.length ≤ lines.flatten.length ∧
      (lines.flatten.length ≤ (lines.map emptyGaps).flatten.length →
        ∀ l ∈ lines, l.all isGap = true → l = []) := by
  induction lines with
  | nil => exact ⟨Nat.le_refl _, fun _ l hl => absurd hl List.not_mem_nil⟩
  | cons l lines ih =>
    have hl := length_emptyGaps_le l
    rw [List.map_cons, List.flatten_cons, List.flatten_cons, List.length_append, List.length_append]
    refine ⟨by omega, fun h => List.forall_mem_cons.2 ⟨fun hgaps => ?_, ih.2 (by omega)⟩⟩
    rw [emptyGaps, if_pos hgaps, List.length_nil] at h
    exact List.length_eq_zero_iff.1 (by omega)

/-- Trimming takes no character outside the class. -/
theorem filter_trimClass (p : Char → Bool) (s : Text) :
    (trimClass p s).filter (!p ·) = s.filter (!p ·) := by
  have hnone {t : Text} (ht : t.all p = true) : t.filter (!p ·) = [] :=
    List.filter_eq_nil_iff.2 fun c hc => by simp [List.all_eq_true.1 ht c hc]
  obtain ⟨before, after, hs, hbefore, hafter⟩ := exists_trimClass p s
  calc (trimClass p s).filter (!p ·)
      = (before ++ (trimClass p s ++ after)).filter (!p ·) := by
        rw [List.filter_append, List.filter_append, hnone hbefore, hnone hafter, List.nil_append,
          List.append_nil]
    _ = s.filter (!p ·) := by rw [← hs]

theorem filter_joinWith {lines : List Text} (h : ∀ l ∈ lines, '\n' ∉ l) :
    (joinWith ['\n'] lines).filter (!· == '\n') = lines.flatten := by
  have hkept {l : Text} (hl : '\n' ∉ l) : l.filter (!· == '\n') = l := by
    refine List.filter_eq_self.2 fun c hc => ?_
    have hne : c ≠ '\n' := fun heq => hl (heq ▸ hc)
    simpa using hne
  induction lines with
  | nil => rfl
  | cons l lines ih =>
    rw [List.forall_mem_cons] at h
    by_cases hlines : lines = []
    · subst hlines
      rw [joinWith, hkept h.1, List.flatten_singleton]
    · rw [joinWith_cons hlines, List.filter_append, List.filter_append, hkept h.1, ih h.2,
        List.flatten_cons]
      simp

/-- The code keeps the characters of its lines. -/
theorem filter_code {lines : List Text} (h : ∀ l ∈ lines, '\n' ∉ l) :
    (Fence.code lines).filter (!· == '\n') = lines.flatten :=
  (filter_trimClass (· == '\n') _).trans (filter_joinWith h)

/-- The code is the same without the lines of gaps exactly if none of them has a character. -/
theorem code_map_emptyGaps_iff {lines : List Text} (h : ∀ l ∈ lines, '\n' ∉ l) :
    Fence.code (lines.map emptyGaps) = Fence.code lines ↔
      ∀ l ∈ lines, l.all isGap = true → l = [] := by
  constructor
  · intro hcode
    have hempty : ∀ l ∈ lines.map emptyGaps, '\n' ∉ l := by
      intro l hl
      obtain ⟨l, hmem, rfl⟩ := List.mem_map.1 hl
      exact fun hnewline => h l hmem ((infix_emptyGaps l).subset hnewline)
    have hflat : (lines.map emptyGaps).flatten = lines.flatten := by
      rw [← filter_code hempty, hcode, filter_code h]
    exact (length_flatten_emptyGaps_le lines).2 (Nat.le_of_eq (congrArg List.length hflat.symm))
  · intro hgaps
    have hkept : ∀ l ∈ lines, emptyGaps l = l := by
      intro l hl
      rw [emptyGaps]
      split
      · next hall => exact (hgaps l hl hall).symm
      · rfl
    rw [List.map_congr_left hkept, List.map_id']

namespace WrittenFence

variable {F : WrittenFence}

/-- The fence with the lines of its code emptied that hold only gaps. -/
def emptied (F : WrittenFence) : WrittenFence :=
  { F with code := F.code.map emptyGaps }

theorem WellFormed.emptied (hF : F.WellFormed) : F.emptied.WellFormed := by
  refine ⟨hF.mark, hF.length, hF.closing, hF.indent, hF.before, hF.after, hF.info, hF.head, ?_⟩
  intro l hl
  obtain ⟨l, hmem, rfl⟩ := List.mem_map.1 hl
  obtain ⟨hnewline, hopen⟩ := hF.code l hmem
  refine ⟨fun h => hnewline ((infix_emptyGaps l).subset h), ?_⟩
  rw [emptyGaps]
  split
  · -- an empty line repeats no run
    have hpositive : 0 < F.length := Nat.lt_of_lt_of_le (by decide) hF.length
    rintro ⟨before, count, after, hline, -, -, hcount⟩
    have hlength := congrArg List.length hline
    simp only [WrittenFence.emptied, List.length_nil, List.length_append, List.length_replicate]
      at hlength hcount
    omega
  · exact hopen

theorem WellFormed.mark_mem_closingLine (hF : F.WellFormed) : F.mark ∈ F.closingLine := by
  have hpositive : F.closing ≠ 0 :=
    Nat.ne_of_gt (Nat.lt_of_lt_of_le (by decide) (Nat.le_trans hF.length hF.closing))
  exact List.mem_append_right _ (List.mem_append_left _ (List.mem_replicate.2 ⟨hpositive, rfl⟩))

/-- A fence that begins without indentation keeps the indentation of its code when that of all its
    lines is removed. -/
theorem WellFormed.dedent_text (hF : F.WellFormed) (hindent : F.indent = []) :
    dedent (F.text ++ ['\n']) = F.emptied.text ++ ['\n'] := by
  have hgap := isGap_of_isFenceMark hF.mark
  have hflush : F.openingLine.head?.any (!isGap ·) = true := by
    obtain ⟨n, hn⟩ := hF.exists_length
    simp [openingLine, hindent, hn, List.replicate_succ, hgap]
  have hlines := hF.lines_text []
  have hopening : emptyGaps F.openingLine = F.openingLine :=
    emptyGaps_of_mem hF.mark_mem_openingLine hgap
  have hclosing : emptyGaps F.closingLine = F.closingLine :=
    emptyGaps_of_mem hF.mark_mem_closingLine hgap
  have hmap : (lines (F.text ++ ['\n'])).map emptyGaps =
      (F.openingLine :: (F.code.map emptyGaps ++ [F.closingLine])) ++ [[]] := by
    rw [hlines, List.map_cons, List.map_append, List.map_cons, hopening, hclosing]
    simp [lines, splitOn, emptyGaps]
  rw [dedent_of_flush ⟨F.openingLine, hlines ▸ List.mem_cons_self, hflush⟩, hmap,
    joinWith_append_nil, endLines_eq_joinWith (List.cons_ne_nil _ _)]
  rfl

/-- An element around a fence is read as one node, around the fence without the lines of gaps. -/
theorem WellFormed.parse_elementText (hF : F.WellFormed) (hname : IsTagName name)
    (hcomponent : isComponent name = true) (hblock : name ∉ lineNames) (hindent : F.indent = [])
    (hends : EndsAfter name F.text) (hreturn : '\r' ∉ F.text) :
    parse (elementText name F.text) =
      [.element name [] [.blank, .codeBlock F.fence.language (Fence.code (F.code.map emptyGaps))]
        true] := by
  have hnext := hF.emptied.next_text (.inr ⟨[], rfl⟩)
  have hspaces : F.emptied.code.map (Fence.dropSpaces F.emptied.indent.length) =
      F.code.map emptyGaps := by
    have hzero : F.emptied.indent.length = 0 := congrArg List.length hindent
    rw [hzero, List.map_congr_left fun l _ => dropSpaces_zero l, List.map_id']
    rfl
  have hne : F.emptied.text ++ ['\n'] ≠ [] := by simp
  rw [hspaces] at hnext
  rw [parse_elementText_of_closing? hname hcomponent hblock hreturn hends, hF.dedent_text hindent,
    blockNodes_of_leaf hne hnext, List.drop_one, List.tail_cons, blockNodes_nil,
    mergeBlanks_blank_cons (by simp)]
  rfl

end WrittenFence

/-- Fenced code that begins without indentation is read inside an element as on a page of its own,
but that its lines of spaces and tabs are read as empty ones: the content of the element is a blank
line and the nodes of that page exactly if the code has no such lines. The element may be any in
whose content no tag of its name counts; if the runs have one length, none of those in the code
does. -/
theorem parse_around_text {F : WrittenFence} (hF : F.WellFormed) (hname : IsTagName name)
    (hcomponent : isComponent name = true) (hblock : name ∉ lineNames) (hindent : F.indent = [])
    (hends : F.closing = F.length ∨ NoTagOf name F.text) (hreturn : '\r' ∉ F.text) :
    parse F.text = [.codeBlock F.fence.language (Fence.code F.code)] ∧
      parse (elementText name F.text) =
        [.element name [] [.blank, .codeBlock F.fence.language (Fence.code (F.code.map emptyGaps))]
          true] ∧
      (parse (elementText name F.text) = [.element name [] (.blank :: parse F.text) true] ↔
        ∀ l ∈ F.code, l.all isGap = true → l = []) := by
  have hflush := hF.parse_text hreturn
  have hkept : F.code.map (Fence.dropSpaces F.indent.length) = F.code := by
    have hzero : F.indent.length = 0 := congrArg List.length hindent
    rw [hzero, List.map_congr_left fun l _ => dropSpaces_zero l, List.map_id']
  rw [hkept] at hflush
  have haround := hF.parse_elementText hname hcomponent hblock hindent (hF.endsAfter hname hends)
    hreturn
  refine ⟨hflush, haround, ?_⟩
  rw [hflush, haround, ← code_map_emptyGaps_iff fun l hl => (hF.code l hl).1]
  simp

/-- An indented line, an empty one and a closing tag in code. -/
theorem parse_around_text_tildes :
    parse "<Note>\n~~~ py\n\ta\n\n</Note>\n~~~\n</Note>".toList =
      [.element "Note".toList []
        [.blank, .codeBlock "py".toList "\ta\n\n</Note>".toList] true] := by
  let F : WrittenFence :=
    ⟨'~', 3, [], " py".toList, ["\ta".toList, [], "</Note>".toList], [], 3, []⟩
  have hname : IsTagName "Note".toList := ⟨by decide, by decide⟩
  have hcode : ∀ l ∈ F.code, '\n' ∉ l ∧ ¬IsClosingLine '~' 3 l := by
    have hmark : isFenceMark '~' = true := by decide
    have hopen := not_isClosingLine hmark (Nat.le_refl 3)
    simp only [F, List.forall_mem_cons]
    exact ⟨⟨by decide, hopen _ (by decide)⟩, ⟨by decide, hopen _ (by decide)⟩,
      ⟨by decide, hopen _ (by decide)⟩, fun _ h => absurd h List.not_mem_nil⟩
  have hF : F.WellFormed := ⟨by decide, by decide, by decide, by decide, by decide, by decide,
    by decide, by decide, hcode⟩
  have hreturn : '\r' ∉ F.text :=
    hF.not_mem_text (by decide) (by decide) (by decide) (by decide) (by decide)
  have haround :=
    (parse_around_text hF hname (by decide) (by decide) rfl (.inl rfl) hreturn).2.1
  refine haround.trans ?_
  with_unfolding_all rfl

/-- Two spaces in code are gone inside an element. -/
theorem parse_around_gaps :
    parse "\x60\x60\x60\na\n  \nb\n\x60\x60\x60".toList =
        [.codeBlock [] "a\n  \nb".toList] ∧
      parse "<Note>\n\x60\x60\x60\na\n  \nb\n\x60\x60\x60\n</Note>".toList =
        [.element "Note".toList [] [.blank, .codeBlock [] "a\n\nb".toList] true] := by
  let F : WrittenFence := ⟨'\x60', 3, [], [], ["a".toList, "  ".toList, "b".toList], [], 3, []⟩
  have hname : IsTagName "Note".toList := ⟨by decide, by decide⟩
  have hcode : ∀ l ∈ F.code, '\n' ∉ l ∧ ¬IsClosingLine '\x60' 3 l := by
    have hmark : isFenceMark '\x60' = true := by decide
    have hopen := not_isClosingLine hmark (Nat.le_refl 3)
    simp only [F, List.forall_mem_cons]
    exact ⟨⟨by decide, hopen _ (by decide)⟩, ⟨by decide, hopen _ (by decide)⟩,
      ⟨by decide, hopen _ (by decide)⟩, fun _ h => absurd h List.not_mem_nil⟩
  have hF : F.WellFormed := ⟨by decide, by decide, by decide, by decide, by decide, by decide,
    by decide, by decide, hcode⟩
  have hreturn : '\r' ∉ F.text :=
    hF.not_mem_text (by decide) (by decide) (by decide) (by decide) (by decide)
  have haround := hF.parse_elementText hname (by decide) (by decide) rfl
    (hF.endsAfter hname (.inl rfl)) hreturn
  refine ⟨(hF.parse_text hreturn).trans ?_, haround.trans ?_⟩
  · with_unfolding_all rfl
  · with_unfolding_all rfl

end Bindery.Markup
