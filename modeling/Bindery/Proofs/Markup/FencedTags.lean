import Bindery.Proofs.Markup.Fenced
import Bindery.Proofs.Markup.Indented

namespace Bindery.Markup

open Text

variable {mark : Char} {name : Text} {n : Nat}

theorem isBareFence_iff (hmark : isFenceMark mark = true) (hn : 0 < n) (line : Text) :
    isBareFence mark n line = true ↔ ∃ before after,
      line = before ++ (List.replicate n mark ++ after) ∧ before.all isGap = true ∧
        after.all isGap = true := by
  rw [isBareFence, beq_iff_eq]
  constructor
  · intro htrim
    obtain ⟨before, after, hline, hgaps⟩ := exists_trimClass isGap line
    rw [htrim] at hline
    exact ⟨before, after, hline, hgaps⟩
  · rintro ⟨before, after, rfl, hbefore, hafter⟩
    have hgap := isGap_of_isFenceMark hmark
    refine trimClass_append hbefore hafter (by simp; omega) ?_ ?_
    · rw [List.head?_replicate, if_neg (Nat.ne_of_gt hn)]
      exact hgap
    · rw [List.getLast?_replicate, if_neg (Nat.ne_of_gt hn)]
      exact hgap

/-- A line closes a block if it is a bare fence of whatever length is enough. -/
theorem isClosingLine_iff (hmark : isFenceMark mark = true) (hn : 0 < n) (line : Text) :
    IsClosingLine mark n line ↔ ∃ count, n ≤ count ∧ isBareFence mark count line = true := by
  constructor
  · rintro ⟨before, count, after, hline, hbefore, hafter, hcount⟩
    exact ⟨count, hcount, (isBareFence_iff hmark (Nat.lt_of_lt_of_le hn hcount) line).2
      ⟨before, after, hline, hbefore, hafter⟩⟩
  · rintro ⟨count, hcount, hbare⟩
    obtain ⟨before, after, hline, hbefore, hafter⟩ :=
      (isBareFence_iff hmark (Nat.lt_of_lt_of_le hn hcount) line).1 hbare
    exact ⟨before, count, after, hline, hbefore, hafter, hcount⟩

/-- A line is a bare fence of one length. -/
theorem eq_of_isBareFence {line : Text} {m : Nat} (h : isBareFence mark n line = true)
    (h' : isBareFence mark m line = true) : n = m := by
  have htrim : List.replicate n mark = List.replicate m mark :=
    (eq_of_beq h).symm.trans (eq_of_beq h')
  simpa using congrArg List.length htrim

theorem isBareFence_of_mem {c : Char} (hc : isGap c = false) (hne : c ≠ mark) {line : Text}
    (hline : c ∈ line) : isBareFence mark n line = false := by
  rw [isBareFence, beq_eq_false_iff_ne]
  intro htrim
  have hmem := mem_trimClass hc hline
  rw [htrim] at hmem
  exact hne (List.eq_of_mem_replicate hmem)

theorem throughLine?_append {wanted : Text → Bool} {code : List Text}
    (hcode : ∀ l ∈ code, wanted l = false) {last : Text} (hlast : wanted last = true)
    (rest : List Text) :
    throughLine? wanted (code ++ last :: rest) =
      some (joinWith ['\n'] (code ++ [last])).length := by
  induction code with
  | nil => exact if_pos hlast
  | cons l code ih =>
    rw [List.forall_mem_cons] at hcode
    rw [List.cons_append, throughLine?, if_neg (by simp [hcode.1]), ih hcode.2, List.cons_append,
      joinWith_cons (by simp)]
    simp only [Option.map_some, List.length_append, List.length_singleton]

theorem throughLine?_eq_none {wanted : Text → Bool} {lines : List Text}
    (h : ∀ l ∈ lines, wanted l = false) : throughLine? wanted lines = none := by
  induction lines with
  | nil => rfl
  | cons l lines ih =>
    rw [List.forall_mem_cons] at h
    rw [throughLine?, if_neg (by simp [h.1]), ih h.2]
    rfl

namespace WrittenFence

variable {F : WrittenFence}

theorem WellFormed.isBareFence_closingLine (hF : F.WellFormed) :
    isBareFence F.mark F.closing F.closingLine = true := by
  have hpositive : 0 < F.closing :=
    Nat.lt_of_lt_of_le (by decide) (Nat.le_trans hF.length hF.closing)
  exact (isBareFence_iff hF.mark hpositive _).2 ⟨F.before, F.after, rfl, hF.before, hF.after⟩

theorem WellFormed.isBareFence_code (hF : F.WellFormed) {l : Text} (hl : l ∈ F.code)
    (hn : F.length ≤ n) : isBareFence F.mark n l = false := by
  rw [← Bool.not_eq_true]
  intro hbare
  have hpositive : 0 < F.length := Nat.lt_of_lt_of_le (by decide) hF.length
  exact (hF.code l hl).2 ((isClosingLine_iff hF.mark hpositive l).2 ⟨n, hn, hbare⟩)

theorem WellFormed.newline_not_mem (hF : F.WellFormed) :
    ∀ l ∈ F.openingLine :: (F.code ++ [F.closingLine]), '\n' ∉ l := by
  intro l hl
  rw [List.mem_cons, List.mem_append, List.mem_singleton] at hl
  rcases hl with rfl | hl | rfl
  · exact hF.not_mem_openingLine (by decide) (by decide) hF.info
  · exact (hF.code l hl).1
  · exact hF.not_mem_closingLine (by decide) (by decide)

theorem WellFormed.lines_text (hF : F.WellFormed) (rest : Text) :
    lines (F.text ++ '\n' :: rest) =
      F.openingLine :: (F.code ++ F.closingLine :: lines rest) := by
  rw [text, lines_joinWith_append (List.cons_ne_nil _ _) hF.newline_not_mem]
  simp

/-- The lengths of run that a region at the beginning of a written fence may end with are tried from
    the whole length down. -/
theorem WellFormed.regionLength?_text (hF : F.WellFormed) (rest : Text) :
    regionLength? (F.text ++ '\n' :: rest) =
      ((List.range (F.length - 2)).map (F.length - ·)).findSome? fun n =>
        (throughLine? (isBareFence F.mark n) (F.code ++ F.closingLine :: lines rest)).map
          (F.openingLine.length + 1 + ·) := by
  have hopening : '\n' ∉ F.openingLine := hF.newline_not_mem _ List.mem_cons_self
  have hline : line (F.text ++ '\n' :: rest) = F.openingLine := by
    rw [text, joinWith_cons (by simp), List.append_assoc, List.append_assoc]
    exact line_append_of_endsLine hopening (.inr ⟨_, rfl⟩)
  rw [regionLength?, hline, hF.markRun?_openingLine, hF.lines_text]

/-- With runs of one length, the region is the written fence. -/
theorem WellFormed.regionLength?_of_eq (hF : F.WellFormed) (h : F.closing = F.length)
    (rest : Text) : regionLength? (F.text ++ '\n' :: rest) = some F.text.length := by
  have hbare : isBareFence F.mark F.length F.closingLine = true := h ▸ hF.isBareFence_closingLine
  have hthrough := throughLine?_append (fun l hl => hF.isBareFence_code hl (Nat.le_refl _)) hbare
    (lines rest)
  obtain ⟨k, hk⟩ : ∃ k, F.length - 2 = k + 1 := ⟨F.length - 3, by have := hF.length; omega⟩
  rw [hF.regionLength?_text, hk, List.range_succ_eq_map, List.map_cons, List.findSome?_cons,
    Nat.sub_zero, hthrough, text, joinWith_cons (by simp)]
  simp only [Option.map_some, List.length_append, List.length_singleton]

/-- Where no line repeats the opening run or a shorter one, there is no region. -/
theorem WellFormed.regionLength?_eq_none (hF : F.WellFormed) {rest : Text}
    (h : ∀ l ∈ F.code ++ F.closingLine :: lines rest, ∀ n ≤ F.length,
      isBareFence F.mark n l = false) : regionLength? (F.text ++ '\n' :: rest) = none := by
  rw [hF.regionLength?_text, List.findSome?_eq_none_iff]
  intro n hn
  obtain ⟨i, -, rfl⟩ := List.mem_map.1 hn
  rw [throughLine?_eq_none fun l hl => h l hl _ (Nat.sub_le _ i)]
  rfl

end WrittenFence

variable {after s t : Text} {count count' fenced : Nat} {lineStart : Bool}

/-- The count goes on behind a text with the elements that it leaves open and the rest of the region
    that is open at its end. -/
theorem openAfter?_append
    (h : openAfter? name (t ++ after) count fenced lineStart s = some count') :
    openAfter? name after count fenced lineStart (s ++ t) =
      openAfter? name after count' (fencedAfter (t ++ after) fenced lineStart s)
        (atLineStart lineStart s) t := by
  induction s generalizing count fenced lineStart with
  | nil =>
    cases h
    rfl
  | cons c s ih =>
    have hshape : c :: (s ++ t) ++ after = c :: s ++ (t ++ after) := by simp
    rw [openAfter?] at h
    rw [List.cons_append, openAfter?, hshape, fencedAfter, atLineStart_cons]
    simp only at h ⊢
    split at h
    · next hfenced => rw [if_pos hfenced, ih h]
    · next hfenced =>
      rw [if_neg hfenced]
      split at h
      · next hcloses =>
        rw [if_pos hcloses]
        split at h
        · cases h
        · next hcount => rw [if_neg hcount, ih h]
      · next hcloses =>
        rw [if_neg hcloses]
        split at h
        · next hopens => rw [if_pos hopens, ih h]
        · next hopens => rw [if_neg hopens, ih h]

/-- No tag in an open region counts. -/
theorem openAfter?_of_fenced (s : Text) (lineStart : Bool) :
    openAfter? name after count s.length lineStart s = some count ∧
      fencedAfter after s.length lineStart s = 0 := by
  induction s generalizing lineStart with
  | nil => exact ⟨rfl, rfl⟩
  | cons c s ih =>
    have hopen : fencedFrom (c :: s).length lineStart (c :: s ++ after) = s.length + 1 := rfl
    rw [openAfter?, fencedAfter]
    simp only [hopen, Nat.succ_pos, ↓reduceIte, Nat.add_sub_cancel]
    exact ih (c == '\n')

/-- Nor does one in a text that is a region. -/
theorem openAfter?_of_region (hregion : regionLength? (s ++ after) = some s.length) :
    openAfter? name after count 0 true s = some count ∧ fencedAfter after 0 true s = 0 := by
  have hinside : openAfter? name after count s.length true s = some count ∧
      fencedAfter after s.length true s = 0 := openAfter?_of_fenced s true
  cases s with
  | nil => exact hinside
  | cons c s =>
    have hopen : fencedFrom 0 true (c :: s ++ after) = (c :: s).length := by
      rw [fencedFrom, hregion]
      rfl
    have hrest : fencedFrom (c :: s).length true (c :: s ++ after) = (c :: s).length := rfl
    rw [openAfter?, fencedAfter, hrest] at hinside
    rw [openAfter?, fencedAfter, hopen]
    exact hinside

theorem openAfter?_newline (s : Text)
    (hfenced : fencedFrom fenced lineStart ('\n' :: s ++ after) = 0) :
    openAfter? name after count fenced lineStart ('\n' :: s) =
      openAfter? name after count 0 true s := by
  have hnone : openAfter? name (s ++ after) count fenced lineStart ['\n'] = some count :=
    openAfter?_of_not_mem (by decide)
  have hregion : fencedAfter (s ++ after) fenced lineStart ['\n'] = 0 := by
    rw [fencedAfter, ← List.append_assoc, List.singleton_append, hfenced]
    rfl
  have happend := openAfter?_append hnone
  rwa [hregion] at happend

/-- Nothing counts on a line without brackets where no region begins. -/
theorem openAfter?_line {l : Text} (hl : '\n' ∉ l) (hangle : '<' ∉ l)
    (hregion : regionLength? (l ++ '\n' :: (t ++ after)) = none) :
    openAfter? name after count 0 true (l ++ '\n' :: t) = openAfter? name after count 0 true t := by
  have hstays : openAfter? name ('\n' :: t ++ after) count 0 true l = some count :=
    openAfter?_of_not_mem hangle
  have hopen : fencedAfter ('\n' :: t ++ after) 0 true l = 0 :=
    fencedAfter_of_no_region hl hregion true
  have hnewline : fencedFrom 0 (atLineStart true l) ('\n' :: t ++ after) = 0 := by
    cases l with
    | nil =>
      rw [List.nil_append] at hregion
      exact congrArg (Option.getD · 0) hregion
    | cons c l =>
      rw [List.mem_cons, not_or] at hl
      rw [atLineStart_cons, beq_eq_false_iff_ne.2 (Ne.symm hl.1), atLineStart_of_not_mem hl.2]
      rfl
  rw [openAfter?_append hstays, hopen, openAfter?_newline t hnewline]

/-- A closing tag closes what is not open. -/
theorem openAfter?_closeTagText (hname : IsTagName name) (lineStart : Bool) (rest : Text) :
    openAfter? name after 0 0 lineStart (closeTagText name ++ rest) = none := by
  have hread := closeTag?_written hname (rest ++ after)
  rw [← List.append_assoc] at hread
  have hcloses : closesTag name (closeTagText name ++ rest ++ after) = true :=
    closesTag_iff.2 ⟨_, hread⟩
  have hregion : regionLength? (closeTagText name ++ rest ++ after) = none :=
    regionLength?_eq_none rfl
  have hfenced : fencedFrom 0 lineStart (closeTagText name ++ rest ++ after) = 0 := by
    rw [fencedFrom, hregion]
    split
    · rfl
    · rfl
  rw [closeTagText, List.cons_append] at hcloses hfenced ⊢
  rw [openAfter?]
  simp only [hcloses, hfenced, Nat.lt_irrefl, ↓reduceIte]

/-- An element of the name around lines of its own ends at the closing tag after them. -/
def EndsAfter (name b : Text) : Prop :=
  closing? name false (ownLines b ++ closeTagText name) = some (ownLines b, [])

/-- It does so exactly if the tags of its name in these lines are paired. -/
theorem endsAfter_iff (hname : IsTagName name) (b : Text) :
    EndsAfter name b ↔
      openAfter? name (closeTagText name) 0 0 false (ownLines b) = some 0 := by
  have hfree : Unfenced (closeTagText name) :=
    Outline.unfenced_of_not_mem (Outline.not_mem_closeTagText hname (by decide))
      (Outline.not_mem_closeTagText hname (by decide))
  rw [EndsAfter, closing?]
  cases hcount : openAfter? name (closeTagText name) 0 0 false (ownLines b) with
  | none =>
    obtain ⟨before, t, rest, hb, hne, -, hfound⟩ := exists_of_openAfter?_eq_none hname hcount
    rw [hfound]
    refine ⟨fun heq => absurd ?_ hne, fun h => by cases h⟩
    cases heq
    exact List.self_eq_append_right.1 hb
  | some count =>
    rw [closingFrom?_of_openAfter? hname hcount, fencedAfter_eq_zero hfree rfl (Nat.zero_le _),
      closingFrom?_of_unfenced hfree]
    cases count with
    | zero =>
      have hend := closingIn?_end hname []
      rw [List.append_nil] at hend
      simp [hend, prepend]
    | succ count =>
      have hlast := closingIn?_close hname count []
      have hnone : closingIn? name (count + 1) 0 [] = none := by rw [closingIn?]
      rw [List.append_nil, hnone] at hlast
      simp [hlast, prepend]

theorem NoTagOf.endsAfter (hname : IsTagName name) {b : Text} (hb : NoTagOf name b) :
    EndsAfter name b :=
  closing?_of_noTagOf (s := '\n' :: b) hname (hb.ownLines (hname.not_mem (by decide)))

namespace WrittenFence

variable {F : WrittenFence}

/-- With runs of one length, no tag in the code counts. -/
theorem WellFormed.openAfter?_of_eq (hF : F.WellFormed) (h : F.closing = F.length) (after : Text) :
    openAfter? name after 0 0 false (ownLines F.text) = some 0 := by
  have hregion : openAfter? name ('\n' :: after) 0 0 true F.text = some 0 ∧
      fencedAfter ('\n' :: after) 0 true F.text = 0 :=
    openAfter?_of_region (hF.regionLength?_of_eq h after)
  have hlast : openAfter? name after 0 0 (atLineStart true F.text) ['\n'] = some 0 :=
    openAfter?_of_not_mem (by decide)
  have happend : openAfter? name after 0 0 true (F.text ++ ['\n']) = _ :=
    openAfter?_append hregion.1
  rw [List.singleton_append, hregion.2] at happend
  rw [ownLines, openAfter?_newline _ rfl, happend, hlast]

/-- With a longer closing run, code that is the closing tag of an element closes the element. -/
theorem WellFormed.openAfter?_of_lt (hF : F.WellFormed) (h : F.length < F.closing)
    (hname : IsTagName name) (hcode : F.code = [closeTagText name]) (hinfo : '<' ∉ F.info) :
    openAfter? name (closeTagText name) 0 0 false (ownLines F.text) = none := by
  have hangle : '<' ∈ closeTagText name := List.mem_cons_self
  have hnewline : '\n' ∉ closeTagText name := Outline.not_mem_closeTagText hname (by decide)
  have hregion : regionLength? (F.text ++ '\n' :: closeTagText name) = none := by
    have hbare (n : Nat) : isBareFence F.mark n (closeTagText name) = false :=
      isBareFence_of_mem (by decide) (mark_ne hF.mark (by decide)) hangle
    refine hF.regionLength?_eq_none fun l hl n hn => ?_
    rw [hcode, lines, splitOn_of_not_mem hnewline] at hl
    simp only [List.cons_append, List.nil_append, List.mem_cons, List.not_mem_nil, or_false] at hl
    rcases hl with rfl | rfl | rfl
    · exact hbare n
    · rw [← Bool.not_eq_true]
      intro hclosing
      have heq := eq_of_isBareFence hclosing hF.isBareFence_closingLine
      omega
    · exact hbare n
  -- The search comes to the code with no region open.
  have hopening : '\n' ∉ F.openingLine := hF.newline_not_mem _ List.mem_cons_self
  have hopen : '<' ∉ F.openingLine := hF.not_mem_openingLine (by decide) (by decide) hinfo
  have htext : F.text ++ ['\n'] =
      F.openingLine ++ '\n' :: (closeTagText name ++ '\n' :: (F.closingLine ++ ['\n'])) := by
    rw [text, hcode, joinWith_cons (by simp), List.cons_append, List.nil_append,
      joinWith_cons (by simp)]
    simp [joinWith]
  have hshape : F.text ++ '\n' :: closeTagText name = F.text ++ ['\n'] ++ closeTagText name := by
    simp
  rw [hshape, htext, List.append_assoc] at hregion
  rw [ownLines, openAfter?_newline _ rfl, htext, openAfter?_line hopening hopen hregion,
    openAfter?_closeTagText hname]

/-- The element around a written fence ends after it, where its runs have one length or no tag of
    the name is in it. -/
theorem WellFormed.endsAfter (hF : F.WellFormed) (hname : IsTagName name)
    (h : F.closing = F.length ∨ NoTagOf name F.text) : EndsAfter name F.text := by
  rcases h with h | h
  · exact (endsAfter_iff hname F.text).2 (hF.openAfter?_of_eq h _)
  · exact h.endsAfter hname

/-- What the block reading takes as one block of code, the search for the end of an element does not
pass over unless the closing run is as long as the opening one. With runs of one length, an element
around the block ends at the closing tag after it, whatever the code is. With a longer closing run
it does so exactly if the tags of its name are paired, those in the code among them, and for some
code it does not. -/
theorem endsAfter_text (hname : IsTagName name) (hF : F.WellFormed) :
    Block.next F.text = (.leaf (.codeBlock F.fence.language
        (Fence.code (F.code.map (Fence.dropSpaces F.indent.length)))), []) ∧
      (F.closing = F.length ∨ NoTagOf name F.text → EndsAfter name F.text) ∧
      (EndsAfter name F.text ↔
        openAfter? name (closeTagText name) 0 0 false (ownLines F.text) = some 0) ∧
      ((∀ G : WrittenFence, G.WellFormed → G.mark = F.mark → G.length = F.length →
        G.closing = F.closing → EndsAfter name G.text) ↔ F.closing = F.length) := by
  refine ⟨?_, hF.endsAfter hname, endsAfter_iff hname F.text, fun hall => ?_, fun h G hG _ hlength
    hclosing => hG.endsAfter hname (.inl (by rw [hclosing, h, hlength]))⟩
  · have hnext := hF.next_text (.inl rfl)
    rwa [List.append_nil, List.drop_nil] at hnext
  · rcases Nat.eq_or_lt_of_le hF.closing with heq | hlt
    · exact heq.symm
    -- The code that is the closing tag itself ends the element.
    let G : WrittenFence := { F with info := [], code := [closeTagText name] }
    have hG : G.WellFormed := by
      refine ⟨hF.mark, hF.length, hF.closing, hF.indent, hF.before, hF.after, List.not_mem_nil,
        by simp [G], List.forall_mem_singleton.2
          ⟨Outline.not_mem_closeTagText hname (by decide), ?_⟩⟩
      have hpositive : 0 < F.length := Nat.lt_of_lt_of_le (by decide) hF.length
      rw [isClosingLine_iff hF.mark hpositive]
      rintro ⟨count, -, hbare⟩
      have hangle : '<' ∈ closeTagText name := List.mem_cons_self
      rw [isBareFence_of_mem (by decide) (mark_ne hF.mark (by decide)) hangle] at hbare
      cases hbare
    have hends := (endsAfter_iff hname G.text).1 (hall G hG rfl rfl rfl)
    rw [hG.openAfter?_of_lt hlt hname rfl List.not_mem_nil] at hends
    cases hends

/-- A closing tag in the code of a block whose runs have one length. -/
theorem endsAfter_text_tildes :
    closing? "Note".toList false
        ("\n ~~~ py\n</Note>\n~~~ x\n\t~~~ \n".toList ++ "</Note>".toList) =
      some ("\n ~~~ py\n</Note>\n~~~ x\n\t~~~ \n".toList, []) := by
  let F : WrittenFence := ⟨'~', 3, " ".toList, " py".toList, ["</Note>".toList, "~~~ x".toList],
    "\t".toList, 3, " ".toList⟩
  have hname : IsTagName "Note".toList := ⟨by decide, by decide⟩
  have hcode : ∀ l ∈ F.code, '\n' ∉ l ∧ ¬IsClosingLine '~' 3 l := by
    have hmark : isFenceMark '~' = true := by decide
    have hopen := not_isClosingLine hmark (Nat.le_refl 3)
    exact List.forall_mem_cons.2 ⟨⟨by decide, hopen _ (by decide)⟩,
      List.forall_mem_singleton.2 ⟨by decide, hopen _ (by decide)⟩⟩
  have hF : F.WellFormed := ⟨by decide, by decide, by decide, by decide, by decide, by decide,
    by decide, by decide, hcode⟩
  exact (endsAfter_text hname hF).2.1 (.inl rfl)

/-- A longer run ends the block of code, but the element ends in the code before. -/
theorem closing?_within_code :
    Block.next "\x60\x60\x60\n</Note>\n\x60\x60\x60\x60".toList =
        (.leaf (.codeBlock [] "</Note>".toList), []) ∧
      closing? "Note".toList false
          ("\n\x60\x60\x60\n</Note>\n\x60\x60\x60\x60\n".toList ++ "</Note>".toList) =
        some ("\n\x60\x60\x60\n".toList, "\n\x60\x60\x60\x60\n</Note>".toList) :=
  ⟨by with_unfolding_all rfl, by decide +kernel⟩

end WrittenFence

end Bindery.Markup
