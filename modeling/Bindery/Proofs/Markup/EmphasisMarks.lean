import Bindery.Proofs.Markup.Closing
import Bindery.Proofs.Markup.Pieces
import Mathlib.Data.List.Basic

namespace Bindery.Markup

open Text

variable {s : Text} {afterBlank : Bool}

/-- The mark of strong text. -/
def strongMark : Text :=
  ['*', '*']

/-- Whether two stars that follow no blank stand in the text. The flag says whether a blank stands
    before the text. -/
def HoldsStrongMark (afterBlank : Bool) (s : Text) : Prop :=
  ∃ before after, s = before ++ strongMark ++ after ∧
    before.getLast?.elim afterBlank isBlank = false

theorem holdsStrongMark_cons_iff {c : Char} : HoldsStrongMark afterBlank (c :: s) ↔
    (afterBlank = false ∧ strongMark <+: c :: s) ∨ HoldsStrongMark (isBlank c) s := by
  constructor
  · rintro ⟨before, after, hs, hblank⟩
    cases before with
    | nil => exact .inl ⟨hblank, after, hs.symm⟩
    | cons d before =>
      obtain ⟨rfl, hrest⟩ := List.cons.inj hs
      refine .inr ⟨before, after, hrest, ?_⟩
      cases before with
      | nil => exact hblank
      | cons d before => rwa [List.getLast?_cons_cons] at hblank
  · rintro (⟨hblank, after, hs⟩ | ⟨before, after, hs, hblank⟩)
    · exact ⟨[], after, hs.symm, hblank⟩
    · refine ⟨c :: before, after, congrArg (c :: ·) hs, ?_⟩
      cases before with
      | nil => exact hblank
      | cons d before => rwa [List.getLast?_cons_cons]

/-- The mark begins within the text, or not at all. -/
theorem prefix_of_prefix_append {c : Char} {tail : Text}
    (htail : tail.head?.all (· != '*') = true) (h : strongMark <+: c :: s ++ tail) :
    strongMark <+: c :: s := by
  cases s with
  | nil =>
    obtain ⟨rest, hrest⟩ := h
    rw [List.singleton_append, strongMark, List.cons_append, List.singleton_append] at hrest
    rw [← (List.cons.inj hrest).2] at htail
    cases htail
  | cons d s =>
    obtain ⟨rest, hrest⟩ := h
    obtain ⟨rfl, rfl, -⟩ : '*' = c ∧ '*' = d ∧ rest = s ++ tail := by
      simpa [strongMark] using hrest
    exact ⟨s, rfl⟩

theorem getLast?_elim_cons (p : Char → Bool) (c : Char) (s : Text) (start : Bool) :
    (c :: s).getLast?.elim start p = s.getLast?.elim (p c) p := by
  cases s with
  | nil => rfl
  | cons d s =>
    rw [List.getLast?_cons_cons, List.getLast?_eq_some_getLast (List.cons_ne_nil d s)]
    rfl

/-- Where no mark ends it, emphasis goes on at the next character. -/
theorem beforeMark?_cons {c : Char} (hmark : ¬(afterBlank = false ∧ strongMark <+: c :: s))
    (hc : c ≠ '\n') : beforeMark? strongMark afterBlank (c :: s) =
      prepend [c] (beforeMark? strongMark (isBlank c) s) := by
  have hnone : (if afterBlank then none else afterStart? strongMark (c :: s)) = none := by
    cases afterBlank with
    | true => rfl
    | false => exact afterStart?_eq_none fun hprefix => hmark ⟨rfl, hprefix⟩
  have hnewline : ¬(c == '\n') = true := by simpa using hc
  rw [beforeMark?]
  simp only [hnone, if_neg hnewline]
  rfl

/-- Emphasis goes on behind a text without such a mark, where what follows begins with no star. -/
theorem beforeMark?_append (hs : ¬HoldsStrongMark afterBlank s) (hline : '\n' ∉ s) {tail : Text}
    (htail : tail.head?.all (· != '*') = true) :
    beforeMark? strongMark afterBlank (s ++ tail) =
      prepend s (beforeMark? strongMark (s.getLast?.elim afterBlank isBlank) tail) := by
  induction s generalizing afterBlank with
  | nil =>
    rw [List.nil_append, prepend_nil]
    rfl
  | cons c s ih =>
    rw [holdsStrongMark_cons_iff, not_or] at hs
    rw [List.mem_cons, not_or] at hline
    have hmark : ¬(afterBlank = false ∧ strongMark <+: c :: (s ++ tail)) := fun h =>
      hs.1 ⟨h.1, prefix_of_prefix_append htail h.2⟩
    rw [List.cons_append, beforeMark?_cons hmark (Ne.symm hline.1), ih hs.2 hline.2,
      getLast?_elim_cons, ← prepend_append]
    rfl

/-- It ends within a text with such a mark. -/
theorem exists_of_holdsStrongMark (hs : HoldsStrongMark afterBlank s) (hline : '\n' ∉ s)
    (tail : Text) : ∃ before t rest, s = before ++ t ∧
      beforeMark? strongMark afterBlank (s ++ tail) = some (before, rest) := by
  induction s generalizing afterBlank with
  | nil =>
    obtain ⟨before, after, hnil, -⟩ := hs
    simp [strongMark] at hnil
  | cons c s ih =>
    rw [List.mem_cons, not_or] at hline
    by_cases hmark : afterBlank = false ∧ strongMark <+: c :: (s ++ tail)
    · obtain ⟨rfl, rest, hrest⟩ := hmark
      refine ⟨[], c :: s, rest, rfl, ?_⟩
      rw [List.cons_append, beforeMark?, ← hrest, afterStart?_append]
      rfl
    · rw [holdsStrongMark_cons_iff] at hs
      rcases hs with ⟨hblank, hstart⟩ | hlater
      · exact absurd ⟨hblank, hstart.trans (List.prefix_append (c :: s) tail)⟩ hmark
      · obtain ⟨before, t, rest, hs, hfound⟩ := ih hlater hline.2
        refine ⟨c :: before, t, rest, congrArg (c :: ·) hs, ?_⟩
        rw [List.cons_append, beforeMark?_cons hmark (Ne.symm hline.1), hfound]
        rfl

theorem strongMark_infix_cons {c : Char} {s : Text} (h : strongMark <:+: c :: s) :
    (c = '*' ∧ s.head? = some '*') ∨ strongMark <:+: s := by
  rcases List.infix_cons_iff.1 h with ⟨t, ht⟩ | h
  · obtain ⟨rfl, rfl⟩ := List.cons.inj ht
    exact .inl ⟨rfl, rfl⟩
  · exact .inr h

theorem strongMark_infix_of_append {t : Text} (hstar : '*' ∉ t) (h : strongMark <:+: t ++ s) :
    strongMark <:+: s := by
  induction t with
  | nil => exact h
  | cons c t ih =>
    rw [List.mem_cons, not_or] at hstar
    rcases strongMark_infix_cons h with ⟨rfl, -⟩ | h
    · exact absurd rfl hstar.1
    · exact ih hstar.2 h

theorem not_holdsStrongMark (h : ¬strongMark <:+: s) (afterBlank : Bool) :
    ¬HoldsStrongMark afterBlank s := by
  rintro ⟨before, after, hs, -⟩
  exact h ⟨before, after, hs.symm⟩

/-- A text that two stars on either side make strong: it keeps to a line, has neither a blank nor a
    star at its ends, and no two stars stand in it. -/
structure IsStrongText (s : Text) : Prop where
  first : s.head?.any (fun c => !isBlank c && c != '*') = true
  last : s.getLast?.any (fun c => !isBlank c && c != '*') = true
  line : '\n' ∉ s
  mark : ¬strongMark <:+: s

theorem any_not_isBlank {o : Option Char} (h : o.any (fun c => !isBlank c && c != '*') = true) :
    o.any (!isBlank ·) = true := by
  cases o with
  | none => cases h
  | some c => exact ((Bool.and_eq_true _ _).mp h).1

/-- The end of strong text is found where the text does not run into it. -/
theorem beforeMark?_append_mark (hmark : ¬strongMark <:+: s) (hline : '\n' ∉ s)
    (hlast : s.getLast?.all (fun c => !isBlank c && c != '*') = true) (rest : Text) :
    beforeMark? strongMark false (s ++ (strongMark ++ rest)) = some (s, rest) := by
  have hfound : beforeMark? strongMark false (strongMark ++ rest) = some ([], rest) := rfl
  rcases List.eq_nil_or_concat' s with rfl | ⟨t, d, rfl⟩
  · exact hfound
  · rw [List.getLast?_concat, Option.all_some, Bool.and_eq_true, bne_iff_ne,
      Bool.not_eq_true'] at hlast
    have ht : ¬HoldsStrongMark false t :=
      not_holdsStrongMark (fun h => hmark (h.trans (List.infix_append' [] t [d]))) false
    have hnewline : '\n' ∉ t := fun h => hline (List.mem_append_left [d] h)
    have hd : d ≠ '\n' := fun h => hline (List.mem_append_right t (h ▸ List.mem_singleton_self d))
    -- The last character is no star, so that no two stars begin before the real end.
    have htail : (d :: (strongMark ++ rest)).head?.all (· != '*') = true := by
      simpa using hlast.2
    have hstop (afterBlank : Bool) :
        ¬(afterBlank = false ∧ strongMark <+: d :: (strongMark ++ rest)) := by
      rintro ⟨-, u, hu⟩
      exact hlast.2 (List.cons.inj hu).1.symm
    rw [List.append_assoc, List.singleton_append, beforeMark?_append ht hnewline htail,
      beforeMark?_cons (hstop _) hd, hlast.1, hfound]
    rfl

theorem IsStrongText.emphasis? (h : IsStrongText s) (rest : Text) :
    emphasis? '*' (strongMark ++ (s ++ (strongMark ++ rest))) = some (.strong, s, rest) := by
  obtain ⟨hfirst, hlast, hline, hmark⟩ := h
  cases s with
  | nil => cases hfirst
  | cons c t =>
    rw [List.head?_cons, Option.any_some, Bool.and_eq_true, Bool.not_eq_true', bne_iff_ne]
      at hfirst
    have hend : t.getLast?.all (fun c => !isBlank c && c != '*') = true := by
      cases t with
      | nil => rfl
      | cons d t =>
        rw [List.getLast?_cons_cons] at hlast
        cases hcases : (d :: t).getLast? with
        | none => rfl
        | some e => simpa [hcases] using hlast
    have hfound := beforeMark?_append_mark
      (fun hwithin => hmark (hwithin.trans (List.infix_cons (List.infix_refl t))))
      (fun hmem => hline (List.mem_cons_of_mem c hmem)) hend rest
    have hlonger : between? ['*', '*', '*'] (strongMark ++ (c :: t ++ (strongMark ++ rest))) =
        none := by
      simp [between?, strongMark, afterStart?, Ne.symm hfirst.2]
    have hstart (u : Text) : between? ['*', '*'] (strongMark ++ c :: u) =
        if isBlank c then none else prepend [c] (beforeMark? strongMark false u) := rfl
    have hstrong : between? ['*', '*'] (strongMark ++ (c :: t ++ (strongMark ++ rest))) =
        some (c :: t, rest) := by
      rw [List.cons_append, hstart, if_neg (by simp [hfirst.1]), hfound]
      rfl
    simp only [Markup.emphasis?, hlonger, hstrong]

theorem IsStrongText.parseInline_append (h : IsStrongText s) (rest : Text) :
    parseInline (strongMark ++ (s ++ (strongMark ++ rest))) =
      .strong (parseInline s) :: parseInline rest := by
  have hat : Span.at? false (strongMark ++ (s ++ (strongMark ++ rest))) =
      some (.emphasis .strong s, rest) := congrArg (Option.map _) (h.emphasis? rest)
  exact parseInline_of_at? hat rfl

/-- A star alone is prose. -/
theorem parseInline_star : parseInline ['*'] = [.text ['*']] := by
  rw [parseInline, pieces_of_none rfl, pieces_nil]
  rfl

theorem all_isInside {mark : Char} (hmark : mark ∉ s) (hline : '\n' ∉ s) :
    s.all (isInside mark) = true := by
  refine List.all_eq_true.2 fun d hd => ?_
  have hne : d ≠ mark := fun heq => hmark (heq ▸ hd)
  have hother : d ≠ '\n' := fun heq => hline (heq ▸ hd)
  simp [isInside, hne, hother]

/-- The first mark after the opening one is the only one that may close the emphasis. -/
theorem betweenSingle?_of_isInside {mark : Char} {inside : Text}
    (hinside : inside.all (isInside mark) = true) (rest : Text) :
    betweenSingle? mark (mark :: (inside ++ mark :: rest)) =
      if !inside.isEmpty && !inside.head?.any isBlank && !inside.getLast?.any isBlank &&
          !(mark == '_' && rest.head?.any isWord) then
        some (inside, rest) else none := by
  have hstop : (mark :: rest).head?.any (isInside mark) = false := by simp [isInside]
  rw [betweenSingle?, dropWhile_append_of_head hinside hstop,
    takeWhile_append_of_head hinside hstop]
  simp

/-- A single mark opens no longer emphasis. -/
theorem emphasis?_of_head {mark : Char} (h : s.head? ≠ some mark) :
    emphasis? mark (mark :: s) = (betweenSingle? mark (mark :: s)).map (.emph, ·) := by
  have hstart (marks : Text) : afterStart? (mark :: mark :: marks) (mark :: s) = none := by
    cases s with
    | nil => simp [afterStart?]
    | cons c s =>
      have hc : (mark == c) = false := by simpa using Ne.symm h
      simp [afterStart?, hc]
  simp only [emphasis?, between?, hstart]

/-- A text that a mark on either side makes emphasised: it keeps to a line, has no blank at its
    ends, and the mark does not stand in it. -/
structure IsEmphText (mark : Char) (s : Text) : Prop where
  first : s.head?.any (!isBlank ·) = true
  last : s.getLast?.any (!isBlank ·) = true
  inside : s.all (isInside mark) = true

/-- A text without blanks and without the mark is such a text. -/
theorem isEmphText_of_shown {mark : Char} (hne : s ≠ []) (hs : ∀ c ∈ s, isBlank c = false)
    (hmark : mark ∉ s) : IsEmphText mark s where
  first := by
    rw [List.head?_eq_some_head hne, Option.any_some, hs _ (List.head_mem hne)]
    rfl
  last := by
    rw [List.getLast?_eq_some_getLast hne, Option.any_some, hs _ (List.getLast_mem hne)]
    rfl
  inside := all_isInside hmark fun h => absurd (hs _ h) (by decide)

/-- Its end is found, where a closing underscore does not go on as a name. -/
theorem IsEmphText.emphasis? {mark : Char} (h : IsEmphText mark s) {rest : Text}
    (hrest : (mark == '_' && rest.head?.any isWord) = false) :
    emphasis? mark (mark :: (s ++ mark :: rest)) = some (.emph, s, rest) := by
  obtain ⟨hfirst, hlast, hinside⟩ := h
  cases s with
  | nil => cases hfirst
  | cons c t =>
    have hc : c ≠ mark := by
      rintro rfl
      simp [isInside] at hinside
    have hhead : (c :: t ++ mark :: rest).head? ≠ some mark := fun h => hc (Option.some.inj h)
    have hblank : (c :: t).getLast?.any isBlank = false := by
      cases hcases : (c :: t).getLast? with
      | none => rfl
      | some d => simpa [hcases] using hlast
    have hmarks : (!(c :: t).isEmpty && !(c :: t).head?.any isBlank &&
        !(c :: t).getLast?.any isBlank && !(mark == '_' && rest.head?.any isWord)) = true := by
      rw [hblank, hrest]
      simpa using hfirst
    rw [emphasis?_of_head hhead, betweenSingle?_of_isInside hinside, if_pos hmarks]
    rfl

theorem IsEmphText.parseInline_append (h : IsEmphText '*' s) (rest : Text) :
    parseInline ('*' :: (s ++ '*' :: rest)) = .emph (parseInline s) :: parseInline rest := by
  have hat : Span.at? false ('*' :: (s ++ '*' :: rest)) = some (.emphasis .emph s, rest) :=
    congrArg (Option.map _) (h.emphasis? rfl)
  exact parseInline_of_at? hat rfl

end Bindery.Markup
