import Bindery.Text.Indent

namespace Bindery.Text

theorem dropEndWhile_cons_of_neg {p : Char → Bool} {c : Char} (hc : p c = false) (s : Text) :
    dropEndWhile p (c :: s) = c :: dropEndWhile p s := by
  rw [dropEndWhile]
  split
  · next heq => rw [if_neg (by simp [hc]), heq]
  · rfl

/-- Nothing of the text is dropped where something is left of what follows it. -/
theorem dropEndWhile_append_of_ne_nil {p : Char → Bool} (s : Text) {t : Text}
    (ht : dropEndWhile p t ≠ []) : dropEndWhile p (s ++ t) = s ++ dropEndWhile p t := by
  induction s with
  | nil => rfl
  | cons c s ih =>
    rw [List.cons_append, dropEndWhile, ih]
    split
    · next heq => exact absurd (List.append_eq_nil_iff.1 heq).2 ht
    · rfl

theorem dropEndWhile_of_getLast {p : Char → Bool} {s : Text} {c : Char}
    (hlast : s.getLast? = some c) (hc : p c = false) : dropEndWhile p s = s := by
  obtain ⟨init, rfl⟩ := List.getLast?_eq_some_iff.1 hlast
  have hkept : dropEndWhile p [c] = [c] := by rw [dropEndWhile_cons_of_neg hc, dropEndWhile]
  rw [dropEndWhile_append_of_ne_nil init (by rw [hkept]; exact List.cons_ne_nil c []), hkept]

theorem prefix_dropEndWhile (p : Char → Bool) (s : Text) : dropEndWhile p s <+: s := by
  induction s with
  | nil => exact List.prefix_refl []
  | cons c s ih =>
    rw [dropEndWhile]
    split
    · split
      · exact List.nil_prefix
      · exact List.cons_prefix_cons.2 ⟨rfl, List.nil_prefix⟩
    · next kept _ => exact List.cons_prefix_cons.2 ⟨rfl, ih⟩

theorem infix_trimClass (p : Char → Bool) (s : Text) : trimClass p s <:+: s :=
  (prefix_dropEndWhile p _).isInfix.trans (List.dropWhile_suffix p).isInfix

/-- Trimming takes no character outside the class. -/
theorem mem_trimClass {p : Char → Bool} {s : Text} {c : Char} (hc : p c = false) (h : c ∈ s) :
    c ∈ trimClass p s := by
  have hkept (t : Text) (ht : c ∈ t) : c ∈ dropEndWhile p t := by
    induction t with
    | nil => cases ht
    | cons d t ih =>
      rcases List.mem_cons.1 ht with rfl | ht
      · rw [dropEndWhile_cons_of_neg hc]
        exact List.mem_cons_self
      · have hlater := ih ht
        rw [dropEndWhile]
        split
        · next heq =>
          rw [heq] at hlater
          cases hlater
        · exact List.mem_cons_of_mem d hlater
  have hstart : c ∉ s.takeWhile p := by
    intro hmem
    rw [List.all_eq_true.1 List.all_takeWhile c hmem] at hc
    cases hc
  rw [← List.takeWhile_append_dropWhile (p := p) (l := s)] at h
  exact hkept _ ((List.mem_append.1 h).resolve_left hstart)

theorem head?_dropWhile (p : Char → Bool) (s : Text) : (s.dropWhile p).head?.any p = false := by
  have hhead := List.head?_dropWhile_not p s
  cases hdrop : (s.dropWhile p).head? with
  | none => rfl
  | some c =>
    rw [hdrop] at hhead
    simpa using hhead

theorem head?_trimClass (p : Char → Bool) (s : Text) : (trimClass p s).head?.any p = false := by
  obtain ⟨tail, htail⟩ := prefix_dropEndWhile p (s.dropWhile p)
  have hhead := head?_dropWhile p s
  rw [trimClass]
  cases hkept : dropEndWhile p (s.dropWhile p) with
  | nil => rfl
  | cons c kept =>
    rw [hkept] at htail
    rw [← htail] at hhead
    exact hhead

theorem getLast?_dropEndWhile (p : Char → Bool) (s : Text) :
    (dropEndWhile p s).getLast?.any p = false := by
  induction s with
  | nil => rfl
  | cons c s ih =>
    rw [dropEndWhile]
    split
    · split
      · rfl
      · next hc => simpa using hc
    · next hkept =>
      obtain ⟨d, kept, hcons⟩ := List.exists_cons_of_ne_nil hkept
      rw [hcons] at ih ⊢
      rw [List.getLast?_cons_cons]
      exact ih

theorem trimClass_eq_self {p : Char → Bool} {s : Text} (hhead : s.head?.any p = false)
    (hlast : s.getLast?.any p = false) : trimClass p s = s := by
  have hstart : s.dropWhile p = s := by
    cases s with
    | nil => rfl
    | cons c s => exact List.dropWhile_cons_of_neg (by simpa using hhead)
  rw [trimClass, hstart]
  cases hc : s.getLast? with
  | none => rw [List.getLast?_eq_none_iff.1 hc, dropEndWhile]
  | some c => exact dropEndWhile_of_getLast hc (by simpa [hc] using hlast)

/-- A beginning that lies in the class is taken whole, where what follows it does not go on with
    the class. -/
theorem takeWhile_append_of_head {p : Char → Bool} {s t : Text} (hs : s.all p = true)
    (ht : t.head?.any p = false) : (s ++ t).takeWhile p = s := by
  rw [List.takeWhile_append_of_pos (List.all_eq_true.1 hs)]
  cases t with
  | nil => exact List.append_nil s
  | cons c t =>
    have hc : ¬p c = true := by simpa using ht
    rw [List.takeWhile_cons_of_neg hc, List.append_nil]

theorem dropWhile_append_of_head {p : Char → Bool} {s t : Text} (hs : s.all p = true)
    (ht : t.head?.any p = false) : (s ++ t).dropWhile p = t := by
  rw [List.dropWhile_append_of_pos (List.all_eq_true.1 hs)]
  cases t with
  | nil => rfl
  | cons c t =>
    have hc : ¬p c = true := by simpa using ht
    rw [List.dropWhile_cons_of_neg hc]

theorem dropWhile_append_cons {p : Char → Bool} {x : Char} (hx : p x = false) (w s : Text) :
    (w ++ x :: s).dropWhile p = w.dropWhile p ++ x :: s := by
  rw [List.dropWhile_append]
  split
  · next hempty =>
    rw [List.isEmpty_iff.1 hempty, List.dropWhile_cons_of_neg (by simp [hx]), List.nil_append]
  · rfl

theorem dropEndWhile_of_all {p : Char → Bool} {s : Text} (hs : s.all p = true) :
    dropEndWhile p s = [] := by
  induction s with
  | nil => rfl
  | cons c s ih =>
    rw [List.all_cons, Bool.and_eq_true] at hs
    simp only [dropEndWhile, ih hs.2, hs.1, ↓reduceIte]

theorem dropEndWhile_append_of_all {p : Char → Bool} (s : Text) {t : Text} (ht : t.all p = true) :
    dropEndWhile p (s ++ t) = dropEndWhile p s := by
  induction s with
  | nil => exact dropEndWhile_of_all ht
  | cons c s ih => rw [List.cons_append, dropEndWhile, ih, dropEndWhile]

theorem trimClass_append_of_all {p : Char → Bool} (s : Text) {t : Text} (ht : t.all p = true) :
    trimClass p (s ++ t) = trimClass p s := by
  have hnone := dropWhile_append_of_head (t := []) ht rfl
  rw [List.append_nil] at hnone
  rw [trimClass, trimClass, List.dropWhile_append]
  split
  · next hempty => rw [hnone, List.isEmpty_iff.1 hempty]
  · exact dropEndWhile_append_of_all _ ht

theorem exists_dropEndWhile_append (p : Char → Bool) (s : Text) :
    ∃ after, s = dropEndWhile p s ++ after ∧ after.all p = true := by
  induction s with
  | nil => exact ⟨[], rfl, rfl⟩
  | cons c s ih =>
    obtain ⟨after, hs, hafter⟩ := ih
    rw [dropEndWhile]
    split
    · next hnil =>
      rw [hnil, List.nil_append] at hs
      split
      · next hc => exact ⟨c :: s, rfl, by simp [hc, hs, hafter]⟩
      · exact ⟨s, rfl, by simp [hs, hafter]⟩
    · exact ⟨after, by rw [List.cons_append, ← hs], hafter⟩

/-- A text is what trimming leaves of it, between what lies in the class. -/
theorem exists_trimClass (p : Char → Bool) (s : Text) :
    ∃ before after, s = before ++ (trimClass p s ++ after) ∧ before.all p = true ∧
      after.all p = true := by
  obtain ⟨after, hafter, hall⟩ := exists_dropEndWhile_append p (s.dropWhile p)
  refine ⟨s.takeWhile p, after, ?_, List.all_takeWhile, hall⟩
  rw [trimClass, ← hafter, List.takeWhile_append_dropWhile]

/-- Trimming leaves what stands between two ends in the class and does not go on with it. -/
theorem trimClass_append {p : Char → Bool} {before s after : Text} (hbefore : before.all p = true)
    (hafter : after.all p = true) (hs : s ≠ []) (hhead : s.head?.any p = false)
    (hlast : s.getLast?.any p = false) : trimClass p (before ++ (s ++ after)) = s := by
  have hstart : (s ++ after).head?.any p = false := by
    obtain ⟨c, s, rfl⟩ := List.exists_cons_of_ne_nil hs
    exact hhead
  have hkept : s.dropWhile p = s := dropWhile_append_of_head (s := []) rfl hhead
  have htrim := trimClass_eq_self hhead hlast
  rw [trimClass, hkept] at htrim
  rw [trimClass, dropWhile_append_of_head hbefore hstart, dropEndWhile_append_of_all s hafter,
    htrim]

theorem head?_append_cons (w : Text) (x : Char) (s t : Text) :
    (w ++ x :: s).head? = (w ++ x :: t).head? := by
  cases w <;> rfl

/-- A text that holds a character outside the class is not all blank. -/
theorem allBlank_of_mem {s : Text} {c : Char} (hc : c ∈ s) (hblank : isBlank c = false) :
    allBlank s = false := by
  rw [allBlank, List.all_eq_false]
  exact ⟨c, hc, by simp [hblank]⟩

/-- What may stand after a line: nothing, or a newline and more text. -/
def EndsLine (tail : Text) : Prop :=
  tail = [] ∨ ∃ rest, tail = '\n' :: rest

theorem forall_bne_iff {c : Char} {s : Text} : (∀ d ∈ s, (d != c) = true) ↔ c ∉ s := by
  simp only [bne_iff_ne, ne_eq]
  exact ⟨fun h hc => h c hc rfl, fun h d hd heq => h (heq ▸ hd)⟩

theorem line_append_of_endsLine {first tail : Text} (hfirst : '\n' ∉ first)
    (htail : EndsLine tail) : line (first ++ tail) = first := by
  rw [line, List.takeWhile_append_of_pos (forall_bne_iff.2 hfirst)]
  rcases htail with rfl | ⟨rest, rfl⟩
  · simp
  · simp

theorem afterLine_append_of_endsLine {first tail : Text} (hfirst : '\n' ∉ first)
    (htail : EndsLine tail) : afterLine (first ++ tail) = tail.drop 1 := by
  rw [afterLine, List.dropWhile_append_of_pos (forall_bne_iff.2 hfirst)]
  rcases htail with rfl | ⟨rest, rfl⟩
  · rfl
  · rfl

theorem line_of_not_mem {s : Text} (h : '\n' ∉ s) : line s = s ∧ afterLine s = [] := by
  have hline := line_append_of_endsLine h (.inl rfl)
  have hafter := afterLine_append_of_endsLine h (.inl rfl)
  rw [List.append_nil] at hline hafter
  exact ⟨hline, hafter⟩

theorem newline_not_mem_line (s : Text) : '\n' ∉ line s := by
  intro hmem
  have hkept := List.all_eq_true.1 List.all_takeWhile '\n' hmem
  exact absurd hkept (by decide)

/-- A text is its first line, and then nothing or a newline and the lines after it. -/
theorem exists_endsLine (s : Text) :
    ∃ tail, EndsLine tail ∧ s = line s ++ tail ∧ afterLine s = tail.drop 1 := by
  refine ⟨s.dropWhile (· != '\n'), ?_, (line_append s).symm, rfl⟩
  cases htail : s.dropWhile (· != '\n') with
  | nil => exact .inl rfl
  | cons c rest =>
    have hc := List.head?_dropWhile_not (· != '\n') s
    rw [htail] at hc
    have hnewline : c = '\n' := by simpa using hc
    exact .inr ⟨rest, by rw [hnewline]⟩

theorem joinWith_cons {sep first : Text} {rest : List Text} (hrest : rest ≠ []) :
    joinWith sep (first :: rest) = first ++ sep ++ joinWith sep rest := by
  obtain ⟨next, rest, rfl⟩ := List.exists_cons_of_ne_nil hrest
  rfl

theorem mem_of_mem_joinWith {sep : Text} {parts : List Text} {c : Char}
    (h : c ∈ joinWith sep parts) : c ∈ sep ∨ ∃ part ∈ parts, c ∈ part := by
  fun_induction joinWith sep parts with
  | case1 => cases h
  | case2 part => exact .inr ⟨part, List.mem_singleton_self part, h⟩
  | case3 part next rest ih =>
    rw [List.append_assoc, List.mem_append, List.mem_append] at h
    rcases h with h | h | h
    · exact .inr ⟨part, List.mem_cons_self, h⟩
    · exact .inl h
    · rcases ih h with h | ⟨p, hp, h⟩
      · exact .inl h
      · exact .inr ⟨p, List.mem_cons_of_mem part hp, h⟩

theorem prefix_joinWith (sep first : Text) (rest : List Text) :
    first <+: joinWith sep (first :: rest) := by
  cases rest with
  | nil => exact List.prefix_refl first
  | cons next rest =>
    rw [joinWith_cons (List.cons_ne_nil next rest), List.append_assoc]
    exact List.prefix_append first _

theorem infix_joinWith {sep part : Text} {parts : List Text} (h : part ∈ parts) :
    part <:+: joinWith sep parts := by
  induction parts with
  | nil => cases h
  | cons first rest ih =>
    rcases List.mem_cons.1 h with rfl | h
    · exact (prefix_joinWith sep part rest).isInfix
    · rw [joinWith_cons (List.ne_nil_of_mem h)]
      exact (ih h).trans (List.suffix_append _ _).isInfix

theorem joinWith_append {sep : Text} {parts others : List Text} (hparts : parts ≠ [])
    (hothers : others ≠ []) :
    joinWith sep (parts ++ others) = joinWith sep parts ++ sep ++ joinWith sep others := by
  induction parts with
  | nil => exact absurd rfl hparts
  | cons part parts ih =>
    rw [List.cons_append, joinWith_cons (List.append_ne_nil_of_right_ne_nil parts hothers)]
    cases parts with
    | nil => rfl
    | cons next parts =>
      rw [ih (List.cons_ne_nil next parts), joinWith_cons (List.cons_ne_nil next parts)]
      simp only [List.append_assoc]

theorem joinWith_append_last (sep : Text) (parts : List Text) (last s : Text) :
    joinWith sep (parts ++ [last ++ s]) = joinWith sep (parts ++ [last]) ++ s := by
  cases parts with
  | nil => rfl
  | cons part parts =>
    rw [joinWith_append (List.cons_ne_nil part parts) (List.cons_ne_nil _ []),
      joinWith_append (List.cons_ne_nil part parts) (List.cons_ne_nil _ []),
      List.append_assoc, List.append_assoc, List.append_assoc]
    rfl

/-- Lines below each other, each later one after a newline. -/
theorem joinWith_newline (first : Text) (rest : List Text) :
    joinWith ['\n'] (first :: rest) = first ++ rest.flatMap ('\n' :: ·) := by
  induction rest generalizing first with
  | nil => exact (List.append_nil first).symm
  | cons next rest ih => rw [joinWith, ih, List.flatMap_cons, List.append_assoc]; rfl

theorem endsLine_newlines (parts : List Text) : EndsLine (parts.flatMap ('\n' :: ·)) := by
  cases parts with
  | nil => exact .inl rfl
  | cons part parts => exact .inr ⟨_, rfl⟩

theorem drop_one_newlines (parts : List Text) :
    (parts.flatMap ('\n' :: ·)).drop 1 = joinWith ['\n'] parts := by
  cases parts with
  | nil => rfl
  | cons part parts => exact (joinWith_newline part parts).symm

/-- Lines below each other, each with its newline. -/
def endLines (lines : List Text) : Text :=
  lines.flatMap (· ++ ['\n'])

theorem splitOn_append_cons {sep : Char} {first : Text} (hfirst : sep ∉ first) (rest : Text) :
    splitOn sep (first ++ sep :: rest) = first :: splitOn sep rest := by
  induction first with
  | nil => simp [splitOn]
  | cons c first ih =>
    rw [List.mem_cons, not_or] at hfirst
    rw [List.cons_append, splitOn, if_neg (by simpa using Ne.symm hfirst.1), ih hfirst.2]

theorem splitOn_of_not_mem {sep : Char} {s : Text} (h : sep ∉ s) : splitOn sep s = [s] := by
  induction s with
  | nil => rfl
  | cons c s ih =>
    rw [List.mem_cons, not_or] at h
    rw [splitOn, if_neg (by simpa using Ne.symm h.1), ih h.2]

/-- What is written before a text without any further separator belongs to the first piece. -/
theorem splitOn_append_of_not_mem {sep : Char} {s first : Text} {others : List Text}
    {before : Text} (hbefore : sep ∉ before) (h : splitOn sep s = first :: others) :
    splitOn sep (before ++ s) = (before ++ first) :: others := by
  induction before with
  | nil => exact h
  | cons c before ih =>
    rw [List.mem_cons, not_or] at hbefore
    rw [List.cons_append, splitOn, if_neg (by simpa using Ne.symm hbefore.1), ih hbefore.2]
    rfl

theorem splitOn_append_sep (sep : Char) (s t : Text) :
    splitOn sep (s ++ sep :: t) = splitOn sep s ++ splitOn sep t := by
  induction s with
  | nil => simp [splitOn]
  | cons c s ih =>
    obtain ⟨first, others, hs⟩ := List.exists_cons_of_ne_nil (splitOn_ne_nil sep s)
    rw [List.cons_append, splitOn, splitOn, ih, hs]
    by_cases hc : c == sep
    · rw [if_pos hc, if_pos hc]
      rfl
    · rw [if_neg hc, if_neg hc]
      rfl

/-- What is written after a text without any further separator belongs to the last piece. -/
theorem exists_splitOn_append (sep : Char) (s : Text) : ∃ pieces last, ∀ t, sep ∉ t →
    splitOn sep (s ++ t) = pieces ++ [last ++ t] := by
  induction s with
  | nil => exact ⟨[], [], fun t ht => splitOn_of_not_mem ht⟩
  | cons c s ih =>
    obtain ⟨pieces, last, hsplit⟩ := ih
    by_cases hc : c == sep
    · refine ⟨[] :: pieces, last, fun t ht => ?_⟩
      rw [List.cons_append, splitOn, if_pos hc, hsplit t ht, List.cons_append]
    · cases pieces with
      | nil =>
        refine ⟨[], c :: last, fun t ht => ?_⟩
        rw [List.cons_append, splitOn, if_neg hc, hsplit t ht]
        rfl
      | cons first pieces =>
        refine ⟨(c :: first) :: pieces, last, fun t ht => ?_⟩
        rw [List.cons_append, splitOn, if_neg hc, hsplit t ht]
        rfl

theorem not_mem_of_mem_splitOn {sep : Char} {s part : Text} (h : part ∈ splitOn sep s) :
    sep ∉ part := by
  induction s generalizing part with
  | nil =>
    rw [splitOn, List.mem_singleton] at h
    exact h ▸ List.not_mem_nil
  | cons c s ih =>
    rw [splitOn] at h
    split at h
    · rcases List.mem_cons.1 h with rfl | h
      · exact List.not_mem_nil
      · exact ih h
    · next hc =>
      have hsep : sep ≠ c := fun heq => hc (beq_iff_eq.2 heq.symm)
      split at h
      · rw [List.mem_singleton] at h
        rw [h, List.mem_singleton]
        exact hsep
      · next first others heq =>
        rcases List.mem_cons.1 h with rfl | h
        · exact List.not_mem_cons_of_ne_of_not_mem hsep (ih (heq ▸ List.mem_cons_self))
        · exact ih (heq ▸ List.mem_cons_of_mem first h)

theorem infix_of_mem_splitOn {sep : Char} {s part : Text} (h : part ∈ splitOn sep s) :
    part <:+: s := by
  have hpart : part <:+: joinWith [sep] (splitOn sep s) := infix_joinWith h
  rwa [joinWith_splitOn] at hpart

theorem subset_of_mem_splitOn {sep : Char} {s part : Text} (h : part ∈ splitOn sep s) :
    part ⊆ s :=
  (infix_of_mem_splitOn h).subset

theorem lines_eq_cons (s : Text) :
    lines s = [line s] ∧ afterLine s = [] ∨ lines s = line s :: lines (afterLine s) := by
  have hnewline := newline_not_mem_line s
  obtain ⟨tail, hends, hs, hafter⟩ := exists_endsLine s
  rcases hends with rfl | ⟨rest, rfl⟩
  · refine .inl ⟨?_, hafter⟩
    rw [List.append_nil] at hs
    rw [lines, ← hs, splitOn_of_not_mem (hs ▸ hnewline)]
  · refine .inr ?_
    rw [hafter, List.drop_one, List.tail_cons]
    calc lines s = lines (line s ++ '\n' :: rest) := congrArg lines hs
      _ = line s :: lines rest := splitOn_append_cons hnewline rest

theorem lines_endLines {parts : List Text} (h : ∀ part ∈ parts, '\n' ∉ part) :
    lines (endLines parts) = parts ++ [[]] := by
  induction parts with
  | nil => rfl
  | cons part parts ih =>
    rw [List.forall_mem_cons] at h
    have hshape : endLines (part :: parts) = part ++ '\n' :: endLines parts := by simp [endLines]
    rw [hshape, lines, splitOn_append_cons h.1, ← lines, ih h.2, List.cons_append]

theorem lines_joinWith_append {parts : List Text} (hne : parts ≠ [])
    (h : ∀ part ∈ parts, '\n' ∉ part) (rest : Text) :
    lines (joinWith ['\n'] parts ++ '\n' :: rest) = parts ++ lines rest := by
  induction parts with
  | nil => exact absurd rfl hne
  | cons part parts ih =>
    rw [List.forall_mem_cons] at h
    by_cases hparts : parts = []
    · subst hparts
      exact splitOn_append_cons h.1 rest
    · rw [joinWith_cons hparts, List.append_assoc, List.append_assoc, List.singleton_append, lines,
        splitOn_append_cons h.1, ← lines, ih hparts h.2, List.cons_append]

theorem lines_joinWith {parts : List Text} (hne : parts ≠ []) (h : ∀ part ∈ parts, '\n' ∉ part) :
    lines (joinWith ['\n'] parts) = parts := by
  induction parts with
  | nil => exact absurd rfl hne
  | cons part parts ih =>
    rw [List.forall_mem_cons] at h
    by_cases hparts : parts = []
    · subst hparts
      exact splitOn_of_not_mem h.1
    · rw [joinWith_cons hparts, List.append_assoc, List.singleton_append, lines,
        splitOn_append_cons h.1, ← lines, ih hparts h.2]

theorem endLines_eq_joinWith {parts : List Text} (h : parts ≠ []) :
    endLines parts = joinWith ['\n'] parts ++ ['\n'] := by
  induction parts with
  | nil => exact absurd rfl h
  | cons part parts ih =>
    cases parts with
    | nil => simp [endLines, joinWith]
    | cons next parts =>
      have hrest := ih (List.cons_ne_nil next parts)
      rw [joinWith_cons (List.cons_ne_nil next parts), List.append_assoc, ← hrest]
      rfl

theorem endLines_append (parts others : List Text) :
    endLines (parts ++ others) = endLines parts ++ endLines others :=
  List.flatMap_append

theorem joinWith_append_nil (parts : List Text) :
    joinWith ['\n'] (parts ++ [[]]) = endLines parts := by
  induction parts with
  | nil => rfl
  | cons part parts ih =>
    rw [List.cons_append, joinWith_cons (by simp), ih]
    rfl

theorem normalizeNewlines_cons_of_ne {c : Char} (hc : c ≠ '\r') (s : Text) :
    normalizeNewlines (c :: s) = c :: normalizeNewlines s := by
  rw [normalizeNewlines]
  · intro rest heq
    exact absurd heq hc
  · exact hc

theorem normalizeNewlines_append_of_not_mem {s : Text} (h : '\r' ∉ s) (t : Text) :
    normalizeNewlines (s ++ t) = s ++ normalizeNewlines t := by
  induction s with
  | nil => rfl
  | cons c s ih =>
    rw [List.mem_cons, not_or] at h
    rw [List.cons_append, normalizeNewlines_cons_of_ne (Ne.symm h.1), ih h.2, List.cons_append]

theorem normalizeNewlines_of_not_mem {s : Text} (h : '\r' ∉ s) : normalizeNewlines s = s := by
  have hnormal := normalizeNewlines_append_of_not_mem h []
  rwa [normalizeNewlines, List.append_nil] at hnormal

theorem normalizeNewlines_append (s : Text) {t : Text} (ht : t.head? ≠ some '\n') :
    normalizeNewlines (s ++ t) = normalizeNewlines s ++ normalizeNewlines t := by
  fun_induction normalizeNewlines s with
  | case1 => rfl
  | case2 rest ih =>
    rw [List.cons_append, List.cons_append, normalizeNewlines, ih, List.cons_append]
  | case3 rest hrest ih =>
    rw [List.cons_append, normalizeNewlines, ih, List.cons_append]
    intro after heq
    cases rest with
    | nil => exact ht (by rw [← List.nil_append t, heq, List.head?_cons])
    | cons c rest => exact hrest rest (by rw [(List.cons.inj heq).1])
  | case4 c rest _ hc ih =>
    rw [List.cons_append, normalizeNewlines_cons_of_ne hc, ih, List.cons_append]

/-- Only the empty word begins at a newline and holds none. -/
theorem eq_nil_of_prefix_newline {word s : Text} (hword : '\n' ∉ word) (h : word <+: '\n' :: s) :
    word = [] := by
  cases word with
  | nil => rfl
  | cons c word =>
    rw [List.cons_prefix_cons] at h
    exact absurd (h.1 ▸ List.mem_cons_self) hword

theorem prefix_of_prefix_normalizeNewlines {word s : Text} (hword : '\n' ∉ word)
    (h : word <+: normalizeNewlines s) : word <+: s := by
  fun_induction normalizeNewlines s generalizing word with
  | case1 => exact h
  | case2 rest => exact eq_nil_of_prefix_newline hword h ▸ List.nil_prefix
  | case3 rest => exact eq_nil_of_prefix_newline hword h ▸ List.nil_prefix
  | case4 c rest _ _ ih =>
    cases word with
    | nil => exact List.nil_prefix
    | cons d word =>
      rw [List.mem_cons, not_or] at hword
      rw [List.cons_prefix_cons] at h ⊢
      exact ⟨h.1, ih hword.2 h.2⟩

/-- A word without newlines occurs after the change of newlines only where it stood before. -/
theorem infix_of_infix_normalizeNewlines {word s : Text} (hword : '\n' ∉ word)
    (h : word <:+: normalizeNewlines s) : word <:+: s := by
  fun_induction normalizeNewlines s with
  | case1 => exact h
  | case2 rest ih =>
    rcases List.infix_cons_iff.1 h with hstart | h
    · exact eq_nil_of_prefix_newline hword hstart ▸ List.nil_infix
    · exact List.infix_cons (List.infix_cons (ih h))
  | case3 rest _ ih =>
    rcases List.infix_cons_iff.1 h with hstart | h
    · exact eq_nil_of_prefix_newline hword hstart ▸ List.nil_infix
    · exact List.infix_cons (ih h)
  | case4 c rest hreturn hc ih =>
    rcases List.infix_cons_iff.1 h with hstart | h
    · rw [← normalizeNewlines_cons_of_ne hc] at hstart
      exact (prefix_of_prefix_normalizeNewlines hword hstart).isInfix
    · exact List.infix_cons (ih h)

theorem not_mem_normalizeNewlines (s : Text) : '\r' ∉ normalizeNewlines s := by
  have hnewline : '\r' ≠ '\n' := by decide
  fun_induction normalizeNewlines s with
  | case1 => exact List.not_mem_nil
  | case2 rest ih => exact List.not_mem_cons_of_ne_of_not_mem hnewline ih
  | case3 rest _ ih => exact List.not_mem_cons_of_ne_of_not_mem hnewline ih
  | case4 c rest _ hc ih => exact List.not_mem_cons_of_ne_of_not_mem (Ne.symm hc) ih

theorem dropReturns_of_not_infix {s : Text} (h : ¬['\r', '\n'] <:+: s) : dropReturns s = s := by
  fun_induction dropReturns s with
  | case1 => rfl
  | case2 rest => exact absurd (List.prefix_append ['\r', '\n'] rest).isInfix h
  | case3 c rest _ ih => rw [ih fun hinfix => h (List.infix_cons hinfix)]

/-- A line that does not end in a carriage return keeps its newline. -/
theorem dropReturns_of_not_mem {s : Text} (h : '\r' ∉ s) : dropReturns s = s :=
  dropReturns_of_not_infix fun hpair => h (hpair.subset List.mem_cons_self)

theorem dropReturns_line {first : Text} (hfirst : '\n' ∉ first) (hlast : first.getLast? ≠ some '\r')
    (s : Text) : dropReturns (first ++ '\n' :: s) = first ++ '\n' :: dropReturns s := by
  induction first with
  | nil => rfl
  | cons c first ih =>
    rw [List.mem_cons, not_or] at hfirst
    cases first with
    | nil =>
      have hc : c ≠ '\r' := fun heq => hlast (by rw [heq]; rfl)
      rw [List.cons_append, dropReturns]
      · rfl
      · intro rest heq
        exact absurd heq hc
    | cons d first =>
      rw [List.getLast?_cons_cons] at hlast
      rw [List.cons_append, dropReturns, ih hfirst.2 hlast]
      · rfl
      · intro rest _ heq
        exact hfirst.2 ((List.cons.inj heq).1 ▸ List.mem_cons_self)

theorem dropReturns_endLines {parts : List Text}
    (h : ∀ part ∈ parts, '\n' ∉ part ∧ part.getLast? ≠ some '\r') (s : Text) :
    dropReturns (endLines parts ++ s) = endLines parts ++ dropReturns s := by
  induction parts with
  | nil => rfl
  | cons part parts ih =>
    rw [List.forall_mem_cons] at h
    have hshape (t : Text) :
        endLines (part :: parts) ++ t = part ++ '\n' :: (endLines parts ++ t) := by
      simp [endLines]
    rw [hshape, dropReturns_line h.1.1 h.1.2, ih h.2, hshape]

theorem afterStart?_append (start rest : Text) : afterStart? start (start ++ rest) = some rest := by
  induction start with
  | nil => rfl
  | cons c start ih => rw [List.cons_append, afterStart?, if_pos (by simp), ih]

theorem afterStart?_eq_none {start s : Text} (h : ¬start <+: s) : afterStart? start s = none := by
  cases hstart : afterStart? start s with
  | none => rfl
  | some rest => exact absurd ⟨rest, (eq_append_of_afterStart? hstart).symm⟩ h

/-- A character that is not in the word ends the look for it. -/
theorem afterStart?_append_cons {word : Text} {x : Char} (hx : x ∉ word) (w s : Text) :
    afterStart? word (w ++ x :: s) = (afterStart? word w).map (· ++ x :: s) := by
  induction word generalizing w with
  | nil => rfl
  | cons y word ih =>
    rw [List.mem_cons, not_or] at hx
    cases w with
    | nil => exact if_neg (by simpa using Ne.symm hx.1)
    | cons z w =>
      rw [List.cons_append, afterStart?, afterStart?, ih hx.2]
      split
      · rfl
      · rfl

/-- A text is cut at a word where it ends a part in which the word does not begin earlier. -/
theorem cutAt?_append {word before rest : Text} (hword : word ≠ [])
    (h : ∀ t, t <:+ before → t ≠ [] → afterStart? word (t ++ word ++ rest) = none) :
    cutAt? word (before ++ word ++ rest) = some (before, rest) := by
  induction before with
  | nil =>
    obtain ⟨c, word, rfl⟩ := List.exists_cons_of_ne_nil hword
    have hstart := afterStart?_append (c :: word) rest
    rw [List.cons_append] at hstart
    rw [List.nil_append, List.cons_append, cutAt?, hstart]
  | cons c before ih =>
    have hhere := h (c :: before) (List.suffix_refl _) (List.cons_ne_nil c before)
    have hlater := ih fun t ht => h t (ht.trans (List.suffix_cons c before))
    rw [List.cons_append, List.cons_append] at hhere ⊢
    rw [cutAt?, hhere, hlater]
    rfl

theorem cutAt?_of_not_mem {c : Char} {before : Text} (h : c ∉ before) (rest : Text) :
    cutAt? [c] (before ++ c :: rest) = some (before, rest) := by
  have hcut : cutAt? [c] (before ++ [c] ++ rest) = some (before, rest) := by
    refine cutAt?_append (List.cons_ne_nil c []) ?_
    intro t ht hne
    obtain ⟨d, t, rfl⟩ := List.exists_cons_of_ne_nil hne
    have hmem : d ∈ before := ht.subset List.mem_cons_self
    have hne : c ≠ d := fun heq => h (heq ▸ hmem)
    exact if_neg (by simpa using hne)
  simpa using hcut

/-- A word that begins a part of a text and a character that it does not hold begins the part. -/
theorem prefix_of_prefix_append_cons {x : Char} {word s t : Text} (hword : x ∉ word)
    (h : word <+: s ++ x :: t) : word <+: s := by
  induction word generalizing s with
  | nil => exact List.nil_prefix
  | cons c word ih =>
    rw [List.mem_cons, not_or] at hword
    cases s with
    | nil =>
      rw [List.nil_append, List.cons_prefix_cons] at h
      exact absurd h.1.symm hword.1
    | cons d s =>
      rw [List.cons_append, List.cons_prefix_cons] at h
      rw [List.cons_prefix_cons]
      exact ⟨h.1, ih hword.2 h.2⟩

/-- A word without a newline that begins lines below each other begins the first of them. -/
theorem prefix_of_prefix_joinWith {word first : Text} (hword : '\n' ∉ word) {rest : List Text}
    (h : word <+: joinWith ['\n'] (first :: rest)) : word <+: first := by
  cases rest with
  | nil => exact h
  | cons next rest =>
    rw [joinWith_cons (List.cons_ne_nil next rest), List.append_assoc] at h
    exact prefix_of_prefix_append_cons hword h

/-- A word without a newline that occurs in lines below each other occurs in one of them. -/
theorem exists_infix_of_infix_joinWith {word : Text} (hne : word ≠ []) (hword : '\n' ∉ word)
    {parts : List Text} (h : word <:+: joinWith ['\n'] parts) : ∃ part ∈ parts, word <:+: part := by
  have hsplit (s t : Text) (h : word <:+: s ++ '\n' :: t) : word <:+: s ∨ word <:+: t := by
    induction s with
    | nil =>
      rw [List.nil_append, List.infix_cons_iff] at h
      exact h.imp_left fun hstart => absurd (eq_nil_of_prefix_newline hword hstart) hne
    | cons c s ih =>
      rw [List.cons_append, List.infix_cons_iff] at h
      rcases h with h | h
      · exact .inl (prefix_of_prefix_append_cons hword h).isInfix
      · exact (ih h).imp_left fun hs => hs.trans (List.suffix_cons c s).isInfix
  induction parts with
  | nil => exact absurd (List.eq_nil_of_infix_nil h) hne
  | cons first rest ih =>
    by_cases hrest : rest = []
    · subst hrest
      exact ⟨first, List.mem_singleton_self first, h⟩
    · rw [joinWith_cons hrest, List.append_assoc, List.singleton_append] at h
      rcases hsplit _ _ h with h | h
      · exact ⟨first, List.mem_cons_self, h⟩
      · obtain ⟨part, hpart, h⟩ := ih h
        exact ⟨part, List.mem_cons_of_mem first hpart, h⟩

end Bindery.Text
