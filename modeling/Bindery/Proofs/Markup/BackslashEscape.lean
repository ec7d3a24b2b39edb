import Bindery.Proofs.Markup.EmphasisMarks
import Bindery.Proofs.Markup.Pieces

namespace Bindery.Markup

open Text

/-- Every construct of a line begins with a character that a backslash makes prose. -/
theorem isEscapable_of_isSpanMark {c : Char} (hc : isSpanMark c = true) :
    Span.isEscapable c = true := by
  have hmarks : ['\x60', '!', '[', '<', '\x7b', '*', '_', '\\'].all Span.isEscapable = true := by
    decide
  exact List.all_eq_true.1 hmarks c (List.contains_iff_mem.1 hc)

/-- A character as it is written for prose. -/
def escapeChar (c : Char) : Text :=
  if Span.isEscapable c then ['\\', c] else [c]

/-- A text with a backslash before each character that a backslash makes prose. -/
def escapeMarks (s : Text) : Text :=
  s.flatMap escapeChar

/-- A written character is one character of prose, whatever stands before it and after it. -/
theorem exists_pieces_escapeChar_append (afterWord : Bool) (c : Char) (rest : Text) :
    ∃ afterWord', pieces afterWord (escapeChar c ++ rest) = .char c :: pieces afterWord' rest := by
  by_cases hc : Span.isEscapable c = true
  · have hat : Span.at? afterWord ('\\' :: c :: rest) = some (.escaped c, rest) := by
      have hback : Span.ofBackslash? ('\\' :: c :: rest) = some (.escaped c, rest) := if_pos hc
      simpa only [Span.at?, List.head?_cons] using hback
    refine ⟨false, ?_⟩
    rw [escapeChar, if_pos hc]
    exact pieces_of_at? hat
  · -- a character without a backslash begins no construct, also after a letter or a digit
    have hmark : isSpanMark c = false :=
      Bool.eq_false_iff.2 fun h => hc (isEscapable_of_isSpanMark h)
    refine ⟨isAlphanumeric c, ?_⟩
    rw [escapeChar, if_neg hc]
    exact pieces_of_none (at?_of_not_mark afterWord hmark rest)

theorem exists_pieces_escapeMarks_append (afterWord : Bool) (s rest : Text) :
    ∃ afterWord', pieces afterWord (escapeMarks s ++ rest) =
      s.map Piece.char ++ pieces afterWord' rest := by
  induction s generalizing afterWord with
  | nil => exact ⟨afterWord, rfl⟩
  | cons c s ih =>
    obtain ⟨afterChar, hchar⟩ := exists_pieces_escapeChar_append afterWord c (escapeMarks s ++ rest)
    obtain ⟨afterWord', hrest⟩ := ih afterChar
    refine ⟨afterWord', ?_⟩
    rw [escapeMarks, List.flatMap_cons, List.append_assoc, ← escapeMarks, hchar, hrest]
    rfl

/-- Every piece of a text written for prose is a character, each one of the text in its turn. -/
theorem pieces_escapeMarks (afterWord : Bool) (s : Text) :
    pieces afterWord (escapeMarks s) = s.map Piece.char := by
  obtain ⟨afterWord', hpieces⟩ := exists_pieces_escapeMarks_append afterWord s []
  rwa [List.append_nil, pieces_nil, List.append_nil] at hpieces

/-- No construct is recognised anywhere in a text written for prose: its pieces are its characters,
    and it is read as one text node, the text itself, or as none if it is empty. -/
theorem parseInline_escapeMarks (s : Text) :
    pieces false (escapeMarks s) = s.map Piece.char ∧
      parseInline (escapeMarks s) = if s = [] then [] else [.text s] := by
  have hpieces := pieces_escapeMarks false s
  refine ⟨hpieces, ?_⟩
  rw [parseInline, hpieces, gather_chars]
  cases s with
  | nil => rfl
  | cons c s => rfl

variable {s : Text}

theorem mem_escapeMarks {c : Char} (h : c ∈ escapeMarks s) : c = '\\' ∨ c ∈ s := by
  obtain ⟨d, hd, hc⟩ := List.mem_flatMap.1 h
  rw [escapeChar] at hc
  split at hc
  · rcases List.mem_cons.1 hc with rfl | hc
    · exact .inl rfl
    · exact .inr (List.mem_singleton.1 hc ▸ hd)
  · exact .inr (List.mem_singleton.1 hc ▸ hd)

theorem getLast?_escapeMarks (s : Text) : (escapeMarks s).getLast? = s.getLast? := by
  rcases List.eq_nil_or_concat' s with rfl | ⟨t, c, rfl⟩
  · rfl
  · have hlast : (escapeChar c).getLast? = some c := by
      rw [escapeChar]
      split <;> rfl
    rw [escapeMarks, List.flatMap_append, List.flatMap_singleton, List.getLast?_append, hlast,
      List.getLast?_concat]
    rfl

/-- A written character begins with a backslash or with itself, but never with a star. -/
theorem head?_escapeMarks_cons (c : Char) (s : Text) :
    (escapeMarks (c :: s)).head? = some '\\' ∨
      (escapeMarks (c :: s)).head? = some c ∧ c ≠ '*' := by
  rw [escapeMarks, List.flatMap_cons, escapeChar]
  split
  · exact .inl rfl
  · next hc => exact .inr ⟨rfl, by rintro rfl; exact hc (by decide)⟩

theorem head?_escapeMarks (hfirst : s.head?.any (!isBlank ·) = true) :
    (escapeMarks s).head?.any (fun c => !isBlank c && c != '*') = true := by
  cases s with
  | nil => cases hfirst
  | cons c s =>
    rcases head?_escapeMarks_cons c s with hhead | ⟨hhead, hc⟩
    · rw [hhead]
      decide
    · rw [hhead]
      simpa [hc] using hfirst

/-- No two stars stand next to each other where each has its backslash. -/
theorem not_strongMark_infix_escapeMarks (s : Text) : ¬strongMark <:+: escapeMarks s := by
  induction s with
  | nil => exact fun h => absurd (List.infix_nil.1 h) (by decide)
  | cons c s ih =>
    have hhead : (escapeMarks s).head? ≠ some '*' := by
      cases s with
      | nil => exact fun h => by cases h
      | cons d s =>
        rcases head?_escapeMarks_cons d s with hhead | ⟨hhead, hd⟩
        · rw [hhead]
          decide
        · rw [hhead]
          exact fun h => hd (Option.some.inj h)
    have hnext (d : Char) : ¬strongMark <:+: d :: escapeMarks s := by
      intro h
      rcases strongMark_infix_cons h with ⟨-, hstar⟩ | h
      · exact hhead hstar
      · exact ih h
    rw [escapeMarks, List.flatMap_cons, ← escapeMarks, escapeChar]
    split
    · intro h
      rcases strongMark_infix_cons h with ⟨hback, -⟩ | h
      · cases hback
      · exact hnext c h
    · exact hnext c

theorem isStrongText_escapeMarks (hfirst : s.head?.any (!isBlank ·) = true)
    (hlast : s.getLast?.any (!isBlank ·) = true) (hline : '\n' ∉ s)
    (hstar : s.getLast? ≠ some '*') : IsStrongText (escapeMarks s) where
  first := head?_escapeMarks hfirst
  last := by
    rw [getLast?_escapeMarks]
    cases hcases : s.getLast? with
    | none => simp [hcases] at hlast
    | some c =>
      have hc : c ≠ '*' := fun h => hstar (h ▸ hcases)
      simpa [hcases, hc] using hlast
  line := fun h => (mem_escapeMarks h).elim (by decide) hline
  mark := not_strongMark_infix_escapeMarks s

theorem isEmphText_escapeMarks (hfirst : s.head?.any (!isBlank ·) = true)
    (hlast : s.getLast?.any (!isBlank ·) = true) (hline : '\n' ∉ s) (hstar : '*' ∉ s) :
    IsEmphText '*' (escapeMarks s) where
  first := any_not_isBlank (head?_escapeMarks hfirst)
  last := by rwa [getLast?_escapeMarks]
  inside := all_isInside (fun h => (mem_escapeMarks h).elim (by decide) hstar)
    fun h => (mem_escapeMarks h).elim (by decide) hline

variable {t u : Text}

/-- A star is written as a backslash and the star. -/
theorem escapeMarks_append_star (t u : Text) :
    escapeMarks (t ++ '*' :: u) = escapeMarks t ++ ['\\'] ++ '*' :: escapeMarks u := by
  have hstar : escapeChar '*' = ['\\', '*'] := by decide
  simp [escapeMarks, hstar]

theorem head?_escapeMarks_backslash (hfirst : (t ++ '*' :: u).head?.any (!isBlank ·) = true) :
    (escapeMarks t ++ ['\\']).head?.any (fun c => !isBlank c && c != '*') = true := by
  have hhead := head?_escapeMarks hfirst
  rwa [escapeMarks_append_star, List.head?_append_of_ne_nil _ (by simp)] at hhead

theorem not_mem_escapeMarks_backslash {c : Char} (hc : c ≠ '\\') (ht : c ∉ t) :
    c ∉ escapeMarks t ++ ['\\'] := by
  rw [List.mem_append, List.mem_singleton, not_or]
  exact ⟨fun h => (mem_escapeMarks h).elim hc ht, hc⟩

theorem isStrongText_escapeMarks_backslash
    (hfirst : (t ++ '*' :: u).head?.any (!isBlank ·) = true) (hline : '\n' ∉ t) :
    IsStrongText (escapeMarks t ++ ['\\']) where
  first := head?_escapeMarks_backslash hfirst
  last := by
    rw [List.getLast?_concat]
    decide
  line := not_mem_escapeMarks_backslash (by decide) hline
  mark := fun h => not_strongMark_infix_escapeMarks (t ++ '*' :: u) <| by
    rw [escapeMarks_append_star]
    exact h.trans (List.prefix_append _ _).isInfix

theorem isEmphText_escapeMarks_backslash
    (hfirst : (t ++ '*' :: u).head?.any (!isBlank ·) = true) (hline : '\n' ∉ t) (hstar : '*' ∉ t) :
    IsEmphText '*' (escapeMarks t ++ ['\\']) where
  first := any_not_isBlank (head?_escapeMarks_backslash hfirst)
  last := by
    rw [List.getLast?_concat]
    decide
  inside := all_isInside (not_mem_escapeMarks_backslash (by decide) hstar)
    (not_mem_escapeMarks_backslash (by decide) hline)

/-- A star at the end of a text without a backslash of its own is prose. -/
theorem parseInline_escapeMarks_star (t : Text) :
    parseInline (escapeMarks t ++ ['*']) = [.text (t ++ ['*'])] := by
  obtain ⟨afterWord, hpieces⟩ := exists_pieces_escapeMarks_append false t ['*']
  have hstar : Span.at? afterWord ['*'] = none := rfl
  have hchars : t.map Piece.char ++ [.char '*'] = (t ++ ['*']).map Piece.char := by simp
  rw [parseInline, hpieces, pieces_of_none hstar, pieces_nil, hchars, gather_chars, consText,
    if_neg (by simp)]

theorem parseInline_escapeMarks_of_ne_nil (hs : s ≠ []) :
    parseInline (escapeMarks s) = [.text s] := by
  rw [parseInline, pieces_escapeMarks, gather_chars, consText, if_neg (by simpa using hs)]

theorem ne_nil_of_head? (hfirst : s.head?.any (!isBlank ·) = true) : s ≠ [] := by
  rintro rfl
  cases hfirst

theorem parseInline_strong_escapeMarks_iff (hfirst : s.head?.any (!isBlank ·) = true)
    (hlast : s.getLast?.any (!isBlank ·) = true) (hline : '\n' ∉ s) :
    parseInline (strongMark ++ (escapeMarks s ++ strongMark)) = [.strong [.text s]] ↔
      s.getLast? ≠ some '*' := by
  constructor
  · intro hparse hstar
    -- The star and the mark behind it are three stars, of which the first two close the text.
    obtain ⟨t, rfl⟩ := List.getLast?_eq_some_iff.1 hstar
    have hinside : IsStrongText (escapeMarks t ++ ['\\']) :=
      isStrongText_escapeMarks_backslash hfirst fun h => hline (List.mem_append_left _ h)
    have hshape : escapeMarks (t ++ ['*']) ++ strongMark =
        escapeMarks t ++ ['\\'] ++ (strongMark ++ ['*']) := by
      rw [escapeMarks_append_star, List.append_assoc]
      rfl
    rw [hshape, hinside.parseInline_append, parseInline_star] at hparse
    exact absurd (List.cons.inj hparse).2 (List.cons_ne_nil _ _)
  · intro hstar
    have hparse := (isStrongText_escapeMarks hfirst hlast hline hstar).parseInline_append []
    rwa [List.append_nil, parseInline_nil,
      parseInline_escapeMarks_of_ne_nil (ne_nil_of_head? hfirst)] at hparse

theorem parseInline_emph_escapeMarks_iff (hfirst : s.head?.any (!isBlank ·) = true)
    (hlast : s.getLast?.any (!isBlank ·) = true) (hline : '\n' ∉ s) :
    parseInline ('*' :: (escapeMarks s ++ ['*'])) = [.emph [.text s]] ↔ '*' ∉ s := by
  constructor
  · intro hparse hstar
    obtain ⟨t, u, rfl, ht⟩ := List.eq_append_cons_of_mem hstar
    have hinside : IsEmphText '*' (escapeMarks t ++ ['\\']) :=
      isEmphText_escapeMarks_backslash hfirst (fun h => hline (List.mem_append_left _ h)) ht
    rw [escapeMarks_append_star, List.append_assoc, List.cons_append,
      hinside.parseInline_append, parseInline_escapeMarks_star] at hparse
    exact absurd (List.cons.inj hparse).2 (List.cons_ne_nil _ _)
  · intro hstar
    have hparse := (isEmphText_escapeMarks hfirst hlast hline hstar).parseInline_append []
    rwa [parseInline_nil, parseInline_escapeMarks_of_ne_nil (ne_nil_of_head? hfirst)] at hparse

/-- Escapes between stars. Written prose that has no blank at its ends is all of the text between
two stars exactly where it does not end with a star, and all of the text between single stars
exactly where it holds none: a closing mark is searched before the backslashes are read, so that the
star behind a backslash may be taken for it. -/
theorem parseInline_marked_escapeMarks (hfirst : s.head?.any (!isBlank ·) = true)
    (hlast : s.getLast?.any (!isBlank ·) = true) (hline : '\n' ∉ s) :
    (parseInline ("**".toList ++ (escapeMarks s ++ "**".toList)) = [.strong [.text s]] ↔
        s.getLast? ≠ some '*') ∧
      (parseInline ("*".toList ++ (escapeMarks s ++ "*".toList)) = [.emph [.text s]] ↔
        '*' ∉ s) :=
  ⟨parseInline_strong_escapeMarks_iff hfirst hlast hline,
    parseInline_emph_escapeMarks_iff hfirst hlast hline⟩

/-- Stars at the beginning and within, with a backslash at the end: the text is kept between two
    stars, but not between single ones. -/
theorem parseInline_marked_escapeMarks_stars :
    escapeMarks "*a** b_\\".toList = "\\*a\\*\\* b\\_\\\\".toList ∧
      parseInline "**\\*a\\*\\* b\\_\\\\**".toList = [.strong [.text "*a** b_\\".toList]] ∧
      parseInline "*\\*a\\*\\* b\\_\\\\*".toList ≠ [.emph [.text "*a** b_\\".toList]] := by
  obtain ⟨hstrong, hemph⟩ := parseInline_marked_escapeMarks (s := "*a** b_\\".toList)
    (by decide) (by decide) (by decide)
  refine ⟨by decide, hstrong.2 (by decide), fun h => hemph.1 h (by decide)⟩

/-- A star alone, between two stars: the first two of the three stars close the text. -/
theorem parseInline_strong_escaped_star :
    escapeMarks ['*'] = "\\*".toList ∧ parseInline "**\\***".toList ≠ [.strong [.text ['*']]] := by
  refine ⟨by decide, fun h => ?_⟩
  have hiff := parseInline_strong_escapeMarks_iff (s := ['*']) (by decide) (by decide) (by decide)
  exact hiff.1 h (by decide)

end Bindery.Markup
