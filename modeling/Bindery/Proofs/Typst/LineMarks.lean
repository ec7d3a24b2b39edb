import Bindery.Proofs.Typst.Escape
import Mathlib.Data.List.TakeWhile

namespace Bindery.Typst

open Text

variable {s t : Text}

/-- What a line is read as. -/
inductive LineMark
  | heading
  | bullet
  | numbered
  | term
  deriving DecidableEq, Repr

/-- What the mark that a character begins makes of a line. -/
def markOf? (c : Char) : Option LineMark :=
  if c == '=' then some .heading
  else if c == '-' then some .bullet
  else if c == '+' || isDigit c then some .numbered
  else if c == '/' then some .term
  else none

/-- What follows the mark that begins with the character. A heading is marked by a run of equals
    signs, and a number needs a dot behind it; other marks are a single character. -/
def afterMark? (c : Char) (s : Text) : Option Text :=
  if c == '=' then some (s.dropWhile (· == '='))
  else if isDigit c then afterStart? ['.'] (s.dropWhile isDigit)
  else some s

theorem suffix_of_afterMark? {c : Char} (h : afterMark? c s = some t) : t <:+ s := by
  rw [afterMark?] at h
  split at h
  · cases h
    exact List.dropWhile_suffix _
  · split at h
    · have hdigits := List.dropWhile_suffix (l := s) isDigit
      rw [eq_append_of_afterStart? h] at hdigits
      exact (List.suffix_append _ t).trans hdigits
    · cases h
      exact List.suffix_refl s

/-- What a line is read as by its mark. Blanks may stand before the mark, and one has to follow. -/
def lineMark? (s : Text) : Option LineMark :=
  match s.dropWhile isBlank with
  | [] => none
  | c :: rest => if (afterMark? c rest).any (·.head?.any isBlank) then markOf? c else none

theorem lineMark?_of_allBlank (h : allBlank s = true) : lineMark? s = none := by
  have hdrop : s.dropWhile isBlank = [] := by
    rw [List.dropWhile_eq_nil_iff]
    exact List.all_eq_true.1 h
  rw [lineMark?, hdrop]

/-- The second text is the first one with backslashes: one before each special character, and one
    before each of two characters that would open a comment. -/
inductive Escaped : Text → Text → Prop
  | nil : Escaped [] []
  | special {c : Char} {s t : Text} (hc : isSpecial c = true) (h : Escaped s t) :
    Escaped (c :: s) ('\\' :: c :: t)
  | comment {c : Char} {s t : Text} (hc : isBlank c = false) (h : Escaped s t) :
    Escaped ('/' :: c :: s) ('\\' :: '/' :: '\\' :: c :: t)
  | plain {c : Char} {s t : Text} (hc : isSpecial c = false) (h : Escaped s t) :
    Escaped (c :: s) (c :: t)

theorem escaped_escape (s : Text) : Escaped s (escape s) := by
  fun_induction escape s with
  | case1 => exact .nil
  | case2 rest ih => exact .comment (by decide) ih
  | case3 rest ih => exact .comment (by decide) ih
  | case4 c rest _ _ hc ih => exact .special hc ih
  | case5 c rest _ _ hc ih => exact .plain (by simpa using hc) ih

theorem Escaped.append {s' t' : Text} (h : Escaped s t) (h' : Escaped s' t') :
    Escaped (s ++ s') (t ++ t') := by
  induction h with
  | nil => exact h'
  | special hc _ ih => exact .special hc ih
  | comment hc _ ih => exact .comment hc ih
  | plain hc _ ih => exact .plain hc ih

theorem escaped_flatten (texts : List Text) :
    Escaped texts.flatten (texts.map escape).flatten := by
  induction texts with
  | nil => exact .nil
  | cons text texts ih => exact (escaped_escape text).append ih

variable {p : Char → Bool}

/-- No character of the class is escaped. -/
def IsKept (p : Char → Bool) : Prop :=
  ('/' :: specialChars).all (!p ·) = true

theorem isKept_isBlank : IsKept isBlank :=
  rfl

theorem isKept_isDigit : IsKept isDigit :=
  rfl

theorem IsKept.slash (hp : IsKept p) : p '/' = false := by
  simpa using List.all_eq_true.1 hp '/' List.mem_cons_self

theorem IsKept.special (hp : IsKept p) {c : Char} (hc : isSpecial c = true) : p c = false := by
  rw [IsKept, List.all_cons, Bool.and_eq_true] at hp
  simpa using of_isSpecial hp.2 hc

theorem Escaped.dropWhile (hp : IsKept p) (h : Escaped s t) :
    Escaped (s.dropWhile p) (t.dropWhile p) := by
  have hbackslash : ¬p '\\' = true := by simp [hp.special (c := '\\') (by decide)]
  induction h with
  | nil => exact .nil
  | special hc h ih =>
    rw [List.dropWhile_cons_of_neg (by simp [hp.special hc]),
      List.dropWhile_cons_of_neg hbackslash]
    exact .special hc h
  | comment hc h ih =>
    rw [List.dropWhile_cons_of_neg (by simp [hp.slash]), List.dropWhile_cons_of_neg hbackslash]
    exact .comment hc h
  | plain hc h ih =>
    rw [List.dropWhile_cons, List.dropWhile_cons]
    split
    · exact ih
    · exact .plain hc h

theorem Escaped.any_head? (hp : IsKept p) (h : Escaped s t) : t.head?.any p = s.head?.any p := by
  have hbackslash : p '\\' = false := hp.special (by decide)
  cases h with
  | nil => rfl
  | special hc h => simp [hbackslash, hp.special hc]
  | comment hc h => simp [hbackslash, hp.slash]
  | plain hc h => rfl

/-- A blank follows a mark in escaped prose where it does in the prose. -/
theorem Escaped.any_afterMark? (h : Escaped s t) (c : Char) :
    (afterMark? c t).any (·.head?.any isBlank) = (afterMark? c s).any (·.head?.any isBlank) := by
  rw [afterMark?, afterMark?]
  split
  · have hafter := h.dropWhile (p := (· == '=')) rfl
    exact hafter.any_head? isKept_isBlank
  · split
    · have hafter := h.dropWhile isKept_isDigit
      generalize s.dropWhile isDigit = s', t.dropWhile isDigit = t' at hafter ⊢
      cases hafter with
      | nil => rfl
      | comment hc h => rfl
      | @special c s t hc h =>
        have hdot : ('.' == c) = false := by
          simpa [bne] using of_isSpecial (p := ('.' != ·)) rfl hc
        simp [afterStart?, hdot]
      | @plain c s t hc h =>
        have hstart (s : Text) : afterStart? ['.'] (c :: s) = if '.' == c then some s else none :=
          rfl
        rw [hstart, hstart]
        split
        · exact h.any_head? isKept_isBlank
        · rfl
    · exact h.any_head? isKept_isBlank

theorem markOf?_of_isSpecial {c : Char} (hc : isSpecial c = true) : markOf? c = none := by
  simpa using of_isSpecial (p := fun c => (markOf? c).isNone) rfl hc

/-- Escaping does not change what a line is read as by its mark. -/
theorem Escaped.lineMark?_eq (h : Escaped s t) : lineMark? t = lineMark? s := by
  have hafter := h.dropWhile isKept_isBlank
  have hbackslash : markOf? '\\' = none := rfl
  rw [lineMark?, lineMark?]
  generalize s.dropWhile isBlank = s', t.dropWhile isBlank = t' at hafter ⊢
  cases hafter with
  | nil => rfl
  | special hc h => simp only [hbackslash, markOf?_of_isSpecial hc, ite_self]
  | @comment c s t hc h =>
    have hslash : afterMark? '/' (c :: s) = some (c :: s) := rfl
    simp [hbackslash, hslash, hc]
  | plain hc h => simp only [h.any_afterMark?]

end Bindery.Typst
