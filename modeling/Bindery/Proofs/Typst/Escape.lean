import Bindery.Typst.Markup

namespace Bindery.Typst

open Text

/-- All the special characters. -/
def specialChars : Text :=
  ['\\', '#', '@', '$', '*', '_', '\x60', '<', '~', '[', ']']

/-- What holds of each special character. -/
theorem of_isSpecial {p : Char → Bool} (hp : specialChars.all p = true) {c : Char}
    (hc : isSpecial c = true) : p c = true := by
  simp only [isSpecial, Bool.or_eq_true, beq_iff_eq] at hc
  refine List.all_eq_true.1 hp c ?_
  simpa [specialChars, or_assoc] using hc

theorem isBlank_of_isSpecial {c : Char} (hc : isSpecial c = true) : isBlank c = false := by
  simpa using of_isSpecial (p := (!isBlank ·)) (by decide) hc

/-- What prose begins with in the source is a backslash, or what it begins with itself. -/
theorem head?_escape (s : Text) : ∀ c, (escape s).head? = some c →
    c = '\\' ∨ s.head? = some c ∧ isSpecial c = false := by
  fun_cases escape s with
  | case1 => exact fun c h => nomatch h
  | case2 rest => exact fun c h => .inl (Option.some.inj h).symm
  | case3 rest => exact fun c h => .inl (Option.some.inj h).symm
  | case4 d rest _ _ hd => exact fun c h => .inl (Option.some.inj h).symm
  | case5 d rest _ _ hd =>
    intro c h
    obtain rfl : d = c := Option.some.inj h
    exact .inr ⟨rfl, by simpa using hd⟩

/-- Each character of prose stands as it is, unless it is special, or after a backslash. No blank
    stands after a backslash, and no slash that stands as it is opens a comment. -/
theorem escape_induction {P : Text → Text → Prop} (nil : P [] [])
    (escaped : ∀ c s t, isBlank c = false → P s t → P (c :: s) ('\\' :: c :: t))
    (plain : ∀ c s t, isSpecial c = false →
      (c = '/' → t.head? ≠ some '/' ∧ t.head? ≠ some '*') → P s t → P (c :: s) (c :: t))
    (s : Text) : P s (escape s) := by
  fun_induction escape s with
  | case1 => exact nil
  | case2 rest ih => exact escaped '/' _ _ (by decide) (escaped '/' _ _ (by decide) ih)
  | case3 rest ih => exact escaped '/' _ _ (by decide) (escaped '*' _ _ (by decide) ih)
  | case4 c rest _ _ hc ih => exact escaped c _ _ (isBlank_of_isSpecial hc) ih
  | case5 c rest hslash hstar hc ih =>
    refine plain c _ _ (by simpa using hc) (fun hc => ⟨fun h => ?_, fun h => ?_⟩) ih
    · rcases head?_escape rest '/' h with heq | ⟨hhead, -⟩
      · exact absurd heq (by decide)
      · obtain ⟨rest', rfl⟩ := List.head?_eq_some_iff.1 hhead
        exact hslash rest' hc rfl
    · rcases head?_escape rest '*' h with heq | ⟨-, hspecial⟩
      · exact absurd heq (by decide)
      · exact absurd hspecial (by decide)

/-- Prose without special characters and slashes stands as it is. -/
theorem escape_eq_self {s : Text} (h : ∀ c ∈ s, isSpecial c = false ∧ c ≠ '/') : escape s = s := by
  fun_induction escape s with
  | case1 => rfl
  | case2 rest ih => exact absurd rfl (h '/' List.mem_cons_self).2
  | case3 rest ih => exact absurd rfl (h '/' List.mem_cons_self).2
  | case4 c rest _ _ hc ih =>
    rw [(h c List.mem_cons_self).1] at hc
    cases hc
  | case5 c rest _ _ _ ih => rw [ih fun d hd => h d (List.mem_cons_of_mem c hd)]

/-- A detached text is what it was, or its parenthesis or dot has a backslash before it. -/
theorem detach_cases (previous s : Text) : detach previous s = s ∨
    ∃ c rest, s = c :: rest ∧ (c = '(' ∨ c = '.') ∧ detach previous s = '\\' :: s := by
  rw [detach]
  split
  · next hdetach =>
    rw [Bool.and_eq_true] at hdetach
    obtain ⟨-, hcontinues⟩ := hdetach
    unfold continuesExpression at hcontinues
    split at hcontinues
    · exact .inr ⟨_, _, rfl, .inl rfl, rfl⟩
    · exact .inr ⟨_, _, rfl, .inr rfl, rfl⟩
    · cases hcontinues
  · exact .inl rfl

end Bindery.Typst
