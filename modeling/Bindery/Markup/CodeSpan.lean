import Bindery.Text.Basic

namespace Bindery.Markup

open Text

/-- Whether the character is a backtick. -/
def isTick (c : Char) : Bool :=
  c == '\x60'

/-- The lengths of the runs of backticks on the first line of a text. -/
def tickRuns (s : Text) : List Nat :=
  match s with
  | [] => []
  | c :: s =>
    if c == '\n' then []
    else if isTick c then
      have := (List.dropWhile_suffix (l := s) isTick).length_le
      ((s.takeWhile isTick).length + 1) :: tickRuns (s.dropWhile isTick)
    else tickRuns s
termination_by s.length

/-- The text before the first run of exactly so many backticks on the first line, and what follows
    the run. -/
def beforeRun? (length : Nat) (s : Text) : Option (Text × Text) :=
  match s with
  | [] => none
  | c :: s =>
    if c == '\n' then none
    else if isTick c then
      have := (List.dropWhile_suffix (l := s) isTick).length_le
      if (s.takeWhile isTick).length + 1 == length then some ([], s.dropWhile isTick)
      else
        (beforeRun? length (s.dropWhile isTick)).map (Prod.map (c :: s.takeWhile isTick ++ ·) id)
    else (beforeRun? length s).map (Prod.map (c :: ·) id)
termination_by s.length

theorem length_of_beforeRun? {length : Nat} {s before rest : Text}
    (h : beforeRun? length s = some (before, rest)) :
    before.length + rest.length < s.length := by
  fun_induction beforeRun? length s generalizing before with
  | case1 => simp at h
  | case2 => simp at h
  | case3 c s _ _ hle _ =>
    obtain ⟨rfl, rfl⟩ := Prod.mk.inj (Option.some.inj h)
    simp only [List.length_nil, List.length_cons]
    omega
  | case4 c s _ _ hle _ ih =>
    obtain ⟨⟨b, r⟩, hs, heq⟩ := Option.map_eq_some_iff.1 h
    obtain ⟨rfl, rfl⟩ := Prod.mk.inj heq
    have hrest := ih hs
    have hsplit := congrArg List.length (List.takeWhile_append_dropWhile (p := isTick) (l := s))
    simp only [List.length_append, List.length_cons, id_eq] at hsplit hrest ⊢
    omega
  | case5 c s _ _ ih =>
    obtain ⟨⟨b, r⟩, hs, heq⟩ := Option.map_eq_some_iff.1 h
    obtain ⟨rfl, rfl⟩ := Prod.mk.inj heq
    have hrest := ih hs
    simp only [List.length_cons, id_eq] at hrest ⊢
    omega

/-- Code without the one space that may pad it on both sides. -/
def unpad (code : Text) : Text :=
  if 2 < code.length && code.head? == some ' ' && code.getLast? == some ' ' then
    (code.drop 1).dropLast
  else code

/-- Code between runs of backticks, and what follows it. -/
def codeSpan? (s : Text) : Option (Text × Text) :=
  let opening := s.takeWhile isTick
  let after := s.dropWhile isTick
  match ((tickRuns after).filter (· ≤ opening.length)).max? with
  | some length =>
    (beforeRun? length after).map fun (code, rest) =>
      (unpad (List.replicate (opening.length - length) '\x60' ++ code), rest)
  | none => none

theorem length_of_codeSpan? {s code rest : Text} (h : codeSpan? s = some (code, rest)) :
    rest.length < s.length := by
  rw [codeSpan?] at h
  split at h
  · obtain ⟨⟨b, r⟩, hs, heq⟩ := Option.map_eq_some_iff.1 h
    obtain ⟨-, rfl⟩ := Prod.mk.inj heq
    have := length_of_beforeRun? hs
    have := (List.dropWhile_suffix (l := s) isTick).length_le
    omega
  · simp at h

end Bindery.Markup
