import Bindery.Text.Basic

namespace Bindery.Text

/-- The width of white space in which a tab goes on to the next even column. -/
def indentWidth (s : Text) : Nat :=
  s.foldl (fun column c => if c == '\t' then column + (2 - column % 2) else column + 1) 0

/-- The text with which both texts begin. -/
def commonStart : Text → Text → Text
  | a :: s, b :: t => if a == b then a :: commonStart s t else []
  | _, _ => []

/-- A line that holds nothing but spaces and tabs becomes empty. -/
def emptyGaps (line : Text) : Text :=
  if line.all isGap then [] else line

/-- The longest indentation that all the lines share which are not empty. -/
def margin : List Text → Option Text
  | [] => none
  | line :: rest =>
    if line.isEmpty then margin rest
    else
      let indent := line.takeWhile isGap
      match margin rest with
      | some shared => some (commonStart indent shared)
      | none => some indent

/-- The text with the shared indentation of its lines removed. -/
def dedent (s : Text) : Text :=
  let lines := (lines s).map emptyGaps
  let width := ((margin lines).getD []).length
  joinWith ['\n'] (lines.map (·.drop width))

/-- The content of an element without its indentation. What shares a line with the opening tag has
    no indentation of its own. -/
def dedentContent (s : Text) : Text :=
  match cutAt? ['\n'] s with
  | some (first, rest) => trim first ++ '\n' :: dedent rest
  | none => trim s

theorem splitOn_ne_nil (sep : Char) (s : Text) : splitOn sep s ≠ [] := by
  cases s with
  | nil => simp [splitOn]
  | cons c s =>
    rw [splitOn]
    split
    · simp
    · split <;> simp

/-- Joining the pieces of a text with what it was cut at gives the text back. -/
theorem joinWith_splitOn (sep : Char) (s : Text) : joinWith [sep] (splitOn sep s) = s := by
  induction s with
  | nil => rfl
  | cons c s ih =>
    rw [splitOn]
    split
    · next h =>
      cases hs : splitOn sep s with
      | nil => exact absurd hs (splitOn_ne_nil sep s)
      | cons first others =>
        rw [joinWith, ← hs, ih, eq_of_beq h]
        simp
    · split
      · next hs => exact absurd hs (splitOn_ne_nil sep s)
      · next first others hs =>
        rw [hs] at ih
        cases others with
        | nil => simp_all [joinWith]
        | cons next rest => simp_all [joinWith]

theorem length_joinWith_map_le {f : Text → Text} (hf : ∀ t, (f t).length ≤ t.length) (sep : Text)
    (parts : List Text) : (joinWith sep (parts.map f)).length ≤ (joinWith sep parts).length := by
  fun_induction joinWith sep parts with
  | case1 => simp [joinWith]
  | case2 part => simpa [joinWith] using hf part
  | case3 part next rest ih =>
    have := hf part
    simp only [List.map_cons, joinWith, List.length_append] at ih ⊢
    omega

theorem length_dedent_le (s : Text) : (dedent s).length ≤ s.length := by
  rw [dedent, List.map_map]
  have shorter (n : Nat) (t : Text) : ((List.drop n ∘ emptyGaps) t).length ≤ t.length := by
    simp only [Function.comp, List.length_drop, emptyGaps]
    split <;> simp
  refine Nat.le_trans (length_joinWith_map_le (shorter _) ['\n'] (lines s)) ?_
  exact Nat.le_of_eq (congrArg List.length (joinWith_splitOn '\n' s))

theorem length_dedentContent_le (s : Text) : (dedentContent s).length ≤ s.length := by
  rw [dedentContent]
  split
  · next first rest h =>
    have h₁ := congrArg List.length (eq_append_of_cutAt? h)
    have h₂ := length_trimClass_le isBlank first
    have h₃ := length_dedent_le rest
    simp only [trim, List.length_append, List.length_cons, List.length_nil] at h₁ ⊢
    omega
  · exact length_trimClass_le isBlank s

end Bindery.Text
