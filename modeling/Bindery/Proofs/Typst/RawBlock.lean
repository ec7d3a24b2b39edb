import Bindery.Proofs.Text.Cutting
import Bindery.Proofs.Typst.Raw

namespace Bindery.Typst

open Text

/-- A raw block as it stands in the source. -/
structure RawBlock where
  /-- The length of the run of backticks that opens it. -/
  opening : Nat
  label : Text
  content : Text
  /-- The length of the whole run that closes it. -/
  closing : Nat
  /-- What follows the block. -/
  rest : Text
  deriving DecidableEq, Repr

/-- The raw block at the beginning of the source. -/
def readRawBlock? (s : Text) : Option RawBlock :=
  let opening := s.takeWhile (· == '\x60')
  let header := s.dropWhile (· == '\x60')
  (cutAt? ('\n' :: opening) (afterLine header)).map fun (content, after) =>
    { opening := opening.length
      label := line header
      content
      closing := opening.length + (after.takeWhile (· == '\x60')).length
      rest := after.dropWhile (· == '\x60') }

theorem le_longestRunAfter_of_isPrefix (run : Nat) {n : Nat} {s : Text}
    (h : List.replicate n '\x60' <+: s) : run + n ≤ longestRunAfter run s := by
  induction n generalizing run s with
  | zero => exact le_longestRunAfter run s
  | succ n ih =>
    obtain ⟨rest, rfl⟩ := h
    have hlater := ih (run + 1) (List.prefix_append (List.replicate n '\x60') rest)
    rw [List.replicate_succ, List.cons_append, longestRunAfter, if_pos (by decide)]
    omega

/-- A run of backticks within a text is no longer than the longest one. -/
theorem le_longestRunAfter_of_isInfix (run : Nat) {n : Nat} {s : Text}
    (h : List.replicate n '\x60' <:+: s) : n ≤ longestRunAfter run s := by
  induction s generalizing run with
  | nil =>
    have hnone : List.replicate n '\x60' = [] := List.infix_nil.1 h
    have hn : n = 0 := by simpa using hnone
    omega
  | cons c s ih =>
    rcases List.infix_cons_iff.1 h with hstarts | hinside
    · exact Nat.le_trans (Nat.le_add_left n run) (le_longestRunAfter_of_isPrefix run hstarts)
    rw [longestRunAfter]
    split
    · exact ih (run + 1) hinside
    · exact Nat.le_trans (ih 0 hinside) (Nat.le_max_right _ _)

theorem longestRunAfter_append_of_not_mem {s : Text} (hs : '\x60' ∉ s) (t : Text) :
    longestRunAfter 0 (s ++ t) = longestRunAfter 0 t := by
  induction s with
  | nil => rfl
  | cons c s ih =>
    rw [List.mem_cons, not_or] at hs
    have hc : ¬(c == '\x60') = true := by simpa using Ne.symm hs.1
    rw [List.cons_append, longestRunAfter, if_neg hc, ih hs.2, Nat.zero_max]

/-- The fence is longer than every run of backticks in the code. -/
theorem not_infix_of_longestRun {code s : Text}
    (hs : longestRunAfter 0 s ≤ longestRunAfter 0 code) : ¬fence code <:+: s := by
  intro h
  have hle := le_longestRunAfter_of_isInfix 0 h
  omega

/-- The first place where a newline stands before a fence of the code is the end of the code. -/
theorem cutAt?_fence (code : Text) :
    cutAt? ('\n' :: fence code) (code ++ '\n' :: fence code) = some (code, []) := by
  have hcut : cutAt? ('\n' :: fence code) (code ++ ('\n' :: fence code) ++ []) =
      some (code, []) := by
    refine cutAt?_append (List.cons_ne_nil _ _) fun t ht hne => ?_
    cases hstart : afterStart? ('\n' :: fence code) (t ++ ('\n' :: fence code) ++ []) with
    | none => rfl
    | some rest =>
      obtain ⟨c, t, rfl⟩ := List.exists_cons_of_ne_nil hne
      have hshape := eq_append_of_afterStart? hstart
      rw [List.append_nil, List.cons_append, List.cons_append, List.cons.injEq] at hshape
      have hstarts : fence code <+: t ++ '\n' :: fence code := ⟨rest, hshape.2.symm⟩
      have hnewline : '\n' ∉ fence code := by simp [fence]
      have hinside := (prefix_of_prefix_append_cons hnewline hstarts).isInfix
      have hsuffix : t <:+ code := (List.suffix_cons c t).trans ht
      exact absurd (hinside.trans hsuffix.isInfix) (not_infix_of_longestRun (Nat.le_refl _))
  simpa using hcut

/-- A block that has been set is read back with its code, between runs of equal length. -/
theorem readRawBlock?_rawBlock {lexers : Lexers} (hlexers : lexers.Plain) {label : Text}
    (htick : '\x60' ∉ label) (hline : '\n' ∉ label) (code : Text) :
    readRawBlock? (rawBlock label code) =
      some ⟨(fence code).length, languageName label, code, (fence code).length, []⟩ := by
  have hall : (fence code).all (· == '\x60') = true := by
    simp [fence]
  have hname := not_mem_languageName hlexers (.inl rfl) htick
  have hhead : (languageName label ++ '\n' :: (code ++ '\n' :: fence code)).head?.any
      (· == '\x60') = false := by
    cases hcases : languageName label with
    | nil => rfl
    | cons c rest =>
      rw [hcases, List.mem_cons, not_or] at hname
      simpa using Ne.symm hname.1
  have hends : EndsLine ('\n' :: (code ++ '\n' :: fence code)) := .inr ⟨_, rfl⟩
  have hlabel := not_mem_languageName hlexers (.inr rfl) hline
  have hshape : rawBlock label code =
      fence code ++ (languageName label ++ '\n' :: (code ++ '\n' :: fence code)) := by
    simp [rawBlock]
  rw [hshape, readRawBlock?]
  simp only [takeWhile_append_of_head hall hhead, dropWhile_append_of_head hall hhead,
    line_append_of_endsLine hlabel hends, afterLine_append_of_endsLine hlabel hends, List.drop_one,
    List.tail_cons, cutAt?_fence, Option.map_some]
  rfl

/-- No run of backticks before the end of a block is as long as its fence. -/
theorem not_infix_of_block {lexers : Lexers} (hlexers : lexers.Plain) {label : Text}
    (htick : '\x60' ∉ label) (code : Text) :
    ¬fence code <:+: languageName label ++ '\n' :: code := by
  refine not_infix_of_longestRun (Nat.le_of_eq ?_)
  have hname : '\x60' ∉ languageName label ++ ['\n'] := by
    simp [not_mem_languageName hlexers (.inl rfl) htick]
  have hrun := longestRunAfter_append_of_not_mem hname code
  rwa [List.append_assoc, List.singleton_append] at hrun

end Bindery.Typst
