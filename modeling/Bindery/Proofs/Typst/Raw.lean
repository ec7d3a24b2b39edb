import Bindery.Proofs.Typst.Quiet
import Bindery.Typst.Raw

namespace Bindery.Typst

open Reader Watch

theorem le_longestRunAfter (run : Nat) (s : Text) : run ≤ longestRunAfter run s := by
  induction s generalizing run with
  | nil => exact Nat.le_refl run
  | cons c s ih =>
    rw [longestRunAfter]
    split
    · exact Nat.le_trans (Nat.le_succ run) (ih (run + 1))
    · exact Nat.le_max_left _ _

section Names

variable {lexers : Lexers} (hlexers : lexers.Plain)

include hlexers

/-- The name that a label is put as holds no backtick if the label does not, and no newline
    either. -/
theorem not_mem_languageName {label : Text} {c : Char} (hc : c = '\x60' ∨ c = '\n')
    (h : c ∉ label) : c ∉ languageName label := by
  rw [languageName]
  split
  · exact List.not_mem_nil
  · split
    · next name _ hnames =>
      have hname := hlexers _ _ hnames name List.mem_cons_self
      rcases hc with rfl | rfl
      · exact hname.1
      · exact hname.2
    · exact h
    · exact h

end Names

theorem step_raw_other (stack : List Frame) (ticks run : Nat) {c : Char} (hc : c ≠ '\x60') :
    (⟨stack, .raw ticks run⟩ : Reader).step c = some ⟨stack, .raw ticks 0⟩ :=
  if_pos (by simpa using hc)

theorem step_raw_tick (stack : List Frame) {ticks run : Nat} (hrun : run + 1 ≠ ticks) :
    (⟨stack, .raw ticks run⟩ : Reader).step '\x60' = some ⟨stack, .raw ticks (run + 1)⟩ := by
  have h : ¬(run + 1 == ticks) = true := by simpa using hrun
  exact if_neg h

theorem step_opening_other (stack : List Frame) {ticks : Nat} (hticks : ticks ≠ 2) {c : Char}
    (hc : c ≠ '\x60') :
    (⟨stack, .opening ticks⟩ : Reader).step c = some ⟨stack, .raw ticks 0⟩ := by
  have h : ¬(ticks == 2) = true := by simpa using hticks
  exact (if_neg (by simpa using hc)).trans (if_neg h)

variable {w : Watch}

theorem next_raw (stack : List Frame) (ticks run : Nat) (c : Char) :
    Tail.free.next ⟨stack, .raw ticks run⟩ c = .free :=
  next_of_unread rfl (by simp) _ _

theorem next_tick (q : Reader) : Tail.free.next q '\x60' = .free :=
  next_of_isInert (by decide) _ _

theorem run_raw_of_not_mem (w : Watch) (stack : List Frame) (ticks : Nat) {s : Text}
    (h : '\x60' ∉ s) :
    w.run (⟨stack, .raw ticks 0⟩, .free) s = some (⟨stack, .raw ticks 0⟩, .free) := by
  induction s with
  | nil => rfl
  | cons c s ih =>
    rw [List.mem_cons, not_or] at h
    rw [run_cons_of_free (step_raw_other stack ticks 0 (Ne.symm h.1)) (next_raw stack ticks 0 c),
      ih h.2]

/-- Runs of backticks shorter than the opening one close nothing. -/
theorem run_raw (w : Watch) (stack : List Frame) {ticks run : Nat} {s : Text}
    (h : longestRunAfter run s < ticks) : ∃ run',
      w.run (⟨stack, .raw ticks run⟩, .free) s = some (⟨stack, .raw ticks run'⟩, .free) := by
  induction s generalizing run with
  | nil => exact ⟨run, rfl⟩
  | cons c s ih =>
    rw [longestRunAfter] at h
    have hnext := next_raw stack ticks run c
    by_cases hc : c = '\x60'
    · subst hc
      rw [if_pos (by decide)] at h
      have hshort : run + 1 < ticks := Nat.lt_of_le_of_lt (le_longestRunAfter (run + 1) s) h
      obtain ⟨run', hrun⟩ := ih h
      refine ⟨run', ?_⟩
      rw [run_cons_of_free (step_raw_tick stack (Nat.ne_of_lt hshort)) hnext, hrun]
    · rw [if_neg (by simpa using hc)] at h
      obtain ⟨run', hrun⟩ := ih (Nat.lt_of_le_of_lt (Nat.le_max_right _ _) h)
      exact ⟨run', by rw [run_cons_of_free (step_raw_other stack ticks run hc) hnext, hrun]⟩

theorem run_opening (w : Watch) {stack : List Frame} {p : Phase} (hp : p.isCalm = true) (n : Nat) :
    w.run (⟨stack, p⟩, .free) (List.replicate (n + 1) '\x60') =
      some (⟨stack, .opening (n + 1)⟩, .free) := by
  induction n with
  | zero =>
    have hstep : (⟨stack, p⟩ : Reader).step '\x60' = some ⟨stack, .opening 1⟩ :=
      step_calm hp (by decide)
    rw [List.replicate_one, run_cons_of_free hstep (next_tick _)]
    rfl
  | succ n ih =>
    have hstep : (⟨stack, .opening (n + 1)⟩ : Reader).step '\x60' =
        some ⟨stack, .opening (n + 1 + 1)⟩ := rfl
    rw [List.replicate_succ', run_append_of ih, run_cons_of_free hstep (next_tick _)]
    rfl

/-- The run of backticks that opens raw text ends at the first other character. -/
theorem run_opening_of_not_mem (w : Watch) (stack : List Frame) {ticks : Nat} (hticks : ticks ≠ 2)
    {s : Text} (hs : s ≠ []) (h : '\x60' ∉ s) :
    w.run (⟨stack, .opening ticks⟩, .free) s = some (⟨stack, .raw ticks 0⟩, .free) := by
  obtain ⟨c, s, rfl⟩ := List.exists_cons_of_ne_nil hs
  rw [List.mem_cons, not_or] at h
  have hnext : Tail.free.next ⟨stack, .opening ticks⟩ c = .free :=
    next_of_unread (by simp [readsMarkup, hticks]) (by simp) _ _
  rw [run_cons_of_free (step_opening_other stack hticks (Ne.symm h.1)) hnext,
    run_raw_of_not_mem w stack ticks h.2]

theorem run_closing (w : Watch) (stack : List Frame) (run n : Nat) :
    w.run (⟨stack, .raw (run + n + 1) run⟩, .free) (List.replicate (n + 1) '\x60') =
      some (⟨stack, .markup⟩, .free) := by
  induction n generalizing run with
  | zero =>
    have hstep : (⟨stack, .raw (run + 0 + 1) run⟩ : Reader).step '\x60' = some ⟨stack, .markup⟩ :=
      if_pos (by simp)
    rw [List.replicate_one, run_cons_of_free hstep (next_raw _ _ _ _)]
    rfl
  | succ n ih =>
    have hticks : run + (n + 1) + 1 = run + 1 + n + 1 := by omega
    rw [List.replicate_succ, run_cons_of_free (step_raw_tick stack (by omega)) (next_raw _ _ _ _),
      hticks, ih (run + 1)]

theorem quiet_rawSpan (w : Watch) {code : Text} (hcode : code ≠ []) : Quiet w (rawSpan code) := by
  rw [rawSpan]
  split
  · have hcall : "#raw(".toList ++ literal code ++ [')'] =
        '#' :: "raw".toList ++ '(' :: literal code ++ [')'] := by simp
    rw [hcall]
    exact (quietList_literal w code).call (by decide)
  · next htick =>
    have hmem : '\x60' ∉ code := by simpa using htick
    refine ⟨.free, fun p hp => ⟨.markup, rfl, ?_⟩⟩
    have hshape : '\x60' :: code ++ ['\x60'] = List.replicate 1 '\x60' ++ (code ++ ['\x60']) := rfl
    rw [hshape, run_append_of (run_opening w hp 0),
      run_append_of (run_opening_of_not_mem w [] (by decide) hcode hmem)]
    exact run_closing w [] 0 0

theorem exists_fence_eq (code : Text) : ∃ n, longestRunAfter 0 code < n + 3 ∧
    fence code = List.replicate (n + 3) '\x60' := by
  refine ⟨max 3 (longestRunAfter 0 code + 1) - 3, by omega, ?_⟩
  rw [fence, Nat.sub_add_cancel (Nat.le_max_left _ _)]

/-- A block is closed by its own fence, whatever the code is. -/
theorem quiet_rawBlock {lexers : Lexers} (w : Watch) (hlexers : lexers.Plain) {label : Text}
    (hlabel : '\x60' ∉ label) (code : Text) : Quiet w (rawBlock label code) := by
  refine ⟨.free, fun p hp => ⟨.markup, rfl, ?_⟩⟩
  obtain ⟨n, hn, hfence⟩ := exists_fence_eq code
  have hline : '\x60' ∉ languageName label ++ ['\n'] := by
    simp [not_mem_languageName hlexers (.inl rfl) hlabel]
  have hshape : rawBlock label code = List.replicate (n + 3) '\x60' ++
      ((languageName label ++ ['\n']) ++ (code ++ ('\n' :: List.replicate (n + 3) '\x60'))) := by
    simp only [rawBlock, hfence, List.append_assoc, List.cons_append, List.nil_append]
  obtain ⟨run, hrun⟩ := run_raw w [] hn
  have hnewline : (⟨[], .raw (n + 3) run⟩ : Reader).step '\n' =
      some ⟨[], .raw (0 + (n + 2) + 1) 0⟩ := by
    rw [Nat.zero_add]
    rfl
  rw [hshape, run_append_of (run_opening w hp (n + 2)),
    run_append_of (run_opening_of_not_mem w [] (by omega) (by simp) hline), run_append_of hrun,
    run_cons_of_free hnewline (next_raw _ _ _ _), run_closing]

end Bindery.Typst
