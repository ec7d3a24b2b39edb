import Bindery.Proofs.Text.BlankRun
import Bindery.Proofs.Typst.Nesting
import Bindery.Proofs.Typst.RawBlock

namespace Bindery.Typst

open Text Reader

/-- Whether the next character stands in a block of markup or in a raw block, which at least three
    backticks open. -/
def Reader.isCovered (q : Reader) : Bool :=
  q.stack.contains .block ||
    match q.phase with
    | .opening ticks | .raw ticks _ => 3 ≤ ticks
    | _ => false

/-- What of the text is not covered. -/
def Reader.bare (q : Reader) : Text → Text
  | [] => []
  | c :: s =>
    (if q.isCovered then [] else [c]) ++
      match q.step c with
      | some q' => q'.bare s
      | none => []

variable {q q' : Reader} {c : Char} {s t : Text} {stack : List Frame} {p : Phase}

theorem bare_cons (h : q.step c = some q') (s : Text) :
    q.bare (c :: s) = (if q.isCovered then [] else [c]) ++ q'.bare s := by
  rw [bare, h]

theorem bare_cons_of_covered (hq : q.isCovered = true) (h : q.step c = some q') (s : Text) :
    q.bare (c :: s) = q'.bare s := by
  rw [bare_cons h, if_pos hq, List.nil_append]

theorem bare_cons_of_uncovered (hq : q.isCovered = false) (h : q.step c = some q') (s : Text) :
    q.bare (c :: s) = c :: q'.bare s := by
  rw [bare_cons h, if_neg (by simp [hq]), List.singleton_append]

theorem bare_singleton (hq : q.isCovered = true) (c : Char) : q.bare [c] = [] := by
  rw [bare, if_pos hq, List.nil_append]
  split <;> rfl

theorem exists_of_reader_cons {x : Reader} (h : q.run (c :: s) = some x) :
    ∃ q', q.step c = some q' ∧ q'.run s = some x := by
  rw [Reader.run_cons] at h
  exact Option.bind_eq_some_iff.1 h

theorem reader_append_of (h : q.run s = some q') (t : Text) : q.run (s ++ t) = q'.run t := by
  rw [Reader.run, List.foldlM_append]
  exact congrArg (Option.bind · _) h

theorem exists_of_reader_append {x : Reader} (h : q.run (s ++ t) = some x) :
    ∃ q', q.run s = some q' ∧ q'.run t = some x := by
  rw [Reader.run, List.foldlM_append] at h
  exact Option.bind_eq_some_iff.1 h

theorem bare_append (h : q.run s = some q') (t : Text) :
    q.bare (s ++ t) = q.bare s ++ q'.bare t := by
  induction s generalizing q with
  | nil =>
    cases h
    rfl
  | cons c s ih =>
    obtain ⟨q₁, hstep, h⟩ := exists_of_reader_cons h
    rw [List.cons_append, bare_cons hstep, bare_cons hstep, ih h, List.append_assoc]

theorem bare_sublist (q : Reader) (s : Text) : (q.bare s).Sublist s := by
  induction s generalizing q with
  | nil => exact List.Sublist.refl []
  | cons c s ih =>
    have hfirst : (if q.isCovered then [] else [c]).Sublist [c] := by
      split
      · exact List.nil_sublist _
      · exact List.Sublist.refl _
    rw [bare]
    refine hfirst.append ?_
    split
    · next q' _ => exact ih q'
    · exact List.nil_sublist s

theorem isCovered_step_of_isBlank (hc : isBlank c = true) (h : q.step c = some q') :
    q'.isCovered = q.isCovered := by
  obtain ⟨stack, phase⟩ := q
  have hne (d : Char) (hd : isBlank d = false) : (c == d) = false := by
    rw [beq_eq_false_iff_ne]
    rintro rfl
    rw [hc] at hd
    cases hd
  have hslash := hne '\\' (by decide)
  have htick := hne '\x60' (by decide)
  have hopen := hne '[' (by decide)
  have hclose := hne ']' (by decide)
  have hparen := hne '(' (by decide)
  have hcloseParen := hne ')' (by decide)
  have hquote := hne '\x22' (by decide)
  have hmarkup : inMarkup stack c = some ⟨stack, .markup⟩ := by
    simp [inMarkup, hslash, htick, hne '#' (by decide), hclose]
  have hstep := h
  rw [Reader.step] at hstep
  cases phase with
  | markup =>
    cases hmarkup.symm.trans h
    rfl
  | escaped | stringEscape =>
    cases h
    rfl
  | opening ticks =>
    simp only [htick, Bool.false_eq_true, if_false, hmarkup] at hstep
    split at hstep
    · next hticks =>
      -- Two backticks are raw text without any content.
      obtain rfl : ticks = 2 := by simpa using hticks
      cases hstep
      rfl
    · cases hstep
      rfl
  | raw ticks run =>
    rw [step_raw_other stack ticks run (by simpa using htick)] at h
    cases h
    rfl
  | sign | name =>
    simp only [hparen, hopen, Bool.false_eq_true, if_false, hmarkup] at hstep
    split at hstep
    · cases hstep
      rfl
    · cases hstep
      rfl
  | called | list | string =>
    simp only [inList, hmarkup, hslash, hquote, hparen, hopen, hcloseParen, hclose,
      Bool.false_eq_true, if_false] at hstep
    cases hstep
    rfl

/-- Where nothing is covered before blanks, nothing is covered after them, and the other way
    round. -/
theorem isCovered_run_of_allBlank (hs : allBlank s = true) (h : q.run s = some q') :
    q'.isCovered = q.isCovered := by
  induction s generalizing q with
  | nil =>
    cases h
    rfl
  | cons c s ih =>
    rw [allBlank_cons, Bool.and_eq_true] at hs
    obtain ⟨q₁, hstep, h⟩ := exists_of_reader_cons h
    rw [ih hs.2 h, isCovered_step_of_isBlank hs.1 hstep]

theorem bare_of_allBlank (hq : q.isCovered = false) (hs : allBlank s = true)
    (h : q.run s = some q') : q.bare s = s := by
  induction s generalizing q with
  | nil => rfl
  | cons c s ih =>
    rw [allBlank_cons, Bool.and_eq_true] at hs
    obtain ⟨q₁, hstep, h⟩ := exists_of_reader_cons h
    rw [bare_cons_of_uncovered hq hstep,
      ih ((isCovered_step_of_isBlank hs.1 hstep).trans hq) hs.2 h]

theorem allBlank_bare (hq : q.isCovered = false) (h : q.run s = some q') :
    allBlank (q.bare s) = allBlank s := by
  induction s generalizing q with
  | nil => rfl
  | cons c s ih =>
    obtain ⟨q₁, hstep, h⟩ := exists_of_reader_cons h
    rw [bare_cons_of_uncovered hq hstep, allBlank_cons, allBlank_cons]
    cases hc : isBlank c with
    | true => rw [ih ((isCovered_step_of_isBlank hc hstep).trans hq) h]
    | false => rfl

/-- Within a block of markup everything is covered. -/
theorem bare_within {outer : List Frame} (houter : outer.head? ≠ some .list)
    (hblock : .block ∈ outer) (h : q.run s = some q') : (q.within outer).bare s = [] := by
  induction s generalizing q with
  | nil => rfl
  | cons c s ih =>
    obtain ⟨q₁, hstep, h⟩ := exists_of_reader_cons h
    have hcovered : (q.within outer).isCovered = true := by
      simp [isCovered, within, hblock]
    rw [bare_cons_of_covered hcovered (framed_step houter q c q₁ hstep), ih h]

theorem Nested.exists_run (hs : Nested s) :
    ∃ p, p.isCalm = true ∧ start.run s = some ⟨[], p⟩ :=
  hs [] .markup (by simp) rfl

theorem Nested.run_block (hs : Nested s) (hopen : q.step '[' = some ⟨.block :: stack, .markup⟩) :
    q.run ('[' :: s ++ [']']) = some (resume stack .markup) :=
  Watch.reader_run ((nested_iff_quiet.1 hs).run_block stack hopen .free)

/-- Nothing of a block is bare but the bracket that opens it. -/
theorem Nested.bare_block (hs : Nested s) (hopen : q.step '[' = some ⟨.block :: stack, .markup⟩)
    (hq : q.isCovered = false) : q.bare ('[' :: s ++ [']']) = ['['] := by
  have htop : (Frame.block :: stack).head? ≠ some .list := by simp
  obtain ⟨p, -, hrun⟩ := hs (.block :: stack) .markup htop rfl
  obtain ⟨p', -, hstart⟩ := hs.exists_run
  have hbody : (⟨.block :: stack, .markup⟩ : Reader).bare s = [] :=
    bare_within htop List.mem_cons_self hstart
  have hcovered : (⟨.block :: stack, p⟩ : Reader).isCovered = true := by simp [isCovered]
  rw [List.cons_append, bare_cons_of_uncovered hq hopen, bare_append hrun, hbody,
    bare_singleton hcovered]
  rfl

theorem longestRunAfter_append_cons (run : Nat) (hc : c ≠ '\x60') (s t : Text) :
    longestRunAfter run (s ++ c :: t) = max (longestRunAfter run s) (longestRunAfter 0 t) := by
  induction s generalizing run with
  | nil => exact if_neg (by simpa using hc)
  | cons d s ih =>
    rw [List.cons_append, longestRunAfter, longestRunAfter]
    split
    · exact ih (run + 1)
    · rw [ih 0, Nat.max_assoc]

theorem longestRunAfter_replicate (run n : Nat) :
    longestRunAfter run (List.replicate n '\x60') = run + n := by
  induction n generalizing run with
  | zero => rfl
  | succ n ih =>
    rw [List.replicate_succ, longestRunAfter, if_pos (by decide), ih, Nat.add_assoc,
      Nat.add_comm 1 n]

section Raw

variable {ticks : Nat} (hticks : 3 ≤ ticks)

include hticks

theorem isCovered_raw (stack : List Frame) (run : Nat) :
    (⟨stack, .raw ticks run⟩ : Reader).isCovered = true := by
  simp [isCovered, hticks]

theorem isCovered_opening (stack : List Frame) :
    (⟨stack, .opening ticks⟩ : Reader).isCovered = true := by
  simp [isCovered, hticks]

/-- Shorter runs of backticks leave raw text covered. -/
theorem bare_raw (stack : List Frame) {run : Nat} (h : longestRunAfter run s < ticks) :
    (⟨stack, .raw ticks run⟩ : Reader).bare s = [] := by
  induction s generalizing run with
  | nil => rfl
  | cons c s ih =>
    have hcovered := isCovered_raw hticks stack run
    rw [longestRunAfter] at h
    by_cases hc : c = '\x60'
    · subst hc
      rw [if_pos (by decide)] at h
      have hshort : run + 1 < ticks := Nat.lt_of_le_of_lt (le_longestRunAfter (run + 1) s) h
      rw [bare_cons_of_covered hcovered (step_raw_tick stack (Nat.ne_of_lt hshort)), ih h]
    · rw [if_neg (by simpa using hc)] at h
      rw [bare_cons_of_covered hcovered (step_raw_other stack ticks run hc),
        ih (Nat.lt_of_le_of_lt (Nat.le_max_right _ _) h)]

theorem bare_opening (stack : List Frame) (n : Nat) :
    (⟨stack, .opening ticks⟩ : Reader).bare (List.replicate n '\x60') = [] := by
  induction n generalizing ticks with
  | zero => rfl
  | succ n ih =>
    have hstep : (⟨stack, .opening ticks⟩ : Reader).step '\x60' =
        some ⟨stack, .opening (ticks + 1)⟩ := rfl
    rw [List.replicate_succ, bare_cons_of_covered (isCovered_opening hticks stack) hstep,
      ih (Nat.le_succ_of_le hticks)]

/-- From its label to its last backtick, a raw block is covered. -/
theorem bare_opened (stack : List Frame) (hs : longestRunAfter 0 (c :: s) < ticks)
    (hc : c ≠ '\x60') (d : Char) :
    (⟨stack, .opening ticks⟩ : Reader).bare (c :: s ++ [d]) = [] := by
  have hrun : longestRunAfter 0 s < ticks := by
    rw [longestRunAfter, if_neg (by simpa using hc)] at hs
    exact Nat.lt_of_le_of_lt (Nat.le_max_right _ _) hs
  obtain ⟨run', hread⟩ := run_raw .idle stack hrun
  rw [List.cons_append, bare_cons_of_covered (isCovered_opening hticks stack)
      (step_opening_other stack (by omega) hc),
    bare_append (Watch.reader_run hread), bare_raw hticks stack hrun,
    bare_singleton (isCovered_raw hticks stack run')]
  rfl

end Raw

/-- Nothing of a raw block is bare but the first three backticks. -/
theorem bare_rawBlock {lexers : Lexers} (hlexers : lexers.Plain) {label : Text}
    (hlabel : '\x60' ∉ label) (code : Text) :
    start.bare (rawBlock label code) = ['\x60', '\x60', '\x60'] := by
  obtain ⟨n, hn, hfence⟩ := exists_fence_eq code
  have hthree : start.run (List.replicate 3 '\x60') = some ⟨[], .opening 3⟩ := rfl
  have hticks : List.replicate (n + 3) '\x60' =
      List.replicate 3 '\x60' ++ List.replicate n '\x60' := by
    rw [List.replicate_append_replicate, Nat.add_comm 3 n]
  have hopening : start.run (List.replicate (n + 3) '\x60') = some ⟨[], .opening (n + 3)⟩ :=
    Watch.reader_run (run_opening .idle (show Phase.markup.isCalm = true from rfl) (n + 2))
  obtain ⟨c, inside, hinside, hc⟩ : ∃ c inside, languageName label ++ '\n' :: (code ++
      '\n' :: List.replicate (n + 2) '\x60') = c :: inside ∧ c ≠ '\x60' := by
    have hname := not_mem_languageName hlexers (.inl rfl) hlabel
    cases hlanguage : languageName label with
    | nil => exact ⟨_, _, rfl, by decide⟩
    | cons c rest =>
      rw [hlanguage, List.mem_cons, not_or] at hname
      exact ⟨c, _, rfl, Ne.symm hname.1⟩
  have hshort : longestRunAfter 0 (c :: inside) < n + 3 := by
    have hname := not_mem_languageName hlexers (.inl rfl) hlabel
    rw [← hinside, longestRunAfter_append_of_not_mem hname, longestRunAfter, if_neg (by decide),
      Nat.zero_max, longestRunAfter_append_cons 0 (by decide), longestRunAfter_replicate]
    omega
  have hshape : rawBlock label code =
      List.replicate (n + 3) '\x60' ++ (c :: inside ++ ['\x60']) := by
    rw [← hinside, rawBlock, hfence]
    simp only [List.append_assoc, List.cons_append, List.replicate_succ' (n := n + 2)]
  rw [hshape, bare_append hopening, bare_opened (by omega) [] hshort hc, List.append_nil, hticks,
    bare_append hthree, bare_opening (by decide)]
  rfl

end Bindery.Typst
