import Bindery.Proofs.Typst.Quiet

namespace Bindery.Typst

open Reader

/-- Read as markup, the text leaves open what is open before it, and nothing else. -/
def Nested (s : Text) : Prop :=
  ∀ stack p, stack.head? ≠ some .list → p.isCalm = true →
    ∃ p', p'.isCalm = true ∧ (⟨stack, p⟩ : Reader).run s = some ⟨stack, p'⟩

theorem Nested.wellNested {s : Text} (h : Nested s) : WellNested s := by
  obtain ⟨p, hp, hrun⟩ := h [] .markup (by simp) rfl
  refine ⟨⟨[], p⟩, hrun, ?_⟩
  cases p <;> simp_all [Phase.isCalm, isDone]

/-- The watch that watches for nothing. -/
def Watch.idle : Watch :=
  fun _ => false

theorem Watch.exists_idle_run {q q' : Reader} {s : Text} (h : q.run s = some q') (before : Tail) :
    ∃ after, Watch.idle.run (q, before) s = some (q', after) := by
  induction s generalizing q before with
  | nil =>
    cases h
    exact ⟨before, rfl⟩
  | cons c s ih =>
    rw [Reader.run_cons] at h
    obtain ⟨p, hp, hrest⟩ := Option.bind_eq_some_iff.1 h
    obtain ⟨after, hrun⟩ := ih hrest (before.next q c)
    have hfree : Watch.idle before = true → before.continuedBy c = false := fun h => nomatch h
    exact ⟨after, by rw [Watch.run_cons_of (Watch.step_of hfree hp), hrun]⟩

/-- A bracket would open a block right after an argument list, but not elsewhere in markup. -/
theorem Nested.head_ne {c : Char} {s : Text} (h : Nested (c :: s)) : c ≠ '[' := by
  rintro rfl
  obtain ⟨p₁, -, hmarkup⟩ := h [] .markup (by simp) rfl
  obtain ⟨p₂, -, hcalled⟩ := h [] .called (by simp) rfl
  have hopen : (⟨[], .markup⟩ : Reader).step '[' = some ⟨[], .markup⟩ := rfl
  have hblock : (⟨[], .called⟩ : Reader).step '[' = some ⟨[.block], .markup⟩ := rfl
  rw [Reader.run_cons_of hopen] at hmarkup
  rw [Reader.run_cons_of hblock] at hcalled
  obtain ⟨after, hidle⟩ := Watch.exists_idle_run hmarkup .free
  have htop : [Frame.block].head? ≠ some .list := by simp
  have hinside := Watch.reader_run (Watch.run_within htop hidle)
  cases hinside.symm.trans hcalled

theorem nested_iff_quiet {s : Text} : Nested s ↔ Quiet .idle s := by
  constructor
  · intro h
    obtain ⟨p', hp', hrun⟩ := h [] .markup (by simp) rfl
    obtain ⟨after, hidle⟩ := Watch.exists_idle_run hrun .free
    refine ⟨after, fun p hp => ?_⟩
    cases s with
    | nil => exact ⟨p, hp, by cases hidle; rfl⟩
    | cons c s =>
      -- No bracket comes first, so that a place after an argument list is like any other.
      have hstep : (⟨[], p⟩ : Reader).step c = start.step c := by
        rw [step_calm hp h.head_ne]
        exact (step_calm rfl h.head_ne).symm
      refine ⟨p', hp', ?_⟩
      rw [Watch.run_cons, Watch.step, hstep, next_calm hp]
      exact (Watch.run_cons _ c s).symm.trans hidle
  · rintro ⟨after, h⟩ stack p htop hp
    obtain ⟨p', hp', hrun⟩ := h.run_within htop hp
    exact ⟨p', hp', Watch.reader_run hrun⟩

end Bindery.Typst
