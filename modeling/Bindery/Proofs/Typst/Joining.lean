import Bindery.Proofs.Typst.Quiet
import Bindery.Typst.Markup
import Mathlib.Data.List.Chain

namespace Bindery.Typst

open Reader Watch

variable {w : Watch} {before after : Tail} {x y previous : Text}

theorem isContinuation_iff : IsContinuation y ↔ continuesExpression y = true := by
  constructor
  · rintro (hhead | ⟨c, rest, rfl, hc⟩)
    · obtain ⟨rest, rfl⟩ := List.head?_eq_some_iff.1 hhead
      rfl
    · exact hc
  · intro h
    unfold continuesExpression at h
    split at h
    · exact .inl rfl
    · exact .inr ⟨_, _, rfl, h⟩
    · cases h

instance (s : Text) : Decidable (IsContinuation s) :=
  decidable_of_iff (continuesExpression s = true) isContinuation_iff.symm

theorem head?_of_isContinuation (h : IsContinuation y) :
    ∃ c rest, y = c :: rest ∧ (c = '(' ∨ c = '.') := by
  rcases h with hhead | ⟨c, rest, rfl, -⟩
  · obtain ⟨rest, rfl⟩ := List.head?_eq_some_iff.1 hhead
    exact ⟨_, _, rfl, .inl rfl⟩
  · exact ⟨_, _, rfl, .inr rfl⟩

/-- A piece may stand after another one under the watch. A piece that begins with an expression
    needs nothing for the expressions in it, since the next piece is detached from it. -/
structure Watch.Fits (w : Watch) (x y : Text) : Prop where
  slash : w .slash = true → EndsSlash x → y.head? ≠ some '/' ∧ y.head? ≠ some '*'
  expression : w .expression = true ∨ w .dot = true → EndsExpression x →
    x.head? = some '#' ∨ ¬IsContinuation y
  dot : w .dot = true → EndsDot x → y.head?.any isNameStart = false

/-- Detached pieces begin with a number sign when they did before. -/
theorem head?_detach : (detach previous y).head? = some '#' ↔ y.head? = some '#' := by
  rcases detach_cases previous y with hsame | ⟨c, rest, rfl, hc, hescaped⟩
  · rw [hsame]
  · rw [hescaped]
    rcases hc with rfl | rfl <;> simp

theorem Watch.Reads.endOf (h : w.Reads .free y after) : after.EndOf y := by
  obtain ⟨p, -, hrun⟩ := h .markup rfl
  exact endOf_of_run hrun

/-- After a backslash, a parenthesis or a dot is read as it would be after nothing. -/
theorem Watch.Reads.detached {c : Char} {rest : Text} (h : w.Reads .free (c :: rest) after)
    (hc : c = '(' ∨ c = '.') (before : Tail) : w.Reads before ('\\' :: c :: rest) after := by
  intro p hp
  obtain ⟨p', hp', hrun⟩ := h .markup rfl
  have hplain : w.run (⟨[], .markup⟩, .free) (c :: rest) = w.run (start, .free) rest := by
    rcases hc with rfl | rfl <;> exact run_cons_of_free rfl rfl rest
  exact ⟨p', hp', by rw [run_escaped hp, ← hplain, hrun]⟩

theorem Watch.Reads.cons_dot {rest : Text} (h : w.Reads .dot rest after) :
    w.Reads .expression ('.' :: rest) after :=
  .cons rfl (fun _ => rfl) h

/-- A dot after an expression is read as it would be after nothing, if no name follows it. -/
theorem Watch.Reads.after_expression {rest : Text} (h : w.Reads .free ('.' :: rest) after)
    (hrest : w .dot = true → rest.head?.any isNameStart = false) :
    ∃ after', after'.EndOf ('.' :: rest) ∧ w.Reads .expression ('.' :: rest) after' := by
  cases rest with
  | nil => exact ⟨.dot, ⟨[], rfl, .inl rfl⟩, .cons_dot (reads_nil w .dot)⟩
  | cons d rest =>
    refine ⟨after, h.endOf, fun p hp => ?_⟩
    obtain ⟨p', hp', hrun⟩ := h p hp
    have hdot : (⟨[], p⟩ : Reader).step '.' = some start := step_plain hp (by decide)
    have hfree : Tail.free.next ⟨[], p⟩ '.' = .free := next_calm hp .free '.'
    rw [run_cons_of_free hdot hfree] at hrun
    have hlater : w.run (start, .dot) (d :: rest) = some (⟨[], p'⟩, after) :=
      run_of_free hrun hrest fun h => nomatch h
    have hnext : Tail.expression.next ⟨[], p⟩ '.' = .dot := next_calm hp .expression '.'
    exact ⟨p', hp', by rw [run_cons_of (step_of (fun _ => rfl) hdot), hnext, hlater]⟩

/-- A piece is read to its end after the one that it is detached from. -/
theorem Watch.Fits.reads_detach (h : w.Fits x y)
    (hprevious : previous.head? = some '#' ↔ x.head? = some '#') (hbefore : before.EndOf x)
    (hne : y ≠ []) (hy : w.Reads .free y after) :
    ∃ after', after'.EndOf y ∧ w.Reads before (detach previous y) after' := by
  rw [detach]
  split
  · next hdetach =>
    rw [Bool.and_eq_true, ← isContinuation_iff] at hdetach
    obtain ⟨c, rest, rfl, hc⟩ := head?_of_isContinuation hdetach.2
    exact ⟨after, hy.endOf, hy.detached hc before⟩
  · next hkept =>
    obtain ⟨c, rest, rfl⟩ := List.exists_cons_of_ne_nil hne
    have hcontinuation (hw : w .expression = true ∨ w .dot = true) (hx : EndsExpression x) :
        ¬IsContinuation (c :: rest) := by
      intro hcontinuation
      refine hkept ?_
      rcases h.expression hw hx with hsign | hother
      · rw [hprevious.2 hsign, isContinuation_iff.1 hcontinuation]
        rfl
      · exact absurd hcontinuation hother
    have hfree (hw : w before = true) : before.continuedBy c = false := by
      cases before with
      | free => rfl
      | slash => simpa [Tail.continuedBy] using h.slash hw hbefore
      | expression =>
        have hother := hcontinuation (.inl hw) hbefore
        rw [Tail.continuedBy, beq_eq_false_iff_ne]
        rintro rfl
        exact hother (.inl rfl)
      | dot => exact h.dot hw hbefore
    -- A dot behind an expression is the one place where the second character of the piece matters.
    by_cases hdot : before = .expression ∧ c = '.'
    · obtain ⟨rfl, rfl⟩ := hdot
      refine hy.after_expression fun hw => ?_
      have hother := hcontinuation (.inr hw) hbefore
      cases rest with
      | nil => rfl
      | cons d rest =>
        rw [List.head?_cons, Option.any_some, ← Bool.not_eq_true]
        exact fun hd => hother (.inr ⟨d, rest, rfl, hd⟩)
    · exact ⟨after, hy.endOf, hy.of_free hfree fun hexpression hc => hdot ⟨hexpression, hc⟩⟩

/-- Any two pieces of which one stands right after the other are in the relation; empty ones take no
    place. -/
def Neighbours (R : Text → Text → Prop) (pieces : List Text) : Prop :=
  (pieces.filter (!·.isEmpty)).IsChain R

theorem Neighbours.imp {R S : Text → Text → Prop} {pieces : List Text}
    (hRS : ∀ x y, R x y → S x y) (h : Neighbours R pieces) : Neighbours S pieces :=
  List.IsChain.imp hRS h

/-- The pieces fit together as they stand on their line. -/
def Watch.Seamless (w : Watch) (pieces : List Text) : Prop :=
  Neighbours w.Fits pieces

theorem reads_joinAfter {pieces : List Text} (hpieces : ∀ t ∈ pieces, Quiet w t)
    (hchain : (x :: pieces.filter (!·.isEmpty)).IsChain w.Fits)
    (hprevious : previous.head? = some '#' ↔ x.head? = some '#') (hbefore : before.EndOf x) :
    ∃ after, w.Reads before (joinAfter previous pieces) after := by
  induction pieces generalizing x previous before with
  | nil => exact ⟨before, reads_nil w before⟩
  | cons piece rest ih =>
    rw [List.forall_mem_cons] at hpieces
    rw [joinAfter]
    split
    · next hempty =>
      -- An empty piece takes no place: the rest is detached from what stands before it.
      rw [List.filter_cons_of_neg (by simp [hempty])] at hchain
      exact ih hpieces.2 hchain hprevious hbefore
    · next hshown =>
      rw [List.filter_cons_of_pos (by simpa using hshown), List.isChain_cons_cons] at hchain
      obtain ⟨hfits, hchain⟩ := hchain
      obtain ⟨_, hpiece⟩ := hpieces.1
      have hne : piece ≠ [] := by simpa using hshown
      obtain ⟨between, hend, hfirst⟩ := hfits.reads_detach hprevious hbefore hne hpiece
      obtain ⟨after, hrest⟩ := ih hpieces.2 hchain head?_detach hend
      exact ⟨after, hfirst.append hrest⟩

/-- At the beginning of a line there is nothing that a piece could go on with. -/
theorem fits_nil (w : Watch) (y : Text) : w.Fits [] y := by
  have hslash : ¬EndsSlash [] := by
    rintro ⟨before, q, h, -⟩
    exact List.append_ne_nil_of_right_ne_nil before (List.cons_ne_nil _ _) h.symm
  have hexpression : ¬EndsExpression [] := by
    rintro ⟨before, c, q, h, -⟩
    exact List.append_ne_nil_of_right_ne_nil before (List.cons_ne_nil _ _) h.symm
  have hdot : ¬EndsDot [] := by
    rintro ⟨before, h, -⟩
    exact List.append_ne_nil_of_right_ne_nil before (List.cons_ne_nil _ _) h.symm
  exact ⟨fun _ h => absurd h hslash, fun _ h => absurd h hexpression, fun _ h => absurd h hdot⟩

theorem quiet_join {pieces : List Text} (hpieces : ∀ t ∈ pieces, Quiet w t)
    (hseamless : w.Seamless pieces) : Quiet w (join pieces) := by
  have hchain : ([] :: pieces.filter (!·.isEmpty)).IsChain w.Fits :=
    List.isChain_cons.2 ⟨fun y _ => fits_nil w y, hseamless⟩
  exact reads_joinAfter hpieces hchain Iff.rfl trivial

end Bindery.Typst
