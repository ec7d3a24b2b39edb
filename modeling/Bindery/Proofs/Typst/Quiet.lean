import Bindery.Proofs.Typst.Continuation
import Bindery.Proofs.Typst.Escape

namespace Bindery.Typst

open Reader

/-- The phases in which a piece of markup begins and ends. -/
def Phase.isCalm (p : Phase) : Bool :=
  p == .markup || p == .called

variable {w : Watch} {before after : Tail} {s t : Text} {c : Char}

theorem resume_of_markup {stack : List Frame} (htop : stack.head? ≠ some .list) (p : Phase) :
    resume stack p = ⟨stack, p⟩ := by
  cases stack with
  | nil => rfl
  | cons f stack => cases f <;> simp_all [resume]

/-- The state with more open around it. -/
def Reader.within (q : Reader) (outer : List Frame) : Reader :=
  ⟨q.stack ++ outer, q.phase⟩

/-- The second outcome is the first one with more open around it, if there is a first one. -/
def Framed (outer : List Frame) (x y : Option Reader) : Prop :=
  ∀ q, x = some q → y = some (q.within outer)

section Framed

variable {outer : List Frame}

theorem framed_some (stack : List Frame) (p : Phase) :
    Framed outer (some ⟨stack, p⟩) (some ⟨stack ++ outer, p⟩) := by
  intro q h
  cases h
  rfl

theorem framed_none (y : Option Reader) : Framed outer none y :=
  fun _ h => nomatch h

theorem Framed.ite {x x' y y' : Option Reader} (h : Framed outer x y) (h' : Framed outer x' y')
    (b : Bool) : Framed outer (if b then x else x') (if b then y else y') := by
  cases b with
  | true => exact h
  | false => exact h'

variable (houter : outer.head? ≠ some .list)

include houter

theorem framed_close (f : Frame) (p : Phase) (stack : List Frame) :
    Framed outer (close f p stack) (close f p (stack ++ outer)) := by
  cases stack with
  | nil => exact framed_none _
  | cons g stack =>
    refine Framed.ite ?_ (framed_none _) _
    cases stack with
    | nil =>
      change Framed outer (some ⟨[], p⟩) (some (resume outer p))
      rw [resume_of_markup houter]
      exact framed_some [] p
    | cons f stack => cases f <;> exact framed_some _ _

theorem framed_inMarkup (stack : List Frame) (c : Char) :
    Framed outer (inMarkup stack c) (inMarkup (stack ++ outer) c) :=
  .ite (framed_some _ _) (.ite (framed_some _ _) (.ite (framed_some _ _)
    (.ite (framed_close houter _ _ _) (framed_some _ _) _) _) _) _

theorem framed_inList (stack : List Frame) (c : Char) :
    Framed outer (inList stack c) (inList (stack ++ outer) c) :=
  .ite (framed_some _ _) (.ite (framed_some (.list :: stack) _)
    (.ite (framed_some (.block :: stack) _) (.ite (framed_close houter _ _ _)
      (.ite (framed_none _) (framed_some _ _) _) _) _) _) _

/-- What is open around a place makes no difference to the reader. -/
theorem framed_step (q : Reader) (c : Char) :
    Framed outer (q.step c) ((q.within outer).step c) := by
  obtain ⟨stack, phase⟩ := q
  have hmarkup := framed_inMarkup houter stack c
  cases phase with
  | markup => exact hmarkup
  | escaped => exact framed_some _ _
  | opening ticks => exact .ite (framed_some _ _) (.ite hmarkup (framed_some _ _) _) _
  | raw ticks run => exact .ite (framed_some _ _) (.ite (framed_some _ _) (framed_some _ _) _) _
  | sign => exact .ite (framed_some _ _) hmarkup _
  | name =>
    exact .ite (framed_some _ _) (.ite (framed_some (.list :: stack) _)
      (.ite (framed_some (.block :: stack) _) hmarkup _) _) _
  | called => exact .ite (framed_some (.block :: stack) _) hmarkup _
  | list => exact framed_inList houter stack c
  | string => exact .ite (framed_some _ _) (.ite (framed_some _ _) (framed_some _ _) _) _
  | stringEscape => exact framed_some _ _

theorem endsExpression_within {q q' : Reader} {c : Char} (h : q.step c = some q') :
    (q.within outer).endsExpression c = q.endsExpression c := by
  obtain ⟨stack, phase⟩ := q
  cases stack with
  | nil =>
    -- A bracket that closes what is open around the place cannot be read at the place alone.
    cases outer with
    | nil => rfl
    | cons f outer =>
      cases f with
      | list => exact absurd rfl houter
      | block =>
        have hmarkup : ¬(c = ']' ∧ (⟨[], phase⟩ : Reader).readsMarkup = true) := by
          rintro ⟨rfl, hmarkup⟩
          simp only [readsMarkup, Bool.or_eq_true, beq_iff_eq] at hmarkup
          rcases hmarkup with (((rfl | rfl) | rfl) | rfl) | rfl <;> cases h
        have hread : (c == ']' && (⟨[], phase⟩ : Reader).readsMarkup) = false := by
          simpa using hmarkup
        change (c == ']' && (⟨[], phase⟩ : Reader).readsMarkup && outer.head? != some .list) = false
        rw [hread, Bool.false_and]
  | cons f stack =>
    have htop : ((stack ++ outer).head? != some .list) = (stack.head? != some .list) := by
      cases stack with
      | nil => exact bne_iff_ne.2 houter
      | cons g stack => rfl
    cases f with
    | block => exact congrArg (c == ']' && (⟨[], phase⟩ : Reader).readsMarkup && ·) htop
    | list => exact congrArg (c == ')' && phase == .list && ·) htop

end Framed

namespace Watch

/-- What is open around a text makes no difference to a watch either. -/
theorem run_within {outer : List Frame} (houter : outer.head? ≠ some .list) {q q' : Reader}
    (h : w.run (q, before) s = some (q', after)) :
    w.run (q.within outer, before) s = some (q'.within outer, after) := by
  induction s generalizing q before with
  | nil =>
    cases h
    rfl
  | cons c s ih =>
    obtain ⟨hfree, p, hp, hrest⟩ := exists_of_run_cons h
    have hnext : before.next (q.within outer) c = before.next q c := by
      rw [Tail.next, endsExpression_within houter hp]
      rfl
    rw [run_cons_of (step_of hfree (framed_step houter q c p hp)), hnext]
    exact ih hrest

/-- Read under the watch from any place of markup, the text leaves open what is open before it, and
    nothing else. The tails are what is read last before the text and with it. -/
def Reads (w : Watch) (before : Tail) (s : Text) (after : Tail) : Prop :=
  ∀ p, p.isCalm = true →
    ∃ p', p'.isCalm = true ∧ w.run (⟨[], p⟩, before) s = some (⟨[], p'⟩, after)

theorem Reads.run_within (h : w.Reads before s after) {stack : List Frame}
    (htop : stack.head? ≠ some .list) {p : Phase} (hp : p.isCalm = true) :
    ∃ p', p'.isCalm = true ∧ w.run (⟨stack, p⟩, before) s = some (⟨stack, p'⟩, after) := by
  obtain ⟨p', hp', hrun⟩ := h p hp
  exact ⟨p', hp', Watch.run_within htop hrun⟩

theorem reads_nil (w : Watch) (tail : Tail) : w.Reads tail [] tail :=
  fun p hp => ⟨p, hp, rfl⟩

theorem Reads.append {between : Tail} (hs : w.Reads before s between)
    (ht : w.Reads between t after) : w.Reads before (s ++ t) after := by
  intro p hp
  obtain ⟨p₁, hp₁, hrun₁⟩ := hs p hp
  obtain ⟨p₂, hp₂, hrun₂⟩ := ht p₁ hp₁
  exact ⟨p₂, hp₂, by rw [run_append_of hrun₁, hrun₂]⟩

end Watch

open Watch

/-- Nothing in the text goes on with what is watched for, if it stands after nothing that it could
    go on with itself. -/
def Quiet (w : Watch) (s : Text) : Prop :=
  ∃ after, w.Reads .free s after

/-- Read under the watch within an argument list, the text leaves the list open, and nothing
    else. -/
def QuietList (w : Watch) (s : Text) : Prop :=
  ∀ stack, w.run (⟨.list :: stack, .list⟩, .free) s = some (⟨.list :: stack, .list⟩, .free)

theorem Quiet.exists_run (h : Quiet w s) : ∃ x, w.run (start, .free) s = some x := by
  obtain ⟨after, hs⟩ := h
  obtain ⟨p, -, hrun⟩ := hs .markup rfl
  exact ⟨_, hrun⟩

/-- Characters that nothing goes on with, whatever they are read as. -/
def isInert (c : Char) : Bool :=
  !(c == ']' || c == ')' || c == '/' || c == '.')

theorem next_of_isInert (hc : isInert c = true) (tail : Tail) (q : Reader) :
    tail.next q c = .free := by
  simp only [isInert, Bool.not_eq_true', Bool.or_eq_false_iff] at hc
  obtain ⟨⟨⟨hclose, hparen⟩, hslash⟩, hdot⟩ := hc
  have hends : q.endsExpression c = false := by
    rw [endsExpression]
    split <;> simp [hclose, hparen]
  simp [Tail.next, hends, hslash, hdot]

/-- Neither does anything go on with a character that is not read as markup. -/
theorem next_of_unread {q : Reader} (hq : q.readsMarkup = false) (hlist : q.phase ≠ .list)
    (tail : Tail) (c : Char) : tail.next q c = .free := by
  have hends : q.endsExpression c = false := by
    rw [endsExpression]
    split <;> simp [hq, hlist]
  simp [Tail.next, hends, hq]

/-- Characters of markup that stand for themselves wherever they are. -/
def isPlain (c : Char) : Bool :=
  !(c == '\\' || c == '\x60' || c == '#' || c == '[' || c == ']')

/-- In a calm phase, only an opening bracket tells a place after an argument list from any other
    place of markup. -/
theorem step_calm {stack : List Frame} {p : Phase} {c : Char} (hp : p.isCalm = true)
    (hc : c ≠ '[') : (⟨stack, p⟩ : Reader).step c = inMarkup stack c := by
  cases p <;> simp_all [Phase.isCalm, Reader.step]

theorem step_plain {stack : List Frame} {p : Phase} {c : Char} (hp : p.isCalm = true)
    (hc : isPlain c = true) : (⟨stack, p⟩ : Reader).step c = some ⟨stack, .markup⟩ := by
  simp only [isPlain, Bool.not_eq_true', Bool.or_eq_false_iff, beq_eq_false_iff_ne] at hc
  obtain ⟨⟨⟨⟨hslash, htick⟩, hsign⟩, hopen⟩, hclose⟩ := hc
  rw [step_calm hp hopen, inMarkup]
  simp only [beq_iff_eq, hslash, htick, hsign, hclose, if_false]

theorem next_calm {p : Phase} (hp : p.isCalm = true) (tail : Tail) (c : Char) :
    tail.next ⟨[], p⟩ c = tail.next start c := by
  simp only [Phase.isCalm, Bool.or_eq_true, beq_iff_eq] at hp
  rcases hp with rfl | rfl <;> rfl

/-- One step after which nothing goes on. -/
theorem Watch.run_cons_of_free {q q' : Reader} (h : q.step c = some q')
    (hnext : Tail.free.next q c = .free) (s : Text) :
    w.run (q, .free) (c :: s) = w.run (q', .free) s := by
  rw [run_cons_of (step_of (fun _ => rfl) h), hnext]

/-- What the watch reads after nothing that could go on, it reads in the same way after anything
    that its first character does not go on with. A dot is the beginning of a field after an
    expression alone. -/
theorem Watch.run_of_free {q : Reader} {x : Reader × Tail} (h : w.run (q, .free) (c :: s) = some x)
    (hfree : w before = true → before.continuedBy c = false)
    (hdot : before = .expression → c ≠ '.') : w.run (q, before) (c :: s) = some x := by
  obtain ⟨-, q', hstep, hrest⟩ := exists_of_run_cons h
  have hnext : before.next q c = Tail.free.next q c := by
    simp only [Tail.next, Bool.and_eq_true, beq_iff_eq, reduceCtorEq, and_false, if_false]
    split
    · rfl
    split
    · rfl
    split
    · rfl
    · next hslash => exact if_neg fun h => hdot h.2 h.1
  rw [run_cons_of (step_of hfree hstep), hnext, hrest]

theorem Watch.Reads.cons (hc : isPlain c = true)
    (hfree : w before = true → before.continuedBy c = false)
    (hs : w.Reads (before.next start c) s after) : w.Reads before (c :: s) after := by
  intro p hp
  obtain ⟨p', hp', hrun⟩ := hs .markup rfl
  refine ⟨p', hp', ?_⟩
  rw [run_cons_of (step_of hfree (step_plain hp hc)), next_calm hp, hrun]

theorem Watch.Reads.of_free (hs : w.Reads .free (c :: s) after)
    (hfree : w before = true → before.continuedBy c = false)
    (hdot : before = .expression → c ≠ '.') : w.Reads before (c :: s) after := by
  intro p hp
  obtain ⟨p', hp', hrun⟩ := hs p hp
  exact ⟨p', hp', run_of_free hrun hfree hdot⟩

theorem quiet_nil (w : Watch) : Quiet w [] :=
  ⟨.free, reads_nil w .free⟩

theorem Quiet.cons_plain (hs : Quiet w s) (hc : isPlain c = true) (hslash : c ≠ '/') :
    Quiet w (c :: s) := by
  obtain ⟨after, hs⟩ := hs
  have hnext : Tail.free.next start c = .free := by
    simp [Tail.next, hslash, endsExpression, start]
  exact ⟨after, .cons hc (fun _ => rfl) (by rwa [hnext])⟩

theorem quiet_of_plain (w : Watch) (hs : s.all isPlain = true) (hslash : '/' ∉ s) : Quiet w s := by
  induction s with
  | nil => exact quiet_nil w
  | cons c s ih =>
    rw [List.all_cons, Bool.and_eq_true] at hs
    rw [List.mem_cons, not_or] at hslash
    exact (ih hs.2 hslash.2).cons_plain hs.1 (Ne.symm hslash.1)

/-- A slash that stands for itself. -/
theorem Quiet.cons_slash (hs : Quiet w s) (hhead : s.head? ≠ some '/' ∧ s.head? ≠ some '*') :
    Quiet w ('/' :: s) := by
  obtain ⟨after, hs⟩ := hs
  cases s with
  | nil => exact ⟨.slash, .cons rfl (fun _ => rfl) (reads_nil w .slash)⟩
  | cons c s =>
    have hc : Tail.slash.continuedBy c = false := by
      simpa [Tail.continuedBy] using hhead
    exact ⟨after, .cons rfl (fun _ => rfl) (hs.of_free (fun _ => hc) fun h => nomatch h)⟩

theorem not_continuedBy_backslash (tail : Tail) : tail.continuedBy '\\' = false := by
  cases tail <;> decide

/-- A backslash makes any character stand for itself. -/
theorem Watch.run_escaped {p : Phase} (hp : p.isCalm = true) (before : Tail) (c : Char) (s : Text) :
    w.run (⟨[], p⟩, before) ('\\' :: c :: s) = w.run (start, .free) s := by
  have hopen : (⟨[], p⟩ : Reader).step '\\' = some ⟨[], .escaped⟩ := step_calm hp (by decide)
  have hescaped : (⟨[], .escaped⟩ : Reader).step c = some start := rfl
  have hnext : Tail.free.next ⟨[], .escaped⟩ c = .free := next_of_unread rfl (by decide) _ _
  rw [run_cons_of (step_of (fun _ => not_continuedBy_backslash before) hopen),
    next_of_isInert (by decide), run_cons_of_free hescaped hnext]

theorem Watch.Reads.cons_escaped (hs : w.Reads .free s after) (before : Tail) (c : Char) :
    w.Reads before ('\\' :: c :: s) after := by
  intro p hp
  obtain ⟨p', hp', hrun⟩ := hs .markup rfl
  exact ⟨p', hp', (run_escaped hp before c s).trans hrun⟩

theorem Quiet.cons_escaped (hs : Quiet w s) (c : Char) : Quiet w ('\\' :: c :: s) := by
  obtain ⟨after, hs⟩ := hs
  exact ⟨after, hs.cons_escaped .free c⟩

theorem isPlain_of_not_special (hc : isSpecial c = false) : isPlain c = true := by
  simp only [isSpecial, Bool.or_eq_false_iff] at hc
  simp [isPlain, hc]

/-- A character of prose that is not escaped. -/
theorem Quiet.cons_prose (hs : Quiet w s) (hc : isSpecial c = false)
    (hslash : c = '/' → s.head? ≠ some '/' ∧ s.head? ≠ some '*') : Quiet w (c :: s) := by
  by_cases heq : c = '/'
  · subst heq
    exact hs.cons_slash (hslash rfl)
  · exact hs.cons_plain (isPlain_of_not_special hc) heq

/-- Prose stays prose: every character of it that could open or close something is escaped, and so
    are the slashes that would open a comment. -/
theorem quiet_escape (w : Watch) (s : Text) : Quiet w (escape s) := by
  refine escape_induction (P := fun _ t => Quiet w t) (quiet_nil w) ?_ ?_ s
  · intro c _ t _ ht
    exact ht.cons_escaped c
  · intro c _ t hc hslash ht
    exact ht.cons_prose hc hslash

/-- Characters of markup that go on with nothing, and that nothing goes on with. -/
def isSeparator (c : Char) : Bool :=
  isPlain c && isInert c && !(c == '*' || c == '(' || isNameStart c)

theorem not_continuedBy_separator (hc : isSeparator c = true) (tail : Tail) :
    tail.continuedBy c = false := by
  simp only [isSeparator, isInert, Bool.and_eq_true, Bool.not_eq_true', Bool.or_eq_false_iff] at hc
  cases tail <;> simp [Tail.continuedBy, hc]

theorem reads_separator (w : Watch) (hc : isSeparator c = true) (tail : Tail) :
    w.Reads tail [c] .free := by
  have hfree := not_continuedBy_separator hc tail
  rw [isSeparator, Bool.and_eq_true, Bool.and_eq_true] at hc
  have hnext := next_of_isInert hc.1.2 tail start
  exact .cons hc.1.1 (fun _ => hfree) (hnext ▸ reads_nil w .free)

theorem Quiet.append_cons (hs : Quiet w s) (hc : isSeparator c = true) (ht : Quiet w t) :
    Quiet w (s ++ c :: t) := by
  obtain ⟨between, hs⟩ := hs
  obtain ⟨after, ht⟩ := ht
  exact ⟨after, hs.append ((reads_separator w hc between).append ht)⟩

theorem Quiet.cons (hc : isSeparator c = true) (ht : Quiet w t) : Quiet w (c :: t) :=
  (quiet_nil w).append_cons hc ht

theorem Quiet.append_left (ht : Quiet w t) (h : s.all isSeparator = true) : Quiet w (s ++ t) := by
  induction s with
  | nil => exact ht
  | cons c s ih =>
    rw [List.all_cons, Bool.and_eq_true] at h
    exact .cons h.1 (ih h.2)

theorem Quiet.append_right (hs : Quiet w s) (h : t.all isSeparator = true) : Quiet w (s ++ t) := by
  cases t with
  | nil => rwa [List.append_nil]
  | cons c t =>
    rw [List.all_cons, Bool.and_eq_true] at h
    have ht : Quiet w (t ++ []) := (quiet_nil w).append_left h.2
    exact hs.append_cons h.1 (List.append_nil t ▸ ht)

/-- Two pieces of markup with a separator between them. -/
theorem Quiet.separated {separator : Text} (hs : Quiet w s)
    (hseparator : separator ≠ [] ∧ separator.all isSeparator = true) (ht : Quiet w t) :
    Quiet w (s ++ separator ++ t) := by
  obtain ⟨hne, h⟩ := hseparator
  obtain ⟨c, separator, rfl⟩ := List.exists_cons_of_ne_nil hne
  rw [List.all_cons, Bool.and_eq_true] at h
  rw [List.append_assoc]
  exact hs.append_cons h.1 (ht.append_left h.2)

/-- Characters of an argument list that open and close nothing. -/
def isArgument (c : Char) : Bool :=
  !(c == '\x22' || c == '(' || c == ')' || c == '[' || c == ']')

theorem quietList_nil (w : Watch) : QuietList w [] :=
  fun _ => rfl

theorem QuietList.append (hs : QuietList w s) (ht : QuietList w t) : QuietList w (s ++ t) := by
  intro stack
  rw [run_append_of (hs stack), ht stack]

theorem QuietList.flatten {parts : List Text} (h : ∀ s ∈ parts, QuietList w s) :
    QuietList w parts.flatten := by
  induction parts with
  | nil => exact quietList_nil w
  | cons s parts ih =>
    rw [List.flatten_cons]
    exact (h s List.mem_cons_self).append (ih fun t ht => h t (List.mem_cons_of_mem s ht))

/-- They leave the list as it is, and nothing goes on with them. -/
theorem step_argument (hc : isArgument c = true) (stack : List Frame) :
    (⟨.list :: stack, .list⟩ : Reader).step c = some ⟨.list :: stack, .list⟩ ∧
      Tail.free.next ⟨.list :: stack, .list⟩ c = .free := by
  simp only [isArgument, Bool.not_eq_true', Bool.or_eq_false_iff, beq_eq_false_iff_ne] at hc
  constructor
  · simp [Reader.step, inList, hc]
  · simp [Tail.next, endsExpression, readsMarkup, hc]

theorem quietList_of_arguments (w : Watch) (h : s.all isArgument = true) : QuietList w s := by
  induction s with
  | nil => exact quietList_nil w
  | cons c s ih =>
    intro stack
    rw [List.all_cons, Bool.and_eq_true] at h
    obtain ⟨hstep, hnext⟩ := step_argument h.1 stack
    rw [run_cons_of (step_of (fun _ => rfl) hstep), hnext, ih h.2]

/-- The characters between the quotes of a literal do not end its string. -/
theorem run_literalChar (w : Watch) (stack : List Frame) (c : Char) :
    w.run (⟨stack, .string⟩, .free) (literalChar c) = some (⟨stack, .string⟩, .free) := by
  have hstring (d : Char) : Tail.free.next ⟨stack, .string⟩ d = .free :=
    next_of_unread rfl (by simp) _ _
  have hescape (d : Char) : Tail.free.next ⟨stack, .stringEscape⟩ d = .free :=
    next_of_unread rfl (by simp) _ _
  rw [literalChar]
  split
  · rw [run_cons_of_free rfl (hstring _)]
    rfl
  split
  · rw [run_cons_of_free rfl (hstring _), run_cons_of_free rfl (hescape _)]
    rfl
  split
  · rw [run_cons_of_free rfl (hstring _), run_cons_of_free rfl (hescape _)]
    rfl
  · next hslash hquote =>
    have hstep : (⟨stack, .string⟩ : Reader).step c = some ⟨stack, .string⟩ := by
      simp_all [Reader.step]
    rw [run_cons_of_free hstep (hstring _)]
    rfl

theorem run_flatMap_literalChar (w : Watch) (stack : List Frame) (s : Text) :
    w.run (⟨stack, .string⟩, .free) (s.flatMap literalChar) = some (⟨stack, .string⟩, .free) := by
  induction s with
  | nil => rfl
  | cons c s ih => rw [List.flatMap_cons, run_append_of (run_literalChar w stack c), ih]

theorem quietList_literal (w : Watch) (s : Text) : QuietList w (literal s) := by
  intro stack
  have hopen : (⟨.list :: stack, .list⟩ : Reader).step '\x22' = some ⟨.list :: stack, .string⟩ :=
    rfl
  have hclose : (⟨.list :: stack, .string⟩ : Reader).step '\x22' = some ⟨.list :: stack, .list⟩ :=
    rfl
  rw [literal, List.cons_append, run_cons_of_free hopen (next_of_isInert (by decide) _ _),
    run_append_of (run_flatMap_literalChar w _ s),
    run_cons_of_free hclose (next_of_isInert (by decide) _ _)]
  rfl

/-- A parenthesis within the list. -/
theorem QuietList.parens (hs : QuietList w s) : QuietList w ('(' :: s ++ [')']) := by
  intro stack
  have hopen : (⟨.list :: stack, .list⟩ : Reader).step '(' =
      some ⟨.list :: .list :: stack, .list⟩ := rfl
  have hclose : (⟨.list :: .list :: stack, .list⟩ : Reader).step ')' =
      some ⟨.list :: stack, .list⟩ := rfl
  rw [List.cons_append, run_cons_of_free hopen (next_of_isInert (by decide) _ _),
    run_append_of (hs _), run_cons_of_free hclose rfl]
  rfl

/-- Nothing goes on at a bracket. -/
theorem not_continuedBy_bracket (hc : c = '[' ∨ c = ']') (tail : Tail) :
    tail.continuedBy c = false := by
  rcases hc with rfl | rfl <;> cases tail <;> decide

/-- A block of markup is closed by the bracket after it, whatever the block belongs to. -/
theorem Quiet.run_block (hs : Quiet w s) (stack : List Frame) {q : Reader}
    (hopen : q.step '[' = some ⟨.block :: stack, .markup⟩) (before : Tail) :
    w.run (q, before) ('[' :: s ++ [']']) =
      some (resume stack .markup, if stack.head? = some .list then .free else .expression) := by
  obtain ⟨after, hs⟩ := hs
  have htop : (Frame.block :: stack).head? ≠ some .list := by simp
  have hcalm : Phase.markup.isCalm = true := rfl
  obtain ⟨p, hp, hrun⟩ := hs.run_within htop hcalm
  have hclose : (⟨.block :: stack, p⟩ : Reader).step ']' = some (resume stack .markup) := by
    rw [step_calm hp (by decide)]
    rfl
  have hnext : after.next ⟨.block :: stack, p⟩ ']' =
      if stack.head? = some .list then .free else .expression := by
    simp only [Phase.isCalm, Bool.or_eq_true, beq_iff_eq] at hp
    by_cases htop : stack.head? = some .list
    · rcases hp with rfl | rfl <;> simp [Tail.next, endsExpression, htop]
    · rcases hp with rfl | rfl <;> simp [Tail.next, endsExpression, readsMarkup, htop]
  have hfirst := not_continuedBy_bracket (.inl rfl) before
  have hlast := not_continuedBy_bracket (.inr rfl) after
  rw [List.cons_append, run_cons_of (step_of (fun _ => hfirst) hopen),
    next_of_isInert (by decide), run_append_of hrun,
    run_cons_of (step_of (fun _ => hlast) hclose), hnext]
  rfl

/-- A block of markup within the list. -/
theorem Quiet.block (hs : Quiet w s) : QuietList w ('[' :: s ++ [']']) :=
  fun stack => hs.run_block (.list :: stack) rfl .free

/-- Whether the text is a name. -/
def isName : Text → Bool
  | [] => false
  | c :: s => isNameStart c && s.all isNameChar

theorem isInert_of_isNameChar (hc : isNameChar c = true) : isInert c = true := by
  rw [isInert, Bool.not_eq_true', ← Bool.not_eq_true]
  intro hother
  simp only [Bool.or_eq_true, beq_iff_eq] at hother
  rcases hother with ((rfl | rfl) | rfl) | rfl <;> exact absurd hc (by decide)

theorem isNameChar_of_isNameStart (hc : isNameStart c = true) : isNameChar c = true := by
  simp only [isNameStart, isNameChar, Char.isAlphanum, Bool.or_eq_true] at hc ⊢
  rcases hc with hletter | hline
  · exact .inl (.inl (.inl hletter))
  · exact .inl (.inr hline)

theorem not_continuedBy_sign (tail : Tail) : tail.continuedBy '#' = false := by
  cases tail <;> decide

theorem run_name {stack : List Frame} {p : Phase} {name : Text} (hp : p.isCalm = true)
    (hname : isName name = true) (before : Tail) :
    w.run (⟨stack, p⟩, before) ('#' :: name) = some (⟨stack, .name⟩, .free) := by
  have more (s : Text) (hs : s.all isNameChar = true) :
      w.run (⟨stack, .name⟩, .free) s = some (⟨stack, .name⟩, .free) := by
    induction s with
    | nil => rfl
    | cons c s ih =>
      rw [List.all_cons, Bool.and_eq_true] at hs
      have hstep : (⟨stack, .name⟩ : Reader).step c = some ⟨stack, .name⟩ := if_pos hs.1
      rw [run_cons_of_free hstep (next_of_isInert (isInert_of_isNameChar hs.1) _ _), ih hs.2]
  cases name with
  | nil => cases hname
  | cons c s =>
    rw [isName, Bool.and_eq_true] at hname
    have hsign : (⟨stack, p⟩ : Reader).step '#' = some ⟨stack, .sign⟩ := step_calm hp (by decide)
    have hstart : (⟨stack, .sign⟩ : Reader).step c = some ⟨stack, .name⟩ := if_pos hname.1
    have hinert := isInert_of_isNameChar (isNameChar_of_isNameStart hname.1)
    rw [run_cons_of (step_of (fun _ => not_continuedBy_sign before) hsign),
      next_of_isInert (by decide), run_cons_of_free hstart (next_of_isInert hinert _ _),
      more s hname.2]

/-- An argument list right after a name. -/
theorem QuietList.run_arguments (hs : QuietList w s) :
    w.run (⟨[], .name⟩, .free) ('(' :: s ++ [')']) = some (⟨[], .called⟩, .expression) := by
  have hopen : (⟨[], .name⟩ : Reader).step '(' = some ⟨[.list], .list⟩ := rfl
  have hclose : (⟨[.list], .list⟩ : Reader).step ')' = some ⟨[], .called⟩ := rfl
  rw [List.cons_append, run_cons_of_free hopen (next_of_isInert (by decide) _ _),
    run_append_of (hs []), run_cons_of (step_of (fun _ => rfl) hclose)]
  rfl

/-- A function of one block. -/
theorem Quiet.call (hs : Quiet w s) {name : Text} (hname : isName name = true) :
    Quiet w ('#' :: name ++ '[' :: s ++ [']']) := by
  refine ⟨.expression, fun p hp => ⟨.markup, rfl, ?_⟩⟩
  rw [List.append_assoc, run_append_of (run_name hp hname .free)]
  exact hs.run_block [] rfl .free

/-- A function of an argument list alone. -/
theorem QuietList.call (hs : QuietList w s) {name : Text} (hname : isName name = true) :
    Quiet w ('#' :: name ++ '(' :: s ++ [')']) := by
  refine ⟨.expression, fun p hp => ⟨.called, rfl, ?_⟩⟩
  rw [List.append_assoc, run_append_of (run_name hp hname .free)]
  exact hs.run_arguments

/-- A function of an argument list and a block. -/
theorem QuietList.callWith (hs : QuietList w s) {name : Text} (hname : isName name = true)
    (ht : Quiet w t) : Quiet w ('#' :: name ++ '(' :: s ++ ')' :: '[' :: t ++ [']']) := by
  refine ⟨.expression, fun p hp => ⟨.markup, rfl, ?_⟩⟩
  have hcall : ('#' :: name ++ '(' :: s ++ ')' :: '[' :: t ++ [']'] : Text) =
      ('#' :: name) ++ (('(' :: s ++ [')']) ++ ('[' :: t ++ [']'])) := by simp
  rw [hcall, run_append_of (run_name hp hname .free), run_append_of hs.run_arguments]
  exact ht.run_block [] rfl .expression

end Bindery.Typst
