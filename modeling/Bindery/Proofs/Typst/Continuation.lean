import Bindery.Proofs.Typst.Reader

namespace Bindery.Typst

namespace Reader

/-- The state at the beginning of the source. -/
def start : Reader :=
  ⟨[], .markup⟩

/-- Whether an unescaped character is read as markup here. Two backticks are raw text without any
    content. -/
def readsMarkup (q : Reader) : Bool :=
  q.phase == .markup || q.phase == .opening 2 || q.phase == .sign || q.phase == .name ||
    q.phase == .called

/-- Whether the character ends an expression of markup: the block or the argument list of a call
    that stands in no argument list itself. -/
def endsExpression (q : Reader) (c : Char) : Bool :=
  match q.stack with
  | .block :: outer => c == ']' && q.readsMarkup && outer.head? != some .list
  | .list :: outer => c == ')' && q.phase == .list && outer.head? != some .list
  | [] => false

end Reader

open Reader

/-- Somewhere in the source a comment is opened: an unescaped slash of markup has a second one or a
    star right after it. -/
def OpensComment (s : Text) : Prop :=
  ∃ before c rest q, s = before ++ '/' :: c :: rest ∧ (c = '/' ∨ c = '*') ∧
    start.run before = some q ∧ q.readsMarkup = true

/-- The text would go on with an expression right before it, as its argument list or as the name of
    a field. -/
def IsContinuation (s : Text) : Prop :=
  s.head? = some '(' ∨ ∃ c rest, s = '.' :: c :: rest ∧ isNameStart c = true

/-- Somewhere in the source an expression goes on behind the bracket or the parenthesis that ends
    it. -/
def ExtendsExpression (s : Text) : Prop :=
  ∃ before c rest q, s = before ++ c :: rest ∧ start.run before = some q ∧
    q.endsExpression c = true ∧ IsContinuation rest

/-- The text ends with an unescaped slash. -/
def EndsSlash (s : Text) : Prop :=
  ∃ before q, s = before ++ ['/'] ∧ start.run before = some q ∧ q.readsMarkup = true

/-- The text ends with an expression. -/
def EndsExpression (s : Text) : Prop :=
  ∃ before c q, s = before ++ [c] ∧ start.run before = some q ∧ q.endsExpression c = true

/-- The text ends with a dot that stands right after an expression, or may do so because there is
    nothing else before it. -/
def EndsDot (s : Text) : Prop :=
  ∃ before, s = before ++ ['.'] ∧ (before = [] ∨ EndsExpression before)

theorem EndsDot.getLast?_eq {s : Text} (h : EndsDot s) : s.getLast? = some '.' := by
  obtain ⟨before, rfl, -⟩ := h
  exact List.getLast?_concat

/-- What was read last, as far as the next character may go on with it. -/
inductive Tail
  | free
  | slash
  | expression
  /-- A dot right after an expression. -/
  | dot
  deriving DecidableEq, Repr

/-- The text ends as the given tail. -/
def Tail.EndOf : Tail → Text → Prop
  | .free, _ => True
  | .slash, s => EndsSlash s
  | .expression, s => EndsExpression s
  | .dot, s => EndsDot s

/-- Whether the character goes on with what was read last. -/
def Tail.continuedBy : Tail → Char → Bool
  | .free, _ => false
  | .slash, c => c == '/' || c == '*'
  | .expression, c => c == '('
  | .dot, c => isNameStart c

/-- What was read last after one more character. -/
def Tail.next (tail : Tail) (q : Reader) (c : Char) : Tail :=
  if q.endsExpression c then .expression
  else if !q.readsMarkup then .free
  else if c == '/' then .slash
  else if c == '.' && tail == .expression then .dot
  else .free

/-- What no character of the source may go on with. -/
abbrev Watch := Tail → Bool

namespace Watch

/-- The state and what was read last after one more character; none if it goes on with what is
    watched for. -/
def step (w : Watch) (x : Reader × Tail) (c : Char) : Option (Reader × Tail) :=
  if w x.2 && x.2.continuedBy c then none else (x.1.step c).map fun q => (q, x.2.next x.1 c)

/-- The state and what was read last after a text. -/
def run (w : Watch) (x : Reader × Tail) (s : Text) : Option (Reader × Tail) :=
  s.foldlM w.step x

variable {w : Watch} {q q' : Reader} {tail tail' : Tail} {s : Text} {c : Char}

theorem run_cons (x : Reader × Tail) (c : Char) (s : Text) :
    w.run x (c :: s) = (w.step x c).bind fun y => w.run y s := by
  rw [run, List.foldlM_cons]
  rfl

theorem run_cons_of {x y : Reader × Tail} (h : w.step x c = some y) (s : Text) :
    w.run x (c :: s) = w.run y s := by
  rw [run_cons, h, Option.bind_some]

theorem run_append (x : Reader × Tail) (s t : Text) :
    w.run x (s ++ t) = (w.run x s).bind fun y => w.run y t := by
  rw [run, List.foldlM_append]
  rfl

theorem run_append_of {x y : Reader × Tail} (h : w.run x s = some y) (t : Text) :
    w.run x (s ++ t) = w.run y t := by
  rw [run_append, h, Option.bind_some]

theorem step_of (hfree : w tail = true → tail.continuedBy c = false) (h : q.step c = some q') :
    w.step (q, tail) c = some (q', tail.next q c) := by
  have hgo : ¬(w tail && tail.continuedBy c) = true := by simpa using hfree
  rw [step, if_neg hgo, h]
  rfl

theorem exists_of_step {x : Reader × Tail} (h : w.step (q, tail) c = some x) :
    (w tail = true → tail.continuedBy c = false) ∧
      ∃ q', q.step c = some q' ∧ x = (q', tail.next q c) := by
  rw [step] at h
  split at h
  · cases h
  · next hgo =>
    obtain ⟨p, hp, rfl⟩ := Option.map_eq_some_iff.1 h
    exact ⟨by simpa using hgo, p, hp, rfl⟩

/-- What was read under a watch, character by character. -/
theorem exists_of_run_cons {x : Reader × Tail} (h : w.run (q, tail) (c :: s) = some x) :
    (w tail = true → tail.continuedBy c = false) ∧
      ∃ q', q.step c = some q' ∧ w.run (q', tail.next q c) s = some x := by
  rw [run_cons] at h
  obtain ⟨y, hstep, hrest⟩ := Option.bind_eq_some_iff.1 h
  obtain ⟨hfree, p, hp, rfl⟩ := exists_of_step hstep
  exact ⟨hfree, p, hp, hrest⟩

/-- The watch does not change what the reader does. -/
theorem reader_run (h : w.run (q, tail) s = some (q', tail')) : q.run s = some q' := by
  induction s generalizing q tail with
  | nil =>
    cases h
    rfl
  | cons c s ih =>
    obtain ⟨-, p, hp, hrest⟩ := exists_of_run_cons h
    rw [Reader.run_cons_of hp, ih hrest]

/-- What was read under a watch, from some place of it on. -/
theorem exists_of_run_append {t : Text} {x : Reader × Tail}
    (h : w.run (q, tail) (s ++ t) = some x) (hs : q.run s = some q') :
    ∃ between, w.run (q', between) t = some x := by
  rw [run_append] at h
  obtain ⟨⟨p, between⟩, hbefore, hafter⟩ := Option.bind_eq_some_iff.1 h
  have hp : p = q' := Option.some.inj ((reader_run hbefore).symm.trans hs)
  exact ⟨between, hp ▸ hafter⟩

theorem next_slash (tail : Tail) (hq : q.readsMarkup = true) : tail.next q '/' = .slash := by
  have hends : q.endsExpression '/' = false := by
    rw [endsExpression]
    split <;> rfl
  simp [Tail.next, hends, hq]

theorem next_expression (tail : Tail) (h : q.endsExpression c = true) :
    tail.next q c = .expression := by
  rw [Tail.next, if_pos h]

theorem readsMarkup_resume {stack : List Frame} (hstack : stack.head? ≠ some .list) {p : Phase}
    (hp : p = .markup ∨ p = .called) : (resume stack p).readsMarkup = true := by
  cases stack with
  | nil => rcases hp with rfl | rfl <;> rfl
  | cons f outer =>
    cases f with
    | list => exact absurd rfl hstack
    | block => rcases hp with rfl | rfl <;> rfl

/-- The place right after an expression is read as markup again. -/
theorem readsMarkup_of_endsExpression (h : q.endsExpression c = true) (hstep : q.step c = some q') :
    q'.readsMarkup = true := by
  obtain ⟨stack, phase⟩ := q
  cases stack with
  | nil => cases h
  | cons f outer =>
    cases f with
    | block =>
      simp only [endsExpression, Bool.and_eq_true, beq_iff_eq, bne_iff_ne, ne_eq] at h
      obtain ⟨⟨rfl, hmarkup⟩, houter⟩ := h
      have hclose : (⟨.block :: outer, phase⟩ : Reader).step ']' = some (resume outer .markup) := by
        simp only [readsMarkup, Bool.or_eq_true, beq_iff_eq] at hmarkup
        rcases hmarkup with (((rfl | rfl) | rfl) | rfl) | rfl <;> rfl
      cases hclose.symm.trans hstep
      exact readsMarkup_resume houter (.inl rfl)
    | list =>
      simp only [endsExpression, Bool.and_eq_true, beq_iff_eq, bne_iff_ne, ne_eq] at h
      obtain ⟨⟨rfl, rfl⟩, houter⟩ := h
      have hclose : (⟨.list :: outer, .list⟩ : Reader).step ')' = some (resume outer .called) := rfl
      cases hclose.symm.trans hstep
      exact readsMarkup_resume houter (.inr rfl)

theorem next_dot (hq : q.readsMarkup = true) : Tail.expression.next q '.' = .dot := by
  have hends : q.endsExpression '.' = false := by
    rw [endsExpression]
    split <;> rfl
  simp [Tail.next, hends, hq]

/-- Where slashes are watched for, no comment is opened. -/
theorem not_opensComment (hw : w .slash = true) {x : Reader × Tail}
    (h : w.run (start, .free) s = some x) : ¬OpensComment s := by
  rintro ⟨before, c, rest, q, rfl, hc, hbefore, hq⟩
  obtain ⟨tail, hrun⟩ := exists_of_run_append h hbefore
  obtain ⟨-, q₁, -, hrun⟩ := exists_of_run_cons hrun
  rw [next_slash tail hq] at hrun
  have hstop := (exists_of_run_cons hrun).1 hw
  rcases hc with rfl | rfl <;> exact absurd hstop (by decide)

/-- Where expressions and the dots after them are watched for, no expression goes on. -/
theorem not_extendsExpression (hexpression : w .expression = true) (hdot : w .dot = true)
    {x : Reader × Tail} (h : w.run (start, .free) s = some x) : ¬ExtendsExpression s := by
  rintro ⟨before, c, rest, q, rfl, hbefore, hends, hrest⟩
  obtain ⟨tail, hrun⟩ := exists_of_run_append h hbefore
  obtain ⟨-, q₁, hstep, hrun⟩ := exists_of_run_cons hrun
  rw [next_expression tail hends] at hrun
  rcases hrest with hhead | ⟨d, rest', rfl, hd⟩
  · obtain ⟨rest', rfl⟩ : ∃ rest', rest = '(' :: rest' := List.head?_eq_some_iff.1 hhead
    exact absurd ((exists_of_run_cons hrun).1 hexpression) (by decide)
  · obtain ⟨-, q₂, -, hrun⟩ := exists_of_run_cons hrun
    rw [next_dot (readsMarkup_of_endsExpression hends hstep)] at hrun
    have hstop : isNameStart d = false := (exists_of_run_cons hrun).1 hdot
    rw [hstop] at hd
    cases hd

theorem next_cases (tail : Tail) (q : Reader) (c : Char) :
    (tail.next q c = .expression ∧ q.endsExpression c = true) ∨
      (tail.next q c = .slash ∧ c = '/' ∧ q.readsMarkup = true) ∨
      (tail.next q c = .dot ∧ c = '.' ∧ tail = .expression) ∨ tail.next q c = .free := by
  rw [Tail.next]
  split
  · next hends => exact .inl ⟨rfl, hends⟩
  split
  · exact .inr (.inr (.inr rfl))
  next hmarkup =>
  have hmarkup : q.readsMarkup = true := by simpa using hmarkup
  split
  · next hslash => exact .inr (.inl ⟨rfl, eq_of_beq hslash, hmarkup⟩)
  split
  · next hdot =>
    rw [Bool.and_eq_true] at hdot
    exact .inr (.inr (.inl ⟨rfl, eq_of_beq hdot.1, eq_of_beq hdot.2⟩))
  · exact .inr (.inr (.inr rfl))

theorem exists_of_run_concat {x : Reader × Tail} (h : w.run x (s ++ [c]) = some (q', tail')) :
    ∃ q tail, w.run x s = some (q, tail) ∧ tail.next q c = tail' := by
  rw [run_append] at h
  obtain ⟨⟨q, tail⟩, hbefore, h⟩ := Option.bind_eq_some_iff.1 h
  obtain ⟨-, p, -, h⟩ := exists_of_run_cons h
  exact ⟨q, tail, hbefore, congrArg Prod.snd (Option.some.inj h)⟩

theorem endsExpression_of_run (h : w.run (start, .free) s = some (q', .expression)) :
    EndsExpression s := by
  rcases List.eq_nil_or_concat s with rfl | ⟨before, c, rfl⟩
  · cases h
  rw [List.concat_eq_append] at h ⊢
  obtain ⟨q, tail, hbefore, hnext⟩ := exists_of_run_concat h
  rcases next_cases tail q c with ⟨-, hends⟩ | ⟨hother, -⟩ | ⟨hother, -⟩ | hother
  · exact ⟨before, c, q, rfl, reader_run hbefore, hends⟩
  all_goals cases hother.symm.trans hnext

/-- What was read last tells how the source ends. -/
theorem endOf_of_run (h : w.run (start, .free) s = some (q', tail)) : tail.EndOf s := by
  rcases List.eq_nil_or_concat s with rfl | ⟨before, c, rfl⟩
  · cases h
    trivial
  rw [List.concat_eq_append] at h ⊢
  obtain ⟨q, last, hbefore, rfl⟩ := exists_of_run_concat h
  rcases next_cases last q c with ⟨heq, hends⟩ | ⟨heq, rfl, hq⟩ | ⟨heq, rfl, rfl⟩ | heq <;> rw [heq]
  · exact ⟨before, c, q, rfl, reader_run hbefore, hends⟩
  · exact ⟨before, q, rfl, reader_run hbefore, hq⟩
  · exact ⟨before, rfl, .inr (endsExpression_of_run hbefore)⟩
  · trivial

end Watch

end Bindery.Typst
