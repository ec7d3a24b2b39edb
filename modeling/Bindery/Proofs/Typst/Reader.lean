import Bindery.Text.Basic

namespace Bindery.Typst

/-- What is open around a place of the source: a block of markup in square brackets, or an
    argument list or a parenthesis within one. -/
inductive Frame
  | block
  | list
  deriving DecidableEq, Repr

/-- What the next character is read as. -/
inductive Phase
  | markup
  /-- The character after a backslash of markup. -/
  | escaped
  /-- What follows so many backticks, which open raw text unless there are more of them. -/
  | opening (ticks : Nat)
  /-- Raw text that the given number of backticks closes, after a run of backticks in it. -/
  | raw (ticks run : Nat)
  /-- What follows a number sign. -/
  | sign
  /-- What follows a name after a number sign: more of it, its arguments or its block. -/
  | name
  /-- What follows an argument list: the block that belongs to it, or markup. -/
  | called
  | list
  | string
  /-- The character after a backslash of a string. -/
  | stringEscape
  deriving DecidableEq, Repr

/-- The state of the reader: what is open, innermost first, and what comes next. -/
structure Reader where
  stack : List Frame
  phase : Phase
  deriving DecidableEq, Repr

namespace Reader

/-- Characters with which a name begins. -/
def isNameStart (c : Char) : Bool :=
  c.isAlpha || c == '_'

/-- Characters with which a name goes on. -/
def isNameChar (c : Char) : Bool :=
  c.isAlphanum || c == '_' || c == '-'

/-- The state after something has been closed: in the argument list that it stands in, or else in
    the given phase of markup. -/
def resume (stack : List Frame) (phase : Phase) : Reader :=
  match stack with
  | .list :: _ => ⟨stack, .list⟩
  | _ => ⟨stack, phase⟩

/-- The state after the end of what stands on top of the stack, if that is as given. -/
def close (frame : Frame) (phase : Phase) : List Frame → Option Reader
  | [] => none
  | f :: outer => if f == frame then some (resume outer phase) else none

/-- The state after a character of markup; none at a bracket that closes no block. -/
def inMarkup (stack : List Frame) (c : Char) : Option Reader :=
  if c == '\\' then some ⟨stack, .escaped⟩
  else if c == '\x60' then some ⟨stack, .opening 1⟩
  else if c == '#' then some ⟨stack, .sign⟩
  else if c == ']' then close .block .markup stack
  else some ⟨stack, .markup⟩

/-- The state after a character of an argument list. -/
def inList (stack : List Frame) (c : Char) : Option Reader :=
  if c == '\x22' then some ⟨stack, .string⟩
  else if c == '(' then some ⟨.list :: stack, .list⟩
  else if c == '[' then some ⟨.block :: stack, .markup⟩
  else if c == ')' then close .list .called stack
  else if c == ']' then none
  else some ⟨stack, .list⟩

/-- The state after one more character. -/
def step (q : Reader) (c : Char) : Option Reader :=
  match q.phase with
  | .markup => inMarkup q.stack c
  | .escaped => some ⟨q.stack, .markup⟩
  | .opening ticks =>
    if c == '\x60' then some ⟨q.stack, .opening (ticks + 1)⟩
    else if ticks == 2 then inMarkup q.stack c
    else some ⟨q.stack, .raw ticks 0⟩
  | .raw ticks run =>
    if c != '\x60' then some ⟨q.stack, .raw ticks 0⟩
    else if run + 1 == ticks then some ⟨q.stack, .markup⟩
    else some ⟨q.stack, .raw ticks (run + 1)⟩
  | .sign => if isNameStart c then some ⟨q.stack, .name⟩ else inMarkup q.stack c
  | .name =>
    if isNameChar c then some q
    else if c == '(' then some ⟨.list :: q.stack, .list⟩
    else if c == '[' then some ⟨.block :: q.stack, .markup⟩
    else inMarkup q.stack c
  | .called => if c == '[' then some ⟨.block :: q.stack, .markup⟩ else inMarkup q.stack c
  | .list => inList q.stack c
  | .string =>
    if c == '\\' then some ⟨q.stack, .stringEscape⟩
    else if c == '\x22' then some ⟨q.stack, .list⟩
    else some q
  | .stringEscape => some ⟨q.stack, .string⟩

/-- The state after a text. -/
def run (q : Reader) (s : Text) : Option Reader :=
  s.foldlM step q

/-- Whether the source may end here: nothing is open, and no backslash waits for its character.
    Two backticks are raw text without any content. -/
def isDone (q : Reader) : Bool :=
  q.stack.isEmpty &&
    (q.phase == .markup || q.phase == .opening 2 || q.phase == .sign || q.phase == .name ||
      q.phase == .called)

theorem run_cons (q : Reader) (c : Char) (s : Text) :
    q.run (c :: s) = (q.step c).bind fun q' => q'.run s := by
  rw [run, List.foldlM_cons]
  rfl

theorem run_cons_of {q q' : Reader} {c : Char} (h : q.step c = some q') (s : Text) :
    q.run (c :: s) = q'.run s := by
  rw [run_cons, h, Option.bind_some]

end Reader

/-- Read from its beginning, the text ends with nothing open, and no closing bracket of it stands
    outside a block. -/
def WellNested (s : Text) : Prop :=
  ∃ q, (⟨[], .markup⟩ : Reader).run s = some q ∧ q.isDone = true

instance (s : Text) : Decidable (WellNested s) :=
  decidable_of_iff (((⟨[], .markup⟩ : Reader).run s).any Reader.isDone = true) (by
    rw [WellNested, Option.any_eq_true])

example : WellNested "#card(title: \"]\")[\x60]\x60]".toList ∧
    ¬WellNested "#strong[a]]".toList := by
  decide

end Bindery.Typst
