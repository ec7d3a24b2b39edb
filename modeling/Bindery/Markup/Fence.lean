import Bindery.Text.Basic

namespace Bindery.Markup

open Text

/-- Characters that a fence is made of. -/
def isFenceMark (c : Char) : Bool :=
  c == '\x60' || c == '~'

/-- The run of one fence mark at the beginning of a text: the mark, the length of the run and what
    follows it. -/
def markRun? : Text → Option (Char × Nat × Text)
  | [] => none
  | c :: s =>
    if isFenceMark c then some (c, (s.takeWhile (· == c)).length + 1, s.dropWhile (· == c))
    else none

/-- The line that opens a code block. -/
structure Fence where
  mark : Char
  length : Nat
  /-- The number of spaces and tabs before the run. -/
  indent : Nat
  /-- What follows the run, without blanks at its ends. -/
  info : Text
  deriving DecidableEq, Repr

namespace Fence

/-- The fence that a line opens a code block with. -/
def ofLine? (line : Text) : Option Fence :=
  match markRun? (line.dropWhile isGap) with
  | some (mark, length, info) =>
    if 3 ≤ length then some ⟨mark, length, (line.takeWhile isGap).length, trim info⟩ else none
  | none => none

/-- The label of the language: the information up to a blank, a comma or a brace. -/
def language (fence : Fence) : Text :=
  fence.info.takeWhile fun c => !(isBlank c || c == ',' || c == '\x7b')

/-- Whether a line closes the code block that the fence opens. -/
def closes (fence : Fence) (line : Text) : Bool :=
  match markRun? (line.dropWhile isGap) with
  | some (mark, length, rest) => mark == fence.mark && fence.length ≤ length && rest.all isGap
  | none => false

/-- A line without up to the given number of spaces at its beginning. -/
def dropSpaces : Nat → Text → Text
  | n + 1, ' ' :: s => dropSpaces n s
  | _, s => s

/-- The lines of code in a text that follows the fence, and what follows the closing line. -/
def body (fence : Fence) (s : Text) : List Text × Text :=
  match s with
  | [] => ([], [])
  | c :: t =>
    if fence.closes (line (c :: t)) then ([], afterLine (c :: t))
    else
      let (code, rest) := fence.body (afterLine (c :: t))
      (dropSpaces fence.indent (line (c :: t)) :: code, rest)
termination_by s.length
decreasing_by exact length_afterLine_lt (List.cons_ne_nil c t)

theorem length_body_le (fence : Fence) (s : Text) : (fence.body s).2.length ≤ s.length := by
  fun_induction Fence.body fence s with
  | case1 => simp
  | case2 c t => exact (afterLine_suffix _).length_le
  | case3 c t _ code rest heq ih =>
    rw [heq] at ih
    exact Nat.le_trans ih (Nat.le_of_lt (length_afterLine_lt (List.cons_ne_nil c t)))

/-- The code that the lines of a block make, without empty lines at its beginning and end. -/
def code (lines : List Text) : Text :=
  trimClass (· == '\n') (joinWith ['\n'] lines)

end Fence

/-- Whether the line is a run of exactly so many marks, with spaces and tabs around it. -/
def isBareFence (mark : Char) (length : Nat) (line : Text) : Bool :=
  trimClass isGap line == List.replicate length mark

/-- The number of characters to the end of the first line that is as wanted. -/
def throughLine? (wanted : Text → Bool) : List Text → Option Nat
  | [] => none
  | line :: rest =>
    if wanted line then some line.length
    else (throughLine? wanted rest).map (line.length + 1 + ·)

/-- The length of the fenced region at the start of a line, in which tags are not counted. It goes
    to the first later line that repeats the opening run, or to one that repeats a shorter run
    when no line repeats the whole of it. -/
def regionLength? (s : Text) : Option Nat :=
  match markRun? ((line s).dropWhile isGap), lines s with
  | some (mark, length, _), first :: later =>
    ((List.range (length - 2)).map (length - ·)).findSome? fun n =>
      (throughLine? (isBareFence mark n) later).map (first.length + 1 + ·)
  | _, _ => none

end Bindery.Markup
