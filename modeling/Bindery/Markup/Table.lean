import Bindery.Markup.Inline

namespace Bindery.Markup

open Text

/-- Whether a line is a row of a table. -/
def isTableRow (line : Text) : Bool :=
  let s := trimClass isGap line
  2 ≤ s.length && s.head? == some '|' && s.getLast? == some '|'

/-- Whether a cell of the separating line is dashes, with a colon at any end. -/
def isDashes (cell : Text) : Bool :=
  let s := trimClass isGap cell
  let s := if s.head? == some ':' then s.drop 1 else s
  let s := if s.getLast? == some ':' then s.dropLast else s
  !s.isEmpty && s.all (· == '-')

/-- Whether a line separates the header of a table from its rows. -/
def isSeparator (line : Text) : Bool :=
  match splitOn '|' (trimClass isGap line) with
  | first :: rest =>
    first.isEmpty && 2 ≤ rest.length && rest.getLast?.any List.isEmpty && rest.dropLast.all isDashes
  | [] => false

/-- The parts of a row between the bars. The flag says whether a backslash stands before the
    text. -/
def splitBars (escaped : Bool) : Text → List Text
  | [] => [[]]
  | c :: s =>
    if c == '|' && !escaped then [] :: splitBars false s
    else
      match splitBars (c == '\\') s with
      | [] => [[c]]
      | first :: others => (c :: first) :: others

/-- The text of a cell with its bars as they are meant. -/
def unescapeBars : Text → Text
  | [] => []
  | '\\' :: '|' :: s => '|' :: unescapeBars s
  | c :: s => c :: unescapeBars s

/-- The cells of a row. -/
def rowCells (line : Text) : List Text :=
  ((splitBars false (trim line)).drop 1).dropLast.map fun cell => unescapeBars (trim cell)

/-- The rows at the beginning of a text, and what follows them. -/
def tableRows (s : Text) : List (List Text) × Text :=
  match s with
  | [] => ([], [])
  | c :: t =>
    if isTableRow (line (c :: t)) then
      let (rows, rest) := tableRows (afterLine (c :: t))
      (rowCells (line (c :: t)) :: rows, rest)
    else ([], c :: t)
termination_by s.length
decreasing_by exact length_afterLine_lt (List.cons_ne_nil c t)

theorem length_tableRows_le (s : Text) : (tableRows s).2.length ≤ s.length := by
  fun_induction tableRows s with
  | case1 => simp
  | case2 c t _ rows rest heq ih =>
    rw [heq] at ih
    exact Nat.le_trans ih (Nat.le_of_lt (length_afterLine_lt (List.cons_ne_nil c t)))
  | case3 => exact Nat.le_refl _

/-- The table at the beginning of a text, and what follows it. -/
def table? (s : Text) : Option (Node × Text) :=
  let after := afterLine s
  if isTableRow (line s) && isSeparator (line after) then
    let (rows, rest) := tableRows (afterLine after)
    some (.table ((rowCells (line s)).map parseInline) (rows.map (·.map parseInline)), rest)
  else none

theorem length_of_table? {s rest : Text} {node : Node} (h : table? s = some (node, rest)) :
    rest.length < s.length := by
  simp only [table?] at h
  split at h
  · next hrow =>
    obtain ⟨-, rfl⟩ := Prod.mk.inj (Option.some.inj h)
    have hs : s ≠ [] := by
      rintro rfl
      simp [isTableRow, line, trimClass, dropEndWhile] at hrow
    have h₁ := length_tableRows_le (afterLine (afterLine s))
    have h₂ := (afterLine_suffix (afterLine s)).length_le
    have h₃ := length_afterLine_lt hs
    omega
  · simp at h

end Bindery.Markup
