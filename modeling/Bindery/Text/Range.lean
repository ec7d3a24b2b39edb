namespace Bindery.Text

/-- Every `stride`-th code point from `first` to `last`, both included. -/
structure CharRange where
  first : Nat
  last : Nat
  stride : Nat
  deriving DecidableEq, Repr

/-- Whether the code point is one of the range. -/
def CharRange.has (r : CharRange) (n : Nat) : Bool :=
  r.first ≤ n && n ≤ r.last && (n - r.first) % r.stride == 0

/-- Whether the character lies in one of the ranges. -/
def inRanges (table : List CharRange) (c : Char) : Bool :=
  table.any (·.has c.toNat)

/-- A range whose members are mapped to the code point `offset` away. -/
structure CaseRange where
  range : CharRange
  offset : Int
  deriving DecidableEq, Repr

/-- The character a table of case ranges maps to; one that no range holds stays as it is. -/
def mapCase (table : List CaseRange) (c : Char) : Char :=
  match table.find? (·.range.has c.toNat) with
  | some r => Char.ofNat (c.toNat + r.offset).toNat
  | none => c

end Bindery.Text
