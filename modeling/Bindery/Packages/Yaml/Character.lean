import Bindery.Text.Basic

namespace Bindery.Yaml

/-- Whether a text may hold the character. -/
def isAllowed (c : Char) : Bool :=
  let n := c.toNat
  n == 9 || n == 10 || n == 13 || (0x20 ≤ n && n ≤ 0x7E) || n == 0x85 || (0xA0 ≤ n && n ≤ 0xD7FF) ||
    (0xE000 ≤ n && n ≤ 0xFFFD) || 0x10000 ≤ n

/-- A line end of YAML 1.2. -/
def isLineEnd (c : Char) : Bool :=
  c == '\n' || c == '\x85'

/-- A line end of any version. -/
def isBreak (c : Char) : Bool :=
  isLineEnd c || c == '\u2028' || c == '\u2029'

/-- What a line end is read as: a newline, unless it is one of the old separators. -/
def breakChar (c : Char) : Char :=
  if isLineEnd c then '\n' else c

/-- Whether a word ends before the next character, or with the text. -/
def endsWord : Option Char → Bool
  | none => true
  | some c => c == ' ' || c == '\t' || isLineEnd c

/-- Whether a line ends before the next character, or with the text. -/
def endsLine : Option Char → Bool
  | none => true
  | some c => isLineEnd c

/-- Whether a character separates the parts of a list or a map between brackets. -/
def isFlowMark (c : Char) : Bool :=
  c == ',' || c == '[' || c == ']' || c == '\x7b' || c == '\x7d'

/-- Whether a text begins with three of the given characters as a word. -/
def isMarkerOf (mark : Char) : Text → Bool
  | a :: b :: c :: rest => a == mark && b == mark && c == mark && endsWord rest.head?
  | _ => false

/-- Whether a line begins or ends a document. -/
def isMarker (s : Text) : Bool :=
  isMarkerOf '-' s || isMarkerOf '.' s

end Bindery.Yaml
