import Bindery.Text.Basic
import Bindery.Text.Table.Case

namespace Bindery.Text

/-- Whether the next character that is not passed over is a cased one. -/
def meetsCased (s : Text) : Bool :=
  match s.dropWhile (inRanges caseIgnorableRanges) with
  | c :: _ => inRanges casedRanges c
  | [] => false

/-- The lower case of one character between the text before it, last character first, and the
    text after it. -/
def lowerChar (before : Text) (c : Char) (after : Text) : Text :=
  if c.toNat < 128 then [c.toLower]
  else if c == 'Σ' then
    if meetsCased before && !meetsCased after then ['ς'] else ['σ']
  else if c == 'İ' then ['i', '\u0307']
  else [mapCase lowerRanges c]

/-- The lower case of a text that follows the given one, which is held last character first. -/
def lowerAfter (before : Text) : Text → Text
  | [] => []
  | c :: rest => lowerChar before c rest ++ lowerAfter (c :: before) rest

/-- The text in lower case. -/
def toLower (s : Text) : Text :=
  lowerAfter [] s

/-- The title case of one character, which for a ligature is several characters. -/
def titleChar (c : Char) : Text :=
  if c.toNat < 128 then [c.toUpper]
  else
    match titleSequences.lookup c.toNat with
    | some codes => codes.map Char.ofNat
    | none => [mapCase titleRanges c]

/-- The first character in title case and the rest in lower case. -/
def capitalize : Text → Text
  | [] => []
  | c :: rest => titleChar c ++ lowerAfter [c] rest

end Bindery.Text
