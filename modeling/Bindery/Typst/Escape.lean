import Bindery.Text.Basic

namespace Bindery.Typst

/-- Characters that mean something to Typst wherever they stand in prose. -/
def isSpecial (c : Char) : Bool :=
  c == '\\' || c == '#' || c == '@' || c == '$' || c == '*' || c == '_' || c == '\x60' ||
    c == '<' || c == '~' || c == '[' || c == ']'

/-- Prose as Typst markup. A slash is only special before a slash or a star, with which it would
    open a comment. -/
def escape : Text → Text
  | [] => []
  | '/' :: '/' :: rest => '\\' :: '/' :: '\\' :: '/' :: escape rest
  | '/' :: '*' :: rest => '\\' :: '/' :: '\\' :: '*' :: escape rest
  | c :: rest => if isSpecial c then '\\' :: c :: escape rest else c :: escape rest

/-- One character inside a string literal. -/
def literalChar (c : Char) : Text :=
  if c == '\n' then [' ']
  else if c == '\\' then ['\\', '\\']
  else if c == '\x22' then ['\\', '\x22']
  else [c]

/-- The text as a string literal; a newline becomes a space. -/
def literal (s : Text) : Text :=
  '\x22' :: s.flatMap literalChar ++ ['\x22']

end Bindery.Typst
