import Bindery.Typst.Escape
import Bindery.Typst.Language

namespace Bindery.Typst

/-- A span of code. -/
def rawSpan (code : Text) : Text :=
  if code.contains '\x60' then "#raw(".toList ++ literal code ++ [')']
  else '\x60' :: code ++ ['\x60']

/-- The length of the longest run of backticks, when a run of `run` of them stands before the
    text. -/
def longestRunAfter (run : Nat) : Text → Nat
  | [] => run
  | c :: rest =>
    if c == '\x60' then longestRunAfter (run + 1) rest else max run (longestRunAfter 0 rest)

/-- The fence of a block with the given code. -/
def fence (code : Text) : Text :=
  List.replicate (max 3 (longestRunAfter 0 code + 1)) '\x60'

/-- A block of code in a language. -/
def rawBlock [Lexers] (label code : Text) : Text :=
  let fence := fence code
  fence ++ languageName label ++ '\n' :: code ++ '\n' :: fence

end Bindery.Typst
