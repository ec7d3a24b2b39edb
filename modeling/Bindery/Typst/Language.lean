import Bindery.Text.Casing

namespace Bindery.Typst

/-- The lexers that know the languages of code blocks. -/
class Lexers where
  /-- All names of the lexer that has the given one, its own name first. Names are in lower case. -/
  names? : Text → Option (List Text)

/-- What is asked of the lexers: no name of theirs ends a line or holds a backtick. -/
def Lexers.Plain (lexers : Lexers) : Prop :=
  ∀ label names, lexers.names? label = some names → ∀ name ∈ names, '\x60' ∉ name ∧ '\n' ∉ name

/-- The name of the language that a label stands for, in whatever case it is written. A label that
    no lexer has is a name itself. -/
def languageName [Lexers] (label : Text) : Text :=
  if label.isEmpty then []
  else
    match Lexers.names? (Text.toLower label) with
    | some (name :: _) => name
    | some [] => label
    | none => label

end Bindery.Typst
