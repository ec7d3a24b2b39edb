import Bindery.Pairs

namespace Bindery.Page

open Text

/-- What opens the front matter. -/
def matterStart : Text :=
  ['-', '-', '-', '\n']

/-- What closes the front matter. -/
def matterEnd : Text :=
  ['\n', '-', '-', '-']

/-- A value without the quotes around it. -/
def unquote : Text → Text
  | c :: d :: rest =>
    if (c == '\x22' || c == '\x27') && (d :: rest).getLast? == some c then (d :: rest).dropLast
    else c :: d :: rest
  | s => s

/-- The key and the value of a line. A line without a colon, or without a key, has none. -/
def pairOf? (line : Text) : Option (Text × Text) :=
  match cutAt? [':'] line with
  | some (key, value) =>
    if (trim key).isEmpty then none else some (trim key, unquote (trim value))
  | none => none

/-- The pairs that the lines of a block set. -/
def entries (block : Text) : Pairs :=
  Pairs.ofList ((lines block).filterMap pairOf?)

/-- The front matter and the body of a page. Without front matter all of the page is its body. -/
def splitMatter (content : Text) : Pairs × Text :=
  let content := dropReturns content
  match (afterStart? matterStart content).bind (cutAt? matterEnd) with
  | some (block, rest) => (entries block, (afterStart? ['\n'] rest).getD rest)
  | none => ([], content)

end Bindery.Page
