import Bindery.Markup.Inline
import Bindery.Text.Indent

namespace Bindery.Markup

open Text

/-- A heading without the number signs that may close it. They count as such after a blank. -/
def dropClosingMarks (s : Text) : Text :=
  let s := dropEndWhile isGap s
  let unmarked := dropEndWhile (· == '#') s
  if unmarked.length < s.length && unmarked.getLast?.any isGap then dropEndWhile isGap unmarked
  else s

/-- The level and the text of a heading. A heading of blanks alone has the last of them as its
    text, unless there is only one. -/
def heading? (line : Text) : Option (Nat × Text) :=
  let level := (line.takeWhile (· == '#')).length
  let after := line.dropWhile (· == '#')
  let gap := after.takeWhile isGap
  let text := after.dropWhile isGap
  if 1 ≤ level && level ≤ 4 && !gap.isEmpty then
    if !text.isEmpty then some (level, dropClosingMarks text)
    else if 2 ≤ gap.length then some (level, gap.drop (gap.length - 1))
    else none
  else none

/-- Whether the line is a rule: three or more of one mark with nothing but spaces and tabs
    between them, at most three of which may come first. -/
def isRule (line : Text) : Bool :=
  (line.takeWhile isGap).length ≤ 3 &&
    match line.dropWhile isGap with
    | c :: rest =>
      (c == '-' || c == '*' || c == '_') && rest.all (fun d => d == c || isGap d) &&
        2 ≤ rest.count c
    | [] => false

/-- Whether a list marker is that of a numbered list, and what follows the marker. -/
def listMarker? : Text → Option (Bool × Text)
  | [] => none
  | c :: s =>
    if c == '-' || c == '*' || c == '+' then some (false, s)
    else if isDigit c then
      match s.dropWhile isDigit with
      | d :: rest => if d == '.' || d == ')' then some (true, rest) else none
      | [] => none
    else none

/-- The indentation, the kind and the text of an entry of a list. -/
def listItem? (line : Text) : Option (Nat × Bool × Text) :=
  match listMarker? (line.dropWhile isGap) with
  | some (ordered, after) =>
    let text := after.dropWhile isGap
    if text.length < after.length && text.head?.any (!isBlank ·) then
      some (indentWidth (line.takeWhile isGap), ordered, trimEnd text)
    else none
  | none => none

/-- Whether the character is a quotation mark of a statement. -/
def isQuote (c : Char) : Bool :=
  c == '\x27' || c == '\x22'

/-- What follows the given word and at least one blank. -/
def afterWordAndBlank? (word : Text) (s : Text) : Option Text :=
  match afterStart? word s with
  | some rest => if rest.head?.any isBlank then some (rest.dropWhile isBlank) else none
  | none => none

/-- What stands before the quoted name at the end of a statement. -/
def beforeQuotedEnd? (s : Text) : Option Text :=
  let s := trimEnd s
  let s := if s.getLast? == some ';' then s.dropLast else s
  if s.getLast?.any isQuote then
    let quoted := s.dropLast
    let before := dropEndWhile (!isQuote ·) quoted
    if before.length < quoted.length && !before.isEmpty then some before.dropLast else none
  else none

/-- Whether the text is what an import has before the name it imports from: the word alone, or
    the word, what is imported, and the word `from`, with blanks between them. -/
def isImportStart (s : Text) : Bool :=
  match afterStart? "import".toList s with
  | some rest =>
    rest.getLast?.any isBlank &&
      (allBlank rest ||
        let words := trimEnd rest
        let imported := words.take (words.length - 4)
        words.drop (words.length - 4) == "from".toList && 3 ≤ imported.length &&
          imported.head?.any isBlank && imported.getLast?.any isBlank)
  | none => false

/-- The words after which an export is a statement. -/
def exportedKinds : List Text :=
  ["const".toList, "let".toList, "var".toList, "function".toList, "default".toList]

/-- Whether the line is a statement of a module. -/
def isStatement (line : Text) : Bool :=
  (beforeQuotedEnd? line).any isImportStart ||
    (afterWordAndBlank? "export".toList line).any fun rest =>
      exportedKinds.any fun word =>
        match afterStart? word rest with
        | some after => !after.head?.any isWord
        | none => false

/-- The node of a line that belongs to no larger block; none for a statement. -/
def lineNode? (line : Text) : Option Node :=
  if isStatement line then none
  else
    match heading? line with
    | some (level, text) => some (.heading level (parseInline text))
    | none =>
      if isRule line then some .rule
      else
        match listItem? line with
        | some (indent, ordered, text) => some (.listItem indent ordered (parseInline text))
        | none => some (.paragraph (parseInline (trimEnd line)))

end Bindery.Markup
