import Bindery.Packages.Yaml.Character
import Bindery.Text.Integer

namespace Bindery.Yaml

/-- What becomes of the line ends at the end of a block. -/
inductive Chomping
  | clip
  | strip
  | keep
  deriving DecidableEq, Repr

/-- How the line that introduces a block describes it, and the text from the next line on. -/
structure BlockHeader where
  chomping : Chomping
  /-- The number of spaces of the block beyond its surroundings, if it is given. -/
  indent : Option Nat
  rest : Text

/-- A sign for the end of a block, and the rest. -/
def chompingSign (s : Text) : Option Chomping × Text :=
  match s with
  | '+' :: rest => (some .keep, rest)
  | '-' :: rest => (some .strip, rest)
  | _ => (none, s)

/-- A number of spaces, and the rest; zero is refused. -/
def indentSign? (s : Text) : Option (Option Nat × Text) :=
  match s with
  | c :: rest =>
    if c == '0' then none
    else if c.isDigit then some (some (c.toNat - 48), rest)
    else some (none, s)
  | [] => some (none, [])

/-- The text from the next line on, if there is nothing but blanks and a comment before it. -/
def afterHeaderLine? (s : Text) : Option Text :=
  if s.head? == some '#' then none
  else
    let rest := s.dropWhile (· == ' ')
    let rest := if rest.head? == some '#' then rest.dropWhile (!isLineEnd ·) else rest
    match rest with
    | [] => some []
    | c :: rest => if isLineEnd c then some rest else none

/-- The description that follows a bar or an angle bracket. -/
def blockHeader? (s : Text) : Option BlockHeader := do
  let (first, s) := chompingSign s
  let (indent, s) ← indentSign? s
  let (second, s) := if first.isSome then (none, s) else chompingSign s
  let rest ← afterHeaderLine? s
  return ⟨(first.or second).getD .clip, indent, rest⟩

/-- Empty lines before a line of a block: what they are read as, the column of what follows them
    and the rest. -/
structure Lead where
  breaks : Text
  column : Nat
  rest : Text

/-- The empty lines that a text begins with, and the indentation of the line after them as far as
    the given number of spaces. -/
def lead (indent column : Nat) : Text → Lead
  | [] => ⟨[], column, []⟩
  | c :: rest =>
    if c == ' ' && column < indent then lead indent (column + 1) rest
    else if isBreak c then
      let later := lead indent 0 rest
      { later with breaks := breakChar c :: later.breaks }
    else ⟨[], column, c :: rest⟩

theorem length_rest_lead_le (indent column : Nat) (s : Text) :
    (lead indent column s).rest.length ≤ s.length := by
  induction s generalizing column with
  | nil => simp [lead]
  | cons c rest ih =>
    rw [lead]
    split
    · exact Nat.le_succ_of_le (ih _)
    · split
      · exact Nat.le_succ_of_le (ih 0)
      · simp

/-- The greatest indentation of the empty lines at the beginning of a block and of the line after
    them; none if the first empty line has spaces and a later line has more of them. -/
def detectedIndent? (s : Text) : Option Nat :=
  widest none 0 0 s
where
  /-- The greatest indentation, from a column on, with the indentation of the first empty line. -/
  widest (first : Option Nat) (column most : Nat) : Text → Option Nat
  | [] => accepted first most
  | c :: rest =>
    if c == ' ' then widest first (column + 1) (max most (column + 1)) rest
    else if isBreak c then widest (first.or (some column)) 0 most rest
    else accepted first most
  /-- The indentation, unless the first empty line has fewer spaces. -/
  accepted (first : Option Nat) (most : Nat) : Option Nat :=
    match first with
    | some (n + 1) => if n + 1 < most then none else some most
    | _ => some most

/-- The lines of a block: their text, then the line end after the last one and the empty lines
    behind it, and the rest. -/
structure BlockLines where
  text : Text
  lastBreak : Text
  breaks : Text
  rest : Text

/-- The separator between two lines of a block, with the empty lines between them. Folding joins
    lines that do not begin with a blank. -/
def lineSeparator (fold : Bool) (breaks : Text) (first next : Char) : Text :=
  if fold && !Text.isGap first && !Text.isGap next then if breaks.isEmpty then [' '] else breaks
  else '\n' :: breaks

/-- The lines of a block from the beginning of the first one, behind its indentation. -/
def blockLines (fold : Bool) (indent : Nat) (outermost : Bool) : Text → BlockLines
  | [] => ⟨[], [], [], []⟩
  | c :: rest =>
    let line := (c :: rest).takeWhile (!isLineEnd ·)
    match _h : rest.dropWhile (!isLineEnd ·) with
    | [] => ⟨line, [], [], []⟩
    | _ :: after =>
      let next := lead indent 0 after
      match next.rest.head? with
      | none => ⟨line, ['\n'], next.breaks, []⟩
      | some d =>
        let ends := next.column != indent || (outermost && next.column == 0 && isMarker next.rest)
        if ends then ⟨line, ['\n'], next.breaks, next.rest⟩
        else
          let more := blockLines fold indent outermost next.rest
          { more with text := line ++ lineSeparator fold next.breaks c d ++ more.text }
termination_by s => s.length
decreasing_by
  have hdrop := (List.dropWhile_suffix (l := rest) (!isLineEnd ·)).length_le
  rw [_h, List.length_cons] at hdrop
  have := length_rest_lead_le indent 0 after
  simp only [List.length_cons]
  omega

/-- A block behind the bar or the angle bracket, in surroundings whose lines have at least the given
    number of spaces: its text and the rest. -/
def blockScalar? (fold : Bool) (least : Nat) (s : Text) : Option (Text × Text) := do
  let header ← blockHeader? s
  let indent ← match header.indent with
    | some count => pure (max least 1 + count - 1)
    | none => (detectedIndent? header.rest).map (max least ·)
  let start := lead indent 0 header.rest
  let block : BlockLines :=
    if start.column == indent && !start.rest.isEmpty then
      let lines := blockLines fold indent (least == 0) start.rest
      { lines with text := start.breaks ++ lines.text }
    else ⟨[], [], start.breaks, start.rest⟩
  let ending := match header.chomping with
    | .clip => block.lastBreak
    | .strip => []
    | .keep => block.lastBreak ++ block.breaks
  return (block.text ++ ending, block.rest)

end Bindery.Yaml
