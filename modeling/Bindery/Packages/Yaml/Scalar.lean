import Bindery.Packages.Yaml.Character

namespace Bindery.Yaml

/-- Line ends with the spaces around them: what they are read as without the first, the rest with
    its column, and whether a line that separates documents follows. -/
structure Gap where
  breaks : Text
  column : Nat
  marker : Bool
  rest : Text

/-- The line ends and spaces that a text begins with, from the given column on. -/
def gap (column : Nat) : Text → Gap
  | [] => ⟨[], column, false, []⟩
  | c :: rest =>
    if column == 0 && isMarker (c :: rest) then ⟨[], column, true, c :: rest⟩
    else if c == ' ' then gap (column + 1) rest
    else if isBreak c then
      let later := gap 0 rest
      { later with breaks := breakChar c :: later.breaks }
    else ⟨[], column, false, c :: rest⟩

theorem length_rest_gap_le (column : Nat) (s : Text) : (gap column s).rest.length ≤ s.length := by
  induction s generalizing column with
  | nil => simp [gap]
  | cons c rest ih =>
    rw [gap]
    split
    · simp
    · split
      · exact Nat.le_succ_of_le (ih _)
      · split
        · exact Nat.le_succ_of_le (ih 0)
        · simp

/-- What a line end with further ones after it is read as. -/
def folded (first : Char) (breaks : Text) : Text :=
  if breakChar first != '\n' then breakChar first :: breaks
  else if breaks.isEmpty then [' '] else breaks

/-- Whether a word of a plain scalar ends before the character. -/
def endsPlain (inFlow : Bool) (c : Char) (next : Option Char) : Bool :=
  endsWord (some c) || (c == ':' && endsWord next) || (inFlow && isFlowMark c)

/-- The longest word that a plain scalar goes on with, and the rest. -/
def plainWord (inFlow : Bool) : Text → Text × Text
  | [] => ([], [])
  | c :: rest =>
    if endsPlain inFlow c rest.head? then ([], c :: rest)
    else
      let (word, left) := plainWord inFlow rest
      (c :: word, left)

theorem length_plainWord (inFlow : Bool) (s : Text) :
    (plainWord inFlow s).1.length + (plainWord inFlow s).2.length = s.length := by
  induction s with
  | nil => simp [plainWord]
  | cons c rest ih =>
    rw [plainWord]
    split
    · simp
    · simp only [List.length_cons]
      omega

/-- A scalar with the rest, and whether the rest begins on a later line. -/
structure Plain where
  text : Text
  rest : Text
  newLine : Bool

/-- A plain scalar. Outside of brackets a line that is indented less ends it. -/
def plain (inFlow : Bool) (indent : Int) (s : Text) : Plain :=
  match _hword : plainWord inFlow s with
  | ([], _) => ⟨[], s, false⟩
  | (c :: word, left) =>
    let spaces := left.takeWhile (· == ' ')
    match _hleft : left.dropWhile (· == ' ') with
    | [] => ⟨c :: word, [], false⟩
    | d :: after =>
      if isBreak d then
        let g := gap 0 after
        let ends := g.marker || g.rest.head? == some '#' || (!inFlow && (g.column : Int) < indent)
        if ends then ⟨c :: word, g.rest, true⟩
        else
          let more := plain inFlow indent g.rest
          if more.text.isEmpty then ⟨c :: word, g.rest, true⟩
          else { more with text := c :: word ++ folded d g.breaks ++ more.text }
      else if spaces.isEmpty || d == '#' then ⟨c :: word, d :: after, false⟩
      else
        let more := plain inFlow indent (d :: after)
        if more.text.isEmpty then ⟨c :: word, d :: after, false⟩
        else { more with text := c :: word ++ spaces ++ more.text }
termination_by s.length
decreasing_by
  all_goals
    have hlength := length_plainWord inFlow s
    have hdrop := (List.dropWhile_suffix (l := left) (· == ' ')).length_le
    rw [_hword] at hlength
    rw [_hleft] at hdrop
    simp only [List.length_cons] at hlength hdrop
    have := length_rest_gap_le 0 after
    try rw [List.length_cons]
    omega

/-- What a quoted scalar is in the middle of. -/
inductive Quoting
  | nothing
  /-- Blanks that belong to the scalar unless a line end follows. -/
  | blanks (seen : Text)
  /-- Line ends: what they are read as so far, with a space for a single one still to be decided,
      and whether a line has just begun. -/
  | breaks (first : Option Char) (more : Text) (fresh : Bool)
  /-- Behind a backslash. -/
  | escape
  /-- Hexadecimal digits that are still to come, and the value of those read. -/
  | digits (remaining value : Nat)
  /-- Behind a quote that ends the scalar unless another one follows. -/
  | quote

/-- The text of what has been passed. -/
def Quoting.text : Quoting → Text
  | .blanks seen => seen.reverse
  | .breaks (some first) more _ => folded first more.reverse
  | .breaks none more _ => more.reverse
  | _ => []

/-- The characters that a backslash and one character stand for. -/
def escapes : List (Char × Char) :=
  [('0', '\x00'), ('a', '\x07'), ('b', '\x08'), ('t', '\t'), ('\t', '\t'), ('n', '\n'),
    ('v', '\x0b'), ('f', '\x0c'), ('r', '\r'), ('e', '\x1b'), (' ', ' '), ('\x22', '\x22'),
    ('/', '/'), ('\\', '\\'), ('N', '\u0085'), ('_', '\u00a0'), ('L', '\u2028'), ('P', '\u2029')]

/-- The number of hexadecimal digits behind a backslash and one character. -/
def digitCounts : List (Char × Nat) :=
  [('x', 2), ('u', 4), ('U', 8)]

/-- Puts a text before that of a scalar. -/
def before (text : Text) : Option (Text × Text) → Option (Text × Text)
  | some (more, rest) => some (text ++ more, rest)
  | none => none

/-- A quoted scalar up to its closing quote. Only between double quotes a backslash escapes; only
    between single ones a doubled quote stands for one. -/
def quoted (double : Bool) : Quoting → Text → Option (Text × Text)
  | .quote, [] => some ([], [])
  | _, [] => none
  | .quote, c :: rest =>
    if c == '\x27' then before [c] (quoted double .nothing rest) else some ([], c :: rest)
  | .escape, c :: rest =>
    match escapes.lookup c, digitCounts.lookup c with
    | some d, _ => before [d] (quoted double .nothing rest)
    | none, some count => quoted double (.digits count 0) rest
    | none, none => if isBreak c then quoted double (.breaks none [] true) rest else none
  | .digits remaining value, c :: rest =>
    let value := 16 * value + Text.hexValue c
    if !Text.isHexDigit c then none
    else if 1 < remaining then quoted double (.digits (remaining - 1) value) rest
    else if value.isValidChar then before [Char.ofNat value] (quoted double .nothing rest)
    else none
  | quoting, c :: rest =>
    match quoting with
    | .breaks _ _ true => if isMarker (c :: rest) then none else quotedChar double quoting c rest
    | _ => quotedChar double quoting c rest
where
  /-- A quoted scalar from the given character on. -/
  quotedChar (double : Bool) (quoting : Quoting) (c : Char) (rest : Text) :
      Option (Text × Text) :=
    if c == ' ' || c == '\t' then
      match quoting with
      | .blanks seen => quoted double (.blanks (c :: seen)) rest
      | .breaks first more _ => quoted double (.breaks first more false) rest
      | _ => quoted double (.blanks [c]) rest
    else if isBreak c then
      match quoting with
      | .breaks first more _ => quoted double (.breaks first (breakChar c :: more) true) rest
      | _ => quoted double (.breaks (some c) [] true) rest
    else
      before quoting.text
        (if double && c == '\x22' then some ([], rest)
        else if !double && c == '\x27' then quoted double .quote rest
        else if double && c == '\\' then quoted double .escape rest
        else before [c] (quoted double .nothing rest))

end Bindery.Yaml
