import Bindery.Packages.Yaml.BlockScalar
import Bindery.Packages.Yaml.Scalar

namespace Bindery.Yaml

/-- A token. -/
inductive Token
  | version (major minor : Nat)
  | tagPrefix (handle start : Text)
  /-- A directive without meaning. -/
  | reserved
  | documentStart
  | documentEnd
  | blockList
  | blockMap
  /-- The end of a list or a map that is told by indentation. -/
  | blockEnd
  | openList
  | closeList
  | openMap
  | closeMap
  /-- The hyphen before an entry of a list. -/
  | entry
  | comma
  | key
  | value
  | alias (name : Text)
  | anchor (name : Text)
  | tag (handle : Option Text) (suffix : Text)
  | scalar (text : Text) (isPlain : Bool)
  deriving DecidableEq, Repr

/-- Whether a name of an anchor goes on with the character. -/
def isAnchorChar (c : Char) : Bool :=
  let n := c.toNat
  !isFlowMark c && ((0x21 ≤ n && n ≤ 0x7E) || (0xA0 ≤ n && n ≤ 0xD7FF) ||
    (0xE000 ≤ n && n ≤ 0xFFFD && n != 0xFEFF) || 0x10000 ≤ n)

/-- The name of an anchor or of an alias. -/
def anchorName? (s : Text) : Option (Text × Text) :=
  let name := s.takeWhile isAnchorChar
  if name.isEmpty then none else some (name, s.dropWhile isAnchorChar)

/-- Whether a handle goes on with the character. -/
def isNameChar (c : Char) : Bool :=
  c.isAlphanum || c == '-' || c == '_'

/-- Whether the name of a directive goes on with the character. -/
def isDirectiveChar (c : Char) : Bool :=
  isNameChar c || c == ':' || c == '.'

/-- Whether a tag goes on with the character. -/
def isTagChar (c : Char) : Bool :=
  c.isAlphanum || "-;/?:@&=+$,_.!~*\x27()[]#".toList.contains c

/-- The text of a tag and the rest. -/
def tagText? (s : Text) : Option (Text × Text) :=
  let text := s.takeWhile isTagChar
  if text.isEmpty then none else some (text, s.dropWhile isTagChar)

/-- A handle: a word between exclamation marks, or a single one, and the rest. -/
def tagHandle? (s : Text) : Option (Text × Text) :=
  match s with
  | '!' :: rest =>
    let word := rest.takeWhile isNameChar
    match rest.dropWhile isNameChar with
    | '!' :: rest => some ('!' :: word ++ ['!'], rest)
    | after => if word.isEmpty then some (['!'], after) else none
  | _ => none

/-- A tag behind its exclamation mark, and the rest. A blank has to follow it. -/
def tag? (s : Text) : Option (Token × Text) := do
  let (token, rest) ←
    match s with
    | '<' :: rest => do
      let (text, rest) ← tagText? rest
      match rest with
      | '>' :: rest => some (Token.tag none text, rest)
      | _ => none
    | s =>
      if endsWord s.head? then some (Token.tag none ['!'], s)
      else if (s.takeWhile fun c => c != ' ' && !isBreak c).contains '!' then do
        let (handle, rest) ← tagHandle? ('!' :: s)
        let (suffix, rest) ← tagText? rest
        some (Token.tag (some handle) suffix, rest)
      else do
        let (suffix, rest) ← tagText? s
        some (Token.tag (some ['!']) suffix, rest)
  match rest with
  | [] => some (token, [])
  | c :: _ => if c == ' ' || isBreak c then some (token, rest) else none

/-- The rest behind a line of which only a comment is left. -/
def afterDirective? (s : Text) : Option Text :=
  let rest := s.dropWhile (· == ' ')
  let rest := if rest.head? == some '#' then rest.dropWhile (!isLineEnd ·) else rest
  if endsLine rest.head? then some rest else none

/-- A number in digits and the rest. -/
def number? (s : Text) : Option (Nat × Text) :=
  let digits := s.takeWhile Char.isDigit
  if digits.isEmpty then none
  else some (Text.ofDigits (digits.map fun c => c.toNat - 48), s.dropWhile Char.isDigit)

/-- A directive behind its percent sign, and the rest. -/
def directive? (s : Text) : Option (Token × Text) := do
  let word := s.takeWhile isDirectiveChar
  let rest := s.dropWhile isDirectiveChar
  if word.isEmpty then none
  else if !(endsLine rest.head? || rest.head? == some ' ') then none
  else if word == "YAML".toList then
    let (major, rest) ← number? (rest.dropWhile (· == ' '))
    let (minor, rest) ← number? (← Text.afterStart? ['.'] rest)
    if endsLine rest.head? || rest.head? == some ' ' then
      some (.version major minor, ← afterDirective? rest)
    else none
  else if word == "TAG".toList then
    let (handle, rest) ← tagHandle? (rest.dropWhile (· == ' '))
    let rest ← Text.afterStart? [' '] rest
    let (start, rest) ← tagText? (rest.dropWhile (· == ' '))
    some (.tagPrefix handle start, ← afterDirective? rest)
  else some (.reserved, rest.dropWhile (!isLineEnd ·))

/-- A place where a key may have begun. -/
structure KeyStart where
  /-- The number of tokens before it. -/
  count : Nat
  /-- Whether nothing but a key can stand there. -/
  required : Bool
  line : Nat
  index : Nat
  column : Nat

/-- A list or a map between brackets that is being read. -/
structure Flow where
  isList : Bool
  /-- The place outside of it where a key may have begun. -/
  outer : Option KeyStart

/-- A reading of a text with the tokens so far, last token first. -/
structure Scan where
  rest : Text
  line : Nat
  index : Nat
  column : Nat
  tokens : List Token
  count : Nat
  /-- The column of the innermost list or map; `-1` outside of all of them. -/
  indent : Int
  outerIndents : List Int
  flows : List Flow
  keyStart : Option KeyStart
  /-- Whether a key may begin here. -/
  keyAllowed : Bool

namespace Scan

/-- The reading of a text from its beginning. -/
def start (s : Text) : Scan :=
  ⟨s, 0, 0, 0, [], 0, -1, [], [], none, true⟩

/-- Whether the reading is between brackets. -/
def inFlow (s : Scan) : Bool :=
  !s.flows.isEmpty

/-- The reading one character on. -/
def pass (s : Scan) (c : Char) : Scan :=
  if isBreak c then { s with line := s.line + 1, index := s.index + 1, column := 0 }
  else if c == '\ufeff' then { s with index := s.index + 1 }
  else { s with index := s.index + 1, column := s.column + 1 }

/-- The reading at a later place, given by the text from there on. -/
def moveTo (s : Scan) (rest : Text) : Scan :=
  let passed := s.rest.take (s.rest.length - rest.length)
  { passed.foldl pass s with rest }

/-- The reading with one more token. -/
def emit (s : Scan) (token : Token) : Scan :=
  { s with tokens := token :: s.tokens, count := s.count + 1 }

/-- The reading with tokens put in after the given number of tokens. -/
def emitAfter (s : Scan) (count : Nat) (tokens : List Token) : Scan :=
  let later := s.count - count
  { s with
    tokens := s.tokens.take later ++ tokens.reverse ++ s.tokens.drop later
    count := s.count + tokens.length }

/-- The reading without the place where a key may have begun; there must not have been one that
    was required. -/
def dropKey? (s : Scan) : Option Scan :=
  match s.keyStart with
  | some key => if key.required then none else some { s with keyStart := none }
  | none => some s

/-- The reading with its own place as one where a key may begin, if one may. -/
def noteKey? (s : Scan) : Option Scan :=
  if s.keyAllowed then do
    let s ← s.dropKey?
    let required := !s.inFlow && s.indent == (s.column : Int)
    some { s with keyStart := some ⟨s.count, required, s.line, s.index, s.column⟩ }
  else some s

/-- Whether a key that began at the place could not end here any more: it stands on one line and
    has no more than 1024 characters. -/
def isStale (s : Scan) (key : KeyStart) : Bool :=
  key.line != s.line || 1024 < s.index - key.index

/-- Where a key may still have begun; nothing if one was required. -/
def liveKey? (s : Scan) : Option KeyStart → Option (Option KeyStart)
  | some key =>
    if !s.isStale key then some (some key) else if key.required then none else some none
  | none => some none

/-- The reading without places where a key can no longer have begun. -/
def dropStale? (s : Scan) : Option Scan := do
  let keyStart ← s.liveKey? s.keyStart
  let flows ← s.flows.mapM fun flow => do
    let outer ← s.liveKey? flow.outer
    return { flow with outer }
  return { s with keyStart, flows }

/-- The indentation left for that of a column, with the indentations outside of it and the number of
    those left. -/
def leave (column : Int) : Int → List Int → Nat × Int × List Int
  | indent, [] => (0, indent, [])
  | indent, outer :: others =>
    if column < indent then
      let (count, found) := leave column outer others
      (count + 1, found)
    else (0, indent, outer :: others)

/-- The reading with every list and map closed that the column has left. -/
def unwind (s : Scan) (column : Int) : Scan :=
  if s.inFlow then s
  else
    let (count, indent, outerIndents) := leave column s.indent s.outerIndents
    { s with
      tokens := List.replicate count .blockEnd ++ s.tokens
      count := s.count + count
      indent, outerIndents }

/-- Whether a list or a map begins at the column. -/
def deepens (s : Scan) (column : Nat) : Bool :=
  !s.inFlow && s.indent < (column : Int)

/-- The reading within a list or a map of the given column. -/
def enter (s : Scan) (column : Nat) : Scan :=
  { s with indent := column, outerIndents := s.indent :: s.outerIndents }

/-- The text behind blanks, comments and line ends, and whether there was a line end. Tabs are
    blanks between brackets only. -/
def afterBlanks (inFlow inComment : Bool) : Text → Text × Bool
  | [] => ([], false)
  | c :: rest =>
    if inComment && !isLineEnd c then afterBlanks inFlow true rest
    else if c == ' ' || (inFlow && c == '\t') then afterBlanks inFlow false rest
    else if c == '#' then afterBlanks inFlow true rest
    else if isBreak c then ((afterBlanks inFlow false rest).1, true)
    else (c :: rest, false)

/-- The reading at the next token. -/
def toToken? (s : Scan) : Option Scan := do
  let text := if s.index == 0 && s.rest.head? == some '\ufeff' then s.rest.drop 1 else s.rest
  let (rest, newLine) := afterBlanks s.inFlow false text
  let s := s.moveTo rest
  let s := if newLine && !s.inFlow then { s with keyAllowed := true } else s
  let s ← s.dropStale?
  return s.unwind s.column

/-- One token of a single character that separates. -/
def mark (s : Scan) (token : Token) (rest : Text) : Scan :=
  (s.emit token).moveTo rest

/-- A line that begins or ends a document. -/
def document? (s : Scan) (token : Token) (rest : Text) : Option Scan := do
  let s ← (s.unwind (-1)).dropKey?
  return { s with keyAllowed := false }.mark token rest

/-- A bracket that opens a list or a map. -/
def openFlow? (s : Scan) (isList : Bool) (rest : Text) : Option Scan := do
  let s ← s.noteKey?
  let s := s.mark (if isList then .openList else .openMap) rest
  return { s with flows := ⟨isList, s.keyStart⟩ :: s.flows, keyStart := none, keyAllowed := true }

/-- A bracket that closes a list or a map. -/
def closeFlow? (s : Scan) (isList : Bool) (rest : Text) : Option Scan := do
  let s ← s.dropKey?
  let s := match s.flows with
    | flow :: flows => { s with flows, keyStart := flow.outer }
    | [] => s
  return { s with keyAllowed := false }.mark (if isList then .closeList else .closeMap) rest

/-- The comma between the parts of a list or a map. -/
def comma? (s : Scan) (rest : Text) : Option Scan := do
  let s ← s.dropKey?
  return { s with keyAllowed := true }.mark .comma rest

/-- The hyphen before an entry of a list. -/
def hyphen? (s : Scan) (rest : Text) : Option Scan := do
  let s ←
    if s.inFlow then some s
    else if !s.keyAllowed then none
    else if s.deepens s.column then some ((s.enter s.column).emit .blockList)
    else some s
  let s ← { s with keyAllowed := true }.dropKey?
  return s.mark .entry rest

/-- The question mark before a key. -/
def explicitKey? (s : Scan) (rest : Text) : Option Scan := do
  let s ←
    if s.inFlow then some s
    else if !s.keyAllowed then none
    else if s.deepens s.column then some ((s.enter s.column).emit .blockMap)
    else some s
  let s ← { s with keyAllowed := !s.inFlow }.dropKey?
  return s.mark .key rest

/-- The colon before a value. It makes a key of what may have been one. -/
def value? (s : Scan) (rest : Text) : Option Scan :=
  match s.keyStart with
  | some key =>
    let s := { s with keyStart := none, keyAllowed := false }
    let s :=
      if s.deepens key.column then (s.enter key.column).emitAfter key.count [.blockMap, .key]
      else s.emitAfter key.count [.key]
    some (s.mark .value rest)
  | none =>
    if !s.inFlow && !s.keyAllowed then none
    else
      let s := if s.deepens s.column then (s.enter s.column).emit .blockMap else s
      some ({ s with keyAllowed := !s.inFlow }.mark .value rest)

/-- A token that may begin a key. -/
def word? (s : Scan) (read : Option (Token × Text)) : Option Scan := do
  let s ← s.noteKey?
  let (token, rest) ← read
  return { s with keyAllowed := false }.mark token rest

/-- A plain scalar. -/
def plain? (s : Scan) : Option Scan := do
  let s ← s.noteKey?
  let scalar := plain s.inFlow (s.indent + 1) s.rest
  return { s with keyAllowed := scalar.newLine }.mark (.scalar scalar.text true) scalar.rest

/-- A block of lines. -/
def block? (s : Scan) (fold : Bool) (rest : Text) : Option Scan := do
  let s ← { s with keyAllowed := true }.dropKey?
  let (text, rest) ← blockScalar? fold (s.indent + 1).toNat rest
  return s.mark (.scalar text false) rest

/-- Whether a colon stands before a value. In a list between brackets, as outside of brackets, it
    does so only before a blank. -/
def valueFollows (s : Scan) (next : Option Char) : Bool :=
  match s.flows with
  | ⟨false, _⟩ :: _ => true
  | _ => endsWord next

/-- Whether a plain scalar begins with the character. -/
def startsPlain (s : Scan) (c : Char) (next : Option Char) : Bool :=
  if c == '-' then !endsWord next
  else if c == '?' then !endsWord next && !s.inFlow
  else if c == ':' then
    if s.inFlow then next != some ' ' && next != some '\t' else !endsWord next
  else !(",[]\x7b\x7d#&*!|>\x27\x22%@\x60 \t\n\u0085\u2028\u2029".toList.contains c)

/-- The reading behind one more token that begins with the given character. -/
def token? (s : Scan) (c : Char) (rest : Text) : Option Scan :=
  let next := rest.head?
  let atLineStart := s.column == 0
  if atLineStart && c == '%' then
    (directive? rest).bind fun (token, rest) => s.document? token rest
  else if atLineStart && isMarkerOf '-' s.rest then s.document? .documentStart (rest.drop 2)
  else if atLineStart && isMarkerOf '.' s.rest then s.document? .documentEnd (rest.drop 2)
  else if c == '[' then s.openFlow? true rest
  else if c == '\x7b' then s.openFlow? false rest
  else if c == ']' then s.closeFlow? true rest
  else if c == '\x7d' then s.closeFlow? false rest
  else if c == ',' then s.comma? rest
  else if c == '-' && endsWord next then s.hyphen? rest
  else if c == '?' && (s.inFlow || endsWord next) then s.explicitKey? rest
  else if c == ':' && s.valueFollows next then s.value? rest
  else if c == '*' then s.word? ((anchorName? rest).map fun (name, rest) => (.alias name, rest))
  else if c == '&' then s.word? ((anchorName? rest).map fun (name, rest) => (.anchor name, rest))
  else if c == '!' then s.word? (tag? rest)
  else if c == '|' && !s.inFlow then s.block? false rest
  else if c == '>' && !s.inFlow then s.block? true rest
  else if c == '\x27' then s.word? (scalarOf (quoted false .nothing rest))
  else if c == '\x22' then s.word? (scalarOf (quoted true .nothing rest))
  else if s.startsPlain c next then s.plain?
  else none
where
  /-- The token of a quoted scalar. -/
  scalarOf (read : Option (Text × Text)) : Option (Token × Text) :=
    read.map fun (text, rest) => (.scalar text false, rest)

/-- The tokens of the text, first token first. A token takes at least one character. -/
def run (s : Scan) : Option (List Token) := do
  let s' ← s.toToken?
  match s'.rest with
  | [] => (s'.unwind (-1)).dropKey?.map fun s => s.tokens.reverse
  | c :: rest =>
    let next ← s'.token? c rest
    if next.rest.length < s.rest.length then run next else none
termination_by s.rest.length

end Scan

/-- The tokens of a text, if it is YAML as far as its tokens tell. -/
def tokens? (s : Text) : Option (List Token) :=
  if s.all isAllowed then Scan.run (Scan.start s) else none

end Bindery.Yaml
