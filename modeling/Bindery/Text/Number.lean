import Bindery.Text.Integer

namespace Bindery.Text

/-- The text without its underscores; nothing if one of them does not stand between two digits. -/
def ungrouped? : Text → Option Text
  | [] => some []
  | '_' :: _ => none
  | c :: '_' :: d :: rest =>
    if isDigit c && isDigit d then (ungrouped? (d :: rest)).map (c :: ·) else none
  | c :: rest => (ungrouped? rest).map (c :: ·)

/-- Whether the character is a sign. -/
def isSign (c : Char) : Bool :=
  c == '+' || c == '-'

/-- What follows a sign, or the whole text if there is none. -/
def afterSign : Text → Text
  | [] => []
  | c :: rest => if isSign c then rest else c :: rest

/-- What follows an exponent of ten, or the whole text if there is none. -/
def afterExponent : Text → Text
  | [] => []
  | c :: rest =>
    let power := afterSign rest
    if (c == 'e' || c == 'E') && power.head?.any isDigit then power.dropWhile isDigit
    else c :: rest

/-- What follows the decimal number that a text begins with. It has a digit, be it before the point
    or behind it. -/
def afterDecimal? (s : Text) : Option Text :=
  let rest := s.dropWhile isDigit
  match rest with
  | '.' :: fraction =>
    if s.head?.any isDigit || fraction.head?.any isDigit then
      some (afterExponent (fraction.dropWhile isDigit))
    else none
  | rest => if s.head?.any isDigit then some (afterExponent rest) else none

/-- The words for what no digits give, in small letters. -/
def numberWords : List Text :=
  ["infinity".toList, "inf".toList, "nan".toList]

/-- What follows a word for a number, in letters of either case. -/
def afterNumberWord? (s : Text) : Option Text :=
  numberWords.findSome? fun word =>
    if (s.take word.length).map Char.toLower == word then some (s.drop word.length) else none

/-- What follows a real number, which may have a sign. -/
def afterReal? (s : Text) : Option Text :=
  (afterDecimal? (afterSign s)).or (afterNumberWord? (afterSign s))

/-- Whether the text is the imaginary unit. -/
def isImaginaryUnit (s : Text) : Bool :=
  s == ['j'] || s == ['J']

/-- Whether the text ends a number that begins with a real one: there is nothing more, or the unit,
    or a product with the unit behind a sign. -/
def endsNumber (rest : Text) : Bool :=
  rest.isEmpty || isImaginaryUnit rest ||
    rest.head?.any isSign && isImaginaryUnit ((afterReal? rest).getD (afterSign rest))

/-- Whether a text is a number, with blanks around it. -/
def isNumber (s : Text) : Bool :=
  match ungrouped? s with
  | none => false
  | some digits =>
    let body := trimClass isNumberBlank digits
    match afterReal? body with
    | some rest => endsNumber rest
    | none => isImaginaryUnit (afterSign body)

end Bindery.Text
