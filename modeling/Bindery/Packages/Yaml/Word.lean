import Bindery.Value

namespace Bindery.Yaml

/-- Why a document gives no value. -/
inductive Fault
  /-- The text is not YAML, or holds what has no value. -/
  | malformed
  /-- The digits of a whole number in the given base are none. -/
  | notWhole (base : Nat) (digits : Text)
  /-- A whole number has too many digits. -/
  | tooLong (digits : Nat)
  | notNumber (text : Text)
  /-- A day or a time that no calendar has. -/
  | outOfRange (part : String)
  deriving DecidableEq, Repr

/-- The wording of a fault. -/
def Fault.message : Fault → Text
  | .malformed => "malformed".toList
  | .notWhole base digits =>
    "invalid literal for int() with base ".toList ++ Text.ofNat base ++ ": ".toList ++
      Text.quoted digits
  | .tooLong digits =>
    Text.lengthNote (": value has ".toList ++ Text.ofNat digits ++ " digits".toList)
  | .notNumber text => "could not convert string to float: ".toList ++ Text.quoted text
  | .outOfRange part => part.toList

/-- A sign, and whether it is a minus, with the rest. -/
def signed (s : Text) : Bool × Text :=
  match s with
  | '-' :: rest => (true, rest)
  | '+' :: rest => (false, rest)
  | s => (false, s)

/-- A digit, or an underscore that groups digits. -/
def isNumeral (c : Char) : Bool :=
  c.isDigit || c == '_'

/-- Whether the text is an exponent of ten; its sign may be asked for. -/
def isExponent (needsSign : Bool) (s : Text) : Bool :=
  match s with
  | 'e' :: rest => isPower rest
  | 'E' :: rest => isPower rest
  | _ => false
where
  /-- Whether the text is digits behind a sign. -/
  isPower (s : Text) : Bool :=
    let digits := (signed s).2
    !digits.isEmpty && digits.all Char.isDigit && (!needsSign || digits.length < s.length)

/-- Whether a word is a number with a fraction or an exponent, infinity or no number. -/
def isFloatWord (s : Text) : Bool :=
  let body := (signed s).2
  let rest := body.dropWhile isNumeral
  match body with
  | '.' :: fraction =>
    let rest := fraction.dropWhile isNumeral
    (rest.length < fraction.length && (rest.isEmpty || isExponent true rest)) ||
      [".inf".toList, ".Inf".toList, ".INF".toList].contains body ||
      [".nan".toList, ".NaN".toList, ".NAN".toList].contains s
  | c :: _ =>
    c.isDigit &&
      match rest with
      | '.' :: fraction =>
        let rest := fraction.dropWhile isNumeral
        rest.isEmpty || isExponent false rest
      | rest => isExponent false rest
  | [] => false

/-- Whether a text has at least one character, and all of the given class. -/
def isRun (p : Char → Bool) (s : Text) : Bool :=
  !s.isEmpty && s.all p

/-- Whether a word is a whole number, in digits or with a base before them. -/
def isIntWord (s : Text) : Bool :=
  match (signed s).2 with
  | '0' :: 'b' :: digits => isRun (fun c => c == '0' || c == '1' || c == '_') digits
  | '0' :: 'o' :: digits => isRun (fun c => ('0' ≤ c && c ≤ '7') || c == '_') digits
  | '0' :: 'x' :: digits => isRun (fun c => Text.isHexDigit c || c == '_') digits
  | digits => isRun isNumeral digits && s.head? != some '_'

/-- The number that digits of a base stand for. -/
def digits? (base : Nat) (digits : Text) : Except Fault Int :=
  if isRun (fun c => Text.isHexDigit c && Text.hexValue c < base) digits then
    .ok (digits.foldl (fun n c => base * n + Text.hexValue c) 0 : Nat)
  else .error (.notWhole base digits)

/-- The whole number that a text stands for. -/
def whole (s : Text) : Except Fault Int := do
  let (negative, body) := signed (s.filter (· != '_'))
  let value ← match body with
    | '0' :: 'b' :: digits => digits? 2 digits
    | '0' :: 'x' :: digits => digits? 16 digits
    | '0' :: 'o' :: digits => digits? 8 digits
    | body =>
      match Text.integer? body with
      | some n => pure n
      | none =>
        throw (if isRun Char.isDigit body then .tooLong body.length else .notWhole 10 body)
  return if negative then -value else value

/-- The number that decimal digits stand for, with a fraction and an exponent if there are any. -/
def decimal? (negative : Bool) (s : Text) : Option Double :=
  let ints := s.takeWhile Char.isDigit
  let rest := s.dropWhile Char.isDigit
  let (fraction, rest) := match rest with
    | '.' :: rest => (rest.takeWhile Char.isDigit, rest.dropWhile Char.isDigit)
    | rest => ([], rest)
  let number (exponent : Int) :=
    let digits := Text.ofDigits ((ints ++ fraction).map fun c => c.toNat - 48)
    some (Double.ofDecimal negative digits (exponent - fraction.length))
  if ints.isEmpty && fraction.isEmpty then none
  else
    match rest with
    | [] => number 0
    | _ :: power =>
      let (minus, digits) := signed power
      let power : Int := Text.ofDigits (digits.map fun c => c.toNat - 48)
      if isExponent false rest then number (if minus then -power else power) else none

/-- The number that a text stands for. -/
def float (s : Text) : Except Fault Double :=
  let (negative, body) := signed ((s.filter (· != '_')).map Char.toLower)
  if body == ".inf".toList then .ok (.infinite negative)
  else if body == ".nan".toList then .ok .nan
  else
    match decimal? negative body with
    | some x => .ok x
    | none => .error (.notNumber body)

/-- A number of so many digits at least and at most, and the rest. -/
def digitsBetween? (least most : Nat) (s : Text) : Option (Nat × Text) :=
  let digits := (s.take most).takeWhile Char.isDigit
  if digits.length < least then none
  else some (Text.ofDigits (digits.map fun c => c.toNat - 48), s.drop digits.length)

/-- A year, a month and a day with hyphens between them, and the rest. -/
def day? (least : Nat) (s : Text) : Option (Nat × Nat × Nat × Text) := do
  let (year, rest) ← digitsBetween? 4 4 s
  let (month, rest) ← digitsBetween? least 2 (← Text.afterStart? ['-'] rest)
  let (day, rest) ← digitsBetween? least 2 (← Text.afterStart? ['-'] rest)
  return (year, month, day, rest)

/-- The number of days of a month. -/
def daysOf (year month : Nat) : Nat :=
  if month == 2 then
    if year % 4 == 0 && (year % 100 != 0 || year % 400 == 0) then 29 else 28
  else if [4, 6, 9, 11].contains month then 30
  else 31

/-- Fails unless the calendar has the day. -/
def checkDay (year month day : Nat) : Except Fault Unit :=
  if year == 0 then .error (.outOfRange "year 0 is out of range")
  else if month == 0 || 12 < month then .error (.outOfRange "month must be in 1..12")
  else if day == 0 || daysOf year month < day then
    .error (.outOfRange "day is out of range for month")
  else .ok ()

/-- A time zone, or nothing. The time is kept as it is written. -/
def isZone (s : Text) : Bool :=
  match s.dropWhile Text.isGap with
  | [] => s.isEmpty
  | 'Z' :: rest => rest.isEmpty
  | c :: rest =>
    (c == '+' || c == '-') &&
      match digitsBetween? 1 2 rest with
      | some (_, []) => true
      | some (_, ':' :: minutes) => (digitsBetween? 2 2 minutes).any (·.2.isEmpty)
      | _ => false

/-- The hours, minutes, seconds and millionths of a time, with a zone behind them. -/
def clock? (s : Text) : Option (Nat × Nat × Nat × Nat) := do
  let (hour, rest) ← digitsBetween? 1 2 s
  let (minute, rest) ← digitsBetween? 2 2 (← Text.afterStart? [':'] rest)
  let (second, rest) ← digitsBetween? 2 2 (← Text.afterStart? [':'] rest)
  let (fraction, rest) := match rest with
    | '.' :: rest => (rest.takeWhile Char.isDigit, rest.dropWhile Char.isDigit)
    | rest => ([], rest)
  let micro := Text.ofDigits (((fraction ++ List.replicate 6 '0').take 6).map fun c => c.toNat - 48)
  if isZone rest then some (hour, minute, second, micro) else none

/-- The day, or the day with a time, that a word is; none for any other word. -/
def date? (s : Text) : Option (Except Fault Value) :=
  match day? 2 s with
  | some (year, month, day, []) =>
    some ((checkDay year month day).map fun () => .date year month day)
  | _ => do
    let (year, month, day, rest) ← day? 1 s
    let time ← match rest with
      | [] => none
      | c :: after =>
        if c == 'T' || c == 't' then some after
        else if Text.isGap c then some (after.dropWhile Text.isGap)
        else none
    let (hour, minute, second, micro) ← clock? time
    return do
      checkDay year month day
      if 24 ≤ hour then throw (.outOfRange "hour must be in 0..23")
      if 60 ≤ minute then throw (.outOfRange "minute must be in 0..59")
      if 60 ≤ second then throw (.outOfRange "second must be in 0..59")
      return .moment year month day hour minute second micro

/-- The yes or no that a word is. -/
def bool? (s : Text) : Option Bool :=
  if ["true".toList, "True".toList, "TRUE".toList].contains s then some true
  else if ["false".toList, "False".toList, "FALSE".toList].contains s then some false
  else none

/-- Whether a word stands for nothing. -/
def isNullWord (s : Text) : Bool :=
  [[], ['~'], "null".toList, "Null".toList, "NULL".toList].contains s

/-- The word of a key whose value is merged into its map. -/
def mergeWord : Text :=
  ['<', '<']

/-- The value of a plain word. The word of a merge and an equals sign have none. -/
def wordValue (s : Text) : Except Fault Value :=
  match bool? s with
  | some b => .ok (.bool b)
  | none =>
    if isFloatWord s then (float s).map .float
    else if isIntWord s then (whole s).map .int
    else if isNullWord s then .ok .null
    else if s == mergeWord || s == ['='] then .error .malformed
    else (date? s).getD (.ok (.text s))

end Bindery.Yaml
