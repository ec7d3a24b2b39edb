import Bindery.Decimal.Double
import Bindery.Text.Quoted

namespace Bindery

/-- A value of a settings file. -/
inductive Value where
  | null
  | bool (value : Bool)
  | int (value : Int)
  | float (value : Double)
  | text (value : Text)
  /-- A day of the calendar. -/
  | date (year month day : Nat)
  /-- A day and a time, with the seconds and their millionths. -/
  | moment (year month day hour minute second micro : Nat)
  | list (items : List Value)
  /-- Keys and values in the order of the text. -/
  | map (entries : List (Value × Value))
  deriving Inhabited, Repr

namespace Value

/-- A number with zeros before it, up to a width. -/
def padded (width n : Nat) : Text :=
  let digits := Text.ofNat n
  List.replicate (width - digits.length) '0' ++ digits

/-- A day as year, month and day of the month. -/
def dayText (year month day : Nat) : Text :=
  padded 4 year ++ '-' :: padded 2 month ++ '-' :: padded 2 day

/-- A time as hour, minute and second, with the millionths where there are any. -/
def clockText (hour minute second micro : Nat) : Text :=
  padded 2 hour ++ ':' :: padded 2 minute ++ ':' :: padded 2 second ++
    if micro == 0 then [] else '.' :: padded 6 micro

/-- Texts between brackets with commas between them. -/
def bracketed (opening : Char) (parts : List Text) (closing : Char) : Text :=
  opening :: Text.joinWith ", ".toList parts ++ [closing]

/-- The numbers of a moment that a message shows: seconds and millionths only where they matter. -/
def shownMoment (year month day hour minute second micro : Nat) : List Nat :=
  [year, month, day, hour, minute] ++
    if micro != 0 then [second, micro] else if second != 0 then [second] else []

mutual

/-- The value as a message shows it. -/
def shown : Value → Text
  | .null => "None".toList
  | .bool b => if b then "True".toList else "False".toList
  | .int n => Text.ofInt n
  | .float x => x.text
  | .text t => Text.quoted t
  | .date year month day =>
    "datetime.date".toList ++ bracketed '(' ([year, month, day].map Text.ofNat) ')'
  | .moment year month day hour minute second micro =>
    "datetime.datetime".toList ++
      bracketed '(' ((shownMoment year month day hour minute second micro).map Text.ofNat) ')'
  | .list items => bracketed '[' (shownItems items) ']'
  | .map entries => bracketed '\x7b' (shownEntries entries) '\x7d'

/-- Each value as a message shows it. -/
def shownItems : List Value → List Text
  | [] => []
  | item :: rest => shown item :: shownItems rest

/-- Each entry as a message shows it; a list as a key has round brackets. -/
def shownEntries : List (Value × Value) → List Text
  | [] => []
  | (key, value) :: rest =>
    let before := match key with
      | .list [item] => '(' :: shown item ++ ",)".toList
      | .list items => bracketed '(' (shownItems items) ')'
      | key => shown key
    (before ++ ": ".toList ++ shown value) :: shownEntries rest

end

mutual

/-- Whether every whole number in a value has few enough digits to be written. -/
def isWritable : Value → Bool
  | .int n => Text.isWritable n
  | .list items => itemsWritable items
  | .map entries => entriesWritable entries
  | _ => true

/-- Whether every value can be written. -/
def itemsWritable : List Value → Bool
  | [] => true
  | item :: rest => isWritable item && itemsWritable rest

/-- Whether every key and every value can be written. -/
def entriesWritable : List (Value × Value) → Bool
  | [] => true
  | (key, value) :: rest => isWritable key && isWritable value && entriesWritable rest

end

/-- The text of a value that is a key: that of a list is its shown form in round brackets. -/
def keyText : Value → Text
  | .text t => t
  | .date year month day => dayText year month day
  | .moment year month day hour minute second micro =>
    dayText year month day ++ ' ' :: clockText hour minute second micro
  | .list [item] => '(' :: shown item ++ ",)".toList
  | .list items => bracketed '(' (shownItems items) ')'
  | value => shown value

/-- Whether the value stands for nothing: null, false, zero, or an empty text, list or map. -/
def isVoid : Value → Bool
  | .null => true
  | .bool b => !b
  | .int n => n == 0
  | .float (.finite _ mantissa _) => mantissa == 0
  | .text t => t.isEmpty
  | .list items => items.isEmpty
  | .map entries => entries.isEmpty
  | _ => false

/-- The value of the entry with the given name. -/
def named? (name : Text) : List (Value × Value) → Option Value
  | [] => none
  | (.text key, value) :: rest => if key == name then some value else named? name rest
  | _ :: rest => named? name rest

end Value

end Bindery
