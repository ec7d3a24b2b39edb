import Bindery.Text.Basic

namespace Bindery.Text

/-- A number with more digits than this is neither read nor written. -/
def maxDigits : Nat := 4300

/-- Blanks that may stand around a number; the ASCII separators U+001C to U+001F may not. -/
def isNumberBlank (c : Char) : Bool :=
  isBlank c && !(28 ≤ c.toNat && c.toNat ≤ 31)

/-- The digit values of a run of digits in which underscores separate digits. -/
def digitRun? : Text → Option (List Nat)
  | [] => none
  | [c] => (digitValue? c).map ([·])
  | c :: '_' :: rest => do return (← digitValue? c) :: (← digitRun? rest)
  | c :: d :: rest => do return (← digitValue? c) :: (← digitRun? (d :: rest))

/-- The number with the given decimal digits. -/
def ofDigits (digits : List Nat) : Nat :=
  digits.foldl (fun n d => 10 * n + d) 0

/-- The number that a run of digits stands for. -/
def unsigned? (s : Text) : Option Nat := do
  let digits ← digitRun? s
  if digits.length ≤ maxDigits then some (ofDigits digits) else none

/-- The whole number that a text stands for. -/
def integer? (s : Text) : Option Int :=
  match trimClass isNumberBlank s with
  | '-' :: digits => (unsigned? digits).map fun n => -(n : Int)
  | '+' :: digits => (unsigned? digits).map Int.ofNat
  | digits => (unsigned? digits).map Int.ofNat

/-- A number in decimal digits. -/
def ofNat (n : Nat) : Text :=
  Nat.toDigits 10 n

/-- Whether a whole number has few enough digits to be written. -/
def isWritable (n : Int) : Bool :=
  n.natAbs < Nat.pow 10 maxDigits

/-- What is said of a number with too many digits, with what has been found out about it. -/
def lengthNote (found : Text) : Text :=
  "Exceeds the limit (".toList ++ ofNat maxDigits ++
    " digits) for integer string conversion".toList ++ found ++
    "; use sys.set_int_max_str_digits() to increase the limit".toList

/-- A whole number in decimal digits, with a minus sign when it is negative. -/
def ofInt (n : Int) : Text :=
  if n < 0 then '-' :: ofNat n.natAbs else ofNat n.natAbs

end Bindery.Text
