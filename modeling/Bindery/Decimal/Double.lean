import Bindery.Text.Integer

namespace Bindery

/-- A floating point number. A finite one has the value `mantissa * 2 ^ exponent`, where either
    the mantissa has 53 bits or the exponent is the least one. -/
inductive Double
  | finite (negative : Bool) (mantissa : Nat) (exponent : Int)
  | infinite (negative : Bool)
  | nan
  deriving DecidableEq, Repr, Inhabited

namespace Double

/-- The least exponent. -/
def minExponent : Int := -1074

/-- The greatest exponent. -/
def maxExponent : Int := 971

/-- The numerator and the denominator of `n * b ^ e`. -/
def scaled (n b : Nat) (e : Int) : Nat × Nat :=
  if 0 ≤ e then (n * Nat.pow b e.toNat, 1) else (n, Nat.pow b (-e).toNat)

/-- The whole number nearest to a quotient, the even one of two that are equally near. -/
def roundDiv (num den : Nat) : Nat :=
  let q := num / den
  let r := num % den
  if 2 * r < den || (2 * r == den && q % 2 == 0) then q else q + 1

/-- The exponent with which the quotient has a mantissa of 53 bits, or the least exponent. -/
def exponentFor (num den : Nat) : Int :=
  let guess : Int := (Nat.log2 num : Int) - Nat.log2 den - 52
  let guess :=
    let (n, d) := scaled den 2 guess
    if num * d < Nat.pow 2 52 * n then guess - 1 else guess
  max guess minExponent

/-- The number nearest to a quotient. -/
def ofQuotient (negative : Bool) (num den : Nat) : Double :=
  if num == 0 then .finite negative 0 minExponent
  else
    let e := exponentFor num den
    let (n, d) := scaled den 2 e
    let m := roundDiv (num * d) n
    let (m, e) := if m == Nat.pow 2 53 then (Nat.pow 2 52, e + 1) else (m, e)
    if e > maxExponent then .infinite negative else .finite negative m e

/-- The number nearest to `digits * 10 ^ exponent`. -/
def ofDecimal (negative : Bool) (digits : Nat) (exponent : Int) : Double :=
  let length : Int := (Nat.log2 digits : Int) / 3 + 1
  if digits == 0 || exponent + length < -400 then .finite negative 0 minExponent
  else if exponent > 400 then .infinite negative
  else
    let (num, den) := scaled digits 10 exponent
    ofQuotient negative num den

/-- The digits of a number and the place of the point: the value is that of the digits behind
    `0.`, times ten to the power of `point`. -/
structure Digits where
  digits : Text
  point : Int
  deriving DecidableEq, Repr

/-- The numbers between which everything is read as the given one, as numerators over a common
    denominator, with the number itself in the middle; and whether the ends belong to them. -/
structure Interval where
  low : Nat
  middle : Nat
  high : Nat
  den : Nat
  ends : Bool

/-- The numbers that are read as `mantissa * 2 ^ exponent`. Below a power of two the numbers lie
    twice as close. -/
def interval (mantissa : Nat) (exponent : Int) : Interval :=
  let (unit, den) := scaled 1 2 (exponent - 2)
  let below := if mantissa == Nat.pow 2 52 && exponent > minExponent then 1 else 2
  ⟨(4 * mantissa - below) * unit, 4 * mantissa * unit, (4 * mantissa + 2) * unit, den,
    mantissa % 2 == 0⟩

/-- Whether the quotient lies in the interval. -/
def Interval.has (i : Interval) (num den : Nat) : Bool :=
  let n := num * i.den
  if i.ends then i.low * den ≤ n && n ≤ i.high * den else i.low * den < n && n < i.high * den

/-- The number of tenfold steps that bring a quotient below one to one tenth. -/
def zerosBefore (num den : Nat) : Nat :=
  ((List.range 400).find? fun k => den ≤ num * Nat.pow 10 (k + 1)).getD 0

/-- The number of digits before the point: the least power of ten above the quotient. -/
def pointOf (num den : Nat) : Int :=
  if num < den then -(zerosBefore num den : Int)
  else (Nat.toDigits 10 (num / den)).length

/-- The shortest digits of `count` digits at most that lie in the interval. -/
def shortestFrom (i : Interval) (point : Int) : (count remaining : Nat) → Digits
  | count, 0 => ⟨Text.ofNat (i.middle / i.den), count⟩
  | count, remaining + 1 =>
    -- The unit of the last digit is ten to the power of `point - count`.
    let (unit, unitDen) := scaled 1 10 (point - count)
    let q := (i.middle * unitDen) / (i.den * unit)
    let twice := 2 * (i.middle * unitDen - q * i.den * unit)
    let near := if twice < i.den * unit || (twice == i.den * unit && q % 2 == 0) then q else q + 1
    let far := if near == q then q + 1 else q
    let fits (n : Nat) := 0 < n && i.has (n * unit) unitDen
    let found := if fits near then some near else if fits far then some far else none
    match found with
    | some n =>
      let digits := Nat.toDigits 10 n
      ⟨Text.dropEndWhile (· == '0') digits, point + (digits.length - count)⟩
    | none => shortestFrom i point (count + 1) remaining

/-- The fewest digits that are read as the number, the nearest ones where there are several. -/
def digits (mantissa : Nat) (exponent : Int) : Digits :=
  let i := interval mantissa exponent
  shortestFrom i (pointOf i.middle i.den) 1 17

/-- The digits with a point among them, where the point stands from the fourth place before the
    first digit to the sixteenth place after it, and with a power of ten elsewhere. A whole number
    keeps one zero after its point; a power of ten has a sign and at least two digits. -/
def Digits.text (d : Digits) : Text :=
  let length : Int := d.digits.length
  if d.point < -3 || 16 < d.point then
    let exponent := d.point - 1
    let shown := Text.ofNat exponent.natAbs
    d.digits.take 1 ++ (if d.digits.length == 1 then [] else '.' :: d.digits.drop 1) ++
      ['e', if exponent < 0 then '-' else '+'] ++ (if shown.length < 2 then ['0'] else []) ++ shown
  else if d.point ≤ 0 then
    "0.".toList ++ List.replicate (-d.point).toNat '0' ++ d.digits
  else if length ≤ d.point then
    d.digits ++ List.replicate (d.point - length).toNat '0' ++ ".0".toList
  else d.digits.take d.point.toNat ++ '.' :: d.digits.drop d.point.toNat

/-- The number as it is written. -/
def text : Double → Text
  | .finite negative mantissa exponent =>
    (if negative then ['-'] else []) ++
      if mantissa == 0 then "0.0".toList else (digits mantissa exponent).text
  | .infinite negative => if negative then "-inf".toList else "inf".toList
  | .nan => "nan".toList

end Double

end Bindery
