import Bindery.Text.Integer

namespace Bindery.Url

open Text

/-- One number of a dotted address: at most 255 and without a leading zero. -/
def isOctet (s : Text) : Bool :=
  !s.isEmpty && s.all Char.isDigit && s.length ≤ 3 && (s == ['0'] || s.head? != some '0') &&
    ofDigits (s.map (·.toNat - 48)) ≤ 255

/-- Whether the text is four numbers with dots between them. -/
def isDotted (s : Text) : Bool :=
  let parts := splitOn '.' s
  parts.length == 4 && parts.all isOctet

/-- A group of a long address: up to four hexadecimal digits. -/
def isGroup (s : Text) : Bool :=
  s.all isHexDigit && s.length ≤ 4

/-- The groups of a long address, a dotted ending put as two groups. -/
def groups? (s : Text) : Option (List Text) :=
  let parts := splitOn ':' s
  if parts.length < 3 then none
  else
    match parts.getLast? with
    | some last =>
      if last.contains '.' then
        if isDotted last then some (parts.dropLast ++ [['0'], ['0']]) else none
      else some parts
    | none => none

/-- Whether the groups make an address. An empty group between two others stands for the groups
    left out; an empty first or last group is only good next to it. -/
def areGroups (parts : List Text) : Bool :=
  let inner := (parts.drop 1).dropLast
  if parts.length > 9 then false
  else
    match inner.findIdx? List.isEmpty with
    | none =>
      parts.length == 8 && parts.head? != some [] && parts.getLast? != some [] && parts.all isGroup
    | some i =>
      let high := parts.take (i + 1)
      let low := parts.drop (i + 2)
      let high := if high.head? == some [] then high.drop 1 else high
      let low := if low.getLast? == some [] then low.dropLast else low
      (inner.countP List.isEmpty == 1) &&
        (parts.head? != some [] || high.isEmpty) && (parts.getLast? != some [] || low.isEmpty) &&
        high.length + low.length ≤ 7 && high.all isGroup && low.all isGroup

/-- Whether the text is a long address, with or without a zone after a percent sign. -/
def isLongAddress (s : Text) : Bool :=
  if s.contains '/' then false
  else
    match cutAt? ['%'] s with
    | some (address, zone) =>
      !zone.isEmpty && !zone.contains '%' && (groups? address).any areGroups
    | none => (groups? s).any areGroups

end Bindery.Url
