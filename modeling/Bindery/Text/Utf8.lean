import Bindery.Text.Basic

namespace Bindery.Text

/-- The value of a byte that continues a character. -/
def continuation? (b : UInt8) : Option Nat :=
  if 0x80 ≤ b.toNat && b.toNat < 0xC0 then some (b.toNat - 0x80) else none

/-- The first character of a byte sequence with what follows it. -/
def decodeChar? : List UInt8 → Option (Char × List UInt8)
  | [] => none
  | a :: rest =>
    let lead := a.toNat
    if lead < 0x80 then some (Char.ofNat lead, rest)
    else if 0xC2 ≤ lead && lead < 0xE0 then
      match rest with
      | b :: rest => do
        let x ← continuation? b
        some (Char.ofNat ((lead - 0xC0) * 64 + x), rest)
      | [] => none
    else if 0xE0 ≤ lead && lead < 0xF0 then
      match rest with
      | b :: c :: rest => do
        let n := ((lead - 0xE0) * 64 + (← continuation? b)) * 64 + (← continuation? c)
        if 0x800 ≤ n && !(0xD800 ≤ n && n < 0xE000) then some (Char.ofNat n, rest) else none
      | _ => none
    else if 0xF0 ≤ lead && lead < 0xF5 then
      match rest with
      | b :: c :: d :: rest => do
        let n := (((lead - 0xF0) * 64 + (← continuation? b)) * 64 + (← continuation? c)) * 64 +
          (← continuation? d)
        if 0x10000 ≤ n && n < 0x110000 then some (Char.ofNat n, rest) else none
      | _ => none
    else none

theorem length_of_decodeChar? {bytes rest : List UInt8} {c : Char}
    (h : decodeChar? bytes = some (c, rest)) : rest.length < bytes.length := by
  unfold decodeChar? at h
  split at h
  · simp at h
  · simp only at h
    repeat' split at h
    all_goals
      simp only [Option.bind_eq_bind, Option.bind_eq_some_iff, Option.some.injEq,
        Prod.mk.injEq, reduceCtorEq] at h
    all_goals grind

/-- The text that the bytes encode, if they encode one. -/
def ofUtf8? (bytes : List UInt8) : Option Text :=
  match _h : decodeChar? bytes with
  | some (c, rest) => (ofUtf8? rest).map (c :: ·)
  | none => if bytes.isEmpty then some [] else none
termination_by bytes.length
decreasing_by exact length_of_decodeChar? _h

/-- The bytes that encode a text. -/
def toUtf8 (s : Text) : List UInt8 :=
  s.flatMap String.utf8EncodeChar

end Bindery.Text
