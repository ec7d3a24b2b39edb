import Bindery.Decimal.Double
import Bindery.Text.Utf8

namespace Bindery.Json

/-- A sequence of bytes. -/
abbrev Bytes := List UInt8

/-- The bytes of an ASCII word. -/
def ascii (word : String) : Bytes :=
  word.toList.map fun c => UInt8.ofNat c.toNat

/-- A token. -/
inductive Token
  | openArray
  | closeArray
  | openObject
  | closeObject
  | comma
  | colon
  | null
  | bool (value : Bool)
  /-- A number without fraction and exponent that fits into 64 bits. -/
  | int
  /-- Any other number, which is infinite if it is too great. -/
  | float (value : Double)
  | string (bytes : Bytes)
  | bad
  deriving DecidableEq, Repr

/-- The rest of a text that begins with a word. -/
def afterWord? : (word : Bytes) → Bytes → Option Bytes
  | [], s => some s
  | _ :: _, [] => none
  | a :: word, b :: s => if a == b then afterWord? word s else none

theorem length_of_afterWord? {word s rest : Bytes} (h : afterWord? word s = some rest) :
    s.length = word.length + rest.length := by
  induction word generalizing s with
  | nil => cases h; simp
  | cons a word ih =>
    cases s with
    | nil => simp [afterWord?] at h
    | cons b s =>
      rw [afterWord?] at h
      split at h
      · simp only [List.length_cons, ih h]
        omega
      · simp at h

/-- Whether the byte is a decimal digit. -/
def isDigit (b : UInt8) : Bool :=
  48 ≤ b.toNat && b.toNat ≤ 57

/-- The number that a run of digits stands for. -/
def ofDigits (digits : Bytes) : Nat :=
  digits.foldl (fun n b => 10 * n + (b.toNat - 48)) 0

/-- The rest after at least one digit. -/
def afterDigits? (s : Bytes) : Option Bytes :=
  match s with
  | b :: _ => if isDigit b then some (s.dropWhile isDigit) else none
  | [] => none

/-- The digits of a fraction, if there is one, and the rest after it. -/
def fraction? : Bytes → Option (Option Bytes × Bytes)
  | [] => some (none, [])
  | b :: s =>
    if b == 46 then (afterDigits? s).map (some (s.takeWhile isDigit), ·) else some (none, b :: s)

/-- The power of ten that digits behind a sign stand for, and the rest after them. -/
def power? (sign : UInt8) (s : Bytes) : Option (Int × Bytes) :=
  (afterDigits? s).map fun rest =>
    let power : Int := ofDigits (s.takeWhile isDigit)
    (if sign == 45 then -power else power, rest)

/-- The power of ten of an exponent, if there is one, and the rest after it. -/
def exponent? : Bytes → Option (Option Int × Bytes)
  | b :: s =>
    if b == 101 || b == 69 then
      match s with
      | sign :: t =>
        (power? sign (if sign == 43 || sign == 45 then t else s)).map (Prod.map some id)
      | [] => none
    else some (none, b :: s)
  | [] => some (none, [])

/-- Whether a number has 64 bits at most, as a signed or as an unsigned one. -/
def fits (negative : Bool) (n : Nat) : Bool :=
  if negative then n ≤ Nat.pow 2 63 else n < Nat.pow 2 64

/-- The number with the given digits before the point, and behind it with a power of ten if these
    are there. -/
def ofParts (negative : Bool) (whole : Bytes) (fraction : Option Bytes) (power : Option Int) :
    Token :=
  if fraction.isNone && power.isNone && fits negative (ofDigits whole) then .int
  else
    let behind := fraction.getD []
    .float (Double.ofDecimal negative (ofDigits (whole ++ behind))
      (power.getD 0 - behind.length))

/-- The number that the digits of a text begin, without its sign, and what follows it. A zero at
    the beginning is the whole integral part. -/
def unsigned? (negative : Bool) (s : Bytes) : Option (Token × Bytes) :=
  let digits := s.takeWhile isDigit
  if digits.head? == some 48 && 1 < digits.length then none
  else
    (afterDigits? s).bind fun rest =>
      (fraction? rest).bind fun (fraction, rest) =>
        (exponent? rest).map fun (power, rest) => (ofParts negative digits fraction power, rest)

/-- A number and what follows it. -/
def number? : Bytes → Option (Token × Bytes)
  | [] => none
  | b :: s => if b == 45 then unsigned? true s else unsigned? false (b :: s)

/-- The value of a hexadecimal digit. -/
def hexValue? (b : UInt8) : Option Nat :=
  let c := Char.ofNat b.toNat
  if Text.isHexDigit c then some (Text.hexValue c) else none

/-- The value of four hexadecimal digits, and what follows them. -/
def codeUnit? : Bytes → Option (Nat × Bytes)
  | a :: b :: c :: d :: rest => do
    return (((← hexValue? a) * 16 + (← hexValue? b)) * 256 + (← hexValue? c) * 16 +
      (← hexValue? d), rest)
  | _ => none

/-- The second half of a character outside the basic plane, as an escape of its own. -/
def lowHalf? (s : Bytes) : Option (Nat × Bytes) :=
  (afterWord? (ascii "\\u") s).bind fun rest =>
    (codeUnit? rest).filter fun (low, _) => 0xDC00 ≤ low && low < 0xE000

/-- The character of an escape with hexadecimal digits, and what follows the escape. -/
def escapedCode? (s : Bytes) : Option (Char × Bytes) :=
  (codeUnit? s).bind fun (high, rest) =>
    if high < 0xD800 || 0xE000 ≤ high then some (Char.ofNat high, rest)
    else if high < 0xDC00 then
      (lowHalf? rest).map fun (low, rest) =>
        (Char.ofNat (0x10000 + (high - 0xD800) * 1024 + (low - 0xDC00)), rest)
    else none

/-- The bytes that an escape of one letter stands for. -/
def escapedLetter? (b : UInt8) : Option UInt8 :=
  ([(34, 34), (92, 92), (47, 47), (98, 8), (102, 12), (110, 10), (114, 13), (116, 9)] :
    List (UInt8 × UInt8)).lookup b

/-- The bytes of a character. -/
def encode (c : Char) : Bytes :=
  (String.singleton c).toUTF8.toList

/-- The first character or escape of a string, and what follows it. -/
def stringStep? : Bytes → Option (Bytes × Bytes)
  | [] => none
  | b :: s =>
    if b == 92 then
      match s with
      | [] => none
      | c :: s =>
        if c == 117 then (escapedCode? s).map (Prod.map encode id)
        else (escapedLetter? c).map fun d => ([d], s)
    else if b.toNat < 32 then none
    else some ([b], s)

theorem length_of_codeUnit? {s rest : Bytes} {n : Nat} (h : codeUnit? s = some (n, rest)) :
    rest.length < s.length := by
  unfold codeUnit? at h
  split at h
  · simp only [Option.pure_def, Option.bind_eq_bind, Option.bind_eq_some_iff, Option.some.injEq,
      Prod.mk.injEq] at h
    obtain ⟨_, _, _, _, _, _, _, _, _, rfl⟩ := h
    simp only [List.length_cons]
    omega
  · simp at h

theorem length_of_lowHalf? {s rest : Bytes} {n : Nat} (h : lowHalf? s = some (n, rest)) :
    rest.length < s.length := by
  obtain ⟨r, hr, h⟩ := Option.bind_eq_some_iff.1 h
  have := length_of_codeUnit? (Option.filter_eq_some_iff.1 h).1
  have := length_of_afterWord? hr
  omega

theorem length_of_escapedCode? {s rest : Bytes} {c : Char} (h : escapedCode? s = some (c, rest)) :
    rest.length < s.length := by
  obtain ⟨⟨high, r⟩, hr, h⟩ := Option.bind_eq_some_iff.1 h
  have h₁ := length_of_codeUnit? hr
  simp only at h
  split at h
  · obtain ⟨-, rfl⟩ := Prod.mk.inj (Option.some.inj h)
    exact h₁
  · split at h
    · obtain ⟨⟨low, r'⟩, hr', heq⟩ := Option.map_eq_some_iff.1 h
      obtain ⟨-, rfl⟩ := Prod.mk.inj heq
      exact Nat.lt_trans (length_of_lowHalf? hr') h₁
    · simp at h

theorem length_of_stringStep? {s bytes rest : Bytes} (h : stringStep? s = some (bytes, rest)) :
    rest.length < s.length := by
  unfold stringStep? at h
  split at h
  · simp at h
  · split at h
    · split at h
      · simp at h
      · split at h
        · obtain ⟨⟨c, r⟩, hc, heq⟩ := Option.map_eq_some_iff.1 h
          obtain ⟨-, rfl⟩ := Prod.mk.inj heq
          have := length_of_escapedCode? hc
          simp only [List.length_cons, id_eq]
          omega
        · obtain ⟨c, -, heq⟩ := Option.map_eq_some_iff.1 h
          obtain ⟨-, rfl⟩ := Prod.mk.inj heq
          simp only [List.length_cons]
          omega
    · split at h
      · simp at h
      · obtain ⟨-, rfl⟩ := Prod.mk.inj (Option.some.inj h)
        simp

/-- The bytes of a string up to its closing quote, and what follows the quote. -/
def stringBody? (s : Bytes) : Option (Bytes × Bytes) :=
  if s.head? == some 34 then some ([], s.drop 1)
  else
    match _h : stringStep? s with
    | some (bytes, rest) => (stringBody? rest).map (Prod.map (bytes ++ ·) id)
    | none => none
termination_by s.length
decreasing_by exact length_of_stringStep? _h

/-- Whether the byte may stand between tokens. -/
def isSpace (b : UInt8) : Bool :=
  b == 32 || b == 9 || b == 10 || b == 13

/-- The tokens of one byte. -/
def punctuation : List (UInt8 × Token) :=
  [(91, .openArray), (93, .closeArray), (123, .openObject), (125, .closeObject), (44, .comma),
   (58, .colon)]

/-- The tokens that are words. -/
def words : List (Bytes × Token) :=
  [(ascii "null", .null), (ascii "true", .bool true), (ascii "false", .bool false)]

/-- A word, and what follows it. -/
def word? (s : Bytes) : Option (Token × Bytes) :=
  words.findSome? fun (word, token) => (afterWord? word s).map (token, ·)

/-- The token at the beginning of a text, and what follows it. -/
def token? : Bytes → Option (Token × Bytes)
  | [] => none
  | b :: s =>
    match punctuation.lookup b with
    | some token => some (token, s)
    | none =>
      if b == 34 then (stringBody? s).map (Prod.map .string id)
      else (number? (b :: s)).or (word? (b :: s))

theorem length_of_stringBody? {s bytes rest : Bytes} (h : stringBody? s = some (bytes, rest)) :
    rest.length ≤ s.length := by
  fun_induction stringBody? s generalizing bytes with
  | case1 s _ =>
    obtain ⟨-, rfl⟩ := Prod.mk.inj (Option.some.inj h)
    exact (List.drop_suffix 1 s).length_le
  | case2 s _ b r hstep ih =>
    obtain ⟨⟨b', r'⟩, hr, heq⟩ := Option.map_eq_some_iff.1 h
    obtain ⟨-, rfl⟩ := Prod.mk.inj heq
    exact Nat.le_trans (ih hr) (Nat.le_of_lt (length_of_stringStep? hstep))
  | case3 => simp at h

theorem length_of_afterDigits? {s rest : Bytes} (h : afterDigits? s = some rest) :
    rest.length < s.length := by
  unfold afterDigits? at h
  split at h
  · next b t =>
    split at h
    · next hb =>
      cases h
      rw [List.dropWhile_cons, if_pos hb]
      exact Nat.lt_succ_of_le (List.dropWhile_suffix _).length_le
    · simp at h
  · simp at h

theorem length_of_fraction? {s rest : Bytes} {digits : Option Bytes}
    (h : fraction? s = some (digits, rest)) : rest.length ≤ s.length := by
  unfold fraction? at h
  split at h
  · obtain ⟨-, rfl⟩ := Prod.mk.inj (Option.some.inj h)
    exact Nat.le_refl _
  split at h
  · obtain ⟨r, hr, heq⟩ := Option.map_eq_some_iff.1 h
    obtain ⟨-, rfl⟩ := Prod.mk.inj heq
    have := length_of_afterDigits? hr
    simp only [List.length_cons]
    omega
  · obtain ⟨-, rfl⟩ := Prod.mk.inj (Option.some.inj h)
    exact Nat.le_refl _

theorem length_of_power? {sign : UInt8} {s rest : Bytes} {power : Int}
    (h : power? sign s = some (power, rest)) : rest.length < s.length := by
  obtain ⟨r, hr, heq⟩ := Option.map_eq_some_iff.1 h
  obtain ⟨-, rfl⟩ := Prod.mk.inj heq
  exact length_of_afterDigits? hr

theorem length_of_exponent? {s rest : Bytes} {power : Option Int}
    (h : exponent? s = some (power, rest)) : rest.length ≤ s.length := by
  unfold exponent? at h
  split at h
  · split at h
    · split at h
      · obtain ⟨⟨p, r⟩, hr, heq⟩ := Option.map_eq_some_iff.1 h
        obtain ⟨-, rfl⟩ := Prod.mk.inj heq
        have hlt := length_of_power? hr
        simp only [List.length_cons, id_eq]
        split at hlt
        · omega
        · simp only [List.length_cons] at hlt
          omega
      · simp at h
    · obtain ⟨-, rfl⟩ := Prod.mk.inj (Option.some.inj h)
      exact Nat.le_refl _
  · obtain ⟨-, rfl⟩ := Prod.mk.inj (Option.some.inj h)
    exact Nat.le_refl _

theorem length_of_unsigned? {negative : Bool} {s rest : Bytes} {token : Token}
    (h : unsigned? negative s = some (token, rest)) : rest.length < s.length := by
  rw [unsigned?] at h
  split at h
  · simp at h
  · obtain ⟨r₁, h₁, h⟩ := Option.bind_eq_some_iff.1 h
    obtain ⟨⟨f, r₂⟩, h₂, h⟩ := Option.bind_eq_some_iff.1 h
    obtain ⟨⟨e, r₃⟩, h₃, heq⟩ := Option.map_eq_some_iff.1 h
    obtain ⟨-, rfl⟩ := Prod.mk.inj heq
    have l₁ := length_of_afterDigits? h₁
    have l₂ := length_of_fraction? h₂
    have l₃ := length_of_exponent? h₃
    omega

theorem length_of_number? {s rest : Bytes} {token : Token} (h : number? s = some (token, rest)) :
    rest.length < s.length := by
  unfold number? at h
  split at h
  · simp at h
  · split at h
    · exact Nat.lt_succ_of_lt (length_of_unsigned? h)
    · exact length_of_unsigned? h

theorem length_of_word? {s rest : Bytes} {token : Token} (h : word? s = some (token, rest)) :
    rest.length < s.length := by
  obtain ⟨⟨w, t⟩, hw, h⟩ := List.exists_of_findSome?_eq_some h
  obtain ⟨r, hr, heq⟩ := Option.map_eq_some_iff.1 h
  obtain ⟨-, rfl⟩ := Prod.mk.inj heq
  have hlen : w.length ≠ 0 := by
    simp only [words, List.mem_cons, Prod.mk.injEq, List.not_mem_nil, or_false] at hw
    rcases hw with ⟨rfl, -⟩ | ⟨rfl, -⟩ | ⟨rfl, -⟩ <;> simp [ascii]
  have := length_of_afterWord? hr
  omega

theorem length_of_token? {s rest : Bytes} {token : Token} (h : token? s = some (token, rest)) :
    rest.length < s.length := by
  unfold token? at h
  split at h
  · simp at h
  · split at h
    · obtain ⟨-, rfl⟩ := Prod.mk.inj (Option.some.inj h)
      simp
    · split at h
      · obtain ⟨⟨b', r⟩, hr, heq⟩ := Option.map_eq_some_iff.1 h
        obtain ⟨-, rfl⟩ := Prod.mk.inj heq
        exact Nat.lt_succ_of_le (length_of_stringBody? hr)
      · rcases Option.or_eq_some_iff.1 h with h | ⟨-, h⟩
        · exact length_of_number? h
        · exact length_of_word? h

/-- The tokens of a text, up to the first place where there is none. -/
def tokens (s : Bytes) : List Token :=
  match _h : token? (s.dropWhile isSpace) with
  | some (token, rest) => token :: tokens rest
  | none => if (s.dropWhile isSpace).isEmpty then [] else [.bad]
termination_by s.length
decreasing_by
  exact Nat.lt_of_lt_of_le (length_of_token? _h) (List.dropWhile_suffix _).length_le

end Bindery.Json
