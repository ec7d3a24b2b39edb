import Bindery.Text.Class

namespace Bindery

/-- A text, one entry for each code point. -/
abbrev Text := List Char

namespace Text

/-- The text without its longest end that lies in the class. -/
def dropEndWhile (p : Char → Bool) : Text → Text
  | [] => []
  | c :: rest =>
    match dropEndWhile p rest with
    | [] => if p c then [] else [c]
    | kept => c :: kept

theorem length_dropEndWhile_le (p : Char → Bool) (s : Text) :
    (dropEndWhile p s).length ≤ s.length := by
  induction s with
  | nil => simp [dropEndWhile]
  | cons c rest ih =>
    rw [dropEndWhile]
    split
    · split <;> simp
    · simpa using ih

/-- The text without the class at its beginning and at its end. -/
def trimClass (p : Char → Bool) (s : Text) : Text :=
  dropEndWhile p (s.dropWhile p)

theorem length_trimClass_le (p : Char → Bool) (s : Text) :
    (trimClass p s).length ≤ s.length :=
  Nat.le_trans (length_dropEndWhile_le p _) (List.dropWhile_suffix p).length_le

/-- The text without blanks at its end. -/
def trimEnd (s : Text) : Text :=
  dropEndWhile isBlank s

/-- The text without blanks at its ends. -/
def trim (s : Text) : Text :=
  trimClass isBlank s

/-- Whether the text holds nothing but blanks. -/
def allBlank (s : Text) : Bool :=
  s.all isBlank

/-- The first line, without the newline that ends it. -/
def line (s : Text) : Text :=
  s.takeWhile (· != '\n')

/-- What follows the first line and its newline. -/
def afterLine (s : Text) : Text :=
  (s.dropWhile (· != '\n')).drop 1

/-- The first line with the newline that ends it, where there is one, followed by the rest. -/
theorem line_append (s : Text) :
    line s ++ s.dropWhile (· != '\n') = s :=
  List.takeWhile_append_dropWhile

theorem afterLine_suffix (s : Text) : afterLine s <:+ s :=
  (List.drop_suffix 1 _).trans (List.dropWhile_suffix _)

theorem length_afterLine_lt {s : Text} (h : s ≠ []) : (afterLine s).length < s.length := by
  obtain ⟨c, rest, rfl⟩ := List.exists_cons_of_ne_nil h
  rw [afterLine, List.dropWhile_cons]
  split
  · have := (List.dropWhile_suffix (l := rest) (· != '\n')).length_le
    simp only [List.length_drop, List.length_cons]
    omega
  · simp

/-- The pieces between the occurrences of a character; there is always one more than of it. -/
def splitOn (sep : Char) : Text → List Text
  | [] => [[]]
  | c :: rest =>
    if c == sep then [] :: splitOn sep rest
    else
      match splitOn sep rest with
      | [] => [[c]]
      | first :: others => (c :: first) :: others

/-- The lines of a text, cut at every newline. -/
def lines (s : Text) : List Text :=
  splitOn '\n' s

/-- The texts one after the other, with a separator between them. -/
def joinWith (sep : Text) : List Text → Text
  | [] => []
  | [part] => part
  | part :: next :: rest => part ++ sep ++ joinWith sep (next :: rest)

/-- Whether there is nothing but blanks before the next line. -/
def restOfLineIsBlank (s : Text) : Bool :=
  allBlank (line s)

/-- What follows the given beginning, if the text has it. -/
def afterStart? : (start : Text) → Text → Option Text
  | [], s => some s
  | _ :: _, [] => none
  | c :: start, d :: s => if c == d then afterStart? start s else none

theorem eq_append_of_afterStart? {start s rest : Text} (h : afterStart? start s = some rest) :
    s = start ++ rest := by
  induction start generalizing s with
  | nil => simpa [afterStart?] using h
  | cons c start ih =>
    cases s with
    | nil => simp [afterStart?] at h
    | cons d s =>
      rw [afterStart?] at h
      split at h
      · next hc => rw [eq_of_beq hc, ih h, List.cons_append]
      · simp at h

theorem length_of_afterStart? {start s rest : Text} (h : afterStart? start s = some rest) :
    s.length = start.length + rest.length := by
  rw [eq_append_of_afterStart? h, List.length_append]

/-- What lies before the first occurrence of a word and what follows it. -/
def cutAt? (word : Text) : Text → Option (Text × Text)
  | [] => if word.isEmpty then some ([], []) else none
  | c :: s =>
    match afterStart? word (c :: s) with
    | some rest => some ([], rest)
    | none => (cutAt? word s).map fun (before, rest) => (c :: before, rest)

theorem eq_append_of_cutAt? {word s before rest : Text} (h : cutAt? word s = some (before, rest)) :
    s = before ++ word ++ rest := by
  induction s generalizing before with
  | nil =>
    simp only [cutAt?] at h
    split at h <;> simp_all
  | cons c s ih =>
    rw [cutAt?] at h
    split at h
    · next hstart =>
      obtain ⟨rfl, rfl⟩ : [] = before ∧ _ = rest := by simpa using h
      simpa using eq_append_of_afterStart? hstart
    · obtain ⟨⟨b, r⟩, hcut, heq⟩ := Option.map_eq_some_iff.1 h
      obtain ⟨rfl, rfl⟩ : c :: b = before ∧ r = rest := by simpa using heq
      rw [ih hcut]
      simp

/-- The text with every occurrence of a character put as the given text. -/
def replaceChar (c : Char) (replacement : Text) (s : Text) : Text :=
  s.flatMap fun d => if d == c then replacement else [d]

/-- The text with every occurrence of a word, from left to right, put as the given text. -/
def replace (word replacement s : Text) : Text :=
  if _hword : word = [] then s
  else
    match _h : cutAt? word s with
    | some (before, rest) => before ++ replacement ++ replace word replacement rest
    | none => s
termination_by s.length
decreasing_by
  have := List.length_pos_iff.2 _hword
  rw [eq_append_of_cutAt? _h]
  simp only [List.length_append]
  omega

/-- The text with a carriage return, or one followed by a newline, put as a newline. -/
def normalizeNewlines : Text → Text
  | [] => []
  | '\r' :: '\n' :: rest => '\n' :: normalizeNewlines rest
  | '\r' :: rest => '\n' :: normalizeNewlines rest
  | c :: rest => c :: normalizeNewlines rest

/-- The text with a carriage return before a newline dropped. -/
def dropReturns : Text → Text
  | [] => []
  | '\r' :: '\n' :: rest => '\n' :: dropReturns rest
  | c :: rest => c :: dropReturns rest

end Text

end Bindery
