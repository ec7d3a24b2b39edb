import Bindery.Pairs
import Bindery.Text.Casing

namespace Bindery.Markup

open Text

/-- Characters with which the name of a tag goes on. -/
def isNameChar (c : Char) : Bool :=
  isWord c || c == '.'

/-- Characters with which the key of an attribute begins. -/
def isKeyStart (c : Char) : Bool :=
  c.isAlpha || c == '_' || c == ':'

/-- Characters with which the key of an attribute goes on. -/
def isKeyChar (c : Char) : Bool :=
  isWord c || c == ':' || c == '.' || c == '-'

/-- The name of a tag. -/
def name? : Text → Option (Text × Text)
  | [] => none
  | c :: s =>
    if c.isAlpha then some (c :: s.takeWhile isNameChar, s.dropWhile isNameChar) else none

theorem name?_suffix {s name rest : Text} (h : name? s = some (name, rest)) : rest <:+ s := by
  cases s with
  | nil => simp [name?] at h
  | cons c s =>
    rw [name?] at h
    split at h <;> simp only [Option.some.injEq, Prod.mk.injEq, reduceCtorEq] at h
    exact h.2 ▸ (List.dropWhile_suffix _).trans (List.suffix_cons c s)

/-- The text up to the first of a character, and what follows that. -/
def upTo? (c : Char) : Text → Option (Text × Text)
  | [] => none
  | d :: s =>
    if d == c then some ([], s)
    else (upTo? c s).map fun (before, rest) => (d :: before, rest)

theorem upTo?_suffix {c : Char} {s before rest : Text} (h : upTo? c s = some (before, rest)) :
    rest <:+ s := by
  induction s generalizing before with
  | nil => simp [upTo?] at h
  | cons d s ih =>
    rw [upTo?] at h
    split at h
    · simp only [Option.some.injEq, Prod.mk.injEq] at h
      exact h.2 ▸ List.suffix_cons d s
    · obtain ⟨⟨b, r⟩, hs, heq⟩ := Option.map_eq_some_iff.1 h
      obtain ⟨-, rfl⟩ := Prod.mk.inj heq
      exact (ih hs).trans (List.suffix_cons d s)

/-- The text up to the closing brace. Braces inside come in pairs that hold no others; the flag
    says whether the text starts within such a pair. -/
def braced? : (inner : Bool) → Text → Option (Text × Text)
  | _, [] => none
  | inner, c :: s =>
    if c == '\x7d' && !inner then some ([], s)
    else if c == '\x7b' && inner then none
    else
      let inner := c == '\x7b' || (inner && c != '\x7d')
      (braced? inner s).map fun (before, rest) => (c :: before, rest)

theorem braced?_suffix {inner : Bool} {s before rest : Text}
    (h : braced? inner s = some (before, rest)) : rest <:+ s := by
  induction s generalizing inner before with
  | nil => simp [braced?] at h
  | cons c s ih =>
    rw [braced?] at h
    split at h
    · simp only [Option.some.injEq, Prod.mk.injEq] at h
      exact h.2 ▸ List.suffix_cons c s
    · split at h
      · simp at h
      · obtain ⟨⟨b, r⟩, hs, heq⟩ := Option.map_eq_some_iff.1 h
        obtain ⟨-, rfl⟩ := Prod.mk.inj heq
        exact (ih hs).trans (List.suffix_cons c s)

/-- The text of an expression: without blanks at its ends, and without the quotes when it is one
    quoted string. -/
def expressionText (s : Text) : Text :=
  match trim s with
  | c :: d :: rest =>
    if (c == '\x22' || c == '\x27' || c == '\x60') && (d :: rest).getLast? == some c then
      (d :: rest).dropLast
    else c :: d :: rest
  | short => short

/-- The value of an attribute: an equals sign, then a quoted text or an expression in braces. -/
def value? (s : Text) : Option (Text × Text) :=
  match s.dropWhile isBlank with
  | '=' :: s =>
    match s.dropWhile isBlank with
    | '\x22' :: s => upTo? '\x22' s
    | '\x27' :: s => upTo? '\x27' s
    | '\x7b' :: s => (braced? false s).map fun (inside, rest) => (expressionText inside, rest)
    | _ => none
  | _ => none

theorem value?_suffix {s value rest : Text} (h : value? s = some (value, rest)) : rest <:+ s := by
  have drop : ∀ {c : Char} {t u : Text}, u.dropWhile isBlank = c :: t → t <:+ u := fun {c t u} hu =>
    (List.suffix_cons c t).trans (hu ▸ List.dropWhile_suffix _)
  unfold value? at h
  split at h
  · next s₁ h₁ =>
    split at h
    · next s₂ h₂ => exact (upTo?_suffix h).trans ((drop h₂).trans (drop h₁))
    · next s₂ h₂ => exact (upTo?_suffix h).trans ((drop h₂).trans (drop h₁))
    · next s₂ h₂ =>
      obtain ⟨⟨b, r⟩, hs, heq⟩ := Option.map_eq_some_iff.1 h
      obtain ⟨-, rfl⟩ := Prod.mk.inj heq
      exact (braced?_suffix hs).trans ((drop h₂).trans (drop h₁))
    · simp at h
  · simp at h

/-- The value of an attribute that is written without one. -/
def bareValue : Text :=
  ['t', 'r', 'u', 'e']

/-- An attribute: its key and its value. -/
def attribute? : Text → Option ((Text × Text) × Text)
  | [] => none
  | c :: s =>
    if isKeyStart c then
      let key := c :: s.takeWhile isKeyChar
      let after := s.dropWhile isKeyChar
      match value? after with
      | some (value, rest) => some ((key, value), rest)
      | none => some ((key, bareValue), after)
    else none

theorem length_of_attribute? {s rest : Text} {a : Text × Text}
    (h : attribute? s = some (a, rest)) : rest.length < s.length := by
  cases s with
  | nil => simp [attribute?] at h
  | cons c s =>
    have drop := (List.dropWhile_suffix (l := s) isKeyChar).length_le
    rw [attribute?] at h
    split at h
    · simp only at h
      split at h
      · next value r hv =>
        simp only [Option.some.injEq, Prod.mk.injEq] at h
        have := (value?_suffix hv).length_le
        rw [← h.2, List.length_cons]
        omega
      · simp only [Option.some.injEq, Prod.mk.injEq] at h
        rw [← h.2, List.length_cons]
        omega
    · simp at h

/-- The attributes of a tag, each after at least one blank, and what follows them. -/
def attributes (s : Text) : List (Text × Text) × Text :=
  let after := s.dropWhile isBlank
  if h : after.length < s.length then
    match ha : attribute? after with
    | some (a, rest) =>
      have := Nat.lt_trans (length_of_attribute? ha) h
      let (others, rest) := attributes rest
      (a :: others, rest)
    | none => ([], s)
  else ([], s)
termination_by s.length

theorem length_attributes_le (s : Text) : (attributes s).2.length ≤ s.length := by
  fun_induction attributes s with
  | case1 s after h a rest ha hlt others rest' heq ih =>
    rw [heq] at ih
    exact Nat.le_trans ih (Nat.le_of_lt hlt)
  | case2 => exact Nat.le_refl _
  | case3 => exact Nat.le_refl _

/-- The attributes that stand anywhere in a text, whatever stands between them. -/
def attributesIn (s : Text) : List (Text × Text) :=
  match s with
  | [] => []
  | c :: s =>
    match _ha : attribute? (c :: s) with
    | some (a, rest) => a :: attributesIn rest
    | none => attributesIn s
termination_by s.length
decreasing_by
  · exact length_of_attribute? _ha
  · exact Nat.lt_succ_self _

/-- A tag that opens an element, or is a whole element by itself. -/
structure OpenTag where
  name : Text
  attributes : Pairs
  /-- Whether the tag closes itself. -/
  closed : Bool
  deriving DecidableEq, Repr

/-- An opening tag. -/
def openTag? : Text → Option (OpenTag × Text)
  | '<' :: s =>
    match name? s with
    | some (name, s) =>
      let (pairs, s) := attributes s
      match s.dropWhile isBlank with
      | '/' :: '>' :: rest => some (⟨name, Pairs.ofList pairs, true⟩, rest)
      | '>' :: rest => some (⟨name, Pairs.ofList pairs, false⟩, rest)
      | _ => none
    | none => none
  | _ => none

theorem length_of_openTag? {s rest : Text} {tag : OpenTag}
    (h : openTag? s = some (tag, rest)) : rest.length < s.length := by
  unfold openTag? at h
  split at h
  · next s =>
    split at h
    · next name s' hn =>
      have hname := (name?_suffix hn).length_le
      have hattrs := length_attributes_le s'
      have hdrop := (List.dropWhile_suffix (l := (attributes s').2) isBlank).length_le
      simp only at h
      split at h
      · next heq =>
        rw [heq] at hdrop
        simp only [Option.some.injEq, Prod.mk.injEq] at h
        simp only [List.length_cons, ← h.2] at hdrop ⊢
        omega
      · next heq =>
        rw [heq] at hdrop
        simp only [Option.some.injEq, Prod.mk.injEq] at h
        simp only [List.length_cons, ← h.2] at hdrop ⊢
        omega
      · simp at h
    · simp at h
  · simp at h

/-- A closing tag: its name. -/
def closeTag? : Text → Option (Text × Text)
  | '<' :: '/' :: s =>
    match name? s with
    | some (name, s) =>
      match s.dropWhile isBlank with
      | '>' :: rest => some (name, rest)
      | _ => none
    | none => none
  | _ => none

theorem length_of_closeTag? {s name rest : Text} (h : closeTag? s = some (name, rest)) :
    rest.length < s.length := by
  unfold closeTag? at h
  split at h
  · next s =>
    split at h
    · next name' s' hn =>
      have hname := (name?_suffix hn).length_le
      have hdrop := (List.dropWhile_suffix (l := s') isBlank).length_le
      split at h
      · next heq =>
        rw [heq] at hdrop
        simp only [Option.some.injEq, Prod.mk.injEq] at h
        simp only [List.length_cons, ← h.2] at hdrop ⊢
        omega
      · simp at h
    · simp at h
  · simp at h

/-- Tags of the common hypertext vocabulary; any other tag with a small first letter is prose, such
    as a placeholder in angle brackets. -/
def hypertextNames : List Text :=
  ["a", "abbr", "b", "br", "center", "code", "details", "div", "em", "figcaption", "figure", "hr",
   "i", "iframe", "img", "kbd", "p", "picture", "small", "source", "span", "strong", "sub",
   "summary", "sup", "u", "video"].map String.toList

/-- Tags that stay within a line even when they open one. -/
def lineNames : List Text :=
  ["a", "b", "code", "em", "i", "kbd", "small", "span", "strong", "sub", "sup", "Tooltip",
   "u"].map String.toList

/-- Whether a tag of this name is markup: a component, which begins with a capital letter, or a
    tag of the hypertext vocabulary. -/
def isComponent (name : Text) : Bool :=
  (name.head?.any isUppercase) || hypertextNames.contains (toLower name)

end Bindery.Markup
