import Bindery.Markup.Closing
import Bindery.Markup.CodeSpan
import Bindery.Markup.Comment
import Bindery.Markup.Emphasis
import Bindery.Markup.Reference

namespace Bindery.Markup

open Text

/-- A construct within a line. -/
inductive Span
  | code (code : Text)
  | image (alt src : Text)
  | link (text url : Text)
  | emphasis (strength : Strength) (inside : Text)
  | element (name : Text) (attributes : Pairs) (inside : Text)
  /-- A character after the backslash that makes it prose. -/
  | escaped (c : Char)
  /-- A comment, or a tag without a partner; nothing of it is shown. -/
  | hidden
  deriving DecidableEq, Repr

namespace Span

/-- The text of a construct that is read for further constructs. -/
def inside : Span → Text
  | .emphasis _ inside => inside
  | .element _ _ inside => inside
  | _ => []

/-- Characters that a backslash makes prose. -/
def isEscapable (c : Char) : Bool :=
  ['\\', '\x60', '*', '_', '\x7b', '\x7d', '[', ']', '(', ')', '<', '>', '#', '+', '-', '.', '!',
   '|', '@', '$', '~'].contains c

/-- A tag or a hypertext comment. A closing tag found here has no partner, and neither has an
    opening one whose closing tag does not follow. -/
def ofTag? (s : Text) : Option (Span × Text) :=
  match afterHypertextComment? s with
  | some rest => some (.hidden, rest)
  | none =>
    match closeTag? s with
    | some (name, rest) => if isComponent name then some (.hidden, rest) else none
    | none =>
      match openTag? s with
      | some (tag, rest) =>
        if !isComponent tag.name then none
        else if tag.closed then some (.element tag.name tag.attributes [], rest)
        else
          match closing? tag.name false rest with
          | some (inside, rest) => some (.element tag.name tag.attributes inside, rest)
          | none => some (.hidden, rest)
      | none => none

/-- Emphasised text. -/
def ofMark? (mark : Char) (s : Text) : Option (Span × Text) :=
  (emphasis? mark s).map fun (strength, inside, rest) => (.emphasis strength inside, rest)

/-- A character after a backslash. -/
def ofBackslash? : Text → Option (Span × Text)
  | _ :: c :: rest => if isEscapable c then some (.escaped c, rest) else none
  | _ => none

/-- The construct at the beginning of a text, and what follows it. An underscore right after a
    letter or a digit is part of a word. -/
def at? (afterWord : Bool) (s : Text) : Option (Span × Text) :=
  match s.head? with
  | some '\x60' => (codeSpan? s).map fun (t, rest) => (.code t, rest)
  | some '!' => (image? s).map fun (alt, src, rest) => (.image alt src, rest)
  | some '[' => (link? s).map fun (t, url, rest) => (.link t url, rest)
  | some '<' => ofTag? s
  | some '\x7b' => (afterExpressionComment? s).map (.hidden, ·)
  | some '*' => ofMark? '*' s
  | some '_' => if afterWord then none else ofMark? '_' s
  | some '\\' => ofBackslash? s
  | _ => none

theorem length_of_ofTag? {s rest : Text} {span : Span} (h : ofTag? s = some (span, rest)) :
    span.inside.length + rest.length < s.length := by
  unfold ofTag? at h
  split at h
  · next hc =>
    obtain ⟨rfl, rfl⟩ := Prod.mk.inj (Option.some.inj h)
    have := length_of_afterHypertextComment? hc
    simp only [inside, List.length_nil]
    omega
  · split at h
    · next hc =>
      split at h
      · obtain ⟨rfl, rfl⟩ := Prod.mk.inj (Option.some.inj h)
        have := length_of_closeTag? hc
        simp only [inside, List.length_nil]
        omega
      · simp at h
    · split at h
      · next ho =>
        have := length_of_openTag? ho
        split at h
        · simp at h
        · split at h
          · obtain ⟨rfl, rfl⟩ := Prod.mk.inj (Option.some.inj h)
            simp only [inside, List.length_nil]
            omega
          · split at h
            · next hclose =>
              obtain ⟨rfl, rfl⟩ := Prod.mk.inj (Option.some.inj h)
              have := length_of_closing? hclose
              simp only [inside]
              omega
            · obtain ⟨rfl, rfl⟩ := Prod.mk.inj (Option.some.inj h)
              simp only [inside, List.length_nil]
              omega
      · simp at h

theorem length_of_ofMark? {mark : Char} {s rest : Text} {span : Span}
    (h : ofMark? mark s = some (span, rest)) : span.inside.length + rest.length < s.length := by
  obtain ⟨⟨strength, t, r⟩, he, heq⟩ := Option.map_eq_some_iff.1 h
  obtain ⟨rfl, rfl⟩ := Prod.mk.inj heq
  exact length_of_emphasis? he

/-- What is inside a construct and what follows it are together shorter than the text that the
    construct begins. -/
theorem length_add_of_at? {afterWord : Bool} {s rest : Text} {span : Span}
    (h : at? afterWord s = some (span, rest)) : span.inside.length + rest.length < s.length := by
  have leaf {span : Span} (hi : span.inside = []) (hr : rest.length < s.length) :
      span.inside.length + rest.length < s.length := by
    rwa [hi, List.length_nil, Nat.zero_add]
  unfold at? at h
  split at h
  · obtain ⟨⟨t, r⟩, hs, heq⟩ := Option.map_eq_some_iff.1 h
    obtain ⟨rfl, rfl⟩ := Prod.mk.inj heq
    exact leaf rfl (length_of_codeSpan? hs)
  · obtain ⟨⟨alt, src, r⟩, hs, heq⟩ := Option.map_eq_some_iff.1 h
    obtain ⟨rfl, rfl⟩ := Prod.mk.inj heq
    exact leaf rfl (length_of_image? hs)
  · obtain ⟨⟨t, url, r⟩, hs, heq⟩ := Option.map_eq_some_iff.1 h
    obtain ⟨rfl, rfl⟩ := Prod.mk.inj heq
    have := length_of_link? hs
    exact leaf rfl (by omega)
  · exact length_of_ofTag? h
  · obtain ⟨r, hs, heq⟩ := Option.map_eq_some_iff.1 h
    obtain ⟨rfl, rfl⟩ := Prod.mk.inj heq
    exact leaf rfl (length_of_afterExpressionComment? hs)
  · exact length_of_ofMark? h
  · split at h
    · simp at h
    · exact length_of_ofMark? h
  · unfold ofBackslash? at h
    split at h
    · split at h
      · obtain ⟨rfl, rfl⟩ := Prod.mk.inj (Option.some.inj h)
        exact leaf rfl (by simp only [List.length_cons]; omega)
      · simp at h
    · simp at h
  · simp at h

/-- What follows a construct, and what is inside it, are shorter than the text it begins. -/
theorem length_of_at? {afterWord : Bool} {s rest : Text} {span : Span}
    (h : at? afterWord s = some (span, rest)) :
    rest.length < s.length ∧ span.inside.length < s.length := by
  have := length_add_of_at? h
  omega

end Span

end Bindery.Markup
