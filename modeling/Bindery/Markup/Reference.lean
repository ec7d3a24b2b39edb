import Bindery.Markup.Tag

namespace Bindery.Markup

open Text

/-- Whether a destination may hold the character. -/
def isDestinationChar (c : Char) : Bool :=
  !(c == ')' || isBlank c)

/-- What follows a title in quotes and the closing parenthesis. -/
def afterTitle? (s : Text) : Option Text :=
  match s.dropWhile isBlank with
  | '\x22' :: s =>
    match upTo? '\x22' s with
    | some (_, ')' :: rest) => some rest
    | _ => none
  | _ => none

/-- A destination in parentheses, and what follows it. -/
def destination? : Text → Option (Text × Text)
  | '(' :: s =>
    let url := s.takeWhile isDestinationChar
    if url.isEmpty then none
    else
      match s.dropWhile isDestinationChar with
      | ')' :: rest => some (url, rest)
      | after => (afterTitle? after).map (url, ·)
  | _ => none

theorem afterTitle?_suffix {s rest : Text} (h : afterTitle? s = some rest) : rest <:+ s := by
  unfold afterTitle? at h
  split at h
  · next t ht =>
    have drop : t <:+ s := (List.suffix_cons _ t).trans (ht ▸ List.dropWhile_suffix _)
    split at h
    · next hq =>
      cases h
      exact ((List.suffix_cons _ _).trans (upTo?_suffix hq)).trans drop
    · simp at h
  · simp at h

theorem length_of_destination? {s url rest : Text} (h : destination? s = some (url, rest)) :
    rest.length < s.length := by
  unfold destination? at h
  split at h
  · next t =>
    have drop := (List.dropWhile_suffix (l := t) isDestinationChar).length_le
    simp only at h
    split at h
    · simp at h
    · split at h
      · next heq =>
        obtain ⟨-, rfl⟩ := Prod.mk.inj (Option.some.inj h)
        rw [heq] at drop
        simp only [List.length_cons] at drop ⊢
        omega
      · obtain ⟨r, hr, heq⟩ := Option.map_eq_some_iff.1 h
        obtain ⟨-, rfl⟩ := Prod.mk.inj heq
        have := (afterTitle?_suffix hr).length_le
        simp only [List.length_cons]
        omega
  · simp at h

/-- An image: its alternative text and its destination, and what follows it. -/
def image? : Text → Option (Text × Text × Text)
  | '!' :: '[' :: s =>
    (upTo? ']' s).bind fun (alt, rest) =>
      (destination? rest).map fun (src, rest) => (alt, src, rest)
  | _ => none

theorem length_of_image? {s alt src rest : Text} (h : image? s = some (alt, src, rest)) :
    rest.length < s.length := by
  unfold image? at h
  split at h
  · obtain ⟨⟨a, r⟩, halt, h⟩ := Option.bind_eq_some_iff.1 h
    obtain ⟨⟨b, r'⟩, hdest, heq⟩ := Option.map_eq_some_iff.1 h
    obtain ⟨-, h'⟩ := Prod.mk.inj heq
    obtain ⟨-, rfl⟩ := Prod.mk.inj h'
    have h₁ := (upTo?_suffix halt).length_le
    have h₂ := length_of_destination? hdest
    simp only [List.length_cons] at h₁ h₂ ⊢
    omega
  · simp at h

/-- What looks like an image within the text of a link, and what follows it. -/
def imageShape? : Text → Option (Text × Text)
  | '!' :: '[' :: s =>
    match upTo? ']' s with
    | some (alt, '(' :: rest) =>
      (upTo? ')' rest).map fun (src, rest) =>
        ('!' :: '[' :: alt ++ ']' :: '(' :: src ++ [')'], rest)
    | _ => none
  | _ => none

theorem length_of_upTo? {c : Char} {s before rest : Text} (h : upTo? c s = some (before, rest)) :
    s.length = before.length + rest.length + 1 := by
  induction s generalizing before with
  | nil => simp [upTo?] at h
  | cons d s ih =>
    rw [upTo?] at h
    split at h
    · obtain ⟨rfl, rfl⟩ := Prod.mk.inj (Option.some.inj h)
      simp
    · obtain ⟨⟨b, r⟩, hs, heq⟩ := Option.map_eq_some_iff.1 h
      obtain ⟨rfl, rfl⟩ := Prod.mk.inj heq
      rw [List.length_cons, ih hs, List.length_cons]
      omega

theorem length_of_imageShape? {s shape rest : Text} (h : imageShape? s = some (shape, rest)) :
    s.length = shape.length + rest.length ∧ 0 < shape.length := by
  unfold imageShape? at h
  split at h
  · split at h
    · next halt =>
      obtain ⟨⟨b, r⟩, hsrc, heq⟩ := Option.map_eq_some_iff.1 h
      obtain ⟨rfl, rfl⟩ := Prod.mk.inj heq
      have h₁ := length_of_upTo? halt
      have h₂ := length_of_upTo? hsrc
      simp only [List.length_cons, List.length_append, List.length_nil] at h₁ h₂ ⊢
      omega
    · simp at h
  · simp at h

/-- The text of a link after its first part, its destination, and what follows the link. An image
    is taken whole where that leads to a link, and otherwise as the characters it is made of. -/
def linkTail? (first : Bool) (s : Text) : Option (Text × Text × Text) :=
  match s with
  | [] => none
  | c :: s =>
    if c == ']' then
      if first then none
      else (destination? s).map fun (url, rest) => ([], url, rest)
    else
      match h : imageShape? (c :: s) with
      | some (shape, rest) =>
        have : rest.length < s.length + 1 := by
          have := length_of_imageShape? h
          simp only [List.length_cons] at this
          omega
        match linkTail? false rest with
        | some found => some (found.map (shape ++ ·) id)
        | none => (linkTail? false s).map (Prod.map (c :: ·) id)
      | none => (linkTail? false s).map (Prod.map (c :: ·) id)
termination_by s.length

/-- A link: its text and its destination, and what follows it. -/
def link? : Text → Option (Text × Text × Text)
  | '[' :: s => linkTail? true s
  | _ => none

theorem length_of_linkTail? {first : Bool} {s text url rest : Text}
    (h : linkTail? first s = some (text, url, rest)) :
    text.length + rest.length < s.length := by
  fun_induction linkTail? first s generalizing text with
  | case1 => simp at h
  | case2 => simp at h
  | case3 first c s hc hf =>
    obtain ⟨⟨u, r⟩, hs, heq⟩ := Option.map_eq_some_iff.1 h
    obtain ⟨rfl, h'⟩ := Prod.mk.inj heq
    obtain ⟨-, rfl⟩ := Prod.mk.inj h'
    have := length_of_destination? hs
    simp only [List.length_nil, List.length_cons]
    omega
  | case4 first c s hc shape rest' himage hlt found hfound ih =>
    obtain ⟨t, u⟩ := found
    obtain ⟨rfl, rfl⟩ := Prod.mk.inj (Option.some.inj h)
    have hlen := length_of_imageShape? himage
    have := ih hfound
    simp only [List.length_append, List.length_cons] at this hlen ⊢
    omega
  | case5 first c s hc shape rest' himage hlt hfound ih₁ ih₂ =>
    obtain ⟨⟨t, u⟩, hs, heq⟩ := Option.map_eq_some_iff.1 h
    obtain ⟨rfl, rfl⟩ := Prod.mk.inj heq
    have := ih₂ hs
    simp only [List.length_cons] at this ⊢
    omega
  | case6 first c s hc himage ih =>
    obtain ⟨⟨t, u⟩, hs, heq⟩ := Option.map_eq_some_iff.1 h
    obtain ⟨rfl, rfl⟩ := Prod.mk.inj heq
    have := ih hs
    simp only [List.length_cons] at this ⊢
    omega

theorem length_of_link? {s text url rest : Text} (h : link? s = some (text, url, rest)) :
    text.length + rest.length < s.length := by
  unfold link? at h
  split at h
  · have := length_of_linkTail? h
    simp only [List.length_cons]
    omega
  · simp at h

end Bindery.Markup
