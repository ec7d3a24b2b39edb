import Bindery.Markup.Fence
import Bindery.Markup.Tag

namespace Bindery.Markup

open Text

/-- Whether the text begins with the name and does not go on with it. -/
def startsWithName (name s : Text) : Bool :=
  match afterStart? name s with
  | some rest => !rest.head?.any isNameChar
  | none => false

/-- What a mention of a name does to the depth. -/
inductive Effect
  /-- It is no well-formed tag, or a tag that closes itself. -/
  | stays
  | deepens
  /-- It is a closing tag, which the text follows. -/
  | rises (rest : Text)

/-- What an opening mention at the beginning of a text does. -/
def openingEffect (s : Text) : Effect :=
  match openTag? s with
  | some (tag, _) => if tag.closed then .stays else .deepens
  | none => .stays

/-- What a closing mention at the beginning of a text does. -/
def closingEffect (s : Text) : Effect :=
  match closeTag? s with
  | some (_, rest) => .rises rest
  | none => .stays

/-- Whether the text begins with an angle bracket and the name, or with the slash of a closing tag
    between them: how many characters after the bracket tell so, and what the mention does. -/
def mention? (name : Text) : Text → Option (Nat × Effect)
  | '<' :: s =>
    if (afterStart? ['/'] s).any (startsWithName name) then
      some (name.length + 1, closingEffect ('<' :: s))
    else if startsWithName name s then some (name.length, openingEffect ('<' :: s))
    else none
  | _ => none

/-- The number of characters from here to the end of the fenced region, given that number for an
    open region and zero otherwise. -/
def fencedFrom (fenced : Nat) (lineStart : Bool) (s : Text) : Nat :=
  if fenced == 0 && lineStart then (regionLength? s).getD 0 else fenced

/-- The text before the closing tag that brings the depth to zero, and what follows that tag.
    There are `skip` characters to pass over before the next mention can begin, and `fenced`
    characters to the end of the open fenced region. -/
def closingFrom? (name : Text) :
    (depth skip fenced : Nat) → (lineStart : Bool) → Text → Option (Text × Text)
  | _, _, _, _, [] => none
  | depth, skip, fenced, lineStart, c :: s =>
    let fenced := fencedFrom fenced lineStart (c :: s)
    let next (depth skip : Nat) :=
      (closingFrom? name depth skip (fenced - 1) (c == '\n') s).map (Prod.map (c :: ·) id)
    if 0 < skip then next depth (skip - 1)
    else
      match mention? name (c :: s) with
      | none => next depth 0
      | some (length, effect) =>
        match if 0 < fenced then .stays else effect with
        | .stays => next depth length
        | .deepens => next (depth + 1) length
        | .rises rest => if depth ≤ 1 then some ([], rest) else next (depth - 1) length

/-- The content of an element and what follows its closing tag, in the text that follows its
    opening tag. The flag says whether the text begins at the start of a line. -/
def closing? (name : Text) (lineStart : Bool) (s : Text) : Option (Text × Text) :=
  closingFrom? name 1 0 0 lineStart s

theorem length_of_rises {name s rest : Text} {length : Nat}
    (h : mention? name s = some (length, .rises rest)) : rest.length < s.length := by
  unfold mention? at h
  split at h
  · next t =>
    have closing (h : closingEffect ('<' :: t) = .rises rest) :
        rest.length < ('<' :: t).length := by
      rw [closingEffect] at h
      split at h
      · next hc => cases h; exact length_of_closeTag? hc
      · simp at h
    have opening : openingEffect ('<' :: t) ≠ .rises rest := by
      rw [openingEffect]
      split
      · split <;> simp
      · simp
    split at h
    · exact closing (Prod.mk.inj (Option.some.inj h)).2
    · split at h
      · exact absurd (Prod.mk.inj (Option.some.inj h)).2 opening
      · simp at h
  · simp at h

theorem length_of_closingFrom? {name s before rest : Text} {depth skip fenced : Nat}
    {lineStart : Bool} (h : closingFrom? name depth skip fenced lineStart s = some (before, rest)) :
    before.length + rest.length < s.length := by
  induction s generalizing depth skip fenced lineStart before with
  | nil => simp [closingFrom?] at h
  | cons c s ih =>
    have step {d k f b} (h : (closingFrom? name d k f b s).map (Prod.map (c :: ·) id) =
        some (before, rest)) : before.length + rest.length < (c :: s).length := by
      obtain ⟨⟨b, r⟩, hs, heq⟩ := Option.map_eq_some_iff.1 h
      obtain ⟨rfl, rfl⟩ := Prod.mk.inj heq
      have := ih hs
      simp only [List.length_cons, id_eq] at this ⊢
      omega
    rw [closingFrom?] at h
    simp only at h
    generalize fencedFrom fenced lineStart (c :: s) = f at h
    split at h
    · exact step h
    · split at h
      · exact step h
      · next length effect hm =>
        split at h
        · exact step h
        · exact step h
        · next rest' he =>
          split at h
          · obtain ⟨rfl, rfl⟩ := Prod.mk.inj (Option.some.inj h)
            split at he
            · simp at he
            · subst he
              simpa using length_of_rises hm
          · exact step h

theorem length_of_closing? {name s before rest : Text} {lineStart : Bool}
    (h : closing? name lineStart s = some (before, rest)) :
    before.length + rest.length < s.length :=
  length_of_closingFrom? h

end Bindery.Markup
