import Bindery.Text.Basic

namespace Bindery.Markup

open Text

/-- How strongly a span is emphasised. -/
inductive Strength
  | emph
  | strong
  | strongEmph
  deriving DecidableEq, Repr

/-- The text before the first closing mark that follows no blank, and what follows the mark. The
    flag says whether a blank stands before the text. -/
def beforeMark? (mark : Text) : (afterBlank : Bool) → Text → Option (Text × Text)
  | _, [] => none
  | afterBlank, c :: s =>
    match if afterBlank then none else afterStart? mark (c :: s) with
    | some rest => some ([], rest)
    | none =>
      if c == '\n' then none else (beforeMark? mark (isBlank c) s).map (Prod.map (c :: ·) id)

/-- The text between two marks of several characters, and what follows it. -/
def between? (mark s : Text) : Option (Text × Text) :=
  match afterStart? mark s with
  | some (c :: inside) =>
    if isBlank c then none else (beforeMark? mark false inside).map (Prod.map (c :: ·) id)
  | _ => none

/-- Characters of a text between two marks of one character. -/
def isInside (mark c : Char) : Bool :=
  !(c == mark || c == '\n')

/-- The text between two marks of one character, and what follows it. A closing underscore must
    not be followed by a name character. -/
def betweenSingle? (mark : Char) : Text → Option (Text × Text)
  | [] => none
  | _ :: s =>
    let inside := s.takeWhile (isInside mark)
    match s.dropWhile (isInside mark) with
    | c :: rest =>
      if c == mark && !inside.isEmpty && !inside.head?.any isBlank &&
          !inside.getLast?.any isBlank && !(mark == '_' && rest.head?.any isWord) then
        some (inside, rest)
      else none
    | [] => none

/-- Emphasised text at a mark, the longest mark first. -/
def emphasis? (mark : Char) (s : Text) : Option (Strength × Text × Text) :=
  match between? [mark, mark, mark] s with
  | some found => some (.strongEmph, found)
  | none =>
    match between? [mark, mark] s with
    | some found => some (.strong, found)
    | none => (betweenSingle? mark s).map (.emph, ·)

theorem length_of_beforeMark? {mark s before rest : Text} {afterBlank : Bool}
    (h : beforeMark? mark afterBlank s = some (before, rest)) :
    s.length = before.length + mark.length + rest.length := by
  induction s generalizing afterBlank before with
  | nil => simp [beforeMark?] at h
  | cons c s ih =>
    rw [beforeMark?] at h
    split at h
    · next r hr =>
      obtain ⟨rfl, rfl⟩ := Prod.mk.inj (Option.some.inj h)
      split at hr
      · simp at hr
      · simpa using length_of_afterStart? hr
    · split at h
      · simp at h
      · obtain ⟨⟨b, r⟩, hs, heq⟩ := Option.map_eq_some_iff.1 h
        obtain ⟨rfl, rfl⟩ := Prod.mk.inj heq
        have := ih hs
        simp only [List.length_cons, id_eq] at this ⊢
        omega

theorem length_of_between? {mark s inside rest : Text}
    (h : between? mark s = some (inside, rest)) :
    s.length = 2 * mark.length + inside.length + rest.length := by
  unfold between? at h
  split at h
  · next c t hstart =>
    split at h
    · simp at h
    · obtain ⟨⟨b, r⟩, hs, heq⟩ := Option.map_eq_some_iff.1 h
      obtain ⟨rfl, rfl⟩ := Prod.mk.inj heq
      have h₁ := length_of_afterStart? hstart
      have h₂ := length_of_beforeMark? hs
      simp only [List.length_cons, id_eq] at h₁ h₂ ⊢
      omega
  · simp at h

theorem length_of_betweenSingle? {mark : Char} {s inside rest : Text}
    (h : betweenSingle? mark s = some (inside, rest)) :
    s.length = 2 + inside.length + rest.length := by
  cases s with
  | nil => simp [betweenSingle?] at h
  | cons c s =>
    rw [betweenSingle?] at h
    split at h
    · next d r hd =>
      split at h
      · obtain ⟨rfl, rfl⟩ := Prod.mk.inj (Option.some.inj h)
        have hsplit := congrArg List.length
          (List.takeWhile_append_dropWhile (p := isInside mark) (l := s))
        rw [hd] at hsplit
        simp only [List.length_append, List.length_cons] at hsplit ⊢
        omega
      · simp at h
    · simp at h

theorem length_of_emphasis? {mark : Char} {s inside rest : Text} {strength : Strength}
    (h : emphasis? mark s = some (strength, inside, rest)) :
    inside.length + rest.length < s.length := by
  unfold emphasis? at h
  split at h
  · next hb =>
    obtain ⟨-, rfl⟩ := Prod.mk.inj (Option.some.inj h)
    have := length_of_between? hb
    simp only [List.length_cons, List.length_nil] at this
    omega
  · split at h
    · next hb =>
      obtain ⟨-, rfl⟩ := Prod.mk.inj (Option.some.inj h)
      have := length_of_between? hb
      simp only [List.length_cons, List.length_nil] at this
      omega
    · obtain ⟨found, hb, heq⟩ := Option.map_eq_some_iff.1 h
      obtain ⟨-, rfl⟩ := Prod.mk.inj heq
      have := length_of_betweenSingle? hb
      omega

end Bindery.Markup
