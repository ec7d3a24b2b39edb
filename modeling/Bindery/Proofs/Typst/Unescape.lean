import Bindery.Proofs.Typst.Shown
import Mathlib.Data.List.Chain

namespace Bindery.Typst

open Text

/-- A character of the source, as it stands or after a backslash. -/
inductive Glyph
  | plain (c : Char)
  | escaped (c : Char)
  deriving DecidableEq, Repr

namespace Glyph

/-- The character that the glyph stands for. -/
def char : Glyph → Char
  | plain c => c
  | escaped c => c

/-- What the glyph is written as. -/
def source : Glyph → Text
  | plain c => [c]
  | escaped c => ['\\', c]

/-- The glyph opens no comment with the one that follows it. -/
def OpensNoComment (first second : Glyph) : Prop :=
  first = plain '/' → second ≠ plain '/' ∧ second ≠ plain '*'

end Glyph

/-- The glyphs of a source, read from its beginning or after a backslash; none if it ends where a
    backslash waits for its character. -/
def glyphs? : (escaped : Bool) → Text → Option (List Glyph)
  | true, [] => none
  | false, [] => some []
  | true, c :: rest => (glyphs? false rest).map (.escaped c :: ·)
  | false, c :: rest =>
    if c == '\\' then glyphs? true rest else (glyphs? false rest).map (.plain c :: ·)

theorem glyphs?_escaped (c : Char) (s : Text) :
    glyphs? false ('\\' :: c :: s) = (glyphs? false s).map (.escaped c :: ·) :=
  rfl

theorem glyphs?_plain {c : Char} (hc : c ≠ '\\') (s : Text) :
    glyphs? false (c :: s) = (glyphs? false s).map (.plain c :: ·) :=
  if_neg (by simpa using hc)

/-- Nothing of a source is lost in its glyphs. -/
theorem flatMap_source_of_glyphs? {escaped : Bool} {s : Text} {glyphs : List Glyph}
    (h : glyphs? escaped s = some glyphs) :
    glyphs.flatMap Glyph.source = if escaped then '\\' :: s else s := by
  induction s generalizing escaped glyphs with
  | nil =>
    cases escaped with
    | true => cases h
    | false =>
      cases h
      rfl
  | cons c s ih =>
    cases escaped with
    | true =>
      obtain ⟨rest, hrest, rfl⟩ := Option.map_eq_some_iff.1 h
      rw [List.flatMap_cons, ih hrest]
      rfl
    | false =>
      rw [glyphs?] at h
      split at h
      · next hc =>
        obtain rfl : c = '\\' := eq_of_beq hc
        exact ih h
      · obtain ⟨rest, hrest, rfl⟩ := Option.map_eq_some_iff.1 h
        rw [List.flatMap_cons, ih hrest]
        rfl

/-- A source whose first glyph has no backslash begins with the character itself. -/
theorem head?_of_glyphs? {s : Text} {glyphs : List Glyph} (h : glyphs? false s = some glyphs)
    {c : Char} (hc : glyphs.head? = some (.plain c)) : s.head? = some c := by
  obtain ⟨rest, rfl⟩ := List.head?_eq_some_iff.1 hc
  have hsource : s = c :: rest.flatMap Glyph.source := (flatMap_source_of_glyphs? h).symm
  rw [hsource, List.head?_cons]

/-- The glyphs stand for the text, with no special character of it and no two that open a comment
    without a backslash. -/
structure Spells (glyphs : List Glyph) (t : Text) : Prop where
  chars : glyphs.map Glyph.char = t
  special : ∀ c ∈ specialChars, .plain c ∉ glyphs
  comment : glyphs.IsChain Glyph.OpensNoComment

namespace Spells

variable {glyphs : List Glyph} {t : Text}

theorem nil : Spells [] [] where
  chars := rfl
  special := fun _ _ => List.not_mem_nil
  comment := List.isChain_nil

theorem escaped (h : Spells glyphs t) (c : Char) : Spells (.escaped c :: glyphs) (c :: t) where
  chars := congrArg (c :: ·) h.chars
  special := by
    intro d hd hmem
    rcases List.mem_cons.1 hmem with heq | hmem
    · cases heq
    · exact h.special d hd hmem
  comment := by
    refine List.isChain_cons.2 ⟨?_, h.comment⟩
    intro next _ heq
    cases heq

theorem plain (h : Spells glyphs t) {c : Char} (hc : isSpecial c = false)
    (hslash : c = '/' → glyphs.head? ≠ some (.plain '/') ∧ glyphs.head? ≠ some (.plain '*')) :
    Spells (.plain c :: glyphs) (c :: t) where
  chars := congrArg (c :: ·) h.chars
  special := by
    intro d hd hmem
    rcases List.mem_cons.1 hmem with heq | hmem
    · have hall : specialChars.all isSpecial = true := by decide
      have hspecial : isSpecial d = true := List.all_eq_true.1 hall d hd
      obtain rfl : d = c := Glyph.plain.inj heq
      rw [hc] at hspecial
      cases hspecial
    · exact h.special d hd hmem
  comment := by
    refine List.isChain_cons.2 ⟨?_, h.comment⟩
    intro next hnext heq
    obtain ⟨hfirst, hsecond⟩ := hslash (Glyph.plain.inj heq)
    constructor
    · rintro rfl
      exact hfirst hnext
    · rintro rfl
      exact hsecond hnext

theorem not_comment (h : Spells glyphs t) {c : Char} (hc : c = '/' ∨ c = '*') :
    ¬[.plain '/', .plain c] <:+: glyphs := by
  intro hinfix
  have hpair := List.IsChain.infix h.comment hinfix
  obtain ⟨hslash, hstar⟩ := List.isChain_pair.1 hpair rfl
  rcases hc with rfl | rfl
  · exact hslash rfl
  · exact hstar rfl

end Spells

/-- Escaped prose ends with no backslash that waits for its character, and its glyphs spell the
    prose. -/
theorem exists_spells_escape (t : Text) : ∃ glyphs,
    glyphs? false (escape t) = some glyphs ∧ Spells glyphs t := by
  -- A slash that stands as it is needs what follows it in the source, not in the prose.
  refine escape_induction
    (P := fun t s => ∃ glyphs, glyphs? false s = some glyphs ∧ Spells glyphs t)
    ⟨[], rfl, Spells.nil⟩ ?_ ?_ t
  · rintro c t s - ⟨glyphs, hread, hspells⟩
    refine ⟨.escaped c :: glyphs, ?_, hspells.escaped c⟩
    rw [glyphs?_escaped, hread, Option.map_some]
  · rintro c t s hc hslash ⟨glyphs, hread, hspells⟩
    have hbackslash : c ≠ '\\' := by
      rintro rfl
      cases hc
    refine ⟨.plain c :: glyphs, ?_, hspells.plain hc fun heq => ⟨?_, ?_⟩⟩
    · rw [glyphs?_plain hbackslash, hread, Option.map_some]
    · exact fun hhead => (hslash heq).1 (head?_of_glyphs? hread hhead)
    · exact fun hhead => (hslash heq).2 (head?_of_glyphs? hread hhead)

/-- Escaping is faithful and complete: read from left to right, escaped prose does not end within an
    escape and stands for exactly the prose; outside escapes it has no special character, and no two
    characters next to each other that open a comment. -/
theorem glyphs_of_escape (t : Text) : ∃ glyphs,
    glyphs? false (escape t) = some glyphs ∧ glyphs.map Glyph.char = t ∧
      (∀ c ∈ specialChars, .plain c ∉ glyphs) ∧
      ¬[.plain '/', .plain '/'] <:+: glyphs ∧ ¬[.plain '/', .plain '*'] <:+: glyphs := by
  obtain ⟨glyphs, hread, hspells⟩ := exists_spells_escape t
  exact ⟨glyphs, hread, hspells.chars, hspells.special, hspells.not_comment (.inl rfl),
    hspells.not_comment (.inr rfl)⟩

example : glyphs? false (escape "///*#".toList) =
    some [.escaped '/', .escaped '/', .escaped '/', .escaped '*', .escaped '#'] := by
  decide

/-- What the string literal at the beginning of the source stands for, and what follows it. -/
def stringLiteral? : Text → Option (Text × Text)
  | '\x22' :: rest => readLiteral? false rest
  | _ => none

/-- A literal ends where it ends, whatever follows it. -/
theorem readLiteral?_append {escaped : Bool} {s t after : Text}
    (h : readLiteral? escaped s = some (t, after)) (more : Text) :
    readLiteral? escaped (s ++ more) = some (t, after ++ more) := by
  induction s generalizing escaped t after with
  | nil => cases escaped <;> cases h
  | cons c s ih =>
    rw [List.cons_append]
    cases escaped with
    | true =>
      rw [readLiteral?] at h ⊢
      split at h
      · next hc =>
        obtain ⟨⟨u, b⟩, hread, heq⟩ := Option.map_eq_some_iff.1 h
        cases heq
        rw [if_pos hc, ih hread, Option.map_some]
      · cases h
    | false =>
      rw [readLiteral?] at h ⊢
      split at h
      · next hquote =>
        cases h
        rw [if_pos hquote]
      split at h
      · next hquote hbackslash => rw [if_neg hquote, if_pos hbackslash, ih h]
      · next hquote hbackslash =>
        obtain ⟨⟨u, b⟩, hread, heq⟩ := Option.map_eq_some_iff.1 h
        cases heq
        rw [if_neg hquote, if_neg hbackslash, ih hread, Option.map_some]

theorem stringLiteral?_append {s t after : Text} (h : stringLiteral? s = some (t, after))
    (more : Text) : stringLiteral? (s ++ more) = some (t, after ++ more) := by
  cases s with
  | nil => cases h
  | cons c s =>
    rw [stringLiteral?.eq_def] at h
    split at h
    · next hs =>
      cases hs
      exact readLiteral?_append h more
    · cases h

theorem stringLiteral?_literal (s rest : Text) :
    stringLiteral? (literal s ++ rest) = some (onOneLine s, rest) := by
  have hliteral : literal s ++ rest = '\x22' :: (s.flatMap literalChar ++ '\x22' :: rest) := by
    simp [literal]
  rw [hliteral]
  exact readLiteral?_literal s rest

/-- No beginning of a literal is a literal. -/
theorem eq_nil_of_literal_eq_append {s part more t after : Text} (h : literal s = part ++ more)
    (hread : stringLiteral? part = some (t, after)) : more = [] := by
  have hwhole := stringLiteral?_literal s []
  rw [List.append_nil, h, stringLiteral?_append hread] at hwhole
  have hafter : after ++ more = [] := congrArg Prod.snd (Option.some.inj hwhole)
  exact (List.append_eq_nil_iff.1 hafter).2

/-- A literal is read once all of it is there. -/
theorem isSome_stringLiteral?_take_iff (s rest : Text) (n : Nat) :
    (stringLiteral? ((literal s ++ rest).take n)).isSome = true ↔ (literal s).length ≤ n := by
  constructor
  · intro hsome
    obtain ⟨⟨t, after⟩, hread⟩ := Option.isSome_iff_exists.1 hsome
    by_contra hlong
    have hpart : (literal s ++ rest).take n = (literal s).take n :=
      List.take_append_of_le_length (by omega)
    rw [hpart] at hread
    have hnil := eq_nil_of_literal_eq_append (List.take_append_drop n (literal s)).symm hread
    have hdrop : (literal s).length ≤ n := List.drop_eq_nil_iff.1 hnil
    omega
  · intro hlong
    rw [List.take_append, List.take_of_length_le hlong, stringLiteral?_literal]
    rfl

/-- A string is one literal that reads back: whatever follows it, a reader of literals takes exactly
    its source, leaves the rest, meets no escape but those of a backslash and of a quote, and has
    the string with a space for each newline. -/
theorem stringLiteral_reads_back (s rest : Text) :
    stringLiteral? (literal s ++ rest) = some (onOneLine s, rest) ∧
      ∀ n, (stringLiteral? ((literal s ++ rest).take n)).isSome = true ↔
        (literal s).length ≤ n :=
  ⟨stringLiteral?_literal s rest, isSome_stringLiteral?_take_iff s rest⟩

example : stringLiteral? "\"a\\\\\"b\"".toList = some ("a\\".toList, "b\"".toList) ∧
    stringLiteral? "\"\\n\"".toList = none := by
  decide

end Bindery.Typst
