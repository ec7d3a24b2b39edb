import Bindery.Markup.Tag
import Bindery.Proofs.Pairs
import Bindery.Proofs.Text.Cutting
import Bindery.Proofs.Text.Letter

namespace Bindery.Markup

open Text

/-- A letter and then characters of a name. -/
structure IsTagName (name : Text) : Prop where
  first : name.head?.any Char.isAlpha = true
  chars : name.all isNameChar = true

/-- A key, with a value that may stand in double quotes. -/
structure IsAttribute (a : Text × Text) : Prop where
  first : a.1.head?.any isKeyStart = true
  chars : a.1.all isKeyChar = true
  value : '\x22' ∉ a.2

/-- An attribute after a space. -/
def attributeText (a : Text × Text) : Text :=
  ' ' :: (a.1 ++ '=' :: '\x22' :: (a.2 ++ ['\x22']))

/-- A tag that opens an element. -/
def openTagText (name : Text) (attributes : Pairs) : Text :=
  '<' :: (name ++ (attributes.flatMap attributeText ++ ['>']))

/-- The tag that closes an element. -/
def closeTagText (name : Text) : Text :=
  '<' :: '/' :: (name ++ ['>'])

variable {name : Text} {a : Text × Text}

theorem IsTagName.exists_cons (h : IsTagName name) : ∃ c s, name = c :: s ∧ c.isAlpha = true := by
  have hfirst := h.first
  cases name with
  | nil => cases hfirst
  | cons c s => exact ⟨c, s, rfl, by simpa using hfirst⟩

/-- A name is read to its end, where what follows does not go on with it. -/
theorem IsTagName.name? (h : IsTagName name) {tail : Text}
    (htail : tail.head?.any isNameChar = false) : name? (name ++ tail) = some (name, tail) := by
  have hchars := h.chars
  obtain ⟨c, s, rfl, hc⟩ := h.exists_cons
  rw [List.all_cons, Bool.and_eq_true] at hchars
  rw [List.cons_append, Markup.name?, if_pos hc, takeWhile_append_of_head hchars.2 htail,
    dropWhile_append_of_head hchars.2 htail]

/-- A name right after an angle bracket begins no closing tag. -/
theorem closeTag?_name (h : IsTagName name) (rest : Text) :
    closeTag? ('<' :: (name ++ rest)) = none := by
  obtain ⟨c, s, rfl, hc⟩ := h.exists_cons
  unfold closeTag?
  split
  · next heq =>
    rw [List.cons_append, List.cons.injEq, List.cons.injEq] at heq
    exact absurd heq.2.1 (ne_of_isAlpha hc (by decide))
  · rfl

theorem head?_attributes (attributes : Pairs) (rest : Text) :
    (attributes.flatMap attributeText ++ '>' :: rest).head?.any isNameChar = false := by
  cases attributes with
  | nil => rfl
  | cons a attributes => rfl

theorem upTo?_append {c : Char} {before : Text} (h : c ∉ before) (rest : Text) :
    upTo? c (before ++ c :: rest) = some (before, rest) := by
  induction before with
  | nil => simp [upTo?]
  | cons d before ih =>
    rw [List.mem_cons, not_or] at h
    have hd : ¬(d == c) = true := by simpa using Ne.symm h.1
    rw [List.cons_append, upTo?, if_neg hd, ih h.2]
    rfl

theorem IsAttribute.exists_cons (h : IsAttribute a) :
    ∃ c s, a.1 = c :: s ∧ isKeyStart c = true := by
  have hfirst := h.first
  cases hkey : a.1 with
  | nil =>
    rw [hkey] at hfirst
    cases hfirst
  | cons c s =>
    rw [hkey] at hfirst
    exact ⟨c, s, rfl, by simpa using hfirst⟩

theorem isBlank_of_isKeyStart {c : Char} (hc : isKeyStart c = true) : isBlank c = false := by
  rw [isKeyStart, Bool.or_eq_true, Bool.or_eq_true] at hc
  rcases hc with (hc | hc) | hc
  · exact isBlank_of_isAlpha hc
  · rw [eq_of_beq hc]
    decide
  · rw [eq_of_beq hc]
    decide

theorem IsAttribute.value? (h : IsAttribute a) (rest : Text) :
    value? ('=' :: '\x22' :: (a.2 ++ '\x22' :: rest)) = some (a.2, rest) :=
  upTo?_append h.value rest

theorem IsAttribute.attribute? (h : IsAttribute a) (rest : Text) :
    attribute? (a.1 ++ '=' :: '\x22' :: (a.2 ++ '\x22' :: rest)) =
      some (a, rest) := by
  have hchars := h.chars
  have hvalue := h.value? rest
  obtain ⟨key, value⟩ := a
  obtain ⟨c, s, rfl, hc⟩ := h.exists_cons
  rw [List.all_cons, Bool.and_eq_true] at hchars
  have hstop : ('=' :: '\x22' :: (value ++ '\x22' :: rest)).head?.any isKeyChar = false := rfl
  rw [List.cons_append, Markup.attribute?, if_pos hc]
  simp only [takeWhile_append_of_head hchars.2 hstop, dropWhile_append_of_head hchars.2 hstop,
    hvalue]

theorem attributes_of_attribute? {s after rest : Text} {a : Text × Text}
    (hafter : s.dropWhile isBlank = after) (hlength : after.length < s.length)
    (ha : attribute? after = some (a, rest)) :
    attributes s = (a :: (attributes rest).1, (attributes rest).2) := by
  subst hafter
  rw [attributes]
  simp only [hlength, ↓reduceDIte]
  split
  · next b rest' hb =>
    rw [ha] at hb
    cases hb
    rfl
  · next hnone =>
    rw [ha] at hnone
    cases hnone

theorem attributes_nil {s : Text} (hs : s.head?.any isBlank = false) : attributes s = ([], s) := by
  have hdrop : s.dropWhile isBlank = s := by
    have hnone := dropWhile_append_of_head (s := []) (p := isBlank) rfl hs
    rwa [List.nil_append] at hnone
  rw [attributes]
  simp [hdrop]

theorem attributes_of_attribute?_eq_none {s : Text} (h : attribute? (s.dropWhile isBlank) = none) :
    attributes s = ([], s) := by
  rw [attributes]
  split
  · split
    · next heq => cases h.symm.trans heq
    · rfl
  · rfl

/-- All the attributes of a written tag are read, as they stand, before a text in which none is. -/
theorem attributes_append {pairs : Pairs} (h : ∀ a ∈ pairs, IsAttribute a) {rest : Text}
    (hrest : attributes rest = ([], rest)) :
    attributes (pairs.flatMap attributeText ++ rest) = (pairs, rest) := by
  induction pairs with
  | nil => exact hrest
  | cons a pairs ih =>
    rw [List.forall_mem_cons] at h
    have hread := h.1.attribute? (pairs.flatMap attributeText ++ rest)
    have hshape : (a :: pairs).flatMap attributeText ++ rest =
        ' ' :: (a.1 ++ '=' :: '\x22' :: (a.2 ++ '\x22' ::
          (pairs.flatMap attributeText ++ rest))) := by
      simp [attributeText]
    obtain ⟨c, s, hkey, hc⟩ := h.1.exists_cons
    have hdrop : (' ' :: (a.1 ++ '=' :: '\x22' :: (a.2 ++ '\x22' ::
        (pairs.flatMap attributeText ++ rest)))).dropWhile isBlank =
        a.1 ++ '=' :: '\x22' :: (a.2 ++ '\x22' :: (pairs.flatMap attributeText ++ rest)) := by
      rw [List.dropWhile_cons_of_pos (by decide), hkey, List.cons_append]
      exact List.dropWhile_cons_of_neg (by simp [isBlank_of_isKeyStart hc])
    rw [hshape, attributes_of_attribute? hdrop (by simp) hread, ih h.2]

/-- A written opening tag is read with its name and its attributes. -/
theorem openTag?_written (hname : IsTagName name) {pairs : Pairs}
    (hpairs : ∀ a ∈ pairs, IsAttribute a) (hkeys : (pairs.map Prod.fst).Nodup) (rest : Text) :
    openTag? (openTagText name pairs ++ rest) = some (⟨name, pairs, false⟩, rest) := by
  have hshape : openTagText name pairs ++ rest =
      '<' :: (name ++ (pairs.flatMap attributeText ++ '>' :: rest)) := by
    simp [openTagText]
  have hclosing : ('>' :: rest).dropWhile isBlank = '>' :: rest :=
    List.dropWhile_cons_of_neg (by decide)
  have hread := attributes_append hpairs (attributes_nil (s := '>' :: rest) rfl)
  rw [hshape, openTag?, hname.name? (head?_attributes pairs rest)]
  simp only [hread, hclosing, Pairs.ofList_of_nodup hkeys]

theorem closeTag?_written (hname : IsTagName name) (rest : Text) :
    closeTag? (closeTagText name ++ rest) = some (name, rest) := by
  have hshape : closeTagText name ++ rest = '<' :: '/' :: (name ++ '>' :: rest) := by
    simp [closeTagText]
  have hstop : ('>' :: rest).head?.any isNameChar = false := rfl
  have hclosing : ('>' :: rest).dropWhile isBlank = '>' :: rest :=
    List.dropWhile_cons_of_neg (by decide)
  rw [hshape, closeTag?, hname.name? hstop]
  simp only [hclosing]

end Bindery.Markup
