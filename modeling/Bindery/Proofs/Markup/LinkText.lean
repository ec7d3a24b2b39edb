import Bindery.Proofs.Markup.Fitting
import Bindery.Proofs.Markup.WrittenTag

namespace Bindery.Markup

open Text

variable {s t rest url : Text}

/-- What may stand between the brackets of a link. -/
inductive IsLinkText : Text → Prop
  | nil : IsLinkText []
  | char {c : Char} {s : Text} (hc : c ≠ ']') (h : IsLinkText s) : IsLinkText (c :: s)
  | image {alt src s : Text} (halt : ']' ∉ alt) (hsrc : ')' ∉ src) (h : IsLinkText s) :
    IsLinkText ('!' :: '[' :: (alt ++ ']' :: '(' :: (src ++ ')' :: s)))

theorem not_mem_of_upTo? {c : Char} {before : Text} (h : upTo? c s = some (before, rest)) :
    c ∉ before := by
  induction s generalizing before with
  | nil => cases h
  | cons d s ih =>
    rw [upTo?] at h
    split at h
    · cases h
      exact List.not_mem_nil
    · next hd =>
      obtain ⟨⟨b, r⟩, hs, heq⟩ := Option.map_eq_some_iff.1 h
      obtain ⟨rfl, rfl⟩ := Prod.mk.inj heq
      have hne : c ≠ d := fun heq => hd (by simp [heq])
      exact List.not_mem_cons_of_ne_of_not_mem hne (ih hs)

/-- The first of a character ends the same text, however what follows it is cut. -/
theorem eq_of_append_cons {c : Char} {u v : Text} (hs : c ∉ s) (ht : c ∉ t)
    (h : s ++ c :: u = t ++ c :: v) : s = t ∧ u = v := by
  have hread := congrArg (upTo? c) h
  rw [upTo?_append hs, upTo?_append ht] at hread
  exact Prod.mk.inj (Option.some.inj hread)

theorem imageShape?_append {alt src : Text} (halt : ']' ∉ alt) (hsrc : ')' ∉ src) (rest : Text) :
    imageShape? ('!' :: '[' :: (alt ++ ']' :: '(' :: (src ++ ')' :: rest))) =
      some ('!' :: '[' :: alt ++ ']' :: '(' :: src ++ [')'], rest) := by
  rw [imageShape?, upTo?_append halt]
  simp only [upTo?_append hsrc, Option.map_some]

theorem exists_of_imageShape? {shape : Text} (h : imageShape? s = some (shape, rest)) :
    ∃ alt src, ']' ∉ alt ∧ ')' ∉ src ∧ shape = '!' :: '[' :: alt ++ ']' :: '(' :: src ++ [')'] ∧
      s = '!' :: '[' :: (alt ++ ']' :: '(' :: (src ++ ')' :: rest)) := by
  unfold imageShape? at h
  split at h
  · split at h
    · next alt after halt =>
      obtain ⟨⟨src, r⟩, hsrc, heq⟩ := Option.map_eq_some_iff.1 h
      obtain ⟨rfl, rfl⟩ := Prod.mk.inj heq
      refine ⟨alt, src, not_mem_of_upTo? halt, not_mem_of_upTo? hsrc, rfl, ?_⟩
      rw [eq_append_of_upTo? halt, eq_append_of_upTo? hsrc]
    · cases h
  · cases h

theorem IsLinkText.append (hs : IsLinkText s) (ht : IsLinkText t) : IsLinkText (s ++ t) := by
  induction hs with
  | nil => exact ht
  | char hc _ ih => exact .char hc ih
  | image halt hsrc _ ih =>
    have himage := IsLinkText.image halt hsrc ih
    simpa only [List.cons_append, List.append_assoc] using himage

theorem isLinkText_of_not_mem (h : ']' ∉ s) : IsLinkText s := by
  induction s with
  | nil => exact .nil
  | cons c s ih =>
    rw [List.mem_cons, not_or] at h
    exact .char (Ne.symm h.1) (ih h.2)

/-- A text that no image goes beyond is one without what follows it. -/
theorem IsLinkText.of_append (ht : ')' ∉ t) (h : IsLinkText (s ++ t)) : IsLinkText s := by
  generalize hwhole : s ++ t = whole at h
  induction h generalizing s with
  | nil =>
    rw [(List.append_eq_nil_iff.1 hwhole).1]
    exact .nil
  | @char c rest hc h ih =>
    cases s with
    | nil => exact .nil
    | cons d s =>
      obtain ⟨rfl, hrest⟩ := List.cons.inj hwhole
      exact .char hc (ih hrest)
  | @image alt src rest halt hsrc h ih =>
    have hshape : '!' :: '[' :: (alt ++ ']' :: '(' :: (src ++ ')' :: rest)) =
        ('!' :: '[' :: alt ++ ']' :: '(' :: src ++ [')']) ++ rest := by simp
    rw [hshape] at hwhole
    rcases List.append_eq_append_iff.1 hwhole with ⟨u, hs, ht'⟩ | ⟨u, hs, hrest⟩
    · rcases List.eq_nil_or_concat u with rfl | ⟨v, d, rfl⟩
      · rw [List.append_nil] at hs
        have himage := IsLinkText.image halt hsrc .nil
        rw [← hs]
        simpa using himage
      · -- The image would end within what follows the text, which has no such bracket.
        rw [List.concat_eq_append] at hs ht'
        rw [← List.append_assoc] at hs
        obtain rfl := List.singleton_inj.1 (List.append_inj' hs rfl).2
        rw [ht'] at ht
        exact absurd (by simp) ht
    · have himage := IsLinkText.image halt hsrc (ih hrest.symm)
      rw [hs]
      simpa using himage

/-- What stands after the bracket that closes the text of a link. -/
def destinationText (url : Text) : Text :=
  '(' :: (url ++ [')'])

theorem destination?_append (hurl : IsDestination url) (rest : Text) :
    destination? ('(' :: (url ++ ')' :: rest)) = some (url, rest) := by
  have hchars : url.all isDestinationChar = true := by
    rw [List.all_eq_true]
    intro c hc
    simp [isDestinationChar, hurl.2 c hc]
  have hclose : (')' :: rest).head?.any isDestinationChar = false := rfl
  have hempty : ¬url.isEmpty = true := by simpa using hurl.1
  rw [destination?]
  simp only [takeWhile_append_of_head hchars hclose, dropWhile_append_of_head hchars hclose,
    if_neg hempty]

theorem destination?_destinationText (hurl : IsDestination url) :
    destination? (destinationText url) = some (url, []) :=
  destination?_append hurl []

/-- An image that begins in the text of a link ends there too, and what follows it is such a text,
    unless it takes all that is left of the line. -/
theorem IsLinkText.image_cases (hs : IsLinkText s) (hurl : ')' ∉ url) {pre src : Text}
    (hpre : ']' ∉ pre) (hsrc : ')' ∉ src)
    (h : s ++ ']' :: destinationText url = pre ++ ']' :: '(' :: (src ++ ')' :: rest)) :
    rest = [] ∨ ∃ s', s = pre ++ ']' :: '(' :: (src ++ ')' :: s') ∧
      rest = s' ++ ']' :: destinationText url ∧ IsLinkText s' := by
  induction hs generalizing pre with
  | nil =>
    obtain ⟨-, hafter⟩ := eq_of_append_cons List.not_mem_nil hpre h
    have hdestination := (List.cons.inj hafter).2
    exact .inl (eq_of_append_cons hurl hsrc hdestination).2.symm
  | @char c s hc hs ih =>
    cases pre with
    | nil => exact absurd (List.cons.inj h).1 hc
    | cons d pre =>
      obtain ⟨rfl, hrest⟩ := List.cons.inj h
      rcases ih (fun hmem => hpre (List.mem_cons_of_mem c hmem)) hrest with hnil | ⟨s', hs', hafter⟩
      · exact .inl hnil
      · exact .inr ⟨s', congrArg (c :: ·) hs', hafter⟩
  | @image alt src' s halt hsrc' hs _ =>
    have hfirst : ']' ∉ '!' :: '[' :: alt := by simp [halt]
    have hshape : '!' :: '[' :: (alt ++ ']' :: '(' :: (src' ++ ')' :: s)) ++
        ']' :: destinationText url = ('!' :: '[' :: alt) ++ ']' ::
          '(' :: (src' ++ ')' :: (s ++ ']' :: destinationText url)) := by simp
    rw [hshape] at h
    obtain ⟨rfl, hafter⟩ := eq_of_append_cons hfirst hpre h
    obtain ⟨rfl, hrest⟩ := eq_of_append_cons hsrc' hsrc (List.cons.inj hafter).2
    exact .inr ⟨s, rfl, hrest.symm, hs⟩

theorem linkTail?_of_char {first : Bool} {c : Char} (hc : c ≠ ']')
    (himage : imageShape? (c :: s) = none) :
    linkTail? first (c :: s) = (linkTail? false s).map (Prod.map (c :: ·) id) := by
  rw [linkTail?, if_neg (by simpa using hc)]
  split
  · next hfound =>
    rw [himage] at hfound
    cases hfound
  · rfl

theorem linkTail?_of_image {first : Bool} {c : Char} (hc : c ≠ ']') {shape : Text}
    (himage : imageShape? (c :: s) = some (shape, rest)) :
    linkTail? first (c :: s) =
      match linkTail? false rest with
      | some found => some (found.map (shape ++ ·) id)
      | none => (linkTail? false s).map (Prod.map (c :: ·) id) := by
  rw [linkTail?, if_neg (by simpa using hc)]
  split
  · next hfound =>
    rw [himage] at hfound
    cases hfound
    rfl
  · next hnone =>
    rw [himage] at hnone
    cases hnone

/-- A text without brackets and images is read with all of it, whatever follows the destination. -/
theorem linkTail?_of_not_mem {first : Bool} {after : Text} (hbracket : ']' ∉ s) (himage : '!' ∉ s)
    (hafter : destination? after = some (url, rest)) (hfirst : first = false ∨ s ≠ []) :
    linkTail? first (s ++ ']' :: after) = some (s, url, rest) := by
  induction s generalizing first with
  | nil =>
    have hclosed : ¬first = true := by simpa using hfirst
    rw [List.nil_append, linkTail?, if_pos (by decide), if_neg hclosed, hafter]
    rfl
  | cons c s ih =>
    rw [List.mem_cons, not_or] at hbracket himage
    have hshape : imageShape? (c :: (s ++ ']' :: after)) = none := by
      rw [imageShape?]
      intro t heq
      exact himage.1 (List.cons.inj heq).1.symm
    rw [List.cons_append, linkTail?_of_char (Ne.symm hbracket.1) hshape,
      ih hbracket.2 himage.2 (.inl rfl)]
    rfl

/-- A link around a text of links is read with all of it. -/
theorem linkTail?_append {first : Bool} (hs : IsLinkText s) (hurl : IsDestination url)
    (hfirst : first = false ∨ s ≠ []) :
    linkTail? first (s ++ ']' :: destinationText url) = some (s, url, []) := by
  have hparen : ')' ∉ url := fun h => (hurl.2 _ h).2 rfl
  induction hlength : s.length using Nat.strongRecOn generalizing s first with
  | ind length ih =>
    have later {t : Text} (ht : IsLinkText t) (hlt : t.length < s.length) :
        linkTail? false (t ++ ']' :: destinationText url) = some (t, url, []) :=
      ih _ (hlength ▸ hlt) ht (.inl rfl) rfl
    have hwhole := hs
    cases hs with
    | nil =>
      have hclosed : ¬first = true := by simpa using hfirst
      rw [List.nil_append, linkTail?, if_pos (by decide), if_neg hclosed,
        destination?_destinationText hurl]
      rfl
    | @char c s hc hs =>
      have hrest := later hs (Nat.lt_succ_self _)
      cases himage : imageShape? (c :: (s ++ ']' :: destinationText url)) with
      | none =>
        rw [List.cons_append, linkTail?_of_char hc himage, hrest]
        rfl
      | some found =>
        obtain ⟨shape, rest⟩ := found
        obtain ⟨alt, src, halt, hsrc, rfl, hcut⟩ := exists_of_imageShape? himage
        rw [List.cons_append, linkTail?_of_image hc himage]
        have hpre : ']' ∉ '!' :: '[' :: alt := by simp [halt]
        rcases hwhole.image_cases hparen hpre hsrc hcut with
          rfl | ⟨s', hshape, rfl, hs'⟩
        · rw [linkTail?, hrest]
          rfl
        · rw [later hs' (by rw [hshape]; simp; omega)]
          simp [hshape]
    | @image alt src s halt hsrc hs =>
      have hrest := later hs (by simp; omega)
      have himage := imageShape?_append halt hsrc (s ++ ']' :: destinationText url)
      have hshape : '!' :: '[' :: (alt ++ ']' :: '(' :: (src ++ ')' :: s)) ++
          ']' :: destinationText url = '!' :: '[' :: (alt ++ ']' :: '(' :: (src ++ ')' ::
            (s ++ ']' :: destinationText url))) := by simp
      rw [hshape, linkTail?_of_image (by decide) himage, hrest]
      simp

/-- The text of a link is one that a link may have. -/
theorem isLinkText_of_linkTail? {first : Bool} {text : Text}
    (h : linkTail? first s = some (text, url, rest)) : IsLinkText text := by
  fun_induction linkTail? first s generalizing text with
  | case1 => cases h
  | case2 => cases h
  | case3 first c s _ _ =>
    obtain ⟨⟨u, r⟩, -, heq⟩ := Option.map_eq_some_iff.1 h
    obtain ⟨rfl, -⟩ := Prod.mk.inj heq
    exact .nil
  | case4 first c s _ shape rest' himage _ found hfound ih =>
    obtain ⟨t, u⟩ := found
    obtain ⟨rfl, rfl⟩ := Prod.mk.inj (Option.some.inj h)
    obtain ⟨alt, src, halt, hsrc, rfl, -⟩ := exists_of_imageShape? himage
    have hshape := IsLinkText.image halt hsrc .nil
    have htext := hshape.append (ih hfound)
    simpa using htext
  | case5 first c s hc _ _ _ _ _ _ ih =>
    obtain ⟨⟨t, u⟩, hs, heq⟩ := Option.map_eq_some_iff.1 h
    obtain ⟨rfl, rfl⟩ := Prod.mk.inj heq
    exact .char (by simpa using hc) (ih hs)
  | case6 first c s hc _ ih =>
    obtain ⟨⟨t, u⟩, hs, heq⟩ := Option.map_eq_some_iff.1 h
    obtain ⟨rfl, rfl⟩ := Prod.mk.inj heq
    exact .char (by simpa using hc) (ih hs)

end Bindery.Markup
