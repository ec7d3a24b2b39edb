import Bindery.Proofs.Markup.RoundTrip
import Bindery.Proofs.Pairs

namespace Bindery

open Text

namespace Markup

variable {s before value rest name : Text} {a : Text × Text} {pairs : List (Text × Text)}

/-- The reader takes the text, whatever follows it, and gives the result. -/
def Takes {α : Type} (read : Text → Option (α × Text)) (taken : Text) (a : α) : Prop :=
  ∀ t, read (taken ++ t) = some (a, t)

theorem exists_takes_upTo? {c : Char} (h : upTo? c s = some (before, rest)) :
    ∃ taken, s = taken ++ rest ∧ Takes (upTo? c) taken before := by
  induction s generalizing before with
  | nil => cases h
  | cons d s ih =>
    rw [upTo?] at h
    split at h
    · next hd =>
      obtain ⟨rfl, rfl⟩ := Prod.mk.inj (Option.some.inj h)
      exact ⟨[d], rfl, fun t => if_pos hd⟩
    · next hd =>
      obtain ⟨⟨b, r⟩, hs, heq⟩ := Option.map_eq_some_iff.1 h
      obtain ⟨rfl, rfl⟩ := Prod.mk.inj heq
      obtain ⟨taken, rfl, htakes⟩ := ih hs
      refine ⟨d :: taken, rfl, fun t => ?_⟩
      rw [List.cons_append, upTo?, if_neg hd, htakes t]
      rfl

theorem exists_takes_braced? {inner : Bool} (h : braced? inner s = some (before, rest)) :
    ∃ taken, s = taken ++ rest ∧ Takes (braced? inner) taken before := by
  induction s generalizing inner before with
  | nil => cases h
  | cons d s ih =>
    rw [braced?] at h
    split at h
    · next hd =>
      obtain ⟨rfl, rfl⟩ := Prod.mk.inj (Option.some.inj h)
      exact ⟨[d], rfl, fun t => if_pos hd⟩
    · next hd =>
      split at h
      · cases h
      · next hopen =>
        obtain ⟨⟨b, r⟩, hs, heq⟩ := Option.map_eq_some_iff.1 h
        obtain ⟨rfl, rfl⟩ := Prod.mk.inj heq
        obtain ⟨taken, rfl, htakes⟩ := ih hs
        refine ⟨d :: taken, rfl, fun t => ?_⟩
        rw [List.cons_append, braced?, if_neg hd, if_neg hopen]
        simp only [htakes t]
        rfl

/-- What stands before a value, up to the character that opens it, stands so before any other. -/
theorem exists_before_value {d : Char} {s₁ s₂ : Text} (h₁ : s.dropWhile isBlank = '=' :: s₁)
    (h₂ : s₁.dropWhile isBlank = d :: s₂) :
    ∃ opening, s = opening ++ d :: s₂ ∧
      ∀ t, ∃ t₁, (opening ++ d :: t).dropWhile isBlank = '=' :: t₁ ∧
        t₁.dropWhile isBlank = d :: t := by
  have hd : (d :: s₂).head?.any isBlank = false := h₂ ▸ head?_dropWhile isBlank s₁
  refine ⟨s.takeWhile isBlank ++ '=' :: s₁.takeWhile isBlank, ?_, fun t => ?_⟩
  · rw [List.append_assoc, List.cons_append, ← h₂, List.takeWhile_append_dropWhile, ← h₁,
      List.takeWhile_append_dropWhile]
  · refine ⟨s₁.takeWhile isBlank ++ d :: t, ?_, ?_⟩
    · rw [List.append_assoc, List.cons_append]
      exact dropWhile_append_of_head List.all_takeWhile rfl
    · exact dropWhile_append_of_head List.all_takeWhile hd

theorem exists_takes_value? (h : value? s = some (value, rest)) :
    ∃ taken, s = taken ++ rest ∧ taken ≠ [] ∧ Takes value? taken value := by
  unfold value? at h
  split at h
  · next s₁ h₁ =>
    have opened {d : Char} {s₂ taken : Text} (h₂ : s₁.dropWhile isBlank = d :: s₂)
        (hs₂ : s₂ = taken ++ rest)
        (hread : ∀ t u t₁, u.dropWhile isBlank = '=' :: t₁ →
          t₁.dropWhile isBlank = d :: (taken ++ t) → value? u = some (value, t)) :
        ∃ taken, s = taken ++ rest ∧ taken ≠ [] ∧ Takes value? taken value := by
      obtain ⟨opening, hs, hbefore⟩ := exists_before_value h₁ h₂
      refine ⟨opening ++ d :: taken, by simp [hs, hs₂], by simp, fun t => ?_⟩
      obtain ⟨t₁, hequals, hvalue⟩ := hbefore (taken ++ t)
      rw [List.append_assoc, List.cons_append]
      exact hread t _ t₁ hequals hvalue
    split at h
    · next s₂ h₂ =>
      obtain ⟨taken, hs₂, htakes⟩ := exists_takes_upTo? h
      refine opened h₂ hs₂ fun t u t₁ hu ht₁ => ?_
      simp only [value?, hu, ht₁, htakes t]
    · next s₂ h₂ =>
      obtain ⟨taken, hs₂, htakes⟩ := exists_takes_upTo? h
      refine opened h₂ hs₂ fun t u t₁ hu ht₁ => ?_
      simp only [value?, hu, ht₁, htakes t]
    · next s₂ h₂ =>
      obtain ⟨⟨inside, r⟩, hbraced, heq⟩ := Option.map_eq_some_iff.1 h
      obtain ⟨rfl, rfl⟩ := Prod.mk.inj heq
      obtain ⟨taken, hs₂, htakes⟩ := exists_takes_braced? hbraced
      refine opened h₂ hs₂ fun t u t₁ hu ht₁ => ?_
      simp only [value?, hu, ht₁, htakes t]
      rfl
    · cases h
  · cases h

/-- An attribute is read again before another text, if that does not go on with it where the text
    that it was read from does not. -/
theorem exists_of_attribute? (h : attribute? s = some (a, rest)) :
    ∃ taken, s = taken ++ rest ∧ taken.head?.any isKeyStart = true ∧
      ∀ t, t = [] ∨ t.head? = rest.head? → value? t = none →
        attribute? (taken ++ t) = some (a, t) := by
  cases s with
  | nil => cases h
  | cons c s =>
    have hkey : (s.takeWhile isKeyChar).all isKeyChar = true := List.all_takeWhile
    have hstop : (s.dropWhile isKeyChar).head?.any isKeyChar = false := head?_dropWhile isKeyChar s
    have hs : s.takeWhile isKeyChar ++ s.dropWhile isKeyChar = s :=
      List.takeWhile_append_dropWhile
    rw [attribute?] at h
    split at h
    · next hc =>
      simp only at h
      split at h
      · next v r hvalue =>
        obtain ⟨rfl, rfl⟩ := Prod.mk.inj (Option.some.inj h)
        obtain ⟨taken, htaken, hne, htakes⟩ := exists_takes_value? hvalue
        refine ⟨c :: (s.takeWhile isKeyChar ++ taken), ?_, hc, fun t _ _ => ?_⟩
        · rw [List.cons_append, List.append_assoc, ← htaken, hs]
        · have hhead : (taken ++ t).head?.any isKeyChar = false := by
            rw [htaken, List.head?_append_of_ne_nil _ hne] at hstop
            rwa [List.head?_append_of_ne_nil _ hne]
          rw [List.cons_append, List.append_assoc, attribute?, if_pos hc]
          simp only [takeWhile_append_of_head hkey hhead, dropWhile_append_of_head hkey hhead,
            htakes t]
      · next hvalue =>
        obtain ⟨rfl, rfl⟩ := Prod.mk.inj (Option.some.inj h)
        refine ⟨c :: s.takeWhile isKeyChar, ?_, hc, fun t ht hnone => ?_⟩
        · rw [List.cons_append, hs]
        · have hhead : t.head?.any isKeyChar = false := by
            rcases ht with rfl | ht
            · rfl
            · rwa [ht]
          rw [List.cons_append, attribute?, if_pos hc]
          simp only [takeWhile_append_of_head hkey hhead, dropWhile_append_of_head hkey hhead,
            hnone]
    · cases h

theorem attributesIn_of_attribute? (h : attribute? s = some (a, rest)) :
    attributesIn s = a :: attributesIn rest := by
  cases s with
  | nil => cases h
  | cons c s =>
    rw [attributesIn]
    split
    · next heq =>
      rw [h] at heq
      obtain ⟨rfl, rfl⟩ := Prod.mk.inj (Option.some.inj heq)
      rfl
    · next heq => cases h.symm.trans heq

theorem attributesIn_blanks_append {blanks : Text} (h : blanks.all isBlank = true) (s : Text) :
    attributesIn (blanks ++ s) = attributesIn s := by
  induction blanks with
  | nil => rfl
  | cons c blanks ih =>
    rw [List.all_cons, Bool.and_eq_true] at h
    have hnone : attribute? (c :: (blanks ++ s)) = none := by
      refine if_neg fun hc => ?_
      rw [isBlank_of_isKeyStart hc] at h
      cases h.1
    rw [List.cons_append, attributesIn]
    split
    · next heq => cases hnone.symm.trans heq
    · exact ih h.2

/-- In the text that the attributes of a tag take, the same attributes are found when they are
    looked for wherever they stand. -/
theorem exists_attributesIn_eq (s : Text) :
    ∃ raw, s = raw ++ (attributes s).2 ∧ attributesIn raw = (attributes s).1 ∧
      value? raw = none := by
  have hnil (t : Text) : ∃ raw, t = raw ++ t ∧ attributesIn raw = [] ∧ value? raw = none :=
    ⟨[], rfl, by rw [attributesIn], rfl⟩
  fun_induction attributes s with
  | case1 s after h a rest ha hlt others rest' heq ih =>
    rw [heq] at ih
    obtain ⟨raw, hraw, hread, hvalue⟩ := ih
    obtain ⟨taken, htaken, hstart, htakes⟩ := exists_of_attribute? ha
    have hblanks : (s.takeWhile isBlank).all isBlank = true := List.all_takeWhile
    have hagain : attribute? (taken ++ raw) = some (a, raw) := by
      refine htakes raw ?_ hvalue
      cases raw with
      | nil => exact .inl rfl
      | cons c raw => exact .inr (hraw ▸ rfl)
    refine ⟨s.takeWhile isBlank ++ (taken ++ raw), ?_, ?_, ?_⟩
    · calc s = s.takeWhile isBlank ++ after := List.takeWhile_append_dropWhile.symm
        _ = s.takeWhile isBlank ++ (taken ++ (raw ++ rest')) := by rw [htaken, hraw]
        _ = s.takeWhile isBlank ++ (taken ++ raw) ++ rest' := by
          rw [List.append_assoc, List.append_assoc]
    · rw [attributesIn_blanks_append hblanks, attributesIn_of_attribute? hagain, hread]
    · cases taken with
      | nil => cases hstart
      | cons c taken =>
        have hc : isKeyStart c = true := hstart
        have hdrop : (s.takeWhile isBlank ++ (c :: taken ++ raw)).dropWhile isBlank =
            c :: (taken ++ raw) :=
          dropWhile_append_of_head hblanks (isBlank_of_isKeyStart hc)
        rw [value?, hdrop]
        split
        · next heq =>
          rw [(List.cons.inj heq).1] at hc
          exact absurd hc (by decide)
        · rfl
  | case2 => exact hnil _
  | case3 => exact hnil _

/-- A tag that is a whole element, with a space before each attribute and before its end. -/
def selfClosingText (name : Text) (attributes : List (Text × Text)) : Text :=
  '<' :: (name ++ (attributes.flatMap attributeText ++ [' ', '/', '>']))

theorem attributes_selfClosing (hpairs : ∀ a ∈ pairs, IsAttribute a) :
    attributes (pairs.flatMap attributeText ++ [' ', '/', '>']) = (pairs, [' ', '/', '>']) :=
  attributes_append hpairs (attributes_of_attribute?_eq_none rfl)

/-- The attributes of a written tag are the pairs that stand in it, where they are looked for. -/
theorem attributesIn_written (hpairs : ∀ a ∈ pairs, IsAttribute a) :
    attributesIn (pairs.flatMap attributeText) = pairs := by
  obtain ⟨raw, hraw, hread, -⟩ :=
    exists_attributesIn_eq (pairs.flatMap attributeText ++ [' ', '/', '>'])
  rw [attributes_selfClosing hpairs] at hraw hread
  rwa [List.append_cancel_right hraw]

theorem head?_selfClosing (pairs : List (Text × Text)) :
    (pairs.flatMap attributeText ++ [' ', '/', '>']).head?.any isNameChar = false := by
  cases pairs with
  | nil => rfl
  | cons a pairs => rfl

theorem openTag?_selfClosing (hname : IsTagName name) (hpairs : ∀ a ∈ pairs, IsAttribute a) :
    openTag? (selfClosingText name pairs) = some (⟨name, Pairs.ofList pairs, true⟩, []) := by
  have hclosing : [' ', '/', '>'].dropWhile isBlank = ['/', '>'] := by decide
  rw [selfClosingText, openTag?, hname.name? (head?_selfClosing pairs)]
  simp only [attributes_selfClosing hpairs, hclosing]

theorem element?_selfClosing (hname : IsTagName name) (hcomponent : isComponent name = true)
    (hblock : name ∉ lineNames) (hpairs : ∀ a ∈ pairs, IsAttribute a) :
    Block.element? (selfClosingText name pairs) =
      some (.element name (Pairs.ofList pairs) [], []) := by
  have hnames : ¬(lineNames.contains name || !isComponent name) = true := by
    simp [hblock, hcomponent]
  have hresume : Block.resume [] = [] := rfl
  rw [Block.element?, selfClosingText, closeTag?_name hname, ← selfClosingText]
  simp only [Option.filter_none, openTag?_selfClosing hname hpairs, if_neg hnames, ↓reduceIte,
    hresume]

theorem return_not_mem_selfClosingText (hname : IsTagName name)
    (hpairs : ∀ a ∈ pairs, IsAttribute a) (hreturn : ∀ a ∈ pairs, '\r' ∉ a.2) :
    '\r' ∉ selfClosingText name pairs := by
  have hopen := Outline.not_mem_openTagText hname hpairs (c := '\r') (by decide) hreturn
  simp only [openTagText, List.mem_cons, List.mem_append, not_or] at hopen
  simp [selfClosingText, hopen]

/-- A tag with any attributes is one element without content. Whatever stands in the quotes, the
element has the attributes that the tag was written with: those that are found in the text after
its name, each key at the place where it is first set and with the value that it is last set to. -/
theorem parse_selfClosingText (hname : IsTagName name) (hcomponent : isComponent name = true)
    (hblock : name ∉ lineNames) (hpairs : ∀ a ∈ pairs, IsAttribute a)
    (hreturn : ∀ a ∈ pairs, '\r' ∉ a.2) :
    parse (selfClosingText name pairs) = [.element name (Pairs.ofList pairs) [] true] ∧
      attributesIn (pairs.flatMap attributeText) = pairs ∧
      (Pairs.ofList pairs).map Prod.fst = (pairs.map Prod.fst).eraseDups ∧
      ∀ key, Pairs.get? key (Pairs.ofList pairs) = Pairs.get? key pairs.reverse := by
  have hnormal := normalizeNewlines_of_not_mem
    (return_not_mem_selfClosingText hname hpairs hreturn)
  have hnext : Block.next (selfClosingText name pairs) =
      (.element name (Pairs.ofList pairs) [], []) := by
    rw [selfClosingText, next_angle (Outline.comment?_name hname _), ← selfClosingText,
      element?_selfClosing hname hcomponent hblock hpairs, Option.getD_some]
  have hne : selfClosingText name pairs ≠ [] := List.cons_ne_nil _ _
  refine ⟨?_, attributesIn_written hpairs, Pairs.keys_ofList pairs,
    fun key => Pairs.get?_ofList key pairs⟩
  have hdedent : dedentContent [] = [] := rfl
  rw [parse_of_next hnormal hne hnext, Block.children, Block.inside, hdedent, blockNodes_nil]
  rfl

/-- A tag over three lines, with tags and braces in a value and with a key that is set twice. -/
theorem parse_selfClosingText_card :
    parse "<Card title=\"a\" x:y=\"{<b/>}\n/>\n='\" title=\"</Card>\" />".toList =
        [.element "Card".toList
          [("title".toList, "</Card>".toList), ("x:y".toList, "{<b/>}\n/>\n='".toList)] [] true] ∧
      attributesIn " title=\"a\" x:y=\"{<b/>}\n/>\n='\" title=\"</Card>\"".toList =
        [("title".toList, "a".toList), ("x:y".toList, "{<b/>}\n/>\n='".toList),
          ("title".toList, "</Card>".toList)] := by
  have hname : IsTagName "Card".toList := ⟨by decide, by decide⟩
  have hpairs : ∀ a ∈ [("title".toList, "a".toList), ("x:y".toList, "{<b/>}\n/>\n='".toList),
      ("title".toList, "</Card>".toList)], IsAttribute a := by
    simp only [List.forall_mem_cons, List.not_mem_nil, false_implies, implies_true, and_true]
    exact ⟨⟨by decide, by decide, by decide⟩, ⟨by decide, by decide, by decide⟩,
      by decide, by decide, by decide⟩
  obtain ⟨hread, hfound, -⟩ :=
    parse_selfClosingText hname (by decide) (by decide) hpairs (by decide)
  exact ⟨hread, hfound⟩

end Markup

end Bindery
