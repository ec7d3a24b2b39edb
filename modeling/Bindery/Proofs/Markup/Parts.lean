import Bindery.Markup.Span

namespace Bindery.Markup

open Text

variable {s before inside rest : Text}

theorem eq_append_of_upTo? {c : Char} (h : upTo? c s = some (before, rest)) :
    s = before ++ c :: rest := by
  induction s generalizing before with
  | nil => cases h
  | cons d s ih =>
    rw [upTo?] at h
    split at h
    · next hd =>
      obtain ⟨rfl, rfl⟩ := Prod.mk.inj (Option.some.inj h)
      rw [eq_of_beq hd, List.nil_append]
    · obtain ⟨⟨b, r⟩, hs, heq⟩ := Option.map_eq_some_iff.1 h
      obtain ⟨rfl, rfl⟩ := Prod.mk.inj heq
      exact congrArg (d :: ·) (ih hs)

theorem eq_append_of_beforeMark? {mark : Text} {afterBlank : Bool}
    (h : beforeMark? mark afterBlank s = some (before, rest)) : s = before ++ mark ++ rest := by
  induction s generalizing afterBlank before with
  | nil => cases h
  | cons c s ih =>
    rw [beforeMark?] at h
    split at h
    · next r hr =>
      obtain ⟨rfl, rfl⟩ := Prod.mk.inj (Option.some.inj h)
      split at hr
      · cases hr
      · exact eq_append_of_afterStart? hr
    · split at h
      · cases h
      · obtain ⟨⟨b, r⟩, hs, heq⟩ := Option.map_eq_some_iff.1 h
        obtain ⟨rfl, rfl⟩ := Prod.mk.inj heq
        exact congrArg (c :: ·) (ih hs)

theorem eq_replicate_of_all_isTick (h : s.all isTick = true) :
    s = List.replicate s.length '\x60' := by
  refine List.eq_replicate_iff.2 ⟨rfl, fun c hc => ?_⟩
  exact eq_of_beq (List.all_eq_true.1 h c hc)

theorem eq_append_of_beforeRun? {length : Nat} (h : beforeRun? length s = some (before, rest)) :
    s = before ++ List.replicate length '\x60' ++ rest := by
  have hrun (s : Text) := eq_replicate_of_all_isTick (List.all_takeWhile (p := isTick) (l := s))
  fun_induction beforeRun? length s generalizing before with
  | case1 => cases h
  | case2 => cases h
  | case3 c s _ htick _ hlength =>
    obtain ⟨rfl, rfl⟩ := Prod.mk.inj (Option.some.inj h)
    rw [← eq_of_beq hlength, List.replicate_succ, ← hrun, eq_of_beq htick, List.nil_append,
      List.cons_append, List.takeWhile_append_dropWhile]
  | case4 c s _ _ _ _ ih =>
    obtain ⟨⟨b, r⟩, hs, heq⟩ := Option.map_eq_some_iff.1 h
    obtain ⟨rfl, rfl⟩ := Prod.mk.inj heq
    have hrest : s.dropWhile isTick = b ++ List.replicate length '\x60' ++ r := ih hs
    calc c :: s = c :: (s.takeWhile isTick ++ s.dropWhile isTick) := by
          rw [List.takeWhile_append_dropWhile]
      _ = c :: (s.takeWhile isTick ++ (b ++ List.replicate length '\x60' ++ r)) := by rw [hrest]
      _ = _ := by simp only [id_eq, List.cons_append, List.append_assoc]
  | case5 c s _ _ ih =>
    obtain ⟨⟨b, r⟩, hs, heq⟩ := Option.map_eq_some_iff.1 h
    obtain ⟨rfl, rfl⟩ := Prod.mk.inj heq
    exact congrArg (c :: ·) (ih hs)

theorem eq_append_of_between? {mark : Text} (h : between? mark s = some (inside, rest)) :
    s = mark ++ inside ++ mark ++ rest := by
  unfold between? at h
  split at h
  · next c t hstart =>
    split at h
    · cases h
    · obtain ⟨⟨b, r⟩, hs, heq⟩ := Option.map_eq_some_iff.1 h
      obtain ⟨rfl, rfl⟩ := Prod.mk.inj heq
      rw [eq_append_of_afterStart? hstart, eq_append_of_beforeMark? hs]
      simp only [id_eq, List.cons_append, List.append_assoc]
  · cases h

theorem exists_of_betweenSingle? {mark : Char} (h : betweenSingle? mark s = some (inside, rest)) :
    ∃ c, s = c :: (inside ++ mark :: rest) := by
  cases s with
  | nil => cases h
  | cons c s =>
    rw [betweenSingle?] at h
    split at h
    · next d r hd =>
      split at h
      · next hclose =>
        obtain ⟨rfl, rfl⟩ := Prod.mk.inj (Option.some.inj h)
        have hmark : d = mark := by
          simp only [Bool.and_eq_true] at hclose
          exact eq_of_beq hclose.1.1.1.1
        refine ⟨c, ?_⟩
        calc c :: s = c :: (s.takeWhile (isInside mark) ++ s.dropWhile (isInside mark)) := by
              rw [List.takeWhile_append_dropWhile]
          _ = _ := by rw [hd, hmark]
      · cases h
    · cases h

theorem parts_of_emphasis? {mark : Char} {strength : Strength}
    (h : emphasis? mark s = some (strength, inside, rest)) : inside <:+: s ∧ rest <:+ s := by
  have between {mark : Text} (h : between? mark s = some (inside, rest)) :
      inside <:+: s ∧ rest <:+ s := by
    rw [eq_append_of_between? h]
    exact ⟨⟨mark, mark ++ rest, by simp only [List.append_assoc]⟩, List.suffix_append _ rest⟩
  unfold emphasis? at h
  split at h
  · next hfound =>
    obtain ⟨-, rfl⟩ := Prod.mk.inj (Option.some.inj h)
    exact between hfound
  · split at h
    · next hfound =>
      obtain ⟨-, rfl⟩ := Prod.mk.inj (Option.some.inj h)
      exact between hfound
    · obtain ⟨found, hfound, heq⟩ := Option.map_eq_some_iff.1 h
      obtain ⟨-, rfl⟩ := Prod.mk.inj heq
      obtain ⟨c, hs⟩ := exists_of_betweenSingle? hfound
      rw [hs]
      exact ⟨⟨[c], mark :: rest, rfl⟩, ⟨c :: inside ++ [mark], by simp⟩⟩

theorem suffix_of_destination? {url : Text} (h : destination? s = some (url, rest)) :
    rest <:+ s := by
  unfold destination? at h
  split at h
  · next t =>
    have hdrop := List.dropWhile_suffix (l := t) isDestinationChar
    simp only at h
    split at h
    · cases h
    · split at h
      · next heq =>
        obtain ⟨-, rfl⟩ := Prod.mk.inj (Option.some.inj h)
        rw [heq] at hdrop
        exact ((List.suffix_cons _ _).trans hdrop).trans (List.suffix_cons _ _)
      · obtain ⟨r, hr, heq⟩ := Option.map_eq_some_iff.1 h
        obtain ⟨-, rfl⟩ := Prod.mk.inj heq
        exact ((afterTitle?_suffix hr).trans hdrop).trans (List.suffix_cons _ _)
  · cases h

theorem exists_of_image? {alt src : Text} (h : image? s = some (alt, src, rest)) :
    ∃ after, s = '!' :: '[' :: (alt ++ ']' :: after) ∧ destination? after = some (src, rest) := by
  unfold image? at h
  split at h
  · obtain ⟨⟨a, after⟩, halt, h⟩ := Option.bind_eq_some_iff.1 h
    obtain ⟨⟨b, r⟩, hdestination, heq⟩ := Option.map_eq_some_iff.1 h
    obtain ⟨rfl, h'⟩ := Prod.mk.inj heq
    obtain ⟨rfl, rfl⟩ := Prod.mk.inj h'
    exact ⟨after, by rw [eq_append_of_upTo? halt], hdestination⟩
  · cases h

theorem eq_append_of_imageShape? {shape : Text} (h : imageShape? s = some (shape, rest)) :
    s = shape ++ rest := by
  unfold imageShape? at h
  split at h
  · split at h
    · next halt =>
      obtain ⟨⟨b, r⟩, hsrc, heq⟩ := Option.map_eq_some_iff.1 h
      obtain ⟨rfl, rfl⟩ := Prod.mk.inj heq
      rw [eq_append_of_upTo? halt, eq_append_of_upTo? hsrc]
      simp
    · cases h
  · cases h

theorem exists_of_linkTail? {first : Bool} {text url : Text}
    (h : linkTail? first s = some (text, url, rest)) :
    ∃ after, s = text ++ ']' :: after ∧ destination? after = some (url, rest) := by
  fun_induction linkTail? first s generalizing text with
  | case1 => cases h
  | case2 => cases h
  | case3 first c s hc _ =>
    obtain ⟨⟨u, r⟩, hs, heq⟩ := Option.map_eq_some_iff.1 h
    obtain ⟨rfl, h'⟩ := Prod.mk.inj heq
    obtain ⟨rfl, rfl⟩ := Prod.mk.inj h'
    exact ⟨s, by rw [eq_of_beq hc, List.nil_append], hs⟩
  | case4 first c s hc shape rest' himage _ found hfound ih =>
    obtain ⟨t, u⟩ := found
    obtain ⟨rfl, rfl⟩ := Prod.mk.inj (Option.some.inj h)
    obtain ⟨after, hs, hdestination⟩ := ih hfound
    exact ⟨after, by rw [eq_append_of_imageShape? himage, hs, List.append_assoc], hdestination⟩
  | case5 first c s hc _ _ _ _ _ _ ih =>
    obtain ⟨⟨t, u⟩, hs, heq⟩ := Option.map_eq_some_iff.1 h
    obtain ⟨rfl, rfl⟩ := Prod.mk.inj heq
    obtain ⟨after, hshape, hdestination⟩ := ih hs
    exact ⟨after, congrArg (c :: ·) hshape, hdestination⟩
  | case6 first c s hc _ ih =>
    obtain ⟨⟨t, u⟩, hs, heq⟩ := Option.map_eq_some_iff.1 h
    obtain ⟨rfl, rfl⟩ := Prod.mk.inj heq
    obtain ⟨after, hshape, hdestination⟩ := ih hs
    exact ⟨after, congrArg (c :: ·) hshape, hdestination⟩

theorem exists_of_link? {text url : Text} (h : link? s = some (text, url, rest)) :
    ∃ after, s = '[' :: (text ++ ']' :: after) ∧ destination? after = some (url, rest) := by
  unfold link? at h
  split at h
  · obtain ⟨after, hs, hdestination⟩ := exists_of_linkTail? h
    exact ⟨after, by rw [hs], hdestination⟩
  · cases h

theorem suffix_of_afterEnclosed? {opening closing : Text}
    (h : afterEnclosed? opening closing s = some rest) : rest <:+ s := by
  obtain ⟨inside, hstart, h⟩ := Option.bind_eq_some_iff.1 h
  obtain ⟨⟨before, rest'⟩, hcut, rfl⟩ := Option.map_eq_some_iff.1 h
  rw [eq_append_of_afterStart? hstart, eq_append_of_cutAt? hcut]
  exact (List.suffix_append _ _).trans (List.suffix_append _ _)

theorem suffix_of_attribute? {a : Text × Text} (h : attribute? s = some (a, rest)) :
    rest <:+ s := by
  cases s with
  | nil => cases h
  | cons c s =>
    have hdrop := (List.dropWhile_suffix (l := s) isKeyChar).trans (List.suffix_cons c s)
    rw [attribute?] at h
    split at h
    · simp only at h
      split at h
      · next hvalue =>
        obtain ⟨-, rfl⟩ := Prod.mk.inj (Option.some.inj h)
        exact (value?_suffix hvalue).trans hdrop
      · obtain ⟨-, rfl⟩ := Prod.mk.inj (Option.some.inj h)
        exact hdrop
    · cases h

theorem suffix_attributes (s : Text) : (attributes s).2 <:+ s := by
  fun_induction attributes s with
  | case1 s after _ a rest ha _ others rest' heq ih =>
    rw [heq] at ih
    exact (ih.trans (suffix_of_attribute? ha)).trans (List.dropWhile_suffix _)
  | case2 => exact List.suffix_refl _
  | case3 => exact List.suffix_refl _

theorem suffix_of_openTag? {tag : OpenTag} (h : openTag? s = some (tag, rest)) : rest <:+ s := by
  unfold openTag? at h
  split at h
  · next s =>
    split at h
    · next name s' hname =>
      have hafter : (attributes s').2.dropWhile isBlank <:+ '<' :: s :=
        (((List.dropWhile_suffix _).trans (suffix_attributes s')).trans (name?_suffix hname)).trans
          (List.suffix_cons '<' s)
      simp only at h
      split at h
      · next r heq =>
        obtain ⟨-, rfl⟩ := Prod.mk.inj (Option.some.inj h)
        rw [heq] at hafter
        exact ((List.suffix_cons _ _).trans (List.suffix_cons _ _)).trans hafter
      · next heq =>
        obtain ⟨-, rfl⟩ := Prod.mk.inj (Option.some.inj h)
        rw [heq] at hafter
        exact (List.suffix_cons _ _).trans hafter
      · cases h
    · cases h
  · cases h

theorem suffix_of_closeTag? {name : Text} (h : closeTag? s = some (name, rest)) : rest <:+ s := by
  unfold closeTag? at h
  split at h
  · next s =>
    split at h
    · next name' s' hname =>
      have hafter : s'.dropWhile isBlank <:+ '<' :: '/' :: s :=
        (((List.dropWhile_suffix _).trans (name?_suffix hname)).trans
          (List.suffix_cons '/' s)).trans (List.suffix_cons '<' _)
      split at h
      · next heq =>
        obtain ⟨-, rfl⟩ := Prod.mk.inj (Option.some.inj h)
        rw [heq] at hafter
        exact (List.suffix_cons _ _).trans hafter
      · cases h
    · cases h
  · cases h

/-- Only a closing tag raises the search. -/
theorem exists_closeTag?_of_rises {name : Text} {length : Nat}
    (h : mention? name s = some (length, .rises rest)) :
    ∃ other, closeTag? s = some (other, rest) := by
  unfold mention? at h
  split at h
  · next t =>
    have hopening : openingEffect ('<' :: t) ≠ .rises rest := by
      rw [openingEffect]
      split
      · split <;> exact Effect.noConfusion
      · exact Effect.noConfusion
    split at h
    · have heffect := (Prod.mk.inj (Option.some.inj h)).2
      rw [closingEffect] at heffect
      split at heffect
      · next other after hclose =>
        cases heffect
        exact ⟨other, hclose⟩
      · cases heffect
    · split at h
      · exact absurd (Prod.mk.inj (Option.some.inj h)).2 hopening
      · cases h
  · cases h

theorem suffix_of_rises {name : Text} {length : Nat}
    (h : mention? name s = some (length, .rises rest)) : rest <:+ s := by
  obtain ⟨other, hclose⟩ := exists_closeTag?_of_rises h
  exact suffix_of_closeTag? hclose

theorem parts_of_closingFrom? {name : Text} {depth skip fenced : Nat} {lineStart : Bool}
    (h : closingFrom? name depth skip fenced lineStart s = some (inside, rest)) :
    inside <+: s ∧ rest <:+ s := by
  induction s generalizing depth skip fenced lineStart inside with
  | nil => cases h
  | cons c s ih =>
    have later {d k f b} (h : (closingFrom? name d k f b s).map (Prod.map (c :: ·) id) =
        some (inside, rest)) : inside <+: c :: s ∧ rest <:+ c :: s := by
      obtain ⟨⟨b, r⟩, hs, heq⟩ := Option.map_eq_some_iff.1 h
      obtain ⟨rfl, rfl⟩ := Prod.mk.inj heq
      obtain ⟨hinside, hrest⟩ := ih hs
      exact ⟨List.cons_prefix_cons.2 ⟨rfl, hinside⟩, hrest.trans (List.suffix_cons c s)⟩
    rw [closingFrom?] at h
    simp only at h
    generalize fencedFrom fenced lineStart (c :: s) = f at h
    split at h
    · exact later h
    · split at h
      · exact later h
      · next length effect hmention =>
        split at h
        · exact later h
        · exact later h
        · next rest' heffect =>
          split at h
          · obtain ⟨rfl, rfl⟩ := Prod.mk.inj (Option.some.inj h)
            split at heffect
            · cases heffect
            · subst heffect
              exact ⟨List.nil_prefix, suffix_of_rises hmention⟩
          · exact later h

theorem suffix_of_codeSpan? {code : Text} (h : codeSpan? s = some (code, rest)) : rest <:+ s := by
  rw [codeSpan?] at h
  split at h
  · obtain ⟨⟨before, r⟩, hbefore, heq⟩ := Option.map_eq_some_iff.1 h
    obtain ⟨-, rfl⟩ := Prod.mk.inj heq
    have hafter : r <:+ s.dropWhile isTick := by
      rw [eq_append_of_beforeRun? hbefore]
      exact List.suffix_append _ r
    exact hafter.trans (List.dropWhile_suffix isTick)
  · cases h

theorem suffix_of_image? {alt src : Text} (h : image? s = some (alt, src, rest)) : rest <:+ s := by
  obtain ⟨after, rfl, hdestination⟩ := exists_of_image? h
  exact (suffix_of_destination? hdestination).trans ⟨'!' :: '[' :: (alt ++ [']']), by simp⟩

theorem suffix_of_link? {text url : Text} (h : link? s = some (text, url, rest)) : rest <:+ s := by
  obtain ⟨after, rfl, hdestination⟩ := exists_of_link? h
  exact (suffix_of_destination? hdestination).trans ⟨'[' :: (text ++ [']']), by simp⟩

theorem suffix_of_ofTag? {span : Span} (h : Span.ofTag? s = some (span, rest)) : rest <:+ s := by
  unfold Span.ofTag? at h
  split at h
  · next hcomment =>
    cases h
    exact suffix_of_afterEnclosed? hcomment
  · split at h
    · next hclose =>
      split at h
      · cases h
        exact suffix_of_closeTag? hclose
      · cases h
    · split at h
      · next hopen =>
        have hafter := suffix_of_openTag? hopen
        split at h
        · cases h
        · split at h
          · cases h
            exact hafter
          · split at h
            · next hclosing =>
              cases h
              exact (parts_of_closingFrom? hclosing).2.trans hafter
            · cases h
              exact hafter
      · cases h

theorem suffix_of_ofMark? {mark : Char} {span : Span}
    (h : Span.ofMark? mark s = some (span, rest)) : rest <:+ s := by
  obtain ⟨found, hemphasis, heq⟩ := Option.map_eq_some_iff.1 h
  cases heq
  exact (parts_of_emphasis? hemphasis).2

/-- The reading of a line goes on in the line. -/
theorem suffix_of_at? {afterWord : Bool} {span : Span}
    (h : Span.at? afterWord s = some (span, rest)) : rest <:+ s := by
  unfold Span.at? at h
  split at h
  · obtain ⟨found, hcode, heq⟩ := Option.map_eq_some_iff.1 h
    cases heq
    exact suffix_of_codeSpan? hcode
  · obtain ⟨found, himage, heq⟩ := Option.map_eq_some_iff.1 h
    cases heq
    exact suffix_of_image? himage
  · obtain ⟨found, hlink, heq⟩ := Option.map_eq_some_iff.1 h
    cases heq
    exact suffix_of_link? hlink
  · exact suffix_of_ofTag? h
  · obtain ⟨r, hcomment, heq⟩ := Option.map_eq_some_iff.1 h
    cases heq
    exact suffix_of_afterEnclosed? hcomment
  · exact suffix_of_ofMark? h
  · split at h
    · cases h
    · exact suffix_of_ofMark? h
  · unfold Span.ofBackslash? at h
    split at h
    · split at h
      · cases h
        exact (List.suffix_cons _ _).trans (List.suffix_cons _ _)
      · cases h
    · cases h
  · cases h

end Bindery.Markup
