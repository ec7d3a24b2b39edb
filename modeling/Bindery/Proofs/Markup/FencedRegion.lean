import Bindery.Proofs.Markup.PairedTags

namespace Bindery.Markup

open Text

variable {s t after : Text} {n : Nat}

/-- Fence marks with spaces and tabs around them. -/
structure IsMarkLine (l : Text) : Prop where
  chars : ∀ c ∈ l, isGap c = true ∨ isFenceMark c = true
  mark : ∃ c ∈ l, isFenceMark c = true

theorem isMarkLine_of_isBareFence {mark : Char} {length : Nat} {l : Text}
    (hmark : isFenceMark mark = true) (hlength : 0 < length)
    (h : isBareFence mark length l = true) : IsMarkLine l := by
  have htrim : trimClass isGap l = List.replicate length mark := eq_of_beq h
  refine ⟨fun c hc => ?_, mark, ?_, hmark⟩
  · by_cases hgap : isGap c = true
    · exact .inl hgap
    · rw [Bool.not_eq_true] at hgap
      have hmem := mem_trimClass hgap hc
      rw [htrim] at hmem
      exact .inr (List.eq_of_mem_replicate hmem ▸ hmark)
  · have hmem : mark ∈ trimClass isGap l := by
      rw [htrim]
      exact List.mem_replicate.2 ⟨Nat.ne_of_gt hlength, rfl⟩
    exact (infix_trimClass isGap l).subset hmem

theorem exists_of_throughLine? {wanted : Text → Bool} {lines : List Text}
    (h : throughLine? wanted lines = some n) :
    ∃ before l rest, joinWith ['\n'] lines = before ++ l ++ rest ∧ n = (before ++ l).length ∧
      wanted l = true := by
  induction lines generalizing n with
  | nil => cases h
  | cons line lines ih =>
    rw [throughLine?] at h
    split at h
    · next hwanted =>
      obtain rfl := Option.some.inj h
      obtain ⟨rest, hrest⟩ := prefix_joinWith ['\n'] line lines
      exact ⟨[], line, rest, hrest.symm, rfl, hwanted⟩
    · obtain ⟨m, hm, rfl⟩ := Option.map_eq_some_iff.1 h
      obtain ⟨before, l, rest, hlines, rfl, hwanted⟩ := ih hm
      have hne : lines ≠ [] := by
        rintro rfl
        cases hm
      refine ⟨line ++ '\n' :: before, l, rest, ?_, ?_, hwanted⟩
      · rw [joinWith_cons hne, hlines]
        simp
      · simp
        omega

/-- A region goes to the end of a line of marks. -/
theorem exists_of_regionLength? (h : regionLength? s = some n) :
    ∃ before l rest, s = before ++ l ++ rest ∧ n = (before ++ l).length ∧ IsMarkLine l := by
  unfold regionLength? at h
  split at h
  · next mark length _ first later hrun hlines =>
    obtain ⟨k, hk, hfound⟩ := List.exists_of_findSome?_eq_some h
    obtain ⟨m, hthrough, rfl⟩ := Option.map_eq_some_iff.1 hfound
    obtain ⟨before, l, rest, hlater, rfl, hbare⟩ := exists_of_throughLine? hthrough
    have hmark : isFenceMark mark = true := by
      unfold markRun? at hrun
      split at hrun
      · cases hrun
      · split at hrun
        · next hmark =>
          cases hrun
          exact hmark
        · cases hrun
    have hlength : 0 < k := by
      obtain ⟨i, hi, rfl⟩ := List.mem_map.1 hk
      rw [List.mem_range] at hi
      omega
    have hne : later ≠ [] := by
      rintro rfl
      cases hthrough
    refine ⟨first ++ '\n' :: before, l, rest, ?_, ?_, isMarkLine_of_isBareFence hmark hlength hbare⟩
    · rw [← joinWith_splitOn '\n' s, ← lines, hlines, joinWith_cons hne, hlater]
      simp
    · simp
      omega
  · cases h

/-- A region that opens before text without marks ends before it. -/
theorem le_length_of_regionLength? (hfree : Unfenced after)
    (hhead : after.head?.any isGap = false) (h : regionLength? (t ++ after) = some n) :
    n ≤ t.length := by
  obtain ⟨before, l, rest, hs, rfl, hl⟩ := exists_of_regionLength? h
  rcases List.append_eq_append_iff.1 hs with ⟨more, hmore, hafter⟩ | ⟨tail, rfl, hrest⟩
  · cases more with
    | nil =>
      rw [List.append_nil] at hmore
      exact Nat.le_of_eq (congrArg List.length hmore)
    | cons c more =>
      -- The region would go on to the first character after the text.
      have hmem : c ∈ after := hafter ▸ List.mem_cons_self
      have hgap : isGap c = false := by simpa [hafter] using hhead
      rcases List.append_eq_append_iff.1 hmore with ⟨begun, rfl, hbegun⟩ | ⟨inside, rfl, hinside⟩
      · have hline := hl.chars c (hbegun ▸ List.mem_append_right begun List.mem_cons_self)
        rw [hgap, hfree c hmem] at hline
        simp at hline
      · have hsubset : l ⊆ after := by
          rw [hafter, hinside]
          exact fun d hd => List.mem_append_left rest (List.mem_append_right inside hd)
        obtain ⟨d, hd, hmark⟩ := hl.mark
        rw [hfree d (hsubset hd)] at hmark
        cases hmark
  · simp

/-- No region is open after a text that is followed by text without marks. -/
theorem fencedAfter_eq_zero (hfree : Unfenced after) (hhead : after.head?.any isGap = false)
    {fenced : Nat} (hfenced : fenced ≤ s.length) (lineStart : Bool) :
    fencedAfter after fenced lineStart s = 0 := by
  induction s generalizing fenced lineStart with
  | nil => exact Nat.le_zero.1 hfenced
  | cons c s ih =>
    have hopen : fencedFrom fenced lineStart (c :: s ++ after) ≤ (c :: s).length := by
      rw [fencedFrom]
      split
      · cases hregion : regionLength? (c :: s ++ after) with
        | none => exact Nat.zero_le _
        | some n => exact le_length_of_regionLength? hfree hhead hregion
      · exact hfenced
    rw [fencedAfter]
    refine ih ?_ (c == '\n')
    rw [List.length_cons] at hopen
    omega

end Bindery.Markup
