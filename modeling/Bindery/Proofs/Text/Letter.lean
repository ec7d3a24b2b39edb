import Bindery.Text.Class

namespace Bindery.Text

variable {c : Char}

theorem toNat_lt_of_isAlpha (hc : c.isAlpha = true) : c.toNat < 128 := by
  have hletter : (c.isUpper || c.isLower) = true := hc
  have hlast (d : Char) (h : c.val ≤ d.val) : c.toNat ≤ d.toNat := UInt32.le_iff_toNat_le.1 h
  rw [Bool.or_eq_true] at hletter
  rcases hletter with hupper | hlower
  · have hcase : c.val ≥ 'A'.val ∧ c.val ≤ 'Z'.val := of_decide_eq_true hupper
    exact Nat.lt_of_le_of_lt (hlast 'Z' hcase.2) (by decide)
  · have hcase : (decide (c.val ≥ 'a'.val) && decide (c.val ≤ 'z'.val)) = true := hlower
    rw [Bool.and_eq_true] at hcase
    exact Nat.lt_of_le_of_lt (hlast 'z' (of_decide_eq_true hcase.2)) (by decide)

/-- A class that no letter among the first 128 characters lies in holds no letter. -/
theorem not_of_isAlpha {p : Char → Bool}
    (h : (List.range 128).all (fun n => !(Char.ofNat n).isAlpha || !p (Char.ofNat n)) = true)
    (hc : c.isAlpha = true) : p c = false := by
  have hn := List.all_eq_true.1 h c.toNat (List.mem_range.2 (toNat_lt_of_isAlpha hc))
  rw [Char.ofNat_toNat, hc] at hn
  simpa using hn

theorem ne_of_isAlpha (hc : c.isAlpha = true) {d : Char} (hd : d.isAlpha = false) : c ≠ d := by
  rintro rfl
  rw [hd] at hc
  cases hc

theorem beq_of_isAlpha (hc : c.isAlpha = true) {d : Char} (hd : d.isAlpha = false) :
    (c == d) = false ∧ (d == c) = false := by
  have hne := ne_of_isAlpha hc hd
  exact ⟨beq_eq_false_iff_ne.2 hne, beq_eq_false_iff_ne.2 hne.symm⟩

theorem isBlank_of_isAlpha (hc : c.isAlpha = true) : isBlank c = false :=
  not_of_isAlpha (by decide) hc

theorem isGap_of_isAlpha (hc : c.isAlpha = true) : isGap c = false :=
  not_of_isAlpha (by decide) hc

theorem isDigit_of_isAlpha (hc : c.isAlpha = true) : isDigit c = false :=
  not_of_isAlpha (by decide) hc

/-- No blank is a letter or a digit. -/
theorem isAlphanumeric_of_isBlank (hc : isBlank c = true) : isAlphanumeric c = false := by
  have hall : (List.range' 9 5 ++ List.range' 28 5 ++ [0x85, 0xA0, 0x1680] ++
      List.range' 0x2000 11 ++ [0x2028, 0x2029, 0x202F, 0x205F, 0x3000]).all
        (fun n => !isAlphanumeric (Char.ofNat n)) = true := by decide +kernel
  have hmem : c.toNat ∈ List.range' 9 5 ++ List.range' 28 5 ++ [0x85, 0xA0, 0x1680] ++
      List.range' 0x2000 11 ++ [0x2028, 0x2029, 0x202F, 0x205F, 0x3000] := by
    simp only [isBlank, Bool.or_eq_true, Bool.and_eq_true, decide_eq_true_eq, beq_iff_eq] at hc
    simp only [List.mem_append, List.mem_range'_1, List.mem_cons, List.not_mem_nil, or_false]
    omega
  simpa [Char.ofNat_toNat] using List.all_eq_true.1 hall c.toNat hmem

theorem isBlank_of_isWord (hc : isWord c = true) : isBlank c = false := by
  rw [isWord, Bool.or_eq_true, beq_iff_eq] at hc
  rcases hc with rfl | hc
  · decide
  · refine Bool.eq_false_iff.2 fun hblank => ?_
    rw [isAlphanumeric_of_isBlank hblank] at hc
    cases hc

end Bindery.Text
