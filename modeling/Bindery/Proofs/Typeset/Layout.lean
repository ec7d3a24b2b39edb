import Bindery.Typeset.Layout

namespace Bindery.Typeset

open Text

/-- One text below another with a blank line between them. An empty text takes no place. -/
def below (x y : Text) : Text :=
  if x = [] then y else if y = [] then x else x ++ '\n' :: '\n' :: y

/-- Whether the entry puts anything on the page. -/
def Entry.isShown : Entry → Bool
  | .gap => false
  | .chunk text _ => !allBlank text

variable {text : Text} {entries others : List Entry}

theorem layoutFrom_nil (started due : Bool) : layoutFrom started due [] = [] := rfl

theorem layoutFrom_gap (started due : Bool) (entries : List Entry) :
    layoutFrom started due (.gap :: entries) = layoutFrom started true entries := rfl

theorem layoutFrom_of_allBlank (h : allBlank text = true) (started due alone : Bool)
    (entries : List Entry) :
    layoutFrom started due (.chunk text alone :: entries) =
      layoutFrom started (due || alone) entries :=
  if_pos h

theorem layoutFrom_of_shown (h : allBlank text = false) (started due alone : Bool)
    (entries : List Entry) :
    layoutFrom started due (.chunk text alone :: entries) =
      (if !started then [] else if due || alone then ['\n', '\n'] else ['\n']) ++ text ++
        layoutFrom true alone entries :=
  if_neg (by simp [h])

theorem ne_nil_of_shown (h : allBlank text = false) : text ≠ [] := by
  rintro rfl
  cases h

/-- An entry is set, or not, and leaves the layout in another state. -/
theorem exists_layoutFrom_cons (started due : Bool) (entry : Entry) :
    ∃ head started' due', ∀ entries,
      layoutFrom started due (entry :: entries) = head ++ layoutFrom started' due' entries := by
  cases entry with
  | gap => exact ⟨[], started, true, fun entries => rfl⟩
  | chunk text alone =>
    cases h : allBlank text with
    | true => exact ⟨[], started, due || alone, layoutFrom_of_allBlank h started due alone⟩
    | false => exact ⟨_, true, alone, layoutFrom_of_shown h started due alone⟩

/-- What is below a gap only depends on what is above it in whether there is anything. -/
theorem layoutFrom_append_gap (started due : Bool) (entries others : List Entry) :
    layoutFrom started due (entries ++ .gap :: others) =
      layoutFrom started due entries ++
        layoutFrom (started || entries.any Entry.isShown) true others := by
  induction entries generalizing started due with
  | nil => rw [List.nil_append, List.any_nil, Bool.or_false, layoutFrom_gap, layoutFrom_nil,
      List.nil_append]
  | cons entry entries ih =>
    rw [List.cons_append, List.any_cons]
    cases entry with
    | gap => rw [layoutFrom_gap, layoutFrom_gap, ih, Entry.isShown, Bool.false_or]
    | chunk text alone =>
      rw [Entry.isShown]
      cases h : allBlank text with
      | true =>
        rw [layoutFrom_of_allBlank h, layoutFrom_of_allBlank h, ih, Bool.not_true, Bool.false_or]
      | false =>
        rw [layoutFrom_of_shown h, layoutFrom_of_shown h, ih]
        simp only [Bool.not_false, Bool.true_or, Bool.or_true, List.append_assoc]

theorem layoutFrom_eq_nil_iff (started due : Bool) :
    layoutFrom started due entries = [] ↔ entries.any Entry.isShown = false := by
  induction entries generalizing started due with
  | nil => simp only [layoutFrom_nil, List.any_nil]
  | cons entry entries ih =>
    rw [List.any_cons]
    cases entry with
    | gap => rw [layoutFrom_gap, ih, Entry.isShown, Bool.false_or]
    | chunk text alone =>
      rw [Entry.isShown]
      cases h : allBlank text with
      | true => rw [layoutFrom_of_allBlank h, ih, Bool.not_true, Bool.false_or]
      | false => simp [layoutFrom_of_shown h, ne_nil_of_shown h]

/-- A break that is due before anything has been set comes to nothing. -/
theorem layoutFrom_not_started (due : Bool) (entries : List Entry) :
    layoutFrom false due entries = layout entries := by
  suffices h : ∀ due other, layoutFrom false due entries = layoutFrom false other entries from
    h due false
  intro due other
  induction entries generalizing due other with
  | nil => rfl
  | cons entry entries ih =>
    cases entry with
    | gap => rfl
    | chunk text alone =>
      cases h : allBlank text with
      | true =>
        rw [layoutFrom_of_allBlank h, layoutFrom_of_allBlank h]
        exact ih _ _
      | false => rw [layoutFrom_of_shown h, layoutFrom_of_shown h, Bool.not_false, if_pos rfl,
          if_pos rfl]

theorem layout_gap_cons (entries : List Entry) : layout (.gap :: entries) = layout entries := by
  rw [layout, layoutFrom_gap, layoutFrom_not_started]

theorem layout_of_allBlank (h : allBlank text = true) (alone : Bool) (entries : List Entry) :
    layout (.chunk text alone :: entries) = layout entries := by
  rw [layout, layoutFrom_of_allBlank h, layoutFrom_not_started]

theorem layout_of_shown (h : allBlank text = false) (alone : Bool) (entries : List Entry) :
    layout (.chunk text alone :: entries) = text ++ layoutFrom true alone entries := by
  rw [layout, layoutFrom_of_shown h, Bool.not_false, if_pos rfl, List.nil_append]

/-- A break that is due after something has been set is a blank line, if anything more is set. -/
theorem layoutFrom_started (entries : List Entry) :
    layoutFrom true true entries =
      if layout entries = [] then [] else '\n' :: '\n' :: layout entries := by
  induction entries with
  | nil => rfl
  | cons entry entries ih =>
    cases entry with
    | gap => rw [layoutFrom_gap, ih, layout_gap_cons]
    | chunk text alone =>
      cases h : allBlank text with
      | true => rw [layoutFrom_of_allBlank h, Bool.true_or, ih, layout_of_allBlank h]
      | false =>
        have hsome := List.append_ne_nil_of_left_ne_nil (ne_nil_of_shown h)
          (layoutFrom true alone entries)
        rw [layoutFrom_of_shown h, layout_of_shown h, if_neg hsome]
        rfl

theorem layout_append_gap (entries others : List Entry) :
    layout (entries ++ .gap :: others) = below (layout entries) (layout others) := by
  rw [layout, layoutFrom_append_gap, Bool.false_or, below]
  by_cases h : layout entries = []
  · have hnone := (layoutFrom_eq_nil_iff false false).1 h
    have hnil : layoutFrom false false entries = [] := h
    rw [if_pos h, hnone, hnil, List.nil_append, layoutFrom_not_started]
  · have hshown : entries.any Entry.isShown = true := by
      rw [← Bool.not_eq_false]
      exact fun hnone => h ((layoutFrom_eq_nil_iff false false).2 hnone)
    rw [if_neg h, hshown, layoutFrom_started]
    split
    · exact List.append_nil _
    · rfl

theorem below_nil (x : Text) : below x [] = x := by
  rw [below]
  split
  · next hx => exact hx.symm
  · rfl

theorem layout_append_replicate_gap (entries : List Entry) (n : Nat) :
    layout (entries ++ List.replicate n .gap) = layout entries := by
  induction n with
  | zero => rw [List.replicate_zero, List.append_nil]
  | succ n ih =>
    rw [List.replicate_succ', ← List.append_assoc, layout_append_gap, ih]
    exact below_nil (layout entries)

end Bindery.Typeset
