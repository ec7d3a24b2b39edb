import Bindery.Proofs.Text.Cutting
import Bindery.Text.Basic
import Mathlib.Data.List.Forall2

namespace Bindery.Text

variable {α : Type} {Shown : α → Text → Prop} {items others : List α} {s t sep : Text}
  {parts : List Text}

/-- The items are shown in the text in their order, by pieces that do not overlap. -/
def InOrder (Shown : α → Text → Prop) : List α → Text → Prop
  | [], _ => True
  | item :: rest, s =>
    ∃ before piece after, s = before ++ (piece ++ after) ∧ Shown item piece ∧
      InOrder Shown rest after

theorem inOrder_nil (s : Text) : InOrder Shown [] s :=
  trivial

theorem inOrder_singleton {item : α} (h : Shown item s) : InOrder Shown [item] s :=
  ⟨[], s, [], by simp, h, trivial⟩

theorem InOrder.append_left (h : InOrder Shown items t) (s : Text) :
    InOrder Shown items (s ++ t) := by
  cases items with
  | nil => trivial
  | cons item rest =>
    obtain ⟨before, piece, after, rfl, hpiece, hrest⟩ := h
    exact ⟨s ++ before, piece, after, by simp, hpiece, hrest⟩

theorem InOrder.append (h : InOrder Shown items s) (hothers : InOrder Shown others t) :
    InOrder Shown (items ++ others) (s ++ t) := by
  induction items generalizing s with
  | nil => exact hothers.append_left s
  | cons item rest ih =>
    obtain ⟨before, piece, after, rfl, hpiece, hrest⟩ := h
    exact ⟨before, piece, after ++ t, by simp, hpiece, ih hrest⟩

theorem InOrder.mono (h : InOrder Shown items s) (hst : s <:+: t) : InOrder Shown items t := by
  obtain ⟨before, after, rfl⟩ := hst
  have hleft := h.append (inOrder_nil after : InOrder Shown [] after)
  rw [List.append_nil] at hleft
  rw [List.append_assoc]
  exact hleft.append_left before

/-- A text of blanks shows nothing, if no item is shown by blanks alone. -/
theorem InOrder.eq_nil_of_allBlank
    (hshown : ∀ item piece, Shown item piece → allBlank piece = false)
    (h : InOrder Shown items s) (hs : allBlank s = true) : items = [] := by
  cases items with
  | nil => rfl
  | cons item rest =>
    obtain ⟨before, piece, after, rfl, hpiece, -⟩ := h
    have hblank : allBlank piece = true := by
      rw [allBlank, List.all_append, List.all_append, Bool.and_eq_true, Bool.and_eq_true] at hs
      exact hs.2.1
    rw [hshown item piece hpiece] at hblank
    cases hblank

/-- The items are shown in the texts in their order, each text showing those that follow the ones
    of the text before it. -/
def InOrderAcross (Shown : α → Text → Prop) (items : List α) (parts : List Text) : Prop :=
  ∃ groups : List (List α), groups.flatten = items ∧ List.Forall₂ (InOrder Shown) groups parts

theorem inOrderAcross_nil (parts : List Text) : InOrderAcross Shown [] parts := by
  refine ⟨parts.map fun _ => [], by simp, List.forall₂_map_left_iff.2 ?_⟩
  exact List.forall₂_same.2 fun part _ => inOrder_nil part

theorem InOrderAcross.cons (h : InOrder Shown items s) (hparts : InOrderAcross Shown others parts) :
    InOrderAcross Shown (items ++ others) (s :: parts) := by
  obtain ⟨groups, rfl, hgroups⟩ := hparts
  exact ⟨items :: groups, rfl, .cons h hgroups⟩

/-- Each text may become part of a larger one. -/
theorem InOrderAcross.map (h : InOrderAcross Shown items parts) {f : Text → Text}
    (hf : ∀ part, part <:+: f part) : InOrderAcross Shown items (parts.map f) := by
  obtain ⟨groups, rfl, hgroups⟩ := h
  refine ⟨groups, rfl, List.forall₂_map_right_iff.2 (hgroups.imp fun group part hpart => ?_)⟩
  exact hpart.mono (hf part)

theorem InOrderAcross.flatten (h : InOrderAcross Shown items parts) :
    InOrder Shown items parts.flatten := by
  obtain ⟨groups, rfl, hgroups⟩ := h
  induction hgroups with
  | nil => trivial
  | cons hpart _ ih => exact hpart.append ih

theorem InOrderAcross.joinWith (h : InOrderAcross Shown items parts) (sep : Text) :
    InOrder Shown items (joinWith sep parts) := by
  obtain ⟨groups, rfl, hgroups⟩ := h
  induction hgroups with
  | nil => trivial
  | @cons group part groups parts hpart hparts ih =>
    cases hparts with
    | nil => simpa [Text.joinWith] using hpart
    | cons hnext hrest =>
      rw [Text.joinWith, List.append_assoc]
      exact hpart.append (ih.append_left sep)

end Bindery.Text
