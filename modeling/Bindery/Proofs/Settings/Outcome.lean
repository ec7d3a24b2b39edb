import Bindery.Settings.Reading

namespace Bindery

/-- The error says that a setting cannot have its value. -/
def SettingsError.isRefusal : SettingsError → Bool
  | .boolean _ => true
  | .notText _ => true
  | .descriptorNames => true
  | .style _ => true
  | .descriptions => true
  | .unknownHome => false
  | .unnameable => false
  | .longNumber => false

namespace Value

/-- A text, or a number, which counts as its digits. -/
def IsTextual : Value → Prop
  | .text _ => True
  | .int _ => True
  | .float _ => True
  | _ => False

/-- A whole number with too many digits to be written. -/
def IsLong : Value → Prop
  | .int n => Text.isWritable n = false
  | _ => False

/-- The text that a text or a number counts as. -/
def asText : Value → Text
  | .text t => t
  | .int n => Text.ofInt n
  | .float x => x.text
  | _ => []

end Value

namespace Settings

variable {α β : Type} {x : Except SettingsError α} {breaks accepts : Prop} {given : α}

/-- The reading breaks off just in the one case, and apart from it gives the result just in the
    other; in all that is left it refuses. -/
def Outcome (x : Except SettingsError α) (breaks accepts : Prop) (given : α) : Prop :=
  match x with
  | .ok a => ¬breaks ∧ accepts ∧ a = given
  | .error error => if error.isRefusal then ¬breaks ∧ ¬accepts else breaks

theorem Outcome.congr {breaks' accepts' : Prop} (h : Outcome x breaks accepts given)
    (hbreaks : breaks ↔ breaks') (haccepts : accepts ↔ accepts') :
    Outcome x breaks' accepts' given := by
  rwa [← propext hbreaks, ← propext haccepts]

theorem Outcome.map (f : α → β) (h : Outcome x breaks accepts given) :
    Outcome (x.map f) breaks accepts (f given) := by
  cases x with
  | ok a => exact ⟨h.1, h.2.1, congrArg f h.2.2⟩
  | error error => exact h

theorem Outcome.eq_ok (h : Outcome x breaks accepts given) (hbreaks : ¬breaks)
    (haccepts : accepts) : x = .ok given := by
  cases x with
  | ok a => exact congrArg Except.ok h.2.2
  | error error =>
    rw [Outcome] at h
    split at h
    · exact absurd haccepts h.2
    · exact absurd h hbreaks

theorem Outcome.exists_refusal_iff (h : Outcome x breaks accepts given) :
    (∃ error, x = .error error ∧ error.isRefusal = true) ↔ ¬breaks ∧ ¬accepts := by
  cases x with
  | ok a => simp [h.2.1]
  | error error =>
    rw [Outcome] at h
    cases hrefusal : error.isRefusal with
    | true => simpa [hrefusal] using h
    | false =>
      have hbreaks : breaks := by simpa [hrefusal] using h
      simp [hrefusal, hbreaks]

theorem map_eq_error_iff {f : α → β} {error : SettingsError} :
    x.map f = .error error ↔ x = .error error := by
  cases x <;> simp [Except.map]

/-- The reading of a list comes to an element that breaks it off, and has accepted all before. -/
def Reaches (accepts breaks : α → Prop) (l : List α) : Prop :=
  ∃ before a after, l = before ++ a :: after ∧ (∀ b ∈ before, accepts b) ∧ breaks a

variable {breaksAt acceptsAt : α → Prop}

theorem not_reaches_nil : ¬Reaches acceptsAt breaksAt [] := by
  rintro ⟨before, a, after, h, -⟩
  exact List.append_ne_nil_of_right_ne_nil before (List.cons_ne_nil a after) h.symm

theorem reaches_cons_iff {a : α} {l : List α} :
    Reaches acceptsAt breaksAt (a :: l) ↔
      breaksAt a ∨ acceptsAt a ∧ Reaches acceptsAt breaksAt l := by
  constructor
  · rintro ⟨before, b, after, h, hbefore, hb⟩
    cases before with
    | nil =>
      obtain ⟨rfl, rfl⟩ := List.cons.inj h
      exact .inl hb
    | cons c before =>
      obtain ⟨rfl, rfl⟩ := List.cons.inj h
      rw [List.forall_mem_cons] at hbefore
      exact .inr ⟨hbefore.1, before, b, after, rfl, hbefore.2, hb⟩
  · rintro (ha | ⟨ha, before, b, after, rfl, hbefore, hb⟩)
    · exact ⟨[], a, l, rfl, by simp, ha⟩
    · exact ⟨a :: before, b, after, rfl, List.forall_mem_cons.2 ⟨ha, hbefore⟩, hb⟩

/-- A list is read up to the first element that is not taken. -/
theorem outcome_mapM {f : α → Except SettingsError β} {given : α → β} {l : List α}
    (h : ∀ a ∈ l, Outcome (f a) (breaksAt a) (acceptsAt a) (given a)) :
    Outcome (l.mapM f) (Reaches acceptsAt breaksAt l) (∀ a ∈ l, acceptsAt a) (l.map given) := by
  induction l with
  | nil => exact ⟨not_reaches_nil, by simp, rfl⟩
  | cons a l ih =>
    obtain ⟨ha, hl⟩ := List.forall_mem_cons.1 h
    rw [List.mapM_cons]
    cases hfirst : f a with
    | error error =>
      rw [hfirst, Outcome] at ha
      change if error.isRefusal then _ else _
      split
      · next hrefusal =>
        rw [if_pos hrefusal] at ha
        exact ⟨by simp [reaches_cons_iff, ha.1, ha.2], by simp [ha.2]⟩
      · next hrefusal =>
        rw [if_neg hrefusal] at ha
        exact reaches_cons_iff.2 (.inl ha)
    | ok b =>
      rw [hfirst] at ha
      obtain ⟨hbreaks, haccepts, rfl⟩ := ha
      have hrest : (l.mapM f >>= fun rest => pure (given a :: rest)) =
          (l.mapM f).map (given a :: ·) := by
        cases l.mapM f <;> rfl
      change Outcome (l.mapM f >>= fun rest => pure (given a :: rest)) _ _ _
      rw [hrest]
      exact ((ih hl).map _).congr (by simp [reaches_cons_iff, hbreaks, haccepts])
        (by simp [haccepts])

theorem outcome_textOf (field : Text) (value : Value) :
    Outcome (textOf field value) value.IsLong value.IsTextual value.asText := by
  cases value with
  | text t => exact ⟨id, trivial, rfl⟩
  | float x => exact ⟨id, trivial, rfl⟩
  | int n =>
    rw [textOf]
    cases hn : Text.isWritable n with
    | true => exact ⟨by simp [Value.IsLong, hn], trivial, rfl⟩
    | false => exact hn
  | null | bool | date | moment | list | map => exact ⟨id, id⟩

end Settings

end Bindery
