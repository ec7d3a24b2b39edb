import Bindery.Proofs.Typeset.Setting

namespace Bindery.Typeset

open Text Typst

theorem infix_detach (previous piece : Text) : piece <:+: detach previous piece := by
  rw [detach]
  split
  · exact (List.suffix_cons '\\' piece).isInfix
  · exact List.infix_refl piece

theorem infix_call (name : String) (body : Text) : body <:+: call name body :=
  ⟨'#' :: name.toList ++ ['['], [']'], by simp [call]⟩

theorem infix_emphasized (mode : Mode) {markup : Text → Text} {body : Text}
    (h : body <:+: markup body) : body <:+: emphasized mode markup body := by
  rw [emphasized]
  split
  · exact h
  · exact List.infix_refl body

theorem infix_reference {mode : Mode} {url body out : Text}
    (h : reference mode url body = .ok out) : body <:+: out := by
  rcases reference_eq_ok h with rfl | rfl | rfl
  · exact List.infix_refl body
  · exact infix_call "strong" body
  · exact ⟨"#link(".toList ++ literal url ++ ")[".toList, [']'], rfl⟩

theorem infix_heading {level : Int} {body out : Text} (h : heading level body = .ok out) :
    body <:+: out := by
  rw [heading] at h
  split at h
  · cases h
    exact ((List.suffix_cons ' ' body).trans (List.suffix_append _ _)).isInfix
  · cases h

theorem infix_listItem (indent : Int) (ordered : Bool) (body : Text) :
    body <:+: listItem indent ordered body := by
  have hmarked :=
    (List.suffix_cons ' ' body).trans (List.suffix_cons (if ordered then '+' else '-') _)
  exact (hmarked.trans (List.suffix_append _ _)).isInfix

theorem infix_strongCell (body : Text) : body <:+: strongCell body :=
  (infix_call "strong" body).trans ⟨"  [".toList, "],\n".toList, rfl⟩

theorem infix_plainCell (body : Text) : body <:+: plainCell body :=
  ⟨"  [".toList, "],\n".toList, rfl⟩

theorem infix_tableMarkup (header : List Text) (rows : List (List Text)) :
    (header.map strongCell).flatten ++ (rows.map rowMarkup).flatten <:+:
      tableMarkup header rows := by
  have hbetween (start head body : Text) : head ++ body <:+: start ++ head ++ body ++ [')'] :=
    ⟨start, [')'], by simp⟩
  exact hbetween _ _ _

theorem infix_titledCall (function title body : Text) :
    body <:+: titledCall function title body := by
  rw [titledCall]
  exact List.infix_append _ body _

/-- A body below a line that is left out when there is nothing for it to say. -/
theorem infix_below (left : Bool) (line separator body : Text) :
    body <:+: if left then body else if body.isEmpty then line else line ++ separator ++ body := by
  split
  · exact List.infix_refl body
  · split
    · next hempty =>
      obtain rfl : body = [] := by simpa using hempty
      exact List.nil_infix
    · exact (List.suffix_append _ body).isInfix

theorem infix_titled (title body separator : Text) : body <:+: titled title body separator :=
  infix_below title.isEmpty (strong (escape title)) separator body

theorem infix_cardEntry (attributes : Pairs) (body : Text) (label : Option Text) :
    body <:+: cardEntry attributes body label := by
  have hentry : cardEntry attributes body label =
      ("  (".toList ++ literal (orElse (attributes.get "icon".toList) "circle".toList) ++
        ", ".toList ++ literal (attributes.get "title".toList) ++ ", [".toList) ++ body ++
      ("]".toList ++ (if (label.getD []).isEmpty then [] else
        ", ".toList ++ literal (label.getD [])) ++ "),\n".toList) := by
    unfold cardEntry
    simp
  rw [hentry]
  exact List.infix_append _ body _

theorem infix_stepEntry (attributes : Pairs) (body : Text) :
    body <:+: stepEntry attributes body := by
  rw [stepEntry]
  exact (infix_titled _ body _).trans (List.infix_append _ _ _)

theorem infix_tabMarkup (attributes : Pairs) (body : Text) :
    body <:+: tabMarkup attributes body := by
  rw [tabMarkup]
  split
  · exact List.infix_refl body
  · exact infix_titled _ body _

theorem infix_updateMarkup (attributes : Pairs) (body : Text) :
    body <:+: updateMarkup attributes body := by
  have hbelow (line : Text) := infix_below line.isEmpty line ['\n', '\n'] body
  exact hbelow _

theorem infix_setCardEntry {env : Env} (attributes : Pairs) (body out : Text)
    (h : setCardEntry env attributes body = .ok out) : body <:+: out := by
  obtain ⟨label, -, h⟩ := bind_eq_ok_iff.1 h
  exact pure_eq_ok_iff.1 h ▸ infix_cardEntry attributes body label

theorem infix_of_pure {markup : Pairs → Text → Text}
    (h : ∀ attributes body, body <:+: markup attributes body) (attributes : Pairs)
    (body out : Text) (hset : (pure (markup attributes body) : Except SetError Text) = .ok out) :
    body <:+: out :=
  pure_eq_ok_iff.1 hset ▸ h attributes body

theorem infix_gridMarkup (attributes : Pairs) (entries : List Text) :
    entries.flatten <:+: gridMarkup attributes entries := by
  unfold gridMarkup
  exact List.infix_append _ _ _

theorem infix_stepsMarkup (entries : List Text) : entries.flatten <:+: stepsMarkup entries :=
  List.infix_append _ _ _

/-- Every component keeps its body, save the one that is set as nothing. -/
theorem infix_markup {component : Component} (h : component ≠ .hidden) (name : Text)
    (attributes : Pairs) (body : Text) : body <:+: component.markup name attributes body := by
  cases component with
  | callout => exact infix_titledCall _ _ body
  | box style => exact infix_titledCall _ _ body
  | card => exact infix_titledCall _ _ body
  | step => exact infix_titled _ body _
  | accordion => exact infix_titled _ body _
  | update => exact infix_updateMarkup attributes body
  | hidden => exact absurd rfl h
  | columns | steps | tabs | key | content => exact List.infix_refl body

end Bindery.Typeset
