import Bindery.Proofs.Text.Cutting
import Bindery.Proofs.Typeset.Layout
import Bindery.Proofs.Typst.Joining
import Bindery.Proofs.Typst.Raw
import Bindery.Typeset.Component
import Bindery.Typeset.Table

namespace Bindery.Typeset

open Text Typst

variable {w : Watch}

theorem quiet_strong {body : Text} (hbody : Quiet w body) : Quiet w (strong body) :=
  hbody.call (by decide)

theorem quiet_emph {body : Text} (hbody : Quiet w body) : Quiet w (emph body) :=
  hbody.call (by decide)

theorem quiet_emphasized {mode : Mode} {markup : Text → Text} {body : Text}
    (hmarkup : Quiet w (markup body)) (hbody : Quiet w body) :
    Quiet w (if mode.emphasis then markup body else body) := by
  split
  · exact hmarkup
  · exact hbody

theorem link_eq_call (url body : Text) : link url body =
    '#' :: "link".toList ++ '(' :: literal url ++ ')' :: '[' :: body ++ [']'] := by
  unfold link
  simp

theorem quiet_link (url : Text) {body : Text} (hbody : Quiet w body) : Quiet w (link url body) := by
  rw [link_eq_call]
  exact (quietList_literal w url).callWith (by decide) hbody

theorem quiet_rule : Quiet w rule := by
  have hargs : QuietList w ("length: 100%, stroke: 0.5pt + rgb".toList ++
      ('(' :: literal "#e5e7eb".toList ++ [')'])) :=
    (quietList_of_arguments w (by decide)).append (quietList_literal w _).parens
  have hcall : rule = '#' :: "line".toList ++ '(' :: ("length: 100%, stroke: 0.5pt + rgb".toList ++
      ('(' :: literal "#e5e7eb".toList ++ [')'])) ++ [')'] := by decide
  rw [hcall]
  exact hargs.call (by decide)

theorem figure_eq_call (path caption : Text) :
    figure path caption = '#' :: "figure".toList ++ '(' ::
    (("\n  image".toList ++ ('(' :: (literal path ++ ", width: 100%".toList) ++ [')']) ++
      ",\n".toList) ++
      (if caption.isEmpty then [] else
        "  caption: ".toList ++ ('[' :: caption ++ [']']) ++ ",\n".toList)) ++ [')'] := by
  unfold figure
  split <;> simp

theorem quiet_figure (path : Text) {caption : Text} (hcaption : Quiet w caption) :
    Quiet w (figure path caption) := by
  have himage : QuietList w ("\n  image".toList ++
      ('(' :: (literal path ++ ", width: 100%".toList) ++ [')']) ++ ",\n".toList) :=
    ((quietList_of_arguments w (by decide)).append
      ((quietList_literal w path).append (quietList_of_arguments w (by decide))).parens).append
      (quietList_of_arguments w (by decide))
  have hrest : QuietList w (if caption.isEmpty then [] else
      "  caption: ".toList ++ ('[' :: caption ++ [']']) ++ ",\n".toList) := by
    split
    · exact quietList_nil w
    · exact ((quietList_of_arguments w (by decide)).append hcaption.block).append
        (quietList_of_arguments w (by decide))
  rw [figure_eq_call]
  exact (himage.append hrest).call (by decide)

theorem all_replicate_separator {c : Char} (hc : isSeparator c = true) (n : Nat) :
    (List.replicate n c).all isSeparator = true :=
  List.all_eq_true.2 fun _ hmem => List.eq_of_mem_replicate hmem ▸ hc

theorem quiet_heading {level : Int} {body out : Text} (hbody : Quiet w body)
    (h : heading level body = .ok out) : Quiet w out := by
  rw [heading] at h
  split at h
  · cases h
    exact (hbody.cons (by decide)).append_left (all_replicate_separator (by decide) _)
  · cases h

theorem quiet_listItem (indent : Int) (ordered : Bool) {body : Text} (hbody : Quiet w body) :
    Quiet w (listItem indent ordered body) := by
  have hitem : Quiet w ((if ordered then '+' else '-') :: ' ' :: body) := by
    refine .cons ?_ (hbody.cons (by decide))
    cases ordered <;> decide
  exact hitem.append_left (all_replicate_separator (by decide) _)

theorem quiet_joinWith {sep : Text} (hsep : sep ≠ [] ∧ sep.all isSeparator = true)
    {parts : List Text} (h : ∀ t ∈ parts, Quiet w t) : Quiet w (joinWith sep parts) := by
  fun_induction joinWith sep parts with
  | case1 => exact quiet_nil w
  | case2 part => exact h part List.mem_cons_self
  | case3 part next rest ih =>
    exact (h part List.mem_cons_self).separated hsep
      (ih fun t ht => h t (List.mem_cons_of_mem part ht))

/-- What is set below a text stands on a line of its own, so that it goes on with nothing. -/
theorem quiet_append_layoutFrom {above : Text} (habove : Quiet w above) (due : Bool)
    {entries : List Entry} (h : ∀ text alone, Entry.chunk text alone ∈ entries → Quiet w text) :
    Quiet w (above ++ layoutFrom true due entries) := by
  induction entries generalizing above due with
  | nil => exact (List.append_nil above).symm ▸ habove
  | cons entry rest ih =>
    have hrest : ∀ text alone, Entry.chunk text alone ∈ rest → Quiet w text :=
      fun text alone hmem => h text alone (List.mem_cons_of_mem entry hmem)
    cases entry with
    | gap => exact ih habove true hrest
    | chunk text alone =>
      cases hblank : allBlank text with
      | true =>
        rw [layoutFrom_of_allBlank hblank]
        exact ih habove (due || alone) hrest
      | false =>
        have hbreak : (if due || alone then ['\n', '\n'] else ['\n']) ≠ [] ∧
            (if due || alone then ['\n', '\n'] else ['\n']).all isSeparator = true := by
          cases due <;> cases alone <;> decide
        have htext := habove.separated hbreak (h text alone List.mem_cons_self)
        rw [layoutFrom_of_shown hblank, ← List.append_assoc, ← List.append_assoc]
        exact ih htext alone hrest

theorem quiet_layout {entries : List Entry}
    (h : ∀ text alone, Entry.chunk text alone ∈ entries → Quiet w text) :
    Quiet w (layout entries) := by
  induction entries with
  | nil => exact quiet_nil w
  | cons entry rest ih =>
    have hrest : ∀ text alone, Entry.chunk text alone ∈ rest → Quiet w text :=
      fun text alone hmem => h text alone (List.mem_cons_of_mem entry hmem)
    cases entry with
    | gap =>
      rw [layout_gap_cons]
      exact ih hrest
    | chunk text alone =>
      cases hblank : allBlank text with
      | true =>
        rw [layout_of_allBlank hblank]
        exact ih hrest
      | false =>
        rw [layout_of_shown hblank]
        exact quiet_append_layoutFrom (h text alone List.mem_cons_self) alone hrest

theorem mem_of_mem_zipWith {nodes : List Node} {texts : List Text} {text : Text} {alone : Bool}
    (h : Entry.chunk text alone ∈ nodes.zipWith Entry.of texts) : text ∈ texts := by
  induction nodes generalizing texts with
  | nil => simp at h
  | cons node nodes ih =>
    cases texts with
    | nil => simp at h
    | cons t texts =>
      rw [List.zipWith_cons_cons, List.mem_cons] at h
      cases h with
      | inl heq =>
        unfold Entry.of at heq
        split at heq
        · cases heq
        · cases heq
          exact List.mem_cons_self
      | inr hmem => exact List.mem_cons_of_mem t (ih hmem)

theorem quiet_arrange {place : Place} (nodes : List Node) {texts : List Text}
    (h : ∀ t ∈ texts, Quiet w t) (hseamless : place = .line → w.Seamless texts) :
    Quiet w (arrange place nodes texts) := by
  cases place with
  | line => exact quiet_join h (hseamless rfl)
  | block => exact quiet_layout fun text _ hmem => h text (mem_of_mem_zipWith hmem)

theorem quietList_number (n : Nat) : QuietList w (ofNat n) := by
  refine quietList_of_arguments w (List.all_eq_true.2 fun c hc => ?_)
  have hdigit : c.isDigit = true := Nat.isDigit_of_mem_toDigits (by decide) (by decide) hc
  simp only [isArgument, Bool.not_eq_true', Bool.or_eq_false_iff, beq_eq_false_iff_ne]
  refine ⟨⟨⟨⟨?_, ?_⟩, ?_⟩, ?_⟩, ?_⟩ <;> rintro rfl <;> exact absurd hdigit (by decide)

theorem quietList_integer (n : Int) : QuietList w (ofInt n) := by
  rw [ofInt]
  split
  · exact (quietList_of_arguments w (s := ['-']) (by decide)).append (quietList_number _)
  · exact quietList_number _

theorem plainCell_eq (text : Text) :
    plainCell text = "  ".toList ++ ('[' :: text ++ [']']) ++ ",\n".toList := by
  unfold plainCell
  simp

theorem quietList_plainCell {text : Text} (h : Quiet w text) : QuietList w (plainCell text) := by
  rw [plainCell_eq]
  exact ((quietList_of_arguments w (by decide)).append h.block).append
    (quietList_of_arguments w (by decide))

theorem quietList_strongCell {text : Text} (h : Quiet w text) : QuietList w (strongCell text) :=
  quietList_plainCell (quiet_strong h)

theorem quietList_rowMarkup {cells : List Text} (h : ∀ t ∈ cells, Quiet w t) :
    QuietList w (rowMarkup cells) := by
  cases cells with
  | nil => exact quietList_nil w
  | cons first others =>
    refine (quietList_strongCell (h first List.mem_cons_self)).append
      (QuietList.flatten fun t ht => ?_)
    obtain ⟨cell, hcell, rfl⟩ := List.mem_map.1 ht
    exact quietList_plainCell (h cell (List.mem_cons_of_mem first hcell))

theorem tableMarkup_eq_call (header : List Text) (rows : List (List Text)) :
    tableMarkup header rows = '#' :: "table".toList ++ '(' ::
      (("\n  columns: ".toList ++ ofNat header.length ++ ",\n  align: ".toList) ++
        (('(' :: "left,".toList ++ [')']) ++ " * ".toList ++ ofNat header.length ++ ",\n".toList) ++
        header.flatMap strongCell ++ rows.flatMap rowMarkup) ++ [')'] := by
  unfold tableMarkup
  simp

theorem quiet_tableMarkup {header : List Text} {rows : List (List Text)}
    (hheader : ∀ t ∈ header, Quiet w t) (hrows : ∀ row ∈ rows, ∀ t ∈ row, Quiet w t) :
    Quiet w (tableMarkup header rows) := by
  have hcells : QuietList w (header.flatMap strongCell) := by
    refine QuietList.flatten fun t ht => ?_
    obtain ⟨cell, hcell, rfl⟩ := List.mem_map.1 ht
    exact quietList_strongCell (hheader cell hcell)
  have hbody : QuietList w (rows.flatMap rowMarkup) := by
    refine QuietList.flatten fun t ht => ?_
    obtain ⟨row, hrow, rfl⟩ := List.mem_map.1 ht
    exact quietList_rowMarkup (hrows row hrow)
  have hwidth : QuietList w
      ("\n  columns: ".toList ++ ofNat header.length ++ ",\n  align: ".toList) :=
    ((quietList_of_arguments w (by decide)).append (quietList_number _)).append
      (quietList_of_arguments w (by decide))
  have halign : QuietList w
      (('(' :: "left,".toList ++ [')']) ++ " * ".toList ++ ofNat header.length ++ ",\n".toList) :=
    (((quietList_of_arguments w (by decide)).parens.append
      (quietList_of_arguments w (by decide))).append (quietList_number _)).append
      (quietList_of_arguments w (by decide))
  rw [tableMarkup_eq_call]
  exact (((hwidth.append halign).append hcells).append hbody).call (by decide)

theorem titledCall_eq_call (function title body : Text) : titledCall function title body =
    '#' :: function ++ '(' :: ("title: ".toList ++ literal title) ++ ')' ::
      '[' :: ('\n' :: body ++ ['\n']) ++ [']'] := by
  unfold titledCall
  simp

theorem quiet_titledCall {function : Text} (hfunction : isName function = true) (title : Text)
    {body : Text} (hbody : Quiet w body) : Quiet w (titledCall function title body) := by
  have hblock : Quiet w ('\n' :: body ++ ['\n']) :=
    (hbody.cons (by decide)).append_right (by decide)
  rw [titledCall_eq_call]
  exact ((quietList_of_arguments w (by decide)).append (quietList_literal w title)).callWith
    hfunction hblock

theorem isName_calloutStyle (kind : Text) : isName (calloutStyle kind) = true := by
  have hall : calloutStyles.all (fun s => isName s.2.toList) = true := by decide
  unfold calloutStyle
  split
  · next style hfind => exact List.all_eq_true.1 hall _ (List.mem_of_find?_eq_some hfind)
  · decide

theorem mem_components {name : Text} {component : Component}
    (h : Component.named name = component) (hcontent : component ≠ .content) :
    ∃ entry, (entry, component) ∈ components ∧ entry.toList = name := by
  unfold Component.named at h
  split at h
  · next entry found hfind =>
    subst h
    have hname := List.find?_some hfind
    exact ⟨entry, List.mem_of_find?_eq_some hfind, eq_of_beq hname⟩
  · exact absurd h.symm hcontent

/-- A component that a single entry stands for is the one of that entry's name. -/
theorem name_of_named {name : Text} {component : Component} {entry : String}
    (h : Component.named name = component) (hcontent : component ≠ .content)
    (honly : components.all (fun c => c.2 != component || c.1 == entry) = true) :
    name = entry.toList := by
  obtain ⟨found, hmem, rfl⟩ := mem_components h hcontent
  have hfound : found = entry := by simpa using List.all_eq_true.1 honly _ hmem
  rw [hfound]

/-- The functions that the components of a box are set as have names. -/
theorem isName_of_named {name : Text} {style : String}
    (h : Component.named name = .box style) : isName style.toList = true := by
  have hall : components.all (fun c =>
      match c.2 with
      | .box style => isName style.toList
      | _ => true) = true := by decide
  obtain ⟨entry, hmem, -⟩ := mem_components h (by simp)
  exact List.all_eq_true.1 hall _ hmem

theorem cardEntry_eq (attributes : Pairs) (body : Text) (label : Option Text) :
    cardEntry attributes body label = "  ".toList ++
      ('(' :: (literal (orElse (attributes.get "icon".toList) "circle".toList) ++ ", ".toList ++
        literal (attributes.get "title".toList) ++ ", ".toList ++ ('[' :: body ++ [']']) ++
        (if (label.getD []).isEmpty then [] else ", ".toList ++ literal (label.getD []))) ++
        [')']) ++ ",\n".toList := by
  unfold cardEntry
  simp

theorem quietList_cardEntry (attributes : Pairs) {body : Text} (hbody : Quiet w body)
    (label : Option Text) : QuietList w (cardEntry attributes body label) := by
  have htarget (target : Text) :
      QuietList w (if target.isEmpty then [] else ", ".toList ++ literal target) := by
    split
    · exact quietList_nil w
    · exact (quietList_of_arguments w (by decide)).append (quietList_literal w target)
  rw [cardEntry_eq]
  refine ((quietList_of_arguments w (by decide)).append (QuietList.parens ?_)).append
    (quietList_of_arguments w (by decide))
  exact (((((quietList_literal w _).append (quietList_of_arguments w (by decide))).append
    (quietList_literal w _)).append (quietList_of_arguments w (by decide))).append
    hbody.block).append (htarget _)

theorem gridMarkup_eq_call (attributes : Pairs) (entries : List Text) :
    gridMarkup attributes entries = '#' :: "card-grid".toList ++ '(' ::
      ("cols: ".toList ++ ofInt (columnCount attributes) ++ ",\n".toList ++ entries.flatten) ++
      [')'] := by
  unfold gridMarkup
  simp

theorem quiet_gridMarkup (attributes : Pairs) {entries : List Text}
    (h : ∀ t ∈ entries, QuietList w t) : Quiet w (gridMarkup attributes entries) := by
  rw [gridMarkup_eq_call]
  exact ((((quietList_of_arguments w (by decide)).append (quietList_integer _)).append
    (quietList_of_arguments w (by decide))).append (QuietList.flatten h)).call (by decide)

/-- A body below a line that is left out when there is nothing for it to say. -/
theorem quiet_below (left : Bool) {line separator body : Text} (hline : Quiet w line)
    (hbody : Quiet w body) (hseparator : separator ≠ [] ∧ separator.all isSeparator = true) :
    Quiet w (if left then body else if body.isEmpty then line else line ++ separator ++ body) := by
  split
  · exact hbody
  · split
    · exact hline
    · exact hline.separated hseparator hbody

theorem quiet_titled (title : Text) {body separator : Text} (hbody : Quiet w body)
    (hseparator : separator ≠ [] ∧ separator.all isSeparator = true) :
    Quiet w (titled title body separator) :=
  quiet_below title.isEmpty (quiet_strong (quiet_escape w title)) hbody hseparator

theorem quietList_stepEntry (attributes : Pairs) {body : Text} (hbody : Quiet w body) :
    QuietList w (stepEntry attributes body) :=
  quietList_plainCell (quiet_titled _ hbody (by decide))

theorem stepsMarkup_eq_call (entries : List Text) : stepsMarkup entries =
    '#' :: "steps".toList ++ '(' :: ("\n".toList ++ entries.flatten) ++ [')'] := by
  unfold stepsMarkup
  simp

theorem quiet_stepsMarkup {entries : List Text} (h : ∀ t ∈ entries, QuietList w t) :
    Quiet w (stepsMarkup entries) := by
  rw [stepsMarkup_eq_call]
  exact ((quietList_of_arguments w (by decide)).append (QuietList.flatten h)).call (by decide)

theorem quiet_tabMarkup (attributes : Pairs) {body : Text} (hbody : Quiet w body) :
    Quiet w (tabMarkup attributes body) := by
  rw [tabMarkup]
  split
  · exact hbody
  · exact quiet_titled _ hbody (by decide)

/-- No blank belongs to an escape, so that the end of prose may be cut off. -/
theorem quiet_dropEndWhile_escape (s : Text) : Quiet w (dropEndWhile isBlank (escape s)) := by
  refine escape_induction (P := fun _ t => Quiet w (dropEndWhile isBlank t)) (quiet_nil w) ?_ ?_ s
  · intro c _ t hblank ht
    rw [dropEndWhile_cons_of_neg (by decide), dropEndWhile_cons_of_neg hblank]
    exact ht.cons_escaped c
  · intro c _ t hc hslash ht
    have hlater (d : Char) (h : t.head? ≠ some d) : (dropEndWhile isBlank t).head? ≠ some d := by
      intro hd
      obtain ⟨rest, hrest⟩ := List.head?_eq_some_iff.1 hd
      have hprefix := prefix_dropEndWhile isBlank t
      rw [hrest] at hprefix
      obtain ⟨tail, rfl⟩ := hprefix
      exact h rfl
    rw [dropEndWhile]
    split
    · split
      · exact quiet_nil w
      · exact (quiet_nil w).cons_prose hc fun _ => by simp
    · exact ht.cons_prose hc fun heq => ⟨hlater '/' (hslash heq).1, hlater '*' (hslash heq).2⟩

/-- A dash before a description, without blanks at the end. -/
theorem quiet_dash (description : Text) :
    Quiet w (dropEndWhile isBlank ('-' :: ' ' :: escape description)) := by
  rw [dropEndWhile_cons_of_neg (by decide)]
  refine .cons (by decide) ?_
  rw [dropEndWhile]
  split
  · exact quiet_nil w
  · exact (quiet_dropEndWhile_escape description).cons (by decide)

theorem trim_dash_nil (description : Text) :
    trim ([] ++ " - ".toList ++ escape description) =
      dropEndWhile isBlank ('-' :: ' ' :: escape description) := rfl

theorem trim_dash {head : Text} (hsign : head.head? = some '#') (description : Text) :
    trim (head ++ " - ".toList ++ escape description) =
      head ++ [' '] ++ dropEndWhile isBlank ('-' :: ' ' :: escape description) := by
  obtain ⟨rest, rfl⟩ := List.head?_eq_some_iff.1 hsign
  have hdash : dropEndWhile isBlank ('-' :: ' ' :: escape description) ≠ [] := by
    rw [dropEndWhile_cons_of_neg (by decide)]
    exact List.cons_ne_nil _ _
  have hshape : '#' :: rest ++ " - ".toList ++ escape description =
      ('#' :: rest ++ [' ']) ++ ('-' :: ' ' :: escape description) := by simp
  have hkeep : (('#' :: rest ++ [' ']) ++ ('-' :: ' ' :: escape description)).dropWhile isBlank =
      ('#' :: rest ++ [' ']) ++ ('-' :: ' ' :: escape description) := rfl
  rw [hshape, trim, trimClass, hkeep, dropEndWhile_append_of_ne_nil _ hdash]

/-- A label and a description with a dash between them, without blanks at the ends. -/
theorem quiet_trim_dash {head : Text} (hhead : head = [] ∨ Quiet w head ∧ head.head? = some '#')
    (description : Text) : Quiet w (trim (head ++ " - ".toList ++ escape description)) := by
  rcases hhead with rfl | ⟨hquiet, hsign⟩
  · exact trim_dash_nil description ▸ quiet_dash description
  · rw [trim_dash hsign]
    exact hquiet.separated (by decide) (quiet_dash description)

/-- The line that an update begins with: its label and its description. -/
def updateHead (attributes : Pairs) : Text :=
  let label := attributes.get "label".toList
  let description := attributes.get "description".toList
  let head := if label.isEmpty then [] else strong (escape label)
  if description.isEmpty then head else trim (head ++ " - ".toList ++ escape description)

theorem updateMarkup_eq (attributes : Pairs) (body : Text) :
    updateMarkup attributes body = if (updateHead attributes).isEmpty then body
      else if body.isEmpty then updateHead attributes
      else updateHead attributes ++ ['\n', '\n'] ++ body := rfl

theorem quiet_updateHead (attributes : Pairs) : Quiet w (updateHead attributes) := by
  have hlabel (label : Text) : (if label.isEmpty then [] else strong (escape label)) = [] ∨
      Quiet w (if label.isEmpty then [] else strong (escape label)) ∧
      (if label.isEmpty then [] else strong (escape label)).head? = some '#' := by
    split
    · exact .inl rfl
    · exact .inr ⟨quiet_strong (quiet_escape w label), rfl⟩
  unfold updateHead
  simp only
  split
  · rcases hlabel (attributes.get "label".toList) with hnil | h
    · exact hnil.symm ▸ quiet_nil w
    · exact h.1
  · exact quiet_trim_dash (hlabel _) _

theorem quiet_updateMarkup (attributes : Pairs) {body : Text} (hbody : Quiet w body) :
    Quiet w (updateMarkup attributes body) := by
  rw [updateMarkup_eq]
  exact quiet_below _ (quiet_updateHead attributes) hbody (by decide)

theorem quiet_markup {component : Component} {name : Text}
    (hnamed : Component.named name = component) (attributes : Pairs) {body : Text}
    (hbody : Quiet w body) : Quiet w (component.markup name attributes body) := by
  cases component with
  | callout => exact quiet_titledCall (isName_calloutStyle _) _ hbody
  | box style => exact quiet_titledCall (isName_of_named hnamed) _ hbody
  | card => exact quiet_titledCall (by decide) _ hbody
  | step => exact quiet_titled _ hbody (by decide)
  | accordion => exact quiet_titled _ hbody (by decide)
  | update => exact quiet_updateMarkup attributes hbody
  | hidden => exact quiet_nil w
  | columns => exact hbody
  | steps => exact hbody
  | tabs => exact hbody
  | key => exact hbody
  | content => exact hbody

end Bindery.Typeset
