import Bindery.Packages.Lexers
import Bindery.Proofs.Markup.Table
import Bindery.Proofs.Typeset.BlankLine
import Mathlib.Data.List.Forall2

namespace Bindery.Typeset

open Text Typst Markup

variable {context : Context} {mode : Mode} {out : Text} {width : Nat}

/-- The markup of a table before its cells. -/
def openingMarkup (width : Nat) : Text :=
  "#table(\n  columns: ".toList ++ ofNat width ++ ",\n  align: (left,) * ".toList ++
    ofNat width ++ ",\n".toList

/-- The cells of a row, the first of them strong. -/
def strongFirst : List Text → List Text
  | [] => []
  | first :: others => strong first :: others

/-- The rows of a table with the header above them. -/
def grid (header : List Text) (rows : List (List Text)) : List (List Text) :=
  header.map strong :: rows.map strongFirst

theorem length_strongFirst (row : List Text) : (strongFirst row).length = row.length := by
  cases row with
  | nil => rfl
  | cons first others => rfl

theorem strongCell_eq (text : Text) : strongCell text = plainCell (strong text) := rfl

theorem rowMarkup_eq (row : List Text) : rowMarkup row = (strongFirst row).flatMap plainCell := by
  cases row with
  | nil => rfl
  | cons first others => rw [rowMarkup, strongFirst, List.flatMap_cons, strongCell_eq]

/-- The cells of a table stand one after the other, row below row. -/
theorem tableMarkup_eq (header : List Text) (rows : List (List Text)) :
    tableMarkup header rows =
      openingMarkup header.length ++ (grid header rows).flatten.flatMap plainCell ++ [')'] := by
  have hheader : header.flatMap strongCell = (header.map strong).flatMap plainCell := by
    rw [List.flatMap_map]
    exact congrArg (header.flatMap ·) (funext strongCell_eq)
  have hrows : rows.flatMap rowMarkup = (rows.map strongFirst).flatten.flatMap plainCell := by
    induction rows with
    | nil => rfl
    | cons row rows ih =>
      rw [List.flatMap_cons, ih, rowMarkup_eq, List.map_cons, List.flatten_cons,
        List.flatMap_append]
  unfold tableMarkup openingMarkup
  dsimp only
  rw [hheader, hrows, grid, List.flatten_cons, List.flatMap_append]
  simp only [List.append_assoc]

/-- Where all rows are of one width, a cell is found by its row and its column. -/
theorem getElem?_flatten {rows : List (List Text)} (h : ∀ row ∈ rows, row.length = width)
    (i : Nat) {j : Nat} (hj : j < width) :
    rows.flatten[width * i + j]? = rows[i]?.bind (·[j]?) := by
  induction rows generalizing i with
  | nil => rfl
  | cons row rows ih =>
    rw [List.forall_mem_cons] at h
    rw [List.flatten_cons]
    cases i with
    | zero =>
      rw [Nat.mul_zero, Nat.zero_add, List.getElem?_append_left (h.1 ▸ hj)]
      rfl
    | succ i =>
      have hplace : width * (i + 1) + j = row.length + (width * i + j) := by
        rw [Nat.mul_succ, h.1]
        omega
      rw [hplace, List.getElem?_append_right (Nat.le_add_right _ _), Nat.add_sub_cancel_left,
        ih h.2, List.getElem?_cons_succ]

theorem length_flatten {rows : List (List Text)} (h : ∀ row ∈ rows, row.length = width) :
    rows.flatten.length = width * rows.length := by
  induction rows with
  | nil => rfl
  | cons row rows ih =>
    rw [List.forall_mem_cons] at h
    rw [List.flatten_cons, List.length_append, h.1, ih h.2, List.length_cons, Nat.mul_succ,
      Nat.add_comm]

/-- What a place of a table is set as: the cell there, strong or as it is, or nothing. -/
def SetsPlace (context : Context) (isStrong : Bool) : Option (List Node) → Text → Prop
  | some cell, text => ∃ body, setInline context .plain cell = .ok body ∧
      text = if isStrong then strong body else body
  | none, text => text = []

theorem setInline_eq_ok_iff {nodes : List Node} : setInline context mode nodes = .ok out ↔
    ∃ texts, setNodes context.env .line mode nodes = .ok texts ∧ join texts = out := by
  rw [setInline, bind_eq_ok_iff]
  simp only [pure_eq_ok_iff]

/-- A row is set in the given width, whatever number of cells it has. -/
theorem setsPlace_of_setCells {row : List (List Node)} {texts : List Text}
    (h : setCells context.env width row = .ok texts) :
    texts.length = width ∧
      ∀ j < width, ∃ text, texts[j]? = some text ∧ SetsPlace context false row[j]? text := by
  induction row generalizing width texts with
  | nil =>
    rw [setCells, pure_eq_ok_iff] at h
    subst h
    exact ⟨List.length_replicate, fun j hj => ⟨[], by simp [hj], rfl⟩⟩
  | cons cell row ih =>
    cases width with
    | zero =>
      rw [setCells, pure_eq_ok_iff] at h
      exact ⟨h ▸ rfl, fun j hj => absurd hj (Nat.not_lt_zero j)⟩
    | succ width =>
      rw [setCells] at h
      obtain ⟨inside, hinside, h⟩ := bind_eq_ok_iff.1 h
      obtain ⟨others, hothers, h⟩ := bind_eq_ok_iff.1 h
      rw [pure_eq_ok_iff] at h
      subst h
      obtain ⟨hlength, hplaces⟩ := ih hothers
      refine ⟨congrArg Nat.succ hlength, fun j hj => ?_⟩
      cases j with
      | zero => exact ⟨_, rfl, _, setInline_eq_ok_iff.2 ⟨inside, hinside, rfl⟩, rfl⟩
      | succ j => exact hplaces j (Nat.lt_of_succ_lt_succ hj)

theorem forall₂_of_setRows {env : Env} {rows : List (List (List Node))} {outs : List (List Text)}
    (h : setRows env width rows = .ok outs) :
    List.Forall₂ (fun row texts => setCells env width row = .ok texts) rows outs := by
  induction rows generalizing outs with
  | nil =>
    rw [setRows, pure_eq_ok_iff] at h
    exact h ▸ .nil
  | cons row rows ih =>
    rw [setRows] at h
    obtain ⟨texts, htexts, h⟩ := bind_eq_ok_iff.1 h
    obtain ⟨others, hothers, h⟩ := bind_eq_ok_iff.1 h
    rw [pure_eq_ok_iff] at h
    exact h ▸ .cons htexts (ih hothers)

/-- The given cells are those of a table: a row of the width of the header for the header and for
    each row of the page, each cell from its place. -/
structure SetsTable (context : Context) (header : List (List Node))
    (rows : List (List (List Node))) (cells : List Text) : Prop where
  length : cells.length = header.length * (1 + rows.length)
  place : ∀ i j, i < 1 + rows.length → j < header.length →
    ∃ text, cells[header.length * i + j]? = some text ∧
      SetsPlace context (i == 0 || j == 0) ((header :: rows)[i]?.bind (·[j]?)) text

theorem SetsPlace.strong {cell : List Node} {text : Text}
    (h : SetsPlace context false (some cell) text) :
    SetsPlace context true (some cell) (strong text) := by
  obtain ⟨body, hbody, htext⟩ := h
  exact ⟨body, hbody, congrArg Typst.strong htext⟩

theorem setsPlace_header {header : List (List Node)} {texts : List Text}
    (h : setCells context.env header.length header = .ok texts) {j : Nat} (hj : j < header.length) :
    ∃ text, (texts.map strong)[j]? = some text ∧ SetsPlace context true header[j]? text := by
  obtain ⟨text, htext, hplace⟩ := (setsPlace_of_setCells h).2 j hj
  rw [List.getElem?_eq_getElem hj] at hplace ⊢
  exact ⟨Typst.strong text, by rw [List.getElem?_map, htext, Option.map_some], hplace.strong⟩

theorem setsPlace_row {row : List (List Node)} (hrow : row ≠ []) {texts : List Text}
    (h : setCells context.env width row = .ok texts) {j : Nat} (hj : j < width) :
    ∃ text, (strongFirst texts)[j]? = some text ∧ SetsPlace context (j == 0) row[j]? text := by
  obtain ⟨text, htext, hplace⟩ := (setsPlace_of_setCells h).2 j hj
  obtain ⟨cell, row, rfl⟩ := List.exists_cons_of_ne_nil hrow
  cases texts with
  | nil => cases htext
  | cons first others =>
    cases j with
    | zero =>
      cases htext
      exact ⟨_, rfl, hplace.strong⟩
    | succ j => exact ⟨text, htext, hplace⟩

/-- The rows of a table that is set are of one width, and every place of theirs is set. -/
theorem setsTable_grid {header : List (List Node)} {rows : List (List (List Node))}
    (hrows : ∀ row ∈ rows, row ≠ []) {headerTexts : List Text} {rowTexts : List (List Text)}
    (hheader : setCells context.env header.length header = .ok headerTexts)
    (hset : setRows context.env header.length rows = .ok rowTexts) :
    SetsTable context header rows (grid headerTexts rowTexts).flatten := by
  have hforall := forall₂_of_setRows hset
  have hwidth : ∀ row ∈ grid headerTexts rowTexts, row.length = header.length := by
    refine List.forall_mem_cons.2 ⟨?_, List.forall_mem_map.2 fun texts htexts => ?_⟩
    · rw [List.length_map, (setsPlace_of_setCells hheader).1]
    · obtain ⟨row, -, hrow⟩ := exists_of_mem_setRows hset htexts
      rw [length_strongFirst, (setsPlace_of_setCells hrow).1]
  refine ⟨?_, fun i j hi hj => ?_⟩
  · rw [length_flatten hwidth, grid, List.length_cons, List.length_map, ← hforall.length_eq,
      Nat.add_comm]
  · rw [getElem?_flatten hwidth i hj]
    cases i with
    | zero => exact setsPlace_header hheader hj
    | succ i =>
      have hi' : i < rows.length := by omega
      have hi'' : i < rowTexts.length := hforall.length_eq ▸ hi'
      have hrow := hforall.get hi' hi''
      obtain ⟨text, htext, hplace⟩ := setsPlace_row (hrows _ (List.get_mem rows ⟨i, hi'⟩)) hrow hj
      refine ⟨text, ?_, ?_⟩
      · rw [grid, List.getElem?_cons_succ, List.getElem?_map, List.getElem?_eq_getElem hi'']
        exact htext
      · rw [List.getElem?_cons_succ, List.getElem?_eq_getElem hi']
        exact hplace

theorem allBlank_tableMarkup (header : List Text) (rows : List (List Text)) :
    allBlank (tableMarkup header rows) = false := by
  rw [tableMarkup_eq]
  exact allBlank_of_mem (c := ')') (by simp) (by decide)

/-- A table that has been set holds its cells and nothing else. -/
theorem exists_setsTable {header : List (List Node)} {rows : List (List (List Node))}
    (hrows : ∀ row ∈ rows, row ≠ [])
    (h : setBlocks context mode [.table header rows] = .ok out) :
    ∃ cells, SetsTable context header rows cells ∧
      out = openingMarkup header.length ++ cells.flatMap plainCell ++ [')'] := by
  rw [setBlocks_singleton, setNode] at h
  obtain ⟨text, htext, h⟩ := bind_eq_ok_iff.1 h
  obtain ⟨headerTexts, hheader, htext⟩ := bind_eq_ok_iff.1 htext
  obtain ⟨rowTexts, hset, htext⟩ := bind_eq_ok_iff.1 htext
  rw [pure_eq_ok_iff] at h htext
  subst htext
  rw [if_neg (by simp [allBlank_tableMarkup]), tableMarkup_eq,
    (setsPlace_of_setCells hheader).1] at h
  exact ⟨_, setsTable_grid hrows hheader hset, h.symm⟩

/-- A table that has been written is read as one node with the cells that it was written from,
whatever bars and backslashes they hold. It is set with as many cells in each row as the header has:
what a row has too many is left out, and what it lacks is empty. -/
theorem setBlocks_tableText {columns : Nat} (hcolumns : 0 < columns) {header : List Text}
    (hheader : IsRow header) {rows : List (List Text)} (hrows : ∀ row ∈ rows, IsRow row)
    {ending : Text} (hending : EndsPage ending) :
    let page := parse (tableText columns header rows ++ ending)
    page = [.table (header.map parseInline) (rows.map (·.map parseInline))] ∧
      ∀ context mode out, setBlocks context mode page = .ok out →
        ∃ cells : List Text,
          out = openingMarkup header.length ++ cells.flatMap plainCell ++ [')'] ∧
          cells.length = header.length * (1 + rows.length) ∧
          ∀ i j, i < 1 + rows.length → j < header.length →
            ∃ text, cells[header.length * i + j]? = some text ∧
              SetsPlace context (i == 0 || j == 0)
                (((header :: rows)[i]?.bind (·[j]?)).map parseInline) text := by
  intro page
  have hpage : page = _ := parse_tableText hcolumns hheader hrows hending
  refine ⟨hpage, fun context mode out h => ?_⟩
  rw [hpage] at h
  have hnonempty : ∀ row ∈ rows.map (·.map parseInline), row ≠ [] :=
    List.forall_mem_map.2 fun row hrow => by simpa using (hrows row hrow).nonempty
  have hplaces (i j : Nat) : ((header :: rows)[i]?.bind (·[j]?)).map parseInline =
      (header.map parseInline :: rows.map (·.map parseInline))[i]?.bind (·[j]?) := by
    rw [← List.map_cons (f := (List.map parseInline)), List.getElem?_map]
    cases (header :: rows)[i]? with
    | none => rfl
    | some row => simp only [Option.bind_some, Option.map_some, List.getElem?_map]
  obtain ⟨cells, ⟨hlength, hcells⟩, hout⟩ := exists_setsTable hnonempty h
  rw [List.length_map] at hout
  rw [List.length_map, List.length_map] at hlength
  rw [List.length_map, List.length_map] at hcells
  exact ⟨cells, hout, hlength, fun i j hi hj => hplaces i j ▸ hcells i j hi hj⟩

/-- A row with a bar in code and a backslash at the end of a cell, one that is too short, and one
that begins with an empty cell and is too long. -/
theorem setBlocks_tableText_ragged :
    let rows := [["\x60x|y\x60".toList, "c\\".toList], ["d".toList],
      ["".toList, "e".toList, "f".toList]]
    let page := tableText 3 ["a".toList, "b".toList] rows ++ ['\n']
    page = "| a | b |\n|---|---|---|\n| \x60x\\|y\x60 | c\\ |\n| d |\n|  | e | f |\n".toList ∧
      ∃ out, setBlocks ⟨none, []⟩ .full (parse page) = .ok out ∧
        ∃ cells : List Text, out = openingMarkup 2 ++ cells.flatMap plainCell ++ [')'] ∧
          cells.length = 2 * (1 + 3) ∧ cells[3]? = some "c\\\\".toList ∧ cells[5]? = some [] := by
  intro rows page
  obtain ⟨hpage, hset⟩ := setBlocks_tableText (by decide : 0 < 3)
    (by decide : IsRow ["a".toList, "b".toList]) (by decide : ∀ row ∈ rows, IsRow row) (.inr rfl)
  obtain ⟨out, hout⟩ : ∃ out, setBlocks ⟨none, []⟩ .full (parse page) = .ok out := by
    rw [hpage]
    exact ⟨_, by with_unfolding_all rfl⟩
  obtain ⟨cells, htext, hlength, hcells⟩ := hset _ _ out hout
  refine ⟨by decide, out, hout, cells, htext, hlength, ?_, ?_⟩
  · obtain ⟨text, hat, body, hbody, rfl⟩ := hcells 1 1 (by decide) (by decide)
    have hslashes : setInline ⟨none, []⟩ .plain (parseInline "c\\".toList) =
        .ok "c\\\\".toList := by
      with_unfolding_all rfl
    cases hbody.symm.trans hslashes
    exact hat
  · obtain ⟨text, hat, rfl⟩ := hcells 2 1 (by decide) (by decide)
    exact hat

end Bindery.Typeset
