import Bindery.Typst.Markup

namespace Bindery.Typeset

open Typst

/-- A cell that is set strong. -/
def strongCell (text : Text) : Text :=
  "  [".toList ++ strong text ++ "],\n".toList

/-- A cell. -/
def plainCell (text : Text) : Text :=
  "  [".toList ++ text ++ "],\n".toList

/-- The cells of a row. -/
def rowMarkup : List Text → Text
  | [] => []
  | first :: others => strongCell first ++ others.flatMap plainCell

/-- A table with the given cells. -/
def tableMarkup (header : List Text) (rows : List (List Text)) : Text :=
  let width := Text.ofNat header.length
  "#table(\n  columns: ".toList ++ width ++ ",\n  align: (left,) * ".toList ++ width ++
    ",\n".toList ++ header.flatMap strongCell ++ rows.flatMap rowMarkup ++ [')']

end Bindery.Typeset
