namespace Bindery.Typeset

/-- Which constructs are set and which are reduced to their text. -/
structure Mode where
  links : Bool
  emphasis : Bool
  figures : Bool
  deriving DecidableEq, Repr

/-- Everything is set. -/
def Mode.full : Mode :=
  ⟨true, true, true⟩

/-- The body of a card, which as a whole may be a link and so holds none. -/
def Mode.card : Mode :=
  ⟨false, true, true⟩

/-- Text in a place that sets its own emphasis: a cell of a table or the text of a link. -/
def Mode.plain : Mode :=
  ⟨false, false, false⟩

/-- Where a node stands: among the blocks of a page, or within a line. -/
inductive Place
  | block
  | line
  deriving DecidableEq, Repr

/-- The place of the content of an element. -/
def Place.ofBlock (block : Bool) : Place :=
  if block then .block else .line

end Bindery.Typeset
