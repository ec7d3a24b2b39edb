import Bindery.Path.Basic

namespace Bindery

/-- The two directories that the compiler reads from. -/
structure Assets where
  toolRoot : Path
  docsRoot : Path
  deriving DecidableEq, Repr

namespace Assets

/-- The directory that the compiler is given as its root. -/
def root (a : Assets) : Path :=
  Path.commonRoot a.toolRoot a.docsRoot

/-- A slash and the steps after it. -/
def rooted (steps : List Text) : Text :=
  '/' :: Path.relativeText steps

/-- The place of the documentation below the root, empty when it is the root. -/
def docsPlace (a : Assets) : Except Path.OutsideError Text := do
  let steps ← a.docsRoot.stepsFrom a.root
  return if steps.isEmpty then [] else rooted steps

/-- A reference of the documentation as the compiler has to be given it. -/
def resolve (a : Assets) (reference : Text) : Except Path.OutsideError Text := do
  let place ← a.docsPlace
  return place ++ if reference.head? == some '/' then reference else '/' :: reference

/-- The place of a file below the root. -/
def importPath (a : Assets) (file : Path) : Except Path.OutsideError Text := do
  return rooted (← file.stepsFrom a.root)

end Assets

end Bindery
