import Bindery.FileTree.Access
import Bindery.Page.Basic

namespace Bindery

/-- Why a page cannot be read. -/
inductive PageError
  | missing (file : Path)
  /-- The file is not text. -/
  | notText
  deriving DecidableEq, Repr

/-- The wording of an error. A file that is not text has none. -/
def PageError.message : PageError → Text
  | .missing file => "File not found: ".toList ++ file.text
  | .notText => []

/-- The page at a path below a directory. -/
def Page.read (tree : FileTree) (dir : Path) (path : Text) : Except PageError Page :=
  match tree.find? (dir.child path) with
  | some (.file bytes) =>
    match FileTree.textOf? bytes with
    | some content => .ok (Page.ofContent path content)
    | none => .error .notText
  | _ => .error (.missing (dir.child path))

end Bindery
