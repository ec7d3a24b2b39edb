import Bindery.FileTree.Basic
import Bindery.Text.Utf8

namespace Bindery

/-- Why a path cannot be used. -/
inductive FileReason
  | missing
  | alreadyThere
  | notDirectory
  | isDirectory
  /-- A file of this name cannot be. -/
  | unnameable
  deriving DecidableEq, Repr

/-- A path that cannot be used, with the reason. -/
structure FileError where
  reason : FileReason
  path : Path
  deriving DecidableEq, Repr

/-- The number and the wording of a reason. -/
def FileReason.text : FileReason → Text
  | .missing => "[Errno 2] No such file or directory".toList
  | .alreadyThere => "[Errno 17] File exists".toList
  | .notDirectory => "[Errno 20] Not a directory".toList
  | .isDirectory => "[Errno 21] Is a directory".toList
  | .unnameable => Path.zeroNote

/-- The wording of an error. The path is left out where it is no path at all. -/
def FileError.message (e : FileError) : Text :=
  match e.reason with
  | .unnameable => e.reason.text
  | reason => reason.text ++ ": ".toList ++ Text.quoted e.path.text

namespace FileTree

/-- The place one step on from a directory. -/
def follow (tree : FileTree) (here : List Text) (name : Text) : Except FileReason (List Text) :=
  match tree.at? here with
  | some (.dir _) => .ok (if name == ['.', '.'] then here.dropLast else here ++ [name])
  | some (.file _) => .error .notDirectory
  | none => .error .missing

/-- The steps from the root to the place of an absolute path. -/
def locate (tree : FileTree) (path : Path) : Except FileReason (List Text) :=
  path.segments.foldlM tree.follow []

/-- What lies at an absolute path. -/
def find? (tree : FileTree) (path : Path) : Option FileTree :=
  match tree.locate path with
  | .ok steps => tree.at? steps
  | .error _ => none

/-- Whether there is anything at the path. -/
def holds (tree : FileTree) (path : Path) : Bool :=
  (tree.find? path).isSome

/-- Whether there is a directory at the path. -/
def hasDir (tree : FileTree) (path : Path) : Bool :=
  match tree.find? path with
  | some (.dir _) => true
  | _ => false

/-- Whether there is a file at the path. -/
def hasFile (tree : FileTree) (path : Path) : Bool :=
  match tree.find? path with
  | some (.file _) => true
  | _ => false

/-- The content of the file at the path. -/
def read (tree : FileTree) (path : Path) : Except FileError (List UInt8) :=
  match tree.locate path with
  | .error reason => .error ⟨reason, path⟩
  | .ok steps =>
    match tree.at? steps with
    | some (.file bytes) => .ok bytes
    | some (.dir _) => .error ⟨.isDirectory, path⟩
    | none => .error ⟨.missing, path⟩

/-- The text of a file, with every kind of line end put as a newline. -/
def textOf? (bytes : List UInt8) : Option Text :=
  (Text.ofUtf8? bytes).map Text.normalizeNewlines

/-- The tree with a directory at a resolved path, and with those on the way to it. -/
def makeDir (tree : FileTree) (path : Path) : Except FileError FileTree :=
  match tree.at? path.segments with
  | some (.dir _) => .ok tree
  | some (.file _) => .error ⟨.alreadyThere, path⟩
  | none =>
    if tree.blocked path.segments then .error ⟨.notDirectory, path⟩
    else .ok (tree.insert path.segments (.dir []))

/-- The tree with a file of the given content at the path, in a directory that is there. -/
def write (tree : FileTree) (path : Path) (bytes : List UInt8) : Except FileError FileTree :=
  if path.hasZero then .error ⟨.unnameable, path⟩
  else
    match tree.locate path with
    | .error reason => .error ⟨reason, path⟩
    | .ok steps =>
      match tree.at? steps with
      | some (.dir _) => .error ⟨.isDirectory, path⟩
      | _ => .ok (tree.insert steps (.file bytes))

end FileTree

end Bindery
