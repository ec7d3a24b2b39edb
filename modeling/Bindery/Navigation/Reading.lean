import Bindery.FileTree.Access
import Bindery.Navigation.Descriptor

namespace Bindery

/-- Why the groups of a documentation cannot be told. -/
inductive NavigationError
  | noDescriptor (names : List Text) (dir : Path)
  | invalid (file : Path) (fault : Descriptor.Fault)
  | unknownTab (error : UnknownTab)
  deriving DecidableEq, Repr

/-- The wording of an error. -/
def NavigationError.message : NavigationError → Text
  | .noDescriptor names dir =>
    Text.joinWith " or ".toList names ++ " not found in: ".toList ++ dir.text
  | .invalid file fault =>
    "Invalid navigation descriptor ".toList ++ file.text ++ ": ".toList ++ fault.message
  | .unknownTab error => error.message

namespace Descriptor

/-- The first file of the given names in a directory. -/
def find (tree : FileTree) (dir : Path) (names : List Text) : Except NavigationError Path :=
  match (names.map dir.child).find? tree.hasFile with
  | some file => .ok file
  | none => .error (.noDescriptor names dir)

/-- The navigation that a descriptor file holds. -/
def read [Decoder] (tree : FileTree) (file : Path) : Except NavigationError Navigation :=
  match tree.find? file with
  | some (.file bytes) => (Decoder.decode bytes).mapError (.invalid file)
  | _ => .error (.invalid file (.refused []))

end Descriptor

/-- The groups of a tab, as the first descriptor of the given names has them. -/
def Navigation.load [Descriptor.Decoder] (tree : FileTree) (dir : Path) (names : List Text)
    (tab : Option Text) : Except NavigationError (List NavGroup) := do
  let file ← Descriptor.find tree dir names
  let navigation ← Descriptor.read tree file
  (navigation.select tab).mapError .unknownTab

end Bindery
