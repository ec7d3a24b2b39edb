import Bindery.Pairs
import Bindery.Path.Basic

namespace Bindery

/-- Where the homes of users are. -/
structure Homes where
  /-- The home of the user who runs the tool. -/
  own : Path
  /-- The homes of users by name. -/
  named : Pairs
  deriving DecidableEq, Repr

/-- The home that is meant by what follows a tilde. -/
def Homes.dir? (homes : Homes) (name : Text) : Option Path :=
  if name.isEmpty then some homes.own else (homes.named.get? name).map Path.parse

/-- The path with a home for a tilde at its beginning, if that home is known. -/
def Path.expandHome? (homes : Homes) (p : Path) : Option Path :=
  match p with
  | ⟨.here, ('~' :: name) :: rest⟩ => (homes.dir? name).map fun home => home.join ⟨.here, rest⟩
  | p => some p

end Bindery
