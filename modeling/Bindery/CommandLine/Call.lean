import Bindery.CommandLine.Session
import Bindery.Packages.Descriptor
import Bindery.Packages.Lexers
import Bindery.Packages.Options
import Bindery.Packages.Yaml

namespace Bindery.Call

/-- The call with the given arguments, made with the packages that are installed. -/
def run (machine : Machine) (tree : FileTree) (arguments : List Text) : Call :=
  ofArguments machine tree arguments

end Bindery.Call
