import Bindery.Packages.Yaml.Value
import Bindery.Settings.File

namespace Bindery.Yaml

/-- The fault as the reading of a settings file meets it. -/
def Fault.loadError : Fault → LoadError
  | .malformed => .malformed Fault.malformed.message
  | fault => .broken fault.message

/-- The reader that is installed. -/
instance loader : Loader where
  load text := (load text).mapError Fault.loadError

end Bindery.Yaml
