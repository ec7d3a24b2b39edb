import Bindery.Pairs
import Bindery.Path.Basic

namespace Bindery

/-- What a call of the tool asks for. -/
structure Options where
  /-- The directory of the documentation. -/
  docs : Option Path
  config : Option Path
  outputDir : Option Path
  /-- Whether the finished book is made, and not only its source. -/
  compile : Bool
  /-- The command by which the compiler is asked for. -/
  compiler : Text
  deriving DecidableEq, Repr

namespace Options

/-- The reader of the command line. -/
class Parser where
  /-- What a call with the variables of the environment and the arguments asks for; nothing if it
      cannot be understood. -/
  parse? : (environment : Pairs) → (arguments : List Text) → Option Options

end Options

end Bindery
