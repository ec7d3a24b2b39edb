import Bindery.FileTree.Access
import Bindery.Settings.Reading

namespace Bindery

namespace Yaml

/-- Why a text has no value. -/
inductive LoadError
  /-- The text is refused, for the given reason. -/
  | malformed (reason : Text)
  /-- The reading breaks off with an error of another kind. -/
  | broken (message : Text)
  deriving DecidableEq, Repr

/-- The reader of YAML. -/
class Loader where
  load : Text → Except LoadError Value

/-- What is asked of the reader: a text that has no value is refused. -/
def Loader.OnlyRefuses (loader : Loader) : Prop :=
  ∀ text message, loader.load text ≠ .error (.broken message)

end Yaml

/-- Why a file gives no settings. -/
inductive SettingsFileError
  | missing (path : Path)
  | file (error : FileError)
  /-- The bytes of the file are not text. -/
  | notText
  | malformed (path : Path) (reason : Text)
  /-- The reading of the text breaks off. -/
  | badValue (message : Text)
  | notMapping
  | settings (error : SettingsError)
  deriving Repr

/-- The wording of an error. A file that is not text has none. -/
def SettingsFileError.message : SettingsFileError → Text
  | .missing path => "Configuration file \x27".toList ++ path.text ++ "\x27 not found.".toList
  | .file error => error.message
  | .notText => []
  | .malformed path reason =>
    "Configuration file \x27".toList ++ path.text ++ "\x27 is not valid YAML: ".toList ++ reason
  | .badValue message => message
  | .notMapping => "Top-level YAML structure must be a mapping.".toList
  | .settings error => error.message

namespace Settings

/-- The settings that the value of a whole file gives. A value that stands for nothing gives no
    settings of its own. -/
def ofValue (place : Surroundings) (base : Path) (value : Value) :
    Except SettingsFileError Settings :=
  match value with
  | .map entries => (ofEntries place base entries).mapError .settings
  | value =>
    if value.isVoid then (ofEntries place base []).mapError .settings else .error .notMapping

/-- The settings in the bytes of the file at a path. -/
def ofBytes [Yaml.Loader] (place : Surroundings) (cwd path : Path) (bytes : List UInt8) :
    Except SettingsFileError Settings :=
  match FileTree.textOf? bytes with
  | none => .error .notText
  | some text =>
    match Yaml.Loader.load text with
    | .error (.malformed reason) => .error (.malformed path reason)
    | .error (.broken message) => .error (.badValue message)
    | .ok value => ofValue place (cwd.join path.parent) value

/-- The settings in the file at a path. -/
def load [Yaml.Loader] (tree : FileTree) (place : Surroundings) (cwd path : Path) :
    Except SettingsFileError Settings :=
  if !tree.holds (cwd.join path) then .error (.missing path)
  else
    match tree.read (cwd.join path) with
    | .ok bytes => ofBytes place cwd path bytes
    | .error error => .error (.file { error with path })

end Settings

end Bindery
