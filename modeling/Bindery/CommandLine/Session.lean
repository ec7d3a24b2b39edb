import Bindery.Book.Build
import Bindery.CommandLine.Options
import Bindery.Settings.File

namespace Bindery

/-- The machine that a call runs on. -/
structure Machine where
  surroundings : Surroundings
  cwd : Path
  environment : Pairs
  /-- Where the machine finds a command. -/
  find : Text → Option Text
  /-- What running a command line comes to. -/
  run : List Text → Run

/-- Why a call does not do its work. -/
inductive CallError
  | settings (error : SettingsFileError)
  | build (error : BuildError)
  deriving Repr

/-- The wording of an error. -/
def CallError.message : CallError → Text
  | .settings error => error.message
  | .build error => error.message

/-- Whether an error is a fault of what the user has given, and so is told in one line. -/
def CallError.isReported : CallError → Bool
  | .settings (.missing _) => true
  | .settings (.file error) => error.reason == .missing
  | .settings .notText => false
  | .settings (.malformed _ _) => true
  | .settings (.badValue _) => false
  | .settings .notMapping => true
  | .settings (.settings .unknownHome) => false
  | .settings (.settings .unnameable) => false
  | .settings (.settings .longNumber) => false
  | .settings (.settings _) => true
  | .build (.noDocs _) => true
  | .build (.sections (.navigation (.invalid _ .notText))) => false
  | .build (.sections (.navigation _)) => true
  | .build (.sections (.page _)) => false
  | .build (.book _) => false
  | .build (.file error) => error.reason == .missing
  | .build (.compiler error) => error.isFailure

/-- How a call ends. -/
inductive Ending
  | exit (status : Nat)
  /-- The arguments are not understood. -/
  | usage
  /-- An error that is none of the user's breaks the call off. -/
  | broken (error : CallError)
  deriving Repr

/-- A call that has ended. -/
structure Call where
  tree : FileTree
  /-- Where the source of the book was written, if it came to that. -/
  stored : Option Path
  output : Text
  errors : Text
  commands : List (List Text)
  ending : Ending

namespace Call

/-- A line of output. -/
def line (s : Text) : Text :=
  s ++ ['\n']

/-- A path as the user sees it from the working directory. -/
def shownPath (cwd path : Path) : Text :=
  match path.stepsFrom cwd with
  | .ok steps => Path.relativeText steps
  | .error _ => path.text

/-- What is printed about a finished book. -/
def summary (cwd : Path) (volume : Volume) : Text :=
  line ("converted ".toList ++ Text.ofNat volume.pageCount ++ " files in ".toList ++
      Text.ofNat volume.sections.length ++ " sections".toList) ++
    volume.written.flatMap fun path => line ("wrote ".toList ++ shownPath cwd path)

/-- The settings file that is read: the one asked for, or else the tool's own if there is one. -/
def configPath (machine : Machine) (tree : FileTree) (options : Options) : Option Path :=
  match options.config with
  | some path => some path
  | none =>
    let path := machine.surroundings.tool.child "config/book.yaml".toList
    if tree.holds path then some path else none

/-- The settings of a call. -/
def settings [Yaml.Loader] (machine : Machine) (tree : FileTree) (options : Options) :
    Except SettingsFileError Settings := do
  let settings ← match configPath machine tree options with
    | some path => Settings.load tree machine.surroundings machine.cwd path
    | none => pure (Settings.default machine.surroundings.tool)
  return { settings with outputDir := options.outputDir.getD settings.outputDir }

/-- The directory of the documentation: the one asked for, or else the one beside the tool. -/
def docsDir (machine : Machine) (options : Options) : Path :=
  options.docs.getD (machine.surroundings.tool.parent.child "docs".toList)

/-- The end of a call that an error stops, with the error output so far. -/
def stop (error : CallError) (log : Text) : Text × Ending :=
  if error.isReported then (log ++ line ("error: ".toList ++ error.message), .exit 1)
  else (log, .broken error)

/-- The call that makes the book which the options ask for. -/
def ofOptions [Typst.Lexers] [Descriptor.Decoder] [Yaml.Loader] (machine : Machine)
    (tree : FileTree) (options : Options) : Call :=
  match settings machine tree options with
  | .error error =>
    let (errors, ending) := stop (.settings error) []
    ⟨tree, none, [], errors, [], ending⟩
  | .ok settings =>
    let compiler : Option Compiler :=
      if options.compile then some ⟨options.compiler, machine.find options.compiler, machine.run⟩
      else none
    let report := Book.build tree machine.cwd settings compiler (docsDir machine options)
    let log := report.log.flatMap fun entry => line entry.text
    match report.result with
    | .ok volume =>
      ⟨report.tree, report.stored, summary machine.cwd volume, log, report.commands, .exit 0⟩
    | .error error =>
      let (errors, ending) := stop (.build error) log
      ⟨report.tree, report.stored, [], errors, report.commands, ending⟩

/-- The call with the given arguments. -/
def ofArguments [Typst.Lexers] [Descriptor.Decoder] [Yaml.Loader] [Options.Parser]
    (machine : Machine) (tree : FileTree) (arguments : List Text) : Call :=
  match Options.Parser.parse? machine.environment arguments with
  | some options => ofOptions machine tree options
  | none => ⟨tree, none, [], [], [], .usage⟩

end Call

end Bindery
