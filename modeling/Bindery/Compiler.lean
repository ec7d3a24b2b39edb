import Bindery.FileTree.Access
import Bindery.Log
import Bindery.Text.Integer

namespace Bindery

/-- What running a command comes to. -/
inductive Run
  /-- It could not be started, for the given reason. -/
  | notStarted (reason : Text)
  /-- It ended with a status and had written these bytes to its output and to its error output. -/
  | exited (status : Int) (output errors : List UInt8)
  deriving DecidableEq, Repr

/-- The run of a command that ended and wrote text, if it wrote anything. -/
def Run.ended (status : Int) (output errors : Option Text) : Run :=
  .exited status (Text.toUtf8 (output.getD [])) (Text.toUtf8 (errors.getD []))

/-- The compiler of a machine. -/
structure Compiler where
  /-- The command by which it is asked for. -/
  name : Text
  /-- Where the machine finds the command. -/
  command : Option Text
  /-- What running the command with given arguments comes to. -/
  run : List Text → Run

/-- Why the compiler makes no book. -/
inductive CompileError
  | notFound (name : Text)
  | notStarted (command reason : Text)
  | failed (status : Int) (output : Text)
  /-- What the compiler wrote is not text. Its status is not looked at then. -/
  | notText
  deriving DecidableEq, Repr

/-- Whether the error is told as a failure of the compiler. -/
def CompileError.isFailure : CompileError → Bool
  | .notFound _ => true
  | .notStarted _ _ => true
  | .failed _ _ => true
  | .notText => false

/-- The wording of an error, followed by what the compiler wrote. Output that is not text has
    none. -/
def CompileError.message : CompileError → Text
  | .notFound name => "typst CLI not found: ".toList ++ name
  | .notStarted command reason => "Could not run ".toList ++ command ++ ": ".toList ++ reason
  | .failed status output =>
    "Typst compilation failed with exit status ".toList ++ Text.ofInt status ++
      if (Text.trim output).isEmpty then [] else '\n' :: Text.trim output
  | .notText => []

/-- What running a command amounts to. What it wrote as errors is preferred to its output. -/
def Run.outcome (command : Text) : Run → Except CompileError Unit
  | .notStarted reason => .error (.notStarted command reason)
  | .exited status output errors =>
    match FileTree.textOf? output, FileTree.textOf? errors with
    | some output, some errors =>
      if status == 0 then .ok ()
      else .error (.failed status (if errors.isEmpty then output else errors))
    | _, _ => .error .notText

namespace Compiler

/-- The command line that makes a book from a source below a root directory. -/
def commandLine (command : Text) (root source book : Path) : List Text :=
  [command, "compile".toList, "--root".toList, root.text, source.text, book.text]

/-- The command line that was run, if one was, and whether it did its work. -/
def compile (compiler : Compiler) (root source book : Path) :
    Option (List Text) × Logged CompileError Unit :=
  match compiler.command with
  | none => (none, .fail (.notFound compiler.name))
  | some command =>
    let words := commandLine command root source book
    let running : Logged CompileError Unit :=
      .note .info .compiler ("running ".toList ++ Text.joinWith [' '] words)
    (some words, running.andThen fun _ => .ofExcept ((compiler.run words).outcome command))

end Compiler

end Bindery
