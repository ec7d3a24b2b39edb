import Bindery.CommandLine.Options
import Bindery.Text.Number

namespace Bindery.Packages.Options

/-- An option that has a value. -/
inductive Name
  | docs
  | config
  | outputDir
  | compiler
  | compile
  deriving DecidableEq, Repr

/-- The word of an option among the arguments. -/
def Name.flag : Name → Text
  | .docs => "--source-dir".toList
  | .config => "--config".toList
  | .outputDir => "--output-dir".toList
  | .compiler => "--typst".toList
  | .compile => "--compile".toList

/-- The variables of an option in the environment. Whether the book is made may be said under the
    word for it or the word against it, and the value means the same under both. -/
def Name.variables : Name → List Text
  | .docs => ["INPUT_SOURCE_DIR".toList]
  | .config => ["INPUT_CONFIG".toList]
  | .outputDir => ["INPUT_OUTPUT_DIR".toList]
  | .compiler => ["INPUT_TYPST".toList]
  | .compile => ["INPUT_COMPILE".toList, "INPUT_NO_COMPILE".toList]

/-- The options that are followed by a value. -/
def valued : List Name :=
  [.docs, .config, .outputDir, .compiler]

/-- The word that asks for the source alone. -/
def noCompileFlag : Text :=
  "--no-compile".toList

/-- The options given so far, last one first. -/
abbrev Given := List (Name × Text)

/-- The options with one more, which must not be among them. -/
def give? (given : Given) (name : Name) (value : Text) : Option Given :=
  if given.any (·.1 == name) then none else some ((name, value) :: given)

/-- The words that are a flag of one letter rather than the imaginary unit with a minus. -/
def unitFlags : List Text :=
  [['-', 'j'], ['-', 'J']]

/-- Whether an argument looks like an option. A number does not, even behind a hyphen. -/
def isOption (argument : Text) : Bool :=
  argument.head? == some '-' && (unitFlags.contains argument || !Text.isNumber argument)

/-- A yes or no in words. -/
def yesNo? (word : Text) : Option Bool :=
  let word := word.map Char.toLower
  if ["yes", "y", "1", "true", "t"].any (·.toList == word) then some true
  else if ["no", "n", "0", "false", "f"].any (·.toList == word) then some false
  else none

/-- The word for a yes or a no. -/
def yesNo (b : Bool) : Text :=
  if b then "true".toList else "false".toList

/-- The part of an option before an equals sign, and the part behind it if there is one. -/
def splitOption (argument : Text) : Text × Option Text :=
  match Text.cutAt? ['='] argument with
  | some (flag, value) => (flag, some value)
  | none => (argument, none)

/-- The options among the arguments, with the arguments that are none; nothing if an option is not
    known, comes twice or lacks its value. Behind two hyphens there are no options. -/
def scan? (given : Given) : List Text → Option (Given × List Text)
  | [] => some (given, [])
  | argument :: rest =>
    if argument == ['-', '-'] then some (given, rest)
    else if !isOption argument then
      (scan? given rest).map fun (given, others) => (given, argument :: others)
    else
      let (flag, value) := splitOption argument
      match valued.find? (·.flag == flag), value with
      | some name, some value => (give? given name value).bind fun given => scan? given rest
      | some name, none =>
        match rest with
        | value :: rest =>
          if isOption value then none
          else (give? given name value).bind fun given => scan? given rest
        | [] => none
      | none, value =>
        let chosen := match value with
          | some word => yesNo? word
          | none => some true
        let chosen :=
          if flag == Name.compile.flag then chosen
          else if flag == noCompileFlag then chosen.map (!·)
          else none
        chosen.bind fun b =>
          (give? given .compile (yesNo b)).bind fun given => scan? given rest

/-- What is given for an option by the arguments or else by the environment; nothing if it is the
    environment and it gives the option twice. -/
def lookup? (environment : Pairs) (given : Given) (name : Name) : Option (Option Text) :=
  match given.find? (·.1 == name) with
  | some (_, value) => some (some value)
  | none =>
    match name.variables.filterMap environment.get? with
    | [] => some none
    | [value] => some (some value)
    | _ => none

/-- What a call with the arguments asks for; nothing if the call cannot be understood. -/
def parse? (environment : Pairs) (arguments : List Text) : Option Options := do
  let (given, others) ← scan? [] arguments
  let given ← match others with
    | [] => some given
    | [docs] => give? given .docs docs
    | _ => none
  let value? := lookup? environment given
  let compile ← match ← value? .compile with
    | some word => yesNo? word
    | none => some true
  return {
    docs := (← value? .docs).map Path.parse
    config := (← value? .config).map Path.parse
    outputDir := (← value? .outputDir).map Path.parse
    compile
    compiler := (← value? .compiler).getD "typst".toList }

/-- The parser that is installed. -/
instance parser : Bindery.Options.Parser :=
  ⟨parse?⟩

end Bindery.Packages.Options
