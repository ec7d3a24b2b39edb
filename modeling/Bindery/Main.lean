import Bindery.CommandLine.Call

namespace Bindery.Shell

/-- The files at a place of the machine, links followed. -/
partial def readTree (place : String) : IO FileTree := do
  let path ← IO.FS.realPath place
  if ← path.isDir then
    let mut entries : List (Text × FileTree) := []
    for entry in ← path.readDir do
      entries := (entry.fileName.toList, ← readTree (place ++ "/" ++ entry.fileName)) :: entries
    return .dir entries
  else
    return .file (← IO.FS.readBinFile path).toList

/-- The tree with the files at a path of the machine, if there are any. -/
def addPlace (cwd : Path) (tree : FileTree) (path : Path) : IO FileTree := do
  let place := (cwd.join path).resolve
  match ← (readTree (String.ofList place.text)).toBaseIO with
  | .ok found => return tree.insert place.segments found
  | .error _ => return tree

/-- The variables of the environment that a call looks at. -/
def readEnvironment : IO Pairs := do
  let options := [Packages.Options.Name.docs, .config, .outputDir, .compiler, .compile]
  let names := options.flatMap (·.variables)
  let mut found : Pairs := []
  for name in "HOME".toList :: names do
    if let some value ← IO.getEnv (String.ofList name) then
      found := found.set name value.toList
  return found

/-- The machine as the call finds it. -/
def machine : IO Machine := do
  let cwd := Path.parse (← IO.currentDir).toString.toList
  let tool := Path.parse (← IO.appDir).toString.toList
  let environment ← readEnvironment
  let home := Path.parse (environment.get "HOME".toList)
  return ⟨⟨tool, ⟨home, []⟩⟩, cwd, environment, fun _ => none, fun _ => .notStarted []⟩

/-- Puts the source of a book in its place. -/
def save (tree : FileTree) (path : Path) : IO Unit := do
  if let some (.file bytes) := tree.find? path then
    IO.FS.createDirAll (String.ofList path.parent.text)
    IO.FS.writeBinFile (String.ofList path.text) ⟨bytes.toArray⟩

/-- The exit status of a call; an error that breaks it off is told here. -/
def finish : Ending → IO UInt32
  | .exit status => return UInt32.ofNat status
  | .usage => do
    IO.eprintln "usage: [SOURCE_DIR] [--config X] [--output-dir X] [--no-compile] [--typst X]"
    return 2
  | .broken error => do
    IO.eprintln (String.ofList error.message)
    return 1

/-- Runs the tool with the given arguments. -/
def call (arguments : List Text) : IO UInt32 := do
  let machine ← machine
  let places := match Options.Parser.parse? machine.environment arguments with
    | some options =>
      let config := machine.surroundings.tool.child "config/book.yaml".toList
      [Call.docsDir machine options, options.config.getD config]
    | none => []
  let tree ← places.foldlM (addPlace machine.cwd) (.dir [])
  let call := Call.run machine tree arguments
  if let some path := call.stored then save call.tree path
  IO.print (String.ofList call.output)
  IO.eprint (String.ofList call.errors)
  finish call.ending

end Bindery.Shell

/-- The entry of the program. -/
def main (arguments : List String) : IO UInt32 :=
  Bindery.Shell.call (arguments.map String.toList)
