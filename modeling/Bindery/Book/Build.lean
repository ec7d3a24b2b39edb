import Bindery.Book.Source
import Bindery.Compiler

namespace Bindery

/-- Why a book could not be made. -/
inductive BuildError
  | noDocs (dir : Path)
  | sections (error : SectionsError)
  | book (error : BookError)
  | file (error : FileError)
  | compiler (error : CompileError)
  deriving Repr

/-- The wording of an error. -/
def BuildError.message : BuildError → Text
  | .noDocs dir => "Docs directory not found: ".toList ++ dir.text
  | .sections error => error.message
  | .book (.page (.url error)) => error.message
  | .book (.page (.level error)) => error.message
  | .book (.page (.outside error)) => error.message
  | .book (.template error) => error.message
  | .file error => error.message
  | .compiler error => error.message

/-- The written files of a book and its sections. -/
structure Volume where
  source : Path
  /-- The finished book, unless only the source was asked for. -/
  book : Option Path
  sections : List Section
  deriving Repr

namespace Volume

/-- The number of pages. -/
def pageCount (volume : Volume) : Nat :=
  (Section.allPages volume.sections).length

/-- The written files. -/
def written (volume : Volume) : List Path :=
  volume.source :: volume.book.toList

end Volume

/-- What is there after an attempt to make a book. -/
structure BuildReport where
  tree : FileTree
  /-- Where the source was written, if it came to that. -/
  stored : Option Path
  log : List LogEntry
  /-- The command lines that were run. -/
  commands : List (List Text)
  result : Except BuildError Volume

namespace Book

/-- The directories that the compiler reads from: one above the output and the template, and the
    documentation. -/
def assets (cwd : Path) (settings : Settings) (docs : Path) : Assets where
  toolRoot := Path.commonRoot (cwd.join settings.outputDir).resolve
    (cwd.join settings.templatePath).resolve.parent
  docsRoot := docs

/-- Sections ready to be written, with the source that they make. -/
structure Draft where
  sections : List Section
  source : Text

/-- Fails at a path that has no place in any file tree. -/
def checkNameable (path : Path) : Logged BuildError Unit :=
  if path.hasZero then Logged.fail (.file ⟨.unnameable, path⟩) else pure ()

/-- Reads and sets the documentation in a directory. -/
def draft [Typst.Lexers] [Descriptor.Decoder] (tree : FileTree) (cwd : Path)
    (settings : Settings) (dir : Path) : Logged BuildError Draft := do
  checkNameable (cwd.join dir)
  let docs := (cwd.join dir).resolve
  if !tree.hasDir docs then Logged.fail (.noDocs dir)
  else
    let sections ← (Section.load tree settings docs).mapError .sections
    let count := (Section.allPages sections).length
    Logged.note .info .builder
      ("found ".toList ++ Text.ofNat sections.length ++ " sections with ".toList ++
        Text.ofNat count ++ " files".toList)
    checkNameable (cwd.join settings.outputDir)
    checkNameable (cwd.join settings.templatePath)
    let source ← Logged.ofExcept
      ((source settings (assets cwd settings docs) sections).mapError .book)
    return ⟨sections, source⟩

/-- Where the source of a book is written. -/
def sourcePath (cwd : Path) (settings : Settings) : Path :=
  (cwd.join settings.outputDir).resolve.child settings.sourceName

/-- Where the finished book is written. -/
def bookPath (cwd : Path) (settings : Settings) : Path :=
  (cwd.join settings.outputDir).resolve.child settings.bookName

/-- Writes the source of a book into its directory, which is made first. -/
def store (tree : FileTree) (cwd : Path) (settings : Settings) (source : Text) :
    FileTree × Except FileError Unit :=
  match tree.makeDir (cwd.join settings.outputDir).resolve with
  | .error error => (tree, .error error)
  | .ok made =>
    match made.write (sourcePath cwd settings) (Text.toUtf8 source) with
    | .error error => (made, .error error)
    | .ok stored => (stored, .ok ())

/-- The book of a draft whose source has been written, as far as the compiler makes it. -/
def finish (cwd : Path) (settings : Settings) (compiler : Option Compiler) (dir : Path)
    (draft : Draft) : Option (List Text) × Logged BuildError Volume :=
  let source := sourcePath cwd settings
  let saved : Logged BuildError Unit :=
    .note .info .builder ("saved Typst source to ".toList ++ source.text)
  match compiler with
  | none => (none, saved.andThen fun _ => pure ⟨source, none, draft.sections⟩)
  | some compiler =>
    let book := bookPath cwd settings
    let root := (assets cwd settings (cwd.join dir).resolve).root
    let (command, compiled) := compiler.compile root source book
    (command, saved.andThen fun _ =>
      (compiled.mapError .compiler).andThen fun _ => pure ⟨source, some book, draft.sections⟩)

/-- Makes the book of the documentation in a directory. Without a compiler only its source is
    written. -/
def build [Typst.Lexers] [Descriptor.Decoder] (tree : FileTree) (cwd : Path)
    (settings : Settings) (compiler : Option Compiler) (dir : Path) : BuildReport :=
  let drafted := draft tree cwd settings dir
  match drafted.result with
  | .error error => ⟨tree, none, drafted.log, [], .error error⟩
  | .ok draft =>
    match store tree cwd settings draft.source with
    | (tree, .error error) => ⟨tree, none, drafted.log, [], .error (.file error)⟩
    | (tree, .ok ()) =>
      let (command, finished) := finish cwd settings compiler dir draft
      ⟨tree, sourcePath cwd settings, drafted.log ++ finished.log, command.toList,
        finished.result⟩

end Book

end Bindery
