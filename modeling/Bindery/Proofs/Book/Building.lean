import Bindery.Book.Build
import Bindery.Packages.Descriptor
import Bindery.Packages.Lexers
import Bindery.Proofs.FileTree.Change
import Bindery.Proofs.Path.Ancestor

namespace Bindery

open Typeset

namespace Logged

variable {ε δ α β : Type} {x : Logged ε α} {f : α → Logged ε β} {a : α} {b : β} {e : ε}

theorem result_bind_eq_ok_iff : (x >>= f).result = .ok b ↔
    ∃ a, x.result = .ok a ∧ (f a).result = .ok b := by
  rw [result_bind]
  exact bind_eq_ok_iff

/-- An error that no part fails with is not what the whole fails with. -/
theorem result_bind_ne_error (hx : x.result ≠ .error e) (hf : ∀ a, (f a).result ≠ .error e) :
    (x >>= f).result ≠ .error e := by
  rw [result_bind]
  cases hresult : x.result with
  | error e' =>
    intro h
    cases h
    exact hx hresult
  | ok a => exact hf a

theorem mapError_eq_ok_iff {g : ε → δ} : (x.mapError g).result = .ok a ↔ x.result = .ok a :=
  Typeset.mapError_eq_ok_iff

theorem mapError_ne_error {x : Except ε α} {g : ε → δ} {e : δ} (hg : ∀ e', g e' ≠ e) :
    x.mapError g ≠ .error e := by
  cases x with
  | error e' => exact fun h => hg e' (Except.error.inj h)
  | ok a => exact fun h => by cases h

end Logged

namespace Run

/-- It ended with the status zero. -/
def Succeeded : Run → Prop
  | .notStarted _ => False
  | .exited status _ _ => status = 0

/-- What it wrote is text. A command that was not started wrote nothing. -/
def WroteText : Run → Prop
  | .notStarted _ => True
  | .exited _ output errors =>
    (FileTree.textOf? output).isSome = true ∧ (FileTree.textOf? errors).isSome = true

variable {run : Run} {command : Text}

theorem outcome_of_succeeded (hrun : run.Succeeded) (htext : run.WroteText) :
    run.outcome command = .ok () := by
  cases run with
  | notStarted reason => exact hrun.elim
  | exited status output errors =>
    obtain ⟨output, houtput⟩ := Option.isSome_iff_exists.1 htext.1
    obtain ⟨errors, herrors⟩ := Option.isSome_iff_exists.1 htext.2
    simp only [outcome, houtput, herrors]
    exact if_pos (beq_iff_eq.2 hrun)

theorem exists_outcome_of_not_succeeded (hrun : ¬run.Succeeded) (htext : run.WroteText) :
    ∃ error, run.outcome command = .error error ∧ error.isFailure = true := by
  cases run with
  | notStarted reason => exact ⟨_, rfl, rfl⟩
  | exited status output errors =>
    obtain ⟨output, houtput⟩ := Option.isSome_iff_exists.1 htext.1
    obtain ⟨errors, herrors⟩ := Option.isSome_iff_exists.1 htext.2
    simp only [outcome, houtput, herrors]
    exact ⟨_, if_neg (mt beq_iff_eq.1 hrun), rfl⟩

/-- Output that is not text is not read, and neither is the status then. -/
theorem outcome_of_not_wroteText (htext : ¬run.WroteText) :
    run.outcome command = .error .notText := by
  cases run with
  | notStarted reason => exact absurd trivial htext
  | exited status output errors =>
    rw [outcome]
    split
    · next houtput herrors =>
      exact absurd ⟨Option.isSome_of_eq_some houtput, Option.isSome_of_eq_some herrors⟩ htext
    · rfl

end Run

namespace Compiler

variable {compiler : Compiler} {root source book : Path}

/-- The compiler is found, can be started, and ends with the status zero. -/
def Works (compiler : Compiler) (root source book : Path) : Prop :=
  ∃ command, compiler.command = some command ∧
    (compiler.run (commandLine command root source book)).Succeeded

/-- What the compiler writes is text, if there is one. -/
def WritesText (compiler : Compiler) (root source book : Path) : Prop :=
  ∀ command, compiler.command = some command →
    (compiler.run (commandLine command root source book)).WroteText

theorem compile_result_of_command {command : Text} (h : compiler.command = some command) :
    (compiler.compile root source book).2.result =
      (compiler.run (commandLine command root source book)).outcome command := by
  rw [compile, h]
  rfl

theorem compile_result_of_works (hworks : compiler.Works root source book)
    (htext : compiler.WritesText root source book) :
    (compiler.compile root source book).2.result = .ok () := by
  obtain ⟨command, hcommand, hrun⟩ := hworks
  rw [compile_result_of_command hcommand]
  exact Run.outcome_of_succeeded hrun (htext command hcommand)

theorem exists_compile_result_of_not_works (hworks : ¬compiler.Works root source book)
    (htext : compiler.WritesText root source book) :
    ∃ error, (compiler.compile root source book).2.result = .error error ∧
      error.isFailure = true := by
  cases hcommand : compiler.command with
  | none =>
    rw [compile, hcommand]
    exact ⟨_, rfl, rfl⟩
  | some command =>
    rw [compile_result_of_command hcommand]
    exact Run.exists_outcome_of_not_succeeded (fun hrun => hworks ⟨command, hcommand, hrun⟩)
      (htext command hcommand)

theorem compile_result_of_not_writesText (htext : ¬compiler.WritesText root source book) :
    (compiler.compile root source book).2.result = .error .notText := by
  cases hcommand : compiler.command with
  | none => exact absurd (fun command h => nomatch hcommand.symm.trans h) htext
  | some command =>
    rw [compile_result_of_command hcommand]
    refine Run.outcome_of_not_wroteText fun hrun => htext fun other hother => ?_
    cases hcommand.symm.trans hother
    exact hrun

end Compiler

namespace Book

variable {tree : FileTree} {cwd dir : Path} {settings : Settings} {made : Draft}

/-- All that is done before anything is written succeeds, with the given sections and source: the
    documentation is there, its sections can be loaded, and the source can be set from them. -/
structure IsDraft [Typst.Lexers] [Descriptor.Decoder] (tree : FileTree) (cwd : Path)
    (settings : Settings) (dir : Path) (made : Draft) : Prop where
  nameable : (cwd.join dir).hasZero = false ∧ (cwd.join settings.outputDir).hasZero = false ∧
    (cwd.join settings.templatePath).hasZero = false
  docs : tree.hasDir (cwd.join dir).resolve = true
  loaded : (Section.load tree settings (cwd.join dir).resolve).result = .ok made.sections
  assembled : source settings (assets cwd settings (cwd.join dir).resolve) made.sections =
    .ok made.source

theorem checkNameable_result_eq_ok_iff {path : Path} :
    (checkNameable path).result = .ok () ↔ path.hasZero = false := by
  rw [checkNameable]
  cases path.hasZero with
  | false => exact iff_of_true rfl rfl
  | true => exact iff_of_false (fun h => by cases h) Bool.noConfusion

theorem draft_result_eq_ok_iff [Typst.Lexers] [Descriptor.Decoder] :
    (draft tree cwd settings dir).result = .ok made ↔ IsDraft tree cwd settings dir made := by
  simp only [draft]
  constructor
  · intro h
    obtain ⟨⟨⟩, hdir, h⟩ := Logged.result_bind_eq_ok_iff.1 h
    by_cases hdocs : tree.hasDir (cwd.join dir).resolve = true
    · rw [hdocs, Bool.not_true, if_neg Bool.noConfusion] at h
      obtain ⟨sections, hsections, h⟩ := Logged.result_bind_eq_ok_iff.1 h
      obtain ⟨-, -, h⟩ := Logged.result_bind_eq_ok_iff.1 h
      obtain ⟨⟨⟩, houtput, h⟩ := Logged.result_bind_eq_ok_iff.1 h
      obtain ⟨⟨⟩, htemplate, h⟩ := Logged.result_bind_eq_ok_iff.1 h
      obtain ⟨text, htext, h⟩ := Logged.result_bind_eq_ok_iff.1 h
      cases h
      rw [checkNameable_result_eq_ok_iff] at hdir houtput htemplate
      exact ⟨⟨hdir, houtput, htemplate⟩, hdocs, Logged.mapError_eq_ok_iff.1 hsections,
        mapError_eq_ok_iff.1 htext⟩
    · rw [Bool.not_eq_true] at hdocs
      rw [hdocs, Bool.not_false, if_pos rfl] at h
      cases h
  · rintro ⟨⟨hdir, houtput, htemplate⟩, hdocs, hsections, htext⟩
    refine Logged.result_bind_eq_ok_iff.2 ⟨(), checkNameable_result_eq_ok_iff.2 hdir, ?_⟩
    rw [hdocs, Bool.not_true, if_neg Bool.noConfusion]
    refine Logged.result_bind_eq_ok_iff.2 ⟨_, Logged.mapError_eq_ok_iff.2 hsections, ?_⟩
    refine Logged.result_bind_eq_ok_iff.2 ⟨(), rfl, ?_⟩
    refine Logged.result_bind_eq_ok_iff.2 ⟨(), checkNameable_result_eq_ok_iff.2 houtput, ?_⟩
    refine Logged.result_bind_eq_ok_iff.2 ⟨(), checkNameable_result_eq_ok_iff.2 htemplate, ?_⟩
    exact Logged.result_bind_eq_ok_iff.2 ⟨_, mapError_eq_ok_iff.2 htext, rfl⟩

theorem draft_result_ne_compiler [Typst.Lexers] [Descriptor.Decoder] (e : CompileError) :
    (draft tree cwd settings dir).result ≠ .error (.compiler e) := by
  have hnameable (path : Path) : (checkNameable path).result ≠ .error (.compiler e) := by
    rw [checkNameable]
    cases path.hasZero with
    | false => exact fun h => by cases h
    | true => exact fun h => by cases h
  simp only [draft]
  refine Logged.result_bind_ne_error (hnameable _) fun _ => ?_
  split
  · exact fun h => by cases h
  · refine Logged.result_bind_ne_error ?_ fun sections => ?_
    · exact Logged.mapError_ne_error fun e' h => by cases h
    refine Logged.result_bind_ne_error (fun h => by cases h) fun _ => ?_
    refine Logged.result_bind_ne_error (hnameable _) fun _ => ?_
    refine Logged.result_bind_ne_error (hnameable _) fun _ => ?_
    refine Logged.result_bind_ne_error ?_ fun text h => by cases h
    exact Logged.mapError_ne_error fun e' h => by cases h

/-- The source and the finished book have one directory. -/
theorem exists_paths (cwd : Path) (settings : Settings) : ∃ (dir : Path) (name : Text),
    sourcePath cwd settings = ⟨dir.anchor, dir.segments ++ [name ++ ".typ".toList]⟩ ∧
      bookPath cwd settings = ⟨dir.anchor, dir.segments ++ [name ++ ".pdf".toList]⟩ := by
  obtain ⟨dir, name, hchild⟩ :=
    Path.exists_child_append (cwd.join settings.outputDir).resolve settings.outputName
  exact ⟨dir, name, hchild _ (by decide) (by decide), hchild _ (by decide) (by decide)⟩

/-- All that writing a source can come to. -/
theorem store_cases (tree : FileTree) (cwd : Path) (settings : Settings) (text : Text) :
    (∃ error, tree.makeDir (cwd.join settings.outputDir).resolve = .error error ∧
      store tree cwd settings text = (tree, .error error)) ∨
    ∃ ready, tree.makeDir (cwd.join settings.outputDir).resolve = .ok ready ∧
      ((∃ error, ready.write (sourcePath cwd settings) (Text.toUtf8 text) = .error error ∧
        store tree cwd settings text = (ready, .error error)) ∨
      ∃ after, ready.write (sourcePath cwd settings) (Text.toUtf8 text) = .ok after ∧
        store tree cwd settings text = (after, .ok ())) := by
  rw [store]
  cases hready : tree.makeDir (cwd.join settings.outputDir).resolve with
  | error error => exact .inl ⟨error, rfl, rfl⟩
  | ok ready =>
    refine .inr ⟨ready, rfl, ?_⟩
    cases hwrite : ready.write (sourcePath cwd settings) (Text.toUtf8 text) with
    | error error => exact .inl ⟨error, rfl, by simp only [hwrite]⟩
    | ok after => exact .inr ⟨after, rfl, by simp only [hwrite]⟩

/-- A source that could not be written has changed nothing but for new directories on the way to
    the output directory, and not even these when that cannot be made. -/
theorem store_keeps_of_error {text : Text} {error : FileError}
    (h : (store tree cwd settings text).2 = .error error) :
    (∀ place, FileTree.IsKept tree (store tree cwd settings text).1
      (cwd.join settings.outputDir).resolve.segments place) ∧
    ∀ error, tree.makeDir (cwd.join settings.outputDir).resolve = .error error →
      (store tree cwd settings text).1 = tree := by
  rcases store_cases tree cwd settings text with
    ⟨error', -, hstore⟩ | ⟨ready, hready, ⟨error', -, hstore⟩ | ⟨after, -, hstore⟩⟩
  · rw [hstore]
    exact ⟨fun place => .inl rfl, fun _ _ => rfl⟩
  · rw [hstore, hready]
    exact ⟨FileTree.isKept_of_makeDir hready, fun error h => by cases h⟩
  · rw [hstore] at h
    cases h

/-- A written source is at its path, and nothing else has changed but for new directories on the
    way to the output directory. The directory for the finished book is there. -/
theorem store_keeps_of_ok {text : Text} (h : (store tree cwd settings text).2 = .ok ()) :
    (∃ file, (store tree cwd settings text).1.locate (sourcePath cwd settings) = .ok file ∧
      (store tree cwd settings text).1.at? file = some (.file (Text.toUtf8 text)) ∧
      ∀ place, place ≠ file → FileTree.IsKept tree (store tree cwd settings text).1
        (cwd.join settings.outputDir).resolve.segments place) ∧
    (store tree cwd settings text).1.hasDir (bookPath cwd settings).parent = true := by
  rcases store_cases tree cwd settings text with
    ⟨error, -, hstore⟩ | ⟨ready, hready, ⟨error, -, hstore⟩ | ⟨after, hafter, hstore⟩⟩
  · rw [hstore] at h
    cases h
  · rw [hstore] at h
    cases h
  · obtain ⟨file, -, hfile, hbytes, hkept⟩ := FileTree.write_keeps hafter
    rw [hstore]
    refine ⟨⟨file, hfile, FileTree.content?_eq_file_iff.1 hbytes, fun place hne => ?_⟩, ?_⟩
    · have hready := FileTree.isKept_of_makeDir hready place
      rw [FileTree.IsKept, ← hkept place hne] at hready
      exact hready
    · obtain ⟨dir, name, hsource, hbook⟩ := exists_paths cwd settings
      rw [hsource, FileTree.locate_eq_ok_iff_of_last] at hfile
      obtain ⟨here, hhere, hdir, -⟩ := hfile
      rw [hbook, Path.parent, List.dropLast_concat, FileTree.hasDir_iff]
      exact ⟨here, hhere, hdir⟩

/-- A book is finished, or not, as its compiling comes out. -/
theorem finish_result_some (compiler : Compiler) :
    (finish cwd settings (some compiler) dir made).2.result =
      (compiler.compile (assets cwd settings (cwd.join dir).resolve).root
          (sourcePath cwd settings) (bookPath cwd settings)).2.result.mapError .compiler >>=
        fun _ => .ok ⟨sourcePath cwd settings, some (bookPath cwd settings), made.sections⟩ := by
  simp only [finish, Logged.andThen, Logged.note, Logged.mapError]
  cases (compiler.compile (assets cwd settings (cwd.join dir).resolve).root
    (sourcePath cwd settings) (bookPath cwd settings)).2.result with
  | ok _ => rfl
  | error _ => rfl

section

variable {compiler : Compiler}

theorem finish_result_of_works
    (hworks : compiler.Works (assets cwd settings (cwd.join dir).resolve).root
      (sourcePath cwd settings) (bookPath cwd settings))
    (htext : compiler.WritesText (assets cwd settings (cwd.join dir).resolve).root
      (sourcePath cwd settings) (bookPath cwd settings)) :
    (finish cwd settings (some compiler) dir made).2.result =
      .ok ⟨sourcePath cwd settings, some (bookPath cwd settings), made.sections⟩ := by
  rw [finish_result_some, Compiler.compile_result_of_works hworks htext]
  rfl

theorem exists_finish_result_of_not_works
    (hworks : ¬compiler.Works (assets cwd settings (cwd.join dir).resolve).root
      (sourcePath cwd settings) (bookPath cwd settings))
    (htext : compiler.WritesText (assets cwd settings (cwd.join dir).resolve).root
      (sourcePath cwd settings) (bookPath cwd settings)) :
    ∃ error, (finish cwd settings (some compiler) dir made).2.result = .error (.compiler error) ∧
      error.isFailure = true := by
  obtain ⟨error, herror, hfailure⟩ := Compiler.exists_compile_result_of_not_works hworks htext
  rw [finish_result_some, herror]
  exact ⟨error, rfl, hfailure⟩

theorem finish_result_of_not_writesText
    (htext : ¬compiler.WritesText (assets cwd settings (cwd.join dir).resolve).root
      (sourcePath cwd settings) (bookPath cwd settings)) :
    (finish cwd settings (some compiler) dir made).2.result = .error (.compiler .notText) := by
  rw [finish_result_some, Compiler.compile_result_of_not_writesText htext]
  rfl

end

section

variable [Typst.Lexers] [Descriptor.Decoder] {compiler : Option Compiler}

theorem build_of_draft_error {error : BuildError}
    (h : (draft tree cwd settings dir).result = .error error) :
    build tree cwd settings compiler dir =
      ⟨tree, none, (draft tree cwd settings dir).log, [], .error error⟩ := by
  simp only [build, h]

theorem build_of_store_error {error : FileError} (hmade : IsDraft tree cwd settings dir made)
    (h : (store tree cwd settings made.source).2 = .error error) :
    build tree cwd settings compiler dir = ⟨(store tree cwd settings made.source).1, none,
      (draft tree cwd settings dir).log, [], .error (.file error)⟩ := by
  have hstore : store tree cwd settings made.source =
      ((store tree cwd settings made.source).1, .error error) := Prod.ext rfl h
  simp only [build, draft_result_eq_ok_iff.2 hmade]
  rw [hstore]

theorem build_of_store_ok (hmade : IsDraft tree cwd settings dir made)
    (h : (store tree cwd settings made.source).2 = .ok ()) :
    build tree cwd settings compiler dir =
      ⟨(store tree cwd settings made.source).1, sourcePath cwd settings,
        (draft tree cwd settings dir).log ++ (finish cwd settings compiler dir made).2.log,
        (finish cwd settings compiler dir made).1.toList,
        (finish cwd settings compiler dir made).2.result⟩ := by
  have hstore : store tree cwd settings made.source =
      ((store tree cwd settings made.source).1, .ok ()) := Prod.ext rfl h
  simp only [build, draft_result_eq_ok_iff.2 hmade]
  rw [hstore]

end

/-- Making a book is all or nothing up to the writing of its source. When the documentation cannot
be read and set, the file tree is left as it was. Otherwise the source is what the tree before comes
to. When it cannot be written, there are no changes but new directories on the way to the output
directory, and none at all when that cannot be made. When it is written, it is at its path, with no
other change but those directories, so that the directory for the finished book is there as well;
the compiler changes nothing of this, and only decides whether there is a book or an error of its
own. That error is told as a failure of the compiler as long as what the compiler writes is text. -/
theorem build_changes_source_only [Typst.Lexers] [Descriptor.Decoder] (tree : FileTree)
    (cwd : Path) (settings : Settings) (compiler : Option Compiler) (dir : Path) :
    let report := build tree cwd settings compiler dir
    let output := (cwd.join settings.outputDir).resolve
    let source := sourcePath cwd settings
    let book := bookPath cwd settings
    let root := (assets cwd settings (cwd.join dir).resolve).root
    ((∀ made, ¬IsDraft tree cwd settings dir made) →
      report.tree = tree ∧ report.stored = none ∧ report.commands = [] ∧
        ∃ error, report.result = .error error ∧ ∀ e, error ≠ .compiler e) ∧
    ∀ made, IsDraft tree cwd settings dir made →
      (∀ error, (store tree cwd settings made.source).2 = .error error →
        report.stored = none ∧ report.commands = [] ∧ report.result = .error (.file error) ∧
        (∀ place, FileTree.IsKept tree report.tree output.segments place) ∧
        ∀ error, tree.makeDir output = .error error → report.tree = tree) ∧
      ((store tree cwd settings made.source).2 = .ok () →
        report.stored = some source ∧
        (∃ file, report.tree.locate source = .ok file ∧
          report.tree.at? file = some (.file (Text.toUtf8 made.source)) ∧
          ∀ place, place ≠ file → FileTree.IsKept tree report.tree output.segments place) ∧
        report.tree.hasDir book.parent = true ∧
        (compiler = none → report.result = .ok ⟨source, none, made.sections⟩) ∧
        ∀ c, compiler = some c →
          (c.WritesText root source book →
            (c.Works root source book →
              report.result = .ok ⟨source, some book, made.sections⟩) ∧
            (¬c.Works root source book →
              ∃ error, report.result = .error (.compiler error) ∧ error.isFailure = true)) ∧
          (¬c.WritesText root source book → report.result = .error (.compiler .notText))) := by
  intro report output source book root
  constructor
  · intro hnone
    cases hdraft : (draft tree cwd settings dir).result with
    | ok made => exact absurd (draft_result_eq_ok_iff.1 hdraft) (hnone made)
    | error error =>
      have hreport : report = _ := build_of_draft_error hdraft
      rw [hreport]
      exact ⟨rfl, rfl, rfl, error, rfl, fun e he => draft_result_ne_compiler e (he ▸ hdraft)⟩
  · intro made hmade
    constructor
    · intro error herror
      have hreport : report = _ := build_of_store_error hmade herror
      obtain ⟨hkept, hsame⟩ := store_keeps_of_error herror
      rw [hreport]
      exact ⟨rfl, rfl, rfl, hkept, hsame⟩
    · intro hok
      have hreport : report = _ := build_of_store_ok hmade hok
      obtain ⟨hfile, hbook⟩ := store_keeps_of_ok hok
      rw [hreport]
      refine ⟨rfl, hfile, hbook, ?_, ?_⟩
      · rintro rfl
        rfl
      · rintro c rfl
        exact ⟨fun htext => ⟨fun hworks => finish_result_of_works hworks htext,
          fun hworks => exists_finish_result_of_not_works hworks htext⟩,
          finish_result_of_not_writesText⟩

/-- Documentation whose descriptor is an empty object, and a source from before. -/
def bareTree : FileTree :=
  .dir [("docs".toList, .dir [("docs.json".toList, .file [123, 125])]),
    ("output".toList, .dir [("documentation.typ".toList, .file [])])]

/-- Without any groups the book has no sections, but there is a book. -/
theorem exists_isDraft_bareTree :
    let docs := Path.parse "/docs".toList
    let settings := Settings.default ⟨.root, []⟩
    ∃ text, source settings (assets ⟨.root, []⟩ settings docs) [] = .ok text ∧
      IsDraft bareTree ⟨.root, []⟩ settings docs ⟨[], text⟩ := by
  intro docs settings
  have hgroups : Navigation.load bareTree docs settings.descriptorNames settings.tab = .ok [] := by
    have hfile : Descriptor.find bareTree docs settings.descriptorNames =
        .ok (Path.parse "/docs/docs.json".toList) := rfl
    have hfound : bareTree.find? (Path.parse "/docs/docs.json".toList) =
        some (.file [123, 125]) := rfl
    have hbytes : Descriptor.Decoder.decode [123, 125] = .ok .absent := by
      with_unfolding_all rfl
    rw [Navigation.load, hfile, bind_eq_ok_iff]
    refine ⟨_, rfl, bind_eq_ok_iff.2 ⟨.absent, ?_, rfl⟩⟩
    simp only [Descriptor.read, hfound, hbytes]
    rfl
  have hload : (Section.load bareTree settings docs).result = .ok [] := by
    refine Logged.result_bind_eq_ok_iff.2 ⟨[], ?_, rfl⟩
    rw [hgroups]
    rfl
  have hsource : ∃ text, source settings (assets ⟨.root, []⟩ settings docs) [] = .ok text :=
    ⟨_, rfl⟩
  obtain ⟨text, htext⟩ := hsource
  exact ⟨text, htext, ⟨rfl, rfl, rfl⟩, rfl, hload, htext⟩

/-- A source from before is replaced, and the new one stays although the compiler fails and says
    why. -/
theorem build_changes_source_only_failed :
    let docs := Path.parse "/docs".toList
    let settings := Settings.default ⟨.root, []⟩
    let compiler : Compiler := ⟨"typst".toList, some "/bin/typst".toList,
      fun _ => .ended 1 none (some "unknown variable".toList)⟩
    let report := build bareTree ⟨.root, []⟩ settings (some compiler) docs
    ∃ text file error, source settings (assets ⟨.root, []⟩ settings docs) [] = .ok text ∧
      report.tree.locate (Path.parse "/output/documentation.typ".toList) = .ok file ∧
      report.tree.at? file = some (.file (Text.toUtf8 text)) ∧
      (∀ place, place ≠ file → FileTree.IsKept bareTree report.tree ["output".toList] place) ∧
      report.result = .error (.compiler error) ∧ error.isFailure = true := by
  intro docs settings compiler report
  obtain ⟨text, htext, hmade⟩ := exists_isDraft_bareTree
  have hok : (store bareTree ⟨.root, []⟩ settings text).2 = .ok () := rfl
  have hrun : (Run.ended 1 none (some "unknown variable".toList)).WroteText := by
    have hempty : FileTree.textOf? [] = some [] := by with_unfolding_all rfl
    have hreason : FileTree.textOf? (Text.toUtf8 "unknown variable".toList) =
        some "unknown variable".toList := by with_unfolding_all rfl
    exact ⟨Option.isSome_of_eq_some hempty, Option.isSome_of_eq_some hreason⟩
  have hbuild := build_changes_source_only bareTree ⟨.root, []⟩ settings (some compiler) docs
  obtain ⟨-, ⟨file, hfile, hstored, hkept⟩, -, -, hcompiled⟩ := (hbuild.2 _ hmade).2 hok
  obtain ⟨hfails, -⟩ := hcompiled compiler rfl
  obtain ⟨error, herror, hfailure⟩ := (hfails fun _ _ => hrun).2 fun ⟨_, _, hstatus⟩ =>
    absurd hstatus (by decide : (1 : Int) ≠ 0)
  exact ⟨text, file, error, htext, hfile, hstored, hkept, herror, hfailure⟩

/-- The compiler ends with the status one after a byte of errors that is no text, and the book fails
    with an error that is not told as a failure of the compiler. -/
theorem exists_result_not_isFailure :
    ∃ (tree : FileTree) (settings : Settings) (compiler : Compiler) (dir : Path)
      (error : CompileError),
      compiler.command = some "/bin/typst".toList ∧
      (∀ words, compiler.run words = .exited 1 [] [255]) ∧
      (build tree ⟨.root, []⟩ settings (some compiler) dir).stored =
        some (sourcePath ⟨.root, []⟩ settings) ∧
      (build tree ⟨.root, []⟩ settings (some compiler) dir).result = .error (.compiler error) ∧
      error.isFailure = false := by
  let docs := Path.parse "/docs".toList
  let settings := Settings.default ⟨.root, []⟩
  let compiler : Compiler :=
    ⟨"typst".toList, some "/bin/typst".toList, fun _ => .exited 1 [] [255]⟩
  obtain ⟨text, -, hmade⟩ := exists_isDraft_bareTree
  refine ⟨bareTree, settings, compiler, docs, .notText, rfl, fun _ => rfl, ?_⟩
  have hok : (store bareTree ⟨.root, []⟩ settings text).2 = .ok () := rfl
  have hbuild : build bareTree ⟨.root, []⟩ settings (some compiler) docs = _ :=
    build_of_store_ok hmade hok
  have hbyte : FileTree.textOf? [255] = none := by with_unfolding_all rfl
  have hfinish : (finish ⟨.root, []⟩ settings (some compiler) docs ⟨[], text⟩).2.result =
      .error (.compiler .notText) := by
    refine finish_result_of_not_writesText fun htext => ?_
    have hsome : (FileTree.textOf? [255]).isSome = true := (htext _ rfl).2
    rw [hbyte] at hsome
    cases hsome
  rw [hbuild]
  exact ⟨rfl, hfinish, rfl⟩

end Book

end Bindery
