import Bindery.Book.Build
import Bindery.Packages.Lexers
import Bindery.Proofs.Path.SharedRoot
import Bindery.Proofs.Typeset.Setting

namespace Bindery.Book

variable {cwd docs : Path} {settings : Settings} {place : Text}

/-- The root lies above the output directory, the directory of the template and the
    documentation. -/
theorem root_isAbove (hdocs : docs.anchor = .root) :
    (assets cwd settings docs).root.IsAbove (cwd.join settings.outputDir).resolve ∧
      (assets cwd settings docs).root.IsAbove (cwd.join settings.templatePath).resolve.parent ∧
      (assets cwd settings docs).root.IsAbove docs := by
  have htool := Path.commonRoot_isAbove (p := (cwd.join settings.outputDir).resolve)
    (q := (cwd.join settings.templatePath).resolve.parent) rfl rfl
  have hroot : (assets cwd settings docs).root.IsAbove (assets cwd settings docs).toolRoot ∧
      (assets cwd settings docs).root.IsAbove docs :=
    Path.commonRoot_isAbove (htool.1.1.trans rfl) hdocs
  exact ⟨hroot.1.trans htool.1, hroot.1.trans htool.2, hroot.2⟩

theorem templateImport_eq_ok_iff {assets : Assets} :
    templateImport settings (some assets) = .ok place ↔
      ∃ below, settings.templatePath.stepsFrom assets.root = .ok below ∧
        Assets.rooted below = place := by
  rw [templateImport, Assets.importPath, Typeset.bind_eq_ok_iff]
  simp only [Typeset.pure_eq_ok_iff]

/-- The template can be imported when the root is written above it. -/
theorem exists_templateImport_iff {assets : Assets} :
    (∃ place, templateImport settings (some assets) = .ok place) ↔
      assets.root.IsAbove settings.templatePath := by
  simp only [templateImport_eq_ok_iff, ← Path.exists_stepsFrom_iff]
  constructor
  · rintro ⟨place, below, hbelow, -⟩
    exact ⟨below, hbelow⟩
  · rintro ⟨below, hbelow⟩
    exact ⟨_, below, hbelow, rfl⟩

/-- Following the place by which the template is imported down from the root is following the path
    of the template. -/
theorem followed_templateImport {assets : Assets} (hwritten : settings.templatePath.IsWritten)
    (h : templateImport settings (some assets) = .ok place) :
    ⟨assets.root.anchor, assets.root.segments ++ (Path.parse place).segments⟩ =
      settings.templatePath := by
  obtain ⟨below, hbelow, rfl⟩ := templateImport_eq_ok_iff.1 h
  exact Path.follow_rooted hwritten hbelow

/-- The root covers everything that a book needs. Whatever the settings and the documentation, it
lies above the output directory, the directory of the template and the documentation. The import of
the template succeeds exactly when the root is also above the template's path as the settings have
it, which it is when that path starts from the root of the file tree and goes no step back; and
then the place in the import, followed from the root, is the file of the template. -/
theorem root_covers_book (cwd : Path) (settings : Settings) (dir : Path)
    (hwritten : settings.templatePath.IsWritten) :
    let docs := (cwd.join dir).resolve
    let assets := assets cwd settings docs
    let template := settings.templatePath
    (assets.root.IsAbove (cwd.join settings.outputDir).resolve ∧
      assets.root.IsAbove (cwd.join template).resolve.parent ∧ assets.root.IsAbove docs) ∧
    ((∃ place, templateImport settings (some assets) = .ok place) ↔
      assets.root.IsAbove template) ∧
    (template.anchor = .root → ['.', '.'] ∉ template.segments →
      ∃ place, templateImport settings (some assets) = .ok place) ∧
    ∀ place, templateImport settings (some assets) = .ok place →
      Path.resolve ⟨assets.root.anchor, assets.root.segments ++ (Path.parse place).segments⟩ =
        (cwd.join template).resolve := by
  intro docs assets template
  have habove : assets.root.IsAbove (cwd.join settings.outputDir).resolve ∧
      assets.root.IsAbove (cwd.join template).resolve.parent ∧ assets.root.IsAbove docs :=
    root_isAbove rfl
  have hjoin (hanchor : template.anchor = .root) : cwd.join template = template :=
    if_pos (bne_iff_ne.2 (by simp [hanchor]))
  refine ⟨habove, exists_templateImport_iff, ?_, ?_⟩
  · intro hanchor hback
    have htemplate := habove.2.1.trans (Path.parent_isAbove _)
    rw [hjoin hanchor, Path.resolve_eq_self hanchor hback] at htemplate
    exact exists_templateImport_iff.2 htemplate
  · intro place hplace
    have hroot : assets.root.anchor = template.anchor :=
      (exists_templateImport_iff.1 ⟨place, hplace⟩).1
    rw [followed_templateImport hwritten hplace, hjoin (hroot.symm.trans habove.2.2.1)]

/-- A template whose path goes a step back below the root is imported by a place that does too. -/
theorem root_covers_book_stepBack :
    let settings : Settings :=
      { Settings.default (Path.parse "/work/tool".toList) with
        templatePath := Path.parse "/work/old/../tool/book.typ".toList }
    let assets := assets ⟨.root, []⟩ settings (Path.parse "/work/docs".toList)
    settings.templatePath.IsWritten ∧ assets.root = Path.parse "/work".toList ∧
      templateImport settings (some assets) = .ok "/old/../tool/book.typ".toList ∧
      Path.resolve ⟨assets.root.anchor,
        assets.root.segments ++ (Path.parse "/old/../tool/book.typ".toList).segments⟩ =
          Path.parse "/work/tool/book.typ".toList := by
  intro settings assets
  have hwritten : settings.templatePath.IsWritten := Path.isWritten_parse _
  have hplace : templateImport settings (some assets) = .ok "/old/../tool/book.typ".toList := rfl
  have hfile : settings.templatePath.resolve = Path.parse "/work/tool/book.typ".toList := by decide
  have hcovers := root_covers_book ⟨.root, []⟩ settings (Path.parse "/work/docs".toList) hwritten
  exact ⟨hwritten, by decide, hplace, (hcovers.2.2.2 _ hplace).trans hfile⟩

/-- A template whose path, as it is written, goes around the root cannot be imported, although its
file lies below the root. -/
theorem exists_source_eq_template_error :
    ∃ (settings : Settings) (assets : Assets) (error : Path.OutsideError),
      settings.outputDir.isAbsolute ∧ settings.templatePath.isAbsolute ∧
      assets = Book.assets ⟨.root, []⟩ settings (Path.parse "/work/tool/docs".toList) ∧
      assets.root.IsAbove settings.templatePath.resolve ∧
      templateImport settings (some assets) = .error error ∧
      source settings (some assets) [] = .error (.template error) := by
  refine ⟨{ Settings.default (Path.parse "/work/tool".toList) with
    templatePath := Path.parse "/work/old/../tool/typst/template.typ".toList }, _, _, by decide,
    by decide, rfl, ?_, rfl, rfl⟩
  exact ⟨rfl, by decide⟩

end Bindery.Book
