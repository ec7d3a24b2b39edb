import Bindery.CommandLine.Session
import Bindery.Packages.Descriptor
import Bindery.Packages.Lexers
import Bindery.Proofs.Settings.Fields

namespace Bindery

/-- The error says that the file cannot be used for settings. -/
def SettingsFileError.isRefusal : SettingsFileError → Bool
  | .malformed _ _ => true
  | .notMapping => true
  | .settings error => error.isRefusal
  | .missing _ => false
  | .file _ => false
  | .notText => false
  | .badValue _ => false

namespace Settings

variable {tree : FileTree} {place : Surroundings} {cwd base path : Path} {bytes : List UInt8}
variable {text : Text} {value : Value} {error : SettingsFileError}

/-- The reading of a file gives settings, or else an error that says why the file cannot be used. -/
def Answered (x : Except SettingsFileError Settings) : Prop :=
  (∃ settings, x = .ok settings) ∨ ∃ error, x = .error error ∧ error.isRefusal = true

theorem answered_error_iff : Answered (.error error) ↔ error.isRefusal = true := by
  simp [Answered]

/-- The reading of the entries breaks off at the value of a setting, and all settings before it can
    have their values. -/
def BreaksOff (place : Surroundings) (base : Path) (entries : Entries) : Prop :=
  Reaches (Setting.Accepts entries) (Setting.Breaks place base entries) Setting.all

theorem not_breaksOff_nil : ¬BreaksOff place base [] := by
  rintro ⟨_, setting, _, _, _, value, hvalue, _⟩
  cases hvalue

theorem load_eq_ofBytes [Yaml.Loader]
    (hfile : tree.find? (cwd.join path) = some (.file bytes)) :
    load tree place cwd path = ofBytes place cwd path bytes := by
  have hholds : tree.holds (cwd.join path) = true := by
    rw [FileTree.holds, hfile]
    rfl
  have hread : tree.read (cwd.join path) = .ok bytes := by
    rw [FileTree.find?] at hfile
    rw [FileTree.read]
    cases hsteps : tree.locate (cwd.join path) with
    | error reason =>
      rw [hsteps] at hfile
      cases hfile
    | ok steps =>
      rw [hsteps] at hfile
      simp only at hfile
      simp only [hfile]
  rw [load, hholds, hread]
  rfl

theorem answered_ofEntries_iff (entries : Entries) :
    Answered ((ofEntries place base entries).mapError .settings) ↔
      ¬BreaksOff place base entries := by
  have houtcome := outcome_ofEntries place base entries
  cases hread : ofEntries place base entries with
  | ok settings =>
    rw [hread] at houtcome
    exact iff_of_true (.inl ⟨settings, rfl⟩) houtcome.1
  | error error =>
    rw [hread] at houtcome
    change Answered (.error (.settings error)) ↔ _
    change if error.isRefusal then _ else _ at houtcome
    rw [answered_error_iff, SettingsFileError.isRefusal]
    split at houtcome
    · next hrefusal => exact iff_of_true hrefusal houtcome.1
    · next hrefusal => exact iff_of_false hrefusal (not_not_intro houtcome)

theorem ofValue_of_ne_map (hvalue : ∀ entries, value ≠ .map entries) :
    ofValue place base value = if value.isVoid then (ofEntries place base []).mapError .settings
      else .error .notMapping := by
  rw [ofValue]
  exact hvalue

theorem answered_ofValue_iff (value : Value) : Answered (ofValue place base value) ↔
    ∀ entries, value = .map entries → ¬BreaksOff place base entries := by
  by_cases hmap : ∃ entries, value = .map entries
  · obtain ⟨entries, rfl⟩ := hmap
    rw [ofValue, answered_ofEntries_iff]
    simp
  · rw [not_exists] at hmap
    refine iff_of_true ?_ fun entries h => absurd h (hmap entries)
    rw [ofValue_of_ne_map hmap]
    split
    · exact (answered_ofEntries_iff []).2 not_breaksOff_nil
    · exact answered_error_iff.2 rfl

theorem answered_ofBytes_iff [loader : Yaml.Loader] (hloader : loader.OnlyRefuses) :
    Answered (ofBytes place cwd path bytes) ↔ ∃ text, FileTree.textOf? bytes = some text ∧
      ∀ entries, loader.load text = .ok (.map entries) →
        ¬BreaksOff place (cwd.join path.parent) entries := by
  rw [ofBytes]
  cases htext : FileTree.textOf? bytes with
  | none => simp [answered_error_iff, SettingsFileError.isRefusal]
  | some text =>
    cases hload : loader.load text with
    | ok value => simp [hload, answered_ofValue_iff]
    | error reason =>
      cases reason with
      | malformed reason => simp [hload, answered_error_iff, SettingsFileError.isRefusal]
      | broken message => exact absurd hload (hloader text message)

theorem isReported_settings (error : SettingsError) :
    (CallError.settings (.settings error)).isReported = error.isRefusal := by
  cases error <;> rfl

theorem isReported_of_ofEntries {entries : Entries}
    (h : (ofEntries place base entries).mapError .settings = .error error) :
    (CallError.settings error).isReported = error.isRefusal := by
  cases hread : ofEntries place base entries with
  | ok settings =>
    rw [hread] at h
    cases h
  | error reason =>
    rw [hread] at h
    cases h
    exact isReported_settings reason

theorem isReported_of_ofValue (h : ofValue place base value = .error error) :
    (CallError.settings error).isReported = error.isRefusal := by
  by_cases hmap : ∃ entries, value = .map entries
  · obtain ⟨entries, rfl⟩ := hmap
    exact isReported_of_ofEntries h
  · rw [ofValue_of_ne_map (not_exists.1 hmap)] at h
    split at h
    · exact isReported_of_ofEntries h
    · cases h
      rfl

/-- Of the errors that a file can be read with, a call reports those that say why it cannot be
    used. -/
theorem isReported_of_ofBytes [Yaml.Loader] (h : ofBytes place cwd path bytes = .error error) :
    (CallError.settings error).isReported = error.isRefusal := by
  rw [ofBytes] at h
  split at h
  · cases h
    rfl
  · split at h
    · cases h
      rfl
    · cases h
      rfl
    · exact isReported_of_ofValue h

/-- What comes of a settings file that there is, read with a reader of YAML that only refuses texts.
It gives settings or is reported as one that cannot be used if and only if it is text and no setting
breaks the reading off before one is refused. In a call that takes its settings from the file, the
report is a line of the error output and exit status one, and every other error breaks the call
off. -/
theorem load_answered_iff [Typst.Lexers] [Descriptor.Decoder] [loader : Yaml.Loader]
    (hloader : loader.OnlyRefuses) (machine : Machine)
    (hfile : tree.find? (machine.cwd.join path) = some (.file bytes)) :
    (Answered (load tree machine.surroundings machine.cwd path) ↔
      ∃ text, FileTree.textOf? bytes = some text ∧
        ∀ entries, loader.load text = .ok (.map entries) →
          ¬BreaksOff machine.surroundings (machine.cwd.join path.parent) entries) ∧
    ∀ options error, Call.configPath machine tree options = some path →
      load tree machine.surroundings machine.cwd path = .error error →
        let call := Call.ofOptions machine tree options
        (error.isRefusal = true → call.ending = .exit 1 ∧
          call.errors = Call.line ("error: ".toList ++ error.message)) ∧
        (error.isRefusal = false → call.ending = .broken (.settings error)) := by
  have hload : load tree machine.surroundings machine.cwd path =
      ofBytes machine.surroundings machine.cwd path bytes := load_eq_ofBytes hfile
  refine ⟨?_, fun options error hpath herror => ?_⟩
  · rw [hload]
    exact answered_ofBytes_iff hloader
  · have hsettings : Call.settings machine tree options = .error error := by
      rw [Call.settings, hpath]
      simp only [herror]
      rfl
    have hreported : (CallError.settings error).isReported = error.isRefusal :=
      isReported_of_ofBytes (hload.symm.trans herror)
    have hcall : Call.ofOptions machine tree options =
        ⟨tree, none, [], (Call.stop (.settings error) []).1, [],
          (Call.stop (.settings error) []).2⟩ := by
      rw [Call.ofOptions, hsettings]
    rw [hcall, Call.stop, hreported]
    refine ⟨fun hrefusal => ?_, fun hrefusal => ?_⟩
    · rw [if_pos hrefusal]
      exact ⟨rfl, rfl⟩
    · rw [hrefusal]
      rfl

/-- A reader that knows the line `'output_dir': '~x'` and refuses every other text. -/
@[reducible]
def homeLoader : Yaml.Loader where
  load text :=
    if text = "'output_dir': '~x'".toList then
      .ok (.map [(.text "output_dir".toList, .text "~x".toList)])
    else .error (.malformed [])

theorem homeLoader_onlyRefuses : homeLoader.OnlyRefuses := by
  intro text message h
  change (if text = "'output_dir': '~x'".toList then _ else _) = _ at h
  split at h
  · cases h
  · cases h

/-- A file with the one line `'output_dir': '~x'` is text and a map, and still breaks the call off
    where no home is known for the tilde. -/
theorem load_answered_iff_unknownHome :
    let loader : Yaml.Loader := homeLoader
    let homes : Homes := ⟨Path.parse "/home/ada".toList, []⟩
    let machine : Machine := ⟨⟨Path.parse "/tool".toList, homes⟩, ⟨.root, []⟩, [],
      fun _ => none, fun _ => .notStarted []⟩
    let bytes : List UInt8 :=
      [39, 111, 117, 116, 112, 117, 116, 95, 100, 105, 114, 39, 58, 32, 39, 126, 120, 39]
    let tree : FileTree := .dir [("b".toList, .file bytes)]
    let path := Path.parse "/b".toList
    loader.OnlyRefuses ∧ tree.find? (machine.cwd.join path) = some (.file bytes) ∧
      ¬Answered (load tree machine.surroundings machine.cwd path) := by
  have htext : FileTree.textOf? [39, 111, 117, 116, 112, 117, 116, 95, 100, 105, 114, 39, 58, 32,
      39, 126, 120, 39] = some "'output_dir': '~x'".toList := by
    with_unfolding_all rfl
  intro loader homes machine bytes tree path
  have hfile : tree.find? (machine.cwd.join path) = some (.file bytes) := rfl
  refine ⟨homeLoader_onlyRefuses, hfile, fun hanswered => ?_⟩
  obtain ⟨text, htext', hentries⟩ :=
    (load_answered_iff homeLoader_onlyRefuses machine hfile).1.1 hanswered
  obtain rfl := Option.some.inj (htext.symm.trans htext')
  have hunset : ∀ setting ∈ Setting.all.take 7, Value.named? setting.name
      [(.text "output_dir".toList, .text "~x".toList)] = none := by decide
  refine hentries _ (if_pos rfl) ⟨Setting.all.take 7, .outputDir, Setting.all.drop 8, rfl, ?_, ?_⟩
  · intro setting hsetting value hvalue
    rw [hunset setting hsetting] at hvalue
    cases hvalue
  · exact ⟨.text "~x".toList, rfl, .inr ⟨trivial, fun found h => by cases h⟩⟩

/-- A file that is not text is not reported as one that cannot be used, whatever it is read with. -/
theorem exists_load_not_answered :
    ∃ (machine : Machine) (tree : FileTree) (path : Path) (bytes : List UInt8) (options : Options),
      tree.find? (machine.cwd.join path) = some (.file bytes) ∧ options.config = some path ∧
      ∀ [Typst.Lexers] [Descriptor.Decoder] [Yaml.Loader],
        ¬Answered (load tree machine.surroundings machine.cwd path) ∧
        (Call.ofOptions machine tree options).ending = .broken (.settings .notText) := by
  let machine : Machine :=
    ⟨⟨⟨.root, []⟩, ⟨.root, []⟩, []⟩, ⟨.root, []⟩, [], fun _ => none, fun _ => .notStarted []⟩
  let tree : FileTree := .dir [("b".toList, .file [0xFF])]
  let path : Path := ⟨.root, ["b".toList]⟩
  have hfile : tree.find? (machine.cwd.join path) = some (.file [0xFF]) := rfl
  have htext : FileTree.textOf? [0xFF] = none := by
    with_unfolding_all rfl
  refine ⟨machine, tree, path, [0xFF], ⟨none, some path, none, false, []⟩, hfile, rfl, ?_⟩
  intro _ _ _
  have hload : load tree machine.surroundings machine.cwd path = .error .notText := by
    rw [load_eq_ofBytes hfile, ofBytes, htext]
  refine ⟨?_, ?_⟩
  · rw [hload, answered_error_iff]
    exact Bool.false_ne_true
  · rw [Call.ofOptions, Call.settings, Call.configPath]
    simp only [hload]
    rfl

end Settings

end Bindery
