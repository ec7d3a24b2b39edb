import Bindery.Path.Home
import Bindery.Settings.Basic
import Bindery.Value

namespace Bindery

/-- What the reading of settings rests on besides the values. -/
structure Surroundings where
  /-- The directory that the tool stands in. -/
  tool : Path
  homes : Homes
  deriving DecidableEq, Repr

/-- Why values give no settings. -/
inductive SettingsError
  /-- A yes or no where a text is needed. -/
  | boolean (field : Text)
  /-- Any other value where a text is needed. -/
  | notText (field : Text)
  | descriptorNames
  | style (found : Value)
  | descriptions
  /-- A path begins at the home of a user who is not known. -/
  | unknownHome
  /-- A path has no place in any file tree. -/
  | unnameable
  /-- A whole number has too many digits to be written. -/
  | longNumber
  deriving Repr

/-- The wording of an error. -/
def SettingsError.message : SettingsError → Text
  | .boolean field =>
    '\x27' :: field ++ "\x27 must be a string, not a boolean.".toList
  | .notText field => '\x27' :: field ++ "\x27 must be a string.".toList
  | .descriptorNames => "\x27descriptor_names\x27 must be a string or a non-empty list.".toList
  | .style found =>
    "Unknown section_style ".toList ++ found.shown ++ "; expected one of: ".toList ++
      Text.joinWith ", ".toList (SectionStyle.all.map SectionStyle.name) ++ ".".toList
  | .descriptions =>
    "\x27section_descriptions\x27 must be a mapping of group name to text.".toList
  | .unknownHome => "Could not determine home directory.".toList
  | .unnameable => Path.zeroNote
  | .longNumber => Text.lengthNote []

namespace Settings

/-- Named values, as a settings file gives them. -/
abbrev Entries := List (Value × Value)

/-- The text that a value stands for: a number is put in digits, if it has not too many. -/
def textOf (field : Text) : Value → Except SettingsError Text
  | .text t => .ok t
  | .bool _ => .error (.boolean field)
  | .int n => if Text.isWritable n then .ok (Text.ofInt n) else .error .longNumber
  | .float x => .ok x.text
  | _ => .error (.notText field)

/-- A text setting. -/
def textField (entries : Entries) (name : Text) (default : Text) : Except SettingsError Text :=
  match Value.named? name entries with
  | some value => textOf name value
  | none => .ok default

/-- The tab to bind; an empty value asks for none. -/
def tabField (entries : Entries) : Except SettingsError (Option Text) :=
  match Value.named? "tab".toList entries with
  | none | some .null => .ok none
  | some value => (textOf "tab".toList value).map some

/-- The names of the descriptor: one text, or a list of at least one. -/
def descriptorNamesField (entries : Entries) (default : List Text) :
    Except SettingsError (List Text) :=
  match Value.named? "descriptor_names".toList entries with
  | none | some .null => .ok default
  | some (.text name) => .ok [name]
  | some (.list (item :: items)) => (item :: items).mapM (textOf "descriptor_names".toList)
  | some _ => .error .descriptorNames

/-- A path seen from a base, with its `..` segments taken back; an absolute path is kept as it is
    written. -/
def placed (base path : Path) : Except SettingsError Path :=
  if path.isAbsolute then .ok path
  else if (base.join path).hasZero then .error .unnameable
  else .ok (base.join path).resolve

/-- Why there is no home for the tilde at the beginning of a path. -/
def homeError (path : Path) : SettingsError :=
  if path.segments.head?.any (·.contains '\x00') then .unnameable else .unknownHome

/-- A path setting. A tilde at its beginning is a home. -/
def pathField (homes : Homes) (base : Path) (entries : Entries) (name : Text) (default : Path) :
    Except SettingsError Path :=
  match Value.named? name entries with
  | none => .ok default
  | some value => do
    let text ← textOf name value
    match (Path.parse text).expandHome? homes with
    | none => throw (homeError (Path.parse text))
    | some path => placed base path

/-- The style of sections. -/
def styleField (entries : Entries) (default : SectionStyle) : Except SettingsError SectionStyle :=
  match Value.named? "section_style".toList entries with
  | none => .ok default
  | some (.text name) =>
    match SectionStyle.ofName? name with
    | some style => .ok style
    | none => .error (.style (.text name))
  | some value => .error (if value.isWritable then .style value else .longNumber)

/-- One introduction: the name of its group and its text. -/
def description (entry : Value × Value) : Except SettingsError (Text × Text) := do
  if !entry.1.isWritable then throw .longNumber
  let key := entry.1.keyText
  return (key, ← textOf ("section_descriptions.".toList ++ key) entry.2)

/-- The introductions of sections. A value that stands for nothing gives none. -/
def descriptionsField (entries : Entries) : Except SettingsError Pairs :=
  match Value.named? "section_descriptions".toList entries with
  | none => .ok []
  | some (.map found) => (found.mapM description).map Pairs.ofList
  | some value => if value.isVoid then .ok [] else .error .descriptions

/-- The settings that the entries give, with paths seen from a base directory. -/
def ofEntries (place : Surroundings) (base : Path) (entries : Entries) :
    Except SettingsError Settings := do
  let default := Settings.default place.tool
  let title ← textField entries "title".toList default.title
  let subtitle ← textField entries "subtitle".toList default.subtitle
  let version ← textField entries "version".toList default.version
  let sourceExtension ← textField entries "source_extension".toList default.sourceExtension
  let outputName ← textField entries "output_name".toList default.outputName
  let tab ← tabField entries
  let descriptorNames ← descriptorNamesField entries default.descriptorNames
  let outputDir ← pathField place.homes base entries "output_dir".toList default.outputDir
  let templatePath ← pathField place.homes base entries "template_path".toList default.templatePath
  let sectionStyle ← styleField entries default.sectionStyle
  let sectionDescriptions ← descriptionsField entries
  let defaultDescription ←
    textField entries "default_description".toList default.defaultDescription
  return { title, subtitle, version, tab, descriptorNames, sourceExtension, outputDir, outputName,
           templatePath, sectionStyle, sectionDescriptions, defaultDescription }

end Settings

end Bindery
