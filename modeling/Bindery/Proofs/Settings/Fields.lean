import Bindery.Proofs.Settings.Outcome

namespace Bindery

/-- The settings in the order in which they are read. -/
inductive Setting
  | title
  | subtitle
  | version
  | sourceExtension
  | outputName
  | tab
  | descriptorNames
  | outputDir
  | templatePath
  | sectionStyle
  | sectionDescriptions
  | defaultDescription
  deriving DecidableEq, Repr

namespace Setting

/-- All settings in their order. -/
def all : List Setting :=
  [.title, .subtitle, .version, .sourceExtension, .outputName, .tab, .descriptorNames, .outputDir,
    .templatePath, .sectionStyle, .sectionDescriptions, .defaultDescription]

theorem mem_all (setting : Setting) : setting ∈ all := by
  cases setting <;> decide

/-- The name under which the value of a setting is found. -/
def name : Setting → Text
  | .title => "title".toList
  | .subtitle => "subtitle".toList
  | .version => "version".toList
  | .sourceExtension => "source_extension".toList
  | .outputName => "output_name".toList
  | .tab => "tab".toList
  | .descriptorNames => "descriptor_names".toList
  | .outputDir => "output_dir".toList
  | .templatePath => "template_path".toList
  | .sectionStyle => "section_style".toList
  | .sectionDescriptions => "section_descriptions".toList
  | .defaultDescription => "default_description".toList

/-- What a setting is when it has been read. -/
inductive Field
  | text (value : Text)
  | tab (value : Option Text)
  | names (value : List Text)
  | path (value : Path)
  | style (value : SectionStyle)
  | descriptions (value : Pairs)
  deriving DecidableEq, Repr

/-- What a setting is among the settings of a book. -/
def field (settings : Settings) : Setting → Field
  | .title => .text settings.title
  | .subtitle => .text settings.subtitle
  | .version => .text settings.version
  | .sourceExtension => .text settings.sourceExtension
  | .outputName => .text settings.outputName
  | .tab => .tab settings.tab
  | .descriptorNames => .names settings.descriptorNames
  | .outputDir => .path settings.outputDir
  | .templatePath => .path settings.templatePath
  | .sectionStyle => .style settings.sectionStyle
  | .sectionDescriptions => .descriptions settings.sectionDescriptions
  | .defaultDescription => .text settings.defaultDescription

/-- The kinds of settings by what they ask of a value. -/
inductive Kind
  | text
  | tab
  | names
  | path
  | style
  | descriptions
  deriving DecidableEq, Repr

/-- The kind of a setting; most are plain texts. -/
def kind : Setting → Kind
  | .tab => .tab
  | .descriptorNames => .names
  | .outputDir => .path
  | .templatePath => .path
  | .sectionStyle => .style
  | .sectionDescriptions => .descriptions
  | _ => .text

namespace Kind

/-- The values that a setting can have. -/
def Accepts : Kind → Value → Prop
  | .text, value => value.IsTextual
  | .tab, value => value = .null ∨ value.IsTextual
  | .names, value => value = .null ∨ (∃ t, value = .text t) ∨
      ∃ items, value = .list items ∧ items ≠ [] ∧ ∀ item ∈ items, item.IsTextual
  | .path, value => value.IsTextual
  | .style, value => ∃ style ∈ SectionStyle.all, value = .text style.name
  | .descriptions, value => value.isVoid = true ∨
      ∃ entries, value = .map entries ∧ ∀ entry ∈ entries, entry.2.IsTextual

/-- A path has no place: no home is known for the tilde at its beginning, or the directory that it
    is seen from and the path itself have the character zero in them. -/
def HasNoPlace (homes : Homes) (base path : Path) : Prop :=
  ∀ found, path.expandHome? homes = some found →
    found.isAbsolute = false ∧ (base.join found).hasZero = true

/-- The values at which the reading breaks off. Of several values in one, all those before the one
    that breaks it off have to be such as the setting can have. -/
def Breaks (homes : Homes) (base : Path) : Kind → Value → Prop
  | .text, value => value.IsLong
  | .tab, value => value.IsLong
  | .names, value =>
      ∃ items, value = .list items ∧ Settings.Reaches Value.IsTextual Value.IsLong items
  | .path, value =>
      value.IsLong ∨ value.IsTextual ∧ HasNoPlace homes base (Path.parse value.asText)
  | .style, value => value.isWritable = false
  | .descriptions, value => ∃ entries, value = .map entries ∧
      Settings.Reaches (fun entry => entry.2.IsTextual)
        (fun entry => entry.1.isWritable = false ∨ entry.2.IsLong) entries

/-- Where a path lies that is seen from a base. A tilde at its beginning is a home, and an absolute
    path lies where it says. -/
def placeOf (homes : Homes) (base path : Path) : Path :=
  let found := (path.expandHome? homes).getD path
  if found.isAbsolute then found else (base.join found).resolve

/-- What a setting is by a value that it can have. -/
def given (homes : Homes) (base : Path) (default : Field) : Kind → Value → Field
  | .text, value => .text value.asText
  | .tab, .null => .tab none
  | .tab, value => .tab (some value.asText)
  | .names, .null => default
  | .names, .list items => .names (items.map Value.asText)
  | .names, value => .names [value.asText]
  | .path, value => .path (placeOf homes base (Path.parse value.asText))
  | .style, value => ((SectionStyle.ofName? value.asText).map Field.style).getD default
  | .descriptions, .map entries =>
      .descriptions (Pairs.ofList (entries.map fun entry => (entry.1.keyText, entry.2.asText)))
  | .descriptions, _ => .descriptions []

end Kind

section

variable (place : Surroundings) (base : Path) (entries : Settings.Entries) (setting : Setting)

/-- The value of the setting is one that it can have, if it has any. -/
def Accepts : Prop :=
  ∀ value, Value.named? setting.name entries = some value → setting.kind.Accepts value

/-- The reading breaks off at the value of the setting. -/
def Breaks : Prop :=
  ∃ value, Value.named? setting.name entries = some value ∧
    setting.kind.Breaks place.homes base value

/-- What the setting is by the value of its name; without one it is the default. -/
def given (value? : Option Value) : Field :=
  let default := setting.field (Settings.default place.tool)
  value?.elim default (setting.kind.given place.homes base default)

end

end Setting

namespace Settings

open Setting (Field Kind)

variable {place : Surroundings} {base : Path} {entries : Entries} {homes : Homes}
variable {name : Text} {value : Value}

theorem Outcome.bind {α β : Type} {x : Except SettingsError α} {f : α → Except SettingsError β}
    {breaks breaks' accepts accepts' : Prop} {a : α} {b : β} (h : Outcome x breaks accepts a)
    (hnext : Outcome (f a) breaks' accepts' b) :
    Outcome (x >>= f) (breaks ∨ accepts ∧ breaks') (accepts ∧ accepts') b := by
  cases x with
  | ok a' =>
    obtain ⟨hbreaks, haccepts, rfl⟩ := h
    exact hnext.congr (by simp [hbreaks, haccepts]) (by simp [haccepts])
  | error error =>
    rw [Outcome] at h
    change if error.isRefusal then _ else _
    split
    · next hrefusal =>
      rw [if_pos hrefusal] at h
      simp [h.1, h.2]
    · next hrefusal =>
      rw [if_neg hrefusal] at h
      exact .inl h

theorem outcome_placed (homes : Homes) (base path : Path) :
    Outcome (match path.expandHome? homes with
        | none => throw (homeError path)
        | some found => placed base found)
      (Kind.HasNoPlace homes base path) True (Kind.placeOf homes base path) := by
  have hhome : (homeError path).isRefusal = false := by
    rw [homeError]
    split <;> rfl
  cases hfound : path.expandHome? homes with
  | none =>
    change if (homeError path).isRefusal then _ else _
    rw [hhome, if_neg Bool.false_ne_true]
    intro found h
    rw [hfound] at h
    cases h
  | some found =>
    have hplace : Kind.HasNoPlace homes base path ↔
        found.isAbsolute = false ∧ (base.join found).hasZero = true := by
      simp [Kind.HasNoPlace, hfound]
    rw [Kind.placeOf, hfound]
    refine Outcome.congr ?_ hplace.symm Iff.rfl
    simp only [placed, Option.getD_some]
    cases habsolute : found.isAbsolute with
    | true => exact ⟨by simp, trivial, rfl⟩
    | false =>
      cases hzero : (base.join found).hasZero with
      | true => exact ⟨rfl, rfl⟩
      | false => exact ⟨by simp, trivial, rfl⟩

theorem outcome_description (entry : Value × Value) :
    Outcome (description entry) (entry.1.isWritable = false ∨ entry.2.IsLong) entry.2.IsTextual
      (entry.1.keyText, entry.2.asText) := by
  rw [description]
  cases hkey : entry.1.isWritable with
  | false => exact .inl rfl
  | true =>
    refine ((outcome_textOf _ entry.2).map (entry.1.keyText, ·)).congr ?_ Iff.rfl
    simp

end Settings

namespace SectionStyle

variable {style : SectionStyle} {name : Text}

theorem mem_all (style : SectionStyle) : style ∈ all := by
  cases style <;> decide

theorem ofName?_name (style : SectionStyle) : ofName? style.name = some style := by
  cases style <;> rfl

theorem name_of_ofName? (h : ofName? name = some style) : style.name = name := by
  rw [ofName?] at h
  exact eq_of_beq (List.find?_some h :)

end SectionStyle

namespace Settings

open Setting (Field Kind)

variable {homes : Homes} {base : Path} {entries : Entries} {unset : Field} {value : Value}

/-- The reading of a setting of the kind comes out as its value tells, if it has one. -/
def Reads (homes : Homes) (base : Path) (kind : Kind) (value? : Option Value) (unset : Field)
    (x : Except SettingsError Field) : Prop :=
  Outcome x (∃ value, value? = some value ∧ kind.Breaks homes base value)
    (∀ value, value? = some value → kind.Accepts value)
    (value?.elim unset (kind.given homes base unset))

theorem reads_of {kind : Kind} {value? : Option Value} {x : Except SettingsError Field}
    (hnone : value? = none → x = .ok unset)
    (hsome : ∀ value, value? = some value → Outcome x (kind.Breaks homes base value)
      (kind.Accepts value) (kind.given homes base unset value)) :
    Reads homes base kind value? unset x := by
  cases value? with
  | none =>
    rw [hnone rfl]
    exact ⟨by simp, by simp, rfl⟩
  | some value => exact (hsome value rfl).congr (by simp) (by simp)

theorem reads_textField (name t : Text) :
    Reads homes base .text (Value.named? name entries) (.text t)
      ((textField entries name t).map .text) := by
  rw [textField]
  refine reads_of (fun h => ?_) fun value h => ?_
  · rw [h]
    rfl
  · rw [h]
    exact (outcome_textOf name value).map Field.text

theorem reads_tabField :
    Reads homes base .tab (Value.named? "tab".toList entries) (.tab none)
      ((tabField entries).map .tab) := by
  rw [tabField]
  refine reads_of (fun h => ?_) fun value h => ?_
  · rw [h]
    rfl
  rw [h]
  by_cases hnull : value = .null
  · subst hnull
    exact ⟨id, .inl rfl, rfl⟩
  · have hgiven : Kind.tab.given homes base (.tab none) value = .tab (some value.asText) := by
      rw [Kind.given]
      exact hnull
    rw [hgiven]
    split
    · contradiction
    · next heq => exact absurd (Option.some.inj heq) hnull
    · next heq =>
      obtain rfl := Option.some.inj heq
      exact (((outcome_textOf _ value).map some).map Field.tab).congr Iff.rfl
        (by simp [Kind.Accepts, hnull])

theorem reads_descriptorNamesField (names : List Text) :
    Reads homes base .names (Value.named? "descriptor_names".toList entries) (.names names)
      ((descriptorNamesField entries names).map .names) := by
  rw [descriptorNamesField]
  refine reads_of (fun h => ?_) fun value h => ?_
  · rw [h]
    rfl
  rw [h]
  cases value with
  | null => exact ⟨by simp [Kind.Breaks], .inl rfl, rfl⟩
  | text t => exact ⟨by simp [Kind.Breaks], .inr (.inl ⟨t, rfl⟩), rfl⟩
  | list items =>
    cases items with
    | nil =>
      refine ⟨?_, by simp [Kind.Accepts]⟩
      rintro ⟨items, hitems, hreaches⟩
      obtain rfl := Value.list.inj hitems
      exact not_reaches_nil hreaches
    | cons item items =>
      have hread := outcome_mapM (l := item :: items)
        fun item _ => outcome_textOf "descriptor_names".toList item
      exact (hread.map Field.names).congr (by simp [Kind.Breaks]) (by simp [Kind.Accepts])
  | bool | int | float | date | moment | map =>
    exact ⟨by simp [Kind.Breaks], by simp [Kind.Accepts]⟩

theorem reads_pathField (name : Text) (path : Path) :
    Reads homes base .path (Value.named? name entries) (.path path)
      ((pathField homes base entries name path).map .path) := by
  rw [pathField]
  refine reads_of (fun h => ?_) fun value h => ?_
  · rw [h]
    rfl
  rw [h]
  have hread := (outcome_textOf name value).bind
    (f := fun text => match (Path.parse text).expandHome? homes with
      | none => throw (homeError (Path.parse text))
      | some path => placed base path)
    (outcome_placed homes base (Path.parse value.asText))
  exact (hread.map Field.path).congr Iff.rfl (by simp [Kind.Accepts])

theorem reads_styleField (style : SectionStyle) :
    Reads homes base .style (Value.named? "section_style".toList entries) (.style style)
      ((styleField entries style).map .style) := by
  rw [styleField]
  refine reads_of (fun h => ?_) fun value h => ?_
  · rw [h]
    rfl
  rw [h]
  split
  · contradiction
  · next t heq =>
    obtain rfl := Option.some.inj heq
    have hwritable : ¬Kind.style.Breaks homes base (.text t) := by
      simp [Kind.Breaks, Value.isWritable]
    cases hstyle : SectionStyle.ofName? t with
    | some style =>
      refine ⟨hwritable, ⟨style, SectionStyle.mem_all style, ?_⟩, ?_⟩
      · rw [SectionStyle.name_of_ofName? hstyle]
      · simp [Kind.given, Value.asText, hstyle]
    | none =>
      refine ⟨hwritable, ?_⟩
      rintro ⟨style, -, htext⟩
      obtain rfl := Value.text.inj htext
      rw [SectionStyle.ofName?_name] at hstyle
      cases hstyle
  · next hother heq =>
    obtain rfl := Option.some.inj heq
    cases hwritable : value.isWritable with
    | true =>
      refine ⟨by simp [Kind.Breaks, hwritable], ?_⟩
      rintro ⟨style, -, rfl⟩
      exact hother _ rfl
    | false => exact hwritable

theorem reads_descriptionsField :
    Reads homes base .descriptions (Value.named? "section_descriptions".toList entries)
      (.descriptions []) ((descriptionsField entries).map .descriptions) := by
  rw [descriptionsField]
  refine reads_of (fun h => ?_) fun value h => ?_
  · rw [h]
    rfl
  rw [h]
  split
  · contradiction
  · next found heq =>
    obtain rfl := Option.some.inj heq
    have haccepts : Kind.descriptions.Accepts (.map found) ↔
        ∀ entry ∈ found, entry.2.IsTextual := by
      constructor
      · rintro (hvoid | ⟨found', hfound, hall⟩)
        · rw [Value.isVoid, List.isEmpty_iff] at hvoid
          simp [hvoid]
        · rwa [Value.map.inj hfound]
      · exact fun hall => .inr ⟨found, rfl, hall⟩
    have hread := outcome_mapM (l := found) fun entry _ => outcome_description entry
    exact ((hread.map Pairs.ofList).map Field.descriptions).congr (by simp [Kind.Breaks])
      haccepts.symm
  · next hother heq =>
    obtain rfl := Option.some.inj heq
    have hmap (found : List (Value × Value)) : value ≠ .map found := hother found
    have hbreaks : ¬Kind.descriptions.Breaks homes base value :=
      fun ⟨found, hfound, _⟩ => hmap found hfound
    have hgiven : Kind.descriptions.given homes base (.descriptions []) value =
        .descriptions [] := by
      rw [Kind.given]
      exact hmap
    rw [hgiven]
    cases hvoid : value.isVoid with
    | true => exact ⟨hbreaks, .inl hvoid, rfl⟩
    | false =>
      refine ⟨hbreaks, ?_⟩
      rintro (hvoid' | ⟨found, hfound, -⟩)
      · rw [hvoid] at hvoid'
        cases hvoid'
      · exact hmap found hfound

/-- The reading of one setting. -/
def readSetting (place : Surroundings) (base : Path) (entries : Entries) :
    Setting → Except SettingsError Field
  | .title => (textField entries "title".toList (default place.tool).title).map .text
  | .subtitle => (textField entries "subtitle".toList (default place.tool).subtitle).map .text
  | .version => (textField entries "version".toList (default place.tool).version).map .text
  | .sourceExtension =>
    (textField entries "source_extension".toList (default place.tool).sourceExtension).map .text
  | .outputName =>
    (textField entries "output_name".toList (default place.tool).outputName).map .text
  | .tab => (tabField entries).map .tab
  | .descriptorNames =>
    (descriptorNamesField entries (default place.tool).descriptorNames).map .names
  | .outputDir =>
    (pathField place.homes base entries "output_dir".toList
      (default place.tool).outputDir).map .path
  | .templatePath =>
    (pathField place.homes base entries "template_path".toList
      (default place.tool).templatePath).map .path
  | .sectionStyle => (styleField entries (default place.tool).sectionStyle).map .style
  | .sectionDescriptions => (descriptionsField entries).map .descriptions
  | .defaultDescription =>
    (textField entries "default_description".toList
      (default place.tool).defaultDescription).map .text

theorem outcome_readSetting (place : Surroundings) (base : Path) (entries : Entries)
    (setting : Setting) :
    Outcome (readSetting place base entries setting) (setting.Breaks place base entries)
      (setting.Accepts entries) (setting.given place base (Value.named? setting.name entries)) := by
  cases setting with
  | title | subtitle | version | sourceExtension | outputName | defaultDescription =>
    exact reads_textField _ _
  | tab => exact reads_tabField
  | descriptorNames => exact reads_descriptorNamesField _
  | outputDir | templatePath => exact reads_pathField _ _
  | sectionStyle => exact reads_styleField _
  | sectionDescriptions => exact reads_descriptionsField

/-- The settings of a book are read one after the other. -/
theorem ofEntries_fields (place : Surroundings) (base : Path) (entries : Entries) :
    (ofEntries place base entries).map (fun settings => Setting.all.map (Setting.field settings)) =
      Setting.all.mapM (readSetting place base entries) := by
  have hmap {α β : Type} (f : α → β) (x : Except SettingsError α) : x.map f = f <$> x := rfl
  simp only [ofEntries, Setting.all, List.mapM_cons, List.mapM_nil, readSetting, hmap, map_bind,
    bind_map_left, map_pure, bind_pure_comp, Functor.map_map]
  rfl

/-- The reading of all settings breaks off at the first setting that is not taken, if it breaks off
    there; it refuses the entries if it refuses that setting. -/
theorem outcome_ofEntries (place : Surroundings) (base : Path) (entries : Entries) :
    Outcome ((ofEntries place base entries).map fun settings =>
        Setting.all.map (Setting.field settings))
      (Reaches (Setting.Accepts entries) (Setting.Breaks place base entries) Setting.all)
      (∀ setting ∈ Setting.all, setting.Accepts entries)
      (Setting.all.map fun setting =>
        setting.given place base (Value.named? setting.name entries)) := by
  rw [ofEntries_fields]
  exact outcome_mapM fun setting _ => outcome_readSetting place base entries setting

end Settings

end Bindery
