import Bindery.Proofs.Settings.Fields

namespace Bindery

namespace Value

variable {entries : List (Value × Value)} {items : List Value} {value : Value} {name : Text}

theorem not_isLong_of_isWritable (h : value.isWritable = true) : ¬value.IsLong := by
  cases value with
  | int n =>
    rw [isWritable] at h
    simp [IsLong, h]
  | null | bool | float | text | date | moment | list | map => exact id

theorem isWritable_of_mem_items (h : itemsWritable items = true) (hvalue : value ∈ items) :
    value.isWritable = true := by
  induction items with
  | nil => cases hvalue
  | cons item items ih =>
    rw [itemsWritable, Bool.and_eq_true] at h
    rcases List.mem_cons.1 hvalue with rfl | hvalue
    · exact h.1
    · exact ih h.2 hvalue

theorem isWritable_of_mem_entries {entry : Value × Value} (h : entriesWritable entries = true)
    (hentry : entry ∈ entries) : entry.1.isWritable = true ∧ entry.2.isWritable = true := by
  induction entries with
  | nil => cases hentry
  | cons first entries ih =>
    rw [entriesWritable, Bool.and_eq_true, Bool.and_eq_true] at h
    rcases List.mem_cons.1 hentry with rfl | hentry
    · exact h.1
    · exact ih h.2 hentry

theorem mem_of_named? (h : named? name entries = some value) : (.text name, value) ∈ entries := by
  fun_induction named? name entries with
  | case1 => cases h
  | case2 key found rest hkey =>
    obtain rfl := Option.some.inj h
    obtain rfl := eq_of_beq hkey
    exact List.mem_cons_self
  | case3 key found rest hkey ih => exact List.mem_cons_of_mem _ (ih h)
  | case4 entry rest hentry ih => exact List.mem_cons_of_mem _ (ih h)

end Value

namespace Path

variable {p q : Path}

theorem isAbsolute_join (hp : p.isAbsolute = true) : (p.join q).isAbsolute = true := by
  rw [join]
  split
  · assumption
  · exact hp

theorem hasZero_join (hp : p.hasZero = false) (hq : q.hasZero = false) :
    (p.join q).hasZero = false := by
  rw [join]
  split
  · exact hq
  · rw [hasZero] at hp hq ⊢
    rw [List.any_append, hp, hq]
    rfl

end Path

namespace Settings

open Setting (Field Kind)

variable {place : Surroundings} {base : Path} {entries : Entries} {homes : Homes}
variable {value? : Option Value} {setting : Setting} {settings : Settings}

/-- The entries hold nothing that the machine cannot deal with: whole numbers are short enough to be
    written, no path has the character zero, and every tilde at the beginning of a path is a home
    that is known. -/
structure Workable (place : Surroundings) (base : Path) (entries : Entries) : Prop where
  writable : Value.entriesWritable entries = true
  base : base.hasZero = false
  paths : ∀ (setting : Setting) (value : Value), setting.kind = .path →
    Value.named? setting.name entries = some value → value.IsTextual →
      ∃ path, (Path.parse value.asText).expandHome? place.homes = some path ∧ path.hasZero = false

theorem Workable.not_breaks (h : Workable place base entries) (setting : Setting) :
    ¬setting.Breaks place base entries := by
  rintro ⟨value, hvalue, hbreaks⟩
  have hwritable := (Value.isWritable_of_mem_entries h.writable (Value.mem_of_named? hvalue)).2
  have hlong := Value.not_isLong_of_isWritable hwritable
  cases hkind : setting.kind with
  | text | tab =>
    rw [hkind] at hbreaks
    exact hlong hbreaks
  | names =>
    rw [hkind] at hbreaks
    obtain ⟨_, rfl, before, item, after, rfl, -, hitem⟩ := hbreaks
    rw [Value.isWritable] at hwritable
    have hmem : item ∈ before ++ item :: after := by simp
    exact Value.not_isLong_of_isWritable (Value.isWritable_of_mem_items hwritable hmem) hitem
  | path =>
    rw [hkind] at hbreaks
    obtain hbreaks | ⟨htext, hbreaks⟩ := hbreaks
    · exact hlong hbreaks
    · obtain ⟨path, hpath, hzero⟩ := h.paths setting value hkind hvalue htext
      have hjoin := (hbreaks path hpath).2
      rw [Path.hasZero_join h.base hzero] at hjoin
      cases hjoin
  | style =>
    rw [hkind] at hbreaks
    exact absurd hwritable (by simpa [Kind.Breaks] using hbreaks)
  | descriptions =>
    rw [hkind] at hbreaks
    obtain ⟨_, rfl, before, entry, after, rfl, -, hentry⟩ := hbreaks
    rw [Value.isWritable] at hwritable
    have hmem : entry ∈ before ++ entry :: after := by simp
    obtain ⟨hkey, hdescription⟩ := Value.isWritable_of_mem_entries hwritable hmem
    rcases hentry with hentry | hentry
    · rw [hkey] at hentry
      cases hentry
    · exact Value.not_isLong_of_isWritable hdescription hentry

theorem Workable.not_reaches (h : Workable place base entries) :
    ¬Reaches (Setting.Accepts entries) (Setting.Breaks place base entries) Setting.all :=
  fun ⟨_, setting, _, _, _, hbreaks⟩ => h.not_breaks setting hbreaks

/-- Every setting is what the value of its own name makes it. -/
theorem field_eq_given (h : ofEntries place base entries = .ok settings) (setting : Setting) :
    setting.field settings = setting.given place base (Value.named? setting.name entries) := by
  have houtcome := outcome_ofEntries place base entries
  rw [h] at houtcome
  exact List.map_inj_left.1 houtcome.2.2 setting setting.mem_all

theorem isAbsolute_placeOf (homes : Homes) (base path : Path) :
    (Kind.placeOf homes base path).isAbsolute = true := by
  rw [Kind.placeOf]
  split
  · assumption
  · rfl

theorem isAbsolute_of_given {path unset : Path} (hunset : unset.isAbsolute = true)
    (h : Field.path path = value?.elim (.path unset) (Kind.path.given homes base (.path unset))) :
    path.isAbsolute = true := by
  cases value? with
  | none => rwa [Field.path.inj h]
  | some value =>
    rw [Field.path.inj h]
    exact isAbsolute_placeOf homes base _

theorem ne_nil_of_given {names unset : List Text} (hunset : unset ≠ [])
    (haccepts : ∀ value, value? = some value → Kind.names.Accepts value)
    (h : Field.names names =
      value?.elim (.names unset) (Kind.names.given homes base (.names unset))) : names ≠ [] := by
  cases value? with
  | none => rwa [Field.names.inj h]
  | some value =>
    obtain rfl | ⟨t, rfl⟩ | ⟨items, rfl, hitems, -⟩ := haccepts value rfl
    · rwa [Field.names.inj h]
    · rw [Field.names.inj h]
      exact List.cons_ne_nil _ _
    · rw [Field.names.inj h]
      exact mt List.map_eq_nil_iff.1 hitems

/-- The reading of settings is exact and local. The entries are refused exactly if some setting
cannot have the value of its name. Otherwise they give settings with a style that there is, with at
least one name for the descriptor and with absolute paths; each setting is told by the value of its
own name alone, and is its default without one; and whatever other entries there are, known or
unknown, as long as they give settings, a setting whose value is the same is the same. -/
theorem ofEntries_exact_and_local (htool : place.tool.isAbsolute = true)
    (hentries : Workable place base entries) :
    ((∃ error, ofEntries place base entries = .error error ∧ error.isRefusal = true) ↔
      ∃ (setting : Setting) (value : Value), Value.named? setting.name entries = some value ∧
        ¬setting.kind.Accepts value) ∧
    ((∀ (setting : Setting) (value : Value), Value.named? setting.name entries = some value →
        setting.kind.Accepts value) →
      ∃ settings, ofEntries place base entries = .ok settings ∧
        settings.sectionStyle ∈ SectionStyle.all ∧ settings.descriptorNames ≠ [] ∧
        settings.outputDir.isAbsolute = true ∧ settings.templatePath.isAbsolute = true ∧
        ∀ setting : Setting,
          setting.field settings =
            setting.given place base (Value.named? setting.name entries) ∧
          ∀ others found, ofEntries place base others = .ok found →
            Value.named? setting.name others = Value.named? setting.name entries →
              setting.field found = setting.field settings) := by
  have houtcome := outcome_ofEntries place base entries
  refine ⟨?_, fun haccepts => ?_⟩
  · have hrefused := houtcome.exists_refusal_iff
    simp only [map_eq_error_iff] at hrefused
    rw [hrefused, and_iff_right hentries.not_reaches]
    simp [Setting.Accepts, Setting.mem_all]
  · obtain ⟨settings, hread⟩ : ∃ settings, ofEntries place base entries = .ok settings := by
      have hok := houtcome.eq_ok hentries.not_reaches fun setting _ => haccepts setting
      cases hread : ofEntries place base entries with
      | ok settings => exact ⟨settings, rfl⟩
      | error error =>
        rw [hread] at hok
        cases hok
    have hfield := field_eq_given hread
    have houtput : (default place.tool).outputDir.isAbsolute = true := Path.isAbsolute_join htool
    have htemplate : (default place.tool).templatePath.isAbsolute = true :=
      Path.isAbsolute_join htool
    refine ⟨settings, hread, SectionStyle.mem_all _, ?_, ?_, ?_, fun setting => ?_⟩
    · exact ne_nil_of_given (List.cons_ne_nil _ _) (haccepts .descriptorNames)
        (hfield .descriptorNames)
    · exact isAbsolute_of_given houtput (hfield .outputDir)
    · exact isAbsolute_of_given htemplate (hfield .templatePath)
    · refine ⟨hfield setting, fun others found hfound hsame => ?_⟩
      rw [field_eq_given hfound, hsame, hfield]

/-- A number for the title, a directory in the home of a user, a list of names and an unknown name:
    the directory stays the same without the others. -/
theorem ofEntries_exact_and_local_home :
    let place : Surroundings :=
      ⟨Path.parse "/work/tool".toList, ⟨Path.parse "/home/ada".toList, []⟩⟩
    let base := Path.parse "/work/book".toList
    let output : Value × Value := (.text "output_dir".toList, .text "~/out".toList)
    let entries : Entries := [(.text "title".toList, .int 7), (.text "colour".toList, .null),
      output, (.text "descriptor_names".toList, .list [.text "nav.json".toList, .int 2])]
    (place.tool.isAbsolute = true ∧ Workable place base entries ∧
        ∀ (setting : Setting) (value : Value), Value.named? setting.name entries = some value →
          setting.kind.Accepts value) ∧
      ∃ settings, ofEntries place base entries = .ok settings ∧
        settings.descriptorNames ≠ [] ∧
        settings.outputDir = Path.parse "/home/ada/out".toList ∧
        ∀ found, ofEntries place base [output] = .ok found →
          Setting.outputDir.field found = Setting.outputDir.field settings := by
  intro place base output entries
  have hnamed (setting : Setting) (value : Value)
      (hvalue : Value.named? setting.name entries = some value) :
      setting = .title ∧ value = .int 7 ∨ setting = .outputDir ∧ value = .text "~/out".toList ∨
        setting = .descriptorNames ∧ value = .list [.text "nav.json".toList, .int 2] := by
    cases setting <;> cases hvalue <;> simp
  have hworkable : Workable place base entries := by
    refine ⟨by decide +kernel, by decide, fun setting value hkind hvalue _ => ?_⟩
    rcases hnamed setting value hvalue with ⟨rfl, rfl⟩ | ⟨rfl, rfl⟩ | ⟨rfl, rfl⟩
    · cases hkind
    · exact ⟨Path.parse "/home/ada/out".toList, rfl, by decide⟩
    · cases hkind
  have haccepts (setting : Setting) (value : Value)
      (hvalue : Value.named? setting.name entries = some value) : setting.kind.Accepts value := by
    rcases hnamed setting value hvalue with ⟨rfl, rfl⟩ | ⟨rfl, rfl⟩ | ⟨rfl, rfl⟩
    · trivial
    · trivial
    · exact .inr (.inr ⟨_, rfl, List.cons_ne_nil _ _, by simp [Value.IsTextual]⟩)
  obtain ⟨settings, hread, -, hnames, -, -, hlocal⟩ :=
    (ofEntries_exact_and_local rfl hworkable).2 haccepts
  refine ⟨⟨rfl, hworkable, haccepts⟩, settings, hread, hnames, ?_, fun found hfound => ?_⟩
  · exact Field.path.inj (hlocal .outputDir).1
  · exact (hlocal .outputDir).2 [output] found hfound rfl

end Settings

end Bindery
