import Bindery.Proofs.Book.Building
import Bindery.Proofs.Book.Sections

namespace Bindery

open Typeset

variable {navigation : Navigation} {name : Text} {groups : List NavGroup}

namespace Navigation

/-- The tabs, of which there may be none. -/
def tabs : Navigation → List NavTab
  | .absent => []
  | .plain _ => []
  | .tabbed tabs _ => tabs

/-- The groups outside any tab. -/
def looseGroups : Navigation → List NavGroup
  | .absent => []
  | .plain groups => groups
  | .tabbed _ groups => groups

/-- The tab is the first one with the name. -/
def FirstNamed (navigation : Navigation) (name : Text) (tab : NavTab) : Prop :=
  tab.name = name ∧ ∃ before after, navigation.tabs = before ++ tab :: after ∧
    ∀ earlier ∈ before, earlier.name ≠ name

/-- The groups under the name are those of the first tab that has it, and the name is refused when
    no tab has it. -/
def HeedsTab (navigation : Navigation) (name : Text) : Prop :=
  (∀ groups, navigation.select (some name) = .ok groups ↔
    ∃ tab, navigation.FirstNamed name tab ∧ tab.groups = groups) ∧
  ∀ error, navigation.select (some name) = .error error ↔
    error = ⟨name⟩ ∧ ∀ tab ∈ navigation.tabs, tab.name ≠ name

theorem firstNamed_iff {tab : NavTab} :
    navigation.FirstNamed name tab ↔ navigation.tabs.find? (·.name == name) = some tab := by
  rw [FirstNamed, List.find?_eq_some_iff_append]
  simp only [beq_iff_eq, Bool.not_eq_true', beq_eq_false_iff_ne]

theorem select_of_tabs_eq_nil (h : navigation.tabs = []) (tab : Option Text) :
    navigation.select tab = .ok navigation.looseGroups := by
  cases navigation with
  | absent => rfl
  | plain groups => rfl
  | tabbed tabs groups =>
    obtain rfl : tabs = [] := h
    rfl

/-- Among tabs the name is looked up. -/
theorem select_of_tabs_ne_nil (h : navigation.tabs ≠ []) (name : Text) :
    navigation.select (some name) =
      match navigation.tabs.find? (·.name == name) with
      | some tab => .ok tab.groups
      | none => .error ⟨name⟩ := by
  cases navigation with
  | absent => exact absurd rfl h
  | plain groups => exact absurd rfl h
  | tabbed tabs groups =>
    cases tabs with
    | nil => exact absurd rfl h
    | cons first others => rfl

theorem load_eq_select [Descriptor.Decoder] {tree : FileTree} {dir file : Path} {names : List Text}
    (hfile : Descriptor.find tree dir names = .ok file)
    (hread : Descriptor.read tree file = .ok navigation) (tab : Option Text) :
    load tree dir names tab = (navigation.select tab).mapError .unknownTab := by
  rw [load, hfile]
  change (Descriptor.read tree file >>= _) = _
  rw [hread]
  rfl

theorem heedsTab_of_tabs_ne_nil (h : navigation.tabs ≠ []) (name : Text) :
    navigation.HeedsTab name := by
  rw [HeedsTab, select_of_tabs_ne_nil h]
  simp only [firstNamed_iff]
  cases hfound : navigation.tabs.find? (·.name == name) with
  | some tab =>
    have hnamed : ¬∀ tab ∈ navigation.tabs, tab.name ≠ name := fun hnone =>
      hnone tab (List.mem_of_find?_eq_some hfound) (by simpa using List.find?_some hfound)
    exact ⟨fun groups => by simp, fun error => by simp [hnamed]⟩
  | none =>
    have hnone : ∀ tab ∈ navigation.tabs, tab.name ≠ name := by simpa using hfound
    refine ⟨fun groups => by simp, fun error => ?_⟩
    simp only [and_iff_left hnone, Except.error.injEq]
    exact eq_comm

theorem not_heedsTab_of_tabs_eq_nil (h : navigation.tabs = []) (name : Text) :
    ¬navigation.HeedsTab name := by
  rintro ⟨hgroups, -⟩
  obtain ⟨tab, hfirst, -⟩ := (hgroups _).1 (select_of_tabs_eq_nil h (some name))
  rw [firstNamed_iff, h] at hfirst
  cases hfirst

end Navigation

variable {tree : FileTree} {settings : Settings} {dir : Path} {path : Text} {number : Nat}
variable {references : List Text} {pages : List Page} {sections : List Section}

theorem Page.readable_of_read {read : Except PageError Page} (h : Page.read tree dir path = read)
    (hread : read ≠ .error .notText) : tree.Readable (dir.child path) := by
  intro bytes hfound htext
  refine hread ?_
  rw [← h, Page.read, hfound]
  simp only [FileTree.textOf?, htext, Option.map_none]

namespace Section

/-- Pages could be read only where all files among them are text. -/
theorem forall_readable_of_readPages
    (h : (readPages tree settings dir references).result = .ok pages) :
    ∀ reference ∈ references, tree.Readable (dir.child (pagePath settings reference)) := by
  induction references generalizing pages with
  | nil => exact List.forall_mem_nil _
  | cons reference references ih =>
    rw [readPages] at h
    rw [List.forall_mem_cons]
    cases hread : Page.read tree dir (pagePath settings reference) with
    | ok page =>
      simp only [hread] at h
      obtain ⟨others, hothers, -⟩ := Logged.result_bind_eq_ok_iff.1 h
      exact ⟨Page.readable_of_read hread (fun h => by cases h), ih hothers⟩
    | error error =>
      simp only [hread] at h
      cases error with
      | missing file =>
        obtain ⟨-, -, hothers⟩ := Logged.result_bind_eq_ok_iff.1 h
        exact ⟨Page.readable_of_read hread (fun h => by cases h), ih hothers⟩
      | notText => cases h

theorem forall_readable_of_ofGroupsFrom
    (h : (ofGroupsFrom tree settings dir number groups).result = .ok sections) :
    ∀ reference ∈ groups.flatMap NavGroup.pages,
      tree.Readable (dir.child (pagePath settings reference)) := by
  induction groups generalizing number sections with
  | nil => exact List.forall_mem_nil _
  | cons group groups ih =>
    rw [ofGroupsFrom] at h
    rw [List.flatMap_cons, List.forall_mem_append]
    obtain ⟨pages, hpages, h⟩ := Logged.result_bind_eq_ok_iff.1 h
    refine ⟨forall_readable_of_readPages hpages, ?_⟩
    split at h
    · obtain ⟨-, -, h⟩ := Logged.result_bind_eq_ok_iff.1 h
      exact ih h
    · obtain ⟨others, hothers, -⟩ := Logged.result_bind_eq_ok_iff.1 h
      exact ih hothers

/-- The pages of sections that could be made are those that there are among the pages of the
    groups. -/
theorem paths_of_ofGroups (h : (ofGroups tree settings dir groups).result = .ok sections) :
    (allPages sections).map Page.path =
      presentPaths tree settings dir (groups.flatMap NavGroup.pages) := by
  obtain ⟨found, hfound, -, hpaths⟩ := exists_ofGroupsFrom (forall_readable_of_ofGroupsFrom h) 1
  obtain rfl : found = sections := Except.ok.inj (hfound.symm.trans h)
  exact hpaths

/-- The pages of loaded sections are those of the groups that the navigation has under the tab of
    the settings. -/
theorem exists_select_of_load [Descriptor.Decoder] {file : Path}
    (hfile : Descriptor.find tree dir settings.descriptorNames = .ok file)
    (hread : Descriptor.read tree file = .ok navigation)
    (h : (load tree settings dir).result = .ok sections) :
    ∃ groups, navigation.select settings.tab = .ok groups ∧
      (allPages sections).map Page.path =
        presentPaths tree settings dir (groups.flatMap NavGroup.pages) := by
  obtain ⟨groups, hgroups, hsections⟩ := Logged.result_bind_eq_ok_iff.1 h
  have hload := mapError_eq_ok_iff.1 hgroups
  rw [Navigation.load_eq_select hfile hread] at hload
  exact ⟨groups, mapError_eq_ok_iff.1 hload, paths_of_ofGroups hsections⟩

end Section

namespace Book

/-- The tab that is asked for is heeded exactly where the navigation has tabs. Without any, the
groups outside tabs stand under every name, and when no name is given. The pages of a book for the
name are those that there are among the pages of the first tab that has it, or, without tabs, among
those of the groups outside tabs. -/
theorem heedsTab_iff_tabs_ne_nil [Typst.Lexers] [Descriptor.Decoder] (navigation : Navigation)
    (name : Text) :
    (navigation.HeedsTab name ↔ navigation.tabs ≠ []) ∧
    (navigation.tabs = [] → ∀ tab, navigation.select tab = .ok navigation.looseGroups) ∧
    ∀ (tree : FileTree) (cwd dir file : Path) (settings : Settings) (made : Draft),
      let docs := (cwd.join dir).resolve
      let paths := (Section.allPages made.sections).map Page.path
      settings.tab = some name → Descriptor.find tree docs settings.descriptorNames = .ok file →
      Descriptor.read tree file = .ok navigation →
      (draft tree cwd settings dir).result = .ok made →
        (navigation.tabs ≠ [] → ∃ tab, navigation.FirstNamed name tab ∧
          paths = Section.presentPaths tree settings docs (tab.groups.flatMap NavGroup.pages)) ∧
        (navigation.tabs = [] → paths = Section.presentPaths tree settings docs
          (navigation.looseGroups.flatMap NavGroup.pages)) := by
  refine ⟨⟨fun h hnone => ?_, fun h => ?_⟩, Navigation.select_of_tabs_eq_nil, ?_⟩
  · exact Navigation.not_heedsTab_of_tabs_eq_nil hnone name h
  · exact Navigation.heedsTab_of_tabs_ne_nil h name
  intro tree cwd dir file settings made docs paths htab hfile hread hmade
  obtain ⟨groups, hselect, hpaths⟩ :=
    Section.exists_select_of_load hfile hread (draft_result_eq_ok_iff.1 hmade).loaded
  rw [htab] at hselect
  refine ⟨fun htabs => ?_, fun hnone => ?_⟩
  · obtain ⟨tab, hfirst, rfl⟩ :=
      ((Navigation.heedsTab_of_tabs_ne_nil htabs name).1 groups).1 hselect
    exact ⟨tab, hfirst, hpaths⟩
  · obtain rfl : navigation.looseGroups = groups :=
      Except.ok.inj ((Navigation.select_of_tabs_eq_nil hnone _).symm.trans hselect)
    exact hpaths

/-- Of three tabs the second and the third have the name. The book has the page of the second that
there is. -/
theorem heedsTab_iff_tabs_ne_nil_second :
    let navigation : Navigation := .tabbed [⟨"A".toList, []⟩,
      ⟨"B".toList, [⟨"G".toList, [.page "b".toList, .page "c".toList]⟩]⟩, ⟨"B".toList, []⟩] []
    let bytes : List UInt8 :=
      [123, 34, 110, 97, 118, 105, 103, 97, 116, 105, 111, 110, 34, 58, 123, 34, 116, 97, 98, 115,
        34, 58, 91, 123, 34, 116, 97, 98, 34, 58, 34, 65, 34, 125, 44, 123, 34, 116, 97, 98, 34,
        58, 34, 66, 34, 44, 34, 103, 114, 111, 117, 112, 115, 34, 58, 91, 123, 34, 103, 114, 111,
        117, 112, 34, 58, 34, 71, 34, 44, 34, 112, 97, 103, 101, 115, 34, 58, 91, 34, 98, 34, 44,
        34, 99, 34, 93, 125, 93, 125, 44, 123, 34, 116, 97, 98, 34, 58, 34, 66, 34, 125, 93, 125,
        125]
    let tree : FileTree := .dir [("docs".toList,
      .dir [("docs.json".toList, .file bytes), ("b.mdx".toList, .file [104, 105])])]
    let docs := Path.parse "/docs".toList
    let settings := { Settings.default ⟨.root, []⟩ with tab := some "B".toList }
    navigation.HeedsTab "B".toList ∧
      Descriptor.find tree docs settings.descriptorNames = .ok (docs.child "docs.json".toList) ∧
      Descriptor.read tree (docs.child "docs.json".toList) = .ok navigation ∧
      ∃ made, (draft tree ⟨.root, []⟩ settings docs).result = .ok made ∧
        (Section.allPages made.sections).map Page.path = ["b.mdx".toList] := by
  intro navigation bytes tree docs settings
  have htabs : navigation.tabs ≠ [] := List.cons_ne_nil _ _
  have hfile : Descriptor.find tree docs settings.descriptorNames =
      .ok (docs.child "docs.json".toList) := rfl
  have hread : Descriptor.read tree (docs.child "docs.json".toList) = .ok navigation := by
    with_unfolding_all rfl
  have hmade : ∃ made, (draft tree ⟨.root, []⟩ settings docs).result = .ok made :=
    ⟨_, by with_unfolding_all rfl⟩
  obtain ⟨made, hmade⟩ := hmade
  obtain ⟨hheeds, -, hpages⟩ := heedsTab_iff_tabs_ne_nil navigation "B".toList
  obtain ⟨tab, hfirst, hpaths⟩ := (hpages tree _ docs _ settings made rfl hfile hread hmade).1 htabs
  rw [Navigation.firstNamed_iff] at hfirst
  cases hfirst
  exact ⟨hheeds.2 htabs, hfile, hread, made, hmade, hpaths⟩

/-- A list of groups defines no tab, and still a book is made of it under the name of one. -/
theorem exists_draft_of_undefined_tab :
    let bytes : List UInt8 :=
      [123, 34, 110, 97, 118, 105, 103, 97, 116, 105, 111, 110, 34, 58, 91, 123, 34, 103, 114, 111,
        117, 112, 34, 58, 34, 76, 34, 44, 34, 112, 97, 103, 101, 115, 34, 58, 91, 34, 98, 34, 93,
        125, 93, 125]
    let tree : FileTree := .dir [("docs".toList,
      .dir [("docs.json".toList, .file bytes), ("b.mdx".toList, .file [104, 105])])]
    let docs := Path.parse "/docs".toList
    let settings := { Settings.default ⟨.root, []⟩ with tab := some "API".toList }
    ∃ navigation groups made, Descriptor.Decoder.decode bytes = .ok navigation ∧
      (∀ tab ∈ navigation.tabs, tab.name ≠ "API".toList) ∧ ¬navigation.HeedsTab "API".toList ∧
      navigation.select (some "API".toList) = .ok groups ∧
      (draft tree ⟨.root, []⟩ settings docs).result = .ok made ∧
      (Section.allPages made.sections).map Page.path = ["b.mdx".toList] := by
  intro bytes tree docs settings
  have hbytes : Descriptor.Decoder.decode bytes =
      .ok (.plain [⟨"L".toList, [.page "b".toList]⟩]) := by
    with_unfolding_all rfl
  have hmade : ∃ made, (draft tree ⟨.root, []⟩ settings docs).result = .ok made ∧
      (Section.allPages made.sections).map Page.path = ["b.mdx".toList] :=
    ⟨_, by with_unfolding_all rfl, by with_unfolding_all rfl⟩
  obtain ⟨made, hmade, hpaths⟩ := hmade
  exact ⟨_, _, made, hbytes, List.forall_mem_nil _, Navigation.not_heedsTab_of_tabs_eq_nil rfl _,
    rfl, hmade, hpaths⟩

end Book

end Bindery
