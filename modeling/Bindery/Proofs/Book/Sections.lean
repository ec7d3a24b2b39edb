import Bindery.Book.Section
import Bindery.Proofs.Navigation.ReadingOrder
import Mathlib.Algebra.Group.Nat.Defs

namespace Bindery

variable {tree : FileTree} {settings : Settings} {dir : Path} {path : Text} {number : Nat}
variable {groups : List NavGroup} {references : List Text}

/-- What lies at the path is text, if it is a file at all. -/
def FileTree.Readable (tree : FileTree) (path : Path) : Prop :=
  ∀ bytes, tree.find? path = some (.file bytes) → Text.ofUtf8? bytes ≠ none

theorem FileTree.hasFile_iff {file : Path} :
    tree.hasFile file = true ↔ ∃ bytes, tree.find? file = some (.file bytes) := by
  rw [hasFile]
  cases tree.find? file with
  | none => simp
  | some found => cases found <;> simp

theorem Page.exists_read (hread : tree.Readable (dir.child path))
    (hfile : tree.hasFile (dir.child path) = true) :
    ∃ page, Page.read tree dir path = .ok page ∧ page.path = path := by
  obtain ⟨bytes, hfound⟩ := FileTree.hasFile_iff.1 hfile
  obtain ⟨text, htext⟩ := Option.ne_none_iff_exists'.1 (hread bytes hfound)
  refine ⟨Page.ofContent path (Text.normalizeNewlines text), ?_, rfl⟩
  rw [Page.read, hfound]
  simp only [FileTree.textOf?, htext, Option.map_some]

theorem Page.read_of_not_hasFile (hfile : tree.hasFile (dir.child path) = false) :
    Page.read tree dir path = .error (.missing (dir.child path)) := by
  have hnone := mt FileTree.hasFile_iff.2 (Bool.eq_false_iff.1 hfile)
  rw [Page.read]
  cases hfound : tree.find? (dir.child path) with
  | none => rfl
  | some found =>
    cases found with
    | file bytes => exact absurd ⟨bytes, hfound⟩ hnone
    | dir entries => rfl

namespace Section

/-- The paths that the references mean, without slashes at their ends and with the extension, as far
    as there is a file at them. -/
def presentPaths (tree : FileTree) (settings : Settings) (dir : Path) (references : List Text) :
    List Text :=
  (references.map fun reference =>
    Text.trimClass (· == '/') reference ++ settings.sourceExtension).filter
      fun path => tree.hasFile (dir.child path)

theorem presentPaths_cons_of_hasFile {reference : Text}
    (h : tree.hasFile (dir.child (pagePath settings reference)) = true) (rest : List Text) :
    presentPaths tree settings dir (reference :: rest) =
      pagePath settings reference :: presentPaths tree settings dir rest :=
  List.filter_cons_of_pos h

theorem presentPaths_cons_of_not_hasFile {reference : Text}
    (h : tree.hasFile (dir.child (pagePath settings reference)) = false) (rest : List Text) :
    presentPaths tree settings dir (reference :: rest) = presentPaths tree settings dir rest :=
  List.filter_cons_of_neg (Bool.eq_false_iff.1 h)

theorem presentPaths_append (references others : List Text) :
    presentPaths tree settings dir (references ++ others) =
      presentPaths tree settings dir references ++ presentPaths tree settings dir others := by
  rw [presentPaths, List.map_append, List.filter_append, presentPaths, presentPaths]

theorem exists_readPages
    (hread : ∀ reference ∈ references, tree.Readable (dir.child (pagePath settings reference))) :
    ∃ pages, (readPages tree settings dir references).result = .ok pages ∧
      pages.map Page.path = presentPaths tree settings dir references := by
  induction references with
  | nil => exact ⟨[], rfl, rfl⟩
  | cons reference references ih =>
    rw [List.forall_mem_cons] at hread
    obtain ⟨pages, hpages, hpaths⟩ := ih hread.2
    rw [readPages]
    by_cases hfile : tree.hasFile (dir.child (pagePath settings reference)) = true
    · obtain ⟨page, hpage, hpath⟩ := Page.exists_read hread.1 hfile
      refine ⟨page :: pages, ?_, ?_⟩
      · simp only [hpage, Logged.result_bind, hpages]
        rfl
      · rw [presentPaths_cons_of_hasFile hfile, List.map_cons, hpath, hpaths]
    · rw [Bool.not_eq_true] at hfile
      refine ⟨pages, ?_, ?_⟩
      · simp only [Page.read_of_not_hasFile hfile, Logged.result_bind, hpages]
        rfl
      · rw [presentPaths_cons_of_not_hasFile hfile, hpaths]

/-- The text is the decimal numeral of a number, with no more digits than that takes but with at
    least two. -/
def IsNumeral (n : Nat) (s : Text) : Prop :=
  (∀ c ∈ s, c.isDigit) ∧ Nat.ofDigitChars 10 s 0 = n ∧ 2 ≤ s.length ∧
    ∀ k, 2 ≤ k → n < 10 ^ k → s.length ≤ k

theorem isNumeral_number (group : NavGroup) (pages : List Page) :
    IsNumeral number (ofGroup settings number group pages).number := by
  have hdigits : ∀ c ∈ Nat.toDigits 10 number, c.isDigit :=
    fun c hc => Nat.isDigit_of_mem_toDigits (by decide) (by decide) hc
  have hvalue : Nat.ofDigitChars 10 (Nat.toDigits 10 number) 0 = number :=
    Nat.ofDigitChars_toDigits (by decide) (by decide)
  by_cases hsmall : number < 10
  · have hnumber : (ofGroup settings number group pages).number =
        ['0', number.digitChar] := by
      rw [ofGroup, if_pos hsmall, Text.ofNat, Nat.toDigits_of_lt_base hsmall, List.singleton_append]
    rw [Nat.toDigits_of_lt_base hsmall] at hdigits hvalue
    rw [hnumber]
    refine ⟨List.forall_mem_cons.2 ⟨rfl, hdigits⟩, hvalue, Nat.le_refl 2, fun k hk _ => hk⟩
  · have hnumber : (ofGroup settings number group pages).number = Nat.toDigits 10 number := by
      rw [ofGroup, if_neg hsmall, Text.ofNat, List.nil_append]
    rw [hnumber]
    refine ⟨hdigits, hvalue, ?_, ?_⟩
    · have hlong := (Nat.length_toDigits_le_iff (b := 10) (n := number) (k := 1)
        (by decide) (by decide)).not.2 (by omega)
      omega
    · intro k hk hlt
      exact (Nat.length_toDigits_le_iff (by decide) (by omega)).2 hlt

/-- The section is that of a group with a number: it has the group's name and number, and the
    pages that there are among those of the group, of which there is at least one. -/
def IsOfGroup (tree : FileTree) (settings : Settings) (dir : Path) (entry : NavGroup × Nat)
    (part : Section) : Prop :=
  IsNumeral entry.2 part.number ∧ part.title = entry.1.name ∧ part.pages ≠ [] ∧
    part.pages.map Page.path = presentPaths tree settings dir entry.1.pages

/-- The groups, with their numbers, that have a page. -/
def presentGroups (tree : FileTree) (settings : Settings) (dir : Path) (number : Nat)
    (groups : List NavGroup) : List (NavGroup × Nat) :=
  (groups.zipIdx number).filter fun entry =>
    !(presentPaths tree settings dir entry.1.pages).isEmpty

theorem exists_ofGroupsFrom (hread : ∀ reference ∈ groups.flatMap NavGroup.pages,
      tree.Readable (dir.child (pagePath settings reference))) (number : Nat) :
    ∃ sections, (ofGroupsFrom tree settings dir number groups).result = .ok sections ∧
      List.Forall₂ (IsOfGroup tree settings dir) (presentGroups tree settings dir number groups)
        sections ∧
      (allPages sections).map Page.path =
        presentPaths tree settings dir (groups.flatMap NavGroup.pages) := by
  induction groups generalizing number with
  | nil => exact ⟨[], rfl, .nil, rfl⟩
  | cons group groups ih =>
    rw [List.flatMap_cons, List.forall_mem_append] at hread
    obtain ⟨pages, hpages, hpaths⟩ := exists_readPages hread.1
    obtain ⟨sections, hsections, hgroups, hall⟩ := ih hread.2 (number + 1)
    have hflat : presentPaths tree settings dir ((group :: groups).flatMap NavGroup.pages) =
        pages.map Page.path ++ (allPages sections).map Page.path := by
      rw [hpaths, hall, List.flatMap_cons, presentPaths_append]
    rw [presentGroups, List.zipIdx_cons, ofGroupsFrom]
    simp only [Logged.result_bind, hpages]
    by_cases hempty : pages = []
    · subst hempty
      refine ⟨sections, hsections, ?_, ?_⟩
      · rw [List.filter_cons_of_neg (by simp [← hpaths])]
        exact hgroups
      · rw [hflat, List.map_nil, List.nil_append]
    · refine ⟨ofGroup settings number group pages :: sections, ?_, ?_, ?_⟩
      · have hsome : pages.isEmpty = false := by simpa using hempty
        simp only [Except.bind, hsome, Bool.false_eq_true, if_false, Logged.result_bind, hsections]
        rfl
      · rw [List.filter_cons_of_pos (by simpa [← hpaths] using hempty)]
        exact .cons ⟨isNumeral_number group pages, rfl, hempty, hpaths⟩ hgroups
      · rw [hflat, allPages, List.flatMap_cons, List.map_append]
        rfl

theorem mem_presentGroups {entry : NavGroup × Nat}
    (h : entry ∈ presentGroups tree settings dir number groups) :
    number ≤ entry.2 ∧ groups[entry.2 - number]? = some entry.1 :=
  List.mk_mem_zipIdx_iff_le_and_getElem?_sub.1 (List.mem_filter.1 h).1

theorem presentGroups_numbers (tree : FileTree) (settings : Settings) (dir : Path) (number : Nat)
    (groups : List NavGroup) :
    ((presentGroups tree settings dir number groups).map Prod.snd).Pairwise (· < ·) := by
  have hsublist := (List.filter_sublist (l := groups.zipIdx number)
    (p := fun entry => !(presentPaths tree settings dir entry.1.pages).isEmpty)).map Prod.snd
  refine List.Pairwise.sublist hsublist ?_
  rw [List.zipIdx_map_snd]
  exact List.pairwise_lt_range'

theorem presentGroups_names (number : Nat) (groups : List NavGroup) :
    ((presentGroups tree settings dir number groups).map fun entry => entry.1.name).Sublist
      (groups.map NavGroup.name) := by
  have hsublist := (List.filter_sublist (l := groups.zipIdx number)
    (p := fun entry => !(presentPaths tree settings dir entry.1.pages).isEmpty)).map
      fun entry => entry.1.name
  have hnames : (groups.zipIdx number).map (fun entry => entry.1.name) = groups.map NavGroup.name :=
    calc (groups.zipIdx number).map (fun entry => entry.1.name)
        = ((groups.zipIdx number).map Prod.fst).map NavGroup.name := (List.map_map ..).symm
      _ = groups.map NavGroup.name := by rw [List.zipIdx_map_fst]
  rwa [hnames] at hsublist

theorem titles_eq_names {entries : List (NavGroup × Nat)} {sections : List Section}
    (h : List.Forall₂ (IsOfGroup tree settings dir) entries sections) :
    sections.map title = entries.map fun entry => entry.1.name := by
  induction h with
  | nil => rfl
  | cons hpart _ ih => rw [List.map_cons, List.map_cons, ih, hpart.2.1]

theorem forall_pages_ne_nil {entries : List (NavGroup × Nat)} {sections : List Section}
    (h : List.Forall₂ (IsOfGroup tree settings dir) entries sections) :
    ∀ part ∈ sections, part.pages ≠ [] := by
  induction h with
  | nil => exact List.forall_mem_nil _
  | cons hpart _ ih => exact List.forall_mem_cons.2 ⟨hpart.2.2.1, ih⟩

/-- The sections keep the navigation. When every page file of the groups is text, the pages of the
sections are exactly the pages that there are among those referred to, in reading order and each as
often as it is referred to. No section is empty, the titles are names of groups in their order, and
each section has the number and the pages of its group: the numbers rise, and a group without a
section leaves its number out. -/
theorem ofGroups_keeps_navigation (tree : FileTree) (settings : Settings) (dir : Path)
    {groups : List NavGroup} {references : List Text}
    (hreferences : InReadingOrder (groups.map NavGroup.entry) references)
    (hread : ∀ reference ∈ references, tree.Readable (dir.child (pagePath settings reference))) :
    ∃ sections, (ofGroups tree settings dir groups).result = .ok sections ∧
      (allPages sections).map Page.path = presentPaths tree settings dir references ∧
      (∀ part ∈ sections, part.pages ≠ []) ∧
      (sections.map title).Sublist (groups.map NavGroup.name) ∧
      ∃ numbers : List Nat, numbers.Pairwise (· < ·) ∧
        List.Forall₂ (fun number part => IsNumeral number part.number ∧ 1 ≤ number ∧
          ∃ group own, groups[number - 1]? = some group ∧ part.title = group.name ∧
            InReadingOrder group.items own ∧
            part.pages.map Page.path = presentPaths tree settings dir own) numbers sections := by
  obtain rfl : references = groups.flatMap NavGroup.pages := by
    rw [← pagesOf_map_entry]
    exact hreferences.unique (inReadingOrder_pagesOf _)
  obtain ⟨sections, hsections, hgroups, hall⟩ := exists_ofGroupsFrom hread 1
  have hnumbers := presentGroups_numbers tree settings dir 1 groups
  have hnames : (sections.map title).Sublist (groups.map NavGroup.name) := by
    rw [titles_eq_names hgroups]
    exact presentGroups_names 1 groups
  refine ⟨sections, hsections, hall, forall_pages_ne_nil hgroups, hnames, _, hnumbers, ?_⟩
  rw [List.forall₂_map_left_iff]
  have hentries := (List.forall₂_and_left _ _).2 ⟨fun _ => mem_presentGroups, hgroups⟩
  refine hentries.imp fun entry part hentry => ?_
  obtain ⟨⟨hone, hgroup⟩, hnumeral, htitle, -, hpaths⟩ := hentry
  exact ⟨hnumeral, hone, entry.1, _, hgroup, htitle, inReadingOrder_pagesOf _, hpaths⟩

/-- Of three groups, one with a group inside it and one without any page, two have a section. A
page that is referred to twice stands in the book twice. -/
theorem ofGroups_keeps_navigation_gap :
    let tree : FileTree := .dir [("docs".toList,
      .dir [("a.mdx".toList, .file [104, 105]), ("b.mdx".toList, .file [104, 105])])]
    let settings := Settings.default (Path.parse "/tool".toList)
    let dir := Path.parse "/docs".toList
    let groups : List NavGroup := [
      ⟨"First".toList, [.page "/a".toList,
        .group "Inner".toList [.page "gone".toList, .page "b/".toList]]⟩,
      ⟨"Second".toList, [.page "gone".toList]⟩,
      ⟨"Third".toList, [.page "a".toList]⟩]
    let references := ["/a", "gone", "b/", "gone", "a"].map String.toList
    InReadingOrder (groups.map NavGroup.entry) references ∧
      (∀ reference ∈ references, tree.Readable (dir.child (pagePath settings reference))) ∧
      ∃ sections, (ofGroups tree settings dir groups).result = .ok sections ∧
        (allPages sections).map Page.path = ["a.mdx", "b.mdx", "a.mdx"].map String.toList := by
  intro tree settings dir groups references
  have hreferences : InReadingOrder (groups.map NavGroup.entry) references :=
    inReadingOrder_pagesOf (groups.map NavGroup.entry)
  have htext : Text.ofUtf8? [104, 105] = some "hi".toList := by
    with_unfolding_all rfl
  have hread : ∀ reference ∈ references,
      tree.Readable (dir.child (pagePath settings reference)) := by
    have hfile {path : Path} {found : Option FileTree} (hfound : tree.find? path = found)
        (h : found = none ∨ found = some (.file [104, 105])) : tree.Readable path := by
      intro bytes hbytes
      rw [hfound] at hbytes
      rcases h with rfl | rfl
      · cases hbytes
      · obtain rfl := FileTree.file.inj (Option.some.inj hbytes)
        rw [htext]
        exact Option.some_ne_none _
    simp only [references, List.map_cons, List.map_nil, List.forall_mem_cons]
    refine ⟨hfile rfl (.inr rfl), hfile rfl (.inl rfl), hfile rfl (.inr rfl),
      hfile rfl (.inl rfl), hfile rfl (.inr rfl), List.forall_mem_nil _⟩
  obtain ⟨sections, hsections, hpaths, -⟩ :=
    ofGroups_keeps_navigation tree settings dir hreferences hread
  exact ⟨hreferences, hread, sections, hsections, hpaths⟩

end Section

end Bindery
