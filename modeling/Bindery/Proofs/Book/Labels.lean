import Bindery.Proofs.Book.References
import Mathlib.Data.List.Forall2

namespace Bindery

open Text

variable {s t : Text}

/-- The characters are the same, or one is a slash and the other a hyphen. -/
def Alike (c d : Char) : Prop :=
  c = d ∨ (c = '/' ∧ d = '-') ∨ (c = '-' ∧ d = '/')

/-- A character as a label has it. -/
def labelChar (c : Char) : Char :=
  if c = '/' then '-' else c

theorem labelChar_eq_iff (c d : Char) : labelChar c = labelChar d ↔ Alike c d := by
  unfold labelChar Alike
  by_cases hc : c = '/'
  · by_cases hd : d = '/'
    · simp [hc, hd]
    · simp only [hc, hd, if_true, if_false, true_and, and_false, or_false]
      rw [eq_comm, or_iff_right (Ne.symm hd)]
  · by_cases hd : d = '/'
    · simp [hc, hd]
    · simp [hc, hd]

theorem replaceChar_slash (s : Text) : replaceChar '/' ['-'] s = s.map labelChar := by
  induction s with
  | nil => rfl
  | cons c s ih =>
    rw [replaceChar] at ih
    rw [replaceChar, List.flatMap_cons, ih, List.map_cons, labelChar]
    by_cases hc : c = '/'
    · rw [if_pos (beq_iff_eq.2 hc), if_pos hc, List.singleton_append]
    · rw [if_neg (mt beq_iff_eq.1 hc), if_neg hc, List.singleton_append]

theorem replaceChar_slash_eq_iff :
    replaceChar '/' ['-'] s = replaceChar '/' ['-'] t ↔ List.Forall₂ Alike s t := by
  rw [replaceChar_slash, replaceChar_slash, ← List.forall₂_eq_eq_eq, List.forall₂_map_left_iff,
    List.forall₂_map_right_iff]
  simp only [labelChar_eq_iff]

/-- Texts without hyphens are alike only when they are the same. -/
theorem eq_of_alike (h : List.Forall₂ Alike s t) (hs : '-' ∉ s) (ht : '-' ∉ t) : s = t := by
  induction h with
  | nil => rfl
  | @cons c d s t hfirst _ ih =>
    rw [List.mem_cons, not_or] at hs ht
    rcases hfirst with rfl | ⟨-, rfl⟩ | ⟨rfl, -⟩
    · rw [ih hs.2 ht.2]
    · exact absurd rfl ht.1
    · exact absurd rfl hs.1

namespace Page

/-- The path of a page without its extension, as far as anything is left of it. -/
def name (page : Page) : Text :=
  if (stem page.path).isEmpty then page.path else stem page.path

/-- What the path of a page has after its name. -/
def extension (page : Page) : Text :=
  page.path.drop page.name.length

theorem stem_prefix (path : Text) : stem path <+: path := by
  rw [stem, ← List.reverse_suffix, List.reverse_reverse]
  exact (List.drop_suffix 1 _).trans (List.dropWhile_suffix _)

theorem name_append_extension (page : Page) : page.name ++ page.extension = page.path := by
  have hprefix : page.name <+: page.path := by
    rw [name]
    split
    · exact List.prefix_rfl
    · exact stem_prefix page.path
  rw [extension]
  exact (List.prefix_iff_eq_append.1 hprefix)

/-- What of the name of a page its label shows. -/
def shown (page : Page) : Text :=
  dropEnd pageExtension (trimClass (· == '/') page.name)

/-- Pages share a label when their labels show names that are alike. -/
theorem label_eq_label_iff (page other : Page) :
    page.label = other.label ↔ List.Forall₂ Alike page.shown other.shown :=
  replaceChar_slash_eq_iff

/-- The label shows all of the name: that has no slash at either end, and does not itself end with
    the extension of pages. -/
def HasPlainName (page : Page) : Prop :=
  IsBare page.name ∧ ¬pageExtension <:+ page.name

theorem HasPlainName.shown_eq {page : Page} (h : page.HasPlainName) : page.shown = page.name := by
  rw [shown, h.1.trimClass_eq, dropEnd_of_not_suffix h.2]

end Page

namespace Book

/-- A section of two pages without any text can be set. -/
theorem exists_source_of_empty [Typst.Lexers] (page other : Page) (hpage : page.body = [])
    (hother : other.body = []) : ∃ out, source (Settings.default ⟨.root, []⟩) none
      [⟨"01".toList, [], [], [], [page, other]⟩] = .ok out := by
  have hbody (context : Typeset.Context) : Typeset.setPage context [] = .ok [] := by
    with_unfolding_all rfl
  simp only [source, parts, chapters, hpage, hother, hbody]
  exact ⟨_, rfl⟩

/-- Labels identify pages up to slashes and hyphens. Two pages of a book with different paths have a
heading each, with different labels unless what the labels show of their names is alike. Where that
is the whole of the names, the labels are the same exactly when the names are alike, and never when
the extensions are the same and no hyphen is in the names. -/
theorem label_eq_iff_of_source [Typst.Lexers] {settings : Settings} {assets : Option Assets}
    {sections : List Section} {out : Text} (hsource : source settings assets sections = .ok out)
    {page other : Page} (hpage : page ∈ Section.allPages sections)
    (hother : other ∈ Section.allPages sections) (hpath : page.path ≠ other.path) :
    page.heading <:+: out ∧ other.heading <:+: out ∧
      (¬List.Forall₂ Alike page.shown other.shown → page.label ≠ other.label) ∧
      (page.HasPlainName → other.HasPlainName →
        (page.label = other.label ↔ List.Forall₂ Alike page.name other.name) ∧
        (page.extension = other.extension → '-' ∉ page.name → '-' ∉ other.name →
          page.label ≠ other.label)) := by
  refine ⟨heading_infix_source hsource hpage, heading_infix_source hsource hother, ?_, ?_⟩
  · exact mt (Page.label_eq_label_iff page other).1
  · intro hplain hplain'
    have hiff := Page.label_eq_label_iff page other
    rw [hplain.shown_eq, hplain'.shown_eq] at hiff
    refine ⟨hiff, fun hextension hhyphen hhyphen' hlabel => hpath ?_⟩
    have hname : page.name = other.name := eq_of_alike (hiff.1 hlabel) hhyphen hhyphen'
    calc page.path = page.name ++ page.extension := page.name_append_extension.symm
      _ = other.name ++ other.extension := by rw [hname, hextension]
      _ = other.path := other.name_append_extension

/-- Two pages of one directory whose names have no hyphen. -/
theorem label_eq_iff_of_source_siblings :
    ∃ (settings : Settings) (sections : List Section) (out : Text) (page other : Page),
      source settings none sections = .ok out ∧ page ∈ Section.allPages sections ∧
      other ∈ Section.allPages sections ∧ page.extension = other.extension ∧
      page.path ≠ other.path ∧ page.heading <:+: out ∧ other.heading <:+: out ∧
      page.label ≠ other.label := by
  let page : Page := ⟨"guide/a.mdx".toList, [], []⟩
  let other : Page := ⟨"guide/a.b.mdx".toList, [], []⟩
  let sections : List Section := [⟨"01".toList, [], [], [], [page, other]⟩]
  obtain ⟨out, hout⟩ := exists_source_of_empty page other rfl rfl
  have hpage : page ∈ Section.allPages sections := List.mem_cons_self
  have hother : other ∈ Section.allPages sections := List.mem_cons_of_mem _ List.mem_cons_self
  have hextension : page.extension = other.extension := by decide
  have hpath : page.path ≠ other.path := by decide
  have hplain : page.HasPlainName := ⟨⟨by decide, by decide⟩, by decide⟩
  have hplain' : other.HasPlainName := ⟨⟨by decide, by decide⟩, by decide⟩
  have hlabels := label_eq_iff_of_source hout hpage hother hpath
  refine ⟨_, sections, out, page, other, hout, hpage, hother, hextension, hpath, hlabels.1,
    hlabels.2.1, ?_⟩
  exact (hlabels.2.2.2 hplain hplain').2 hextension (by decide) (by decide)

/-- A page in a directory and one beside it whose name has the hyphen that a label writes for the
    slash. -/
theorem exists_label_eq_label :
    ∃ (settings : Settings) (sections : List Section) (out : Text) (page other : Page),
      source settings none sections = .ok out ∧ page ∈ Section.allPages sections ∧
      other ∈ Section.allPages sections ∧ page.path ≠ other.path ∧
      page.extension = other.extension ∧ page.heading <:+: out ∧ other.heading <:+: out ∧
      page.label = other.label := by
  let page : Page := ⟨"a/b.mdx".toList, [], []⟩
  let other : Page := ⟨"a-b.mdx".toList, [], []⟩
  let sections : List Section := [⟨"01".toList, [], [], [], [page, other]⟩]
  obtain ⟨out, hout⟩ := exists_source_of_empty page other rfl rfl
  have hpage : page ∈ Section.allPages sections := List.mem_cons_self
  have hother : other ∈ Section.allPages sections := List.mem_cons_of_mem _ List.mem_cons_self
  exact ⟨_, sections, out, page, other, hout, hpage, hother, by decide, by decide,
    heading_infix_source hout hpage, heading_infix_source hout hother, by decide⟩

end Book

end Bindery
