import Bindery.Book.Source
import Bindery.Packages.Lexers
import Bindery.Proofs.Text.Cutting
import Bindery.Proofs.Typeset.Setting

namespace Bindery

open Text

variable {s : Text}

namespace Url

/-- Characters that are dropped wherever they stand in a destination. -/
def isDropped (c : Char) : Bool :=
  c == '\t' || c == '\r' || c == '\n'

/-- A destination is read as it is written when it begins with a slash and holds nothing that is
    dropped. -/
theorem clean_slash (hs : ∀ c ∈ s, isDropped c = false) : clean ('/' :: s) = '/' :: s := by
  have hkept : ∀ c ∈ '/' :: s, (c != '\t' && c != '\r' && c != '\n') = true := by
    rw [List.forall_mem_cons]
    refine ⟨by decide, fun c hc => ?_⟩
    simpa [isDropped, and_assoc] using hs c hc
  rw [clean, List.dropWhile_cons_of_neg (by decide), List.filter_eq_self]
  exact hkept

/-- No scheme begins with a slash. -/
theorem cutScheme_slash (s : Text) : cutScheme ('/' :: s) = ([], '/' :: s) := by
  have hcut : cutAt? [':'] ('/' :: s) =
      (cutAt? [':'] s).map fun parts => ('/' :: parts.1, parts.2) := rfl
  rw [cutScheme, hcut]
  cases cutAt? [':'] s with
  | none => rfl
  | some parts => rfl

/-- A single slash opens no network location. -/
theorem cutLocation_slash (hs : s.head? ≠ some '/') : cutLocation ('/' :: s) = ([], '/' :: s) := by
  have hstart : afterStart? ['/', '/'] ('/' :: s) = none := by
    cases s with
    | nil => rfl
    | cons c s =>
      have hc : ¬('/' == c) = true := by
        rw [beq_iff_eq]
        rintro rfl
        exact hs rfl
      exact if_neg hc
  rw [cutLocation, hstart]

/-- A destination that begins with exactly one slash is a path on the site. -/
theorem parse_slash (hhead : s.head? ≠ some '/') (hs : ∀ c ∈ s, isDropped c = false) :
    parse ('/' :: s) = .ok ⟨[], [], cutPath ('/' :: s)⟩ := by
  rw [parse, clean_slash hs, cutScheme_slash]
  simp only [cutLocation_slash hhead]
  rfl

theorem kind_slash (hhead : s.head? ≠ some '/') (hs : ∀ c ∈ s, isDropped c = false) :
    kind ('/' :: s) = .ok .inside := by
  rw [kind, parse_slash hhead hs]
  rfl

/-- Characters that end a path. -/
def endsPath (c : Char) : Bool :=
  c == '#' || c == '?'

/-- Neither a query nor a fragment begins before the text that opens it. -/
theorem cutPath_append (hs : ∀ c ∈ s, endsPath c = false) (tail : Text) :
    cutPath (s ++ tail) = s ++ cutPath tail := by
  have hkept : ∀ c ∈ s, (c != '#') = true ∧ (c != '?') = true := fun c hc => by
    simpa [endsPath] using hs c hc
  rw [cutPath, List.takeWhile_append_of_pos fun c hc => (hkept c hc).1,
    List.takeWhile_append_of_pos fun c hc => (hkept c hc).2, cutPath]

theorem cutPath_query (query : Text) : cutPath ('?' :: query) = [] := by
  rw [cutPath, List.takeWhile_cons_of_pos (by decide), List.takeWhile_cons_of_neg (by decide)]

theorem cutPath_fragment (fragment : Text) : cutPath ('#' :: fragment) = [] := by
  rw [cutPath, List.takeWhile_cons_of_neg (by decide), List.takeWhile_nil]

end Url

/-- The text has no slash at either end. -/
def IsBare (s : Text) : Prop :=
  s.head? ≠ some '/' ∧ s.getLast? ≠ some '/'

theorem isBare_trimClass (s : Text) : IsBare (trimClass (· == '/') s) := by
  have hhead := head?_trimClass (· == '/') s
  have hlast := getLast?_dropEndWhile (· == '/') (s.dropWhile (· == '/'))
  constructor
  · intro h
    rw [h] at hhead
    cases hhead
  · intro h
    rw [trimClass] at h
    rw [h] at hlast
    cases hlast

theorem IsBare.trimClass_eq (hs : IsBare s) : trimClass (· == '/') s = s := by
  refine trimClass_eq_self ?_ ?_
  · cases hc : s.head? with
    | none => rfl
    | some c => simpa [hc] using hs.1
  · cases hc : s.getLast? with
    | none => rfl
    | some c => simpa [hc] using hs.2

theorem labelOf_slash (s : Text) : labelOf ('/' :: s) = labelOf s := by
  rw [labelOf, labelOf, trimClass, trimClass, List.dropWhile_cons_of_pos (by decide)]

theorem dropEnd_append (ending s : Text) : dropEnd ending (s ++ ending) = s := by
  rw [dropEnd, if_pos (List.isSuffixOf_iff_suffix.2 (List.suffix_append s ending)),
    List.length_append, Nat.add_sub_cancel, List.take_left]

theorem dropEnd_of_not_suffix {ending : Text} (h : ¬ending <:+ s) : dropEnd ending s = s := by
  rw [dropEnd, if_neg fun hsuffix => h (List.isSuffixOf_iff_suffix.1 hsuffix)]

/-- The extension makes no difference to a label. -/
theorem labelOf_append_extension (hs : IsBare s) (hne : s ≠ []) (h : ¬pageExtension <:+ s) :
    labelOf (s ++ pageExtension) = labelOf s := by
  have hbare : IsBare (s ++ pageExtension) := by
    have hlast : pageExtension.getLast? = some 'x' := rfl
    refine ⟨?_, by simp [hlast]⟩
    obtain ⟨c, t, rfl⟩ := List.exists_cons_of_ne_nil hne
    exact hs.1
  rw [labelOf, labelOf, hbare.trimClass_eq, hs.trimClass_eq, dropEnd_append,
    dropEnd_of_not_suffix h]

/-- The last dot of a path is the one of its extension. -/
theorem stem_append_extension (s : Text) : Page.stem (s ++ pageExtension) = s := by
  have hextension : pageExtension.reverse = "xdm".toList ++ ['.'] := rfl
  have hkept : ∀ c ∈ "xdm".toList, (c != '.') = true := List.all_eq_true.1 rfl
  rw [Page.stem, List.reverse_append, hextension, List.append_assoc,
    List.dropWhile_append_of_pos hkept, List.singleton_append,
    List.dropWhile_cons_of_neg (by decide), List.drop_one, List.tail_cons, List.reverse_reverse]

theorem label_of_path {page : Page} (hpath : page.path = s ++ pageExtension) (hne : s ≠ []) :
    page.label = labelOf s := by
  rw [Page.label, hpath, stem_append_extension, if_neg (by simpa using hne)]

/-- The line with the title and the label of a page. -/
def Page.heading (page : Page) : Text :=
  "= ".toList ++ Typst.escape page.title ++ " <".toList ++ page.label ++ ">\n".toList

namespace Book

open Typeset

variable {context : Context} {page : Page} {out : Text}

/-- A chapter is a page break, the heading of its page and the body. -/
theorem chapter_eq (page : Page) (body : Text) :
    chapter page body = "\n#pagebreak(weak: true)\n".toList ++ page.heading ++
      if body.isEmpty then [] else '\n' :: body ++ ['\n'] := by
  unfold chapter Page.heading
  simp

theorem heading_infix_chapter (page : Page) (body : Text) : page.heading <:+: chapter page body :=
  ⟨_, _, (chapter_eq page body).symm⟩

theorem heading_infix_chapters {pages : List Page} (h : chapters context pages = .ok out)
    (hpage : page ∈ pages) : page.heading <:+: out := by
  induction pages generalizing out with
  | nil => exact absurd hpage List.not_mem_nil
  | cons first rest ih =>
    rw [chapters] at h
    obtain ⟨body, -, h⟩ := bind_eq_ok_iff.1 h
    obtain ⟨others, hothers, h⟩ := bind_eq_ok_iff.1 h
    rw [← pure_eq_ok_iff.1 h]
    rcases List.mem_cons.1 hpage with rfl | hpage
    · exact (heading_infix_chapter page body).trans (List.prefix_append _ _).isInfix
    · exact (ih hothers hpage).trans (List.suffix_append _ _).isInfix

theorem heading_infix_parts {sections : List Section} (h : parts context sections = .ok out)
    (hpage : page ∈ Section.allPages sections) : page.heading <:+: out := by
  induction sections generalizing out with
  | nil => exact absurd hpage List.not_mem_nil
  | cons first rest ih =>
    rw [parts] at h
    obtain ⟨pages, hpages, h⟩ := bind_eq_ok_iff.1 h
    obtain ⟨others, hothers, h⟩ := bind_eq_ok_iff.1 h
    rw [← pure_eq_ok_iff.1 h]
    rw [Section.allPages, List.flatMap_cons] at hpage
    rcases List.mem_append.1 hpage with hpage | hpage
    · refine (heading_infix_chapters hpages hpage).trans ?_
      exact (List.suffix_append _ _).isInfix.trans (List.prefix_append _ _).isInfix
    · exact (ih hothers hpage).trans (List.suffix_append _ _).isInfix

/-- Every page of a book has its heading in the source. -/
theorem heading_infix_source [Typst.Lexers] {settings : Settings} {assets : Option Assets}
    {sections : List Section} (h : source settings assets sections = .ok out)
    (hpage : page ∈ Section.allPages sections) : page.heading <:+: out := by
  obtain ⟨content, hcontent, h⟩ := bind_eq_ok_iff.1 h
  obtain ⟨template, -, h⟩ := bind_eq_ok_iff.1 h
  rw [← pure_eq_ok_iff.1 h]
  exact (heading_infix_parts (mapError_eq_ok_iff.1 hcontent) hpage).trans
    (List.suffix_append _ _).isInfix

/-- The destinations that mean the page of the given name: its place on the site, with a fragment,
    with a query, or with the extension where the name does not end with it itself. -/
inductive Means (name : Text) : Text → Prop
  | plain : Means name ('/' :: name)
  | fragment {f : Text} (hf : ∀ c ∈ f, Url.isDropped c = false) :
    Means name ('/' :: (name ++ '#' :: f))
  | query {q : Text} (hq : ∀ c ∈ q, Url.isDropped c = false ∧ c ≠ '#') :
    Means name ('/' :: (name ++ '?' :: q))
  | extension (h : ¬pageExtension <:+ name) : Means name ('/' :: (name ++ pageExtension))

/-- A reference on the site leads to the page whose label its path gives, if there is one. -/
theorem resolveLabel_slash (hhead : s.head? ≠ some '/') (hs : ∀ c ∈ s, Url.isDropped c = false)
    (hlabel : labelOf (Url.cutPath ('/' :: s)) ∈ context.labels) :
    context.resolveLabel ('/' :: s) = .ok (some (labelOf (Url.cutPath ('/' :: s)))) := by
  rw [Context.resolveLabel, Url.kind_slash hhead hs, Url.parse_slash hhead hs]
  simp [bind, Except.bind, pure, Except.pure, hlabel]

theorem mem_labels_of_resolveLabel {href label : Text}
    (h : context.resolveLabel href = .ok (some label)) : label ∈ context.labels := by
  rw [Context.resolveLabel] at h
  split at h
  · cases h
  · obtain ⟨kind, -, h⟩ := bind_eq_ok_iff.1 h
    split at h
    · cases h
    · obtain ⟨url, -, h⟩ := bind_eq_ok_iff.1 h
      rw [pure_eq_ok_iff] at h
      split at h
      · next hlabel => exact Option.some.inj h ▸ List.contains_iff_mem.1 hlabel
      · cases h

/-- Whatever means the page of a name leads to the label of the name. -/
theorem resolveLabel_of_means {name href : Text} (hbare : IsBare name) (hne : name ≠ [])
    (hname : ∀ c ∈ name, Url.isDropped c = false ∧ Url.endsPath c = false)
    (hhref : Means name href) (hlabel : labelOf name ∈ context.labels) :
    context.resolveLabel href = .ok (some (labelOf name)) := by
  have hhead (tail : Text) : (name ++ tail).head? ≠ some '/' := by
    obtain ⟨c, t, rfl⟩ := List.exists_cons_of_ne_nil hne
    exact hbare.1
  have hpath (tail : Text) : Url.cutPath ('/' :: (name ++ tail)) =
      '/' :: name ++ Url.cutPath tail := by
    refine Url.cutPath_append (s := '/' :: name) ?_ tail
    rw [List.forall_mem_cons]
    exact ⟨rfl, fun c hc => (hname c hc).2⟩
  have hdropped {tail : Text} (htail : ∀ c ∈ tail, Url.isDropped c = false) :
      ∀ c ∈ name ++ tail, Url.isDropped c = false :=
    List.forall_mem_append.2 ⟨fun c hc => (hname c hc).1, htail⟩
  have hfound (tail : Text) (htail : ∀ c ∈ tail, Url.isDropped c = false)
      (heq : labelOf (name ++ Url.cutPath tail) = labelOf name) :
      context.resolveLabel ('/' :: (name ++ tail)) = .ok (some (labelOf name)) := by
    have hsame : labelOf (Url.cutPath ('/' :: (name ++ tail))) = labelOf name := by
      rw [hpath, List.cons_append, labelOf_slash, heq]
    rw [← hsame]
    exact resolveLabel_slash (hhead tail) (hdropped htail) (hsame ▸ hlabel)
  cases hhref with
  | plain =>
    have hplain := hfound [] (by simp) (by rw [Url.cutPath]; simp)
    simpa using hplain
  | @fragment f hf =>
    refine hfound _ ?_ (by rw [Url.cutPath_fragment, List.append_nil])
    exact List.forall_mem_cons.2 ⟨rfl, hf⟩
  | @query q hq =>
    refine hfound _ ?_ (by rw [Url.cutPath_query, List.append_nil])
    exact List.forall_mem_cons.2 ⟨rfl, fun c hc => (hq c hc).1⟩
  | extension h =>
    have hplain : ∀ c ∈ pageExtension, (!Url.isDropped c) = true := List.all_eq_true.1 rfl
    refine hfound _ (fun c hc => by simpa using hplain c hc) ?_
    have hkept : Url.cutPath pageExtension = pageExtension := rfl
    rw [hkept, labelOf_append_extension hbare hne h]

/-- A card finds its page: every page is found by each destination that means the reference it is
read by, and is found under its own label. Whatever label is found is that of a page of the book,
and the book has a heading with it. -/
theorem resolveLabel_pages [Typst.Lexers] (settings : Settings)
    (hextension : settings.sourceExtension = pageExtension) (assets : Option Assets)
    (sections : List Section) :
    (∀ page ∈ Section.allPages sections, ∀ reference name, name = trimClass (· == '/') reference →
      page.path = Section.pagePath settings reference → name ≠ [] →
      (∀ c ∈ name, Url.isDropped c = false ∧ Url.endsPath c = false) → ∀ href, Means name href →
        Context.resolveLabel ⟨assets, labels sections⟩ href = .ok (some page.label)) ∧
    ∀ href label, Context.resolveLabel ⟨assets, labels sections⟩ href = .ok (some label) →
      ∃ page ∈ Section.allPages sections, page.label = label ∧
        ∀ settings out, source settings assets sections = .ok out → page.heading <:+: out := by
  constructor
  · rintro page hpage reference _ rfl hpath hne hname href hhref
    rw [Section.pagePath, hextension] at hpath
    have hlabel := label_of_path hpath hne
    rw [hlabel]
    refine resolveLabel_of_means (isBare_trimClass reference) hne hname hhref ?_
    exact hlabel ▸ List.mem_map_of_mem hpage
  · intro href label h
    obtain ⟨page, hpage, hlabel⟩ := List.mem_map.1 (mem_labels_of_resolveLabel h)
    exact ⟨page, hpage, hlabel, fun _ _ hsource => heading_infix_source hsource hpage⟩

/-- A page whose name has a dot, named by a reference with slashes at both ends, is found with a
query and with the extension. -/
theorem resolveLabel_pages_dotted :
    let page : Page := ⟨"guide/v1.2.mdx".toList, [], []⟩
    let sections : List Section := [⟨"01".toList, [], [], [], [page]⟩]
    page.path = Section.pagePath (Settings.default ⟨.root, []⟩) "/guide/v1.2/".toList ∧
      Context.resolveLabel ⟨none, labels sections⟩ "/guide/v1.2?tab=a/b".toList =
        .ok (some "guide-v1.2".toList) ∧
      Context.resolveLabel ⟨none, labels sections⟩ "/guide/v1.2.mdx".toList =
        .ok (some "guide-v1.2".toList) := by
  intro page sections
  have hlabel : page.label = "guide-v1.2".toList := by decide
  have hpath : page.path =
      Section.pagePath (Settings.default ⟨.root, []⟩) "/guide/v1.2/".toList := by decide
  have hname : ∀ c ∈ "guide/v1.2".toList, (!Url.isDropped c && !Url.endsPath c) = true :=
    List.all_eq_true.1 rfl
  have hquery : ∀ c ∈ "tab=a/b".toList, (!Url.isDropped c && c != '#') = true :=
    List.all_eq_true.1 rfl
  have hfound (href : Text) (hhref : Means "guide/v1.2".toList href) :
      Context.resolveLabel ⟨none, labels sections⟩ href = .ok (some page.label) :=
    (resolveLabel_pages (Settings.default ⟨.root, []⟩) rfl none sections).1 page
      List.mem_cons_self "/guide/v1.2/".toList _ (by decide) hpath (by decide)
      (fun c hc => by simpa using hname c hc) href hhref
  rw [← hlabel]
  exact ⟨hpath, hfound _ (.query (q := "tab=a/b".toList) fun c hc => by simpa using hquery c hc),
    hfound _ (.extension (by decide))⟩

end Book

end Bindery
