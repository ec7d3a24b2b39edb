import Bindery.Proofs.Book.Labels
import Bindery.Proofs.Packages.Lexers
import Bindery.Proofs.Typeset.Comments
import Bindery.Proofs.Typst.Scan

namespace Bindery

open Typst Typst.Scan

/-- Both fail, and for the same reason, or both have results, which are related. -/
inductive Outcomes {ε α : Type} (R : α → α → Prop) : Except ε α → Except ε α → Prop
  | error (e : ε) : Outcomes R (.error e) (.error e)
  | ok {a b : α} (h : R a b) : Outcomes R (.ok a) (.ok b)

namespace Outcomes

variable {ε ε' α β : Type} {R : α → α → Prop} {S : β → β → Prop} {x y : Except ε α}

theorem refl (h : ∀ a, x = .ok a → R a a) : Outcomes R x x := by
  cases x with
  | error e => exact .error e
  | ok a => exact .ok (h a rfl)

theorem bind {f g : α → Except ε β} (h : Outcomes R x y)
    (hfg : ∀ a b, R a b → Outcomes S (f a) (g b)) : Outcomes S (x >>= f) (y >>= g) := by
  cases h with
  | error e => exact .error e
  | ok hab => exact hfg _ _ hab

theorem mapError (h : Outcomes R x y) (f : ε → ε') : Outcomes R (x.mapError f) (y.mapError f) := by
  cases h with
  | error e => exact .error (f e)
  | ok hab => exact .ok hab

end Outcomes

/-- The pages may only differ in their front matter. -/
structure Page.SameText (page other : Page) : Prop where
  path : page.path = other.path
  body : page.body = other.body

/-- The sections may only differ in their titles, in their descriptions and in the front matter of
    their pages. -/
structure Section.SameText (part other : Section) : Prop where
  number : part.number = other.number
  style : part.style = other.style
  pages : List.Forall₂ Page.SameText part.pages other.pages

/-- Nothing in the label of the page means anything to Typst. Neither is raw text in its body
    mistaken for what delimits it, nor do two pieces of a line meet in what opens a comment. -/
structure Page.IsReadable (context : Typeset.Context) (page : Page) : Prop where
  label : page.label.all isPlain = true
  delimited : ∀ n ∈ Markup.parse page.body, n.Delimited
  slashesApart : ∀ n ∈ Markup.parse page.body,
    n.EachLine Typeset.SlashesApart context context.env .full

namespace Book

open Typeset

theorem labels_eq_of_sameText {sections others : List Section}
    (h : List.Forall₂ Section.SameText sections others) : labels sections = labels others := by
  have hpages {pages others : List Page} (h : List.Forall₂ Page.SameText pages others) :
      pages.map Page.label = others.map Page.label := by
    induction h with
    | nil => rfl
    | cons hpage _ ih => rw [List.map_cons, List.map_cons, ih, Page.label, Page.label, hpage.path]
  induction h with
  | nil => rfl
  | cons hpart _ ih =>
    rw [labels] at ih ⊢
    rw [labels, Section.allPages, Section.allPages, List.flatMap_cons, List.flatMap_cons,
      List.map_append, List.map_append, hpages hpart.pages]
    exact congrArg _ ih

theorem agree_argument {stack : List Frame} {stage : Stage}
    (hstage : stage = .statement → stack ≠ []) (name : String)
    (hname : name.toList.all isArgument = true) (value other : Text) :
    Agree (inCode ⟨.list :: stack, .list⟩ stage) (argument name value) (argument name other)
      (inCode ⟨.list :: stack, .list⟩ stage) := by
  have hcode {s : Text} (hs : s.all isArgument = true) :=
    agree_of_read (read_arguments hstage hs)
  have hvalue := agree_literal stack stage value other
  exact ((((hcode (s := "  ".toList) rfl).append (hcode hname)).append
    (hcode (s := ": ".toList) rfl)).append hvalue).append (hcode (s := ",\n".toList) rfl)

/-- The code of the cover is the same whatever texts it has. -/
theorem agree_cover {settings other : Settings} (h : IsLine settings.title)
    (hother : IsLine other.title) (template : Text) :
    Agree (between .preamble) (cover settings template) (cover other template)
      (between .preamble) := by
  have hcomment : (between .preamble).read "// ".toList =
      some ("//".toList, ⟨Reader.start, .free, .other, .preamble, true⟩) := by
    with_unfolding_all rfl
  have hgenerated : (⟨Reader.start, .free, .other, .preamble, true⟩ : Scan).read
      "\n// Generated from Mintlify MDX sources by mdx-typst. Do not edit by hand.\n".toList =
        some ("\n//\n".toList, between .preamble) := by
    with_unfolding_all rfl
  have himport : (between .preamble).read "\n#import ".toList =
      some ("\n#import ".toList, inCode statementStart .statement) := by
    with_unfolding_all rfl
  have himported : (inCode statementStart .statement).read ": *\n".toList =
      some (": *\n".toList, between .preamble) := by
    with_unfolding_all rfl
  have hshow : (between .preamble).read "\n#show: docs-book.with(\n".toList =
      some ("\n#show: docs-book.with(\n".toList, inCode ⟨[.list, .list], .list⟩ .statement) := by
    with_unfolding_all rfl
  have hend : (inCode ⟨[.list, .list], .list⟩ .statement).read ")\n".toList =
      some (")\n".toList, between .preamble) := by
    with_unfolding_all rfl
  have hstack : Stage.statement = .statement → [Frame.list] ≠ [] := by decide
  have hargument := agree_argument hstack
  have htop := ((agree_of_read hcomment).append (agree_comment rfl h hother)).append
    (agree_of_read hgenerated)
  have htemplate := ((htop.append (agree_of_read himport)).append
    (agree_literal [] .statement template template)).append (agree_of_read himported)
  have htexts := ((htemplate.append (agree_of_read hshow)).append
    (hargument "title" rfl settings.title other.title)).append
    (hargument "subtitle" rfl settings.subtitle other.subtitle)
  exact (htexts.append (hargument "version" rfl settings.version other.version)).append
    (agree_of_read hend)

/-- The code of an introduction is the same whatever texts it has. -/
theorem agree_opening {stage : Stage} (hstage : stage ≠ .statement) (part other : Section) :
    Agree (between stage) (opening part) (opening other) (between .content) := by
  have hcall : (between stage).read "\n#section-break(\n".toList =
      some ("\n#section-break(\n".toList, inCode ⟨[.list], .list⟩ .content) := by
    cases stage with
    | statement => exact absurd rfl hstage
    | preamble => with_unfolding_all rfl
    | content => with_unfolding_all rfl
  have hend : (inCode ⟨[.list], .list⟩ .content).read ")\n".toList =
      some (")\n".toList, between .content) := by
    with_unfolding_all rfl
  have hcontent : Stage.content = .statement → ([] : List Frame) ≠ [] := by decide
  have hargument := agree_argument hcontent
  have htitles := ((agree_of_read hcall).append
    (hargument "number" rfl part.number other.number)).append
    (hargument "title" rfl part.title other.title)
  have htexts := (htitles.append
    (hargument "description" rfl part.description other.description)).append
    (hargument "style" rfl part.style other.style)
  exact htexts.append (agree_of_read hend)

/-- A page up to its label. -/
def beforeLabel (title : Text) : Text :=
  "\n#pagebreak(weak: true)\n= ".toList ++ escape title ++ " <".toList

/-- A title on one line shows nothing and does not end its heading. -/
theorem read_beforeLabel {title : Text} (h : IsLine title) :
    (between .content).read (beforeLabel title) =
      some ("\n#pagebreak(weak: true)\n= <".toList,
        ⟨Reader.start, .free, .other, .content, false⟩) := by
  have hopen : (between .content).read "\n#pagebreak(weak: true)\n= ".toList =
      some ("\n#pagebreak(weak: true)\n= ".toList, inHeading .markup .free) := by
    with_unfolding_all rfl
  obtain ⟨tail, htail, htitle⟩ := isHeadingText_escape h .free (.inl rfl)
  have hlabel : (inHeading .markup tail).read " <".toList =
      some ("<".toList, ⟨Reader.start, .free, .other, .content, false⟩) := by
    rcases htail with rfl | rfl <;> with_unfolding_all rfl
  exact read_append (read_append hopen htitle) hlabel

theorem quiet_label (w : Watch) {page : Page} (h : page.label.all isPlain = true) :
    Quiet w page.label := by
  refine quiet_of_plain w h fun hslash => ?_
  rw [Page.label, labelOf, replaceChar_slash, List.mem_map] at hslash
  obtain ⟨c, -, hc⟩ := hslash
  rw [labelChar] at hc
  split at hc
  · cases hc
  · contradiction

/-- A chapter as its title, the rest of the line and what comes below. -/
theorem chapter_eq_append (page : Page) (body : Text) : chapter page body =
    beforeLabel page.title ++ (page.label ++ ['>'] ++ ['\n']) ++
      if body.isEmpty then [] else '\n' :: body ++ ['\n'] := by
  have hend : ">\n".toList = ['>'] ++ ['\n'] := rfl
  unfold chapter beforeLabel
  simp only [hend, List.append_assoc]

/-- Pages with the same path and the same text differ in the text of their headings alone. -/
theorem agree_chapter {page other : Page} {body : Text} (hsame : page.SameText other)
    (h : IsLine page.title) (hother : IsLine other.title) (hlabel : page.label.all isPlain = true)
    (hbody : Quiet watchSlashes body) :
    Agree (between .content) (chapter page body) (chapter other body) (between .content) := by
  have hquiet : Quiet watchSlashes (page.label ++ ['>']) :=
    (quiet_label watchSlashes hlabel).append_right rfl
  have hwatch : watchSlashes .slash = true := rfl
  obtain ⟨k, hline⟩ := exists_read_line hwatch hquiet .other
  have hrest : Agree (between .content) (if body.isEmpty then [] else '\n' :: body ++ ['\n'])
      (if body.isEmpty then [] else '\n' :: body ++ ['\n']) (between .content) := by
    split
    · exact agree_of_read rfl
    · obtain ⟨l, hbody⟩ := exists_read_line hwatch hbody .margin
      have hgap : (between .content).step '\n' = some (between .content) := rfl
      exact agree_of_read (read_cons_of hgap hbody)
  have hsameLabel : other.label = page.label := by
    rw [Page.label, Page.label, hsame.path]
  have htitle : Agree (between .content) (beforeLabel page.title) (beforeLabel other.title)
      ⟨Reader.start, .free, .other, .content, false⟩ :=
    ⟨_, read_beforeLabel h, read_beforeLabel hother⟩
  rw [chapter_eq_append page, chapter_eq_append other, hsameLabel]
  exact (htitle.append (agree_of_read hline)).append hrest

variable {context : Context}

theorem outcomes_chapters (hlexers : context.lexers.Plain) {pages others : List Page}
    (h : List.Forall₂ Page.SameText pages others)
    (hpages : ∀ page ∈ pages, page.IsReadable context ∧ IsLine page.title)
    (hothers : ∀ page ∈ others, IsLine page.title) :
    Outcomes (fun s t => Agree (between .content) s t (between .content))
      (chapters context pages) (chapters context others) := by
  induction h with
  | nil => exact .ok (agree_of_read rfl)
  | @cons page other pages others hsame _ ih =>
    rw [List.forall_mem_cons] at hpages hothers
    obtain ⟨⟨hreadable, htitle⟩, hpages⟩ := hpages
    have hbody : Outcomes (fun s t => s = t ∧ Quiet watchSlashes s)
        (setPage context page.body) (setPage context page.body) :=
      .refl fun body hset =>
        ⟨rfl, quiet_setPage context hlexers hreadable.delimited hreadable.slashesApart hset⟩
    rw [chapters, chapters, ← hsame.body]
    refine hbody.bind ?_
    rintro body _ ⟨rfl, hquiet⟩
    refine (ih hpages hothers.2).bind fun rest rest' hrest => ?_
    exact .ok ((agree_chapter hsame htitle hothers.1 hreadable.label hquiet).append hrest)

theorem outcomes_parts (hlexers : context.lexers.Plain) {sections others : List Section}
    (h : List.Forall₂ Section.SameText sections others)
    (hpages : ∀ page ∈ Section.allPages sections, page.IsReadable context ∧ IsLine page.title)
    (hothers : ∀ page ∈ Section.allPages others, IsLine page.title) {stage : Stage}
    (hstage : stage ≠ .statement) :
    Outcomes (fun s t => ∃ stage', Agree (between stage) s t (between stage'))
      (parts context sections) (parts context others) := by
  induction h generalizing stage with
  | nil => exact .ok ⟨stage, agree_of_read rfl⟩
  | @cons part other sections others hsame _ ih =>
    rw [Section.allPages, List.flatMap_cons, List.forall_mem_append] at hpages hothers
    rw [parts, parts]
    refine (outcomes_chapters hlexers hsame.pages hpages.1 hothers.1).bind
      fun pages pages' hchapters => ?_
    have hcontent : Stage.content ≠ .statement := by decide
    refine (ih hpages.2 hothers.2 hcontent).bind ?_
    rintro rest rest' ⟨stage', hrest⟩
    exact .ok ⟨stage', ((agree_opening hstage part other).append hchapters).append hrest⟩

/-- Texts stay in their places. Two books that differ in the texts of the cover, in the titles and
the descriptions of sections and in the front matter of pages have the same code and the same markup
outside comments, strings and headings, if both books can be set at all: none of these texts ends
the comment, the string or the heading it is put in, whatever it consists of. The titles of covers
and of pages have to be one line each, and the pages readable. -/
theorem sameCode_source [lexers : Lexers] (hlexers : lexers.Plain) (settings : Settings)
    (title subtitle version : Text) (assets : Option Assets) {sections others : List Section}
    (h : List.Forall₂ Section.SameText sections others)
    (hcover : IsLine settings.title ∧ IsLine title)
    (hpages : ∀ page ∈ Section.allPages sections,
      page.IsReadable ⟨assets, labels sections⟩ ∧ IsLine page.title)
    (hothers : ∀ page ∈ Section.allPages others, IsLine page.title) :
    Outcomes SameCode (source settings assets sections)
      (source { settings with title := title, subtitle := subtitle, version := version }
        assets others) := by
  have hpreamble : Stage.preamble ≠ .statement := by decide
  have hparts := outcomes_parts hlexers h hpages hothers hpreamble
  have htemplate : Outcomes Eq (templateImport settings assets) (templateImport settings assets) :=
    .refl fun _ _ => rfl
  rw [source, source, ← labels_eq_of_sameText h]
  refine (hparts.mapError BookError.page).bind ?_
  rintro content content' ⟨stage, hcontent⟩
  refine (htemplate.mapError BookError.template).bind ?_
  rintro template _ rfl
  exact .ok (sameCode_of_agree ((agree_cover hcover.1 hcover.2 template).append hcontent))

/-- A book of one page without any text. -/
theorem source_of_empty [Lexers] (settings : Settings) (part : Section) (page : Page)
    (hpages : part.pages = [page]) (hbody : page.body = []) :
    source settings none [part] =
      .ok (cover settings settings.templatePath.text ++ (opening part ++ chapter page [])) := by
  have hset (context : Typeset.Context) : Typeset.setPage context [] = .ok [] := by
    with_unfolding_all rfl
  have hchapters (context : Context) : chapters context [page] = .ok (chapter page []) := by
    simp only [chapters, hbody, hset]
    exact congrArg Except.ok (List.append_nil _)
  have hparts (context : Context) :
      parts context [part] = .ok (opening part ++ chapter page []) := by
    simp only [parts, hpages, hchapters]
    exact congrArg Except.ok (List.append_nil _)
  simp only [source, hparts]
  rfl

/-- Quotes, brackets and backslashes on the cover and in the titles, with ends of lines in all texts
but the titles of the cover and of the page. -/
theorem sameCode_source_quoted :
    ∃ (settings : Settings) (sections others : List Section) (out out' : Text),
      source settings none sections = .ok out ∧
      source { settings with
        title := "\"]\\ #b".toList, subtitle := "\"\n#b".toList, version := "\\".toList }
        none others = .ok out' ∧ sections ≠ others ∧ SameCode out out' := by
  let settings := Settings.default ⟨.root, []⟩
  let page : Page := ⟨"p.mdx".toList, [], [("title".toList, "c".toList)]⟩
  let other : Page := ⟨"p.mdx".toList, [], [("title".toList, "#b(<]\\".toList)]⟩
  let part : Section := ⟨"01".toList, "a".toList, "b".toList, "dark".toList, [page]⟩
  let quoted : Section := ⟨"01".toList, "\")\n#b".toList, "\\".toList, "dark".toList, [other]⟩
  have hsame : List.Forall₂ Section.SameText [part] [quoted] :=
    .cons ⟨rfl, rfl, .cons ⟨rfl, rfl⟩ .nil⟩ .nil
  have hparse : Markup.parse [] = [] := by
    with_unfolding_all rfl
  have hreadable (context : Context) : page.IsReadable context := by
    refine ⟨by decide, fun n hn => ?_, fun n hn => ?_⟩
    · exact absurd (hparse ▸ hn) List.not_mem_nil
    · exact absurd (hparse ▸ hn) List.not_mem_nil
  have hpages : ∀ p ∈ Section.allPages [part],
      p.IsReadable ⟨none, labels [part]⟩ ∧ IsLine p.title := by
    intro p hp
    obtain rfl : p = page := List.mem_singleton.1 hp
    exact ⟨hreadable _, by decide⟩
  have hothers : ∀ p ∈ Section.allPages [quoted], IsLine p.title := by
    intro p hp
    obtain rfl : p = other := List.mem_singleton.1 hp
    decide
  have hcode := sameCode_source Packages.lexers_plain settings "\"]\\ #b".toList
    "\"\n#b".toList "\\".toList none hsame (by decide) hpages hothers
  have hout := source_of_empty settings part page rfl rfl
  have hout' := source_of_empty { settings with
    title := "\"]\\ #b".toList, subtitle := "\"\n#b".toList, version := "\\".toList }
    quoted other rfl rfl
  rw [hout, hout'] at hcode
  cases hcode with
  | ok hcode => exact ⟨settings, [part], [quoted], _, _, hout, hout', by decide, hcode⟩

/-- An end of a line in the title of the cover ends the comment that the title is put in, and what
follows is code. -/
theorem not_sameCode_cover (template : Text) {settings other : Settings}
    (h : settings.title = "a".toList) (hother : other.title = "a\n#b".toList) (s t : Text) :
    ¬SameCode (cover settings template ++ s) (cover other template ++ t) := by
  have hcover (settings : Settings) : ∃ rest, cover settings template =
      "// ".toList ++ settings.title ++ "\n//".toList ++ rest := by
    obtain ⟨note, hnote⟩ : ∃ note,
        "\n// Generated from Mintlify MDX sources by mdx-typst. Do not edit by hand.\n".toList =
          "\n//".toList ++ note := ⟨_, rfl⟩
    unfold cover
    simp only [hnote, List.append_assoc]
    exact ⟨_, rfl⟩
  have hplain : (between .preamble).read ("// ".toList ++ "a".toList ++ "\n//".toList) =
      some ("//\n//".toList, ⟨.start, .free, .other, .preamble, true⟩) := by
    with_unfolding_all rfl
  have hends : (between .preamble).read ("// ".toList ++ "a\n#b".toList ++ "\n//".toList) =
      some ("//\n#b\n//".toList, ⟨.start, .free, .other, .preamble, true⟩) := by
    with_unfolding_all rfl
  obtain ⟨rest, hrest⟩ := hcover settings
  obtain ⟨rest', hrest'⟩ := hcover other
  rw [hrest, hrest', h, hother, List.append_assoc _ rest, List.append_assoc _ rest']
  exact not_sameCode_of_read hplain hends (by decide)

/-- An end of a line in the title of a page ends the heading that the title is put in. -/
theorem not_sameCode_chapter (settings : Settings) (hcover : IsLine settings.title)
    (template : Text) (part : Section) {page other : Page} (h : page.title = "a".toList)
    (hother : other.title = "a\nb".toList) :
    ¬SameCode (cover settings template ++ (opening part ++ chapter page []))
      (cover settings template ++ (opening part ++ chapter other [])) := by
  have hplain := read_beforeLabel (show IsLine "a".toList by decide)
  have hends : (between .content).read (beforeLabel "a\nb".toList) =
      some ("\n#pagebreak(weak: true)\n= \nb <".toList,
        ⟨.start, .free, .other, .content, false⟩) := by
    with_unfolding_all rfl
  have hpreamble : Stage.preamble ≠ .statement := by decide
  obtain ⟨k, hread, -⟩ :=
    (agree_cover hcover hcover template).append (agree_opening hpreamble part part)
  have hsplit (page : Page) : cover settings template ++ (opening part ++ chapter page []) =
      cover settings template ++ opening part ++ beforeLabel page.title ++
        (page.label ++ ['>'] ++ ['\n']) := by
    rw [chapter_eq_append, if_pos List.isEmpty_nil, List.append_nil]
    simp only [List.append_assoc]
  rw [hsplit page, hsplit other, h, hother]
  refine not_sameCode_of_read (read_append hread hplain) (read_append hread hends) ?_
  rw [List.prefix_append_right_inj, List.prefix_append_right_inj]
  decide

/-- An end of a line in the title of the cover or of a page ends the comment or the heading that the
title is put in. -/
theorem exists_not_sameCode :
    (∃ (settings : Settings) (title out out' : Text), source settings none [] = .ok out ∧
      source { settings with title := title } none [] = .ok out' ∧ ¬SameCode out out') ∧
    ∃ (settings : Settings) (sections others : List Section) (out out' : Text),
      List.Forall₂ Section.SameText sections others ∧ source settings none sections = .ok out ∧
      source settings none others = .ok out' ∧ ¬SameCode out out' := by
  let settings : Settings := { Settings.default ⟨.root, []⟩ with title := "a".toList }
  let page (title : Text) : Page := ⟨"p.mdx".toList, [], [("title".toList, title)]⟩
  let part (title : Text) : Section := ⟨"01".toList, [], [], "dark".toList, [page title]⟩
  have hempty (settings : Settings) :
      source settings none [] = .ok (cover settings settings.templatePath.text ++ []) := rfl
  have hsame : List.Forall₂ Section.SameText [part "a".toList] [part "a\nb".toList] :=
    .cons ⟨rfl, rfl, .cons ⟨rfl, rfl⟩ .nil⟩ .nil
  refine ⟨⟨settings, "a\n#b".toList, _, _, hempty _, hempty _, ?_⟩, settings, [part "a".toList],
    [part "a\nb".toList], _, _, hsame, source_of_empty settings _ (page "a".toList) rfl rfl,
    source_of_empty settings _ (page "a\nb".toList) rfl rfl, ?_⟩
  · exact not_sameCode_cover _ rfl rfl [] []
  · exact not_sameCode_chapter settings (by decide) _ _ rfl rfl

end Book

end Bindery
