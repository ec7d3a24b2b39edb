import Bindery.Book.Source
import Bindery.Packages.Lexers
import Bindery.Proofs.Typeset.Asked
import Bindery.Proofs.Typeset.Lines

namespace Bindery

open Text Typeset

/-- The node stands among the nodes at any depth, or among those that the text of a link is read as
    that is reached itself. -/
inductive Node.Reached (n : Node) : List Node → Prop
  | among {nodes : List Node} (h : n.Among nodes) : Reached n nodes
  | linked {nodes : List Node} {t url : Text} (hlink : (Node.link t url).Among nodes)
    (h : Reached n (Markup.parseInline t)) : Reached n nodes

namespace Typeset

/-- The label is the one that a card in a grid leads to. -/
inductive AsksFor (nodes : List Node) : Text → Prop
  | card {n : Node} {href : Text} {url : Url} (hn : n.Reached nodes) (hhref : href ∈ gridLinks n)
    (hurl : Url.parse href = .ok url) : AsksFor nodes (labelOf url.path)

theorem AsksFor.of_link {nodes : List Node} {t url label : Text}
    (hlink : (Node.link t url).Among nodes) (h : AsksFor (Markup.parseInline t) label) :
    AsksFor nodes label := by
  cases h with
  | card hn hhref hurl => exact .card (.linked hlink hn) hhref hurl

variable {assets : Option Assets} {labels labels' : List Text}

/-- A reference looks up no label but its own. -/
theorem resolveLabel_eq_of_iff [Typst.Lexers] {href : Text}
    (h : ∀ url, Url.parse href = .ok url →
      (labelOf url.path ∈ labels ↔ labelOf url.path ∈ labels')) :
    Context.resolveLabel ⟨assets, labels⟩ href = Context.resolveLabel ⟨assets, labels'⟩ href := by
  rw [Context.resolveLabel, Context.resolveLabel]
  cases hurl : Url.parse href with
  | error cause => rfl
  | ok url =>
    have hknown : labels.contains (labelOf url.path) = labels'.contains (labelOf url.path) := by
      rw [Bool.eq_iff_iff, List.contains_iff_mem, List.contains_iff_mem]
      exact h url hurl
    simp only [bind, Except.bind, hknown]

theorem agreesOn_of_labels [Typst.Lexers] {nodes : List Node} {env env' : Env}
    (hcontext : env.context = ⟨assets, labels⟩) (hcontext' : env'.context = ⟨assets, labels'⟩)
    (hlabels : ∀ label, AsksFor nodes label → (label ∈ labels ↔ label ∈ labels'))
    (hlinks : ∀ t url, (Node.link t url).Among nodes → env.linkText t = env'.linkText t) :
    env.AgreesOn env' nodes where
  assets := by rw [hcontext, hcontext']
  lexers := by rw [hcontext, hcontext']
  linkText := hlinks
  label n hn href hhref := by
    rw [hcontext, hcontext']
    exact resolveLabel_eq_of_iff fun url hurl => hlabels _ (.card (.among hn) hhref hurl)

/-- The induction is on the length of the text, since the links inside have shorter texts. -/
theorem setLinkText_eq_of_labels [Typst.Lexers] {t : Text}
    (h : ∀ label, AsksFor (Markup.parseInline t) label → (label ∈ labels ↔ label ∈ labels')) :
    setLinkText ⟨assets, labels⟩ t = setLinkText ⟨assets, labels'⟩ t := by
  induction hlength : t.length using Nat.strongRecOn generalizing t with
  | ind length ih =>
    have hagrees : (Context.linkEnv ⟨assets, labels⟩ t).AgreesOn
        (Context.linkEnv ⟨assets, labels'⟩ t) (Markup.parseInline t) := by
      refine agreesOn_of_labels rfl rfl h fun inner url hlink => ?_
      simp only [Context.linkEnv]
      split
      · next hshorter =>
        have hinner := fun label hasks => h label (.of_link hlink hasks)
        exact ih inner.length (hlength ▸ hshorter) hinner rfl
      · rfl
    rw [setLinkText_eq, setLinkText_eq, setNodes_eq_of_agreesOn hagrees]

theorem setPage_eq_of_labels [Typst.Lexers] {page : Text}
    (h : ∀ label, AsksFor (Markup.parse page) label → (label ∈ labels ↔ label ∈ labels')) :
    setPage ⟨assets, labels⟩ page = setPage ⟨assets, labels'⟩ page := by
  have hagrees : (Context.env ⟨assets, labels⟩).AgreesOn (Context.env ⟨assets, labels'⟩)
      (Markup.parse page) :=
    agreesOn_of_labels rfl rfl h fun t url hlink =>
      setLinkText_eq_of_labels fun label hasks => h label (.of_link hlink hasks)
  rw [setPage, setPage, setBlocks, setBlocks, setNodes_eq_of_agreesOn hagrees]

end Typeset

namespace Book

/-- A label that no page has in only one of the books is known in both or in neither. -/
theorem mem_labels_iff_of_pages {sections others : List Section} {label : Text}
    (h : ∀ page, page.label = label →
      (page ∈ Section.allPages sections ↔ page ∈ Section.allPages others)) :
    label ∈ labels sections ↔ label ∈ labels others := by
  rw [labels, labels, List.mem_map, List.mem_map]
  exact exists_congr fun page => and_congr_left (h page)

theorem chapters_eq_of_setPage {context context' : Context} {pages : List Page}
    (h : ∀ page ∈ pages, setPage context page.body = setPage context' page.body) :
    chapters context pages = chapters context' pages := by
  induction pages with
  | nil => rfl
  | cons page pages ih =>
    rw [List.forall_mem_cons] at h
    rw [chapters, chapters, h.1, ih h.2]

/-- Known labels only matter to the grids of cards. With labels that agree on what the cards of its
grids lead to, a page comes out the same, be it its text or the reason why it cannot be set. So the
chapters of pages are the same in two books that may differ in all pages that those do not ask
for. -/
theorem labels_matter_to_grids [Typst.Lexers] (assets : Option Assets) :
    (∀ (page : Text) (known known' : List Text),
      (∀ label, AsksFor (Markup.parse page) label → (label ∈ known ↔ label ∈ known')) →
        setPage ⟨assets, known⟩ page = setPage ⟨assets, known'⟩ page) ∧
    ∀ (pages : List Page) (sections others : List Section),
      (∀ page ∈ pages, ∀ other : Page, AsksFor (Markup.parse page.body) other.label →
        (other ∈ Section.allPages sections ↔ other ∈ Section.allPages others)) →
      chapters ⟨assets, labels sections⟩ pages = chapters ⟨assets, labels others⟩ pages := by
  refine ⟨fun page known known' h => setPage_eq_of_labels h, fun pages sections others h => ?_⟩
  refine chapters_eq_of_setPage fun page hpage => setPage_eq_of_labels fun label hasks => ?_
  exact mem_labels_iff_of_pages fun other hother => h page hpage other (hother.symm ▸ hasks)

set_option maxRecDepth 4000 in
/-- A page with one card, which leads to `a` and holds a link to `c`. It is the same whether the
    book has `c`, and another one when the book has `a`. -/
theorem labels_matter_to_grids_card :
    ∃ page linked : Page, AsksFor (Markup.parse page.body) "a".toList ∧
      linked.label = "c".toList ∧
      chapters ⟨none, labels [⟨[], [], [], [], [page, linked]⟩]⟩ [page] =
        chapters ⟨none, labels [⟨[], [], [], [], [page]⟩]⟩ [page] ∧
      setPage ⟨none, ["c".toList]⟩ page.body = setPage ⟨none, []⟩ page.body ∧
      setPage ⟨none, ["a".toList]⟩ page.body ≠ setPage ⟨none, []⟩ page.body := by
  let body := "<Columns>\n<Card href=\"/a\">[b](/c)</Card>\n</Columns>".toList
  let page : Page := ⟨"p.mdx".toList, body, []⟩
  let linked : Page := ⟨"c.mdx".toList, [], []⟩
  let link : Node := .link "b".toList "/c".toList
  let card : Node :=
    .element "Card".toList [("href".toList, "/a".toList)] [.paragraph [link]] true
  let grid : Node := .element "Columns".toList [] [.blank, card] true
  have hparse : Markup.parse body = [grid] := by with_unfolding_all rfl
  have htext : Markup.parseInline "b".toList = [.text "b".toList] := by with_unfolding_all rfl
  have hurl : Url.parse "/a".toList = .ok ⟨[], [], "/a".toList⟩ := by with_unfolding_all rfl
  have hlinks : gridLinks grid = ["/a".toList] := by decide
  have hasks : AsksFor (Markup.parse page.body) "a".toList :=
    .card (n := grid) (.among (.here (by simp [page, hparse]))) (by simp [hlinks]) hurl
  have hhref : ∀ n : Node, n.Reached [grid] → ∀ href ∈ gridLinks n, href = "/a".toList := by
    intro n hn
    cases hn with
    | among hn =>
      simp only [Node.among_cons_iff, Node.not_among_nil, or_false, Node.inner, grid, card, link]
        at hn
      rcases hn with rfl | rfl | rfl | rfl | rfl <;> decide
    | linked hlink hn =>
      simp only [Node.among_cons_iff, Node.not_among_nil, or_false, Node.inner, grid, card, link,
        reduceCtorEq, false_or, Node.link.injEq] at hlink
      rw [hlink.1, htext] at hn
      cases hn with
      | among hn =>
        simp only [Node.among_cons_iff, Node.not_among_nil, or_false, Node.inner] at hn
        subst hn
        decide
      | linked hlink hn =>
        simp [Node.among_cons_iff, Node.inner] at hlink
  have honly : ∀ label, AsksFor (Markup.parse page.body) label → label = "a".toList := by
    rintro _ ⟨hn, hmem, hread⟩
    simp only [page, hparse] at hn
    rw [hhref _ hn _ hmem, hurl] at hread
    exact Except.ok.inj hread ▸ rfl
  have hsame := (labels_matter_to_grids none).1 body ["c".toList] [] fun label hlabel => by
    rw [honly label hlabel]
    decide
  have hbooks := (labels_matter_to_grids none).2 [page] [⟨[], [], [], [], [page, linked]⟩]
    [⟨[], [], [], [], [page]⟩] fun p hp other hother => by
      obtain rfl := List.mem_singleton.1 hp
      have hlabel := honly _ hother
      have hpage : other ≠ page := by
        rintro rfl
        exact absurd hlabel (by decide)
      have hlinked : other ≠ linked := by
        rintro rfl
        exact absurd hlabel (by decide)
      simp [Section.allPages, hpage, hlinked]
  have hset : setPage ⟨none, []⟩ body =
      .ok "#card-grid(cols: 2,\n  (\"circle\", \"\", [b]),\n)".toList := by
    rw [setPage, hparse]
    with_unfolding_all rfl
  have hset' : setPage ⟨none, ["a".toList]⟩ body =
      .ok "#card-grid(cols: 2,\n  (\"circle\", \"\", [b], \"a\"),\n)".toList := by
    rw [setPage, hparse]
    with_unfolding_all rfl
  refine ⟨page, linked, hasks, by decide, hbooks, hsame, ?_⟩
  simp only [page, hset, hset']
  decide

end Book

end Bindery
