import Bindery.Packages.Lexers
import Bindery.Proofs.Typeset.Marks

namespace Bindery.Typeset

open Text Typst Markup

/-- Whether a mode has a mark. References within the documentation are links that are strong. -/
def Mode.allows (mode : Mode) : Mark → Bool
  | .link => mode.links
  | .strong => mode.emphasis || mode.links
  | .emph => mode.emphasis
  | .figure => mode.figures

/-- The event stands inside an element, or writes only marks that the mode has. -/
def Event.Follows (mode : Mode) (event : Event) : Prop :=
  (∃ inner, event = .within inner) ∨ ∀ mark ∈ event.marks, mode.allows mark = true

theorem follows_within (mode : Mode) (event : Event) : (Event.within event).Follows mode :=
  .inl ⟨event, rfl⟩

theorem follows_of_marks_eq_nil {event : Event} (h : event.marks = []) (mode : Mode) :
    event.Follows mode :=
  .inr fun mark hmark => by simp [h] at hmark

theorem follows_emphasis (mode : Mode) (strength : Strength) :
    (Event.emphasis mode strength).Follows mode := by
  cases hemphasis : mode.emphasis with
  | false => exact follows_of_marks_eq_nil (by simp [Event.marks, hemphasis]) mode
  | true =>
    refine .inr fun mark hmark => ?_
    have hkind : mark = .strong ∨ mark = .emph := by
      cases strength <;> simp_all [Event.marks]
    rcases hkind with rfl | rfl <;> simp [Mode.allows, hemphasis]

theorem follows_link (mode : Mode) (url : Text) : (Event.link mode url).Follows mode := by
  cases hlinks : mode.links with
  | false => exact follows_of_marks_eq_nil (by simp [Event.marks, hlinks]) mode
  | true =>
    refine .inr fun mark hmark => ?_
    have hkind : mark = .strong ∨ mark = .link := by
      rw [Event.marks, hlinks] at hmark
      cases hkind : Url.kind url with
      | error cause => simp [hkind] at hmark
      | ok kind => cases kind <;> simp_all
    rcases hkind with rfl | rfl <;> simp [Mode.allows, hlinks]

theorem follows_image (mode : Mode) (src : Text) : (Event.image mode src).Follows mode := by
  cases hfigures : mode.figures with
  | false => exact follows_of_marks_eq_nil (by simp [Event.marks, hfigures]) mode
  | true =>
    refine .inr fun mark hmark => ?_
    have hkind : mark = .figure ∨ mark = .link ∧ mode.links = true := by
      rw [Event.marks, hfigures] at hmark
      cases hremote : Url.isRemote src with
      | error cause => simp [hremote] at hmark
      | ok remote => cases remote <;> simp_all
    rcases hkind with rfl | ⟨rfl, hlinks⟩
    · exact hfigures
    · exact hlinks

/-- What follows the plain mode writes nothing, and so follows every mode. -/
theorem Event.Follows.of_plain {event : Event} (h : event.Follows .plain) (mode : Mode) :
    event.Follows mode := by
  refine h.imp id fun hmarks mark hmark => ?_
  have hplain := hmarks mark hmark
  cases mark <;> cases hplain

variable {ofLink : Text → List Event} {place : Place} {mode : Mode} {nodes : List Node}

/-- Wherever the node stands, its events follow the mode that it is set in. -/
def NodeFollows (ofLink : Text → List Event) (node : Node) : Prop :=
  ∀ place mode, ∀ event ∈ events ofLink place mode node, event.Follows mode

theorem follows_eventsOf (h : ∀ n ∈ nodes, NodeFollows ofLink n) :
    ∀ event ∈ eventsOf ofLink place mode nodes, event.Follows mode := by
  induction nodes with
  | nil => exact fun event hevent => absurd hevent List.not_mem_nil
  | cons node nodes ih =>
    rw [List.forall_mem_cons] at h
    rw [eventsOf]
    exact List.forall_mem_append.2 ⟨h.1 place mode, ih h.2⟩

theorem follows_cellEvents {cells : List (List Node)}
    (h : ∀ cell ∈ cells, ∀ n ∈ cell, NodeFollows ofLink n) (width : Nat) :
    ∀ event ∈ cellEvents ofLink width cells, event.Follows mode := by
  induction cells generalizing width with
  | nil =>
    rw [cellEvents]
    exact fun event hevent => absurd hevent List.not_mem_nil
  | cons cell cells ih =>
    rw [List.forall_mem_cons] at h
    cases width with
    | zero => exact fun event hevent => absurd hevent List.not_mem_nil
    | succ width =>
      -- A cell is set in the plain mode, which has no marks that another mode lacks.
      rw [cellEvents]
      refine List.forall_mem_append.2 ⟨fun event hevent => ?_, ih h.2 width⟩
      exact (follows_eventsOf h.1 event hevent).of_plain mode

theorem follows_rowEvents {rows : List (List (List Node))}
    (h : ∀ row ∈ rows, ∀ cell ∈ row, ∀ n ∈ cell, NodeFollows ofLink n) (width : Nat) :
    ∀ event ∈ rowEvents ofLink width rows, event.Follows mode := by
  induction rows with
  | nil => exact fun event hevent => absurd hevent List.not_mem_nil
  | cons row rows ih =>
    rw [List.forall_mem_cons] at h
    rw [rowEvents]
    exact List.forall_mem_append.2 ⟨follows_cellEvents h.1 width, ih h.2⟩

theorem follows_amongBlocks {events : List Event} (h : ∀ event ∈ events, event.Follows mode) :
    ∀ event ∈ amongBlocks place events, event.Follows mode := by
  cases place with
  | block => exact h
  | line => exact fun event hevent => absurd hevent List.not_mem_nil

theorem follows_concat {events : List Event} {last : Event}
    (h : ∀ event ∈ events, event.Follows mode) (hlast : last.Follows mode) :
    ∀ event ∈ events ++ [last], event.Follows mode :=
  List.forall_mem_append.2 ⟨h, List.forall_mem_singleton.2 hlast⟩

/-- The mode is passed on to everything inside a node, save what stands inside an element. -/
theorem nodeFollows (hlink : ∀ t, ∀ event ∈ ofLink t, event.Follows .plain) (node : Node) :
    NodeFollows ofLink node := by
  induction node using Node.induction with
  | step node ih =>
    intro place mode
    cases node with
    | link t url =>
      rw [events]
      refine follows_concat (fun event hevent => ?_) (follows_link mode url)
      exact (hlink t event hevent).of_plain mode
    | image alt src => exact List.forall_mem_singleton.2 (follows_image mode src)
    | strong children | emph children | strongEmph children =>
      exact follows_concat (follows_eventsOf ih) (follows_emphasis mode _)
    | paragraph children | heading level children | listItem indent ordered children =>
      exact follows_amongBlocks (follows_eventsOf ih)
    | table header rows =>
      refine follows_amongBlocks (List.forall_mem_append.2 ⟨?_, ?_⟩)
      · refine follows_cellEvents (fun cell hcell n hn => ih n ?_) _
        exact List.mem_append_left _ (List.mem_flatten.2 ⟨cell, hcell, hn⟩)
      · refine follows_rowEvents (fun row hrow cell hcell n hn => ih n ?_) _
        have hcell := List.mem_flatten.2 ⟨row, hrow, hcell⟩
        exact List.mem_append_right _ (List.mem_flatten.2 ⟨cell, hcell, hn⟩)
    | element name attributes children block =>
      exact List.forall_mem_map.2 fun event _ => follows_within mode event
    | text t | code t | rule | blank | codeBlock language code | empty =>
      exact fun event hevent => absurd hevent List.not_mem_nil

theorem follows_linkEvents (s : Text) : ∀ event ∈ linkEvents s, event.Follows .plain := by
  induction hlength : s.length using Nat.strongRecOn generalizing s with
  | ind length ih =>
    rw [linkEvents]
    refine follows_eventsOf fun n _ => nodeFollows (fun t => ?_) n
    split
    · next hshorter => exact ih t.length (hlength ▸ hshorter) t rfl
    · exact fun event hevent => absurd hevent List.not_mem_nil

/-- What stands inside elements writes only marks that the mode has. The content of an element is
    set in a mode of its own, so that the mode around it says nothing of this. -/
def ElementsFollow (mode : Mode) (events : List Event) : Prop :=
  ∀ event, .within event ∈ events → ∀ mark ∈ event.marks, mode.allows mark = true

theorem keepsAll_of_elementsFollow {marks : Marks}
    (hmarks : ∀ mark, mode.allows mark = true → marks.Keeps mark)
    (h : ElementsFollow mode (eventsOf linkEvents place mode nodes)) :
    marks.KeepsAll (eventsOf linkEvents place mode nodes) := by
  intro event hevent mark hmark
  have hfollows := follows_eventsOf (fun n _ => nodeFollows follows_linkEvents n) event hevent
  rcases hfollows with ⟨inner, rfl⟩ | hall
  · exact hmarks mark (h inner hevent mark hmark)
  · exact hmarks mark (hall mark hmark)

/-- With the marks of Typst these are the settings of pages. -/
theorem setBy_typst (context : Context) (mode : Mode) (nodes : List Node) :
    setInlineBy .typst context mode nodes = setInline context mode nodes ∧
      setBlocksBy .typst context mode nodes = setBlocks context mode nodes := by
  rw [setInlineBy, setBlocksBy, setNodesBy_typst, setNodesBy_typst]
  exact ⟨rfl, rfl⟩

/-- Nodes that are set in a mode write no mark that the mode does not have: whatever such a mark is
written as, what the nodes are set as is the same as with the marks of Typst, which is what pages
are set as by `setBy_typst`. In a card that is so for links, in a cell of a table and in the text of
a link for every mark, at any depth of emphasis, link texts and tables. What elements write inside
these nodes is not governed by the mode, and has to keep to it by itself. -/
theorem setBy_eq_of_elementsFollow {marks : Marks}
    (hmarks : ∀ mark, mode.allows mark = true → marks.Keeps mark) (context : Context)
    (nodes : List Node) :
    (ElementsFollow mode (eventsOf linkEvents .line mode nodes) →
        setInlineBy marks context mode nodes = setInline context mode nodes) ∧
      (ElementsFollow mode (eventsOf linkEvents .block mode nodes) →
        setBlocksBy marks context mode nodes = setBlocks context mode nodes) :=
  ⟨fun h => setInlineBy_eq (keepsAll_of_elementsFollow hmarks h),
    fun h => setBlocksBy_eq (keepsAll_of_elementsFollow hmarks h)⟩

/-- Links in a card, in strong text and in a card of their own. -/
theorem setBy_eq_of_elementsFollow_card :
    ∃ marks nodes, (∀ mark, Mode.card.allows mark = true → marks.Keeps mark) ∧
      marks.link ≠ Typst.link ∧
      nodes = [.paragraph [.strong [.link "a".toList "https://b".toList]],
        .element "Card".toList [] [.paragraph [.link "c".toList "https://d".toList]] true] ∧
      ElementsFollow .card (eventsOf linkEvents .block .card nodes) ∧
      setBlocksBy marks ⟨none, []⟩ .card nodes = setBlocks ⟨none, []⟩ .card nodes := by
  have hmarks : ∀ mark, Mode.card.allows mark = true →
      Marks.Keeps ⟨fun _ body => body, strong, emph, figure⟩ mark := by
    intro mark hmark
    cases mark with
    | link => cases hmark
    | strong | emph | figure => rfl
  have hlink : (fun _ body => body) ≠ Typst.link := by
    intro h
    cases congrFun (congrFun h []) []
  have hfollow : ElementsFollow .card (eventsOf linkEvents .block .card
      [.paragraph [.strong [.link "a".toList "https://b".toList]],
        .element "Card".toList [] [.paragraph [.link "c".toList "https://d".toList]] true]) := by
    have hevents : eventsOf linkEvents .block .card
        [.paragraph [.strong [.link "a".toList "https://b".toList]],
          .element "Card".toList [] [.paragraph [.link "c".toList "https://d".toList]] true] =
        [.link .card "https://b".toList, .emphasis .card .strong,
          .within (.link .card "https://d".toList)] := by
      with_unfolding_all rfl
    intro event hevent mark hmark
    rw [hevents] at hevent
    simp only [List.mem_cons, List.not_mem_nil, reduceCtorEq, Event.within.injEq, false_or,
      or_false] at hevent
    subst hevent
    cases hmark
  exact ⟨_, _, hmarks, hlink, rfl, hfollow,
    (setBy_eq_of_elementsFollow hmarks ⟨none, []⟩ _).2 hfollow⟩

/-- A link in a frame is written in a card too, and emphasis in a span where the mode is plain:
written in another way, it makes a difference. -/
theorem exists_mark_within_element :
    (∃ nodes, setBlocks ⟨none, []⟩ .card nodes = .ok "#link(\"https://b\")[a]".toList ∧
      setBlocksBy ⟨fun _ body => body, strong, emph, figure⟩ ⟨none, []⟩ .card nodes =
        .ok "a".toList) ∧
      ∃ nodes, setInline ⟨none, []⟩ .plain nodes = .ok "#emph[a]".toList ∧
        setInlineBy ⟨link, strong, id, figure⟩ ⟨none, []⟩ .plain nodes = .ok "a".toList := by
  constructor
  · refine ⟨[.element "Frame".toList [] [.paragraph [.link "a".toList "https://b".toList]] true],
      ?_, ?_⟩
    · with_unfolding_all rfl
    · with_unfolding_all rfl
  · refine ⟨[.element "span".toList [] [.emph [.text "a".toList]] false], ?_, ?_⟩
    · with_unfolding_all rfl
    · with_unfolding_all rfl

end Bindery.Typeset
