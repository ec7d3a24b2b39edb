import Bindery.Packages.Lexers
import Bindery.Proofs.Markup.FittingPage
import Bindery.Proofs.Path.Ancestor
import Bindery.Proofs.Typeset.Events
import Bindery.Proofs.Typeset.Fallback
import Bindery.Proofs.Typeset.Setting

namespace Bindery.Typeset

open Text Typst Markup

/-- The destination that the setting reads at an event. In a mode without links those of links are
    not looked at, and likewise for figures. -/
def Event.destination? : Event → Option Text
  | .link mode url => if mode.links then some url else none
  | .image mode src => if mode.figures then some src else none
  | .entry href => if href.isEmpty then none else some href
  | .within event => event.destination?
  | .emphasis _ _ => none

/-- The destinations that are read at the events. -/
def destinations (events : List Event) : List Text :=
  events.filterMap Event.destination?

@[simp]
theorem destinations_append (events others : List Event) :
    destinations (events ++ others) = destinations events ++ destinations others :=
  List.filterMap_append

@[simp]
theorem destinations_within (events : List Event) :
    destinations (events.map .within) = destinations events :=
  List.filterMap_map

theorem destinations_singleton (event : Event) :
    destinations [event] = event.destination?.toList := by
  cases h : event.destination? <;> simp [destinations, h]

/-- Reads destinations one after the other up to the first one that cannot be read. -/
def readAll : List Text → Except SetError Unit
  | [] => return ()
  | url :: rest => do
    let _ ← (Url.parse url).mapError .url
    readAll rest

theorem readAll_append (urls others : List Text) :
    readAll (urls ++ others) = (readAll urls >>= fun _ => readAll others) := by
  induction urls with
  | nil => rfl
  | cons url rest ih => rw [List.cons_append, readAll, readAll, ih, bind_assoc]

theorem readAll_eq_ok_iff {urls : List Text} :
    readAll urls = .ok () ↔ ∀ url ∈ urls, ∃ parts, Url.parse url = .ok parts := by
  induction urls with
  | nil => exact ⟨fun _ url hurl => absurd hurl List.not_mem_nil, fun _ => rfl⟩
  | cons url rest ih =>
    rw [List.forall_mem_cons, ← ih, readAll, bind_eq_ok_iff]
    simp only [mapError_eq_ok_iff, exists_and_right]

/-- A computation comes to its end, or fails, as reading the destinations does. -/
def Reads {α : Type} (x : Except SetError α) (urls : List Text) : Prop :=
  (x >>= fun _ => return ()) = readAll urls

variable {α β : Type} {x : Except SetError α} {urls others : List Text}

theorem reads_pure (a : α) : Reads (pure a) [] :=
  rfl

theorem Reads.bind {f : α → Except SetError β} (h : Reads x urls)
    (hf : ∀ a, x = .ok a → Reads (f a) others) : Reads (x >>= f) (urls ++ others) := by
  unfold Reads at h ⊢
  rw [readAll_append, ← h]
  cases x with
  | error e => rfl
  | ok a => exact hf a rfl

theorem Reads.bind_done {f : α → Except SetError β} (h : Reads x urls)
    (hf : ∀ a, Reads (f a) []) : Reads (x >>= f) urls := by
  have hbind := h.bind fun a _ => hf a
  rw [List.append_nil] at hbind
  exact hbind

theorem Reads.map (h : Reads x urls) (f : α → β) : Reads (x >>= fun a => pure (f a)) urls :=
  h.bind_done fun a => reads_pure (f a)

theorem Reads.eq_ok_iff (h : Reads x urls) :
    (∃ a, x = .ok a) ↔ ∀ url ∈ urls, ∃ parts, Url.parse url = .ok parts := by
  rw [← readAll_eq_ok_iff, ← h]
  cases x with
  | error e => exact ⟨fun ⟨a, ha⟩ => (nomatch ha), fun h => (nomatch h)⟩
  | ok a => exact ⟨fun _ => rfl, fun _ => ⟨a, rfl⟩⟩

theorem reads_of_error {y : Except UrlError α} {url : Text} {cause : UrlError}
    (h : Url.parse url = .error cause) (hy : y = .error cause) : Reads (y.mapError .url) [url] := by
  rw [Reads, readAll, h, hy]
  rfl

theorem reads_of_ok {y : Except UrlError α} {url : Text} {parts : Url} {a : α}
    (h : Url.parse url = .ok parts) (hy : y = .ok a) : Reads (y.mapError .url) [url] := by
  rw [Reads, readAll, h, hy]
  rfl

theorem exists_kind {url : Text} {parts : Url} (h : Url.parse url = .ok parts) :
    ∃ kind, Url.kind url = .ok kind := by
  rw [Url.kind, h]
  simp only [bind, Except.bind]
  split
  · exact ⟨_, rfl⟩
  · split <;> exact ⟨_, rfl⟩

/-- The kind of a destination is found by reading it once. -/
theorem reads_kind (url : Text) : Reads ((Url.kind url).mapError .url) [url] := by
  cases h : Url.parse url with
  | error cause => exact reads_of_error h (by rw [Url.kind, h]; rfl)
  | ok parts =>
    obtain ⟨kind, hkind⟩ := exists_kind h
    exact reads_of_ok h hkind

theorem reads_isRemote (url : Text) : Reads ((Url.isRemote url).mapError .url) [url] := by
  cases h : Url.parse url with
  | error cause => exact reads_of_error h (by rw [Url.isRemote, h]; rfl)
  | ok parts => exact reads_of_ok h (by rw [Url.isRemote, h]; rfl)

/-- A label is looked up by reading the reference, unless that is empty. -/
theorem reads_resolveLabel (context : Context) (href : Text) :
    Reads ((context.resolveLabel href).mapError .url) (Event.entry href).destination?.toList := by
  rw [Event.destination?]
  cases hempty : href.isEmpty with
  | true =>
    rw [Context.resolveLabel, hempty]
    exact reads_pure none
  | false =>
    cases h : Url.parse href with
    | error cause =>
      have hkind : Url.kind href = .error cause := by rw [Url.kind, h]; rfl
      exact reads_of_error h (by rw [Context.resolveLabel, hempty, hkind]; rfl)
    | ok parts =>
      obtain ⟨kind, hkind⟩ := exists_kind h
      have hlabel : ∃ label, context.resolveLabel href = .ok label := by
        rw [Context.resolveLabel, hempty, hkind, h]
        cases kind <;> exact ⟨_, rfl⟩
      obtain ⟨label, hlabel⟩ := hlabel
      exact reads_of_ok h hlabel

theorem reads_reference (mode : Mode) (url body : Text) :
    Reads (reference mode url body) (Event.link mode url).destination?.toList := by
  rw [reference, Event.destination?]
  cases mode.links with
  | false => exact reads_pure body
  | true =>
    refine (reads_kind url).bind_done fun kind => ?_
    cases kind <;> exact reads_pure _

/-- Below roots that start from the root of the file tree, every picture has a place. -/
def Context.Rooted (context : Context) : Prop :=
  ∀ assets ∈ context.assets, assets.toolRoot.anchor = .root ∧ assets.docsRoot.anchor = .root

theorem exists_resolve {assets : Assets}
    (h : assets.toolRoot.anchor = .root ∧ assets.docsRoot.anchor = .root) (src : Text) :
    ∃ place, assets.resolve src = .ok place := by
  have habove : assets.root.IsAbove assets.docsRoot := (Path.commonRoot_isAbove h.1 h.2).2
  obtain ⟨below, hbelow⟩ := Path.exists_stepsFrom_iff.2 habove
  rw [Assets.resolve, Assets.docsPlace, hbelow]
  exact ⟨_, rfl⟩

theorem reads_image {context : Context} (h : context.Rooted) (mode : Mode) (alt src : Text) :
    Reads (context.image mode alt src) (Event.image mode src).destination?.toList := by
  rw [Context.image, Event.destination?]
  cases mode.figures with
  | false => exact reads_pure _
  | true =>
    refine (reads_isRemote src).bind_done fun remote => ?_
    cases remote with
    | true => exact reads_pure _
    | false =>
      cases hassets : context.assets with
      | none => exact reads_pure _
      | some assets =>
        obtain ⟨place, hplace⟩ := exists_resolve (h assets hassets) src
        simp only [Bool.false_eq_true, if_false, hplace]
        exact reads_pure _

variable {ofLink : Text → List Event} {env : Env} {place : Place} {mode : Mode} {nodes : List Node}

/-- Setting the node is as good as reading its destinations. -/
def ReadsNode (ofLink : Text → List Event) (env : Env) (place : Place) (node : Node) : Prop :=
  ∀ mode, Reads (setNode env place mode node) (destinations (events ofLink place mode node))

theorem reads_setNodes (h : ∀ n ∈ nodes, ReadsNode ofLink env place n) (mode : Mode) :
    Reads (setNodes env place mode nodes) (destinations (eventsOf ofLink place mode nodes)) := by
  induction nodes with
  | nil => exact reads_pure []
  | cons node nodes ih =>
    rw [List.forall_mem_cons] at h
    rw [setNodes, eventsOf, destinations_append]
    exact (h.1 mode).bind fun text _ => (ih h.2).map _

theorem reads_setCells {cells : List (List Node)}
    (h : ∀ cell ∈ cells, ∀ n ∈ cell, ReadsNode ofLink env .line n) (width : Nat) :
    Reads (setCells env width cells) (destinations (cellEvents ofLink width cells)) := by
  induction cells generalizing width with
  | nil =>
    rw [setCells, cellEvents]
    exact reads_pure _
  | cons cell cells ih =>
    rw [List.forall_mem_cons] at h
    cases width with
    | zero => exact reads_pure []
    | succ width =>
      rw [setCells, cellEvents, destinations_append]
      exact (reads_setNodes h.1 .plain).bind fun texts _ => (ih h.2 width).map _

theorem reads_setRows {rows : List (List (List Node))}
    (h : ∀ row ∈ rows, ∀ cell ∈ row, ∀ n ∈ cell, ReadsNode ofLink env .line n) (width : Nat) :
    Reads (setRows env width rows) (destinations (rowEvents ofLink width rows)) := by
  induction rows with
  | nil => exact reads_pure []
  | cons row rows ih =>
    rw [List.forall_mem_cons] at h
    rw [setRows, rowEvents, destinations_append]
    exact (reads_setCells h.1 width).bind fun cells _ => (ih h.2).map _

/-- The destinations of elements are read element by element, those of the content first. -/
theorem reads_setElements {name : Text} {own : Pairs → List Event}
    {entry : Pairs → Text → Except SetError Text}
    (hentry : ∀ attributes body, Reads (entry attributes body) (destinations (own attributes)))
    (hplace : ∀ n ∈ nodes, n.FitsIn place)
    (h : ∀ n ∈ nodes, ∀ c ∈ n.content, ReadsNode ofLink env place c) (mode : Mode) :
    Reads (setElements env name mode entry nodes)
      (destinations (elementEvents ofLink name mode own nodes)) := by
  induction nodes with
  | nil =>
    rw [setElements, elementEvents]
    exact reads_pure []
  | cons node nodes ih =>
    rw [List.forall_mem_cons] at hplace h
    have hrest := ih hplace.2 h.2
    cases node with
    | element n attributes children block =>
      rw [setElements, elementEvents]
      split
      · have hchildren := reads_setNodes (place_of_element hplace.1 ▸ h.1) mode
        rw [destinations_append, destinations_append, List.append_assoc]
        exact hchildren.bind fun texts _ => (hentry attributes _).bind fun text _ => hrest.map _
      · exact hrest
    | _ => exact hrest

/-- Link texts on one line are set as their destinations are read. -/
structure Env.ReadsLinks (env : Env) (ofLink : Text → List Event) : Prop where
  rooted : env.context.Rooted
  linkText : ∀ t, OneLine t → Reads (env.linkText t) (destinations (ofLink t))

/-- A heading of a level that the template knows is set. -/
theorem reads_heading {level : Int} (h : 1 ≤ level ∧ level ≤ 4) (body : Text) :
    Reads ((heading level body).mapError .level) [] := by
  rw [heading, if_pos (by simpa using h)]
  exact reads_pure _

theorem reads_setCardEntry (attributes : Pairs) (body : Text) :
    Reads (setCardEntry env attributes body) (destinations (cardEvents attributes)) := by
  rw [cardEvents, destinations_singleton]
  exact (reads_resolveLabel env.context _).map _

theorem readsNode_element {name : Text} {attributes : Pairs} {children : List Node} {block : Bool}
    (hplace : ∀ n ∈ children, n.FitsIn (Place.ofBlock block))
    (h : ∀ n ∈ children, ReadsNode ofLink env (Place.ofBlock block) n ∧
      ∀ c ∈ n.content, ReadsNode ofLink env (Place.ofBlock block) c) :
    ReadsNode ofLink env place (.element name attributes children block) := by
  intro mode
  have hnodes := reads_setNodes fun n hn => (h n hn).1
  have hinner (n : Node) (hn : n ∈ children) := (h n hn).2
  rw [setNode, events, destinations_within]
  simp only
  cases Component.named name with
  | hidden => exact reads_pure []
  | key => exact reads_pure _
  | card =>
    simp only [bind_assoc, pure_bind]
    exact (hnodes .card).map _
  | columns =>
    simp only
    split
    · exact (hnodes .full).map _
    · exact (reads_setElements reads_setCardEntry hplace hinner .card).map _
  | steps =>
    simp only
    split
    · exact (hnodes .full).map _
    · exact (reads_setElements (fun _ _ => reads_pure _) hplace hinner .full).map _
  | tabs =>
    simp only
    split
    · exact (hnodes .full).map _
    · exact (reads_setElements (fun _ _ => reads_pure _) hplace hinner .full).map _
  | callout | box _ | step | accordion | update | content =>
    simp only [bind_assoc, pure_bind]
    exact (hnodes .full).map _

/-- Nodes that fit at their place are set as their destinations are read. Cards, steps and tabs set
    the content of the elements inside them directly, so that the content is part of what the
    induction carries. -/
theorem readsNode_of_fitsIn (henv : env.ReadsLinks ofLink) {node : Node} (h : node.FitsIn place) :
    ReadsNode ofLink env place node ∧ ∀ c ∈ node.content, ReadsNode ofLink env place c := by
  have leaf {place : Place} {node : Node} (hcontent : node.content = [])
      (h : ReadsNode ofLink env place node) : ReadsNode ofLink env place node ∧
        ∀ c ∈ node.content, ReadsNode ofLink env place c := by
    rw [hcontent]
    exact ⟨h, fun c hc => absurd hc List.not_mem_nil⟩
  have emphasis (events : List Event) (mode : Mode) (strength : Strength) :
      destinations (events ++ [.emphasis mode strength]) = destinations events := by
    rw [destinations_append, destinations_singleton]
    exact List.append_nil _
  induction h with
  | text ht hline => exact leaf rfl fun mode => by rw [setNode]; exact reads_pure _
  | code ht hline => exact leaf rfl fun mode => by rw [setNode]; exact reads_pure _
  | link hline hurl =>
    refine leaf rfl fun mode => ?_
    rw [setNode, events, destinations_append, destinations_singleton]
    exact (henv.linkText _ hline).bind fun body _ => reads_reference mode _ body
  | image hline hsrc =>
    refine leaf rfl fun mode => ?_
    rw [setNode, events, destinations_singleton]
    exact reads_image henv.rooted mode _ _
  | strong h ih =>
    refine leaf rfl fun mode => ?_
    rw [setNode, events, emphasis]
    exact (reads_setNodes (fun n hn => (ih n hn).1) mode).map _
  | emph h ih =>
    refine leaf rfl fun mode => ?_
    rw [setNode, events, emphasis]
    exact (reads_setNodes (fun n hn => (ih n hn).1) mode).map _
  | strongEmph h ih =>
    refine leaf rfl fun mode => ?_
    rw [setNode, events, emphasis]
    exact (reads_setNodes (fun n hn => (ih n hn).1) mode).map _
  | paragraph h ih =>
    refine leaf rfl fun mode => ?_
    rw [setNode]
    exact (reads_setNodes (fun n hn => (ih n hn).1) mode).map _
  | heading hlevel h ih =>
    refine leaf rfl fun mode => ?_
    rw [setNode]
    exact (reads_setNodes (fun n hn => (ih n hn).1) mode).bind_done fun _ => reads_heading hlevel _
  | listItem indent ordered h ih =>
    refine leaf rfl fun mode => ?_
    rw [setNode]
    exact (reads_setNodes (fun n hn => (ih n hn).1) mode).map _
  | rule => exact leaf rfl fun mode => by rw [setNode]; exact reads_pure _
  | blank => exact leaf rfl fun mode => by rw [setNode]; exact reads_pure _
  | codeBlock => exact leaf rfl fun mode => by rw [setNode]; exact reads_pure _
  | table hheader hrows ihheader ihrows =>
    refine leaf rfl fun mode => ?_
    rw [setNode, events, amongBlocks, destinations_append]
    exact (reads_setCells (fun cell hc n hn => (ihheader cell hc n hn).1) _).bind fun texts _ =>
      (reads_setRows (fun row hrow cell hc n hn => (ihrows row hrow cell hc n hn).1) _).map _
  | inner attributes hname h ih => exact ⟨readsNode_element h ih, fun c hc => (ih c hc).1⟩
  | outer attributes hname hblanks h ih =>
    exact ⟨readsNode_element h ih, fun c hc => (ih c hc).1⟩

variable {context : Context}

/-- The induction is on the length of the text, since the links inside have shorter texts. -/
theorem reads_setLinkText (hcontext : context.Rooted) {s : Text} (hs : OneLine s) :
    Reads (setLinkText context s) (destinations (linkEvents s)) := by
  induction hlength : s.length using Nat.strongRecOn generalizing s with
  | ind length ih =>
    rw [setLinkText, linkEvents]
    refine (reads_setNodes (fun n hn => ?_) .plain).map _
    refine (readsNode_of_fitsIn ⟨hcontext, fun t ht => ?_⟩ (parseInline_fitsIn hs n hn)).1
    simp only
    split
    · next hshorter => exact ih t.length (hlength ▸ hshorter) ht rfl
    · exact reads_pure []

/-- The setting of a page comes to its end if every destination that it looks at can be read, and
otherwise fails at the first one that cannot: no other markup, however malformed, makes it fail.
Pictures need a place below the root of the compiler, which they have when there are no roots or
when both start from the root of the file tree. -/
theorem reads_setPage (hcontext : context.Rooted) (page : Text) :
    Reads (setPage context page) (destinations (pageEvents page)) ∧
      ((∃ out, setPage context page = .ok out) ↔
        ∀ url ∈ destinations (pageEvents page), ∃ parts, Url.parse url = .ok parts) := by
  have henv : context.env.ReadsLinks linkEvents := ⟨hcontext, fun _ => reads_setLinkText hcontext⟩
  have hreads : Reads (setPage context page) (destinations (pageEvents page)) :=
    (reads_setNodes (fun n hn => (readsNode_of_fitsIn henv ((parse_fitsIn page).2 n hn)).1)
      .full).map _
  exact ⟨hreads, hreads.eq_ok_iff⟩

/-- A picture of the documentation and a link to the web, below roots next to each other. -/
theorem reads_setPage_picture :
    ∃ context : Context, context.assets.isSome ∧ context.Rooted ∧
      destinations (pageEvents "![](/a)[b](http://c)".toList) =
        ["/a".toList, "http://c".toList] ∧
      ∃ out, setPage context "![](/a)[b](http://c)".toList = .ok out := by
  have hrooted : Context.Rooted ⟨some ⟨⟨.root, ["t".toList]⟩, ⟨.root, ["d".toList]⟩⟩, []⟩ := by
    rintro assets ⟨⟩
    exact ⟨rfl, rfl⟩
  have hparse : parse "![](/a)[b](http://c)".toList =
      [.paragraph [.image [] "/a".toList, .link "b".toList "http://c".toList]] := by
    with_unfolding_all rfl
  have hurls : destinations (pageEvents "![](/a)[b](http://c)".toList) =
      ["/a".toList, "http://c".toList] := by
    rw [pageEvents, hparse]
    with_unfolding_all rfl
  refine ⟨_, rfl, hrooted, hurls, (reads_setPage hrooted _).2.2 ?_⟩
  rw [hurls]
  simp only [List.forall_mem_cons]
  exact ⟨⟨⟨[], [], "/a".toList⟩, by with_unfolding_all rfl⟩,
    ⟨⟨"http".toList, "c".toList, []⟩, by with_unfolding_all rfl⟩, fun _ h => nomatch h⟩

/-- A link whose network location opens a bracket makes the setting of its page fail. -/
theorem exists_setPage_eq_error :
    ∃ context page, Context.Rooted context ∧
      setPage context page = .error (.url .brackets) := by
  have hparse : parse "[x](http://[)".toList =
      [.paragraph [.link "x".toList "http://[".toList]] := by
    with_unfolding_all rfl
  have hset : setPage ⟨none, []⟩ "[x](http://[)".toList = .error (.url .brackets) := by
    rw [setPage, hparse]
    with_unfolding_all rfl
  have hrooted : Context.Rooted ⟨none, []⟩ := by
    rintro assets ⟨⟩
  exact ⟨_, _, hrooted, hset⟩

end Bindery.Typeset
