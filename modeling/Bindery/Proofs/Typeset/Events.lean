import Bindery.Typeset.Node

namespace Bindery.Typeset

open Text Markup

/-- One thing that the setting of a page comes to. -/
inductive Event
  | emphasis (mode : Mode) (strength : Strength)
  | link (mode : Mode) (url : Text)
  | image (mode : Mode) (src : Text)
  /-- A card in a grid, with the reference that its entry looks up. -/
  | entry (href : Text)
  /-- Something inside an element. -/
  | within (event : Event)

/-- The events of a block, which within a line is not set. -/
def amongBlocks (place : Place) (events : List Event) : List Event :=
  match place with
  | .block => events
  | .line => []

/-- What the card of a grid adds to the events of its content. -/
def cardEvents (attributes : Pairs) : List Event :=
  [.entry (attributes.get "href".toList)]

section

-- The events of the text of a link.
variable (ofLink : Text → List Event)

mutual

/-- The events of a node. -/
def events (place : Place) (mode : Mode) : Node → List Event
  | .link t url => ofLink t ++ [.link mode url]
  | .image _ src => [.image mode src]
  | .strong children => eventsOf .line mode children ++ [.emphasis mode .strong]
  | .emph children => eventsOf .line mode children ++ [.emphasis mode .emph]
  | .strongEmph children => eventsOf .line mode children ++ [.emphasis mode .strongEmph]
  | .paragraph children => amongBlocks place (eventsOf .line mode children)
  | .heading _ children => amongBlocks place (eventsOf .line mode children)
  | .listItem _ _ children => amongBlocks place (eventsOf .line mode children)
  | .table header rows =>
    amongBlocks place (cellEvents header.length header ++ rowEvents header.length rows)
  | .element name _ children block =>
    let inner := Place.ofBlock block
    let inside : List Event :=
      match Component.named name with
      | .hidden | .key => []
      | .card => eventsOf inner .card children
      | .columns =>
        if (Node.elements "Card".toList children).isEmpty then eventsOf inner .full children
        else elementEvents "Card".toList .card cardEvents children
      | .steps =>
        if (Node.elements "Step".toList children).isEmpty then eventsOf inner .full children
        else elementEvents "Step".toList .full (fun _ => []) children
      | .tabs =>
        if (Node.elements "Tab".toList children).isEmpty then eventsOf inner .full children
        else elementEvents "Tab".toList .full (fun _ => []) children
      | _ => eventsOf inner .full children
    inside.map .within
  | .text _ | .code _ | .rule | .blank | .codeBlock _ _ | .empty => []

/-- The events of nodes. -/
def eventsOf (place : Place) (mode : Mode) : List Node → List Event
  | [] => []
  | node :: rest => events place mode node ++ eventsOf place mode rest

/-- The events of the cells of a row, as many as the given number. -/
def cellEvents : (width : Nat) → List (List Node) → List Event
  | _, [] => []
  | 0, _ :: _ => []
  | width + 1, cell :: rest => eventsOf .line .plain cell ++ cellEvents width rest

/-- The events of the cells of each row. -/
def rowEvents (width : Nat) : List (List (List Node)) → List Event
  | [] => []
  | row :: rest => cellEvents width row ++ rowEvents width rest

/-- The events of the elements of the given name, with what each of them adds. -/
def elementEvents (name : Text) (mode : Mode) (own : Pairs → List Event) :
    List Node → List Event
  | [] => []
  | .element n attributes children block :: rest =>
    if n == name then
      eventsOf (Place.ofBlock block) mode children ++ own attributes ++
        elementEvents name mode own rest
    else elementEvents name mode own rest
  | _ :: rest => elementEvents name mode own rest

end

end

/-- The events of the text of a link. The links inside have shorter texts. -/
def linkEvents (s : Text) : List Event :=
  let inner (t : Text) := if _h : t.length < s.length then linkEvents t else []
  eventsOf inner .line .plain (parseInline s)
termination_by s.length

/-- The events of a page. -/
def pageEvents (page : Text) : List Event :=
  eventsOf linkEvents .block .full (parse page)

end Bindery.Typeset
