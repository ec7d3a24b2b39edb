import Bindery.Label
import Bindery.Markup.Block
import Bindery.Path.Assets
import Bindery.Typeset.Component
import Bindery.Typeset.Layout
import Bindery.Typeset.Table
import Bindery.Typst.Raw
import Bindery.Url.Basic

namespace Bindery.Typeset

open Text Typst

/-- Why a page cannot be set. -/
inductive SetError
  /-- A destination cannot be read. -/
  | url (cause : UrlError)
  /-- A heading has a level that the template does not know. -/
  | level (cause : LevelError)
  /-- A picture cannot be placed below the root of the compiler. -/
  | outside (cause : Path.OutsideError)
  deriving DecidableEq, Repr

/-- The wording of an error. -/
def SetError.message : SetError → Text
  | .url cause => cause.message
  | .level cause => cause.message
  | .outside cause => cause.message

/-- What the pages of one book share. -/
structure Context where
  /-- Where pictures lie for the compiler; without it, paths stay as written. -/
  assets : Option Assets
  /-- The labels of all the pages of the book. -/
  labels : List Text
  /-- What knows the languages of the code on the pages. -/
  [lexers : Lexers]

/-- The label of the page that a reference leads to, if the book has that page. -/
def Context.resolveLabel (context : Context) (href : Text) : Except UrlError (Option Text) := do
  if href.isEmpty then return none
  if (← Url.kind href) != .inside then return none
  let label := labelOf (← Url.parse href).path
  return if context.labels.contains label then some label else none

/-- A picture, or its alternative text where the mode has no figures. A picture of the web is not
    fetched: a link to it, or its text, stands in its place. -/
def Context.image (context : Context) (mode : Mode) (alt src : Text) : Except SetError Text := do
  let caption := escape alt
  if !mode.figures then return caption
  if ← (Url.isRemote src).mapError .url then
    let body := orElse caption (escape src)
    return if mode.links then link src body else body
  match context.assets with
  | some assets => return figure (← (assets.resolve src).mapError .outside) caption
  | none => return figure src caption

/-- A link around a body that has been set. A reference within the documentation is strong
    text. -/
def reference (mode : Mode) (url body : Text) : Except SetError Text := do
  if !mode.links then return body
  match ← (Url.kind url).mapError .url with
  | .inside => return strong body
  | .mail | .outside => return link url body

mutual

/-- The text of an inline node as the reader sees it. -/
def plainText : Node → Text
  | .text t => t
  | .code t => t
  | .link t _ => t
  | .image alt _ => alt
  | .strong children => plainTexts children
  | .emph children => plainTexts children
  | .strongEmph children => plainTexts children
  | .element _ _ children _ => plainTexts children
  | _ => []

/-- The text of inline nodes as the reader sees it. -/
def plainTexts : List Node → Text
  | [] => []
  | node :: rest => plainText node ++ plainTexts rest

end

/-- What the setting of a node needs besides the node: what pages share, and the setting of the
    text of a link. -/
structure Env where
  context : Context
  linkText : Text → Except SetError Text

/-- Emphasised content, bare where the mode has no emphasis. -/
def emphasized (mode : Mode) (markup : Text → Text) (body : Text) : Text :=
  if mode.emphasis then markup body else body

/-- The markup of a block node, which within a line is set as nothing. -/
def onlyAmongBlocks (place : Place) (text : Unit → Except SetError Text) : Except SetError Text :=
  match place with
  | .block => text ()
  | .line => return []

mutual

/-- The markup of a node. What stands inside an element is set in full, except in a card. -/
def setNode (env : Env) (place : Place) (mode : Mode) : Node → Except SetError Text
  | .text t => return escape t
  | .code t => return rawSpan t
  | .link t url => do reference mode url (← env.linkText t)
  | .image alt src => env.context.image mode alt src
  | .strong children => do
    return emphasized mode strong (join (← setNodes env .line mode children))
  | .emph children => do
    return emphasized mode emph (join (← setNodes env .line mode children))
  | .strongEmph children => do
    return emphasized mode strongEmph (join (← setNodes env .line mode children))
  | .paragraph children =>
    onlyAmongBlocks place fun _ => return join (← setNodes env .line mode children)
  | .heading level children =>
    onlyAmongBlocks place fun _ => do
      let body := join (← setNodes env .line mode children)
      (heading level body).mapError .level
  | .listItem indent ordered children =>
    onlyAmongBlocks place fun _ =>
      return listItem indent ordered (join (← setNodes env .line mode children))
  | .rule => onlyAmongBlocks place fun _ => return rule
  | .blank => return []
  | .codeBlock language code =>
    onlyAmongBlocks place fun _ => return @rawBlock env.context.lexers language code
  | .table header rows =>
    onlyAmongBlocks place fun _ => do
      let headerTexts ← setCells env header.length header
      return tableMarkup headerTexts (← setRows env header.length rows)
  | .element name attributes children block => do
    let inner := Place.ofBlock block
    let content (mode : Mode) := return arrange inner children (← setNodes env inner mode children)
    match Component.named name with
    | .hidden => return []
    | .key => return rawSpan (plainTexts children)
    | .card => return cardMarkup attributes (← content .card)
    | .columns =>
      if (Node.elements "Card".toList children).isEmpty then content .full
      else
        let entry (attributes : Pairs) (body : Text) := do
          let label ← (env.context.resolveLabel (attributes.get "href".toList)).mapError .url
          return cardEntry attributes body label
        return gridMarkup attributes (← setElements env "Card".toList .card entry children)
    | .steps =>
      if (Node.elements "Step".toList children).isEmpty then content .full
      else
        let entry (attributes : Pairs) (body : Text) := return stepEntry attributes body
        return stepsMarkup (← setElements env "Step".toList .full entry children)
    | .tabs =>
      if (Node.elements "Tab".toList children).isEmpty then content .full
      else
        let entry (attributes : Pairs) (body : Text) := return tabMarkup attributes body
        return joinWith ['\n', '\n'] (← setElements env "Tab".toList .full entry children)
    | component => return component.markup name attributes (← content .full)
  | .empty => return []

/-- The markup of each node. -/
def setNodes (env : Env) (place : Place) (mode : Mode) : List Node → Except SetError (List Text)
  | [] => return []
  | node :: rest => return (← setNode env place mode node) :: (← setNodes env place mode rest)

/-- The cells of a row, cut off or filled up with empty ones to the given number. -/
def setCells (env : Env) : (width : Nat) → List (List Node) → Except SetError (List Text)
  | width, [] => return List.replicate width []
  | 0, _ :: _ => return []
  | width + 1, cell :: rest =>
    return join (← setNodes env .line .plain cell) :: (← setCells env width rest)

/-- The cells of each row. -/
def setRows (env : Env) (width : Nat) :
    List (List (List Node)) → Except SetError (List (List Text))
  | [] => return []
  | row :: rest => return (← setCells env width row) :: (← setRows env width rest)

/-- What each element of the given name contributes, by its attributes and its content. -/
def setElements (env : Env) (name : Text) (mode : Mode)
    (entry : Pairs → Text → Except SetError Text) : List Node → Except SetError (List Text)
  | [] => return []
  | .element n attributes children block :: rest => do
    if n == name then
      let inner := Place.ofBlock block
      let text ← entry attributes (arrange inner children (← setNodes env inner mode children))
      return text :: (← setElements env name mode entry rest)
    else setElements env name mode entry rest
  | _ :: rest => setElements env name mode entry rest

end

theorem setNode_blank (env : Env) (place : Place) (mode : Mode) :
    setNode env place mode .blank = .ok [] := by
  rw [setNode]
  rfl

/-- The markup of the text of a link. The links inside have shorter texts. -/
def setLinkText (context : Context) (s : Text) : Except SetError Text := do
  let inner (t : Text) :=
    if _h : t.length < s.length then setLinkText context t else return []
  return join (← setNodes ⟨context, inner⟩ .line .plain (Markup.parseInline s))
termination_by s.length

/-- What the setting of a page needs. -/
def Context.env (context : Context) : Env :=
  ⟨context, setLinkText context⟩

/-- The markup of inline nodes. -/
def setInline (context : Context) (mode : Mode) (nodes : List Node) : Except SetError Text :=
  return join (← setNodes context.env .line mode nodes)

/-- The markup of block nodes. -/
def setBlocks (context : Context) (mode : Mode) (nodes : List Node) : Except SetError Text :=
  return arrange .block nodes (← setNodes context.env .block mode nodes)

/-- The markup of a page. -/
def setPage (context : Context) (page : Text) : Except SetError Text :=
  setBlocks context .full (Markup.parse page)

end Bindery.Typeset
