import Bindery.Packages.Yaml.Token

namespace Bindery.Yaml

/-- What may be written before a node. -/
structure Properties where
  anchor : Option Text
  /-- The full name of the tag; a single exclamation mark asks for the usual one. -/
  tag : Option Text
  deriving DecidableEq, Repr, Inhabited

/-- No anchor and no tag. -/
def Properties.none : Properties :=
  ⟨.none, .none⟩

/-- A node. -/
inductive Node where
  /-- The node that has the anchor of this name. -/
  | alias (name : Text)
  | scalar (properties : Properties) (text : Text) (isPlain : Bool)
  | list (properties : Properties) (items : List Node)
  | map (properties : Properties) (entries : List (Node × Node))
  deriving Inhabited, Repr

/-- The node where nothing is written, or nothing but its properties. -/
def Node.empty (properties : Properties) : Node :=
  .scalar properties [] true

/-- The texts that the handles of tags stand for. -/
abbrev Handles := List (Text × Text)

/-- The handles that need no directive. -/
def standardHandles : Handles :=
  [(['!'], ['!']), (['!', '!'], "tag:yaml.org,2002:".toList)]

/-- The full name of a tag. -/
def fullTag? (handles : Handles) (handle : Option Text) (suffix : Text) : Option Text :=
  match handle with
  | none => some suffix
  | some handle => (handles.lookup handle).map (· ++ suffix)

/-- How a list or a map is told from what surrounds it. -/
inductive Style
  /-- By its indentation. -/
  | block
  /-- By brackets. -/
  | flow
  /-- By nothing: it ends before any token that does not belong to it. Such are a list below a key
      with the indentation of the key, and a single entry of a map in a list between brackets. -/
  | bare
  deriving DecidableEq

/-- What of a map has been read behind its last complete entry. -/
inductive Part
  /-- Nothing, and another entry needs no comma. -/
  | fresh
  | nothing
  /-- The announcement of a key. -/
  | beforeKey
  | key (node : Node)
  /-- A key and the colon behind it. -/
  | beforeValue (key : Node)
  /-- Nothing, and a node follows that is a key without a value. -/
  | beforeLoneKey

/-- A list or a map that is being read, last item or entry first. -/
inductive Open
  | list (style : Style) (properties : Properties) (items : List Node) (fresh : Bool)
  | map (style : Style) (properties : Properties) (entries : List (Node × Node)) (part : Part)

/-- A document that is being read, with the innermost open part first. -/
structure Reading where
  opened : List Open
  /-- The properties of the node that is due, if one is. -/
  due : Option Properties
  /-- The node of the whole document, once it has been read. -/
  root : Option Node

namespace Reading

/-- The reading with a list or a map in which a node is due. -/
def expect (opened : List Open) : Reading :=
  ⟨opened, some .none, none⟩

/-- The reading with a list or a map in which no node is due. -/
def within (opened : List Open) : Reading :=
  ⟨opened, none, none⟩

/-- The reading with the node that was due. -/
def put (node : Node) : List Open → Reading
  | [] => ⟨[], none, some node⟩
  | .list style properties items _ :: rest =>
    within (.list style properties (node :: items) false :: rest)
  | .map style properties entries part :: rest =>
    match part with
    | .beforeValue key =>
      within (.map style properties ((key, node) :: entries) .nothing :: rest)
    | .beforeLoneKey =>
      within (.map style properties ((node, .empty .none) :: entries) .nothing :: rest)
    | _ => within (.map style properties entries (.key node) :: rest)

/-- The entries of a map with a key that has been left without a value. -/
def complete (entries : List (Node × Node)) : Part → List (Node × Node)
  | .key key => (key, .empty .none) :: entries
  | _ => entries

/-- The reading with the innermost list or map as a node. -/
def close : List Open → Reading
  | .list _ properties items _ :: rest => put (.list properties items.reverse) rest
  | .map _ properties entries part :: rest =>
    put (.map properties (complete entries part).reverse) rest
  | [] => within []

/-- The reading with one more token where no node is due, none if the token must not come. A key
    that is followed by no colon has an empty value, and a colon without a key has an empty key. -/
def separator? (opened : List Open) (token : Token) : Option Reading :=
  match opened, token with
  | .list .block p items _ :: rest, .entry => some (expect (.list .block p items false :: rest))
  | .list .block _ _ _ :: _, .blockEnd => some (close opened)
  | .list .bare p items _ :: rest, .entry => some (expect (.list .bare p items false :: rest))
  | .list .flow p items _ :: rest, .comma => some (within (.list .flow p items true :: rest))
  | .list .flow _ _ _ :: _, .closeList => some (close opened)
  | .map .block p entries (.key key) :: rest, .value =>
    some (expect (.map .block p entries (.beforeValue key) :: rest))
  | .map .block p entries _ :: rest, .value =>
    some (expect (.map .block p entries (.beforeValue (.empty .none)) :: rest))
  | .map .block p entries part :: rest, .key =>
    some (expect (.map .block p (complete entries part) .beforeKey :: rest))
  | .map .block _ _ _ :: _, .blockEnd => some (close opened)
  | .map style p entries (.key key) :: rest, .value =>
    some (expect (.map style p entries (.beforeValue key) :: rest))
  | .map .flow p entries part :: rest, .comma =>
    some (within (.map .flow p (complete entries part) .fresh :: rest))
  | .map .flow _ _ _ :: _, .closeMap => some (close opened)
  | _, _ => none

/-- Whether the innermost list or map ends before the token. -/
def endsBefore (opened : List Open) (token : Token) : Bool :=
  match opened, token with
  | .list .bare _ _ _ :: _, .entry => false
  | .list .bare _ _ _ :: _, _ => true
  | .map .bare _ _ (.key _) :: _, .value => false
  | .map .bare _ _ _ :: _, _ => true
  | _, _ => false

/-- The reading with one more token where no node is due. -/
def after? (opened : List Open) (token : Token) : Option Reading :=
  if endsBefore opened token then separator? (close opened).opened token
  else separator? opened token

/-- Whether the node that is due stands between brackets. -/
def inFlow : List Open → Bool
  | .list .flow _ _ _ :: _ => true
  | .map .flow _ _ _ :: _ => true
  | .map .bare _ _ _ :: _ => true
  | _ => false

/-- Whether the node that is due may be left out altogether. -/
def maybeEmpty : List Open → Bool
  | .list .flow _ _ _ :: _ => false
  | .map _ _ _ .beforeLoneKey :: _ => false
  | [] => false
  | _ => true

/-- Whether the node that is due is a key or a value of a map outside of brackets. -/
def inBlockMap : List Open → Bool
  | .map .block _ _ _ :: _ => true
  | _ => false

/-- The reading with one more token where a node is due. -/
def node? (handles : Handles) (opened : List Open) (p : Properties) (token : Token) :
    Option Reading :=
  match token with
  | .anchor name =>
    if p.anchor.isSome then none else some ⟨opened, some { p with anchor := some name }, none⟩
  | .tag handle suffix => do
    let tag ← fullTag? handles handle suffix
    if p.tag.isSome then none else some ⟨opened, some { p with tag := some tag }, none⟩
  | .alias name => if p == .none then some (put (.alias name) opened) else none
  | .scalar text isPlain => some (put (.scalar p text isPlain) opened)
  | .openList => some (within (.list .flow p [] true :: opened))
  | .openMap => some (within (.map .flow p [] .fresh :: opened))
  | .blockList => if inFlow opened then none else some (within (.list .block p [] false :: opened))
  | .blockMap => if inFlow opened then none else some (within (.map .block p [] .nothing :: opened))
  | token =>
    if token == .entry && inBlockMap opened then some (expect (.list .bare p [] false :: opened))
    else if p != .none || maybeEmpty opened then after? (put (.empty p) opened).opened token
    else none

/-- The reading with one more token; none if the token must not come. -/
def step? (handles : Handles) (reading : Reading) (token : Token) : Option Reading :=
  match reading.due, reading.opened, token with
  | some p, opened, token => node? handles opened p token
  | none, .list .flow p items true :: rest, .closeList =>
    some (close (.list .flow p items true :: rest))
  | none, .list .flow p items true :: rest, .key =>
    some (expect (.map .bare .none [] .beforeKey :: .list .flow p items false :: rest))
  | none, .list .flow p items true :: rest, token =>
    node? handles (.list .flow p items false :: rest) .none token
  | none, .map .flow p entries .fresh :: rest, .closeMap =>
    some (close (.map .flow p entries .fresh :: rest))
  | none, .map .flow p entries .fresh :: rest, .key =>
    some (expect (.map .flow p entries .beforeKey :: rest))
  | none, .map .flow p entries .fresh :: rest, .value =>
    some (expect (.map .flow p entries (.beforeValue (.empty .none)) :: rest))
  | none, .map .flow p entries .fresh :: rest, token =>
    node? handles (.map .flow p entries .beforeLoneKey :: rest) .none token
  | none, opened, token => after? opened token

/-- The node of a document that ends here. -/
def finish? (reading : Reading) : Option Node :=
  match reading.opened, reading.due, reading.root with
  | [], none, some node => some node
  | [], some p, _ => if p == .none then none else some (.empty p)
  | _, _, _ => none

end Reading

/-- Whether a token stands between documents. -/
def Token.isOutside : Token → Bool
  | .version _ _ => true
  | .tagPrefix _ _ => true
  | .reserved => true
  | .documentStart => true
  | .documentEnd => true
  | _ => false

/-- The handles that directives give, and the tokens behind the beginning of the document. -/
def directives? (versionSeen : Bool) (handles : Handles) :
    List Token → Option (Handles × List Token)
  | .version major _ :: rest =>
    if versionSeen || major != 1 then none else directives? true handles rest
  | .tagPrefix handle start :: rest =>
    if (handles.lookup handle).isSome then none
    else directives? versionSeen ((handle, start) :: handles) rest
  | .reserved :: rest => directives? versionSeen handles rest
  | .documentStart :: rest => some (handles ++ standardHandles, rest)
  | _ => none

/-- The node that the tokens of a document make. -/
def content? (handles : Handles) (tokens : List Token) : Option Node :=
  (tokens.foldlM (Reading.step? handles) (.expect [])).bind Reading.finish?

/-- The node of the only document among the tokens, or nothing if there is none at all. -/
def document? (tokens : List Token) : Option (Option Node) :=
  match tokens with
  | [] => some none
  | first :: _ => do
    let announced := first.isOutside && first != .documentEnd
    let (handles, tokens) ←
      if announced then directives? false [] tokens else some (standardHandles, tokens)
    let body := tokens.takeWhile (!·.isOutside)
    let ending := tokens.dropWhile (!·.isOutside)
    let node ←
      if announced && body.isEmpty then some (.empty .none) else content? handles body
    if ending == [] || ending == [.documentEnd] then some (some node) else none

end Bindery.Yaml
