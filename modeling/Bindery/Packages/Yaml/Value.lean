import Bindery.Packages.Yaml.Node
import Bindery.Packages.Yaml.Word

namespace Bindery.Yaml

/-- A finite number times a power of two, as a whole number of halves of halves. -/
def scaledEq (m : Int) (e : Int) (n : Int) : Bool :=
  if 0 ≤ e then m * Nat.pow 2 e.toNat == n else m == n * Nat.pow 2 (-e).toNat

/-- The whole number that a value counts as. -/
def countOf? : Value → Option Int
  | .bool b => some (if b then 1 else 0)
  | .int n => some n
  | _ => none

/-- Whether a floating point number equals a whole one. -/
def floatEq (x : Double) (n : Int) : Bool :=
  match x with
  | .finite negative m e => scaledEq (if negative then -(m : Int) else m) e n
  | _ => false

/-- Whether two floating point numbers are equal: both zeros are, and what is no number is not
    equal to itself. -/
def floatsEq (x y : Double) : Bool :=
  match x, y with
  | .finite _ 0 _, .finite _ 0 _ => true
  | .nan, _ => false
  | x, y => x == y

mutual

/-- Whether two values are the same key. Numbers are compared by their values, and yes and no count
    as one and zero. -/
def sameKey : Value → Value → Bool
  | .null, .null => true
  | .text s, .text t => s == t
  | .float x, .float y => floatsEq x y
  | .float x, b => (countOf? b).any (floatEq x)
  | a, .float y => (countOf? a).any (floatEq y)
  | .date y m d, .date y' m' d' => y == y' && m == m' && d == d'
  | .moment y m d h n s u, .moment y' m' d' h' n' s' u' =>
    y == y' && m == m' && d == d' && h == h' && n == n' && s == s' && u == u'
  | .list items, .list items' => sameKeys items items'
  | a, b => (countOf? a).isSome && countOf? a == countOf? b

/-- Whether two lists are the same key. -/
def sameKeys : List Value → List Value → Bool
  | [], [] => true
  | a :: as, b :: bs => sameKey a b && sameKeys as bs
  | _, _ => false

end

/-- The entries with a key set to a value, in the place of the key if it is there. -/
def setEntry (key value : Value) : List (Value × Value) → List (Value × Value)
  | [] => [(key, value)]
  | (k, v) :: rest =>
    if sameKey k key then (k, value) :: rest else (k, v) :: setEntry key value rest

/-- Whether no key comes twice. -/
def distinctKeys : List (Value × Value) → Bool
  | [] => true
  | (key, _) :: rest => !(rest.any fun entry => sameKey entry.1 key) && distinctKeys rest

/-- The kind that a standard tag names. -/
def standardTag? (tag : Text) : Option Text :=
  Text.afterStart? "tag:yaml.org,2002:".toList tag

/-- The value of a scalar. Without a tag a plain one is read as a word and any other is a text. -/
def scalarValue (properties : Properties) (text : Text) (isPlain : Bool) : Except Fault Value :=
  match properties.tag with
  | none => if isPlain then wordValue text else .ok (.text text)
  | some ['!'] => wordValue text
  | some tag =>
    match standardTag? tag with
    | none => .error .malformed
    | some kind =>
      if kind == "str".toList then .ok (.text text)
      else if kind == "int".toList then (whole text).map .int
      else if kind == "float".toList then (float text).map .float
      else if kind == "null".toList then .ok .null
      else if kind == "bool".toList then
        ((bool? (text.map Char.toLower)).map fun b => Except.ok (.bool b)).getD (.error .malformed)
      else if kind == "timestamp".toList then (date? text).getD (.error .malformed)
      else .error .malformed

/-- Whether a list or a map may have the tag. -/
def allowsTag (kind : String) (properties : Properties) : Bool :=
  match properties.tag with
  | none => true
  | some tag => tag == ['!'] || standardTag? tag == some kind.toList

/-- Whether a key is the plain word that merges a map. -/
def isMergeKey : Node → Bool
  | .scalar ⟨_, none⟩ text isPlain => isPlain && text == mergeWord
  | _ => false

/-- Whether a key is a plain equals sign, which as a key is a text. -/
def isEqualsKey : Node → Bool
  | .scalar ⟨_, none⟩ text isPlain => isPlain && text == ['=']
  | _ => false

/-- Whether a value can be a key. -/
def canBeKey : Value → Bool
  | .map _ => false
  | _ => true

/-- The entries that a merged value gives: those of a map, or of a list of maps, of which the first
    counts most. -/
def mergedEntries? : Value → Option (List (Value × Value))
  | .map entries => some entries
  | .list items => (items.reverse.mapM entriesOf?).map List.flatten
  | _ => none
where
  /-- The entries of a map. -/
  entriesOf? : Value → Option (List (Value × Value))
    | .map entries => some entries
    | _ => none

/-- The values of the anchors so far, last first. -/
abbrev Anchors := List (Text × Value)

/-- A step of the reading of a document, with the anchors so far. -/
abbrev Valued := StateT Anchors (Except Fault)

/-- Keeps the value of a node that has an anchor. -/
def remember (properties : Properties) (value : Value) : Valued Value := do
  if let some name := properties.anchor then modify ((name, value) :: ·)
  return value

/-- The entries of a map as far as they have been read. -/
structure MapParts where
  merged : List (Value × Value)
  own : List (Value × Value)

/-- The map of its parts. Only a map without merged entries refuses a key that comes twice. -/
def MapParts.value (parts : MapParts) : Except Fault Value :=
  if parts.merged.isEmpty && !distinctKeys parts.own then .error .malformed
  else
    let entries := parts.merged ++ parts.own
    .ok (.map (entries.foldl (fun found (key, value) => setEntry key value found) []))

mutual

/-- The value of a node. -/
def nodeValue : Node → Valued Value
  | .alias name => do
    match (← get).lookup name with
    | some value => return value
    | none => throw .malformed
  | .scalar properties text isPlain => do
    remember properties (← liftM (scalarValue properties text isPlain))
  | .list properties items => do
    if !allowsTag "seq" properties then throw .malformed
    remember properties (.list (← itemValues items))
  | .map properties entries => do
    if !allowsTag "map" properties then throw .malformed
    let parts ← entryValues entries
    remember properties (← liftM (MapParts.value parts))

/-- The values of the items of a list. -/
def itemValues : List Node → Valued (List Value)
  | [] => return []
  | item :: rest => return (← nodeValue item) :: (← itemValues rest)

/-- The parts of a map. A second merge after one that gave something is refused. -/
def entryValues : List (Node × Node) → Valued MapParts
  | [] => return ⟨[], []⟩
  | (key, node) :: rest => do
    if isMergeKey key then
      let value ← nodeValue node
      let parts ← entryValues rest
      match mergedEntries? value with
      | some entries =>
        if !entries.isEmpty && rest.any (fun entry => isMergeKey entry.1) then throw .malformed
        return { parts with merged := entries ++ parts.merged }
      | none => throw .malformed
    else
      let keyValue ← if isEqualsKey key then pure (.text ['=']) else nodeValue key
      if !canBeKey keyValue then throw .malformed
      let value ← nodeValue node
      let parts ← entryValues rest
      return { parts with own := (keyValue, value) :: parts.own }

end

/-- The value of the only document of a text; an empty text has none. -/
def load (s : Text) : Except Fault Value :=
  match (tokens? s).bind document? with
  | none => .error .malformed
  | some none => .ok .null
  | some (some node) => ((nodeValue node).run []).map Prod.fst

end Bindery.Yaml
