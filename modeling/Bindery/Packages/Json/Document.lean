import Bindery.Packages.Json.Token

namespace Bindery

/-- A value of a JSON document. -/
inductive Json where
  | null
  | bool (value : Bool)
  /-- A whole number of 64 bits at most. -/
  | int
  /-- Any other number, which is infinite if it is too great. -/
  | float (value : Double)
  | string (bytes : Json.Bytes)
  /-- An array, and whether its text goes on to the closing bracket. -/
  | array (items : List Json) (closed : Bool)
  /-- An object with its fields in the order of the text, and whether that goes on to the closing
      brace. -/
  | object (fields : List (Json.Bytes × Json)) (closed : Bool)
  deriving Inhabited, Repr

namespace Json

/-- An array or an object that is being read; the part read so far has its last entry first. -/
inductive Open
  | array (items : List Json)
  | object (fields : List (Bytes × Json))
  /-- An object after the key of a field. -/
  | field (fields : List (Bytes × Json)) (key : Bytes)

/-- What has to come next. -/
inductive Expected
  | value
  /-- A value, or the end of an empty array. -/
  | item
  | key
  /-- A key, or the end of an empty object. -/
  | field
  | colon
  /-- A comma or the end of the innermost array or object. -/
  | more
  /-- Nothing, after the whole document. -/
  | ending

/-- A document that is being read, with the innermost open part first. -/
structure Reading where
  opened : List Open
  expected : Expected
  /-- The value of the whole document, once it has been read. -/
  root : Option Json

/-- Puts a value into the innermost open part. -/
def Reading.put (value : Json) : List Open → Reading
  | .array items :: rest => ⟨.array (value :: items) :: rest, .more, none⟩
  | .field fields key :: rest => ⟨.object ((key, value) :: fields) :: rest, .more, none⟩
  | .object fields :: rest => ⟨.object fields :: rest, .more, none⟩
  | [] => ⟨[], .ending, some value⟩

/-- The reading after a token that is a value or begins one; none for other tokens. -/
def Reading.value? (opened : List Open) : Token → Option Reading
  | .openArray => some ⟨.array [] :: opened, .item, none⟩
  | .openObject => some ⟨.object [] :: opened, .field, none⟩
  | .null => some (.put .null opened)
  | .bool b => some (.put (.bool b) opened)
  | .int => some (.put .int opened)
  | .float x => some (.put (.float x) opened)
  | .string bytes => some (.put (.string bytes) opened)
  | _ => none

/-- The reading after one more token; none where the token must not come. -/
def Reading.step? (reading : Reading) (token : Token) : Option Reading :=
  match reading.expected, reading.opened, token with
  | .item, .array items :: rest, .closeArray => some (.put (.array items.reverse true) rest)
  | .item, opened, token => Reading.value? opened token
  | .value, opened, token => Reading.value? opened token
  | .field, .object fields :: rest, .closeObject => some (.put (.object fields.reverse true) rest)
  | .field, .object fields :: rest, .string key => some ⟨.field fields key :: rest, .colon, none⟩
  | .key, .object fields :: rest, .string key => some ⟨.field fields key :: rest, .colon, none⟩
  | .colon, opened, .colon => some ⟨opened, .value, none⟩
  | .more, .array items :: rest, .comma => some ⟨.array items :: rest, .value, none⟩
  | .more, .array items :: rest, .closeArray => some (.put (.array items.reverse true) rest)
  | .more, .object fields :: rest, .comma => some ⟨.object fields :: rest, .key, none⟩
  | .more, .object fields :: rest, .closeObject => some (.put (.object fields.reverse true) rest)
  | _, _, _ => none

/-- The value that the open parts make as they are, around a value that is not finished itself. -/
def abandon (value : Option Json) : List Open → Option Json
  | [] => value
  | .array items :: rest => abandon (some (.array (value.toList ++ items).reverse false)) rest
  | .object fields :: rest => abandon (some (.object fields.reverse false)) rest
  | .field fields key :: rest =>
    abandon (some (.object ((value.map (key, ·)).toList ++ fields).reverse false)) rest

/-- What could be read of a document. -/
structure Document where
  root : Option Json
  /-- Whether the whole text is one value. -/
  complete : Bool

/-- What a reading that ends here has read. -/
def Reading.finish (reading : Reading) (proper : Bool) : Document :=
  match reading.root with
  | some value => ⟨some value, proper⟩
  | none => ⟨abandon none reading.opened, false⟩

/-- What the tokens add to a reading. -/
def Reading.run (reading : Reading) : List Token → Document
  | [] => reading.finish true
  | token :: rest =>
    match reading.step? token with
    | some next => next.run rest
    | none => reading.finish false

/-- The document that the bytes hold. -/
def Document.ofBytes (bytes : Bytes) : Document :=
  Reading.run ⟨[], .value, none⟩ (tokens bytes)

mutual

/-- Whether all of a value could be read. -/
def intact : Json → Bool
  | .array items closed => closed && intactItems items
  | .object fields closed => closed && intactFields fields
  | _ => true

/-- Whether all of the values could be read. -/
def intactItems : List Json → Bool
  | [] => true
  | item :: rest => intact item && intactItems rest

/-- Whether all of the values of the fields could be read. -/
def intactFields : List (Bytes × Json) → Bool
  | [] => true
  | (_, value) :: rest => intact value && intactFields rest

end

/-- The name of the kind of a value. -/
def kind : Json → String
  | .null => "null"
  | .bool _ => "bool"
  | .int => "int"
  | .float _ => "float"
  | .string _ => "str"
  | .array _ _ => "array"
  | .object _ _ => "object"

end Json

end Bindery
