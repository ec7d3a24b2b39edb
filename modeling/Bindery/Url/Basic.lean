import Bindery.Text.Casing
import Bindery.Text.Quoted
import Bindery.Url.Address

namespace Bindery

/-- Why a destination cannot be read. -/
inductive UrlError
  /-- A bracket of the network location has no partner, or text stands beside the brackets. -/
  | brackets
  /-- The host in brackets announces a later version of the address form and is not one. -/
  | futureAddress
  /-- The host in brackets is a dotted address. -/
  | dottedAddress
  /-- The host in brackets is no address. -/
  | notAddress (host : Text)
  /-- A character of the network location is equivalent to one that would end it. -/
  | lookalike (location : Text)
  deriving DecidableEq, Repr

/-- The wording of an error. -/
def UrlError.message : UrlError → Text
  | .brackets => "Invalid IPv6 URL".toList
  | .futureAddress => "IPvFuture address is invalid".toList
  | .dottedAddress => "An IPv4 address cannot be in brackets".toList
  | .notAddress host =>
    Text.quoted host ++ " does not appear to be an IPv4 or IPv6 address".toList
  | .lookalike location =>
    "netloc '".toList ++ location ++
      "' contains invalid characters under NFKC normalization".toList

/-- A destination cut into its parts; a part that is absent is empty. -/
structure Url where
  scheme : Text
  location : Text
  path : Text
  deriving DecidableEq, Repr

namespace Url

open Text

/-- Characters of a scheme. -/
def isSchemeChar (c : Char) : Bool :=
  c.isAlphanum || c == '+' || c == '-' || c == '.'

/-- The text as it is read: without spaces and controls at its beginning, and without tabs and
    line ends anywhere. -/
def clean (s : Text) : Text :=
  (s.dropWhile fun c => c.toNat ≤ 32).filter fun c => c != '\t' && c != '\r' && c != '\n'

/-- The scheme in lower case and what follows its colon. -/
def cutScheme (s : Text) : Text × Text :=
  match cutAt? [':'] s with
  | some (scheme@(first :: _), rest) =>
    if first.isAlpha && scheme.all isSchemeChar then (scheme.map Char.toLower, rest) else ([], s)
  | _ => ([], s)

/-- Characters that end a network location. -/
def endsLocation (c : Char) : Bool :=
  c == '/' || c == '?' || c == '#'

/-- The network location, which two slashes open, and what follows it. -/
def cutLocation (s : Text) : Text × Text :=
  match afterStart? ['/', '/'] s with
  | some rest => (rest.takeWhile (!endsLocation ·), rest.dropWhile (!endsLocation ·))
  | none => ([], s)

/-- The path, without the query and the fragment. -/
def cutPath (s : Text) : Text :=
  (s.takeWhile (· != '#')).takeWhile (· != '?')

/-- What follows the last at sign, or the whole text. -/
def afterUser (s : Text) : Text :=
  (s.reverse.takeWhile (· != '@')).reverse

/-- Whether the host is an address of a later version: a letter v, hexadecimal digits, a dot and
    more. -/
def isFutureAddress (host : Text) : Bool :=
  let rest := host.drop 1
  let digits := rest.takeWhile isHexDigit
  !digits.isEmpty &&
    match rest.dropWhile isHexDigit with
    | '.' :: _ :: _ => true
    | _ => false

/-- Accepts what may stand between brackets as a host. -/
def checkHost (host : Text) : Except UrlError Unit :=
  if host.head? == some 'v' then
    if isFutureAddress host then .ok () else .error .futureAddress
  else if isDotted host then .error .dottedAddress
  else if isLongAddress host then .ok ()
  else .error (.notAddress host)

/-- Accepts a location that holds both brackets. -/
def checkBracketed (location : Text) : Except UrlError Unit :=
  let s := afterUser location
  match cutAt? ['['] s with
  | some (before, rest) =>
    if !before.isEmpty then .error .brackets
    else
      let behind := (rest.dropWhile (· != ']')).drop 1
      if !behind.isEmpty && behind.head? != some ':' then .error .brackets
      else checkHost (rest.takeWhile (· != ']'))
  | none => checkHost (s.takeWhile (· != ':'))

/-- Accepts a location by its brackets. -/
def checkBrackets (location : Text) : Except UrlError Unit :=
  match location.contains '[', location.contains ']' with
  | true, true => checkBracketed location
  | false, false => .ok ()
  | _, _ => .error .brackets

/-- Characters whose compatibility form holds one of `/`, `?`, `#`, `@` and `:`. -/
def lookalikes : List Nat :=
  [0x2047, 0x2048, 0x2049, 0x2100, 0x2101, 0x2105, 0x2106, 0x2A74, 0xFE13, 0xFE16, 0xFE55, 0xFE56,
   0xFE5F, 0xFE6B, 0xFF03, 0xFF0F, 0xFF1A, 0xFF1F, 0xFF20]

/-- Accepts a location without a character that could be taken for one that ends it. -/
def checkLookalikes (location : Text) : Except UrlError Unit :=
  if location.any fun c => lookalikes.contains c.toNat then .error (.lookalike location) else .ok ()

/-- The parts of a destination. -/
def parse (s : Text) : Except UrlError Url := do
  let (scheme, rest) := cutScheme (clean s)
  let (location, rest) := cutLocation rest
  checkBrackets location
  checkLookalikes location
  return ⟨scheme, location, cutPath rest⟩

/-- How a destination is treated. -/
inductive Kind
  /-- A place in the documentation itself. -/
  | inside
  | mail
  /-- Any other destination. -/
  | outside
  deriving DecidableEq, Repr

/-- The kind of a destination: one that starts with a slash or a number sign, or has no scheme,
    lies inside. -/
def kind (s : Text) : Except UrlError Kind := do
  let scheme := (← parse s).scheme
  if s.head? == some '/' || s.head? == some '#' || scheme.isEmpty then return .inside
  if scheme == "mailto".toList then return .mail
  return .outside

/-- Whether the destination is fetched over the web. -/
def isRemote (s : Text) : Except UrlError Bool := do
  let scheme := (← parse s).scheme
  return scheme == "http".toList || scheme == "https".toList

end Url

end Bindery
