import Bindery.Text.Quoted

namespace Bindery

/-- What a path starts from. -/
inductive Anchor
  /-- A place that is known otherwise, such as a working directory. -/
  | here
  /-- The root of the file tree. -/
  | root
  /-- The root that two slashes stand for. -/
  | doubleRoot
  deriving DecidableEq, Repr

/-- The slashes that an anchor is written with. -/
def Anchor.text : Anchor → Text
  | .here => []
  | .root => ['/']
  | .doubleRoot => ['/', '/']

/-- A path: where it starts and the names of the steps from there. -/
structure Path where
  anchor : Anchor
  segments : List Text
  deriving DecidableEq, Repr

namespace Path

/-- The names between the slashes of a text that are steps. -/
def steps (s : Text) : List Text :=
  (Text.splitOn '/' s).filter fun name => !name.isEmpty && name != ['.']

/-- The anchor that the slashes at the beginning of a text stand for. -/
def anchorOf : Text → Anchor
  | '/' :: '/' :: '/' :: _ => .root
  | '/' :: '/' :: _ => .doubleRoot
  | '/' :: _ => .root
  | _ => .here

/-- The path that a text stands for. -/
def parse (s : Text) : Path :=
  ⟨anchorOf s, steps s⟩

/-- The segments with slashes between them; a single dot where there is none. -/
def relativeText (segments : List Text) : Text :=
  if segments.isEmpty then ['.'] else Text.joinWith ['/'] segments

/-- The path as it is written. -/
def text (p : Path) : Text :=
  match p.anchor with
  | .here => relativeText p.segments
  | anchor => anchor.text ++ Text.joinWith ['/'] p.segments

/-- Whether the path starts from a root. -/
def isAbsolute (p : Path) : Bool :=
  p.anchor != .here

/-- Whether the path has the character zero, which no file name has. -/
def hasZero (p : Path) : Bool :=
  p.segments.any (·.contains '\x00')

/-- What is said of a path with the character zero. -/
def zeroNote : Text :=
  "embedded null byte".toList

/-- The second path seen from the first; an absolute path is the same from everywhere. -/
def join (p q : Path) : Path :=
  if q.isAbsolute then q else ⟨p.anchor, p.segments ++ q.segments⟩

/-- The path of a name or of several steps below a path. -/
def child (p : Path) (s : Text) : Path :=
  p.join (parse s)

/-- The path without its last step. -/
def parent (p : Path) : Path :=
  ⟨p.anchor, p.segments.dropLast⟩

/-- The steps with each `..` taken back, together with the step before it where there is one. The
    steps done are held last step first. -/
def resolveSteps (done : List Text) : List Text → List Text
  | [] => done.reverse
  | name :: rest =>
    if name == ['.', '.'] then resolveSteps (done.drop 1) rest
    else resolveSteps (name :: done) rest

/-- The absolute path with each `..` taken back; both roots are the same place. -/
def resolve (p : Path) : Path :=
  ⟨.root, resolveSteps [] p.segments⟩

/-- Why a path has no place below another one. -/
structure OutsideError where
  path : Path
  root : Path
  deriving DecidableEq, Repr

/-- The wording of an error. -/
def OutsideError.message (e : OutsideError) : Text :=
  Text.quoted e.path.text ++ " is not in the subpath of ".toList ++ Text.quoted e.root.text ++
    " OR one path is relative and the other is absolute.".toList

/-- The longest list with which both lists begin. -/
def sharedStart : List Text → List Text → List Text
  | a :: as, b :: bs => if a == b then a :: sharedStart as bs else []
  | _, _ => []

/-- What follows the first list in the second, if that begins with it. -/
def stepsBelow? : List Text → List Text → Option (List Text)
  | [], steps => some steps
  | _ :: _, [] => none
  | a :: as, b :: bs => if a == b then stepsBelow? as bs else none

/-- The steps from the second path down to the first. -/
def stepsFrom (p root : Path) : Except OutsideError (List Text) :=
  if p.anchor == root.anchor then
    match stepsBelow? root.segments p.segments with
    | some steps => .ok steps
    | none => .error ⟨p, root⟩
  else .error ⟨p, root⟩

/-- The deepest place that both paths lie below. Paths with nothing in common have the anchor of
    the first, or the root when that starts nowhere. -/
def commonRoot (p q : Path) : Path :=
  if p.anchor == q.anchor then
    match p.anchor, sharedStart p.segments q.segments with
    | .here, [] => ⟨.root, []⟩
    | anchor, segments => ⟨anchor, segments⟩
  else if p.isAbsolute then ⟨p.anchor, []⟩
  else ⟨.root, []⟩

end Path

end Bindery
