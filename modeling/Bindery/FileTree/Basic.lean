import Bindery.Path.Basic

namespace Bindery

/-- A file with its content, or a directory with its entries by name. -/
inductive FileTree where
  | file (bytes : List UInt8)
  | dir (entries : List (Text × FileTree))
  deriving Inhabited, Repr

namespace FileTree

/-- The entry with the given name. -/
def child? (name : Text) : List (Text × FileTree) → Option FileTree
  | [] => none
  | (n, tree) :: rest => if n == name then some tree else child? name rest

/-- The entries with one of them put in place of the entry of its name, or at the end. -/
def setEntry (name : Text) (tree : FileTree) : List (Text × FileTree) → List (Text × FileTree)
  | [] => [(name, tree)]
  | (n, old) :: rest => if n == name then (n, tree) :: rest else (n, old) :: setEntry name tree rest

theorem child?_setEntry (name : Text) (tree : FileTree) (entries : List (Text × FileTree))
    (n : Text) :
    child? n (setEntry name tree entries) = if name == n then some tree else child? n entries := by
  induction entries with
  | nil => simp [setEntry, child?]
  | cons entry rest ih =>
    obtain ⟨n', old⟩ := entry
    rw [setEntry]
    split <;> simp only [child?] <;> grind

/-- What lies at the end of the given steps. -/
def at? : FileTree → List Text → Option FileTree
  | tree, [] => some tree
  | .file _, _ :: _ => none
  | .dir entries, name :: rest => (child? name entries).bind (at? · rest)

/-- The tree with the given one at the end of the steps. Directories on the way are made where
    there is nothing; a file on the way keeps everything as it is. -/
def insert : FileTree → (steps : List Text) → (value : FileTree) → FileTree
  | _, [], value => value
  | .file bytes, _ :: _, _ => .file bytes
  | .dir entries, name :: rest, value =>
    .dir (setEntry name (insert ((child? name entries).getD (.dir [])) rest value) entries)

/-- Whether a file lies on the way. -/
def blocked : FileTree → List Text → Bool
  | _, [] => false
  | .file _, _ :: _ => true
  | .dir entries, name :: rest =>
    match child? name entries with
    | some tree => blocked tree rest
    | none => false

theorem at?_insert_self {tree value : FileTree} {steps : List Text}
    (h : tree.blocked steps = false) : (tree.insert steps value).at? steps = some value := by
  induction steps generalizing tree with
  | nil => simp [insert, at?]
  | cons name rest ih =>
    cases tree with
    | file bytes => simp [blocked] at h
    | dir entries =>
      rw [insert, at?, child?_setEntry]
      simp only [beq_self_eq_true, if_true, Option.bind_some]
      apply ih
      rw [blocked] at h
      split at h
      · next heq => simpa [heq] using h
      · next heq =>
        rw [heq]
        cases rest <;> simp [blocked, child?]

end FileTree

end Bindery
