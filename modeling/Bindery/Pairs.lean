import Bindery.Text.Basic

namespace Bindery

/-- Texts by key, in order of first setting. -/
abbrev Pairs := List (Text × Text)

namespace Pairs

/-- The value of a key. -/
def get? (key : Text) : Pairs → Option Text
  | [] => none
  | (k, v) :: rest => if k == key then some v else get? key rest

/-- The value of a key, the empty text when it is not set. -/
def get (key : Text) (pairs : Pairs) : Text :=
  (get? key pairs).getD []

/-- The pairs with a key set to a value. -/
def set (key value : Text) : Pairs → Pairs
  | [] => [(key, value)]
  | (k, v) :: rest => if k == key then (k, value) :: rest else (k, v) :: set key value rest

/-- The result of setting pairs in their order. -/
def ofList (pairs : List (Text × Text)) : Pairs :=
  pairs.foldl (fun set' (k, v) => set k v set') []

theorem get?_set (key value : Text) (pairs : Pairs) (k : Text) :
    get? k (set key value pairs) = if key == k then some value else get? k pairs := by
  induction pairs with
  | nil => simp [set, get?]
  | cons pair rest ih =>
    obtain ⟨k', v'⟩ := pair
    rw [set]
    split <;> simp only [get?] <;> grind

end Pairs

end Bindery
