import Bindery.Pairs
import Mathlib.Data.List.Basic
import Mathlib.Data.List.Induction

namespace Bindery.Pairs

theorem ofList_concat (pairs : List (Text × Text)) (pair : Text × Text) :
    ofList (pairs ++ [pair]) = set pair.1 pair.2 (ofList pairs) := by
  rw [ofList, List.foldl_append]
  rfl

/-- The last pair with a key gives its value. -/
theorem get?_ofList (key : Text) (pairs : List (Text × Text)) :
    get? key (ofList pairs) = get? key pairs.reverse := by
  induction pairs using List.reverseRecOn with
  | nil => rfl
  | append_singleton pairs pair ih =>
    rw [ofList_concat, get?_set, ih, List.reverse_concat, get?]

theorem keys_set (key value : Text) (pairs : Pairs) :
    (set key value pairs).map Prod.fst =
      if key ∈ pairs.map Prod.fst then pairs.map Prod.fst else pairs.map Prod.fst ++ [key] := by
  induction pairs with
  | nil => rfl
  | cons pair pairs ih =>
    rw [set]
    by_cases hkey : pair.1 = key
    · simp [hkey]
    · rw [if_neg (by simpa using hkey), List.map_cons, ih, List.map_cons]
      by_cases hmem : key ∈ pairs.map Prod.fst
      · rw [if_pos hmem, if_pos (List.mem_cons_of_mem _ hmem)]
      · rw [if_neg hmem, if_neg (by simp [Ne.symm hkey, hmem]), List.cons_append]

/-- The keys stand in the order in which they first occur. -/
theorem keys_ofList (pairs : List (Text × Text)) :
    (ofList pairs).map Prod.fst = (pairs.map Prod.fst).eraseDups := by
  induction pairs using List.reverseRecOn with
  | nil => rfl
  | append_singleton pairs pair ih =>
    rw [ofList_concat, keys_set, ih, List.map_append, List.eraseDups_append, List.map_singleton]
    by_cases hmem : pair.1 ∈ pairs.map Prod.fst
    · have hnone : [pair.1].removeAll (pairs.map Prod.fst) = [] := by simp [List.removeAll, hmem]
      rw [if_pos (List.mem_eraseDups.2 hmem), hnone, List.eraseDups_nil, List.append_nil]
    · have hone : [pair.1].removeAll (pairs.map Prod.fst) = [pair.1] := by
        simp [List.removeAll, hmem]
      rw [if_neg fun h => hmem (List.mem_eraseDups.1 h), hone]
      rfl

theorem set_of_not_mem {key : Text} (value : Text) {pairs : Pairs}
    (h : key ∉ pairs.map Prod.fst) : set key value pairs = pairs ++ [(key, value)] := by
  induction pairs with
  | nil => rfl
  | cons pair pairs ih =>
    rw [List.map_cons, List.mem_cons, not_or] at h
    have hkey : ¬(pair.1 == key) = true := by simpa using Ne.symm h.1
    rw [set, if_neg hkey, ih h.2, List.cons_append]

theorem foldl_set_of_nodup (done : Pairs) {pairs : Pairs}
    (h : ((done ++ pairs).map Prod.fst).Nodup) :
    pairs.foldl (fun set' (k, v) => set k v set') done = done ++ pairs := by
  induction pairs generalizing done with
  | nil => simp
  | cons pair pairs ih =>
    have hnew : pair.1 ∉ done.map Prod.fst := by
      rw [List.map_append, List.nodup_append] at h
      intro hmem
      exact h.2.2 _ hmem _ (by simp) rfl
    have hset := set_of_not_mem pair.2 hnew
    rw [List.append_cons] at h ⊢
    rw [List.foldl_cons]
    simp only [hset, ih _ h]

/-- Pairs with distinct keys are set as they stand. -/
theorem ofList_of_nodup {pairs : Pairs} (h : (pairs.map Prod.fst).Nodup) :
    ofList pairs = pairs :=
  foldl_set_of_nodup [] h

end Bindery.Pairs
