import Bindery.FileTree.Access
import Bindery.Proofs.Typeset.Setting

namespace Bindery.FileTree

open Typeset

variable {tree before after : FileTree} {place way here other rest : List Text}
  {bytes : List UInt8} {path : Path}

/-- What there can be at a place, the entries of a directory apart: these have places of their
    own. -/
inductive Content
  | file (bytes : List UInt8)
  | dir
  deriving DecidableEq

/-- What a tree is at its own place. -/
def content : FileTree → Content
  | .file bytes => .file bytes
  | .dir _ => .dir

/-- What a tree has at a place. -/
def content? (tree : FileTree) (place : List Text) : Option Content :=
  (tree.at? place).map content

theorem content?_eq_none_iff : tree.content? place = none ↔ tree.at? place = none :=
  Option.map_eq_none_iff

theorem content?_eq_file_iff :
    tree.content? place = some (.file bytes) ↔ tree.at? place = some (.file bytes) := by
  rw [content?]
  cases tree.at? place with
  | none => simp
  | some found => cases found <;> simp [content]

theorem content?_eq_dir_iff :
    tree.content? place = some .dir ↔ ∃ entries, tree.at? place = some (.dir entries) := by
  rw [content?]
  cases tree.at? place with
  | none => simp
  | some found => cases found <;> simp [content]

theorem at?_append (tree : FileTree) (here rest : List Text) :
    tree.at? (here ++ rest) = (tree.at? here).bind (·.at? rest) := by
  induction here generalizing tree with
  | nil => rw [at?, List.nil_append, Option.bind_some]
  | cons name here ih =>
    cases tree with
    | file bytes => rfl
    | dir entries =>
      rw [List.cons_append, at?, at?]
      cases child? name entries with
      | none => rfl
      | some child => exact ih child

/-- Only a directory has anything below its own place. -/
theorem content?_eq_dir_of_above (habove : here <+: place) (hne : here ≠ place)
    (h : tree.content? place ≠ none) : tree.content? here = some .dir := by
  obtain ⟨rest, rfl⟩ := habove
  have hrest : rest ≠ [] := fun h => hne (by rw [h, List.append_nil])
  obtain ⟨name, rest, rfl⟩ := List.exists_cons_of_ne_nil hrest
  rw [ne_eq, content?_eq_none_iff, at?_append] at h
  cases hhere : tree.at? here with
  | none => exact absurd (by rw [hhere, Option.bind_none]) h
  | some found =>
    cases found with
    | file bytes => exact absurd (by rw [hhere, Option.bind_some, at?]) h
    | dir entries => exact content?_eq_dir_iff.2 ⟨entries, hhere⟩

theorem content?_eq_none_of_above (habove : here <+: place) (hne : here ≠ place)
    (h : tree.content? here ≠ some .dir) : tree.content? place = none :=
  Decidable.byContradiction fun hplace => h (content?_eq_dir_of_above habove hne hplace)

/-- A place that is neither above nor below the one where something is put keeps what it has. -/
theorem at?_insert_of_apart {value : FileTree} (hbelow : ¬way <+: place) (habove : ¬place <+: way) :
    (tree.insert way value).at? place = tree.at? place := by
  induction way generalizing tree place with
  | nil => exact absurd List.nil_prefix hbelow
  | cons name way ih =>
    cases place with
    | nil => exact absurd List.nil_prefix habove
    | cons other place =>
      cases tree with
      | file bytes => rfl
      | dir entries =>
        rw [insert, at?, at?, child?_setEntry]
        by_cases hname : name = other
        · subst hname
          rw [List.cons_prefix_cons, and_iff_right rfl] at hbelow habove
          rw [if_pos (beq_self_eq_true name), Option.bind_some, ih hbelow habove]
          cases child? name entries with
          | some child => rfl
          | none =>
            -- A directory that is made for the way has nothing else in it.
            obtain ⟨next, place, rfl⟩ := List.exists_cons_of_ne_nil
              (show place ≠ [] from fun h => habove (h ▸ List.nil_prefix))
            rfl
        · rw [if_neg (mt beq_iff_eq.1 hname)]

theorem content?_insert_above (value : FileTree) (hblocked : tree.blocked way = false)
    (habove : place <+: way) (hne : place ≠ way) :
    (tree.insert way value).content? place = some .dir := by
  refine content?_eq_dir_of_above habove hne ?_
  rw [ne_eq, content?_eq_none_iff, at?_insert_self hblocked]
  exact Option.some_ne_none value

theorem content?_insert_below (value : FileTree) (hblocked : tree.blocked way = false)
    (rest : List Text) :
    (tree.insert way value).content? (way ++ rest) = value.content? rest := by
  rw [content?, at?_append, at?_insert_self hblocked, Option.bind_some, content?]

/-- A way is blocked by a file that lies before its end. -/
theorem blocked_iff : tree.blocked way = true ↔
    ∃ here bytes, here <+: way ∧ here ≠ way ∧ tree.content? here = some (.file bytes) := by
  constructor
  · intro h
    fun_induction blocked tree way with
    | case1 => cases h
    | case2 bytes name rest => exact ⟨[], bytes, List.nil_prefix, by simp, rfl⟩
    | case3 entries name rest child hchild ih =>
      obtain ⟨here, bytes, habove, hne, hfile⟩ := ih h
      refine ⟨name :: here, bytes, List.cons_prefix_cons.2 ⟨rfl, habove⟩, by simpa using hne, ?_⟩
      rw [content?, at?, hchild, Option.bind_some]
      exact hfile
    | case4 => cases h
  · rintro ⟨here, bytes, habove, hne, hfile⟩
    induction here generalizing tree way with
    | nil =>
      obtain ⟨name, way, rfl⟩ := List.exists_cons_of_ne_nil (Ne.symm hne)
      cases tree with
      | file content => rfl
      | dir entries => cases hfile
    | cons name here ih =>
      obtain ⟨rest, rfl⟩ := habove
      cases tree with
      | file content => rfl
      | dir entries =>
        rw [content?, at?] at hfile
        rw [List.cons_append, blocked]
        cases hchild : child? name entries with
        | none => simp [hchild] at hfile
        | some child =>
          rw [hchild, Option.bind_some] at hfile
          exact ih (List.prefix_append here rest) (by simpa using hne) hfile

/-- The place one step on from another one. -/
def nextPlace (here : List Text) (name : Text) : List Text :=
  if name == ['.', '.'] then here.dropLast else here ++ [name]

theorem follow_eq_ok_iff {name : Text} : tree.follow here name = .ok place ↔
    tree.content? here = some .dir ∧ nextPlace here name = place := by
  rw [follow, content?, nextPlace]
  cases tree.at? here with
  | none => simp
  | some found => cases found <;> simp [content]

/-- Where directories have stayed directories, a path leads to where it led. -/
theorem locate_eq_ok_of_dirs
    (hdirs : ∀ place, before.content? place = some .dir → after.content? place = some .dir)
    (h : before.locate path = .ok place) : after.locate path = .ok place := by
  obtain ⟨anchor, segments⟩ := path
  rw [locate] at h ⊢
  generalize ([] : List Text) = start at h ⊢
  induction segments generalizing start with
  | nil => exact h
  | cons name segments ih =>
    rw [List.foldlM_cons, bind_eq_ok_iff] at h ⊢
    obtain ⟨next, hnext, h⟩ := h
    obtain ⟨hdir, hstep⟩ := follow_eq_ok_iff.1 hnext
    exact ⟨next, follow_eq_ok_iff.2 ⟨hdirs start hdir, hstep⟩, ih next h⟩

/-- A path with a last step goes through a directory to it. -/
theorem locate_eq_ok_iff_of_last {anchor : Anchor} {segments : List Text} {name : Text} :
    tree.locate ⟨anchor, segments ++ [name]⟩ = .ok place ↔
      ∃ here, tree.locate ⟨anchor, segments⟩ = .ok here ∧ tree.content? here = some .dir ∧
        nextPlace here name = place := by
  rw [locate, List.foldlM_append, bind_eq_ok_iff]
  simp only [List.foldlM_cons, List.foldlM_nil, bind_pure, follow_eq_ok_iff]
  rfl

/-- A path ends at the root or in a directory. -/
theorem content?_dropLast_of_locate (h : tree.locate path = .ok place) (hne : place ≠ []) :
    tree.content? place.dropLast = some .dir := by
  obtain ⟨anchor, segments⟩ := path
  rcases segments.eq_nil_or_concat with rfl | ⟨segments, name, rfl⟩
  · cases h
    exact absurd rfl hne
  · rw [List.concat_eq_append] at h
    obtain ⟨here, -, hdir, rfl⟩ := locate_eq_ok_iff_of_last.1 h
    unfold nextPlace at hne ⊢
    by_cases hback : name == ['.', '.']
    · rw [if_pos hback] at hne ⊢
      have habove : here.dropLast.dropLast <+: here :=
        (List.dropLast_prefix _).trans (List.dropLast_prefix _)
      refine content?_eq_dir_of_above habove (fun heq => hne ?_) (hdir ▸ Option.some_ne_none _)
      have hlength := congrArg List.length heq
      rw [List.length_dropLast, List.length_dropLast] at hlength
      apply List.eq_nil_of_length_eq_zero
      rw [List.length_dropLast]
      omega
    · rw [if_neg hback, List.dropLast_concat]
      exact hdir

/-- No file lies on the way to the end of a path, and all places on it are directories. -/
theorem blocked_of_locate (h : tree.locate path = .ok place) : tree.blocked place = false ∧
    ∀ here, here <+: place → here ≠ place → tree.content? here = some .dir := by
  have hdirs : ∀ here, here <+: place → here ≠ place → tree.content? here = some .dir := by
    intro here habove hne
    rcases place.eq_nil_or_concat with rfl | ⟨above, name, rfl⟩
    · exact absurd (List.prefix_nil.1 habove) hne
    · rw [List.concat_eq_append] at h habove hne
      have hdir : tree.content? above = some .dir := by
        simpa using content?_dropLast_of_locate h (by simp)
      have habove' : here <+: above := (List.prefix_concat_iff.1 habove).resolve_left hne
      by_cases heq : here = above
      · rw [heq, hdir]
      · exact content?_eq_dir_of_above habove' heq (hdir ▸ Option.some_ne_none _)
  refine ⟨?_, hdirs⟩
  rw [Bool.eq_false_iff, ne_eq, blocked_iff]
  rintro ⟨here, bytes, habove, hne, hfile⟩
  rw [hdirs here habove hne] at hfile
  cases hfile

theorem hasDir_iff : tree.hasDir path = true ↔
    ∃ place, tree.locate path = .ok place ∧ tree.content? place = some .dir := by
  rw [hasDir, find?]
  cases tree.locate path with
  | error reason => simp
  | ok place =>
    simp only [Except.ok.injEq, exists_eq_left', content?]
    cases tree.at? place with
    | none => simp
    | some found => cases found <;> simp [content]

/-- The place has what it had, or a directory on the given way where it had nothing. -/
def IsKept (before after : FileTree) (way place : List Text) : Prop :=
  after.content? place = before.content? place ∨
    before.content? place = none ∧ after.content? place = some .dir ∧ place <+: way

theorem isKept_insert_dir (habsent : tree.content? way = none) (hblocked : tree.blocked way = false)
    (place : List Text) : IsKept tree (tree.insert way (.dir [])) way place := by
  have hmade := content?_insert_below (.dir []) hblocked
  by_cases hself : place = way
  · have hdir := hmade []
    rw [List.append_nil] at hdir
    exact .inr ⟨hself ▸ habsent, hself ▸ hdir, hself ▸ List.prefix_rfl⟩
  by_cases hbelow : way <+: place
  · obtain ⟨rest, rfl⟩ := hbelow
    have hrest : rest ≠ [] := fun heq => hself (by rw [heq, List.append_nil])
    obtain ⟨name, rest, rfl⟩ := List.exists_cons_of_ne_nil hrest
    left
    rw [hmade, content?_eq_none_of_above (List.prefix_append _ _) (Ne.symm hself)
      (by simp [habsent])]
    rfl
  by_cases habove : place <+: way
  · have hdir := content?_insert_above (.dir []) hblocked habove hself
    cases hplace : tree.content? place with
    | none => exact .inr ⟨hplace, hdir, habove⟩
    | some found =>
      cases found with
      | dir => exact .inl (hdir.trans hplace.symm)
      | file bytes =>
        rw [blocked_iff.2 ⟨place, bytes, habove, hself, hplace⟩] at hblocked
        cases hblocked
  · exact .inl (congrArg _ (at?_insert_of_apart hbelow habove))

/-- Making a directory changes nothing but for the directories on the way to it. -/
theorem isKept_of_makeDir (h : before.makeDir path = .ok after) (place : List Text) :
    IsKept before after path.segments place := by
  rw [makeDir] at h
  split at h
  · cases h
    exact .inl rfl
  · cases h
  · next hnone =>
    split at h
    · cases h
    · next hblocked =>
      cases h
      rw [Bool.not_eq_true] at hblocked
      exact isKept_insert_dir (content?_eq_none_iff.2 hnone) hblocked place

/-- A written file is where its path leads, before and afterwards, and no other place changes. -/
theorem write_keeps (h : before.write path bytes = .ok after) :
    ∃ file, before.locate path = .ok file ∧ after.locate path = .ok file ∧
      after.content? file = some (.file bytes) ∧
      ∀ place, place ≠ file → after.content? place = before.content? place := by
  rw [write] at h
  split at h
  · cases h
  split at h
  · cases h
  · next file hfile =>
    obtain ⟨hblocked, hdirs⟩ := blocked_of_locate hfile
    split at h
    · cases h
    · next hnotDir =>
      cases h
      have hold : before.content? file ≠ some .dir := by
        rw [ne_eq, content?_eq_dir_iff]
        rintro ⟨entries, hentries⟩
        exact hnotDir entries hentries
      have hnew : (before.insert file (.file bytes)).content? file = some (.file bytes) :=
        content?_eq_file_iff.2 (at?_insert_self hblocked)
      have hkept : ∀ place, place ≠ file →
          (before.insert file (.file bytes)).content? place = before.content? place := by
        intro place hne
        by_cases hbelow : file <+: place
        · rw [content?_eq_none_of_above hbelow (Ne.symm hne) hold,
            content?_eq_none_of_above hbelow (Ne.symm hne) (hnew ▸ by simp)]
        by_cases habove : place <+: file
        · rw [hdirs place habove hne, content?_insert_above _ hblocked habove hne]
        · exact congrArg _ (at?_insert_of_apart hbelow habove)
      refine ⟨file, hfile, locate_eq_ok_of_dirs (fun place hdir => ?_) hfile, hnew, hkept⟩
      have hne : place ≠ file := fun heq => hold (heq ▸ hdir)
      rw [hkept place hne, hdir]

end Bindery.FileTree
