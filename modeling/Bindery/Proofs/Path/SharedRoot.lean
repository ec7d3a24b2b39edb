import Bindery.Proofs.Path.Ancestor

namespace Bindery

open Text

namespace Path

variable {p q r : Path} {names others below : List Text}

theorem IsAbove.antisymm (hpq : p.IsAbove q) (hqp : q.IsAbove p) : p = q := by
  obtain ⟨anchor, names⟩ := p
  obtain ⟨anchor', others⟩ := q
  obtain rfl : anchor = anchor' := hpq.1
  obtain rfl : names = others :=
    hpq.2.eq_of_length (Nat.le_antisymm hpq.2.length_le hqp.2.length_le)
  rfl

theorem prefix_sharedStart (h : below <+: names) (hother : below <+: others) :
    below <+: sharedStart names others := by
  induction below generalizing names others with
  | nil => exact List.nil_prefix
  | cons name below ih =>
    obtain ⟨rest, rfl⟩ := h
    obtain ⟨rest', rfl⟩ := hother
    rw [List.cons_append, List.cons_append, sharedStart, if_pos (beq_self_eq_true name)]
    exact List.cons_prefix_cons.2 ⟨rfl, ih (List.prefix_append ..) (List.prefix_append ..)⟩

/-- The places above both of two paths from the root are those above the root that they share. -/
theorem isAbove_commonRoot_iff (hp : p.anchor = .root) (hq : q.anchor = .root) :
    r.IsAbove (commonRoot p q) ↔ r.IsAbove p ∧ r.IsAbove q := by
  constructor
  · intro h
    have habove := commonRoot_isAbove hp hq
    exact ⟨h.trans habove.1, h.trans habove.2⟩
  · rintro ⟨hrp, hrq⟩
    obtain ⟨anchor, names⟩ := p
    obtain ⟨anchor', others⟩ := q
    obtain rfl : anchor = .root := hp
    obtain rfl : anchor' = .root := hq
    rw [commonRoot, if_pos (beq_self_eq_true _)]
    exact ⟨hrp.1, prefix_sharedStart hrp.2 hrq.2⟩

theorem commonRoot_comm (hp : p.anchor = .root) (hq : q.anchor = .root) :
    commonRoot p q = commonRoot q p := by
  have hleft := commonRoot_isAbove hp hq
  have hright := commonRoot_isAbove hq hp
  exact IsAbove.antisymm ((isAbove_commonRoot_iff hq hp).2 hleft.symm)
    ((isAbove_commonRoot_iff hp hq).2 hright.symm)

/-- The path starts from the root of the file tree and can be written down. -/
structure IsRooted (p : Path) : Prop where
  anchor : p.anchor = .root
  written : p.IsWritten

/-- Where the steps of a text lead to from a path, whether the text begins with a slash or not. -/
def follow (p : Path) (s : Text) : Path :=
  ⟨p.anchor, p.segments ++ steps s⟩

theorem follow_slash (p : Path) (s : Text) : p.follow ('/' :: s) = p.follow s := by
  rw [follow, steps_slash, follow]

theorem steps_append_slash (s t : Text) : steps (s ++ '/' :: t) = steps s ++ steps t := by
  rw [steps, splitOn_append_sep, List.filter_append, steps, steps]

theorem follow_append_slash (p : Path) (s t : Text) :
    p.follow (s ++ '/' :: t) = (p.follow s).follow t := by
  rw [follow, steps_append_slash, follow, follow, List.append_assoc]

/-- The place of the steps down to a path, followed from above it, leads back to the path. -/
theorem follow_rooted (hp : p.IsWritten) (h : p.stepsFrom r = .ok below) :
    r.follow (Assets.rooted below) = p := by
  obtain ⟨hanchor, hsegments⟩ := stepsFrom_eq_ok_iff.1 h
  have hsteps : ∀ name ∈ below, IsStep name := fun name hname =>
    hp name (hsegments ▸ List.mem_append_right _ hname)
  have hrooted : steps (Assets.rooted below) = below :=
    congrArg Path.segments (parse_rooted hsteps)
  rw [follow, hrooted, ← hanchor, ← hsegments]

end Path

namespace Assets

variable {a : Assets} {file : Path} {place : Text}

theorem exists_docsPlace (hdocs : a.docsRoot.IsWritten) (habove : a.root.IsAbove a.docsRoot) :
    ∃ place, a.docsPlace = .ok place ∧ a.root.follow place = a.docsRoot := by
  obtain ⟨below, hbelow⟩ := Path.exists_stepsFrom_iff.2 habove
  have hfollow := Path.follow_rooted hdocs hbelow
  rw [docsPlace, hbelow]
  cases below with
  | nil => exact ⟨[], rfl, hfollow⟩
  | cons name below => exact ⟨rooted (name :: below), rfl, hfollow⟩

/-- A reference is put behind the place of the documentation, with a slash between them. -/
theorem exists_resolve_eq (hplace : a.docsPlace = .ok place) (reference : Text) :
    ∃ rest, a.resolve reference = .ok (place ++ '/' :: rest) ∧
      Path.steps rest = Path.steps reference := by
  rw [resolve, hplace]
  by_cases hslash : reference.head? = some '/'
  · obtain ⟨rest, rfl⟩ := List.head?_eq_some_iff.1 hslash
    exact ⟨rest, rfl, (Path.steps_slash rest).symm⟩
  · refine ⟨reference, ?_, rfl⟩
    exact congrArg (fun path => Except.ok (place ++ path)) (if_neg (by simpa using hslash))

theorem exists_importPath (hfile : file.IsWritten) (habove : a.root.IsAbove file) :
    ∃ place, a.importPath file = .ok place ∧ a.root.follow place = file := by
  obtain ⟨below, hbelow⟩ := Path.exists_stepsFrom_iff.2 habove
  refine ⟨rooted below, ?_, Path.follow_rooted hfile hbelow⟩
  rw [importPath, hbelow]
  rfl

/-- The shared root and the places below it denote the right files. For any two directories from
the root of the file tree, the root that they share lies above both, below every other place above
both, and does not depend on their order. Followed from there, the place of the documentation leads
to the documentation, what a reference is resolved to leads where the reference leads from the
documentation, with a slash before it or without one, and the import path of a file below the root
leads to the file. -/
theorem follow_root_denotes (a : Assets) (htool : a.toolRoot.IsRooted)
    (hdocs : a.docsRoot.IsRooted) :
    ((a.root.IsAbove a.toolRoot ∧ a.root.IsAbove a.docsRoot) ∧
      (∀ p : Path, p.IsAbove a.toolRoot → p.IsAbove a.docsRoot → p.IsAbove a.root) ∧
      Path.commonRoot a.docsRoot a.toolRoot = a.root) ∧
    (∃ place, a.docsPlace = .ok place ∧ a.root.follow place = a.docsRoot) ∧
    (∀ reference, ∃ place slashed, a.resolve reference = .ok place ∧
      a.resolve ('/' :: reference) = .ok slashed ∧
      a.root.follow place = a.docsRoot.follow reference ∧
      a.root.follow slashed = a.docsRoot.follow reference) ∧
    ∀ file : Path, file.IsWritten → a.root.IsAbove file →
      ∃ place, a.importPath file = .ok place ∧ a.root.follow place = file := by
  have habove : a.root.IsAbove a.toolRoot ∧ a.root.IsAbove a.docsRoot :=
    Path.commonRoot_isAbove htool.anchor hdocs.anchor
  obtain ⟨place, hplace, hfollow⟩ := exists_docsPlace hdocs.written habove.2
  have hresolve (reference : Text) : ∃ path, a.resolve reference = .ok path ∧
      a.root.follow path = a.docsRoot.follow reference := by
    obtain ⟨rest, hrest, hsteps⟩ := exists_resolve_eq hplace reference
    refine ⟨_, hrest, ?_⟩
    rw [Path.follow_append_slash, hfollow, Path.follow, hsteps, Path.follow]
  refine ⟨⟨habove, fun p hp hq => ?_, Path.commonRoot_comm hdocs.anchor htool.anchor⟩,
    ⟨place, hplace, hfollow⟩, fun reference => ?_, fun file => exists_importPath⟩
  · exact (Path.isAbove_commonRoot_iff htool.anchor hdocs.anchor).2 ⟨hp, hq⟩
  · obtain ⟨path, hpath, hpathFollow⟩ := hresolve reference
    obtain ⟨slashed, hslashed, hslashedFollow⟩ := hresolve ('/' :: reference)
    rw [Path.follow_slash] at hslashedFollow
    exact ⟨path, slashed, hpath, hslashed, hpathFollow, hslashedFollow⟩

/-- A step back, a dot and doubled slashes in the middle of paths and of a reference. -/
theorem follow_root_denotes_stepBack :
    let a : Assets :=
      ⟨Path.parse "/work/../tool".toList, Path.parse "/work/../site//docs/.".toList⟩
    let reference := "images//./../x.png".toList
    let file := Path.parse "/work/../tool/book.typ".toList
    (a.toolRoot.IsRooted ∧ a.docsRoot.IsRooted ∧ file.IsWritten ∧ a.root.IsAbove file) ∧
      a.root = ⟨.root, ["work".toList, "..".toList]⟩ ∧
      a.docsPlace = .ok "/site/docs".toList ∧
      a.resolve reference = .ok "/site/docs/images//./../x.png".toList ∧
      a.root.follow "/site/docs/images//./../x.png".toList =
        Path.parse "/work/../site/docs/images/../x.png".toList ∧
      a.importPath file = .ok "/tool/book.typ".toList ∧
      a.root.follow "/tool/book.typ".toList = file := by
  intro a reference file
  have htool : a.toolRoot.IsRooted := ⟨rfl, Path.isWritten_parse _⟩
  have hdocs : a.docsRoot.IsRooted := ⟨rfl, Path.isWritten_parse _⟩
  have hfile : file.IsWritten := Path.isWritten_parse _
  have habove : a.root.IsAbove file := ⟨rfl, by decide⟩
  obtain ⟨-, -, hresolve, himport⟩ := follow_root_denotes a htool hdocs
  obtain ⟨place, -, hplace, -, hfollow, -⟩ := hresolve reference
  obtain ⟨imported, himported, hfile'⟩ := himport file hfile habove
  obtain rfl : "/site/docs/images//./../x.png".toList = place :=
    Except.ok.inj ((rfl : a.resolve reference = _).symm.trans hplace)
  obtain rfl : "/tool/book.typ".toList = imported :=
    Except.ok.inj ((rfl : a.importPath file = _).symm.trans himported)
  exact ⟨⟨htool, hdocs, hfile, habove⟩, by decide, rfl, hplace, hfollow.trans (by decide),
    himported, hfile'⟩

end Assets

end Bindery
