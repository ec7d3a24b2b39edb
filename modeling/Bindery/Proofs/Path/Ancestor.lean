import Bindery.Path.Assets
import Bindery.Proofs.Text.Cutting

namespace Bindery

open Text

namespace Path

variable {p q r root : Path} {names below : List Text} {name s : Text}

/-- The first path is the second one, or one of the directories above it, as both are written. -/
def IsAbove (p q : Path) : Prop :=
  p.anchor = q.anchor ∧ p.segments <+: q.segments

theorem IsAbove.trans (hpq : p.IsAbove q) (hqr : q.IsAbove r) : p.IsAbove r :=
  ⟨hpq.1.trans hqr.1, hpq.2.trans hqr.2⟩

theorem parent_isAbove (p : Path) : p.parent.IsAbove p :=
  ⟨rfl, List.dropLast_prefix p.segments⟩

theorem sharedStart_prefix (names others : List Text) :
    sharedStart names others <+: names ∧ sharedStart names others <+: others := by
  fun_induction sharedStart names others with
  | case1 name names other others hname ih =>
    obtain rfl : name = other := eq_of_beq hname
    exact ⟨List.cons_prefix_cons.2 ⟨rfl, ih.1⟩, List.cons_prefix_cons.2 ⟨rfl, ih.2⟩⟩
  | case2 | case3 => exact ⟨List.nil_prefix, List.nil_prefix⟩

/-- The root that two paths share lies above both of them. -/
theorem commonRoot_isAbove (hp : p.anchor = .root) (hq : q.anchor = .root) :
    (commonRoot p q).IsAbove p ∧ (commonRoot p q).IsAbove q := by
  obtain ⟨anchor, names⟩ := p
  obtain ⟨anchor', others⟩ := q
  obtain rfl : anchor = .root := hp
  obtain rfl : anchor' = .root := hq
  have hshared := sharedStart_prefix names others
  rw [commonRoot, if_pos (beq_self_eq_true _)]
  exact ⟨⟨rfl, hshared.1⟩, ⟨rfl, hshared.2⟩⟩

theorem stepsBelow?_eq_some_iff {others : List Text} :
    stepsBelow? names others = some below ↔ others = names ++ below := by
  fun_induction stepsBelow? names others with
  | case1 others => exact Option.some_inj
  | case2 name names => simp
  | case3 name names other others hname ih =>
    obtain rfl : name = other := eq_of_beq hname
    rw [ih, List.cons_append, List.cons.injEq, and_iff_right rfl]
  | case4 name names other others hname =>
    have hne : other ≠ name := fun heq => hname (beq_iff_eq.2 heq.symm)
    simp [hne]

/-- The steps from a path down to another one are what is written after it. -/
theorem stepsFrom_eq_ok_iff : p.stepsFrom root = .ok below ↔
    p.anchor = root.anchor ∧ p.segments = root.segments ++ below := by
  rw [stepsFrom]
  by_cases hanchor : p.anchor = root.anchor
  · rw [if_pos (beq_iff_eq.2 hanchor), and_iff_right hanchor, ← stepsBelow?_eq_some_iff]
    cases stepsBelow? root.segments p.segments <;> simp
  · rw [if_neg (mt beq_iff_eq.1 hanchor)]
    simp [hanchor]

theorem exists_stepsFrom_iff : (∃ below, p.stepsFrom root = .ok below) ↔ root.IsAbove p := by
  simp only [stepsFrom_eq_ok_iff, exists_and_left]
  exact and_congr eq_comm ⟨fun ⟨below, h⟩ => ⟨below, h.symm⟩, fun ⟨below, h⟩ => ⟨below, h.symm⟩⟩

theorem resolveSteps_eq (hnames : ['.', '.'] ∉ names) (done : List Text) :
    resolveSteps done names = done.reverse ++ names := by
  induction names generalizing done with
  | nil => rw [resolveSteps, List.append_nil]
  | cons name names ih =>
    rw [List.mem_cons, not_or] at hnames
    rw [resolveSteps, if_neg (by simpa using Ne.symm hnames.1), ih hnames.2, List.reverse_cons,
      List.append_assoc, List.singleton_append]

/-- A path that starts from the root and goes no step back is where it says. -/
theorem resolve_eq_self (hanchor : p.anchor = .root) (hsegments : ['.', '.'] ∉ p.segments) :
    p.resolve = p := by
  obtain ⟨anchor, names⟩ := p
  obtain rfl : anchor = .root := hanchor
  rw [resolve, resolveSteps_eq hsegments, List.reverse_nil, List.nil_append]

/-- What one step of a written path can be. -/
def IsStep (name : Text) : Prop :=
  name ≠ [] ∧ name ≠ ['.'] ∧ '/' ∉ name

/-- The path is one that can be written down, as are all paths that have been read. -/
def IsWritten (p : Path) : Prop :=
  ∀ name ∈ p.segments, IsStep name

theorem isWritten_parse (s : Text) : (parse s).IsWritten := by
  intro name hname
  obtain ⟨hmem, hkept⟩ := List.mem_filter.1 hname
  have hslash : '/' ∉ name := not_mem_of_mem_splitOn hmem
  rw [Bool.and_eq_true, Bool.not_eq_true', List.isEmpty_eq_false_iff, bne_iff_ne] at hkept
  exact ⟨hkept.1, hkept.2, hslash⟩

theorem steps_cons (hname : IsStep name) (rest : List Text) :
    (name :: rest).filter (fun name => !name.isEmpty && name != ['.']) =
      name :: rest.filter fun name => !name.isEmpty && name != ['.'] := by
  refine List.filter_cons_of_pos ?_
  rw [Bool.and_eq_true, Bool.not_eq_true', List.isEmpty_eq_false_iff, bne_iff_ne]
  exact ⟨hname.1, hname.2.1⟩

theorem steps_joinWith (hnames : ∀ name ∈ names, IsStep name) :
    steps (joinWith ['/'] names) = names := by
  induction names with
  | nil => rfl
  | cons name names ih =>
    obtain ⟨hname, hnames⟩ := List.forall_mem_cons.1 hnames
    cases names with
    | nil =>
      rw [joinWith, steps, splitOn_of_not_mem hname.2.2, steps_cons hname]
      rfl
    | cons next names =>
      rw [joinWith_cons (List.cons_ne_nil _ _), steps, List.append_assoc, List.singleton_append,
        splitOn_append_cons hname.2.2, steps_cons hname]
      exact congrArg _ (ih hnames)

theorem steps_slash (s : Text) : steps ('/' :: s) = steps s := by
  have hsplit : splitOn '/' ('/' :: s) = [] :: splitOn '/' s := rfl
  rw [steps, hsplit, List.filter_cons_of_neg (by decide), steps]

theorem anchorOf_slash (hs : s.head? ≠ some '/') : anchorOf ('/' :: s) = .root := by
  cases s with
  | nil => rfl
  | cons c s =>
    have hc : c ≠ '/' := fun h => hs (congrArg some h)
    unfold anchorOf
    split <;> simp_all

/-- Only the first three characters of a text tell where it starts from, and only slashes do. -/
theorem anchorOf_append (s : Text) {t : Text} (ht : '/' ∉ t) (hne : t ≠ []) :
    anchorOf (s ++ t) = anchorOf s := by
  obtain ⟨c, t, rfl⟩ := List.exists_cons_of_ne_nil hne
  rw [List.mem_cons, not_or] at ht
  have hc : c ≠ '/' := Ne.symm ht.1
  rcases s with _ | ⟨a, _ | ⟨b, _ | ⟨d, s⟩⟩⟩
  · simp [anchorOf, hc]
  · by_cases ha : a = '/' <;> simp [anchorOf, hc, ha]
  · by_cases ha : a = '/' <;> by_cases hb : b = '/' <;> simp [anchorOf, hc, ha, hb]
  · by_cases ha : a = '/' <;> by_cases hb : b = '/' <;> by_cases hd : d = '/' <;>
      simp [anchorOf, ha, hb, hd]

theorem join_concat (p : Path) (anchor : Anchor) (names : List Text) (name : Text) :
    p.join ⟨anchor, names ++ [name]⟩ =
      ⟨(p.join ⟨anchor, names⟩).anchor, (p.join ⟨anchor, names⟩).segments ++ [name]⟩ := by
  cases anchor with
  | here => exact congrArg (Path.mk p.anchor) (List.append_assoc _ _ _).symm
  | root | doubleRoot => rfl

/-- Names with the same beginning and different endings stand in one directory. -/
theorem exists_child_append (p : Path) (s : Text) : ∃ (dir : Path) (name : Text),
    ∀ t, '/' ∉ t → 2 ≤ t.length → p.child (s ++ t) = ⟨dir.anchor, dir.segments ++ [name ++ t]⟩ := by
  obtain ⟨pieces, last, hsplit⟩ := exists_splitOn_append '/' s
  refine ⟨p.join ⟨anchorOf s, pieces.filter fun name => !name.isEmpty && name != ['.']⟩, last,
    fun t ht hlength => ?_⟩
  have hlong : 2 ≤ (last ++ t).length := by
    rw [List.length_append]
    omega
  have hmem : last ++ t ∈ splitOn '/' (s ++ t) :=
    hsplit t ht ▸ List.mem_append_right _ (List.mem_singleton_self _)
  have hstep : IsStep (last ++ t) := by
    refine ⟨fun h => ?_, fun h => ?_, not_mem_of_mem_splitOn hmem⟩
    · simp [h] at hlong
    · simp [h] at hlong
  have hne : t ≠ [] := List.ne_nil_of_length_pos (by omega)
  rw [child, parse, anchorOf_append s ht hne, steps, hsplit t ht, List.filter_append,
    steps_cons hstep, List.filter_nil, join_concat]

/-- A place below the root of the compiler is read as the steps to it. -/
theorem parse_rooted (hnames : ∀ name ∈ names, IsStep name) :
    parse (Assets.rooted names) = ⟨.root, names⟩ := by
  cases names with
  | nil => rfl
  | cons name names =>
    have htext : relativeText (name :: names) = joinWith ['/'] (name :: names) := rfl
    have hhead : (joinWith ['/'] (name :: names)).head? ≠ some '/' := by
      obtain ⟨hne, -, hslash⟩ := hnames name List.mem_cons_self
      obtain ⟨c, rest, rfl⟩ := List.exists_cons_of_ne_nil hne
      rw [List.mem_cons, not_or] at hslash
      have hc : (joinWith ['/'] ((c :: rest) :: names)).head? = some c := by
        cases names <;> rfl
      rw [hc, ne_eq, Option.some.injEq]
      exact Ne.symm hslash.1
    rw [parse, Assets.rooted, htext, anchorOf_slash hhead, steps_slash, steps_joinWith hnames]

end Path

end Bindery
