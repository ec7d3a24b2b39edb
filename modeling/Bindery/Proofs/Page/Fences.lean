import Bindery.Proofs.Page.FrontMatter
import Mathlib.Data.List.TakeWhile

namespace Bindery.Page

open Text

/-- The front matter and the body of a page whose first line is a fence, where a fence takes a line
    of its own: the lines up to the next such line, and what stands below that. -/
def splitFenced (content : Text) : Pairs × Text :=
  match (lines content).tail.dropWhile (· != fenceLine) with
  | [] => ([], content)
  | _ :: below =>
    (entries (joinWith ['\n'] ((lines content).tail.takeWhile (· != fenceLine))),
      joinWith ['\n'] below)

variable {content first later more : Text} {parts block rest after others : List Text}

theorem length_joinWith_lt (h : ∃ part ∈ parts, part ≠ []) (others : List Text) :
    (joinWith ['\n'] others).length < (joinWith ['\n'] (parts ++ others)).length := by
  obtain ⟨part, hpart, hne⟩ := h
  have hparts : 0 < (joinWith ['\n'] parts).length :=
    Nat.lt_of_lt_of_le (List.length_pos_iff.2 hne) (infix_joinWith hpart).length_le
  by_cases hothers : others = []
  · rw [hothers, List.append_nil]
    exact hparts
  · rw [joinWith_append (List.ne_nil_of_mem hpart) hothers, List.length_append, List.length_append]
    omega

theorem length_joinWith_le (parts others : List Text) :
    (joinWith ['\n'] others).length ≤ (joinWith ['\n'] (parts ++ others)).length := by
  by_cases hparts : parts = []
  · rw [hparts, List.nil_append]
  by_cases hothers : others = []
  · rw [hothers]
    exact Nat.zero_le _
  · rw [joinWith_append hparts hothers, List.length_append]
    exact Nat.le_add_left _ _

theorem joinWith_append_cons (s t : Text) (rest : List Text) :
    joinWith ['\n'] ((s ++ t) :: rest) = s ++ joinWith ['\n'] (t :: rest) := by
  rw [joinWith_newline, joinWith_newline, List.append_assoc]

theorem newline_not_mem_tail (h : later ∈ (lines content).tail) : '\n' ∉ later :=
  not_mem_of_mem_splitOn (List.mem_of_mem_tail h)

/-- A page whose first line is a fence is that line and the lines below it. -/
theorem content_eq (hfirst : line content = fenceLine) :
    content = joinWith ['\n'] (fenceLine :: (lines content).tail) := by
  have hlines : lines content = fenceLine :: (lines content).tail := by
    rcases lines_eq_cons content with ⟨hlines, -⟩ | hlines
    · rw [hlines, hfirst, List.tail_cons]
    · rw [hlines, hfirst, List.tail_cons]
  rw [← hlines, lines, joinWith_splitOn]

/-- What is left for the body at a line that begins with a fence and goes on, or does not. -/
def belowFence (more : Text) (after : List Text) : Text :=
  joinWith ['\n'] (if more = [] then after else more :: after)

theorem length_belowFence_lt (more : Text) (after : List Text) :
    (belowFence more after).length < (joinWith ['\n'] ((fenceLine ++ more) :: after)).length := by
  rw [belowFence]
  split
  · next hmore =>
    rw [hmore, List.append_nil]
    have hfence : ∃ part ∈ [fenceLine], part ≠ [] := by decide
    exact length_joinWith_lt hfence after
  · rw [joinWith_append_cons, List.length_append]
    exact Nat.lt_add_of_pos_left (by decide)

theorem afterStart?_joinWith (hmore : '\n' ∉ more) (after : List Text) :
    (afterStart? ['\n'] (joinWith ['\n'] (more :: after))).getD (joinWith ['\n'] (more :: after)) =
      belowFence more after := by
  cases more with
  | nil =>
    cases after with
    | nil => rfl
    | cons next after => rfl
  | cons c more =>
    rw [List.mem_cons, not_or] at hmore
    have hshape : joinWith ['\n'] ((c :: more) :: after) = c :: joinWith ['\n'] (more :: after) :=
      joinWith_append_cons [c] more after
    have hstart : afterStart? ['\n'] (joinWith ['\n'] ((c :: more) :: after)) = none := by
      rw [hshape]
      exact if_neg (by simpa using hmore.1)
    rw [hstart, Option.getD_none, belowFence, if_neg (List.cons_ne_nil c more)]

theorem splitMatter_of_open (hreturn : '\r' ∉ content) (hfirst : line content = fenceLine)
    (hlater : (lines content).tail = first :: rest) (hrest : ∀ l ∈ rest, ¬fenceLine <+: l) :
    splitMatter content = ([], content) := by
  have hlines : ∀ l ∈ first :: rest, '\n' ∉ l := fun l hl => newline_not_mem_tail (hlater ▸ hl)
  have hfence : '\n' ∉ fenceLine := by decide
  have hcut := cutAt?_lines_eq_none hfence hlines hrest
  have hshape : content = matterStart ++ joinWith ['\n'] (first :: rest) := by
    rw [content_eq hfirst, hlater]
    rfl
  have hreturns := dropReturns_of_not_mem hreturn
  rw [hshape] at hreturns ⊢
  exact splitMatter_of_cutAt?_eq_none hreturns hcut

/-- The front matter ends at the first line below its first one that begins with a fence, and what
    that line goes on with belongs to the body. -/
theorem splitMatter_of_closed (hreturn : '\r' ∉ content) (hfirst : line content = fenceLine)
    (hlater : (lines content).tail = first :: (block ++ (fenceLine ++ more) :: after))
    (hblock : ∀ l ∈ block, ¬fenceLine <+: l) :
    splitMatter content = (entries (joinWith ['\n'] (first :: block)), belowFence more after) := by
  have hlines : ∀ l ∈ first :: (block ++ (fenceLine ++ more) :: after), '\n' ∉ l :=
    fun l hl => newline_not_mem_tail (hlater ▸ hl)
  have hmore : '\n' ∉ more := by
    have hline := hlines (fenceLine ++ more) (by simp)
    rw [List.mem_append, not_or] at hline
    exact hline.2
  have hkept : ∀ l ∈ first :: block, '\n' ∉ l := by
    intro l hl
    rw [← List.cons_append] at hlines
    exact hlines l (List.mem_append_left _ hl)
  have hfence : '\n' ∉ fenceLine := by decide
  have hcut := cutAt?_lines_append hfence hkept hblock (joinWith ['\n'] (more :: after))
  have hshape : content = matterStart ++ (joinWith ['\n'] (first :: block) ++
      '\n' :: (fenceLine ++ joinWith ['\n'] (more :: after))) := by
    rw [content_eq hfirst, hlater, joinWith_cons (List.cons_ne_nil first _), ← List.cons_append,
      joinWith_append (List.cons_ne_nil first block) (List.cons_ne_nil _ after),
      joinWith_append_cons]
    simp [matterStart, fenceLine]
  have hreturns := dropReturns_of_not_mem hreturn
  rw [hshape] at hreturns ⊢
  rw [splitMatter_of_cutAt? hreturns hcut, afterStart?_joinWith hmore]

theorem splitFenced_of_open (h : ∀ l ∈ (lines content).tail, l ≠ fenceLine) :
    splitFenced content = ([], content) := by
  have hdrop : (lines content).tail.dropWhile (· != fenceLine) = [] :=
    List.dropWhile_eq_nil_iff.2 fun l hl => by simpa using h l hl
  rw [splitFenced, hdrop]

theorem splitFenced_of_closed (hlater : (lines content).tail = block ++ fenceLine :: after)
    (hblock : ∀ l ∈ block, l ≠ fenceLine) :
    splitFenced content = (entries (joinWith ['\n'] block), joinWith ['\n'] after) := by
  have hall : block.all (· != fenceLine) = true := by simpa using hblock
  have hstop (others : List Text) : (fenceLine :: others).dropWhile (· != fenceLine) =
      fenceLine :: others ∧ (fenceLine :: others).takeWhile (· != fenceLine) = [] := by
    simp
  rw [splitFenced, hlater, List.dropWhile_append_of_pos (List.all_eq_true.1 hall),
    List.takeWhile_append_of_pos (List.all_eq_true.1 hall), (hstop after).1, (hstop after).2,
    List.append_nil]

/-- No line begins with a fence, or a first one does. -/
theorem forall_or_exists_fence (rest : List Text) :
    (∀ l ∈ rest, ¬fenceLine <+: l) ∨
      ∃ block more after, rest = block ++ (fenceLine ++ more) :: after ∧
        ∀ l ∈ block, ¬fenceLine <+: l := by
  induction rest with
  | nil => exact .inl (by simp)
  | cons l rest ih =>
    by_cases hl : fenceLine <+: l
    · obtain ⟨more, rfl⟩ := hl
      exact .inr ⟨[], more, rest, rfl, by simp⟩
    · rcases ih with hrest | ⟨block, more, after, rfl, hblock⟩
      · exact .inl (List.forall_mem_cons.2 ⟨hl, hrest⟩)
      · exact .inr ⟨l :: block, more, after, rfl, List.forall_mem_cons.2 ⟨hl, hblock⟩⟩

theorem length_below_lt (hfirst : line content = fenceLine)
    (hlater : (lines content).tail = parts ++ others) :
    (joinWith ['\n'] others).length < content.length := by
  have hshorter : (joinWith ['\n'] others).length <
      (joinWith ['\n'] (fenceLine :: parts ++ others)).length :=
    length_joinWith_lt ⟨fenceLine, List.mem_cons_self, by decide⟩ others
  rwa [List.cons_append, ← hlater, ← content_eq hfirst] at hshorter

theorem ne_of_length_ne {x y : Pairs × Text} (h : x.2.length ≠ y.2.length) : x ≠ y := by
  rintro rfl
  exact h rfl

/-- The end of front matter without a line in it is not found. -/
theorem splitMatter_ne_of_empty (hreturn : '\r' ∉ content) (hfirst : line content = fenceLine)
    (hlater : (lines content).tail = fenceLine :: rest) :
    splitMatter content ≠ splitFenced content := by
  have hempty : (lines content).tail = [] ++ fenceLine :: rest := hlater
  rw [splitFenced_of_closed hempty (List.forall_mem_nil _)]
  refine ne_of_length_ne ?_
  rcases forall_or_exists_fence rest with hrest | ⟨block, more, after, rfl, hblock⟩
  · rw [splitMatter_of_open hreturn hfirst hlater hrest]
    have hfence : (lines content).tail = [fenceLine] ++ rest := hlater
    exact Nat.ne_of_gt (length_below_lt hfirst hfence)
  · rw [splitMatter_of_closed hreturn hfirst hlater hblock]
    exact Nat.ne_of_lt
      (Nat.lt_of_lt_of_le (length_belowFence_lt more after) (length_joinWith_le block _))

theorem ne_of_not_prefix (h : ¬fenceLine <+: later) : later ≠ fenceLine := by
  rintro rfl
  exact h (List.prefix_refl fenceLine)

/-- A line that begins with a fence and goes on is taken for the end of front matter. -/
theorem splitMatter_ne_of_longer (hreturn : '\r' ∉ content) (hfirst : line content = fenceLine)
    (hlater : (lines content).tail = first :: (block ++ (fenceLine ++ more) :: after))
    (hblock : ∀ l ∈ block, ¬fenceLine <+: l) (hline : first ≠ fenceLine) (hmore : more ≠ []) :
    splitMatter content ≠ splitFenced content := by
  have hlonger : fenceLine ++ more ≠ fenceLine := by simpa using hmore
  have hbefore : ∀ l ∈ first :: (block ++ [fenceLine ++ more]), l ≠ fenceLine := by
    refine List.forall_mem_cons.2 ⟨hline, fun l hl => ?_⟩
    rcases List.mem_append.1 hl with hl | hl
    · exact ne_of_not_prefix (hblock l hl)
    · rwa [List.mem_singleton.1 hl]
  have hshape : (lines content).tail = first :: (block ++ [fenceLine ++ more]) ++ after := by
    rw [hlater]
    simp
  have hkept {between : List Text} (h : fenceLine ∉ between) :
      ∀ l ∈ first :: (block ++ [fenceLine ++ more]) ++ between, l ≠ fenceLine := by
    intro l hl
    rcases List.mem_append.1 hl with hl | hl
    · exact hbefore l hl
    · exact ne_of_mem_of_not_mem hl h
  rw [splitMatter_of_closed hreturn hfirst hlater hblock]
  refine ne_of_length_ne ?_
  by_cases hfence : fenceLine ∈ after
  · obtain ⟨between, below, rfl, hbetween⟩ := List.eq_append_cons_of_mem hfence
    have hpart : ∃ part ∈ more :: between ++ [fenceLine], part ≠ [] :=
      ⟨more, List.mem_cons_self, hmore⟩
    have hshorter := length_joinWith_lt hpart below
    rw [← List.append_assoc] at hshape
    rw [List.append_assoc, List.singleton_append, List.cons_append] at hshorter
    rw [splitFenced_of_closed hshape (hkept hbetween), belowFence, if_neg hmore]
    exact Nat.ne_of_gt hshorter
  · rw [splitFenced_of_open (hshape ▸ hkept hfence)]
    have hshort : (lines content).tail = (first :: block) ++ (fenceLine ++ more) :: after := hlater
    exact Nat.ne_of_lt ((length_belowFence_lt more after).trans (length_below_lt hfirst hshort))

/-- A page whose first line is a fence is read by whole lines, front matter and body, exactly if
there is a line in its front matter and none of the lines there, but for the first, begins with a
fence. -/
theorem splitMatter_eq_splitFenced_iff (hreturn : '\r' ∉ content)
    (hfirst : line content = fenceLine) :
    splitMatter content = splitFenced content ↔
      (lines content).tail.head? ≠ some fenceLine ∧
        ∀ l ∈ (lines content).tail.tail.takeWhile (· != fenceLine), ¬fenceLine <+: l := by
  cases hlater : (lines content).tail with
  | nil =>
    have hcontent := content_eq hfirst
    rw [hlater] at hcontent
    have hread : splitMatter content = ([], content) := by rw [hcontent]; rfl
    rw [hread, splitFenced_of_open (by simp [hlater])]
    simp
  | cons first rest =>
    rw [List.head?_cons, List.tail_cons]
    by_cases hline : first = fenceLine
    · subst hline
      simp [splitMatter_ne_of_empty hreturn hfirst hlater]
    have hsome : some first ≠ some fenceLine := by simpa using hline
    rcases forall_or_exists_fence rest with hrest | ⟨block, more, after, rfl, hblock⟩
    · have hopen : ∀ l ∈ (lines content).tail, l ≠ fenceLine := by
        rw [hlater]
        exact List.forall_mem_cons.2 ⟨hline, fun l hl => ne_of_not_prefix (hrest l hl)⟩
      rw [splitMatter_of_open hreturn hfirst hlater hrest, splitFenced_of_open hopen]
      exact iff_of_true rfl ⟨hsome, fun l hl => hrest l ((List.takeWhile_prefix _).subset hl)⟩
    · have hbefore : ∀ l ∈ block, (l != fenceLine) = true := fun l hl => by
        simpa using ne_of_not_prefix (hblock l hl)
      rw [List.takeWhile_append_of_pos hbefore]
      by_cases hmore : more = []
      · subst hmore
        have hkept : ∀ l ∈ first :: block, l ≠ fenceLine :=
          List.forall_mem_cons.2 ⟨hline, fun l hl => ne_of_not_prefix (hblock l hl)⟩
        have hclosed : (lines content).tail = (first :: block) ++ fenceLine :: after := hlater
        rw [splitMatter_of_closed hreturn hfirst hlater hblock, splitFenced_of_closed hclosed hkept]
        exact iff_of_true rfl ⟨hsome, by simpa using hblock⟩
      · have hlonger : (fenceLine ++ more != fenceLine) = true := by simpa using hmore
        have hmem : fenceLine ++ more ∈ block ++
            ((fenceLine ++ more) :: after).takeWhile (· != fenceLine) := by
          rw [List.takeWhile_cons, if_pos hlonger]
          simp
        exact iff_of_false (splitMatter_ne_of_longer hreturn hfirst hlater hblock hline hmore)
          fun h => h.2 _ hmem (List.prefix_append fenceLine more)

/-- Front matter of two lines, and below its fence a line that begins with one. -/
theorem splitMatter_eq_splitFenced_two :
    splitMatter "---\na: b\nc: d\n---\n---x\n".toList =
      splitFenced "---\na: b\nc: d\n---\n---x\n".toList :=
  (splitMatter_eq_splitFenced_iff (by decide) (by decide)).2 ⟨by decide, by decide⟩

/-- A line that merely begins with a fence ends the front matter above it. -/
theorem splitMatter_ne_splitFenced :
    splitMatter "---\na: b\n---x\n---\nc".toList ≠
      splitFenced "---\na: b\n---x\n---\nc".toList := by
  decide

end Bindery.Page
