import Bindery.Markup.Closing
import Bindery.Proofs.Markup.WrittenTag

namespace Bindery.Markup

open Text

/-- No character of the text is a mark that fences are made of. -/
def Unfenced (s : Text) : Prop :=
  ∀ c ∈ s, isFenceMark c = false

theorem Unfenced.append {s t : Text} (hs : Unfenced s) (ht : Unfenced t) : Unfenced (s ++ t) := by
  intro c hc
  exact (List.mem_append.1 hc).elim (hs c) (ht c)

theorem Unfenced.of_subset {s t : Text} (ht : Unfenced t) (h : s ⊆ t) : Unfenced s :=
  fun c hc => ht c (h hc)

theorem regionLength?_eq_none {s : Text} (h : markRun? ((line s).dropWhile isGap) = none) :
    regionLength? s = none := by
  unfold regionLength?
  rw [h]

theorem regionLength?_of_unfenced {s : Text} (h : Unfenced s) : regionLength? s = none := by
  apply regionLength?_eq_none
  cases hline : (line s).dropWhile isGap with
  | nil => rfl
  | cons c rest =>
    have hmem : c ∈ (line s).dropWhile isGap := by simp [hline]
    have hc : c ∈ s :=
      (List.takeWhile_prefix _).subset ((List.dropWhile_suffix isGap).subset hmem)
    exact if_neg (by simp [h c hc])

/-- The search for the closing tag where no fences are. -/
def closingIn? (name : Text) : (depth skip : Nat) → Text → Option (Text × Text)
  | _, _, [] => none
  | depth, skip + 1, c :: s => (closingIn? name depth skip s).map (Prod.map (c :: ·) id)
  | depth, 0, c :: s =>
    let next (depth skip : Nat) := (closingIn? name depth skip s).map (Prod.map (c :: ·) id)
    match mention? name (c :: s) with
    | none => next depth 0
    | some (length, .stays) => next depth length
    | some (length, .deepens) => next (depth + 1) length
    | some (length, .rises rest) => if depth ≤ 1 then some ([], rest) else next (depth - 1) length

/-- A character that is in no fenced region is searched as where no fences are. -/
theorem closingFrom?_of_no_region {name : Text} {depth skip : Nat} {lineStart : Bool} {c : Char}
    {s : Text} (hfenced : fencedFrom 0 lineStart (c :: s) = 0)
    (hrest : ∀ depth skip,
      closingFrom? name depth skip 0 (c == '\n') s = closingIn? name depth skip s) :
    closingFrom? name depth skip 0 lineStart (c :: s) = closingIn? name depth skip (c :: s) := by
  rw [closingFrom?]
  simp only [hfenced, hrest]
  cases skip with
  | succ skip => rw [if_pos (Nat.succ_pos skip), closingIn?]; rfl
  | zero =>
    rw [if_neg (Nat.lt_irrefl 0), closingIn?]
    cases hmention : mention? name (c :: s) with
    | none => rfl
    | some found =>
      obtain ⟨length, effect⟩ := found
      cases effect with
      | stays => rfl
      | deepens => rfl
      | rises rest => rfl

theorem closingFrom?_of_unfenced {s : Text} (h : Unfenced s) (name : Text) (depth skip : Nat)
    (lineStart : Bool) :
    closingFrom? name depth skip 0 lineStart s = closingIn? name depth skip s := by
  induction s generalizing depth skip lineStart with
  | nil => rw [closingFrom?, closingIn?]
  | cons c s ih =>
    have hfenced : fencedFrom 0 lineStart (c :: s) = 0 := by
      simp [fencedFrom, regionLength?_of_unfenced h]
    have hrest := ih (h.of_subset (List.subset_cons_self c s))
    exact closingFrom?_of_no_region hfenced fun depth skip => hrest depth skip _

/-- No fenced region begins within a line. -/
theorem closingFrom?_of_line {s : Text} (h : '\n' ∉ s) (name : Text) (depth skip : Nat) :
    closingFrom? name depth skip 0 false s = closingIn? name depth skip s := by
  induction s generalizing depth skip with
  | nil => rw [closingFrom?, closingIn?]
  | cons c s ih =>
    rw [List.mem_cons, not_or] at h
    have hline : (c == '\n') = false := beq_eq_false_iff_ne.2 (Ne.symm h.1)
    refine closingFrom?_of_no_region rfl fun depth skip => ?_
    rw [hline]
    exact ih h.2 depth skip

variable {name other : Text}

theorem exists_append_of_startsWithName {s : Text} (h : startsWithName name s = true) :
    ∃ rest, s = name ++ rest := by
  rw [startsWithName] at h
  split at h
  · next rest hrest => exact ⟨rest, eq_append_of_afterStart? hrest⟩
  · cases h

/-- A text that begins with a whole name begins with that name and with no other. -/
theorem startsWithName_append (hname : IsTagName name) (hother : IsTagName other) {tail : Text}
    (htail : tail.head?.any isNameChar = false) :
    startsWithName name (other ++ tail) = (name == other) := by
  rw [startsWithName]
  cases hstart : afterStart? name (other ++ tail) with
  | none =>
    have hne : name ≠ other := by
      rintro rfl
      rw [afterStart?_append] at hstart
      cases hstart
    simpa using hne
  | some rest =>
    have hshape := eq_append_of_afterStart? hstart
    by_cases hrest : rest.head?.any isNameChar = true
    · have hne : name ≠ other := by
        rintro rfl
        rw [List.append_cancel_left hshape, hrest] at htail
        cases htail
      simpa [hrest] using hne
    · rw [Bool.not_eq_true] at hrest
      have heq : name = other := by
        rw [← takeWhile_append_of_head hname.chars hrest, ← hshape,
          takeWhile_append_of_head hother.chars htail]
      simp [hrest, heq]

theorem startsWithName_slash (hname : IsTagName name) (s : Text) :
    startsWithName name ('/' :: s) = false := by
  obtain ⟨c, rest, rfl, hc⟩ := hname.exists_cons
  have hslash : ¬(c == '/') = true := Bool.eq_false_iff.1 (beq_of_isAlpha hc (by decide)).1
  rw [startsWithName, afterStart?, if_neg hslash]

theorem afterStart?_slash (hname : IsTagName name) (s : Text) :
    afterStart? ['/'] (name ++ s) = none := by
  obtain ⟨c, rest, rfl, hc⟩ := hname.exists_cons
  have hslash : ¬('/' == c) = true := Bool.eq_false_iff.1 (beq_of_isAlpha hc (by decide)).2
  exact if_neg hslash

/-- Mentions begin with an angle bracket. -/
theorem mention?_eq_none {c : Char} (hc : '<' ≠ c) (s : Text) : mention? name (c :: s) = none := by
  unfold mention?
  split
  · next heq => exact absurd (List.cons.inj heq).1.symm hc
  · rfl

/-- An opening tag is a mention of its own name, which deepens the search. -/
theorem mention?_open (hname : IsTagName name) (hother : IsTagName other) {pairs : Pairs}
    (hpairs : ∀ a ∈ pairs, IsAttribute a) (hkeys : (pairs.map Prod.fst).Nodup) (rest : Text) :
    mention? name (openTagText other pairs ++ rest) =
      if name = other then some (name.length, .deepens) else none := by
  have hread := openTag?_written hother hpairs hkeys rest
  have hshape : openTagText other pairs ++ rest =
      '<' :: (other ++ (pairs.flatMap attributeText ++ '>' :: rest)) := by
    simp [openTagText]
  have hstarts := startsWithName_append hname hother (head?_attributes pairs rest)
  rw [hshape] at hread ⊢
  simp [mention?, afterStart?_slash hother, hstarts, openingEffect, hread]

/-- A closing tag is a mention of its own name, which raises the search. -/
theorem mention?_close (hname : IsTagName name) (hother : IsTagName other) (rest : Text) :
    mention? name (closeTagText other ++ rest) =
      if name = other then some (name.length + 1, .rises rest) else none := by
  have hread := closeTag?_written hother rest
  have hshape : closeTagText other ++ rest = '<' :: '/' :: (other ++ '>' :: rest) := by
    simp [closeTagText]
  have hstop : ('>' :: rest).head?.any isNameChar = false := rfl
  have hstarts := startsWithName_append hname hother hstop
  have hslash : afterStart? ['/'] ('/' :: (other ++ '>' :: rest)) = some (other ++ '>' :: rest) :=
    rfl
  rw [hshape] at hread ⊢
  simp [mention?, hslash, hstarts, startsWithName_slash hname, closingEffect, hread]

/-- What the search finds, with more text before it. -/
def prepend (s : Text) (found : Option (Text × Text)) : Option (Text × Text) :=
  found.map (Prod.map (s ++ ·) id)

@[simp]
theorem prepend_nil (found : Option (Text × Text)) : prepend [] found = found := by
  cases found <;> rfl

theorem prepend_append (s t : Text) (found : Option (Text × Text)) :
    prepend (s ++ t) found = prepend s (prepend t found) := by
  cases found with
  | none => rfl
  | some found =>
    obtain ⟨before, rest⟩ := found
    simp [prepend]

/-- The search goes over the piece and has the same depth after it. -/
def Passes (name piece : Text) : Prop :=
  ∀ depth rest, closingIn? name (depth + 1) 0 (piece ++ rest) =
    prepend piece (closingIn? name (depth + 1) 0 rest)

theorem passes_nil : Passes name [] := by
  intro depth rest
  rw [List.nil_append, prepend_nil]

theorem Passes.append {s t : Text} (hs : Passes name s) (ht : Passes name t) :
    Passes name (s ++ t) := by
  intro depth rest
  rw [List.append_assoc, hs, ht, prepend_append]

theorem closingIn?_of_no_mention {c : Char} {s : Text} (h : mention? name (c :: s) = none)
    (depth : Nat) : closingIn? name depth 0 (c :: s) = prepend [c] (closingIn? name depth 0 s) := by
  rw [closingIn?, h]
  rfl

theorem passes_of_not_mem {s : Text} (h : '<' ∉ s) : Passes name s := by
  induction s with
  | nil => exact passes_nil
  | cons c s ih =>
    rw [List.mem_cons, not_or] at h
    intro depth rest
    have hnone : mention? name (c :: (s ++ rest)) = none := mention?_eq_none h.1 _
    rw [List.cons_append, closingIn?_of_no_mention hnone, ih h.2, ← prepend_append]
    rfl

theorem closingIn?_skip (depth : Nat) (s rest : Text) :
    closingIn? name depth s.length (s ++ rest) = prepend s (closingIn? name depth 0 rest) := by
  induction s with
  | nil => rw [List.length_nil, List.nil_append, prepend_nil]
  | cons c s ih =>
    have hfirst : closingIn? name depth (c :: s).length (c :: s ++ rest) =
        prepend [c] (closingIn? name depth s.length (s ++ rest)) := rfl
    rw [hfirst, ih, ← prepend_append]
    rfl

variable {pairs : Pairs}

/-- What follows the angle bracket of a written tag holds no other. -/
theorem not_mem_attributes (hpairs : ∀ a ∈ pairs, IsAttribute a)
    (hvalues : ∀ a ∈ pairs, '<' ∉ a.2) : '<' ∉ pairs.flatMap attributeText ++ ['>'] := by
  have hkeys : ∀ a ∈ pairs, '<' ∉ a.1 := fun a ha h =>
    absurd (List.all_eq_true.1 (hpairs a ha).chars _ h) (by decide)
  have hpair : '<' ∉ pairs.flatMap attributeText := by
    intro h
    obtain ⟨a, ha, h⟩ := List.mem_flatMap.1 h
    simp [attributeText, hkeys a ha, hvalues a ha] at h
  simp [hpair]

theorem IsTagName.not_mem (h : IsTagName name) {c : Char} (hc : isNameChar c = false) :
    c ∉ name := by
  intro hmem
  rw [List.all_eq_true.1 h.chars c hmem] at hc
  cases hc

/-- An opening tag of the name itself takes the search one level down. -/
theorem closingIn?_open (hname : IsTagName name) (hpairs : ∀ a ∈ pairs, IsAttribute a)
    (hvalues : ∀ a ∈ pairs, '<' ∉ a.2) (hkeys : (pairs.map Prod.fst).Nodup) (depth : Nat)
    (rest : Text) : closingIn? name depth 0 (openTagText name pairs ++ rest) =
      prepend (openTagText name pairs) (closingIn? name (depth + 1) 0 rest) := by
  have hmention := mention?_open hname hname hpairs hkeys rest
  have hpasses : Passes name (pairs.flatMap attributeText ++ ['>']) :=
    passes_of_not_mem (not_mem_attributes hpairs hvalues)
  rw [if_pos rfl] at hmention
  have hfirst : closingIn? name depth 0 (openTagText name pairs ++ rest) =
      prepend ['<'] (closingIn? name (depth + 1) name.length
        (name ++ (pairs.flatMap attributeText ++ ['>']) ++ rest)) := by
    rw [openTagText, List.cons_append] at hmention ⊢
    rw [closingIn?, hmention]
    rfl
  rw [hfirst, List.append_assoc, closingIn?_skip, hpasses, ← prepend_append, ← prepend_append]
  rfl

/-- A closing tag of the name itself takes a search that is further down one level up. -/
theorem closingIn?_close (hname : IsTagName name) (depth : Nat) (rest : Text) :
    closingIn? name (depth + 2) 0 (closeTagText name ++ rest) =
      prepend (closeTagText name) (closingIn? name (depth + 1) 0 rest) := by
  have hmention := mention?_close hname hname rest
  have hpasses : Passes name ['>'] := passes_of_not_mem (by decide)
  rw [if_pos rfl] at hmention
  have hfirst : closingIn? name (depth + 2) 0 (closeTagText name ++ rest) =
      prepend ['<'] (closingIn? name (depth + 1) ('/' :: name).length
        ('/' :: name ++ (['>'] ++ rest))) := by
    rw [closeTagText, List.cons_append] at hmention ⊢
    rw [closingIn?, hmention]
    simp [prepend]
  rw [hfirst, closingIn?_skip, hpasses, ← prepend_append, ← prepend_append]
  rfl

/-- The closing tag of the name itself ends a search that is at its first level. -/
theorem closingIn?_end (hname : IsTagName name) (rest : Text) :
    closingIn? name 1 0 (closeTagText name ++ rest) = some ([], rest) := by
  have hmention := mention?_close hname hname rest
  rw [if_pos rfl] at hmention
  rw [closeTagText, List.cons_append] at hmention ⊢
  rw [closingIn?, hmention]
  rfl

theorem passes_open (hname : IsTagName name) (hother : IsTagName other) (hne : name ≠ other)
    (hpairs : ∀ a ∈ pairs, IsAttribute a) (hvalues : ∀ a ∈ pairs, '<' ∉ a.2)
    (hkeys : (pairs.map Prod.fst).Nodup) : Passes name (openTagText other pairs) := by
  have hrest : '<' ∉ other ++ (pairs.flatMap attributeText ++ ['>']) := by
    rw [List.mem_append, not_or]
    exact ⟨hother.not_mem (by decide), not_mem_attributes hpairs hvalues⟩
  intro depth rest
  have hmention := mention?_open hname hother hpairs hkeys rest
  rw [if_neg hne] at hmention
  rw [openTagText, List.cons_append] at hmention ⊢
  rw [closingIn?_of_no_mention hmention, passes_of_not_mem hrest, ← prepend_append]
  rfl

theorem passes_close (hname : IsTagName name) (hother : IsTagName other) (hne : name ≠ other) :
    Passes name (closeTagText other) := by
  have hrest : '<' ∉ '/' :: (other ++ ['>']) := by
    simp [hother.not_mem (c := '<') (by decide)]
  intro depth rest
  have hmention := mention?_close hname hother rest
  rw [if_neg hne] at hmention
  rw [closeTagText, List.cons_append] at hmention ⊢
  rw [closingIn?_of_no_mention hmention, passes_of_not_mem hrest, ← prepend_append]
  rfl

/-- A written element is passed when its content is, whether it has the name or another one. -/
theorem passes_element (hname : IsTagName name) (hother : IsTagName other)
    (hpairs : ∀ a ∈ pairs, IsAttribute a) (hvalues : ∀ a ∈ pairs, '<' ∉ a.2)
    (hkeys : (pairs.map Prod.fst).Nodup) {body : Text} (hbody : Passes name body) :
    Passes name (openTagText other pairs ++ (body ++ closeTagText other)) := by
  by_cases heq : name = other
  · subst heq
    intro depth rest
    rw [List.append_assoc, List.append_assoc, closingIn?_open hname hpairs hvalues hkeys, hbody,
      closingIn?_close hname, prepend_append, prepend_append]
  · exact (passes_open hname hother heq hpairs hvalues hkeys).append
      (hbody.append (passes_close hname hother heq))

/-- The search for the end of an element gives its content, if it passes that. -/
theorem closing?_of_passes (hname : IsTagName name) {body tail : Text} (hbody : Passes name body)
    (hfences : Unfenced (body ++ (closeTagText name ++ tail))) (lineStart : Bool) :
    closing? name lineStart (body ++ (closeTagText name ++ tail)) = some (body, tail) := by
  rw [closing?, closingFrom?_of_unfenced hfences, hbody 0, closingIn?_end hname]
  simp [prepend]

end Bindery.Markup
