import Bindery.Proofs.Markup.Closing

namespace Bindery.Markup

open Text

variable {name s t rest after : Text} {count count' fenced : Nat} {lineStart : Bool}

/-- Whether the text begins with a tag that closes an element of the name. -/
def closesTag (name s : Text) : Bool :=
  (closeTag? s).any fun (other, _) => other == name

/-- Whether it begins with a tag that opens one and does not close itself. -/
def opensTag (name s : Text) : Bool :=
  (openTag? s).any fun (tag, _) => tag.name == name && !tag.closed

/-- How many elements of the name are open at the end of the text, with so many open before it;
    none, where a tag closes one that is not open. Tags in fenced regions do not count. What begins
    in the text may go on in what stands after it. -/
def openAfter? (name after : Text) :
    (count fenced : Nat) → (lineStart : Bool) → Text → Option Nat
  | count, _, _, [] => some count
  | count, fenced, lineStart, c :: s =>
    let fenced := fencedFrom fenced lineStart (c :: s ++ after)
    let next (count : Nat) := openAfter? name after count (fenced - 1) (c == '\n') s
    if 0 < fenced then next count
    else if closesTag name (c :: s ++ after) then if count = 0 then none else next (count - 1)
    else if opensTag name (c :: s ++ after) then next (count + 1)
    else next count

/-- The number of characters to the end of the fenced region that is open at the end of the text,
    given that number for its beginning. -/
def fencedAfter (after : Text) : (fenced : Nat) → (lineStart : Bool) → Text → Nat
  | fenced, _, [] => fenced
  | fenced, lineStart, c :: s =>
    fencedAfter after (fencedFrom fenced lineStart (c :: s ++ after) - 1) (c == '\n') s

/-- Whether a line begins after the text, given whether one begins before it. -/
def atLineStart (lineStart : Bool) (s : Text) : Bool :=
  s.getLast?.elim lineStart (· == '\n')

theorem atLineStart_cons (lineStart : Bool) (c : Char) (s : Text) :
    atLineStart lineStart (c :: s) = atLineStart (c == '\n') s := by
  rw [atLineStart, atLineStart, List.getLast?_cons]
  cases s.getLast? <;> rfl

theorem atLineStart_of_not_mem (h : '\n' ∉ s) : atLineStart false s = false := by
  rw [atLineStart]
  cases hlast : s.getLast? with
  | none => rfl
  | some c => exact beq_eq_false_iff_ne.2 fun heq => h (heq ▸ List.mem_of_getLast? hlast)

theorem name?_parts (h : name? s = some (name, rest)) :
    s = name ++ rest ∧ IsTagName name ∧ rest.head?.any isNameChar = false := by
  cases s with
  | nil => cases h
  | cons c s =>
    rw [name?] at h
    split at h
    · next hc =>
      obtain ⟨rfl, rfl⟩ := Prod.mk.inj (Option.some.inj h)
      have hword : isNameChar c = true := by
        have hother := not_of_isAlpha (p := fun c => !isNameChar c) (by decide) hc
        simpa using hother
      refine ⟨?_, ⟨hc, ?_⟩, head?_dropWhile isNameChar s⟩
      · rw [List.cons_append, List.takeWhile_append_dropWhile]
      · rw [List.all_cons, hword, List.all_takeWhile]
        rfl
    · cases h

theorem startsWithName_of_name? (hname : IsTagName name) {other : Text}
    (h : name? s = some (other, rest)) : startsWithName name s = (other == name) := by
  obtain ⟨rfl, hother, hrest⟩ := name?_parts h
  rw [startsWithName_append hname hother hrest, Bool.beq_comm]

theorem exists_name?_of_closeTag? {other : Text} (h : closeTag? s = some (other, rest)) :
    ∃ t after, s = '<' :: '/' :: t ∧ name? t = some (other, after) := by
  unfold closeTag? at h
  split at h
  · next t =>
    split at h
    · next found after hname =>
      split at h
      · obtain ⟨rfl, rfl⟩ := Prod.mk.inj (Option.some.inj h)
        exact ⟨t, after, rfl, hname⟩
      · cases h
    · cases h
  · cases h

theorem exists_name?_of_openTag? {tag : OpenTag} (h : openTag? s = some (tag, rest)) :
    ∃ t after, s = '<' :: t ∧ name? t = some (tag.name, after) := by
  unfold openTag? at h
  split at h
  · next t =>
    split at h
    · next found after hname =>
      simp only at h
      split at h
      · obtain ⟨rfl, rfl⟩ := Prod.mk.inj (Option.some.inj h)
        exact ⟨t, after, rfl, hname⟩
      · obtain ⟨rfl, rfl⟩ := Prod.mk.inj (Option.some.inj h)
        exact ⟨t, after, rfl, hname⟩
      · cases h
    · cases h
  · cases h

theorem closesTag_iff : closesTag name s = true ↔ ∃ rest, closeTag? s = some (name, rest) := by
  rw [closesTag, Option.any_eq_true]
  constructor
  · rintro ⟨⟨other, rest⟩, hread, heq⟩
    exact ⟨rest, eq_of_beq heq ▸ hread⟩
  · rintro ⟨rest, hread⟩
    exact ⟨_, hread, beq_self_eq_true name⟩

theorem opensTag_iff : opensTag name s = true ↔
    ∃ tag rest, openTag? s = some (tag, rest) ∧ tag.name = name ∧ tag.closed = false := by
  rw [opensTag, Option.any_eq_true]
  constructor
  · rintro ⟨⟨tag, rest⟩, hread, heq⟩
    rw [Bool.and_eq_true, beq_iff_eq, Bool.not_eq_true'] at heq
    exact ⟨tag, rest, hread, heq⟩
  · rintro ⟨tag, rest, hread, hname, hclosed⟩
    exact ⟨(tag, rest), hread, by simp [hname, hclosed]⟩

theorem mention?_of_closeTag? (hname : IsTagName name) (h : closeTag? s = some (name, rest)) :
    mention? name s = some (name.length + 1, .rises rest) := by
  obtain ⟨t, after, rfl, hread⟩ := exists_name?_of_closeTag? h
  have hstarts := startsWithName_of_name? hname hread
  rw [beq_self_eq_true] at hstarts
  have hslash : (afterStart? ['/'] ('/' :: t)).any (startsWithName name) = true := hstarts
  rw [mention?, if_pos hslash, closingEffect, h]

/-- No name begins with the slash of a closing tag. -/
theorem not_slash_of_startsWithName (hname : IsTagName name) (h : startsWithName name s = true) :
    afterStart? ['/'] s = none := by
  cases hslash : afterStart? ['/'] s with
  | none => rfl
  | some t =>
    rw [eq_append_of_afterStart? hslash, List.singleton_append, startsWithName_slash hname] at h
    cases h

theorem mention?_of_openTag? (hname : IsTagName name) {tag : OpenTag}
    (h : openTag? s = some (tag, rest)) (hother : tag.name = name) (hclosed : tag.closed = false) :
    mention? name s = some (name.length, .deepens) := by
  obtain ⟨t, after, rfl, hread⟩ := exists_name?_of_openTag? h
  have hstarts := startsWithName_of_name? hname hread
  rw [hother, beq_self_eq_true] at hstarts
  have hslash := not_slash_of_startsWithName hname hstarts
  rw [mention?, hslash, if_neg (by simp), if_pos hstarts, openingEffect, h]
  simp [hclosed]

theorem mention?_of_no_tag (hname : IsTagName name) (hcloses : closesTag name s = false)
    (hopens : opensTag name s = false) :
    mention? name s = none ∨ ∃ length, mention? name s = some (length, .stays) := by
  rw [← Bool.not_eq_true, closesTag_iff] at hcloses
  rw [← Bool.not_eq_true, opensTag_iff] at hopens
  unfold mention?
  split
  · next t =>
    split
    · next hslash =>
      obtain ⟨u, hu, hstarts⟩ := (Option.any_eq_true _ _).1 hslash
      refine .inr ⟨name.length + 1, ?_⟩
      cases hread : closeTag? ('<' :: t) with
      | none => rw [closingEffect, hread]
      | some found =>
        obtain ⟨other, after⟩ := found
        obtain ⟨v, tail, hv, hother⟩ := exists_name?_of_closeTag? hread
        have hsame : v = u := by
          rw [eq_append_of_afterStart? hu] at hv
          exact (List.cons.inj (List.cons.inj hv).2).2.symm
        rw [← hsame, startsWithName_of_name? hname hother] at hstarts
        exact absurd ⟨after, eq_of_beq hstarts ▸ hread⟩ hcloses
    · split
      · next hstarts =>
        refine .inr ⟨name.length, ?_⟩
        cases hread : openTag? ('<' :: t) with
        | none => rw [openingEffect, hread]
        | some found =>
          obtain ⟨tag, after⟩ := found
          obtain ⟨v, tail, hv, hother⟩ := exists_name?_of_openTag? hread
          rw [(List.cons.inj hv).2, startsWithName_of_name? hname hother] at hstarts
          cases hclosed : tag.closed with
          | true => simp [openingEffect, hread, hclosed]
          | false => exact absurd ⟨tag, after, hread, eq_of_beq hstarts, hclosed⟩ hopens
      · exact .inl rfl
  · exact .inl rfl

/-- The characters that a mention takes hold no bracket, so that no further one begins there. -/
theorem exists_of_mention? (hangle : '<' ∉ name) {c : Char} {length : Nat} {effect : Effect}
    (h : mention? name (c :: s) = some (length, effect)) :
    ∃ u t, s = u ++ t ∧ u.length = length ∧ '<' ∉ u := by
  unfold mention? at h
  split at h
  · next t heq =>
    obtain ⟨-, rfl⟩ := List.cons.inj heq
    split at h
    · next hslash =>
      obtain ⟨rfl, -⟩ := Prod.mk.inj (Option.some.inj h)
      obtain ⟨u, hu, hstarts⟩ := (Option.any_eq_true _ _).1 hslash
      obtain ⟨v, rfl⟩ := exists_append_of_startsWithName hstarts
      have hslash := eq_append_of_afterStart? hu
      exact ⟨'/' :: name, v, hslash, rfl, by simp [hangle]⟩
    · split at h
      · next hstarts =>
        obtain ⟨rfl, -⟩ := Prod.mk.inj (Option.some.inj h)
        obtain ⟨v, rfl⟩ := exists_append_of_startsWithName hstarts
        exact ⟨name, v, rfl, rfl, hangle⟩
      · cases h
  · cases h

theorem closingFrom?_of_skip (h : '<' ∉ s) (name : Text) (depth fenced : Nat) (lineStart : Bool)
    (t : Text) : closingFrom? name depth s.length fenced lineStart (s ++ t) =
      closingFrom? name depth 0 fenced lineStart (s ++ t) := by
  induction s generalizing fenced lineStart with
  | nil => rfl
  | cons c s ih =>
    rw [List.mem_cons, not_or] at h
    have hnone : mention? name (c :: (s ++ t)) = none := mention?_eq_none h.1 _
    rw [List.cons_append, List.length_cons, closingFrom?, closingFrom?, hnone]
    simp only [Nat.succ_pos, ↓reduceIte, Nat.lt_irrefl, Nat.add_sub_cancel, ih h.2]

/-- No mention begins in the characters that a mention takes. -/
theorem closingFrom?_of_mention (hname : IsTagName name) {c : Char} {length : Nat} {effect : Effect}
    (h : mention? name (c :: s) = some (length, effect)) (depth fenced : Nat) (lineStart : Bool) :
    closingFrom? name depth length fenced lineStart s =
      closingFrom? name depth 0 fenced lineStart s := by
  obtain ⟨u, t, rfl, rfl, hangle⟩ := exists_of_mention? (hname.not_mem (by decide)) h
  exact closingFrom?_of_skip hangle name depth fenced lineStart t

variable {c : Char}

/-- A tag in a fenced region counts nothing. -/
theorem closingFrom?_fenced (hname : IsTagName name)
    (hfenced : 0 < fencedFrom fenced lineStart (c :: s)) (depth : Nat) :
    closingFrom? name depth 0 fenced lineStart (c :: s) =
      prepend [c] (closingFrom? name depth 0 (fencedFrom fenced lineStart (c :: s) - 1) (c == '\n')
        s) := by
  rw [closingFrom?]
  simp only [Nat.lt_irrefl, ↓reduceIte, hfenced]
  cases hmention : mention? name (c :: s) with
  | none => rfl
  | some found =>
    obtain ⟨length, effect⟩ := found
    simp only [closingFrom?_of_mention hname hmention]
    rfl

/-- A tag that closes an element of the name ends a search at its first level, and takes a deeper
    one a level up. -/
theorem closingFrom?_closes (hname : IsTagName name)
    (hfenced : ¬0 < fencedFrom fenced lineStart (c :: s)) (h : closesTag name (c :: s) = true) :
    (∃ rest, closeTag? (c :: s) = some (name, rest) ∧
        closingFrom? name 1 0 fenced lineStart (c :: s) = some ([], rest)) ∧
      ∀ depth, closingFrom? name (depth + 2) 0 fenced lineStart (c :: s) =
        prepend [c] (closingFrom? name (depth + 1) 0 (fencedFrom fenced lineStart (c :: s) - 1)
          (c == '\n') s) := by
  obtain ⟨rest, hread⟩ := closesTag_iff.1 h
  have hmention := mention?_of_closeTag? hname hread
  constructor
  · refine ⟨rest, hread, ?_⟩
    rw [closingFrom?]
    simp only [hmention, hfenced, ↓reduceIte]
    rfl
  · intro depth
    rw [closingFrom?]
    simp only [hmention, hfenced, ↓reduceIte, closingFrom?_of_mention hname hmention]
    rfl

theorem closingFrom?_opens (hname : IsTagName name)
    (hfenced : ¬0 < fencedFrom fenced lineStart (c :: s)) (h : opensTag name (c :: s) = true)
    (depth : Nat) : closingFrom? name depth 0 fenced lineStart (c :: s) =
      prepend [c] (closingFrom? name (depth + 1) 0 (fencedFrom fenced lineStart (c :: s) - 1)
        (c == '\n') s) := by
  obtain ⟨tag, rest, hread, hother, hclosed⟩ := opensTag_iff.1 h
  have hmention := mention?_of_openTag? hname hread hother hclosed
  rw [closingFrom?]
  simp only [hmention, hfenced, ↓reduceIte, closingFrom?_of_mention hname hmention]
  rfl

theorem closingFrom?_of_no_tag (hname : IsTagName name)
    (hfenced : ¬0 < fencedFrom fenced lineStart (c :: s))
    (hcloses : closesTag name (c :: s) = false) (hopens : opensTag name (c :: s) = false)
    (depth : Nat) : closingFrom? name depth 0 fenced lineStart (c :: s) =
      prepend [c] (closingFrom? name depth 0 (fencedFrom fenced lineStart (c :: s) - 1) (c == '\n')
        s) := by
  rw [closingFrom?]
  rcases mention?_of_no_tag hname hcloses hopens with hnone | ⟨length, hmention⟩
  · simp only [hnone]
    rfl
  · simp only [hmention, hfenced, ↓reduceIte, closingFrom?_of_mention hname hmention]
    rfl

/-- Without an angle bracket no tag begins. -/
theorem openAfter?_of_not_mem (h : '<' ∉ s) :
    openAfter? name after count fenced lineStart s = some count := by
  induction s generalizing fenced lineStart with
  | nil => rfl
  | cons c s ih =>
    rw [List.mem_cons, not_or] at h
    have hcloses : ¬closesTag name (c :: s ++ after) = true := by
      intro hcloses
      obtain ⟨rest, hread⟩ := closesTag_iff.1 hcloses
      obtain ⟨t, _, ht, -⟩ := exists_name?_of_closeTag? hread
      exact h.1 (List.cons.inj ht).1.symm
    have hopens : ¬opensTag name (c :: s ++ after) = true := by
      intro hopens
      obtain ⟨tag, rest, hread, -⟩ := opensTag_iff.1 hopens
      obtain ⟨t, _, ht, -⟩ := exists_name?_of_openTag? hread
      exact h.1 (List.cons.inj ht).1.symm
    rw [openAfter?]
    simp only [ih h.2, if_neg hcloses, if_neg hopens, ite_self]

/-- One character of the count and of the search: a tag begins there that closes what is not open,
    and ends the search, or both go on, the search one level above the count. -/
theorem openAfter?_cons_cases (hname : IsTagName name) (count fenced : Nat) (lineStart : Bool)
    (c : Char) (s after : Text) :
    (openAfter? name after count fenced lineStart (c :: s) = none ∧
      ∃ rest, closeTag? (c :: s ++ after) = some (name, rest) ∧
        closingFrom? name (count + 1) 0 fenced lineStart (c :: s ++ after) = some ([], rest)) ∨
    ∃ between, openAfter? name after count fenced lineStart (c :: s) =
        openAfter? name after between (fencedFrom fenced lineStart (c :: s ++ after) - 1)
          (c == '\n') s ∧
      closingFrom? name (count + 1) 0 fenced lineStart (c :: s ++ after) =
        prepend [c] (closingFrom? name (between + 1) 0
          (fencedFrom fenced lineStart (c :: s ++ after) - 1) (c == '\n') (s ++ after)) := by
  rw [openAfter?]
  simp only
  by_cases hfenced : 0 < fencedFrom fenced lineStart (c :: s ++ after)
  · rw [if_pos hfenced]
    exact .inr ⟨count, rfl, closingFrom?_fenced hname hfenced (count + 1)⟩
  rw [if_neg hfenced]
  by_cases hcloses : closesTag name (c :: s ++ after) = true
  · rw [if_pos hcloses]
    obtain ⟨hends, hdeeper⟩ := closingFrom?_closes hname hfenced hcloses
    cases count with
    | zero => exact .inl ⟨rfl, hends⟩
    | succ count => exact .inr ⟨count, rfl, hdeeper count⟩
  rw [if_neg hcloses]
  rw [Bool.not_eq_true] at hcloses
  by_cases hopens : opensTag name (c :: s ++ after) = true
  · rw [if_pos hopens]
    exact .inr ⟨count + 1, rfl, closingFrom?_opens hname hfenced hopens (count + 1)⟩
  · rw [if_neg hopens]
    rw [Bool.not_eq_true] at hopens
    exact .inr ⟨count, rfl, closingFrom?_of_no_tag hname hfenced hcloses hopens (count + 1)⟩

/-- The search goes on behind a text with the elements that it leaves open. -/
theorem closingFrom?_of_openAfter? (hname : IsTagName name)
    (h : openAfter? name after count fenced lineStart s = some count') :
    closingFrom? name (count + 1) 0 fenced lineStart (s ++ after) =
      prepend s (closingFrom? name (count' + 1) 0 (fencedAfter after fenced lineStart s)
        (atLineStart lineStart s) after) := by
  induction s generalizing count fenced lineStart with
  | nil =>
    cases h
    rw [List.nil_append, prepend_nil, fencedAfter]
    rfl
  | cons c s ih =>
    rcases openAfter?_cons_cases hname count fenced lineStart c s after with
      ⟨hnone, -⟩ | ⟨between, hcount, hsearch⟩
    · cases hnone.symm.trans h
    · rw [hsearch, ih (hcount.symm.trans h), ← prepend_append, atLineStart_cons]
      rfl

/-- It ends within a text that closes more elements than it has opened, at a tag that begins in the
    text. -/
theorem exists_of_openAfter?_eq_none (hname : IsTagName name)
    (h : openAfter? name after count fenced lineStart s = none) :
    ∃ before t rest, s = before ++ t ∧ t ≠ [] ∧ closeTag? (t ++ after) = some (name, rest) ∧
      closingFrom? name (count + 1) 0 fenced lineStart (s ++ after) = some (before, rest) := by
  induction s generalizing count fenced lineStart with
  | nil => cases h
  | cons c s ih =>
    rcases openAfter?_cons_cases hname count fenced lineStart c s after with
      ⟨-, rest, htag, hfound⟩ | ⟨between, hcount, hsearch⟩
    · exact ⟨[], c :: s, rest, rfl, List.cons_ne_nil c s, htag, hfound⟩
    · obtain ⟨before, t, rest, hs, hne, htag, hfound⟩ := ih (hcount.symm.trans h)
      refine ⟨c :: before, t, rest, congrArg (c :: ·) hs, hne, htag, ?_⟩
      rw [hsearch, hfound]
      rfl

/-- No fenced region begins within a line. -/
theorem fencedAfter_of_line (h : '\n' ∉ s) (after : Text) : fencedAfter after 0 false s = 0 := by
  induction s with
  | nil => rfl
  | cons c s ih =>
    rw [List.mem_cons, not_or] at h
    have hline : (c == '\n') = false := beq_eq_false_iff_ne.2 (Ne.symm h.1)
    rw [fencedAfter, hline]
    exact ih h.2

/-- Nor on a line at whose beginning none does. -/
theorem fencedAfter_of_no_region (h : '\n' ∉ s) (hregion : regionLength? (s ++ after) = none)
    (lineStart : Bool) : fencedAfter after 0 lineStart s = 0 := by
  cases s with
  | nil => rfl
  | cons c s =>
    rw [List.mem_cons, not_or] at h
    have hline : (c == '\n') = false := beq_eq_false_iff_ne.2 (Ne.symm h.1)
    have hnone : fencedFrom 0 lineStart (c :: s ++ after) = 0 := by
      rw [fencedFrom, hregion]
      split
      · rfl
      · rfl
    rw [fencedAfter, hnone, hline]
    exact fencedAfter_of_line h.2 after

end Bindery.Markup
