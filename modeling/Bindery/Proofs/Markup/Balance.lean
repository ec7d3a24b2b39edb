import Bindery.Proofs.Markup.PairedTags
import Bindery.Proofs.Markup.Parts

namespace Bindery.Markup

open Text

variable {name text s t rest : Text} {lineStart : Bool} {skip fenced position count : Nat}

/-- Where the matches of a pattern begin and end. Each is looked for from the end of the one before
    on. A pattern gives the length of its match at a place, and may ask whether a line begins
    there. -/
def spansFrom (pattern : Bool → Text → Option Nat) :
    (skip position : Nat) → (lineStart : Bool) → Text → List (Nat × Nat)
  | _, _, _, [] => []
  | skip, position, lineStart, c :: s =>
    let later (skip : Nat) := spansFrom pattern skip (position + 1) (c == '\n') s
    if 0 < skip then later (skip - 1)
    else
      match pattern lineStart (c :: s) with
      | some length => (position, position + length) :: later (length - 1)
      | none => later 0

/-- Whether a line begins at the position. -/
def lineStartsAt (text : Text) (position : Nat) : Bool :=
  position == 0 || text[position - 1]? == some '\n'

/-- Where the matches of a pattern begin and end, from a position of the text on. -/
def spans (pattern : Bool → Text → Option Nat) (text : Text) (start : Nat) : List (Nat × Nat) :=
  spansFrom pattern 0 start (lineStartsAt text start) (text.drop start)

/-- A fenced region, which begins with a line. -/
def regionPattern (lineStart : Bool) (s : Text) : Option Nat :=
  if lineStart then regionLength? s else none

/-- A mention of the name with its bracket. -/
def mentionPattern (name : Text) (_ : Bool) (s : Text) : Option Nat :=
  (mention? name s).map fun (length, _) => length + 1

/-- Whether the position is within one of the spans. -/
def isWithin (found : List (Nat × Nat)) (position : Nat) : Bool :=
  found.any fun (first, stop) => first ≤ position && position < stop

/-- The mentions of the name outside fenced regions, from a position of the text on. -/
def counted (name text : Text) (start : Nat) : List Nat :=
  ((spans (mentionPattern name) text start).map Prod.fst).filter fun position =>
    !isWithin (spans regionPattern text start) position

theorem le_of_mem_spansFrom {pattern : Bool → Text → Option Nat} {span : Nat × Nat}
    (h : span ∈ spansFrom pattern skip position lineStart s) : position ≤ span.1 := by
  induction s generalizing skip position lineStart with
  | nil => cases h
  | cons c s ih =>
    have hlater {skip : Nat}
        (h : span ∈ spansFrom pattern skip (position + 1) (c == '\n') s) : position ≤ span.1 :=
      Nat.le_of_succ_le (ih h)
    rw [spansFrom] at h
    split at h
    · exact hlater h
    · split at h
      · rcases List.mem_cons.1 h with rfl | h
        · exact Nat.le_refl position
        · exact hlater h
      · exact hlater h

/-- Nothing before the position is within a span. -/
theorem isWithin_of_lt {pattern : Bool → Text → Option Nat} {n : Nat} (h : n < position) :
    isWithin (spansFrom pattern skip position lineStart s) n = false := by
  rw [isWithin, List.any_eq_false]
  intro span hspan
  have hle := le_of_mem_spansFrom hspan
  simp
  omega

/-- Mentions outside fenced regions as the search comes to them, with the number of characters that
    it has to pass over and of those to the end of the open region. -/
def countedFrom (name : Text) :
    (skip fenced position : Nat) → (lineStart : Bool) → Text → List Nat
  | _, _, _, _, [] => []
  | skip, fenced, position, lineStart, c :: s =>
    let fenced := fencedFrom fenced lineStart (c :: s)
    let later (skip : Nat) := countedFrom name skip (fenced - 1) (position + 1) (c == '\n') s
    if 0 < skip then later (skip - 1)
    else
      match mention? name (c :: s) with
      | none => later 0
      | some (length, _) => if 0 < fenced then later length else position :: later length

/-- Whether the position is in the open region, which so many characters remain of, or in one that
    begins later. -/
def isFencedFrom (fenced position : Nat) (lineStart : Bool) (s : Text) (n : Nat) : Bool :=
  n < position + fenced || isWithin (spansFrom regionPattern fenced position lineStart s) n

theorem fencedFrom_zero (lineStart : Bool) (s : Text) :
    fencedFrom 0 lineStart s = (regionPattern lineStart s).getD 0 := by
  cases lineStart <;> rfl

theorem isFencedFrom_cons {n : Nat} (hn : position ≤ n) (fenced : Nat) (lineStart : Bool) (c : Char)
    (s : Text) :
    isFencedFrom fenced position lineStart (c :: s) n =
      (decide (n < position + fencedFrom fenced lineStart (c :: s)) ||
        isWithin (spansFrom regionPattern (fencedFrom fenced lineStart (c :: s) - 1) (position + 1)
          (c == '\n') s) n) := by
  cases fenced with
  | succ fenced => rfl
  | zero =>
    rw [isFencedFrom, fencedFrom_zero, spansFrom, if_neg (Nat.lt_irrefl 0)]
    cases regionPattern lineStart (c :: s) with
    | none => rfl
    | some length =>
      have hbefore : ¬n < position := Nat.not_lt.2 hn
      simp [isWithin, hn, hbefore]

theorem isFencedFrom_succ {n : Nat} (hn : position + 1 ≤ n) (fenced : Nat) (lineStart : Bool)
    (c : Char) (s : Text) :
    isFencedFrom (fencedFrom fenced lineStart (c :: s) - 1) (position + 1) (c == '\n') s n =
      isFencedFrom fenced position lineStart (c :: s) n := by
  have hopen : n < position + 1 + (fencedFrom fenced lineStart (c :: s) - 1) ↔
      n < position + fencedFrom fenced lineStart (c :: s) := by
    omega
  rw [isFencedFrom_cons (Nat.le_of_succ_le hn), isFencedFrom, decide_eq_decide.2 hopen]

/-- A place is fenced if the region that is open there is, for no later one has begun. -/
theorem isFencedFrom_self (fenced position : Nat) (lineStart : Bool) (c : Char) (s : Text) :
    isFencedFrom fenced position lineStart (c :: s) position =
      decide (0 < fencedFrom fenced lineStart (c :: s)) := by
  have hopen : position < position + fencedFrom fenced lineStart (c :: s) ↔
      0 < fencedFrom fenced lineStart (c :: s) := by
    omega
  rw [isFencedFrom_cons (Nat.le_refl position), isWithin_of_lt (Nat.lt_succ_self position),
    Bool.or_false, decide_eq_decide.2 hopen]

/-- The search comes to the mentions from left to right, without those that are fenced. -/
theorem countedFrom_eq_filter (name : Text) (skip fenced position : Nat) (lineStart : Bool)
    (s : Text) :
    countedFrom name skip fenced position lineStart s =
      ((spansFrom (mentionPattern name) skip position lineStart s).map Prod.fst).filter
        (!isFencedFrom fenced position lineStart s ·) := by
  induction s generalizing skip fenced position lineStart with
  | nil => rfl
  | cons c s ih =>
    -- What is fenced behind this character is the same from it and from the one after it.
    have hlater (skip : Nat) :
        countedFrom name skip (fencedFrom fenced lineStart (c :: s) - 1) (position + 1) (c == '\n')
            s =
          ((spansFrom (mentionPattern name) skip (position + 1) (c == '\n') s).map Prod.fst).filter
            (!isFencedFrom fenced position lineStart (c :: s) ·) := by
      rw [ih]
      refine List.filter_congr fun n hn => ?_
      obtain ⟨span, hspan, rfl⟩ := List.mem_map.1 hn
      rw [isFencedFrom_succ (le_of_mem_spansFrom hspan)]
    rw [countedFrom, spansFrom]
    simp only [hlater]
    cases skip with
    | succ skip => rfl
    | zero =>
      rw [if_neg (Nat.lt_irrefl 0), if_neg (Nat.lt_irrefl 0), mentionPattern]
      cases mention? name (c :: s) with
      | none => rfl
      | some found =>
        simp only [Option.map_some, List.map_cons, List.filter_cons, isFencedFrom_self,
          Nat.add_sub_cancel]
        by_cases hfenced : 0 < fencedFrom fenced lineStart (c :: s)
        · simp [hfenced]
        · simp [hfenced]

theorem countedFrom_start (name text : Text) (start : Nat) :
    countedFrom name 0 0 start (lineStartsAt text start) (text.drop start) =
      counted name text start := by
  rw [countedFrom_eq_filter, counted, spans, spans]
  refine List.filter_congr fun n hn => ?_
  obtain ⟨span, hspan, rfl⟩ := List.mem_map.1 hn
  have hbefore : ¬span.1 < start + 0 := Nat.not_lt.2 (le_of_mem_spansFrom hspan)
  rw [isFencedFrom, decide_eq_false hbefore, Bool.false_or]

/-- The sum of the weights at the first so many positions. -/
def sumOf (weight : Nat → Int) : (positions : List Nat) → (n : Nat) → Int
  | first :: positions, n + 1 => weight first + sumOf weight positions n
  | _, _ => 0

/-- The entry takes the sum above the bound for the first time, to the number after it. -/
structure FirstAbove (weight : Nat → Int) (positions : List Nat) (bound : Int) (k : Nat) :
    Prop where
  earlier : ∀ j ≤ k, sumOf weight positions j ≤ bound
  reached : sumOf weight positions (k + 1) = bound + 1

section Sums

variable {weight : Nat → Int} {positions : List Nat} {bound : Int} {k k' : Nat}

@[simp]
theorem sumOf_zero : sumOf weight positions 0 = 0 := by
  cases positions <;> rfl

@[simp]
theorem sumOf_nil (n : Nat) : sumOf weight [] n = 0 := by
  cases n <;> rfl

theorem sumOf_cons_succ (first n : Nat) :
    sumOf weight (first :: positions) (n + 1) = weight first + sumOf weight positions n :=
  rfl

theorem FirstAbove.unique (h : FirstAbove weight positions bound k)
    (h' : FirstAbove weight positions bound k') : k = k' := by
  rcases Nat.lt_trichotomy k k' with hlt | heq | hlt
  · have hbound := h'.earlier (k + 1) hlt
    have hreached := h.reached
    omega
  · exact heq
  · have hbound := h.earlier (k' + 1) hlt
    have hreached := h'.reached
    omega

end Sums

/-- What the mention of the name at a position adds to the sum. -/
def weightAt (name text : Text) (position : Nat) : Int :=
  match mention? name (text.drop position) with
  | some (_, .rises _) => 1
  | some (_, .deepens) => -1
  | _ => 0

/-- What a search finds from a position on, with so many elements open inside the one that it is
    for, by the mentions that it comes to. -/
def Finds (name text : Text) (positions : List Nat) (count position : Nat) :
    Option (Text × Text) → Prop
  | some (before, rest) => ∃ k, FirstAbove (weightAt name text) positions count k ∧
      positions[k]? = some (position + before.length) ∧
      ∃ length, mention? name (text.drop (position + before.length)) = some (length, .rises rest)
  | none => ∀ n, sumOf (weightAt name text) positions n ≤ count

variable {positions : List Nat} {found : Option (Text × Text)}

theorem Finds.succ (h : Finds name text positions count (position + 1) found) (c : Char) :
    Finds name text positions count position (found.map (Prod.map (c :: ·) id)) := by
  cases found with
  | none => exact h
  | some found =>
    obtain ⟨before, rest⟩ := found
    have hplace : position + (c :: before).length = position + 1 + before.length := by
      rw [List.length_cons]
      omega
    rw [Option.map_some, Prod.map_apply, Finds, hplace]
    exact h

/-- A mention changes the number of open elements by its weight. -/
theorem Finds.cons {first count' : Nat} (hweight : count' + weightAt name text first = count)
    (h : Finds name text positions count' position found) :
    Finds name text (first :: positions) count position found := by
  have hbound {n : Nat} (hn : ∀ m, n = m + 1 → sumOf (weightAt name text) positions m ≤ count') :
      sumOf (weightAt name text) (first :: positions) n ≤ count := by
    cases n with
    | zero =>
      rw [sumOf_zero]
      omega
    | succ n =>
      have hsum := hn n rfl
      rw [sumOf_cons_succ]
      omega
  cases found with
  | none => exact fun n => hbound fun m _ => h m
  | some found =>
    obtain ⟨before, rest⟩ := found
    obtain ⟨k, ⟨hearlier, hreached⟩, hplace⟩ := h
    refine ⟨k + 1, ⟨fun j hj => hbound fun m hm => hearlier m (by omega), ?_⟩, hplace⟩
    rw [sumOf_cons_succ, hreached]
    omega

/-- A closing tag ends a search with no more element open. -/
theorem finds_here {length : Nat}
    (h : mention? name (text.drop position) = some (length, .rises rest)) (positions : List Nat) :
    Finds name text (position :: positions) 0 position (some ([], rest)) := by
  have hweight : weightAt name text position = 1 := by
    rw [weightAt, h]
  refine ⟨0, ⟨fun j hj => ?_, ?_⟩, rfl, length, h⟩
  · rw [Nat.le_zero.1 hj, sumOf_zero]
    exact Int.le_refl 0
  · rw [sumOf_cons_succ, hweight, sumOf_zero]
    rfl

/-- One walk counts the tags and finds the one that the sum leads to. -/
theorem finds_closingFrom? (hs : text.drop position = s) (skip fenced : Nat) (lineStart : Bool) :
    Finds name text (countedFrom name skip fenced position lineStart s) count position
      (closingFrom? name (count + 1) skip fenced lineStart s) := by
  -- The count is general, since every tag that counts goes on with another one.
  induction s generalizing skip fenced position lineStart count with
  | nil =>
    rw [closingFrom?, countedFrom]
    intro n
    rw [sumOf_nil]
    omega
  | cons c s ih =>
    have hrest : text.drop (position + 1) = s := by
      rw [← List.drop_drop, hs, List.drop_one, List.tail_cons]
    have hlater (count skip : Nat) : Finds name text _ count position _ :=
      (ih hrest skip (fencedFrom fenced lineStart (c :: s) - 1) (c == '\n')).succ c
    rw [closingFrom?, countedFrom]
    simp only
    split
    · exact hlater count _
    · cases hmention : mention? name (c :: s) with
      | none => exact hlater count 0
      | some found =>
        obtain ⟨length, effect⟩ := found
        simp only
        split
        · exact hlater count length
        · rw [← hs] at hmention
          cases effect with
          | stays => exact (hlater count length).cons (by simp only [weightAt, hmention]; omega)
          | deepens =>
            exact (hlater (count + 1) length).cons (by simp only [weightAt, hmention]; omega)
          | rises rest =>
            cases count with
            | zero => exact finds_here hmention _
            | succ count =>
              exact (hlater count length).cons (by simp only [weightAt, hmention]; omega)

/-- A name that is read from its brackets in one way: it begins, though not with a slash, and holds
    no bracket. -/
structure IsPlain (name : Text) : Prop where
  head : ∃ c rest, name = c :: rest ∧ c ≠ '/'
  angle : '<' ∉ name

/-- Whether a text begins with an angle bracket and the name, or with the slash of a closing tag
    between them, and does not go on with the name. -/
def isMention (name s : Text) : Bool :=
  (afterStart? ['<'] s).any fun s =>
    startsWithName name s || (afterStart? ['/'] s).any (startsWithName name)

/-- What the tag at a position adds to the sum, whatever its name is. -/
def tagWeightAt (text : Text) (position : Nat) : Int :=
  if (closeTag? (text.drop position)).isSome then 1
  else if (openTag? (text.drop position)).any fun (tag, _) => !tag.closed then -1
  else 0

/-- The positions from a place of the text on at which the name is mentioned outside fenced
    regions. -/
def occurrences (name text : Text) (start : Nat) : List Nat :=
  (List.range' start (text.length - start)).filter fun position =>
    isMention name (text.drop position) && !isWithin (spans regionPattern text start) position

theorem IsTagName.isPlain (h : IsTagName name) : IsPlain name := by
  obtain ⟨c, rest, rfl, hc⟩ := h.exists_cons
  refine ⟨⟨c, rest, rfl, ?_⟩, h.not_mem (by decide)⟩
  rintro rfl
  exact absurd hc (by decide)

theorem isMention_angle (name s : Text) : isMention name ('<' :: s) =
    (startsWithName name s || (afterStart? ['/'] s).any (startsWithName name)) :=
  rfl

theorem isSome_mention? (name s : Text) : (mention? name s).isSome = isMention name s := by
  cases s with
  | nil => rfl
  | cons c s =>
    by_cases hc : '<' = c
    · subst hc
      rw [mention?, isMention_angle]
      cases (afterStart? ['/'] s).any (startsWithName name) with
      | true => simp
      | false => cases startsWithName name s <;> rfl
    · rw [mention?_eq_none hc, isMention, afterStart?, if_neg (by simpa using hc)]
      rfl

/-- No mention of the name begins in the characters that another takes. -/
theorem spansFrom_mention_of_skip (h : '<' ∉ s) (position : Nat) (lineStart : Bool) (t : Text) :
    spansFrom (mentionPattern name) s.length position lineStart (s ++ t) =
      spansFrom (mentionPattern name) 0 position lineStart (s ++ t) := by
  induction s generalizing position lineStart with
  | nil => rfl
  | cons c s ih =>
    rw [List.mem_cons, not_or] at h
    rw [List.cons_append, List.length_cons, spansFrom, spansFrom, mentionPattern,
      mention?_eq_none h.1]
    simp only [Nat.succ_pos, ↓reduceIte, Nat.lt_irrefl, Nat.add_sub_cancel, ih h.2, Option.map_none]

/-- The mentions of a name without brackets are all the places where it is mentioned. -/
theorem spansFrom_mention_eq_filter (hname : '<' ∉ name) (hs : text.drop position = s)
    (lineStart : Bool) :
    (spansFrom (mentionPattern name) 0 position lineStart s).map Prod.fst =
      (List.range' position s.length).filter fun n => isMention name (text.drop n) := by
  induction s generalizing position lineStart with
  | nil => rfl
  | cons c s ih =>
    have hrest : text.drop (position + 1) = s := by
      rw [← List.drop_drop, hs, List.drop_one, List.tail_cons]
    rw [List.length_cons, List.range'_succ, List.filter_cons, ← ih hrest (c == '\n'), hs,
      ← isSome_mention?, spansFrom, if_neg (Nat.lt_irrefl 0), mentionPattern]
    cases hmention : mention? name (c :: s) with
    | none => rfl
    | some found =>
      obtain ⟨length, effect⟩ := found
      obtain ⟨u, t, rfl, rfl, hangle⟩ := exists_of_mention? hname hmention
      simp only [Option.map_some, Option.isSome_some, ↓reduceIte, List.map_cons,
        Nat.add_sub_cancel, spansFrom_mention_of_skip hangle]

theorem counted_eq_occurrences (hname : IsPlain name) (text : Text) (start : Nat) :
    counted name text start = occurrences name text start := by
  have hall : (spans (mentionPattern name) text start).map Prod.fst = _ :=
    spansFrom_mention_eq_filter hname.angle rfl _
  rw [counted, hall, List.length_drop, List.filter_filter, occurrences]
  exact List.filter_congr fun position _ => Bool.and_comm _ _

theorem openTag?_slash (s : Text) : openTag? ('<' :: '/' :: s) = none := rfl

theorem closeTag?_of_ne {c : Char} (hc : c ≠ '/') (s : Text) :
    closeTag? ('<' :: c :: s) = none := by
  cases hread : closeTag? ('<' :: c :: s) with
  | none => rfl
  | some found =>
    obtain ⟨t, _, ht, -⟩ := exists_name?_of_closeTag? hread
    exact absurd (List.cons.inj (List.cons.inj ht).2).1 hc

/-- What a mention of such a name adds to the sum is decided by the tag that begins there. -/
theorem weightAt_eq_tagWeightAt (hname : IsPlain name)
    (h : isMention name (text.drop position) = true) :
    weightAt name text position = tagWeightAt text position := by
  obtain ⟨⟨c, others, rfl, hc⟩, -⟩ := hname
  rw [isMention] at h
  obtain ⟨s, hs, h⟩ := (Option.any_eq_true _ _).1 h
  rw [weightAt, tagWeightAt, eq_append_of_afterStart? hs, List.singleton_append, mention?]
  by_cases hslash : (afterStart? ['/'] s).any (startsWithName (c :: others)) = true
  · obtain ⟨u, hu, -⟩ := (Option.any_eq_true _ _).1 hslash
    rw [if_pos hslash, eq_append_of_afterStart? hu, List.singleton_append, closingEffect,
      openTag?_slash]
    cases closeTag? ('<' :: '/' :: u) with
    | none => rfl
    | some found => rfl
  · have hstarts : startsWithName (c :: others) s = true := by simpa [hslash] using h
    obtain ⟨t, rfl⟩ := exists_append_of_startsWithName hstarts
    rw [if_neg hslash, if_pos hstarts, List.cons_append, openingEffect, closeTag?_of_ne hc]
    cases openTag? ('<' :: c :: (others ++ t)) with
    | none => rfl
    | some found =>
      obtain ⟨tag, rest⟩ := found
      cases hclosed : tag.closed with
      | true => simp [hclosed]
      | false => simp [hclosed]

/-- Where the closing tag begins and ends that the search finds from a position of the text on. -/
def closingSpan? (name text : Text) (start : Nat) : Option (Nat × Nat) :=
  (closing? name (lineStartsAt text start) (text.drop start)).map fun (before, rest) =>
    (start + before.length, text.length - rest.length)

theorem finds_closing? (name text : Text) (start : Nat) :
    Finds name text (counted name text start) 0 start
      (closing? name (lineStartsAt text start) (text.drop start)) := by
  rw [← countedFrom_start]
  exact finds_closingFrom? rfl 0 0 (lineStartsAt text start)

/-- In a text without fence marks nothing is fenced. -/
theorem spans_regionPattern_of_unfenced (h : Unfenced text) (start : Nat) :
    spans regionPattern text start = [] := by
  have hfrom (s : Text) (hs : Unfenced s) (position : Nat) (lineStart : Bool) :
      spansFrom regionPattern 0 position lineStart s = [] := by
    induction s generalizing position lineStart with
    | nil => rfl
    | cons c s ih =>
      have hnone : regionPattern lineStart (c :: s) = none := by
        rw [regionPattern, regionLength?_of_unfenced hs, ite_self]
      rw [spansFrom, if_neg (Nat.lt_irrefl 0), hnone]
      exact ih (hs.of_subset (List.subset_cons_self c s)) _ _
  exact hfrom _ (h.of_subset (List.drop_subset start text)) start _

theorem closingSpan?_eq_some_iff {start first stop : Nat} :
    closingSpan? name text start = some (first, stop) ↔
      ∃ k other rest, FirstAbove (weightAt name text) (counted name text start) 0 k ∧
        (counted name text start)[k]? = some first ∧
        closeTag? (text.drop first) = some (other, rest) ∧ stop = text.length - rest.length := by
  have hfinds := finds_closing? name text start
  rw [closingSpan?]
  cases hfound : closing? name (lineStartsAt text start) (text.drop start) with
  | none =>
    rw [hfound] at hfinds
    refine ⟨fun h => absurd h (by simp), ?_⟩
    rintro ⟨k, -, -, habove, -⟩
    have hbound : sumOf (weightAt name text) (counted name text start) (k + 1) ≤ 0 := hfinds (k + 1)
    rw [habove.reached] at hbound
    cases hbound
  | some found =>
    obtain ⟨before, rest⟩ := found
    rw [hfound] at hfinds
    obtain ⟨k, habove, hplace, length, hmention⟩ := hfinds
    obtain ⟨other, hclose⟩ := exists_closeTag?_of_rises hmention
    constructor
    · intro h
      cases h
      exact ⟨k, other, rest, habove, hplace, hclose, rfl⟩
    · rintro ⟨k', other', rest', habove', hplace', hclose', rfl⟩
      cases habove.unique habove'
      cases hplace.symm.trans hplace'
      cases hclose.symm.trans hclose'
      rfl

theorem closingSpan?_eq_none_iff {start : Nat} : closingSpan? name text start = none ↔
    ∀ n, sumOf (weightAt name text) (counted name text start) n ≠ 1 := by
  have hfinds := finds_closing? name text start
  rw [closingSpan?]
  cases hfound : closing? name (lineStartsAt text start) (text.drop start) with
  | none =>
    rw [hfound] at hfinds
    refine ⟨fun _ n hone => ?_, fun _ => rfl⟩
    have hbound : sumOf (weightAt name text) (counted name text start) n ≤ 0 := hfinds n
    rw [hone] at hbound
    cases hbound
  | some found =>
    obtain ⟨before, rest⟩ := found
    rw [hfound] at hfinds
    obtain ⟨k, habove, -⟩ := hfinds
    exact ⟨fun h => absurd h (by simp), fun h => absurd habove.reached (h (k + 1))⟩

/-- The search for the tag that closes an element ends at the closing tag that first takes the sum
along the mentions of the name to one, and finds none exactly when the sum is never one. For a name
that is read from its brackets in one way these are the closing and opening tags at all the places
outside fenced regions where the name is mentioned. The search need not ask for the regions of a
text without fence marks. -/
theorem closingSpan?_balance (name text : Text) (start : Nat) :
    let positions := counted name text start
    (∀ first stop, closingSpan? name text start = some (first, stop) ↔
      ∃ k other rest, FirstAbove (weightAt name text) positions 0 k ∧ positions[k]? = some first ∧
        closeTag? (text.drop first) = some (other, rest) ∧ stop = text.length - rest.length) ∧
    (closingSpan? name text start = none ↔ ∀ n, sumOf (weightAt name text) positions n ≠ 1) ∧
    (if text.any isFenceMark then spans regionPattern text start else []) =
      spans regionPattern text start ∧
    (IsPlain name → positions = occurrences name text start ∧
      ∀ position ∈ positions, weightAt name text position = tagWeightAt text position) := by
  intro positions
  refine ⟨fun first stop => closingSpan?_eq_some_iff, closingSpan?_eq_none_iff, ?_, fun hname => ?_⟩
  · split
    · rfl
    · next h =>
      rw [Bool.not_eq_true, List.any_eq_false] at h
      exact (spans_regionPattern_of_unfenced (fun c hc => by simpa using h c hc) start).symm
  · have hall : positions = _ := counted_eq_occurrences hname text start
    refine ⟨hall, fun position hposition => ?_⟩
    rw [hall, occurrences, List.mem_filter, Bool.and_eq_true] at hposition
    exact weightAt_eq_tagWeightAt hname hposition.2.1

/-- A longer name, a tag that closes itself, a closing tag in a region, and an element of the name
inside the one that is closed. -/
theorem closingSpan?_balance_nested :
    let name := "Tab".toList
    let text := "<Tabs>\n<Tab/>\n~~~\n</Tab>\n~~~\n<Tab a=\"1\">\n</Tab>\n</Tab></Tab >".toList
    IsPlain name ∧ spans regionPattern text 0 = [(14, 28)] ∧
      counted name text 0 = [7, 29, 41, 48, 54] ∧ closingSpan? name text 0 = some (48, 54) := by
  intro name text
  have hname : IsPlain name := IsTagName.isPlain ⟨by decide, by decide⟩
  obtain ⟨hsome, -, -, hplain⟩ := closingSpan?_balance name text 0
  have hcounted : counted name text 0 = [7, 29, 41, 48, 54] :=
    (hplain hname).1.trans (by decide +kernel)
  refine ⟨hname, by decide +kernel, hcounted, (hsome 48 54).2 ?_⟩
  rw [hcounted]
  exact ⟨3, name, "</Tab >".toList, ⟨by decide +kernel, by decide +kernel⟩, rfl,
    by decide +kernel, rfl⟩

/-- A name that holds brackets may be mentioned within a mention of itself, where the search does
not look for it; and after the bracket of a name that begins with a slash, or of the empty name, it
asks for an opening tag although a closing tag stands there. In both texts the tags at the places of
all mentions sum up to one. -/
theorem closingSpan?_of_overlap :
    (let name := "a></a>".toList
      let text := "<a></a></a></a>".toList
      occurrences name text 0 = [0, 3, 7] ∧ FirstAbove (tagWeightAt text) [0, 3, 7] 0 2 ∧
        closingSpan? name text 0 = none) ∧
      ∀ name ∈ ["/a".toList, []],
        occurrences name "</a>".toList 0 = [0] ∧ FirstAbove (tagWeightAt "</a>".toList) [0] 0 0 ∧
          closingSpan? name "</a>".toList 0 = none := by
  refine ⟨⟨by decide +kernel, ⟨by decide +kernel, by decide +kernel⟩, by decide +kernel⟩, ?_⟩
  have hsum : FirstAbove (tagWeightAt "</a>".toList) [0] 0 0 :=
    ⟨by decide +kernel, by decide +kernel⟩
  rw [List.forall_mem_cons, List.forall_mem_singleton]
  exact ⟨⟨by decide +kernel, hsum, by decide +kernel⟩, by decide +kernel, hsum, by decide +kernel⟩

end Bindery.Markup
