import Bindery.Proofs.Typst.Segments
import Mathlib.Data.List.Chain

namespace Bindery.Typst

open Text

theorem readTicks?_empty {rest : Text} (hrest : rest.head? ≠ some '\x60') :
    readTicks? ('\x60' :: '\x60' :: rest) = some ([], rest) := by
  cases rest with
  | nil => rfl
  | cons c rest =>
    have hc : (c == '\x60') = false := by simpa using hrest
    simp [readTicks?, hc]

/-- A run of three backticks or more opens raw text that is not empty. -/
theorem ne_nil_of_readTicks? {rest code after : Text}
    (h : readTicks? ('\x60' :: '\x60' :: '\x60' :: rest) = some (code, after)) : code ≠ [] := by
  rintro rfl
  have hticks : ('\x60' :: '\x60' :: '\x60' :: rest).takeWhile (· == '\x60') =
      '\x60' :: '\x60' :: '\x60' :: rest.takeWhile (· == '\x60') := rfl
  have hbody : ('\x60' :: '\x60' :: '\x60' :: rest).dropWhile (· == '\x60') =
      rest.dropWhile (· == '\x60') := rfl
  simp only [readTicks?, hticks, hbody, List.length_cons] at h
  rw [if_neg (by simp)] at h
  have hhead := List.head?_dropWhile_not (· == '\x60') rest
  rw [eq_append_of_cutAt? h] at hhead
  simp at hhead

theorem segments_eq_some {s : Text} {segs : List Segment} (hs : s ≠ [])
    (h : segments s = some segs) : ∃ segment rest later,
      segment? s = some (segment, rest) ∧ segments rest = some later ∧
        segs = segment.cons later := by
  rw [segments] at h
  split at h
  · rw [if_neg (by simpa using hs)] at h
    cases h
  · next segment rest hsegment =>
    obtain ⟨later, hlater, hsegs⟩ := Option.map_eq_some_iff.1 h
    exact ⟨segment, rest, later, hsegment, hlater, hsegs.symm⟩

theorem segments_empty {rest : Text} (hrest : rest.head? ≠ some '\x60') :
    segments (rawSpan [] ++ rest) = (segments rest).map (Segment.cons (.code [])) := by
  have hempty : segment? ('\x60' :: '\x60' :: rest) = some (.code [], rest) := by
    rw [segment?_tick, readTicks?_empty hrest]
    rfl
  exact segments_of_segment? hempty

/-- The two backticks of empty code before another one are not read as empty code. -/
theorem exists_of_segments_empty {rest : Text} {segs : List Segment}
    (hrest : rest.head? = some '\x60') (h : segments (rawSpan [] ++ rest) = some segs) :
    ∃ code later, code ≠ [] ∧ segs = .code code :: later := by
  obtain ⟨rest, rfl⟩ := List.head?_eq_some_iff.1 hrest
  obtain ⟨segment, after, later, hsegment, -, rfl⟩ := segments_eq_some (List.cons_ne_nil _ _) h
  obtain ⟨⟨code, _⟩, hread, heq⟩ := Option.map_eq_some_iff.1 hsegment
  cases heq
  exact ⟨code, later, ne_nil_of_readTicks? hread, rfl⟩

namespace Segment

/-- The code of a segment. -/
def code? : Segment → Option Text
  | .text _ => none
  | .code t => some t

/-- The codes among segments. -/
def codes (parts : List Segment) : List Text :=
  parts.filterMap code?

theorem mem_codes {parts : List Segment} {t : Text} : t ∈ codes parts ↔ .code t ∈ parts := by
  rw [codes, List.mem_filterMap]
  constructor
  · rintro ⟨part, hpart, hcode⟩
    cases part with
    | text u => cases hcode
    | code u => exact Option.some.inj hcode ▸ hpart
  · exact fun h => ⟨_, h, rfl⟩

/-- Prose that goes on with other prose leaves the codes as they are. -/
theorem codes_cons (part : Segment) (parts : List Segment) :
    codes (part.cons parts) = codes (part :: parts) := by
  cases part with
  | code t => rfl
  | text t =>
    rcases parts with _ | ⟨⟨u⟩ | ⟨u⟩, parts⟩
    · rfl
    · rfl
    · rfl

theorem codes_foldr_cons (parts : List Segment) : codes (parts.foldr cons []) = codes parts := by
  induction parts with
  | nil => rfl
  | cons part parts ih =>
    rw [List.foldr_cons, codes_cons, codes, codes, List.filterMap_cons, List.filterMap_cons,
      ← codes, ← codes, ih]

/-- The segment that is read from what the segment is set as. -/
def asRead : Segment → Segment
  | .text t => .text t
  | .code t => .code (readBack t)

theorem codes_map_asRead (parts : List Segment) :
    codes (parts.map asRead) = (codes parts).map readBack := by
  rw [codes, codes, List.filterMap_map, List.map_filterMap]
  refine congrArg (parts.filterMap ·) (funext fun part => ?_)
  cases part <;> rfl

/-- The segment is set between backticks. -/
def InTicks : Segment → Prop
  | .text _ => False
  | .code t => '\x60' ∉ t

/-- The second segment may follow the first one: no backtick comes right after empty code. -/
def MayPrecede (part next : Segment) : Prop :=
  part = .code [] → ¬next.InTicks

theorem markup_ne_nil {part : Segment} (hpart : part ≠ .text []) : part.markup ≠ [] := by
  cases part with
  | text t =>
    intro hnil
    have hread := readsAs_escape (fun h => hpart (congrArg Segment.text h)) []
    rw [markup] at hnil
    rw [hnil, List.append_nil, segments_nil] at hread
    cases hread
  | code t =>
    rw [markup, rawSpan]
    split <;> simp

theorem head?_markup (part : Segment) : part.markup.head? = some '\x60' ↔ part.InTicks := by
  cases part with
  | text t =>
    refine iff_of_false (fun h => ?_) id
    rcases head?_escape t _ h with heq | ⟨-, hspecial⟩
    · exact absurd heq (by decide)
    · exact absurd hspecial (by decide)
  | code t =>
    rw [markup, rawSpan, InTicks]
    split
    · next htick => exact iff_of_false (by simp) (by simpa using htick)
    · next htick => exact iff_of_true rfl (by simpa using htick)

theorem head?_detach_markup (previous : Text) (part : Segment) :
    (detach previous part.markup).head? = some '\x60' ↔ part.InTicks := by
  rw [← head?_markup]
  rcases detach_cases previous part.markup with hsame | ⟨c, rest, hmarkup, hc, hescaped⟩
  · rw [hsame]
  · rw [hescaped, hmarkup]
    rcases hc with rfl | rfl <;> simp

theorem detach_empty (previous : Text) : detach previous (markup (.code [])) = rawSpan [] := by
  simp [detach, markup, rawSpan, continuesExpression]

/-- Pieces one after the other, the first of which is not empty. -/
theorem joinAfter_markup {part : Segment} (hpart : part ≠ .text []) (previous : Text)
    (parts : List Segment) : joinAfter previous ((part :: parts).map markup) =
      detach previous part.markup ++
        joinAfter (detach previous part.markup) (parts.map markup) := by
  rw [List.map_cons, joinAfter, if_neg (by simpa using markup_ne_nil hpart)]

/-- Texts that are empty are set as nothing. -/
theorem joinAfter_filter (previous : Text) (parts : List Segment) :
    joinAfter previous ((parts.filter (· ≠ .text [])).map markup) =
      joinAfter previous (parts.map markup) := by
  induction parts generalizing previous with
  | nil => rfl
  | cons part parts ih =>
    by_cases hpart : part = .text []
    · subst hpart
      exact ih previous
    · rw [List.filter_cons_of_pos (by simpa using hpart), joinAfter_markup hpart,
        joinAfter_markup hpart, ih]

theorem head?_joinAfter {parts : List Segment} (htext : .text [] ∉ parts) (previous : Text) :
    (joinAfter previous (parts.map markup)).head? = some '\x60' ↔
      ∃ next ∈ parts.head?, next.InTicks := by
  cases parts with
  | nil => simp [joinAfter]
  | cons part parts =>
    rw [List.mem_cons, not_or] at htext
    have hpart := Ne.symm htext.1
    have hne : detach previous part.markup ≠ [] := by
      rw [detach]
      split
      · exact List.cons_ne_nil _ _
      · exact markup_ne_nil hpart
    rw [joinAfter_markup hpart, List.head?_append_of_ne_nil _ hne, head?_detach_markup]
    simp

end Segment

open Segment

section

variable {parts : List Segment}

/-- The first segment is read for itself, if the next one may follow it. -/
theorem segments_joinAfter_cons {part : Segment} (hpart : part ≠ .text [])
    (htext : .text [] ∉ parts) (hnext : ∀ next ∈ parts.head?, part.MayPrecede next)
    (previous : Text) : segments (joinAfter previous ((part :: parts).map markup)) =
      (segments (joinAfter (detach previous part.markup) (parts.map markup))).map
        part.asRead.cons := by
  rw [joinAfter_markup hpart]
  by_cases hempty : part = .code []
  · subst hempty
    have hrest (previous : Text) : (joinAfter previous (parts.map markup)).head? ≠ some '\x60' := by
      intro hhead
      obtain ⟨next, hmem, hticks⟩ := (head?_joinAfter htext previous).1 hhead
      exact hnext next hmem rfl hticks
    rw [detach_empty, segments_empty (hrest _)]
    rfl
  · have hreads : ReadsAs part.markup part.asRead := by
      cases part with
      | text t => exact readsAs_escape fun h => hpart (congrArg Segment.text h)
      | code t => exact readsAs_rawSpan fun h => hempty (congrArg Segment.code h)
    exact hreads.detach previous _

/-- Segments of which each may follow the one before it are read back one by one. -/
theorem segments_joinAfter (htext : .text [] ∉ parts) (hseams : parts.IsChain MayPrecede)
    (previous : Text) : segments (joinAfter previous (parts.map markup)) =
      some ((parts.map asRead).foldr cons []) := by
  induction parts generalizing previous with
  | nil => exact segments_nil
  | cons part parts ih =>
    rw [List.mem_cons, not_or] at htext
    rw [List.isChain_cons] at hseams
    rw [segments_joinAfter_cons (Ne.symm htext.1) htext.2 hseams.1, ih htext.2 hseams.2]
    rfl

/-- Where some segment may not follow the one before it, other codes are read: an empty one has
    become part of one that is not. -/
theorem map_isEmpty_codes_ne (htext : .text [] ∉ parts) (hseams : ¬parts.IsChain MayPrecede)
    {previous : Text} {segs : List Segment}
    (h : segments (joinAfter previous (parts.map markup)) = some segs) :
    (codes segs).map List.isEmpty ≠ (codes parts).map List.isEmpty := by
  induction parts generalizing previous segs with
  | nil => exact absurd .nil hseams
  | cons part parts ih =>
    rw [List.mem_cons, not_or] at htext
    rw [List.isChain_cons, not_and_or] at hseams
    by_cases hnext : ∀ next ∈ parts.head?, part.MayPrecede next
    · have hlater := hseams.resolve_left (not_not.2 hnext)
      rw [segments_joinAfter_cons (Ne.symm htext.1) htext.2 hnext] at h
      obtain ⟨later, hread, rfl⟩ := Option.map_eq_some_iff.1 h
      have hne := ih htext.2 hlater hread
      rw [codes_cons]
      cases part with
      | text t => exact hne
      | code t => exact fun heq => hne (List.cons.inj heq).2
    · -- The first segment is empty code, and the source after it begins with a backtick.
      simp only [MayPrecede, not_forall, not_not] at hnext
      obtain ⟨next, hmem, rfl, hticks⟩ := hnext
      rw [joinAfter_markup (by simp), detach_empty] at h
      obtain ⟨code, later, hcode, rfl⟩ := exists_of_segments_empty
        ((head?_joinAfter htext.2 _).2 ⟨next, hmem, hticks⟩) h
      intro heq
      exact hcode (List.isEmpty_iff.1 (List.cons.inj heq).1)

/-- The segments are kept apart on a line: no empty code is followed by code between backticks, and
    no code with a backtick in it, which stands in a string literal, goes over a line. -/
structure KeptApart (parts : List Segment) : Prop where
  seams : parts.IsChain MayPrecede
  lines : ∀ t, .code t ∈ parts → '\x60' ∈ t → '\n' ∉ t

/-- Segments that are set one after the other are read back as they are, prose that stands together
    as one, exactly when they are kept apart. -/
theorem segments_joinAfter_iff (htext : .text [] ∉ parts) (previous : Text) :
    segments (joinAfter previous (parts.map markup)) = some (parts.foldr cons []) ↔
      KeptApart parts := by
  constructor
  · intro h
    have hseams : parts.IsChain MayPrecede := by
      by_contra hseams
      refine map_isEmpty_codes_ne htext hseams h ?_
      rw [codes_foldr_cons]
    refine ⟨hseams, fun t ht => readBack_eq_self.1 ?_⟩
    rw [segments_joinAfter htext hseams] at h
    have hcodes : (codes parts).map readBack = (codes parts).map id := by
      rw [← codes_map_asRead, ← codes_foldr_cons, Option.some.inj h, codes_foldr_cons, List.map_id]
    exact List.map_inj_left.1 hcodes t (mem_codes.2 ht)
  · rintro ⟨hseams, hlines⟩
    have hread : parts.map asRead = parts.map id := by
      refine List.map_congr_left fun part hpart => ?_
      cases part with
      | text t => rfl
      | code t => exact congrArg Segment.code (readBack_eq_self.2 (hlines t hpart))
    rw [segments_joinAfter htext hseams, hread, List.map_id]

/-- Code that is not empty and keeps to its line may stand anywhere. -/
theorem KeptApart.of_isProper (h : ∀ part ∈ parts, part.IsProper) : KeptApart parts where
  seams := by
    refine List.Pairwise.isChain (List.pairwise_of_forall_mem_list fun part hpart _ _ hempty => ?_)
    subst hempty
    exact absurd rfl (h _ hpart).1
  lines := fun t ht _ => (h _ ht).2

theorem segments_join (h : ∀ part ∈ parts, part.IsProper) :
    segments (join (parts.map markup)) = some (parts.foldr cons []) := by
  refine (segments_joinAfter_iff (fun htext => ?_) []).2 (.of_isProper h)
  exact absurd rfl (h _ htext)

end

end Bindery.Typst
