import Bindery.Proofs.Typst.Shown

namespace Bindery.Typst

open Text

/-- A part of a line. -/
inductive Segment
  | text (t : Text)
  | code (t : Text)
  deriving DecidableEq, Repr

namespace Segment

/-- The segment in front of others. Prose goes on with the prose that follows it. -/
def cons : Segment → List Segment → List Segment
  | .text t, .text u :: rest => .text (t ++ u) :: rest
  | segment, rest => segment :: rest

/-- The markup that a segment is set as. -/
def markup : Segment → Text
  | .text t => escape t
  | .code t => rawSpan t

/-- No part of a line is empty, and code keeps to the line. -/
def IsProper : Segment → Prop
  | .text t => t ≠ []
  | .code t => t ≠ [] ∧ '\n' ∉ t

theorem cons_text_append (t u : Text) (rest : List Segment) :
    cons (.text (t ++ u)) rest = cons (.text t) (cons (.text u) rest) := by
  rcases rest with _ | ⟨segment, rest⟩
  · rfl
  · cases segment with
    | text v => exact congrArg (.text · :: rest) (List.append_assoc t u v)
    | code v => rfl

end Segment

/-- The raw text of a call after its number sign, and what follows the call. -/
def rawCall? (rest : Text) : Option (Segment × Text) :=
  match afterStart? "raw(\"".toList rest with
  | some argument => (readRaw? argument).map fun (t, after) => (.code t, after)
  | none => none

/-- The character after a backslash, and what follows it. -/
def escapedChar? : Text → Option (Segment × Text)
  | [] => none
  | c :: rest => some (.text [c], rest)

/-- The first character of prose or the first raw text, and what follows it. -/
def segment? : Text → Option (Segment × Text)
  | [] => none
  | c :: rest =>
    if c == '\\' then escapedChar? rest
    else if c == '\x60' then (readTicks? (c :: rest)).map fun (t, after) => (.code t, after)
    else if c == '#' then rawCall? rest
    else if isSpecial c then none
    else some (.text [c], rest)

theorem segment?_tick (rest : Text) : segment? ('\x60' :: rest) =
    (readTicks? ('\x60' :: rest)).map fun (t, after) => (.code t, after) :=
  rfl

theorem segment?_rawCall (rest : Text) : segment? ('#' :: ("raw(\"".toList ++ rest)) =
    (readRaw? rest).map fun (t, after) => (.code t, after) :=
  rfl

theorem length_of_rawCall? {rest after : Text} {segment : Segment}
    (h : rawCall? rest = some (segment, after)) : after.length ≤ rest.length := by
  rw [rawCall?] at h
  split at h
  · next argument hargument =>
    obtain ⟨⟨t, b⟩, hread, heq⟩ := Option.map_eq_some_iff.1 h
    cases heq
    have hcall := length_of_afterStart? hargument
    have hafter := length_of_readRaw? hread
    omega
  · cases h

theorem length_of_segment? {s after : Text} {segment : Segment}
    (h : segment? s = some (segment, after)) : after.length < s.length := by
  cases s with
  | nil => cases h
  | cons c rest =>
    refine Nat.lt_succ_of_le ?_
    rw [segment?] at h
    split at h
    · cases rest with
      | nil => cases h
      | cons d rest =>
        cases h
        exact Nat.le_succ _
    split at h
    · next hc =>
      obtain ⟨⟨t, b⟩, hread, heq⟩ := Option.map_eq_some_iff.1 h
      cases heq
      exact length_of_readTicks? (eq_of_beq hc ▸ hread)
    split at h
    · exact length_of_rawCall? h
    split at h
    · cases h
    · cases h
      exact Nat.le_refl _

/-- The segments of a line. -/
def segments (s : Text) : Option (List Segment) :=
  match _h : segment? s with
  | none => if s.isEmpty then some [] else none
  | some (segment, rest) => (segments rest).map segment.cons
termination_by s.length
decreasing_by exact length_of_segment? _h

theorem segments_nil : segments [] = some [] := by
  unfold segments
  rfl

theorem segments_of_segment? {s rest : Text} {segment : Segment}
    (h : segment? s = some (segment, rest)) :
    segments s = (segments rest).map segment.cons := by
  rw [segments]
  split <;> simp_all

/-- The source is read as the segment, whatever follows it. -/
def ReadsAs (s : Text) (segment : Segment) : Prop :=
  ∀ rest, segments (s ++ rest) = (segments rest).map segment.cons

theorem readsAs_of_segment? {s : Text} {segment : Segment}
    (h : ∀ rest, segment? (s ++ rest) = some (segment, rest)) : ReadsAs s segment :=
  fun rest => segments_of_segment? (h rest)

theorem ReadsAs.append {s s' t u : Text} (hs : ReadsAs s (.text t)) (hs' : ReadsAs s' (.text u)) :
    ReadsAs (s ++ s') (.text (t ++ u)) := by
  intro rest
  rw [List.append_assoc, hs, hs', Option.map_map]
  refine congrArg (Option.map · (segments rest)) (funext fun others => ?_)
  exact (Segment.cons_text_append t u others).symm

theorem readsAs_escaped (c : Char) : ReadsAs ['\\', c] (.text [c]) :=
  readsAs_of_segment? fun _ => rfl

theorem readsAs_plain {c : Char} (hc : isSpecial c = false) : ReadsAs [c] (.text [c]) := by
  refine readsAs_of_segment? fun rest => ?_
  have hother (d : Char) (hd : isSpecial d = true) : (c == d) = false := by
    rw [beq_eq_false_iff_ne]
    rintro rfl
    rw [hc] at hd
    cases hd
  simp [segment?, hother, isSpecial]

theorem readsAs_escape {t : Text} (ht : t ≠ []) : ReadsAs (escape t) (.text t) := by
  have hread : escape t = [] ∧ t = [] ∨ ReadsAs (escape t) (.text t) := by
    refine escape_induction (P := fun t s => s = [] ∧ t = [] ∨ ReadsAs s (.text t))
      (.inl ⟨rfl, rfl⟩) ?_ ?_ t
    · rintro c s u - (⟨rfl, rfl⟩ | h)
      · exact .inr (readsAs_escaped c)
      · exact .inr ((readsAs_escaped c).append h)
    · rintro c s u hc - (⟨rfl, rfl⟩ | h)
      · exact .inr (readsAs_plain hc)
      · exact .inr ((readsAs_plain hc).append h)
  rcases hread with ⟨-, hnil⟩ | hread
  · exact absurd hnil ht
  · exact hread

/-- What code is read back as. A string literal has a space for each newline. -/
def readBack (code : Text) : Text :=
  if '\x60' ∈ code then onOneLine code else code

theorem readBack_eq_self {code : Text} : readBack code = code ↔ '\x60' ∈ code → '\n' ∉ code := by
  rw [readBack]
  split
  · next htick => simp [onOneLine_eq_self, htick]
  · next htick => simp [htick]

/-- Code is read as it is between backticks, and on one line in a string literal. -/
theorem readsAs_rawSpan {code : Text} (hcode : code ≠ []) :
    ReadsAs (rawSpan code) (.code (readBack code)) := by
  refine readsAs_of_segment? fun rest => ?_
  rw [readBack]
  split
  · next htick =>
    rw [rawSpan_append_of_mem htick, segment?_rawCall, readRaw?_literal]
    rfl
  · next htick =>
    rw [rawSpan_append_of_not_mem htick, segment?_tick, readTicks?_tick hcode htick]
    rfl

/-- Source is read as it is, also where a backslash keeps it from going on with an expression. -/
theorem ReadsAs.detach {s : Text} {segment : Segment} (h : ReadsAs s segment) (previous : Text) :
    ReadsAs (detach previous s) segment := by
  rcases detach_cases previous s with hsame | ⟨c, rest, rfl, hc, hescaped⟩
  · rwa [hsame]
  · have hplain : isSpecial c = false := by
      rcases hc with rfl | rfl <;> rfl
    -- After the backslash the character stands for what it stood for without it.
    intro others
    rw [hescaped, ← h others]
    exact (readsAs_escaped c (rest ++ others)).trans (readsAs_plain hplain (rest ++ others)).symm

end Bindery.Typst
