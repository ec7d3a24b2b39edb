import Bindery.Proofs.Text.Cutting
import Bindery.Proofs.Typst.Escape
import Bindery.Typst.Markup
import Bindery.Typst.Raw
import Mathlib.Data.List.Forall2

namespace Bindery.Typst

open Text

/-- What a string literal stands for, read after its opening quote or after a backslash in it, and
    what follows its closing quote. Only a backslash and a quote may be escaped. -/
def readLiteral? : (escaped : Bool) → Text → Option (Text × Text)
  | _, [] => none
  | true, c :: rest =>
    if c == '\\' || c == '\x22' then
      (readLiteral? false rest).map fun (t, after) => (c :: t, after)
    else none
  | false, c :: rest =>
    if c == '\x22' then some ([], rest)
    else if c == '\\' then readLiteral? true rest
    else (readLiteral? false rest).map fun (t, after) => (c :: t, after)

/-- Raw text that begins with a run of backticks, and what follows it. It ends with the next so
    many backticks; two backticks alone hold nothing. -/
def readTicks? (s : Text) : Option (Text × Text) :=
  let ticks := s.takeWhile (· == '\x60')
  let rest := s.dropWhile (· == '\x60')
  if ticks.length == 2 then some ([], rest) else cutAt? ticks rest

/-- The string literal of a call of `raw`, read after its opening quote, and what follows the
    call. -/
def readRaw? (s : Text) : Option (Text × Text) :=
  match readLiteral? false s with
  | some (t, ')' :: after) => some (t, after)
  | _ => none

/-- What one construct at the beginning of the source does. -/
inductive Effect
  | shows (t : Text)
  /-- Strong or emphasised content begins. -/
  | opens
  /-- It ends. -/
  | closes
  deriving DecidableEq, Repr

/-- The construct after a number sign, and what follows it. -/
def afterSign? (rest : Text) : Option (Effect × Text) :=
  match afterStart? "strong[".toList rest, afterStart? "emph[".toList rest,
    afterStart? "raw(\"".toList rest with
  | some body, _, _ => some (.opens, body)
  | _, some body, _ => some (.opens, body)
  | _, _, some argument => (readRaw? argument).map fun (t, after) => (.shows t, after)
  | _, _, _ => some (.shows ['#'], rest)

/-- The character after a backslash, and what follows it. -/
def afterBackslash? : Text → Option (Effect × Text)
  | [] => none
  | c :: rest => some (.shows [c], rest)

/-- The first construct of the source, and what follows it. -/
def construct? : Text → Option (Effect × Text)
  | [] => none
  | c :: rest =>
    if c == '\\' then afterBackslash? rest
    else if c == '\x60' then
      (readTicks? (c :: rest)).map fun (t, after) => (.shows t, after)
    else if c == '#' then afterSign? rest
    else if c == ']' then some (.closes, rest)
    else some (.shows [c], rest)

theorem length_of_readLiteral? {escaped : Bool} {s t after : Text}
    (h : readLiteral? escaped s = some (t, after)) : after.length < s.length := by
  induction s generalizing escaped t after with
  | nil => cases escaped <;> cases h
  | cons c s ih =>
    have shorter {u b : Text} (hread : readLiteral? false s = some (u, b)) :
        b.length < (c :: s).length := Nat.lt_succ_of_lt (ih hread)
    cases escaped with
    | true =>
      rw [readLiteral?] at h
      split at h
      · obtain ⟨⟨u, b⟩, hread, heq⟩ := Option.map_eq_some_iff.1 h
        cases heq
        exact shorter hread
      · cases h
    | false =>
      rw [readLiteral?] at h
      split at h
      · cases h
        exact Nat.lt_succ_self _
      split at h
      · exact Nat.lt_succ_of_lt (ih h)
      · obtain ⟨⟨u, b⟩, hread, heq⟩ := Option.map_eq_some_iff.1 h
        cases heq
        exact shorter hread

theorem length_of_readRaw? {s t after : Text} (h : readRaw? s = some (t, after)) :
    after.length < s.length := by
  rw [readRaw?] at h
  split at h
  · next u b hread =>
    obtain ⟨rfl, rfl⟩ : u = t ∧ b = after := by simpa using h
    have := length_of_readLiteral? hread
    simp only [List.length_cons] at this
    omega
  · cases h

theorem length_of_readTicks? {s t after : Text} (h : readTicks? ('\x60' :: s) = some (t, after)) :
    after.length ≤ s.length := by
  have hrest := (List.dropWhile_suffix (l := s) (· == '\x60')).length_le
  have hdrop : ('\x60' :: s).dropWhile (· == '\x60') = s.dropWhile (· == '\x60') := rfl
  rw [readTicks?] at h
  simp only [hdrop] at h
  split at h
  · obtain ⟨rfl, rfl⟩ : [] = t ∧ _ = after := by simpa using h
    exact hrest
  · have := congrArg List.length (eq_append_of_cutAt? h)
    simp only [List.length_append] at this
    omega

theorem length_of_afterSign? {rest after : Text} {effect : Effect}
    (h : afterSign? rest = some (effect, after)) : after.length ≤ rest.length := by
  rw [afterSign?] at h
  split at h
  · next hbody =>
    cases h
    have := length_of_afterStart? hbody
    omega
  · next hbody _ =>
    cases h
    have := length_of_afterStart? hbody
    omega
  · next hargument _ _ =>
    obtain ⟨⟨t, b⟩, hread, heq⟩ := Option.map_eq_some_iff.1 h
    cases heq
    have := length_of_afterStart? hargument
    have := length_of_readRaw? hread
    omega
  · cases h
    exact Nat.le_refl _

theorem length_of_afterBackslash? {rest after : Text} {effect : Effect}
    (h : afterBackslash? rest = some (effect, after)) : after.length ≤ rest.length := by
  cases rest with
  | nil => cases h
  | cons c rest =>
    cases h
    exact Nat.le_succ _

theorem length_of_construct? {s after : Text} {effect : Effect}
    (h : construct? s = some (effect, after)) : after.length < s.length := by
  cases s with
  | nil => cases h
  | cons c rest =>
    refine Nat.lt_succ_of_le ?_
    rw [construct?] at h
    split at h
    · exact length_of_afterBackslash? h
    split at h
    · next hc =>
      obtain ⟨⟨t, b⟩, hread, heq⟩ := Option.map_eq_some_iff.1 h
      cases heq
      exact length_of_readTicks? (eq_of_beq hc ▸ hread)
    split at h
    · exact length_of_afterSign? h
    split at h
    · cases h
      exact Nat.le_refl _
    · cases h
      exact Nat.le_refl _

/-- The text that the source shows, with so much strong and emphasised content open around its
    beginning. A bracket that closes nothing cannot be read, nor can source that ends within
    something. -/
def shown (depth : Nat) (s : Text) : Option Text :=
  match _h : construct? s with
  | none => if s.isEmpty && depth == 0 then some [] else none
  | some (.shows t, rest) => (shown depth rest).map (t ++ ·)
  | some (.opens, rest) => shown (depth + 1) rest
  | some (.closes, rest) =>
    match depth with
    | 0 => none
    | depth + 1 => shown depth rest
termination_by s.length
decreasing_by all_goals exact length_of_construct? _h

theorem shown_nil : shown 0 [] = some [] := by
  unfold shown
  rfl

theorem shown_of_shows {s t rest : Text} (h : construct? s = some (.shows t, rest)) (depth : Nat) :
    shown depth s = (shown depth rest).map (t ++ ·) := by
  rw [shown]
  split <;> simp_all

theorem shown_of_opens {s rest : Text} (h : construct? s = some (.opens, rest)) (depth : Nat) :
    shown depth s = shown (depth + 1) rest := by
  rw [shown]
  split <;> simp_all

theorem shown_of_closes {s rest : Text} (h : construct? s = some (.closes, rest)) (depth : Nat) :
    shown (depth + 1) s = shown depth rest := by
  rw [shown]
  split <;> simp_all

/-- The source shows the text, whatever is open before it and whatever follows it. -/
def Shows (s t : Text) : Prop :=
  ∀ depth rest, shown depth (s ++ rest) = (shown depth rest).map (t ++ ·)

theorem Shows.shown {s t : Text} (h : Shows s t) : shown 0 s = some t := by
  have hshown := h 0 []
  rw [List.append_nil, shown_nil] at hshown
  simpa using hshown

theorem shows_nil : Shows [] [] := by
  intro depth rest
  simp

theorem Shows.append {s t u v : Text} (hs : Shows s t) (hu : Shows u v) :
    Shows (s ++ u) (t ++ v) := by
  intro depth rest
  rw [List.append_assoc, hs, hu, Option.map_map]
  simp [Function.comp_def]

theorem shows_of_construct {s t : Text}
    (h : ∀ rest, construct? (s ++ rest) = some (.shows t, rest)) : Shows s t :=
  fun depth rest => shown_of_shows (h rest) depth

theorem shows_escaped (c : Char) : Shows ['\\', c] [c] :=
  shows_of_construct fun _ => rfl

/-- A character that does not begin a construct is itself. -/
theorem construct?_of_plain {c : Char}
    (h : (c == '\\' || c == '\x60' || c == '#' || c == ']') = false) (rest : Text) :
    construct? (c :: rest) = some (.shows [c], rest) := by
  simp only [Bool.or_eq_false_iff] at h
  obtain ⟨⟨⟨hbackslash, htick⟩, hsign⟩, hbracket⟩ := h
  simp [construct?, hbackslash, htick, hsign, hbracket]

theorem shows_plain {c : Char} (h : (c == '\\' || c == '\x60' || c == '#' || c == ']') = false) :
    Shows [c] [c] :=
  shows_of_construct (construct?_of_plain h)

theorem shows_escape (t : Text) : Shows (escape t) t := by
  refine escape_induction (P := fun t s => Shows s t) shows_nil ?_ ?_ t
  · intro c _ _ _ h
    exact (shows_escaped c).append h
  · intro c _ _ hspecial _ h
    have hplain : (c == '\\' || c == '\x60' || c == '#' || c == ']') = false := by
      simp_all [isSpecial]
    exact (shows_plain hplain).append h

theorem Shows.body (opening : Text) {body t : Text}
    (hopening : ∀ rest, construct? (opening ++ rest) = some (.opens, rest)) (h : Shows body t) :
    Shows (opening ++ (body ++ [']'])) t := by
  intro depth rest
  have hclosing : construct? (']' :: rest) = some (.closes, rest) := rfl
  rw [List.append_assoc, shown_of_opens (hopening _), List.append_assoc, h]
  exact congrArg _ (shown_of_closes hclosing depth)

theorem Shows.strong {body t : Text} (h : Shows body t) : Shows (strong body) t :=
  h.body "#strong[".toList fun _ => rfl

theorem Shows.emph {body t : Text} (h : Shows body t) : Shows (emph body) t :=
  h.body "#emph[".toList fun _ => rfl

/-- The code with a space for each newline, as it stands in a string literal. -/
def onOneLine (code : Text) : Text :=
  code.map fun c => if c == '\n' then ' ' else c

theorem onOneLine_eq_self {code : Text} : onOneLine code = code ↔ '\n' ∉ code := by
  induction code with
  | nil => simp [onOneLine]
  | cons c code ih =>
    rw [onOneLine, List.map_cons, List.cons_eq_cons, ← onOneLine, ih, List.mem_cons, not_or]
    refine and_congr_left fun _ => ?_
    by_cases hnewline : c = '\n'
    · subst hnewline
      decide
    · simp [hnewline, Ne.symm hnewline]

theorem readLiteral?_literal (code rest : Text) :
    readLiteral? false (code.flatMap literalChar ++ '\x22' :: rest) =
      some (onOneLine code, rest) := by
  induction code with
  | nil => rfl
  | cons c code ih =>
    rw [onOneLine] at ih
    rw [List.flatMap_cons, List.append_assoc, literalChar, onOneLine, List.map_cons]
    by_cases hnewline : c = '\n'
    · subst hnewline
      simp [readLiteral?, ih]
    by_cases hbackslash : c = '\\'
    · subst hbackslash
      simp [readLiteral?, ih]
    by_cases hquote : c = '\x22'
    · subst hquote
      simp [readLiteral?, ih]
    simp [readLiteral?, ih, hnewline, hbackslash, hquote]

theorem readRaw?_literal (code rest : Text) :
    readRaw? (code.flatMap literalChar ++ '\x22' :: ')' :: rest) =
      some (onOneLine code, rest) := by
  unfold readRaw?
  rw [readLiteral?_literal]
  rfl

theorem readTicks?_tick {code : Text} (hcode : code ≠ []) (htick : '\x60' ∉ code) (rest : Text) :
    readTicks? ('\x60' :: (code ++ '\x60' :: rest)) = some (code, rest) := by
  obtain ⟨c, code, rfl⟩ := List.exists_cons_of_ne_nil hcode
  have hc : (c == '\x60') = false := by
    rw [List.mem_cons, not_or] at htick
    simpa using Ne.symm htick.1
  have hcut := cutAt?_of_not_mem htick rest
  simpa [readTicks?, hc] using hcut

/-- Code with a backtick in it stands in a call. -/
theorem rawSpan_append_of_mem {code : Text} (htick : '\x60' ∈ code) (rest : Text) :
    rawSpan code ++ rest =
      '#' :: ("raw(\"".toList ++ (code.flatMap literalChar ++ '\x22' :: ')' :: rest)) := by
  rw [rawSpan, if_pos (by simpa using htick)]
  simp [literal]

theorem rawSpan_append_of_not_mem {code : Text} (htick : '\x60' ∉ code) (rest : Text) :
    rawSpan code ++ rest = '\x60' :: (code ++ '\x60' :: rest) := by
  rw [rawSpan, if_neg (by simpa using htick)]
  simp

/-- Code on one line shows as it is, in backticks or as a string literal. -/
theorem shows_rawSpan {code : Text} (hcode : code ≠ []) (hline : '\n' ∉ code) :
    Shows (rawSpan code) code := by
  refine shows_of_construct fun rest => ?_
  by_cases htick : '\x60' ∈ code
  · have hsign : construct? ('#' :: ("raw(\"".toList ++
        (code.flatMap literalChar ++ '\x22' :: ')' :: rest))) =
        (readRaw? (code.flatMap literalChar ++ '\x22' :: ')' :: rest)).map
          fun (t, after) => (Effect.shows t, after) := rfl
    rw [rawSpan_append_of_mem htick, hsign, readRaw?_literal, onOneLine_eq_self.2 hline]
    rfl
  · have hspan : construct? ('\x60' :: (code ++ '\x60' :: rest)) =
        (readTicks? ('\x60' :: (code ++ '\x60' :: rest))).map
          fun (t, after) => (Effect.shows t, after) := rfl
    rw [rawSpan_append_of_not_mem htick, hspan, readTicks?_tick hcode htick rest]
    rfl

/-- The backslash that keeps a text from going on with an expression shows nothing. -/
theorem Shows.detach {piece t : Text} (h : Shows piece t) (previous : Text) :
    Shows (detach previous piece) t := by
  rcases detach_cases previous piece with hsame | ⟨c, piece, rfl, hc, hescaped⟩
  · rwa [hsame]
  · have hplain : (c == '\\' || c == '\x60' || c == '#' || c == ']') = false := by
      rcases hc with rfl | rfl <;> rfl
    intro depth rest
    rw [hescaped, ← h depth rest]
    exact (shows_escaped c depth (piece ++ rest)).trans
      (shows_plain hplain depth (piece ++ rest)).symm

/-- Pieces that show texts, one after the other, show these texts one after the other. -/
theorem shows_joinAfter {pieces texts : List Text} (h : List.Forall₂ Shows pieces texts)
    (previous : Text) : Shows (joinAfter previous pieces) texts.flatten := by
  induction h generalizing previous with
  | nil => exact shows_nil
  | @cons piece t pieces texts hpiece _ ih =>
    rw [joinAfter]
    split
    · next hempty =>
      have hnothing : t = [] := by
        rw [List.isEmpty_iff.1 hempty] at hpiece
        simpa [shown_nil] using (hpiece.shown)
      rw [hnothing]
      exact ih previous
    · exact (hpiece.detach previous).append (ih _)

theorem shows_join {pieces texts : List Text} (h : List.Forall₂ Shows pieces texts) :
    Shows (join pieces) texts.flatten :=
  shows_joinAfter h []

end Bindery.Typst
