import Bindery.Proofs.Markup.Parts
import Bindery.Proofs.Markup.Pieces
import Bindery.Proofs.Text.Cutting
import Bindery.Proofs.Text.Letter
import Mathlib.Data.List.Basic

namespace Bindery.Markup

open Text

variable {n : Nat} {s t rest : Text}

theorem all_isTick_replicate (n : Nat) : (List.replicate n '\x60').all isTick = true := by
  simp [isTick]

/-- A run that is found is one of the runs of the line. -/
theorem mem_tickRuns_of_beforeRun? (h : (beforeRun? n s).isSome = true) : n ∈ tickRuns s := by
  fun_induction beforeRun? n s with
  | case1 => cases h
  | case2 => cases h
  | case3 c s hline htick _ hlength =>
    rw [tickRuns, if_neg hline, if_pos htick, eq_of_beq hlength]
    exact List.mem_cons_self
  | case4 c s hline htick _ _ ih =>
    rw [Option.isSome_map] at h
    rw [tickRuns, if_neg hline, if_pos htick]
    exact List.mem_cons_of_mem _ (ih h)
  | case5 c s hline htick ih =>
    rw [Option.isSome_map] at h
    rw [tickRuns, if_neg hline, if_neg htick]
    exact ih h

theorem all_isTick_leadingRun {c : Char} (htick : isTick c = true) (s : Text) :
    (c :: s.takeWhile isTick).all isTick = true := by
  rw [List.all_cons, htick, List.all_takeWhile]
  rfl

/-- A text that does not end with a backtick goes on behind its leading run, and ends as before. -/
theorem dropWhile_of_last {c : Char} (htick : isTick c = true)
    (hlast : (c :: s).getLast?.any isTick = false) :
    s.dropWhile isTick ≠ [] ∧ (s.dropWhile isTick).getLast?.any isTick = false := by
  have hsplit : s.takeWhile isTick ++ s.dropWhile isTick = s := List.takeWhile_append_dropWhile
  have hticks := all_isTick_leadingRun htick s
  have hafter : s.dropWhile isTick ≠ [] := by
    intro hnil
    rw [hnil, List.append_nil] at hsplit
    rw [hsplit] at hticks
    have hend := List.all_eq_true.1 hticks _ (List.getLast_mem (List.cons_ne_nil c s))
    rw [List.getLast?_eq_some_getLast (List.cons_ne_nil c s), Option.any_some, hend] at hlast
    cases hlast
  rw [← hsplit, ← List.cons_append, List.getLast?_append_of_ne_nil _ hafter] at hlast
  exact ⟨hafter, hlast⟩

/-- The leading run is as long as no run that the text does not hold. -/
theorem length_leadingRun_ne {c : Char} (htick : isTick c = true)
    (hrun : ¬List.replicate n '\x60' <:+: c :: s) :
    ¬((s.takeWhile isTick).length + 1 == n) = true := by
  have hticks := all_isTick_leadingRun htick s
  rw [beq_iff_eq, ← List.length_cons (a := c)]
  rintro rfl
  rw [← eq_replicate_of_all_isTick hticks] at hrun
  exact hrun (List.cons_prefix_cons.2 ⟨rfl, List.takeWhile_prefix isTick⟩).isInfix

/-- The run after a text is found there if the text holds no run as long and does not end with a
    backtick, which would make the run a longer one. -/
theorem beforeRun?_append (hline : '\n' ∉ s) (hrun : ¬List.replicate n '\x60' <:+: s)
    (hlast : s.getLast?.any isTick = false) (hrest : rest.head?.any isTick = false) :
    beforeRun? n (s ++ (List.replicate n '\x60' ++ rest)) = some (s, rest) := by
  induction s using tickRuns.induct with
  | case1 =>
    obtain ⟨m, rfl⟩ : ∃ m, n = m + 1 := by
      refine Nat.exists_eq_succ_of_ne_zero ?_
      rintro rfl
      exact hrun List.nil_infix
    have hticks := all_isTick_replicate m
    rw [List.nil_append, List.replicate_succ, List.cons_append, beforeRun?, if_neg (by decide),
      if_pos (by decide)]
    simp [takeWhile_append_of_head hticks hrest, dropWhile_append_of_head hticks hrest]
  | case2 c s hnewline =>
    rw [eq_of_beq hnewline] at hline
    exact absurd List.mem_cons_self hline
  | case3 c s hnewline htick _ ih =>
    have hsplit : s.takeWhile isTick ++ s.dropWhile isTick = s := List.takeWhile_append_dropWhile
    obtain ⟨hafter, hlater⟩ := dropWhile_of_last htick hlast
    have hother := length_leadingRun_ne htick hrun
    have hboundary : (s.dropWhile isTick ++ (List.replicate n '\x60' ++ rest)).head?.any isTick =
        false := by
      rw [List.head?_append_of_ne_nil _ hafter]
      exact head?_dropWhile isTick s
    have hsuffix : s.dropWhile isTick <:+ c :: s :=
      (List.dropWhile_suffix isTick).trans (List.suffix_cons c s)
    have hfound := ih (fun h => hline (hsuffix.subset h)) (fun h => hrun (h.trans hsuffix.isInfix))
      hlater
    have hshape : s ++ (List.replicate n '\x60' ++ rest) = s.takeWhile isTick ++
        (s.dropWhile isTick ++ (List.replicate n '\x60' ++ rest)) := by
      rw [← List.append_assoc (s.takeWhile isTick), hsplit]
    rw [List.cons_append, beforeRun?, if_neg hnewline, if_pos htick, hshape,
      takeWhile_append_of_head List.all_takeWhile hboundary,
      dropWhile_append_of_head List.all_takeWhile hboundary, if_neg hother, hfound]
    simp [hsplit]
  | case4 c s hnewline htick ih =>
    rw [List.mem_cons, not_or] at hline
    have hinside : ¬List.replicate n '\x60' <:+: s := fun h => hrun (List.infix_cons h)
    have hlater : s.getLast?.any isTick = false := by
      cases s with
      | nil => rfl
      | cons d s => rwa [List.getLast?_cons_cons] at hlast
    rw [List.cons_append, beforeRun?, if_neg hnewline, if_neg htick, ih hline.2 hinside hlater]
    rfl

/-- Code between runs of backticks longer than every run in it is the code of the span, whatever
    follows the span on the line. -/
theorem codeSpan?_append (hne : s ≠ []) (hline : '\n' ∉ s)
    (hrun : ¬List.replicate n '\x60' <:+: s) (hhead : s.head?.any isTick = false)
    (hlast : s.getLast?.any isTick = false) (hrest : rest.head?.any isTick = false) :
    codeSpan? (List.replicate n '\x60' ++ (s ++ (List.replicate n '\x60' ++ rest))) =
      some (unpad s, rest) := by
  have hfound := beforeRun?_append hline hrun hlast hrest
  have hboundary : (s ++ (List.replicate n '\x60' ++ rest)).head?.any isTick = false := by
    rwa [List.head?_append_of_ne_nil _ hne]
  have hticks := all_isTick_replicate n
  have hmem := mem_tickRuns_of_beforeRun? (Option.isSome_of_eq_some hfound)
  -- No run that may close the span is longer than the opening one.
  have hlongest : ((tickRuns (s ++ (List.replicate n '\x60' ++ rest))).filter (· ≤ n)).max? =
      some n := by
    refine List.max?_eq_some_iff.2 ⟨List.mem_filter.2 ⟨hmem, by simp⟩, fun m hm => ?_⟩
    simpa using (List.mem_filter.1 hm).2
  rw [codeSpan?, takeWhile_append_of_head hticks hboundary,
    dropWhile_append_of_head hticks hboundary]
  simp only [List.length_replicate, hlongest, hfound, Option.map_some, Nat.sub_self,
    List.replicate_zero, List.nil_append]

/-- The spaces that set code off from the backticks are not part of the code. -/
theorem unpad_padded (hs : s ≠ []) : unpad (' ' :: s ++ [' ']) = s := by
  have hlength : 0 < s.length := List.length_pos_iff.2 hs
  have hpadded : (2 < (' ' :: s ++ [' ']).length && (' ' :: s ++ [' ']).head? == some ' ' &&
      (' ' :: s ++ [' ']).getLast? == some ' ') = true := by
    rw [List.getLast?_concat, List.length_append, List.length_cons, List.length_singleton]
    simpa using hlength
  rw [unpad, if_pos hpadded]
  simp

/-- Code that does not begin with a space is not padded. -/
theorem unpad_of_head (hs : s.head? ≠ some ' ') : unpad s = s := by
  rw [unpad, if_neg]
  simp [hs]

/-- Letters, digits and spaces, with a letter at both ends. -/
structure IsWords (t : Text) : Prop where
  plain : t.all (fun c => c.isAlphanum || c == ' ') = true
  first : t.head?.any Char.isAlpha = true
  last : t.getLast?.any Char.isAlpha = true

/-- The spaces that set code off make no run of backticks longer. -/
theorem not_infix_padded (h : ¬List.replicate n '\x60' <:+: s) :
    ¬List.replicate n '\x60' <:+: ' ' :: s ++ [' '] := by
  intro hinfix
  have hspace : ' ' ∉ List.replicate n '\x60' := by simp
  have hne : List.replicate n '\x60' ≠ [] := fun hnil => h (hnil ▸ List.nil_infix)
  rcases List.infix_cons_iff.1 hinfix with hstarts | hinfix
  · rcases List.prefix_cons_iff.1 hstarts with hnil | ⟨ticks, hticks, -⟩
    · exact hne hnil
    · exact hspace (hticks ▸ List.mem_cons_self)
  rcases List.infix_concat_iff.1 hinfix with hends | hinside
  · rcases List.suffix_concat_iff.1 hends with hnil | ⟨ticks, hticks, -⟩
    · exact hne hnil
    · exact hspace (hticks ▸ List.mem_concat_self)
  · exact h hinside

/-- A code span as an author writes it, and the words that follow it. -/
structure WrittenCode where
  /-- The length of the runs of backticks around the code. -/
  ticks : Nat
  code : Text
  words : Text

/-- How it is written: the code is set off from the backticks by a space on both sides. -/
def WrittenCode.source (k : WrittenCode) : Text :=
  List.replicate k.ticks '\x60' ++ (' ' :: k.code ++ [' ']) ++ List.replicate k.ticks '\x60' ++
    k.words

/-- The nodes that it stands for. -/
def WrittenCode.nodes (k : WrittenCode) : List Node :=
  [.code k.code, .text k.words]

/-- Any code on one line may be written so, if the runs around it are longer than those in it. -/
structure WrittenCode.WellFormed (k : WrittenCode) : Prop where
  ne_nil : k.code ≠ []
  line : '\n' ∉ k.code
  ticks : ¬List.replicate k.ticks '\x60' <:+: k.code
  words : IsWords k.words

theorem IsWords.not_mark (h : IsWords t) : t.any isSpanMark = false := by
  have hmarks : ['\x60', '!', '[', '<', '\x7b', '*', '_', '\\'].all
      (fun c => !(c.isAlphanum || c == ' ')) = true := by decide
  rw [List.any_eq_false]
  intro c hc hmark
  have hplain := List.all_eq_true.1 h.plain c hc
  have hother := List.all_eq_true.1 hmarks c (List.contains_iff_mem.1 hmark)
  rw [hplain] at hother
  cases hother

theorem IsWords.ne_nil (h : IsWords t) : t ≠ [] := by
  rintro rfl
  cases h.first

theorem IsWords.head?_isTick (h : IsWords t) (rest : Text) :
    (t ++ rest).head?.any isTick = false := by
  have hfirst := h.first
  cases t with
  | nil => cases hfirst
  | cons c t => exact not_of_isAlpha (p := isTick) (by decide) (by simpa using hfirst)

theorem IsWords.consText (h : IsWords t) (nodes : List Node) :
    consText t nodes = .text t :: nodes :=
  if_neg (by simpa using h.ne_nil)

/-- A written span is read as its code; the rest of the line follows it. -/
theorem WrittenCode.WellFormed.at? {k : WrittenCode} (hk : k.WellFormed) (afterWord : Bool)
    (rest : Text) : ∃ s, k.source ++ rest = '\x60' :: s ∧
      Span.at? afterWord ('\x60' :: s) = some (.code k.code, k.words ++ rest) := by
  obtain ⟨m, hm⟩ : ∃ m, k.ticks = m + 1 := by
    refine Nat.exists_eq_succ_of_ne_zero fun hzero => hk.ticks ?_
    rw [hzero]
    exact List.nil_infix
  have hshape : k.source ++ rest = List.replicate k.ticks '\x60' ++ ((' ' :: k.code ++ [' ']) ++
      (List.replicate k.ticks '\x60' ++ (k.words ++ rest))) := by
    simp only [WrittenCode.source, List.append_assoc]
  have hline : '\n' ∉ ' ' :: k.code ++ [' '] := by
    simp [hk.line]
  have hspan : codeSpan? (k.source ++ rest) = some (k.code, k.words ++ rest) := by
    rw [hshape, codeSpan?_append (by simp) hline (not_infix_padded hk.ticks) rfl
      (by rw [List.getLast?_concat]; rfl) (hk.words.head?_isTick rest), unpad_padded hk.ne_nil]
  have hticks : k.source ++ rest = '\x60' :: (List.replicate m '\x60' ++
      ((' ' :: k.code ++ [' ']) ++ (List.replicate k.ticks '\x60' ++ (k.words ++ rest)))) := by
    rw [hshape]
    nth_rewrite 1 [hm]
    rfl
  refine ⟨_, hticks, ?_⟩
  rw [hticks] at hspan
  exact congrArg (Option.map _) hspan

/-- A line of words and written spans is read as these words and codes, in this order. -/
theorem gather_pieces_written (afterWord : Bool) {first : Text} (hfirst : IsWords first)
    {codes : List WrittenCode} (hcodes : ∀ k ∈ codes, k.WellFormed) :
    gather (pieces afterWord (first ++ codes.flatMap WrittenCode.source)) =
      .text first :: codes.flatMap WrittenCode.nodes := by
  induction codes generalizing first afterWord with
  | nil =>
    rw [List.flatMap_nil, List.append_nil, pieces_of_not_mark afterWord hfirst.not_mark,
      gather_chars, hfirst.consText]
    rfl
  | cons k codes ih =>
    rw [List.forall_mem_cons] at hcodes
    obtain ⟨afterWord', hpieces⟩ := exists_pieces_append afterWord hfirst.not_mark
      ((k :: codes).flatMap WrittenCode.source)
    obtain ⟨s, hsource, hat⟩ := hcodes.1.at? afterWord' (codes.flatMap WrittenCode.source)
    rw [hpieces, List.flatMap_cons, hsource, pieces_of_at? hat, Span.piece, gather_append_node,
      hfirst.consText, ih false hcodes.1.words hcodes.2]
    rfl

end Bindery.Markup
