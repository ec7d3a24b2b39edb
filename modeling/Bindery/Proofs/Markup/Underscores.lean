import Bindery.Proofs.Markup.EmphasisMarks
import Bindery.Proofs.Markup.Parts
import Bindery.Proofs.Text.Letter

namespace Bindery.Markup

open Text

variable {s : Text} {afterWord : Bool}

/-- Emphasis opens at an underscore with no letter or digit right before it. The flag says whether
    one stands before the text. -/
def OpensEmphasis (afterWord : Bool) (s : Text) : Prop :=
  ∃ before after, s = before ++ '_' :: after ∧
    before.getLast?.elim afterWord isAlphanumeric = false ∧
    (emphasis? '_' ('_' :: after)).isSome = true

theorem not_opensEmphasis_nil : ¬OpensEmphasis afterWord [] := by
  rintro ⟨before, after, hs, -⟩
  simp at hs

theorem opensEmphasis_cons_iff {c : Char} : OpensEmphasis afterWord (c :: s) ↔
    (c = '_' ∧ afterWord = false ∧ (emphasis? '_' ('_' :: s)).isSome = true) ∨
      OpensEmphasis (isAlphanumeric c) s := by
  constructor
  · rintro ⟨before, after, hs, hword, hopens⟩
    cases before with
    | nil =>
      obtain ⟨rfl, rfl⟩ := List.cons.inj hs
      exact .inl ⟨rfl, hword, hopens⟩
    | cons d before =>
      obtain ⟨rfl, rfl⟩ := List.cons.inj hs
      rw [getLast?_elim_cons] at hword
      exact .inr ⟨before, after, rfl, hword, hopens⟩
  · rintro (⟨rfl, hword, hopens⟩ | ⟨before, after, rfl, hword, hopens⟩)
    · exact ⟨[], s, rfl, hword, hopens⟩
    · refine ⟨c :: before, after, rfl, ?_, hopens⟩
      rwa [getLast?_elim_cons]

theorem isSpanMark_of_isAlphanumeric {c : Char} (hc : isAlphanumeric c = true) :
    isSpanMark c = false := by
  refine Bool.eq_false_iff.2 fun hmark => ?_
  have hnone : ['\x60', '!', '[', '<', '\x7b', '*', '_', '\\'].all
      (fun c => !isAlphanumeric c) = true := by decide
  have hfalse := List.all_eq_true.1 hnone c (List.contains_iff_mem.1 hmark)
  simp [hc] at hfalse

/-- In a name, nothing but an underscore begins a construct. -/
theorem at?_of_isWord {c : Char} (hc : isWord c = true) (s : Text) :
    Span.at? afterWord (c :: s) =
      if c = '_' ∧ afterWord = false then Span.ofMark? '_' ('_' :: s) else none := by
  rw [isWord, Bool.or_eq_true, beq_iff_eq] at hc
  rcases hc with rfl | hc
  · cases afterWord <;> rfl
  · have hmark := isSpanMark_of_isAlphanumeric hc
    have hne : c ≠ '_' := by
      rintro rfl
      cases hmark
    rw [at?_of_not_mark afterWord hmark, if_neg fun h => hne h.1]

/-- Where no emphasis opens, the pieces of a name are its characters. -/
theorem pieces_of_not_opensEmphasis (hs : ∀ c ∈ s, isWord c = true)
    (hopens : ¬OpensEmphasis afterWord s) : pieces afterWord s = s.map Piece.char := by
  induction s generalizing afterWord with
  | nil => exact pieces_nil afterWord
  | cons c s ih =>
    rw [List.forall_mem_cons] at hs
    rw [opensEmphasis_cons_iff, not_or] at hopens
    have hat : Span.at? afterWord (c :: s) = none := by
      rw [at?_of_isWord hs.1]
      split
      · next h =>
        have hnone : emphasis? '_' ('_' :: s) = none := by
          simpa [h.1, h.2] using hopens.1
        exact congrArg (Option.map _) hnone
      · rfl
    rw [pieces_of_none hat, ih hs.2 hopens.2]
    rfl

/-- Where emphasis opens, there is a node among them. -/
theorem exists_pieces_of_opensEmphasis (hs : ∀ c ∈ s, isWord c = true)
    (hopens : OpensEmphasis afterWord s) : ∃ (t : Text) (strength : Strength) (nodes : List Node)
      (rest : List Piece),
      pieces afterWord s = t.map Piece.char ++ .node (strength.node nodes) :: rest := by
  induction s generalizing afterWord with
  | nil => exact absurd hopens not_opensEmphasis_nil
  | cons c s ih =>
    rw [List.forall_mem_cons] at hs
    cases hat : Span.at? afterWord (c :: s) with
    | some found =>
      obtain ⟨span, rest⟩ := found
      obtain ⟨strength, inside, rfl⟩ : ∃ strength inside, span = .emphasis strength inside := by
        rw [at?_of_isWord hs.1] at hat
        split at hat
        · obtain ⟨⟨strength, inside, r⟩, -, heq⟩ := Option.map_eq_some_iff.1 hat
          exact ⟨strength, inside, (Prod.mk.inj heq).1.symm⟩
        · cases hat
      exact ⟨[], strength, _, _, pieces_of_at? hat⟩
    | none =>
      have hlater : OpensEmphasis (isAlphanumeric c) s := by
        refine (opensEmphasis_cons_iff.1 hopens).resolve_left ?_
        rintro ⟨rfl, rfl, hhere⟩
        obtain ⟨found, hfound⟩ := Option.isSome_iff_exists.1 hhere
        have hsome : Span.at? false ('_' :: s) = _ := congrArg (Option.map _) hfound
        rw [hat] at hsome
        cases hsome
      obtain ⟨t, strength, nodes, rest, hpieces⟩ := ih hs.2 hlater
      refine ⟨c :: t, strength, nodes, rest, ?_⟩
      rw [pieces_of_none hat, hpieces]
      rfl

/-- A name is read as one text exactly where no emphasis opens in it. -/
theorem parseInline_eq_text_iff (hs : s ≠ []) (hword : ∀ c ∈ s, isWord c = true) :
    parseInline s = [.text s] ↔ ¬OpensEmphasis false s := by
  constructor
  · intro hparse hopens
    obtain ⟨t, strength, nodes, rest, hpieces⟩ := exists_pieces_of_opensEmphasis hword hopens
    rw [parseInline, hpieces, gather_append_node, consText] at hparse
    split at hparse
    · have hnode := (List.cons.inj hparse).1
      cases strength <;> cases hnode
    · exact absurd (List.cons.inj hparse).2 (List.cons_ne_nil _ _)
  · intro hopens
    rw [parseInline, pieces_of_not_opensEmphasis hword hopens, gather_chars, consText,
      if_neg (by simpa using hs)]

/-- Three underscores and, behind one character or more, two: from the second underscore on, this
    is strong text. -/
def HoldsStrongName (s : Text) : Prop :=
  ∃ before inside after, inside ≠ [] ∧
    s = before ++ "___".toList ++ inside ++ "__".toList ++ after

/-- Two underscores and, behind letters and digits, one at the end: from the second underscore on,
    this is emphasised text. -/
def EndsEmphasized (s : Text) : Prop :=
  ∃ before inside, inside ≠ [] ∧ (∀ c ∈ inside, isAlphanumeric c = true) ∧
    s = before ++ "__".toList ++ inside ++ "_".toList

theorem ne_nil_of_between? {mark inside rest : Text} (h : between? mark s = some (inside, rest)) :
    inside ≠ [] := by
  unfold between? at h
  split at h
  · split at h
    · cases h
    · obtain ⟨found, -, heq⟩ := Option.map_eq_some_iff.1 h
      rw [← (Prod.mk.inj heq).1]
      exact List.cons_ne_nil _ _
  · cases h

/-- What emphasis by single underscores looks like. -/
theorem parts_of_betweenSingle? {inside rest : Text}
    (h : betweenSingle? '_' s = some (inside, rest)) :
    inside ≠ [] ∧ '_' ∉ inside ∧ rest.head?.any isWord = false := by
  cases s with
  | nil => cases h
  | cons c s =>
    rw [betweenSingle?] at h
    split at h
    · next d r hd =>
      split at h
      · next hclose =>
        obtain ⟨rfl, rfl⟩ := Prod.mk.inj (Option.some.inj h)
        simp only [Bool.and_eq_true, Bool.not_eq_true', Bool.and_eq_false_iff] at hclose
        refine ⟨by simpa using hclose.1.1.1.2, fun hmem => ?_, ?_⟩
        · have hinside := List.all_eq_true.1 List.all_takeWhile _ hmem
          simp [isInside] at hinside
        · exact hclose.2.resolve_left (by decide)
      · cases h
    · cases h

/-- A closing mark is found behind a text without blanks, if not before its end. -/
theorem isSome_beforeMark? {mark : Text} (hmark : mark ≠ []) (rest : Text)
    (hs : ∀ c ∈ s, isBlank c = false) :
    (beforeMark? mark false (s ++ (mark ++ rest))).isSome = true := by
  induction s with
  | nil =>
    obtain ⟨c, t, rfl⟩ := List.exists_cons_of_ne_nil hmark
    have hfound := afterStart?_append (c :: t) rest
    rw [List.cons_append] at hfound
    rw [List.nil_append, List.cons_append, beforeMark?]
    simp [hfound]
  | cons c s ih =>
    rw [List.forall_mem_cons] at hs
    have hc : (c == '\n') = false := by
      refine beq_eq_false_iff_ne.2 ?_
      rintro rfl
      exact absurd hs.1 (by decide)
    rw [List.cons_append, beforeMark?]
    split
    · rfl
    · rw [hc, hs.1]
      simpa using ih hs.2

theorem isSome_between? {mark : Text} (hmark : mark ≠ []) (rest : Text) (hne : s ≠ [])
    (hs : ∀ c ∈ s, isBlank c = false) :
    (between? mark (mark ++ (s ++ (mark ++ rest)))).isSome = true := by
  obtain ⟨c, t, rfl⟩ := List.exists_cons_of_ne_nil hne
  rw [List.forall_mem_cons] at hs
  rw [between?, afterStart?_append, List.cons_append]
  simpa [hs.1] using isSome_beforeMark? hmark rest hs.2

theorem isSome_emphasis?_of_between? {mark : Char}
    (h : (between? [mark, mark] s).isSome = true) : (emphasis? mark s).isSome = true := by
  obtain ⟨found, hfound⟩ := Option.isSome_iff_exists.1 h
  rw [emphasis?]
  split
  · rfl
  · rw [hfound]
    rfl

theorem opensEmphasis_of_holdsStrongName (hword : ∀ c ∈ s, isWord c = true)
    (h : HoldsStrongName s) : OpensEmphasis false s := by
  obtain ⟨before, inside, after, hinside, hs⟩ := h
  have hblank : ∀ c ∈ inside, isBlank c = false := fun c hc =>
    isBlank_of_isWord (hword c (by simp [hs, hc]))
  refine ⟨before ++ ['_'], '_' :: (inside ++ ("__".toList ++ after)), ?_, ?_, ?_⟩
  · rw [hs]
    simp
  · rw [List.getLast?_concat]
    decide
  · exact isSome_emphasis?_of_between? (isSome_between? (by decide) after hinside hblank)

theorem opensEmphasis_of_endsEmphasized (h : EndsEmphasized s) : OpensEmphasis false s := by
  obtain ⟨before, inside, hne, hinside, hs⟩ := h
  have hword : ∀ c ∈ inside, isWord c = true := fun c hc => by simp [isWord, hinside c hc]
  have hblank : ∀ c ∈ inside, isBlank c = false := fun c hc => isBlank_of_isWord (hword c hc)
  have hmark : '_' ∉ inside := fun hmem => absurd (hinside _ hmem) (by decide)
  have hfound : emphasis? '_' ('_' :: (inside ++ ['_'])) = some (.emph, inside, []) :=
    (isEmphText_of_shown hne hblank hmark).emphasis? (by decide)
  refine ⟨before ++ ['_'], inside ++ ['_'], ?_, ?_, ?_⟩
  · rw [hs]
    simp
  · rw [List.getLast?_concat]
    decide
  · rw [hfound]
    rfl

theorem of_opensEmphasis (hfirst : s.head?.any isAlphanumeric = true)
    (hword : ∀ c ∈ s, isWord c = true) (h : OpensEmphasis false s) :
    HoldsStrongName s ∨ EndsEmphasized s := by
  obtain ⟨before, after, hs, hbefore, hopens⟩ := h
  -- A name does not begin with an underscore, so that there is another one right before.
  obtain ⟨before, rfl⟩ : ∃ init, before = init ++ ['_'] := by
    rcases List.eq_nil_or_concat' before with rfl | ⟨init, d, rfl⟩
    · rw [hs] at hfirst
      have hmark : isAlphanumeric '_' = false := by decide
      simp [hmark] at hfirst
    · rw [List.getLast?_concat] at hbefore
      have hd := hword d (by simp [hs])
      rw [isWord, Bool.or_eq_true, beq_iff_eq] at hd
      rcases hd with rfl | hd
      · exact ⟨init, rfl⟩
      · exact absurd hd (by simpa using hbefore)
  obtain ⟨⟨strength, inside, rest⟩, hfound⟩ := Option.isSome_iff_exists.1 hopens
  unfold emphasis? at hfound
  split at hfound
  · next found hbetween =>
    obtain ⟨inside, rest⟩ := found
    have hshape := eq_append_of_between? hbetween
    refine .inl ⟨before, '_' :: inside, '_' :: rest, List.cons_ne_nil _ _, ?_⟩
    rw [hs, hshape]
    simp
  split at hfound
  · next found hbetween =>
    obtain ⟨inside, rest⟩ := found
    have hshape := eq_append_of_between? hbetween
    refine .inl ⟨before, inside, rest, ne_nil_of_between? hbetween, ?_⟩
    rw [hs, hshape]
    simp
  · obtain ⟨⟨inside, rest⟩, hsingle, -⟩ := Option.map_eq_some_iff.1 hfound
    obtain ⟨hne, hmark, hrest⟩ := parts_of_betweenSingle? hsingle
    obtain ⟨c, hshape⟩ := exists_of_betweenSingle? hsingle
    obtain ⟨-, rfl⟩ := List.cons.inj hshape
    -- What follows the closing underscore would have to be no part of the name.
    have hnil : rest = [] := by
      cases rest with
      | nil => rfl
      | cons d rest =>
        have hd := hword d (by simp [hs])
        simp [hd] at hrest
    refine .inr ⟨before, inside, hne, fun d hd => ?_, ?_⟩
    · have hname := hword d (by simp [hs, hd])
      have hother : d ≠ '_' := fun h => hmark (h ▸ hd)
      simpa [isWord, hother] using hname
    · rw [hs, hnil]
      simp

/-- A name of letters, digits and underscores that begins with a letter or a digit is read as it is
exactly where it does not hold three underscores and later two, nor two before its last part and one
behind it. -/
theorem parseInline_name_iff (hfirst : s.head?.any isAlphanumeric = true)
    (hword : ∀ c ∈ s, isWord c = true) :
    parseInline s = [.text s] ↔ ¬HoldsStrongName s ∧ ¬EndsEmphasized s := by
  have hs : s ≠ [] := by
    rintro rfl
    cases hfirst
  rw [parseInline_eq_text_iff hs hword, ← not_or]
  refine not_congr ⟨of_opensEmphasis hfirst hword, fun h => ?_⟩
  rcases h with h | h
  · exact opensEmphasis_of_holdsStrongName hword h
  · exact opensEmphasis_of_endsEmphasized h

/-- Two underscores within a name and two at its end. -/
theorem parseInline_name_iff_doubled :
    (∀ c ∈ "x__init__".toList, isWord c = true) ∧
      parseInline "x__init__".toList = [.text "x__init__".toList] := by
  have hword : ∀ c ∈ "x__init__".toList, isWord c = true := List.all_eq_true.1 (by decide)
  refine ⟨hword, (parseInline_name_iff (by decide) hword).2 ⟨?_, ?_⟩⟩
  · rintro ⟨before, inside, after, -, hs⟩
    have hcount := congrArg (List.count '_') hs
    have hfour : "x__init__".toList.count '_' = 4 := by decide
    have hthree : "___".toList.count '_' = 3 := by decide
    have htwo : "__".toList.count '_' = 2 := by decide
    simp only [List.count_append, hfour, hthree, htwo] at hcount
    omega
  · rintro ⟨before, inside, hne, hinside, hs⟩
    have hend : "x__init_".toList ++ ['_'] = before ++ "__".toList ++ inside ++ ['_'] := hs
    have hinit := (List.append_inj' hend rfl).1
    have hlast : some '_' = (before ++ "__".toList ++ inside).getLast? := hinit ▸ rfl
    rw [List.getLast?_append_of_ne_nil _ hne] at hlast
    exact absurd (hinside '_' (List.mem_of_getLast? hlast.symm)) (by decide)

/-- The second of two underscores opens emphasis, which an underscore at the end closes. -/
theorem parseInline_name_emphasized :
    "a__b_".toList.head?.any isAlphanumeric = true ∧ (∀ c ∈ "a__b_".toList, isWord c = true) ∧
      parseInline "a__b_".toList ≠ [.text "a__b_".toList] := by
  have hword : ∀ c ∈ "a__b_".toList, isWord c = true := List.all_eq_true.1 (by decide)
  refine ⟨by decide, hword, fun hparse => ?_⟩
  refine (parseInline_eq_text_iff (by decide) hword).1 hparse (opensEmphasis_of_endsEmphasized ?_)
  exact ⟨['a'], ['b'], by decide, List.forall_mem_singleton.2 (by decide), rfl⟩

end Bindery.Markup
