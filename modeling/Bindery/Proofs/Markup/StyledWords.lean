import Bindery.Proofs.Markup.EmphasisMarks
import Bindery.Proofs.Text.Letter
import Mathlib.Data.List.Chain

namespace Bindery.Markup

open Text

/-- A word, as it is or between stars. -/
structure StyledWord where
  word : Text
  emphasized : Bool
  deriving DecidableEq, Repr

namespace StyledWord

variable {w : StyledWord} {words : List StyledWord}

/-- The word as it is written. -/
def source (w : StyledWord) : Text :=
  if w.emphasized then '*' :: (w.word ++ ['*']) else w.word

/-- The node of the word. -/
def node (w : StyledWord) : Node :=
  if w.emphasized then .emph [.text w.word] else .text w.word

/-- Letters only, and at least one. -/
structure IsWord (w : StyledWord) : Prop where
  ne_nil : w.word ≠ []
  letters : w.word.all Char.isAlpha = true

theorem IsWord.letter (h : w.IsWord) {c : Char} (hc : c ∈ w.word) : c.isAlpha = true :=
  List.all_eq_true.1 h.letters c hc

theorem IsWord.not_mem (h : w.IsWord) {c : Char} (hc : c.isAlpha = false) : c ∉ w.word :=
  fun hmem => ne_of_isAlpha (h.letter hmem) hc rfl

theorem IsWord.not_mark (h : w.IsWord) : w.word.any isSpanMark = false := by
  rw [List.any_eq_false]
  intro c hc
  simpa using not_of_isAlpha (p := isSpanMark) (by decide) (h.letter hc)

theorem edge_of_isAlpha {c : Char} (hc : c.isAlpha = true) : (!isBlank c && c != '*') = true := by
  simp [isBlank_of_isAlpha hc, ne_of_isAlpha hc (d := '*') (by decide)]

theorem IsWord.first (h : w.IsWord) (t : Text) :
    (w.word ++ t).head?.any (fun c => !isBlank c && c != '*') = true := by
  obtain ⟨c, s, hword⟩ := List.exists_cons_of_ne_nil h.ne_nil
  rw [hword]
  exact edge_of_isAlpha (h.letter (hword ▸ List.mem_cons_self))

theorem IsWord.last (h : w.IsWord) (t : Text) :
    (t ++ w.word).getLast?.any (fun c => !isBlank c && c != '*') = true := by
  rw [List.getLast?_append_of_ne_nil t h.ne_nil, List.getLast?_eq_some_getLast h.ne_nil]
  exact edge_of_isAlpha (h.letter (List.getLast_mem h.ne_nil))

theorem IsWord.isEmphText (h : w.IsWord) : IsEmphText '*' w.word :=
  isEmphText_of_shown h.ne_nil (fun _ hc => isBlank_of_isAlpha (h.letter hc))
    (h.not_mem (by decide))

theorem IsWord.parseInline (h : w.IsWord) : parseInline w.word = [.text w.word] := by
  rw [Markup.parseInline, pieces_of_not_mark false h.not_mark, gather_chars, consText,
    if_neg (by simpa using h.ne_nil)]

/-- An emphasised word is one piece, whatever stands around it. -/
theorem IsWord.pieces_source (h : w.IsWord) (hw : w.emphasized = true) (afterWord : Bool)
    (rest : Text) : pieces afterWord (w.source ++ rest) = .node w.node :: pieces false rest := by
  have hshape : w.source ++ rest = '*' :: (w.word ++ '*' :: rest) := by simp [source, hw]
  have hat : Span.at? afterWord ('*' :: (w.word ++ '*' :: rest)) =
      some (.emphasis .emph w.word, rest) := congrArg (Option.map _) (h.isEmphText.emphasis? rfl)
  rw [hshape, pieces_of_at? hat, Span.inside, h.parseInline, node, if_pos hw]
  rfl

theorem source_plain (hw : w.emphasized = false) : w.source = w.word := by
  simp [source, hw]

theorem source_emphasized (hw : w.emphasized = true) : w.source = '*' :: (w.word ++ ['*']) :=
  if_pos hw

/-- One of two neighbours is emphasised and the other is not. -/
def Turns (words : List StyledWord) : Prop :=
  words.IsChain fun v w => v.emphasized ≠ w.emphasized

theorem Turns.of_cons (h : Turns (w :: words)) :
    (∀ v ∈ words.head?, v.emphasized = !w.emphasized) ∧ Turns words := by
  obtain ⟨hnext, hturns⟩ := List.isChain_cons.1 h
  exact ⟨fun v hv => Bool.eq_not.2 (hnext v hv).symm, hturns⟩

/-- Words that take turns are read one by one. -/
theorem gather_pieces (hturns : Turns words) (hwords : ∀ w ∈ words, w.IsWord) (afterWord : Bool) :
    gather (pieces afterWord (words.flatMap source)) = words.map node := by
  induction words generalizing afterWord with
  | nil =>
    rw [List.flatMap_nil, pieces_nil]
    rfl
  | cons w words ih =>
    obtain ⟨hnext, hturns⟩ := hturns.of_cons
    rw [List.forall_mem_cons] at hwords
    have hrest := ih hturns hwords.2
    rw [List.flatMap_cons, List.map_cons]
    cases hw : w.emphasized with
    | true => rw [hwords.1.pieces_source hw, gather_node_cons, hrest]
    | false =>
      obtain ⟨afterWord', hpieces⟩ :=
        exists_pieces_append afterWord hwords.1.not_mark (words.flatMap source)
      have hnode : w.node = .text w.word := by simp [node, hw]
      have hword (nodes : List Node) : consText w.word nodes = .text w.word :: nodes :=
        if_neg (by simpa using hwords.1.ne_nil)
      rw [source_plain hw, hpieces, hnode, ← hrest afterWord']
      cases words with
      | nil =>
        rw [List.flatMap_nil, pieces_nil, List.append_nil, gather_chars, hword]
        rfl
      | cons v words =>
        -- The word after a plain one is emphasised, so that the two texts do not run together.
        have hv : v.emphasized = true := by simpa [hw] using hnext v rfl
        rw [List.flatMap_cons, (hwords.2 v List.mem_cons_self).pieces_source hv,
          gather_append_node, gather_node_cons, hword]

theorem head?_flatMap_source (hplain : ∀ v ∈ words.head?, v.emphasized = false)
    (hwords : ∀ w ∈ words, w.IsWord) : (words.flatMap source).head? ≠ some '*' := by
  cases words with
  | nil => exact fun h => by cases h
  | cons v words =>
    have hv := hwords v List.mem_cons_self
    obtain ⟨c, s, hword⟩ := List.exists_cons_of_ne_nil hv.ne_nil
    have hc : c ≠ '*' := ne_of_isAlpha (hv.letter (hword ▸ List.mem_cons_self)) (by decide)
    rw [List.flatMap_cons, source_plain (hplain v rfl), hword]
    exact fun h => hc (Option.some.inj h)

/-- No two stars stand next to each other among them. -/
theorem not_strongMark_infix (hturns : Turns words) (hwords : ∀ w ∈ words, w.IsWord) :
    ¬strongMark <:+: words.flatMap source := by
  induction words with
  | nil => exact fun h => absurd (List.infix_nil.1 h) (by decide)
  | cons w words ih =>
    obtain ⟨hnext, hturns⟩ := hturns.of_cons
    rw [List.forall_mem_cons] at hwords
    have hrest := ih hturns hwords.2
    have hstar : '*' ∉ w.word := hwords.1.not_mem (by decide)
    rw [List.flatMap_cons]
    cases hw : w.emphasized with
    | false =>
      rw [source_plain hw]
      exact fun h => hrest (strongMark_infix_of_append hstar h)
    | true =>
      have hplain : (words.flatMap source).head? ≠ some '*' :=
        head?_flatMap_source (fun v hv => by simpa [hw] using hnext v hv) hwords.2
      have hfirst : (w.word ++ '*' :: words.flatMap source).head? ≠ some '*' := by
        intro h
        have hedge := hwords.1.first ('*' :: words.flatMap source)
        rw [h] at hedge
        cases hedge
      rw [source_emphasized hw, List.cons_append, List.append_assoc, List.singleton_append]
      intro h
      rcases strongMark_infix_cons h with ⟨-, h⟩ | h
      · exact hfirst h
      rcases strongMark_infix_cons (strongMark_infix_of_append hstar h) with ⟨-, h⟩ | h
      · exact hplain h
      · exact hrest h

theorem newline_not_mem_flatMap (hwords : ∀ w ∈ words, w.IsWord) :
    '\n' ∉ words.flatMap source := by
  rw [List.mem_flatMap]
  rintro ⟨w, hw, hline⟩
  have hword : '\n' ∉ w.word := (hwords w hw).not_mem (by decide)
  rw [source] at hline
  split at hline
  · simp [hword] at hline
  · exact hword hline

/-- Plain and emphasised words that take turns, a plain one first. -/
structure Alternate (words : List StyledWord) : Prop where
  first : words.head?.any (!·.emphasized) = true
  turns : Turns words
  words : ∀ w ∈ words, w.IsWord

theorem Alternate.first_source (h : Alternate words) :
    (words.flatMap source).head?.any (fun c => !isBlank c && c != '*') = true := by
  have hfirst := h.first
  cases words with
  | nil => cases hfirst
  | cons w words =>
    have hw : w.emphasized = false := by simpa using hfirst
    rw [List.flatMap_cons, source_plain hw]
    exact (h.words w List.mem_cons_self).first _

/-- Up to a plain word at the end, they are strong text. -/
theorem Alternate.isStrongText (h : Alternate (words ++ [w])) (hw : w.emphasized = false) :
    IsStrongText ((words ++ [w]).flatMap source) where
  first := h.first_source
  last := by
    rw [List.flatMap_append, List.flatMap_singleton, source_plain hw]
    exact (h.words w (List.mem_append_right words (List.mem_singleton_self w))).last _
  line := newline_not_mem_flatMap h.words
  mark := not_strongMark_infix h.turns h.words

theorem flatMap_source_concat (hw : w.emphasized = true) :
    (words ++ [w]).flatMap source = words.flatMap source ++ '*' :: w.word ++ ['*'] := by
  rw [List.flatMap_append, List.flatMap_singleton, source_emphasized hw, List.append_assoc,
    List.cons_append]

/-- Up to an emphasised word at the end, they are strong text without the last star. -/
theorem Alternate.isStrongText_of_emphasized (h : Alternate (words ++ [w]))
    (hw : w.emphasized = true) : IsStrongText (words.flatMap source ++ '*' :: w.word) := by
  have hinit : words.flatMap source ++ '*' :: w.word <+: (words ++ [w]).flatMap source :=
    ⟨['*'], (flatMap_source_concat hw).symm⟩
  refine ⟨?_, ?_, ?_, ?_⟩
  · have hfirst := h.first_source
    rwa [flatMap_source_concat hw, List.head?_append_of_ne_nil _ (by simp)] at hfirst
  · have hlast := (h.words w (List.mem_append_right words (List.mem_singleton_self w))).last
      (words.flatMap source ++ ['*'])
    rwa [List.append_assoc] at hlast
  · exact fun hmem => newline_not_mem_flatMap h.words (hinit.subset hmem)
  · exact fun hmark => not_strongMark_infix h.turns h.words (hmark.trans hinit.isInfix)

/-- Plain and emphasised words that take turns, a plain one first, are together the strong text
between two stars exactly where the last one is plain. -/
theorem parseInline_strong_words_iff (h : Alternate words) :
    parseInline ("**".toList ++ (words.flatMap source ++ "**".toList)) =
        [.strong (words.map node)] ↔
      words.getLast?.any (!·.emphasized) = true := by
  obtain ⟨words, w, rfl⟩ : ∃ init w, words = init ++ [w] := by
    have hfirst := h.first
    rcases List.eq_nil_or_concat' words with rfl | hconcat
    · cases hfirst
    · exact hconcat
  have hread : parseInline ((words ++ [w]).flatMap source) = (words ++ [w]).map node :=
    gather_pieces h.turns h.words false
  rw [List.getLast?_concat, Option.any_some]
  cases hw : w.emphasized with
  | false =>
    have hparse := (h.isStrongText hw).parseInline_append []
    rw [List.append_nil, hread, parseInline_nil] at hparse
    exact iff_of_true hparse rfl
  | true =>
    refine iff_of_false (fun hparse => ?_) (by decide)
    have hshape : (words ++ [w]).flatMap source ++ "**".toList =
        (words.flatMap source ++ '*' :: w.word) ++ (strongMark ++ ['*']) := by
      rw [flatMap_source_concat hw, List.append_assoc]
      rfl
    have hmark : "**".toList = strongMark := rfl
    rw [hshape, hmark, (h.isStrongText_of_emphasized hw).parseInline_append,
      parseInline_star] at hparse
    exact absurd (List.cons.inj hparse).2 (List.cons_ne_nil _ _)

/-- Two emphasised words among three plain ones. -/
theorem parseInline_strong_words_iff_plain :
    Alternate [⟨"a".toList, false⟩, ⟨"b".toList, true⟩, ⟨"Cd".toList, false⟩, ⟨"e".toList, true⟩,
        ⟨"f".toList, false⟩] ∧
      parseInline "**a*b*Cd*e*f**".toList = [.strong [.text "a".toList, .emph [.text "b".toList],
        .text "Cd".toList, .emph [.text "e".toList], .text "f".toList]] := by
  have h : Alternate [⟨"a".toList, false⟩, ⟨"b".toList, true⟩, ⟨"Cd".toList, false⟩,
      ⟨"e".toList, true⟩, ⟨"f".toList, false⟩] := by
    refine ⟨by decide, by simp [Turns], ?_⟩
    simp only [List.forall_mem_cons]
    exact ⟨⟨by decide, by decide⟩, ⟨by decide, by decide⟩, ⟨by decide, by decide⟩,
      ⟨by decide, by decide⟩, ⟨by decide, by decide⟩, by simp⟩
  exact ⟨h, (parseInline_strong_words_iff h).2 (by decide)⟩

/-- An emphasised word at the end is torn: the strong text ends before its closing star. -/
theorem parseInline_strong_words_emphasized :
    Alternate [⟨"a".toList, false⟩, ⟨"b".toList, true⟩] ∧
      parseInline "**a*b***".toList ≠ [.strong [.text "a".toList, .emph [.text "b".toList]]] := by
  have h : Alternate [⟨"a".toList, false⟩, ⟨"b".toList, true⟩] := by
    refine ⟨by decide, by simp [Turns], ?_⟩
    simp only [List.forall_mem_cons]
    exact ⟨⟨by decide, by decide⟩, ⟨by decide, by decide⟩, by simp⟩
  have hinside : IsStrongText "a*b".toList := ⟨by decide, by decide, by decide, by decide⟩
  have hshape : "**a*b***".toList = strongMark ++ ("a*b".toList ++ (strongMark ++ ['*'])) := rfl
  refine ⟨h, fun hparse => ?_⟩
  rw [hshape, hinside.parseInline_append, parseInline_star] at hparse
  exact absurd (List.cons.inj hparse).2 (List.cons_ne_nil _ _)

end StyledWord

end Bindery.Markup
