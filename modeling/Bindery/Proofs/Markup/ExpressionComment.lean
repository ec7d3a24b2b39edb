import Bindery.Proofs.Markup.FencedRegion
import Bindery.Proofs.Markup.RoundTrip

namespace Bindery.Markup

open Text

variable {w c d body name rest : Text}

/-- A comment in braces. -/
def commentText (c : Text) : Text :=
  expressionCommentStart ++ (c ++ expressionCommentEnd)

/-- A comment goes to its own end where its text holds none. -/
theorem afterExpressionComment?_commentText (hc : ¬expressionCommentEnd <:+: c) (rest : Text) :
    afterExpressionComment? (commentText c ++ rest) = some rest := by
  have hcut : cutAt? expressionCommentEnd (c ++ expressionCommentEnd ++ rest) = some (c, rest) := by
    refine cutAt?_append (List.cons_ne_nil _ _) fun t ht hne => ?_
    cases hstart : afterStart? expressionCommentEnd (t ++ expressionCommentEnd ++ rest) with
    | none => rfl
    | some after =>
      have hshape := eq_append_of_afterStart? hstart
      simp only [expressionCommentEnd, List.cons_append, List.nil_append] at hshape
      -- The end cannot begin with one or two characters of the text either.
      rcases t with _ | ⟨x, _ | ⟨y, _ | ⟨z, t⟩⟩⟩
      · exact absurd rfl hne
      · simp at hshape
      · simp at hshape
      · simp only [List.cons_append, List.cons.injEq] at hshape
        obtain ⟨rfl, rfl, rfl, -⟩ := hshape
        exact absurd (List.IsInfix.trans ⟨[], t, rfl⟩ ht.isInfix) hc
  have hstart := afterStart?_append expressionCommentStart (c ++ expressionCommentEnd ++ rest)
  have hshape : commentText c ++ rest =
      expressionCommentStart ++ (c ++ expressionCommentEnd ++ rest) := by
    simp [commentText]
  rw [afterExpressionComment?, afterEnclosed?, hshape, hstart, Option.bind_some, hcut]
  rfl

theorem commentText_eq_cons (c : Text) :
    commentText c = '\x7b' :: ('/' :: '*' :: (c ++ expressionCommentEnd)) := by
  rfl

theorem getLast?_commentText (w c : Text) : (w ++ commentText c).getLast? = some '\x7d' := by
  have hshape : w ++ commentText c =
      (w ++ expressionCommentStart ++ (c ++ ['*', '/'])) ++ ['\x7d'] := by
    simp [commentText, expressionCommentEnd]
  rw [hshape, List.getLast?_concat]

theorem newline_not_mem_commentText (hc : '\n' ∉ c) : '\n' ∉ commentText c := by
  have hstart : '\n' ∉ expressionCommentStart := by decide
  have hend : '\n' ∉ expressionCommentEnd := by decide
  simp [commentText, hstart, hc, hend]

theorem afterWordAndBlank?_append_cons {word : Text} {x : Char} (hx : x ∉ word)
    (hblank : isBlank x = false) (w s : Text) :
    afterWordAndBlank? word (w ++ x :: s) = (afterWordAndBlank? word w).map (· ++ x :: s) := by
  rw [afterWordAndBlank?, afterWordAndBlank?, afterStart?_append_cons hx]
  cases afterStart? word w with
  | none => rfl
  | some rest =>
    cases rest with
    | nil => simp [hblank]
    | cons y rest =>
      have hdrop := dropWhile_append_cons hblank (y :: rest) s
      by_cases hy : isBlank y = true
      · simp only [Option.map_some, List.cons_append, List.head?_cons, Option.any_some, hy,
          ↓reduceIte]
        exact congrArg some hdrop
      · simp only [Option.map_some, List.cons_append, List.head?_cons, Option.any_some, hy,
          Bool.false_eq_true, ↓reduceIte, Option.map_none]

/-- Whether a line is a statement does not depend on the comment at its end. -/
theorem isStatement_commentText (w c d : Text) :
    isStatement (w ++ commentText c) = isStatement (w ++ commentText d) := by
  have hquoted (c : Text) : beforeQuotedEnd? (w ++ commentText c) = none :=
    beforeQuotedEnd?_of_getLast (getLast?_commentText w c) (by decide) (by decide) (by decide)
  have hbrace : '\x7b' ∉ "export".toList := by decide
  have hexport (c : Text) := afterWordAndBlank?_append_cons hbrace (by decide) w
    ('/' :: '*' :: (c ++ expressionCommentEnd))
  rw [isStatement, isStatement, hquoted, hquoted, commentText_eq_cons, commentText_eq_cons,
    hexport, hexport]
  cases afterWordAndBlank? "export".toList w with
  | none => rfl
  | some rest =>
    have hkinds : exportedKinds.all (fun word => !word.contains '\x7b') = true := by decide
    simp only [Option.any_none, Bool.false_or, Option.map_some, Option.any_some]
    rw [Bool.eq_iff_iff, List.any_eq_true, List.any_eq_true]
    refine exists_congr fun word => and_congr_right fun hword => ?_
    have hbrace : '\x7b' ∉ word := by simpa using List.all_eq_true.1 hkinds word hword
    rw [afterStart?_append_cons hbrace, afterStart?_append_cons hbrace]
    cases afterStart? word rest with
    | none => rfl
    | some after =>
      simp only [Option.map_some]
      rw [head?_append_cons after '\x7b' _ ('/' :: '*' :: (d ++ expressionCommentEnd))]

/-- The comment is not seen after the words: it goes to its own end, and it stays on their line if
    there are any. -/
structure IsHiddenAfter (w c : Text) : Prop where
  closed : ¬expressionCommentEnd <:+: c
  line : w.all isGap = true ∨ '\n' ∉ c ∧ '\r' ∉ c

theorem IsHiddenAfter.normalizeNewlines (hc : IsHiddenAfter w c) :
    IsHiddenAfter w (normalizeNewlines c) := by
  constructor
  · exact fun h => hc.closed (infix_of_infix_normalizeNewlines (by decide) h)
  · refine hc.line.imp_right fun hline => ?_
    rwa [normalizeNewlines_of_not_mem hline.2]

theorem parseInline_commentText (hw : IsLetters w) (hc : ¬expressionCommentEnd <:+: c) :
    parseInline (w ++ commentText c) = consText w [] := by
  have hcomment := afterExpressionComment?_commentText hc []
  rw [List.append_nil] at hcomment
  obtain ⟨afterWord, hpieces⟩ := exists_pieces_append false hw.not_mark (commentText c)
  have hat : Span.at? afterWord (commentText c) = some (.hidden, []) :=
    congrArg (Option.map _) hcomment
  rw [parseInline, hpieces, commentText_eq_cons, pieces_of_at? (commentText_eq_cons c ▸ hat),
    Span.piece, pieces_nil, gather_append_gap]
  rfl

theorem ofLine_commentText (hw : IsLetters w) (hletter : BeginsWithLetter w)
    (hc : ¬expressionCommentEnd <:+: c) (hd : ¬expressionCommentEnd <:+: d) :
    Block.ofLine (w ++ commentText c) = Block.ofLine (w ++ commentText d) := by
  have htrim (c : Text) : trimEnd (w ++ commentText c) = w ++ commentText c :=
    dropEndWhile_of_getLast (getLast?_commentText w c) (by decide)
  have hstatement := isStatement_commentText w c d
  rw [Block.ofLine, Block.ofLine]
  cases hshown : isStatement (w ++ commentText d) with
  | true =>
    rw [hshown] at hstatement
    rw [lineNode?, lineNode?, if_pos hstatement, if_pos hshown]
  | false =>
    rw [hshown] at hstatement
    rw [(hletter.append _).lineNode? hstatement, (hletter.append _).lineNode? hshown, htrim, htrim,
      parseInline_commentText hw hc, parseInline_commentText hw hd]

/-- What a line with a comment after the words is. -/
def leadBlock (w : Text) : Block :=
  if w.all isGap then .hidden else Block.ofLine (w ++ commentText [])

theorem exists_line_commentText (hw : '\n' ∉ w) (c rest : Text) :
    ∃ t, line (w ++ (commentText c ++ rest)) = w ++ '\x7b' :: t := by
  rw [line, List.takeWhile_append_of_pos (forall_bne_iff.2 hw)]
  exact ⟨_, rfl⟩

/-- A comment with nothing before it is passed with its line, however many lines it has. -/
theorem next_commentText_of_blank (hw : '\n' ∉ w) (hblank : w.all isGap = true)
    (hc : ¬expressionCommentEnd <:+: c) (rest : Text) :
    Block.next (w ++ (commentText c ++ '\n' :: rest)) = (.hidden, rest) := by
  have hspaces : w.all isBlank = true :=
    List.all_eq_true.2 fun x hx => isBlank_of_isGap (List.all_eq_true.1 hblank x hx)
  obtain ⟨t, hline⟩ := exists_line_commentText hw c ('\n' :: rest)
  have hshown : ¬allBlank (w ++ '\x7b' :: t) = true := by
    have hmem : '\x7b' ∈ w ++ '\x7b' :: t := by simp
    simp [allBlank_of_mem hmem (by decide)]
  have hfence : Fence.ofLine? (w ++ '\x7b' :: t) = none := by
    have hbrace : ('\x7b' :: t).head?.any isGap = false := rfl
    rw [Fence.ofLine?, dropWhile_append_of_head hblank hbrace]
    rfl
  have hstart : (w ++ (commentText c ++ '\n' :: rest)).dropWhile isBlank =
      commentText c ++ '\n' :: rest := dropWhile_append_of_head hspaces rfl
  have hcomment : Block.comment? (commentText c ++ '\n' :: rest) = some rest := by
    have hresume : Block.resume ('\n' :: rest) = rest :=
      Outline.resume_of_endsLine (.inr ⟨rest, rfl⟩)
    rw [Block.comment?, afterExpressionComment?_commentText hc]
    exact congrArg some hresume
  rw [Block.next, hline, if_neg hshown, hfence]
  simp only [Block.nextUnfenced, hstart, hcomment]

theorem next_commentText (hw : IsLetters w) (hc : IsHiddenAfter w c) (rest : Text) :
    Block.next (w ++ (commentText c ++ '\n' :: rest)) = (leadBlock w, rest) := by
  have hnewline : '\n' ∉ w := hw.not_mem (by decide) (by decide)
  have hnone : ¬expressionCommentEnd <:+: [] := by
    rw [List.infix_nil]
    exact List.cons_ne_nil _ _
  by_cases hblank : w.all isGap = true
  · rw [next_commentText_of_blank hnewline hblank hc.closed, leadBlock, if_pos hblank]
  · have hletter := hw.blank_or_letter.resolve_left hblank
    have hline : '\n' ∉ w ++ commentText c := by
      have hcomment := newline_not_mem_commentText (hc.line.resolve_left hblank).1
      simp [hnewline, hcomment]
    have hnext := (hletter.append (commentText c)).next hline (.inr ⟨rest, rfl⟩)
    rw [List.append_assoc] at hnext
    rw [hnext, leadBlock, if_neg hblank, ofLine_commentText hw hletter hc.closed hnone]
    rfl

/-- The nodes of the line. -/
def leadNodes (w : Text) : List Node :=
  ((leadBlock w).node? (leadBlock w).children).toList

theorem blockNodes_commentText (hw : IsLetters w) (hc : IsHiddenAfter w c) (rest : Text) :
    blockNodes (w ++ (commentText c ++ '\n' :: rest)) = leadNodes w ++ blockNodes rest := by
  have hne : w ++ (commentText c ++ '\n' :: rest) ≠ [] := by simp [commentText_eq_cons]
  exact blockNodes_of_next hne (next_commentText hw hc rest)

theorem normalizeNewlines_commentText (hw : IsLetters w) (c rest : Text) :
    normalizeNewlines (w ++ (commentText c ++ '\n' :: rest)) =
      w ++ (commentText (normalizeNewlines c) ++ '\n' :: normalizeNewlines rest) := by
  have hreturn : '\r' ∉ w ++ expressionCommentStart := by
    have hlead : '\r' ∉ w := hw.not_mem (by decide) (by decide)
    simp [hlead, expressionCommentStart]
  have hend : (expressionCommentEnd ++ '\n' :: rest).head? ≠ some '\n' := by
    simp [expressionCommentEnd]
  have hafter : normalizeNewlines (expressionCommentEnd ++ '\n' :: rest) =
      expressionCommentEnd ++ '\n' :: normalizeNewlines rest := by
    rw [normalizeNewlines_append_of_not_mem (by decide), normalizeNewlines_cons_of_ne (by decide)]
  have hshape : w ++ (commentText c ++ '\n' :: rest) =
      w ++ expressionCommentStart ++ (c ++ (expressionCommentEnd ++ '\n' :: rest)) := by
    simp [commentText]
  rw [hshape, normalizeNewlines_append_of_not_mem hreturn, normalizeNewlines_append c hend, hafter]
  simp [commentText]

/-- A line with a comment at its end gives the nodes of its words. -/
theorem parse_commentText (hw : IsLetters w) (hc : IsHiddenAfter w c) (rest : Text) :
    parse (w ++ (commentText c ++ '\n' :: rest)) =
      mergeBlanks (leadNodes w ++ blockNodes (normalizeNewlines rest)) := by
  rw [parse, normalizeNewlines_commentText hw, parseBlocks,
    blockNodes_commentText hw hc.normalizeNewlines]

/-- What stands between the tags of an element: a line with a comment at its end, and below it a
    line of prose. -/
def commentContent (w c body : Text) : Text :=
  '\n' :: (w ++ (commentText c ++ '\n' :: (body ++ ['\n'])))

/-- What follows the text of the comment. -/
def afterComment (name body : Text) : Text :=
  expressionCommentEnd ++ '\n' :: (body ++ '\n' :: closeTagText name)

/-- The tags of the name that begin in the comment are paired, those in fenced regions left out:
    none closes an element that the comment has not opened, and every element that it opens is
    closed in it. -/
def PairsTagsIn (name body c : Text) : Prop :=
  openAfter? name (afterComment name body) 0 0 false c = some 0

/-- No fenced region begins where a comment or the words before it do. -/
theorem regionLength?_commentText (hw : IsLetters w) (c rest : Text) :
    regionLength? (w ++ (commentText c ++ rest)) = none := by
  obtain ⟨t, hline⟩ := exists_line_commentText (hw.not_mem (by decide) (by decide)) c rest
  apply regionLength?_eq_none
  rw [hline, dropWhile_append_cons (by decide)]
  cases hdrop : w.dropWhile isGap with
  | nil => rfl
  | cons x s =>
    have hx : x ∈ w := (List.dropWhile_suffix isGap).subset (hdrop ▸ List.mem_cons_self)
    have hmark : isFenceMark x = false := by
      rcases hw.letter_or_space x hx with hletter | rfl
      · exact not_of_isAlpha (by decide) hletter
      · decide
    exact if_neg (by simp [hmark])

theorem unfenced_afterComment (hname : IsTagName name) (hbody : IsProse body) :
    Unfenced (afterComment name body) := by
  have hnone {x : Char} (hx : x ∈ Outline.reserved) (hletter : x.isAlpha = false) (hspace : x ≠ ' ')
      (hnewline : x ≠ '\n') (hend : x ∉ expressionCommentEnd) : x ∉ afterComment name body := by
    have hprose := hbody.not_mem hletter hspace
    have htag := Outline.not_mem_closeTagText hname hx
    simp [afterComment, hend, hnewline, hprose, htag]
  apply Outline.unfenced_of_not_mem
  · exact hnone (by decide) (by decide) (by decide) (by decide) (by decide)
  · exact hnone (by decide) (by decide) (by decide) (by decide) (by decide)

/-- The search comes to the text of the comment on its first level and outside fenced regions. -/
theorem closing?_before_comment (hname : IsTagName name) (hw : IsLetters w) (c body : Text) :
    closing? name false (commentContent w c body ++ closeTagText name) =
      prepend ('\n' :: (w ++ expressionCommentStart))
        (closingFrom? name 1 0 0 false (c ++ afterComment name body)) := by
  have hshape : commentContent w c body ++ closeTagText name =
      '\n' :: (w ++ expressionCommentStart) ++ (c ++ afterComment name body) := by
    simp [commentContent, commentText, afterComment]
  have hbracket : '<' ∉ '\n' :: (w ++ expressionCommentStart) := by
    have hlead : '<' ∉ w := hw.not_mem (by decide) (by decide)
    simp [hlead, expressionCommentStart]
  have hfenced : fencedAfter (c ++ afterComment name body) 0 false
      ('\n' :: (w ++ expressionCommentStart)) = 0 := by
    have hregion := regionLength?_commentText hw c ('\n' :: (body ++ '\n' :: closeTagText name))
    have hline : '\n' ∉ w ++ expressionCommentStart := by
      have hlead : '\n' ∉ w := hw.not_mem (by decide) (by decide)
      simp [hlead, expressionCommentStart]
    apply fencedAfter_of_no_region hline
    rw [← hregion]
    simp [commentText, afterComment]
  have hstart : atLineStart false ('\n' :: (w ++ expressionCommentStart)) = false := by
    have hlast : '\n' :: (w ++ expressionCommentStart) =
        ('\n' :: (w ++ ['\x7b', '/'])) ++ ['*'] := by
      simp [expressionCommentStart]
    rw [atLineStart, hlast, List.getLast?_concat]
    rfl
  rw [closing?, hshape, closingFrom?_of_openAfter? hname (openAfter?_of_not_mem hbracket), hfenced,
    hstart]

theorem closing?_commentContent (hname : IsTagName name) (hw : IsLetters w) (hbody : IsProse body)
    (hc : PairsTagsIn name body c) :
    closing? name false (commentContent w c body ++ closeTagText name) =
      some (commentContent w c body, []) := by
  have hfree := unfenced_afterComment hname hbody
  have hbracket : '<' ∉ expressionCommentEnd ++ '\n' :: (body ++ ['\n']) := by
    have hprose : '<' ∉ body := hbody.not_mem (by decide) (by decide)
    simp [expressionCommentEnd, hprose]
  have hpasses : Passes name (expressionCommentEnd ++ '\n' :: (body ++ ['\n'])) :=
    passes_of_not_mem hbracket
  have hshape : afterComment name body =
      expressionCommentEnd ++ '\n' :: (body ++ ['\n']) ++ (closeTagText name ++ []) := by
    simp [afterComment]
  rw [closing?_before_comment hname hw, closingFrom?_of_openAfter? hname hc,
    fencedAfter_eq_zero hfree rfl (Nat.zero_le _), closingFrom?_of_unfenced hfree, hshape,
    hpasses 0, closingIn?_end hname]
  simp [prepend, commentContent, commentText]

/-- The content of the element is a blank line, the line with the comment and the prose. -/
theorem children_commentContent (hw : IsLetters w) (hbody : IsProse body) (hc : IsHiddenAfter w c)
    (name : Text) : (Block.element name [] (commentContent w c body)).children =
      mergeBlanks (.blank :: (leadNodes w ++ blockNodes (body ++ ['\n']))) := by
  have hstart : '\n' ∉ w ++ expressionCommentStart := by
    have hlead : '\n' ∉ w := hw.not_mem (by decide) (by decide)
    simp [hlead, expressionCommentStart]
  obtain ⟨t, hgaps, hwords, hkept⟩ := exists_emptyGaps hstart (by decide)
    ⟨'\x7b', by simp [expressionCommentStart], rfl⟩ ⟨'*', by decide, rfl⟩ c
      (q := expressionCommentEnd)
  have ht : IsHiddenAfter w t := by
    constructor
    · exact fun h => hc.closed (hwords _ (List.cons_ne_nil _ _) (by decide) h)
    · refine hc.line.imp_right fun hline => ?_
      rwa [hkept hline.1]
  have hdedent : dedent (w ++ (commentText c ++ '\n' :: (body ++ ['\n']))) =
      w ++ (commentText t ++ '\n' :: (body ++ ['\n'])) := by
    have hlines : lines (w ++ (commentText c ++ '\n' :: (body ++ ['\n']))) =
        lines (w ++ expressionCommentStart ++ (c ++ expressionCommentEnd)) ++ [body, []] := by
      have hnewline : '\n' ∉ body := hbody.not_mem (by decide) (by decide)
      have hlast : lines (body ++ ['\n']) = [body, []] := splitOn_append_cons hnewline []
      rw [← hlast, lines, lines, lines, ← splitOn_append_sep]
      simp [commentText]
    obtain ⟨x, s, hcons, hx⟩ := hbody.exists_cons
    have hgap : isGap x = false := isGap_of_isAlpha hx
    have hflush : body.head?.any (!isGap ·) = true := by simp [hcons, hgap]
    have hbelow : [body, []].map emptyGaps = [body, []] := by
      have hkept : emptyGaps body = body := emptyGaps_of_mem (hcons ▸ List.mem_cons_self) hgap
      rw [List.map_cons, hkept]
      rfl
    rw [dedent_of_flush ⟨body, by simp [hlines], hflush⟩, hlines, List.map_append,
      joinWith_append (by simp [lines, splitOn_ne_nil]) (by simp), hgaps, hbelow]
    simp [commentText, joinWith]
  rw [Block.children, Block.inside, commentContent, dedentContent_newline, hdedent,
    blockNodes_newline, blockNodes_commentText hw ht]

/-- An element with a comment in it gives the nodes of the words before the comment. -/
theorem parse_element_commentContent (hname : IsTagName name) (hcomponent : isComponent name = true)
    (hblock : name ∉ lineNames) (hw : IsLetters w) (hbody : IsProse body)
    (hc : IsHiddenAfter w c) (hpairs : PairsTagsIn name body (normalizeNewlines c)) :
    parse (openTagText name [] ++ (commentContent w c body ++ closeTagText name)) =
      [.element name []
        (mergeBlanks (.blank :: (leadNodes w ++ blockNodes (body ++ ['\n'])))) true] := by
  have hattributes : ∀ a ∈ ([] : Pairs), IsAttribute a := fun a ha => absurd ha List.not_mem_nil
  have hnormal : normalizeNewlines (openTagText name [] ++
      (commentContent w c body ++ closeTagText name)) =
        openTagText name [] ++
          (commentContent w (normalizeNewlines c) body ++ closeTagText name) := by
    have hopen : '\r' ∉ openTagText name [] ++ ['\n'] := by
      have htag := Outline.not_mem_openTagText hname hattributes (c := '\r') (by decide) (by simp)
      simp [htag]
    have hafter : normalizeNewlines (body ++ '\n' :: closeTagText name) =
        body ++ '\n' :: closeTagText name := by
      have hprose : '\r' ∉ body := hbody.not_mem (by decide) (by decide)
      have htag := Outline.not_mem_closeTagText hname (c := '\r') (by decide)
      exact normalizeNewlines_of_not_mem (by simp [hprose, htag])
    have hshape (c : Text) : openTagText name [] ++ (commentContent w c body ++ closeTagText name) =
        openTagText name [] ++ ['\n'] ++
          (w ++ (commentText c ++ '\n' :: (body ++ '\n' :: closeTagText name))) := by
      simp [commentContent]
    rw [hshape, normalizeNewlines_append_of_not_mem hopen, normalizeNewlines_commentText hw, hafter,
      ← hshape]
  have hclose := closing?_commentContent hname hw hbody hpairs
  have helement := Outline.element?_openTagText hname hcomponent hblock hattributes List.nodup_nil
    hclose List.mem_cons_self
  have hresume : Block.resume [] = [] := rfl
  have hnext := Outline.next_openTagText hname []
    (commentContent w (normalizeNewlines c) body ++ closeTagText name)
  rw [helement, Option.getD_some, hresume] at hnext
  have hne : openTagText name [] ++
      (commentContent w (normalizeNewlines c) body ++ closeTagText name) ≠ [] :=
    List.cons_ne_nil _ _
  rw [parse_of_next hnormal hne hnext, children_commentContent hw hbody hc.normalizeNewlines]
  rfl

end Bindery.Markup
