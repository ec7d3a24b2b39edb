import Bindery.Proofs.Markup.CodeSpan
import Bindery.Proofs.Markup.EmphasisMarks
import Bindery.Proofs.Markup.LinkText
import Bindery.Proofs.Markup.PairedTags
import Bindery.Proofs.Markup.RoundTrip

namespace Bindery.Markup

open Text

variable {c name : Text}

/-- Code that stands between single backticks as it is. -/
structure IsSpanCode (c : Text) : Prop where
  ne_nil : c ≠ []
  tick : '\x60' ∉ c
  newline : '\n' ∉ c
  carriageReturn : '\r' ∉ c
  first : c.head? ≠ some ' '
  last : c.getLast? ≠ some ' '

/-- Code in single backticks between two words. -/
def aroundCode (c : Text) : Text :=
  "a \x60".toList ++ (c ++ "\x60 b".toList)

/-- The words and the code. -/
def aroundCodeNodes (c : Text) : List Node :=
  [.text "a ".toList, .code c, .text " b".toList]

theorem getLast?_aroundCode (c : Text) : (aroundCode c).getLast? = some 'b' := by
  have hshape : aroundCode c = ("a \x60".toList ++ (c ++ "\x60 ".toList)) ++ ['b'] := by
    simp [aroundCode]
  rw [hshape, List.getLast?_concat]

theorem parseInline_aroundCode (hc : IsSpanCode c) :
    parseInline (aroundCode c) = aroundCodeNodes c := by
  have hrun : ¬List.replicate 1 '\x60' <:+: c := fun h =>
    hc.tick (h.subset List.mem_cons_self)
  have htick : ∀ d ∈ c, isTick d = false := fun d hd =>
    beq_eq_false_iff_ne.2 fun heq => hc.tick (heq ▸ hd)
  have hhead : c.head?.any isTick = false := by
    cases hcases : c.head? with
    | none => rfl
    | some d => exact htick d (List.mem_of_mem_head? hcases)
  have hlast : c.getLast?.any isTick = false := by
    cases hcases : c.getLast? with
    | none => rfl
    | some d => exact htick d (List.mem_of_mem_getLast? hcases)
  have hspan : codeSpan? ('\x60' :: (c ++ "\x60 b".toList)) = some (c, " b".toList) := by
    have hafter : (" b".toList).head?.any isTick = false := rfl
    have hfound := codeSpan?_append hc.ne_nil (hc.newline) hrun hhead hlast hafter
    rwa [unpad_of_head hc.first] at hfound
  obtain ⟨afterWord, hpieces⟩ := exists_pieces_append false (s := "a ".toList) (by decide)
    ('\x60' :: (c ++ "\x60 b".toList))
  have hat : Span.at? afterWord ('\x60' :: (c ++ "\x60 b".toList)) =
      some (.code c, " b".toList) := congrArg (Option.map _) hspan
  have hshape : aroundCode c = "a ".toList ++ '\x60' :: (c ++ "\x60 b".toList) := rfl
  rw [parseInline, hshape, hpieces, pieces_of_at? hat, Span.piece, gather_append_node,
    pieces_of_not_mark false (s := " b".toList) (by decide), gather_chars]
  rfl

theorem tickRuns_of_not_mem {s : Text} (h : '\x60' ∉ s) : tickRuns s = [] := by
  fun_induction tickRuns s with
  | case1 => rfl
  | case2 => rfl
  | case3 c s _ htick _ _ =>
    rw [eq_of_beq htick] at h
    exact absurd List.mem_cons_self h
  | case4 c s _ _ ih => exact ih fun hmem => h (List.mem_cons_of_mem c hmem)

/-- A backtick that nothing closes belongs to the text before it. -/
theorem parseInline_ne_of_open {s : Text} (h : '\x60' ∉ s) (c : Text) :
    parseInline ("a \x60".toList ++ s) ≠ aroundCodeNodes c := by
  have hdrop : ('\x60' :: s).dropWhile isTick = s := by
    cases s with
    | nil => rfl
    | cons d s =>
      have hd : ¬isTick d = true := by
        rw [List.mem_cons, not_or] at h
        simpa [isTick] using Ne.symm h.1
      exact (List.dropWhile_cons_of_pos rfl).trans (List.dropWhile_cons_of_neg hd)
  have hspan : codeSpan? ('\x60' :: s) = none := by
    rw [codeSpan?, hdrop, tickRuns_of_not_mem h]
    rfl
  obtain ⟨afterWord, hpieces⟩ := exists_pieces_append false (s := "a ".toList) (by decide)
    ('\x60' :: s)
  have hat : Span.at? afterWord ('\x60' :: s) = none := congrArg (Option.map _) hspan
  have hshape : "a \x60".toList ++ s = "a ".toList ++ '\x60' :: s := rfl
  have hchars (parts : List Piece) : "a ".toList.map Piece.char ++ .char '\x60' :: parts =
      "a \x60".toList.map Piece.char ++ parts := rfl
  rw [parseInline, hshape, hpieces, pieces_of_none hat, hchars, gather, gatherText_append]
  intro heq
  -- The first text would have to end before the backtick.
  have htext := Node.text.inj (List.cons.inj heq).1
  exact absurd htext (by simp)

theorem newline_not_mem (hc : IsSpanCode c) : '\n' ∉ aroundCode c := by
  simp [aroundCode, hc.newline]

/-- Strong text with code in it, as it is written. -/
def strongAroundCode (c : Text) : Text :=
  strongMark ++ (aroundCode c ++ strongMark)

/-- The search for the closing mark comes to the code without having found one. -/
theorem between?_strongAroundCode (c : Text) : between? strongMark (strongAroundCode c) =
    prepend "a \x60".toList (beforeMark? strongMark false (c ++ "\x60 b**".toList)) := by
  have hshape : strongAroundCode c =
      '*' :: '*' :: 'a' :: ' ' :: '\x60' :: (c ++ "\x60 b**".toList) := by
    simp [strongAroundCode, aroundCode, strongMark]
  have hfirst :
      between? strongMark ('*' :: '*' :: 'a' :: ' ' :: '\x60' :: (c ++ "\x60 b**".toList)) =
        prepend ['a'] (prepend [' '] (prepend ['\x60']
          (beforeMark? strongMark false (c ++ "\x60 b**".toList)))) := rfl
  rw [hshape, hfirst, ← prepend_append, ← prepend_append]
  rfl

/-- What is found between the marks is strong text. -/
theorem at?_strongAroundCode {inside rest : Text}
    (h : between? strongMark (strongAroundCode c) = some (inside, rest)) :
    Span.at? false (strongAroundCode c) = some (.emphasis .strong inside, rest) := by
  have hlonger : between? ['*', '*', '*'] (strongAroundCode c) = none := rfl
  have hmark : between? ['*', '*'] (strongAroundCode c) = some (inside, rest) := h
  have hemphasis : emphasis? '*' (strongAroundCode c) = some (.strong, inside, rest) := by
    simp only [emphasis?, hlonger, hmark]
  exact congrArg (Option.map _) hemphasis

/-- The code is kept if no two stars in it follow what is no blank. -/
theorem parseInline_strong_iff (hc : IsSpanCode c) :
    parseInline (strongAroundCode c) = [.strong (aroundCodeNodes c)] ↔
      ¬HoldsStrongMark false c := by
  have hline := hc.newline
  have hsearch := between?_strongAroundCode c
  constructor
  · intro hparse hmark
    obtain ⟨before, t, rest, hbefore, hfound⟩ :=
      exists_of_holdsStrongMark hmark hline "\x60 b**".toList
    rw [hfound] at hsearch
    have hchildren := eq_of_parseInline (at?_strongAroundCode hsearch) rfl hparse
    have htick : '\x60' ∉ before := fun h => hc.tick (by simp [hbefore, h])
    exact parseInline_ne_of_open htick c (Node.strong.inj hchildren)
  · intro hmark
    have htail : ("\x60 b**".toList).head?.all (· != '*') = true := rfl
    have hend (afterBlank : Bool) :
        beforeMark? strongMark afterBlank "\x60 b**".toList = some ("\x60 b".toList, []) := by
      cases afterBlank <;> rfl
    rw [beforeMark?_append hmark hline htail, hend] at hsearch
    rw [← parseInline_aroundCode hc]
    exact parseInline_eq_singleton (at?_strongAroundCode hsearch) rfl

/-- Emphasised text with code in it: the code is kept if it holds no star. -/
theorem parseInline_emph_iff (hc : IsSpanCode c) :
    parseInline ('*' :: (aroundCode c ++ ['*'])) = [.emph (aroundCodeNodes c)] ↔ '*' ∉ c := by
  have hline := hc.newline
  have hstart : '*' ∉ "a \x60".toList ∧ '\n' ∉ "a \x60".toList := by decide
  have hend : '*' ∉ "\x60 b".toList ∧ '\n' ∉ "\x60 b".toList := by decide
  have hemphasis : emphasis? '*' ('*' :: (aroundCode c ++ ['*'])) =
      (betweenSingle? '*' ('*' :: (aroundCode c ++ ['*']))).map (.emph, ·) := rfl
  constructor
  · intro hparse hmem
    obtain ⟨before, after, hbefore, hstar⟩ := List.eq_append_cons_of_mem hmem
    have htick : '\x60' ∉ before := fun h => hc.tick (by simp [hbefore, h])
    have hnewline : '\n' ∉ before := fun h => hline (by simp [hbefore, h])
    have hinside : ("a \x60".toList ++ before).all (isInside '*') = true := by
      refine all_isInside ?_ ?_
      · exact fun h => (List.mem_append.1 h).elim hstart.1 hstar
      · exact fun h => (List.mem_append.1 h).elim hstart.2 hnewline
    have hshape : aroundCode c ++ ['*'] =
        ("a \x60".toList ++ before) ++ '*' :: (after ++ "\x60 b*".toList) := by
      rw [aroundCode, hbefore]
      simp
    have hsingle := betweenSingle?_of_isInside hinside (after ++ "\x60 b*".toList)
    rw [← hshape] at hsingle
    rw [hsingle] at hemphasis
    split at hemphasis
    · have hat : Span.at? false ('*' :: (aroundCode c ++ ['*'])) =
          some (.emphasis .emph ("a \x60".toList ++ before), after ++ "\x60 b*".toList) :=
        congrArg (Option.map _) hemphasis
      have hchildren := eq_of_parseInline hat rfl hparse
      exact parseInline_ne_of_open htick c (Node.emph.inj hchildren)
    · have hat : Span.at? false ('*' :: (aroundCode c ++ ['*'])) = none :=
        congrArg (Option.map _) hemphasis
      exact absurd hparse (parseInline_ne_of_none hat fun t h => by cases h)
  · intro hstar
    have hinside : IsEmphText '*' (aroundCode c) := by
      refine ⟨rfl, by rw [getLast?_aroundCode]; rfl, all_isInside ?_ (newline_not_mem hc)⟩
      simp [aroundCode, hstar]
    have hfound : emphasis? '*' ('*' :: (aroundCode c ++ ['*'])) =
        some (.emph, aroundCode c, []) := hinside.emphasis? rfl
    have hat : Span.at? false ('*' :: (aroundCode c ++ ['*'])) =
        some (.emphasis .emph (aroundCode c), []) := congrArg (Option.map _) hfound
    rw [← parseInline_aroundCode hc]
    exact parseInline_eq_singleton hat rfl

/-- A link with code in its text: the code is kept if no bracket in it closes the text. -/
theorem parseInline_link_iff (c : Text) :
    parseInline ('[' :: (aroundCode c ++ "](/u)".toList)) =
      [.link (aroundCode c) "/u".toList] ↔ IsLinkText c := by
  constructor
  · intro hparse
    cases hlink : link? ('[' :: (aroundCode c ++ "](/u)".toList)) with
    | none =>
      have hat : Span.at? false ('[' :: (aroundCode c ++ "](/u)".toList)) = none :=
        congrArg (Option.map _) hlink
      exact absurd hparse (parseInline_ne_of_none hat fun t h => by cases h)
    | some found =>
      obtain ⟨text, url, rest⟩ := found
      have hat : Span.at? false ('[' :: (aroundCode c ++ "](/u)".toList)) =
          some (.link text url, rest) := congrArg (Option.map _) hlink
      obtain ⟨rfl, -⟩ := Node.link.inj (eq_of_parseInline hat rfl hparse)
      have htext : IsLinkText ('a' :: ' ' :: '\x60' :: (c ++ "\x60 b".toList)) :=
        isLinkText_of_linkTail? hlink
      have hafter : ')' ∉ "\x60 b".toList := by decide
      cases htext with
      | char _ htext =>
        cases htext with
        | char _ htext =>
          cases htext with
          | char _ htext => exact htext.of_append hafter
  · intro htext
    have hchars : "/u".toList.all (fun d => !(isBlank d || d == ')')) = true := by decide
    have hurl : IsDestination "/u".toList := by
      refine ⟨by decide, fun d hd => ?_⟩
      simpa using List.all_eq_true.1 hchars d hd
    have haround : IsLinkText (aroundCode c) :=
      (isLinkText_of_not_mem (by decide)).append (htext.append (isLinkText_of_not_mem (by decide)))
    have hlink : link? ('[' :: (aroundCode c ++ "](/u)".toList)) =
        some (aroundCode c, "/u".toList, []) :=
      linkTail?_append haround hurl (.inr (by simp [aroundCode]))
    have hat : Span.at? false ('[' :: (aroundCode c ++ "](/u)".toList)) =
        some (.link (aroundCode c) "/u".toList, []) := congrArg (Option.map _) hlink
    exact parseInline_eq_singleton hat rfl

/-- The tags of the name that begin in the code are paired: none closes an element that the code
    has not opened, and every element that it opens is closed in it. -/
def PairsTags (name c : Text) : Prop :=
  openAfter? name ("\x60 b".toList ++ closeTagText name) 0 0 false c = some 0

theorem closing?_aroundCode (hname : IsTagName name) (c : Text) :
    closing? name false (aroundCode c ++ closeTagText name) =
      prepend "a \x60".toList (closingFrom? name 1 0 0 false
        (c ++ ("\x60 b".toList ++ closeTagText name))) := by
  have hbracket : '<' ∉ "a \x60".toList := by decide
  have hline : '\n' ∉ "a \x60".toList := by decide
  have hshape : aroundCode c ++ closeTagText name =
      "a \x60".toList ++ (c ++ ("\x60 b".toList ++ closeTagText name)) := by
    simp [aroundCode]
  rw [closing?, hshape, closingFrom?_of_openAfter? hname (openAfter?_of_not_mem hbracket),
    fencedAfter_of_line hline, atLineStart_of_not_mem hline]

theorem closing?_of_openAfter? (hc : IsSpanCode c) (hname : IsTagName name) {count : Nat}
    (h : openAfter? name ("\x60 b".toList ++ closeTagText name) 0 0 false c = some count) :
    closing? name false (aroundCode c ++ closeTagText name) =
      prepend ("a \x60".toList ++ (c ++ "\x60 b".toList))
        (closingIn? name (count + 1) 0 (closeTagText name)) := by
  have hend : Passes name "\x60 b".toList := passes_of_not_mem (by decide)
  have hline : '\n' ∉ "\x60 b".toList ++ closeTagText name := by
    have hclose := Outline.not_mem_closeTagText hname (c := '\n') (by decide)
    simp [hclose]
  rw [closing?_aroundCode hname, closingFrom?_of_openAfter? hname h, fencedAfter_of_line hc.newline,
    atLineStart_of_not_mem hc.newline, closingFrom?_of_line hline, hend count, prepend_append,
    prepend_append]

/-- The closing tag after the code is the end of the element if the tags in the code are paired. -/
theorem closing?_of_pairsTags (hc : IsSpanCode c) (hname : IsTagName name) (h : PairsTags name c) :
    closing? name false (aroundCode c ++ closeTagText name) = some (aroundCode c, []) := by
  have hlast := closingIn?_end hname []
  rw [List.append_nil] at hlast
  rw [closing?_of_openAfter? hc hname h, hlast]
  simp [prepend, aroundCode]

/-- A closing tag holds no backtick. -/
theorem tick_mem_of_closeTag? {s rest : Text} (h : closeTag? s = some (name, rest))
    (hs : '\x60' ∈ s) : '\x60' ∈ rest := by
  unfold closeTag? at h
  split at h
  · next t =>
    split at h
    · next found after hread =>
      obtain ⟨rfl, hname, -⟩ := name?_parts hread
      have hfound : '\x60' ∉ found := hname.not_mem (by decide)
      split at h
      · next r hafter =>
        obtain ⟨rfl, rfl⟩ := Prod.mk.inj (Option.some.inj h)
        have hblanks : '\x60' ∉ after.takeWhile isBlank := fun hmem =>
          absurd (List.all_eq_true.1 List.all_takeWhile _ hmem) (by decide)
        have hmem : '\x60' ∈ after := by simpa [hfound] using hs
        rw [← List.takeWhile_append_dropWhile (p := isBlank) (l := after), hafter] at hmem
        simpa [hblanks] using hmem
      · cases h
    · cases h
  · cases h

/-- Else the element ends within the code, or not at all. -/
theorem closing?_of_not_pairsTags (hc : IsSpanCode c) (hname : IsTagName name)
    (h : ¬PairsTags name c) :
    closing? name false (aroundCode c ++ closeTagText name) = none ∨
      ∃ before rest, '\x60' ∉ before ∧ '\x60' ∈ rest ∧
        closing? name false (aroundCode c ++ closeTagText name) =
          some ("a \x60".toList ++ before, rest) := by
  cases hopen : openAfter? name ("\x60 b".toList ++ closeTagText name) 0 0 false c with
  | none =>
    obtain ⟨before, t, rest, hbefore, -, htag, hfound⟩ :=
      exists_of_openAfter?_eq_none hname hopen
    have htick : '\x60' ∉ before := fun h => hc.tick (by simp [hbefore, h])
    refine .inr ⟨before, rest, htick, tick_mem_of_closeTag? htag (by simp), ?_⟩
    rw [closing?_aroundCode hname, hfound]
    rfl
  | some count =>
    cases count with
    | zero => exact absurd hopen h
    | succ count =>
      -- An element that the code leaves open takes the closing tag after it.
      have hlast := closingIn?_close hname count []
      have hnone : closingIn? name (count + 1) 0 [] = none := by rw [closingIn?]
      rw [List.append_nil, hnone] at hlast
      rw [closing?_of_openAfter? hc hname hopen, hlast]
      exact .inl rfl

/-- An element with code in it, as it is written. -/
def elementAroundCode (name c : Text) : Text :=
  openTagText name [] ++ (aroundCode c ++ closeTagText name)

theorem openTag?_elementAroundCode (hname : IsTagName name) (c : Text) :
    openTag? (elementAroundCode name c) =
      some (⟨name, [], false⟩, aroundCode c ++ closeTagText name) := by
  have hpairs : ∀ a ∈ ([] : Pairs), IsAttribute a := fun a ha => absurd ha List.not_mem_nil
  exact openTag?_written hname hpairs List.nodup_nil _

/-- Without a closing tag, the opening one is dropped. -/
theorem ofTag?_elementAroundCode (hname : IsTagName name) (hcomponent : isComponent name = true)
    (c : Text) :
    Span.ofTag? (elementAroundCode name c) =
      some ((closing? name false (aroundCode c ++ closeTagText name)).elim
        (.hidden, aroundCode c ++ closeTagText name)
        fun found => (.element name [] found.1, found.2)) :=
  Outline.ofTag?_openTagText hname hcomponent _

/-- Within a line, the code is kept if the tags in it are paired. -/
theorem parseInline_element_iff (hc : IsSpanCode c) (hname : IsTagName name)
    (hcomponent : isComponent name = true) :
    parseInline (elementAroundCode name c) = [.element name [] (aroundCodeNodes c) false] ↔
      PairsTags name c := by
  have htag : Span.at? false (elementAroundCode name c) = _ :=
    ofTag?_elementAroundCode hname hcomponent c
  constructor
  · intro hparse
    by_contra hpairs
    rcases closing?_of_not_pairsTags hc hname hpairs with
      hnone | ⟨before, rest, htick, -, hfound⟩
    · -- Without its partner the opening tag is dropped, and the line begins with its first word.
      rw [hnone] at htag
      have hword : Span.at? false (aroundCode c ++ closeTagText name) = none :=
        at?_of_not_mark false (c := 'a') (by decide) _
      have hnodes : parseInline (elementAroundCode name c) =
          parseInline (aroundCode c ++ closeTagText name) :=
        (congrArg gather (pieces_of_at? htag)).trans (gather_append_gap [] _)
      rw [hnodes] at hparse
      exact absurd hparse (parseInline_ne_of_none hword fun t h => by cases h)
    · rw [hfound] at htag
      have hchildren := eq_of_parseInline htag rfl hparse
      exact parseInline_ne_of_open htick c (Node.element.inj hchildren).2.2.1
  · intro hpairs
    rw [closing?_of_pairsTags hc hname hpairs] at htag
    rw [← parseInline_aroundCode hc]
    exact parseInline_eq_singleton htag rfl

theorem lineNode?_ne_element {line : Text} {node : Node} (h : lineNode? line = some node)
    (name : Text) (attributes : Pairs) (children : List Node) (block : Bool) :
    node ≠ .element name attributes children block := by
  rintro rfl
  rw [lineNode?] at h
  split at h
  · cases h
  split at h
  · cases h
  split at h
  · cases h
  split at h
  · cases h
  · cases h

/-- A line that no larger block takes is no element. -/
theorem element_not_mem_blockNodes {s : Text} (hs : s ≠ [])
    (h : Block.next s = (Block.ofLine s, [])) (name : Text) (attributes : Pairs)
    (children : List Node) (block : Bool) :
    .element name attributes children block ∉ blockNodes s := by
  rw [blockNodes_of_next hs h, blockNodes_nil, List.append_nil, Block.ofLine]
  cases hnode : lineNode? s with
  | none => exact List.not_mem_nil
  | some node =>
    intro hmem
    exact lineNode?_ne_element hnode name attributes children block (List.mem_singleton.1 hmem).symm

theorem next_elementAroundCode (hname : IsTagName name) (hline : '\n' ∉ elementAroundCode name c) :
    Block.next (elementAroundCode name c) =
      (Block.element? (elementAroundCode name c)).getD
        (Block.ofLine (elementAroundCode name c), []) := by
  obtain ⟨hfirst, hafter⟩ := line_of_not_mem hline
  have hnext := Outline.next_openTagText hname [] (aroundCode c ++ closeTagText name)
  rwa [← elementAroundCode, hfirst, hafter] at hnext

theorem element?_elementAroundCode (hname : IsTagName name) (hcomponent : isComponent name = true)
    (hblock : name ∉ lineNames) (c : Text) :
    Block.element? (elementAroundCode name c) =
      match closing? name false (aroundCode c ++ closeTagText name) with
      | none => some (.hidden, Block.resume (aroundCode c ++ closeTagText name))
      | some (inside, rest) =>
        if !inside.contains '\n' && !restOfLineIsBlank rest then none
        else some (.element name [] inside, Block.resume rest) := by
  have hclose : closeTag? (elementAroundCode name c) = none :=
    Outline.closeTag?_openTagText hname [] _
  have hlines : ¬(lineNames.contains name || !isComponent name) = true := by
    simp [hblock, hcomponent]
  rw [Block.element?, hclose, openTag?_elementAroundCode hname]
  exact (if_neg hlines).trans rfl

theorem lineNode?_aroundCode (hc : IsSpanCode c) :
    lineNode? (aroundCode c) = some (.paragraph (aroundCodeNodes c)) := by
  have hend : trimEnd (aroundCode c) = aroundCode c :=
    dropEndWhile_of_getLast (getLast?_aroundCode c) (by decide)
  have hstatement : isStatement (aroundCode c) = false := by
    have hquoted : beforeQuotedEnd? (aroundCode c) = none :=
      beforeQuotedEnd?_of_getLast (getLast?_aroundCode c) (by decide) (by decide) (by decide)
    have hexport : afterWordAndBlank? "export".toList (aroundCode c) = none := rfl
    rw [isStatement, hquoted, hexport]
    rfl
  have hletter : BeginsWithLetter (aroundCode c) := beginsWithLetter_cons (c := 'a') (by decide) _
  rw [hletter.lineNode? hstatement, hend, parseInline_aroundCode hc]

theorem blank_of_line {s : Text} {d : Char} (hline : '\n' ∉ s) (hd : d ∈ s)
    (hblank : isBlank d = false) : restOfLineIsBlank s = false := by
  rw [restOfLineIsBlank, (line_of_not_mem hline).1]
  exact allBlank_of_mem hd hblank

theorem aroundCode_append_ne_nil (c s : Text) : aroundCode c ++ s ≠ [] :=
  List.cons_ne_nil _ _

theorem next_aroundCode {s : Text} (hline : '\n' ∉ aroundCode c ++ s) :
    Block.next (aroundCode c ++ s) = (Block.ofLine (aroundCode c ++ s), []) := by
  have hletter : BeginsWithLetter (aroundCode c ++ s) :=
    beginsWithLetter_cons (c := 'a') (by decide) _
  have hnext := hletter.next hline (.inl rfl)
  rwa [List.append_nil] at hnext

/-- The content of the element is one paragraph. -/
theorem children_aroundCode (hc : IsSpanCode c) (name : Text) (attributes : Pairs) :
    (Block.element name attributes (aroundCode c)).children = [.paragraph (aroundCodeNodes c)] := by
  have hline := newline_not_mem hc
  have hcut : cutAt? ['\n'] (aroundCode c) = none := by
    cases hcut : cutAt? ['\n'] (aroundCode c) with
    | none => rfl
    | some found =>
      rw [eq_append_of_cutAt? hcut] at hline
      exact absurd (by simp) hline
  have htrim : trim (aroundCode c) = aroundCode c :=
    dropEndWhile_of_getLast (getLast?_aroundCode c) (by decide)
  have hcontent : dedentContent (aroundCode c) = aroundCode c := by
    rw [dedentContent, hcut]
    exact htrim
  have hne := aroundCode_append_ne_nil c []
  have hnext := next_aroundCode (c := c) (s := []) (by rwa [List.append_nil])
  rw [List.append_nil] at hne hnext
  rw [Block.ofLine, lineNode?_aroundCode hc] at hnext
  rw [Block.children, Block.inside, hcontent, blockNodes_of_leaf hne hnext, blockNodes_nil]
  rfl

/-- What tags and code are free of, the element is free of. -/
theorem not_mem_elementAroundCode (hname : IsTagName name) {d : Char}
    (hreserved : d ∈ Outline.reserved) (hcode : d ∉ aroundCode c) :
    d ∉ elementAroundCode name c := by
  have hopen : d ∉ openTagText name [] :=
    Outline.not_mem_openTagText hname (by simp) hreserved (by simp)
  have hclose := Outline.not_mem_closeTagText hname hreserved
  intro h
  rcases List.mem_append.1 h with h | h
  · exact hopen h
  · exact (List.mem_append.1 h).elim hcode hclose

theorem parse_elementAroundCode (hc : IsSpanCode c) (hname : IsTagName name) :
    parse (elementAroundCode name c) = mergeBlanks (blockNodes (elementAroundCode name c)) := by
  have hcode : '\r' ∉ aroundCode c := by simp [aroundCode, hc.carriageReturn]
  have hreturn := not_mem_elementAroundCode hname (by decide) hcode
  rw [parse, normalizeNewlines_of_not_mem hreturn, parseBlocks]

/-- Where the tags in the code are not paired, no element is read as a block. -/
theorem element_not_mem_of_not_pairsTags (hc : IsSpanCode c) (hname : IsTagName name)
    (hcomponent : isComponent name = true) (hblock : name ∉ lineNames)
    (hpairs : ¬PairsTags name c) (children : List Node) :
    Node.element name [] children true ∉ blockNodes (elementAroundCode name c) := by
  have hline := not_mem_elementAroundCode hname (by decide) (newline_not_mem hc)
  have hrest : '\n' ∉ aroundCode c ++ closeTagText name := fun h =>
    hline (List.mem_append_right _ h)
  have hne : elementAroundCode name c ≠ [] := List.cons_ne_nil _ _
  have hnext := next_elementAroundCode hname hline
  rw [element?_elementAroundCode hname hcomponent hblock] at hnext
  rcases closing?_of_not_pairsTags hc hname hpairs with
    hnone | ⟨before, rest, htick, hend, hfound⟩
  · -- Without its partner the opening tag is dropped, and a line that begins with a word is left.
    have hresume : Block.resume (aroundCode c ++ closeTagText name) =
        aroundCode c ++ closeTagText name := by
      rw [Block.resume, blank_of_line hrest (d := 'a') (by simp [aroundCode]) (by decide)]
      rfl
    rw [hnone] at hnext
    simp only [hresume] at hnext
    rw [blockNodes_of_next hne hnext]
    exact element_not_mem_blockNodes (aroundCode_append_ne_nil c _) (next_aroundCode hrest) _ _ _ _
  · -- The line goes on after the end of the element, which is left to the reading of the line.
    obtain ⟨hbegins, hsuffix⟩ := parts_of_closingFrom? hfound
    have hinside : ("a \x60".toList ++ before).contains '\n' = false := by
      have hsubset : '\n' ∉ "a \x60".toList ++ before := fun h => hrest (hbegins.subset h)
      simpa using hsubset
    have hblank := blank_of_line (fun h => hrest (hsuffix.subset h)) hend (by decide)
    rw [hfound] at hnext
    simp only [hinside, hblank, Bool.not_false, Bool.and_self, ↓reduceIte] at hnext
    exact element_not_mem_blockNodes hne hnext _ _ _ _

/-- As a block, the code is kept if the tags in it are paired. -/
theorem parse_element_iff (hc : IsSpanCode c) (hname : IsTagName name)
    (hcomponent : isComponent name = true) (hblock : name ∉ lineNames) :
    parse (elementAroundCode name c) =
      [.element name [] [.paragraph (aroundCodeNodes c)] true] ↔ PairsTags name c := by
  rw [parse_elementAroundCode hc hname]
  constructor
  · intro hnodes
    by_contra hpairs
    have hmem : Node.element name [] [.paragraph (aroundCodeNodes c)] true ∈
        blockNodes (elementAroundCode name c) :=
      mem_of_mem_mergeBlanks (hnodes ▸ List.mem_singleton_self _)
    exact element_not_mem_of_not_pairsTags hc hname hcomponent hblock hpairs _ hmem
  · intro hpairs
    have hline := not_mem_elementAroundCode hname (by decide) (newline_not_mem hc)
    have hnext := next_elementAroundCode hname hline
    have hresume : Block.resume [] = [] := rfl
    have hblank : restOfLineIsBlank [] = true := rfl
    rw [element?_elementAroundCode hname hcomponent hblock,
      closing?_of_pairsTags hc hname hpairs] at hnext
    simp only [hblank, Bool.not_true, Bool.and_false, Bool.false_eq_true, ↓reduceIte, hresume]
      at hnext
    have hne : elementAroundCode name c ≠ [] := List.cons_ne_nil _ _
    rw [blockNodes_of_next hne hnext, children_aroundCode hc, blockNodes_nil]
    rfl

/-- Code between words inside strong text, emphasised text, a line element, the text of a link or a
block element is kept as it is exactly where nothing in it can be taken for the end of what is
around it: no two stars that follow no blank, no star, no tag of the element without its partner, no
bracket that is not part of an image. -/
theorem code_kept_iff (hc : IsSpanCode c) :
    (parseInline ("**".toList ++ (aroundCode c ++ "**".toList)) = [.strong (aroundCodeNodes c)] ↔
        ¬HoldsStrongMark false c) ∧
      (parseInline ("*".toList ++ (aroundCode c ++ "*".toList)) = [.emph (aroundCodeNodes c)] ↔
        '*' ∉ c) ∧
      (parseInline ("<b>".toList ++ (aroundCode c ++ "</b>".toList)) =
          [.element "b".toList [] (aroundCodeNodes c) false] ↔
        PairsTags "b".toList c) ∧
      (parseInline ("[".toList ++ (aroundCode c ++ "](/u)".toList)) =
          [.link (aroundCode c) "/u".toList] ↔
        IsLinkText c) ∧
      (parse ("<Note>".toList ++ (aroundCode c ++ "</Note>".toList)) =
          [.element "Note".toList [] [.paragraph (aroundCodeNodes c)] true] ↔
        PairsTags "Note".toList c) := by
  have hb : IsTagName "b".toList := ⟨by decide, by decide⟩
  have hnote : IsTagName "Note".toList := ⟨by decide, by decide⟩
  refine ⟨parseInline_strong_iff hc, parseInline_emph_iff hc, ?_, parseInline_link_iff c, ?_⟩
  · exact parseInline_element_iff hc hb (by decide)
  · exact parse_element_iff hc hnote (by decide) (by decide)

/-- An expression with a bracket that opens no tag. -/
theorem code_kept_iff_comparison :
    IsSpanCode "i < n".toList ∧
      parseInline "**a \x60i < n\x60 b**".toList = [.strong (aroundCodeNodes "i < n".toList)] ∧
      parse "<Note>a \x60i < n\x60 b</Note>".toList =
        [.element "Note".toList [] [.paragraph (aroundCodeNodes "i < n".toList)] true] := by
  have hc : IsSpanCode "i < n".toList :=
    ⟨by decide, by decide, by decide, by decide, by decide, by decide⟩
  obtain ⟨hstrong, -, -, -, hblock⟩ := code_kept_iff hc
  refine ⟨hc, hstrong.2 ?_, hblock.2 ?_⟩
  · rintro ⟨before, after, hmark, -⟩
    have hstar : '*' ∈ "i < n".toList := hmark ▸ by simp [strongMark]
    exact absurd hstar (by decide)
  · rw [PairsTags]
    with_unfolding_all rfl

/-- Two stars in the code end the strong text around it. -/
theorem code_not_kept_of_stars :
    IsSpanCode "x**y".toList ∧ parseInline "**a \x60x**y\x60 b**".toList ≠
      [.strong [.text "a ".toList, .code "x**y".toList, .text " b".toList]] := by
  have hc : IsSpanCode "x**y".toList :=
    ⟨by decide, by decide, by decide, by decide, by decide, by decide⟩
  refine ⟨hc, fun h => (parseInline_strong_iff hc).1 h ?_⟩
  exact ⟨['x'], ['y'], rfl, by decide⟩

end Bindery.Markup
