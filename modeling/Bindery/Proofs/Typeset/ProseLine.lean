import Bindery.Packages.Lexers
import Bindery.Proofs.Markup.PlainLine
import Bindery.Proofs.Typeset.Layout
import Bindery.Proofs.Typeset.PlainText
import Bindery.Proofs.Typst.LineMarks

namespace Bindery.Typeset

open Text Typst Markup

theorem head?_escape_ne (s : Text) : (escape s).head? ≠ some '#' := by
  intro h
  rcases head?_escape s '#' h with heq | ⟨-, hspecial⟩
  · exact absurd heq (by decide)
  · exact absurd hspecial (by decide)

/-- Nothing comes between pieces of prose. -/
theorem joinAfter_escape {previous : Text} (hprevious : previous.head? ≠ some '#')
    (texts : List Text) : joinAfter previous (texts.map escape) = (texts.map escape).flatten := by
  induction texts generalizing previous with
  | nil => rfl
  | cons t texts ih =>
    rw [List.map_cons, joinAfter, List.flatten_cons]
    split
    · next hempty => rw [ih hprevious, List.isEmpty_iff.1 hempty, List.nil_append]
    · have hdetach : detach previous (escape t) = escape t := by
        rw [detach, if_neg (by simp [hprevious])]
      simp only [hdetach, ih (head?_escape_ne t)]

theorem setNodes_texts (env : Env) (mode : Mode) (texts : List Text) :
    setNodes env .line mode (texts.map .text) = .ok (texts.map escape) := by
  induction texts with
  | nil => rfl
  | cons t texts ih =>
    rw [List.map_cons, setNodes, setNode, ih]
    rfl

theorem plainTexts_texts (texts : List Text) : plainTexts (texts.map .text) = texts.flatten := by
  rw [plainTexts_eq_flatten, List.map_map]
  exact congrArg List.flatten (List.map_id'' (fun t => rfl) texts)

theorem exists_texts {children : List Node} (h : ∀ n ∈ children, ∃ t, n = .text t) :
    ∃ texts : List Text, children = texts.map .text := by
  induction children with
  | nil => exact ⟨[], rfl⟩
  | cons node children ih =>
    obtain ⟨⟨t, rfl⟩, hlater⟩ := List.forall_mem_cons.1 h
    obtain ⟨texts, rfl⟩ := ih hlater
    exact ⟨t :: texts, rfl⟩

/-- A paragraph alone on its page is what the page is set as. -/
theorem setPage_paragraph {context : Context} {s : Text} {children : List Node} {texts : List Text}
    (hparse : parse s = [.paragraph children])
    (htexts : setNodes context.env .line .full children = .ok texts) :
    setPage context s = .ok (if allBlank (join texts) then [] else join texts) := by
  have hset : setNodes context.env .block .full [.paragraph children] = .ok [join texts] := by
    rw [setNodes, setNode, onlyAmongBlocks, htexts]
    rfl
  have hlayout : layout [.chunk (join texts) (standsAlone (.paragraph children))] =
      if allBlank (join texts) then [] else join texts := by
    split
    · next hblank => exact layout_of_allBlank hblank _ []
    · next hshown =>
      rw [layout_of_shown (by simpa using hshown)]
      exact List.append_nil _
  rw [setPage, setBlocks, hparse, hset, ← hlayout]
  rfl

theorem exists_setPage_paragraph (context : Context) {s : Text} {children : List Node}
    (hparse : parse s = [.paragraph children]) (hprose : ∀ n ∈ children, ∃ t, n = .text t) :
    ∃ out, setPage context s = .ok out ∧ lineMark? out = lineMark? (plainTexts children) := by
  obtain ⟨texts, rfl⟩ := exists_texts hprose
  have hbody : join (texts.map escape) = (texts.map escape).flatten :=
    joinAfter_escape (by simp) texts
  refine ⟨_, setPage_paragraph hparse (setNodes_texts context.env .full texts), ?_⟩
  rw [hbody, plainTexts_texts, ← (escaped_flatten texts).lineMark?_eq]
  split
  · next hblank => rw [lineMark?_of_allBlank hblank, lineMark?_of_allBlank rfl]
  · rfl

/-- The marker of an entry of a list, as it is written. -/
theorem exists_listMarker? {c : Char} {s after : Text}
    (hc : markOf? c = some .bullet ∨ markOf? c = some .numbered)
    (h : afterMark? c s = some after) (rest : Text) :
    ∃ ordered, listMarker? (c :: (s ++ rest)) = some (ordered, after ++ rest) := by
  have hequals : ¬(c == '=') = true := by
    intro heq
    rw [eq_of_beq heq] at hc
    exact absurd hc (by decide)
  rw [afterMark?, if_neg hequals] at h
  rw [listMarker?]
  split at h
  · next hdigit =>
    have hafter := eq_append_of_afterStart? h
    have hdrop : (s ++ rest).dropWhile isDigit = '.' :: (after ++ rest) := by
      rw [List.dropWhile_append, hafter]
      rfl
    have hmark : (c == '-' || c == '*' || c == '+') = false := by
      rw [← Bool.not_eq_true]
      intro hmark
      simp only [Bool.or_eq_true, beq_iff_eq] at hmark
      rcases hmark with (rfl | rfl) | rfl <;> exact absurd hdigit (by decide)
    simp [hmark, hdigit, hdrop]
  · next hdigit =>
    cases h
    have hmark : c = '-' ∨ c = '+' := by
      by_contra hother
      rw [not_or] at hother
      have hmark : markOf? c = if c == '/' then some .term else none := by
        simp [markOf?, hequals, hother, hdigit]
      rw [hmark] at hc
      split at hc <;> simp at hc
    rcases hmark with rfl | rfl
    · exact ⟨false, rfl⟩
    · exact ⟨false, rfl⟩

/-- A line that is no entry of a list begins with no marker of one, if its blanks are all spaces and
    tabs. -/
theorem lineMark?_of_listItem? {s : Text} (hitem : listItem? s = none)
    (hblanks : ∀ c ∈ s, isBlank c = true → isGap c = true) :
    lineMark? (trimEnd s) ≠ some .bullet ∧ lineMark? (trimEnd s) ≠ some .numbered := by
  rw [← not_or]
  intro hmark
  obtain ⟨rest, hrest⟩ : trimEnd s <+: s := prefix_dropEndWhile isBlank s
  rw [lineMark?] at hmark
  cases hdrop : (trimEnd s).dropWhile isBlank with
  | nil => simp [hdrop] at hmark
  | cons c t =>
    simp only [hdrop] at hmark
    split at hmark
    · next hafter =>
      obtain ⟨after, hafter, hblank⟩ := (Option.any_eq_true _ _).1 hafter
      obtain ⟨b, hb, hblank⟩ := (Option.any_eq_true _ _).1 hblank
      obtain ⟨ordered, hmarker⟩ := exists_listMarker? hmark hafter rest
      have hend : after <:+ trimEnd s :=
        ((suffix_of_afterMark? hafter).trans (List.suffix_cons c t)).trans
          (hdrop ▸ List.dropWhile_suffix isBlank)
      have hmem : ∀ d ∈ after ++ rest, d ∈ s := fun d hd => by
        rw [← hrest, List.mem_append]
        exact (List.mem_append.1 hd).imp_left (hend.subset ·)
      have hstart : s.dropWhile isGap = c :: (t ++ rest) := by
        rw [dropWhile_isGap hblanks, ← hrest, List.dropWhile_append, hdrop]
        rfl
      have hgap : (after ++ rest).head?.any isGap = true := by
        obtain ⟨later, rfl⟩ := List.head?_eq_some_iff.1 hb
        exact hblanks b (hmem b List.mem_cons_self) hblank
      have hshown : ∃ d ∈ after ++ rest, isBlank d = false := by
        have hne : after ≠ [] := List.ne_nil_of_mem (List.mem_of_head? hb)
        obtain ⟨d, hd⟩ := Option.ne_none_iff_exists'.1 (mt List.getLast?_eq_none_iff.1 hne)
        obtain ⟨before, hbefore⟩ := hend
        have hlast := getLast?_dropEndWhile isBlank s
        rw [← trimEnd, ← hbefore, List.getLast?_append, hd] at hlast
        exact ⟨d, List.mem_append_left rest (List.mem_of_getLast? hd), hlast⟩
      exact listItem?_ne_none (hstart ▸ hmarker) hgap hshown
        (fun d hd => hblanks d (hmem d hd)) hitem
    · simp at hmark

theorem plainTexts_of_not_mark {s : Text} (hmarks : s.any isSpanMark = false) :
    plainTexts (parseInline s) = s := by
  rw [parseInline, pieces_of_not_mark false hmarks, gather_chars, consText]
  split
  · next hempty => exact (List.isEmpty_iff.1 hempty).symm
  · simp [plainTexts, plainText]

/-- A page that is one paragraph of text alone is set, as a line that Typst reads by the mark which
the text begins with: a heading, an entry of a list or a term. Escaping changes nothing about that.
Where the line has no escapes, tags or other constructs, and no blanks but spaces and tabs, it is at
least no entry of a list, since those are found first. -/
theorem lineMark?_of_setPage (context : Context) {s : Text} {children : List Node}
    (hparse : parse s = [.paragraph children]) (hprose : ∀ n ∈ children, ∃ t, n = .text t) :
    ∃ out, setPage context s = .ok out ∧ lineMark? out = lineMark? (plainTexts children) ∧
      (OneLine s → s.any isSpanMark = false → (∀ c ∈ s, isBlank c = true → isGap c = true) →
        lineMark? out ≠ some .bullet ∧ lineMark? out ≠ some .numbered) := by
  obtain ⟨out, hout, hmark⟩ := exists_setPage_paragraph context hparse hprose
  refine ⟨out, hout, hmark, fun hline hmarks hblanks => ?_⟩
  obtain ⟨hitem, rfl⟩ := parts_of_lineNode? (lineNode?_of_parse hline hmarks hparse)
  have hkept : (trimEnd s).any isSpanMark = false := by
    rw [List.any_eq_false] at hmarks ⊢
    exact fun c hc => hmarks c ((prefix_dropEndWhile isBlank s).subset hc)
  rw [hmark, plainTexts_of_not_mark hkept]
  exact lineMark?_of_listItem? hitem hblanks

/-- A sum is read as prose. -/
theorem lineMark?_of_setPage_sum :
    ∃ out, setPage ⟨none, []⟩ "1 + 2".toList = .ok out ∧ lineMark? out = none ∧
      lineMark? out ≠ some .numbered := by
  have hparse : parse "1 + 2".toList = [.paragraph [.text "1 + 2".toList]] := by
    with_unfolding_all rfl
  obtain ⟨out, hout, hmark, hlist⟩ := lineMark?_of_setPage ⟨none, []⟩ hparse (by simp)
  exact ⟨out, hout, hmark.trans (by decide),
    (hlist ⟨by decide, by decide⟩ (by decide) (by simp [isBlank, isGap])).2⟩

/-- A line that begins with an equals sign is set as a heading, and one that begins with a hyphen
    after a backslash as an entry of a list, though both are read as prose. -/
theorem lineMark?_of_equals_and_hyphen :
    (parse "= a".toList = [.paragraph [.text "= a".toList]] ∧
      setPage ⟨none, []⟩ "= a".toList = .ok "= a".toList ∧
      lineMark? "= a".toList = some .heading) ∧
    parse "\\- a".toList = [.paragraph [.text "- a".toList]] ∧
      setPage ⟨none, []⟩ "\\- a".toList = .ok "- a".toList ∧
      lineMark? "- a".toList = some .bullet := by
  have hequals : parse "= a".toList = [.paragraph [.text "= a".toList]] := by
    with_unfolding_all rfl
  have hhyphen : parse "\\- a".toList = [.paragraph [.text "- a".toList]] := by
    with_unfolding_all rfl
  have hset (t : Text) := setNodes_texts (Context.env ⟨none, []⟩) .full [t]
  exact ⟨⟨hequals, setPage_paragraph hequals (hset _), by decide⟩,
    hhyphen, setPage_paragraph hhyphen (hset _), by decide⟩

end Bindery.Typeset
