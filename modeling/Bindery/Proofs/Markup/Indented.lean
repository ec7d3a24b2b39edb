import Bindery.Proofs.Markup.FencedRegion
import Bindery.Proofs.Markup.RoundTrip

namespace Bindery.Markup

open Text

variable {name after b indent : Text}

/-- Where no tag of the name begins, the count of open elements stays as it is. -/
theorem openAfter?_of_no_tag {count fenced : Nat} {lineStart : Bool} {s : Text}
    (h : ∀ t, t <:+ s → t ≠ [] →
      closesTag name (t ++ after) = false ∧ opensTag name (t ++ after) = false) :
    openAfter? name after count fenced lineStart s = some count := by
  induction s generalizing fenced lineStart with
  | nil => rfl
  | cons c s ih =>
    obtain ⟨hcloses, hopens⟩ := h (c :: s) (List.suffix_refl _) (List.cons_ne_nil c s)
    have hlater (fenced : Nat) (lineStart : Bool) :
        openAfter? name after count fenced lineStart s = some count :=
      ih fun t ht => h t (ht.trans (List.suffix_cons c s))
    rw [openAfter?]
    simp only [hcloses, hopens, hlater, Bool.false_eq_true, ↓reduceIte, ite_self]

theorem prefix_of_closesTag {s : Text} (h : closesTag name s = true) :
    '<' :: '/' :: name <+: s := by
  obtain ⟨rest, hread⟩ := closesTag_iff.1 h
  obtain ⟨t, tail, rfl, hname⟩ := exists_name?_of_closeTag? hread
  obtain ⟨rfl, -, -⟩ := name?_parts hname
  exact ⟨tail, rfl⟩

theorem prefix_of_opensTag {s : Text} (h : opensTag name s = true) : '<' :: name <+: s := by
  obtain ⟨tag, rest, hread, rfl, -⟩ := opensTag_iff.1 h
  obtain ⟨t, tail, rfl, hname⟩ := exists_name?_of_openTag? hread
  obtain ⟨rfl, -, -⟩ := name?_parts hname
  exact ⟨tail, rfl⟩

/-- Neither an opening nor a closing tag of the name is begun in the text. -/
structure NoTagOf (name s : Text) : Prop where
  opening : ¬('<' :: name <:+: s)
  closing : ¬('<' :: '/' :: name <:+: s)

/-- A word without a newline that begins in whole lines ends in them. -/
theorem infix_of_prefix_of_suffix {word s t : Text} (hword : '\n' ∉ word)
    (ht : t <:+ s ++ ['\n']) (hne : t ≠ []) (h : word <+: t ++ after) :
    word <:+: s ++ ['\n'] := by
  obtain ⟨u, rfl, hu⟩ := (List.suffix_concat_iff.1 ht).resolve_left hne
  rw [List.append_assoc, List.singleton_append] at h
  have hlines : word <+: u := prefix_of_prefix_append_cons hword h
  exact (hlines.isInfix.trans hu.isInfix).trans (List.prefix_append s _).isInfix

/-- An element around whole lines without such tags ends at the closing tag that follows. -/
theorem closing?_of_noTagOf (hname : IsTagName name) {s : Text} (hs : NoTagOf name (s ++ ['\n'])) :
    closing? name false (s ++ ['\n'] ++ closeTagText name) = some (s ++ ['\n'], []) := by
  have hnewline : '\n' ∉ name := hname.not_mem (by decide)
  have hfree : Unfenced (closeTagText name) :=
    Outline.unfenced_of_not_mem (Outline.not_mem_closeTagText hname (by decide))
      (Outline.not_mem_closeTagText hname (by decide))
  have hcount : openAfter? name (closeTagText name) 0 0 false (s ++ ['\n']) = some 0 := by
    refine openAfter?_of_no_tag fun t ht hne => ⟨?_, ?_⟩
    · rw [← Bool.not_eq_true]
      intro h
      exact hs.closing (infix_of_prefix_of_suffix (by simp [hnewline]) ht hne
        (prefix_of_closesTag h))
    · rw [← Bool.not_eq_true]
      intro h
      exact hs.opening (infix_of_prefix_of_suffix (by simp [hnewline]) ht hne
        (prefix_of_opensTag h))
  have hend := closingIn?_end hname []
  rw [List.append_nil] at hend
  rw [closing?, closingFrom?_of_openAfter? hname hcount,
    fencedAfter_eq_zero hfree rfl (Nat.zero_le _), closingFrom?_of_unfenced hfree, hend, prepend,
    Option.map_some, Prod.map_apply, List.append_nil, id_eq]

/-- The text with indentation put before each of its lines. -/
def indented (indent s : Text) : Text :=
  joinWith ['\n'] ((lines s).map (indent ++ ·))

/-- What stands between the tags of an element whose content has lines of its own. -/
def ownLines (b : Text) : Text :=
  '\n' :: (b ++ ['\n'])

theorem indented_append_newline (indent b : Text) :
    indented indent b ++ ['\n'] = endLines ((lines b).map (indent ++ ·)) := by
  rw [indented, endLines_eq_joinWith (by simp [lines, splitOn_ne_nil])]

theorem append_newline_eq_endLines (b : Text) : b ++ ['\n'] = endLines (lines b) := by
  have hb : joinWith ['\n'] (lines b) = b := joinWith_splitOn '\n' b
  have hlines : lines b ≠ [] := splitOn_ne_nil '\n' b
  rw [endLines_eq_joinWith hlines, hb]

/-- Indentation that is put before all lines is removed with the rest of it. -/
theorem dedent_indented (hindent : indent.all isGap = true) (b : Text) :
    dedent (indented indent b ++ ['\n']) = dedent (b ++ ['\n']) := by
  rw [indented_append_newline, append_newline_eq_endLines]
  exact dedent_endLines_map hindent fun l hl => not_mem_of_mem_splitOn hl

theorem mem_of_mem_indented {c : Char} (hc : c ≠ '\n') (hindent : c ∉ indent)
    (h : c ∈ indented indent b) : c ∈ b := by
  rcases mem_of_mem_joinWith h with h | ⟨part, hpart, h⟩
  · exact absurd (List.mem_singleton.1 h) hc
  · obtain ⟨l, hl, rfl⟩ := List.mem_map.1 hpart
    exact subset_of_mem_splitOn hl ((List.mem_append.1 h).resolve_left hindent)

/-- What begins with a character that is not in a text stands behind the text. -/
theorem infix_of_infix_append {c : Char} {word s t : Text} (hc : c ∉ s)
    (h : c :: word <:+: s ++ t) : c :: word <:+: t := by
  induction s with
  | nil => exact h
  | cons d s ih =>
    rw [List.mem_cons, not_or] at hc
    rcases List.infix_cons_iff.1 h with hstart | hlater
    · exact absurd (List.cons_prefix_cons.1 hstart).1 hc.1
    · exact ih hc.2 hlater

/-- A word that begins with no indentation stands in an indented text only where it did before. -/
theorem infix_of_infix_indented {c : Char} {word : Text} (hword : '\n' ∉ c :: word)
    (hindent : c ∉ indent) (h : c :: word <:+: indented indent b) : c :: word <:+: b := by
  obtain ⟨part, hpart, h⟩ := exists_infix_of_infix_joinWith (List.cons_ne_nil c word) hword h
  obtain ⟨l, hl, rfl⟩ := List.mem_map.1 hpart
  exact (infix_of_infix_append hindent h).trans (infix_of_mem_splitOn hl)

theorem NoTagOf.indented (h : NoTagOf name b) (hname : '\n' ∉ name) (hindent : '<' ∉ indent) :
    NoTagOf name (indented indent b) where
  opening hopening := h.opening (infix_of_infix_indented (by simp [hname]) hindent hopening)
  closing hclosing := h.closing (infix_of_infix_indented (by simp [hname]) hindent hclosing)

theorem NoTagOf.ownLines (h : NoTagOf name b) (hname : '\n' ∉ name) :
    NoTagOf name (ownLines b) := by
  have hlines : Markup.ownLines b = joinWith ['\n'] [[], b, []] := by
    simp [Markup.ownLines, joinWith]
  have hpart {word : Text} (hword : '\n' ∉ '<' :: word)
      (hfound : '<' :: word <:+: Markup.ownLines b) : '<' :: word <:+: b := by
    rw [hlines] at hfound
    obtain ⟨part, hpart, hfound⟩ :=
      exists_infix_of_infix_joinWith (List.cons_ne_nil _ word) hword hfound
    simp only [List.mem_cons, List.not_mem_nil, or_false] at hpart
    rcases hpart with rfl | hpart | rfl
    · simp at hfound
    · exact hpart ▸ hfound
    · simp at hfound
  exact ⟨fun hopening => h.opening (hpart (by simp [hname]) hopening),
    fun hclosing => h.closing (hpart (by simp [hname]) hclosing)⟩

/-- An element around content on lines of its own. -/
def elementText (name b : Text) : Text :=
  openTagText name [] ++ (ownLines b ++ closeTagText name)

/-- Where the search finds its own closing tag, the element is read with its content, and this
    without the indentation that its lines share. -/
theorem parse_elementText_of_closing? (hname : IsTagName name)
    (hcomponent : isComponent name = true) (hblock : name ∉ lineNames) (hreturn : '\r' ∉ b)
    (hclose : closing? name false (ownLines b ++ closeTagText name) = some (ownLines b, [])) :
    parse (elementText name b) =
      [.element name [] (mergeBlanks (.blank :: blockNodes (dedent (b ++ ['\n'])))) true] := by
  have hattributes : ∀ a ∈ ([] : Pairs), IsAttribute a := fun a ha => absurd ha List.not_mem_nil
  have helement := Outline.element?_openTagText hname hcomponent hblock hattributes List.nodup_nil
    hclose List.mem_cons_self
  have hresume : Block.resume [] = [] := rfl
  have hnext := Outline.next_openTagText hname [] (ownLines b ++ closeTagText name)
  rw [helement, Option.getD_some, hresume] at hnext
  have hnormal : normalizeNewlines (elementText name b) = elementText name b := by
    have hopen := Outline.not_mem_openTagText hname hattributes (c := '\r') (by decide) (by simp)
    have hclose := Outline.not_mem_closeTagText hname (c := '\r') (by decide)
    exact normalizeNewlines_of_not_mem (by simp [elementText, ownLines, hopen, hclose, hreturn])
  have hne : openTagText name [] ++ (ownLines b ++ closeTagText name) ≠ [] := List.cons_ne_nil _ _
  rw [parse, hnormal, parseBlocks, elementText, blockNodes_of_next hne hnext,
    blockNodes_nil, Block.children, Block.inside, ownLines, dedentContent_newline,
    blockNodes_newline]
  rfl

/-- So is an element around content without tags of its name. -/
theorem parse_elementText (hname : IsTagName name) (hcomponent : isComponent name = true)
    (hblock : name ∉ lineNames) (hreturn : '\r' ∉ b) (hb : NoTagOf name b) :
    parse (elementText name b) =
      [.element name [] (mergeBlanks (.blank :: blockNodes (dedent (b ++ ['\n'])))) true] := by
  have hcontent : NoTagOf name (ownLines b) := hb.ownLines (hname.not_mem (by decide))
  exact parse_elementText_of_closing? hname hcomponent hblock hreturn
    (closing?_of_noTagOf (s := '\n' :: b) hname hcontent)

/-- Indentation of the content of an element does not matter. However many spaces are put before
each of its lines, blank lines and lines of code included, the page is read as the same element:
one around the nodes of the content without the indentation that its lines share. -/
theorem parse_indented (hname : IsTagName name) (hcomponent : isComponent name = true)
    (hblock : name ∉ lineNames) (hreturn : '\r' ∉ b) (hb : NoTagOf name b) (k : Nat) :
    parse (elementText name (indented (List.replicate k ' ') b)) = parse (elementText name b) ∧
      parse (elementText name b) =
        [.element name [] (mergeBlanks (.blank :: blockNodes (dedent (b ++ ['\n'])))) true] := by
  have hgaps : (List.replicate k ' ').all isGap = true := by simp [isGap]
  have hspaces {c : Char} (hc : c ≠ ' ') : c ∉ List.replicate k ' ' := fun h =>
    hc (List.eq_of_mem_replicate h)
  have hreturn' : '\r' ∉ indented (List.replicate k ' ') b := fun h =>
    hreturn (mem_of_mem_indented (by decide) (hspaces (by decide)) h)
  have hindented := parse_elementText hname hcomponent hblock hreturn'
    (hb.indented (hname.not_mem (by decide)) (hspaces (by decide)))
  have hflush := parse_elementText hname hcomponent hblock hreturn hb
  rw [dedent_indented hgaps] at hindented
  exact ⟨hindented.trans hflush.symm, hflush⟩

/-- An element whose tag goes over two lines, indented by a tab, and an entry of a list, each line
    with three more spaces. -/
theorem parse_indented_three :
    parse "<Note>\n   \t<Tip\n     title=\"x\">\n   \tb\n   \t</Tip>\n     - a\n</Note>".toList =
        parse "<Note>\n\t<Tip\n  title=\"x\">\n\tb\n\t</Tip>\n  - a\n</Note>".toList ∧
      parse "<Note>\n\t<Tip\n  title=\"x\">\n\tb\n\t</Tip>\n  - a\n</Note>".toList =
        [.element "Note".toList []
          [.blank,
            .element "Tip".toList [("title".toList, "x".toList)]
              [.blank, .paragraph [.text "b".toList]] true,
            .listItem 2 false [.text "a".toList]] true] := by
  have hname : IsTagName "Note".toList := ⟨by decide, by decide⟩
  have hletter : 'N' ∉ "\t<Tip\n  title=\"x\">\n\tb\n\t</Tip>\n  - a".toList := by decide
  have hb : NoTagOf "Note".toList "\t<Tip\n  title=\"x\">\n\tb\n\t</Tip>\n  - a".toList :=
    ⟨fun h => hletter (h.subset (by decide)), fun h => hletter (h.subset (by decide))⟩
  obtain ⟨hindented, hread⟩ := parse_indented hname (by decide) (by decide) (by decide) hb 3
  refine ⟨hindented, hread.trans ?_⟩
  with_unfolding_all rfl

end Bindery.Markup
