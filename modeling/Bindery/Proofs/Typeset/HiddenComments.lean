import Bindery.Packages.Lexers
import Bindery.Proofs.Markup.ExpressionComment
import Bindery.Typeset.Node

namespace Bindery.Typeset

open Text Markup

variable {w c d : Text}

/-- Two pages that differ in the text of a comment only are set alike, the comment standing at the
end of the words of a line, at the top of a page or in an element. After words the comments stay on
the line, and in an element the tags of its name are paired in each of them; fenced regions that
they open end in them. -/
theorem setPage_commentText_eq (context : Context) (hw : IsLetters w) (hc : IsHiddenAfter w c)
    (hd : IsHiddenAfter w d) :
    (∀ rest, setPage context (w ++ (commentText c ++ '\n' :: rest)) =
        setPage context (w ++ (commentText d ++ '\n' :: rest))) ∧
      ∀ name body, IsTagName name → isComponent name = true → name ∉ lineNames → IsProse body →
        PairsTagsIn name body (normalizeNewlines c) →
        PairsTagsIn name body (normalizeNewlines d) →
        setPage context (openTagText name [] ++ (commentContent w c body ++ closeTagText name)) =
          setPage context
            (openTagText name [] ++ (commentContent w d body ++ closeTagText name)) := by
  constructor
  · intro rest
    rw [setPage, setPage, parse_commentText hw hc, parse_commentText hw hd]
  · intro name body hname hcomponent hblock hbody hpairs hpairs'
    rw [setPage, setPage, parse_element_commentContent hname hcomponent hblock hw hbody hc hpairs,
      parse_element_commentContent hname hcomponent hblock hw hbody hd hpairs']

/-- A note that has been put in a comment, with a tag in fenced code in it. -/
theorem setPage_commentText_eq_note :
    setPage ⟨none, []⟩ ("\x7b/*\n<Note>\n\x60\x60\x60\n</Note>\n\x60\x60\x60\n".toList ++
          "</Note>*/\x7d\nbody".toList) =
        setPage ⟨none, []⟩ "\x7b/**/\x7d\nbody".toList ∧
      setPage ⟨none, []⟩ ("<Note>\n\x7b/*\n<Note>\n\x60\x60\x60\n</Note>\n\x60\x60\x60\n".toList ++
          "</Note>*/\x7d\nbody\n</Note>".toList) =
        setPage ⟨none, []⟩ "<Note>\n\x7b/**/\x7d\nbody\n</Note>".toList := by
  have hw : IsLetters [] := rfl
  have hc : IsHiddenAfter [] "\n<Note>\n\x60\x60\x60\n</Note>\n\x60\x60\x60\n</Note>".toList :=
    ⟨fun h => absurd (h.subset List.mem_cons_self) (by decide), .inl rfl⟩
  have hd : IsHiddenAfter [] [] :=
    ⟨fun h => absurd (h.subset List.mem_cons_self) (by decide), .inl rfl⟩
  have hname : IsTagName "Note".toList := ⟨by decide, by decide⟩
  have hbody : IsProse "body".toList := ⟨by decide, by decide, by decide, by decide⟩
  have hpairs : PairsTagsIn "Note".toList "body".toList
      (normalizeNewlines "\n<Note>\n\x60\x60\x60\n</Note>\n\x60\x60\x60\n</Note>".toList) := by
    rw [PairsTagsIn]
    with_unfolding_all rfl
  have hpairs' : PairsTagsIn "Note".toList "body".toList (normalizeNewlines []) := rfl
  obtain ⟨htop, hinside⟩ := setPage_commentText_eq ⟨none, []⟩ hw hc hd
  refine ⟨htop "body".toList, ?_⟩
  exact hinside "Note".toList "body".toList hname (by decide) (by decide) hbody hpairs hpairs'

/-- A comment that goes on over the next line is prose behind words, and in an element a closing
tag in it ends the element. -/
theorem exists_commentText_shown :
    setPage ⟨none, []⟩ "a\x7b/*\n*/\x7d\nbody".toList ≠
        setPage ⟨none, []⟩ "a\x7b/**/\x7d\nbody".toList ∧
      setPage ⟨none, []⟩ "<Note>\n\x7b/*</Note>*/\x7d\nbody\n</Note>".toList ≠
        setPage ⟨none, []⟩ "<Note>\n\x7b/**/\x7d\nbody\n</Note>".toList := by
  have hprose : setPage ⟨none, []⟩ "a\x7b/*\n*/\x7d\nbody".toList =
      .ok "a\x7b\\/\\*\n\\*/\x7d\nbody".toList := by
    have hparse : parse "a\x7b/*\n*/\x7d\nbody".toList =
        [.paragraph [.text "a\x7b/*".toList], .paragraph [.text "*/\x7d".toList],
          .paragraph [.text "body".toList]] := by
      with_unfolding_all rfl
    rw [setPage, hparse]
    with_unfolding_all rfl
  have hhidden : setPage ⟨none, []⟩ "a\x7b/**/\x7d\nbody".toList = .ok "a\nbody".toList := by
    have hparse : parse "a\x7b/**/\x7d\nbody".toList =
        [.paragraph [.text "a".toList], .paragraph [.text "body".toList]] := by
      with_unfolding_all rfl
    rw [setPage, hparse]
    with_unfolding_all rfl
  have hended : setPage ⟨none, []⟩ "<Note>\n\x7b/*</Note>*/\x7d\nbody\n</Note>".toList =
      .ok "#note(title: \"Note\")[\n\x7b\\/\\*\n]\n\n\\*/\x7d\nbody".toList := by
    have hparse : parse "<Note>\n\x7b/*</Note>*/\x7d\nbody\n</Note>".toList =
        [.element "Note".toList [] [.blank, .paragraph [.text "\x7b/*".toList]] true,
          .paragraph [.text "*/\x7d".toList], .paragraph [.text "body".toList]] := by
      with_unfolding_all rfl
    rw [setPage, hparse]
    with_unfolding_all rfl
  have hinside : setPage ⟨none, []⟩ "<Note>\n\x7b/**/\x7d\nbody\n</Note>".toList =
      .ok "#note(title: \"Note\")[\nbody\n]".toList := by
    have hparse : parse "<Note>\n\x7b/**/\x7d\nbody\n</Note>".toList =
        [.element "Note".toList [] [.blank, .paragraph [.text "body".toList]] true] := by
      with_unfolding_all rfl
    rw [setPage, hparse]
    with_unfolding_all rfl
  rw [hprose, hhidden, hended, hinside]
  have htexts : "a\x7b\\/\\*\n\\*/\x7d\nbody".toList ≠ "a\nbody".toList ∧
      "#note(title: \"Note\")[\n\x7b\\/\\*\n]\n\n\\*/\x7d\nbody".toList ≠
        "#note(title: \"Note\")[\nbody\n]".toList := by
    decide
  exact ⟨fun h => htexts.1 (Except.ok.inj h), fun h => htexts.2 (Except.ok.inj h)⟩

end Bindery.Typeset
