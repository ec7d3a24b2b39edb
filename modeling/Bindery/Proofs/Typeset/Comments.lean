import Bindery.Proofs.Packages.Lexers
import Bindery.Proofs.Typeset.Lines

namespace Bindery.Typeset

open Markup Packages Text Typst

/-- No piece ends with an unescaped slash right before one that begins with a slash or a star. -/
def SlashesApart (pieces : List Text) : Prop :=
  Neighbours (fun x y => EndsSlash x → y.head? ≠ some '/' ∧ y.head? ≠ some '*') pieces

/-- The watch for comments. -/
def watchSlashes : Watch :=
  (· == .slash)

theorem SlashesApart.seamless {pieces : List Text} (h : SlashesApart pieces) :
    watchSlashes.Seamless pieces := by
  refine Neighbours.imp (fun x y hxy => ⟨fun _ => hxy, fun hw => ?_, fun hw => ?_⟩) h
  · exact absurd hw (by decide)
  · exact absurd hw (by decide)

/-- A page is read under the watch for comments to its end. -/
theorem quiet_setPage (context : Context) (hlexers : context.lexers.Plain) {page out : Text}
    (hnodes : ∀ n ∈ parse page, n.Delimited)
    (hlines : ∀ n ∈ parse page, n.EachLine SlashesApart context context.env .full)
    (h : setPage context page = .ok out) : Quiet watchSlashes out := by
  obtain ⟨texts, htexts, h⟩ := bind_eq_ok_iff.1 h
  have hset : ∀ n ∈ parse page, SetsQuiet watchSlashes context.env .full n := by
    intro n hn
    have hseamless := (hlines n hn).imp fun _ => SlashesApart.seamless
    exact (setsQuiet_of_delimited (quietLinks_env _ hlexers) hlexers (hnodes n hn)).1 _ hseamless
  rw [← pure_eq_ok_iff.1 h]
  exact quiet_arrange _ (quiet_setNodes hset htexts) fun hplace => nomatch hplace

/-- A page is set without any comment, unless raw text in it cannot be told from its delimiters or
two pieces of a line of it meet in what opens one. -/
theorem not_opensComment_of_setPage (context : Context) (hlexers : context.lexers.Plain)
    {page out : Text} (hnodes : ∀ n ∈ parse page, n.Delimited)
    (hlines : ∀ n ∈ parse page, n.EachLine SlashesApart context context.env .full)
    (h : setPage context page = .ok out) : ¬OpensComment out := by
  obtain ⟨_, hrun⟩ := (quiet_setPage context hlexers hnodes hlines h).exists_run
  exact Watch.not_opensComment rfl hrun

/-- The blank after a dropped comment keeps a slash before it apart from one after it. -/
theorem not_opensComment_of_setPage_blank :
    setPage ⟨none, []⟩ "a/\x7b/* x */\x7d /b//c".toList = .ok "a/ /b\\/\\/c".toList ∧
      ¬OpensComment "a/ /b\\/\\/c".toList := by
  have hparse : parse "a/\x7b/* x */\x7d /b//c".toList =
      [.paragraph [.text "a/".toList, .text " /b//c".toList]] := by
    with_unfolding_all rfl
  have hset : setPage ⟨none, []⟩ "a/\x7b/* x */\x7d /b//c".toList =
      .ok "a/ /b\\/\\/c".toList := by
    rw [setPage, hparse]
    with_unfolding_all rfl
  refine ⟨hset, not_opensComment_of_setPage ⟨none, []⟩ lexers_plain ?_ ?_ hset⟩
  all_goals
    rw [hparse]
    simp only [List.mem_singleton, forall_eq]
  · refine .paragraph ?_
    simp [Node.Delimited.text]
  · refine Node.eachLine_of_groups_eq rfl ⟨fun _ texts htexts => ?_, by simp⟩
    cases htexts
    refine List.isChain_pair.2 fun _ => ?_
    decide

/-- Where the comment between them has been dropped, two slashes meet: what follows them is not set
as text any more. -/
theorem exists_opensComment_of_setPage :
    ∃ out, setPage ⟨none, []⟩ "a/\x7b/* x */\x7d/b".toList = .ok out ∧ OpensComment out := by
  have hparse : parse "a/\x7b/* x */\x7d/b".toList =
      [.paragraph [.text "a/".toList, .text "/b".toList]] := by
    with_unfolding_all rfl
  have hset : setPage ⟨none, []⟩ "a/\x7b/* x */\x7d/b".toList = .ok "a//b".toList := by
    rw [setPage, hparse]
    with_unfolding_all rfl
  exact ⟨_, hset, ['a'], '/', ['b'], Reader.start, rfl, .inl rfl, rfl, rfl⟩

end Bindery.Typeset
