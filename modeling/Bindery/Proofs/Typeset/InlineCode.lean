import Bindery.Packages.Lexers
import Bindery.Proofs.Markup.CodeSpan
import Bindery.Proofs.Typst.AdjacentCode
import Bindery.Typeset.Node

namespace Bindery

open Text Typst Typeset Markup

namespace Typst

/-- The node that a segment is the source of. -/
def Segment.node : Segment → Node
  | .text t => .text t
  | .code t => .code t

end Typst

namespace Markup

/-- The segments that a written span and the words after it are set as. -/
def WrittenCode.segments (k : WrittenCode) : List Segment :=
  [.code k.code, .text k.words]

variable {first : Text} {codes : List WrittenCode}

theorem WrittenCode.WellFormed.isProper {k : WrittenCode} (hk : k.WellFormed) :
    ∀ segment ∈ k.segments, segment.IsProper := by
  intro segment hsegment
  simp only [WrittenCode.segments, List.mem_cons, List.not_mem_nil, or_false] at hsegment
  rcases hsegment with rfl | rfl
  · exact ⟨hk.ne_nil, hk.line⟩
  · exact hk.words.ne_nil

/-- Code stands between any two of the words, so that none of them run together. -/
theorem foldr_cons_segments (first : Text) (codes : List WrittenCode) :
    (.text first :: codes.flatMap WrittenCode.segments).foldr Segment.cons [] =
      .text first :: codes.flatMap WrittenCode.segments := by
  induction codes generalizing first with
  | nil => rfl
  | cons k codes ih =>
    rw [List.flatMap_cons, WrittenCode.segments, List.cons_append, List.cons_append,
      List.nil_append, List.foldr_cons, List.foldr_cons, ih]
    rfl

end Markup

namespace Typeset

theorem setNodes_segments (env : Env) (place : Place) (mode : Mode) (parts : List Segment) :
    setNodes env place mode (parts.map Segment.node) = .ok (parts.map Segment.markup) := by
  induction parts with
  | nil => rfl
  | cons segment parts ih =>
    have hset : setNode env place mode segment.node = .ok segment.markup := by
      cases segment with
      | text t => rw [Segment.node, setNode]; rfl
      | code t => rw [Segment.node, setNode]; rfl
    rw [List.map_cons, setNodes, hset, ih]
    rfl

/-- Inline code is verbatim. A line of words and written code spans is read as these words and
codes, and the source that it is set as, in any mode, is read back as the same words and codes. -/
theorem segments_of_setInline (context : Context) (mode : Mode) {first : Text}
    (hfirst : IsWords first) {codes : List WrittenCode} (hcodes : ∀ k ∈ codes, k.WellFormed) :
    parseInline (first ++ codes.flatMap WrittenCode.source) =
        .text first :: codes.flatMap WrittenCode.nodes ∧
      ∃ out,
        setInline context mode (parseInline (first ++ codes.flatMap WrittenCode.source)) =
          .ok out ∧
        segments out = some (.text first :: codes.flatMap WrittenCode.segments) := by
  have hparse : parseInline (first ++ codes.flatMap WrittenCode.source) =
      .text first :: codes.flatMap WrittenCode.nodes :=
    gather_pieces_written false hfirst hcodes
  have hnodes : Node.text first :: codes.flatMap WrittenCode.nodes =
      (Segment.text first :: codes.flatMap WrittenCode.segments).map Segment.node := by
    rw [List.map_cons, List.map_flatMap]
    rfl
  have hproper : ∀ segment ∈ Segment.text first :: codes.flatMap WrittenCode.segments,
      segment.IsProper := by
    rw [List.forall_mem_cons]
    refine ⟨hfirst.ne_nil, fun segment hsegment => ?_⟩
    obtain ⟨k, hk, hmem⟩ := List.mem_flatMap.1 hsegment
    exact (hcodes k hk).isProper segment hmem
  refine ⟨hparse, _, ?_, (segments_join hproper).trans (congrArg some ?_)⟩
  · rw [hparse, setInline, hnodes, setNodes_segments]
    rfl
  · exact foldr_cons_segments first codes

/-- Code that holds a link, stars, a quote, a backslash and a backtick, and code of one space. -/
theorem segments_of_setInline_marks :
    parseInline "a b\x60\x60 [l](u)**\x22\\\x60 \x60\x60c 2d\x60   \x60e".toList =
        [.text "a b".toList, .code "[l](u)**\x22\\\x60".toList, .text "c 2d".toList,
          .code " ".toList, .text "e".toList] ∧
      ∃ out, setInline ⟨none, []⟩ .full
          (parseInline "a b\x60\x60 [l](u)**\x22\\\x60 \x60\x60c 2d\x60   \x60e".toList) = .ok out ∧
        segments out = some [.text "a b".toList, .code "[l](u)**\x22\\\x60".toList,
          .text "c 2d".toList, .code " ".toList, .text "e".toList] := by
  have hmarks : WrittenCode.WellFormed ⟨2, "[l](u)**\x22\\\x60".toList, "c 2d".toList⟩ := by
    refine ⟨by decide, by decide, fun h => ?_, ⟨by decide, by decide, by decide⟩⟩
    exact absurd (h.sublist.count_le '\x60') (by decide)
  have hspace : WrittenCode.WellFormed ⟨1, " ".toList, "e".toList⟩ := by
    refine ⟨by decide, by decide, fun h => ?_, ⟨by decide, by decide, by decide⟩⟩
    exact absurd (h.sublist.count_le '\x60') (by decide)
  have hline : "a b\x60\x60 [l](u)**\x22\\\x60 \x60\x60c 2d\x60   \x60e".toList = "a b".toList ++
      [(⟨2, "[l](u)**\x22\\\x60".toList, "c 2d".toList⟩ : WrittenCode),
        ⟨1, " ".toList, "e".toList⟩].flatMap WrittenCode.source := by decide
  rw [hline]
  exact segments_of_setInline ⟨none, []⟩ .full ⟨by decide, by decide, by decide⟩
    (List.forall_mem_cons.2 ⟨hmarks, List.forall_mem_singleton.2 hspace⟩)

end Typeset

end Bindery
