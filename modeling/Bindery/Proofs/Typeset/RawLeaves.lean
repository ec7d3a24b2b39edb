import Bindery.Packages.Lexers
import Bindery.Proofs.Typeset.ProseLine
import Bindery.Proofs.Typst.AdjacentCode

namespace Bindery.Typeset

open Text Typst

/-- A node that is prose, code, or a key with prose in it. -/
inductive RawLeaf
  | prose (t : Text)
  | code (t : Text)
  | key (attributes : Pairs) (texts : List Text) (block : Bool)

namespace RawLeaf

def node : RawLeaf → Node
  | .prose t => .text t
  | .code t => .code t
  | .key attributes texts block => .element "kbd".toList attributes (texts.map .text) block

/-- What a reader should find in the place of the node. A key is code. -/
def segment : RawLeaf → Segment
  | .prose t => .text t
  | .code t => .code t
  | .key _ texts _ => .code texts.flatten

/-- What a reader should find in the place of the nodes. Empty prose leaves no trace. -/
def segments (leaves : List RawLeaf) : List Segment :=
  (leaves.map segment).filter (· ≠ .text [])

theorem setNode_node (env : Env) (place : Place) (mode : Mode) (leaf : RawLeaf) :
    setNode env place mode leaf.node = .ok leaf.segment.markup := by
  cases leaf with
  | prose t => rw [node, setNode]; rfl
  | code t => rw [node, setNode]; rfl
  | key attributes texts block =>
    have hkey : Component.named "kbd".toList = .key := by decide
    rw [node, setNode, hkey]
    simp only [plainTexts_texts]
    rfl

theorem setNodes_map_node (env : Env) (place : Place) (mode : Mode) (leaves : List RawLeaf) :
    setNodes env place mode (leaves.map node) = .ok ((leaves.map segment).map Segment.markup) := by
  induction leaves with
  | nil => rfl
  | cons leaf leaves ih =>
    rw [List.map_cons, setNodes, setNode_node, ih]
    rfl

end RawLeaf

/-- Prose, code and keys on a line are set in any mode, and a reader of the source finds one code
for each code and key, in order and as it is, with the given prose between them, exactly when they
are kept apart. -/
theorem segments_setInline_iff_keptApart (context : Context) (mode : Mode)
    (leaves : List RawLeaf) :
    ∃ out, setInline context mode (leaves.map RawLeaf.node) = .ok out ∧
      (segments out = some ((RawLeaf.segments leaves).foldr Segment.cons []) ↔
        KeptApart (RawLeaf.segments leaves)) := by
  refine ⟨join ((leaves.map RawLeaf.segment).map Segment.markup), ?_, ?_⟩
  · rw [setInline, RawLeaf.setNodes_map_node]
    rfl
  · rw [join, ← Segment.joinAfter_filter]
    exact segments_joinAfter_iff (by simp) []

/-- An empty key before code: the three backticks open raw text that does not end. -/
theorem segments_setInline_empty_key : ∃ out,
    setInline ⟨none, []⟩ .full ([.key [] [] false, .code ['a']].map RawLeaf.node) = .ok out ∧
      segments out ≠ some [.code [], .code ['a']] := by
  refine ⟨['\x60', '\x60', '\x60', 'a', '\x60'], ?_, fun h => ?_⟩
  · rw [setInline, RawLeaf.setNodes_map_node]
    rfl
  · obtain ⟨_, _, _, hsegment, -⟩ := segments_eq_some (List.cons_ne_nil _ _) h
    have hnone : segment? ['\x60', '\x60', '\x60', 'a', '\x60'] = none := by decide
    rw [hnone] at hsegment
    cases hsegment

end Bindery.Typeset
