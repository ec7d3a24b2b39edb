import Bindery.Packages.Lexers
import Bindery.Proofs.Typeset.Setting
import Bindery.Proofs.Typst.Shown

namespace Bindery

open Text Typst Typeset

/-- A tree of prose, code and emphasis; the code has content and stands on one line. -/
inductive Node.Prose : Node → Prop
  | text (t : Text) : Prose (.text t)
  | code {t : Text} (ht : t ≠ []) (hline : '\n' ∉ t) : Prose (.code t)
  | strong {children : List Node} (h : ∀ n ∈ children, Prose n) : Prose (.strong children)
  | emph {children : List Node} (h : ∀ n ∈ children, Prose n) : Prose (.emph children)
  | strongEmph {children : List Node} (h : ∀ n ∈ children, Prose n) : Prose (.strongEmph children)

namespace Typeset

theorem plainTexts_eq_flatten (nodes : List Node) :
    plainTexts nodes = (nodes.map plainText).flatten := by
  induction nodes with
  | nil => rfl
  | cons node nodes ih => rw [plainTexts, ih, List.map_cons, List.flatten_cons]

variable {env : Env} {mode : Mode}

/-- Within a line the node is set, as source that shows its plain text. -/
def SetsShown (env : Env) (mode : Mode) (node : Node) : Prop :=
  ∃ out, setNode env .line mode node = .ok out ∧ Shows out (plainText node)

theorem forall₂_setNodes {nodes : List Node} (hnodes : ∀ n ∈ nodes, SetsShown env mode n) :
    ∃ texts, setNodes env .line mode nodes = .ok texts ∧
      List.Forall₂ Shows texts (nodes.map plainText) := by
  induction nodes with
  | nil => exact ⟨[], rfl, .nil⟩
  | cons node nodes ih =>
    obtain ⟨out, hout, hshows⟩ := hnodes node List.mem_cons_self
    obtain ⟨texts, htexts, hall⟩ := ih fun n hn => hnodes n (List.mem_cons_of_mem node hn)
    refine ⟨out :: texts, ?_, .cons hshows hall⟩
    rw [setNodes, hout, htexts]
    rfl

/-- Nodes that are each set as source showing their plain text are so together. -/
theorem shows_join_setNodes {nodes : List Node} (hnodes : ∀ n ∈ nodes, SetsShown env mode n) :
    ∃ texts, setNodes env .line mode nodes = .ok texts ∧
      Shows (join texts) (plainTexts nodes) := by
  obtain ⟨texts, htexts, hall⟩ := forall₂_setNodes hnodes
  exact ⟨texts, htexts, plainTexts_eq_flatten nodes ▸ shows_join hall⟩

theorem shows_emphasized (mode : Mode) {markup : Text → Text} {body t : Text}
    (hmarkup : Shows (markup body) t) (hbody : Shows body t) :
    Shows (emphasized mode markup body) t := by
  rw [emphasized]
  split
  · exact hmarkup
  · exact hbody

theorem setsShown_of_prose {node : Node} (hnode : node.Prose) : SetsShown env mode node := by
  induction hnode with
  | text t => exact ⟨escape t, by rw [setNode]; rfl, shows_escape t⟩
  | @code t ht hline => exact ⟨rawSpan t, by rw [setNode]; rfl, shows_rawSpan ht hline⟩
  | strong _ ih =>
    obtain ⟨texts, htexts, hshows⟩ := shows_join_setNodes ih
    refine ⟨_, setNode_strong_eq_ok_iff.2 ⟨texts, htexts, rfl⟩, ?_⟩
    exact shows_emphasized mode hshows.strong hshows
  | emph _ ih =>
    obtain ⟨texts, htexts, hshows⟩ := shows_join_setNodes ih
    refine ⟨_, setNode_emph_eq_ok_iff.2 ⟨texts, htexts, rfl⟩, ?_⟩
    exact shows_emphasized mode hshows.emph hshows
  | strongEmph _ ih =>
    obtain ⟨texts, htexts, hshows⟩ := shows_join_setNodes ih
    have hboth : Shows (strongEmph (join texts)) _ := hshows.emph.strong
    refine ⟨_, setNode_strongEmph_eq_ok_iff.2 ⟨texts, htexts, rfl⟩, ?_⟩
    exact shows_emphasized mode hboth hshows

/-- In every mode, prose with emphasis and code is set, and a reader of the source is shown its
plain text: escapes, raw text and the backslashes between pieces leave no trace. -/
theorem shown_of_setInline (context : Context) (mode : Mode) (nodes : List Node)
    (hnodes : ∀ n ∈ nodes, n.Prose) :
    ∃ out, setInline context mode nodes = .ok out ∧ shown 0 out = some (plainTexts nodes) := by
  have hsets : ∀ n ∈ nodes, SetsShown context.env mode n := fun n hn =>
    setsShown_of_prose (hnodes n hn)
  obtain ⟨texts, htexts, hshows⟩ := shows_join_setNodes hsets
  refine ⟨join texts, ?_, hshows.shown⟩
  rw [setInline, htexts]
  rfl

/-- Code with a backtick before a parenthesis, inside emphasis. -/
theorem shown_of_setInline_code :
    ∃ out, setInline ⟨none, []⟩ .full
        [.strong [.code "\x60".toList, .emph [.text "(#]".toList]], .text ".a".toList] = .ok out ∧
      shown 0 out = some "\x60(#].a".toList := by
  refine shown_of_setInline ⟨none, []⟩ .full _ ?_
  simp only [List.mem_cons, List.not_mem_nil, or_false, forall_eq_or_imp, forall_eq]
  refine ⟨.strong ?_, .text _⟩
  simp only [List.mem_cons, List.not_mem_nil, or_false, forall_eq_or_imp, forall_eq]
  refine ⟨.code (by decide) (by decide), .emph ?_⟩
  simp only [List.mem_singleton, forall_eq]
  exact .text _

end Typeset

end Bindery
