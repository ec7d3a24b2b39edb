import Bindery.Proofs.Packages.Lexers
import Bindery.Proofs.Typeset.Lines
import Bindery.Proofs.Typst.Nesting

namespace Bindery

open Text Typst Typeset Packages

namespace Typst

/-- Without anything to watch for, any pieces fit together. -/
theorem seamless_idle (pieces : List Text) : Watch.idle.Seamless pieces := by
  have hfits (x y : Text) : Watch.idle.Fits x y := by
    constructor <;> simp [Watch.idle]
  exact (List.pairwise_of_forall hfits).isChain

theorem nested_join {pieces : List Text} (h : ∀ t ∈ pieces, Nested t) : Nested (join pieces) :=
  nested_iff_quiet.2 (quiet_join (fun t ht => nested_iff_quiet.1 (h t ht)) (seamless_idle pieces))

end Typst

namespace Typeset

theorem nested_arrange (place : Place) (nodes : List Node) {texts : List Text}
    (h : ∀ t ∈ texts, Nested t) : Nested (arrange place nodes texts) :=
  nested_iff_quiet.2 (quiet_arrange nodes (fun t ht => nested_iff_quiet.1 (h t ht))
    fun _ => seamless_idle texts)

/-- Link texts whose nodes are delimited are set as well-nested markup. -/
def Env.Nests (env : Env) : Prop :=
  ∀ t out, (∀ n ∈ Markup.parseInline t, n.Delimited) → env.linkText t = .ok out → Nested out

variable {env : Env}

/-- Wherever the node stands, what it is set as is well nested. -/
def SetsNested (env : Env) (node : Node) : Prop :=
  ∀ place mode out, setNode env place mode node = .ok out → Nested out

theorem nested_setNodes {nodes : List Node} (hnodes : ∀ n ∈ nodes, SetsNested env n)
    {place : Place} {mode : Mode} {texts : List Text}
    (h : setNodes env place mode nodes = .ok texts) : ∀ t ∈ texts, Nested t := by
  intro t ht
  obtain ⟨node, hnode, hset⟩ := exists_of_mem_setNodes h ht
  exact hnodes node hnode place mode t hset

theorem eachLine_idle {context : Context} (env : Env) (mode : Mode) (node : Node) :
    node.EachLine Watch.idle.Seamless context env mode :=
  fun _ _ _ texts _ => seamless_idle texts

/-- Delimited nodes are set as well-nested markup. -/
theorem setsNested_of_delimited (henv : env.Nests) (hlexers : env.context.lexers.Plain)
    {node : Node} (hnode : node.Delimited) : SetsNested env node := by
  have hlinks : env.QuietLinks .idle env.context :=
    fun t out ht _ h => nested_iff_quiet.1 (henv t out ht h)
  have hset := (setsQuiet_of_delimited hlinks hlexers hnode).1
  intro place mode out h
  exact nested_iff_quiet.2 (hset mode (eachLine_idle env mode node) place out h)

theorem nests_env {context : Context} (hlexers : context.lexers.Plain) : context.env.Nests :=
  fun t out ht h => nested_iff_quiet.2 (quietLinks_env .idle hlexers t out ht
    ⟨fun _ texts _ => seamless_idle texts, fun n _ => eachLine_idle _ _ n⟩ h)

/-- Whatever nodes stand below each other or in a line, and in every mode, the source that they are
set as is read to its end with nothing left open, and no bracket in it closes what is not open.
Only raw text without content or a backtick in the label of a language could undo that. -/
theorem wellNested_of_set (context : Context) (mode : Mode) (nodes : List Node)
    (hlexers : context.lexers.Plain) (hnodes : ∀ n ∈ nodes, n.Delimited) :
    (∀ out, setBlocks context mode nodes = .ok out → WellNested out) ∧
      ∀ out, setInline context mode nodes = .ok out → WellNested out := by
  have hset : ∀ n ∈ nodes, SetsNested context.env n := fun n hn =>
    setsNested_of_delimited (nests_env hlexers) hlexers (hnodes n hn)
  constructor
  · intro out h
    obtain ⟨texts, htexts, h⟩ := bind_eq_ok_iff.1 h
    rw [← pure_eq_ok_iff.1 h]
    exact (nested_arrange .block nodes (nested_setNodes hset htexts)).wellNested
  · intro out h
    obtain ⟨texts, htexts, h⟩ := bind_eq_ok_iff.1 h
    rw [← pure_eq_ok_iff.1 h]
    exact (nested_join (nested_setNodes hset htexts)).wellNested

/-- A card with brackets in its title and in strong text, and a line with a bracket before a link
with marked text. -/
theorem wellNested_of_set_card :
    (∃ out, setBlocks ⟨none, []⟩ .full [.element "Card".toList [("title".toList, "[\"".toList)]
        [.paragraph [.strong [.text "(#]".toList], .code "\x60]".toList]] true] = .ok out ∧
          WellNested out) ∧
      ∃ out, setInline ⟨none, []⟩ .card
        [.strong [.text "]".toList], .link "a*b*".toList "https://c".toList] = .ok out ∧
          WellNested out := by
  have htext (t : Text) : ∀ n ∈ [Node.text t], n.Delimited := by
    simp [Node.Delimited.text]
  constructor
  · have hset : setBlocks ⟨none, []⟩ .full [.element "Card".toList [("title".toList, "[\"".toList)]
        [.paragraph [.strong [.text "(#]".toList], .code "\x60]".toList]] true] =
        .ok "#card(title: \"[\\\"\")[\n#strong[(\\#\\]]#raw(\"\x60]\")\n]".toList := by
      with_unfolding_all rfl
    refine ⟨_, hset, (wellNested_of_set ⟨none, []⟩ .full _ lexers_plain ?_).1 _ hset⟩
    simp only [List.mem_singleton, forall_eq]
    refine .element (by decide) ?_
    simp only [List.mem_singleton, forall_eq]
    refine .paragraph ?_
    simp only [List.mem_cons, List.not_mem_nil, or_false, forall_eq_or_imp, forall_eq]
    exact ⟨.strong (htext _), .code (by decide)⟩
  · have hset : setInline ⟨none, []⟩ .card
        [.strong [.text "]".toList], .link "a*b*".toList "https://c".toList] =
        .ok "#strong[\\]]ab".toList := by
      with_unfolding_all rfl
    have hlink : Markup.parseInline "a*b*".toList =
        [.text "a".toList, .emph [.text "b".toList]] := by
      with_unfolding_all rfl
    refine ⟨_, hset, (wellNested_of_set ⟨none, []⟩ .card _ lexers_plain ?_).2 _ hset⟩
    simp only [List.mem_cons, List.not_mem_nil, or_false, forall_eq_or_imp, forall_eq]
    refine ⟨.strong (htext _), .link ?_⟩
    rw [hlink]
    simp only [List.mem_cons, List.not_mem_nil, or_false, forall_eq_or_imp, forall_eq]
    exact ⟨.text _, .emph (htext _)⟩

end Typeset

end Bindery
