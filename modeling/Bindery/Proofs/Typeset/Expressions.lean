import Bindery.Proofs.Packages.Lexers
import Bindery.Proofs.Typeset.Lines

namespace Bindery.Typeset

open Packages Text Typst Typst.Reader

/-- No piece that ends with an expression without beginning with one stands right before a piece
    that goes on with it, and no dot behind an expression right before a name. -/
def ExpressionsApart (pieces : List Text) : Prop :=
  Neighbours (fun x y => (EndsExpression x → x.head? = some '#' ∨ ¬IsContinuation y) ∧
    (EndsDot x → y.head?.any isNameStart = false)) pieces

/-- The watch for what goes on with an expression. -/
def watchExpressions : Watch
  | .expression | .dot => true
  | _ => false

theorem ExpressionsApart.seamless {pieces : List Text} (h : ExpressionsApart pieces) :
    watchExpressions.Seamless pieces :=
  Neighbours.imp (fun _ _ hxy => ⟨fun hw => (nomatch hw), fun _ => hxy.1, fun _ => hxy.2⟩) h

/-- Inline nodes are set as a line in which nothing goes on with an expression, unless raw text in
it cannot be told from its delimiters or two pieces of a line meet in what goes on with one. -/
theorem not_extendsExpression_of_setInline (context : Context) (mode : Mode)
    (hlexers : context.lexers.Plain) {nodes : List Node} {out : Text}
    (hnodes : ∀ n ∈ nodes, n.Delimited)
    (hline : ∀ texts, setNodes context.env .line mode nodes = .ok texts → ExpressionsApart texts)
    (hlines : ∀ n ∈ nodes, n.EachLine ExpressionsApart context context.env mode)
    (h : setInline context mode nodes = .ok out) : ¬ExtendsExpression out := by
  obtain ⟨texts, htexts, h⟩ := bind_eq_ok_iff.1 h
  have hset : ∀ n ∈ nodes, SetsQuiet watchExpressions context.env mode n := by
    intro n hn
    have hseamless := (hlines n hn).imp fun _ => ExpressionsApart.seamless
    exact (setsQuiet_of_delimited (quietLinks_env _ hlexers) hlexers (hnodes n hn)).1 _ hseamless
  have hquiet : Quiet watchExpressions out := by
    rw [← pure_eq_ok_iff.1 h]
    exact quiet_join (quiet_setNodes hset htexts) (hline texts htexts).seamless
  obtain ⟨_, hrun⟩ := hquiet.exists_run
  exact Watch.not_extendsExpression rfl rfl hrun

/-- Text in parentheses right behind strong text, and an element that ends with emphasised text
before a blank. -/
theorem not_extendsExpression_of_setInline_strong :
    setInline ⟨none, []⟩ .full [.strong [.text "b".toList], .text "(c)".toList,
        .element "span".toList [] [.text " a ".toList, .emph [.text "d".toList]] false,
        .text " .e".toList] = .ok "#strong[b]\\(c) a #emph[d] .e".toList ∧
      ¬ExtendsExpression "#strong[b]\\(c) a #emph[d] .e".toList := by
  have hset : setInline ⟨none, []⟩ .full [.strong [.text "b".toList], .text "(c)".toList,
      .element "span".toList [] [.text " a ".toList, .emph [.text "d".toList]] false,
      .text " .e".toList] = .ok "#strong[b]\\(c) a #emph[d] .e".toList := by
    with_unfolding_all rfl
  refine ⟨hset, not_extendsExpression_of_setInline ⟨none, []⟩ .full lexers_plain ?_ ?_ ?_ hset⟩
  · simp only [List.mem_cons, List.not_mem_nil, or_false, forall_eq_or_imp, forall_eq]
    refine ⟨.strong ?_, .text _, .element (by decide) ?_, .text _⟩
    · simp [Node.Delimited.text]
    · simp only [List.mem_cons, List.not_mem_nil, or_false, forall_eq_or_imp, forall_eq]
      refine ⟨.text _, .emph ?_⟩
      simp [Node.Delimited.text]
  · intro texts htexts
    cases htexts
    refine List.isChain_cons_cons.2 ⟨⟨fun _ => .inl rfl, fun _ => rfl⟩, ?_⟩
    refine List.isChain_cons_cons.2 ⟨⟨fun _ => .inr (by decide), fun _ => rfl⟩, ?_⟩
    exact List.isChain_pair.2 ⟨fun _ => .inr (by decide), fun _ => rfl⟩
  · simp only [List.mem_cons, List.not_mem_nil, or_false, forall_eq_or_imp, forall_eq,
      Node.eachLine_text, and_true, true_and]
    constructor
    · refine Node.eachLine_of_groups_eq rfl ⟨fun _ texts htexts => ?_, by simp⟩
      cases htexts
      exact List.isChain_singleton _
    · refine Node.eachLine_of_groups_eq rfl ⟨fun _ texts htexts => ?_, ?_⟩
      · cases htexts
        refine List.isChain_pair.2 ⟨fun _ => .inr ?_, fun h => absurd h.getLast?_eq (by decide)⟩
        decide
      · simp only [List.mem_cons, List.not_mem_nil, or_false, forall_eq_or_imp, forall_eq,
          Node.eachLine_text, true_and]
        refine Node.eachLine_of_groups_eq rfl ⟨fun _ texts htexts => ?_, by simp⟩
        cases htexts
        exact List.isChain_singleton _

/-- Behind an element that begins with text, a parenthesis goes on with the expression at its end;
a name does so behind a dot of its own. -/
theorem exists_extendsExpression_of_setInline :
    (∃ out, setInline ⟨none, []⟩ .full [.element "span".toList []
        [.text "a ".toList, .strong [.text "b".toList]] false, .text "(x)".toList] = .ok out ∧
          ExtendsExpression out) ∧
      ∃ out, setInline ⟨none, []⟩ .full [.strong [.text "b".toList], .text ".".toList,
        .text "c".toList] = .ok out ∧ ExtendsExpression out := by
  constructor
  · have hset : setInline ⟨none, []⟩ .full [.element "span".toList []
        [.text "a ".toList, .strong [.text "b".toList]] false, .text "(x)".toList] =
        .ok "a #strong[b](x)".toList := by
      with_unfolding_all rfl
    exact ⟨_, hset, "a #strong[b".toList, ']', "(x)".toList, ⟨[.block], .markup⟩, rfl, rfl, rfl,
      .inl rfl⟩
  · have hset : setInline ⟨none, []⟩ .full [.strong [.text "b".toList], .text ".".toList,
        .text "c".toList] = .ok "#strong[b].c".toList := by
      with_unfolding_all rfl
    exact ⟨_, hset, "#strong[b".toList, ']', ".c".toList, ⟨[.block], .markup⟩, rfl, rfl, rfl,
      .inr ⟨'c', [], rfl, rfl⟩⟩

end Bindery.Typeset
