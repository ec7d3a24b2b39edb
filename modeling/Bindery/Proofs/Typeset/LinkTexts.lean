import Bindery.Packages.Lexers
import Bindery.Proofs.Markup.Progress
import Bindery.Proofs.Typeset.Asked
import Bindery.Proofs.Typeset.Lines
import Mathlib.Logic.Function.Iterate

namespace Bindery.Typeset

open Text Typst Markup

/-- The text of a link read and set once, the texts of the links in it as they are given. -/
def Context.setLinkTextBy (context : Context) (linkText : Text → Except SetError Text) (t : Text) :
    Except SetError Text :=
  return join (← setNodes ⟨context, linkText⟩ .line .plain (parseInline t))

variable {context : Context} {linkText : Text → Except SetError Text} {n : Nat}

/-- Nodes do not ask for more than the texts of their links where the context is the same. -/
theorem agreesOn_of_linkText {linkText' : Text → Except SetError Text} {nodes : List Node}
    (h : ∀ t url, (Node.link t url).Among nodes → linkText t = linkText' t) :
    Env.AgreesOn ⟨context, linkText⟩ ⟨context, linkText'⟩ nodes where
  assets := rfl
  lexers := rfl
  linkText := h
  label _ _ _ _ := rfl

/-- The guard on the length of the text of a link never holds anything back. -/
theorem setLinkText_eq_setLinkTextBy (context : Context) (t : Text) :
    setLinkText context t = context.setLinkTextBy (setLinkText context) t := by
  have hagrees : (context.linkEnv t).AgreesOn ⟨context, setLinkText context⟩ (parseInline t) :=
    agreesOn_of_linkText fun u url hlink => dif_pos (length_lt_of_link_among hlink)
  rw [setLinkText_eq, setNodes_eq_of_agreesOn hagrees, Context.setLinkTextBy]

/-- What the texts of links are set as after more rounds than a text has characters does not depend
    on what the rounds begin with. -/
theorem iterate_setLinkTextBy {t : Text} (h : t.length < n) :
    (context.setLinkTextBy)^[n] linkText t = setLinkText context t := by
  induction n generalizing t with
  | zero => exact absurd h (Nat.not_lt_zero _)
  | succ n ih =>
    have hagrees : Env.AgreesOn ⟨context, (context.setLinkTextBy)^[n] linkText⟩
        ⟨context, setLinkText context⟩ (parseInline t) :=
      agreesOn_of_linkText fun u url hlink =>
        ih (Nat.lt_of_lt_of_le (length_lt_of_link_among hlink) (Nat.le_of_lt_succ h))
    rw [Function.iterate_succ_apply', setLinkText_eq_setLinkTextBy, Context.setLinkTextBy,
      Context.setLinkTextBy, setNodes_eq_of_agreesOn hagrees]

/-- The texts of the links in a tree are shorter than the tree is large. -/
theorem length_lt_sizeOf_of_link_among {t url : Text} {nodes : List Node}
    (h : (Node.link t url).Among nodes) : t.length < sizeOf nodes := by
  have hlength (s : Text) : s.length < sizeOf s := by
    induction s with
    | nil => decide
    | cons c s ih =>
      rw [List.length_cons, List.cons.sizeOf_spec]
      omega
  have houter : ∃ node ∈ nodes, sizeOf (Node.link t url) ≤ sizeOf node := by
    induction h with
    | here hmem => exact ⟨_, hmem, Nat.le_refl _⟩
    | inside hmem _ ih =>
      obtain ⟨node, hnode, hle⟩ := ih
      exact ⟨_, hmem, Nat.le_of_lt (Nat.lt_of_le_of_lt hle (Node.sizeOf_lt_of_mem_inner hnode))⟩
  obtain ⟨node, hnode, hle⟩ := houter
  have hlt := List.sizeOf_lt_of_mem hnode
  have ht := hlength t
  rw [Node.link.sizeOf_spec] at hle
  omega

/-- Reading and setting come to an end. Each step of the reading of blocks, and each construct that
the reading of a line takes, goes on at a later position that is not past the end of the text, and
what is inside is read as a shorter text. So all the steps, those of the readings inside included,
are no more than the text has characters. Links have shorter texts than the line that they stand in,
at whatever depth. So the text of a link is set after more rounds than it has characters, and nodes
of any shape are set after finitely many rounds: whatever the rounds begin with, and with however
many more of them, what the nodes are set as is the same. -/
theorem reading_and_setting_end :
    (∀ (text : Text) (p : Nat), p < text.length →
      MovesOn text p (Block.next (text.drop p)).2 ∧
        (dedentContent (Block.next (text.drop p)).1.inside).length < text.length) ∧
    (∀ (text rest : Text) (p : Nat) (afterWord : Bool) (span : Span),
      Span.at? afterWord (text.drop p) = some (span, rest) →
        MovesOn text p rest ∧ span.inside.length < text.length) ∧
    (∀ text : Text, (∃ k ≤ text.length, ReadsBlocks text k (blockNodes text)) ∧
      ∃ k ≤ text.length, ReadsLine false text k (pieces false text)) ∧
    (∀ t u url : Text, (Node.link u url).Among (parseInline t) → u.length < t.length) ∧
    (∀ (context : Context) (linkText : Text → Except SetError Text) (t : Text) (n : Nat),
      t.length < n → (context.setLinkTextBy)^[n] linkText t = setLinkText context t) ∧
    ∀ (context : Context) (nodes : List Node), ∃ n, ∀ m, n ≤ m → ∀ linkText place mode,
      setNodes ⟨context, (context.setLinkTextBy)^[m] linkText⟩ place mode nodes =
        setNodes context.env place mode nodes := by
  refine ⟨fun text p hp => movesOn_next hp, fun text rest p afterWord span h => movesOn_of_at? h,
    fun text => ⟨exists_readsBlocks text, exists_readsLine false text⟩,
    fun t u url h => length_lt_of_link_among h,
    fun context linkText t n h => iterate_setLinkTextBy h,
    fun context nodes => ⟨sizeOf nodes, fun m hm linkText place mode => ?_⟩⟩
  have hagrees : Env.AgreesOn ⟨context, (context.setLinkTextBy)^[m] linkText⟩ context.env nodes :=
    agreesOn_of_linkText fun t url hlink =>
      iterate_setLinkTextBy (Nat.lt_of_lt_of_le (length_lt_sizeOf_of_link_among hlink) hm)
  exact setNodes_eq_of_agreesOn hagrees place mode

/-- A link in the text of a link. -/
theorem reading_and_setting_end_nested :
    MovesOn "[\\![b](c)](d)".toList 0 (Block.next "[\\![b](c)](d)".toList).2 ∧
      MovesOn "[\\![b](c)](d)".toList 0 [] ∧
      (Node.link "b".toList "c".toList).Among (parseInline "\\![b](c)".toList) ∧
      "b".toList.length < "\\![b](c)".toList.length ∧
      (Context.setLinkTextBy ⟨none, []⟩)^[10] (fun _ => .ok []) "\\![b](c)".toList =
        setLinkText ⟨none, []⟩ "\\![b](c)".toList := by
  obtain ⟨hblocks, hline, -, hlinks, htexts, -⟩ := reading_and_setting_end
  have hat : Span.at? false "[\\![b](c)](d)".toList =
      some (.link "\\![b](c)".toList "d".toList, []) := by
    with_unfolding_all rfl
  have hparse : parseInline "\\![b](c)".toList =
      [.text "!".toList, .link "b".toList "c".toList] := by
    with_unfolding_all rfl
  have hamong : (Node.link "b".toList "c".toList).Among (parseInline "\\![b](c)".toList) := by
    rw [hparse]
    exact .here (by simp)
  exact ⟨(hblocks _ 0 (by decide)).1, (hline _ _ 0 false _ hat).1, hamong, hlinks _ _ _ hamong,
    htexts _ _ _ 10 (by decide)⟩

end Bindery.Typeset
