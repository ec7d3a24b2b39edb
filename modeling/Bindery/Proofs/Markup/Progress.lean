import Bindery.Proofs.Markup.Blocks
import Bindery.Proofs.Markup.Parts
import Bindery.Proofs.Markup.Pieces
import Bindery.Proofs.Markup.Tree

namespace Bindery.Markup

open Text

variable {s rest : Text}

theorem tableRows_suffix (s : Text) : (tableRows s).2 <:+ s := by
  fun_induction tableRows s with
  | case1 => exact List.suffix_refl []
  | case2 c s _ rows rest heq ih =>
    rw [heq] at ih
    exact ih.trans (afterLine_suffix _)
  | case3 => exact List.suffix_refl _

theorem suffix_of_table? {node : Node} (h : table? s = some (node, rest)) : rest <:+ s := by
  rw [table?] at h
  simp only at h
  split at h
  · cases h
    exact (tableRows_suffix _).trans ((afterLine_suffix _).trans (afterLine_suffix s))
  · cases h

theorem body_suffix (fence : Fence) (s : Text) : (fence.body s).2 <:+ s := by
  fun_induction Fence.body fence s with
  | case1 => exact List.suffix_refl []
  | case2 c s => exact afterLine_suffix _
  | case3 c s _ code rest heq ih =>
    rw [heq] at ih
    exact ih.trans (afterLine_suffix _)

namespace Block

theorem resume_suffix (s : Text) : resume s <:+ s := by
  rw [resume]
  split
  · exact afterLine_suffix s
  · exact List.suffix_refl s

theorem suffix_of_comment? (h : comment? s = some rest) : rest <:+ s := by
  rw [comment?] at h
  split at h
  · next hcomment =>
    cases h
    exact (resume_suffix _).trans (suffix_of_afterEnclosed? hcomment)
  · obtain ⟨r, hcomment, rfl⟩ := Option.map_eq_some_iff.1 h
    exact (resume_suffix r).trans (suffix_of_afterEnclosed? hcomment)

theorem suffix_of_element? {block : Block} (h : element? s = some (block, rest)) : rest <:+ s := by
  unfold element? at h
  split at h
  · next hclose =>
    cases h
    exact (resume_suffix _).trans (suffix_of_closeTag? (Option.filter_eq_some_iff.1 hclose).1)
  · split at h
    · cases h
    · next hopen =>
      have hafter := suffix_of_openTag? hopen
      split at h
      · cases h
      · split at h
        · cases h
          exact (resume_suffix _).trans hafter
        · split at h
          · cases h
            exact (resume_suffix _).trans hafter
          · next hclosing =>
            split at h
            · cases h
            · cases h
              exact ((resume_suffix _).trans (parts_of_closingFrom? hclosing).2).trans hafter

/-- Where the reading goes on is an end of the text. -/
theorem next_suffix (s : Text) : (next s).2 <:+ s := by
  have hstart := List.dropWhile_suffix (l := s) isBlank
  rw [next]
  split
  · exact afterLine_suffix s
  · split
    · next fence _ => exact (body_suffix fence _).trans (afterLine_suffix s)
    · rw [nextUnfenced]
      split
      · next hcomment => exact (suffix_of_comment? hcomment).trans hstart
      · split
        · next helement => exact (suffix_of_element? helement).trans hstart
        · split
          · next htable => exact suffix_of_table? htable
          · exact afterLine_suffix s

end Block

/-- From a position in the text the reading goes on at a later one, which is not past the end. -/
def MovesOn (text : Text) (p : Nat) (rest : Text) : Prop :=
  ∃ p', p < p' ∧ p' ≤ text.length ∧ rest = text.drop p'

theorem movesOn_of_suffix {text : Text} {p : Nat} (h : rest <:+ text.drop p)
    (hlength : rest.length < (text.drop p).length) : MovesOn text p rest := by
  have hwhole : rest <:+ text := h.trans (List.drop_suffix p text)
  have hle := hwhole.length_le
  rw [List.length_drop] at hlength
  exact ⟨text.length - rest.length, by omega, Nat.sub_le _ _, List.suffix_iff_eq_drop.1 hwhole⟩

/-- A step of the reading of blocks. -/
theorem movesOn_next {text : Text} {p : Nat} (hp : p < text.length) :
    MovesOn text p (Block.next (text.drop p)).2 ∧
      (dedentContent (Block.next (text.drop p)).1.inside).length < text.length := by
  have hne : text.drop p ≠ [] := by simpa using hp
  obtain ⟨hrest, hinside⟩ := Block.length_next_lt hne
  have hcontent := Nat.lt_of_le_of_lt (length_dedentContent_le _) hinside
  exact ⟨movesOn_of_suffix (Block.next_suffix _) hrest,
    Nat.lt_of_lt_of_le hcontent (List.drop_suffix p text).length_le⟩

/-- A construct that the reading of a line takes. -/
theorem movesOn_of_at? {text : Text} {p : Nat} {afterWord : Bool} {span : Span}
    (h : Span.at? afterWord (text.drop p) = some (span, rest)) :
    MovesOn text p rest ∧ span.inside.length < text.length := by
  obtain ⟨hrest, hinside⟩ := Span.length_of_at? h
  exact ⟨movesOn_of_suffix (suffix_of_at? h) hrest,
    Nat.lt_of_lt_of_le hinside (List.drop_suffix p text).length_le⟩

/-- A reading of blocks that comes to its end after the given number of steps, those of the
    readings inside it included, and the nodes that it finds. -/
inductive ReadsBlocks : Text → Nat → List Node → Prop
  | done : ReadsBlocks [] 0 []
  | block {s : Text} {k m : Nat} {inner nodes : List Node} (hs : s ≠ [])
    (hinside : ReadsBlocks (dedentContent (Block.next s).1.inside) k inner)
    (hrest : ReadsBlocks (Block.next s).2 m nodes) :
    ReadsBlocks s (k + m + 1) (((Block.next s).1.node? (mergeBlanks inner)).toList ++ nodes)

/-- A reading of a line that comes to its end after the given number of steps, those of the
    readings inside it included, and the pieces that it finds. -/
inductive ReadsLine : Bool → Text → Nat → List Piece → Prop
  | done (afterWord : Bool) : ReadsLine afterWord [] 0 []
  | construct {afterWord : Bool} {s rest : Text} {span : Span} {k m : Nat}
    {inner parts : List Piece} (h : Span.at? afterWord s = some (span, rest))
    (hinside : ReadsLine false span.inside k inner) (hrest : ReadsLine false rest m parts) :
    ReadsLine afterWord s (k + m + 1) (span.piece (gather inner) :: parts)
  | prose {afterWord : Bool} {c : Char} {s : Text} {m : Nat} {parts : List Piece}
    (h : Span.at? afterWord (c :: s) = none) (hrest : ReadsLine (isAlphanumeric c) s m parts) :
    ReadsLine afterWord (c :: s) (m + 1) (.char c :: parts)

theorem exists_readsBlocks (s : Text) : ∃ k ≤ s.length, ReadsBlocks s k (blockNodes s) := by
  induction hlength : s.length using Nat.strongRecOn generalizing s with
  | ind length ih =>
    by_cases hs : s = []
    · subst hs
      rw [blockNodes_nil]
      exact ⟨0, Nat.zero_le _, .done⟩
    · have hadd := Block.length_add_next_lt hs
      have hcontent := length_dedentContent_le (Block.next s).1.inside
      obtain ⟨k, hk, hinside⟩ := ih _ (by omega) (dedentContent (Block.next s).1.inside) rfl
      obtain ⟨m, hm, hrest⟩ := ih _ (by omega) (Block.next s).2 rfl
      rw [blockNodes_of_next hs rfl]
      exact ⟨k + m + 1, by omega, .block hs hinside hrest⟩

theorem exists_readsLine (afterWord : Bool) (s : Text) :
    ∃ k ≤ s.length, ReadsLine afterWord s k (pieces afterWord s) := by
  induction hlength : s.length using Nat.strongRecOn generalizing s afterWord with
  | ind length ih =>
    cases s with
    | nil =>
      rw [pieces_nil]
      exact ⟨0, Nat.zero_le _, .done afterWord⟩
    | cons c s =>
      cases hat : Span.at? afterWord (c :: s) with
      | some found =>
        obtain ⟨span, rest⟩ := found
        have hadd := Span.length_add_of_at? hat
        obtain ⟨k, hk, hinside⟩ := ih _ (by omega) false span.inside rfl
        obtain ⟨m, hm, hrest⟩ := ih _ (by omega) false rest rfl
        rw [pieces_of_at? hat]
        exact ⟨k + m + 1, by omega, .construct hat hinside hrest⟩
      | none =>
        rw [List.length_cons] at hlength
        obtain ⟨m, hm, hrest⟩ := ih _ (by omega) (isAlphanumeric c) s rfl
        rw [pieces_of_none hat]
        exact ⟨m + 1, by omega, .prose hat hrest⟩

theorem among_of_among_consText {n : Node} {t : Text} {nodes : List Node} (hn : ∀ u, n ≠ .text u)
    (h : n.Among (consText t nodes)) : n.Among nodes := by
  rw [consText] at h
  split at h
  · exact h
  · exact (Node.among_cons_iff.1 h).resolve_left (by simp [hn, Node.inner])

theorem exists_of_among_gatherText {n : Node} {parts : List Piece} (hn : ∀ u, n ≠ .text u)
    (h : n.Among (gatherText parts).2) : ∃ node, .node node ∈ parts ∧ n.Among [node] := by
  induction parts with
  | nil => exact absurd h Node.not_among_nil
  | cons part parts ih =>
    have later (h : n.Among (gatherText parts).2) :
        ∃ node, .node node ∈ part :: parts ∧ n.Among [node] := by
      obtain ⟨node, hnode, h⟩ := ih h
      exact ⟨node, List.mem_cons_of_mem part hnode, h⟩
    cases part with
    | char c => exact later h
    | gap => exact later (among_of_among_consText hn h)
    | node node =>
      rcases Node.among_cons_iff.1 h with hfirst | h
      · exact ⟨node, List.mem_cons_self, Node.among_cons_iff.2 (.inl hfirst)⟩
      · exact later (among_of_among_consText hn h)

/-- What is no prose comes from a construct. -/
theorem exists_of_among_gather {n : Node} {parts : List Piece} (hn : ∀ u, n ≠ .text u)
    (h : n.Among (gather parts)) : ∃ node, .node node ∈ parts ∧ n.Among [node] :=
  exists_of_among_gatherText hn (among_of_among_consText hn h)

/-- A link is found by the reader of links alone. -/
theorem link?_of_at? {afterWord : Bool} {t url : Text}
    (h : Span.at? afterWord s = some (.link t url, rest)) : link? s = some (t, url, rest) := by
  have mapped {α : Type} {x : Option α} {f : α → Span × Text} (hf : ∀ a, (f a).1 ≠ .link t url) :
      x.map f ≠ some (.link t url, rest) := by
    intro heq
    obtain ⟨a, -, ha⟩ := Option.map_eq_some_iff.1 heq
    exact hf a (congrArg Prod.fst ha)
  unfold Span.at? at h
  split at h
  · exact absurd h (mapped fun _ => Span.noConfusion)
  · exact absurd h (mapped fun _ => Span.noConfusion)
  · obtain ⟨found, hlink, heq⟩ := Option.map_eq_some_iff.1 h
    cases heq
    exact hlink
  · unfold Span.ofTag? at h
    repeat' split at h
    all_goals cases h
  · exact absurd h (mapped fun _ => Span.noConfusion)
  · exact absurd h (mapped fun _ => Span.noConfusion)
  · split at h
    · cases h
    · exact absurd h (mapped fun _ => Span.noConfusion)
  · unfold Span.ofBackslash? at h
    repeat' split at h
    all_goals cases h
  · cases h

/-- A link among the nodes that a construct makes is the construct itself or comes from what is
    inside it. -/
theorem link_of_piece {u url : Text} {span : Span} {children : List Node} {node : Node}
    (hpiece : span.piece children = .node node) (h : (Node.link u url).Among [node]) :
    span = .link u url ∨ (Node.link u url).Among children := by
  cases span with
  | code t | image alt src =>
    cases hpiece
    simp [Node.among_cons_iff, Node.inner] at h
  | link t url' =>
    cases hpiece
    exact .inl (by simpa [Node.among_cons_iff, Node.inner, eq_comm] using h)
  | emphasis strength inside =>
    cases hpiece
    cases strength <;> simpa [Strength.node, Node.among_cons_iff, Node.inner] using h
  | element name attributes inside =>
    cases hpiece
    simpa [Node.among_cons_iff, Node.inner] using h
  | escaped c | hidden => cases hpiece

theorem length_lt_of_link_among_pieces {afterWord : Bool} {u url : Text} {node : Node}
    (hnode : .node node ∈ pieces afterWord s) (h : (Node.link u url).Among [node]) :
    u.length < s.length := by
  induction hlength : s.length using Nat.strongRecOn generalizing s afterWord node with
  | ind length ih =>
    cases s with
    | nil =>
      rw [pieces_nil] at hnode
      cases hnode
    | cons c s =>
      cases hat : Span.at? afterWord (c :: s) with
      | some found =>
        obtain ⟨span, rest⟩ := found
        obtain ⟨hrest, hinside⟩ := Span.length_of_at? hat
        rw [hlength] at hrest hinside
        rw [pieces_of_at? hat] at hnode
        rcases List.mem_cons.1 hnode with hpiece | hnode
        · rcases link_of_piece hpiece.symm h with rfl | hchildren
          · have hlink := length_of_link? (link?_of_at? hat)
            omega
          · obtain ⟨child, hchild, h⟩ := exists_of_among_gather (by simp) hchildren
            exact Nat.lt_trans (ih _ hinside hchild h rfl) hinside
        · exact Nat.lt_trans (ih _ hrest hnode h rfl) hrest
      | none =>
        rw [pieces_of_none hat] at hnode
        rw [List.length_cons] at hlength
        rcases List.mem_cons.1 hnode with hpiece | hnode
        · cases hpiece
        · have hshorter := ih s.length (by omega) hnode h rfl
          omega

/-- The text of a link is shorter than the line that the link stands in, at whatever depth. -/
theorem length_lt_of_link_among {t u url : Text} (h : (Node.link u url).Among (parseInline t)) :
    u.length < t.length := by
  obtain ⟨node, hnode, h⟩ := exists_of_among_gather (by simp) h
  exact length_lt_of_link_among_pieces hnode h

end Bindery.Markup
