import Bindery.Proofs.Markup.Parts
import Bindery.Proofs.Markup.Pieces
import Bindery.Proofs.Text.Cutting
import Bindery.Typeset.Mode

namespace Bindery

open Text

/-- A text without the end of a line. -/
def OneLine (s : Text) : Prop :=
  '\n' ∉ s ∧ '\r' ∉ s

theorem oneLine_nil : OneLine [] :=
  ⟨List.not_mem_nil, List.not_mem_nil⟩

theorem OneLine.of_subset {s t : Text} (h : OneLine s) (ht : t ⊆ s) : OneLine t :=
  ⟨fun hmem => h.1 (ht hmem), fun hmem => h.2 (ht hmem)⟩

/-- A destination: some text without blanks and closing parentheses. -/
def IsDestination (s : Text) : Prop :=
  s ≠ [] ∧ ∀ c ∈ s, isBlank c = false ∧ c ≠ ')'

/-- No two blank lines stand next to each other. -/
def SingleBlanks (nodes : List Node) : Prop :=
  ¬[.blank, .blank] <:+: nodes

open Markup Typeset in
/-- The node and all nodes inside it have the shape of the node model, at the place where they
    stand. -/
inductive Node.FitsIn : Place → Node → Prop
  | text {t : Text} (ht : t ≠ []) (hline : OneLine t) : FitsIn .line (.text t)
  | code {t : Text} (ht : t ≠ []) (hline : OneLine t) : FitsIn .line (.code t)
  | link {t url : Text} (hline : OneLine t) (hurl : IsDestination url) : FitsIn .line (.link t url)
  | image {alt src : Text} (hline : OneLine alt) (hsrc : IsDestination src) :
    FitsIn .line (.image alt src)
  | strong {children : List Node} (h : ∀ n ∈ children, FitsIn .line n) :
    FitsIn .line (.strong children)
  | emph {children : List Node} (h : ∀ n ∈ children, FitsIn .line n) : FitsIn .line (.emph children)
  | strongEmph {children : List Node} (h : ∀ n ∈ children, FitsIn .line n) :
    FitsIn .line (.strongEmph children)
  | inner {name : Text} (attributes : Pairs) {children : List Node}
    (hname : isComponent name = true) (h : ∀ n ∈ children, FitsIn .line n) :
    FitsIn .line (.element name attributes children false)
  | paragraph {children : List Node} (h : ∀ n ∈ children, FitsIn .line n) :
    FitsIn .block (.paragraph children)
  | heading {level : Int} {children : List Node} (hlevel : 1 ≤ level ∧ level ≤ 4)
    (h : ∀ n ∈ children, FitsIn .line n) : FitsIn .block (.heading level children)
  | listItem (indent : Int) (ordered : Bool) {children : List Node}
    (h : ∀ n ∈ children, FitsIn .line n) : FitsIn .block (.listItem indent ordered children)
  | rule : FitsIn .block .rule
  | blank : FitsIn .block .blank
  | codeBlock {language code : Text}
    (hlanguage : ∀ c ∈ language, isBlank c = false ∧ c ≠ ',' ∧ c ≠ '\x7b')
    (hcode : code.head? ≠ some '\n' ∧ code.getLast? ≠ some '\n') :
    FitsIn .block (.codeBlock language code)
  | table {header : List (List Node)} {rows : List (List (List Node))}
    (hheader : ∀ cell ∈ header, ∀ n ∈ cell, FitsIn .line n)
    (hrows : ∀ row ∈ rows, ∀ cell ∈ row, ∀ n ∈ cell, FitsIn .line n) :
    FitsIn .block (.table header rows)
  | outer {name : Text} (attributes : Pairs) {children : List Node}
    (hname : isComponent name = true ∧ name ∉ lineNames) (hblanks : SingleBlanks children)
    (h : ∀ n ∈ children, FitsIn .block n) : FitsIn .block (.element name attributes children true)

namespace Markup

open Typeset

variable {s t rest : Text}

theorem ne_nil_unpad (ht : t ≠ []) : unpad t ≠ [] := by
  rw [unpad]
  split
  · next hpadded =>
    simp only [Bool.and_eq_true, decide_eq_true_eq] at hpadded
    refine List.ne_nil_of_length_pos ?_
    rw [List.length_dropLast, List.length_drop]
    omega
  · exact ht

theorem unpad_subset (t : Text) : unpad t ⊆ t := by
  rw [unpad]
  split
  · exact List.Subset.trans (List.dropLast_subset _) (List.drop_subset 1 t)
  · exact List.Subset.refl t

theorem ne_nil_of_beforeRun? {length : Nat} {before : Text} (hs : s.head?.any isTick = false)
    (h : beforeRun? length s = some (before, rest)) : before ≠ [] := by
  cases s with
  | nil =>
    rw [beforeRun?] at h
    cases h
  | cons c s =>
    have htick : ¬isTick c = true := by simpa using hs
    rw [beforeRun?, if_neg htick] at h
    split at h
    · cases h
    · obtain ⟨⟨b, r⟩, -, heq⟩ := Option.map_eq_some_iff.1 h
      obtain ⟨rfl, -⟩ := Prod.mk.inj heq
      exact List.cons_ne_nil c b

/-- Code is not empty, since what follows the opening run does not begin with a backtick. -/
theorem codeSpan?_parts {code : Text} (h : codeSpan? s = some (code, rest)) :
    code ≠ [] ∧ code ⊆ s := by
  rw [codeSpan?] at h
  split at h
  · next length _ =>
    obtain ⟨⟨before, r⟩, hbefore, heq⟩ := Option.map_eq_some_iff.1 h
    obtain ⟨rfl, rfl⟩ := Prod.mk.inj heq
    have hafter := (List.dropWhile_suffix (l := s) isTick).subset
    have hopening := (List.takeWhile_prefix (l := s) isTick).subset
    have hne : before ≠ [] := ne_nil_of_beforeRun? (head?_dropWhile isTick s) hbefore
    have hkept : before ⊆ s := fun c hc => hafter (by
      rw [eq_append_of_beforeRun? hbefore]
      simp [hc])
    -- Backticks that the closing run leaves over are taken from the opening one.
    have hleft : List.replicate ((s.takeWhile isTick).length - length) '\x60' ⊆ s := by
      intro c hc
      obtain ⟨hlength, rfl⟩ := List.mem_replicate.1 hc
      obtain ⟨d, ticks, hticks⟩ : ∃ d ticks, s.takeWhile isTick = d :: ticks := by
        refine List.exists_cons_of_ne_nil fun hnil => hlength ?_
        rw [hnil, List.length_nil, Nat.zero_sub]
      have hd : d ∈ s.takeWhile isTick := hticks ▸ List.mem_cons_self
      have htick := List.all_eq_true.1 List.all_takeWhile d hd
      exact eq_of_beq htick ▸ hopening hd
    refine ⟨ne_nil_unpad (List.append_ne_nil_of_right_ne_nil _ hne), ?_⟩
    exact List.Subset.trans (unpad_subset _) (List.append_subset.2 ⟨hleft, hkept⟩)
  · cases h

theorem isDestination_of_destination? {url : Text} (h : destination? s = some (url, rest)) :
    IsDestination url := by
  unfold destination? at h
  split at h
  · next t =>
    simp only at h
    split at h
    · cases h
    · next hempty =>
      have hdestination : IsDestination (t.takeWhile isDestinationChar) := by
        refine ⟨by simpa using hempty, fun c hc => ?_⟩
        have hkept := List.all_eq_true.1 List.all_takeWhile c hc
        simpa [isDestinationChar, and_comm] using hkept
      split at h
      · cases h
        exact hdestination
      · obtain ⟨r, -, heq⟩ := Option.map_eq_some_iff.1 h
        cases heq
        exact hdestination
  · cases h

/-- Whether what a piece makes can stand in a line. -/
def Piece.FitsIn : Piece → Prop
  | .char c => OneLine [c]
  | .node n => n.FitsIn .line
  | .gap => True

/-- A construct of a line keeps to the line, and makes a node that fits if its content fits. -/
structure Span.FitsIn (span : Span) : Prop where
  inside : OneLine span.inside
  piece : ∀ children, (∀ n ∈ children, Node.FitsIn .line n) → (span.piece children).FitsIn

theorem Span.fitsIn_of_ofTag? {span : Span} (hs : OneLine s)
    (h : Span.ofTag? s = some (span, rest)) : span.FitsIn := by
  have hidden : Span.FitsIn .hidden := ⟨oneLine_nil, fun _ _ => trivial⟩
  unfold Span.ofTag? at h
  split at h
  · cases h
    exact hidden
  · split at h
    · split at h
      · cases h
        exact hidden
      · cases h
    · split at h
      · next tag r hopen =>
        have hafter := (suffix_of_openTag? hopen).subset
        split at h
        · cases h
        · next hname =>
          have hcomponent : isComponent tag.name = true := by simpa using hname
          split at h
          · cases h
            exact ⟨oneLine_nil, fun children => Node.FitsIn.inner _ hcomponent⟩
          · split at h
            · next inside rest' hclosing =>
              obtain ⟨rfl, rfl⟩ := Prod.mk.inj (Option.some.inj h)
              have hinside := (parts_of_closingFrom? hclosing).1.subset
              exact ⟨hs.of_subset (List.Subset.trans hinside hafter),
                fun _ => Node.FitsIn.inner _ hcomponent⟩
            · cases h
              exact hidden
      · cases h

theorem Span.fitsIn_of_ofMark? {mark : Char} {span : Span} (hs : OneLine s)
    (h : Span.ofMark? mark s = some (span, rest)) : span.FitsIn := by
  obtain ⟨⟨strength, inside, r⟩, hemphasis, heq⟩ := Option.map_eq_some_iff.1 h
  obtain ⟨rfl, rfl⟩ := Prod.mk.inj heq
  have hinside := (parts_of_emphasis? hemphasis).1
  refine ⟨hs.of_subset hinside.subset, fun children hchildren => ?_⟩
  cases strength with
  | emph => exact Node.FitsIn.emph hchildren
  | strong => exact Node.FitsIn.strong hchildren
  | strongEmph => exact Node.FitsIn.strongEmph hchildren

theorem Span.fitsIn_of_at? {afterWord : Bool} {span : Span} (hs : OneLine s)
    (h : Span.at? afterWord s = some (span, rest)) : span.FitsIn := by
  unfold Span.at? at h
  split at h
  · obtain ⟨⟨t, r⟩, hcode, heq⟩ := Option.map_eq_some_iff.1 h
    cases heq
    obtain ⟨hne, hpart⟩ := codeSpan?_parts hcode
    exact ⟨oneLine_nil, fun _ _ => Node.FitsIn.code hne (hs.of_subset hpart)⟩
  · obtain ⟨⟨alt, src, r⟩, himage, heq⟩ := Option.map_eq_some_iff.1 h
    cases heq
    obtain ⟨after, rfl, hdestination⟩ := exists_of_image? himage
    have hline : OneLine alt := hs.of_subset fun c hc => by simp [hc]
    have hsrc := isDestination_of_destination? hdestination
    exact ⟨oneLine_nil, fun _ _ => Node.FitsIn.image hline hsrc⟩
  · obtain ⟨⟨t, url, r⟩, hlink, heq⟩ := Option.map_eq_some_iff.1 h
    cases heq
    obtain ⟨after, rfl, hdestination⟩ := exists_of_link? hlink
    have hline : OneLine t := hs.of_subset fun c hc => by simp [hc]
    have hurl := isDestination_of_destination? hdestination
    exact ⟨oneLine_nil, fun _ _ => Node.FitsIn.link hline hurl⟩
  · exact fitsIn_of_ofTag? hs h
  · obtain ⟨r, hcomment, heq⟩ := Option.map_eq_some_iff.1 h
    cases heq
    exact ⟨oneLine_nil, fun _ _ => trivial⟩
  · exact fitsIn_of_ofMark? hs h
  · split at h
    · cases h
    · exact fitsIn_of_ofMark? hs h
  · unfold Span.ofBackslash? at h
    split at h
    · split at h
      · next c tail _ _ =>
        cases h
        have hline : OneLine [c] := hs.of_subset fun d hd => by simp [List.mem_singleton.1 hd]
        exact ⟨oneLine_nil, fun _ _ => hline⟩
      · cases h
    · cases h
  · cases h

theorem consText_fitsIn {nodes : List Node} (ht : OneLine t)
    (hnodes : ∀ n ∈ nodes, n.FitsIn .line) :
    ∀ n ∈ consText t nodes, n.FitsIn .line := by
  rw [consText]
  split
  · exact hnodes
  · next hempty =>
    have hne : t ≠ [] := by simpa using hempty
    exact List.forall_mem_cons.2 ⟨.text hne ht, hnodes⟩

theorem gatherText_fitsIn {parts : List Piece} (h : ∀ p ∈ parts, p.FitsIn) :
    OneLine (gatherText parts).1 ∧ ∀ n ∈ (gatherText parts).2, n.FitsIn .line := by
  induction parts with
  | nil => exact ⟨oneLine_nil, fun n hn => absurd hn List.not_mem_nil⟩
  | cons p parts ih =>
    rw [List.forall_mem_cons] at h
    obtain ⟨htext, hnodes⟩ := ih h.2
    cases p with
    | char c =>
      have hc : OneLine [c] := h.1
      refine ⟨⟨?_, ?_⟩, hnodes⟩
      · rw [gatherText, List.mem_cons, not_or]
        exact ⟨List.ne_of_not_mem_cons hc.1, htext.1⟩
      · rw [gatherText, List.mem_cons, not_or]
        exact ⟨List.ne_of_not_mem_cons hc.2, htext.2⟩
    | node node =>
      exact ⟨oneLine_nil, List.forall_mem_cons.2 ⟨h.1, consText_fitsIn htext hnodes⟩⟩
    | gap => exact ⟨oneLine_nil, consText_fitsIn htext hnodes⟩

theorem gather_fitsIn {parts : List Piece} (h : ∀ p ∈ parts, p.FitsIn) :
    ∀ n ∈ gather parts, n.FitsIn .line := by
  obtain ⟨htext, hnodes⟩ := gatherText_fitsIn h
  exact consText_fitsIn htext hnodes

theorem pieces_fitsIn (afterWord : Bool) (hs : OneLine s) :
    ∀ p ∈ pieces afterWord s, p.FitsIn := by
  induction hlength : s.length using Nat.strongRecOn generalizing s afterWord with
  | ind length ih =>
    cases s with
    | nil =>
      rw [pieces]
      exact fun p hp => absurd hp List.not_mem_nil
    | cons c s =>
      cases hat : Span.at? afterWord (c :: s) with
      | some found =>
        obtain ⟨span, rest⟩ := found
        have hspan := Span.fitsIn_of_at? hs hat
        have hrest := (suffix_of_at? hat).subset
        obtain ⟨hshorter, hinside⟩ := Span.length_of_at? hat
        have hpieces := ih _ (hlength ▸ hinside) false hspan.inside rfl
        rw [pieces_of_at? hat]
        exact List.forall_mem_cons.2 ⟨hspan.piece _ (gather_fitsIn hpieces),
          ih _ (hlength ▸ hshorter) false (hs.of_subset hrest) rfl⟩
      | none =>
        have hc : OneLine [c] := hs.of_subset (List.cons_subset_cons c (List.nil_subset s))
        have hlater : OneLine s := hs.of_subset (List.subset_cons_self c s)
        rw [pieces_of_none hat]
        exact List.forall_mem_cons.2
          ⟨hc, ih _ (hlength ▸ Nat.lt_succ_self _) (isAlphanumeric c) hlater rfl⟩

theorem parseInline_fitsIn (hs : OneLine s) : ∀ n ∈ parseInline s, n.FitsIn .line :=
  gather_fitsIn (pieces_fitsIn false hs)

end Markup

end Bindery
