import Bindery.Packages.Lexers
import Bindery.Proofs.Markup.LinkText
import Bindery.Proofs.Markup.Prose
import Bindery.Proofs.Typeset.Constructs
import Bindery.Proofs.Typeset.LinkTexts
import Bindery.Proofs.Typst.Shown
import Mathlib.Data.List.TakeWhile

namespace Bindery.Markup

open Text

variable {s t rest url : Text}

/-- Every parenthesis of the text has its partner, at any depth. -/
inductive IsBalanced : Text → Prop
  | nil : IsBalanced []
  | char {c : Char} {s : Text} (hopen : c ≠ '(') (hclose : c ≠ ')') (h : IsBalanced s) :
    IsBalanced (c :: s)
  | parentheses {inside s : Text} (hinside : IsBalanced inside) (h : IsBalanced s) :
    IsBalanced ('(' :: (inside ++ ')' :: s))

theorem IsBalanced.head?_ne (h : IsBalanced s) : s.head? ≠ some ')' := by
  cases h with
  | nil => simp
  | char _ hclose _ => simpa using hclose
  | parentheses _ _ => simp

theorem IsBalanced.mem_iff (h : IsBalanced s) : ')' ∈ s ↔ '(' ∈ s := by
  induction h with
  | nil => simp
  | char hopen hclose _ ih => simp [hopen.symm, hclose.symm, ih]
  | parentheses _ _ _ _ => simp

theorem isBalanced_of_not_mem (hopen : '(' ∉ s) (hclose : ')' ∉ s) : IsBalanced s := by
  induction s with
  | nil => exact .nil
  | cons c s ih =>
    rw [List.mem_cons, not_or] at hopen hclose
    exact .char (Ne.symm hopen.1) (Ne.symm hclose.1) (ih hopen.2 hclose.2)

/-- The part of a destination that is taken: what stands before its first closing parenthesis. -/
def takenOf (url : Text) : Text :=
  url.takeWhile (· != ')')

theorem takenOf_append (hs : ')' ∉ s) (rest : Text) : takenOf (s ++ ')' :: rest) = s := by
  have hchars : s.all (· != ')') = true := List.all_eq_true.2 (forall_bne_iff.2 hs)
  exact takeWhile_append_of_head hchars rfl

theorem takenOf_eq_self_iff : takenOf url = url ↔ ')' ∉ url := by
  rw [takenOf, List.takeWhile_eq_self_iff, forall_bne_iff]

theorem IsBalanced.takenOf_eq_self_iff (h : IsBalanced url) : takenOf url = url ↔ '(' ∉ url := by
  rw [Markup.takenOf_eq_self_iff, h.mem_iff]

/-- It is followed by a closing parenthesis. -/
theorem exists_destinationText (url : Text) :
    ∃ rest, destinationText url = '(' :: (takenOf url ++ ')' :: rest) := by
  by_cases hclose : ')' ∈ url
  · obtain ⟨before, after, rfl, hbefore⟩ := List.eq_append_cons_of_mem hclose
    refine ⟨after ++ [')'], ?_⟩
    rw [takenOf_append hbefore, destinationText]
    simp
  · exact ⟨[], by rw [takenOf_eq_self_iff.2 hclose, destinationText]⟩

theorem IsBalanced.isDestination_takenOf (h : IsBalanced url) (hurl : url ≠ [])
    (hblanks : url.any isBlank = false) : IsDestination (takenOf url) := by
  constructor
  · obtain ⟨c, s, rfl⟩ := List.exists_cons_of_ne_nil hurl
    have hc : c ≠ ')' := by simpa using h.head?_ne
    rw [takenOf, List.takeWhile_cons_of_pos (by simpa using hc)]
    exact List.cons_ne_nil _ _
  · intro c hc
    have hclose := List.all_eq_true.1 List.all_takeWhile c hc
    have hblank := List.any_eq_false.1 hblanks c ((List.takeWhile_prefix _).subset hc)
    exact ⟨Bool.eq_false_iff.2 hblank, by simpa using hclose⟩

/-- A link to the destination. -/
def linkSource (t url : Text) : Text :=
  '[' :: (t ++ ']' :: destinationText url)

/-- An image from there. -/
def imageSource (t url : Text) : Text :=
  '!' :: linkSource t url

theorem at?_link (ht : IsLetters t) (hempty : t ≠ []) (hurl : IsDestination url) (rest : Text) :
    Span.at? false ('[' :: (t ++ ']' :: '(' :: (url ++ ')' :: rest))) =
      some (.link t url, rest) := by
  have hbracket : ']' ∉ t := ht.not_mem (by decide) (by decide)
  have hmark : '!' ∉ t := ht.not_mem (by decide) (by decide)
  have hlink := linkTail?_of_not_mem hbracket hmark (destination?_append hurl rest)
    (Or.inr (a := true = false) hempty)
  have hread : link? ('[' :: (t ++ ']' :: '(' :: (url ++ ')' :: rest))) = some (t, url, rest) :=
    hlink
  simp only [Span.at?, List.head?_cons, hread, Option.map_some]

theorem at?_image (ht : IsLetters t) (hurl : IsDestination url) (rest : Text) :
    Span.at? false ('!' :: '[' :: (t ++ ']' :: '(' :: (url ++ ')' :: rest))) =
      some (.image t url, rest) := by
  have hbracket : ']' ∉ t := ht.not_mem (by decide) (by decide)
  have hread : image? ('!' :: '[' :: (t ++ ']' :: '(' :: (url ++ ')' :: rest))) =
      some (t, url, rest) := by
    rw [image?, upTo?_append hbracket, Option.bind_some]
    simp only [destination?_append hurl, Option.map_some]
  simp only [Span.at?, List.head?_cons, hread, Option.map_some]

/-- A link leads to what is taken of its destination; what is left is read as it stands there. -/
theorem exists_parseInline_linkSource (ht : IsLetters t) (hempty : t ≠ []) (h : IsBalanced url)
    (hurl : url ≠ []) (hblanks : url.any isBlank = false) :
    ∃ rest, destinationText url = '(' :: (takenOf url ++ ')' :: rest) ∧
      parseInline (linkSource t url) = .link t (takenOf url) :: parseInline rest ∧
      parseInline (imageSource t url) = .image t (takenOf url) :: parseInline rest := by
  obtain ⟨rest, hrest⟩ := exists_destinationText url
  have hdestination := h.isDestination_takenOf hurl hblanks
  refine ⟨rest, hrest, ?_, ?_⟩
  · rw [linkSource, hrest]
    exact parseInline_of_at? (at?_link ht hempty hdestination rest) rfl
  · rw [imageSource, linkSource, hrest]
    exact parseInline_of_at? (at?_image ht hdestination rest) rfl

end Bindery.Markup

namespace Bindery.Typeset

open Text Typst Markup

variable {t url : Text}

/-- What the string literal stands for that a text, if it begins with a link, leads to. -/
def linkedTo? (s : Text) : Option Text :=
  match afterStart? "#link(".toList s with
  | some ('\x22' :: argument) => (readLiteral? false argument).map Prod.fst
  | _ => none

theorem linkedTo?_link (hurl : '\n' ∉ url) (body rest : Text) :
    linkedTo? (link url body ++ rest) = some url := by
  have hshape : link url body ++ rest = "#link(".toList ++
      '\x22' :: (url.flatMap literalChar ++ '\x22' :: ')' :: '[' :: (body ++ ']' :: rest)) := by
    rw [link_eq_call, literal]
    simp
  rw [linkedTo?, hshape, afterStart?_append]
  simp only [readLiteral?_literal, onOneLine_eq_self.2 hurl, Option.map_some]

theorem linkedTo?_strong (body rest : Text) : linkedTo? (strong body ++ rest) = none := rfl

/-- Where links are set, a reference is strong text or a link. -/
theorem eq_of_reference {mode : Mode} {body out : Text} (hlinks : mode.links = true)
    (h : reference mode url body = .ok out) : out = strong body ∨ out = link url body := by
  rw [reference, hlinks, if_neg (by decide), bind_eq_ok_iff] at h
  obtain ⟨kind, -, h⟩ := h
  cases kind with
  | inside => exact .inl (pure_eq_ok_iff.1 h).symm
  | mail => exact .inr (pure_eq_ok_iff.1 h).symm
  | outside => exact .inr (pure_eq_ok_iff.1 h).symm

/-- Letters and spaces alone can be set as the text of a link. -/
theorem exists_setLinkText (context : Context) (ht : IsLetters t) (hempty : t ≠ []) :
    ∃ body, setLinkText context t = .ok body := by
  rw [setLinkText_eq_setLinkTextBy, Context.setLinkTextBy, ht.parseInline hempty]
  exact ⟨_, rfl⟩

theorem link_ne_nil (url body : Text) : link url body ≠ [] := by
  rw [link_eq_call]
  exact List.cons_ne_nil _ _

theorem join_cons {first : Text} (hfirst : first ≠ []) (rest : List Text) :
    join (first :: rest) = first ++ joinAfter first rest := by
  have hempty : ¬first.isEmpty = true := by simpa using hfirst
  have hdetach : detach [] first = first := rfl
  rw [join, joinAfter, if_neg hempty, hdetach]

/-- A line that begins with a link is set as one that leads nowhere else, if it can be set. -/
theorem linkedTo?_setInline {context : Context} {mode : Mode} {nodes : List Node} {out : Text}
    (hurl : '\n' ∉ url) (hlinks : mode.links = true)
    (h : setInline context mode (.link t url :: nodes) = .ok out) :
    linkedTo? out = some url ∨ linkedTo? out = none := by
  rw [setInline, bind_eq_ok_iff] at h
  obtain ⟨texts, htexts, h⟩ := h
  obtain rfl := pure_eq_ok_iff.1 h
  obtain ⟨first, others, hfirst, -, rfl⟩ := exists_of_setNodes_cons htexts
  obtain ⟨body, -, hreference⟩ := setNode_link_eq_ok_iff.1 hfirst
  rcases eq_of_reference hlinks hreference with rfl | rfl
  · have hstrong : strong body ≠ [] := List.cons_ne_nil _ _
    rw [join_cons hstrong]
    exact .inr (linkedTo?_strong body _)
  · rw [join_cons (link_ne_nil url body)]
    exact .inl (linkedTo?_link hurl body _)

/-- A link to the web is set as a link that leads there. -/
theorem exists_setInline_link (context : Context) {mode : Mode} (ht : IsLetters t)
    (hempty : t ≠ []) (hurl : '\n' ∉ url) (hlinks : mode.links = true)
    (hkind : Url.kind url = .ok .outside) :
    ∃ out, setInline context mode [.link t url] = .ok out ∧ linkedTo? out = some url := by
  obtain ⟨body, hbody⟩ := exists_setLinkText context ht hempty
  have hreference : reference mode url body = .ok (link url body) := by
    rw [reference, hlinks, hkind]
    rfl
  have hnode : setNode context.env .line mode (.link t url) = .ok (link url body) :=
    setNode_link_eq_ok_iff.2 ⟨body, hbody, hreference⟩
  refine ⟨join [link url body], ?_, ?_⟩
  · rw [setInline, setNodes, hnode]
    rfl
  · rw [join_cons (link_ne_nil url body)]
    exact linkedTo?_link hurl body _

/-- Of a destination whose parentheses have their partners, links and images take what stands before
the first closing parenthesis. So it is taken whole, and a link to the web leads there when it is
set, if and only if it has no parentheses. -/
theorem destination_whole_iff (ht : IsLetters t) (hempty : t ≠ []) (h : IsBalanced url)
    (hurl : url ≠ []) (hblanks : url.any isBlank = false) :
    (parseInline (linkSource t url)).head? = some (.link t (takenOf url)) ∧
    (parseInline (imageSource t url)).head? = some (.image t (takenOf url)) ∧
    (parseInline (linkSource t url) = [.link t url] ↔ '(' ∉ url) ∧
    (parseInline (imageSource t url) = [.image t url] ↔ '(' ∉ url) ∧
    ∀ (context : Context) (mode : Mode), mode.links = true → Url.kind url = .ok .outside →
      ((∃ out, setInline context mode (parseInline (linkSource t url)) = .ok out ∧
        linkedTo? out = some url) ↔ '(' ∉ url) := by
  obtain ⟨rest, hrest, hlink, himage⟩ :=
    exists_parseInline_linkSource ht hempty h hurl hblanks
  have hwhole (hopen : '(' ∉ url) : takenOf url = url := h.takenOf_eq_self_iff.2 hopen
  have hnothing (hopen : '(' ∉ url) : parseInline rest = [] := by
    rw [hwhole hopen, destinationText] at hrest
    obtain rfl := (List.cons.inj (List.append_cancel_left (List.cons.inj hrest).2)).2
    exact parseInline_nil
  refine ⟨by rw [hlink]; rfl, by rw [himage]; rfl, ?_, ?_, fun context mode hlinks hkind => ?_⟩
  · refine ⟨fun hparse => h.takenOf_eq_self_iff.1 ?_, fun hopen => ?_⟩
    · rw [hlink] at hparse
      exact (Node.link.inj (List.cons.inj hparse).1).2
    · rw [hlink, hnothing hopen, hwhole hopen]
  · refine ⟨fun hparse => h.takenOf_eq_self_iff.1 ?_, fun hopen => ?_⟩
    · rw [himage] at hparse
      exact (Node.image.inj (List.cons.inj hparse).1).2
    · rw [himage, hnothing hopen, hwhole hopen]
  · have hline : '\n' ∉ url := fun hmem => List.any_eq_false.1 hblanks _ hmem (by decide)
    have htaken : '\n' ∉ takenOf url := fun hmem => hline ((List.takeWhile_prefix _).subset hmem)
    rw [hlink]
    refine ⟨fun ⟨out, hset, hout⟩ => h.takenOf_eq_self_iff.1 ?_, fun hopen => ?_⟩
    · rcases linkedTo?_setInline htaken hlinks hset with hto | hnone
      · exact Option.some.inj (hto.symm.trans hout)
      · cases hnone.symm.trans hout
    · rw [hnothing hopen, hwhole hopen]
      exact exists_setInline_link context ht hempty hline hlinks hkind

/-- A link to the web. -/
theorem destination_whole_iff_web :
    parseInline "[t](https://a.b)".toList = [.link "t".toList "https://a.b".toList] ∧
      parseInline "![t](https://a.b)".toList = [.image "t".toList "https://a.b".toList] ∧
      ∃ out, setInline ⟨none, []⟩ .full (parseInline "[t](https://a.b)".toList) = .ok out ∧
        linkedTo? out = some "https://a.b".toList := by
  have hbalanced : IsBalanced "https://a.b".toList :=
    isBalanced_of_not_mem (by decide) (by decide)
  have hopen : '(' ∉ "https://a.b".toList := by decide
  have hletters : IsLetters "t".toList := rfl
  obtain ⟨-, -, hlink, himage, hset⟩ :=
    destination_whole_iff hletters (by decide) hbalanced (by decide) (by decide)
  exact ⟨hlink.2 hopen, himage.2 hopen,
    (hset ⟨none, []⟩ .full rfl (by with_unfolding_all rfl)).2 hopen⟩

/-- The parentheses of a name are balanced, and the second of them ends the destination. -/
theorem destination_not_whole :
    IsLetters "t".toList ∧ IsBalanced "a(b)".toList ∧ "a(b)".toList.any isBlank = false ∧
      parseInline "[t](a(b))".toList = [.link "t".toList "a(b".toList, .text ")".toList] ∧
      parseInline "![t](a(b))".toList = [.image "t".toList "a(b".toList, .text ")".toList] ∧
      parseInline "[t](a(b))".toList ≠ [.link "t".toList "a(b)".toList] ∧
      parseInline "![t](a(b))".toList ≠ [.image "t".toList "a(b)".toList] := by
  have hname : IsBalanced "b".toList := isBalanced_of_not_mem (by decide) (by decide)
  have hbalanced : IsBalanced "a(b)".toList :=
    .char (by decide) (by decide) (.parentheses hname .nil)
  have hlink : parseInline "[t](a(b))".toList =
      [.link "t".toList "a(b".toList, .text ")".toList] := by
    with_unfolding_all rfl
  have himage : parseInline "![t](a(b))".toList =
      [.image "t".toList "a(b".toList, .text ")".toList] := by
    with_unfolding_all rfl
  exact ⟨rfl, hbalanced, by decide, hlink, himage, by rw [hlink]; simp, by rw [himage]; simp⟩

end Bindery.Typeset
