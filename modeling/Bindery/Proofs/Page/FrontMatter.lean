import Bindery.Page.FrontMatter
import Bindery.Proofs.Pairs
import Bindery.Proofs.Text.Cutting

namespace Bindery

namespace Page

open Text

/-- A key and its value in double quotes. -/
def entryText (pair : Text × Text) : Text :=
  pair.1 ++ ':' :: ' ' :: '\x22' :: (pair.2 ++ ['\x22'])

/-- The line that fences front matter. -/
def fenceLine : Text :=
  ['-', '-', '-']

/-- A page with a line of front matter for each pair. -/
def matterText (pairs : List (Text × Text)) (body : Text) : Text :=
  endLines (fenceLine :: pairs.map entryText ++ [fenceLine]) ++ body

/-- What may stand before the colon of a line without being mistaken for anything else. -/
structure IsKey (key : Text) : Prop where
  ne_nil : key ≠ []
  colon : ':' ∉ key
  newline : '\n' ∉ key
  trimmed : trim key = key
  noFence : ¬fenceLine <+: key

variable {key value : Text}

theorem unquote_quoted (value : Text) : unquote ('\x22' :: (value ++ ['\x22'])) = value := by
  obtain ⟨c, rest, hcons⟩ := List.exists_cons_of_ne_nil (List.append_ne_nil_of_right_ne_nil value
    (List.cons_ne_nil '\x22' []))
  rw [hcons, unquote, ← hcons]
  simp

theorem trim_quoted (value : Text) :
    trim (' ' :: '\x22' :: (value ++ ['\x22'])) = '\x22' :: (value ++ ['\x22']) := by
  have hlast : ('\x22' :: (value ++ ['\x22'])).getLast?.any isBlank = false := by
    rw [← List.cons_append, List.getLast?_concat]
    rfl
  have htrim : trim ([' '] ++ ('\x22' :: (value ++ ['\x22']) ++ [])) =
      '\x22' :: (value ++ ['\x22']) :=
    trimClass_append (by decide) rfl (List.cons_ne_nil _ _) rfl hlast
  rwa [List.append_nil] at htrim

theorem IsKey.pairOf? (h : IsKey key) (value : Text) :
    pairOf? (entryText (key, value)) = some (key, value) := by
  have hempty : ¬key.isEmpty = true := by simpa using h.ne_nil
  rw [entryText, Page.pairOf?, cutAt?_of_not_mem h.colon]
  simp only [h.trimmed, if_neg hempty, trim_quoted, unquote_quoted]

theorem IsKey.not_prefix_entryText (h : IsKey key) (value : Text) :
    ¬fenceLine <+: entryText (key, value) := fun hprefix =>
  h.noFence (prefix_of_prefix_append_cons (by decide) hprefix)

theorem IsKey.newline_not_mem_entryText (h : IsKey key) (hvalue : '\n' ∉ value) :
    '\n' ∉ entryText (key, value) := by
  simp [entryText, h.newline, hvalue]

theorem getLast?_entryText (pair : Text × Text) : (entryText pair).getLast? = some '\x22' := by
  have hshape : entryText pair = pair.1 ++ ':' :: ' ' :: '\x22' :: pair.2 ++ ['\x22'] := by
    simp [entryText]
  rw [hshape, List.getLast?_concat]

theorem entries_joinWith {pairs : List (Text × Text)} (hpairs : pairs ≠ [])
    (hkeys : ∀ pair ∈ pairs, IsKey pair.1) (hvalues : ∀ pair ∈ pairs, '\n' ∉ pair.2) :
    entries (joinWith ['\n'] (pairs.map entryText)) = Pairs.ofList pairs := by
  have hlines : ∀ l ∈ pairs.map entryText, '\n' ∉ l := by
    intro l hl
    obtain ⟨pair, hpair, rfl⟩ := List.mem_map.1 hl
    exact (hkeys pair hpair).newline_not_mem_entryText (hvalues pair hpair)
  have hread : (pairs.map entryText).filterMap pairOf? = pairs := by
    rw [List.filterMap_map]
    exact (List.filterMap_congr fun pair hpair => (hkeys pair hpair).pairOf? pair.2).trans
      List.filterMap_some
  rw [entries, lines_joinWith (by simpa using hpairs) hlines, hread]

variable {word first : Text} {rest block : List Text}

theorem cutAt?_newline_append (hfirst : '\n' ∉ first) (word s : Text) :
    cutAt? ('\n' :: word) (first ++ '\n' :: (word ++ s)) = some (first, s) := by
  induction first with
  | nil =>
    have hstart : afterStart? ('\n' :: word) ('\n' :: (word ++ s)) = some s :=
      afterStart?_append ('\n' :: word) s
    rw [List.nil_append, cutAt?, hstart]
  | cons c first ih =>
    rw [List.mem_cons, not_or] at hfirst
    have hstart : afterStart? ('\n' :: word) (c :: (first ++ '\n' :: (word ++ s))) = none :=
      if_neg (by simpa using hfirst.1)
    rw [List.cons_append, cutAt?, hstart, ih hfirst.2]
    rfl

theorem cutAt?_newline_of_not_prefix (hfirst : '\n' ∉ first) {s : Text} (hs : ¬word <+: s) :
    cutAt? ('\n' :: word) (first ++ '\n' :: s) =
      (cutAt? ('\n' :: word) s).map (Prod.map (first ++ '\n' :: ·) id) := by
  induction first with
  | nil =>
    have hstart : afterStart? ('\n' :: word) ('\n' :: s) = none := by
      rw [afterStart?, if_pos (by decide), afterStart?_eq_none hs]
    rw [List.nil_append, cutAt?, hstart]
    rfl
  | cons c first ih =>
    rw [List.mem_cons, not_or] at hfirst
    have hstart : afterStart? ('\n' :: word) (c :: (first ++ '\n' :: s)) = none :=
      if_neg (by simpa using hfirst.1)
    rw [List.cons_append, cutAt?, hstart, ih hfirst.2]
    cases cutAt? ('\n' :: word) s with
    | none => rfl
    | some found => rfl

/-- Lines are cut before the first one, but for the very first, that begins with the word. -/
theorem cutAt?_lines_append (hword : '\n' ∉ word) (hlines : ∀ l ∈ first :: block, '\n' ∉ l)
    (hblock : ∀ l ∈ block, ¬word <+: l) (s : Text) :
    cutAt? ('\n' :: word) (joinWith ['\n'] (first :: block) ++ '\n' :: (word ++ s)) =
      some (joinWith ['\n'] (first :: block), s) := by
  induction block generalizing first with
  | nil => exact cutAt?_newline_append (hlines first List.mem_cons_self) word s
  | cons next block ih =>
    rw [List.forall_mem_cons] at hlines hblock
    have hnext : ¬word <+: joinWith ['\n'] (next :: block) ++ '\n' :: (word ++ s) := fun hprefix =>
      hblock.1 (prefix_of_prefix_joinWith hword (prefix_of_prefix_append_cons hword hprefix))
    have hshape (t : Text) : joinWith ['\n'] (first :: next :: block) ++ t =
        first ++ '\n' :: (joinWith ['\n'] (next :: block) ++ t) := by
      rw [joinWith_cons (List.cons_ne_nil next block)]
      simp
    rw [hshape, cutAt?_newline_of_not_prefix hlines.1 hnext, ih hlines.2 hblock.2,
      ← List.append_nil (joinWith ['\n'] (first :: next :: block)), hshape]
    simp

theorem cutAt?_newline_of_not_mem {s : Text} (hs : '\n' ∉ s) (word : Text) :
    cutAt? ('\n' :: word) s = none := by
  induction s with
  | nil => rfl
  | cons c s ih =>
    rw [List.mem_cons, not_or] at hs
    have hstart : afterStart? ('\n' :: word) (c :: s) = none := if_neg (by simpa using hs.1)
    rw [cutAt?, hstart, ih hs.2]
    rfl

theorem cutAt?_lines_eq_none (hword : '\n' ∉ word) (hlines : ∀ l ∈ first :: rest, '\n' ∉ l)
    (hrest : ∀ l ∈ rest, ¬word <+: l) :
    cutAt? ('\n' :: word) (joinWith ['\n'] (first :: rest)) = none := by
  induction rest generalizing first with
  | nil => exact cutAt?_newline_of_not_mem (hlines first List.mem_cons_self) word
  | cons next rest ih =>
    rw [List.forall_mem_cons] at hlines hrest
    have hnext : ¬word <+: joinWith ['\n'] (next :: rest) := fun hprefix =>
      hrest.1 (prefix_of_prefix_joinWith hword hprefix)
    rw [joinWith_cons (List.cons_ne_nil next rest), List.append_assoc, List.singleton_append,
      cutAt?_newline_of_not_prefix hlines.1 hnext, ih hlines.2 hrest.2]
    rfl

theorem splitMatter_of_cutAt? {s before after : Text}
    (hreturns : dropReturns (matterStart ++ s) = matterStart ++ s)
    (hcut : cutAt? matterEnd s = some (before, after)) :
    splitMatter (matterStart ++ s) = (entries before, (afterStart? ['\n'] after).getD after) := by
  simp only [splitMatter, hreturns, afterStart?_append, Option.bind_some, hcut]

theorem splitMatter_of_cutAt?_eq_none {s : Text}
    (hreturns : dropReturns (matterStart ++ s) = matterStart ++ s)
    (hcut : cutAt? matterEnd s = none) :
    splitMatter (matterStart ++ s) = ([], matterStart ++ s) := by
  simp only [splitMatter, hreturns, afterStart?_append, Option.bind_some, hcut]

theorem matterText_eq {pairs : List (Text × Text)} (hpairs : pairs ≠ []) (body : Text) :
    matterText pairs body = matterStart ++
      (joinWith ['\n'] (pairs.map entryText) ++ '\n' :: (fenceLine ++ '\n' :: body)) := by
  rw [matterText, endLines_append, endLines_eq_joinWith (List.cons_ne_nil fenceLine _),
    joinWith_cons (by simpa using hpairs)]
  simp [matterStart, fenceLine, endLines]

/-- No return is dropped before the body. -/
theorem dropReturns_matterText {pairs : List (Text × Text)} {body : Text}
    (hlines : ∀ l ∈ pairs.map entryText, '\n' ∉ l) (hbody : ¬['\r', '\n'] <:+: body) :
    dropReturns (matterText pairs body) = matterText pairs body := by
  have hfence : '\n' ∉ fenceLine ∧ fenceLine.getLast? ≠ some '\r' := by decide
  have hparts : ∀ l ∈ fenceLine :: pairs.map entryText ++ [fenceLine],
      '\n' ∉ l ∧ l.getLast? ≠ some '\r' := by
    intro l hl
    rw [List.mem_append, List.mem_cons, List.mem_singleton] at hl
    rcases hl with (rfl | hl) | rfl
    · exact hfence
    · obtain ⟨pair, -, rfl⟩ := List.mem_map.1 hl
      exact ⟨hlines _ hl, by simp [getLast?_entryText]⟩
    · exact hfence
  rw [matterText, dropReturns_endLines hparts, dropReturns_of_not_infix hbody]

/-- Front matter is read back as it was written, and so is the body, whatever the values and the
body hold: a key that is written again keeps its place among the others, and its last value counts.
-/
theorem splitMatter_matterText {pairs : List (Text × Text)} {body : Text} (hpairs : pairs ≠ [])
    (hkeys : ∀ pair ∈ pairs, IsKey pair.1) (hvalues : ∀ pair ∈ pairs, '\n' ∉ pair.2)
    (hbody : ¬['\r', '\n'] <:+: body) :
    ∃ metadata, splitMatter (matterText pairs body) = (metadata, body) ∧
      metadata.map Prod.fst = (pairs.map Prod.fst).eraseDups ∧
      ∀ key, metadata.get? key = Pairs.get? key pairs.reverse := by
  have hlines : ∀ l ∈ pairs.map entryText, '\n' ∉ l ∧ ¬fenceLine <+: l := by
    intro l hl
    obtain ⟨pair, hpair, rfl⟩ := List.mem_map.1 hl
    have hkey := hkeys pair hpair
    exact ⟨hkey.newline_not_mem_entryText (hvalues pair hpair), hkey.not_prefix_entryText pair.2⟩
  have hreturns := dropReturns_matterText (fun l hl => (hlines l hl).1) hbody
  have hcut : cutAt? matterEnd
      (joinWith ['\n'] (pairs.map entryText) ++ '\n' :: (fenceLine ++ '\n' :: body)) =
        some (joinWith ['\n'] (pairs.map entryText), '\n' :: body) := by
    obtain ⟨first, block, hcons⟩ := List.exists_cons_of_ne_nil
      (show pairs.map entryText ≠ [] by simpa using hpairs)
    rw [hcons] at hlines ⊢
    exact cutAt?_lines_append (by decide) (fun l hl => (hlines l hl).1)
      (fun l hl => (hlines l (List.mem_cons_of_mem first hl)).2) ('\n' :: body)
  refine ⟨Pairs.ofList pairs, ?_, Pairs.keys_ofList pairs,
    fun key => Pairs.get?_ofList key pairs⟩
  rw [matterText_eq hpairs] at hreturns ⊢
  rw [splitMatter_of_cutAt? hreturns hcut, entries_joinWith hpairs hkeys hvalues]
  rfl

/-- A title that is written twice, a value and a body with fences in them. -/
theorem splitMatter_matterText_title :
    ∃ metadata, splitMatter (matterText [("title".toList, "a: \x22b".toList),
        ("icon".toList, "---".toList), ("title".toList, " c".toList)]
          "---\nx: y\n---\n".toList) = (metadata, "---\nx: y\n---\n".toList) ∧
      metadata.map Prod.fst = ["title".toList, "icon".toList] ∧
      metadata.get? "title".toList = some " c".toList := by
  have htitle : IsKey "title".toList := ⟨by decide, by decide, by decide, by decide, by decide⟩
  have hicon : IsKey "icon".toList := ⟨by decide, by decide, by decide, by decide, by decide⟩
  have hpairs : ∀ pair ∈ [("title".toList, "a: \x22b".toList), ("icon".toList, "---".toList),
      ("title".toList, " c".toList)], IsKey pair.1 := by
    simpa using ⟨htitle, hicon, htitle⟩
  have hbody : ¬['\r', '\n'] <:+: "---\nx: y\n---\n".toList :=
    fun h => absurd (h.subset List.mem_cons_self) (by decide)
  obtain ⟨metadata, hread, hkeys, hvalues⟩ :=
    splitMatter_matterText (List.cons_ne_nil _ _) hpairs (by decide) hbody
  exact ⟨metadata, hread, hkeys.trans (by decide), (hvalues _).trans (by decide)⟩

end Page

end Bindery
