import Bindery.Proofs.Markup.Blocks

namespace Bindery.Markup

open Text

/-- The line is a run of at least so many marks, with nothing around it but spaces and tabs. -/
def IsClosingLine (mark : Char) (length : Nat) (line : Text) : Prop :=
  ∃ before count after, line = before ++ (List.replicate count mark ++ after) ∧
    before.all isGap = true ∧ after.all isGap = true ∧ length ≤ count

/-- Code lines between a fence of the given length, with what follows its run, and a closing run. -/
def fencedText (mark : Char) (length : Nat) (info : Text) (lines : List Text) (closing : Nat) :
    Text :=
  joinWith ['\n'] ((List.replicate length mark ++ info) :: (lines ++ [List.replicate closing mark]))

variable {mark : Char}

theorem isGap_of_isFenceMark (hmark : isFenceMark mark = true) : isGap mark = false := by
  rw [isFenceMark, Bool.or_eq_true] at hmark
  rcases hmark with h | h
  · rw [eq_of_beq h]
    decide
  · rw [eq_of_beq h]
    decide

theorem isBlank_of_isFenceMark (hmark : isFenceMark mark = true) : isBlank mark = false := by
  rw [isFenceMark, Bool.or_eq_true] at hmark
  rcases hmark with h | h
  · rw [eq_of_beq h]
    decide
  · rw [eq_of_beq h]
    decide

theorem takeWhile_eq_replicate (c : Char) (s : Text) :
    s.takeWhile (· == c) = List.replicate (s.takeWhile (· == c)).length c := by
  refine List.eq_replicate_of_mem fun d hd => ?_
  exact eq_of_beq (List.all_eq_true.1 List.all_takeWhile d hd)

/-- A run of marks is read to its end. -/
theorem markRun?_replicate (hmark : isFenceMark mark = true) {after : Text}
    (hafter : after.head? ≠ some mark) (n : Nat) :
    markRun? (List.replicate (n + 1) mark ++ after) = some (mark, n + 1, after) := by
  have hall : (List.replicate n mark).all (· == mark) = true := by simp
  have hstop : after.head?.any (· == mark) = false := by
    cases after with
    | nil => rfl
    | cons d after => simpa using hafter
  rw [List.replicate_succ, List.cons_append, markRun?, if_pos hmark,
    takeWhile_append_of_head hall hstop, dropWhile_append_of_head hall hstop, List.length_replicate]

theorem dropWhile_gap_replicate (hmark : isFenceMark mark = true) {before : Text}
    (hbefore : before.all isGap = true) (n : Nat) (after : Text) :
    (before ++ (List.replicate (n + 1) mark ++ after)).dropWhile isGap =
      List.replicate (n + 1) mark ++ after :=
  dropWhile_append_of_head hbefore (isGap_of_isFenceMark hmark)

theorem exists_of_markRun? {s rest : Text} {c : Char} {count : Nat}
    (h : markRun? s = some (c, count, rest)) : s = List.replicate count c ++ rest := by
  cases s with
  | nil => cases h
  | cons d s =>
    rw [markRun?] at h
    split at h
    · obtain ⟨rfl, rfl, rfl⟩ : d = c ∧ _ = count ∧ _ = rest := by simpa using h
      rw [List.replicate_succ, ← takeWhile_eq_replicate, List.cons_append,
        List.takeWhile_append_dropWhile]
    · cases h

section Lines

variable {fence : Fence}

/-- The lines that close a block are those that repeat its opening run. -/
theorem closes_iff (fence : Fence) (hmark : isFenceMark fence.mark = true)
    (hlength : 0 < fence.length) (line : Text) :
    fence.closes line = true ↔ IsClosingLine fence.mark fence.length line := by
  constructor
  · intro h
    rw [Fence.closes] at h
    split at h
    · next c count after hrun =>
      simp only [Bool.and_eq_true, decide_eq_true_eq] at h
      obtain ⟨⟨hc, hcount⟩, hafter⟩ := h
      refine ⟨line.takeWhile isGap, count, after, ?_, List.all_takeWhile, hafter, hcount⟩
      rw [← eq_of_beq hc, ← exists_of_markRun? hrun, List.takeWhile_append_dropWhile]
    · cases h
  · rintro ⟨before, count, after, rfl, hbefore, hafter, hcount⟩
    obtain ⟨n, rfl⟩ := Nat.exists_eq_add_one_of_ne_zero (show count ≠ 0 by omega)
    have hhead : after.head? ≠ some fence.mark := by
      cases after with
      | nil => simp
      | cons d after =>
        rw [List.all_cons, Bool.and_eq_true] at hafter
        intro heq
        have hd : d = fence.mark := by simpa using heq
        rw [hd, isGap_of_isFenceMark hmark] at hafter
        exact absurd hafter.1 (by decide)
    rw [Fence.closes, dropWhile_gap_replicate hmark hbefore, markRun?_replicate hmark hhead]
    simp [hcount, hafter]

theorem body_of_closes {s : Text} (hs : s ≠ []) (h : fence.closes (line s) = true) :
    fence.body s = ([], afterLine s) := by
  obtain ⟨c, s, rfl⟩ := List.exists_cons_of_ne_nil hs
  rw [Fence.body, if_pos h]

theorem body_of_not_closes {s : Text} (hs : s ≠ []) (h : fence.closes (line s) = false) :
    fence.body s = (Fence.dropSpaces fence.indent (line s) :: (fence.body (afterLine s)).1,
      (fence.body (afterLine s)).2) := by
  obtain ⟨c, s, rfl⟩ := List.exists_cons_of_ne_nil hs
  rw [Fence.body, if_neg (by simp [h])]

/-- The block goes to the first closing line, and its lines lose no more than the indentation of
    the fence. -/
theorem body_joinWith {code : List Text} (hcode : ∀ l ∈ code, '\n' ∉ l ∧ fence.closes l = false)
    {closing : Text} (hclosing : '\n' ∉ closing) (hcloses : fence.closes closing = true)
    {tail : Text} (htail : EndsLine tail) :
    fence.body (joinWith ['\n'] (code ++ [closing]) ++ tail) =
      (code.map (Fence.dropSpaces fence.indent), tail.drop 1) := by
  induction code with
  | nil =>
    have hne : closing ≠ [] := by
      rintro rfl
      cases hcloses
    have hline := line_append_of_endsLine hclosing htail
    have hafter := afterLine_append_of_endsLine hclosing htail
    have hbody := body_of_closes (List.append_ne_nil_of_left_ne_nil hne tail)
      (hline.symm ▸ hcloses)
    rw [hafter] at hbody
    exact hbody
  | cons l code ih =>
    rw [List.forall_mem_cons] at hcode
    obtain ⟨⟨hnewline, hopen⟩, hcode⟩ := hcode
    have hends : EndsLine ('\n' :: (joinWith ['\n'] (code ++ [closing]) ++ tail)) := .inr ⟨_, rfl⟩
    have hline := line_append_of_endsLine hnewline hends
    have hafter := afterLine_append_of_endsLine hnewline hends
    rw [List.cons_append, joinWith_cons (by simp), List.append_assoc, List.append_assoc,
      List.singleton_append, body_of_not_closes (by simp) (by rw [hline]; exact hopen), hline,
      hafter, List.drop_one, List.tail_cons, ih hcode, List.map_cons]

theorem dropSpaces_zero (s : Text) : Fence.dropSpaces 0 s = s := by
  rw [Fence.dropSpaces]
  simp

end Lines

/-- Code between two runs of a mark, as it is written. -/
structure WrittenFence where
  mark : Char
  /-- The length of the opening run. -/
  length : Nat
  /-- What stands before the opening run on its line. -/
  indent : Text
  /-- What follows the opening run on its line. -/
  info : Text
  code : List Text
  /-- What stands before the closing run on its line. -/
  before : Text
  /-- The length of the closing run. -/
  closing : Nat
  /-- What follows the closing run on its line. -/
  after : Text

namespace WrittenFence

def openingLine (F : WrittenFence) : Text :=
  F.indent ++ (List.replicate F.length F.mark ++ F.info)

def closingLine (F : WrittenFence) : Text :=
  F.before ++ (List.replicate F.closing F.mark ++ F.after)

def text (F : WrittenFence) : Text :=
  joinWith ['\n'] (F.openingLine :: (F.code ++ [F.closingLine]))

/-- The fence that is read from the opening line. -/
def fence (F : WrittenFence) : Fence :=
  ⟨F.mark, F.length, F.indent.length, trim F.info⟩

/-- The runs are fences, the closing one at least as long as the opening one, and no line of the
    code closes the block before. -/
structure WellFormed (F : WrittenFence) : Prop where
  mark : isFenceMark F.mark = true
  length : 3 ≤ F.length
  closing : F.length ≤ F.closing
  indent : F.indent.all isGap = true
  before : F.before.all isGap = true
  after : F.after.all isGap = true
  info : '\n' ∉ F.info
  head : F.info.head? ≠ some F.mark
  code : ∀ l ∈ F.code, '\n' ∉ l ∧ ¬IsClosingLine F.mark F.length l

variable {F : WrittenFence}

theorem mark_ne (hmark : isFenceMark mark = true) {c : Char} (hc : isFenceMark c = false) :
    c ≠ mark := by
  rintro rfl
  rw [hc] at hmark
  cases hmark

theorem not_mem_gaps {s : Text} (hs : s.all isGap = true) {c : Char} (hc : isGap c = false) :
    c ∉ s := by
  intro hmem
  rw [List.all_eq_true.1 hs c hmem] at hc
  cases hc

theorem WellFormed.not_mem_run (hF : F.WellFormed) {c : Char} (hc : isFenceMark c = false)
    (n : Nat) : c ∉ List.replicate n F.mark := fun h =>
  mark_ne hF.mark hc (List.eq_of_mem_replicate h)

theorem WellFormed.not_mem_openingLine (hF : F.WellFormed) {c : Char} (hc : isFenceMark c = false)
    (hgap : isGap c = false) (hinfo : c ∉ F.info) : c ∉ F.openingLine := by
  simp [openingLine, List.mem_append, hF.not_mem_run hc, not_mem_gaps hF.indent hgap, hinfo]

theorem WellFormed.not_mem_closingLine (hF : F.WellFormed) {c : Char} (hc : isFenceMark c = false)
    (hgap : isGap c = false) : c ∉ F.closingLine := by
  simp [closingLine, List.mem_append, hF.not_mem_run hc, not_mem_gaps hF.before hgap,
    not_mem_gaps hF.after hgap]

theorem WellFormed.not_mem_text (hF : F.WellFormed) {c : Char} (hnewline : c ≠ '\n')
    (hc : isFenceMark c = false) (hgap : isGap c = false) (hinfo : c ∉ F.info)
    (hcode : ∀ l ∈ F.code, c ∉ l) : c ∉ F.text := by
  intro hmem
  rcases mem_of_mem_joinWith hmem with h | ⟨l, hl, h⟩
  · exact hnewline (List.mem_singleton.1 h)
  rw [List.mem_cons, List.mem_append, List.mem_singleton] at hl
  rcases hl with rfl | hl | rfl
  · exact hF.not_mem_openingLine hc hgap hinfo h
  · exact hcode l hl h
  · exact hF.not_mem_closingLine hc hgap h

theorem WellFormed.exists_length (hF : F.WellFormed) : ∃ n, F.length = n + 1 :=
  Nat.exists_eq_add_one_of_ne_zero (Nat.ne_of_gt (Nat.lt_of_lt_of_le (by decide) hF.length))

theorem WellFormed.mark_mem_openingLine (hF : F.WellFormed) : F.mark ∈ F.openingLine := by
  obtain ⟨n, hn⟩ := hF.exists_length
  simp [openingLine, hn, List.replicate_succ]

theorem WellFormed.text_ne_nil (hF : F.WellFormed) : F.text ≠ [] := by
  have hstart : F.openingLine <+: F.text := prefix_joinWith ['\n'] _ _
  intro hnil
  rw [hnil] at hstart
  exact absurd (hstart.subset hF.mark_mem_openingLine) List.not_mem_nil

theorem WellFormed.dropWhile_openingLine (hF : F.WellFormed) :
    F.openingLine.dropWhile isGap = List.replicate F.length F.mark ++ F.info := by
  obtain ⟨n, hn⟩ := hF.exists_length
  rw [openingLine, hn, dropWhile_gap_replicate hF.mark hF.indent]

theorem WellFormed.markRun?_openingLine (hF : F.WellFormed) :
    markRun? (F.openingLine.dropWhile isGap) = some (F.mark, F.length, F.info) := by
  obtain ⟨n, hn⟩ := hF.exists_length
  rw [hF.dropWhile_openingLine, hn, markRun?_replicate hF.mark hF.head]

theorem WellFormed.ofLine?_openingLine (hF : F.WellFormed) :
    Fence.ofLine? F.openingLine = some F.fence := by
  have htake : F.openingLine.takeWhile isGap = F.indent := by
    have hsplit := List.takeWhile_append_dropWhile (p := isGap) (l := F.openingLine)
    rw [hF.dropWhile_openingLine, openingLine] at hsplit
    exact List.append_cancel_right hsplit
  rw [Fence.ofLine?, hF.markRun?_openingLine, htake]
  exact if_pos hF.length

theorem WellFormed.closes_iff (hF : F.WellFormed) (line : Text) :
    F.fence.closes line = true ↔ IsClosingLine F.mark F.length line :=
  Markup.closes_iff F.fence hF.mark (Nat.lt_of_lt_of_le (by decide) hF.length) line

/-- The block reading takes a written fence as one block, up to the end of its closing line. -/
theorem WellFormed.next_text (hF : F.WellFormed) {tail : Text} (htail : EndsLine tail) :
    Block.next (F.text ++ tail) =
      (.leaf (.codeBlock F.fence.language
        (Fence.code (F.code.map (Fence.dropSpaces F.indent.length)))), tail.drop 1) := by
  have hopening : '\n' ∉ F.openingLine :=
    hF.not_mem_openingLine (by decide) (by decide) hF.info
  have hclosing : '\n' ∉ F.closingLine := hF.not_mem_closingLine (by decide) (by decide)
  have hlines : ∀ l ∈ F.code, '\n' ∉ l ∧ F.fence.closes l = false := by
    intro l hl
    refine ⟨(hF.code l hl).1, ?_⟩
    rw [← Bool.not_eq_true, hF.closes_iff]
    exact (hF.code l hl).2
  have hcloses : F.fence.closes F.closingLine = true :=
    (hF.closes_iff _).2 ⟨F.before, F.closing, F.after, rfl, hF.before, hF.after, hF.closing⟩
  have hbody := body_joinWith hlines hclosing hcloses htail
  have hends : EndsLine ('\n' :: (joinWith ['\n'] (F.code ++ [F.closingLine]) ++ tail)) :=
    .inr ⟨_, rfl⟩
  have hline := line_append_of_endsLine hopening hends
  have hafter := afterLine_append_of_endsLine hopening hends
  have hshown : ¬allBlank F.openingLine = true := by
    intro hall
    have hblank := List.all_eq_true.1 hall F.mark hF.mark_mem_openingLine
    rw [isBlank_of_isFenceMark hF.mark] at hblank
    cases hblank
  rw [text, joinWith_cons (by simp), List.append_assoc, List.append_assoc, List.singleton_append,
    Block.next, hline, hafter, if_neg hshown, hF.ofLine?_openingLine, List.drop_one, List.tail_cons]
  simp only [hbody]
  rfl

/-- A written fence is one node of the page. -/
theorem WellFormed.parse_text (hF : F.WellFormed) (hreturn : '\r' ∉ F.text) :
    parse F.text = [.codeBlock F.fence.language
      (Fence.code (F.code.map (Fence.dropSpaces F.indent.length)))] := by
  have hnext := hF.next_text (.inl rfl)
  rw [List.append_nil, List.drop_nil] at hnext
  exact parse_of_next (normalizeNewlines_of_not_mem hreturn) hF.text_ne_nil hnext

end WrittenFence

/-- The fence that a run of marks at the beginning of a line opens, with what follows the run. -/
def openingFence (mark : Char) (length : Nat) (info : Text) : Fence :=
  ⟨mark, length, 0, trim info⟩

theorem closes_openingFence (hmark : isFenceMark mark = true) {length : Nat} (hlength : 3 ≤ length)
    (info line : Text) :
    (openingFence mark length info).closes line = true ↔ IsClosingLine mark length line :=
  closes_iff (openingFence mark length info) hmark (Nat.lt_of_lt_of_le (by decide) hlength) line

theorem not_isClosingLine (hmark : isFenceMark mark = true) {length : Nat} (hlength : 3 ≤ length)
    (line : Text) (h : (openingFence mark length []).closes line = false) :
    ¬IsClosingLine mark length line := by
  rw [← closes_openingFence hmark hlength [] line, h]
  exact Bool.false_ne_true

/-- Code between fences is one node, which keeps the lines of the code. -/
theorem parse_fencedText (hmark : isFenceMark mark = true) {length closing : Nat}
    (hlength : 3 ≤ length) (hclosing : length ≤ closing) {info : Text} (hinfo : '\n' ∉ info)
    (hreturn : '\r' ∉ info) (hhead : info.head? ≠ some mark) {code : List Text}
    (hcode : ∀ l ∈ code, '\n' ∉ l ∧ '\r' ∉ l ∧ ¬IsClosingLine mark length l) :
    parse (fencedText mark length info code closing) =
      [.codeBlock (openingFence mark length info).language (Fence.code code)] := by
  let F : WrittenFence := ⟨mark, length, [], info, code, [], closing, []⟩
  have hF : F.WellFormed := ⟨hmark, hlength, hclosing, rfl, rfl, rfl, hinfo, hhead,
    fun l hl => ⟨(hcode l hl).1, (hcode l hl).2.2⟩⟩
  have htext : fencedText mark length info code closing = F.text := by
    simp [fencedText, F, WrittenFence.text, WrittenFence.openingLine, WrittenFence.closingLine]
  have hkept : F.code.map (Fence.dropSpaces F.indent.length) = code :=
    (List.map_congr_left fun l _ => dropSpaces_zero l).trans (List.map_id' code)
  have hparse := hF.parse_text
    (hF.not_mem_text (by decide) (by decide) (by decide) hreturn fun l hl => (hcode l hl).2.1)
  rw [hkept] at hparse
  rw [htext, hparse]
  rfl

end Bindery.Markup
