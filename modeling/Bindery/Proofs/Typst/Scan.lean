import Bindery.Proofs.Typst.Quiet
import Bindery.Text.Class

namespace Bindery.Typst

open Reader

/-- Characters that end a line. -/
def isLineEnd (c : Char) : Bool :=
  c == '\n' || c == '\r' || c == '\x0b' || c == '\x0c' || c == '\x85' || c == '\u2028' ||
    c == '\u2029'

/-- The text has no end of a line in it. -/
def IsLine (s : Text) : Prop :=
  ∀ c ∈ s, isLineEnd c = false

instance (s : Text) : Decidable (IsLine s) :=
  decidable_of_iff (s.all (!isLineEnd ·) = true) (by simp [IsLine])

/-- What a line of markup is so far. -/
inductive LineForm
  /-- Blanks only. -/
  | margin
  /-- Equals signs, which make a heading if a blank follows. -/
  | marks
  /-- A heading, up to its label. -/
  | heading
  | other
  deriving DecidableEq, Repr

/-- What the place of the source belongs to. -/
inductive Stage
  | preamble
  /-- A statement of the preamble, up to the end of its line. -/
  | statement
  /-- Markup, after the preamble. -/
  | content
  deriving DecidableEq, Repr

/-- The state of the scan. -/
structure Scan where
  reader : Reader
  /-- What was read last. -/
  tail : Tail
  form : LineForm
  stage : Stage
  /-- Whether the place is within a comment. -/
  comment : Bool
  deriving DecidableEq, Repr

/-- The state of the reader in the code of a statement, which is read as an argument list is. -/
def statementStart : Reader :=
  ⟨[.list], .list⟩

/-- The stage after one more character. In the preamble, a name with a blank or a colon after it
    begins a statement. -/
def Stage.next (stage : Stage) (q : Reader) (c : Char) : Stage :=
  match stage with
  | .preamble =>
    if q.phase != .name then .preamble
    else if c == ':' || Text.isGap c then .statement
    else if c == '(' || c == '[' then .content
    else .preamble
  | .statement => if q == statementStart && isLineEnd c then .preamble else .statement
  | .content => .content

/-- The form of the line after one more character, which takes the reader from one state to the
    other. -/
def LineForm.next (form : LineForm) (q q' : Reader) (c : Char) : LineForm :=
  if isLineEnd c && q'.readsMarkup then .margin
  else if !q.readsMarkup then form
  else
    match form with
    | .margin => if c == '=' then .marks else if Text.isBlank c then .margin else .other
    | .marks => if c == '=' then .marks else if Text.isBlank c then .heading else .other
    | .heading => if c == '<' then .other else .heading
    | .other => .other

namespace Scan

/-- The state of the reader after one more character. -/
def nextReader (x : Scan) (c : Char) : Option Reader :=
  match x.stage, x.stage.next x.reader c with
  | .preamble, .statement => some statementStart
  | .statement, .preamble => some start
  | _, _ => x.reader.step c

/-- The state after one more character; none at a bracket that closes nothing, and where a block
    comment is opened. -/
def step (x : Scan) (c : Char) : Option Scan :=
  if x.comment && !isLineEnd c then some x
  else if x.tail == .slash && c == '/' then some { x with tail := .free, comment := true }
  else if x.tail == .slash && c == '*' then none
  else (x.nextReader c).map fun q =>
    ⟨q, x.tail.next x.reader c, x.form.next x.reader q c, x.stage.next x.reader c, false⟩

/-- Whether the character is code or markup, and not the text of a comment, of a string or of a
    heading. -/
def shows (x : Scan) (c : Char) : Bool :=
  if x.comment then isLineEnd c
  else
    match x.reader.phase with
    | .string => c == '\x22'
    | .stringEscape => false
    | .escaped => x.form != .heading || isLineEnd c
    | .markup =>
      x.form != .heading || isLineEnd c || x.tail.continuedBy c || (isSpecial c && c != '\\')
    | _ => true

/-- What a text has of code and markup, with the state after it. -/
def read (x : Scan) : Text → Option (Text × Scan)
  | [] => some ([], x)
  | c :: s =>
    (x.step c).bind fun y =>
      (read y s).map fun rest => (if x.shows c then c :: rest.1 else rest.1, rest.2)

/-- A place where nothing is open, at the beginning of a line. -/
def between (stage : Stage) : Scan :=
  ⟨start, .free, .margin, stage, false⟩

end Scan

/-- What a source has outside line comments, string literals and the texts of headings; none if a
    bracket of it closes nothing, a block comment is opened, or something is still open at its
    end. -/
def codeAndMarkup (s : Text) : Option Text :=
  ((Scan.between .preamble).read s).bind fun result =>
    if result.2.reader.isDone then some result.1 else none

example : codeAndMarkup "// a\n#show: book.with(\n  title: \"#b\",\n)\n= \\#c/\\<d\n#e[f]".toList =
    some "//\n#show: book.with(\n  title: \"\",\n)\n= \n#e[f]".toList := by
  decide

namespace Scan

variable {x y z : Scan} {q q' : Reader} {s t k l : Text} {c : Char} {stage : Stage}

theorem read_cons_of (h : x.step c = some y) (hs : y.read s = some (k, z)) :
    x.read (c :: s) = some (if x.shows c then c :: k else k, z) := by
  rw [read, h, Option.bind_some, hs]
  rfl

theorem exists_of_read_cons (h : x.read (c :: s) = some (k, z)) : ∃ y shown,
    x.step c = some y ∧ y.read s = some (shown, z) ∧
      k = if x.shows c then c :: shown else shown := by
  obtain ⟨y, hstep, h⟩ := Option.bind_eq_some_iff.1 h
  obtain ⟨⟨shown, _⟩, hrest, heq⟩ := Option.map_eq_some_iff.1 h
  cases heq
  exact ⟨y, shown, hstep, hrest, rfl⟩

theorem read_append (hs : x.read s = some (k, y)) (ht : y.read t = some (l, z)) :
    x.read (s ++ t) = some (k ++ l, z) := by
  induction s generalizing x k with
  | nil =>
    cases hs
    exact ht
  | cons c s ih =>
    obtain ⟨next, shown, hstep, hrest, rfl⟩ := exists_of_read_cons hs
    rw [List.cons_append, read_cons_of hstep (ih hrest)]
    split <;> rfl

/-- What is shown of a text begins with what is shown of its beginning. -/
theorem prefix_of_read_append (h : x.read (s ++ t) = some (l, z)) (hs : x.read s = some (k, y)) :
    k <+: l := by
  induction s generalizing x k l with
  | nil =>
    cases hs
    exact List.nil_prefix
  | cons c s ih =>
    obtain ⟨next, shown, hstep, hrest, rfl⟩ := exists_of_read_cons hs
    obtain ⟨next', more, hstep', hmore, rfl⟩ := exists_of_read_cons h
    cases hstep.symm.trans hstep'
    have hbegin : shown <+: more := ih hmore hrest
    split
    · exact (List.prefix_cons_inj c).2 hbegin
    · exact hbegin

/-- Where no comment is opened and the stage stays the same, the reader goes on as it does alone. -/
theorem step_of (hcomment : x.comment = false)
    (htail : x.tail = .slash → x.tail.continuedBy c = false)
    (hstage : x.stage.next x.reader c = x.stage) (h : x.reader.step c = some q) :
    x.step c = some ⟨q, x.tail.next x.reader c, x.form.next x.reader q c, x.stage, false⟩ := by
  have hnext : x.nextReader c = some q := by
    rw [nextReader, hstage, ← h]
    cases x.stage <;> rfl
  have hopens (d : Char) (hd : Tail.slash.continuedBy d = true) :
      ¬(x.tail == .slash && c == d) = true := by
    rw [Bool.and_eq_true, beq_iff_eq, beq_iff_eq]
    rintro ⟨hslash, rfl⟩
    exact absurd hd (Bool.eq_false_iff.1 (hslash ▸ htail hslash))
  rw [step, hcomment, Bool.false_and, if_neg Bool.false_ne_true, if_neg (hopens '/' rfl),
    if_neg (hopens '*' rfl), hnext, hstage]
  rfl

/-- A text is read in a place of the content as it is read under a watch for comments, whatever its
    line is there. -/
theorem exists_read_of_watch {w : Watch} (hw : w .slash = true) {before after : Tail}
    (h : w.run (q, before) s = some (q', after)) (form : LineForm) :
    ∃ k form', read ⟨q, before, form, .content, false⟩ s =
      some (k, ⟨q', after, form', .content, false⟩) := by
  induction s generalizing q before form with
  | nil =>
    cases h
    exact ⟨[], form, rfl⟩
  | cons c s ih =>
    obtain ⟨hfree, p, hp, hrest⟩ := Watch.exists_of_run_cons h
    obtain ⟨k, form', hs⟩ := ih hrest (form.next q p c)
    have htail : before = .slash → before.continuedBy c = false := by
      rintro rfl
      exact hfree hw
    have hstep : (⟨q, before, form, .content, false⟩ : Scan).step c =
        some ⟨p, before.next q c, form.next q p c, .content, false⟩ := step_of rfl htail rfl hp
    exact ⟨_, form', read_cons_of hstep hs⟩

/-- The text of a comment is not shown, and does not end it. -/
theorem read_comment (hx : x.comment = true) (hs : IsLine s) : x.read s = some ([], x) := by
  induction s with
  | nil => rfl
  | cons c s ih =>
    have hc : isLineEnd c = false := hs c List.mem_cons_self
    have hstep : x.step c = some x := by
      rw [step, hx, hc]
      rfl
    have hhidden : x.shows c = false := by
      rw [shows, if_pos hx, hc]
    rw [read_cons_of hstep (ih fun d hd => hs d (List.mem_cons_of_mem c hd)), hhidden]
    rfl

/-- A place in the code of the given state, on a line that has begun with something else than a
    heading. -/
def inCode (q : Reader) (stage : Stage) : Scan :=
  ⟨q, .free, .other, stage, false⟩

/-- No stage ends where the code of a statement goes on, and none begins where no name ends. -/
theorem stage_next_eq (hname : q.phase ≠ .name)
    (hcode : stage = .statement → q = statementStart → isLineEnd c = false) :
    stage.next q c = stage := by
  cases stage with
  | preamble => exact if_pos (bne_iff_ne.2 hname)
  | statement =>
    refine if_neg fun hends => ?_
    rw [Bool.and_eq_true, beq_iff_eq] at hends
    exact absurd hends.2 (Bool.eq_false_iff.1 (hcode rfl hends.1))
  | content => rfl

theorem step_inCode (hq : q.readsMarkup = false) (hq' : q'.readsMarkup = false)
    (hcode : stage = .statement → q = statementStart → isLineEnd c = false)
    (htail : Tail.free.next q c = .free) (h : q.step c = some q') :
    (inCode q stage).step c = some (inCode q' stage) := by
  have hname : q.phase ≠ .name := by
    intro hphase
    rw [readsMarkup, hphase] at hq
    cases hq
  have hform : LineForm.other.next q q' c = .other := by
    rw [LineForm.next, hq', Bool.and_false, if_neg Bool.false_ne_true, hq]
    rfl
  rw [step_of (x := inCode q stage) rfl (fun _ => rfl) (stage_next_eq hname hcode) h]
  simp only [inCode, htail, hform]

/-- The characters between the quotes of a literal do not end its string, and are not shown. -/
theorem read_literalChar (stack : List Frame) (stage : Stage) (c : Char) :
    (inCode ⟨stack, .string⟩ stage).read (literalChar c) =
      some ([], inCode ⟨stack, .string⟩ stage) := by
  have hstring (d : Char) {p : Phase} (hp : (⟨stack, p⟩ : Reader).readsMarkup = false)
      (h : (⟨stack, .string⟩ : Reader).step d = some ⟨stack, p⟩) :
      (inCode ⟨stack, .string⟩ stage).step d = some (inCode ⟨stack, p⟩ stage) :=
    step_inCode rfl hp (by simp [statementStart]) (next_of_unread rfl (by simp) _ _) h
  have hescape (d : Char) :
      (inCode ⟨stack, .stringEscape⟩ stage).step d = some (inCode ⟨stack, .string⟩ stage) :=
    step_inCode rfl rfl (by simp [statementStart]) (next_of_unread rfl (by simp) _ _) rfl
  rw [literalChar]
  split
  · exact read_cons_of (hstring ' ' rfl rfl) rfl
  split
  · exact read_cons_of (hstring '\\' rfl rfl) (read_cons_of (hescape '\\') rfl)
  split
  · exact read_cons_of (hstring '\\' rfl rfl) (read_cons_of (hescape '\x22') rfl)
  · next hslash hquote =>
    have hstep : (⟨stack, .string⟩ : Reader).step c = some ⟨stack, .string⟩ := by
      simp_all [Reader.step]
    have hhidden : (inCode ⟨stack, .string⟩ stage).shows c = false := by
      simp_all [shows, inCode]
    rw [read_cons_of (hstring c rfl hstep) rfl, hhidden]
    rfl

theorem read_flatMap_literalChar (stack : List Frame) (stage : Stage) (s : Text) :
    (inCode ⟨stack, .string⟩ stage).read (s.flatMap literalChar) =
      some ([], inCode ⟨stack, .string⟩ stage) := by
  induction s with
  | nil => rfl
  | cons c s ih =>
    rw [List.flatMap_cons, read_append (read_literalChar stack stage c) ih]
    rfl

/-- Of a string literal, only the quotes are shown. -/
theorem read_literal (stack : List Frame) (stage : Stage) (s : Text) :
    (inCode ⟨.list :: stack, .list⟩ stage).read (literal s) =
      some (literal [], inCode ⟨.list :: stack, .list⟩ stage) := by
  have hopen : (inCode ⟨.list :: stack, .list⟩ stage).step '\x22' =
      some (inCode ⟨.list :: stack, .string⟩ stage) :=
    step_inCode rfl rfl (fun _ _ => rfl) (next_of_isInert (by decide) _ _) rfl
  have hclose : (inCode ⟨.list :: stack, .string⟩ stage).step '\x22' =
      some (inCode ⟨.list :: stack, .list⟩ stage) :=
    step_inCode rfl rfl (fun _ _ => rfl) (next_of_isInert (by decide) _ _) rfl
  have hlast : (inCode ⟨.list :: stack, .string⟩ stage).read ['\x22'] =
      some (['\x22'], inCode ⟨.list :: stack, .list⟩ stage) := read_cons_of hclose rfl
  exact read_cons_of hopen (read_append (read_flatMap_literalChar _ stage s) hlast)

/-- The code of an argument list is shown as it is. -/
theorem read_arguments {stack : List Frame} (hstage : stage = .statement → stack ≠ [])
    (hs : s.all isArgument = true) :
    (inCode ⟨.list :: stack, .list⟩ stage).read s =
      some (s, inCode ⟨.list :: stack, .list⟩ stage) := by
  have hcode : stage = .statement → (⟨.list :: stack, .list⟩ : Reader) ≠ statementStart := by
    intro h heq
    exact hstage h (List.cons.inj (congrArg Reader.stack heq)).2
  induction s with
  | nil => rfl
  | cons c s ih =>
    rw [List.all_cons, Bool.and_eq_true] at hs
    obtain ⟨hstep, htail⟩ := step_argument hs.1 stack
    have hnext : (inCode ⟨.list :: stack, .list⟩ stage).step c =
        some (inCode ⟨.list :: stack, .list⟩ stage) :=
      step_inCode rfl rfl (fun h heq => absurd heq (hcode h)) htail hstep
    exact read_cons_of hnext (ih hs.2)

/-- A place in the text of a heading. -/
def inHeading (p : Phase) (tail : Tail) : Scan :=
  ⟨⟨[], p⟩, tail, .heading, .content, false⟩

/-- Nothing of the text goes on with what was read last, which is no expression. -/
def Unjoined (tail : Tail) (t : Text) : Prop :=
  tail = .free ∨ tail = .slash ∧ t.head? ≠ some '/' ∧ t.head? ≠ some '*'

theorem Unjoined.not_continuedBy {tail : Tail} (h : Unjoined tail (c :: t)) :
    tail.continuedBy c = false := by
  rcases h with rfl | ⟨rfl, hslash, hstar⟩
  · rfl
  · simpa [Tail.continuedBy] using And.intro hslash hstar

theorem step_inHeading {p p' : Phase} {tail : Tail} (htail : tail.continuedBy c = false)
    (hline : isLineEnd c = false) (hc : (⟨[], p⟩ : Reader).readsMarkup = true → c ≠ '<')
    (h : (⟨[], p⟩ : Reader).step c = some ⟨[], p'⟩) :
    (inHeading p tail).step c = some (inHeading p' (tail.next ⟨[], p⟩ c)) := by
  have hform : LineForm.heading.next ⟨[], p⟩ ⟨[], p'⟩ c = .heading := by
    rw [LineForm.next, hline, Bool.false_and, if_neg Bool.false_ne_true]
    split
    · rfl
    · next hread => exact if_neg (mt beq_iff_eq.1 (hc (by simpa using hread)))
  rw [step_of (x := inHeading p tail) rfl (fun _ => htail) rfl h]
  simp only [inHeading, hform]

/-- Read in a heading, nothing of the text is shown, and it does not end the heading. -/
def IsHeadingText (t : Text) : Prop :=
  ∀ before, Unjoined before t → ∃ after, (after = .free ∨ after = .slash) ∧
    (inHeading .markup before).read t = some ([], inHeading .markup after)

theorem isHeadingText_nil : IsHeadingText [] :=
  fun before hbefore => ⟨before, hbefore.imp_right And.left, rfl⟩

/-- A backslash hides any character but the end of a line. -/
theorem IsHeadingText.cons_escaped (ht : IsHeadingText t) (hc : isLineEnd c = false) :
    IsHeadingText ('\\' :: c :: t) := by
  intro before _
  obtain ⟨after, hafter, hrest⟩ := ht .free (.inl rfl)
  have hopen : (inHeading .markup before).step '\\' = some (inHeading .escaped .free) := by
    rw [step_inHeading (not_continuedBy_backslash before) rfl (fun _ => by decide) rfl,
      next_of_isInert (by decide)]
  have hescaped : (inHeading .escaped .free).step c = some (inHeading .markup .free) := by
    rw [step_inHeading rfl hc (fun h => absurd h (by decide)) rfl, next_of_unread rfl (by decide)]
  have hslash : (inHeading .markup before).shows '\\' = false := by
    cases before <;> rfl
  have hhidden : (inHeading .escaped .free).shows c = false := hc
  refine ⟨after, hafter, ?_⟩
  rw [read_cons_of hopen (read_cons_of hescaped hrest), hslash, hhidden]
  rfl

/-- Characters without a meaning of their own are text. -/
theorem IsHeadingText.cons_plain (ht : IsHeadingText t) (hc : isLineEnd c = false)
    (hspecial : isSpecial c = false)
    (hslash : c = '/' → t.head? ≠ some '/' ∧ t.head? ≠ some '*') : IsHeadingText (c :: t) := by
  intro before hbefore
  have htail := hbefore.not_continuedBy
  have hplain : start.step c = some start := step_plain rfl (isPlain_of_not_special hspecial)
  have hangle : c ≠ '<' := by
    rintro rfl
    exact absurd hspecial (by decide)
  have hstep := step_inHeading htail hc (fun _ => hangle) hplain
  have hnext : Unjoined (before.next start c) t := by
    rcases Watch.next_cases before start c with ⟨-, hends⟩ | ⟨heq, rfl, -⟩ | ⟨-, -, rfl⟩ | heq
    · cases hends
    · exact .inr ⟨heq, hslash rfl⟩
    · rcases hbefore with h | ⟨h, -⟩ <;> cases h
    · exact .inl heq
  have hhidden : (inHeading .markup before).shows c = false := by
    simp [shows, inHeading, hc, htail, hspecial]
  obtain ⟨after, hafter, hrest⟩ := ht _ hnext
  refine ⟨after, hafter, ?_⟩
  rw [read_cons_of hstep hrest, hhidden]
  rfl

/-- Escaped prose on one line is the text of a heading. -/
theorem isHeadingText_escape (hs : IsLine s) : IsHeadingText (escape s) := by
  refine escape_induction (P := fun s t => IsLine s → IsHeadingText t) (fun _ => isHeadingText_nil)
    ?_ ?_ s hs
  · intro c s t _ ih hs
    rw [IsLine, List.forall_mem_cons] at hs
    exact (ih hs.2).cons_escaped hs.1
  · intro c s t hc hslash ih hs
    rw [IsLine, List.forall_mem_cons] at hs
    exact (ih hs.2).cons_plain hs.1 hc hslash

/-- A line of markup that is read under a watch for comments ends with nothing open. -/
theorem exists_read_line {w : Watch} (hw : w .slash = true) (hs : Quiet w s) (form : LineForm) :
    ∃ k, (⟨start, .free, form, .content, false⟩ : Scan).read (s ++ ['\n']) =
      some (k, between .content) := by
  obtain ⟨after, hs⟩ := hs
  obtain ⟨p, hp, hrun⟩ := hs .markup rfl
  obtain ⟨k, form', hread⟩ := exists_read_of_watch hw hrun form
  have hend : (⟨⟨[], p⟩, after, form', .content, false⟩ : Scan).step '\n' =
      some (between .content) := by
    have htail := not_continuedBy_separator (c := '\n') rfl after
    rw [step_of (x := ⟨⟨[], p⟩, after, form', .content, false⟩) rfl (fun _ => htail) rfl
      (step_plain hp rfl), next_of_isInert (by decide)]
    rfl
  exact ⟨_, read_append hread (read_cons_of hend rfl)⟩

/-- Both texts are read from the one place to the other, and show the same. -/
def Agree (x : Scan) (s t : Text) (y : Scan) : Prop :=
  ∃ k, x.read s = some (k, y) ∧ x.read t = some (k, y)

theorem agree_of_read (h : x.read s = some (k, y)) : Agree x s s y :=
  ⟨k, h, h⟩

theorem Agree.append {s' t' : Text} (h : Agree x s t y) (h' : Agree y s' t' z) :
    Agree x (s ++ s') (t ++ t') z := by
  obtain ⟨k, hs, ht⟩ := h
  obtain ⟨l, hs', ht'⟩ := h'
  exact ⟨k ++ l, read_append hs hs', read_append ht ht'⟩

theorem agree_comment (hx : x.comment = true) (hs : IsLine s) (ht : IsLine t) : Agree x s t x :=
  ⟨[], read_comment hx hs, read_comment hx ht⟩

theorem agree_literal (stack : List Frame) (stage : Stage) (s t : Text) :
    Agree (inCode ⟨.list :: stack, .list⟩ stage) (literal s) (literal t)
      (inCode ⟨.list :: stack, .list⟩ stage) :=
  ⟨literal [], read_literal stack stage s, read_literal stack stage t⟩

end Scan

/-- Both texts have code and markup, and the same. -/
def SameCode (s t : Text) : Prop :=
  ∃ k, codeAndMarkup s = some k ∧ codeAndMarkup t = some k

theorem sameCode_of_agree {s t : Text} {stage : Stage}
    (h : Scan.Agree (.between .preamble) s t (.between stage)) : SameCode s t := by
  obtain ⟨k, hs, ht⟩ := h
  have hdone : (Scan.between stage).reader.isDone = true := rfl
  refine ⟨k, ?_, ?_⟩
  · rw [codeAndMarkup, hs, Option.bind_some, if_pos hdone]
  · rw [codeAndMarkup, ht, Option.bind_some, if_pos hdone]

/-- Texts have different code where what is shown of their beginnings differs. -/
theorem not_sameCode_of_read {s s' t t' k k' : Text} {y y' : Scan}
    (hs : (Scan.between .preamble).read s = some (k, y))
    (hs' : (Scan.between .preamble).read s' = some (k', y')) (hne : ¬(k <+: k' ∨ k' <+: k)) :
    ¬SameCode (s ++ t) (s' ++ t') := by
  have hbegin {s t k l : Text} {y : Scan} (hs : (Scan.between .preamble).read s = some (k, y))
      (h : codeAndMarkup (s ++ t) = some l) : k <+: l := by
    obtain ⟨⟨shown, z⟩, hread, hdone⟩ := Option.bind_eq_some_iff.1 h
    split at hdone
    · cases hdone
      exact Scan.prefix_of_read_append hread hs
    · cases hdone
  rintro ⟨l, h, h'⟩
  exact hne (List.prefix_or_prefix_of_prefix (hbegin hs h) (hbegin hs' h'))

end Bindery.Typst
