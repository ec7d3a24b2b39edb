import Bindery.Proofs.Typst.Covered

namespace Bindery.Typst

open Text Reader

variable {q : Reader} {s t : Text} {p : Phase} {l l' : LineState}

theorem Nested.append (hs : Nested s) (ht : Nested t) : Nested (s ++ t) := by
  intro stack p htop hp
  obtain ⟨p₁, hp₁, hfirst⟩ := hs stack p htop hp
  obtain ⟨p₂, hp₂, hsecond⟩ := ht stack p₁ htop hp₁
  exact ⟨p₂, hp₂, by rw [reader_append_of hfirst, hsecond]⟩

theorem isCovered_calm (hp : p.isCalm = true) : (⟨[], p⟩ : Reader).isCovered = false := by
  cases p <;> simp_all [Phase.isCalm, isCovered]

/-- After an argument list, the same of a piece is bare as anywhere else. -/
theorem Nested.bare_calm (hs : Nested s) (hp : p.isCalm = true) :
    (⟨[], p⟩ : Reader).bare s = start.bare s := by
  cases s with
  | nil => rfl
  | cons c s =>
    have hstep : (⟨[], p⟩ : Reader).step c = start.step c := by
      rw [step_calm hp hs.head_ne]
      exact (step_calm rfl hs.head_ne).symm
    rw [bare, bare, hstep, isCovered_calm hp]
    rfl

theorem Nested.bare_append (hs : Nested s) (ht : Nested t) :
    start.bare (s ++ t) = start.bare s ++ start.bare t := by
  obtain ⟨p, hp, hrun⟩ := hs.exists_run
  exact (Typst.bare_append hrun t).trans (congrArg _ (ht.bare_calm hp))

theorem Nested.allBlank_bare (hs : Nested s) : allBlank (start.bare s) = allBlank s := by
  obtain ⟨p, -, hrun⟩ := hs.exists_run
  exact Typst.allBlank_bare rfl hrun

/-- The piece is read as markup, and wherever it stands on a line, its lines are in order: a piece
    of blanks leaves its line as it is, and any other piece begins and ends on lines that something
    is shown on, without two blank lines in a row on the way. -/
structure Tidy (s : Text) : Prop where
  nested : Nested s
  after : ∀ l : LineState, l.after (start.bare s) = some (if allBlank s then l else .shown)

theorem tidy_of_bare (hs : Nested s) (h : '\n' ∉ start.bare s) : Tidy s where
  nested := hs
  after := fun l => by rw [LineState.after_of_not_mem h, hs.allBlank_bare]

theorem tidy_of_not_mem (hs : Nested s) (h : '\n' ∉ s) : Tidy s :=
  tidy_of_bare hs fun hmem => h ((bare_sublist start s).subset hmem)

theorem tidy_nil : Tidy [] :=
  tidy_of_not_mem (nested_iff_quiet.2 (quiet_nil _)) List.not_mem_nil

theorem Tidy.append (hs : Tidy s) (ht : Tidy t) : Tidy (s ++ t) where
  nested := hs.nested.append ht.nested
  after := fun l => by
    rw [hs.nested.bare_append ht.nested, LineState.after_append_of (hs.after l), ht.after,
      allBlank_append]
    cases allBlank s <;> cases allBlank t <;> rfl

theorem Tidy.after_blank (hs : Tidy s) (hshown : allBlank s = false) (below : Bool) :
    (LineState.blank below).after (start.bare s) = some .shown := by
  rw [hs.after, hshown]
  rfl

/-- Where the source is bare, a tidy piece has no two blank lines in a row. -/
theorem Tidy.not_blankRun {before rest : Text} (hs : Tidy (before ++ rest))
    (hbefore : start.run before = some q) (hq : q.isCovered = false) : ¬BlankRun rest := by
  rintro ⟨gap, gap', tail, rfl, hgap, hgap'⟩
  have hblank : allBlank ('\n' :: gap ++ '\n' :: gap' ++ ['\n']) = true := by
    simp only [allBlank_append, allBlank_cons, hgap, hgap']
    decide
  have hshape : '\n' :: gap ++ '\n' :: gap' ++ '\n' :: tail =
      ('\n' :: gap ++ '\n' :: gap' ++ ['\n']) ++ tail := by simp
  have hafter := hs.after .shown
  obtain ⟨p, -, hrun⟩ := hs.nested.exists_run
  rw [reader_append_of hbefore, hshape] at hrun
  obtain ⟨q', hgaps, -⟩ := exists_of_reader_append hrun
  rw [bare_append hbefore, hshape, bare_append hgaps, bare_of_allBlank hq hblank hgaps] at hafter
  refine LineState.not_blankRun_of_after hafter ⟨gap, gap', q'.bare tail, ?_, hgap, hgap'⟩
  simp

/-- A tidy piece that something is shown of begins and ends on lines that are not blank. -/
theorem Tidy.shownEdges (hs : Tidy s) (hshown : allBlank s = false) : ShownEdges s := by
  have hafter := hs.after_blank hshown true
  obtain ⟨p, hp, hrun⟩ := hs.nested.exists_run
  have hfirst : allBlank (line s) = false := by
    rw [← Bool.not_eq_true]
    intro hline
    obtain ⟨tail, hends, heq, -⟩ := exists_endsLine s
    rw [heq] at hrun
    obtain ⟨q, hread, htail⟩ := exists_of_reader_append hrun
    have hq : q.isCovered = false := isCovered_run_of_allBlank hline hread
    have hbare : start.bare s = line s ++ q.bare tail := by
      calc start.bare s = start.bare (line s ++ tail) := congrArg start.bare heq
        _ = line s ++ q.bare tail := by
          rw [bare_append hread, bare_of_allBlank rfl hline hread]
    have hends' : EndsLine (q.bare tail) := by
      rcases hends with rfl | ⟨rest, rfl⟩
      · exact .inl rfl
      · obtain ⟨q', hstep, -⟩ := exists_of_reader_cons htail
        exact .inr ⟨_, bare_cons_of_uncovered hq hstep rest⟩
    have hfalse := LineState.allBlank_line_of_after hafter
    rw [hbare, line_append_of_endsLine (newline_not_mem_line s) hends', hline] at hfalse
    cases hfalse
  refine ⟨fun l hl => ?_, fun l hl => ?_⟩
  · rw [head?_lines] at hl
    exact Option.some.inj hl ▸ hfirst
  · rcases eq_append_of_getLast?_lines hl with rfl | ⟨before, rfl⟩
    · exact hshown
    · rw [← Bool.not_eq_true]
      intro hlast
      obtain ⟨q, hread, htail⟩ := exists_of_reader_append hrun
      have hblank : allBlank ('\n' :: l) = true := hlast
      have hq : q.isCovered = false :=
        (isCovered_run_of_allBlank hblank htail).symm.trans (isCovered_calm hp)
      rw [bare_append hread, bare_of_allBlank hq hblank htail] at hafter
      rw [LineState.allBlank_last_of_after hafter] at hlast
      cases hlast

/-- A line break, or a blank line. -/
def IsBreak (s : Text) : Prop :=
  s = ['\n'] ∨ s = ['\n', '\n']

/-- Two pieces below each other, if something is shown of both. -/
theorem Tidy.below {sep : Text} (hs : Tidy s) (hsep : IsBreak sep) (ht : Tidy t)
    (hshown : allBlank s = false) (hshown' : allBlank t = false) : Tidy (s ++ sep ++ t) := by
  obtain ⟨hplain, l, hl⟩ : Nested sep ∧ ∃ l, LineState.shown.after (start.bare sep) = some l := by
    rcases hsep with rfl | rfl
    · exact ⟨nested_iff_quiet.2 (quiet_of_plain _ (by decide) (by decide)), _, rfl⟩
    · exact ⟨nested_iff_quiet.2 (quiet_of_plain _ (by decide) (by decide)), _, rfl⟩
  have hnested := hs.nested.append hplain
  refine ⟨hnested.append ht.nested, fun l₀ => ?_⟩
  have hfirst : l₀.after (start.bare s) = some .shown := by rw [hs.after, hshown]; rfl
  have hlast : l.after (start.bare t) = some .shown := by rw [ht.after, hshown']; rfl
  rw [hnested.bare_append ht.nested, hs.nested.bare_append hplain, List.append_assoc,
    LineState.after_append_of hfirst, LineState.after_append_of hl, hlast, allBlank_append,
    allBlank_append, hshown]
  rfl

theorem bare_plain {c : Char} (hc : isPlain c = true) (s : Text) :
    start.bare (c :: s) = c :: start.bare s :=
  bare_cons_of_uncovered rfl (step_plain rfl hc) s

theorem bare_escaped (c : Char) (s : Text) :
    start.bare ('\\' :: c :: s) = '\\' :: c :: start.bare s := by
  have hopen : start.step '\\' = some ⟨[], .escaped⟩ := rfl
  have hescaped : (⟨[], .escaped⟩ : Reader).step c = some start := rfl
  rw [bare_cons_of_uncovered rfl hopen, bare_cons_of_uncovered rfl hescaped]

/-- A backslash before a character that stands for itself shows a line, and changes nothing else. -/
theorem Tidy.cons_backslash {c : Char} (hs : Tidy (c :: s)) (hc : isPlain c = true) :
    Tidy ('\\' :: c :: s) := by
  have hstep {stack : List Frame} {p : Phase} (hp : p.isCalm = true) :
      (⟨stack, p⟩ : Reader).step '\\' = some ⟨stack, .escaped⟩ := step_calm hp (by decide)
  have hescaped (stack : List Frame) :
      (⟨stack, .escaped⟩ : Reader).step c = some ⟨stack, .markup⟩ := rfl
  have hplain (stack : List Frame) :
      (⟨stack, .markup⟩ : Reader).step c = some ⟨stack, .markup⟩ := step_plain rfl hc
  have hnested : Nested ('\\' :: c :: s) := by
    intro stack p htop hp
    obtain ⟨p', hp', hrun⟩ := hs.nested stack .markup htop rfl
    rw [Reader.run_cons_of (hplain stack)] at hrun
    refine ⟨p', hp', ?_⟩
    rw [Reader.run_cons_of (hstep hp), Reader.run_cons_of (hescaped stack), hrun]
  refine ⟨hnested, fun l => ?_⟩
  rw [bare_escaped, ← bare_plain hc, LineState.after_cons_of (LineState.next_of_shown rfl),
    hs.after, ite_self]
  rfl

/-- A piece that ends with a block has only its head bare. -/
theorem tidy_append_block {head body : Text} (hhead : '\n' ∉ head) (hrun : start.run head = some q)
    (hopen : q.step '[' = some ⟨[.block], .markup⟩) (hq : q.isCovered = false)
    (hbody : Nested body) (hs : Nested (head ++ ('[' :: body ++ [']']))) :
    Tidy (head ++ ('[' :: body ++ [']'])) := by
  refine tidy_of_bare hs ?_
  rw [bare_append hrun, hbody.bare_block hopen hq, List.mem_append, not_or]
  exact ⟨fun hmem => hhead ((bare_sublist start head).subset hmem), by decide⟩

theorem not_mem_of_isName {name : Text} (hname : isName name = true) : '\n' ∉ '#' :: name := by
  cases name with
  | nil => decide
  | cons c name =>
    rw [isName, Bool.and_eq_true] at hname
    rw [List.mem_cons, List.mem_cons, not_or, not_or]
    refine ⟨by decide, ?_, fun hmem => ?_⟩
    · rintro rfl
      exact absurd hname.1 (by decide)
    · exact absurd (List.all_eq_true.1 hname.2 _ hmem) (by decide)

theorem run_name_start {name : Text} (hname : isName name = true) :
    start.run ('#' :: name) = some ⟨[], .name⟩ :=
  Watch.reader_run (run_name (w := .idle) (p := .markup) rfl hname .free)

theorem tidy_call {name body : Text} (hname : isName name = true) (hbody : Nested body) :
    Tidy ('#' :: name ++ '[' :: body ++ [']']) := by
  have hs := nested_iff_quiet.2 ((nested_iff_quiet.1 hbody).call hname)
  rw [List.append_assoc] at hs ⊢
  exact tidy_append_block (not_mem_of_isName hname) (run_name_start hname) rfl rfl hbody hs

theorem tidy_callWith {name args body : Text} (hname : isName name = true)
    (hargs : QuietList .idle args) (hline : '\n' ∉ args) (hbody : Nested body) :
    Tidy ('#' :: name ++ '(' :: args ++ ')' :: '[' :: body ++ [']']) := by
  have hs := nested_iff_quiet.2 (hargs.callWith hname (nested_iff_quiet.1 hbody))
  have hshape : ('#' :: name ++ '(' :: args ++ ')' :: '[' :: body ++ [']'] : Text) =
      ('#' :: name ++ ('(' :: args ++ [')'])) ++ ('[' :: body ++ [']']) := by simp
  have hrun : start.run ('#' :: name ++ ('(' :: args ++ [')'])) = some ⟨[], .called⟩ := by
    rw [reader_append_of (run_name_start hname)]
    exact Watch.reader_run hargs.run_arguments
  have hhead : '\n' ∉ '#' :: name ++ ('(' :: args ++ [')']) := by
    have hsign := not_mem_of_isName hname
    rw [List.mem_append, not_or]
    exact ⟨hsign, by simp [hline]⟩
  rw [hshape] at hs ⊢
  exact tidy_append_block hhead hrun rfl rfl hbody hs

theorem newline_not_mem_literal (s : Text) : '\n' ∉ literal s := by
  have hchar (c : Char) : '\n' ∉ literalChar c := by
    rw [literalChar]
    split
    · decide
    split
    · decide
    split
    · decide
    · next hnewline _ _ =>
      rw [List.mem_singleton]
      rintro rfl
      exact hnewline rfl
  have hchars : '\n' ∉ s.flatMap literalChar := by
    rw [List.mem_flatMap]
    rintro ⟨c, -, hc⟩
    exact hchar c hc
  simp [literal, hchars]

/-- Read within an argument list that no block is open around, the text leaves the list open, and
    takes its lines from the first state to the second one. -/
def Lays (l : LineState) (s : Text) (l' : LineState) : Prop :=
  ∀ stack : List Frame, .block ∉ stack →
    (⟨.list :: stack, .list⟩ : Reader).run s = some ⟨.list :: stack, .list⟩ ∧
      l.after ((⟨.list :: stack, .list⟩ : Reader).bare s) = some l'

theorem isCovered_list {stack : List Frame} (hstack : .block ∉ stack) :
    (⟨.list :: stack, .list⟩ : Reader).isCovered = false := by
  simp [isCovered, hstack]

theorem lays_nil (l : LineState) : Lays l [] l :=
  fun _ _ => ⟨rfl, rfl⟩

theorem Lays.append {l'' : LineState} (hs : Lays l s l') (ht : Lays l' t l'') :
    Lays l (s ++ t) l'' := by
  intro stack hstack
  obtain ⟨hrun, hafter⟩ := hs stack hstack
  obtain ⟨hrun', hafter'⟩ := ht stack hstack
  refine ⟨by rw [reader_append_of hrun, hrun'], ?_⟩
  rw [bare_append hrun, LineState.after_append_of hafter, hafter']

theorem Lays.flatten {parts : List Text} (h : ∀ s ∈ parts, Lays l s l) :
    Lays l parts.flatten l := by
  induction parts with
  | nil => exact lays_nil l
  | cons s parts ih =>
    rw [List.flatten_cons]
    exact (h s List.mem_cons_self).append (ih fun t ht => h t (List.mem_cons_of_mem s ht))

/-- On one line, whatever is read within the list leaves a line shown. -/
theorem QuietList.lays (hs : QuietList .idle s) (hline : '\n' ∉ s) : Lays .shown s .shown :=
  fun stack _ => ⟨Watch.reader_run (hs stack),
    LineState.after_shown_of_not_mem fun hmem => hline ((bare_sublist _ s).subset hmem)⟩

/-- Characters that open and close nothing are bare. -/
theorem lays_of_arguments (hs : s.all isArgument = true) (hl : l.after s = some l') :
    Lays l s l' := by
  intro stack hstack
  refine ⟨Watch.reader_run (quietList_of_arguments .idle hs stack), ?_⟩
  suffices h : (⟨.list :: stack, .list⟩ : Reader).bare s = s by rw [h, hl]
  clear hl
  induction s with
  | nil => rfl
  | cons c s ih =>
    rw [List.all_cons, Bool.and_eq_true] at hs
    rw [bare_cons_of_uncovered (isCovered_list hstack) (step_argument hs.1 stack).1, ih hs.2]

/-- Parentheses around what is read within a list end on a line that is shown, wherever they
    open. -/
theorem Lays.run_parens (hs : Lays .shown s l') {stack : List Frame} (hstack : .block ∉ stack)
    (hopen : q.step '(' = some ⟨.list :: stack, .list⟩) (hq : q.isCovered = false)
    (l : LineState) :
    q.run ('(' :: s ++ [')']) = some (resume stack .called) ∧
      l.after (q.bare ('(' :: s ++ [')'])) = some .shown := by
  have hclose : (⟨.list :: stack, .list⟩ : Reader).step ')' = some (resume stack .called) := rfl
  have hfirst : l.next '(' = some .shown := LineState.next_of_shown (by decide)
  have hlast : l'.next ')' = some .shown := LineState.next_of_shown (by decide)
  obtain ⟨hrun, hafter⟩ := hs stack hstack
  constructor
  · rw [List.cons_append, Reader.run_cons_of hopen, reader_append_of hrun,
      Reader.run_cons_of hclose]
    rfl
  · rw [List.cons_append, bare_cons_of_uncovered hq hopen, LineState.after_cons_of hfirst,
      bare_append hrun, LineState.after_append_of hafter,
      bare_cons_of_uncovered (isCovered_list hstack) hclose, LineState.after_cons_of hlast]
    rfl

theorem Lays.parens (hs : Lays .shown s l') (l : LineState) :
    Lays l ('(' :: s ++ [')']) .shown := by
  intro stack hstack
  have hinside : Frame.block ∉ Frame.list :: stack := by simp [hstack]
  exact hs.run_parens hinside rfl (isCovered_list hstack) l

/-- Of a block within the list, only the opening bracket is bare. -/
theorem Nested.lays_block (hs : Nested s) (l : LineState) : Lays l ('[' :: s ++ [']']) .shown := by
  intro stack hstack
  have hopen : (⟨.list :: stack, .list⟩ : Reader).step '[' =
      some ⟨.block :: .list :: stack, .markup⟩ := rfl
  have hshown : l.next '[' = some .shown := LineState.next_of_shown (by decide)
  refine ⟨hs.run_block hopen, ?_⟩
  rw [hs.bare_block hopen (isCovered_list hstack), LineState.after_cons_of hshown]
  rfl

/-- A call is tidy, whatever state its arguments leave their last line in. -/
theorem Lays.call (hargs : Lays .shown s l') {name : Text} (hname : isName name = true)
    (hs : Nested ('#' :: name ++ '(' :: s ++ [')'])) : Tidy ('#' :: name ++ '(' :: s ++ [')']) := by
  refine ⟨hs, fun l => ?_⟩
  have hrun := run_name_start hname
  have hline : '\n' ∉ start.bare ('#' :: name) := fun hmem =>
    not_mem_of_isName hname ((bare_sublist start _).subset hmem)
  have hhead : l.after (start.bare ('#' :: name)) = some .shown := by
    rw [LineState.after_of_not_mem hline, allBlank_bare rfl hrun]
    rfl
  have htail := (hargs.run_parens (q := ⟨[], .name⟩) List.not_mem_nil rfl rfl .shown).2
  rw [List.append_assoc, bare_append hrun, LineState.after_append_of hhead, htail]
  rfl

end Bindery.Typst
