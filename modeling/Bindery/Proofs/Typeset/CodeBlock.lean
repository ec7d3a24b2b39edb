import Bindery.Proofs.Markup.Fenced
import Bindery.Proofs.Packages.Lexers
import Bindery.Proofs.Typeset.BlankLine
import Bindery.Proofs.Typst.RawBlock

namespace Bindery.Typeset

open Text Typst Markup Packages

theorem allBlank_rawBlock [Lexers] (label code : Text) :
    allBlank (rawBlock label code) = false := by
  have htick : '\x60' ∈ fence code := by
    simp [fence]
  have hmem : '\x60' ∈ rawBlock label code := by
    simp [rawBlock, htick]
  exact allBlank_of_mem hmem (by decide)

theorem setBlocks_codeBlock (context : Context) (mode : Mode) (language code : Text) :
    setBlocks context mode [.codeBlock language code] =
      .ok (@rawBlock context.lexers language code) := by
  have hnode : setNode context.env .block mode (.codeBlock language code) =
      .ok (@rawBlock context.lexers language code) := by
    rw [setNode]
    rfl
  rw [setBlocks_singleton, hnode]
  exact congrArg Except.ok (if_neg (by simp [allBlank_rawBlock]))

/-- Characters that stand in no information of a fence stand in no label of its language. -/
theorem not_mem_language {fence : Fence} {c : Char} (h : c ∉ fence.info ∨ isBlank c = true) :
    c ∉ fence.language := by
  intro hmem
  rcases h with h | h
  · exact h ((List.takeWhile_prefix _).subset hmem)
  · have hkept := List.all_eq_true.1 List.all_takeWhile c hmem
    simp [h] at hkept

/-- Code between fences of backticks or tildes is one node of the page, and is set as a raw block
whose content is the code: the runs around it have one length, and no run of that length stands
before the end. The lines may hold anything but a line that closes the block, and of the lexers that
know the languages nothing is asked but that no name of theirs holds a backtick or a newline. -/
theorem setPage_fencedText (context : Context) (hlexers : context.lexers.Plain) {mark : Char}
    (hmark : isFenceMark mark = true) {length closing : Nat} (hlength : 3 ≤ length)
    (hclosing : length ≤ closing) {info : Text} (hinfo : '\n' ∉ info ∧ '\r' ∉ info ∧ '\x60' ∉ info)
    (hhead : info.head? ≠ some mark) {lines : List Text}
    (hlines : ∀ l ∈ lines, '\n' ∉ l ∧ '\r' ∉ l ∧ ¬IsClosingLine mark length l) :
    let code := trimClass (· == '\n') (joinWith ['\n'] lines)
    parse (fencedText mark length info lines closing) =
        [.codeBlock (openingFence mark length info).language code] ∧
      ∃ out block, setPage context (fencedText mark length info lines closing) = .ok out ∧
        readRawBlock? out = some block ∧ block.content = code ∧ block.rest = [] ∧
        block.opening = block.closing ∧
        ¬List.replicate block.opening '\x60' <:+: block.label ++ '\n' :: block.content := by
  intro code
  obtain ⟨hnewline, hreturn, htick⟩ := hinfo
  have hparse := parse_fencedText hmark hlength hclosing hnewline hreturn hhead hlines
  refine ⟨hparse, ?_⟩
  have htrim : '\x60' ∉ (openingFence mark length info).info := fun h =>
    htick ((infix_trimClass isBlank info).subset h)
  have hlabel : '\x60' ∉ (openingFence mark length info).language :=
    not_mem_language (.inl htrim)
  have hline : '\n' ∉ (openingFence mark length info).language :=
    not_mem_language (.inr (by decide))
  refine ⟨@rawBlock context.lexers (openingFence mark length info).language code, _, ?_,
    readRawBlock?_rawBlock hlexers hlabel hline code, rfl, rfl, rfl, ?_⟩
  · rw [setPage, hparse]
    exact setBlocks_codeBlock context .full _ _
  · have hfence : List.replicate (fence code).length '\x60' = fence code := by
      simp [fence]
    have hearlier := not_infix_of_block hlexers hlabel code
    simpa only [hfence] using hearlier

/-- Code under tildes that holds a shorter run of them, a longer one with more on its line, and
backticks. -/
theorem setPage_fencedText_tildes :
    ∃ out block, setPage ⟨none, []⟩ (fencedText '~' 4 " py, x".toList
        ["".toList, "~~~".toList, "~~~~~ y".toList, "\x60\x60\x60".toList] 5) = .ok out ∧
      readRawBlock? out = some block ∧ block.opening = block.closing ∧
      block.content = "~~~\n~~~~~ y\n\x60\x60\x60".toList := by
  have hopen (line : Text) (h : (openingFence '~' 4 []).closes line = false) :
      ¬IsClosingLine '~' 4 line := by
    rw [← closes_openingFence (by decide) (by decide) [] line, h]
    exact Bool.false_ne_true
  have hinfo : '\n' ∉ " py, x".toList ∧ '\r' ∉ " py, x".toList ∧ '\x60' ∉ " py, x".toList := by
    decide
  have hlines : ∀ l ∈ ["".toList, "~~~".toList, "~~~~~ y".toList, "\x60\x60\x60".toList],
      '\n' ∉ l ∧ '\r' ∉ l ∧ ¬IsClosingLine '~' 4 l := by
    simp only [List.forall_mem_cons]
    exact ⟨⟨by decide, by decide, hopen _ (by decide)⟩, ⟨by decide, by decide, hopen _ (by decide)⟩,
      ⟨by decide, by decide, hopen _ (by decide)⟩, ⟨by decide, by decide, hopen _ (by decide)⟩,
      fun _ h => absurd h List.not_mem_nil⟩
  have hfive : 4 ≤ 5 := by decide
  obtain ⟨-, out, block, hout, hread, hcontent, -, hruns, -⟩ :=
    setPage_fencedText ⟨none, []⟩ lexers_plain (by decide) (by decide) hfive hinfo (by decide)
      hlines
  refine ⟨out, block, hout, hread, hruns, hcontent.trans ?_⟩
  decide

end Bindery.Typeset
