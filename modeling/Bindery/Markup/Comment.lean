import Bindery.Text.Basic

namespace Bindery.Markup

open Text

/-- What follows a text between the two marks. -/
def afterEnclosed? (opening closing s : Text) : Option Text :=
  (afterStart? opening s).bind fun inside => (cutAt? closing inside).map (·.2)

theorem length_of_afterEnclosed? {opening closing s rest : Text}
    (h : afterEnclosed? opening closing s = some rest) :
    opening.length + closing.length + rest.length ≤ s.length := by
  obtain ⟨inside, hstart, h⟩ := Option.bind_eq_some_iff.1 h
  obtain ⟨⟨before, rest'⟩, hcut, rfl⟩ := Option.map_eq_some_iff.1 h
  rw [eq_append_of_afterStart? hstart, eq_append_of_cutAt? hcut]
  simp only [List.length_append]
  omega

/-- What opens a comment in braces. -/
def expressionCommentStart : Text := ['\x7b', '/', '*']

/-- What closes a comment in braces. -/
def expressionCommentEnd : Text := ['*', '/', '\x7d']

/-- What follows a comment in braces. -/
def afterExpressionComment? (s : Text) : Option Text :=
  afterEnclosed? expressionCommentStart expressionCommentEnd s

/-- What opens a hypertext comment. -/
def hypertextCommentStart : Text := ['<', '!', '-', '-']

/-- What closes a hypertext comment. -/
def hypertextCommentEnd : Text := ['-', '-', '>']

/-- What follows a hypertext comment. -/
def afterHypertextComment? (s : Text) : Option Text :=
  afterEnclosed? hypertextCommentStart hypertextCommentEnd s

theorem length_of_afterExpressionComment? {s rest : Text}
    (h : afterExpressionComment? s = some rest) : rest.length < s.length := by
  have := length_of_afterEnclosed? h
  simp only [expressionCommentStart, expressionCommentEnd, List.length_cons, List.length_nil]
    at this
  omega

theorem length_of_afterHypertextComment? {s rest : Text}
    (h : afterHypertextComment? s = some rest) : rest.length < s.length := by
  have := length_of_afterEnclosed? h
  simp only [hypertextCommentStart, hypertextCommentEnd, List.length_cons, List.length_nil] at this
  omega

end Bindery.Markup
