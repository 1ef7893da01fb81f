import DiagramProse.ActivityDiagram.Statement
import DiagramProse.Proofs.Text.Marks

/-!
The words of a cleaned text. No markup has a blank in it, so a text is cleaned piece by piece
(`piecewise_activityWords`): how its parts are separated, and whether they are trimmed, makes no difference.
-/

namespace DiagramProse

open Text

/-- The text of an activity without markup, its blanks as they are. -/
def withoutMarkup (s : Text) : Text :=
  replace "\"\"" [] (replace "__" [] (replace "//" [] (replace "**" [] (replace "\\n" [' '] s))))

/-- What is taken out of the text of an activity, in that order: the break of a line, for which there is a space, then
bold, italic, underlined and monospaced markup. -/
def activityMarks : List Mark := [
  { first := '\\', second := 'n', replacement := " " }, { first := '*', second := '*' }, { first := '/', second := '/' },
  { first := '_', second := '_' }, { first := '"', second := '"' }]

theorem withoutMarkup_eq (s : Text) : withoutMarkup s = takeOut activityMarks s := rfl

/-- Markup does not go across a blank. -/
theorem withoutMarkup_append_cons {d : Char} (hd : isBlank d = true) (s t : Text) :
    withoutMarkup (s ++ d :: t) = withoutMarkup s ++ d :: withoutMarkup t := by
  rw [withoutMarkup_eq, takeOut_append_cons fun _ _ => Mark.not_mem_text hd, withoutMarkup_eq, withoutMarkup_eq]

/-- The words of which the cleaned text is made. -/
def activityWords (s : Text) : List Text := words (withoutMarkup s)

theorem cleanActivity_eq_join (s : Text) : cleanActivity s = join [' '] (activityWords s) := rfl

theorem piecewise_activityWords : Piecewise isBlank activityWords where
  nil := rfl
  append_cons hd s t := by
    rw [activityWords, withoutMarkup_append_cons hd, words_eq_fields, fields_append_cons hd]
    rfl

end DiagramProse
