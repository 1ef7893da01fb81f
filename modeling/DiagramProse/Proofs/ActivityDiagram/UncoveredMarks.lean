import DiagramProse.Proofs.ActivityDiagram.CleanTexts

/-!
What cleaning the text of an activity leaves of its marks. Each kind is taken out once, so that a mark comes back where
its two characters have nothing between them but marks of later kinds, as in `*//*`. That is the only way
(`cleanActivity_marks`): all other texts have no marks when they are cleaned, and stay as they are when they are cleaned
again. The spaces are single ones in any case, and as double quotes go last, no two of them are left.
-/

namespace DiagramProse

open Text

theorem activityMarks_apart : activityMarks.Pairwise Mark.Apart := by decide

theorem infix_cleanActivity_iff (m : Mark) (s : Text) :
    m.text <:+: cleanActivity s ↔ m.text <:+: takeOut activityMarks s :=
  infix_squeeze_iff m.text_ne_nil fun _ hc => Mark.not_blank_of_mem hc

/-- The clean texts are those with single spaces and without marks. -/
theorem cleanActivity_eq_self_iff {t : Text} :
    cleanActivity t = t ↔ squeeze t = t ∧ ∀ m ∈ activityMarks, ¬ m.text <:+: t := by
  have hclean : cleanActivity t = squeeze (takeOut activityMarks t) := rfl
  constructor
  · intro h
    refine ⟨?_, not_infix_of_length_solid ?_⟩
    · rw [← h, hclean, squeeze_squeeze]
    · rw [← solid_squeeze, ← hclean, h]
  · rintro ⟨hsqueeze, hmarks⟩
    rw [hclean, takeOut_eq_self hmarks, hsqueeze]

/-- A cleaned text has single spaces only and no two double quotes side by side. It has no mark at all, and does not
change when it is cleaned again, exactly if no mark is uncovered. -/
theorem cleanActivity_marks (s : Text) :
    SingleSpaced (cleanActivity s) ∧ ¬ ("\"\"" : Text) <:+: cleanActivity s ∧
      ((∀ m ∈ activityMarks, ¬ m.text <:+: cleanActivity s) ↔ ¬ Uncovers activityMarks s) ∧
      (cleanActivity (cleanActivity s) = cleanActivity s ↔ ¬ Uncovers activityMarks s) := by
  have hmarks : (∀ m ∈ activityMarks, ¬ m.text <:+: cleanActivity s) ↔ ¬ Uncovers activityMarks s := by
    rw [← exists_mark_iff_uncovers activityMarks_apart]
    simp only [infix_cleanActivity_iff, not_exists, not_and]
  have hsqueeze : squeeze (cleanActivity s) = cleanActivity s := squeeze_squeeze _
  have hagain : cleanActivity (cleanActivity s) = cleanActivity s ↔ ¬ Uncovers activityMarks s := by
    rw [cleanActivity_eq_self_iff, ← hmarks]
    exact and_iff_right hsqueeze
  have hquotes : ¬ ("\"\"" : Text) <:+: cleanActivity s := by
    let quotes : Mark := { first := '"', second := '"' }
    have hlast : activityMarks = activityMarks.dropLast ++ [quotes] := rfl
    have hnone := not_infix_takeOut_concat activityMarks.dropLast quotes s
    rw [← hlast, ← infix_cleanActivity_iff] at hnone
    exact hnone
  exact ⟨singleSpaced_squeeze _, hquotes, hmarks, hagain⟩

theorem cleanActivity_uncovered :
    cleanActivity "a *//* b" = ("a ** b" : Text) ∧ cleanActivity "a ** b" = ("a b" : Text) ∧
      cleanActivity "a\\**nb" = ("a\\nb" : Text) ∧ Uncovers activityMarks "a *//* b" := by
  refine ⟨by decide, by decide, by decide, activityMarks.take 1, { first := '*', second := '*' }, activityMarks.drop 2,
    "//", rfl, by decide, by decide, by decide⟩

end DiagramProse
