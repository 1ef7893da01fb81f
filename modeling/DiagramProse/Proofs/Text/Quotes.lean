import DiagramProse.Proofs.Text.Cuts

/-!
Texts in double quotes. What is in them is found again without the quotes, and a quote that is not closed stays.
-/

namespace DiagramProse

open Text

/-- A text in double quotes. -/
def quoted (s : Text) : Text := '"' :: (s ++ ['"'])

theorem tight_quoted (s : Text) : Tight (quoted s) :=
  tight_append (s := ['"']) (t := ['"']) (by decide) (by decide) (by decide) (by decide)

theorem unquote_quoted (s : Text) : unquote (quoted s) = s := by
  have hfirst : dropPrefix? (quoted s) ['"'] = some (s ++ ['"']) := by simp [quoted, dropPrefix?]
  have hlast : dropSuffix? (s ++ ['"']) ['"'] = some s := by simp [dropSuffix?, dropPrefix?]
  rw [unquote, trim_eq_self (tight_quoted s), hfirst, Option.bind_some, hlast, Option.getD_some]

theorem unquote_open {s : Text} (h : '"' ∉ s) : unquote ('"' :: s) = '"' :: trimEnd s := by
  have htrim : trim ('"' :: s) = '"' :: trimEnd s := trim_append (by decide : Tight ['"']) (by decide) s
  have hfirst : dropPrefix? ('"' :: trimEnd s) ['"'] = some (trimEnd s) := by simp [dropPrefix?]
  have hlast : dropSuffix? (trimEnd s) ['"'] = none :=
    dropSuffix?_of_not_mem fun hm => h (dropEndWhile_subset isBlank s hm)
  rw [unquote, htrim, hfirst, Option.bind_some, hlast, Option.getD_none]

end DiagramProse
