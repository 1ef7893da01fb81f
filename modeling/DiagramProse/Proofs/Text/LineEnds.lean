import DiagramProse.Proofs.Text.Beginnings
import DiagramProse.Proofs.Text.Letters
import DiagramProse.Proofs.Text.Replacement
import DiagramProse.Text.Blank

/-!
Texts whose lines end with a carriage return and a line feed, and those whose lines end with a line feed alone
(`withReturns`). A search for something that has neither of the two characters finds it in both at the same
place; blanks stay blanks, and the lines are the same (`lines_withReturns`).
-/

namespace DiagramProse.Text

/-- The text with a carriage return in front of each line feed. -/
def withReturns (s : Text) : Text := s.flatMap fun c => if c = '\n' then ['\r', '\n'] else [c]

/-- A text that can be sought without a look at the ends of lines. -/
def HasNoLineEnd (p : Text) : Prop := '\n' ∉ p ∧ '\r' ∉ p

instance (p : Text) : Decidable (HasNoLineEnd p) := inferInstanceAs (Decidable ('\n' ∉ p ∧ '\r' ∉ p))

variable {s p : Text} {c : Char} {f : Char → Bool}

@[simp] theorem withReturns_nil : withReturns [] = [] := rfl

@[simp] theorem withReturns_lineFeed (s : Text) : withReturns ('\n' :: s) = '\r' :: '\n' :: withReturns s := rfl

theorem withReturns_cons (h : c ≠ '\n') (s : Text) : withReturns (c :: s) = c :: withReturns s := by
  simp [withReturns, h]

theorem replace_lineFeeds (s : Text) : replace "\n" "\r\n" s = withReturns s := by
  unfold replace
  induction s with
  | nil => rfl
  | cons c s ih =>
    have hp : ("\n" : Text).isPrefixOf (c :: s) = (c == '\n') := by
      simp [List.isPrefixOf, Bool.beq_comm]
    by_cases hc : c = '\n'
    · subst hc
      rw [replace.go, if_pos (by rw [hp]; rfl)]
      simpa using ih
    · rw [replace.go, if_neg (by rw [hp]; simpa using hc), withReturns_cons hc, ih]

theorem isEmpty_withReturns (s : Text) : (withReturns s).isEmpty = s.isEmpty := by
  cases s with
  | nil => rfl
  | cons c s => by_cases hc : c = '\n' <;> simp [hc, withReturns_cons]

/-- A text without line feeds stays as it is. -/
theorem withReturns_eq_self (h : '\n' ∉ s) : withReturns s = s := by
  induction s with
  | nil => rfl
  | cons c s ih =>
    simp only [List.mem_cons, not_or] at h
    rw [withReturns_cons (Ne.symm h.1), ih h.2]

/-! ## Characters -/

theorem lowerAscii_withReturns (s : Text) : lowerAscii (withReturns s) = withReturns (lowerAscii s) := by
  induction s with
  | nil => rfl
  | cons c s ih =>
    by_cases hc : c = '\n'
    · subst hc
      simpa [lowerAscii] using ih
    · have hlow : c.toLower ≠ '\n' := mt (toLower_eq_iff (by decide)).1 hc
      simpa [lowerAscii, withReturns_cons hc, withReturns_cons hlow] using ih

theorem all_withReturns (hf : f '\r' = f '\n') (s : Text) : (withReturns s).all f = s.all f := by
  induction s with
  | nil => rfl
  | cons c s ih =>
    by_cases hc : c = '\n'
    · subst hc
      simp [hf, ih]
    · simp [withReturns_cons hc, ih]

theorem dropWhile_withReturns (hf : f '\r' = f '\n') (s : Text) :
    (withReturns s).dropWhile f = withReturns (s.dropWhile f) := by
  induction s with
  | nil => rfl
  | cons c s ih =>
    by_cases hc : c = '\n'
    · subst hc
      cases hn : f '\n' <;> simp [hf, hn, ih]
    · rw [withReturns_cons hc, List.dropWhile_cons, List.dropWhile_cons, ih]
      split
      exacts [rfl, (withReturns_cons hc s).symm]

theorem takeWhile_withReturns (hf : f '\r' = f '\n') (s : Text) :
    (withReturns s).takeWhile f = withReturns (s.takeWhile f) := by
  induction s with
  | nil => rfl
  | cons c s ih =>
    by_cases hc : c = '\n'
    · subst hc
      cases hn : f '\n' <;> simp [hf, hn, ih]
    · rw [withReturns_cons hc, List.takeWhile_cons, List.takeWhile_cons, ih]
      split
      exacts [(withReturns_cons hc _).symm, rfl]

theorem cutAt?_withReturns (hr : f '\r' = false) (hn : f '\n' = false) (s : Text) :
    cutAt? f (withReturns s) = (cutAt? f s).map fun (a, b) => (withReturns a, withReturns b) := by
  induction s with
  | nil => rfl
  | cons c s ih =>
    by_cases hc : c = '\n'
    · subst hc
      simp [cutAt?, hr, hn, ih, Function.comp_def]
    · rw [withReturns_cons hc, cutAt?, cutAt?, ih]
      split
      · rfl
      · simp [withReturns_cons hc, Function.comp_def]

/-! ## Blanks -/

theorem allBlank_withReturns (s : Text) : allBlank (withReturns s) = allBlank s := all_withReturns rfl s

theorem trimStart_withReturns (s : Text) : trimStart (withReturns s) = withReturns (trimStart s) :=
  dropWhile_withReturns rfl s

theorem afterBlanks?_withReturns (s : Text) : afterBlanks? (withReturns s) = (afterBlanks? s).map withReturns := by
  cases s with
  | nil => rfl
  | cons c s =>
    by_cases hc : c = '\n'
    · subst hc
      exact congrArg some (trimStart_withReturns s)
    · rw [withReturns_cons hc, afterBlanks?, afterBlanks?, trimStart_withReturns]
      split <;> rfl

/-! ## Sought texts -/

theorem dropPrefix?_withReturns (hp : HasNoLineEnd p) (s : Text) :
    dropPrefix? (withReturns s) p = (dropPrefix? s p).map withReturns := by
  induction p generalizing s with
  | nil => simp [dropPrefix?]
  | cons d p ih =>
    obtain ⟨hn, hr⟩ := hp
    simp only [List.mem_cons, not_or] at hn hr
    cases s with
    | nil => rfl
    | cons c s =>
      by_cases hc : c = '\n'
      · subst hc
        simp [dropPrefix?, hn.1, hr.1]
      · rw [withReturns_cons hc, dropPrefix?, dropPrefix?, ih ⟨hn.2, hr.2⟩]
        split <;> rfl

theorem startsWith_withReturns (hp : HasNoLineEnd p) (s : Text) :
    startsWith (withReturns s) p = startsWith s p := by
  rw [startsWith_eq_isSome, dropPrefix?_withReturns hp, Option.isSome_map, startsWith_eq_isSome]

theorem cut?_withReturns (hp : HasNoLineEnd p) (s : Text) :
    cut? p (withReturns s) = (cut? p s).map fun (a, b) => (withReturns a, withReturns b) := by
  induction s with
  | nil => cases p <;> rfl
  | cons c s ih =>
    have hhead := dropPrefix?_withReturns hp (c :: s)
    by_cases hc : c = '\n'
    · subst hc
      cases p with
      | nil => rfl
      | cons d p =>
        obtain ⟨hn, hr⟩ := hp
        simp only [List.mem_cons, not_or] at hn hr
        simp [cut?, dropPrefix?, hn.1, hr.1, ih, Function.comp_def]
    · rw [withReturns_cons hc] at hhead ⊢
      rw [cut?, cut?, hhead, ih]
      cases dropPrefix? (c :: s) p <;> simp [withReturns_cons hc, Function.comp_def]

theorem contains_withReturns (hp : HasNoLineEnd p) (s : Text) : contains (withReturns s) p = contains s p := by
  rw [contains, cut?_withReturns hp, Option.isSome_map, contains]

/-! ## Lines -/

/-- The line ends make no difference to the lines. -/
theorem lines_withReturns (h : '\r' ∉ s) : lines (withReturns s) = lines s := by
  -- The induction is on the text behind a beginning `w` of the line that it goes on with.
  suffices hw : ∀ w : Text, HasNoLineEnd w → lines (w ++ withReturns s) = lines (w ++ s) from
    hw [] ⟨List.not_mem_nil, List.not_mem_nil⟩
  induction s with
  | nil => intro w _; rfl
  | cons c s ih =>
    intro w hw
    simp only [List.mem_cons, not_or] at h
    by_cases hc : c = '\n'
    · subst hc
      have hmoved : w ++ withReturns ('\n' :: s) = (w ++ ['\r']) ++ '\n' :: withReturns s := by simp
      have hlast : w.getLast? ≠ some '\r' := fun hl => hw.2 (List.mem_of_getLast? hl)
      have hdrop : dropCarriageReturn (w ++ ['\r']) = w := by
        simp [dropCarriageReturn, dropSuffix?, dropPrefix?]
      have hrest := ih h.2 [] ⟨List.not_mem_nil, List.not_mem_nil⟩
      rw [hmoved, lines_cons (by simp [hw.1]), lines_cons hw.1, hdrop, dropCarriageReturn_eq_self hlast]
      simpa using hrest
    · have hwc : HasNoLineEnd (w ++ [c]) := by simp [HasNoLineEnd, hw.1, hw.2, Ne.symm hc, h.1]
      simpa [withReturns_cons hc] using ih h.2 (w ++ [c]) hwc

end DiagramProse.Text
