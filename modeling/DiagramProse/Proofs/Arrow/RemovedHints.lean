import DiagramProse.Proofs.Arrow.Hints
import Mathlib.Data.Option.Basic

/-!
What is left when the hints are taken out of arrows. A hint between two shaft characters is gone (`withoutHints_hint`),
and none is left to take out (`withoutHints_withoutHints`): where a shaft character has no hint behind it, none comes
about when the text behind it loses its own (`begins_of_withoutHints`).
-/

namespace DiagramProse.Arrow

open Text

variable {s t hint : Text} {c shaft shaft' : Char}

/-- Shaft characters are no part of directions and no brackets. -/
theorem IsShaft.apart (h : isShaft c = true) : c.isLower = false ∧ c ≠ '[' ∧ c ≠ ']' := by
  simp only [isShaft, Bool.or_eq_true, beq_iff_eq] at h
  rcases h with rfl | rfl
  all_goals decide

theorem directionWords_lower : ∀ w ∈ directionWords, ∀ c ∈ w, c.isLower = true := by decide

/-! ## Hints between shaft characters -/

theorem isHint_nil : IsHint [] := ⟨[], [], rfl, .inl rfl, .inl rfl⟩

/-- A hint that closes a bracket ends with it. -/
theorem IsHint.bracket (h : IsHint hint) : ']' ∉ hint ∨ ∃ front, hint = front ++ [']'] ∧ ']' ∉ front := by
  obtain ⟨word, style, rfl, hword, hstyle⟩ := h
  have hnot : ']' ∉ word := by
    rcases hword with rfl | hword
    · exact List.not_mem_nil
    · intro hm
      exact absurd (directionWords_lower _ hword _ hm) (by decide)
  rcases hstyle with rfl | ⟨inner, hinner, rfl⟩
  · exact .inl (by simpa using hnot)
  · exact .inr ⟨word ++ '[' :: inner, by simp, by simp [hnot, hinner]⟩

theorem afterStyle?_append_shaft {style : Text} (hshaft : isShaft shaft = true)
    (h : style = [] ∨ ∃ inner, ']' ∉ inner ∧ style = '[' :: (inner ++ [']'])) (s : Text) :
    afterStyle? (style ++ shaft :: s) = some (shaft :: s) := by
  rcases h with rfl | ⟨inner, hinner, rfl⟩
  · simp [afterStyle?, (IsShaft.apart hshaft).2.1]
  · simp [afterStyle?, cutAt?_char_append hinner (shaft :: s)]

/-- A hint is found in front of a shaft character. -/
theorem hint?_append_shaft (h : IsHint hint) (hshaft : isShaft shaft = true) (s : Text) :
    hint? (hint ++ shaft :: s) = some (hint.length, shaft) := by
  obtain ⟨word, style, rfl, hword, hstyle⟩ := h
  have hlower : ∀ c ∈ word, c.isLower = true := by
    rcases hword with rfl | hword
    exacts [by simp, directionWords_lower _ hword]
  have hbehind : (style ++ shaft :: s).takeWhile Char.isLower = [] := by
    rcases hstyle with rfl | ⟨inner, -, rfl⟩
    · exact List.takeWhile_cons_of_neg (by simp [(IsShaft.apart hshaft).1])
    · rfl
  have htake : (word ++ (style ++ shaft :: s)).takeWhile Char.isLower = word := by
    rw [List.takeWhile_append_of_pos hlower, hbehind, List.append_nil]
  have hlength : (word ++ (style ++ shaft :: s)).length - (shaft :: s).length = (word ++ style).length := by
    simp only [List.length_append]
    omega
  have hguard : (guard (word.isEmpty || directionWords.contains word : Bool) : Option Unit) = some () :=
    if_pos (by simpa using hword)
  have hguard' : (guard (isShaft shaft = true) : Option Unit) = some () := if_pos hshaft
  rw [List.append_assoc, hint?, htake, List.drop_left, afterStyle?_append_shaft hshaft hstyle, hguard]
  simp only [Option.bind_eq_bind, Option.bind_some, List.head?_cons, hguard', hlength]
  rfl

/-- A hint between two shaft characters goes. -/
theorem withoutHints_hint (h : IsHint hint) (hshaft : isShaft shaft = true) (hshaft' : isShaft shaft' = true)
    (s : Text) : withoutHints (shaft :: (hint ++ shaft' :: s)) = shaft :: shaft' :: withoutHints s := by
  have hdrop : (hint ++ shaft' :: s).drop (hint.length + 1) = s := by
    rw [List.drop_append, List.drop_of_length_le (by omega)]
    simp
  rw [withoutHints, dropHints, if_pos hshaft, hint?_append_shaft h hshaft']
  dsimp only
  rw [dropHints_skip, hdrop, withoutHints]

/-! ## No hints come about -/

/-- A character stays alone, or as the first one of a shaft that loses the hint in it. -/
theorem withoutHints_cons_cases (c : Char) (s : Text) :
    (isShaft c = true → hint? s = none) ∧ withoutHints (c :: s) = c :: withoutHints s ∨
      ∃ hint shaft after, isShaft c = true ∧ isShaft shaft = true ∧ IsHint hint ∧ s = hint ++ shaft :: after ∧
        withoutHints (c :: s) = c :: shaft :: withoutHints after := by
  cases hc : isShaft c with
  | false =>
    refine .inl ⟨by simp, ?_⟩
    rw [withoutHints, dropHints, if_neg (by simp [hc]), withoutHints]
  | true =>
    cases hs : hint? s with
    | none =>
      refine .inl ⟨fun _ => rfl, ?_⟩
      rw [withoutHints, dropHints, if_pos hc, hs, withoutHints]
    | some found =>
      obtain ⟨hint, after, rfl, -, hhint, hshaft⟩ := hint?_eq_some hs
      exact .inr ⟨hint, found.2, after, rfl, hshaft, hhint, rfl, withoutHints_hint hhint hc hshaft after⟩

/-- A character that is no shaft character stands where it stood. -/
theorem withoutHints_eq_cons (hc : isShaft c = false) (h : withoutHints s = c :: t) :
    ∃ s', s = c :: s' ∧ withoutHints s' = t := by
  cases s with
  | nil => cases h
  | cons d s =>
    rcases withoutHints_cons_cases d s with ⟨-, hkept⟩ | ⟨_, _, _, hd, -, -, -, hdropped⟩
    · rw [hkept] at h
      obtain ⟨rfl, rfl⟩ := List.cons.inj h
      exact ⟨s, rfl, rfl⟩
    · rw [hdropped] at h
      obtain ⟨rfl, -⟩ := List.cons.inj h
      rw [hc] at hd
      cases hd

theorem withoutHints_eq_append {w : Text} (hw : ∀ c ∈ w, isShaft c = false) (h : withoutHints s = w ++ t) :
    ∃ s', s = w ++ s' ∧ withoutHints s' = t := by
  induction w generalizing s with
  | nil => exact ⟨s, rfl, h⟩
  | cons c w ih =>
    obtain ⟨s₁, rfl, hs₁⟩ := withoutHints_eq_cons (hw c List.mem_cons_self) h
    obtain ⟨s₂, rfl, hs₂⟩ := ih (fun d hd => hw d (List.mem_cons_of_mem c hd)) hs₁
    exact ⟨s₂, rfl, hs₂⟩

/-- If a shaft character stands behind the first bracket that closes, then one stood there before, perhaps behind a
bracket that went with a hint. -/
theorem bracket_of_withoutHints {s inner t : Text} (hinner : ']' ∉ inner)
    (h : withoutHints s = inner ++ ']' :: shaft :: t) (hshaft : isShaft shaft = true) :
    ∃ inner' shaft' t', s = inner' ++ ']' :: shaft' :: t' ∧ ']' ∉ inner' ∧ isShaft shaft' = true := by
  cases s with
  | nil => simp [withoutHints, dropHints] at h
  | cons c s =>
    rcases withoutHints_cons_cases c s with ⟨-, hkept⟩ | ⟨hint, d, after, hc, hd, hhint, rfl, hdropped⟩
    · rw [hkept] at h
      cases inner with
      | nil =>
        obtain ⟨rfl, hs⟩ := List.cons.inj h
        have hhead : s.head? = some shaft := by rw [← (withoutHints_loses s).head?_eq, hs]; rfl
        obtain ⟨t', rfl⟩ := List.head?_eq_some_iff.1 hhead
        exact ⟨[], shaft, t', rfl, List.not_mem_nil, hshaft⟩
      | cons c' inner =>
        obtain ⟨rfl, hs⟩ := List.cons.inj h
        rw [List.mem_cons, not_or] at hinner
        obtain ⟨inner', shaft', t', rfl, hinner', hshaft'⟩ := bracket_of_withoutHints hinner.2 hs hshaft
        exact ⟨c :: inner', shaft', t', rfl, by simp [hinner.1, hinner'], hshaft'⟩
    · have hc' : ']' ≠ c := (IsShaft.apart hc).2.2.symm
      have hd' : ']' ≠ d := (IsShaft.apart hd).2.2.symm
      rcases hhint.bracket with hnot | ⟨front, rfl, hfront⟩
      · -- the bracket stands behind the hint
        obtain ⟨inner, rfl⟩ : ∃ inner', inner = c :: d :: inner' := by
          rw [hdropped] at h
          rcases inner with _ | ⟨c', _ | ⟨d', inner⟩⟩
          · exact absurd (List.cons.inj h).1.symm hc'
          · exact absurd (List.cons.inj (List.cons.inj h).2).1.symm hd'
          · obtain ⟨rfl, hrest⟩ := List.cons.inj h
            exact ⟨inner, by rw [(List.cons.inj hrest).1]⟩
        have hafter : withoutHints after = inner ++ ']' :: shaft :: t := by
          rw [hdropped] at h
          simpa using h
        have hlt : after.length < (c :: (hint ++ d :: after)).length := by simp; omega
        obtain ⟨inner', shaft', t', rfl, hinner', hshaft'⟩ :=
          bracket_of_withoutHints (fun hm => hinner (by simp [hm])) hafter hshaft
        exact ⟨c :: (hint ++ d :: inner'), shaft', t', by simp, by simp [hc', hnot, hd', hinner'], hshaft'⟩
      · exact ⟨c :: front, d, after, by simp, by simp [hc', hfront], hd⟩
termination_by s.length

/-- A hint in front of a shaft character was there before, if perhaps another one. -/
theorem begins_of_withoutHints (hhint : IsHint hint) (hshaft : isShaft shaft = true)
    (h : withoutHints s = hint ++ shaft :: t) :
    ∃ hint' shaft' t', s = hint' ++ shaft' :: t' ∧ IsHint hint' ∧ isShaft shaft' = true := by
  obtain ⟨word, style, rfl, hword, hstyle⟩ := hhint
  have hchars : ∀ c ∈ word, isShaft c = false := by
    intro c hc
    by_contra hshaft
    have hlower : c.isLower = true := by
      rcases hword with rfl | hword
      · cases hc
      · exact directionWords_lower _ hword c hc
    rw [(IsShaft.apart (by simpa using hshaft)).1] at hlower
    cases hlower
  rw [List.append_assoc] at h
  obtain ⟨s, rfl, hs⟩ := withoutHints_eq_append hchars h
  rcases hstyle with rfl | ⟨inner, hinner, rfl⟩
  · have hhead : s.head? = some shaft := by rw [← (withoutHints_loses s).head?_eq, hs]; rfl
    obtain ⟨t', rfl⟩ := List.head?_eq_some_iff.1 hhead
    exact ⟨word, shaft, t', rfl, ⟨word, [], by simp, hword, .inl rfl⟩, hshaft⟩
  · rw [List.cons_append, List.append_assoc] at hs
    obtain ⟨s, rfl, hinside⟩ := withoutHints_eq_cons (by decide) hs
    obtain ⟨inner', shaft', t', rfl, hinner', hshaft'⟩ := bracket_of_withoutHints hinner hinside hshaft
    exact ⟨word ++ '[' :: (inner' ++ [']']), shaft', t', by simp,
      ⟨word, _, rfl, hword, .inr ⟨inner', hinner', rfl⟩⟩, hshaft'⟩

theorem hint?_withoutHints (h : hint? s = none) : hint? (withoutHints s) = none := by
  cases hfound : hint? (withoutHints s) with
  | none => rfl
  | some found =>
    obtain ⟨hint, t, hs, -, hhint, hshaft⟩ := hint?_eq_some hfound
    obtain ⟨hint', shaft', t', rfl, hhint', hshaft'⟩ := begins_of_withoutHints hhint hshaft hs
    rw [hint?_append_shaft hhint' hshaft'] at h
    cases h

/-- Once the hints are taken out there are none to take out. -/
theorem withoutHints_withoutHints (s : Text) : withoutHints (withoutHints s) = withoutHints s := by
  cases s with
  | nil => rfl
  | cons c s =>
    rcases withoutHints_cons_cases c s with ⟨hnone, hkept⟩ | ⟨hint, shaft, after, hc, hshaft, -, rfl, hdropped⟩
    · rw [hkept]
      rcases withoutHints_cons_cases c (withoutHints s) with ⟨-, hkept'⟩ | ⟨hint, shaft, t, hc, hshaft, hhint, hs, -⟩
      · rw [hkept', withoutHints_withoutHints s]
      · -- the text behind the character would begin with a hint now
        have hfound := hint?_withoutHints (hnone hc)
        rw [hs, hint?_append_shaft hhint hshaft] at hfound
        cases hfound
    · have hlt : after.length < (c :: (hint ++ shaft :: after)).length := by simp; omega
      have hagain := withoutHints_hint isHint_nil hc hshaft (withoutHints after)
      rw [List.nil_append] at hagain
      rw [hdropped, hagain, withoutHints_withoutHints after]
termination_by s.length

end DiagramProse.Arrow
