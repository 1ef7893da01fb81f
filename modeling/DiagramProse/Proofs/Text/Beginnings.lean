import DiagramProse.Text.Basic
import Mathlib.Tactic.Common

/-!
Texts that differ before one of them ends (`apart`): what begins with the one does not begin with the other,
whatever stands behind it. Where the first word of a text ends (`dropPrefix?_words`), a sought word ends as well.
-/

namespace DiagramProse.Text

/-- Whether two texts differ at a place that both of them have. -/
def apart : Text → Text → Bool
  | c :: s, d :: p => c != d || apart s p
  | _, _ => false

variable {s p : Text}

theorem dropPrefix?_of_apart (h : apart s p = true) (t : Text) : dropPrefix? (s ++ t) p = none := by
  fun_induction apart s p with
  | case1 c s d p ih =>
    rw [List.cons_append, dropPrefix?]
    split
    · next hc =>
      subst hc
      exact ih (by simpa using h)
    · rfl
  | case2 => cases h

/-- A text begins with a prefix that can be dropped. -/
theorem startsWith_eq_isSome (s p : Text) : startsWith s p = (dropPrefix? s p).isSome := by
  rw [startsWith, Bool.eq_iff_iff, List.isPrefixOf_iff_prefix, Option.isSome_iff_exists]
  constructor
  · rintro ⟨r, rfl⟩
    exact ⟨r, dropPrefix?_append p r⟩
  · rintro ⟨r, hr⟩
    exact ⟨r, (dropPrefix?_eq_some_iff.1 hr).symm⟩

theorem dropPrefix?_of_head {c : Char} (h : s.head? ≠ some c) : dropPrefix? s [c] = none := by
  cases s with
  | nil => rfl
  | cons d s =>
    have hd : d ≠ c := fun e => h (e ▸ rfl)
    rw [dropPrefix?, if_neg hd]

theorem startsWith_of_apart (h : apart s p = true) (t : Text) : startsWith (s ++ t) p = false := by
  rw [startsWith_eq_isSome, dropPrefix?_of_apart h, Option.isSome_none]

theorem startsWithAny_of_apart {ps : List Text} (h : ps.all (apart s) = true) (t : Text) :
    startsWithAny (s ++ t) ps = false := by
  rw [startsWithAny, List.any_eq_false]
  intro p hp
  rw [startsWith_of_apart (List.all_eq_true.1 h p hp)]
  exact Bool.false_ne_true

/-- What begins with a character of another kind is no prefix. -/
theorem startsWith_of_head {f : Char → Bool} {c : Char} (hc : f c = true) (hp : p.head?.any (fun d => !f d) = true)
    (s : Text) : startsWith (c :: s) p = false := by
  cases p with
  | nil => cases hp
  | cons d p =>
    have hd : d ≠ c := by
      rintro rfl
      simp [hc] at hp
    simp [startsWith, List.isPrefixOf_cons_cons, hd]

theorem startsWithAny_of_head {f : Char → Bool} {c : Char} {ps : List Text} (hc : f c = true)
    (h : ∀ p ∈ ps, p.head?.any (fun d => !f d) = true) (s : Text) : startsWithAny (c :: s) ps = false := by
  rw [startsWithAny, List.any_eq_false]
  intro p hp
  rw [startsWith_of_head hc (h p hp)]
  exact Bool.false_ne_true

/-! ## Words at the beginning -/

variable {d : Char} {w : Text}

/-- What does not have a character is sought in front of it. -/
theorem dropPrefix?_append_cons (hp : d ∉ p) (s t : Text) :
    dropPrefix? (s ++ d :: t) p = (dropPrefix? s p).map (· ++ d :: t) := by
  induction p generalizing s with
  | nil => simp [dropPrefix?]
  | cons c p ih =>
    rw [List.mem_cons, not_or] at hp
    cases s with
    | nil => simp [dropPrefix?, hp.1]
    | cons e s =>
      rw [List.cons_append, dropPrefix?, dropPrefix?, ih hp.2]
      split <;> rfl

theorem startsWith_append_cons (hp : d ∉ p) (s t : Text) : startsWith (s ++ d :: t) p = startsWith s p := by
  rw [startsWith_eq_isSome, startsWith_eq_isSome, dropPrefix?_append_cons hp, Option.isSome_map]

/-- A word with `d` behind it is found where the text begins with that word. -/
theorem dropPrefix?_words (hs : d ∉ s) (hw : d ∉ w) (t p : Text) :
    dropPrefix? (s ++ d :: t) (w ++ d :: p) = if s = w then dropPrefix? t p else none := by
  induction s generalizing w with
  | nil =>
    cases w with
    | nil => simp [dropPrefix?]
    | cons c w =>
      rw [List.mem_cons, not_or] at hw
      simp [dropPrefix?, hw.1]
  | cons e s ih =>
    rw [List.mem_cons, not_or] at hs
    cases w with
    | nil => simp [dropPrefix?, Ne.symm hs.1]
    | cons c w =>
      rw [List.mem_cons, not_or] at hw
      rw [List.cons_append, List.cons_append, dropPrefix?, ih hs.2 hw.2]
      by_cases h : e = c <;> simp [h]

theorem startsWith_words (hs : d ∉ s) (hw : d ∉ w) (t : Text) :
    startsWith (s ++ d :: t) (w ++ [d]) = (s == w) := by
  rw [startsWith_eq_isSome, dropPrefix?_words hs hw]
  by_cases h : s = w <;> simp [h, dropPrefix?]

end DiagramProse.Text
