import DiagramProse.Arrow.Direction
import DiagramProse.Proofs.Text.AcrossLines

/-!
Taking the hints out of arrows goes over the whole line. What becomes of a text is `LosesHints`: it keeps its
characters, except hints between two shaft characters. So its ends stay, nothing new gets in, and a text in
which no hint stands between shaft characters is left alone (`LosesHints.eq_self`). Where no hint can go across a
character, the two sides of it lose theirs on their own (`withoutHints_append`).
-/

namespace DiagramProse

open Text

/-! ## What is copied -/

/-- A text that is copied when hints are taken out. -/
def Hintless (s : Text) : Prop := ∀ rest, Arrow.dropHints 0 (s ++ rest) = s ++ Arrow.dropHints 0 rest

theorem Hintless.append {s t : Text} (hs : Hintless s) (ht : Hintless t) : Hintless (s ++ t) := by
  intro rest
  rw [List.append_assoc, hs, ht, List.append_assoc]

theorem Hintless.eq_self {s : Text} (hs : Hintless s) : Arrow.withoutHints s = s := by
  have := hs []
  rwa [List.append_nil, Arrow.dropHints, List.append_nil] at this

/-- Hints stand behind a dash or a dot. -/
theorem hintless_of_not_mem {s : Text} (hdash : '-' ∉ s) (hdot : '.' ∉ s) : Hintless s := by
  intro rest
  induction s with
  | nil => rfl
  | cons c s ih =>
    rw [List.mem_cons, not_or] at hdash hdot
    have hshaft : Arrow.isShaft c = false := by simp [Arrow.isShaft, Ne.symm hdash.1, Ne.symm hdot.1]
    rw [List.cons_append, Arrow.dropHints, if_neg (by simp [hshaft]), ih hdash.2 hdot.2]
    rfl

theorem hintless_space : Hintless " " := hintless_of_not_mem (by decide) (by decide)

namespace Arrow

/-! ## What is lost -/

/-- A direction word and a style in square brackets, either of which may be missing. -/
def IsHint (hint : Text) : Prop :=
  ∃ word style, hint = word ++ style ∧ (word = [] ∨ word ∈ directionWords) ∧
    (style = [] ∨ ∃ inner, ']' ∉ inner ∧ style = '[' :: (inner ++ [']']))

/-- Between two shaft characters of the text stands a hint. -/
def HoldsHint (s : Text) : Prop :=
  ∃ before shaft hint shaft' after, s = before ++ shaft :: (hint ++ shaft' :: after) ∧
    isShaft shaft = true ∧ isShaft shaft' = true ∧ IsHint hint ∧ hint ≠ []

/-- The second text is the first one, less hints between shaft characters. -/
inductive LosesHints : Text → Text → Prop where
  | nil : LosesHints [] []
  | keep (c : Char) {s t : Text} (rest : LosesHints s t) : LosesHints (c :: s) (c :: t)
  | drop {shaft shaft' : Char} {hint s t : Text} (hfirst : isShaft shaft = true) (hlast : isShaft shaft' = true)
      (hhint : IsHint hint) (rest : LosesHints s t) :
      LosesHints (shaft :: (hint ++ shaft' :: s)) (shaft :: shaft' :: t)

theorem afterStyle?_eq_some {s rest : Text} (h : afterStyle? s = some rest) :
    ∃ style, s = style ++ rest ∧ (style = [] ∨ ∃ inner, ']' ∉ inner ∧ style = '[' :: (inner ++ [']'])) := by
  unfold afterStyle? at h
  split at h
  · obtain ⟨⟨inner, after⟩, hcut, rfl⟩ := Option.map_eq_some_iff.1 h
    obtain ⟨hs, hinner⟩ := cutAt?_char_eq_some hcut
    exact ⟨'[' :: (inner ++ [']']), by simp [hs], .inr ⟨inner, hinner, rfl⟩⟩
  · cases h
    exact ⟨[], rfl, .inl rfl⟩

/-- What is found behind a shaft character: a hint, and another shaft character. -/
theorem hint?_eq_some {s : Text} {n : Nat} {shaft : Char} (h : hint? s = some (n, shaft)) :
    ∃ hint after, s = hint ++ shaft :: after ∧ hint.length = n ∧ IsHint hint ∧ isShaft shaft = true := by
  obtain ⟨_, hword, h⟩ := Option.bind_eq_some_iff.1 h
  obtain ⟨rest, hrest, h⟩ := Option.bind_eq_some_iff.1 h
  obtain ⟨shaft', hhead, h⟩ := Option.bind_eq_some_iff.1 h
  obtain ⟨_, hshaft, h⟩ := Option.bind_eq_some_iff.1 h
  cases h
  obtain ⟨after, rfl⟩ := List.head?_eq_some_iff.1 hhead
  obtain ⟨style, hs, hstyle⟩ := afterStyle?_eq_some hrest
  have hsplit : s = (s.takeWhile Char.isLower ++ style) ++ shaft :: after := by
    conv_lhs => rw [← List.takeWhile_append_dropWhile (p := Char.isLower) (l := s), ← drop_takeWhile, hs]
    rw [List.append_assoc]
  refine ⟨s.takeWhile Char.isLower ++ style, after, hsplit, ?_, ⟨_, style, rfl, ?_, hstyle⟩, ?_⟩
  · have hlength := congrArg List.length hsplit
    rw [List.length_append] at hlength
    omega
  · exact or_iff_not_imp_left.2 (by simpa [guard] using hword)
  · simpa [guard] using hshaft

/-- Characters that were written already are passed over. -/
theorem dropHints_skip (n : Nat) (s : Text) : dropHints n s = dropHints 0 (s.drop n) := by
  induction n generalizing s with
  | zero => rfl
  | succ n ih =>
    cases s with
    | nil => rfl
    | cons c s => exact ih s

theorem withoutHints_loses (s : Text) : LosesHints s (withoutHints s) := by
  cases s with
  | nil => exact .nil
  | cons c s =>
    rw [withoutHints, dropHints]
    split
    · next hc =>
      split
      · next n shaft hh =>
        obtain ⟨hint, after, hs, hn, hhint, hshaft⟩ := hint?_eq_some hh
        have hdrop : s.drop (n + 1) = after := by
          rw [hs, ← hn, List.drop_append, List.drop_of_length_le (by omega)]
          simp
        have : after.length < (c :: s).length := by rw [hs]; simp; omega
        -- the recursion goes on behind the second shaft character, not behind the first
        rw [dropHints_skip, hdrop, hs]
        exact .drop hc hshaft hhint (withoutHints_loses after)
      · exact .keep c (withoutHints_loses s)
    · exact .keep c (withoutHints_loses s)
termination_by s.length

/-! ## What stays -/

namespace LosesHints

variable {s t : Text}

theorem sublist (h : LosesHints s t) : t.Sublist s := by
  induction h with
  | nil => exact .slnil
  | keep c _ ih => exact .cons_cons c ih
  | drop _ _ _ _ ih => exact .cons_cons _ ((ih.cons_cons _).trans (List.sublist_append_right _ _))

/-- The first character of a text is in no hint. -/
theorem head?_eq (h : LosesHints s t) : t.head? = s.head? := by cases h <;> rfl

theorem eq_nil_iff (h : LosesHints s t) : t = [] ↔ s = [] := by cases h <;> simp

/-- The last character of a text is in no hint. -/
theorem getLast?_eq (h : LosesHints s t) : t.getLast? = s.getLast? := by
  induction h with
  | nil => rfl
  | keep c hrest ih =>
    rw [List.getLast?_cons, List.getLast?_cons, ih]
  | drop _ _ _ hrest ih =>
    rw [← List.cons_append, List.getLast?_append_of_ne_nil _ (List.cons_ne_nil _ _), List.getLast?_cons,
      List.getLast?_cons, List.getLast?_cons, ih]
    rfl

/-- A text in which no hint stands between shaft characters stays as it is. -/
theorem eq_self (h : LosesHints s t) (hs : ¬ HoldsHint s) : t = s := by
  have holds_cons : ∀ {u : Text} (before : Text), HoldsHint u → HoldsHint (before ++ u) := by
    rintro u before ⟨before', shaft, hint, shaft', after, rfl, h⟩
    exact ⟨before ++ before', shaft, hint, shaft', after, by simp, h⟩
  induction h with
  | nil => rfl
  | keep c _ ih => rw [ih fun hh => hs (holds_cons [c] hh)]
  | @drop shaft shaft' hint s t hfirst hlast hhint _ ih =>
    have hempty : hint = [] := by
      by_contra hne
      exact hs ⟨[], shaft, hint, shaft', s, rfl, hfirst, hlast, hhint, hne⟩
    subst hempty
    rw [ih fun hh => hs (holds_cons [shaft, shaft'] hh)]
    rfl

end LosesHints

/-- A hint begins with a letter in lower case or a bracket. -/
theorem IsHint.head {hint : Text} (h : IsHint hint) (hne : hint ≠ []) :
    ∃ c s, hint = c :: s ∧ (c.isLower = true ∨ c = '[') := by
  have hwords : ∀ word ∈ directionWords, word.head?.any Char.isLower = true := by decide
  obtain ⟨word, style, rfl, hword, hstyle⟩ := h
  cases word with
  | cons c word =>
    have hlower := hwords _ (hword.resolve_left (List.cons_ne_nil c word))
    exact ⟨c, word ++ style, rfl, .inl (by simpa using hlower)⟩
  | nil =>
    obtain ⟨inner, -, rfl⟩ := hstyle.resolve_left hne
    exact ⟨'[', inner ++ [']'], rfl, .inr rfl⟩

/-- A hint is either in the first text, which has no character for it to begin with, or ends in the second one,
which has no shaft character behind it. -/
theorem not_holdsHint_append {s t : Text} (hs : ∀ c ∈ s, c.isLower = false ∧ c ≠ '[')
    (ht : ∀ c ∈ t, isShaft c = false) : ¬ HoldsHint (s ++ t) := by
  rintro ⟨before, shaft, hint, shaft', after, hsplit, -, hshaft, hhint, hne⟩
  obtain ⟨c, u, rfl, hc⟩ := hhint.head hne
  have hsplit' : s ++ t = (before ++ shaft :: c :: u) ++ shaft' :: after := by simpa using hsplit
  rcases List.append_eq_append_iff.1 hsplit' with ⟨w, -, htail⟩ | ⟨w, hfront, -⟩
  · have := ht shaft' (htail ▸ by simp)
    rw [hshaft] at this
    cases this
  · obtain ⟨hlower, hbracket⟩ := hs c (hfront ▸ by simp)
    rcases hc with hc | hc
    · rw [hlower] at hc
      cases hc
    · exact hbracket hc

/-! ## Hints on one side of a character -/

/-- No hint goes across `d`, with `s` in front of it and `t` behind it. -/
structure SplitsHints (d : Char) (s t : Text) : Prop where
  not_shaft : isShaft d = false
  not_lower : d.isLower = false
  not_bracket : d ≠ '['
  style : '[' ∉ s ∨ ']' ∉ d :: t

variable {s t : Text} {d : Char}

theorem SplitsHints.mono {s' : Text} (h : SplitsHints d s t) (hs : s' ⊆ s) : SplitsHints d s' t :=
  { h with style := h.style.imp_left fun hb hm => hb (hs hm) }

theorem afterStyle?_append (h : SplitsHints d s t) :
    afterStyle? (s ++ d :: t) = (afterStyle? s).map (· ++ d :: t) := by
  cases s with
  | nil => simp [afterStyle?, h.not_bracket]
  | cons c s =>
    by_cases hc : c = '['
    · subst hc
      have hnone : cutAt? (· == ']') (d :: t) = none :=
        cutAt?_char_eq_none (h.style.resolve_left fun hb => hb List.mem_cons_self)
      rw [List.cons_append, afterStyle?, afterStyle?, cutAt?_append_text, hnone]
      cases cutAt? (· == ']') s <;> rfl
    · simp [afterStyle?, hc]

theorem hint?_append (h : SplitsHints d s t) : hint? (s ++ d :: t) = hint? s := by
  have hword : (s ++ d :: t).takeWhile Char.isLower = s.takeWhile Char.isLower := by
    rw [List.takeWhile_append, List.takeWhile_cons_of_neg (by simp [h.not_lower])]
    split
    · next hlength => rw [List.append_nil, List.IsPrefix.eq_of_length (List.takeWhile_prefix _) hlength]
    · rfl
  have hdrop : ∀ n ≤ s.length, (s ++ d :: t).drop n = s.drop n ++ d :: t := fun n hn =>
    List.drop_append_of_le_length hn
  have hstyle := afterStyle?_append (h.mono (List.drop_subset (s.takeWhile Char.isLower).length s))
  rw [hint?, hint?, hword, hdrop _ (List.takeWhile_prefix _).length_le, hstyle]
  refine bind_congr fun _ => ?_
  cases afterStyle? (s.drop (s.takeWhile Char.isLower).length) with
  | none => rfl
  | some rest =>
    cases rest with
    | nil =>
      have hguard : (guard (isShaft d = true) : Option Unit) = none := if_neg (by simp [h.not_shaft])
      change Option.bind (guard (isShaft d = true)) _ = none
      rw [hguard]
      rfl
    | cons c rest =>
      have hlength : (s ++ d :: t).length - (c :: rest ++ d :: t).length = s.length - (c :: rest).length := by
        simp only [List.length_append]
        omega
      change (guard (isShaft c = true) >>= fun _ => some ((s ++ d :: t).length - (c :: rest ++ d :: t).length, c)) = _
      rw [hlength]
      rfl

theorem dropHints_append (h : SplitsHints d s t) (n : Nat) (hn : n ≤ s.length) :
    dropHints n (s ++ d :: t) = dropHints n s ++ d :: dropHints 0 t := by
  induction s generalizing n with
  | nil =>
    obtain rfl : n = 0 := by simpa using hn
    simp [dropHints, h.not_shaft]
  | cons c s ih =>
    have hs := h.mono (List.subset_cons_self c s)
    cases n with
    | succ n => exact ih hs n (by simpa using hn)
    | zero =>
      rw [List.cons_append, dropHints, dropHints, hint?_append hs]
      split
      · split
        · next n shaft hh =>
          obtain ⟨hint, after, hsplit, hlength, -⟩ := hint?_eq_some hh
          have hle : n + 1 ≤ s.length := by rw [hsplit, List.length_append, hlength, List.length_cons]; omega
          rw [ih hs _ hle]
          rfl
        · rw [ih hs 0 (Nat.zero_le _)]
          rfl
      · rw [ih hs 0 (Nat.zero_le _)]
        rfl

/-- The two sides of a character that no hint goes across. -/
theorem withoutHints_append (h : SplitsHints d s t) :
    withoutHints (s ++ d :: t) = withoutHints s ++ d :: withoutHints t :=
  dropHints_append h 0 (Nat.zero_le _)

end Arrow

end DiagramProse
