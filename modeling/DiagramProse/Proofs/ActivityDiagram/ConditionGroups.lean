import DiagramProse.Proofs.ActivityDiagram.Notation

/-!
Which part of a line is its condition, said by counting parentheses: the text between the first one that opens and the
one that closes it, where what lies between is balanced (`IsGroup`). A text has at most one such part, and reading
finds it just if there is one (`parenGroup?_eq_first_group`).

The same part is found by a walk that counts the open parentheses up and down (`ParenWalk`). The counter is an integer,
so that nothing keeps it from going below zero; that at least one parenthesis is open until the walk ends is what one
character keeps (`one_le_count`).
-/

namespace DiagramProse

open Text

/-! ## Balanced texts -/

/-- `depth` parentheses that are open in front of the text are closed in it, and all that it opens itself; up to no
place are more closed than were opened. -/
structure BalancedFrom (depth : Nat) (s : Text) : Prop where
  prefixes : ∀ p, p <+: s → p.count ')' ≤ p.count '(' + depth
  total : s.count ')' = s.count '(' + depth

/-- All parentheses of the text are opened and closed in it, in that order. -/
structure Balanced (s : Text) : Prop where
  prefixes : ∀ p, p <+: s → p.count ')' ≤ p.count '('
  total : s.count '(' = s.count ')'

theorem balanced_iff {s : Text} : Balanced s ↔ BalancedFrom 0 s :=
  ⟨fun h => ⟨h.prefixes, h.total.symm⟩, fun h => ⟨h.prefixes, h.total.symm⟩⟩

section BalancedFrom

variable {depth : Nat} {c : Char} {s : Text}

theorem balancedFrom_nil : BalancedFrom depth [] ↔ depth = 0 := by
  constructor
  · intro h
    simpa using h.total.symm
  · rintro rfl
    exact ⟨fun p hp => by rw [List.prefix_nil.1 hp]; exact Nat.le_refl _, rfl⟩

/-- A character in front changes the number of open parentheses that the rest has to close. -/
theorem balancedFrom_cons {depth' : Nat} (h : depth' + [c].count ')' = depth + [c].count '(') :
    BalancedFrom depth (c :: s) ↔ BalancedFrom depth' s := by
  have hcount : ∀ (d : Char) (p : Text), (c :: p).count d = [c].count d + p.count d := by
    intro d p
    rw [← List.count_append, List.singleton_append]
  constructor
  · rintro ⟨hprefixes, htotal⟩
    rw [hcount ')' s, hcount '(' s] at htotal
    refine ⟨fun p hp => ?_, by omega⟩
    have hle := hprefixes (c :: p) (List.cons_prefix_cons.2 ⟨rfl, hp⟩)
    rw [hcount ')' p, hcount '(' p] at hle
    omega
  · rintro ⟨hprefixes, htotal⟩
    refine ⟨fun p hp => ?_, by rw [hcount ')' s, hcount '(' s]; omega⟩
    rcases List.prefix_cons_iff.1 hp with rfl | ⟨q, rfl, hq⟩
    · exact Nat.zero_le _
    · have hle := hprefixes q hq
      rw [hcount ')' q, hcount '(' q]
      omega

theorem balancedFrom_open : BalancedFrom depth ('(' :: s) ↔ BalancedFrom (depth + 1) s := balancedFrom_cons rfl

theorem balancedFrom_close : BalancedFrom (depth + 1) (')' :: s) ↔ BalancedFrom depth s := balancedFrom_cons rfl

theorem balancedFrom_other (hopen : c ≠ '(') (hclose : c ≠ ')') : BalancedFrom depth (c :: s) ↔ BalancedFrom depth s :=
  balancedFrom_cons (by simp [hopen, hclose])

/-- No balanced text begins with a parenthesis that closes one. -/
theorem not_balancedFrom_close : ¬ BalancedFrom 0 (')' :: s) := by
  intro h
  have hle := h.prefixes [')'] (List.cons_prefix_cons.2 ⟨rfl, List.nil_prefix⟩)
  simp at hle

theorem isParenthesised_iff : isParenthesised depth s = true ↔ BalancedFrom depth s := by
  induction s generalizing depth with
  | nil => simp [isParenthesised, balancedFrom_nil]
  | cons c s ih =>
    unfold isParenthesised
    split
    · next hopen => rw [hopen, ih, balancedFrom_open]
    · next hopen =>
      split
      · next hclose =>
        cases depth with
        | zero => simp [hclose, not_balancedFrom_close]
        | succ depth => rw [hclose, ih, balancedFrom_close]
      · next hclose => rw [ih, balancedFrom_other hopen hclose]

end BalancedFrom

instance (s : Text) : Decidable (Balanced s) := decidable_of_iff _ (isParenthesised_iff.trans balanced_iff.symm)

/-! ## Groups -/

/-- A text in three parts: what is in front of its first opening parenthesis, a balanced text behind that, and what
follows the parenthesis that closes it. -/
structure IsGroup (s before inner after : Text) : Prop where
  text_eq : s = before ++ '(' :: (inner ++ ')' :: after)
  first : '(' ∉ before
  balanced : Balanced inner

theorem closeParen?_eq_some {depth : Nat} {s inner after : Text} (h : closeParen? depth s = some (inner, after)) :
    s = inner ++ ')' :: after ∧ BalancedFrom depth inner := by
  induction s generalizing depth inner with
  | nil => cases h
  | cons c s ih =>
    unfold closeParen? at h
    split at h
    · next hclose =>
      subst hclose
      cases depth with
      | zero =>
        cases h
        exact ⟨rfl, balancedFrom_nil.2 rfl⟩
      | succ depth =>
        obtain ⟨⟨inner, after⟩, hrest, he⟩ := Option.map_eq_some_iff.1 h
        cases he
        obtain ⟨rfl, hinner⟩ := ih hrest
        exact ⟨rfl, balancedFrom_close.2 hinner⟩
    · next hclose =>
      obtain ⟨⟨inner, after⟩, hrest, he⟩ := Option.map_eq_some_iff.1 h
      cases he
      obtain ⟨rfl, hinner⟩ := ih hrest
      refine ⟨rfl, ?_⟩
      split at hinner
      · next hopen =>
        subst hopen
        exact balancedFrom_open.2 hinner
      · next hopen => exact (balancedFrom_other hopen hclose).2 hinner

/-- Reading cuts a text at its first parenthesis, and what is behind that at the one that closes it. -/
theorem isGroup_iff {s before inner after : Text} : IsGroup s before inner after ↔
    ∃ rest, cutAt? (· == '(') s = some (before, rest) ∧ closeParen? 0 rest = some (inner, after) := by
  constructor
  · rintro ⟨rfl, hfirst, hbalanced⟩
    exact ⟨_, cutAt?_char_append hfirst _, closeParen?_append (isParenthesised_iff.2 (balanced_iff.1 hbalanced)) after⟩
  · rintro ⟨rest, hcut, hclose⟩
    obtain ⟨rfl, hfirst⟩ := cutAt?_char_eq_some hcut
    obtain ⟨rfl, hinner⟩ := closeParen?_eq_some hclose
    exact ⟨rfl, hfirst, balanced_iff.2 hinner⟩

theorem IsGroup.unique {s before inner after before' inner' after' : Text} (h : IsGroup s before inner after)
    (h' : IsGroup s before' inner' after') : before' = before ∧ inner' = inner ∧ after' = after := by
  obtain ⟨rest, hcut, hclose⟩ := isGroup_iff.1 h
  obtain ⟨rest', hcut', hclose'⟩ := isGroup_iff.1 h'
  rw [hcut] at hcut'
  cases hcut'
  rw [hclose] at hclose'
  cases hclose'
  exact ⟨rfl, rfl, rfl⟩

theorem parenGroup?_eq_some_iff {s : Text} {found : Text × Text} :
    parenGroup? s = some found ↔ ∃ before inner after, IsGroup s before inner after ∧ found = (trim inner, after) := by
  constructor
  · intro h
    obtain ⟨⟨before, rest⟩, hcut, h⟩ := Option.bind_eq_some_iff.1 h
    obtain ⟨⟨inner, after⟩, hclose, h⟩ := Option.bind_eq_some_iff.1 h
    exact ⟨before, inner, after, isGroup_iff.2 ⟨rest, hcut, hclose⟩, (Option.some.inj h).symm⟩
  · rintro ⟨before, inner, after, hgroup, rfl⟩
    obtain ⟨rest, hcut, hclose⟩ := isGroup_iff.1 hgroup
    simp [parenGroup?, hcut, hclose]

/-! ## Counting -/

/-- A walk over a text with a counter of open parentheses: the values of the counter, one for each character that was
passed, and the text before and behind the parenthesis at which the walk ended, if the text did not end first. -/
structure ParenWalk where
  counts : List Int
  ended? : Option (Text × Text)

namespace ParenWalk

/-- The counter behind a character. -/
def count (depth : Int) (c : Char) : Int := if c = '(' then depth + 1 else if c = ')' then depth - 1 else depth

/-- A walk with one character more in front of it. -/
def pass (c : Char) (depth : Int) (w : ParenWalk) : ParenWalk :=
  ⟨depth :: w.counts, w.ended?.map fun (a, b) => (c :: a, b)⟩

/-- The walk from a place where `depth` parentheses are open. It ends at one that closes the last of them. -/
def along : (depth : Int) → Text → ParenWalk
  | _, [] => ⟨[], none⟩
  | depth, c :: s =>
    if c = ')' ∧ count depth c = 0 then ⟨[count depth c], some ([], s)⟩
    else (along (count depth c) s).pass c (count depth c)

/-- The walk over a text from its first opening parenthesis on, with none open in front of that. -/
def ofText (s : Text) : ParenWalk :=
  match cutAt? (· == '(') s with
  | some (_, rest) => along 0 ('(' :: rest)
  | none => ⟨[], none⟩

/-- The trimmed text between the first parenthesis of the walk and the last, and what follows. -/
def group? (w : ParenWalk) : Option (Text × Text) := w.ended?.map fun (a, b) => (trim a.tail, b)

variable {depth : Int} {c : Char}

/-- If the walk does not end at a character, there is a parenthesis open behind it, as there was in front of it. -/
theorem one_le_count (h : 1 ≤ depth) (hc : ¬ (c = ')' ∧ count depth c = 0)) : 1 ≤ count depth c := by
  rw [count] at hc ⊢
  split
  · omega
  · next hopen =>
    rw [if_neg hopen] at hc
    split
    · next hclose =>
      rw [if_pos hclose] at hc
      have : depth - 1 ≠ 0 := fun hzero => hc ⟨hclose, hzero⟩
      omega
    · exact h

theorem zero_le_of_mem_along (h : 1 ≤ depth) (s : Text) : ∀ d ∈ (along depth s).counts, 0 ≤ d := by
  induction s generalizing depth with
  | nil => simp [along]
  | cons c s ih =>
    rw [along]
    split
    · -- only here the counter is zero, and there the walk ends
      next hc => simp [hc.2]
    · next hc =>
      have hnext := one_le_count h hc
      exact List.forall_mem_cons.2 ⟨by omega, ih hnext⟩

/-- Reading up to the closing parenthesis is a walk: where it has `depth` to skip, one more is open. -/
theorem along_ended? (depth : Nat) (s : Text) : (along (depth + 1) s).ended? = closeParen? depth s := by
  -- for every depth at once: each parenthesis that is passed leads to another one
  induction s generalizing depth with
  | nil => rfl
  | cons c s ih =>
    by_cases hclose : c = ')'
    · subst hclose
      have hcount : count (depth + 1) ')' = depth := by simp [count]
      rw [along, hcount]
      cases depth with
      | zero => rfl
      | succ depth =>
        have hne : ¬ (')' = ')' ∧ ((depth + 1 : Nat) : Int) = 0) := by omega
        rw [if_neg hne, closeParen?, if_pos rfl, ← ih]
        rfl
    · have hcount : count (depth + 1) c = (if c = '(' then depth + 1 else depth : Nat) + 1 := by
        simp only [count, if_neg hclose]
        split <;> simp
      have hnext : closeParen? depth (c :: s) =
          (closeParen? (if c = '(' then depth + 1 else depth) s).map fun (a, b) => (c :: a, b) := by
        simp [closeParen?, hclose]
      rw [along, if_neg fun h => hclose h.1, hcount, hnext, ← ih]
      rfl

theorem ofText_eq {s before rest : Text} (h : cutAt? (· == '(') s = some (before, rest)) :
    ofText s = (along 1 rest).pass '(' 1 := by
  rw [ofText, h]
  rfl

theorem ofText_group? (s : Text) : (ofText s).group? = parenGroup? s := by
  cases hcut : cutAt? (· == '(') s with
  | none => simp [ofText, parenGroup?, group?, hcut]
  | some cut =>
    obtain ⟨before, rest⟩ := cut
    have hended : (along 1 rest).ended? = closeParen? 0 rest := along_ended? 0 rest
    rw [ofText_eq hcut, group?, pass, hended, parenGroup?, hcut, Option.map_map]
    exact Option.map_eq_bind

theorem zero_le_of_mem_ofText (s : Text) : ∀ d ∈ (ofText s).counts, 0 ≤ d := by
  cases hcut : cutAt? (· == '(') s with
  | none => simp [ofText, hcut]
  | some cut =>
    rw [ofText_eq hcut]
    exact List.forall_mem_cons.2 ⟨by omega, zero_le_of_mem_along (by omega) cut.2⟩

example : (ofText "a) (b(c)d) e)").counts = [1, 1, 2, 2, 1, 1, 0] := by decide

end ParenWalk

/-- Reading finds a group just if the text has one. There is no other then, and what is found is the trimmed text in it
and what follows. A walk that counts open parentheses finds the same, and never counts below zero. -/
theorem parenGroup?_eq_first_group (s : Text) :
    ((parenGroup? s).isSome = true ↔ ∃ before inner after, IsGroup s before inner after) ∧
      (∀ before inner after, IsGroup s before inner after → parenGroup? s = some (trim inner, after) ∧
        ∀ before' inner' after', IsGroup s before' inner' after' →
          before' = before ∧ inner' = inner ∧ after' = after) ∧
      (ParenWalk.ofText s).group? = parenGroup? s ∧ ∀ d ∈ (ParenWalk.ofText s).counts, 0 ≤ d := by
  refine ⟨⟨?_, ?_⟩, ?_, ParenWalk.ofText_group? s, ParenWalk.zero_le_of_mem_ofText s⟩
  · intro h
    obtain ⟨found, hfound⟩ := Option.isSome_iff_exists.1 h
    obtain ⟨before, inner, after, hgroup, -⟩ := parenGroup?_eq_some_iff.1 hfound
    exact ⟨before, inner, after, hgroup⟩
  · rintro ⟨before, inner, after, hgroup⟩
    exact Option.isSome_iff_exists.2 ⟨_, parenGroup?_eq_some_iff.2 ⟨before, inner, after, hgroup, rfl⟩⟩
  · intro before inner after hgroup
    exact ⟨parenGroup?_eq_some_iff.2 ⟨before, inner, after, hgroup, rfl⟩, fun _ _ _ => hgroup.unique⟩

/-- A parenthesis that closes none does not keep the group behind it from being found, and one that is never closed is
the beginning of no group, even if there is a balanced text behind it. -/
theorem parenGroup?_eq_first_group_nested :
    let s : Text := ") while ( f(x, (ü)) > 0) is (yes"
    IsGroup s ") while " " f(x, (ü)) > 0" " is (yes" ∧ parenGroup? s = some ⟨"f(x, (ü)) > 0", " is (yes"⟩ ∧
      ¬ ∃ before inner after, IsGroup "((a) b" before inner after := by
  intro s
  have hgroup : IsGroup s ") while " " f(x, (ü)) > 0" " is (yes" := ⟨rfl, by decide, by decide⟩
  have htrim : trim " f(x, (ü)) > 0" = ("f(x, (ü)) > 0" : Text) := by decide
  refine ⟨hgroup, ?_, fun hopen => ?_⟩
  · rw [← htrim]
    exact ((parenGroup?_eq_first_group s).2.1 _ _ _ hgroup).1
  · have hsome := (parenGroup?_eq_first_group "((a) b").1.2 hopen
    have hnone : parenGroup? "((a) b" = none := by decide
    rw [hnone] at hsome
    cases hsome

end DiagramProse
