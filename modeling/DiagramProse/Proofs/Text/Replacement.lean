import DiagramProse.Proofs.Text.Cuts

/-!
Replacement by way of cuts: a text changes at the leftmost occurrence of the pattern, and goes on
behind it. `replace_induction` turns that into the induction that proofs about replaced texts use. What stands on
the two sides of a character that the pattern does not have changes on its own (`replace_append_cons`).
-/

namespace DiagramProse.Text

theorem cut?_self_append {p : Text} (hp : p ≠ []) (s : Text) : cut? p (p ++ s) = some ([], s) := by
  cases p with
  | nil => exact absurd rfl hp
  | cons c p =>
    have h := dropPrefix?_append (c :: p) s
    simp only [List.cons_append] at h
    simp only [List.cons_append, cut?, h]

theorem replace_go_skip (p r : Text) (n : Nat) (s : Text) :
    replace.go p r n s = replace.go p r 0 (s.drop n) := by
  induction n generalizing s with
  | zero => rfl
  | succ n ih =>
    cases s with
    | nil => simp [replace.go]
    | cons c s => simpa [replace.go] using ih s

/-- The leftmost occurrence of the pattern is replaced, and then the text behind it. -/
theorem replace_eq_cut {p : Text} (hp : p ≠ []) (r s : Text) :
    replace p r s = match cut? p s with
      | some (a, b) => a ++ r ++ replace p r b
      | none => s := by
  unfold replace
  induction s with
  | nil =>
    have hc : cut? p [] = none := by simp [cut?, hp]
    rw [hc]; rfl
  | cons c s ih =>
    by_cases h : p.isPrefixOf (c :: s)
    · obtain ⟨t, ht⟩ := List.isPrefixOf_iff_prefix.1 h
      have hs : s.drop (p.length - 1) = t := by
        have : (c :: s).drop p.length = t := by rw [← ht]; simp
        cases p with
        | nil => exact absurd rfl hp
        | cons d p => simpa using this
      rw [← ht, cut?_self_append hp, ht]
      simp only [replace.go, h, if_true, List.nil_append]
      rw [replace_go_skip, hs]
    · have hd : dropPrefix? (c :: s) p = none := by
        cases hd : dropPrefix? (c :: s) p with
        | none => rfl
        | some t =>
          rw [dropPrefix?_eq_some_iff] at hd
          exact absurd (List.isPrefixOf_iff_prefix.2 ⟨t, hd.symm⟩) h
      have hg : replace.go p r 0 (c :: s) = c :: replace.go p r 0 s := by
        simp only [replace.go, h, Bool.false_eq_true, if_false]
      rw [hg, ih]
      cases hc : cut? p s with
      | none => simp [cut?, hd, hc]
      | some ab => obtain ⟨a, b⟩ := ab; simp [cut?, hd, hc]

theorem replace_self_append {p : Text} (hp : p ≠ []) (r s : Text) : replace p r (p ++ s) = r ++ replace p r s := by
  rw [replace_eq_cut hp, cut?_self_append hp]
  rfl

theorem replace_cons {p s : Text} {c : Char} (h : p.isPrefixOf (c :: s) = false) (r : Text) :
    replace p r (c :: s) = c :: replace p r s := by
  rw [replace, replace.go, if_neg (by simp [h])]
  rfl

theorem replace_eq_self {p s : Text} (hp : p ≠ []) (h : contains s p = false) (r : Text) : replace p r s = s := by
  have hcut : cut? p s = none := by simpa [contains] using h
  rw [replace_eq_cut hp, hcut]

/-- What holds of texts without the pattern, and of `a ++ r ++ t` if it holds of `t` and the text was
`a ++ p ++ b` before, holds of every text after a replacement. -/
theorem replace_induction {p : Text} (hp : p ≠ []) (r : Text) {P : Text → Text → Prop}
    (keep : ∀ s, cut? p s = none → P s s)
    (change : ∀ a b t, P b t → P (a ++ p ++ b) (a ++ r ++ t)) (s : Text) : P s (replace p r s) := by
  rw [replace_eq_cut hp]
  cases hc : cut? p s with
  | none => exact keep s hc
  | some ab =>
    obtain ⟨a, b⟩ := ab
    have hs := cut?_eq_some hc
    have hlt : b.length < s.length := by
      have := List.length_pos_iff.2 hp
      rw [hs]; simp; omega
    simp only
    rw [hs]
    exact change a b _ (replace_induction hp r keep change b)
termination_by s.length

theorem replace_append_cons {p : Text} {d : Char} (hne : p ≠ []) (hp : d ∉ p) (r s t : Text) :
    replace p r (s ++ d :: t) = replace p r s ++ d :: replace p r t := by
  rw [replace_eq_cut hne r (s ++ d :: t), replace_eq_cut hne r s, cut?_append_cons hne hp]
  cases hc : cut? p s with
  | some ab =>
    obtain ⟨a, b⟩ := ab
    have hlt : b.length < s.length := by
      have := List.length_pos_iff.2 hne
      rw [cut?_eq_some hc]; simp; omega
    simp only [replace_append_cons hne hp r b t, List.append_assoc]
  | none =>
    rw [replace_eq_cut hne r t]
    cases cut? p t <;> simp
termination_by s.length

theorem mem_replace {p r s : Text} {d : Char} (hp : p ≠ []) (h : d ∈ replace p r s) : d ∈ r ∨ d ∈ s := by
  refine replace_induction (P := fun s t => d ∈ t → d ∈ r ∨ d ∈ s) hp r (fun _ _ => .inr) (fun a b t ih h => ?_) s h
  simp only [List.mem_append] at h ⊢
  rcases h with (h | h) | h
  · exact .inr (.inl (.inl h))
  · exact .inl h
  · exact (ih h).imp id .inr

/-- A character that is in neither the pattern nor its replacement was there before. -/
theorem replace_eq_append_cons {p r s a b : Text} {d : Char} (hne : p ≠ []) (hp : d ∉ p) (hr : d ∉ r)
    (h : replace p r s = a ++ d :: b) : ∃ u v, s = u ++ d :: v ∧ replace p r u = a ∧ replace p r v = b := by
  rcases exists_first (· == d) s with hnone | ⟨u, c, v, rfl, hc, hu⟩
  · have hd : d ∈ replace p r s := by simp [h]
    rcases mem_replace hne hd with hd | hd
    exacts [absurd hd hr, absurd (hnone d hd) (by simp)]
  · obtain rfl : c = d := by simpa using hc
    have hu' : c ∉ replace p r u := by
      intro hm
      rcases mem_replace hne hm with hm | hm
      exacts [hr hm, absurd (hu c hm) (by simp)]
    rw [replace_append_cons hne hp] at h
    rcases List.append_eq_append_iff.1 h with ⟨a', rfl, hrest⟩ | ⟨a', ha, hrest⟩
    · cases a' with
      | nil => exact ⟨u, v, rfl, by simp, (List.cons.inj hrest).2⟩
      | cons e a' =>
        obtain ⟨rfl, hv⟩ := List.cons.inj hrest
        have hlt : v.length < (u ++ c :: v).length := by simp; omega
        obtain ⟨u', v', rfl, hu'', hv'⟩ := replace_eq_append_cons hne hp hr hv
        exact ⟨u ++ c :: u', v', by simp, by rw [replace_append_cons hne hp, hu''], hv'⟩
    · cases a' with
      | nil => exact ⟨u, v, rfl, by simpa using ha, (List.cons.inj hrest).2.symm⟩
      | cons e a' =>
        obtain ⟨rfl, -⟩ := List.cons.inj hrest
        exact absurd (by simp [ha]) hu'
termination_by s.length

/-- Where no replacement begins, the first character stays. -/
theorem head?_replace {p r s : Text} {d : Char} (hne : p ≠ []) (h : p.isPrefixOf s = false)
    (hd : d ∈ (replace p r s).head?) : d ∈ s.head? := by
  cases s with
  | nil => exact absurd hd (by rw [replace_eq_cut hne]; simp [cut?, hne])
  | cons c s => simpa [replace_cons h] using hd

/-- A pair of characters that is replaced is gone afterwards, if its second character is the first one again, or is not
the first one of what takes its place. -/
theorem not_infix_replace {x y : Char} {r : Text} (hr : x ∉ r) (h : x = y ∨ ∃ e ∈ r.head?, e ≠ y) (s : Text) :
    ¬ [x, y] <:+: replace [x, y] r s := by
  have hne : [x, y] ≠ [] := List.cons_ne_nil x [y]
  -- behind a character that stays, the pair would have begun before
  have hsecond : ∀ t, y ∈ (replace [x, y] r t).head? → y ∈ t.head? := by
    intro t hy
    cases hprefix : List.isPrefixOf [x, y] t with
    | false => exact head?_replace hne hprefix hy
    | true =>
      obtain ⟨t, rfl⟩ := List.isPrefixOf_iff_prefix.1 hprefix
      rcases h with rfl | ⟨e, he, hey⟩
      · rfl
      · obtain ⟨r, rfl⟩ := List.head?_eq_some_iff.1 (Option.mem_def.1 he)
        rw [replace_self_append hne] at hy
        exact absurd (Option.mem_some_iff.1 hy) hey
  intro hinfix
  cases s with
  | nil => exact absurd (List.infix_nil.1 hinfix) hne
  | cons c s =>
    cases hprefix : List.isPrefixOf [x, y] (c :: s) with
    | true =>
      obtain ⟨t, ht⟩ := List.isPrefixOf_iff_prefix.1 hprefix
      have hlt : t.length ≤ s.length := by
        have hlength := congrArg List.length ht
        simp only [List.length_append, List.length_cons] at hlength
        omega
      rw [← ht, replace_self_append hne] at hinfix
      exact not_infix_replace hr h t (infix_of_infix_append hr hinfix)
    | false =>
      rw [replace_cons hprefix] at hinfix
      rcases List.infix_cons_iff.1 hinfix with hbegins | hbehind
      · obtain ⟨rfl, hy⟩ := List.cons_prefix_cons.1 hbegins
        have hhead := hsecond s (by obtain ⟨t, ht⟩ := hy; rw [← ht]; rfl)
        obtain ⟨t, rfl⟩ := List.head?_eq_some_iff.1 hhead
        simp [List.isPrefixOf] at hprefix
      · exact not_infix_replace hr h s hbehind
termination_by s.length

end DiagramProse.Text
