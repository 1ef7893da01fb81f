import DiagramProse.Proofs.Text.Beginnings
import DiagramProse.Proofs.Text.Lines
import DiagramProse.Proofs.Text.Trimming
import DiagramProse.Text.Quoted
import Mathlib.Data.List.Infix

/-!
Where a text is cut at a character: behind a part that has no such character, or in front of one.
-/

namespace DiagramProse.Text

variable {f : Char → Bool} {s t : Text} {d : Char}

/-- A character that fails a test is not in a text that passes it. -/
theorem not_mem_of_all (h : s.all f = true) (hd : f d = false) : d ∉ s := by
  intro hm
  have := List.all_eq_true.1 h d hm
  rw [hd] at this
  cases this

/-! ## Cuts at a character -/

theorem cutAt?_append (h : ∀ c ∈ s, f c = false) (hd : f d = true) (t : Text) :
    cutAt? f (s ++ d :: t) = some (s, t) := by
  induction s with
  | nil => simp [cutAt?, hd]
  | cons c s ih =>
    have hc := h c (by simp)
    simp [cutAt?, hc, ih fun e he => h e (by simp [he])]

theorem cutAt?_eq_none (h : ∀ c ∈ s, f c = false) : cutAt? f s = none := by
  induction s with
  | nil => rfl
  | cons c s ih =>
    have hc := h c (by simp)
    simp [cutAt?, hc, ih fun e he => h e (by simp [he])]

theorem isSome_cutAt? (f : Char → Bool) (s : Text) : (cutAt? f s).isSome = s.any f := by
  induction s with
  | nil => rfl
  | cons c s ih =>
    rw [cutAt?, List.any_cons]
    split
    · next h => simp [h]
    · next h => simp [h, ih]

theorem cutAtLast?_append (h : ∀ c ∈ t, f c = false) (hd : f d = true) (s : Text) :
    cutAtLast? f (s ++ d :: t) = some (s, t) := by
  have hr : (s ++ d :: t).reverse = t.reverse ++ d :: s.reverse := by simp
  rw [cutAtLast?, hr, cutAt?_append (by simpa using h) hd]
  simp

theorem cutAtLast?_eq_none (h : ∀ c ∈ s, f c = false) : cutAtLast? f s = none := by
  rw [cutAtLast?, cutAt?_eq_none (by simpa using h)]
  rfl

/-- The parts of a text around its first character of a kind. -/
theorem cutAt?_char_append (h : d ∉ s) (t : Text) : cutAt? (· == d) (s ++ d :: t) = some (s, t) :=
  cutAt?_append (fun c hc => by simpa using fun e : c = d => h (e ▸ hc)) (by simp) t

theorem cutAt?_char_eq_none (h : d ∉ s) : cutAt? (· == d) s = none :=
  cutAt?_eq_none fun c hc => by simpa using fun e : c = d => h (e ▸ hc)

/-- A cut at a character takes the first one. -/
theorem cutAt?_char_eq_some {a b : Text} (h : cutAt? (· == d) s = some (a, b)) : s = a ++ d :: b ∧ d ∉ a := by
  induction s generalizing a with
  | nil => cases h
  | cons c s ih =>
    rw [cutAt?] at h
    split at h
    · next hc =>
      cases h
      exact ⟨by rw [beq_iff_eq.1 hc]; rfl, List.not_mem_nil⟩
    · next hc =>
      obtain ⟨⟨u, v⟩, huv, he⟩ := Option.map_eq_some_iff.1 h
      cases he
      obtain ⟨hs, hu⟩ := ih huv
      have hcd : d ≠ c := fun e => hc (by simp [e])
      exact ⟨by rw [hs, List.cons_append], by simp [hcd, hu]⟩

/-- The parts of a text around its last character of a kind. -/
theorem cutAtLast?_char_append (h : d ∉ t) (s : Text) :
    cutAtLast? (· == d) (s ++ d :: t) = some (s, t) :=
  cutAtLast?_append (fun c hc => by simpa using fun e : c = d => h (e ▸ hc)) (by simp) s

/-- The parts of a text around its first character with property `f`, if it has one. -/
theorem exists_first (f : Char → Bool) (s : Text) : (∀ c ∈ s, f c = false) ∨
    ∃ before c after, s = before ++ c :: after ∧ f c = true ∧ ∀ d ∈ before, f d = false := by
  induction s with
  | nil => exact .inl (by simp)
  | cons c s ih =>
    cases hc : f c with
    | true => exact .inr ⟨[], c, s, rfl, hc, by simp⟩
    | false =>
      rcases ih with hnone | ⟨before, d, after, rfl, hd, hbefore⟩
      · exact .inl (List.forall_mem_cons.2 ⟨hc, hnone⟩)
      · exact .inr ⟨c :: before, d, after, rfl, hd, List.forall_mem_cons.2 ⟨hc, hbefore⟩⟩

/-- The parts of a text around its last character with property `f`, if it has one. -/
theorem exists_last (f : Char → Bool) (s : Text) : (∀ c ∈ s, f c = false) ∨
    ∃ before c after, s = before ++ c :: after ∧ f c = true ∧ ∀ d ∈ after, f d = false := by
  rcases exists_first f s.reverse with hnone | ⟨before, c, after, hs, hc, hbefore⟩
  · exact .inl fun c hc => hnone c (List.mem_reverse.2 hc)
  · refine .inr ⟨after.reverse, c, before.reverse, ?_, hc, fun d hd => hbefore d (List.mem_reverse.1 hd)⟩
    rw [← List.reverse_reverse s, hs]
    simp

theorem not_mem_join {sep : Text} {ps : List Text} (hs : d ∉ sep) (h : ∀ p ∈ ps, d ∉ p) :
    d ∉ join sep ps := by
  unfold join
  induction ps with
  | nil => simp
  | cons p ps ih =>
    cases ps with
    | nil => simpa using h p
    | cons q ps =>
      rw [List.intercalate_cons_cons]
      have hi := ih fun x hx => h x (by simp [hx])
      have hp := h p (by simp)
      simp [hs, hp, hi]

theorem dropSuffix?_of_not_mem (h : d ∉ s) : dropSuffix? s [d] = none :=
  dropSuffix?_of_last fun hm => h (List.mem_of_getLast? hm)

/-! ## Sought texts -/

/-- A text that is found has its characters in the text in which it is found. -/
theorem not_contains {p : Text} (hd : d ∈ p) (h : d ∉ s) : contains s p = false := by
  cases hc : cut? p s with
  | none => simp [contains, hc]
  | some ab =>
    obtain ⟨a, b⟩ := ab
    exact absurd (by rw [cut?_eq_some hc]; simp [hd]) h

theorem cut?_eq_none {p : Text} (hd : d ∈ p) (h : d ∉ s) : cut? p s = none := by
  have := not_contains hd h
  simpa [contains] using this

/-- What does not have a character is found in front of it, if there is one there, or behind it. -/
theorem cut?_append_cons {p : Text} (hne : p ≠ []) (hp : d ∉ p) (s t : Text) :
    cut? p (s ++ d :: t) = match cut? p s with
      | some (a, b) => some (a, b ++ d :: t)
      | none => (cut? p t).map fun (a, b) => (s ++ d :: a, b) := by
  induction s with
  | nil =>
    cases p with
    | nil => exact absurd rfl hne
    | cons e p => simp_all [cut?, dropPrefix?]
  | cons c s ih =>
    have hhead := dropPrefix?_append_cons hp (c :: s) t
    rw [List.cons_append] at hhead ⊢
    rw [cut?, cut?, hhead, ih]
    cases dropPrefix? (c :: s) p with
    | some r => rfl
    | none =>
      cases cut? p s with
      | some ab => rfl
      | none => simp [Function.comp_def]

/-- What stands in a text and does not have a character of it stands in front of it, or behind it. -/
theorem append_eq_append_cons {p u v : Text} (hp : d ∉ p) (h : u ++ (p ++ v) = s ++ d :: t) :
    (∃ b, s = u ++ (p ++ b) ∧ v = b ++ d :: t) ∨ p <:+: t := by
  rcases List.append_eq_append_iff.1 h with ⟨a, rfl, ha⟩ | ⟨a, rfl, ha⟩
  · rcases List.append_eq_append_iff.1 ha with ⟨b, rfl, hb⟩ | ⟨b, rfl, hb⟩
    · exact .inl ⟨b, rfl, hb⟩
    · cases b with
      | nil => exact .inl ⟨[], by simp, by simpa using hb.symm⟩
      | cons e b =>
        obtain ⟨rfl, -⟩ := List.cons.inj hb
        exact absurd (by simp) hp
  · cases a with
    | nil =>
      cases p with
      | nil => exact .inr List.nil_infix
      | cons e p =>
        obtain ⟨rfl, -⟩ := List.cons.inj ha
        exact absurd List.mem_cons_self hp
    | cons e a =>
      obtain ⟨-, rfl⟩ := List.cons.inj ha
      exact .inr ⟨a, v, List.append_assoc a p v⟩

theorem contains_append_cons {p : Text} (hne : p ≠ []) (hp : d ∉ p) (s t : Text) :
    contains (s ++ d :: t) p = (contains s p || contains t p) := by
  rw [contains, cut?_append_cons hne hp, contains, contains]
  cases cut? p s with
  | some ab => rfl
  | none => simp

theorem contains_iff {p : Text} : contains s p = true ↔ p <:+: s := by
  constructor
  · intro h
    obtain ⟨⟨a, b⟩, hab⟩ := Option.isSome_iff_exists.1 h
    exact ⟨a, b, (cut?_eq_some hab).symm⟩
  · intro h
    induction s with
    | nil =>
      rw [List.infix_nil.1 h]
      rfl
    | cons c s ih =>
      rw [contains, cut?]
      cases hd : dropPrefix? (c :: s) p with
      | some r => rfl
      | none =>
        rcases List.infix_cons_iff.1 h with ⟨r, hr⟩ | h
        · rw [dropPrefix?_eq_some_iff.2 hr.symm] at hd
          cases hd
        · simpa [contains] using ih h

theorem contains_singleton : contains s [d] = true ↔ d ∈ s := by
  rw [contains_iff, List.singleton_infix_iff]

/-- What begins with a character stands behind a part that does not have it. -/
theorem infix_of_infix_append {p : Text} (hd : d ∉ s) (h : d :: p <:+: s ++ t) : d :: p <:+: t := by
  induction s with
  | nil => exact h
  | cons c s ih =>
    rw [List.mem_cons, not_or] at hd
    rcases List.infix_cons_iff.1 h with hprefix | hinfix
    · exact absurd (List.cons_prefix_cons.1 hprefix).1 hd.1
    · exact ih hd.2 hinfix

/-! ## Blanks -/

theorem trim_space_cons (s : Text) : trim (' ' :: s) = trim s := rfl

theorem trim_spaces_append (n : Nat) (s : Text) : trim (List.replicate n ' ' ++ s) = trim s := by
  induction n with
  | zero => rfl
  | succ n ih => exact (trim_space_cons _).trans ih

theorem trim_append_spaces (h : Tight s) (n : Nat) : trim (s ++ List.replicate n ' ') = s := by
  cases s with
  | nil => exact (congrArg trim (List.append_nil _).symm).trans (trim_spaces_append n [])
  | cons c s =>
    have hblank : isBlank ' ' = true := rfl
    rw [trim_append h (List.cons_ne_nil c s), trimEnd, dropEndWhile, List.reverse_replicate,
      List.dropWhile_replicate, if_pos hblank, List.reverse_nil, List.append_nil]

theorem trim_append_space (h : Tight s) : trim (s ++ [' ']) = s := trim_append_spaces h 1

theorem isLine_of_tight (hne : s ≠ []) (ht : Tight s) (hn : '\n' ∉ s) : IsLine s := by
  refine ⟨hn, hne, fun hr => ?_⟩
  have := ht.last '\r' hr
  simp [isBlank] at this

theorem words_of_forall (hs : s ≠ []) (h : ∀ c ∈ s, isBlank c = false) : words s = [s] := by
  have hp := splitBy_of_forall h
  simp [words, hp, hs]

theorem trim_subset (s : Text) : trim s ⊆ s := by
  have hend : trim s <+: trimStart s := dropEndWhile_prefix isBlank _
  exact List.Subset.trans hend.subset (List.dropWhile_suffix isBlank).subset

/-- What is not blank survives trimming. -/
theorem mem_trim_of_not_blank (hd : d ∈ s) (hb : isBlank d = false) : d ∈ trim s := by
  have drop : ∀ {u : Text}, d ∈ u → d ∈ u.dropWhile isBlank := by
    intro u hu
    induction u with
    | nil => cases hu
    | cons c u ih =>
      rw [List.dropWhile_cons]
      split
      · next hc =>
        rcases List.mem_cons.1 hu with rfl | hu
        · rw [hb] at hc
          cases hc
        · exact ih hu
      · exact hu
  have hr : d ∈ (s.dropWhile isBlank).reverse := by simpa using drop hd
  simpa [trim, trimStart, trimEnd, dropEndWhile] using drop hr

/-! ## Quotes -/

/-- Quotes are taken away in pairs only. -/
theorem unquote_eq_self (ht : Tight s) (h : ¬ ∃ t, s = '"' :: (t ++ ['"'])) : unquote s = s := by
  rw [unquote, trim_eq_self ht]
  cases hfront : dropPrefix? s ['"'] with
  | none => rfl
  | some u =>
    cases hback : dropSuffix? u ['"'] with
    | none => simp [hback]
    | some t =>
      obtain ⟨v, hv, rfl⟩ := Option.map_eq_some_iff.1 hback
      have hu : u.reverse = '"' :: v := dropPrefix?_eq_some_iff.1 hv
      refine absurd ⟨v.reverse, ?_⟩ h
      rw [dropPrefix?_eq_some_iff.1 hfront, ← List.reverse_cons, ← hu, List.reverse_reverse]
      rfl

theorem unquote_of_not_mem (ht : Tight s) (h : '"' ∉ s) : unquote s = s := by
  refine unquote_eq_self ht ?_
  rintro ⟨t, rfl⟩
  simp at h

end DiagramProse.Text
