import DiagramProse.Proofs.Text.Letters

/-!
Names: words of letters, digits and underscores (`isPlainName`), and such words with single hyphens between
them (`isHyphenatedName`).
-/

namespace DiagramProse

open Text

/-- A word of letters, digits and underscores. -/
def isPlainName (s : Text) : Bool := !s.isEmpty && s.all isNameChar

theorem isNameChar_of_isPlainName {s : Text} (h : isPlainName s = true) :
    ∀ c ∈ s, isNameChar c = true := by
  simp only [isPlainName, Bool.and_eq_true, List.all_eq_true] at h
  exact h.2

theorem ne_nil_of_isPlainName {s : Text} (h : isPlainName s = true) : s ≠ [] := by
  rintro rfl
  simp [isPlainName] at h

/-- What is no letter, digit or underscore is not in a name. -/
theorem not_mem_of_isPlainName {s : Text} {d : Char} (h : isPlainName s = true) (hd : isNameChar d = false) :
    d ∉ s :=
  not_mem_of_all (List.all_eq_true.2 (isNameChar_of_isPlainName h)) hd

theorem not_blank_of_isPlainName {s : Text} (h : isPlainName s = true) : ∀ c ∈ s, isBlank c = false :=
  fun c hc => not_blank_of_isNameChar (isNameChar_of_isPlainName h c hc)

/-! ## Hyphens -/

/-- Plain names with a hyphen between any two of them. -/
def isHyphenatedName (s : Text) : Bool := (s.splitBy (· == '-')).all isPlainName

theorem isHyphenatedName_of_isPlainName {s : Text} (h : isPlainName s = true) : isHyphenatedName s = true := by
  have hs : ∀ c ∈ s, (c == '-') = false := fun c hc => by
    simpa using fun e : c = '-' => not_mem_of_isPlainName h (by decide) (e ▸ hc)
  rw [isHyphenatedName, splitBy_of_forall hs, List.all_cons, h]
  rfl

theorem isHyphenatedName_join {ws : List Text} (hne : ws ≠ []) (h : ∀ w ∈ ws, isPlainName w = true) :
    isHyphenatedName (join ['-'] ws) = true := by
  rw [isHyphenatedName, splitBy_join hne fun w hw => not_mem_of_isPlainName (h w hw) (by decide)]
  exact List.all_eq_true.2 h

/-- A hyphenated name is plain, or a plain one with another name behind a hyphen. -/
@[elab_as_elim]
theorem hyphenatedName_induction {motive : Text → Prop} {s : Text} (h : isHyphenatedName s = true)
    (plain : ∀ w, isPlainName w = true → motive w)
    (hyphen : ∀ w s, isPlainName w = true → isHyphenatedName s = true → motive s → motive (w ++ '-' :: s)) :
    motive s := by
  have hjoin : ∀ ws : List Text, ws ≠ [] → (∀ w ∈ ws, isPlainName w = true) → motive (join ['-'] ws) := by
    intro ws hne hws
    induction ws with
    | nil => exact absurd rfl hne
    | cons w ws ih =>
      have hw := hws w List.mem_cons_self
      cases ws with
      | nil => simpa [join] using plain w hw
      | cons v vs =>
        have hvs : ∀ u ∈ v :: vs, isPlainName u = true := fun u hu => hws u (List.mem_cons_of_mem w hu)
        have hcons : join ['-'] (w :: v :: vs) = w ++ '-' :: join ['-'] (v :: vs) := by
          rw [join, List.intercalate_cons_cons, List.append_assoc]
          rfl
        rw [hcons]
        exact hyphen w _ hw (isHyphenatedName_join (by simp) hvs) (ih (by simp) hvs)
  rw [← join_splitBy '-' s]
  exact hjoin _ (splitBy_ne_nil _ s) (List.all_eq_true.1 h)

/-- What is known of a hyphenated name. -/
structure HyphenatedText (s : Text) : Prop where
  ne_nil : s ≠ []
  chars : ∀ c ∈ s, isNameChar c = true ∨ c = '-'
  first : ∀ c ∈ s.head?, isNameChar c = true
  last : ∀ c ∈ s.getLast?, isNameChar c = true

theorem hyphenatedText {s : Text} (h : isHyphenatedName s = true) : HyphenatedText s := by
  refine hyphenatedName_induction h (fun w hw => ?_) fun w s hw _ ih => ?_
  · have hchars := isNameChar_of_isPlainName hw
    exact ⟨ne_nil_of_isPlainName hw, fun c hc => .inl (hchars c hc), fun c hc => hchars c (List.mem_of_mem_head? hc),
      fun c hc => hchars c (List.mem_of_getLast? hc)⟩
  · have hchars := isNameChar_of_isPlainName hw
    refine ⟨by simp, fun c hc => ?_, fun c hc => ?_, fun c hc => ?_⟩
    · rcases List.mem_append.1 hc with hc | hc
      · exact .inl (hchars c hc)
      · exact (List.mem_cons.1 hc).elim .inr (ih.chars c)
    · rw [List.head?_append_of_ne_nil _ (ne_nil_of_isPlainName hw)] at hc
      exact hchars c (List.mem_of_mem_head? hc)
    · rw [List.getLast?_append_of_ne_nil _ (List.cons_ne_nil _ _), List.getLast?_cons_of_ne_nil ih.ne_nil] at hc
      exact ih.last c hc

/-- What is neither a letter, digit or underscore nor a hyphen is not in a hyphenated name. -/
theorem HyphenatedText.not_mem {s : Text} {d : Char} (h : HyphenatedText s) (hd : isNameChar d = false)
    (hd' : d ≠ '-') : d ∉ s := by
  intro hm
  rcases h.chars d hm with hc | hc
  · rw [hd] at hc
    cases hc
  · exact hd' hc

theorem HyphenatedText.not_blank {s : Text} (h : HyphenatedText s) : ∀ c ∈ s, isBlank c = false := by
  intro c hc
  rcases h.chars c hc with hc | rfl
  exacts [not_blank_of_isNameChar hc, rfl]

end DiagramProse
