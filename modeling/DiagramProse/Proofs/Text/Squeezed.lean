import DiagramProse.Proofs.Text.Fields

/-!
Squeezed texts. Their words are those of the text, with single spaces between them (`singleSpaced_squeeze`), so that
nothing is lost or found in them that has no blank (`infix_squeeze_iff`), and squeezing them again changes nothing.
-/

namespace DiagramProse.Text

variable {s t p : Text}

/-! ## Single spaces -/

/-- No blanks but spaces, none of them at the ends and no two side by side. -/
structure SingleSpaced (s : Text) : Prop where
  tight : Tight s
  space : ∀ c ∈ s, isBlank c = true → c = ' '
  single : ¬ [' ', ' '] <:+: s

theorem not_twoSpaces_join {ws : List Text} (h : ∀ w ∈ ws, w ≠ [] ∧ ∀ c ∈ w, isBlank c = false) :
    ¬ [' ', ' '] <:+: join [' '] ws := by
  have hspace : ∀ w ∈ ws, ' ' ∉ w := fun w hw hm => absurd ((h w hw).2 ' ' hm) (by decide)
  intro htwo
  induction ws with
  | nil => exact absurd (List.infix_nil.1 htwo) (by decide)
  | cons w ws ih =>
    have hws : ∀ v ∈ ws, v ≠ [] ∧ ∀ c ∈ v, isBlank c = false := fun v hv => h v (List.mem_cons_of_mem w hv)
    cases ws with
    | nil =>
      have hw : join [' '] [w] = w := by simp [join]
      rw [hw] at htwo
      exact hspace w List.mem_cons_self (htwo.subset List.mem_cons_self)
    | cons v vs =>
      rw [join_cons_cons, List.append_assoc, List.singleton_append] at htwo
      have hbehind := infix_of_infix_append (hspace w List.mem_cons_self) htwo
      rcases List.infix_cons_iff.1 hbehind with hprefix | hinfix
      · -- a second space would be the first character of a word
        obtain ⟨r, hr⟩ := (List.cons_prefix_cons.1 hprefix).2
        have hhead : ' ' ∈ (join [' '] (v :: vs)).head? := by rw [← hr]; rfl
        exact absurd ((join_words hws).1.head ' ' hhead) (by decide)
      · exact ih hws (fun u hu => hspace u (List.mem_cons_of_mem w hu)) hinfix

theorem singleSpaced_squeeze (s : Text) : SingleSpaced (squeeze s) where
  tight := tight_squeeze s
  space _ := eq_space_of_mem_squeeze
  single := not_twoSpaces_join fun _ hw => mem_words hw

/-! ## The words of a squeezed text -/

theorem words_squeeze (s : Text) : words (squeeze s) = words s := by
  have hwords : ∀ ws : List Text, (∀ w ∈ ws, w ≠ [] ∧ ∀ c ∈ w, isBlank c = false) → ws.flatMap words = ws := by
    intro ws h
    induction ws with
    | nil => rfl
    | cons w ws ih =>
      rw [List.forall_mem_cons] at h
      rw [List.flatMap_cons, ih h.2, words_of_forall h.1.1 h.1.2, List.singleton_append]
  have hjoin : words (squeeze s) = (words s).flatMap words := (piecewise_fields isBlank).join rfl (words s)
  rw [hjoin, hwords (words s) fun _ hw => mem_words hw]

theorem squeeze_squeeze (s : Text) : squeeze (squeeze s) = squeeze s := by
  rw [squeeze, words_squeeze, squeeze]

/-- What has no blank stands in a word. -/
theorem exists_word_infix_iff (hp : p ≠ []) (hblank : ∀ c ∈ p, isBlank c = false) (s : Text) :
    (∃ w ∈ words s, p <:+: w) ↔ p <:+: s := by
  rcases exists_first isBlank s with hnone | ⟨a, d, b, rfl, hd, ha⟩
  · cases s with
    | nil => simp [words_eq_fields, fields_nil, hp]
    | cons c s => simp [words_of_forall (List.cons_ne_nil c s) hnone]
  · have hdp : d ∉ p := fun hm => by rw [hblank d hm] at hd; cases hd
    have hlt : b.length < (a ++ d :: b).length := by simp; omega
    have hrest := exists_word_infix_iff hp hblank b
    have hfront : (∃ w ∈ words a, p <:+: w) ↔ p <:+: a := by
      cases a with
      | nil => simp [words_eq_fields, fields_nil, hp]
      | cons c a => simp [words_of_forall (List.cons_ne_nil c a) ha]
    rw [← contains_iff, contains_append_cons hp hdp, Bool.or_eq_true, contains_iff, contains_iff, ← hfront, ← hrest,
      words_eq_fields, fields_append_cons hd, words_eq_fields, words_eq_fields]
    simp only [List.mem_append, or_and_right, exists_or]
termination_by s.length

theorem infix_squeeze_iff (hp : p ≠ []) (hblank : ∀ c ∈ p, isBlank c = false) : p <:+: squeeze s ↔ p <:+: s := by
  rw [← exists_word_infix_iff hp hblank (squeeze s), words_squeeze, exists_word_infix_iff hp hblank]

/-! ## Characters that are not blank -/

/-- The characters of a text that are not blank. -/
def solid (s : Text) : Text := s.filter fun c => !isBlank c

theorem solid_append (s t : Text) : solid (s ++ t) = solid s ++ solid t := List.filter_append ..

theorem solid_eq_self (h : ∀ c ∈ s, isBlank c = false) : solid s = s :=
  List.filter_eq_self.2 fun c hc => by rw [h c hc]; rfl

theorem solid_eq_nil (h : ∀ c ∈ s, isBlank c = true) : solid s = [] :=
  List.filter_eq_nil_iff.2 fun c hc => by simp [h c hc]

theorem flatten_splitBy (f : Char → Bool) (s : Text) : (splitBy f s).flatten = s.filter fun c => !f c := by
  induction s with
  | nil => rfl
  | cons c s ih =>
    rw [splitBy]
    split
    · next hc => simpa [hc] using ih
    · next hc =>
      cases hsplit : splitBy f s with
      | nil => exact absurd hsplit (splitBy_ne_nil f s)
      | cons w ws =>
        rw [hsplit] at ih
        simpa [hc] using ih

theorem flatten_words (s : Text) : (words s).flatten = solid s := by
  rw [words, List.flatten_filter_not_isEmpty, flatten_splitBy, solid]

theorem solid_squeeze (s : Text) : solid (squeeze s) = solid s := by
  rw [← flatten_words, words_squeeze, flatten_words]

end DiagramProse.Text
