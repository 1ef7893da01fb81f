import DiagramProse.Kind.Detection
import DiagramProse.Proofs.Text.AcrossLines

/-!
Places in a source: the beginnings of its lines (`lineBeginnings_append`, `any_lineBeginnings_iff`), all places
(`anySuffix_append_congr`), and the lines that are passed over on the way to the first that tells something.
-/

namespace DiagramProse

open Text

variable {s t u : Text} {f : Text → Bool}

theorem any_congr_of_mem {α : Type} {l : List α} {f g : α → Bool} (h : ∀ a ∈ l, f a = g a) :
    l.any f = l.any g := by
  rw [Bool.eq_iff_iff, List.any_eq_true, List.any_eq_true]
  refine exists_congr fun a => and_congr_right fun ha => ?_
  rw [h a ha]

/-! ## Beginnings of lines -/

theorem afterLineFeeds_append (s t : Text) :
    afterLineFeeds (s ++ '\n' :: t) = (afterLineFeeds s).map (· ++ '\n' :: t) ++ t :: afterLineFeeds t := by
  induction s with
  | nil => rfl
  | cons c s ih =>
    rw [List.cons_append, afterLineFeeds, afterLineFeeds, ih]
    split <;> rfl

theorem lineBeginnings_append (s t : Text) :
    lineBeginnings (s ++ '\n' :: t) =
      (s :: afterLineFeeds s).map (fun u => trimStart (u ++ '\n' :: t)) ++ lineBeginnings t := by
  simp [lineBeginnings, afterLineFeeds_append, Function.comp_def]

theorem afterLineFeeds_eq_nil (h : '\n' ∉ s) : afterLineFeeds s = [] := by
  induction s with
  | nil => rfl
  | cons c s ih =>
    simp only [List.mem_cons, not_or] at h
    rw [afterLineFeeds, if_neg (Ne.symm h.1), ih h.2]

theorem mem_afterLineFeeds : u ∈ afterLineFeeds s ↔ ∃ a, s = a ++ '\n' :: u := by
  constructor
  · intro h
    induction s with
    | nil => cases h
    | cons c s ih =>
      have hbehind : u ∈ afterLineFeeds s → ∃ a, c :: s = a ++ '\n' :: u := by
        intro hs
        obtain ⟨a, rfl⟩ := ih hs
        exact ⟨c :: a, rfl⟩
      rw [afterLineFeeds] at h
      split at h
      · next hc =>
        rcases List.mem_cons.1 h with rfl | h
        exacts [⟨[], by rw [hc]; rfl⟩, hbehind h]
      · exact hbehind h
  · rintro ⟨a, rfl⟩
    rw [afterLineFeeds_append]
    simp

/-- The text from the beginning of some line on, blanks left out, has property `f`. -/
theorem any_lineBeginnings_iff : (lineBeginnings s).any f = true ↔
    ∃ front u, s = front ++ u ∧ (front = [] ∨ front.getLast? = some '\n') ∧ f (trimStart u) = true := by
  rw [List.any_eq_true]
  constructor
  · rintro ⟨v, hv, hf⟩
    obtain ⟨u, hu, rfl⟩ := List.mem_map.1 hv
    rcases List.mem_cons.1 hu with rfl | hu
    · exact ⟨[], u, rfl, .inl rfl, hf⟩
    · obtain ⟨a, rfl⟩ := mem_afterLineFeeds.1 hu
      exact ⟨a ++ ['\n'], u, by simp, .inr (by simp), hf⟩
  · rintro ⟨front, u, rfl, hfront, hf⟩
    refine ⟨trimStart u, List.mem_map_of_mem ?_, hf⟩
    rcases hfront with rfl | hlast
    · exact List.mem_cons_self
    · obtain ⟨a, rfl⟩ := List.getLast?_eq_some_iff.1 hlast
      exact List.mem_cons_of_mem _ (mem_afterLineFeeds.2 ⟨a, by simp⟩)

/-! ## All places -/

/-- What stands behind a text can be exchanged if no place in the text shows the difference. -/
theorem anySuffix_append_congr {t' : Text} (h : ∀ w, w ≠ [] → w <:+ s → f (w ++ t) = f (w ++ t'))
    (ht : anySuffix f t = anySuffix f t') : anySuffix f (s ++ t) = anySuffix f (s ++ t') := by
  induction s with
  | nil => exact ht
  | cons c s ih =>
    have hhead := h (c :: s) (List.cons_ne_nil c s) List.suffix_rfl
    rw [List.cons_append, List.cons_append] at hhead ⊢
    rw [anySuffix, anySuffix, hhead, ih fun w hne hw => h w hne (hw.trans (List.suffix_cons c s))]

/-- A text in front can be left out if no place in it passes. -/
theorem anySuffix_append_of_forall (h : ∀ w, w ≠ [] → w <:+ s → f (w ++ t) = false) :
    anySuffix f (s ++ t) = anySuffix f t := by
  induction s with
  | nil => rfl
  | cons c s ih =>
    have hhead := h (c :: s) (List.cons_ne_nil c s) List.suffix_rfl
    rw [List.cons_append] at hhead ⊢
    rw [anySuffix, hhead, Bool.false_or, ih fun w hne hw => h w hne (hw.trans (List.suffix_cons c s))]

/-! ## The first line that tells something -/

/-- Blank lines and comments are passed over, within front matter and outside. -/
theorem firstTellingLine_skip {line : Text} (h : line.trim = [] ∨ isComment line.trim = true) (inside : Bool)
    (ls : List Text) : firstTellingLine inside (line :: ls) = firstTellingLine inside ls := by
  have hdashes : line.trim ≠ "---" := by
    intro he
    rw [he] at h
    exact absurd h (by decide +kernel)
  have hskip : (inside || line.trim.isEmpty || isComment line.trim) = true := by
    rcases h with h | h
    · rw [h, List.isEmpty_nil, Bool.or_true, Bool.true_or]
    · rw [h, Bool.or_true]
  rw [firstTellingLine, if_neg hdashes, if_pos hskip]

end DiagramProse
