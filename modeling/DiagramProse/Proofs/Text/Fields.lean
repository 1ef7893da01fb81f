import DiagramProse.Proofs.Text.AcrossLines

/-!
The pieces of a text between separators, less the empty ones. Words are such pieces, and so are names between commas;
it makes no difference whether a text is taken apart at the one and then at the other or at both at once
(`flatMap_fields`).

What is read piece by piece (`Piecewise`) does not depend on how many separators stand between the pieces and at the
ends of the text.
-/

namespace DiagramProse.Text

/-! ## Reading piece by piece -/

/-- What is read from a text is what is read from its parts, wherever it is parted at a separator. -/
structure Piecewise {α : Type} (f : Char → Bool) (read : Text → List α) : Prop where
  nil : read [] = []
  append_cons : ∀ {d}, f d = true → ∀ s t, read (s ++ d :: t) = read s ++ read t

namespace Piecewise

variable {α : Type} {f : Char → Bool} {read : Text → List α} {s t : Text} {d : Char} (h : Piecewise f read)

include h

theorem cons (hd : f d = true) (s : Text) : read (d :: s) = read s := by
  have hself := h.append_cons hd [] s
  rwa [h.nil] at hself

/-- A piece goes no further than to the next separator. -/
theorem append (ht : ∀ c ∈ t.head?, f c = true) (s : Text) : read (s ++ t) = read s ++ read t := by
  cases t with
  | nil => rw [List.append_nil, h.nil, List.append_nil]
  | cons d t => rw [h.append_cons (ht d rfl), h.cons (ht d rfl)]

theorem separators_append (hs : ∀ c ∈ s, f c = true) (t : Text) : read (s ++ t) = read t := by
  induction s with
  | nil => rfl
  | cons c s ih =>
    obtain ⟨hc, hs⟩ := List.forall_mem_cons.1 hs
    rw [List.cons_append, h.cons hc, ih hs]

theorem append_separators (ht : ∀ c ∈ t, f c = true) (s : Text) : read (s ++ t) = read s := by
  have hnone := h.separators_append ht []
  rw [List.append_nil, h.nil] at hnone
  rw [h.append fun c hc => ht c (List.mem_of_mem_head? hc), hnone, List.append_nil]

theorem join (hd : f d = true) (parts : List Text) : read (join [d] parts) = parts.flatMap read := by
  induction parts with
  | nil => exact h.nil
  | cons p parts ih =>
    cases parts with
    | nil => simp [Text.join]
    | cons q parts =>
      have hcons : Text.join [d] (p :: q :: parts) = p ++ d :: Text.join [d] (q :: parts) := by
        simp [Text.join, List.intercalate_cons_cons]
      rw [hcons, h.append_cons hd, ih]
      exact List.flatMap_cons.symm

end Piecewise

namespace Piecewise

variable {α : Type} {read : Text → List α} (h : Piecewise isBlank read)

include h

theorem trimStart (s : Text) : read (trimStart s) = read s := by
  conv_rhs => rw [← List.takeWhile_append_dropWhile (p := isBlank) (l := s)]
  exact (h.separators_append (fun c hc => List.mem_takeWhile_imp hc) _).symm

theorem trimEnd (s : Text) : read (trimEnd s) = read s := by
  obtain ⟨after, hs, hafter⟩ := exists_trimEnd s
  conv_rhs => rw [hs]
  exact (h.append_separators hafter _).symm

theorem trim (s : Text) : read (trim s) = read s := by
  rw [Text.trim, h.trimEnd, h.trimStart]

end Piecewise

/-! ## Fields -/

variable {f g : Char → Bool} {s t : Text} {d : Char}

/-- The non-empty pieces between the characters with property `f`. -/
def fields (f : Char → Bool) (s : Text) : List Text := (splitBy f s).filter fun w => !w.isEmpty

theorem words_eq_fields (s : Text) : words s = fields isBlank s := rfl

theorem fields_nil (f : Char → Bool) : fields f [] = [] := rfl

theorem fields_of_forall (hs : s ≠ []) (h : ∀ c ∈ s, f c = false) : fields f s = [s] := by
  rw [fields, splitBy_of_forall h, List.filter_cons_of_pos (by simpa using hs), List.filter_nil]

theorem fields_append_cons (hd : f d = true) (s t : Text) : fields f (s ++ d :: t) = fields f s ++ fields f t := by
  rw [fields, splitBy_append hd, List.filter_append]
  rfl

theorem piecewise_fields (f : Char → Bool) : Piecewise f (fields f) := ⟨fields_nil f, fields_append_cons⟩

theorem fields_cons (hd : f d = true) (s : Text) : fields f (d :: s) = fields f s := (piecewise_fields f).cons hd s

theorem fields_append (h : ∀ c ∈ t.head?, f c = true) (s : Text) : fields f (s ++ t) = fields f s ++ fields f t :=
  (piecewise_fields f).append h s

theorem fields_separators_append (hs : ∀ c ∈ s, f c = true) (t : Text) : fields f (s ++ t) = fields f t :=
  (piecewise_fields f).separators_append hs t

theorem exists_mem_splitBy (hf : f d = false) : (∃ w ∈ splitBy f s, d ∈ w) ↔ d ∈ s := by
  induction s with
  | nil => simp [splitBy]
  | cons c s ih =>
    rw [List.mem_cons, ← ih, splitBy]
    split
    · next hc =>
      have hne : d ≠ c := fun e => by rw [e, hc] at hf; cases hf
      simp [hne]
    · cases hsplit : splitBy f s with
      | nil => exact absurd hsplit (splitBy_ne_nil f s)
      | cons v vs => simp [or_assoc]

/-- The characters that are no separators are those of the pieces. -/
theorem exists_mem_fields (hf : f d = false) : (∃ w ∈ fields f s, d ∈ w) ↔ d ∈ s := by
  rw [← exists_mem_splitBy hf]
  constructor
  · rintro ⟨w, hw, hd⟩
    exact ⟨w, (List.mem_filter.1 hw).1, hd⟩
  · rintro ⟨w, hw, hd⟩
    exact ⟨w, List.mem_filter.2 ⟨hw, by simpa using List.ne_nil_of_mem hd⟩, hd⟩

/-! ## Two kinds of separators -/

theorem splitBy_or (f g : Char → Bool) (s : Text) :
    splitBy (fun c => f c || g c) s = (splitBy f s).flatMap (splitBy g) := by
  induction s with
  | nil => rfl
  | cons c s ih =>
    rw [splitBy, splitBy, ih]
    cases hf : f c with
    | true => rfl
    | false =>
      cases hsplit : splitBy f s with
      | nil => exact absurd hsplit (splitBy_ne_nil f s)
      | cons w ws =>
        cases hg : g c with
        | true => simp [splitBy, hg]
        | false =>
          cases hw : splitBy g w with
          | nil => exact absurd hw (splitBy_ne_nil g w)
          | cons v vs => simp [splitBy, hg, hw]

/-- Taking the pieces apart once more is to look for both kinds of separators. -/
theorem flatMap_fields (f g : Char → Bool) (s : Text) :
    (fields f s).flatMap (fields g) = fields (fun c => f c || g c) s := by
  have hpieces : ∀ ps : List Text, (ps.filter fun w => !w.isEmpty).flatMap (fields g) =
      (ps.flatMap (splitBy g)).filter fun w => !w.isEmpty := by
    intro ps
    induction ps with
    | nil => rfl
    | cons p ps ih =>
      cases p with
      | nil => simpa [splitBy] using ih
      | cons c p =>
        rw [List.filter_cons_of_pos rfl, List.flatMap_cons, List.flatMap_cons, List.filter_append, ih]
        rfl
  rw [fields, hpieces, fields, splitBy_or]

/-! ## Words -/

theorem words_append (h : ∀ c ∈ t.head?, isBlank c = true) (s : Text) : words (s ++ t) = words s ++ words t :=
  fields_append h s

theorem words_trim (s : Text) : words (trim s) = words s := (piecewise_fields isBlank).trim s

end DiagramProse.Text
