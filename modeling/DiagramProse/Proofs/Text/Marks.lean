import DiagramProse.Proofs.Text.Replacement
import DiagramProse.Proofs.Text.Squeezed

/-!
Marks of two characters that are taken out of a text, one kind after the other. None of a kind is left when all of it
have been taken out, but one may come about later, if what stands between its two characters is taken out as well. That
is the only way (`exists_mark_iff_uncovers`). Taking marks out costs characters that are not blank, so that a text with
a mark does not stay as it is (`not_infix_of_length_solid`).
-/

namespace DiagramProse.Text

/-- Two characters that are sought side by side, and the blanks that take their place. The two are the same if nothing
does, so that no mark comes about where one goes. -/
structure Mark where
  first : Char
  second : Char
  replacement : Text := []
  not_blank : isBlank first = false ∧ isBlank second = false := by decide
  blank : ∀ c ∈ replacement, isBlank c = true := by decide
  vanishes : first = second ∨ replacement ≠ [] := by decide

namespace Mark

def text (m : Mark) : Text := [m.first, m.second]

def takeOut (m : Mark) (s : Text) : Text := replace m.text m.replacement s

variable {m n : Mark} {s t a b : Text} {d : Char}

theorem text_ne_nil (m : Mark) : m.text ≠ [] := List.cons_ne_nil _ _

theorem not_blank_of_mem (hd : d ∈ m.text) : isBlank d = false := by
  simp only [text, List.mem_cons, List.not_mem_nil, or_false] at hd
  rcases hd with rfl | rfl
  exacts [m.not_blank.1, m.not_blank.2]

theorem not_mem_text (hd : isBlank d = true) : d ∉ m.text := fun hm => by
  rw [not_blank_of_mem hm] at hd
  cases hd

theorem not_mem_replacement (hd : isBlank d = false) : d ∉ m.replacement := fun hm => by
  rw [m.blank d hm] at hd
  cases hd

theorem takeOut_append_cons (hd : d ∉ m.text) (s t : Text) : m.takeOut (s ++ d :: t) = m.takeOut s ++ d :: m.takeOut t :=
  replace_append_cons m.text_ne_nil hd m.replacement s t

theorem takeOut_eq_self (h : ¬ m.text <:+: s) : m.takeOut s = s := by
  refine replace_eq_self m.text_ne_nil ?_ m.replacement
  rwa [← contains_iff, Bool.not_eq_true] at h

/-- None is left when all have been taken out. -/
theorem not_infix_takeOut (m : Mark) (s : Text) : ¬ m.text <:+: m.takeOut s := by
  refine not_infix_replace (not_mem_replacement m.not_blank.1) (m.vanishes.imp_right fun hne => ?_) s
  obtain ⟨c, r, hr⟩ := List.exists_cons_of_ne_nil hne
  refine ⟨c, by rw [hr]; rfl, ?_⟩
  rintro rfl
  exact not_mem_replacement m.not_blank.2 (by rw [hr]; exact List.mem_cons_self)

/-- Taking marks out costs characters that are not blank, if there are any to take out. -/
theorem length_solid_takeOut (m : Mark) (s : Text) : (solid (m.takeOut s)).length ≤ (Text.solid s).length ∧
    ((solid (m.takeOut s)).length = (Text.solid s).length → ¬ m.text <:+: s) := by
  refine replace_induction (P := fun s t => (Text.solid t).length ≤ (Text.solid s).length ∧
    ((Text.solid t).length = (Text.solid s).length → ¬ m.text <:+: s)) m.text_ne_nil m.replacement (fun s hs => ?_)
    (fun a b t ih => ?_) s
  · refine ⟨Nat.le_refl _, fun _ => ?_⟩
    rw [← contains_iff, contains, hs]
    decide
  · have htext : solid m.text = m.text := solid_eq_self fun c hc => not_blank_of_mem hc
    have hlength : m.text.length = 2 := rfl
    rw [solid_append, solid_append, solid_append, solid_append, solid_eq_nil m.blank, htext]
    simp only [List.length_append, List.length_nil, hlength]
    omega

end Mark

/-! ## One kind after the other -/

/-- The text without the marks, each kind taken out of what the ones in front of it leave. -/
def takeOut (marks : List Mark) (s : Text) : Text := marks.foldl (fun s m => m.takeOut s) s

variable {marks earlier later : List Mark} {mark : Mark} {s t a b : Text} {d : Char}

theorem takeOut_cons (m : Mark) (marks : List Mark) (s : Text) : takeOut (m :: marks) s = takeOut marks (m.takeOut s) :=
  rfl

theorem takeOut_append (earlier later : List Mark) (s : Text) :
    takeOut (earlier ++ later) s = takeOut later (takeOut earlier s) :=
  List.foldl_append

/-- The last kind to be taken out does not come back. -/
theorem not_infix_takeOut_concat (earlier : List Mark) (m : Mark) (s : Text) :
    ¬ m.text <:+: takeOut (earlier ++ [m]) s := by
  rw [takeOut_append]
  exact m.not_infix_takeOut _

theorem takeOut_append_cons (hd : ∀ m ∈ marks, d ∉ m.text) (s t : Text) :
    takeOut marks (s ++ d :: t) = takeOut marks s ++ d :: takeOut marks t := by
  induction marks generalizing s t with
  | nil => rfl
  | cons m marks ih =>
    rw [List.forall_mem_cons] at hd
    rw [takeOut_cons, m.takeOut_append_cons hd.1, ih hd.2, takeOut_cons, takeOut_cons]

/-- A character that is in no mark, and is not blank, was there before. -/
theorem takeOut_eq_append_cons (hd : ∀ m ∈ marks, d ∉ m.text) (hblank : isBlank d = false)
    (h : takeOut marks s = a ++ d :: b) : ∃ u v, s = u ++ d :: v ∧ takeOut marks u = a ∧ takeOut marks v = b := by
  induction marks generalizing s with
  | nil => exact ⟨a, b, h, rfl, rfl⟩
  | cons m marks ih =>
    rw [List.forall_mem_cons] at hd
    obtain ⟨u, v, hs, rfl, rfl⟩ := ih hd.2 h
    obtain ⟨u, v, rfl, rfl, rfl⟩ :=
      replace_eq_append_cons m.text_ne_nil hd.1 (Mark.not_mem_replacement hblank) hs
    exact ⟨u, v, rfl, rfl, rfl⟩

theorem takeOut_eq_self (h : ∀ m ∈ marks, ¬ m.text <:+: s) : takeOut marks s = s := by
  induction marks with
  | nil => rfl
  | cons m marks ih =>
    rw [List.forall_mem_cons] at h
    rw [takeOut_cons, Mark.takeOut_eq_self h.1, ih h.2]

theorem length_solid_takeOut_le (marks : List Mark) (s : Text) : (solid (takeOut marks s)).length ≤ (solid s).length := by
  induction marks generalizing s with
  | nil => exact Nat.le_refl _
  | cons m marks ih => exact (ih (m.takeOut s)).trans (m.length_solid_takeOut s).1

/-- A text that keeps all its characters but blanks has no marks. -/
theorem not_infix_of_length_solid (h : (solid (takeOut marks s)).length = (solid s).length) :
    ∀ m ∈ marks, ¬ m.text <:+: s := by
  induction marks with
  | nil => simp
  | cons m marks ih =>
    have hrest := length_solid_takeOut_le marks (m.takeOut s)
    obtain ⟨hle, hnone⟩ := m.length_solid_takeOut s
    rw [takeOut_cons] at h
    have hm : ¬ m.text <:+: s := hnone (by omega)
    rw [Mark.takeOut_eq_self hm] at h
    exact List.forall_mem_cons.2 ⟨hm, ih h⟩

/-! ## Marks that come about -/

/-- Two characters come together exactly if nothing is left of what stands between them. -/
theorem pair_infix_takeOut_iff {x y : Char} (hx : ∀ m ∈ marks, x ∉ m.text) (hy : ∀ m ∈ marks, y ∉ m.text)
    (hsolid : isBlank x = false ∧ isBlank y = false) : [x, y] <:+: takeOut marks s ↔
      ∃ between, x :: (between ++ [y]) <:+: s ∧ takeOut marks between = [] := by
  constructor
  · rintro ⟨a, b, hab⟩
    have htaken : takeOut marks s = a ++ x :: ([] ++ y :: b) := by simp [← hab]
    obtain ⟨u, v, rfl, rfl, hv⟩ := takeOut_eq_append_cons hx hsolid.1 htaken
    obtain ⟨between, w, rfl, hbetween, -⟩ := takeOut_eq_append_cons hy hsolid.2 hv
    exact ⟨between, ⟨u, w, by simp⟩, hbetween⟩
  · rintro ⟨between, ⟨u, v, rfl⟩, hbetween⟩
    refine ⟨takeOut marks u, takeOut marks v, ?_⟩
    have hsplit : u ++ x :: (between ++ [y]) ++ v = u ++ x :: (between ++ y :: v) := by simp
    rw [hsplit, takeOut_append_cons hx, takeOut_append_cons hy, hbetween]
    simp

/-- Where the marks of one kind have been taken out, something stands between the two characters of such a mark that goes
as a whole when the later kinds are taken out. -/
def Uncovers (marks : List Mark) (s : Text) : Prop :=
  ∃ earlier mark later between, marks = earlier ++ mark :: later ∧ between ≠ [] ∧ takeOut later between = [] ∧
    mark.first :: (between ++ [mark.second]) <:+: takeOut (earlier ++ [mark]) s

/-- Neither character of the one mark is in the other. -/
def Mark.Apart (m n : Mark) : Prop := m.first ∉ n.text ∧ m.second ∉ n.text

instance : DecidableRel Mark.Apart := fun m n => inferInstanceAs (Decidable (m.first ∉ n.text ∧ m.second ∉ n.text))

/-- There is a mark in the text that is left exactly if one was uncovered. -/
theorem exists_mark_iff_uncovers (h : marks.Pairwise Mark.Apart) (s : Text) :
    (∃ m ∈ marks, m.text <:+: takeOut marks s) ↔ Uncovers marks s := by
  have hleft : ∀ {earlier mark later}, marks = earlier ++ mark :: later → (mark.text <:+: takeOut marks s ↔
      ∃ between, mark.first :: (between ++ [mark.second]) <:+: takeOut (earlier ++ [mark]) s ∧
        takeOut later between = []) := by
    rintro earlier mark later rfl
    -- only the kinds behind this one matter: those in front of it are gone when it is taken out
    have hlater := (List.pairwise_cons.1 (List.pairwise_append.1 h).2.1).1
    rw [List.append_cons, takeOut_append]
    exact pair_infix_takeOut_iff (fun m hm => (hlater m hm).1) (fun m hm => (hlater m hm).2) mark.not_blank
  constructor
  · rintro ⟨mark, hmark, hinfix⟩
    obtain ⟨earlier, later, hsplit⟩ := List.append_of_mem hmark
    obtain ⟨between, hbetween, hgone⟩ := (hleft hsplit).1 hinfix
    refine ⟨earlier, mark, later, between, hsplit, ?_, hgone, hbetween⟩
    rintro rfl
    exact not_infix_takeOut_concat earlier mark s hbetween
  · rintro ⟨earlier, mark, later, between, hsplit, -, hgone, hbetween⟩
    exact ⟨mark, by simp [hsplit], (hleft hsplit).2 ⟨between, hbetween, hgone⟩⟩

end DiagramProse.Text
