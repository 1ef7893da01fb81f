import DiagramProse.Text.Blank
import Mathlib.Data.List.Basic
import Mathlib.Data.List.TakeWhile
import Mathlib.Tactic.Common

/-!
Texts without blanks at their ends, which trimming leaves alone (`trim_eq_self_iff`). What comes out of
`trim` and `squeeze` is of that kind, and a squeezed text has no blank but the space.
-/

namespace DiagramProse.Text

/-! ## Asking about each character -/

-- Characters are finitely many, and a search through all of them must not be tried before these.
instance (s : Text) (p : Char → Prop) [DecidablePred p] : Decidable (∀ c ∈ s, p c) :=
  List.decidableBAll p s

instance (o : Option Char) (p : Char → Prop) [DecidablePred p] : Decidable (∀ c ∈ o, p c) :=
  Option.decidableForallMem o

/-! ## Ends of texts -/

/-- Neither the first nor the last character is blank. -/
structure Tight (s : Text) : Prop where
  head : ∀ c ∈ s.head?, isBlank c = false
  last : ∀ c ∈ s.getLast?, isBlank c = false

instance (s : Text) : Decidable (Tight s) :=
  decidable_of_iff ((∀ c ∈ s.head?, isBlank c = false) ∧ ∀ c ∈ s.getLast?, isBlank c = false)
    ⟨fun h => ⟨h.1, h.2⟩, fun h => ⟨h.head, h.last⟩⟩

theorem tight_nil : Tight [] := ⟨by simp, by simp⟩

/-- A text is tight if its ends are. -/
theorem tight_append {s m t : Text} (hs : Tight s) (ht : Tight t) (hs' : s ≠ []) (ht' : t ≠ []) :
    Tight (s ++ m ++ t) := by
  refine ⟨fun c hc => hs.head c ?_, fun c hc => ht.last c ?_⟩
  · rwa [List.append_assoc, List.head?_append_of_ne_nil _ hs'] at hc
  · rwa [List.getLast?_append_of_ne_nil _ ht'] at hc

theorem tight_of_not_blank {s : Text} (h : ∀ c ∈ s, isBlank c = false) : Tight s :=
  ⟨fun c hc => h c (List.mem_of_mem_head? hc), fun c hc => h c (List.mem_of_getLast? hc)⟩

theorem dropWhile_eq_self {f : Char → Bool} {s : Text} (h : ∀ c ∈ s.head?, f c = false) :
    s.dropWhile f = s := by
  cases s with
  | nil => rfl
  | cons c s => simp [h c rfl]

theorem drop_takeWhile (s : Text) (f : Char → Bool) : s.drop (s.takeWhile f).length = s.dropWhile f := by
  conv_lhs => arg 2; rw [← List.takeWhile_append_dropWhile (p := f) (l := s)]
  exact List.drop_left

theorem dropEndWhile_eq_self {f : Char → Bool} {s : Text} (h : ∀ c ∈ s.getLast?, f c = false) :
    s.dropEndWhile f = s := by
  rw [dropEndWhile, dropWhile_eq_self (by simpa using h), List.reverse_reverse]

theorem dropWhile_head {f : Char → Bool} {s : Text} : ∀ c ∈ (s.dropWhile f).head?, f c = false := by
  intro c hc
  have := List.head?_dropWhile_not f s
  rw [Option.mem_def.1 hc] at this
  simpa using this

theorem dropEndWhile_last {f : Char → Bool} {s : Text} :
    ∀ c ∈ (s.dropEndWhile f).getLast?, f c = false := by
  simpa [dropEndWhile] using dropWhile_head (f := f) (s := s.reverse)

/-- What is left at the end of a text stands at its beginning. -/
theorem dropEndWhile_prefix (f : Char → Bool) (s : Text) : s.dropEndWhile f <+: s := by
  have h := List.reverse_prefix.2 (List.dropWhile_suffix (l := s.reverse) f)
  simpa [dropEndWhile] using h

theorem dropEndWhile_subset (f : Char → Bool) (s : Text) : s.dropEndWhile f ⊆ s :=
  List.IsPrefix.subset <| dropEndWhile_prefix f s

theorem dropEndWhile_append {f : Char → Bool} {s : Text} (hs : ∀ c ∈ s.getLast?, f c = false) (t : Text) :
    (s ++ t).dropEndWhile f = s ++ t.dropEndWhile f := by
  have hself : s.reverse.dropWhile f = s.reverse := dropWhile_eq_self (by simpa using hs)
  rw [dropEndWhile, dropEndWhile, List.reverse_append, List.dropWhile_append, hself]
  split
  · next hempty => rw [List.isEmpty_iff.1 hempty, List.reverse_reverse, List.reverse_nil, List.append_nil]
  · rw [List.reverse_append, List.reverse_reverse]

/-! ## Trimming -/

theorem trim_eq_self {s : Text} (h : Tight s) : trim s = s := by
  rw [trim, trimStart, dropWhile_eq_self h.head, trimEnd, dropEndWhile_eq_self h.last]

theorem tight_trim (s : Text) : Tight (trim s) := by
  refine ⟨fun c hc => ?_, dropEndWhile_last⟩
  obtain ⟨t, ht⟩ : trim s <+: trimStart s := dropEndWhile_prefix isBlank (trimStart s)
  have hne : trim s ≠ [] := by rintro he; rw [he] at hc; cases hc
  have hc' : c ∈ (trimStart s).head? := by rwa [← ht, List.head?_append_of_ne_nil _ hne]
  exact dropWhile_head (s := s) c hc'

/-- Blanks at the end are those behind the last part that is not blank at its end. -/
theorem trimEnd_append {s : Text} (hs : ∀ c ∈ s.getLast?, isBlank c = false) (t : Text) :
    trimEnd (s ++ t) = s ++ trimEnd t :=
  dropEndWhile_append hs t

theorem trimEnd_eq_nil {s : Text} (h : ∀ c ∈ s, isBlank c = true) : trimEnd s = [] := by
  rw [trimEnd, dropEndWhile, List.dropWhile_eq_nil_iff.2 fun c hc => h c (List.mem_reverse.1 hc), List.reverse_nil]

theorem trim_append {s : Text} (hs : Tight s) (hne : s ≠ []) (t : Text) : trim (s ++ t) = s ++ trimEnd t := by
  have hhead : ∀ c ∈ (s ++ t).head?, isBlank c = false := by
    rw [List.head?_append_of_ne_nil _ hne]
    exact hs.head
  rw [trim, trimStart, dropWhile_eq_self hhead, trimEnd_append hs.last]

theorem trim_eq_self_iff {s : Text} : trim s = s ↔ Tight s :=
  ⟨fun h => h ▸ tight_trim s, trim_eq_self⟩

theorem trim_trim (s : Text) : trim (trim s) = trim s := trim_eq_self (tight_trim s)

theorem trim_blanks_append {before : Text} (h : ∀ c ∈ before, isBlank c = true) (s : Text) :
    trim (before ++ s) = trim s := by
  rw [trim, trimStart, List.dropWhile_append_of_pos h]
  rfl

theorem exists_trimEnd (s : Text) : ∃ after, s = trimEnd s ++ after ∧ ∀ c ∈ after, isBlank c = true := by
  refine ⟨(s.reverse.takeWhile isBlank).reverse, ?_, fun c hc => List.mem_takeWhile_imp (List.mem_reverse.1 hc)⟩
  rw [trimEnd, dropEndWhile, ← List.reverse_append, List.takeWhile_append_dropWhile, List.reverse_reverse]

/-- A text is what is left when it is trimmed, with blanks on both sides. -/
theorem exists_trim (s : Text) : ∃ before after, s = before ++ trim s ++ after ∧
    (∀ c ∈ before, isBlank c = true) ∧ ∀ c ∈ after, isBlank c = true := by
  obtain ⟨after, hend, hafter⟩ := exists_trimEnd (trimStart s)
  refine ⟨s.takeWhile isBlank, after, ?_, fun c hc => List.mem_takeWhile_imp hc, hafter⟩
  rw [List.append_assoc, trim, ← hend]
  exact List.takeWhile_append_dropWhile.symm

theorem trimEnd_trimEnd (s : Text) : trimEnd (trimEnd s) = trimEnd s := dropEndWhile_eq_self dropEndWhile_last

theorem trim_trimEnd (s : Text) : trim (trimEnd s) = trim s := by
  obtain ⟨before, after, hs, hbefore, hafter⟩ := exists_trim s
  have htight := tight_trim s
  generalize trim s = t at hs htight ⊢
  cases t with
  | nil =>
    have hblank : ∀ c ∈ s, isBlank c = true := by
      intro c hc
      rw [hs, List.append_nil] at hc
      exact (List.mem_append.1 hc).elim (hbefore c) (hafter c)
    rw [trimEnd_eq_nil hblank]
    rfl
  | cons c t =>
    have hlast : ∀ d ∈ (before ++ c :: t).getLast?, isBlank d = false := by
      rw [List.getLast?_append_of_ne_nil _ (List.cons_ne_nil c t)]
      exact htight.last
    rw [hs, trimEnd_append hlast, trimEnd_eq_nil hafter, List.append_nil, trim_blanks_append hbefore,
      trim_eq_self htight]

/-! ## Squeezed texts -/

theorem not_mem_of_mem_splitBy {f : Char → Bool} {s w : Text} (hw : w ∈ splitBy f s) :
    ∀ c ∈ w, f c = false := by
  induction s generalizing w with
  | nil => simp_all [splitBy]
  | cons d s ih =>
    unfold splitBy at hw
    split at hw
    · rcases List.mem_cons.1 hw with rfl | hw
      exacts [by simp, ih hw]
    · next hd =>
      have hd' : f d = false := by simpa using hd
      split at hw
      · simp_all
      · next v vs hs =>
        rcases List.mem_cons.1 hw with rfl | hw
        · intro c hc
          rcases List.mem_cons.1 hc with rfl | hc
          exacts [hd', ih (hs ▸ List.mem_cons_self ..) c hc]
        · exact ih (hs ▸ List.mem_cons_of_mem _ hw)

theorem mem_words {s w : Text} (h : w ∈ words s) : w ≠ [] ∧ ∀ c ∈ w, isBlank c = false := by
  obtain ⟨hw, hne⟩ := List.mem_filter.1 h
  exact ⟨by simpa using hne, not_mem_of_mem_splitBy hw⟩

/-- Words with spaces between them have no other blanks, and none at the ends. -/
theorem join_words {ws : List Text} (h : ∀ w ∈ ws, w ≠ [] ∧ ∀ c ∈ w, isBlank c = false) :
    Tight (join [' '] ws) ∧ ∀ c ∈ join [' '] ws, isBlank c = true → c = ' ' := by
  unfold join
  induction ws with
  | nil => exact ⟨tight_nil, by simp⟩
  | cons w ws ih =>
    obtain ⟨hne, hw⟩ := h w (by simp)
    obtain ⟨htight, hspace⟩ := ih fun v hv => h v (by simp [hv])
    have hw' : ∀ c ∈ w, isBlank c = true → c = ' ' := fun c hc hb => by simp [hw c hc] at hb
    cases ws with
    | nil => exact ⟨by simpa using tight_of_not_blank hw, by simpa using hw'⟩
    | cons v vs =>
      obtain ⟨hv, -⟩ := h v (by simp)
      have hne' : [' '].intercalate (v :: vs) ≠ [] := by
        cases vs <;> simp [List.intercalate_cons_cons, hv]
      rw [List.intercalate_cons_cons]
      refine ⟨tight_append (tight_of_not_blank hw) htight hne hne', fun c hc hb => ?_⟩
      simp only [List.mem_append, List.mem_singleton] at hc
      rcases hc with (hc | rfl) | hc
      exacts [hw' c hc hb, rfl, hspace c hc hb]

theorem tight_squeeze (s : Text) : Tight (squeeze s) := (join_words fun _ h => mem_words h).1

theorem eq_space_of_mem_squeeze {s : Text} {c : Char} (hc : c ∈ squeeze s) (hb : isBlank c = true) :
    c = ' ' :=
  (join_words fun _ h => mem_words h).2 c hc hb

end DiagramProse.Text
