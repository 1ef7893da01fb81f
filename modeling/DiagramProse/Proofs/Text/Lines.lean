import DiagramProse.Text.Lines
import Mathlib.Data.List.Basic
import Mathlib.Tactic.Common

/-!
Lines that are put under each other are read back (`lines_join`).
-/

namespace DiagramProse.Text

/-- A text that can stand on a line of its own: it has no line feed, is not empty, and has no carriage
return at its end. -/
structure IsLine (s : Text) : Prop where
  noLineFeed : '\n' ∉ s
  ne_nil : s ≠ []
  last : s.getLast? ≠ some '\r'

instance (s : Text) : Decidable (IsLine s) :=
  decidable_of_iff ('\n' ∉ s ∧ s ≠ [] ∧ s.getLast? ≠ some '\r')
    ⟨fun h => ⟨h.1, h.2.1, h.2.2⟩, fun h => ⟨h.noLineFeed, h.ne_nil, h.last⟩⟩

/-- A text goes on a line if its parts have no line feed and the last one can end it. -/
theorem isLine_append {s t : Text} (hs : '\n' ∉ s) (ht : IsLine t) : IsLine (s ++ t) := by
  refine ⟨by simp [hs, ht.noLineFeed], by simp [ht.ne_nil], ?_⟩
  rw [List.getLast?_append_of_ne_nil _ ht.ne_nil]
  exact ht.last

theorem splitBy_of_forall {f : Char → Bool} {w : Text} (h : ∀ c ∈ w, f c = false) :
    splitBy f w = [w] := by
  induction w with
  | nil => rfl
  | cons c w ih =>
    have hc := h c (by simp)
    simp [splitBy, hc, ih fun d hd => h d (by simp [hd])]

theorem splitBy_append_cons {f : Char → Bool} {w : Text} {d : Char} (h : ∀ c ∈ w, f c = false)
    (hd : f d = true) (s : Text) : splitBy f (w ++ d :: s) = w :: splitBy f s := by
  induction w with
  | nil => simp [splitBy, hd]
  | cons c w ih =>
    have hc := h c (by simp)
    simp [splitBy, hc, ih fun d hd => h d (by simp [hd])]

theorem splitBy_join {c : Char} {ws : List Text} (hne : ws ≠ []) (h : ∀ w ∈ ws, c ∉ w) :
    splitBy (· == c) (join [c] ws) = ws := by
  have noSep : ∀ w ∈ ws, ∀ d ∈ w, (d == c) = false := by
    intro w hw d hd
    have : d ≠ c := fun e => h w hw (e ▸ hd)
    simpa using this
  unfold join
  clear h
  induction ws with
  | nil => exact absurd rfl hne
  | cons w ws ih =>
    have hw := noSep w (by simp)
    cases ws with
    | nil => simpa using splitBy_of_forall hw
    | cons v vs =>
      have hi := ih (by simp) fun x hx => noSep x (by simp [hx])
      rw [List.intercalate_cons_cons, List.append_assoc, List.singleton_append,
        splitBy_append_cons hw (by simp), hi]

theorem dropSuffix?_of_last {s : Text} {c : Char} (h : s.getLast? ≠ some c) : dropSuffix? s [c] = none := by
  cases hd : dropSuffix? s [c] with
  | none => rfl
  | some t =>
    obtain ⟨u, hu, -⟩ := Option.map_eq_some_iff.1 hd
    have hs : s.reverse = c :: u := dropPrefix?_eq_some_iff.1 hu
    exact absurd (by rw [← List.head?_reverse, hs]; rfl) h

theorem dropCarriageReturn_eq_self {s : Text} (h : s.getLast? ≠ some '\r') :
    dropCarriageReturn s = s := by
  rw [dropCarriageReturn, dropSuffix?_of_last h, Option.getD_none]

theorem linesOfPieces_eq_self {ls : List Text} (h : ∀ l ∈ ls, IsLine l) : linesOfPieces ls = ls := by
  induction ls with
  | nil => rfl
  | cons l ls ih =>
    have hl := h l (by simp)
    cases ls with
    | nil => simp [linesOfPieces, hl.ne_nil]
    | cons m ms =>
      rw [linesOfPieces, dropCarriageReturn_eq_self hl.last, ih fun x hx => h x (by simp [hx])]
      simp

theorem lines_join_eq {ls : List Text} (h : ∀ l ∈ ls, '\n' ∉ l) : lines (join ['\n'] ls) = linesOfPieces ls := by
  cases ls with
  | nil => rfl
  | cons l ls => rw [lines, splitBy_join (by simp) h]

theorem lines_join {ls : List Text} (h : ∀ l ∈ ls, IsLine l) : lines (join ['\n'] ls) = ls := by
  rw [lines_join_eq fun l hl => (h l hl).noLineFeed, linesOfPieces_eq_self h]

/-! ## Joined texts -/

theorem join_cons_cons (sep p q : Text) (ps : List Text) : join sep (p :: q :: ps) = p ++ sep ++ join sep (q :: ps) :=
  List.intercalate_cons_cons

theorem append_join (sep s p : Text) (ps : List Text) : s ++ join sep (p :: ps) = join sep ((s ++ p) :: ps) := by
  cases ps with
  | nil => simp [join]
  | cons q ps => rw [join_cons_cons, join_cons_cons, List.append_assoc, List.append_assoc, List.append_assoc]

theorem join_join_cons (sep : Text) {ps : List Text} (hps : ps ≠ []) (qs : List Text) :
    join sep (join sep ps :: qs) = join sep (ps ++ qs) := by
  induction ps with
  | nil => exact absurd rfl hps
  | cons p ps ih =>
    cases ps with
    | nil => simp [join]
    | cons p' ps =>
      rw [join_cons_cons, ← append_join, ih (List.cons_ne_nil p' ps)]
      exact (join_cons_cons sep p p' (ps ++ qs)).symm

/-- A text joined from others can stand for them in a longer list. -/
theorem join_join (sep : Text) (as : List Text) {ps : List Text} (hps : ps ≠ []) (qs : List Text) :
    join sep (as ++ join sep ps :: qs) = join sep (as ++ (ps ++ qs)) := by
  induction as with
  | nil => exact join_join_cons sep hps qs
  | cons a as ih =>
    unfold join at ih ⊢
    rw [List.cons_append, List.cons_append, List.intercalate_cons_of_ne_nil (by simp), ih,
      List.intercalate_cons_of_ne_nil (by simp [hps])]

theorem join_append (sep s p : Text) (ps : List Text) : join sep (ps ++ [p]) ++ s = join sep (ps ++ [p ++ s]) := by
  unfold join
  induction ps with
  | nil => rw [List.nil_append, List.nil_append, List.intercalate_singleton, List.intercalate_singleton]
  | cons q ps ih =>
    rw [List.cons_append, List.cons_append, List.intercalate_cons_of_ne_nil (by simp),
      List.intercalate_cons_of_ne_nil (by simp), List.append_assoc, ih]

/-- A part of a joined text stands between what the parts in front of it and those behind it are written as. -/
theorem join_around (sep s : Text) (ps qs : List Text) :
    join sep (ps ++ s :: qs) = join sep (ps ++ [[]]) ++ s ++ join sep ([] :: qs) := by
  calc join sep (ps ++ s :: qs) = join sep (ps ++ [s] ++ qs) := by rw [List.append_assoc, List.singleton_append]
    _ = join sep (join sep (ps ++ [s]) :: qs) := (join_join_cons sep (by simp) qs).symm
    _ = join sep (ps ++ [s]) ++ join sep ([] :: qs) := by rw [append_join, List.append_nil]
    _ = join sep (ps ++ [[]]) ++ s ++ join sep ([] :: qs) := by rw [join_append sep s, List.nil_append]

/-! ## Texts behind each other -/

/-- Lines, each of them ended by a line feed. -/
def unlines (ls : List Text) : Text := ls.flatMap (· ++ ['\n'])

theorem splitBy_append {f : Char → Bool} {d : Char} (hd : f d = true) (s t : Text) :
    splitBy f (s ++ d :: t) = splitBy f s ++ splitBy f t := by
  induction s with
  | nil => simp [splitBy, hd]
  | cons c s ih =>
    rw [List.cons_append, splitBy, splitBy]
    split
    · rw [ih, List.cons_append]
    · rw [ih]
      cases hs : splitBy f s with
      | nil => exact absurd hs (splitBy_ne_nil f s)
      | cons w ws => rfl

theorem linesOfPieces_append (ps : List Text) {qs : List Text} (hqs : qs ≠ []) :
    linesOfPieces (ps ++ qs) = ps.map dropCarriageReturn ++ linesOfPieces qs := by
  induction ps with
  | nil => rfl
  | cons p ps ih =>
    cases hrest : ps ++ qs with
    | nil => exact absurd (List.append_eq_nil_iff.1 hrest).2 hqs
    | cons q rest => rw [List.cons_append, hrest, linesOfPieces, ← hrest, ih, List.map_cons, List.cons_append]; simp

/-- The lines up to a line feed, and those behind it. -/
theorem lines_append (s t : Text) :
    lines (s ++ '\n' :: t) = (splitBy (· == '\n') s).map dropCarriageReturn ++ lines t := by
  rw [lines, splitBy_append (by simp), linesOfPieces_append _ (splitBy_ne_nil _ _), lines]

/-- The first line, and those behind it. -/
theorem lines_cons {s : Text} (h : '\n' ∉ s) (t : Text) :
    lines (s ++ '\n' :: t) = dropCarriageReturn s :: lines t := by
  have hs : ∀ c ∈ s, (c == '\n') = false := fun c hc => by simpa using fun e : c = '\n' => h (e ▸ hc)
  rw [lines_append, splitBy_of_forall hs, List.map_singleton, List.singleton_append]

/-- What follows lines that are ended is read on its own. -/
theorem lines_unlines_append (ls : List Text) (t : Text) : lines (unlines ls ++ t) = lines (unlines ls) ++ lines t := by
  induction ls with
  | nil => rfl
  | cons l ls ih =>
    have hcons : ∀ t : Text, unlines (l :: ls) ++ t = l ++ '\n' :: (unlines ls ++ t) := by simp [unlines]
    have hself := hcons []
    rw [List.append_nil, List.append_nil] at hself
    rw [hcons, hself, lines_append, lines_append, ih, List.append_assoc]

end DiagramProse.Text
