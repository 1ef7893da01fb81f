import DiagramProse.Proofs.Text.Cuts
import Mathlib.Data.List.TakeWhile

/-!
Two texts with a line feed between them. What is blank at the end of the first goes with the line feed, and what
has no line feed is found in the one or in the other (`contains_append_cons`).
-/

namespace DiagramProse.Text

variable {s t p : Text} {f : Char → Bool}

/-! ## Sought texts -/

theorem lowerAscii_append_lineFeed (s t : Text) :
    lowerAscii (s ++ '\n' :: t) = lowerAscii s ++ '\n' :: lowerAscii t :=
  List.map_append

theorem cutAt?_append_text (f : Char → Bool) (s t : Text) :
    cutAt? f (s ++ t) = match cutAt? f s with
      | some (a, b) => some (a, b ++ t)
      | none => (cutAt? f t).map fun (a, b) => (s ++ a, b) := by
  induction s with
  | nil => simp [cutAt?]
  | cons c s ih =>
    rw [List.cons_append, cutAt?, cutAt?, ih]
    split
    · rfl
    · cases cutAt? f s with
      | some ab => rfl
      | none => simp [Function.comp_def]

theorem takeWhile_append_lineFeed (hf : f '\n' = false) (s t : Text) :
    (s ++ '\n' :: t).takeWhile f = s.takeWhile f := by
  induction s with
  | nil => simp [hf]
  | cons c s ih => simp only [List.cons_append, List.takeWhile_cons, ih]

/-! ## Blanks -/

theorem trimStart_eq_nil_iff : trimStart s = [] ↔ s.allBlank = true := by
  rw [trimStart, List.dropWhile_eq_nil_iff, allBlank, List.all_eq_true]

theorem trimStart_append (s t : Text) :
    trimStart (s ++ t) = if s.allBlank then trimStart t else trimStart s ++ t := by
  have hblank : (trimStart s).isEmpty = s.allBlank := by
    rw [Bool.eq_iff_iff, List.isEmpty_iff, trimStart_eq_nil_iff]
  rw [trimStart, List.dropWhile_append, ← hblank]
  rfl

theorem trimStart_append_of_not_blank (h : s.allBlank = false) (t : Text) : trimStart (s ++ t) = trimStart s ++ t := by
  rw [trimStart_append, h, if_neg Bool.false_ne_true]

theorem trimStart_append_of_blank (h : s.allBlank = true) (t : Text) : trimStart (s ++ t) = trimStart t := by
  rw [trimStart_append, if_pos h]

theorem trimStart_ne_nil (h : s.allBlank = false) : trimStart s ≠ [] := by
  rw [Ne, trimStart_eq_nil_iff, h]
  exact Bool.false_ne_true

theorem isSome_afterBlanks?_append_lineFeed (s t : Text) :
    (afterBlanks? (s ++ '\n' :: t)).isSome = s.head?.all isBlank := by
  cases s with
  | nil => rfl
  | cons c s =>
    rw [List.cons_append, afterBlanks?]
    split <;> simp_all

theorem trimEnd_append_of_blank (hs : ∀ c ∈ s.getLast?, isBlank c = false) (ht : t.allBlank = true) :
    trimEnd (s ++ t) = s := by
  rw [trimEnd_append hs, trimEnd_eq_nil (List.all_eq_true.1 ht), List.append_nil]

theorem trim_dropCarriageReturn (s : Text) : trim (dropCarriageReturn s) = trim s := by
  cases hd : dropSuffix? s ['\r'] with
  | none => rw [dropCarriageReturn, hd, Option.getD_none]
  | some t =>
    have hs : s = t ++ ['\r'] := by
      obtain ⟨u, hu, rfl⟩ := Option.map_eq_some_iff.1 hd
      have hr : s.reverse = '\r' :: u := dropPrefix?_eq_some_iff.1 hu
      simpa using congrArg List.reverse hr
    rw [dropCarriageReturn, hd, Option.getD_some, hs, trim, trim, trimStart_append]
    split
    · next hblank =>
      rw [trimStart_eq_nil_iff.2 hblank]
      rfl
    · rw [trimEnd, trimEnd, dropEndWhile, dropEndWhile, List.reverse_append]
      rfl

/-- A character at the end that is not blank keeps the blanks in front of it. -/
theorem trim_concat {c : Char} (hc : isBlank c = false) (s : Text) : trim (s ++ [c]) = trimStart s ++ [c] := by
  have hstart : trimStart (s ++ [c]) = trimStart s ++ [c] := by
    rw [trimStart_append]
    split
    · next hblank =>
      rw [trimStart_eq_nil_iff.2 hblank, trimStart, dropWhile_eq_self (by simpa using hc)]
      rfl
    · rfl
  rw [trim, hstart, trimEnd, dropEndWhile_eq_self (by simpa using hc)]

/-- Lines are the pieces of a text up to blanks at their ends. Only an empty piece at the end of the text is no line. -/
theorem trimmed_linesOfPieces (ps : List Text) :
    ps.map trim = (linesOfPieces ps).map trim ∨ ps.map trim = (linesOfPieces ps).map trim ++ [[]] := by
  fun_induction linesOfPieces ps with
  | case1 => exact .inl rfl
  | case2 last h =>
    rw [List.isEmpty_iff.1 h]
    exact .inr rfl
  | case3 => exact .inl rfl
  | case4 piece rest _ ih =>
    rw [List.map_cons, List.map_cons, trim_dropCarriageReturn]
    exact ih.imp (congrArg _) (congrArg _)

/-- A reader of lines for which blanks at their ends and blank lines make no difference reads the pieces. -/
theorem foldl_linesOfPieces {α : Type} {step : α → Text → α} (htrim : ∀ a l, step a (trim l) = step a l)
    (hblank : ∀ a, step a [] = a) (ps : List Text) (a : α) : (linesOfPieces ps).foldl step a = ps.foldl step a := by
  have hmap (ls : List Text) : (ls.map trim).foldl step a = ls.foldl step a := by
    rw [List.foldl_map]
    exact congrArg (fun f => ls.foldl f a) (funext₂ htrim)
  rw [← hmap ps, ← hmap (linesOfPieces ps)]
  rcases trimmed_linesOfPieces ps with h | h
  · rw [h]
  · rw [h, List.foldl_append, List.foldl_cons, List.foldl_nil, hblank]

theorem map_trim_linesOfPieces (ps : List Text) {p : Text} (hp : p ≠ []) (qs : List Text) :
    (linesOfPieces (ps ++ p :: qs)).map trim = ps.map trim ++ trim p :: (linesOfPieces qs).map trim := by
  have htrim : trim ∘ dropCarriageReturn = trim := funext trim_dropCarriageReturn
  rw [linesOfPieces_append ps (List.cons_ne_nil p qs), List.map_append, List.map_map, htrim]
  cases qs with
  | nil => simp [linesOfPieces, hp]
  | cons q qs => rw [linesOfPieces, List.map_cons, trim_dropCarriageReturn]; simp

/-- The first word of a text. -/
theorem words_headD (hs : s ≠ []) (hword : ∀ c ∈ s, isBlank c = false) (ht : ∀ c ∈ t.head?, isBlank c = true) :
    (words (s ++ t)).headD [] = s := by
  cases t with
  | nil => rw [List.append_nil, words_of_forall hs hword, List.headD_cons]
  | cons c t =>
    rw [words, splitBy_append_cons hword (ht c rfl), List.filter_cons_of_pos (by simpa using hs), List.headD_cons]

end DiagramProse.Text
