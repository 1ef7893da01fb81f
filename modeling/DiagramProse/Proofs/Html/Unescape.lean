import DiagramProse.Html.Escape
import Mathlib.Data.Set.Function
import Mathlib.Tactic.Common

/-!
Escaped text read back. Taking the four entities for their characters once, from left to right, gives the text that was
escaped, less the characters that XML does not allow (`unescape_escape`). A text may look like an entity itself: its
`&` is escaped, so that one pass finds the `&` and leaves what stands behind it alone.
-/

namespace DiagramProse.Html

/-- Text with a character for each of the four entities. What has become a character is not looked at again. -/
def unescape : Text → Text
  | '&' :: 'a' :: 'm' :: 'p' :: ';' :: s => '&' :: unescape s
  | '&' :: 'l' :: 't' :: ';' :: s => '<' :: unescape s
  | '&' :: 'g' :: 't' :: ';' :: s => '>' :: unescape s
  | '&' :: 'q' :: 'u' :: 'o' :: 't' :: ';' :: s => '"' :: unescape s
  | c :: s => c :: unescape s
  | [] => []

/-- Only an ampersand begins an entity. -/
theorem unescape_cons {c : Char} (hc : c ≠ '&') (s : Text) : unescape (c :: s) = c :: unescape s := by
  rw [unescape.eq_def]
  split <;> simp_all

/-- A character is read back, unless it was left out. -/
theorem unescape_escapeChar_append (c : Char) (s : Text) :
    unescape (escapeChar c ++ s) = [c].filter isXmlChar ++ unescape s := by
  cases hxml : isXmlChar c with
  | false => simp [escapeChar, hxml]
  | true =>
    have hkept : [c].filter isXmlChar = [c] := List.filter_cons_of_pos hxml
    rw [hkept, escapeChar, hxml]
    simp only [Bool.not_true, Bool.false_eq_true, if_false]
    split_ifs with hand hless hgreater hquote
    · rw [hand]; rfl
    · rw [hless]; rfl
    · rw [hgreater]; rfl
    · rw [hquote]; rfl
    · exact unescape_cons hand s

theorem unescape_escape_append (s t : Text) : unescape (escape s ++ t) = s.filter isXmlChar ++ unescape t := by
  induction s with
  | nil => rfl
  | cons c s ih =>
    rw [escape, List.flatMap_cons, List.append_assoc, unescape_escapeChar_append, ← escape, ih, ← List.append_assoc,
      ← List.filter_append, List.singleton_append]

theorem unescape_escape_eq (s : Text) : unescape (escape s) = s.filter isXmlChar := by
  simpa [unescape] using unescape_escape_append s []

/-- What XML does not allow makes no difference. -/
theorem escape_filter (s : Text) : escape (s.filter isXmlChar) = escape s := by
  induction s with
  | nil => rfl
  | cons c s ih =>
    rw [List.filter_cons]
    split
    · rw [escape, List.flatMap_cons, ← escape, ih, escape, escape, List.flatMap_cons]
    · next hxml =>
      have hout : escapeChar c = [] := by simp [escapeChar, hxml]
      rw [ih, escape, escape, List.flatMap_cons, hout, List.nil_append]

/-- Escaping goes character by character, and is undone by one pass from left to right but for the characters that XML
does not allow: two texts are escaped alike exactly if they differ in none but these. -/
theorem unescape_escape :
    (∀ s, unescape (escape s) = s.filter isXmlChar) ∧
      (∀ s t, escape (s ++ t) = escape s ++ escape t) ∧
      (∀ s t, escape s = escape t ↔ s.filter isXmlChar = t.filter isXmlChar) ∧
      Set.InjOn escape {s | ∀ c ∈ s, isXmlChar c = true} := by
  have same : ∀ s t, escape s = escape t ↔ s.filter isXmlChar = t.filter isXmlChar := by
    intro s t
    constructor
    · intro h
      rw [← unescape_escape_eq, h, unescape_escape_eq]
    · intro h
      rw [← escape_filter s, h, escape_filter]
  refine ⟨unescape_escape_eq, escape_append, same, fun s hs t ht h => ?_⟩
  have hfilter := (same s t).1 h
  rwa [List.filter_eq_self.2 hs, List.filter_eq_self.2 ht] at hfilter

/-- A text that looks like an entity comes back as it was, without the bell in it. -/
example : unescape (escape "&lt; & <\x07b>") = ("&lt; & <b>" : Text) := by decide

end DiagramProse.Html
