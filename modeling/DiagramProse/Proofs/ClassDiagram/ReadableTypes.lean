import DiagramProse.ClassDiagram.Prose
import DiagramProse.Proofs.Text.Letters

/-!
Types with arguments between tildes, read back with their nesting (`readableType_write`). A tilde that opens and one
that closes are the same character, and each is decided from its two neighbours: behind a name and in front of another
one it opens, and what stands behind a closing one is never a letter or a digit (`Closes`), however deeply types are
nested and whatever array brackets they have.
-/

namespace DiagramProse

open Text

/-! ## Types -/

/-- A name that begins and ends with a letter or a digit, with underscores and dots in between. -/
structure TypeName where
  text : Text
  chars : ∀ c ∈ text, isAlphanumeric c = true ∨ c = '_' ∨ c = '.'
  begins : text.head?.any isAlphanumeric = true
  ends : text.getLast?.any isAlphanumeric = true

mutual

/-- A name, or the application of one to arguments. -/
inductive TypeExpr where
  | name (n : TypeName)
  | generic (n : TypeName) (arguments : TypeArguments)

/-- One argument or more, each with its pairs of array brackets, and spaces behind the commas. -/
inductive TypeArguments where
  | one (t : TypeExpr) (arrays : Nat)
  | cons (t : TypeExpr) (arrays : Nat) (spaces : Nat) (rest : TypeArguments)

end

def arrayBrackets : Nat → Text
  | 0 => []
  | n + 1 => '[' :: ']' :: arrayBrackets n

mutual

/-- A type with the given characters around its arguments. -/
def TypeExpr.write (opening closing : Char) : TypeExpr → Text
  | .name n => n.text
  | .generic n arguments => n.text ++ opening :: arguments.write opening closing ++ [closing]

def TypeArguments.write (opening closing : Char) : TypeArguments → Text
  | .one t arrays => t.write opening closing ++ arrayBrackets arrays
  | .cons t arrays spaces rest =>
    t.write opening closing ++ arrayBrackets arrays ++
      ',' :: (List.replicate spaces ' ' ++ rest.write opening closing)

end

/-! ## The ends of a type -/

namespace TypeName

theorem not_mem (n : TypeName) : '~' ∉ n.text := by
  intro hmem
  rcases n.chars '~' hmem with h | h | h
  exacts [absurd h (by decide), absurd h (by decide), absurd h (by decide)]

theorem exists_cons (n : TypeName) : ∃ c s, n.text = c :: s ∧ isAlphanumeric c = true := by
  obtain ⟨c, hc, hletter⟩ := (Option.any_eq_true _ _).1 n.begins
  obtain ⟨s, hs⟩ := List.head?_eq_some_iff.1 hc
  exact ⟨c, s, hs, hletter⟩

end TypeName

namespace TypeExpr

variable (opening closing : Char)

theorem exists_cons (t : TypeExpr) : ∃ c s, t.write opening closing = c :: s ∧ isAlphanumeric c = true := by
  cases t with
  | name n => exact n.exists_cons
  | generic n arguments =>
    obtain ⟨c, s, hs, hc⟩ := n.exists_cons
    refine ⟨c, s ++ opening :: arguments.write opening closing ++ [closing], ?_, hc⟩
    rw [write, hs, List.cons_append, List.cons_append]

theorem write_ne_nil (t : TypeExpr) : t.write opening closing ≠ [] := by
  obtain ⟨c, s, hs, -⟩ := t.exists_cons opening closing
  rw [hs]
  exact List.cons_ne_nil c s

/-- A type ends with its name, or with what closes its arguments. -/
theorem write_last (t : TypeExpr) :
    ∀ c ∈ (t.write opening closing).getLast?, isAlphanumeric c = true ∨ c = closing := by
  intro c hc
  cases t with
  | name n =>
    rw [write, Option.mem_def] at hc
    exact .inl (by simpa [hc] using n.ends)
  | generic n arguments =>
    rw [write, List.getLast?_concat, Option.mem_some_iff] at hc
    exact .inr hc.symm

theorem tight_write (hclosing : isBlank closing = false) (t : TypeExpr) : Tight (t.write opening closing) := by
  refine ⟨fun c hc => ?_, fun c hc => ?_⟩
  · obtain ⟨d, s, hs, hd⟩ := t.exists_cons opening closing
    rw [hs, List.head?_cons, Option.mem_some_iff] at hc
    exact not_blank_of_isAlphanumeric (hc ▸ hd)
  · rcases t.write_last opening closing c hc with hletter | rfl
    exacts [not_blank_of_isAlphanumeric hletter, hclosing]

end TypeExpr

/-- Arguments begin with a letter or a digit. -/
theorem TypeArguments.head_write (opening closing : Char) (as : TypeArguments) (rest : Text) :
    (as.write opening closing ++ rest).head?.any isAlphanumeric = true := by
  cases as with
  | one t arrays | cons t arrays spaces as =>
    obtain ⟨c, s, hs, hc⟩ := t.exists_cons opening closing
    simpa [write, hs] using hc

/-! ## What a tilde does -/

/-- Between letters or digits a tilde opens. -/
theorem angleBrackets_open {before : Option Char} {s : Text} (hbefore : before.any isAlphanumeric = true)
    (hs : s.head?.any isAlphanumeric = true) : angleBrackets before ('~' :: s) = '<' :: angleBrackets (some '~') s := by
  rw [angleBrackets, hbefore, hs]
  rfl

/-- Text without tildes stays as it is. -/
theorem angleBrackets_append {s : Text} (hs : '~' ∉ s) (before : Option Char) (rest : Text) :
    angleBrackets before (s ++ rest) = s ++ angleBrackets (s.getLast?.or before) rest := by
  induction s generalizing before with
  | nil => rfl
  | cons c s ih =>
    rw [List.mem_cons, not_or] at hs
    have hc : (c != '~') = true := bne_iff_ne.2 (Ne.symm hs.1)
    have hlast : s.getLast?.or (some c) = (c :: s).getLast?.or before := by
      rw [List.getLast?_cons]
      cases s.getLast? <;> rfl
    rw [List.cons_append, angleBrackets, if_pos hc, ih hs.2, hlast, List.cons_append]

/-- Text behind a type: no letter follows a type at once, nor a tilde that opens anything. -/
structure Closes (rest : Text) : Prop where
  head : rest.head?.any isAlphanumeric = false
  same : ∀ before, angleBrackets before rest = angleBrackets none rest

namespace Closes

theorem nil : Closes [] := ⟨rfl, fun _ => rfl⟩

theorem cons {c : Char} (hletter : isAlphanumeric c = false) (htilde : c ≠ '~') (rest : Text) : Closes (c :: rest) := by
  refine ⟨hletter, fun before => ?_⟩
  rw [angleBrackets, angleBrackets, if_pos (bne_iff_ne.2 htilde), if_pos (bne_iff_ne.2 htilde)]

variable {rest : Text} (h : Closes rest)

include h

/-- A tilde closes in front of what may stand behind a type. -/
theorem angleBrackets_tilde (before : Option Char) :
    angleBrackets before ('~' :: rest) = '>' :: angleBrackets none rest := by
  rw [angleBrackets, if_neg (by decide), h.head, Bool.and_false, if_neg (by decide), h.same]

theorem tilde : Closes ('~' :: rest) := by
  have hletter : isAlphanumeric '~' = false := by decide
  exact ⟨hletter, fun before => by rw [h.angleBrackets_tilde, h.angleBrackets_tilde]⟩

theorem arrays (n : Nat) : Closes (arrayBrackets n ++ rest) := by
  cases n with
  | zero => exact h
  | succ n => exact cons (by decide) (by decide) _

/-- What stands behind a text without tildes is read as if nothing stood in front of it. -/
theorem angleBrackets_append {s : Text} (hs : '~' ∉ s) (before : Option Char) :
    angleBrackets before (s ++ rest) = s ++ angleBrackets none rest := by
  rw [DiagramProse.angleBrackets_append hs, h.same]

end Closes

theorem not_mem_arrayBrackets (n : Nat) : '~' ∉ arrayBrackets n := by
  induction n with
  | zero => decide
  | succ n ih => simpa [arrayBrackets] using ih

mutual

/-- A type is read with angle brackets around its arguments, and the text behind it as if it stood alone. -/
theorem TypeExpr.angleBrackets_write : ∀ (t : TypeExpr) {rest : Text}, Closes rest → ∀ before : Option Char,
    angleBrackets before (t.write '~' '~' ++ rest) = t.write '<' '>' ++ angleBrackets none rest
  | .name n, rest, h, before => h.angleBrackets_append n.not_mem before
  | .generic n arguments, rest, h, before => by
    have hname : (n.text.getLast?.or before).any isAlphanumeric = true := by
      obtain ⟨c, hc, hletter⟩ := (Option.any_eq_true _ _).1 n.ends
      rwa [hc, Option.some_or, Option.any_some]
    calc angleBrackets before ((TypeExpr.generic n arguments).write '~' '~' ++ rest)
        = angleBrackets before (n.text ++ '~' :: (arguments.write '~' '~' ++ '~' :: rest)) := by
          simp [TypeExpr.write]
      _ = n.text ++ '<' :: angleBrackets (some '~') (arguments.write '~' '~' ++ '~' :: rest) := by
          rw [angleBrackets_append n.not_mem, angleBrackets_open hname (arguments.head_write '~' '~' _)]
      _ = n.text ++ '<' :: (arguments.write '<' '>' ++ '>' :: angleBrackets none rest) := by
          rw [arguments.angleBrackets_write h.tilde, h.angleBrackets_tilde]
      _ = (TypeExpr.generic n arguments).write '<' '>' ++ angleBrackets none rest := by
          simp [TypeExpr.write]

theorem TypeArguments.angleBrackets_write : ∀ (as : TypeArguments) {rest : Text}, Closes rest →
    ∀ before : Option Char, angleBrackets before (as.write '~' '~' ++ rest) = as.write '<' '>' ++ angleBrackets none rest
  | .one t arrays, rest, h, before => by
    rw [TypeArguments.write, TypeArguments.write, List.append_assoc, t.angleBrackets_write (h.arrays arrays),
      h.angleBrackets_append (not_mem_arrayBrackets arrays), List.append_assoc]
  | .cons t arrays spaces as, rest, h, before => by
    -- the comma is no tilde, so that what is read behind the first argument does not depend on it
    have hcomma : ∀ s, Closes (',' :: s) := Closes.cons (by decide) (by decide)
    have hgap : '~' ∉ ',' :: List.replicate spaces ' ' := by simp [List.mem_replicate]
    have hrest := (hcomma (List.replicate spaces ' ' ++ (as.write '~' '~' ++ rest))).arrays arrays
    calc angleBrackets before ((TypeArguments.cons t arrays spaces as).write '~' '~' ++ rest)
        = angleBrackets before (t.write '~' '~' ++
            (arrayBrackets arrays ++ ',' :: (List.replicate spaces ' ' ++ (as.write '~' '~' ++ rest)))) := by
          simp [TypeArguments.write]
      _ = t.write '<' '>' ++ (arrayBrackets arrays ++
            angleBrackets none ((',' :: List.replicate spaces ' ') ++ (as.write '~' '~' ++ rest))) := by
          rw [t.angleBrackets_write hrest, (hcomma _).angleBrackets_append (not_mem_arrayBrackets arrays),
            List.cons_append]
      _ = t.write '<' '>' ++ (arrayBrackets arrays ++ (',' :: List.replicate spaces ' ' ++
            (as.write '<' '>' ++ angleBrackets none rest))) := by
          rw [angleBrackets_append hgap, as.angleBrackets_write h]
      _ = (TypeArguments.cons t arrays spaces as).write '<' '>' ++ angleBrackets none rest := by
          simp [TypeArguments.write]

end

/-! ## Readable types -/

theorem arrayBrackets_succ (n : Nat) : arrayBrackets (n + 1) = arrayBrackets n ++ "[]" := by
  induction n with
  | zero => rfl
  | succ n ih => exact congrArg (fun s => '[' :: ']' :: s) ih

theorem TypeExpr.tight_arrays {closing : Char} (hclosing : isBlank closing = false) (opening : Char) (t : TypeExpr)
    (n : Nat) : Tight (t.write opening closing ++ arrayBrackets n) := by
  cases n with
  | zero => simpa [arrayBrackets] using t.tight_write opening closing hclosing
  | succ n =>
    rw [arrayBrackets_succ, ← List.append_assoc]
    exact tight_append (t.tight_write opening closing hclosing) (by decide) (t.write_ne_nil opening closing) (by decide)

theorem TypeExpr.angleBrackets_trim (t : TypeExpr) (n : Nat) :
    angleBrackets none (trim (t.write '~' '~' ++ arrayBrackets n)) = t.write '<' '>' ++ arrayBrackets n := by
  have hend := Closes.nil.angleBrackets_append (not_mem_arrayBrackets n) none
  have hwrite := t.angleBrackets_write (Closes.nil.arrays n) none
  rw [hend, List.append_nil] at hwrite
  rw [trim_eq_self (t.tight_arrays (by decide) '~' n)]
  simpa [angleBrackets] using hwrite

/-- No type ends in array brackets of its own. -/
theorem TypeExpr.dropSuffix?_write (t : TypeExpr) : dropSuffix? (t.write '<' '>') "[]" = none := by
  have hlast : (t.write '<' '>').getLast? ≠ some ']' := by
    intro h
    rcases t.write_last '<' '>' ']' h with hletter | hclosing
    exacts [absurd hletter (by decide), absurd hclosing (by decide)]
  have hbrackets : ("[]" : Text).reverse = [']', '['] := rfl
  rw [← List.head?_reverse] at hlast
  rw [dropSuffix?, hbrackets]
  -- the suffix is sought from the end, where the last character decides
  cases hs : (t.write '<' '>').reverse with
  | nil => rfl
  | cons c s =>
    rw [hs, List.head?_cons] at hlast
    rw [dropPrefix?, if_neg fun he => hlast (congrArg some he)]
    rfl

/-- Tildes around arguments are read as angle brackets, at whatever depth and with whatever array brackets in them. A
pair of array brackets at the end is read as a word. -/
theorem readableType_write (p : ClassPhrases) (t : TypeExpr) :
    readableType p (t.write '~' '~') = t.write '<' '>' ∧
      ∀ n, readableType p (t.write '~' '~' ++ arrayBrackets n ++ "[]") =
        t.write '<' '>' ++ arrayBrackets n ++ ' ' :: p.array := by
  constructor
  · have hread := t.angleBrackets_trim 0
    rw [arrayBrackets, List.append_nil, List.append_nil] at hread
    rw [readableType, hread, t.dropSuffix?_write]
  · intro n
    have hdrop : dropSuffix? (t.write '<' '>' ++ arrayBrackets (n + 1)) "[]" =
        some (t.write '<' '>' ++ arrayBrackets n) := by
      rw [arrayBrackets_succ, ← List.append_assoc, dropSuffix?, List.reverse_append, dropPrefix?_append]
      simp
    rw [List.append_assoc, ← arrayBrackets_succ, readableType, t.angleBrackets_trim, hdrop]
    dsimp only
    rw [trim_eq_self (t.tight_arrays (by decide) '<' n)]
    simp [phrase, join]

example : readableType .english "Map~String, List~a.b_c[]~~[]" = ("Map<String, List<a.b_c[]>> array" : Text) := by
  decide

end DiagramProse
