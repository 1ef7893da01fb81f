import DiagramProse.ActivityDiagram.Prose
import DiagramProse.Proofs.Html.SafeText
import DiagramProse.Proofs.Text.Beginnings

/-!
The words for forks. In each language the items of a fork begin with words with which no other text of the language
begins (`TellsForks`), and behind these words the number of the fork can be read off (`IsNumberPhrase.injective`).
-/

namespace DiagramProse

open Text Html

namespace ActivityPhrases

def forkOpening (p : ActivityPhrases) (n : Nat) : Text := escape (fill p.forkOpen [("n", ofNat n)])

def forkClosing (p : ActivityPhrases) (n : Nat) : Text := escape (fill p.forkClose [("n", ofNat n)])

def branchLabel (p : ActivityPhrases) (n : Nat) : Text := escape (fill p.branch [("n", ofNat n)])

end ActivityPhrases

/-- The words in front of the place in a phrase. -/
def leadIn (phrase : Text) : Text := phrase.takeWhile (· != '{')

theorem not_mem_leadIn (phrase : Text) : '{' ∉ leadIn phrase := by
  intro h
  simpa using List.mem_takeWhile_imp h

theorem not_startsWith_escape {s words : Text} (h : apart (escape s) words = true) (t : Text) :
    startsWith (escape (s ++ t)) words = false := by
  rw [escape_append]
  exact startsWith_of_apart h _

theorem not_startsWith_fill {phrase words : Text} (h : apart (escape (leadIn phrase)) words = true)
    (values : List (Text × Text)) : startsWith (escape (fill phrase values)) words = false := by
  have hsplit : leadIn phrase ++ phrase.dropWhile (· != '{') = phrase := List.takeWhile_append_dropWhile
  rw [← hsplit, fill_append_of_not_mem (not_mem_leadIn phrase)]
  exact not_startsWith_escape h _

/-- A phrase with a place for a number, and nothing to escape around it. -/
def IsNumberPhrase (phrase : Text) : Prop :=
  ∃ back, phrase = leadIn phrase ++ (placeholder "n" ++ back) ∧ '{' ∉ back ∧ (leadIn phrase).all isPlain = true ∧
    back.all isPlain = true

namespace IsNumberPhrase

variable {phrase : Text}

theorem shown (h : IsNumberPhrase phrase) :
    ∃ back, ∀ n, escape (fill phrase [("n", ofNat n)]) = leadIn phrase ++ (ofNat n ++ back) := by
  obtain ⟨back, hphrase, hback, hfrontPlain, hbackPlain⟩ := h
  refine ⟨back, fun n => ?_⟩
  have hbehind : fill (placeholder "n" ++ back) [("n", ofNat n)] = ofNat n ++ back := by
    rw [fill_cons, replace_place, replace_eq_self (placeholder_ne_nil _) (not_contains List.mem_cons_self hback)]
    rfl
  rw [hphrase, fill_append_of_not_mem (not_mem_leadIn phrase), ← hphrase, hbehind, escape_append, escape_append,
    escape_eq_self hfrontPlain, escape_eq_self (ofNat_plain n), escape_eq_self hbackPlain]

theorem startsWith_leadIn (h : IsNumberPhrase phrase) (n : Nat) :
    startsWith (escape (fill phrase [("n", ofNat n)])) (leadIn phrase) = true := by
  obtain ⟨back, hshown⟩ := h.shown
  rw [hshown, startsWith, List.isPrefixOf_iff_prefix]
  exact List.prefix_append _ _

end IsNumberPhrase

/-- The words of a language by which forks are told from everything else. -/
structure TellsForks (p : ActivityPhrases) : Prop where
  opening : IsNumberPhrase p.forkOpen
  closing : IsNumberPhrase p.forkClose
  openingApart : ∀ phrase ∈ [p.partitionOpen, p.loopOpen, p.branch],
    apart (escape (leadIn phrase)) (leadIn p.forkOpen) = true
  closingApart : ∀ phrase ∈ [p.partitionOpen, p.partitionClose, p.loopOpen, p.loopClose, p.forkOpen, p.branch],
    apart (escape (leadIn phrase)) (leadIn p.forkClose) = true
  decision : apart (escape p.decisionLabel) (leadIn p.forkClose) = true
  steps : ∀ text ∈ [p.start, p.stop, p.finish], startsWith text (leadIn p.forkClose) = false

end DiagramProse
