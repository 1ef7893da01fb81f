import DiagramProse.Proofs.Arrow.RemovedHints
import DiagramProse.Proofs.ClassDiagram.Arrows

/-!
A hint for the layout or the style of an arrow stands between the two characters of its shaft. It changes nothing in
what is read (`Relation.read?_hintedArrow`): a relation is read from its line less the hints, and those in front of the
space before an arrow have nothing to do with those behind it.
-/

namespace DiagramProse

open Text

variable {a before after hint : Text} {shaft : Char} {sense : ArrowSense}

theorem Relation.read?_congr {line line' : Text} (h : Arrow.withoutHints line = Arrow.withoutHints line') :
    Relation.read? line = Relation.read? line' := by
  rw [Relation.read?, Relation.read?, h]

/-- There are no shaft characters in an arrow but the two of its shaft. -/
theorem not_shaft_of_mem_classArrows (h : (before ++ shaft :: shaft :: after, sense) ∈ classArrows)
    (hshaft : Arrow.isShaft shaft = true) : ∀ c ∈ before, Arrow.isShaft c = false := by
  have hcount : ∀ e ∈ classArrows, e.1.countP Arrow.isShaft ≤ 2 := by decide
  have hbefore := hcount _ h
  rw [List.countP_append, List.countP_cons_of_pos hshaft, List.countP_cons_of_pos hshaft] at hbefore
  have hzero : before.countP Arrow.isShaft = 0 := by omega
  simpa [List.countP_eq_zero] using hzero

/-- A line with an arrow loses the hint between the two characters of the shaft. -/
theorem withoutHints_hintedArrow (ha : '[' ∉ a) (hbefore : ∀ c ∈ before, Arrow.isShaft c = false)
    (hshaft : Arrow.isShaft shaft = true) (hhint : Arrow.IsHint hint) (rest : Text) :
    Arrow.withoutHints (a ++ ' ' :: (before ++ shaft :: (hint ++ shaft :: rest))) =
      Arrow.withoutHints a ++ ' ' :: (before ++ shaft :: shaft :: Arrow.withoutHints rest) := by
  have hdash : '-' ∉ before := fun hm => absurd (hbefore _ hm) (by decide)
  have hdot : '.' ∉ before := fun hm => absurd (hbefore _ hm) (by decide)
  have hcopied := hintless_of_not_mem hdash hdot (shaft :: (hint ++ shaft :: rest))
  rw [← Arrow.withoutHints, ← Arrow.withoutHints, Arrow.withoutHints_hint hhint hshaft hshaft] at hcopied
  rw [Arrow.withoutHints_append ⟨by decide, by decide, by decide, .inl ha⟩, hcopied]

/-- A hint in an arrow behind the name of a class changes nothing, whatever stands behind the arrow; between two names
the relation is the one of the arrow. Taking hints out once is enough. -/
theorem Relation.read?_hintedArrow (h : (before ++ shaft :: shaft :: after, sense) ∈ classArrows)
    (hshaft : Arrow.isShaft shaft = true) (hhint : Arrow.IsHint hint) (ha : isClassName a = true) (b line : Text) :
    Relation.read? (a ++ " " ++ (before ++ shaft :: (hint ++ shaft :: after)) ++ " " ++ b) =
        Relation.read? (a ++ " " ++ (before ++ shaft :: shaft :: after) ++ " " ++ b) ∧
      (isPlainName a = true → isPlainName b = true →
        Relation.read? (a ++ " " ++ (before ++ shaft :: shaft :: after) ++ " " ++ b) =
          some (Relation.plain a b sense)) ∧
      Arrow.withoutHints (Arrow.withoutHints line) = Arrow.withoutHints line := by
  refine ⟨Relation.read?_congr ?_, fun hname hname' => ?_, Arrow.withoutHints_withoutHints line⟩
  · have hbracket : '[' ∉ a := not_mem_of_isClassName ha (by decide)
    have hbefore := not_shaft_of_mem_classArrows h hshaft
    have hhinted := withoutHints_hintedArrow hbracket hbefore hshaft hhint (after ++ " " ++ b)
    have hplain := withoutHints_hintedArrow hbracket hbefore hshaft Arrow.isHint_nil (after ++ " " ++ b)
    rw [← hplain] at hhinted
    simpa using hhinted
  · have hline : a ++ " " ++ (before ++ shaft :: shaft :: after) ++ " " ++ b =
        relationText a none (before ++ shaft :: shaft :: after) none b none := by
      simp [relationText, leftEnd, rightEnd, withColon]
    rw [hline, Relation.read?_relationText h ⟨hname, by simp⟩ ⟨hname', by simp⟩]
    rfl

/-- A style may hold quotes, arrows, and what would be a hint elsewhere. -/
theorem Relation.read?_hintedArrow_styled :
    Relation.read? "Zoo <|-up[a \"-down- b]- order" = Relation.read? "Zoo <|-- order" ∧
      Relation.read? "Zoo <|-- order" = some ⟨"order", "Zoo", .inheritance, none, none, none, true⟩ ∧
      Arrow.withoutHints (Arrow.withoutHints "-[-u-]x-up-up-[-l-]..") = Arrow.withoutHints "-[-u-]x-up-up-[-l-].." := by
  have harrow : (("<|" : Text) ++ '-' :: '-' :: [], (⟨.inheritance, true⟩ : ArrowSense)) ∈ classArrows := by decide
  have hhint : Arrow.IsHint ("up" ++ "[a \"-down- b]") :=
    ⟨"up", "[a \"-down- b]", rfl, .inr (by decide), .inr ⟨"a \"-down- b", by decide, rfl⟩⟩
  have h := Relation.read?_hintedArrow harrow (by decide) hhint (by decide +kernel : isClassName "Zoo" = true) "order"
    "-[-u-]x-up-up-[-l-].."
  exact ⟨h.1, h.2.1 (by decide +kernel) (by decide +kernel), h.2.2⟩

end DiagramProse
