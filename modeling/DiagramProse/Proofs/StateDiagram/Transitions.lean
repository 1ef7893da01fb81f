import DiagramProse.Proofs.ClassDiagram.Relations
import DiagramProse.StateDiagram.Reading

/-!
Transitions are read from their lines (`Transition.read?_ends`), as relations between classes are: the ends as
they are written, and the label less the hints in it. The pseudo state is an end like a name. Where no dash stands
outside quotes, no transition is read.
-/

namespace DiagramProse

open Text

/-- No arrow goes on with a space. -/
theorem stateArrows_next : ∀ e ∈ stateArrows, ∀ x ∈ stateArrows,
    e.1 <+: x.1 → x = e ∨ (x.1.drop e.1.length).head?.any (· != ' ') = true := by
  decide

theorem hintless_stateArrow : ∀ e ∈ stateArrows, Hintless (e.1 ++ [' ']) := by
  have hclass : ∀ e ∈ stateArrows, ∃ x ∈ classArrows, x.1 = e.1 := by decide
  intro e he
  obtain ⟨x, hx, hxe⟩ := hclass e he
  exact hxe ▸ hintless_arrow x hx

theorem stateArrow_head : ∀ e ∈ stateArrows, Arrow.isSign e.1 = true ∧ e.1.head? = some '-' := by decide

/-! ## Ends -/

/-- A text that is read as the name of a state next to an arrow. -/
structure StateEnd (s : Text) : Prop where
  ne_nil : s ≠ []
  not_blank : ∀ c ∈ s, isBlank c = false
  not_mem : ∀ d ∈ ['-', '.', ':', '"'], d ∉ s

variable {source target arrow line : Text}

theorem stateEnd_name (h : isPlainName source = true) : StateEnd source where
  ne_nil := ne_nil_of_isPlainName h
  not_blank := not_blank_of_isPlainName h
  not_mem d hd := by
    have hsigns : ∀ d ∈ ['-', '.', ':', '"'], isNameChar d = false := by decide
    exact not_mem_of_isPlainName h (hsigns d hd)

theorem stateEnd_pseudoState : StateEnd pseudoState := ⟨by decide, by decide, by decide⟩

namespace StateEnd

theorem tight (h : StateEnd source) : Tight source := tight_of_not_blank h.not_blank

theorem hintless (h : StateEnd source) : Hintless source :=
  hintless_of_not_mem (h.not_mem '-' (by decide)) (h.not_mem '.' (by decide))

theorem stateName? (h : StateEnd source) : stateName? source = some source := by
  have hany : source.any isBlank = false := List.any_eq_false.2 fun c hc => by simp [h.not_blank c hc]
  have hunquote := unquote_of_not_mem h.tight (h.not_mem '"' (by decide))
  have hempty : source.isEmpty = false := by simpa using h.ne_nil
  rw [DiagramProse.stateName?, trim_eq_self h.tight, hunquote, hempty, hany]
  rfl

end StateEnd

/-- Arrows begin with a dash. -/
theorem passes_stateArrows {s rest : Text} (hquote : '"' ∉ s) (hdash : '-' ∉ s) :
    Arrow.Passes stateArrows (fun _ _ => true) s rest := by
  refine Arrow.passes_of_heads hquote fun c hc e he => ?_
  have hne : '-' ≠ c := fun hd => hdash (hd ▸ hc)
  simpa [(stateArrow_head e he).2] using hne

/-- The arrow behind a name, whatever follows it. -/
theorem find?_stateArrow (h : (arrow, ()) ∈ stateArrows) (hs : StateEnd source) (rest : Text) :
    Arrow.find? (source ++ ' ' :: (arrow ++ ' ' :: rest)) stateArrows = some ⟨source, trim rest, arrow, ()⟩ := by
  have hpass : Arrow.Passes stateArrows (fun _ _ => true) (source ++ [' ']) (arrow ++ ' ' :: rest) := by
    have hdash : '-' ∉ source := hs.not_mem '-' (by decide)
    have hquote : '"' ∉ source := hs.not_mem '"' (by decide)
    exact passes_stateArrows (by simp [hquote]) (by simp [hdash])
  have hfind := Arrow.findWhere?_sign (e := (arrow, ())) hpass h (stateArrow_head _ h).1 rfl fun x hx =>
    Arrow.shorter_of_next (stateArrows_next _ h x hx)
  rw [trim_append_space hs.tight, trim_space_cons, List.append_assoc] at hfind
  exact hfind

/-! ## Lines with a transition -/

/-- A transition is read with its ends, and with its label less the hints in it. -/
theorem Transition.read?_ends {label : Option Text} (h : (arrow, ()) ∈ stateArrows)
    (hs : StateEnd source) (ht : StateEnd target) (hlabel : ∀ t ∈ label, FreeLabel t) :
    Transition.read? (withColon (source ++ " " ++ arrow ++ " " ++ target) label) =
      some ⟨source, target, label.map Arrow.withoutHints⟩ := by
  have hends : source ++ " " ++ arrow ++ " " ++ target = source ++ ' ' :: (arrow ++ ' ' :: target) := by simp
  have hhints : Arrow.withoutHints (withColon (source ++ ' ' :: (arrow ++ ' ' :: target)) label) =
      withColon (source ++ ' ' :: (arrow ++ ' ' :: target)) (label.map Arrow.withoutHints) := by
    have hends := (hs.hintless.append hintless_space).append ((hintless_stateArrow _ h).append ht.hintless)
    refine withoutHints_withColon ?_ label
    simpa using hends
  have hlabel' : ∀ t ∈ label.map Arrow.withoutHints, FreeLabel t := by
    intro t hm
    obtain ⟨u, hu, rfl⟩ := Option.map_eq_some_iff.1 hm
    exact (hlabel u hu).withoutHints
  have hcolon : ':' ∉ source ++ ' ' :: (arrow ++ ' ' :: target) := by
    have harrows : ∀ e ∈ stateArrows, ':' ∉ e.1 := by decide
    have ha : ':' ∉ arrow := harrows _ h
    have hs' : ':' ∉ source := hs.not_mem ':' (by decide)
    have ht' : ':' ∉ target := ht.not_mem ':' (by decide)
    simp [hs', ha, ht']
  rw [hends, Transition.read?, hhints]
  generalize label.map Arrow.withoutHints = label' at hlabel' ⊢
  cases label' with
  | none =>
    rw [withColon, cutAt?_char_eq_none hcolon]
    simp [find?_stateArrow h hs, trim_eq_self ht.tight, hs.stateName?, ht.stateName?]
  | some t =>
    obtain ⟨hne, htight, hquote, -, -⟩ := hlabel' t rfl
    have hline : withColon (source ++ ' ' :: (arrow ++ ' ' :: target)) (some t) =
        (source ++ ' ' :: (arrow ++ ' ' :: (target ++ [' ']))) ++ ':' :: ' ' :: t := by simp [withColon]
    have hcolon' : ':' ∉ source ++ ' ' :: (arrow ++ ' ' :: (target ++ [' '])) := by simpa using hcolon
    have hunquote := unquote_of_not_mem htight hquote
    rw [hline, cutAt?_char_append hcolon']
    simp [find?_stateArrow h hs, trim_append_space ht.tight, hs.stateName?, ht.stateName?, trim_space_cons,
      trim_eq_self htight, hunquote, nonempty?, hne]

theorem Transition.read?_text {label : Option Text} (h : (arrow, ()) ∈ stateArrows)
    (hs : isPlainName source = true) (ht : isPlainName target = true) (hlabel : ∀ t ∈ label, FreeLabel t) :
    Transition.read? (withColon (source ++ " " ++ arrow ++ " " ++ target) label) =
      some ⟨source, target, label.map Arrow.withoutHints⟩ :=
  Transition.read?_ends h (stateEnd_name hs) (stateEnd_name ht) hlabel

/-! ## Lines without one -/

/-- Where there is no arrow in the whole line, there is none in front of a colon. -/
theorem Transition.read?_eq_none (h : Arrow.find? (Arrow.withoutHints line) stateArrows = none) :
    Transition.read? line = none := by
  rw [Transition.read?]
  cases hcut : cutAt? (· == ':') (Arrow.withoutHints line) with
  | none => simp [h]
  | some parts =>
    rw [(cutAt?_char_eq_some hcut).1] at h
    simp [Arrow.find?_of_append h]

theorem Transition.read?_of_not_mem (h : '-' ∉ line) : Transition.read? line = none := by
  refine Transition.read?_eq_none (Arrow.find?_eq_none fun e he hin => h ?_)
  have hdash : '-' ∈ e.1 := List.mem_of_mem_head? (stateArrow_head e he).2
  exact (Arrow.withoutHints_loses line).sublist.subset (hin.subset hdash)

end DiagramProse
