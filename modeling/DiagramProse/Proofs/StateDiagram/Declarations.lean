import DiagramProse.Proofs.StateDiagram.Transitions
import DiagramProse.Proofs.Text.Quotes

/-!
States are read from their declarations: a name behind the keyword (`StateStatement.read_plainState`), a name that
opens a composite state (`StateStatement.read_openState`), and a label in quotes in front of the name
(`StateStatement.read_labelledState`). Whatever the label, the line has no transition: arrows in quotes do not count,
and no hint is taken out across a quote.
-/

namespace DiagramProse

open Text

variable {name label s t : Text}

/-- A name, behind its label if it has one. -/
def labelledName (name : Text) (label : Option Text) : Text :=
  match label with
  | some label => quoted label ++ " as " ++ name
  | none => name

/-- The declaration of a state. -/
def stateLine (name : Text) (label : Option Text) : Text := "state " ++ labelledName name label

theorem stateLine_eq (name : Text) (label : Option Text) :
    stateLine name label = "state " ++ labelledName name label := rfl

/-! ## Names -/

theorem takeName?_append {stops : Char → Bool} (hne : s ≠ []) (hs : ∀ c ∈ s, stops c = false)
    (ht : ∀ c ∈ t.head?, stops c = true) : takeName? stops (s ++ t) = some (s, t) := by
  have hstop : t.takeWhile (fun c => !stops c) = [] := by
    cases t with
    | nil => rfl
    | cons c t => rw [List.takeWhile_cons_of_neg (by simp [ht c rfl])]
  have hname : (s ++ t).takeWhile (fun c => !stops c) = s := by
    rw [List.takeWhile_append_of_pos fun c hc => by simp [hs c hc], hstop, List.append_nil]
  rw [takeName?, hname]
  simp [hne]

theorem not_endsStateName (h : isPlainName name = true) : ∀ c ∈ name, endsStateName c = false := by
  have hsigns : ∀ d ∈ ['\x7b', ':', '#', '<'], isNameChar d = false := by decide
  intro c hc
  have hne : ∀ d ∈ ['\x7b', ':', '#', '<'], c ≠ d := fun d hd he =>
    not_mem_of_isPlainName h (hsigns d hd) (he ▸ hc)
  simp only [List.forall_mem_cons] at hne
  simp [endsStateName, not_blank_of_isPlainName h c hc, hne]

theorem trimStart_name (h : isPlainName name = true) (t : Text) : trimStart (name ++ t) = name ++ t := by
  refine dropWhile_eq_self fun c hc => ?_
  rw [List.head?_append_of_ne_nil _ (ne_nil_of_isPlainName h)] at hc
  exact not_blank_of_isPlainName h c (List.mem_of_mem_head? hc)

/-! ## Behind the keyword -/

/-- A name, where what ends it is no alias. -/
theorem readStateName?_name (h : isPlainName name = true) (ht : ∀ c ∈ t.head?, endsStateName c = true)
    (halias : afterAs? t = none) : readStateName? (' ' :: (name ++ t)) = some (name, none) := by
  have hne := ne_nil_of_isPlainName h
  have hquote : '"' ∉ name := not_mem_of_isPlainName h (by decide)
  have hlabelled : readLabelledState? (name ++ t) = none := by
    have hhead : (name ++ t).head? ≠ some '"' := by
      rw [List.head?_append_of_ne_nil _ hne]
      exact fun hc => hquote (List.mem_of_mem_head? hc)
    rw [readLabelledState?, takeQuoted?, dropPrefix?_of_head hhead]
    rfl
  have haliased : readAliasedState? (name ++ t) = none := by
    have htake : takeName? (fun c => endsStateName c || c == '"') (name ++ t) = some (name, t) := by
      refine takeName?_append hne (fun c hc => ?_) fun c hc => by simp [ht c hc]
      have hc' : c ≠ '"' := fun he => hquote (he ▸ hc)
      simp [not_endsStateName h c hc, hc']
    simp [readAliasedState?, htake, halias]
  have hafter : afterBlanks? (' ' :: (name ++ t)) = some (name ++ t) := congrArg some (trimStart_name h t)
  rw [readStateName?, hafter]
  simp [hlabelled, haliased, readPlainState?, takeName?_append hne (not_endsStateName h) ht]

/-- A label in quotes, and the name it is for. -/
theorem readStateName?_labelled (h : isPlainName name = true) (hne : label ≠ []) (hquote : '"' ∉ label) :
    readStateName? (' ' :: labelledName name (some label)) = some (name, some label) := by
  have htake : takeName? endsStateName name = some (name, []) := by
    have htake := takeName?_append (t := []) (ne_nil_of_isPlainName h) (not_endsStateName h) (by simp)
    rwa [List.append_nil] at htake
  have hstart : trimStart name = name := by
    have hstart := trimStart_name h []
    rwa [List.append_nil] at hstart
  have hafter : afterAs? (" as " ++ name) = some name := by
    have has : afterBlanks? (" as " ++ name) = some ("as" ++ ' ' :: name) := rfl
    have hname : afterBlanks? (' ' :: name) = some name := congrArg some hstart
    rw [afterAs?, has, Option.bind_eq_bind, Option.bind_some, dropPrefix?_append "as" (' ' :: name)]
    exact hname
  have htaken : takeQuoted? (labelledName name (some label)) = some (label, " as " ++ name) := by
    have htext : labelledName name (some label) = ['"'] ++ (label ++ '"' :: (" as " ++ name)) := by
      rw [labelledName, quoted, List.append_assoc, List.cons_append, List.append_assoc]
      rfl
    rw [htext, takeQuoted?, dropPrefix?_append ['"'], Option.bind_eq_bind, Option.bind_some,
      cutAt?_char_append hquote]
    simp only [Option.bind_eq_bind, Option.bind_some]
    rw [List.isEmpty_eq_false_iff.2 hne]
    rfl
  have hread : readLabelledState? (labelledName name (some label)) = some (name, some label) := by
    simp only [readLabelledState?, htaken, hafter, htake, Option.bind_eq_bind, Option.bind_some]
    rfl
  have hblanks : afterBlanks? (' ' :: labelledName name (some label)) = some (labelledName name (some label)) := rfl
  rw [readStateName?, hblanks]
  simp only [Option.bind_eq_bind, Option.bind_some, hread]
  rfl

/-! ## Declarations are no transitions -/

theorem transition?_plainState (h : '-' ∉ s) : Transition.read? ("state " ++ s) = none :=
  Transition.read?_of_not_mem (by simp [h])

/-- No hint is taken out across a quote. -/
theorem withoutHints_labelledState (h : isPlainName name = true) (label : Text) :
    Arrow.withoutHints (stateLine name (some label)) = stateLine name (some (Arrow.withoutHints label)) := by
  have hline : ∀ l : Text, stateLine name (some l) = ("state " ++ ['"']) ++ (l ++ '"' :: (" as " ++ name)) := by
    intro l
    simp only [stateLine_eq, labelledName, quoted, List.append_assoc, List.cons_append, List.nil_append]
  have hfront : Hintless ("state " ++ ['"']) := hintless_of_not_mem (by decide) (by decide)
  have hafter : Hintless (" as " ++ name) :=
    Hintless.append (hintless_of_not_mem (by decide) (by decide))
      (hintless_of_not_mem (not_mem_of_isPlainName h (by decide)) (not_mem_of_isPlainName h (by decide)))
  have hsplits : Arrow.SplitsHints '"' label (" as " ++ name) := by
    have hbracket : ']' ∉ name := not_mem_of_isPlainName h (by decide)
    exact ⟨by decide, by decide, by decide, .inr (by simp [hbracket])⟩
  have hlabel := Arrow.withoutHints_append hsplits
  rw [hafter.eq_self] at hlabel
  rw [hline, hline, ← hlabel]
  exact hfront _

theorem passes_labelledState (h : isPlainName name = true) (hquote : '"' ∉ label) :
    Arrow.Passes stateArrows (fun _ _ => true) (stateLine name (some label)) [] := by
  have hkeyword : ∀ rest, Arrow.Passes stateArrows (fun _ _ => true) "state " rest := fun _ =>
    passes_stateArrows (by decide) (by decide)
  have hlabel : ∀ rest, Arrow.Passes stateArrows (fun _ _ => true) (quoted label) rest := fun _ =>
    Arrow.passes_quoted hquote
  have has : ∀ rest, Arrow.Passes stateArrows (fun _ _ => true) " as " rest := fun _ =>
    passes_stateArrows (by decide) (by decide)
  have hname : Arrow.Passes stateArrows (fun _ _ => true) name [] :=
    passes_stateArrows (not_mem_of_isPlainName h (by decide)) (not_mem_of_isPlainName h (by decide))
  exact (hkeyword _).append (((hlabel _).append (has _)).append hname)

/-- Arrows in quotes do not count, nor do they once the label has lost its hints. -/
theorem transition?_labelledState (h : isPlainName name = true) (hquote : '"' ∉ label) :
    Transition.read? (stateLine name (some label)) = none := by
  refine Transition.read?_eq_none ?_
  rw [withoutHints_labelledState h]
  refine Arrow.findWhere?_eq_none (passes_labelledState h fun hm => hquote ?_)
  exact (Arrow.withoutHints_loses label).sublist.subset hm

/-! ## Declarations -/

/-- A line with the keyword that has no transition is a declaration. -/
theorem StateStatement.read_state (h : Transition.read? ("state " ++ s) = none) :
    StateStatement.read ("state " ++ s) =
      .declaration (readStateName? (' ' :: s)) (endsWith ("state " ++ s) ['\x7b']) := by
  have hempty : ("state " ++ s : Text).isEmpty = false := by simp
  have hcomment : isComment ("state " ++ s) = false := startsWithAny_of_apart (by decide) s
  have hdirective : isStateDirective ("state " ++ s) = false := by
    rw [isStateDirective, startsWithAny_of_apart (by decide) s]
    simp
  have hnote : startsWith ("state " ++ s) "note " = false := startsWith_of_apart (by decide) s
  have hclose : ("state " ++ s : Text) ≠ ['\x7d'] := by simp
  have hstate : startsWith ("state " ++ s) "state " = true :=
    List.isPrefixOf_iff_prefix.2 (List.prefix_append _ s)
  have hdrop : ("state " ++ s : Text).drop 5 = ' ' :: s := rfl
  rw [StateStatement.read, hempty, hcomment, hdirective, hnote, if_neg hclose, h, hstate, hdrop]
  rfl

theorem endsWith_singleton {d : Char} : endsWith s [d] = true ↔ s.getLast? = some d := by
  rw [endsWith, List.isSuffixOf_iff_suffix, List.getLast?_eq_some_iff]
  exact exists_congr fun _ => eq_comm

/-- A declaration that ends with its name opens no composite state. -/
theorem not_opens (h : isPlainName name = true) (s : Text) : endsWith (s ++ name) ['\x7b'] = false := by
  rw [Bool.eq_false_iff, Ne, endsWith_singleton, List.getLast?_append_of_ne_nil _ (ne_nil_of_isPlainName h)]
  exact fun hlast => not_mem_of_isPlainName h (by decide) (List.mem_of_getLast? hlast)

theorem StateStatement.read_plainState (h : isPlainName name = true) :
    StateStatement.read (stateLine name none) = .declaration (some (name, none)) false := by
  have hname := readStateName?_name (t := []) h (by simp) rfl
  rw [List.append_nil] at hname
  rw [stateLine_eq, labelledName, StateStatement.read_state
    (transition?_plainState (not_mem_of_isPlainName h (by decide))), hname, not_opens h]

theorem StateStatement.read_openState (h : isPlainName name = true) :
    StateStatement.read (stateLine name none ++ " \x7b") = .declaration (some (name, none)) true := by
  have hdash : '-' ∉ name ++ " \x7b" := by simp [not_mem_of_isPlainName h (by decide : isNameChar '-' = false)]
  have hopens : endsWith ("state " ++ (name ++ " \x7b")) ['\x7b'] = true := by
    rw [endsWith_singleton, ← List.append_assoc, List.getLast?_append_of_ne_nil _ (by decide)]
    rfl
  rw [stateLine_eq, labelledName, List.append_assoc, StateStatement.read_state (transition?_plainState hdash), hopens,
    readStateName?_name h (by decide) rfl]

theorem StateStatement.read_labelledState (h : isPlainName name = true) (hne : label ≠ []) (hquote : '"' ∉ label) :
    StateStatement.read (stateLine name (some label)) = .declaration (some (name, some label)) false := by
  have hopens : endsWith ("state " ++ labelledName name (some label)) ['\x7b'] = false := by
    rw [labelledName, ← List.append_assoc]
    exact not_opens h _
  have htransition : Transition.read? ("state " ++ labelledName name (some label)) = none :=
    transition?_labelledState h hquote
  rw [stateLine_eq, StateStatement.read_state htransition, readStateName?_labelled h hne hquote, hopens]

end DiagramProse
