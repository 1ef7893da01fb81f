import DiagramProse.Proofs.Text.FirstOccurrences
import DiagramProse.StateDiagram.Reading

/-!
What a state diagram says of states is about states that it lists (`IsClosed`), and the pseudo state is among
its states only if it was declared as one: no transition, entry or exit leads to it (`LeavesOutPseudoState`). Both
are true of every diagram that was read (`StateDiagram.read_isClosed`).

A diagram changes in few ways: a state is listed, or something is said of states that are listed already. So it is
enough to go through these, and to see that no statement does anything else.
-/

namespace DiagramProse

open Text

/-! ## Collections of names -/

namespace StateDiagram

theorem insertName_eq (name : Text) (names : List Text) : insertName name names = addNew names name := by
  unfold insertName addNew
  simp only [List.contains_iff_mem]

theorem states_insertLabel (state label : Text) (ls : List StateLabel) :
    (insertLabel state label ls).map StateLabel.state = addNew (ls.map StateLabel.state) state := by
  induction ls with
  | nil => simp [insertLabel, addNew]
  | cons l ls ih =>
    unfold insertLabel
    split
    · next h => rw [List.map_cons, List.map_cons, h, addNew_of_mem List.mem_cons_self]
    · next h =>
      rw [List.map_cons, ih, List.map_cons]
      unfold addNew
      by_cases hmem : state ∈ ls.map StateLabel.state <;> simp [hmem, Ne.symm h]

end StateDiagram

/-! ## The invariant -/

/-- All states that are named are listed, and none is listed, labelled or marked as final twice. -/
structure StateDiagram.IsClosed (d : StateDiagram) : Prop where
  states : d.states.Nodup
  labelled : (d.labels.map StateLabel.state).Nodup
  finals : d.finals.Nodup
  label_mem : ∀ l ∈ d.labels, l.state ∈ d.states
  end_mem : ∀ t ∈ d.transitions, t.source ∈ d.states ∧ t.target ∈ d.states
  initial_mem : ∀ s ∈ d.initial, s ∈ d.states
  final_mem : ∀ s ∈ d.finals, s ∈ d.states

theorem StateDiagram.isClosed_iff {d : StateDiagram} :
    (d.states.Nodup ∧ (d.labels.map StateLabel.state).Nodup ∧ d.finals.Nodup ∧
      d.labels.all (d.states.contains ·.state) = true ∧
      d.transitions.all (fun t => d.states.contains t.source && d.states.contains t.target) = true ∧
      d.initial.all d.states.contains = true ∧ d.finals.all d.states.contains = true) ↔ d.IsClosed := by
  simp only [List.all_eq_true, Option.all_eq_true, Bool.and_eq_true, List.contains_iff_mem]
  constructor
  · rintro ⟨hstates, hlabelled, hfinals, hlabel, hend, hinitial, hfinal⟩
    exact ⟨hstates, hlabelled, hfinals, hlabel, hend, hinitial, hfinal⟩
  · exact fun h => ⟨h.states, h.labelled, h.finals, h.label_mem, h.end_mem, h.initial_mem, h.final_mem⟩

instance (d : StateDiagram) : Decidable d.IsClosed := decidable_of_iff _ StateDiagram.isClosed_iff

/-- The pseudo state is no end of a transition, and neither initial nor final. -/
structure StateDiagram.LeavesOutPseudoState (d : StateDiagram) : Prop where
  ends : ∀ t ∈ d.transitions, t.source ≠ pseudoState ∧ t.target ≠ pseudoState
  initial : d.initial ≠ some pseudoState
  finals : pseudoState ∉ d.finals

namespace StateDiagram

variable {d : StateDiagram} {name s : Text} {t : Transition}

theorem mem_states_addState : s ∈ (d.addState name).states ↔ s ∈ d.states ∨ s = name := by
  rw [addState, insertName_eq]
  exact mem_addNew

/-! ## States that are listed -/

namespace IsClosed

theorem empty : IsClosed .empty := by decide

theorem addState (h : d.IsClosed) (name : Text) : (d.addState name).IsClosed where
  states := by
    rw [StateDiagram.addState, insertName_eq]
    exact nodup_addNew h.states
  labelled := h.labelled
  finals := h.finals
  label_mem l hl := mem_states_addState.2 (.inl (h.label_mem l hl))
  end_mem t ht := (h.end_mem t ht).imp (fun hs => mem_states_addState.2 (.inl hs))
    fun hs => mem_states_addState.2 (.inl hs)
  initial_mem s hs := mem_states_addState.2 (.inl (h.initial_mem s hs))
  final_mem s hs := mem_states_addState.2 (.inl (h.final_mem s hs))

/-! ## What is said of listed states -/

theorem insertLabel (h : d.IsClosed) (hname : name ∈ d.states) (label : Text) :
    IsClosed { d with labels := insertLabel name label d.labels } := by
  have hlabelled := states_insertLabel name label d.labels
  refine { h with labelled := ?_, label_mem := fun l hl => ?_ }
  · rw [hlabelled]
    exact nodup_addNew h.labelled
  · have hl : l.state ∈ (StateDiagram.insertLabel name label d.labels).map StateLabel.state :=
      List.mem_map_of_mem hl
    rw [hlabelled, mem_addNew] at hl
    rcases hl with hl | hl
    · obtain ⟨l', hl', he⟩ := List.mem_map.1 hl
      exact he ▸ h.label_mem l' hl'
    · exact hl ▸ hname

theorem addTransition (h : d.IsClosed) (hsource : t.source ∈ d.states) (htarget : t.target ∈ d.states) :
    IsClosed { d with transitions := d.transitions ++ [t] } where
  __ := h
  end_mem u hu := by
    rcases List.mem_append.1 hu with hu | hu
    · exact h.end_mem u hu
    · rw [List.mem_singleton.1 hu]
      exact ⟨hsource, htarget⟩

theorem setInitial (h : d.IsClosed) (hs : s ∈ d.states) : IsClosed { d with initial := some s } where
  __ := h
  initial_mem u hu := by
    cases hu
    exact hs

theorem insertFinal (h : d.IsClosed) (hs : s ∈ d.states) :
    IsClosed { d with finals := insertName s d.finals } := by
  refine { h with finals := ?_, final_mem := fun u hu => ?_ }
  · rw [insertName_eq]
    exact nodup_addNew h.finals
  · rw [insertName_eq, mem_addNew] at hu
    rcases hu with hu | rfl
    exacts [h.final_mem u hu, hs]

end IsClosed

/-! ## Statements -/

theorem declare_isClosed (h : d.IsClosed) (name : Text) (label : Option Text) :
    (d.declare name label).IsClosed := by
  cases label with
  | none => exact h.addState name
  | some label => exact (h.addState name).insertLabel (mem_states_addState.2 (.inr rfl)) label

theorem addTransition_isClosed (h : d.IsClosed) (outermost : Bool) (t : Transition) :
    (d.addTransition outermost t).IsClosed := by
  have hlisted : ∀ {d : StateDiagram} {name : Text}, name ∈ (d.addState name).states :=
    mem_states_addState.2 (.inr rfl)
  unfold StateDiagram.addTransition
  split
  · split
    · exact h
    · cases outermost with
      | true => exact (h.addState t.target).setInitial hlisted
      | false => exact h.addState t.target
  · split
    · cases outermost with
      | true => exact (h.addState t.source).insertFinal hlisted
      | false => exact h.addState t.source
    · exact ((h.addState t.source).addState t.target).addTransition (mem_states_addState.2 (.inl hlisted)) hlisted

theorem addTransition_leavesOut (h : d.LeavesOutPseudoState) (outermost : Bool) (t : Transition) :
    (d.addTransition outermost t).LeavesOutPseudoState := by
  unfold StateDiagram.addTransition
  split
  · split
    · exact h
    · next htarget =>
      cases outermost with
      | true => exact ⟨h.ends, fun he => htarget (Option.some.inj he), h.finals⟩
      | false => exact ⟨h.ends, h.initial, h.finals⟩
  · next hsource =>
    split
    · cases outermost with
      | true =>
        refine ⟨h.ends, h.initial, fun hm => ?_⟩
        have hm : pseudoState ∈ insertName t.source d.finals := hm
        rw [insertName_eq, mem_addNew] at hm
        exact hm.elim h.finals fun he => hsource he.symm
      | false => exact ⟨h.ends, h.initial, h.finals⟩
    · next htarget =>
      refine ⟨fun u hu => ?_, h.initial, h.finals⟩
      rcases List.mem_append.1 hu with hu | hu
      · exact h.ends u hu
      · rw [List.mem_singleton.1 hu]
        exact ⟨hsource, htarget⟩

end StateDiagram

/-! ## Lines -/

namespace StateReader

/-- What a line does: it belongs to a note, or it is a statement. -/
theorem step_cases {motive : StateReader → Prop} (r : StateReader) (raw : Text)
    (note : r.inNote = true →
      motive { r with inNote := !(raw.trim = ("end note" : Text) || raw.trim = ("endnote" : Text)) })
    (statement : r.inNote = false → motive (r.apply (.read raw.trim))) : motive (r.step raw) := by
  unfold step
  dsimp only
  split
  · next h => exact note h
  · next h => exact statement (Bool.eq_false_iff.2 h)

/-- What holds of a diagram and stays true when a state is listed or declared or a transition is added. -/
theorem run_invariant {P : StateDiagram → Prop} (addState : ∀ d name, P d → P (d.addState name))
    (declare : ∀ d name label, P d → P (d.declare name label))
    (addTransition : ∀ d outermost t, P d → P (d.addTransition outermost t)) (lines : List Text) {r : StateReader}
    (h : P r.diagram) : P (lines.foldl step r).diagram := by
  induction lines generalizing r with
  | nil => exact h
  | cons raw lines ih =>
    refine ih (step_cases (motive := fun r' => P r'.diagram) r raw (fun _ => h) fun _ => ?_)
    cases StateStatement.read raw.trim with
    | transition t => exact addTransition _ _ t h
    | declaration named opens =>
      cases named with
      | none => exact h
      | some named => exact declare _ named.1 named.2 h
    | description state => exact addState _ state h
    | note | closeComposite | other => exact h

end StateReader

/-- A diagram that was read lists each state once, and all states that it says something of. The pseudo state is
no end of a transition, and neither initial nor final. -/
theorem StateDiagram.read_isClosed (source : Text) : (read source).IsClosed ∧ (read source).LeavesOutPseudoState := by
  constructor
  · exact StateReader.run_invariant (P := IsClosed) (fun _ name h => h.addState name)
      (fun _ name label h => declare_isClosed h name label)
      (fun _ outermost t h => addTransition_isClosed h outermost t) source.lines .empty
  · have hempty : LeavesOutPseudoState .empty := ⟨by simp [empty], by simp [empty], by simp [empty]⟩
    refine StateReader.run_invariant (P := LeavesOutPseudoState) (fun _ _ h => ⟨h.ends, h.initial, h.finals⟩)
      (fun _ _ label h => ?_) (fun _ outermost t h => addTransition_leavesOut h outermost t) source.lines hempty
    cases label <;> exact ⟨h.ends, h.initial, h.finals⟩

/-- A state may be declared under the name of the pseudo state. -/
example : StateDiagram.read "state \"end\" as [*]\nA --> [*]" =
    ⟨["[*]", "A"], [⟨"[*]", "end"⟩], [], none, ["A"]⟩ := by
  decide +kernel

end DiagramProse
