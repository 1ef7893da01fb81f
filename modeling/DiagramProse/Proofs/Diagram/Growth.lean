import DiagramProse.PieChart.Reading
import DiagramProse.Proofs.ActivityDiagram.Accounting
import DiagramProse.Proofs.ClassDiagram.Bodies
import DiagramProse.Proofs.SequenceDiagram.Participants
import DiagramProse.Proofs.StateDiagram.Consistency

/-!
Reading only ever adds to a diagram (`extends_read`): whatever lines follow, all that was read before them
stays where it is. So a diagram that is shown while its source is still being written never takes anything
back.

For every kind of diagram there is a relation that says what stays. One line keeps it, hence so do many; what
is open where the lines are cut, be it a note, a block or an activity, is not in the diagram yet.
-/

namespace DiagramProse

open Text

/-! ## Class diagrams -/

/-- A class with its members, and perhaps more of them behind those. -/
structure Classifier.Extends (c c' : Classifier) : Prop where
  attributes : c.attributes <+: c'.attributes
  methods : c.methods <+: c'.methods

theorem Classifier.changedBy_extends (c : Classifier) (change : ClassChange) :
    c.Extends (c.changedBy change) := by
  have hself : c.Extends c := ⟨List.prefix_refl _, List.prefix_refl _⟩
  cases change with
  | stereotype name s =>
    show c.Extends (if name = c.name then c.giveStereotype s else c)
    split
    · exact ⟨List.prefix_refl _, List.prefix_refl _⟩
    · exact hself
  | member name m =>
    show c.Extends (if name = c.name then c.addMember? m else c)
    split
    · rcases m with _ | a | m
      · exact hself
      · exact ⟨List.prefix_append _ _, List.prefix_refl _⟩
      · exact ⟨List.prefix_refl _, List.prefix_append _ _⟩
    · exact hself
  | relation | note | remark => exact hself

/-- All classes of the first diagram are in the second, at the same places and with their members, and so are
its relations and notes. -/
structure ClassDiagram.Extends (d d' : ClassDiagram) : Prop where
  names : d.names <+: d'.names
  classifier : ∀ name, (d.classifier name).Extends (d'.classifier name)
  relations : d.relations <+: d'.relations
  notes : d.notes <+: d'.notes

namespace ClassDiagram

variable {d d' d'' : ClassDiagram}

theorem Extends.refl (d : ClassDiagram) : d.Extends d :=
  ⟨List.prefix_refl _, fun _ => ⟨List.prefix_refl _, List.prefix_refl _⟩, List.prefix_refl _, List.prefix_refl _⟩

theorem Extends.trans (h : d.Extends d') (h' : d'.Extends d'') : d.Extends d'' := by
  refine ⟨h.names.trans h'.names, fun name => ?_, h.relations.trans h'.relations, h.notes.trans h'.notes⟩
  have hc := h.classifier name
  have hc' := h'.classifier name
  exact ⟨hc.attributes.trans hc'.attributes, hc.methods.trans hc'.methods⟩

theorem change_extends (d : ClassDiagram) (c : ClassChange) : d.Extends (d.change c) := by
  refine ⟨?_, fun name => ?_, ?_, ?_⟩
  · rw [names_change]
    exact prefix_foldl_addNew _ _
  · rw [classifier_change]
    exact (d.classifier name).changedBy_extends c
  · cases c with
    | relation r => exact List.prefix_append _ _
    | _ => exact List.prefix_refl _
  · cases c with
    | note n => exact List.prefix_append _ _
    | _ => exact List.prefix_refl _

theorem foldl_change_extends (cs : List ClassChange) (d : ClassDiagram) : d.Extends (cs.foldl change d) := by
  induction cs generalizing d with
  | nil => exact .refl d
  | cons c cs ih => exact (change_extends d c).trans (ih _)

/-- Remarks at the end do not matter to what a diagram holds. -/
theorem finish_extends {r r' : ClassReader} (h : r.diagram.Extends r'.diagram) (count count' : Nat) :
    (r.finish count).Extends (r'.finish count') := by
  rw [ClassReader.finish_diagnostics, ClassReader.finish_diagnostics]
  exact ⟨h.names, h.classifier, h.relations, h.notes⟩

theorem ofLines_extends (dialect : Dialect) (before after : List Text) :
    (ofLines dialect before).Extends (ofLines dialect (before ++ after)) := by
  unfold ofLines
  refine finish_extends ?_ _ _
  rw [ClassReader.run_append, ClassReader.diagram_run dialect after]
  exact foldl_change_extends _ _

end ClassDiagram

/-! ## Sequence diagrams -/

/-- All participants and messages of the first diagram are in the second, at the same places; a participant
may be known better. Numbering that was asked for stays. -/
structure SequenceDiagram.Extends (d d' : SequenceDiagram) : Prop where
  ids : d.ids <+: d'.ids
  messages : d.messages <+: d'.messages
  isNumbered : d.isNumbered = true → d'.isNumbered = true

theorem Participant.insert_ids (p : Participant) (ps : List Participant) :
    ps.map Participant.id <+: (p.insert ps).map Participant.id := by
  induction ps with
  | nil => exact List.nil_prefix
  | cons q ps ih =>
    unfold insert
    split
    · next h =>
      simp only [List.map_cons, h, List.prefix_refl]
    · rw [List.map_cons, List.map_cons]
      exact List.cons_prefix_cons.2 ⟨rfl, ih⟩

namespace SequenceDiagram

variable {d d' d'' : SequenceDiagram}

theorem Extends.refl (d : SequenceDiagram) : d.Extends d :=
  ⟨List.prefix_refl _, List.prefix_refl _, id⟩

theorem Extends.trans (h : d.Extends d') (h' : d'.Extends d'') : d.Extends d'' :=
  ⟨h.ids.trans h'.ids, h.messages.trans h'.messages, h'.isNumbered ∘ h.isNumbered⟩

theorem mention_extends (d : SequenceDiagram) (id : Text) : d.Extends (d.mention id) := by
  unfold mention
  split
  · exact .refl d
  · refine ⟨?_, List.prefix_refl _, fun h => h⟩
    show d.participants.map Participant.id <+: (d.participants ++ [Participant.implicit id]).map Participant.id
    rw [List.map_append]
    exact List.prefix_append _ _

theorem hear_extends (d : SequenceDiagram) (s : SequenceStatement) : d.Extends (d.hear s) := by
  cases s with
  | numbering => exact ⟨List.prefix_refl _, List.prefix_refl _, fun _ => rfl⟩
  | declaration p => exact ⟨p.insert_ids d.participants, List.prefix_refl _, id⟩
  | message m =>
    have hends := (mention_extends d m.sender).trans (mention_extends _ m.receiver)
    exact ⟨hends.ids, hends.messages.trans (List.prefix_append _ _), hends.isNumbered⟩
  | note isOpen => exact .refl d
  | other => exact .refl d

theorem ofLines_extends (dialect : Dialect) (before after : List Text) :
    (ofLines dialect before).Extends (ofLines dialect (before ++ after)) := by
  have hfold : ∀ (statements : List SequenceStatement) (d : SequenceDiagram),
      d.Extends (statements.foldl hear d) := by
    intro statements
    induction statements with
    | nil => exact Extends.refl
    | cons s statements ih => exact fun d => (hear_extends d s).trans (ih _)
  unfold ofLines
  rw [List.foldl_append, diagram_foldl_step dialect after]
  exact hfold _ _

end SequenceDiagram

/-! ## Activity diagrams -/

namespace FlowReader

theorem Made.elements {r r' : FlowReader} {log : List (Nat × FlowChange)} (h : Made r log r') :
    r.elements <+: r'.elements := by
  have hadd : ∀ (r : FlowReader) e, r.elements <+: (r.add e).elements := by
    intro r e
    obtain ⟨elements, blocks, he, hprefix, -⟩ := add_eq r e
    rw [he]
    exact hprefix
  induction h with
  | nil => exact List.prefix_refl _
  | @cons r _ _ c _ _ _ ih =>
    refine List.IsPrefix.trans ?_ ih
    cases c with
    | added e => exact hadd r e
    | ended entry e => exact hadd { r with blocks := r.blocks.tail } e
    | entersElse =>
      obtain ⟨blocks, he, -⟩ := change_entersElse r
      simp only [he, List.prefix_refl]
    | entersBranch =>
      obtain ⟨blocks, he, -⟩ := change_entersBranch r
      simp only [he, List.prefix_refl]
    | opened | dropped | remark | waits | note => exact List.prefix_refl _

end FlowReader

theorem ActivityDiagram.ofLines_elements (before after : List Text) :
    (ofLines before).elements <+: (ofLines (before ++ after)).elements := by
  have hbefore := FlowReader.run_made before (FlowReader.openedBefore_start 1)
  have hopened : FlowReader.OpenedBefore (1 + before.length) (FlowReader.start.run 1 before).blocks :=
    hbefore.openedBefore (fun c hc => (FlowReader.mem_log before 1 .start c hc).2) (FlowReader.openedBefore_start _)
  show (FlowReader.start.run 1 before).elements <+: (FlowReader.start.run 1 (before ++ after)).elements
  rw [FlowReader.run_append]
  exact (FlowReader.run_made after hopened).elements

/-! ## State diagrams -/

/-- All states, labelled states, transitions and final states of the first diagram are in the second, at the
same places; a label may have changed, and so may the initial state, but it does not go away. -/
structure StateDiagram.Extends (d d' : StateDiagram) : Prop where
  states : d.states <+: d'.states
  labelled : d.labels.map StateLabel.state <+: d'.labels.map StateLabel.state
  transitions : d.transitions <+: d'.transitions
  initial : d.initial.isSome → d'.initial.isSome
  finals : d.finals <+: d'.finals

namespace StateDiagram

variable {d d' d'' : StateDiagram}

theorem Extends.refl (d : StateDiagram) : d.Extends d :=
  ⟨List.prefix_refl _, List.prefix_refl _, List.prefix_refl _, id, List.prefix_refl _⟩

theorem Extends.trans (h : d.Extends d') (h' : d'.Extends d'') : d.Extends d'' :=
  ⟨h.states.trans h'.states, h.labelled.trans h'.labelled, h.transitions.trans h'.transitions,
    h'.initial ∘ h.initial, h.finals.trans h'.finals⟩

theorem prefix_insertName (name : Text) (names : List Text) : names <+: insertName name names := by
  rw [insertName_eq]
  exact prefix_addNew names name

theorem addState_extends (d : StateDiagram) (name : Text) : d.Extends (d.addState name) :=
  ⟨prefix_insertName name d.states, List.prefix_refl _, List.prefix_refl _, id, List.prefix_refl _⟩

theorem declare_extends (d : StateDiagram) (name : Text) (label : Option Text) :
    d.Extends (d.declare name label) := by
  have hstate := addState_extends d name
  cases label with
  | none => exact hstate
  | some label =>
    have hlabelled : d.labels.map StateLabel.state <+: (insertLabel name label d.labels).map StateLabel.state := by
      rw [states_insertLabel]
      exact prefix_addNew _ name
    exact ⟨hstate.states, hlabelled, hstate.transitions, hstate.initial, hstate.finals⟩

theorem addTransition_extends (d : StateDiagram) (outermost : Bool) (t : Transition) :
    d.Extends (d.addTransition outermost t) := by
  have hsource := addState_extends d t.source
  have htarget := addState_extends d t.target
  unfold addTransition
  split
  · split
    · exact .refl d
    · refine ⟨htarget.states, htarget.labelled, htarget.transitions, fun h => ?_, htarget.finals⟩
      cases outermost with
      | true => rfl
      | false => exact h
  · split
    · refine ⟨hsource.states, hsource.labelled, hsource.transitions, hsource.initial, ?_⟩
      cases outermost with
      | true => exact prefix_insertName t.source d.finals
      | false => exact List.prefix_refl _
    · have hends := hsource.trans (addState_extends _ t.target)
      exact ⟨hends.states, hends.labelled, hends.transitions.trans (List.prefix_append _ _), hends.initial,
        hends.finals⟩

theorem step_extends (r : StateReader) (raw : Text) : r.diagram.Extends (r.step raw).diagram := by
  unfold StateReader.step
  dsimp only
  split
  · exact .refl _
  · cases StateStatement.read raw.trim with
    | transition t => exact addTransition_extends r.diagram _ t
    | declaration named opens =>
      cases named with
      | none => exact .refl _
      | some named => exact declare_extends r.diagram named.1 named.2
    | description state => exact addState_extends r.diagram state
    | note | closeComposite | other => exact .refl _

theorem ofLines_extends (before after : List Text) : (ofLines before).Extends (ofLines (before ++ after)) := by
  have hfold : ∀ (lines : List Text) (r : StateReader),
      r.diagram.Extends (lines.foldl StateReader.step r).diagram := by
    intro lines
    induction lines with
    | nil => exact fun r => .refl _
    | cons line lines ih => exact fun r => (step_extends r line).trans (ih _)
  unfold ofLines
  rw [List.foldl_append]
  exact hfold _ _

end StateDiagram

/-! ## Pie charts -/

namespace PieChart

/-- Before its header a chart has no segments. -/
def segmentsOf (chart : Option PieChart) : List PieSegment := (chart.getD .empty).segments

theorem step_segments (chart : Option PieChart) (raw : Text) : segmentsOf chart <+: segmentsOf (step chart raw) := by
  unfold step
  dsimp only
  split
  · exact List.prefix_refl _
  · cases chart with
    | none => exact List.nil_prefix
    | some c =>
      show c.segments <+: (c.apply (.read raw.trim)).segments
      cases PieStatement.read raw.trim with
      | title t => exact List.prefix_refl _
      | segment label value =>
        show c.segments <+: (c.addSegment label value.value).segments
        unfold addSegment
        split
        · exact List.prefix_append _ _
        · exact List.prefix_refl _
      | other => exact List.prefix_refl _

theorem ofLines_segments (before after : List Text) :
    (ofLines before).segments <+: (ofLines (before ++ after)).segments := by
  have hfold : ∀ (lines : List Text) (chart : Option PieChart),
      segmentsOf chart <+: segmentsOf (lines.foldl step chart) := by
    intro lines
    induction lines with
    | nil => exact fun chart => List.prefix_refl _
    | cons line lines ih => exact fun chart => (step_segments chart line).trans (ih _)
  show segmentsOf (before.foldl step none) <+: segmentsOf ((before ++ after).foldl step none)
  rw [List.foldl_append]
  exact hfold _ _

end PieChart

/-! ## All kinds of diagrams -/

/-- A source is cut behind some of its lines, wherever that is. What the lines in front of the cut put into a
diagram stays there, whatever text follows. -/
theorem extends_read (dialect : Dialect) (before : List Text) (after : Text) :
    (ClassDiagram.read dialect (unlines before)).Extends (ClassDiagram.read dialect (unlines before ++ after)) ∧
      (SequenceDiagram.read dialect (unlines before)).Extends
        (SequenceDiagram.read dialect (unlines before ++ after)) ∧
      (ActivityDiagram.read (unlines before)).elements <+: (ActivityDiagram.read (unlines before ++ after)).elements ∧
      (StateDiagram.read (unlines before)).Extends (StateDiagram.read (unlines before ++ after)) ∧
      (PieChart.read (unlines before)).segments <+: (PieChart.read (unlines before ++ after)).segments := by
  unfold ClassDiagram.read SequenceDiagram.read ActivityDiagram.read StateDiagram.read PieChart.read
  rw [lines_unlines_append]
  exact ⟨ClassDiagram.ofLines_extends .., SequenceDiagram.ofLines_extends .., ActivityDiagram.ofLines_elements ..,
    StateDiagram.ofLines_extends .., PieChart.ofLines_segments ..⟩

end DiagramProse
