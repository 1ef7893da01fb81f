import DiagramProse.Diagram.Basic
import DiagramProse.Proofs.Html.Markup
import Mathlib.Data.List.Basic

/-!
Descriptions of diagrams are well-formed HTML, whatever stands in the texts of the diagram: a text
reaches the description only escaped, alone or together with the words around it. The words of the
phrases that are written as they are have been checked once for each kind of diagram (`of_safe`); from
there each piece of a description is safe because its parts are.
-/

namespace DiagramProse

open Text Html

theorem phrase_safe {parts : List Text} (h : parts.Forall SafeText) : SafeText (phrase parts) :=
  join_safe (.of_plain rfl) (List.forall_iff_forall_mem.1 h)

/-- Escaped text between single quotes. -/
theorem quoted_safe (s : Text) : SafeText ('\'' :: escape s ++ ['\'']) :=
  ((escape_safe s).cons rfl).append (.of_plain rfl)

theorem map_safe {α : Type} {f : α → Text} (h : ∀ x, SafeText (f x)) (xs : List α) :
    ∀ t ∈ xs.map f, SafeText t := by
  intro t ht
  obtain ⟨x, -, rfl⟩ := List.mem_map.1 ht
  exact h x

/-! ## Class diagrams -/

structure VisibilityWords.Safe (w : VisibilityWords) : Prop where
  everyone : SafeText w.everyone
  own : SafeText w.own
  heirs : SafeText w.heirs
  package : SafeText w.package

/-- The words that are written without being escaped are safe. -/
structure ClassPhrases.Safe (p : ClassPhrases) : Prop where
  summary : SafeText p.summary
  plainClass : SafeText p.plainClass
  interface : SafeText p.interface
  abstractClass : SafeText p.abstractClass
  enumeration : SafeText p.enumeration
  withStereotype : SafeText p.withStereotype
  withMembers : SafeText p.withMembers
  withoutMembers : SafeText p.withoutMembers
  noAttributes : SafeText p.noAttributes
  noMethods : SafeText p.noMethods
  attributeNoun : SafeText p.attributeNoun
  methodNoun : SafeText p.methodNoun
  value : SafeText p.value
  attributeVisibility : p.attributeVisibility.Safe
  methodVisibility : p.methodVisibility.Safe
  ofType : SafeText p.ofType
  withoutParameters : SafeText p.withoutParameters
  withParameter : SafeText p.withParameter
  withParameters : SafeText p.withParameters
  returnType : SafeText p.returnType
  inheritance : SafeText p.inheritance
  implementation : SafeText p.implementation
  association : SafeText p.association
  aggregation : SafeText p.aggregation
  composition : SafeText p.composition
  dependency : SafeText p.dependency
  named : SafeText p.named
  withTarget : SafeText p.withTarget
  multiplicity : SafeText p.multiplicity
  atEnd : SafeText p.atEnd
  conjunction : SafeText p.conjunction

theorem ClassPhrases.of_safe (l : Locale) : (ClassPhrases.of l).Safe := by
  -- the words are literals; those for visibilities are in records of their own
  cases l <;> constructor
  all_goals first | exact .of_plain (by decide +kernel) | constructor
  all_goals exact .of_plain (by decide +kernel)

theorem memberKind_safe {w : VisibilityWords} {noun : Text} (hw : w.Safe) (hn : SafeText noun)
    (v : Visibility) : SafeText (memberKind w v noun) := by
  unfold memberKind
  cases v
  exacts [phrase_safe ⟨hw.everyone, hn⟩, phrase_safe ⟨hw.own, hn⟩, phrase_safe ⟨hw.heirs, hn⟩,
    phrase_safe ⟨hw.package, hn⟩, hn]

section Classes

variable {p : ClassPhrases} (hp : p.Safe)
include hp

theorem withType_safe {name : Text} (hn : SafeText name) (type : Option Text) :
    SafeText (withType p name type) := by
  unfold withType
  split
  · exact phrase_safe ⟨hn, hp.ofType, escape_safe _⟩
  · exact hn

theorem Attribute.describe_safe (inEnumeration : Bool) (a : Attribute) :
    SafeText (a.describe p inEnumeration) := by
  unfold Attribute.describe
  split
  · exact phrase_safe ⟨hp.value, escape_safe _⟩
  · have hk := memberKind_safe hp.attributeVisibility hp.attributeNoun a.visibility
    refine withType_safe hp ?_ _
    exact phrase_safe ⟨hk, escape_safe _⟩

theorem Parameter.describe_safe (x : Parameter) : SafeText (x.describe p) :=
  withType_safe hp (escape_safe _) _

theorem describeParameters_safe (xs : List Parameter) : SafeText (describeParameters p xs) := by
  unfold describeParameters
  split
  · exact hp.withoutParameters
  · exact phrase_safe ⟨hp.withParameter, Parameter.describe_safe hp _⟩
  · have hj : SafeText (join ", " (xs.map (Parameter.describe p))) :=
      join_safe (.of_plain (by decide)) (map_safe (Parameter.describe_safe hp) xs)
    exact phrase_safe ⟨hp.withParameters, hj⟩

theorem Method.describe_safe (m : Method) : SafeText (m.describe p) := by
  have hk := memberKind_safe hp.methodVisibility hp.methodNoun m.visibility
  have hhead : SafeText (phrase [memberKind p.methodVisibility m.visibility p.methodNoun, escape m.name]) :=
    phrase_safe ⟨hk, escape_safe _⟩
  refine join_safe (.of_plain (by decide)) fun t ht => ?_
  simp only [List.mem_cons, Option.mem_toList, Option.map_eq_some_iff] at ht
  rcases ht with rfl | rfl | ⟨r, -, rfl⟩
  · exact hhead
  · exact describeParameters_safe hp _
  · exact phrase_safe ⟨hp.returnType, escape_safe _⟩

theorem Classifier.header_safe (c : Classifier) : SafeText (c.header p) := by
  have hname := escape_safe c.name
  unfold Classifier.header
  simp only
  split
  · exact phrase_safe ⟨hp.plainClass, hname⟩
  · exact phrase_safe ⟨hp.interface, hname⟩
  · exact phrase_safe ⟨hp.abstractClass, hname⟩
  · exact phrase_safe ⟨hp.enumeration, hname⟩
  · exact phrase_safe ⟨hp.plainClass, hname, hp.withStereotype, escape_safe _⟩

theorem Classifier.memberTexts_safe (c : Classifier) : ∀ t ∈ c.memberTexts p, SafeText t := by
  intro t ht
  rcases List.mem_append.1 ht with ht | ht
  · split at ht
    · rw [List.mem_singleton.1 ht]; exact hp.noMethods
    · exact map_safe (Method.describe_safe hp) _ t ht
  · split at ht
    · rw [List.mem_singleton.1 ht]; exact hp.noAttributes
    · exact map_safe (Attribute.describe_safe hp _) _ t ht

theorem Classifier.describe_safe (c : Classifier) : (c.describe p).Safe := by
  have hh := Classifier.header_safe hp c
  unfold Classifier.describe
  split
  · exact Item.leaf_safe (phrase_safe ⟨hh, hp.withoutMembers⟩)
  · have hcomma : SafeText (if c.hasCustomStereotype then [','] else []) := by
      split
      exacts [.of_plain rfl, .nil]
    refine ⟨?_, Listing.ofLeaves_safe false (Classifier.memberTexts_safe hp c), trivial⟩
    exact (((hh.append hcomma).append (.of_plain (s := [' ']) rfl)).append hp.withMembers).append
      (.of_plain (s := [':']) rfl)

theorem relationVerb_safe (kind : RelationKind) : SafeText (relationVerb p kind) := by
  cases kind
  exacts [hp.inheritance, hp.implementation, hp.association, hp.aggregation, hp.composition,
    hp.dependency]

theorem describeEnd_safe {name : Text} (hn : SafeText name) (multiplicity : Option Text) :
    ∀ t ∈ (describeEnd p multiplicity name).toList, SafeText t := by
  intro t ht
  obtain ⟨m, -, rfl⟩ := Option.map_eq_some_iff.1 (Option.mem_toList.1 ht)
  exact phrase_safe ⟨escape_safe m, hp.atEnd, hn⟩

theorem Relation.describe_safe (r : Relation) : SafeText (r.describe p) := by
  have hverb := relationVerb_safe hp r.kind
  have space : SafeText [' '] := .of_plain rfl
  have hends : ∀ t ∈ (describeEnd p r.sourceMultiplicity (escape r.source)).toList ++
      (describeEnd p r.targetMultiplicity (escape r.target)).toList, SafeText t := by
    intro t ht
    rcases List.mem_append.1 ht with ht | ht
    exacts [describeEnd_safe hp (escape_safe _) _ t ht, describeEnd_safe hp (escape_safe _) _ t ht]
  have hjoined := join_safe ((space.append hp.conjunction).append space) hends
  unfold Relation.describe
  simp only
  -- the multiplicities, if there are any, follow the sentence as a whole
  generalize hs : ite (r.kind.isDescent = true) _ _ = sentence
  have hsentence : SafeText sentence := by
    rw [← hs]
    split
    · exact phrase_safe ⟨escape_safe _, hverb, escape_safe _⟩
    · cases r.label with
      | none => exact phrase_safe ⟨escape_safe _, hverb, hp.withTarget, escape_safe _⟩
      | some l =>
        have hl : SafeText (phrase [p.named, '\'' :: escape l ++ ['\'']]) :=
          phrase_safe ⟨hp.named, quoted_safe l⟩
        exact phrase_safe ⟨escape_safe _, hverb, hl, hp.withTarget, escape_safe _⟩
  split
  · exact hsentence
  · exact (hsentence.append (.of_plain (by decide))).append (phrase_safe ⟨hp.multiplicity, hjoined⟩)

omit hp in
theorem ClassNote.describe_safe (n : ClassNote) : SafeText (n.describe p) :=
  ((escape_safe _).append (.of_plain (by decide))).append (escape_safe _)

theorem ClassDiagram.describeWith_safe (d : ClassDiagram) : ∀ b ∈ d.describeWith p, b.Safe := by
  have hclasses : (Listing.mk false (d.classes.map (Classifier.describe p))).Safe :=
    itemsSafe_iff.2 (by simpa using fun c _ => Classifier.describe_safe hp c)
  have hrelations := map_safe (Relation.describe_safe hp) d.relations
  have hnotes := map_safe (fun n => ClassNote.describe_safe (p := p) n) d.notes
  intro b hb
  simp only [ClassDiagram.describeWith, List.cons_append, List.mem_cons, List.mem_append] at hb
  rcases hb with rfl | (hb | hb) | hb
  · exact fill_safe hp.summary (by simp [ofNat_safe])
  · exact labelled_safe _ hclasses b hb
  · exact labelled_safe _ (Listing.ofLeaves_safe _ hrelations) b hb
  · exact labelled_safe _ (Listing.ofLeaves_safe _ hnotes) b hb

end Classes

/-! ## Sequence diagrams -/

/-- The words that are written without being escaped are safe. -/
structure SequencePhrases.Safe (p : SequencePhrases) : Prop where
  ofType : SafeText p.ofType
  conjunction : SafeText p.conjunction
  callsMethod : SafeText p.callsMethod
  calls : SafeText p.calls
  sendsMessage : SafeText p.sendsMessage
  responds : SafeText p.responds
  respondsWith : SafeText p.respondsWith

theorem SequencePhrases.of_safe (l : Locale) : (SequencePhrases.of l).Safe := by
  cases l <;> constructor <;> exact .of_plain (by decide +kernel)

section Sequences

variable {p : SequencePhrases} (hp : p.Safe)
include hp

theorem Participant.describe_safe (x : Participant) : SafeText (x.describe p) := by
  unfold Participant.describe
  split
  · exact phrase_safe ⟨escape_safe _, hp.ofType, escape_safe _⟩
  · exact escape_safe _

/-- The sentence is a template that the names go into, the text is already escaped. -/
theorem Message.phrasing_safe (m : Message) :
    SafeText (m.phrasing p).1 ∧ SafeText (m.phrasing p).2 := by
  unfold Message.phrasing
  simp only
  split
  · split_ifs
    exacts [⟨hp.responds, .nil⟩, ⟨hp.respondsWith, quoted_safe _⟩, ⟨hp.respondsWith, escape_safe _⟩]
  · split_ifs
    exacts [⟨hp.calls, .nil⟩, ⟨hp.callsMethod, escape_safe _⟩,
      ⟨hp.callsMethod, (escape_safe _).append (.of_plain (by decide))⟩,
      ⟨hp.sendsMessage, escape_safe _⟩]

theorem SequenceDiagram.describeMessage_safe (d : SequenceDiagram) (m : Message) :
    SafeText (d.describeMessage p m) := by
  obtain ⟨hsentence, htext⟩ := Message.phrasing_safe hp m
  refine fill_safe hsentence fun kv hkv => ?_
  simp only [List.mem_cons, List.not_mem_nil, or_false] at hkv
  rcases hkv with rfl | rfl | rfl | rfl
  exacts [escape_safe _, escape_safe _, htext, htext]

theorem SequenceDiagram.describeWith_safe (d : SequenceDiagram) : ∀ b ∈ d.describeWith p, b.Safe := by
  have hnames : SafeText (joinNames (d.participants.map (Participant.describe p)) p.conjunction) :=
    joinNames_safe (map_safe (Participant.describe_safe hp) _) hp.conjunction
  have hmessages := map_safe (SequenceDiagram.describeMessage_safe hp d) d.messages
  intro b hb
  rcases List.mem_cons.1 hb with rfl | hb
  · refine ((escape_safe _).append ?_).append (.of_plain (s := ['.']) rfl)
    split
    · exact .nil
    · exact (SafeText.of_plain (by decide)).append hnames
  · exact labelled_safe _ (Listing.ofLeaves_safe _ hmessages) b hb

end Sequences

/-! ## Activity diagrams -/

/-- The words that are written without being escaped are safe. -/
structure ActivityPhrases.Safe (p : ActivityPhrases) : Prop where
  start : SafeText p.start
  stop : SafeText p.stop
  finish : SafeText p.finish

theorem ActivityPhrases.of_safe (l : Locale) : (ActivityPhrases.of l).Safe := by
  cases l <;> constructor <;> exact .of_plain (by decide +kernel)

theorem blockItems_safe {opening closing : Text} {items : List Item} (h : ∀ i ∈ items, i.Safe) :
    ∀ i ∈ blockItems opening [.mk false items] closing, i.Safe := by
  intro i hi
  simp only [blockItems, List.mem_cons, List.not_mem_nil, or_false] at hi
  rcases hi with rfl | rfl
  · exact ⟨escape_safe _, itemsSafe_iff.2 h, trivial⟩
  · exact Item.leaf_safe (escape_safe _)

section Activities

variable {p : ActivityPhrases}

mutual

theorem FlowElement.items_safe (hp : p.Safe) :
    ∀ (e : FlowElement) (forks : Nat), ∀ i ∈ (e.items p forks).1, i.Safe
  | .start, _ => by simpa [FlowElement.items] using Item.leaf_safe hp.start
  | .stop, _ => by simpa [FlowElement.items] using Item.leaf_safe hp.stop
  | .finish, _ => by simpa [FlowElement.items] using Item.leaf_safe hp.finish
  | .activity text, _ => by simpa [FlowElement.items] using Item.leaf_safe (escape_safe text)
  | .decision condition yes no, _ => by
    simpa [FlowElement.items] using Item.leaf_safe (escape_safe (decisionText p condition yes no))
  | .partition name elements, forks => by
    simpa only [FlowElement.items] using blockItems_safe (flowItems_safe hp elements forks)
  | .whileLoop condition value exit elements, forks => by
    simpa only [FlowElement.items] using blockItems_safe (flowItems_safe hp elements forks)
  | .repeatLoop condition elements, forks => by
    simpa only [FlowElement.items] using blockItems_safe (flowItems_safe hp elements forks)
  | .fork branches, forks => by
    simpa only [FlowElement.items] using blockItems_safe (branchItems_safe hp branches (forks + 1) 1)

theorem flowItems_safe (hp : p.Safe) :
    ∀ (elements : List FlowElement) (forks : Nat), ∀ i ∈ (flowItems p forks elements).1, i.Safe
  | [], _ => by simp [flowItems]
  | e :: es, forks => by
    intro i hi
    simp only [flowItems] at hi
    rcases List.mem_append.1 hi with hi | hi
    exacts [FlowElement.items_safe hp e forks i hi, flowItems_safe hp es _ i hi]

theorem branchItems_safe (hp : p.Safe) : ∀ (branches : List (List FlowElement)) (forks number : Nat),
    ∀ i ∈ (branchItems p forks number branches).1, i.Safe
  | [], _, _ => by simp [branchItems]
  | b :: bs, forks, number => by
    intro i hi
    simp only [branchItems] at hi
    rcases List.mem_cons.1 hi with rfl | hi
    exacts [⟨escape_safe _, itemsSafe_iff.2 (flowItems_safe hp b forks), trivial⟩,
      branchItems_safe hp bs _ _ i hi]

end

theorem ActivityDiagram.describeWith_safe (hp : p.Safe) (d : ActivityDiagram) :
    ∀ b ∈ d.describeWith p, b.Safe := by
  have hflow : (Listing.mk false (flowItems p 0 d.elements).1).Safe :=
    itemsSafe_iff.2 (flowItems_safe hp d.elements 0)
  intro b hb
  rcases List.mem_cons.1 hb with rfl | hb
  · exact escape_safe _
  · exact labelled_safe _ hflow b hb

end Activities

/-! ## State diagrams -/

/-- The words that are written without being escaped are safe. -/
structure StatePhrases.Safe (p : StatePhrases) : Prop where
  initialState : SafeText p.initialState
  finalMarker : SafeText p.finalMarker
  finalStates : SafeText p.finalStates
  transitionsTo : SafeText p.transitionsTo
  stays : SafeText p.stays
  whenLabel : SafeText p.whenLabel

theorem StatePhrases.of_safe (l : Locale) : (StatePhrases.of l).Safe := by
  cases l <;> constructor <;> exact .of_plain (by decide +kernel)

section States

variable {p : StatePhrases} (hp : p.Safe)
include hp

theorem StateDiagram.describeState_safe (d : StateDiagram) (state : Text) :
    SafeText (d.describeState p state) := by
  refine (escape_safe _).append ?_
  split
  · exact ((SafeText.of_plain (by decide)).append hp.finalMarker).append (.of_plain (by decide))
  · exact .nil

theorem StateDiagram.describeTransition_safe (d : StateDiagram) (t : Transition) :
    SafeText (d.describeTransition p t) := by
  refine join_safe (.of_plain rfl) fun x hx => ?_
  rcases List.mem_append.1 hx with hx | hx
  · have hmove : List.Forall SafeText (if t.isLoop then [d.escapedName t.source, p.stays]
        else [d.escapedName t.source, p.transitionsTo, d.escapedName t.target]) := by
      split
      exacts [⟨escape_safe _, hp.stays⟩, ⟨escape_safe _, hp.transitionsTo, escape_safe _⟩]
    exact List.forall_iff_forall_mem.1 hmove x hx
  · obtain ⟨l, -, hx⟩ := List.mem_flatMap.1 hx
    simp only [List.mem_cons, List.not_mem_nil, or_false] at hx
    rcases hx with rfl | rfl
    exacts [hp.whenLabel, quoted_safe l]

theorem StateDiagram.describeWith_safe (d : StateDiagram) : ∀ b ∈ d.describeWith p, b.Safe := by
  have colon : SafeText (": " : Text) := .of_plain (by decide)
  have hstates := map_safe (StateDiagram.describeState_safe hp d) d.states
  have htransitions := map_safe (StateDiagram.describeTransition_safe hp d) d.transitions
  have hfinals : SafeText (join ", " (d.finals.map d.escapedName)) :=
    join_safe (.of_plain (by decide)) (map_safe (fun s => escape_safe (d.display s)) _)
  intro b hb
  simp only [StateDiagram.describeWith, List.cons_append, List.mem_cons, List.mem_append] at hb
  rcases hb with rfl | ((hb | hb) | hb) | hb
  · exact escape_safe _
  · obtain ⟨s, -, rfl⟩ := List.mem_map.1 hb
    exact (hp.initialState.append colon).append (escape_safe _)
  · exact labelled_safe _ (Listing.ofLeaves_safe _ hstates) b hb
  · exact labelled_safe _ (Listing.ofLeaves_safe _ htransitions) b hb
  · split at hb
    · cases hb
    · rw [List.mem_singleton.1 hb]
      exact (hp.finalStates.append colon).append hfinals

end States

/-! ## C4 diagrams and pie charts -/

theorem namedCount_safe (w : CountWords) (names : List Text) : SafeText (namedCount w names) := by
  unfold namedCount
  simp only
  split
  · exact escape_safe _
  · exact ((escape_safe _).append (.of_plain (by decide))).append (escape_safe _)

theorem countItem_safe (w : CountWords) (n : Nat) {texts : List Text} (h : ∀ t ∈ texts, SafeText t) :
    (countItem w n texts).Safe :=
  ⟨(escape_safe _).append (.of_plain (s := [':']) rfl), Listing.ofLeaves_safe _ h, trivial⟩

theorem C4Diagram.systemsItem_safe (d : C4Diagram) (p : C4Phrases) : (d.systemsItem p).Safe := by
  unfold C4Diagram.systemsItem
  split
  · exact Item.leaf_safe (namedCount_safe _ _)
  · refine countItem_safe _ _ fun t ht => ?_
    rcases List.mem_append.1 ht with ht | ht
    all_goals
      simp only at ht
      split at ht
      · cases ht
      · rw [List.mem_singleton.1 ht]; exact namedCount_safe _ _

theorem C4Diagram.surroundings_safe (d : C4Diagram) (p : C4Phrases) :
    ∀ i ∈ d.surroundings p, i.Safe := by
  intro i hi
  rcases List.mem_append.1 hi with hi | hi
  · split at hi
    · cases hi
    · rw [List.mem_singleton.1 hi]; exact Item.leaf_safe (namedCount_safe _ _)
  · split at hi
    · cases hi
    · rw [List.mem_singleton.1 hi]; exact C4Diagram.systemsItem_safe d p

theorem C4Diagram.elementItems_safe (d : C4Diagram) (p : C4Phrases) :
    ∀ i ∈ d.elementItems p, i.Safe := by
  have hcontainers := map_safe (f := C4Container.describe p) (fun _ => escape_safe _) d.properContainers
  have hcomponents := map_safe (f := C4Component.describe p) (fun _ => escape_safe _) d.components
  intro i hi
  unfold C4Diagram.elementItems at hi
  simp only at hi
  split at hi
  · simp only [List.mem_cons, List.not_mem_nil, or_false] at hi
    rcases hi with rfl | rfl
    exacts [Item.leaf_safe (namedCount_safe _ _), C4Diagram.systemsItem_safe d p]
  · rcases List.mem_append.1 hi with hi | hi
    · exact C4Diagram.surroundings_safe d p i hi
    · rw [List.mem_singleton.1 hi]; exact countItem_safe _ _ hcontainers
  · simp only [List.mem_append] at hi
    rcases hi with (hi | hi) | hi
    · exact C4Diagram.surroundings_safe d p i hi
    · split at hi
      · cases hi
      · rw [List.mem_singleton.1 hi]; exact Item.leaf_safe (namedCount_safe _ _)
    · rw [List.mem_singleton.1 hi]; exact countItem_safe _ _ hcomponents

theorem C4Diagram.describeWith_safe (d : C4Diagram) (p : C4Phrases) :
    ∀ b ∈ d.describeWith p, b.Safe := by
  have hrelationships : ∀ i ∈ d.relationshipItems p, i.Safe := by
    intro i hi
    unfold C4Diagram.relationshipItems at hi
    split at hi
    · cases hi
    · rw [List.mem_singleton.1 hi]
      exact countItem_safe _ _ (map_safe (fun r => escape_safe (d.relationshipText p r)) _)
  intro b hb
  simp only [C4Diagram.describeWith, List.mem_cons, List.not_mem_nil, or_false] at hb
  rcases hb with rfl | rfl
  · exact escape_safe _
  · refine itemsSafe_iff.2 fun i hi => ?_
    rcases List.mem_append.1 hi with hi | hi
    exacts [C4Diagram.elementItems_safe d p i hi, hrelationships i hi]

theorem PieChart.describeWith_safe (c : PieChart) (p : PiePhrases) : ∀ b ∈ c.describeWith p, b.Safe := by
  have hsegments := map_safe (f := fun s => PieSegment.describe s c.total) (fun _ => escape_safe _)
    c.segments
  intro b hb
  unfold PieChart.describeWith at hb
  split at hb
  · rw [List.mem_singleton.1 hb]; exact escape_safe _
  · simp only [List.mem_cons, List.not_mem_nil, or_false] at hb
    rcases hb with rfl | rfl
    exacts [escape_safe _, Listing.ofLeaves_safe false hsegments]

/-! ## All kinds -/

theorem Diagram.fragment_safe (d : Diagram) (locale : Text) : ∀ b ∈ d.fragment locale, b.Safe := by
  cases d with
  | classes d => exact ClassDiagram.describeWith_safe (ClassPhrases.of_safe _) d
  | sequence d => exact SequenceDiagram.describeWith_safe (SequencePhrases.of_safe _) d
  | activity d => exact ActivityDiagram.describeWith_safe (ActivityPhrases.of_safe _) d
  | state d => exact StateDiagram.describeWith_safe (StatePhrases.of_safe _) d
  | c4 d => exact C4Diagram.describeWith_safe d _
  | pie c => exact PieChart.describeWith_safe c _

/-- Every description begins with a paragraph. -/
theorem Diagram.exists_paragraph (d : Diagram) (locale : Text) :
    ∃ t rest, d.fragment locale = .paragraph t :: rest := by
  cases d with
  | pie c =>
    simp only [Diagram.fragment, PieChart.describe, PieChart.describeWith]
    split <;> exact ⟨_, _, rfl⟩
  | _ => exact ⟨_, _, rfl⟩

/-- The description of every diagram, in every language, is in the language of descriptions, and its
tags are balanced. -/
theorem describe_isDescription (d : Diagram) (locale : Text) :
    Description (d.describe locale) ∧ isBalanced (d.describe locale) = true := by
  have h : Description (d.describe locale) := by
    obtain ⟨t, rest, he⟩ := d.exists_paragraph locale
    exact write_description (d.fragment_safe locale) ⟨.paragraph t, by simp [he], rfl⟩
  exact ⟨h, h.balanced⟩

end DiagramProse
