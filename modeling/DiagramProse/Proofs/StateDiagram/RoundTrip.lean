import DiagramProse.Proofs.StateDiagram.Consistency
import DiagramProse.Proofs.StateDiagram.Declarations

/-!
A state diagram that is written and read again comes back as it was (`StateDiagram.read_stateSource`): the states
with their labels, the entry, the transitions and the exits, each on a line of its own. Only the order of the labels
is not written, so they come back in that of the states.
-/

namespace DiagramProse

open Text

/-! ## Writing -/

def Transition.line (t : Transition) : Text := withColon (t.source ++ " --> " ++ t.target) t.label

/-- The transition that makes a state the initial one. -/
def Transition.entry (state : Text) : Transition := ⟨pseudoState, state, none⟩

/-- The transition that makes a state a final one. -/
def Transition.exit (state : Text) : Transition := ⟨state, pseudoState, none⟩

namespace StateDiagram

def labelOf? (d : StateDiagram) (state : Text) : Option StateLabel := d.labels.find? fun l => l.state = state

/-- The labels, in the order of the states that they are for. -/
def labelsInOrder (d : StateDiagram) : List StateLabel := d.states.filterMap d.labelOf?

def lines (d : StateDiagram) : List Text :=
  d.states.map (fun s => stateLine s ((d.labelOf? s).map StateLabel.label)) ++
    (d.initial.toList.map (fun s => (Transition.entry s).line) ++
      (d.transitions.map Transition.line ++ d.finals.map fun s => (Transition.exit s).line))

def source (d : StateDiagram) : Text := join "\n" d.lines

end StateDiagram

/-! ## Diagrams that can be written -/

/-- A letter A to Z with letters, digits and underscores behind it. -/
def isStateName (s : Text) : Bool := s.head?.any Char.isUpper && s.all isNameChar

def StateLabel.isWritable (l : StateLabel) : Bool := !l.label.isEmpty && l.label.all fun c => c != '"' && c != '\n'

def StateDiagram.isWritable (d : StateDiagram) : Bool :=
  d.states.all isStateName && d.labels.all StateLabel.isWritable &&
    d.transitions.all fun t => t.label.all isPlainLabel

variable {name label : Text}

theorem isPlainName_of_isStateName (h : isStateName name = true) : isPlainName name = true := by
  rw [isStateName, Bool.and_eq_true] at h
  rw [isPlainName, h.2]
  cases name with
  | nil => simp at h
  | cons c s => rfl

theorem ne_pseudoState (h : isStateName name = true) : name ≠ pseudoState := by
  rintro rfl
  exact absurd h (by decide)

/-- The text of a label that can be written. -/
structure StateLabelText (s : Text) : Prop where
  ne_nil : s ≠ []
  noQuote : '"' ∉ s
  noLineFeed : '\n' ∉ s

theorem stateLabelText {l : StateLabel} (h : l.isWritable = true) : StateLabelText l.label := by
  rw [StateLabel.isWritable, Bool.and_eq_true] at h
  exact ⟨by simpa using h.1, not_mem_of_all h.2 (by decide), not_mem_of_all h.2 (by decide)⟩

/-! ## Lines of transitions -/

/-- A character with which a written transition begins: a letter in upper case, or the bracket of the pseudo state. -/
def beginsTransition (c : Char) : Bool := c.isUpper || c == '['

/-- A line that begins like a written transition, and that reads as one, is one. -/
theorem StateStatement.read_transition {c : Char} {s : Text} {t : Transition} (hc : beginsTransition c = true)
    (h : Transition.read? (c :: s) = some t) : StateStatement.read (c :: s) = .transition t := by
  have hne : ∀ d, beginsTransition d = false → c ≠ d := by
    rintro d hd rfl
    rw [hc] at hd
    cases hd
  have hcomment : isComment (c :: s) = false := startsWithAny_of_head hc (by decide) s
  have hdirective : isStateDirective (c :: s) = false := by
    rw [isStateDirective, startsWithAny_of_head hc (by decide) s]
    simp [hne '-' (by decide), hne '|' (by decide)]
  have hnote : startsWith (c :: s) "note " = false := startsWith_of_head hc (by decide) s
  have hclose : c :: s ≠ ['\x7d'] := fun he => hne '\x7d' (by decide) (List.cons.inj he).1
  rw [StateStatement.read, hcomment, hdirective, hnote, if_neg (by simp), if_neg Bool.false_ne_true, if_neg hclose, h]

/-- An end of a transition that can be written: a state, or the pseudo state. -/
def IsWrittenEnd (s : Text) : Prop := s = pseudoState ∨ isStateName s = true

theorem IsWrittenEnd.stateEnd (h : IsWrittenEnd name) : StateEnd name := by
  rcases h with rfl | h
  exacts [stateEnd_pseudoState, stateEnd_name (isPlainName_of_isStateName h)]

theorem IsWrittenEnd.exists_cons (h : IsWrittenEnd name) : ∃ c s, name = c :: s ∧ beginsTransition c = true := by
  rcases h with rfl | h
  · exact ⟨'[', "*]", rfl, rfl⟩
  · rw [isStateName, Bool.and_eq_true] at h
    cases name with
    | nil => simp at h
    | cons c s =>
      have hc : c.isUpper = true := by simpa using h.1
      exact ⟨c, s, rfl, by rw [beginsTransition, hc, Bool.true_or]⟩

/-- A transition between ends that can be written, perhaps with a label. -/
structure Transition.IsWritten (t : Transition) : Prop where
  source : IsWrittenEnd t.source
  target : IsWrittenEnd t.target
  label : ∀ l ∈ t.label, isPlainLabel l = true

namespace Transition.IsWritten

variable {t : Transition}

theorem freeLabel (h : t.IsWritten) : ∀ l ∈ t.label, FreeLabel l := fun l hl =>
  freeLabel_of_isPlainLabel (h.label l hl)

theorem isLine (h : t.IsWritten) : Tight t.line ∧ IsLine t.line := by
  have hends : Tight (t.source ++ " --> " ++ t.target) :=
    tight_append h.source.stateEnd.tight h.target.stateEnd.tight h.source.stateEnd.ne_nil h.target.stateEnd.ne_nil
  have htight : Tight t.line := withLabel_tight hends (by simp) h.freeLabel
  have hfeed : ∀ {s : Text}, IsWrittenEnd s → '\n' ∉ s := fun hs hm =>
    absurd (hs.stateEnd.not_blank _ hm) (by decide)
  refine ⟨htight, isLine_of_tight ?_ htight ?_⟩
  · rw [line, withColon_eq]
    simp
  · refine not_mem_withColon (by simp [hfeed h.source, hfeed h.target]) (by decide) fun l hl => ?_
    exact not_mem_of_all (labelText (h.label l hl)).chars (by decide)

theorem read_line (h : t.IsWritten) : StateStatement.read t.line = .transition t := by
  have hlabel : t.label.map Arrow.withoutHints = t.label := by
    cases hl : t.label with
    | none => rfl
    | some l =>
      have hchars := (labelText (h.label l hl)).chars
      have hhints := hintless_of_not_mem (not_mem_of_all hchars (by decide)) (not_mem_of_all hchars (by decide))
      exact congrArg some hhints.eq_self
  have hread : Transition.read? t.line = some t := by
    have hends := Transition.read?_ends (by decide : (("-->" : Text), ()) ∈ stateArrows) h.source.stateEnd
      h.target.stateEnd h.freeLabel
    rw [hlabel] at hends
    rw [← hends, line]
    simp
  obtain ⟨c, s, hsource, hc⟩ := h.source.exists_cons
  obtain ⟨rest, hline⟩ : ∃ rest, t.line = c :: rest := by
    rw [line, hsource, withColon_eq]
    exact ⟨_, rfl⟩
  rw [hline] at hread ⊢
  exact StateStatement.read_transition hc hread

end Transition.IsWritten

/-! ## Diagrams read so far -/

namespace StateReader

/-- A reader that is in no composite state and in no note. -/
def outside (d : StateDiagram) : StateReader := ⟨d, 0, false⟩

variable {d : StateDiagram}

theorem step_outside {raw : Text} (h : Tight raw) (d : StateDiagram) :
    step (outside d) raw = (outside d).apply (.read raw) := by
  rw [step, trim_eq_self h]
  rfl

theorem step_transition {t : Transition} (h : t.IsWritten) (d : StateDiagram) :
    step (outside d) t.line = outside (d.addTransition true t) := by
  rw [step_outside h.isLine.1, h.read_line]
  rfl

theorem stateLine_isLine (h : isStateName name = true) {label : Option Text}
    (hlabel : ∀ l ∈ label, StateLabelText l) : Tight (stateLine name label) ∧ IsLine (stateLine name label) := by
  have hname := isPlainName_of_isStateName h
  have hne := ne_nil_of_isPlainName hname
  have htight : Tight (stateLine name label) := by
    have htight : ∀ m : Text, Tight ("state" ++ m ++ name) := fun m =>
      tight_append (by decide) (tight_of_not_blank (not_blank_of_isPlainName hname)) (by decide) hne
    cases label with
    | none => exact htight " "
    | some label =>
      have hlabel := htight (" " ++ quoted label ++ " as ")
      simpa [stateLine_eq, labelledName] using hlabel
  have hfeed : '\n' ∉ name := not_mem_of_isPlainName hname (by decide)
  refine ⟨htight, isLine_of_tight (List.append_ne_nil_of_left_ne_nil (by decide) _) htight ?_⟩
  cases label with
  | none => simp [stateLine_eq, labelledName, hfeed]
  | some label => simp [stateLine_eq, labelledName, quoted, hfeed, (hlabel label rfl).noLineFeed]

theorem step_stateLine (h : isStateName name = true) {label : Option Text} (hlabel : ∀ l ∈ label, StateLabelText l)
    (d : StateDiagram) : step (outside d) (stateLine name label) = outside (d.declare name label) := by
  have hname := isPlainName_of_isStateName h
  rw [step_outside (stateLine_isLine h hlabel).1]
  cases label with
  | none =>
    rw [StateStatement.read_plainState hname]
    rfl
  | some label =>
    obtain ⟨hne, hquote, -⟩ := hlabel label rfl
    rw [StateStatement.read_labelledState hname hne hquote]
    rfl

/-- Lines that are read one by one, each of which changes the diagram. -/
theorem run_map {β : Type} {line : β → Text} {change : StateDiagram → β → StateDiagram} {items : List β}
    (h : ∀ b ∈ items, ∀ d, step (outside d) (line b) = outside (change d b)) (d : StateDiagram) :
    (items.map line).foldl step (outside d) = outside (items.foldl change d) := by
  induction items generalizing d with
  | nil => rfl
  | cons b items ih =>
    rw [List.map_cons, List.foldl_cons, List.foldl_cons, h b List.mem_cons_self,
      ih fun b' hb => h b' (List.mem_cons_of_mem b hb)]

end StateReader

namespace StateDiagram

variable {d : StateDiagram}

theorem insertLabel_of_not_mem {ls : List StateLabel} (h : name ∉ ls.map StateLabel.state) (label : Text) :
    insertLabel name label ls = ls ++ [⟨name, label⟩] := by
  induction ls with
  | nil => rfl
  | cons l ls ih =>
    rw [List.map_cons, List.mem_cons, not_or] at h
    rw [insertLabel, if_neg (Ne.symm h.1), ih h.2]
    rfl

/-- States that are declared for the first time stand behind the others, and so do their labels. -/
theorem foldl_declare {labelOf? : Text → Option StateLabel} (hlabel : ∀ s, ∀ l ∈ labelOf? s, l.state = s)
    {names : List Text} (hnames : (d.states ++ names).Nodup) (hlisted : ∀ l ∈ d.labels, l.state ∈ d.states) :
    names.foldl (fun d s => d.declare s ((labelOf? s).map StateLabel.label)) d =
      { d with states := d.states ++ names, labels := d.labels ++ names.filterMap labelOf? } := by
  induction names generalizing d with
  | nil => simp
  | cons s names ih =>
    have hs : s ∉ d.states := fun hm => (List.nodup_append.1 hnames).2.2 s hm s List.mem_cons_self rfl
    have hdeclare : d.declare s ((labelOf? s).map StateLabel.label) =
        { d with states := d.states ++ [s], labels := d.labels ++ (labelOf? s).toList } := by
      have hstates : d.addState s = { d with states := d.states ++ [s] } := by
        rw [addState, insertName_eq, addNew_of_not_mem hs]
      cases hl : labelOf? s with
      | none => simp [declare, hstates]
      | some l =>
        obtain rfl : l.state = s := hlabel s l hl
        have hnew : l.state ∉ d.labels.map StateLabel.state := fun hm => by
          obtain ⟨l', hl', he⟩ := List.mem_map.1 hm
          exact hs (he ▸ hlisted l' hl')
        simp [declare, hstates, insertLabel_of_not_mem hnew]
    rw [List.foldl_cons, hdeclare, ih]
    · cases hl : labelOf? s <;> simp [hl]
    · simpa using hnames
    · intro l hl
      rcases List.mem_append.1 hl with hl | hl
      · exact List.mem_append_left _ (hlisted l hl)
      · have := hlabel s l (Option.mem_toList.1 hl)
        simp [this]

theorem addState_of_mem (h : name ∈ d.states) : d.addState name = d := by
  rw [addState, insertName_eq, addNew_of_mem h]

theorem foldl_transitions {ts : List Transition} (hlisted : ∀ t ∈ ts, t.source ∈ d.states ∧ t.target ∈ d.states)
    (hends : ∀ t ∈ ts, t.source ≠ pseudoState ∧ t.target ≠ pseudoState) :
    ts.foldl (addTransition · true) d = { d with transitions := d.transitions ++ ts } := by
  induction ts generalizing d with
  | nil => simp
  | cons t ts ih =>
    obtain ⟨⟨hsource, htarget⟩, hlisted⟩ := List.forall_mem_cons.1 hlisted
    obtain ⟨⟨hsource', htarget'⟩, hends⟩ := List.forall_mem_cons.1 hends
    have hone : d.addTransition true t = { d with transitions := d.transitions ++ [t] } := by
      rw [addTransition, if_neg hsource', if_neg htarget', addState_of_mem hsource, addState_of_mem htarget]
    rw [List.foldl_cons, hone, ih (d := { d with transitions := d.transitions ++ [t] }) hlisted hends]
    simp

theorem foldl_exits {names : List Text} (hlisted : ∀ s ∈ names, s ∈ d.states) (hends : ∀ s ∈ names, s ≠ pseudoState)
    (hnames : (d.finals ++ names).Nodup) :
    names.foldl (fun d s => d.addTransition true (.exit s)) d = { d with finals := d.finals ++ names } := by
  induction names generalizing d with
  | nil => simp
  | cons s names ih =>
    obtain ⟨hs, hlisted⟩ := List.forall_mem_cons.1 hlisted
    obtain ⟨hs', hends⟩ := List.forall_mem_cons.1 hends
    have hnew : s ∉ d.finals := fun hm => (List.nodup_append.1 hnames).2.2 s hm s List.mem_cons_self rfl
    have hone : d.addTransition true (.exit s) = { d with finals := d.finals ++ [s] } := by
      rw [addTransition, Transition.exit, if_neg hs', if_pos rfl, if_pos rfl, addState_of_mem hs, insertName_eq,
        addNew_of_not_mem hnew]
    rw [List.foldl_cons, hone, ih (d := { d with finals := d.finals ++ [s] }) hlisted hends (by simpa using hnames)]
    simp

/-! ## The diagram -/

theorem labelOf?_eq_some (h : d.IsClosed) {l : StateLabel} :
    d.labelOf? name = some l ↔ l ∈ d.labels ∧ l.state = name := by
  constructor
  · intro hl
    exact ⟨List.mem_of_find?_eq_some hl, by simpa using List.find?_some hl⟩
  · rintro ⟨hl, rfl⟩
    obtain ⟨before, after, hlabels⟩ := List.append_of_mem hl
    have hnodup := h.labelled
    rw [hlabels, List.map_append, List.nodup_append] at hnodup
    refine List.find?_eq_some_iff_append.2 ⟨by simp, before, after, hlabels, fun l' hl' => ?_⟩
    have hne := hnodup.2.2 _ (List.mem_map_of_mem hl') l.state (by simp)
    simpa using hne

theorem labelsInOrder_perm (h : d.IsClosed) : d.labelsInOrder.Perm d.labels := by
  have hnodup : d.labelsInOrder.Nodup := by
    refine h.states.filterMap fun s s' l hl hl' => ?_
    exact ((labelOf?_eq_some h).1 hl).2.symm.trans ((labelOf?_eq_some h).1 hl').2
  refine (List.perm_ext_iff_of_nodup hnodup h.labelled.of_map).2 fun l => ?_
  rw [labelsInOrder, List.mem_filterMap]
  constructor
  · rintro ⟨s, -, hl⟩
    exact ((labelOf?_eq_some h).1 hl).1
  · exact fun hl => ⟨l.state, h.label_mem l hl, (labelOf?_eq_some h).2 ⟨hl, rfl⟩⟩

/-- What is known of a diagram that can be written. -/
structure IsWritten (d : StateDiagram) : Prop where
  closed : d.IsClosed
  name : ∀ s ∈ d.states, isStateName s = true
  label : ∀ s, ∀ l ∈ (d.labelOf? s).map StateLabel.label, StateLabelText l
  transition : ∀ t ∈ d.transitions, t.IsWritten

namespace IsWritten

theorem of_isWritable (hclosed : d.IsClosed) (h : d.isWritable = true) : d.IsWritten := by
  simp only [isWritable, Bool.and_eq_true, List.all_eq_true] at h
  obtain ⟨⟨hstates, hlabels⟩, htransitions⟩ := h
  refine ⟨hclosed, hstates, fun s l hl => ?_, fun t ht => ?_⟩
  · obtain ⟨l', hl', rfl⟩ := Option.mem_map.1 hl
    exact stateLabelText (hlabels l' (List.mem_of_find?_eq_some hl'))
  · obtain ⟨hsource, htarget⟩ := hclosed.end_mem t ht
    exact ⟨.inr (hstates _ hsource), .inr (hstates _ htarget), (Option.all_eq_true ..).1 (htransitions t ht)⟩

theorem entry (h : d.IsWritten) : ∀ s ∈ d.initial.toList, (Transition.entry s).IsWritten := fun s hs =>
  ⟨.inl rfl, .inr (h.name s (h.closed.initial_mem s (Option.mem_toList.1 hs))), by simp [Transition.entry]⟩

theorem exit (h : d.IsWritten) : ∀ s ∈ d.finals, (Transition.exit s).IsWritten := fun s hs =>
  ⟨.inr (h.name s (h.closed.final_mem s hs)), .inl rfl, by simp [Transition.exit]⟩

theorem isLine (h : d.IsWritten) : ∀ l ∈ d.lines, IsLine l := by
  simp only [lines, List.mem_append, List.mem_map]
  rintro l (⟨s, hs, rfl⟩ | ⟨s, hs, rfl⟩ | ⟨t, ht, rfl⟩ | ⟨s, hs, rfl⟩)
  · exact (StateReader.stateLine_isLine (h.name s hs) (h.label s)).2
  · exact (h.entry s hs).isLine.2
  · exact (h.transition t ht).isLine.2
  · exact (h.exit s hs).isLine.2

/-- One kind of line after the other gives the diagram what it has of that kind. -/
theorem run_lines (h : d.IsWritten) :
    d.lines.foldl StateReader.step .start = .outside { d with labels := d.labelsInOrder } := by
  have hne : ∀ s ∈ d.states, s ≠ pseudoState := fun s hs => ne_pseudoState (h.name s hs)
  have hstates : (d.states.map fun s => stateLine s ((d.labelOf? s).map StateLabel.label)).foldl StateReader.step
      .start = .outside ⟨d.states, d.labelsInOrder, [], none, []⟩ := by
    refine (StateReader.run_map (fun s hs => StateReader.step_stateLine (h.name s hs) (h.label s)) empty).trans ?_
    have hlabel : ∀ s, ∀ l ∈ d.labelOf? s, l.state = s := fun s l hl => ((labelOf?_eq_some h.closed).1 hl).2
    exact congrArg _ (foldl_declare hlabel h.closed.states (by simp [empty]))
  have hentry : (d.initial.toList.map fun s => (Transition.entry s).line).foldl StateReader.step
      (.outside ⟨d.states, d.labelsInOrder, [], none, []⟩) =
      .outside ⟨d.states, d.labelsInOrder, [], d.initial, []⟩ := by
    rw [StateReader.run_map fun s hs => StateReader.step_transition (h.entry s hs)]
    cases hinitial : d.initial with
    | none => rfl
    | some s =>
      have hs := h.closed.initial_mem s hinitial
      have hadd : addState ⟨d.states, d.labelsInOrder, [], none, []⟩ s = ⟨d.states, d.labelsInOrder, [], none, []⟩ :=
        addState_of_mem hs
      simp [addTransition, Transition.entry, hne s hs, hadd]
  have htransitions : (d.transitions.map Transition.line).foldl StateReader.step
      (.outside ⟨d.states, d.labelsInOrder, [], d.initial, []⟩) =
      .outside ⟨d.states, d.labelsInOrder, d.transitions, d.initial, []⟩ := by
    rw [StateReader.run_map fun t ht => StateReader.step_transition (h.transition t ht)]
    refine congrArg _ (foldl_transitions h.closed.end_mem fun t ht => ?_)
    exact (h.closed.end_mem t ht).imp (hne _) (hne _)
  rw [lines, List.foldl_append, List.foldl_append, List.foldl_append, hstates, hentry, htransitions,
    StateReader.run_map fun s hs => StateReader.step_transition (h.exit s hs)]
  exact congrArg _ (foldl_exits h.closed.final_mem (fun s hs => hne s (h.closed.final_mem s hs)) h.closed.finals)

end IsWritten

/-- A diagram that is written comes back as it was, with its labels in the order of the states. -/
theorem read_stateSource (hclosed : d.IsClosed) (h : d.isWritable = true) :
    read d.source = { d with labels := d.labelsInOrder } ∧ d.labelsInOrder.Perm d.labels := by
  have hwritten := IsWritten.of_isWritable hclosed h
  have hlines : d.source.lines = d.lines := lines_join hwritten.isLine
  refine ⟨?_, labelsInOrder_perm hclosed⟩
  rw [read, hlines, ofLines, hwritten.run_lines]
  rfl

/-- A label with an arrow, a colon and a brace in it, and a loop. -/
theorem read_stateSource_door :
    let d : StateDiagram := ⟨["Open", "Shut"], [⟨"Shut", "not ajar: -[#red]-> x \x7b"⟩],
      [⟨"Open", "Shut", some "push 1"⟩, ⟨"Shut", "Shut", none⟩], some "Open", ["Shut", "Open"]⟩
    read d.source = d := by
  intro d
  have hread := (read_stateSource (d := d) (by decide) (by decide +kernel)).1
  exact hread

end StateDiagram

end DiagramProse
