import DiagramProse.Proofs.StateDiagram.Consistency
import DiagramProse.Proofs.StateDiagram.Declarations
import DiagramProse.Proofs.Text.AcrossLines

/-!
A composite state hides its entry and its exits. With a body in braces and without it, a state leaves the diagram
with the same initial state and the same final states, and with the same transitions except those of the body
(`StateDiagram.read_composite`).

Two things make up the proof. Lines that stand within a composite state change neither the initial nor the final
states (`StateReader.run_within`). And the lines behind it are read alike whatever else was read before them, as
long as the two readers agree on where they are and on these states (`StateReader.Agrees.run`).
-/

namespace DiagramProse

open Text

/-! ## Sources and their lines -/

namespace StateReader

variable {r r' : StateReader} {raw : Text}

theorem step_congr {raw' : Text} (h : trim raw = trim raw') : r.step raw = r.step raw' := by
  rw [step, step, h]

theorem step_blank (r : StateReader) : r.step [] = r := by
  obtain ⟨d, depth, inNote⟩ := r
  cases inNote <;> rfl

theorem run_linesOfPieces (r : StateReader) (ps : List Text) : (linesOfPieces ps).foldl step r = ps.foldl step r :=
  foldl_linesOfPieces (fun _ l => step_congr (trim_trim l)) step_blank ps r

end StateReader

/-- Line ends make no difference to a source that is read. -/
theorem StateDiagram.read_join (ls : List Text) (h : ∀ l ∈ ls, '\n' ∉ l) : read (join "\n" ls) = ofLines ls := by
  have hlines : (join "\n" ls : Text).lines = linesOfPieces ls := lines_join_eq h
  rw [read, ofLines, hlines, StateReader.run_linesOfPieces, ofLines]

/-! ## What a transition changes -/

namespace StateDiagram

/-- Two diagrams with the same initial state and the same final states. -/
structure SameEnds (d d' : StateDiagram) : Prop where
  initial : d.initial = d'.initial
  finals : d.finals = d'.finals

variable {d d' d'' : StateDiagram}

theorem SameEnds.refl (d : StateDiagram) : d.SameEnds d := ⟨rfl, rfl⟩

theorem SameEnds.trans (h : d.SameEnds d') (h' : d'.SameEnds d'') : d.SameEnds d'' :=
  ⟨h.initial.trans h'.initial, h.finals.trans h'.finals⟩

theorem SameEnds.declare (h : d.SameEnds d') (name : Text) (label : Option Text) :
    (d.declare name label).SameEnds (d'.declare name label) := by
  cases label <;> exact ⟨h.initial, h.finals⟩

theorem SameEnds.addTransition (h : d.SameEnds d') (outermost : Bool) (t : Transition) :
    (d.addTransition outermost t).SameEnds (d'.addTransition outermost t) := by
  unfold StateDiagram.addTransition
  split
  · split
    · exact h
    · cases outermost <;> exact ⟨by simp [h.initial], h.finals⟩
  · split
    · cases outermost <;> exact ⟨h.initial, by simp [h.finals]⟩
    · exact ⟨h.initial, h.finals⟩

theorem declare_sameEnds (d : StateDiagram) (name : Text) (label : Option Text) :
    d.SameEnds (d.declare name label) := by
  cases label <;> exact ⟨rfl, rfl⟩

/-- Within a composite state a transition marks no state. -/
theorem addTransition_sameEnds (d : StateDiagram) (t : Transition) : d.SameEnds (d.addTransition false t) := by
  unfold addTransition
  split
  · split <;> exact ⟨rfl, rfl⟩
  · split <;> exact ⟨rfl, rfl⟩

/-- The second diagram has some transitions more than the first, behind those of the first. -/
def Gains (d : StateDiagram) (ts : List Transition) (d' : StateDiagram) : Prop :=
  d'.transitions = d.transitions ++ ts

theorem Gains.refl (d : StateDiagram) : d.Gains [] d := (List.append_nil _).symm

theorem Gains.trans {ts us : List Transition} (h : d.Gains ts d') (h' : d'.Gains us d'') :
    d.Gains (ts ++ us) d'' := by
  rw [Gains, h', h, List.append_assoc]

/-- Which transition is gained does not depend on the diagram. -/
theorem addTransition_gains (t : Transition) :
    ∃ ts, ∀ (d : StateDiagram) (outermost : Bool), d.Gains ts (d.addTransition outermost t) := by
  by_cases hsource : t.source = pseudoState
  · refine ⟨[], fun d outermost => ?_⟩
    rw [addTransition, if_pos hsource]
    split <;> exact .refl d
  · by_cases htarget : t.target = pseudoState
    · refine ⟨[], fun d outermost => ?_⟩
      rw [addTransition, if_neg hsource, if_pos htarget]
      exact .refl d
    · refine ⟨[t], fun d outermost => ?_⟩
      rw [addTransition, if_neg hsource, if_neg htarget]
      rfl

end StateDiagram

/-! ## Lines within a composite state -/

namespace StateReader

variable {r r' : StateReader} {raw : Text} {body : List Text}

theorem step_within (h : 0 < r.depth) (raw : Text) : r.diagram.SameEnds (r.step raw).diagram := by
  refine step_cases (motive := fun r' => r.diagram.SameEnds r'.diagram) r raw (fun _ => .refl _) fun _ => ?_
  have hinner : (r.depth == 0) = false := by simpa using h.ne'
  cases StateStatement.read raw.trim with
  | transition t =>
    rw [apply, hinner]
    exact r.diagram.addTransition_sameEnds t
  | declaration named opens =>
    cases named with
    | none => exact .refl _
    | some named => exact r.diagram.declare_sameEnds named.1 named.2
  | note | closeComposite | description | other => exact ⟨rfl, rfl⟩

/-- Lines that stay within a composite state mark no state as initial or final. -/
theorem run_within (h : ∀ before, before <+: body → 0 < (before.foldl step r).depth) :
    r.diagram.SameEnds (body.foldl step r).diagram := by
  induction body generalizing r with
  | nil => exact .refl _
  | cons raw body ih =>
    have hfirst := step_within (h [] List.nil_prefix) raw
    exact hfirst.trans (ih fun before hbefore => h (raw :: before) ((List.prefix_cons_inj raw).2 hbefore))

/-! ## Two readers of the same lines -/

/-- Two readers that are at the same place, and whose diagrams have the same initial and final states. -/
structure Agrees (r r' : StateReader) : Prop where
  depth : r.depth = r'.depth
  inNote : r.inNote = r'.inNote
  ends : r.diagram.SameEnds r'.diagram

theorem Agrees.apply (h : r.Agrees r') (s : StateStatement) : (r.apply s).Agrees (r'.apply s) := by
  cases s with
  | note isOpen => exact ⟨h.depth, rfl, h.ends⟩
  | closeComposite => exact ⟨congrArg (· - 1) h.depth, h.inNote, h.ends⟩
  | transition t =>
    refine ⟨h.depth, h.inNote, ?_⟩
    rw [StateReader.apply, StateReader.apply, h.depth]
    exact h.ends.addTransition _ t
  | declaration named opens =>
    refine ⟨?_, h.inNote, ?_⟩
    · rw [StateReader.apply, StateReader.apply, h.depth]
    · cases named with
      | none => exact h.ends
      | some named => exact h.ends.declare named.1 named.2
  | description => exact ⟨h.depth, h.inNote, h.ends.initial, h.ends.finals⟩
  | other => exact h

theorem Agrees.step (h : r.Agrees r') (raw : Text) : (r.step raw).Agrees (r'.step raw) := by
  rw [StateReader.step, StateReader.step, h.inNote]
  split
  · exact ⟨h.depth, rfl, h.ends⟩
  · exact h.apply _

theorem Agrees.run (h : r.Agrees r') (ls : List Text) :
    (ls.foldl StateReader.step r).Agrees (ls.foldl StateReader.step r') := by
  induction ls generalizing r r' with
  | nil => exact h
  | cons raw ls ih => exact ih (h.step raw)

theorem apply_inNote (h : r.inNote = r'.inNote) (s : StateStatement) : (r.apply s).inNote = (r'.apply s).inNote := by
  cases s with
  | note => rfl
  | closeComposite | transition | declaration | description | other => exact h

theorem apply_gains (s : StateStatement) : ∃ ts, ∀ r : StateReader, r.diagram.Gains ts (r.apply s).diagram := by
  cases s with
  | transition t =>
    obtain ⟨ts, hts⟩ := StateDiagram.addTransition_gains t
    exact ⟨ts, fun r => hts r.diagram _⟩
  | declaration named opens =>
    rcases named with _ | ⟨name, _ | label⟩ <;> exact ⟨[], fun r => .refl _⟩
  | note | closeComposite | description | other => exact ⟨[], fun r => .refl _⟩

/-- A line adds the same transitions to all diagrams, and so do many. -/
theorem run_gains (hnote : r.inNote = r'.inNote) (ls : List Text) :
    ∃ ts, r.diagram.Gains ts (ls.foldl step r).diagram ∧ r'.diagram.Gains ts (ls.foldl step r').diagram := by
  induction ls generalizing r r' with
  | nil => exact ⟨[], .refl _, .refl _⟩
  | cons raw ls ih =>
    obtain ⟨hnote', ts, hts, hts'⟩ : (r.step raw).inNote = (r'.step raw).inNote ∧
        ∃ ts, r.diagram.Gains ts (r.step raw).diagram ∧ r'.diagram.Gains ts (r'.step raw).diagram := by
      rw [step, step, hnote]
      split
      · exact ⟨rfl, [], .refl _, .refl _⟩
      · obtain ⟨ts, hts⟩ := apply_gains (.read raw.trim)
        exact ⟨apply_inNote hnote _, ts, hts r, hts r'⟩
    obtain ⟨us, hus, hus'⟩ := ih hnote'
    exact ⟨ts ++ us, hts.trans hus, hts'.trans hus'⟩

/-- Outside a note lines add the transitions that they have on their own. -/
theorem run_transitions (hnote : r.inNote = false) (ls : List Text) :
    (ls.foldl step r).diagram.transitions = r.diagram.transitions ++ (StateDiagram.ofLines ls).transitions := by
  obtain ⟨ts, hts, hts'⟩ := @run_gains r start hnote ls
  rw [hts, StateDiagram.ofLines, hts']
  rfl

/-! ## Bodies -/

/-- Lines that can stand in the braces of a composite state: they end at the level where they begin, never come
below it, and leave no note open. -/
structure IsBody (r : StateReader) (body : List Text) : Prop where
  level : ∀ before, before <+: body → r.depth ≤ (before.foldl step r).depth
  depth : (body.foldl step r).depth = r.depth
  closed : (body.foldl step r).inNote = false

instance (r : StateReader) (body : List Text) : Decidable (r.IsBody body) :=
  decidable_of_iff ((∀ before ∈ body.inits, r.depth ≤ (before.foldl step r).depth) ∧
      (body.foldl step r).depth = r.depth ∧ (body.foldl step r).inNote = false)
    ⟨fun ⟨hlevel, hdepth, hclosed⟩ =>
        ⟨fun before hb => hlevel before ((List.mem_inits before body).2 hb), hdepth, hclosed⟩,
      fun h => ⟨fun before hb => h.level before ((List.mem_inits before body).1 hb), h.depth, h.closed⟩⟩

variable {name : Text}

theorem step_statement (hnote : r.inNote = false) (ht : Tight raw) : r.step raw = r.apply (.read raw) := by
  rw [step, trim_eq_self ht, if_neg (by simp [hnote])]

theorem step_plainState (hnote : r.inNote = false) (h : isPlainName name = true) :
    r.step (stateLine name none) = { r with diagram := r.diagram.declare name none } := by
  have hname : Tight name := tight_of_not_blank (not_blank_of_isPlainName h)
  have htight : Tight (stateLine name none) :=
    tight_append (m := [' ']) (by decide : Tight "state") hname (by decide) (ne_nil_of_isPlainName h)
  rw [step_statement hnote htight, StateStatement.read_plainState h]
  rfl

theorem step_openState (hnote : r.inNote = false) (h : isPlainName name = true) :
    r.step (stateLine name none ++ " \x7b") =
      { r with diagram := r.diagram.declare name none, depth := r.depth + 1 } := by
  have htight : Tight (stateLine name none ++ " \x7b") := by
    have htight := tight_append (m := ' ' :: (name ++ [' '])) (by decide : Tight "state") (by decide : Tight "\x7b")
      (by decide) (by decide)
    simpa [stateLine_eq, labelledName] using htight
  rw [step_statement hnote htight, StateStatement.read_openState h]
  rfl

theorem step_closeState (hnote : r.inNote = false) : r.step "\x7d" = { r with depth := r.depth - 1 } :=
  step_statement hnote (by decide)

/-- Behind a composite state a reader is where it is behind a state without a body. -/
theorem agrees_composite (hnote : r.inNote = false) (h : isPlainName name = true)
    (hbody : (r.step (stateLine name none ++ " \x7b")).IsBody body) :
    (r.step (stateLine name none)).Agrees
      ((body.foldl step (r.step (stateLine name none ++ " \x7b"))).step "\x7d") := by
  rw [step_openState hnote h] at hbody ⊢
  rw [step_plainState hnote h, step_closeState hbody.closed]
  have hwithin : ∀ ls, ls <+: body → 0 < (ls.foldl step { r with
      diagram := r.diagram.declare name none, depth := r.depth + 1 }).depth := fun ls hls =>
    (Nat.succ_pos r.depth).trans_le (hbody.level ls hls)
  refine ⟨?_, hnote.trans hbody.closed.symm, run_within hwithin⟩
  show r.depth = _ - 1
  rw [hbody.depth, Nat.add_sub_cancel]

/-- Of the transitions those of the body make the difference. -/
theorem transitions_composite (hnote : r.inNote = false) (h : isPlainName name = true)
    (hbody : (r.step (stateLine name none ++ " \x7b")).IsBody body) :
    ((body.foldl step (r.step (stateLine name none ++ " \x7b"))).step "\x7d").diagram.transitions =
      (r.step (stateLine name none)).diagram.transitions ++ (StateDiagram.ofLines body).transitions := by
  rw [step_openState hnote h] at hbody ⊢
  rw [step_closeState hbody.closed, step_plainState hnote h]
  exact run_transitions (r := ⟨r.diagram.declare name none, r.depth + 1, r.inNote⟩) hnote body

end StateReader

/-- A composite state and a state without a body leave the same initial state and the same final states, and of the
transitions those of the body make the difference. -/
theorem StateDiagram.read_composite {name : Text} {before body after : List Text} (hname : isPlainName name = true)
    (hlines : ∀ l ∈ before ++ body ++ after, '\n' ∉ l)
    (hbefore : (before.foldl StateReader.step .start).inNote = false)
    (hbody : ((before ++ [("state " ++ name ++ " \x7b" : Text)]).foldl StateReader.step .start).IsBody body) :
    let whole := read (join "\n"
      (before ++ ("state " ++ name ++ " \x7b" : Text) :: (body ++ ("\x7d" : Text) :: after)))
    let folded := read (join "\n" (before ++ ("state " ++ name : Text) :: after))
    folded.SameEnds whole ∧
      whole.transitions = (read (join "\n" before)).transitions ++ (read (join "\n" body)).transitions ++
        (read (join "\n" after)).transitions ∧
      folded.transitions = (read (join "\n" before)).transitions ++ (read (join "\n" after)).transitions := by
  intro whole folded
  simp only [List.forall_mem_append] at hlines
  obtain ⟨⟨hlines, hlines'⟩, hlines''⟩ := hlines
  have hfeed : '\n' ∉ name := not_mem_of_isPlainName hname (by decide)
  have hopenLine : '\n' ∉ ("state " ++ name ++ " \x7b" : Text) := by simp [hfeed]
  have hplainLine : '\n' ∉ ("state " ++ name : Text) := by simp [hfeed]
  rw [List.foldl_append, List.foldl_cons, List.foldl_nil] at hbody
  -- the readers in front of the lines that follow
  let reader := before.foldl StateReader.step .start
  let plain := reader.step ("state " ++ name)
  let closed := (body.foldl StateReader.step (reader.step ("state " ++ name ++ " \x7b"))).step "\x7d"
  have hwhole : whole = (after.foldl StateReader.step closed).diagram := by
    have hjoin := read_join (before ++ ("state " ++ name ++ " \x7b" : Text) :: (body ++ ("\x7d" : Text) :: after))
    simp only [List.forall_mem_append, List.forall_mem_cons] at hjoin
    refine (hjoin ⟨hlines, hopenLine, hlines', by decide, hlines''⟩).trans ?_
    rw [ofLines, List.foldl_append, List.foldl_cons, List.foldl_append, List.foldl_cons]
  have hfolded : folded = (after.foldl StateReader.step plain).diagram := by
    have hjoin := read_join (before ++ ("state " ++ name : Text) :: after)
    simp only [List.forall_mem_append, List.forall_mem_cons] at hjoin
    refine (hjoin ⟨hlines, hplainLine, hlines''⟩).trans ?_
    rw [ofLines, List.foldl_append, List.foldl_cons]
  have hagrees : plain.Agrees closed := StateReader.agrees_composite hbefore hname hbody
  have hbraces : closed.diagram.transitions = plain.diagram.transitions ++ (ofLines body).transitions :=
    StateReader.transitions_composite hbefore hname hbody
  have hplain : plain = { reader with diagram := reader.diagram.declare name none } :=
    StateReader.step_plainState hbefore hname
  have hnote : plain.inNote = false := by rw [hplain]; exact hbefore
  have htransitions : plain.diagram.transitions = (ofLines before).transitions := by rw [hplain]; rfl
  rw [hwhole, hfolded, read_join before hlines, read_join body hlines', read_join after hlines'', ← htransitions,
    ← hbraces]
  exact ⟨(hagrees.run after).ends, StateReader.run_transitions (hagrees.inNote.symm.trans hnote) after,
    StateReader.run_transitions hnote after⟩

/-- Two composite states, one in the other, each with an entry of its own. -/
theorem StateDiagram.read_composite_nested :
    let body : List Text :=
      ["  [*] --> In", "  state Deep \x7b", "    [*] --> D", "    D --> [*]", "  \x7d", "  In --> Deep : go"]
    let whole := read (join "\n" (["[*] --> A".toList, "A --> Outer".toList] ++
      ("state " ++ "Outer" ++ " \x7b" : Text) :: (body ++ ("\x7d" : Text) :: ["Outer --> [*]".toList])))
    whole.initial = some ("A" : Text) ∧ whole.finals = [("Outer" : Text)] ∧
      whole.transitions = [⟨"A", "Outer", none⟩, ⟨"In", "Deep", some "go"⟩] := by
  intro body whole
  obtain ⟨hends, htransitions, -⟩ := @StateDiagram.read_composite "Outer" ["[*] --> A", "A --> Outer"] body
    ["Outer --> [*]"] (by decide) (by decide +kernel) (by decide +kernel) (by decide +kernel)
  refine ⟨hends.initial.symm.trans (by decide +kernel), hends.finals.symm.trans (by decide +kernel), ?_⟩
  exact htransitions.trans (by decide +kernel)

end DiagramProse
