import DiagramProse.Proofs.ClassDiagram.Changes
import DiagramProse.Proofs.ClassDiagram.Lines
import DiagramProse.Proofs.Text.AcrossLines

/-!
Two readers of the same lines. One of them may count the lines from another number on and may stand within groups that
the other knows nothing of: as long as no brace closes what the other did not open, their diagrams differ in the lines
of remarks at most (`ClassReader.Follows.run`). Groups around a diagram and lines that stand for others are compared
in this way.
-/

namespace DiagramProse

open Text

/-! ## Diagrams up to the lines of remarks -/

/-- Two diagrams that hold the same, and have the same remarks, perhaps on other lines. -/
structure ClassDiagram.Alike (d d' : ClassDiagram) : Prop where
  classes : d.classes = d'.classes
  relations : d.relations = d'.relations
  notes : d.notes = d'.notes
  problems : d.diagnostics.map Diagnostic.problem = d'.diagnostics.map Diagnostic.problem

namespace ClassDiagram.Alike

variable {d d' : ClassDiagram}

theorem refl (d : ClassDiagram) : d.Alike d := ⟨rfl, rfl, rfl, rfl⟩

/-- Without remarks there is no difference. -/
theorem eq_of_quiet (h : d.Alike d') (hd : d.diagnostics = []) : d' = d := by
  have hd' : d'.diagnostics = [] := by
    have hproblems := h.problems
    rw [hd, List.map_nil] at hproblems
    exact List.map_eq_nil_iff.1 hproblems.symm
  obtain ⟨classes, relations, notes, diagnostics⟩ := d
  obtain ⟨classes', relations', notes', diagnostics'⟩ := d'
  obtain ⟨rfl, rfl, rfl, -⟩ := h
  obtain rfl : diagnostics = [] := hd
  obtain rfl : diagnostics' = [] := hd'
  rfl

theorem alterClass (h : d.Alike d') (name : Text) (f : Classifier → Classifier) :
    (d.alterClass name f).Alike (d'.alterClass name f) :=
  ⟨congrArg (Classifier.alter name f) h.classes, h.relations, h.notes, h.problems⟩

theorem report (h : d.Alike d') (line line' : Nat) (problem : ClassProblem) :
    (d.report line problem).Alike (d'.report line' problem) := by
  refine ⟨h.classes, h.relations, h.notes, ?_⟩
  simp only [ClassDiagram.report, List.map_append, h.problems, List.map_cons, List.map_nil]

theorem change (h : d.Alike d') (c : ClassChange) : (d.change c).Alike (d'.change c) := by
  cases c with
  | stereotype name s => exact h.alterClass name _
  | member name m => exact h.alterClass name _
  | relation r =>
    have hmentioned := (h.alterClass r.source id).alterClass r.target id
    exact ⟨hmentioned.classes, congrArg (· ++ [r]) hmentioned.relations, hmentioned.notes, hmentioned.problems⟩
  | note n => exact ⟨h.classes, h.relations, congrArg (· ++ [n]) h.notes, h.problems⟩
  | remark line problem => exact h.report line line problem

theorem foldl_change (h : d.Alike d') (cs : List ClassChange) :
    (cs.foldl ClassDiagram.change d).Alike (cs.foldl ClassDiagram.change d') := by
  induction cs generalizing d d' with
  | nil => exact h
  | cons c cs ih => exact ih (h.change c)

end ClassDiagram.Alike

/-! ## Remarks -/

namespace ClassDiagram

/-- Remarks stay. -/
theorem diagnostics_change (d : ClassDiagram) (c : ClassChange) : d.diagnostics <+: (d.change c).diagnostics := by
  cases c with
  | remark line problem => exact List.prefix_append _ _
  | _ => exact List.prefix_refl _

theorem diagnostics_foldl_change (cs : List ClassChange) (d : ClassDiagram) :
    d.diagnostics <+: (cs.foldl change d).diagnostics := by
  induction cs generalizing d with
  | nil => exact List.prefix_refl _
  | cons c cs ih => exact (diagnostics_change d c).trans (ih _)

end ClassDiagram

namespace ClassReader

variable {dialect : Dialect} {r r' : ClassReader} {groups : List Text} {number number' : Nat}

/-- Where a run ends without remarks, there is none before its end. -/
theorem quiet_of_run {ls : List Text} (h : (r.run dialect number ls).diagram.diagnostics = []) :
    r.diagram.diagnostics = [] := by
  rw [diagram_run] at h
  exact List.prefix_nil.1 (h ▸ ClassDiagram.diagnostics_foldl_change _ r.diagram)

/-- Remarks at the end are on the open note and on the open blocks, and nothing else is new. -/
theorem finish_diagnostics (r : ClassReader) (count : Nat) :
    r.finish count = { r.diagram with
      diagnostics := r.diagram.diagnostics ++ r.note.toList.map (fun n => ⟨n.line, .openNote n.className⟩) ++
        r.blocks.map fun block => ⟨count, block.problem⟩ } := by
  have hblocks : ∀ (blocks : List ClassBlock) (d : ClassDiagram),
      blocks.foldl (fun d block => d.report count block.problem) d =
        { d with diagnostics := d.diagnostics ++ blocks.map fun block => ⟨count, block.problem⟩ } := by
    intro blocks
    induction blocks with
    | nil => intro d; rw [List.map_nil, List.append_nil]; rfl
    | cons block blocks ih =>
      intro d
      rw [List.foldl_cons, ih, ClassDiagram.report, List.append_assoc]
      rfl
  rw [finish, hblocks]
  cases r.note with
  | none => rw [Option.toList_none, List.map_nil, List.append_nil]
  | some n => rfl

/-- A diagram without remarks was read by a reader that is in no block and in no note at the end. -/
theorem eq_of_quiet_finish {count : Nat} (h : (r.finish count).diagnostics = []) :
    r = ⟨r.finish count, [], none⟩ := by
  have hfinish := r.finish_diagnostics count
  rw [hfinish, List.append_eq_nil_iff, List.append_eq_nil_iff, List.map_eq_nil_iff, List.map_eq_nil_iff] at h
  obtain ⟨d, blocks, note⟩ := r
  obtain ⟨⟨-, hnote⟩, hblocks⟩ := h
  obtain rfl : blocks = [] := hblocks
  obtain rfl : note = none := Option.toList_eq_nil_iff.1 hnote
  rfl

/-! ## Two readers -/

/-- The second reader is where the first one is, and within some groups besides. -/
structure Follows (groups : List Text) (r r' : ClassReader) : Prop where
  diagram : r.diagram.Alike r'.diagram
  blocks : r'.blocks = r.blocks ++ groups.map .group
  note : r.note.map (fun n => (n.className, n.text)) = r'.note.map fun n => (n.className, n.text)

namespace Follows

theorem refl (r : ClassReader) : Follows [] r r := ⟨.refl _, (List.append_nil _).symm, rfl⟩

theorem noteLine (h : r.Follows groups r') {n n' : OpenClassNote} (hname : n.className = n'.className)
    (htext : n.text = n'.text) (line : Text) : (r.noteLine n line).Follows groups (r'.noteLine n' line) := by
  unfold ClassReader.noteLine
  rw [hname, htext]
  split
  · exact ⟨h.diagram.change (.note ⟨n'.className, join [' '] n'.text⟩), h.blocks, rfl⟩
  · split
    · exact h
    · exact ⟨h.diagram, h.blocks, rfl⟩

theorem apply (h : r.Follows groups r') (s : ClassStatement) :
    (r.apply dialect number s).Follows groups (r'.apply dialect number' s) := by
  have hdiagram : (r.apply dialect number s).diagram.Alike (r'.apply dialect number' s).diagram := by
    rw [diagram_apply, diagram_apply]
    exact h.diagram.foldl_change _
  cases s with
  | openNote name => exact ⟨hdiagram, h.blocks, rfl⟩
  | openGroup name => exact ⟨hdiagram, congrArg (ClassBlock.group name :: ·) h.blocks, h.note⟩
  | declaration d =>
    refine ⟨hdiagram, ?_, h.note⟩
    simp only [ClassReader.apply, h.blocks]
    split <;> rfl
  | note | marking | relation | member | other => exact ⟨hdiagram, h.blocks, h.note⟩

/-- A brace closes the same block for both, unless the first reader is in none. -/
theorem closeBlock (h : r.Follows groups r')
    (hown : groups = [] ∨ (r.closeBlock number).diagram.diagnostics = []) :
    (r.closeBlock number).Follows groups (r'.closeBlock number') := by
  obtain ⟨d, blocks, note⟩ := r
  obtain ⟨d', blocks', note'⟩ := r'
  obtain ⟨hdiagram, rfl, hnote⟩ := h
  cases blocks with
  | cons block blocks => exact ⟨hdiagram, rfl, hnote⟩
  | nil =>
    rcases hown with rfl | hquiet
    · exact ⟨hdiagram.report number number' .strayBrace, rfl, hnote⟩
    · simp [ClassReader.closeBlock, ClassDiagram.report] at hquiet

theorem step (h : r.Follows groups r') (raw : Text)
    (hown : groups = [] ∨ (r.step dialect number raw).diagram.diagnostics = []) :
    (r.step dialect number raw).Follows groups (r'.step dialect number' raw) := by
  obtain ⟨d, blocks, note⟩ := r
  obtain ⟨d', blocks', note'⟩ := r'
  have hnote := h.note
  cases note with
  | some n =>
    cases note' with
    | none => cases hnote
    | some n' =>
      obtain ⟨hname, htext⟩ := Prod.mk.inj (Option.some.inj hnote)
      exact h.noteLine hname htext raw.trim
  | none =>
    obtain rfl : note' = none := by
      cases note' with
      | none => rfl
      | some n' => cases hnote
    have hblocks := h.blocks
    revert hown
    unfold ClassReader.step
    dsimp only at hblocks ⊢
    split
    · exact fun _ => h
    · split
      · exact fun hown => h.closeBlock hown
      · -- groups make no difference to what a line is, and a body is the innermost block for both
        intro _
        rcases blocks with _ | ⟨name | name, blocks⟩
        · obtain rfl : blocks' = groups.map .group := hblocks
          cases groups <;> exact h.apply _
        · subst hblocks
          dsimp only [List.cons_append]
          rw [bodyLine_eq, bodyLine_eq]
          exact ⟨h.diagram.change _, rfl, rfl⟩
        · subst hblocks
          exact h.apply _

/-- Lines keep two readers together, unless they have a brace that closes what the first reader did not open. -/
theorem run (h : r.Follows groups r') (ls : List Text)
    (hown : groups = [] ∨ (r.run dialect number ls).diagram.diagnostics = []) :
    (r.run dialect number ls).Follows groups (r'.run dialect number' ls) := by
  induction ls generalizing number number' r r' with
  | nil => exact h
  | cons raw ls ih => exact ih (h.step raw (hown.imp_right quiet_of_run)) hown

theorem finish (h : r.Follows [] r') (count count' : Nat) : (r.finish count).Alike (r'.finish count') := by
  have hblocks : r'.blocks = r.blocks := h.blocks.trans (List.append_nil _)
  have hnote : r.note.map OpenClassNote.className = r'.note.map OpenClassNote.className := by
    have hnote := congrArg (Option.map Prod.fst) h.note
    rwa [Option.map_map, Option.map_map] at hnote
  have hopen : ∀ r : ClassReader, (r.note.toList.map fun n =>
      (⟨n.line, .openNote n.className⟩ : Diagnostic ClassProblem)).map Diagnostic.problem =
        ((r.note.map OpenClassNote.className).map ClassProblem.openNote).toList := fun r => by
    cases r.note <;> rfl
  rw [finish_diagnostics, finish_diagnostics]
  refine ⟨h.diagram.classes, h.diagram.relations, h.diagram.notes, ?_⟩
  simp only [List.map_append, h.diagram.problems, hopen, hnote, hblocks, List.map_map]
  rfl

/-- Behind a reader that is in no block and has no remarks there is but one place. -/
theorem eq_of_quiet {d : ClassDiagram} (h : Follows groups ⟨d, [], none⟩ r') (hd : d.diagnostics = []) :
    r' = ⟨d, groups.map .group, none⟩ := by
  obtain ⟨d', blocks', note'⟩ := r'
  obtain ⟨hdiagram, hblocks, hnote⟩ := h
  obtain rfl : d' = d := hdiagram.eq_of_quiet hd
  obtain rfl : blocks' = groups.map .group := hblocks
  obtain rfl : note' = none := Option.map_eq_none_iff.1 hnote.symm
  rfl

end Follows

/-! ## Sources and their lines -/

theorem run_append (ls ms : List Text) (number : Nat) (r : ClassReader) :
    r.run dialect number (ls ++ ms) = (r.run dialect number ls).run dialect (number + ls.length) ms := by
  induction ls generalizing number r with
  | nil => rfl
  | cons l ls ih => rw [List.cons_append, run, run, ih, List.length_cons, Nat.add_assoc, Nat.add_comm 1]

theorem step_congr {raw raw' : Text} (h : trim raw = trim raw') :
    r.step dialect number raw = r.step dialect number raw' := by
  rw [step, step, h]

theorem step_blank (r : ClassReader) (dialect : Dialect) (number : Nat) : r.step dialect number [] = r := by
  obtain ⟨d, blocks, note⟩ := r
  cases note <;> rfl

/-- Blanks at the ends of lines make no difference. -/
theorem run_map {f : Text → Text} (hf : ∀ p, trim (f p) = trim p) (r : ClassReader) (dialect : Dialect)
    (number : Nat) (ps : List Text) : r.run dialect number (ps.map f) = r.run dialect number ps := by
  induction ps generalizing r number with
  | nil => rfl
  | cons p ps ih => rw [List.map_cons, run, run, ih, step_congr (hf p)]

/-- The lines of a source are read like the pieces between its line feeds. -/
theorem run_linesOfPieces (r : ClassReader) (dialect : Dialect) (number : Nat) (ps : List Text) :
    r.run dialect number (linesOfPieces ps) = r.run dialect number ps := by
  rw [← run_map trim_trim r dialect number ps, ← run_map trim_trim r dialect number (linesOfPieces ps)]
  rcases trimmed_linesOfPieces ps with h | h
  · rw [h]
  · rw [h, run_append, run, run, step_blank]

end ClassReader

/-- A source is read like the lines that it was joined from. -/
theorem ClassDiagram.read_join (dialect : Dialect) {ls : List Text} (h : ∀ l ∈ ls, '\n' ∉ l) :
    read dialect (join "\n" ls) =
      (ClassReader.start.run dialect 1 ls).finish (Text.lines (join "\n" ls)).length := by
  have hlines : (join "\n" ls : Text).lines = linesOfPieces ls := lines_join_eq h
  rw [read, ofLines, hlines, ClassReader.run_linesOfPieces]

end DiagramProse
