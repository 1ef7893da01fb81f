import DiagramProse.ActivityDiagram.Reading

/-!
The numbers of lines are for remarks only. A reader without its line numbers goes where the reader with them
goes (`FlowReader.unnumbered_step`), so lines put the same elements into a diagram, and give rise to the same
remarks, wherever in a source they stand (`FlowReader.elements_finish_run`).
-/

namespace DiagramProse

open Text

def BlockEntry.unnumbered (e : BlockEntry) : BlockEntry := { e with line := 0 }

def OpenActivity.unnumbered (a : OpenActivity) : OpenActivity := { a with line := 0 }

theorem findBlock?_unnumbered (kind : BlockKind) (entries : List BlockEntry) :
    findBlock? kind (entries.map .unnumbered) =
      (findBlock? kind entries).map fun (within, found, around) =>
        (within.map .unnumbered, found, around.map .unnumbered) := by
  induction entries with
  | nil => rfl
  | cons e entries ih =>
    have hkind : e.unnumbered.block.kind = e.block.kind := rfl
    rw [List.map_cons, findBlock?, findBlock?, ih, hkind]
    split
    · rfl
    · simp [Function.comp_def]

namespace FlowReader

/-- The reader with all line numbers forgotten. -/
def unnumbered (r : FlowReader) : FlowReader where
  elements := r.elements
  blocks := r.blocks.map .unnumbered
  diagnostics := r.diagnostics.map fun d => { d with line := 0 }
  pending := r.pending.map .unnumbered
  inNote := r.inNote

variable (r : FlowReader) (line : Nat)

/-! ## Elements and blocks -/

theorem unnumbered_add (e : FlowElement) : (r.add e).unnumbered = r.unnumbered.add e := by
  unfold add
  cases hb : r.blocks with
  | nil => simp [unnumbered, hb]
  | cons top rest => simp [unnumbered, hb, BlockEntry.unnumbered]

theorem unnumbered_report (problem : FlowProblem) :
    (r.report line problem).unnumbered = r.unnumbered.report 0 problem := by
  simp [report, unnumbered]

theorem close_unnumbered (kind : BlockKind) (keyword : Text) :
    r.unnumbered.close kind 0 keyword =
      ((r.close kind line keyword).1.unnumbered, (r.close kind line keyword).2) := by
  unfold close
  have hblocks : r.unnumbered.blocks = r.blocks.map .unnumbered := rfl
  rw [hblocks, findBlock?_unnumbered]
  cases findBlock? kind r.blocks with
  | none =>
    rw [Option.map_none]
    exact congrArg (·, none) (unnumbered_report r line (.unmatched keyword)).symm
  | some split => simp [unnumbered, BlockEntry.unnumbered, Function.comp_def]

theorem unnumbered_closeDecision (r : FlowReader) (line : Nat) :
    (r.closeDecision line).unnumbered = r.unnumbered.closeDecision 0 := by
  rcases hc : r.close .decision line "endif" with ⟨r', found⟩
  have hclose := r.close_unnumbered line .decision "endif"
  rw [hc] at hclose
  rw [closeDecision_of_close hc, closeDecision_of_close hclose]
  rcases found with _ | b
  · rfl
  · cases b with
    | decision condition yes no inElse chained =>
      cases chained with
      | true =>
        -- the decision around it ends as well
        have hlt : r'.blocks.length < r.blocks.length := length_blocks_close hc
        show ((r'.add (.decision condition yes no)).closeDecision line).unnumbered = _
        rw [unnumbered_closeDecision, unnumbered_add]
        rfl
      | false => exact unnumbered_add r' (.decision condition yes no)
    | _ => rfl
termination_by r.blocks.length

theorem enterElse?_unnumbered : r.unnumbered.enterElse? = r.enterElse?.map unnumbered := by
  unfold enterElse?
  rcases hb : r.blocks with _ | ⟨⟨block, line⟩, rest⟩
  · simp [unnumbered, hb]
  · cases block <;> simp [unnumbered, hb, BlockEntry.unnumbered]

theorem nextBranch?_unnumbered : r.unnumbered.nextBranch? = r.nextBranch?.map unnumbered := by
  unfold nextBranch?
  rcases hb : r.blocks with _ | ⟨⟨block, line⟩, rest⟩
  · simp [unnumbered, hb]
  · cases block <;> simp [unnumbered, hb, BlockEntry.unnumbered]

theorem unnumbered_endWhile (exit : Option Text) :
    (r.endWhile line exit).unnumbered = r.unnumbered.endWhile 0 exit := by
  unfold endWhile
  rw [close_unnumbered r line]
  rcases r.close .whileLoop line "endwhile" with ⟨r', _ | b⟩
  · rfl
  · cases b with
    | whileLoop => exact unnumbered_add ..
    | _ => rfl

theorem unnumbered_endRepeat (condition : Text) :
    (r.endRepeat line condition).unnumbered = r.unnumbered.endRepeat 0 condition := by
  unfold endRepeat
  rw [close_unnumbered r line]
  rcases r.close .repeatLoop line "repeat while" with ⟨r', _ | b⟩
  · rfl
  · cases b with
    | repeatLoop => exact unnumbered_add ..
    | _ => rfl

theorem unnumbered_endFork (keyword : Text) :
    (r.endFork line keyword).unnumbered = r.unnumbered.endFork 0 keyword := by
  unfold endFork
  rw [close_unnumbered r line]
  rcases r.close .fork line keyword with ⟨r', _ | b⟩
  · rfl
  · cases b with
    | fork => exact unnumbered_add ..
    | _ => rfl

theorem unnumbered_endPartition (keyword : Text) :
    (r.endPartition line keyword).unnumbered = r.unnumbered.endPartition 0 keyword := by
  unfold endPartition
  rw [close_unnumbered r line]
  rcases r.close .partition line keyword with ⟨r', _ | b⟩
  · rfl
  · cases b with
    | partition => exact unnumbered_add ..
    | _ => rfl

/-! ## Lines -/

theorem unnumbered_apply (s : FlowStatement) : (r.apply line s).unnumbered = r.unnumbered.apply 0 s := by
  cases s with
  | activity | start | stop | finish => exact unnumbered_add ..
  | elseIf condition =>
    simp only [FlowReader.apply, enterElse?_unnumbered]
    cases r.enterElse? with
    | none => exact unnumbered_report ..
    | some r' => rfl
  | elseBranch =>
    simp only [FlowReader.apply, enterElse?_unnumbered]
    cases r.enterElse? with
    | none => exact unnumbered_report ..
    | some r' => rfl
  | endIf => exact unnumbered_closeDecision r line
  | endWhile => exact unnumbered_endWhile ..
  | openRepeat first =>
    cases first with
    | none => rfl
    | some first => exact unnumbered_add ..
  | endRepeat => exact unnumbered_endRepeat ..
  | forkAgain keyword =>
    simp only [FlowReader.apply, nextBranch?_unnumbered]
    cases r.nextBranch? with
    | none => exact unnumbered_report ..
    | some r' => rfl
  | endFork => exact unnumbered_endFork ..
  | endPartition => exact unnumbered_endPartition ..
  | skip | note | openActivity | openIf | openWhile | openFork | openPartition => rfl

theorem unnumbered_step (number : Nat) (raw : Text) :
    (r.step number raw).unnumbered = r.unnumbered.step 0 raw := by
  obtain ⟨elements, blocks, diagnostics, pending, inNote⟩ := r
  cases pending with
  | none =>
    cases inNote with
    | true => rfl
    | false => exact unnumbered_apply _ number (.read raw.trim)
  | some a =>
    show (continueActivity _ a raw.trim).unnumbered = continueActivity _ a.unnumbered raw.trim
    unfold continueActivity
    cases dropSuffix? raw.trim [';'] with
    | some last => exact unnumbered_add ..
    | none => rfl

variable {r} {r' : FlowReader}

/-- Lines do the same behind readers that differ in line numbers only, whatever their own numbers are. -/
theorem unnumbered_run (h : r.unnumbered = r'.unnumbered) (number number' : Nat) (lines : List Text) :
    (r.run number lines).unnumbered = (r'.run number' lines).unnumbered := by
  induction lines generalizing number number' r r' with
  | nil => exact h
  | cons line lines ih =>
    refine ih ?_ (number + 1) (number' + 1)
    rw [unnumbered_step, unnumbered_step, h]

/-- The same elements, and remarks on the same problems, on whatever lines. -/
theorem finish_eq_of_unnumbered (h : r.unnumbered = r'.unnumbered) :
    r.finish.elements = r'.finish.elements ∧
      r.finish.diagnostics.map Diagnostic.problem = r'.finish.diagnostics.map Diagnostic.problem := by
  have hproblems : ∀ r : FlowReader, r.finish.diagnostics.map Diagnostic.problem =
      r.unnumbered.finish.diagnostics.map Diagnostic.problem := by
    intro r
    simp only [finish, unnumbered, List.map_append, List.map_map, Option.toList_map]
    rfl
  refine ⟨show r.unnumbered.elements = r'.unnumbered.elements from congrArg _ h, ?_⟩
  rw [hproblems r, hproblems r', h]

end FlowReader

end DiagramProse
