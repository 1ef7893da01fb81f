import DiagramProse.Proofs.ActivityDiagram.Conservation

/-!
Reading an activity diagram is to make one change after the other to a reader that holds nothing at first
(`FlowReader.run_made`). The log of a source (`ActivityDiagram.log`) says which line makes which change; of a
change that ends or drops a block it says which block that is, and a change is only made where that block is
the innermost one (`FlowChange.Fits`).

What a closing line does to the blocks is said here once, for all five kinds of them: those within the
innermost block of its kind are dropped one by one, and then that block becomes an element.
-/

namespace DiagramProse

open Text

/-- What a block becomes when it ends: an element with all that was read in the block. The line that ends a
loop tells its exit or its condition. -/
def OpenBlock.element (exit : Option Text) (condition : Text) : OpenBlock → FlowElement
  | partition name es => .partition name es
  | decision c yes no _ _ => .decision c yes no
  | whileLoop c value es => .whileLoop c value exit es
  | repeatLoop es => .repeatLoop condition es
  | fork bs current => .fork (bs ++ [current])

/-- One change to a reader. -/
inductive FlowChange where
  | added (e : FlowElement)
  | opened (entry : BlockEntry)
  | ended (entry : BlockEntry) (e : FlowElement)
  | dropped (entry : BlockEntry) (keyword : Text)
  | entersElse
  | entersBranch
  | remark (line : Nat) (problem : FlowProblem)
  | waits (pending : Option OpenActivity)
  | note (isOpen : Bool)

/-- Whether a remark is about a block that is never closed. -/
def FlowProblem.isNeverClosed : FlowProblem → Bool
  | closedBefore _ _ | openBlock _ => true
  | _ => false

namespace FlowReader

/-- Makes a change. A block that ends is taken away, and its element goes into what is innermost then. -/
def change (r : FlowReader) : FlowChange → FlowReader
  | .added e => r.add e
  | .opened entry => { r with blocks := entry :: r.blocks }
  | .ended _ e => { r with blocks := r.blocks.tail }.add e
  | .dropped entry keyword =>
    { r with blocks := r.blocks.tail }.report entry.line (.closedBefore entry.block.blockName keyword)
  | .entersElse => r.enterElse?.getD r
  | .entersBranch => r.nextBranch?.getD r
  | .remark line problem => r.report line problem
  | .waits pending => { r with pending }
  | .note isOpen => { r with inNote := isOpen }

end FlowReader

/-- What has to be so when the line with the given number makes a change: a block that ends or is dropped is
the innermost one and was opened before that line, what a block becomes holds all of it, and every other
change is about that line itself. -/
def FlowChange.Fits (number : Nat) (r : FlowReader) : FlowChange → Prop
  | opened entry => entry.line = number
  | ended entry e =>
    r.blocks.head? = some entry ∧ entry.line < number ∧ ∃ exit condition, e = entry.block.element exit condition
  | dropped entry _ => r.blocks.head? = some entry ∧ entry.line < number
  | remark line problem => line = number ∧ problem.isNeverClosed = false
  | waits pending => ∀ a ∈ pending, a.line = number ∨ ∃ b ∈ r.pending, a.line = b.line
  | added _ | entersElse | entersBranch | note _ => True

/-- The changes of a log, each of them with the number of its line, lead from one reader to another. -/
inductive FlowReader.Made : FlowReader → List (Nat × FlowChange) → FlowReader → Prop where
  | nil {r : FlowReader} : Made r [] r
  | cons {r r' : FlowReader} {number : Nat} {c : FlowChange} {log : List (Nat × FlowChange)}
      (fits : c.Fits number r) (rest : Made (r.change c) log r') : Made r ((number, c) :: log) r'

namespace FlowReader

/-! ## Changes that lines make -/

def isWithin (kind : BlockKind) (entry : BlockEntry) : Bool := entry.block.kind ≠ kind

/-- What ending the innermost block of a kind changes. -/
def endChanges (r : FlowReader) (kind : BlockKind) (line : Nat) (keyword : Text) (exit : Option Text)
    (condition : Text) : List FlowChange :=
  match r.blocks.dropWhile (isWithin kind) with
  | [] => [.remark line (.unmatched keyword)]
  | entry :: _ =>
    (r.blocks.takeWhile (isWithin kind)).map (.dropped · keyword) ++
      [.ended entry (entry.block.element exit condition)]

/-- What the end of a decision changes: it ends the decisions with it that it goes on from. -/
def decisionChanges (r : FlowReader) (line : Nat) : List FlowChange :=
  let ending := r.endChanges .decision line "endif" none []
  match _h : r.close .decision line "endif" with
  | (r', some (.decision condition yes no _ chained)) =>
    if chained then ending ++ decisionChanges (r'.add (.decision condition yes no)) line else ending
  | _ => ending
termination_by r.blocks.length
decreasing_by simpa using length_blocks_close _h

/-- What a statement changes. -/
def statementChanges (r : FlowReader) (line : Nat) : FlowStatement → List FlowChange
  | .skip => []
  | .note isOpen => [.note isOpen]
  | .activity text => [.added (.activity (cleanActivity text))]
  | .openActivity first => [.waits (some ⟨[first], line⟩)]
  | .start => [.added .start]
  | .stop => [.added .stop]
  | .finish => [.added .finish]
  | .openIf condition => [.opened ⟨.decision condition [] [] false false, line⟩]
  | .elseIf condition =>
    if r.enterElse?.isSome then [.entersElse, .opened ⟨.decision condition [] [] false true, line⟩]
    else [.remark line .strayElseIf]
  | .elseBranch => if r.enterElse?.isSome then [.entersElse] else [.remark line .strayElse]
  | .endIf => r.decisionChanges line
  | .openWhile condition value => [.opened ⟨.whileLoop condition value [], line⟩]
  | .endWhile exit => r.endChanges .whileLoop line "endwhile" exit []
  | .openRepeat first =>
    .opened ⟨.repeatLoop [], line⟩ :: first.toList.map fun text => .added (.activity (cleanActivity text))
  | .endRepeat condition => r.endChanges .repeatLoop line "repeat while" none condition
  | .openFork => [.opened ⟨.fork [] [], line⟩]
  | .forkAgain keyword =>
    if r.nextBranch?.isSome then [.entersBranch] else [.remark line (.strayBranch keyword)]
  | .endFork keyword => r.endChanges .fork line keyword none []
  | .openPartition name => [.opened ⟨.partition name [], line⟩]
  | .endPartition keyword => r.endChanges .partition line keyword none []

/-- What a line of an activity over several lines changes. -/
def activityChanges (a : OpenActivity) (line : Text) : List FlowChange :=
  match dropSuffix? line [';'] with
  | some last => [.waits none, .added (.activity (cleanActivity (join [' '] (a.parts ++ [last]))))]
  | none => [.waits (some { a with parts := a.parts ++ [line] })]

/-- What a line changes. -/
def changes (r : FlowReader) (number : Nat) (raw : Text) : List FlowChange :=
  let line := raw.trim
  match r.pending with
  | some a => activityChanges a line
  | none =>
    if r.inNote then [.note !(line == "end note" || line == "endnote")]
    else r.statementChanges number (.read line)

/-- What lines change, the first of which has the given number. -/
def log : (number : Nat) → List Text → FlowReader → List (Nat × FlowChange)
  | _, [], _ => []
  | number, line :: rest, r =>
    (r.changes number line).map (Prod.mk number) ++ log (number + 1) rest (r.step number line)

end FlowReader

/-- What the lines of a source change. -/
def ActivityDiagram.log (source : Text) : List (Nat × FlowChange) := FlowReader.start.log 1 source.lines

/-! ## Reading makes these changes -/

namespace FlowReader

variable {r r' r'' : FlowReader} {number : Nat} {entries : List BlockEntry}

theorem Made.append {log log' : List (Nat × FlowChange)} (h : Made r log r') (h' : Made r' log' r'') :
    Made r (log ++ log') r'' := by
  induction h with
  | nil => exact h'
  | cons fits _ ih => exact .cons fits (ih h')

theorem Made.single {c : FlowChange} (fits : c.Fits number r) : Made r [(number, c)] (r.change c) :=
  .cons fits .nil

/-- The blocks that are open at a line were opened on lines before it. -/
def OpenedBefore (number : Nat) (entries : List BlockEntry) : Prop := ∀ entry ∈ entries, entry.line < number

theorem openedBefore_start (number : Nat) : OpenedBefore number FlowReader.start.blocks :=
  fun _ hentry => absurd hentry List.not_mem_nil

theorem findBlock?_eq (kind : BlockKind) (entries : List BlockEntry) :
    findBlock? kind entries =
      match entries.dropWhile (isWithin kind) with
      | [] => none
      | entry :: around => some (entries.takeWhile (isWithin kind), entry.block, around) := by
  induction entries with
  | nil => rfl
  | cons e entries ih =>
    unfold findBlock?
    by_cases h : e.block.kind = kind
    · simp [isWithin, h]
    · have hw : isWithin kind e = true := by simpa [isWithin] using h
      rw [if_neg h, ih, List.dropWhile_cons_of_pos hw, List.takeWhile_cons_of_pos hw]
      cases entries.dropWhile (isWithin kind) <;> rfl

/-- Blocks are dropped from the innermost one on, each with a remark. -/
theorem dropped_made {within around : List BlockEntry} (keyword : Text) (hb : r.blocks = within ++ around)
    (hl : OpenedBefore number r.blocks) :
    Made r ((within.map (FlowChange.dropped · keyword)).map (Prod.mk number))
      { r with
        blocks := around
        diagnostics := r.diagnostics ++
          within.map fun e => ⟨e.line, .closedBefore e.block.blockName keyword⟩ } := by
  induction within generalizing r with
  | nil =>
    obtain rfl : around = r.blocks := hb.symm
    simpa using Made.nil (r := r)
  | cons e within ih =>
    have hfits : (FlowChange.dropped e keyword).Fits number r := ⟨by rw [hb]; rfl, hl e (by simp [hb])⟩
    have htail : (r.change (.dropped e keyword)).blocks = within ++ around := by
      show r.blocks.tail = _
      rw [hb]
      rfl
    have hrest := ih htail fun x hx => hl x (by rw [hb]; rw [htail] at hx; exact List.mem_cons_of_mem _ hx)
    have hdiagnostics : (r.change (.dropped e keyword)).diagnostics =
        r.diagnostics ++ [⟨e.line, .closedBefore e.block.blockName keyword⟩] := rfl
    rw [hdiagnostics, List.append_assoc] at hrest
    exact .cons hfits hrest

/-- Where a block of the kind is open, the innermost one ends. -/
theorem end_made {kind : BlockKind} {keyword : Text} {b : OpenBlock} (exit : Option Text) (condition : Text)
    (hl : OpenedBefore number r.blocks) (hc : r.close kind number keyword = (r', some b)) :
    Made r ((r.endChanges kind number keyword exit condition).map (Prod.mk number))
      (r'.add (b.element exit condition)) ∧ OpenedBefore number r'.blocks := by
  unfold close at hc
  rw [findBlock?_eq] at hc
  unfold endChanges
  have hsplit := List.takeWhile_append_dropWhile (p := isWithin kind) (l := r.blocks)
  split at hc
  · cases hc
  · next within found around hf =>
    cases hc
    split at hf
    · cases hf
    · next entry rest hd =>
      cases hf
      rw [hd] at hsplit
      have hentry : entry.line < number := hl entry (by rw [← hsplit]; simp)
      have hended : (FlowChange.ended entry (entry.block.element exit condition)).Fits number
          { r with
            blocks := entry :: around
            diagnostics := r.diagnostics ++ (r.blocks.takeWhile (isWithin kind)).map fun e =>
              ⟨e.line, .closedBefore e.block.blockName keyword⟩ } :=
        ⟨rfl, hentry, exit, condition, rfl⟩
      rw [List.map_append]
      refine ⟨(dropped_made keyword hsplit.symm hl).append (.single hended), fun x hx => hl x ?_⟩
      rw [← hsplit]
      exact List.mem_append_right _ (List.mem_cons_of_mem _ hx)

/-- Where no block of the kind is open, there is a remark. -/
theorem end_made_none {kind : BlockKind} {keyword : Text} (exit : Option Text) (condition : Text)
    (hc : r.close kind number keyword = (r', none)) :
    Made r ((r.endChanges kind number keyword exit condition).map (Prod.mk number)) r' := by
  unfold close at hc
  rw [findBlock?_eq] at hc
  unfold endChanges
  split at hc
  · next hf =>
    cases hc
    split at hf
    · exact .single ⟨rfl, rfl⟩
    · cases hf
  · cases hc

theorem kind_of_close {kind : BlockKind} {line : Nat} {keyword : Text} {b : OpenBlock}
    (hc : r.close kind line keyword = (r', some b)) : b.kind = kind := by
  unfold close at hc
  split at hc
  · cases hc
  · next hf => cases hc; exact kind_of_findBlock? hf

/-- A closing line ends a block of its kind if one is open, and then `s` is the reader with the element of that
block. -/
theorem closing_made {kind : BlockKind} {keyword : Text} {exit : Option Text} {condition : Text} {s : FlowReader}
    (hl : OpenedBefore number r.blocks) (hnone : ∀ r', r.close kind number keyword = (r', none) → s = r')
    (hsome : ∀ r' b, b.kind = kind → r.close kind number keyword = (r', some b) →
      s = r'.add (b.element exit condition)) :
    Made r ((r.endChanges kind number keyword exit condition).map (Prod.mk number)) s := by
  obtain ⟨r', found, hc⟩ : ∃ r' found, r.close kind number keyword = (r', found) := ⟨_, _, rfl⟩
  cases found with
  | none => rw [hnone r' hc]; exact end_made_none exit condition hc
  | some b => rw [hsome r' b (kind_of_close hc) hc]; exact (end_made exit condition hl hc).1

theorem endWhile_made (hl : OpenedBefore number r.blocks) (exit : Option Text) :
    Made r ((r.endChanges .whileLoop number "endwhile" exit []).map (Prod.mk number)) (r.endWhile number exit) := by
  refine closing_made hl (fun r' hc => by rw [endWhile, hc]) fun r' b hb hc => ?_
  rw [endWhile, hc]
  cases b <;> first | rfl | cases hb

theorem endRepeat_made (hl : OpenedBefore number r.blocks) (condition : Text) :
    Made r ((r.endChanges .repeatLoop number "repeat while" none condition).map (Prod.mk number))
      (r.endRepeat number condition) := by
  refine closing_made hl (fun r' hc => by rw [endRepeat, hc]) fun r' b hb hc => ?_
  rw [endRepeat, hc]
  cases b <;> first | rfl | cases hb

theorem endFork_made (hl : OpenedBefore number r.blocks) (keyword : Text) :
    Made r ((r.endChanges .fork number keyword none []).map (Prod.mk number)) (r.endFork number keyword) := by
  refine closing_made hl (fun r' hc => by rw [endFork, hc]) fun r' b hb hc => ?_
  rw [endFork, hc]
  cases b <;> first | rfl | cases hb

theorem endPartition_made (hl : OpenedBefore number r.blocks) (keyword : Text) :
    Made r ((r.endChanges .partition number keyword none []).map (Prod.mk number))
      (r.endPartition number keyword) := by
  refine closing_made hl (fun r' hc => by rw [endPartition, hc]) fun r' b hb hc => ?_
  rw [endPartition, hc]
  cases b <;> first | rfl | cases hb

/-- An element goes to the end of the diagram or into the innermost block; the same blocks stay open. -/
theorem add_eq (r : FlowReader) (e : FlowElement) : ∃ elements blocks, r.add e = { r with elements, blocks } ∧
    r.elements <+: elements ∧ blocks.map BlockEntry.line = r.blocks.map BlockEntry.line := by
  unfold add
  split
  · exact ⟨_, r.blocks, rfl, List.prefix_append _ _, rfl⟩
  · next top rest hb => exact ⟨r.elements, _, rfl, List.prefix_refl _, by rw [hb]; rfl⟩

theorem lines_add (r : FlowReader) (e : FlowElement) :
    (r.add e).blocks.map BlockEntry.line = r.blocks.map BlockEntry.line := by
  obtain ⟨elements, blocks, he, -, hlines⟩ := add_eq r e
  rw [he, ← hlines]

/-- Going on in the other branch of a block changes that block only. -/
theorem change_entersElse (r : FlowReader) : ∃ blocks, r.change .entersElse = { r with blocks } ∧
    blocks.map BlockEntry.line = r.blocks.map BlockEntry.line := by
  show ∃ blocks, r.enterElse?.getD r = { r with blocks } ∧ _
  unfold enterElse?
  split
  · next hb => exact ⟨_, rfl, by simp [hb]⟩
  · exact ⟨r.blocks, rfl, rfl⟩

theorem change_entersBranch (r : FlowReader) : ∃ blocks, r.change .entersBranch = { r with blocks } ∧
    blocks.map BlockEntry.line = r.blocks.map BlockEntry.line := by
  show ∃ blocks, r.nextBranch?.getD r = { r with blocks } ∧ _
  unfold nextBranch?
  split
  · next hb => exact ⟨_, rfl, by simp [hb]⟩
  · exact ⟨r.blocks, rfl, rfl⟩

theorem OpenedBefore.of_lines {entries' : List BlockEntry} (hl : OpenedBefore number entries)
    (h : entries'.map BlockEntry.line = entries.map BlockEntry.line) : OpenedBefore number entries' := by
  intro x hx
  obtain ⟨y, hy, hxy⟩ := List.mem_map.1 (h ▸ List.mem_map_of_mem hx)
  exact hxy ▸ hl y hy

theorem decisionChanges_of_close {line : Nat} {condition : Text} {yes no : List FlowElement}
    {inElse chained : Bool}
    (hc : r.close .decision line "endif" = (r', some (.decision condition yes no inElse chained))) :
    r.decisionChanges line =
      if chained then
        r.endChanges .decision line "endif" none [] ++ (r'.add (.decision condition yes no)).decisionChanges line
      else r.endChanges .decision line "endif" none [] := by
  rw [decisionChanges]
  split
  · next h =>
    rw [hc] at h
    cases h
    rfl
  · next hne => exact absurd hc (hne _ _ _ _ _ _)

theorem decisionChanges_of_none {line : Nat} (hc : r.close .decision line "endif" = (r', none)) :
    r.decisionChanges line = r.endChanges .decision line "endif" none [] := by
  rw [decisionChanges]
  split
  · next h =>
    rw [hc] at h
    cases h
  · rfl

theorem closeDecision_made (hl : OpenedBefore number r.blocks) :
    Made r ((r.decisionChanges number).map (Prod.mk number)) (r.closeDecision number) := by
  -- one block ends after the other, as long as each of them is chained to the next
  fun_induction closeDecision r number with
  | case1 r r' condition yes no inElse r'' hc ih =>
    obtain ⟨hmade, hl'⟩ := end_made none [] hl hc
    rw [decisionChanges_of_close hc, if_pos rfl, List.map_append]
    exact hmade.append (ih (hl'.of_lines (lines_add _ _)))
  | case2 r r' condition yes no inElse chained hc r'' hchained =>
    rw [decisionChanges_of_close hc, if_neg hchained]
    exact (end_made none [] hl hc).1
  | case3 r r' found hne hc =>
    cases found with
    | none =>
      rw [decisionChanges_of_none hc]
      exact end_made_none none [] hc
    | some b =>
      have hk := kind_of_close hc
      cases b with
      | decision c yes no inElse chained => exact absurd rfl (hne c yes no inElse chained)
      | _ => cases hk

theorem statement_made (hl : OpenedBefore number r.blocks) (s : FlowStatement) :
    Made r ((r.statementChanges number s).map (Prod.mk number)) (r.apply number s) := by
  cases s with
  | skip => exact .nil
  | note isOpen => exact .single trivial
  | activity text => exact .single trivial
  | openActivity first => exact .single fun a ha => .inl (by cases ha; rfl)
  | start => exact .single trivial
  | stop => exact .single trivial
  | finish => exact .single trivial
  | openIf condition => exact .single rfl
  | elseIf condition =>
    simp only [statementChanges, FlowReader.apply]
    cases he : r.enterElse? with
    | none => exact .single ⟨rfl, rfl⟩
    | some r' =>
      have helse : r.change .entersElse = r' := by simp [change, he]
      exact .cons trivial (helse ▸ .single rfl)
  | elseBranch =>
    simp only [statementChanges, FlowReader.apply]
    cases he : r.enterElse? with
    | none => exact .single ⟨rfl, rfl⟩
    | some r' =>
      have helse : r.change .entersElse = r' := by simp [change, he]
      exact helse ▸ .single trivial
  | endIf => exact closeDecision_made hl
  | openWhile condition value => exact .single rfl
  | endWhile exit => exact endWhile_made hl exit
  | openRepeat first =>
    cases first with
    | none => exact .single rfl
    | some first => exact .cons rfl (.single trivial)
  | endRepeat condition => exact endRepeat_made hl condition
  | openFork => exact .single rfl
  | forkAgain keyword =>
    simp only [statementChanges, FlowReader.apply]
    cases hn : r.nextBranch? with
    | none => exact .single ⟨rfl, rfl⟩
    | some r' =>
      have hbranch : r.change .entersBranch = r' := by simp [change, hn]
      exact hbranch ▸ .single trivial
  | endFork keyword => exact endFork_made hl keyword
  | openPartition name => exact .single rfl
  | endPartition keyword => exact endPartition_made hl keyword

theorem step_made (hl : OpenedBefore number r.blocks) (raw : Text) :
    Made r ((r.changes number raw).map (Prod.mk number)) (r.step number raw) := by
  obtain ⟨elements, blocks, diagnostics, pending, inNote⟩ := r
  unfold changes step
  cases pending with
  | none =>
    dsimp only
    split
    · exact .single (c := .note _) trivial
    · exact statement_made hl _
  | some a =>
    dsimp only
    unfold activityChanges continueActivity
    cases dropSuffix? raw.trim [';'] with
    | some last => exact .cons (by simp [FlowChange.Fits]) (.single (c := .added _) trivial)
    | none => exact .single (c := .waits _) fun b hb => .inr ⟨a, rfl, by cases hb; rfl⟩

/-- A change opens at most a block on its own line. -/
theorem Made.openedBefore {log : List (Nat × FlowChange)} (h : Made r log r')
    (hlog : ∀ c ∈ log, c.1 < number) (hl : OpenedBefore number r.blocks) : OpenedBefore number r'.blocks := by
  induction h with
  | nil => exact hl
  | @cons r _ n c log fits _ ih =>
    obtain ⟨hn, hlog⟩ := List.forall_mem_cons.1 hlog
    refine ih hlog ?_
    cases c with
    | added e => exact hl.of_lines (lines_add r e)
    | opened entry => exact List.forall_mem_cons.2 ⟨fits ▸ hn, hl⟩
    | ended entry e => exact OpenedBefore.of_lines (fun x hx => hl x (List.mem_of_mem_tail hx)) (lines_add _ e)
    | dropped entry keyword => exact fun x hx => hl x (List.mem_of_mem_tail hx)
    | entersElse =>
      obtain ⟨blocks, he, hlines⟩ := change_entersElse r
      rw [he]
      exact hl.of_lines hlines
    | entersBranch =>
      obtain ⟨blocks, he, hlines⟩ := change_entersBranch r
      rw [he]
      exact hl.of_lines hlines
    | remark | waits | note => exact hl

theorem run_made (lines : List Text) (hl : OpenedBefore number r.blocks) :
    Made r (r.log number lines) (r.run number lines) := by
  induction lines generalizing number r with
  | nil => exact .nil
  | cons line lines ih =>
    have hstep := step_made hl line
    refine hstep.append (ih (hstep.openedBefore ?_ fun x hx => Nat.lt_succ_of_lt (hl x hx)))
    intro c hc
    obtain ⟨_, -, rfl⟩ := List.mem_map.1 hc
    exact Nat.lt_succ_self number

end FlowReader

end DiagramProse
