import DiagramProse.Proofs.ActivityDiagram.Notation
import DiagramProse.Proofs.Text.Reads

/-!
A forest that is written and read again comes back as it was, without remarks (`read_flowSource`).

Reading the lines of a forest adds its elements to the innermost open block, whatever that is
(`flowLines_read`), since blocks are closed in the order opposite to the one they are opened in. The lines
of a no-branch leave more blocks open if some of them go on with `elseif`, but the next `endif` ends these
together with the decision around them (`elseLines_read`).
-/

namespace DiagramProse

open Text

/-! ## Adding forests -/

/-- Puts elements at the end of the branch that is being read. -/
def OpenBlock.addAll (b : OpenBlock) (fs : List FlowElement) : OpenBlock :=
  match b with
  | partition name es => partition name (es ++ fs)
  | decision c yes no false chained => decision c (yes ++ fs) no false chained
  | decision c yes no true chained => decision c yes (no ++ fs) true chained
  | whileLoop c v es => whileLoop c v (es ++ fs)
  | repeatLoop es => repeatLoop (es ++ fs)
  | fork bs current => fork bs (current ++ fs)

theorem OpenBlock.addAll_nil (b : OpenBlock) : b.addAll [] = b := by
  unfold addAll
  split <;> simp

theorem OpenBlock.addAll_cons (b : OpenBlock) (e : FlowElement) (fs : List FlowElement) :
    b.addAll (e :: fs) = (b.add e).addAll fs := by
  rcases b with _ | ⟨c, yes, no, inElse, chained⟩ | _ | _ | _
  case decision => cases inElse <;> simp [addAll, add]
  all_goals simp [addAll, add]

namespace FlowReader

def addAll (r : FlowReader) (fs : List FlowElement) : FlowReader :=
  match r.blocks with
  | [] => { r with elements := r.elements ++ fs }
  | top :: rest => { r with blocks := { top with block := top.block.addAll fs } :: rest }

theorem addAll_nil (r : FlowReader) : r.addAll [] = r := by
  unfold addAll
  cases r
  split <;> simp_all [OpenBlock.addAll_nil]

theorem addAll_cons (r : FlowReader) (e : FlowElement) (fs : List FlowElement) :
    r.addAll (e :: fs) = (r.add e).addAll fs := by
  rcases r with ⟨elements, blocks, diagnostics, pending, inNote⟩
  cases blocks with
  | nil => simp [addAll, add]
  | cons top rest => simp [addAll, add, OpenBlock.addAll_cons]

/-! ## Ends of blocks -/

variable (r : FlowReader)

theorem close_openBlock (l : Nat) (b : OpenBlock) (line : Nat) (keyword : Text) :
    (r.openBlock l b).close b.kind line keyword = (r, some b) := by
  simp [close, openBlock, findBlock?]

theorem endWhile_openBlock (l : Nat) (c : Text) (v : Option Text) (es : List FlowElement) (line : Nat)
    (exit : Option Text) :
    (r.openBlock l (.whileLoop c v es)).endWhile line exit = r.add (.whileLoop c v exit es) := by
  have h := r.close_openBlock l (.whileLoop c v es) line "endwhile"
  rw [OpenBlock.kind] at h
  rw [endWhile, h]

theorem endRepeat_openBlock (l : Nat) (es : List FlowElement) (line : Nat) (c : Text) :
    (r.openBlock l (.repeatLoop es)).endRepeat line c = r.add (.repeatLoop c es) := by
  have h := r.close_openBlock l (.repeatLoop es) line "repeat while"
  rw [OpenBlock.kind] at h
  rw [endRepeat, h]

theorem endFork_openBlock (l : Nat) (bs : List (List FlowElement)) (current : List FlowElement) (line : Nat)
    (keyword : Text) :
    (r.openBlock l (.fork bs current)).endFork line keyword = r.add (.fork (bs ++ [current])) := by
  have h := r.close_openBlock l (.fork bs current) line keyword
  rw [OpenBlock.kind] at h
  rw [endFork, h]

theorem endPartition_openBlock (l : Nat) (name : Text) (es : List FlowElement) (line : Nat) (keyword : Text) :
    (r.openBlock l (.partition name es)).endPartition line keyword = r.add (.partition name es) := by
  have h := r.close_openBlock l (.partition name es) line keyword
  rw [OpenBlock.kind] at h
  rw [endPartition, h]

/-- The end of a chained decision ends the one around it, too. -/
theorem closeDecision_openBlock (l : Nat) (c : Text) (yes no : List FlowElement) (inElse chained : Bool)
    (line : Nat) :
    (r.openBlock l (.decision c yes no inElse chained)).closeDecision line =
      if chained then (r.add (.decision c yes no)).closeDecision line else r.add (.decision c yes no) := by
  have h := r.close_openBlock l (.decision c yes no inElse chained) line "endif"
  rw [OpenBlock.kind] at h
  rw [closeDecision_of_close h]

/-! ## Reading lines -/

/-- A reader that takes the next line as a statement. -/
structure Ready : Prop where
  pending : r.pending = none
  inNote : r.inNote = false

variable {r}

theorem Ready.step (h : r.Ready) (number : Nat) (raw : Text) :
    r.step number raw = r.apply number (.read raw.trim) := by
  rw [FlowReader.step, h.pending]
  simp [h.inNote]

theorem Ready.add (h : r.Ready) (e : FlowElement) : (r.add e).Ready := by
  unfold FlowReader.add
  split
  · exact ⟨h.pending, h.inNote⟩
  · exact ⟨h.pending, h.inNote⟩

theorem Ready.addAll (h : r.Ready) (es : List FlowElement) : (r.addAll es).Ready := by
  unfold FlowReader.addAll
  split
  · exact ⟨h.pending, h.inNote⟩
  · exact ⟨h.pending, h.inNote⟩

theorem Ready.openBlock (h : r.Ready) (l : Nat) (b : OpenBlock) : (r.openBlock l b).Ready :=
  ⟨h.pending, h.inNote⟩

theorem run_of_reads {number : Nat} {ls : List Text} {r r' : FlowReader} (h : Reads step number ls r r') :
    r.run number ls = r' := by
  induction h with
  | nil => rfl
  | cons _ hstep _ ih => rw [run, hstep, ih]

variable {number : Nat} {l : Text} {ls : List Text} {s : FlowStatement} {r' : FlowReader}

/-- A line that is read by a reader that is ready for it. -/
theorem reads_single (hr : r.Ready) (h : Spells l s) : Reads step number [l] r (r.apply number s) := by
  have hstep : r.step number l = r.apply number s := by
    rw [hr.step, trim_eq_self h.tight, h.read]
  exact hstep ▸ .single h.isLine

theorem reads_cons (hr : r.Ready) (h : Spells l s) (h' : ∀ n, Reads step n ls (r.apply number s) r') :
    Reads step number (l :: ls) r r' :=
  (reads_single hr h).append h'

end FlowReader

/-! ## Reading forests -/

open FlowReader

theorem addActivity_of_isClean {r : FlowReader} {text : Text} (h : isClean text = true) :
    r.addActivity text = r.add (.activity text) := by
  have : cleanActivity text = text := by simpa [isClean] using h
  rw [addActivity, this]

-- The induction follows the elements into their branches. Line numbers only matter for remarks, so what
-- stands behind a branch is read from any number on.
mutual

/-- Reading the lines of an element adds it. -/
theorem FlowElement.lines_read {chain : Chaining} {r : FlowReader} {number : Nat} (e : FlowElement)
    (he : e.isWritable = true) (hr : r.Ready) : Reads step number (e.lines chain) r (r.add e) := by
  cases e with
  | start => exact reads_single hr (by decide : Spells "start" .start)
  | stop => exact reads_single hr (by decide : Spells "stop" .stop)
  | finish => exact reads_single hr (by decide : Spells "end" .finish)
  | activity text =>
    rw [FlowElement.isWritable] at he
    exact (reads_single hr (activity_spells he)).trans_eq (addActivity_of_isClean he)
  | decision c yes no =>
    simp only [FlowElement.isWritable, Bool.and_eq_true] at he
    obtain ⟨⟨hc, hyes⟩, hno⟩ := he
    rw [FlowElement.lines, List.cons_append, List.cons_append, List.append_assoc (flowLines _ _)]
    refine reads_cons hr (if_spells hc) fun n => ?_
    refine .append (flowLines_read yes hyes (hr.openBlock ..)) fun m => ?_
    refine elseLines_read no hno hr fun line => ?_
    rw [closeDecision_openBlock]
    rfl
  | partition name es =>
    simp only [FlowElement.isWritable, Bool.and_eq_true] at he
    rw [FlowElement.lines]
    refine reads_cons hr (partition_spells he.1) fun n => ?_
    refine .append (flowLines_read es he.2 (hr.openBlock ..)) fun m => ?_
    have hend : Spells "\x7d" (.endPartition "\x7d") := by decide
    exact (reads_single ((hr.openBlock ..).addAll _) hend).trans_eq (r.endPartition_openBlock _ _ _ m _)
  | whileLoop c v x es =>
    simp only [FlowElement.isWritable, Bool.and_eq_true] at he
    obtain ⟨⟨⟨hc, hv⟩, hx⟩, hes⟩ := he
    rw [FlowElement.lines]
    refine reads_cons hr (while_spells hc hv) fun n => ?_
    refine .append (flowLines_read es hes (hr.openBlock ..)) fun m => ?_
    exact (reads_single ((hr.openBlock ..).addAll _) (endWhile_spells hx)).trans_eq
      (r.endWhile_openBlock _ _ _ _ m _)
  | repeatLoop c es =>
    simp only [FlowElement.isWritable, Bool.and_eq_true] at he
    rw [FlowElement.lines]
    have hopen : Spells "repeat" (.openRepeat none) := by decide
    refine reads_cons hr hopen fun n => ?_
    refine .append (flowLines_read es he.2 (hr.openBlock ..)) fun m => ?_
    exact (reads_single ((hr.openBlock ..).addAll _) (repeatWhile_spells he.1)).trans_eq
      (r.endRepeat_openBlock _ _ m _)
  | fork bs =>
    simp only [FlowElement.isWritable, Bool.and_eq_true, Bool.not_eq_true'] at he
    rw [FlowElement.lines]
    have hopen : Spells "fork" .openFork := by decide
    refine reads_cons hr hopen fun n => ?_
    exact branchLines_read bs he.1 he.2 hr

/-- Reading the lines of a forest adds its elements. -/
theorem flowLines_read {chain : Chaining} {r : FlowReader} {number : Nat} (es : List FlowElement)
    (hes : flowIsWritable es = true) (hr : r.Ready) :
    Reads step number (flowLines chain es) r (r.addAll es) := by
  cases es with
  | nil =>
    rw [flowLines]
    exact Reads.nil.trans_eq r.addAll_nil.symm
  | cons e es =>
    simp only [flowIsWritable, Bool.and_eq_true] at hes
    rw [flowLines, addAll_cons]
    exact .append (e.lines_read hes.1 hr) fun n => flowLines_read es hes.2 (hr.add e)

/-- Reading the lines of a no-branch and the `endif` behind them leads to where ending the decision leads
that has the elements of the branch. -/
theorem elseLines_read {chain : Chaining} {r r' : FlowReader} {number l : Nat} {c : Text}
    {yes : List FlowElement} {chained : Bool} (no : List FlowElement) (hno : flowIsWritable no = true)
    (hr : r.Ready)
    (hend : ∀ line, (r.openBlock l (.decision c yes no true chained)).closeDecision line = r') :
    Reads step number (elseLines chain no ++ [("endif" : Text)])
      (r.openBlock l (.decision c yes [] false chained)) r' := by
  have helse : Spells "else (no)" .elseBranch := by decide
  have hendif : Spells "endif" .endIf := by decide
  have hr₀ := hr.openBlock l (.decision c yes [] false chained)
  have hr₁ := hr.openBlock l (.decision c yes [] true chained)
  cases no with
  | nil =>
    rw [elseLines]
    refine reads_cons hr₀ helse fun n => ?_
    exact (reads_single hr₁ hendif).trans_eq (hend n)
  | cons e es =>
    simp only [flowIsWritable, Bool.and_eq_true] at hno
    rw [elseLines]
    split
    · next hchain =>
      -- the branch is a single decision, which is read as a block within the one around it
      simp only [Bool.and_eq_true, List.isEmpty_iff] at hchain
      obtain ⟨⟨rfl, hdecision⟩, -⟩ := hchain
      cases e with
      | decision c' yes' no' =>
        simp only [FlowElement.isWritable, Bool.and_eq_true] at hno
        obtain ⟨⟨⟨hc', hyes'⟩, hno'⟩, -⟩ := hno
        rw [FlowElement.elseIfLines, List.cons_append, List.cons_append, List.append_assoc (flowLines _ _)]
        refine reads_cons hr₀ (elseIf_spells hc') fun n => ?_
        refine .append (flowLines_read yes' hyes' (hr₁.openBlock ..)) fun m => ?_
        refine elseLines_read no' hno' hr₁ fun line => ?_
        rw [closeDecision_openBlock, if_pos rfl]
        exact hend line
      | _ => cases hdecision
    · rw [List.cons_append, List.append_assoc (FlowElement.lines _ _)]
      refine reads_cons hr₀ helse fun n => ?_
      refine .append (e.lines_read hno.1 hr₁) fun m => ?_
      refine .append (flowLines_read es hno.2 (hr₁.add e)) fun k => ?_
      exact (reads_single ((hr₁.add e).addAll es) hendif).trans_eq (hend k)

/-- Reading the lines of the branches of a fork adds the fork. -/
theorem branchLines_read {chain : Chaining} {r : FlowReader} {number l : Nat} {done : List (List FlowElement)}
    (bs : List (List FlowElement)) (hne : bs.isEmpty = false) (hbs : branchesAreWritable bs = true)
    (hr : r.Ready) :
    Reads step number (branchLines chain bs ++ [("end fork" : Text)]) (r.openBlock l (.fork done []))
      (r.add (.fork (done ++ bs))) := by
  have hr' := hr.openBlock l (.fork done [])
  rcases bs with _ | ⟨b, bs⟩
  · cases hne
  simp only [branchesAreWritable, Bool.and_eq_true] at hbs
  -- the last branch is followed by the end of the fork, the others by the beginning of the next
  cases bs with
  | nil =>
    rw [branchLines]
    simp only [List.isEmpty_nil, if_true, List.append_nil]
    refine .append (flowLines_read b hbs.1 hr') fun m => ?_
    have hend : Spells "end fork" (.endFork "end fork") := by decide
    exact (reads_single (hr'.addAll b) hend).trans_eq (r.endFork_openBlock _ _ _ m _)
  | cons b' bs =>
    rw [branchLines]
    simp only [List.isEmpty_cons, Bool.false_eq_true, if_false, List.append_assoc, List.cons_append]
    refine .append (flowLines_read b hbs.1 hr') fun m => ?_
    have hagain : Spells "fork again" (.forkAgain "fork again") := by decide
    refine reads_cons (hr'.addAll b) hagain fun k => ?_
    exact (branchLines_read (b' :: bs) rfl hbs.2 hr).trans_eq (by simp)

end

/-! ## The diagram -/

/-- Whichever of its no-branches are written as `elseif`, a forest comes back as it was. -/
theorem read_flowSource (chain : Chaining) (elements : List FlowElement)
    (h : flowIsWritable elements = true) :
    ActivityDiagram.read (flowSource chain elements) = ⟨elements, []⟩ := by
  have hr : FlowReader.start.Ready := ⟨rfl, rfl⟩
  have hread : Reads step 1 (flowLines chain elements) .start (FlowReader.start.addAll elements) :=
    flowLines_read elements h hr
  have hlines : (flowSource chain elements).lines = flowLines chain elements := lines_join hread.isLine
  rw [ActivityDiagram.read, hlines, ActivityDiagram.ofLines, run_of_reads hread]
  rfl

/-- A decision that goes on with `elseif`, with a fork and loops in it. -/
theorem read_flowSource_nested :
    ActivityDiagram.read (flowSource (fun _ => true)
      [.start, .decision "a (or b)" [.fork [[.activity "x"], []], .stop]
        [.decision "c" [.whileLoop "more" (some "yes") none [.activity "y;"]]
          [.partition "p \"q\"" [.repeatLoop "again" [.finish]]]]]) =
    ⟨[.start, .decision "a (or b)" [.fork [[.activity "x"], []], .stop]
        [.decision "c" [.whileLoop "more" (some "yes") none [.activity "y;"]]
          [.partition "p \"q\"" [.repeatLoop "again" [.finish]]]]], []⟩ :=
  read_flowSource _ _ (by decide)

end DiagramProse
