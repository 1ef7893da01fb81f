import DiagramProse.ActivityDiagram.Basic
import DiagramProse.ActivityDiagram.Statement
import DiagramProse.Text.Lines

/-!
Reading an activity diagram line by line. Elements go into the innermost open block. A closing line
ends the innermost block of its kind and drops the blocks within it that were never closed, each with
a remark; `finish` drops what is open at the end in the same way.
-/

namespace DiagramProse

open Text

/-! ## Open blocks -/

/-- A block that was opened, with what was read of it so far. A decision is `chained` if it goes on
in the no-branch of the decision around it and ends together with it. -/
inductive OpenBlock where
  | partition (name : Text) (elements : List FlowElement)
  | decision (condition : Text) (yes no : List FlowElement) (inElse chained : Bool)
  | whileLoop (condition : Text) (value : Option Text) (elements : List FlowElement)
  | repeatLoop (elements : List FlowElement)
  | fork (branches : List (List FlowElement)) (current : List FlowElement)

inductive BlockKind where
  | partition
  | decision
  | whileLoop
  | repeatLoop
  | fork
deriving DecidableEq, Repr

namespace OpenBlock

def kind : OpenBlock → BlockKind
  | partition .. => .partition
  | decision .. => .decision
  | whileLoop .. => .whileLoop
  | repeatLoop .. => .repeatLoop
  | fork .. => .fork

def blockName : OpenBlock → BlockName
  | partition name _ => .partition name
  | decision condition .. => .decision condition
  | whileLoop condition .. => .whileLoop condition
  | repeatLoop _ => .repeatLoop
  | fork .. => .fork

/-- Puts an element at the end of the branch that is being read. -/
def add (b : OpenBlock) (e : FlowElement) : OpenBlock :=
  match b with
  | partition name es => partition name (es ++ [e])
  | decision c yes no false chained => decision c (yes ++ [e]) no false chained
  | decision c yes no true chained => decision c yes (no ++ [e]) true chained
  | whileLoop c v es => whileLoop c v (es ++ [e])
  | repeatLoop es => repeatLoop (es ++ [e])
  | fork bs current => fork bs (current ++ [e])

end OpenBlock

/-- An open block and the line it was opened on. -/
structure BlockEntry where
  block : OpenBlock
  line : Nat

/-- The blocks within the innermost block of a kind, innermost first, that block, and those around it. -/
def findBlock? (kind : BlockKind) : List BlockEntry → Option (List BlockEntry × OpenBlock × List BlockEntry)
  | [] => none
  | e :: rest =>
    if e.block.kind = kind then some ([], e.block, rest)
    else (findBlock? kind rest).map fun (within, found, around) => (e :: within, found, around)

theorem findBlock?_eq_some {kind : BlockKind} {entries within around : List BlockEntry}
    {found : OpenBlock} (h : findBlock? kind entries = some (within, found, around)) :
    ∃ line, entries = within ++ ⟨found, line⟩ :: around := by
  induction entries generalizing within with
  | nil => cases h
  | cons e rest ih =>
    unfold findBlock? at h
    split at h
    · cases h; exact ⟨e.line, rfl⟩
    · obtain ⟨⟨w, f, a⟩, hw, he⟩ := Option.map_eq_some_iff.1 h
      cases he
      obtain ⟨line, hl⟩ := ih hw
      exact ⟨line, by rw [hl]; rfl⟩

/-! ## The reader -/

/-- An activity over several lines, and the line it began on. -/
structure OpenActivity where
  parts : List Text
  line : Nat
deriving DecidableEq, Repr

/-- The innermost open block is the first one. -/
structure FlowReader where
  elements : List FlowElement
  blocks : List BlockEntry
  diagnostics : List (Diagnostic FlowProblem)
  pending : Option OpenActivity
  inNote : Bool

namespace FlowReader

def start : FlowReader := ⟨[], [], [], none, false⟩

def add (r : FlowReader) (e : FlowElement) : FlowReader :=
  match r.blocks with
  | [] => { r with elements := r.elements ++ [e] }
  | top :: rest => { r with blocks := { top with block := top.block.add e } :: rest }

@[simp] theorem length_blocks_add (r : FlowReader) (e : FlowElement) :
    (r.add e).blocks.length = r.blocks.length := by
  unfold add; split <;> simp_all

def addActivity (r : FlowReader) (text : Text) : FlowReader := r.add (.activity (cleanActivity text))

def openBlock (r : FlowReader) (line : Nat) (b : OpenBlock) : FlowReader :=
  { r with blocks := ⟨b, line⟩ :: r.blocks }

def report (r : FlowReader) (line : Nat) (problem : FlowProblem) : FlowReader :=
  { r with diagnostics := r.diagnostics ++ [⟨line, problem⟩] }

/-- Ends the innermost block of a kind. The blocks within it are dropped. -/
def close (r : FlowReader) (kind : BlockKind) (line : Nat) (keyword : Text) :
    FlowReader × Option OpenBlock :=
  match findBlock? kind r.blocks with
  | none => (r.report line (.unmatched keyword), none)
  | some (within, found, around) =>
    let remarks := within.map fun e => ⟨e.line, .closedBefore e.block.blockName keyword⟩
    ({ r with blocks := around, diagnostics := r.diagnostics ++ remarks }, some found)

theorem length_blocks_close {r r' : FlowReader} {kind : BlockKind} {line : Nat} {keyword : Text}
    {b : OpenBlock} (h : r.close kind line keyword = (r', some b)) :
    r'.blocks.length < r.blocks.length := by
  unfold close at h
  split at h
  · cases h
  · next within found around hf =>
    obtain ⟨line', hl⟩ := findBlock?_eq_some hf
    cases h
    simp only [hl, List.length_append, List.length_cons]
    omega

/-- Ends a decision, and with it those whose no-branch it goes on in. -/
def closeDecision (r : FlowReader) (line : Nat) : FlowReader :=
  match _h : r.close .decision line "endif" with
  | (r', some (.decision condition yes no _ chained)) =>
    let r'' := r'.add (.decision condition yes no)
    if chained then closeDecision r'' line else r''
  | (r', _) => r'
termination_by r.blocks.length
decreasing_by simpa using length_blocks_close _h

theorem closeDecision_of_close {r r' : FlowReader} {line : Nat} {found : Option OpenBlock}
    (h : r.close .decision line "endif" = (r', found)) :
    r.closeDecision line =
      match found with
      | some (.decision condition yes no _ chained) =>
        if chained then (r'.add (.decision condition yes no)).closeDecision line
        else r'.add (.decision condition yes no)
      | _ => r' := by
  rw [closeDecision]
  split
  · next hd =>
    rw [h] at hd
    cases hd
    rfl
  · next hne hd =>
    rw [h] at hd
    cases hd
    rcases found with _ | b
    · rfl
    · cases b with
      | decision c yes no inElse chained => exact (hne c yes no inElse chained rfl).elim
      | _ => rfl

/-- Goes to the no-branch of the innermost block, if that is a decision. -/
def enterElse? (r : FlowReader) : Option FlowReader :=
  match r.blocks with
  | ⟨.decision c yes no _ chained, line⟩ :: rest =>
    some { r with blocks := ⟨.decision c yes no true chained, line⟩ :: rest }
  | _ => none

/-- Begins the next branch of the innermost block, if that is a fork. -/
def nextBranch? (r : FlowReader) : Option FlowReader :=
  match r.blocks with
  | ⟨.fork branches current, line⟩ :: rest =>
    some { r with blocks := ⟨.fork (branches ++ [current]) [], line⟩ :: rest }
  | _ => none

/-! ## Lines -/

def endWhile (r : FlowReader) (line : Nat) (exit : Option Text) : FlowReader :=
  match r.close .whileLoop line "endwhile" with
  | (r, some (.whileLoop condition value elements)) =>
    r.add (.whileLoop condition value exit elements)
  | (r, _) => r

def endRepeat (r : FlowReader) (line : Nat) (condition : Text) : FlowReader :=
  match r.close .repeatLoop line "repeat while" with
  | (r, some (.repeatLoop elements)) => r.add (.repeatLoop condition elements)
  | (r, _) => r

def endFork (r : FlowReader) (line : Nat) (keyword : Text) : FlowReader :=
  match r.close .fork line keyword with
  | (r, some (.fork branches current)) => r.add (.fork (branches ++ [current]))
  | (r, _) => r

def endPartition (r : FlowReader) (line : Nat) (keyword : Text) : FlowReader :=
  match r.close .partition line keyword with
  | (r, some (.partition name elements)) => r.add (.partition name elements)
  | (r, _) => r

def apply (r : FlowReader) (line : Nat) : FlowStatement → FlowReader
  | .skip => r
  | .note isOpen => { r with inNote := isOpen }
  | .activity text => r.addActivity text
  | .openActivity first => { r with pending := some ⟨[first], line⟩ }
  | .start => r.add .start
  | .stop => r.add .stop
  | .finish => r.add .finish
  | .openIf condition => r.openBlock line (.decision condition [] [] false false)
  | .elseIf condition =>
    match r.enterElse? with
    | some r => r.openBlock line (.decision condition [] [] false true)
    | none => r.report line .strayElseIf
  | .elseBranch => r.enterElse?.getD (r.report line .strayElse)
  | .endIf => r.closeDecision line
  | .openWhile condition value => r.openBlock line (.whileLoop condition value [])
  | .endWhile exit => r.endWhile line exit
  | .openRepeat none => r.openBlock line (.repeatLoop [])
  | .openRepeat (some first) => (r.openBlock line (.repeatLoop [])).addActivity first
  | .endRepeat condition => r.endRepeat line condition
  | .openFork => r.openBlock line (.fork [] [])
  | .forkAgain keyword => r.nextBranch?.getD (r.report line (.strayBranch keyword))
  | .endFork keyword => r.endFork line keyword
  | .openPartition name => r.openBlock line (.partition name [])
  | .endPartition keyword => r.endPartition line keyword

/-- A line of an activity over several lines, the last of which ends in a semicolon. -/
def continueActivity (r : FlowReader) (a : OpenActivity) (line : Text) : FlowReader :=
  match dropSuffix? line [';'] with
  | some last => { r with pending := none }.addActivity (join [' '] (a.parts ++ [last]))
  | none => { r with pending := some { a with parts := a.parts ++ [line] } }

/-- Reads the line with the given number. -/
def step (r : FlowReader) (number : Nat) (raw : Text) : FlowReader :=
  let line := raw.trim
  match r.pending with
  | some a => r.continueActivity a line
  | none =>
    if r.inNote then { r with inNote := !(line == "end note" || line == "endnote") }
    else r.apply number (.read line)

/-- Reads lines of which the first has the given number. -/
def run : (number : Nat) → List Text → FlowReader → FlowReader
  | _, [], r => r
  | number, line :: rest, r => run (number + 1) rest (r.step number line)

theorem run_singleton (line : Text) (number : Nat) (r : FlowReader) : r.run number [line] = r.step number line := rfl

theorem run_append (before after : List Text) (number : Nat) (r : FlowReader) :
    r.run number (before ++ after) = (r.run number before).run (number + before.length) after := by
  induction before generalizing number r with
  | nil => rfl
  | cons l before ih => rw [List.cons_append, run, run, ih, List.length_cons, Nat.add_assoc, Nat.add_comm 1]

/-- The diagram, with remarks on an activity and on blocks that are still open. -/
def finish (r : FlowReader) : ActivityDiagram :=
  let pending := r.pending.toList.map fun a => ⟨a.line, .openActivity⟩
  let blocks := r.blocks.map fun e => ⟨e.line, .openBlock e.block.blockName⟩
  ⟨r.elements, r.diagnostics ++ pending ++ blocks⟩

end FlowReader

namespace ActivityDiagram

def ofLines (lines : List Text) : ActivityDiagram := (FlowReader.start.run 1 lines).finish

def read (source : Text) : ActivityDiagram := ofLines source.lines

end ActivityDiagram

end DiagramProse
