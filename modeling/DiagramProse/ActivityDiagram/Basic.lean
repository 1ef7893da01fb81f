import DiagramProse.Diagnostic

/-!
Activity diagrams: a forest of steps and blocks, in the order in which they are read. Walks over the
forest take the yes-branch of a decision before its no-branch, and the branches of a fork in order.
-/

namespace DiagramProse

inductive FlowElement where
  | start
  | stop
  | finish
  | activity (text : Text)
  | decision (condition : Text) (yes no : List FlowElement)
  | partition (name : Text) (elements : List FlowElement)
  | whileLoop (condition : Text) (value exit : Option Text) (elements : List FlowElement)
  | repeatLoop (condition : Text) (elements : List FlowElement)
  | fork (branches : List (List FlowElement))

namespace FlowElement

/-! ## Texts of the activities -/

mutual

def texts : FlowElement → List Text
  | start | stop | finish => []
  | activity text => [text]
  | decision _ yes no => textsOf yes ++ textsOf no
  | partition _ elements => textsOf elements
  | whileLoop _ _ _ elements => textsOf elements
  | repeatLoop _ elements => textsOf elements
  | fork branches => textsOfBranches branches

def textsOf : List FlowElement → List Text
  | [] => []
  | e :: es => e.texts ++ textsOf es

def textsOfBranches : List (List FlowElement) → List Text
  | [] => []
  | b :: bs => textsOf b ++ textsOfBranches bs

end

/-! ## Counts -/

mutual

/-- The number of decisions in an element, itself included. -/
def decisions : FlowElement → Nat
  | start | stop | finish | activity _ => 0
  | decision _ yes no => 1 + (decisionsOf yes + decisionsOf no)
  | partition _ elements => decisionsOf elements
  | whileLoop _ _ _ elements => decisionsOf elements
  | repeatLoop _ elements => decisionsOf elements
  | fork branches => decisionsOfBranches branches

def decisionsOf : List FlowElement → Nat
  | [] => 0
  | e :: es => e.decisions + decisionsOf es

def decisionsOfBranches : List (List FlowElement) → Nat
  | [] => 0
  | b :: bs => decisionsOf b + decisionsOfBranches bs

end

mutual

/-- The number of partitions in an element, itself included. -/
def partitions : FlowElement → Nat
  | start | stop | finish | activity _ => 0
  | decision _ yes no => partitionsOf yes + partitionsOf no
  | partition _ elements => 1 + partitionsOf elements
  | whileLoop _ _ _ elements => partitionsOf elements
  | repeatLoop _ elements => partitionsOf elements
  | fork branches => partitionsOfBranches branches

def partitionsOf : List FlowElement → Nat
  | [] => 0
  | e :: es => e.partitions + partitionsOf es

def partitionsOfBranches : List (List FlowElement) → Nat
  | [] => 0
  | b :: bs => partitionsOf b + partitionsOfBranches bs

end

end FlowElement

/-! ## The diagram -/

/-- How a block that was opened is called in remarks. -/
inductive BlockName where
  | partition (name : Text)
  | decision (condition : Text)
  | whileLoop (condition : Text)
  | repeatLoop
  | fork
deriving DecidableEq, Repr

def BlockName.text : BlockName → Text
  | partition name => "partition `" ++ name ++ "`"
  | decision condition => "if `" ++ condition ++ "`"
  | whileLoop condition => "while `" ++ condition ++ "`"
  | repeatLoop => "repeat"
  | fork => "fork"

/-- What can be wrong with the blocks of an activity diagram. -/
inductive FlowProblem where
  | unmatched (keyword : Text)
  | closedBefore (block : BlockName) (keyword : Text)
  | strayElseIf
  | strayElse
  | strayBranch (line : Text)
  | openActivity
  | openBlock (block : BlockName)
deriving DecidableEq, Repr

def FlowProblem.message : FlowProblem → Text
  | unmatched keyword => "`" ++ keyword ++ "` without a matching block"
  | closedBefore block keyword => block.text ++ " is never closed before `" ++ keyword ++ "`"
  | strayElseIf => "`elseif` without a matching `if`"
  | strayElse => "`else` without a matching `if`"
  | strayBranch line => "`" ++ line ++ "` outside a fork"
  | openActivity => "activity is never terminated with `;`"
  | openBlock block => block.text ++ " is never closed"

structure ActivityDiagram where
  elements : List FlowElement
  diagnostics : List (Diagnostic FlowProblem)

namespace ActivityDiagram

def activityTexts (d : ActivityDiagram) : List Text := FlowElement.textsOf d.elements

def activityCount (d : ActivityDiagram) : Nat := d.activityTexts.length

def decisionCount (d : ActivityDiagram) : Nat := FlowElement.decisionsOf d.elements

def partitionCount (d : ActivityDiagram) : Nat := FlowElement.partitionsOf d.elements

end ActivityDiagram

end DiagramProse
