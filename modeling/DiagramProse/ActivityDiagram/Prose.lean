import DiagramProse.ActivityDiagram.Basic
import DiagramProse.Html.Section
import DiagramProse.Locale
import DiagramProse.Text.Blank
import DiagramProse.Text.Template

/-!
The description of an activity diagram: a summary with counts, and the flow as a list of lists. A
decision is told in one item; a block has an opening item, with its contents below, and a closing one.
Forks are numbered in the order in which they open. Dutch stands in for unknown languages.
-/

namespace DiagramProse

open Text Html

/-- The words in which activity diagrams are described. -/
structure ActivityPhrases where
  title : Text
  withCounts : Text
  partition : Text
  partitions : Text
  activity : Text
  activities : Text
  decision : Text
  decisions : Text
  conjunction : Text
  flow : Text
  start : Text
  stop : Text
  finish : Text
  decisionLabel : Text
  yes : Text
  no : Text
  partitionOpen : Text
  partitionClose : Text
  loopOpen : Text
  loopClose : Text
  forkOpen : Text
  forkClose : Text
  branch : Text

namespace ActivityPhrases

def english : ActivityPhrases where
  title := "Activity diagram"
  withCounts := "with"
  partition := "{count} partition"
  partitions := "{count} partitions"
  activity := "{count} activity"
  activities := "{count} activities"
  decision := "{count} decision point"
  decisions := "{count} decision points"
  conjunction := "and"
  flow := "Flow"
  start := "Start"
  stop := "Stop"
  finish := "End"
  decisionLabel := "Decision"
  yes := "Yes"
  no := "No"
  partitionOpen := "Partition {name}, consisting of:"
  partitionClose := "End partition {name}."
  loopOpen := "Repeat while {condition}, consisting of:"
  loopClose := "End repeat."
  forkOpen := "Parallel execution {n}, consisting of:"
  forkClose := "End parallel execution {n}."
  branch := "Branch {n}:"

def dutch : ActivityPhrases where
  title := "Activiteitendiagram"
  withCounts := "met"
  partition := "{count} partitie"
  partitions := "{count} partities"
  activity := "{count} activiteit"
  activities := "{count} activiteiten"
  decision := "{count} beslispunt"
  decisions := "{count} beslispunten"
  conjunction := "en"
  flow := "Stroom"
  start := "Start"
  stop := "Stop"
  finish := "Einde"
  decisionLabel := "Beslissing"
  yes := "Ja"
  no := "Nee"
  partitionOpen := "Partitie {name}, bestaande uit:"
  partitionClose := "Einde partitie {name}."
  loopOpen := "Herhaal zolang {condition}, bestaande uit:"
  loopClose := "Einde herhaling."
  forkOpen := "Parallelle uitvoering {n}, bestaande uit:"
  forkClose := "Einde parallelle uitvoering {n}."
  branch := "Tak {n}:"

def of (l : Locale) : ActivityPhrases := l.pick english dutch

end ActivityPhrases

/-! ## Items -/

/-- The letter and the title of a partition called, say, `A: Title`. -/
def letteredName? : Text → Option (Char × Text)
  | letter :: ':' :: rest =>
    let title := if allBlank rest then rest.drop (rest.length - 1) else trimStart rest
    if letter.isUpper && !title.isEmpty && !title.any (· == '\n') then some (letter, trim title)
    else none
  | _ => none

/-- The names with which a partition opens and closes: one with a letter closes with the letter. -/
def partitionNames (name : Text) : Text × Text :=
  match letteredName? name with
  | some (letter, title) => (letter :: ':' :: ' ' :: title, [letter])
  | none => (name, name)

/-- The condition of a decision, and the activities of each branch that has any. -/
def decisionText (p : ActivityPhrases) (condition : Text) (yes no : List FlowElement) : Text :=
  let branch (label : Text) (elements : List FlowElement) : Text :=
    let names := FlowElement.textsOf elements
    if names.isEmpty then [] else " - ".toList ++ label ++ ": " ++ join ", " names
  p.decisionLabel ++ ": " ++ condition ++ branch p.yes yes ++ branch p.no no

def loopCondition (condition : Text) (value : Option Text) : Text :=
  match value with
  | some v => condition ++ " (" ++ v ++ ")"
  | none => condition

/-- An item for the beginning of a block with lists below, and one for its end. -/
def blockItems (opening : Text) (lists : List Listing) (closing : Text) : List Item :=
  [.mk (escape opening) lists, .leaf (escape closing)]

mutual

/-- The items of an element, after `forks` forks, and the number of forks after it. -/
def FlowElement.items (p : ActivityPhrases) (forks : Nat) : FlowElement → List Item × Nat
  | .start => ([.leaf p.start], forks)
  | .stop => ([.leaf p.stop], forks)
  | .finish => ([.leaf p.finish], forks)
  | .activity text => ([.leaf (escape text)], forks)
  | .decision condition yes no => ([.leaf (escape (decisionText p condition yes no))], forks)
  | .partition name elements =>
    let (opening, closing) := partitionNames name
    let (items, forks) := flowItems p forks elements
    (blockItems (fill p.partitionOpen [("name", opening)]) [.mk false items]
      (fill p.partitionClose [("name", closing)]), forks)
  | .whileLoop condition value _ elements =>
    let (items, forks) := flowItems p forks elements
    (blockItems (fill p.loopOpen [("condition", loopCondition condition value)]) [.mk false items]
      p.loopClose, forks)
  | .repeatLoop condition elements =>
    let (items, forks) := flowItems p forks elements
    (blockItems (fill p.loopOpen [("condition", condition)]) [.mk false items] p.loopClose, forks)
  | .fork branches =>
    let n := ofNat (forks + 1)
    let (items, forks) := branchItems p (forks + 1) 1 branches
    (blockItems (fill p.forkOpen [("n", n)]) [.mk false items] (fill p.forkClose [("n", n)]), forks)

def flowItems (p : ActivityPhrases) (forks : Nat) : List FlowElement → List Item × Nat
  | [] => ([], forks)
  | e :: es =>
    let (items, forks) := e.items p forks
    let (rest, forks) := flowItems p forks es
    (items ++ rest, forks)

/-- The items of the branches of a fork, of which the first has the given number. -/
def branchItems (p : ActivityPhrases) (forks number : Nat) : List (List FlowElement) → List Item × Nat
  | [] => ([], forks)
  | b :: bs =>
    let (items, forks) := flowItems p forks b
    let (rest, forks) := branchItems p forks (number + 1) bs
    (.mk (escape (fill p.branch [("n", ofNat number)])) [.mk false items] :: rest, forks)

end

/-! ## The diagram -/

/-- Partitions and decisions are counted only where there are any. -/
def ActivityDiagram.summary (p : ActivityPhrases) (d : ActivityDiagram) : Text :=
  let partitions := if d.partitionCount = 0 then [] else
    [countPhrase d.partitionCount p.partition p.partitions, p.conjunction]
  let decisions := if d.decisionCount = 0 then [] else
    [p.conjunction, countPhrase d.decisionCount p.decision p.decisions]
  join [' '] ([p.title, p.withCounts] ++ partitions ++
    [countPhrase d.activityCount p.activity p.activities] ++ decisions) ++ ['.']

def ActivityDiagram.describeWith (p : ActivityPhrases) (d : ActivityDiagram) : Fragment :=
  .paragraph (escape (d.summary p)) :: labelled p.flow (.mk false (flowItems p 0 d.elements).1)

def ActivityDiagram.describe (d : ActivityDiagram) (locale : Text) : Fragment :=
  d.describeWith (.of (.resolve locale .nl))

end DiagramProse
