import DiagramProse.Locale

/-!
The kinds of diagrams that are told apart, their names, and the hints with which a caller names one.
-/

namespace DiagramProse

inductive DiagramKind where
  | classes
  | sequence
  | activity
  | state
  | c4
  | entityRelationship
  | component
  | useCase
  | pie
  | gantt
  | generic
deriving DecidableEq, Repr

namespace DiagramKind

def id : DiagramKind → Text
  | .classes => "classDiagram"
  | .sequence => "sequenceDiagram"
  | .activity => "activityDiagram"
  | .state => "stateDiagram"
  | .c4 => "c4Diagram"
  | .entityRelationship => "erDiagram"
  | .component => "componentDiagram"
  | .useCase => "usecaseDiagram"
  | .pie => "pieDiagram"
  | .gantt => "gantt"
  | .generic => "diagram"

/-- The name of a kind in running text, which is the title of a diagram that has none. -/
def localizedName (k : DiagramKind) (l : Locale) : Text :=
  match k with
  | .classes => l.pick "class diagram" "klassendiagram"
  | .sequence => l.pick "sequence diagram" "sequentiediagram"
  | .activity => l.pick "activity diagram" "activiteitendiagram"
  | .state => l.pick "state diagram" "toestandsdiagram"
  | .c4 => l.pick "C4 diagram" "C4-diagram"
  | .entityRelationship => l.pick "ER diagram" "ER-diagram"
  | .component => l.pick "component diagram" "componentdiagram"
  | .useCase => "use case diagram"
  | .pie => l.pick "pie chart" "taartdiagram"
  | .gantt => l.pick "Gantt chart" "Gantt-diagram"
  | .generic => "diagram"

def hintNames : List (Text × DiagramKind) := [
  ("class", .classes),
  ("sequence", .sequence),
  ("activity", .activity),
  ("state", .state),
  ("er", .entityRelationship),
  ("erd", .entityRelationship),
  ("entity", .entityRelationship),
  ("component", .component),
  ("usecase", .useCase),
  ("use case", .useCase),
  ("use-case", .useCase),
  ("pie", .pie),
  ("gantt", .gantt)]

/-- Reads the name of a kind, with or without the word for diagrams behind it. The name of a notation
is not the name of a kind. -/
def ofHint? (hint : Text) : Option DiagramKind :=
  let h := hint.trim.lowerAscii
  if h.startsWith "c4" then some .c4
  else
    let stem := Text.dropEndRepeated "diagram" h
    hintNames.lookup (Text.dropEndWhile (fun c => c == '-' || c == '_' || c == ' ') stem)

end DiagramKind

end DiagramProse
