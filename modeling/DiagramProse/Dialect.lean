import DiagramProse.Text.Blank

/-!
The two notations in which diagrams are written, how they are named, and what a line of either looks
like when it is a comment.
-/

namespace DiagramProse

inductive Dialect where
  | plantUml
  | mermaid
deriving DecidableEq, Repr

namespace Dialect

def name : Dialect → Text
  | plantUml => "plantuml"
  | mermaid => "mermaid"

/-- Reads the language of a code fence or the image type of a block. -/
def ofName? (name : Text) : Option Dialect :=
  let n := name.trim.lowerAscii
  if n = "plantuml" ∨ n = "puml" ∨ n = "c4plantuml" then some plantUml
  else if n = "mermaid" then some mermaid
  else none

/-- A source with a start or an end marker is PlantUML, any other is Mermaid. -/
def guess (source : Text) : Dialect :=
  if source.contains "@startuml" || source.contains "@enduml" then plantUml else mermaid

end Dialect

/-- Whether a line is a comment, in either notation. -/
def isComment (line : Text) : Bool := line.startsWithAny ["'", "%%", "//"]

end DiagramProse
