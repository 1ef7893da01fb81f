import DiagramProse.ActivityDiagram.Prose
import DiagramProse.ActivityDiagram.Reading
import DiagramProse.C4Diagram.Prose
import DiagramProse.C4Diagram.Reading
import DiagramProse.ClassDiagram.Prose
import DiagramProse.ClassDiagram.Reading
import DiagramProse.Failure
import DiagramProse.Kind.Unsupported
import DiagramProse.PieChart.Prose
import DiagramProse.PieChart.Reading
import DiagramProse.SequenceDiagram.Prose
import DiagramProse.SequenceDiagram.Reading
import DiagramProse.StateDiagram.Prose
import DiagramProse.StateDiagram.Reading

/-!
Diagrams of all kinds that can be read, and the way from a source to its description.
-/

namespace DiagramProse

/-- A diagram that was read. -/
inductive Diagram where
  | classes (d : ClassDiagram)
  | sequence (d : SequenceDiagram)
  | activity (d : ActivityDiagram)
  | state (d : StateDiagram)
  | c4 (d : C4Diagram)
  | pie (c : PieChart)

namespace Diagram

/-- Reads a source as a diagram of the given kind, if diagrams of that kind can be read. -/
def read? (kind : DiagramKind) (dialect : Dialect) (source : Text) : Option Diagram :=
  match kind with
  | .classes => some (.classes (.read dialect source))
  | .sequence => some (.sequence (.read dialect source))
  | .activity => some (.activity (.read source))
  | .state => some (.state (.read source))
  | .c4 => some (.c4 (.read source))
  | .pie => some (.pie (.read source))
  | .entityRelationship | .component | .useCase | .gantt | .generic => none

def fragment (d : Diagram) (locale : Text) : Html.Fragment :=
  match d with
  | .classes d => d.describe locale
  | .sequence d => d.describe locale
  | .activity d => d.describe locale
  | .state d => d.describe locale
  | .c4 d => d.describe locale
  | .pie c => c.describe locale

/-- The description as HTML. -/
def describe (d : Diagram) (locale : Text) : Text := (d.fragment locale).write

end Diagram

/-! ## From a source -/

/-- The kind of a source, and the diagram if it can be read; nothing if the source is blank. -/
def readSource (source : Text) (hint : Option Text) (dialect : Option Dialect) :
    Except Failure (DiagramKind × Dialect × Option Diagram) :=
  if source.allBlank then .error .emptySource
  else
    let dialect := dialect.getD (.guess source)
    let kind := DiagramKind.detect source hint (some dialect)
    .ok (kind, dialect, Diagram.read? kind dialect source)

/-- Describes a source, or says that its kind is not supported. -/
def tryDescribe (source : Text) (hint : Option Text) (dialect : Option Dialect) (locale : Text) :
    Except Failure Text := do
  match ← readSource source hint dialect with
  | (_, _, some d) => return d.describe locale
  | (kind, _, none) => return kind.unsupportedText locale

/-- What is said where there is no description. English stands in for unknown languages. -/
def fallbackText (locale : Text) : Text :=
  (Locale.resolve locale .en).pick
    "Natural language description is not available for this diagram type yet."
    "Natuurlijke taal beschrijving is nog niet beschikbaar voor dit diagram type."

/-- Describes a source; of a blank one it says that there is no description. -/
def describeDiagram (source : Text) (hint : Option Text) (dialect : Option Dialect) (locale : Text) :
    Text :=
  match tryDescribe source hint dialect locale with
  | .ok html => html
  | .error _ => (Html.Block.paragraph (Html.escape (fallbackText locale))).write

/-- Describes a source of which nothing else is known. -/
def describe (source locale : Text) : Text := describeDiagram source none none locale

end DiagramProse
