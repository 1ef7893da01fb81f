import DiagramProse.Main
import DiagramProse.Proofs.ActivityDiagram.Accounting
import DiagramProse.Proofs.ActivityDiagram.Conservation
import DiagramProse.Proofs.ActivityDiagram.RoundTrip
import DiagramProse.Proofs.ClassDiagram.Bodies
import DiagramProse.Proofs.ClassDiagram.Consistency
import DiagramProse.Proofs.ClassDiagram.RoundTrip
import DiagramProse.Proofs.Diagram.Edges
import DiagramProse.Proofs.Diagram.Growth
import DiagramProse.Proofs.Diagram.Languages
import DiagramProse.Proofs.Diagram.LineEnds
import DiagramProse.Proofs.Diagram.Safety
import DiagramProse.Proofs.Kind.Comments
import DiagramProse.Proofs.Kind.Headers
import DiagramProse.Proofs.Markdown.Insertions
import DiagramProse.Proofs.SequenceDiagram.Participants
import DiagramProse.Proofs.C4Diagram.Calls
import DiagramProse.Proofs.C4Diagram.RoundTrip
import DiagramProse.Proofs.Markdown.LineHtml
import DiagramProse.Proofs.Markdown.LineMarks
import DiagramProse.Proofs.Markdown.Paragraphs
import DiagramProse.Proofs.Markdown.Progress
import DiagramProse.Proofs.Markdown.Margins
import DiagramProse.Proofs.Markdown.ClosedFences
import DiagramProse.Proofs.Markdown.Annotated
import DiagramProse.Proofs.SequenceDiagram.Messages
import DiagramProse.Proofs.StateDiagram.Transitions
import DiagramProse.Proofs.SequenceDiagram.Declarations
import DiagramProse.Proofs.ActivityDiagram.Description
import DiagramProse.Proofs.SequenceDiagram.QuotedEnds
import DiagramProse.Proofs.ClassDiagram.Arrows
import DiagramProse.Proofs.StateDiagram.RoundTrip
import DiagramProse.Proofs.StateDiagram.Composites
import DiagramProse.Proofs.ClassDiagram.MemberForms
import DiagramProse.Proofs.ClassDiagram.Groups
import DiagramProse.Proofs.ClassDiagram.Clauses
import DiagramProse.Proofs.ClassDiagram.Generics
import DiagramProse.Proofs.ActivityDiagram.BrokenTexts
import DiagramProse.Proofs.Markdown.Settings
import DiagramProse.Proofs.SequenceDiagram.Phrasing
import DiagramProse.Proofs.Markdown.Summaries
import DiagramProse.Proofs.ActivityDiagram.ForkNumbers
import DiagramProse.Proofs.Arrow.LeftmostLongest
import DiagramProse.Proofs.ClassDiagram.HintedArrows
import DiagramProse.Proofs.C4Diagram.Description
import DiagramProse.Proofs.PieChart.RoundTrip
import DiagramProse.Proofs.Decimal.Finite
import DiagramProse.Proofs.Html.WrittenLists
import DiagramProse.Proofs.ClassDiagram.ReadableTypes
import DiagramProse.Proofs.Html.Unescape
import DiagramProse.Proofs.ActivityDiagram.UncoveredMarks
import DiagramProse.Proofs.ActivityDiagram.ConditionGroups
