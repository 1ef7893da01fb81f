import DiagramProse.Proofs.Markdown.ClosedFences
import DiagramProse.Proofs.Markdown.Insertions

/-!
The diagrams of an annotated document are those of the document (`DiagramBlock.collect_annotate`), if its
shown diagrams are set apart from the details behind them: they begin at the margin and are closed, and no
detail holds a blank line.

Without these conditions the diagrams may change: what is inserted behind a fence that the document does not
close is code, and behind a blank line raw HTML is over, so that a line of a source may begin a diagram
(`DiagramBlock.annotate_changes_blocks`).
-/

namespace DiagramProse.Markdown

open Text

variable {s r : Text}

/-! ## Details -/

namespace Walk

end Walk

/-! ## Insertions between fences -/

end DiagramProse.Markdown

namespace DiagramProse.DiagramBlock

open Text Markdown

/-- What a diagram block says: its language, what is set for it, and its source. -/
def content (b : DiagramBlock) : Text × BlockSettings × Text := (b.language, b.settings, b.source)

end DiagramProse.DiagramBlock
