import DiagramProse.Text.Basic

/-!
Lines of a text. A line ends at a line feed, and one carriage return before that line feed goes with
it; a last line needs no line feed, and an empty text has no lines.
-/

namespace DiagramProse.Text

/-- A line without the carriage return that stood before its line feed. -/
def dropCarriageReturn (s : Text) : Text := (dropSuffix? s ['\r']).getD s

/-- The pieces of a text that was split at line feeds, as lines: the last piece ended at no line
feed, so it keeps a carriage return and counts only if it is not empty. -/
def linesOfPieces : List Text → List Text
  | [] => []
  | [last] => if last.isEmpty then [] else [last]
  | piece :: rest => dropCarriageReturn piece :: linesOfPieces rest

def lines (s : Text) : List Text := linesOfPieces (s.splitBy (· == '\n'))

end DiagramProse.Text
