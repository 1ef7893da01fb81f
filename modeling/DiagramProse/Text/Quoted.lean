import DiagramProse.Text.Blank

/-!
Text between double quotes.
-/

namespace DiagramProse.Text

/-- The trimmed text, less one double quote at each end if it has both. -/
def unquote (s : Text) : Text :=
  let t := s.trim
  ((dropPrefix? t ['"']).bind fun u => dropSuffix? u ['"']).getD t

end DiagramProse.Text
