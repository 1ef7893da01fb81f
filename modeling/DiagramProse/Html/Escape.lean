import DiagramProse.Text.Basic

/-!
Escaped text for HTML. Characters that XML 1.0 does not allow are left out, and the four characters
with a meaning in markup become entities. `escape_append` says that escaping works piece by piece.
-/

namespace DiagramProse.Html

/-- The characters of XML 1.0. -/
def isXmlChar (c : Char) : Bool :=
  let n := c.toNat
  n == 0x09 || n == 0x0a || n == 0x0d || (0x20 ≤ n && n ≤ 0xd7ff) || (0xe000 ≤ n && n ≤ 0xfffd) ||
    (0x10000 ≤ n && n ≤ 0x10ffff)

def escapeChar (c : Char) : Text :=
  if !isXmlChar c then []
  else if c = '&' then "&amp;"
  else if c = '<' then "&lt;"
  else if c = '>' then "&gt;"
  else if c = '"' then "&quot;"
  else [c]

def escape (s : Text) : Text := s.flatMap escapeChar

@[simp] theorem escape_nil : escape [] = [] := rfl

theorem escape_append (s t : Text) : escape (s ++ t) = escape s ++ escape t := by
  simp [escape]

end DiagramProse.Html
