import DiagramProse.Text.Basic

/-!
Layout and style hints inside arrows. Between two shaft characters a direction word may stand, and
after it a style in square brackets; `withoutHints` takes them away, so that `-down->` reads `-->`.
-/

namespace DiagramProse.Arrow

def isShaft (c : Char) : Bool := c == '-' || c == '.'

def directionWords : List Text := ["up", "down", "left", "right", "do", "le", "ri", "u", "d", "l", "r"]

/-- What follows a style in square brackets; a text that begins with no bracket has none. -/
def afterStyle? : Text → Option Text
  | '[' :: s => (Text.cutAt? (· == ']') s).map Prod.snd
  | s => some s

/-- The number of characters of the hint before the next shaft character, and that character. -/
def hint? (s : Text) : Option (Nat × Char) := do
  let word := s.takeWhile Char.isLower
  guard (word.isEmpty || directionWords.contains word)
  let rest ← afterStyle? (s.drop word.length)
  let shaft ← rest.head?
  guard (isShaft shaft)
  return (s.length - rest.length, shaft)

/-- Goes on after `skip` characters that belong to a hint or were written already. -/
def dropHints : (skip : Nat) → Text → Text
  | _, [] => []
  | skip + 1, _ :: s => dropHints skip s
  | 0, c :: s =>
    if isShaft c then
      match hint? s with
      | some (n, shaft) => c :: shaft :: dropHints (n + 1) s
      | none => c :: dropHints 0 s
    else c :: dropHints 0 s

/-- The line with plain arrows. -/
def withoutHints (line : Text) : Text := dropHints 0 line

end DiagramProse.Arrow
