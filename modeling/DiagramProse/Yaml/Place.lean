import DiagramProse.Text.Basic

/-!
Places in a YAML stream, and the gaps between the words of a scalar. A gap with line breaks is folded: a
single line feed becomes a space, and of several the first is dropped.
-/

namespace DiagramProse.Yaml

open Text

/-! ## Characters -/

/-- The characters that a stream may hold. -/
def isStreamChar (c : Char) : Bool :=
  let n := c.toNat
  n == 0x09 || n == 0x0a || n == 0x0d || (0x20 ≤ n && n ≤ 0x7e) || n == 0x85 || (0xa0 ≤ n && n ≤ 0xd7ff)
    || (0xe000 ≤ n && n ≤ 0xfffd) || (0x10000 ≤ n && n ≤ 0x10ffff)

def isGapChar (c : Char) : Bool := c == ' ' || c == '\t'

def isBreak (c : Char) : Bool :=
  c == '\n' || c == '\r' || c == '\u0085' || c == '\u2028' || c == '\u2029'

def isGapOrBreak (c : Char) : Bool := isGapChar c || isBreak c

/-- Whether no word goes on here. -/
def isAtGap (s : Text) : Bool := s.isEmpty || s.head?.any isGapOrBreak

def isAtBreak (s : Text) : Bool := s.head?.any isBreak

/-- The characters with a meaning between brackets. -/
def isFlowChar (c : Char) : Bool := c == ',' || c == '[' || c == ']' || c == '\x7b' || c == '\x7d'

/-- The characters of names. -/
def isNameChar (c : Char) : Bool := c.isAlphanum || c == '_' || c == '-'

/-! ## Places -/

/-- The text from here on, and how many characters, lines and characters of the line are before it. -/
structure Place where
  rest : Text
  index : Nat
  line : Nat
  column : Nat
deriving DecidableEq, Repr

namespace Place

/-- Behind `n` characters of the same line. -/
def skip (p : Place) (n : Nat) : Place := ⟨p.rest.drop n, p.index + n, p.line, p.column + n⟩

/-- Behind a line break, which may be two characters. -/
def skipBreak (p : Place) : Place :=
  let size := if p.rest.startsWith ['\r', '\n'] then 2 else 1
  ⟨p.rest.drop size, p.index + size, p.line + 1, 0⟩

/-- Behind all characters with property `f`, which are none that break lines. -/
def skipWhile (p : Place) (f : Char → Bool) : Place := p.skip (p.rest.takeWhile f).length

/-- Whether one of the marks between documents stands here. -/
def isDocumentMark (p : Place) : Bool :=
  p.column = 0 && (p.rest.startsWith "---" || p.rest.startsWith "...") && isAtGap (p.rest.drop 3)

/-- The line break that stands here, where all that mean a new line are the same. -/
def breakChar (p : Place) : Char :=
  match p.rest.head? with
  | some c => if c = '\u2028' ∨ c = '\u2029' then c else '\n'
  | none => '\n'

end Place

/-! ## Gaps -/

/-- Blanks in front of the first line break, and the line breaks. -/
structure Gap where
  blanks : Text
  breaks : Text
deriving DecidableEq, Repr

/-- What a gap stands for. -/
def Gap.folded (g : Gap) : Text :=
  match g.breaks with
  | [] => g.blanks
  | ['\n'] => [' ']
  | '\n' :: more => more
  | breaks => breaks

/-- Reads a gap. Behind a line break no tab stands in front of column `margin`. -/
def gap? (margin : Nat) : (fuel : Nat) → (isBroken : Bool) → Place → Option (Gap × Place)
  | 0, _, _ => none
  | fuel + 1, isBroken, p =>
    match p.rest.head? with
    | none => some (⟨[], []⟩, p)
    | some c =>
      if isGapChar c then
        if isBroken && c = '\t' && p.column < margin then none
        else (gap? margin fuel isBroken (p.skip 1)).map fun (g, q) => (⟨c :: g.blanks, g.breaks⟩, q)
      else if isBreak c then
        (gap? margin fuel true p.skipBreak).map fun (g, q) => (⟨[], p.breakChar :: g.breaks⟩, q)
      else some (⟨[], []⟩, p)

end DiagramProse.Yaml
