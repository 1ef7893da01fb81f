import DiagramProse.Text.Basic

/-!
A place in a line of a document, in front of its contents. A tab reaches to the next multiple of four
columns; of a tab that is only used in part the other columns are still to be taken.
-/

namespace DiagramProse.Markdown

/-! ## Ends of lines -/

/-- Blanks that end no line. -/
def isGap (c : Char) : Bool := c == ' ' || c == '\t' || c == '\x0b' || c == '\x0c'

def isLineEnd (c : Char) : Bool := c == '\n' || c == '\r'

def isGapOrEnd (c : Char) : Bool := isGap c || isLineEnd c

/-- The text behind the end of a line that stands at its beginning. The end of the text counts. -/
def afterLineEnd? : Text → Option Text
  | [] => some []
  | '\n' :: s => some s
  | '\r' :: '\n' :: s => some s
  | '\r' :: s => some s
  | _ => none

/-- The text behind a line that is blank from here on. -/
def afterBlankLine? (s : Text) : Option Text := afterLineEnd? (s.dropWhile isGap)

/-- The text behind the current line, however it ends. -/
def afterLine (s : Text) : Text := (afterLineEnd? (s.dropWhile fun c => !isLineEnd c)).getD []

/-- The text up to the next line feed, which is included, and what follows it. -/
def splitLineFeed : Text → Text × Text
  | [] => ([], [])
  | c :: s =>
    if c = '\n' then ([c], s)
    else
      let (line, rest) := splitLineFeed s
      (c :: line, rest)

theorem splitLineFeed_append (s : Text) : (splitLineFeed s).1 ++ (splitLineFeed s).2 = s := by
  induction s with
  | nil => rfl
  | cons c s ih =>
    unfold splitLineFeed
    split
    · rfl
    · simpa using ih

/-! ## Columns -/

/-- The text from here on, the column counted from the last tab, and the columns that are left over
from that tab. -/
structure Cursor where
  rest : Text
  column : Nat
  pending : Nat
deriving DecidableEq, Repr

namespace Cursor

def atLineStart (s : Text) : Cursor := ⟨s, 0, 0⟩

/-- Goes on by a number of columns of spaces and tabs; also tells how many are missing. -/
def takeColumns : (columns : Nat) → (column : Nat) → Text → Nat × Cursor
  | 0, column, s => (0, ⟨s, column, 0⟩)
  | n + 1, column, ' ' :: s => takeColumns n (column + 1) s
  | n + 1, column, '\t' :: s =>
    let width := 4 - column % 4
    if n + 1 ≤ width then (0, ⟨s, 0, width - (n + 1)⟩) else takeColumns (n + 1 - width) 0 s
  | n + 1, column, s => (n + 1, ⟨s, column, 0⟩)

/-- Goes on by at most `n` columns; also tells how many are missing. -/
def advance (c : Cursor) (n : Nat) : Nat × Cursor :=
  if n ≤ c.pending then (0, { c with pending := c.pending - n })
  else takeColumns (n - c.pending) c.column c.rest

/-- Goes on behind `n` characters that are no tabs. -/
def skip (c : Cursor) (n : Nat) : Cursor := ⟨c.rest.drop n, c.column + n, c.pending⟩

/-- Goes on behind the character `x`, if it stands here. -/
def take? (c : Cursor) (x : Char) : Option Cursor :=
  if c.rest.head? = some x then some (c.skip 1) else none

/-- Goes on behind all spaces and tabs. -/
def skipSpaces (c : Cursor) : Cursor :=
  let spaces := c.rest.takeWhile fun x => x == ' ' || x == '\t'
  ⟨c.rest.drop spaces.length, c.column + spaces.length, 0⟩

def isAtEnd (c : Cursor) : Bool := !c.rest.head?.any fun x => !isLineEnd x

end Cursor

end DiagramProse.Markdown
