import DiagramProse.Markdown.Marks

/-!
The containers that are open at a line: quotes, lists and their items, outermost first. A line belongs
to as many of them as it shows the marks or the indentation of; `follow` counts them and stops behind.
-/

namespace DiagramProse.Markdown

inductive Container where
  | quote
  /-- A list whose items have a marker that ends in `mark`; a blank line between items makes it loose. -/
  | list (mark : Char) (isTight : Bool)
  /-- An item, and the columns by which its lines are indented. -/
  | item (indent : Nat)
deriving DecidableEq, Repr

namespace Container

/-- The place behind the mark of a quote and one column of space. -/
def afterQuoteMark? (c : Cursor) : Option Cursor :=
  (c.take? '>').map fun d =>
    let (missing, e) := d.advance 1
    if missing = 0 then e else d

/-- The place behind what a line in the container begins with, if it goes on in this line. -/
def continued? (c : Cursor) : Container → Option Cursor
  | quote => afterQuoteMark? (c.advance 3).2
  | list .. => some c
  | item indent =>
    let (missing, d) := c.advance indent
    if missing = 0 || d.isAtEnd then some d else none

/-- How many of the containers go on in a line, and the place behind all that they begin with. -/
def follow : List Container → Cursor → Nat × Cursor
  | [], c => (0, c)
  | k :: ks, c =>
    match continued? c k with
    | none => (0, c)
    | some d =>
      let (n, e) := follow ks d
      (n + 1, e)

end Container

/-- A line in some containers: whether all of them go on in it, and the place behind their marks. -/
structure InnerLine where
  isInside : Bool
  contents : Cursor

/-- The line at the beginning of a text. -/
def innerLine (containers : List Container) (s : Text) : InnerLine :=
  let (n, c) := Container.follow containers (.atLineStart s)
  ⟨n = containers.length, c⟩

namespace InnerLine

/-- Whether nothing but blanks stands in the line. -/
def isBlank (line : InnerLine) : Bool := (afterBlankLine? line.contents.rest).isSome

/-- The text behind an indentation of less than four columns, if the line is not indented further. -/
def afterSmallIndent? (line : InnerLine) : Option Text :=
  let (missing, c) := line.contents.advance 4
  if missing = 0 then none else some c.rest

/-- What follows the line, if it makes the paragraph above it a heading. -/
def afterUnderline? (line : InnerLine) : Option Text :=
  if line.isInside then line.afterSmallIndent?.bind Markdown.afterUnderline? else none

/-- Whether a paragraph ends before the line because something else begins in it. -/
def interrupts (line : InnerLine) : Bool :=
  line.afterSmallIndent?.any (interruptsParagraph line.isInside)

end InnerLine

end DiagramProse.Markdown
