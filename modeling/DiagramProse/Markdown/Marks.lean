import DiagramProse.Markdown.RawHtml

/-!
The marks with which blocks begin: breaks, headings, fences, quotes and list items; and what ends a
paragraph. Every recogniser looks at the text behind the indentation.
-/

namespace DiagramProse.Markdown

open Text

/-! ## Breaks and headings -/

/-- What follows a thematic break: a line of three or more equal marks with blanks between them. -/
def afterBreak? (s : Text) : Option Text :=
  match s with
  | [] => none
  | c :: _ =>
    let line := s.takeWhile fun x => !isLineEnd x
    if (c = '*' ∨ c = '-' ∨ c = '_') && line.all (fun x => x == c || x == ' ' || x == '\t')
        && 3 ≤ line.count c then
      afterLineEnd? (s.drop line.length)
    else none

/-- Whether a heading of up to six number signs begins here. -/
def beginsHeading (s : Text) : Bool :=
  let level := (s.takeWhile (· == '#')).length
  1 ≤ level && level ≤ 6 && !(s.drop level).head?.any fun c => !isGapOrEnd c

/-- What follows a line that makes the paragraph above it a heading. -/
def afterUnderline? (s : Text) : Option Text :=
  match s with
  | [] => none
  | c :: _ => if c = '=' ∨ c = '-' then afterBlankLine? (s.dropWhile (· == c)) else none

/-! ## Fences -/

/-- The mark of a fence and how often it stands there. -/
structure FenceMark where
  mark : Char
  count : Nat
deriving DecidableEq, Repr

/-- A fence has three marks or more; behind backticks no other backtick follows on the line. -/
def fenceMark? (s : Text) : Option FenceMark :=
  match s with
  | [] => none
  | c :: _ =>
    let count := (s.takeWhile (· == c)).length
    if c = '~' ∧ 3 ≤ count then some ⟨c, count⟩
    else if c = '\x60' ∧ 3 ≤ count ∧ ¬ (splitLineFeed (s.drop count)).1.contains [c] then
      some ⟨c, count⟩
    else none

/-- What follows the closing fence, its trailing spaces included. The end of the text closes a fence
as well. -/
def afterClosingFence? (f : FenceMark) (s : Text) : Option Text :=
  let count := (s.takeWhile (· == f.mark)).length
  let rest := (s.drop count).dropWhile (· == ' ')
  if s.isEmpty || (f.count ≤ count && (afterLineEnd? rest).isSome) then some rest else none

/-! ## Containers -/

def isBullet (c : Char) : Bool := c == '-' || c == '+' || c == '*'

/-- The marker of a list item: its width, the character by which the items of a list agree, and its number
if it has one. -/
structure ListMarker where
  width : Nat
  mark : Char
  number : Option Nat
deriving DecidableEq, Repr

def listMarker? (s : Text) : Option ListMarker :=
  match s with
  | [] => none
  | c :: _ =>
    if isBullet c then some ⟨1, c, none⟩
    else
      let digits := s.takeWhile Char.isDigit
      match (s.drop digits.length).head? with
      | none => none
      | some mark =>
        if digits.isEmpty || 9 < digits.length || !(mark == '.' || mark == ')') then none
        else some ⟨digits.length + 1, mark, some (Nat.ofDigitChars 10 digits 0)⟩

/-- Behind a marker there is a blank, or the line ends. -/
def endsMarker (s : Text) : Bool := !s.head?.any fun c => !(c == ' ' || c == '\t' || isLineEnd c)

/-- Whether a list item begins here that ends the paragraph in front. In a paragraph that goes on only
by laziness any item does; in any other one, an item with contents in its first line and with the number
one or none. -/
def listInterrupts (inContainers : Bool) (s : Text) : Bool :=
  match listMarker? s with
  | none => false
  | some marker =>
    let rest := s.drop marker.width
    endsMarker rest
      && (!inContainers
        || ((marker.number.isNone || marker.number = some 1) && (afterBlankLine? rest).isNone))

/-- Whether a paragraph ends before this line. -/
def interruptsParagraph (inContainers : Bool) (s : Text) : Bool :=
  (afterLineEnd? s).isSome || (afterBreak? s).isSome || beginsHeading s || (fenceMark? s).isSome
    || s.startsWith ['>'] || listInterrupts inContainers s || (interruptingHtml? s).isSome

end DiagramProse.Markdown
