import DiagramProse.Markdown.InfoString
import DiagramProse.Markdown.Paragraph

/-!
The fenced code blocks of a document. A document is walked through from line to line; at each line
that belongs to no block yet, `Walk.step` reads the block that begins there and goes on behind it.
-/

namespace DiagramProse.Markdown

open Text

/-- A fenced code block: the text behind the opening fence, the code, and the positions at which the
opening fence begins and the block ends. -/
structure Fence where
  info : Text
  code : Text
  start : Nat
  stop : Nat
deriving DecidableEq, Repr

/-! ## Code -/

/-- Code from the beginning of a line on, the text behind its block, and the text where the next block
may begin. -/
structure FencedCode where
  code : Text
  after : Text
  next : Text

/-- A line of code as it is kept. A line that ends in a carriage return and a line feed ends in a line
feed only. -/
def codeLine (line : Text) : Text :=
  match line.reverse with
  | c :: '\r' :: before => if c.toNat < 128 then before.reverse ++ [c] else line
  | _ => line

/-- Reads code up to its closing fence, or to a line outside its containers. Of every line the
indentation of the opening fence is taken away, as far as it has it. -/
def fencedCode (containers : List Container) (mark : FenceMark) (indent : Nat) :
    (fuel : Nat) → Text → FencedCode
  | 0, _ => ⟨[], [], []⟩
  | fuel + 1, s =>
    let line := innerLine containers s
    if !line.isInside then ⟨[], s, s⟩
    else
      let contents := (line.contents.advance indent).2
      let (missing, place) := contents.advance (4 - indent)
      match if missing = 0 then none else afterClosingFence? mark place.rest with
      | some after => ⟨[], after, (afterBlankLine? after).getD after⟩
      | none =>
        let (current, rest) := splitLineFeed contents.rest
        let further := fencedCode containers mark indent fuel rest
        { further with
          code := List.replicate contents.pending ' ' ++ codeLine current ++ further.code }

/-! ## The walk -/

/-- What is known at the beginning of a line: the open containers, whether the innermost of them is an
item of which nothing but blank lines was read, and whether the line before was blank. -/
structure Walk where
  containers : List Container
  isFresh : Bool
  isAfterBlank : Bool
deriving DecidableEq, Repr

namespace Walk

def start : Walk := ⟨[], false, false⟩

/-- Keeps the outermost `n` containers. What was told about a fresh item is forgotten with a tight list. -/
def keep (w : Walk) (n : Nat) : Walk :=
  let closesTightList := (w.containers.drop n).any fun
    | .list _ isTight => isTight
    | _ => false
  { w with containers := w.containers.take n, isFresh := w.isFresh && !closesTightList }

/-- Closes the innermost container. -/
def close (w : Walk) : Walk := w.keep (w.containers.length - 1)

/-- An item of which nothing was read before a blank line is over. -/
def closeEmptyItem (w : Walk) : Walk :=
  let v := match w.containers.getLast? with
    | some (.item _) => if w.isFresh && w.isAfterBlank then w.close else w
    | _ => w
  { v with isFresh := false }

/-- The list around the innermost item is loose, if there is one. -/
def loosen (w : Walk) : Walk :=
  match w.containers.reverse with
  | inner :: .list mark _ :: outer => { w with containers := outer.reverse ++ [.list mark false, inner] }
  | _ => w

/-- Something that is no item follows, so the list is over. Behind a blank line it makes the list around
it loose. -/
def closeList (w : Walk) : Walk :=
  let u := w.closeEmptyItem
  let v := match u.containers.getLast? with
    | some (.list ..) => u.close
    | _ => u
  { (if v.isAfterBlank then v.loosen else v) with isAfterBlank := false }

def openQuote (w : Walk) : Walk :=
  let v := w.closeList
  { v with containers := v.containers ++ [.quote] }

/-- An item goes on with the list in front, if there is one with the same mark. A blank line between them
makes the list loose. -/
def openItem (w : Walk) (mark : Char) (indent : Nat) : Walk :=
  let u := w.closeEmptyItem
  let inNewList : Walk :=
    let v := u.closeList
    { v with containers := v.containers ++ [.list mark true, .item indent] }
  match u.containers.getLast? with
  | some (.list m isTight) =>
    if m = mark then
      { u with
        containers := u.containers.dropLast ++ [.list m (isTight && !u.isAfterBlank), .item indent]
        isAfterBlank := false }
    else inNewList
  | _ => inNewList

/-- The mark of an item, the columns by which its lines are indented, and the place behind its marker. -/
def itemMarker? (outer : Nat) (c : Cursor) : Option (Char × Nat × Cursor) := do
  guard (!c.rest.head?.any isBullet || (afterBreak? c.rest).isNone)
  let marker ← listMarker? c.rest
  let marked := c.skip marker.width
  let (missing, d) := marked.advance 1
  guard (missing = 0 || d.isAtEnd)
  let indent := outer + marker.width + 1
  if (afterBlankLine? d.rest).isSome then return (marker.mark, indent, d)
  else
    let (missing, e) := d.advance 4
    return (marker.mark, if missing = 0 then (indent, d) else (indent + (4 - missing), e))

/-- Opens the containers that begin in a line. An item with nothing else in its first line is the last
of them; the text behind that line is told then. -/
def openContainers : (fuel : Nat) → Walk → Cursor → Walk × Cursor × Option Text
  | 0, w, c => (w, c, none)
  | fuel + 1, w, c =>
    let (missing, d) := c.advance 4
    if missing = 0 then (w, c, none)
    else
      match itemMarker? (4 - missing) d with
      | some (mark, indent, e) =>
        let v := w.openItem mark indent
        match afterBlankLine? e.rest with
        | some rest => ({ v with isFresh := true }, e, some rest)
        | none => openContainers fuel v e
      | none =>
        match Container.afterQuoteMark? d with
        | some e => openContainers fuel w.openQuote e
        | none => (w, c, none)

/-- A blank line was read. An item that has not begun yet does not go on behind it by indentation. -/
def seeBlank (w : Walk) : Walk :=
  match w.containers.getLast? with
  | some .quote => w
  | some (.item _) =>
    if w.isFresh then
      { w with containers := w.containers.dropLast ++ [.item 0], isAfterBlank := true }
    else { w with isAfterBlank := true }
  | _ => { w with isAfterBlank := true }

/-- Reads the block that begins at an opening fence. -/
def readFence (w : Walk) (mark : FenceMark) (indent total : Nat) (s : Text) : Fence × Text :=
  let (line, rest) := splitLineFeed (s.drop mark.count)
  let info := dropEndWhile isGapOrEnd (line.dropWhile isGap)
  let code := fencedCode w.containers mark indent (s.length + 1) rest
  (⟨unescape info, code.code, total - s.length, total - code.after.length⟩, code.next)

/-- Reads the block that begins at the text `s`, behind an indentation of less than four columns. -/
def readBlock (w : Walk) (indent total : Nat) (s : Text) : Walk × Text × Option Fence :=
  let v := w.closeList
  match htmlBlock? s with
  | some limit => (v, afterHtml v.containers limit (s.length + 1) s, none)
  | none =>
    match afterBreak? s with
    | some rest => (v, rest, none)
    | none =>
      if beginsHeading s then (v, afterLine s, none)
      else
        match fenceMark? s with
        | some mark =>
          let (fence, rest) := v.readFence mark indent total s
          (v, rest, some fence)
        | none => (v, afterParagraph v.containers (s.length + 1) s, none)

/-- Reads the block that begins at a line, or the blank line. `total` is the length of the document. -/
def step (w : Walk) (total : Nat) (s : Text) : Walk × Text × Option Fence :=
  let (count, c) := Container.follow w.containers (.atLineStart s)
  let (v, d, blankItem) := (w.keep count).openContainers (s.length + 1) c
  match blankItem <|> (afterBlankLine? d.rest) with
  | some rest => (if blankItem.isSome then v else v.seeBlank, rest, none)
  | none =>
    let (missing, e) := d.advance 4
    if missing = 0 then
      let closed := v.closeList
      let (blank, rest) := afterIndentedCode closed.containers (s.length + 1) e.rest false
      ({ closed with isAfterBlank := blank }, rest, none)
    else v.readBlock (4 - missing) total e.rest

/-- All fenced blocks from a line on. -/
def fencesFrom (total : Nat) : (fuel : Nat) → Walk → Text → List Fence
  | 0, _, _ => []
  | fuel + 1, w, s =>
    if s.isEmpty then []
    else
      let (v, rest, fence) := w.step total s
      fence.toList ++ fencesFrom total fuel v rest

end Walk

/-- The fenced code blocks of a document, in order. -/
def fences (document : Text) : List Fence :=
  Walk.fencesFrom document.length document.length .start document

end DiagramProse.Markdown
