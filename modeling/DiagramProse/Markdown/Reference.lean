import DiagramProse.Markdown.Container

/-!
Definitions of link targets: a label in brackets, a colon, a destination and perhaps a title. They are
read over so that nothing in them is taken for a block. Between and inside the parts a line may end
once, if the next line begins nothing else.
-/

namespace DiagramProse.Markdown

open Text

def isPunctuation (c : Char) : Bool := (33 ≤ c.toNat && c.toNat ≤ 126) && !c.isAlphanum

/-- The text behind the marks of the containers in the next line, if that line goes on with the one
before. -/
def continuedLine? (containers : List Container) (s : Text) : Option Text :=
  let line := innerLine containers s
  if line.interrupts || line.afterUnderline?.isSome then none else some line.contents.rest

/-- What follows blanks with at most one end of a line among them; also tells whether there was one. -/
def afterSpace? (containers : List Container) (s : Text) : Option (Bool × Text) :=
  let t := s.dropWhile isGap
  match afterLineEnd? t with
  | none => some (false, t)
  | some next => do
    let u := (← continuedLine? containers next).dropWhile isGap
    if (afterLineEnd? u).isSome then none else some (true, u)

/-- What follows a label, of which the opening bracket was read. One of its characters is not blank, and
its `size` is less than 1000: the bytes of its blanks, escapes and characters beyond ASCII. -/
def afterLabel? (containers : List Container) :
    (fuel : Nat) → (size : Nat) → (isBlank : Bool) → Text → Option Text
  | 0, _, _, _ => none
  | fuel + 1, size, isBlank, s =>
    if 1000 ≤ size then none
    else
      match s with
      | [] => none
      | '[' :: _ => none
      | ']' :: rest => if isBlank then none else some rest
      | '\\' :: c :: rest => afterLabel? containers fuel (size + 1 + c.utf8Size) false rest
      | c :: rest =>
        if isGapOrEnd c then
          (afterSpace? containers s).bind fun (_, t) =>
            afterLabel? containers fuel (size + (s.length - t.length)) isBlank t
        else afterLabel? containers fuel (if c.toNat < 128 then size else size + c.utf8Size) false rest

/-- What follows a destination in angle brackets, of which the first was read. -/
def afterBracketed? : Text → Option Text
  | [] => none
  | '>' :: rest => some rest
  | '\\' :: c :: rest =>
    if isPunctuation c then afterBracketed? rest else afterBracketed? (c :: rest)
  | c :: rest => if c = '<' ∨ isLineEnd c then none else afterBracketed? rest

/-- What follows a bare destination, inside `depth` parentheses. -/
def afterBare? : (depth : Nat) → Text → Option Text
  | depth, [] => if depth = 0 then some [] else none
  | depth, '\\' :: c :: rest =>
    if isPunctuation c then afterBare? depth rest else afterBare? depth (c :: rest)
  | depth, c :: rest =>
    if c.toNat ≤ 32 then if depth = 0 then some (c :: rest) else none
    else if c = '(' then if 32 < depth then none else afterBare? (depth + 1) rest
    else if c = ')' then if depth = 0 then some (c :: rest) else afterBare? (depth - 1) rest
    else afterBare? depth rest

def afterDestination? (s : Text) : Option Text :=
  match s with
  | '<' :: rest => afterBracketed? rest
  | _ => (afterBare? 0 s).filter fun rest => rest.length < s.length

/-- What follows a title, of which the opening mark was read. -/
def afterTitleMark? (containers : List Container) (closing : Char) : (fuel : Nat) → Text → Option Text
  | 0, _ => none
  | fuel + 1, s =>
    match s with
    | [] => none
    | c :: rest =>
      if c = closing then some rest
      else if c = '(' ∧ closing = ')' then none
      else if isLineEnd c then
        (continuedLine? containers (afterLine s)).bind fun t =>
          if (afterBlankLine? t).isSome then none
          else afterTitleMark? containers closing fuel (Cursor.atLineStart t).skipSpaces.rest
      else
        match c, rest with
        | '\\', d :: further =>
          afterTitleMark? containers closing fuel (if isLineEnd d then rest else further)
        | _, _ => afterTitleMark? containers closing fuel rest

/-- What follows a title that ends its line. -/
def afterTitle? (containers : List Container) (s : Text) : Option Text :=
  let after :=
    match s with
    | '\'' :: rest => afterTitleMark? containers '\'' s.length rest
    | '"' :: rest => afterTitleMark? containers '"' s.length rest
    | '(' :: rest => afterTitleMark? containers ')' s.length rest
    | _ => none
  after.filter fun rest => (afterBlankLine? rest).isSome

/-- What follows a definition. A title that is not well formed belongs to the next block, if it stands
on a line of its own; otherwise there is no definition. -/
def afterReference? (containers : List Container) (s : Text) : Option Text := do
  let label ← dropPrefix? s ['[']
  let target ← dropPrefix? (← afterLabel? containers s.length 0 true label) [':']
  let (_, destination) ← afterSpace? containers target
  let after ← afterDestination? destination
  match afterSpace? containers after with
  | none => some after
  | some (isNewLine, title) =>
    if !isNewLine && title.length = after.length then none
    else afterTitle? containers title <|> (if isNewLine then some after else none)

end DiagramProse.Markdown
