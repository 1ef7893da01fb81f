import DiagramProse.Text.Radix
import DiagramProse.Yaml.Place

/-!
The scalars of YAML: plain, quoted, and blocks of lines. A reader gives the text and the place behind it.
-/

namespace DiagramProse.Yaml

open Text

/-! ## Plain scalars -/

/-- The word of a plain scalar that begins here; between brackets a colon in front of a bracket or comma
is refused. -/
def plainWord? (inFlow : Bool) : Text → Option Text
  | [] => some []
  | c :: s =>
    if isGapOrBreak c || (c = ':' && isAtGap s) then some []
    else if inFlow && c = ':' && s.head?.any (fun d => isFlowChar d || d == '?') then none
    else if inFlow && isFlowChar c then some []
    else (plainWord? inFlow s).map (c :: ·)

/-- What belongs to a plain scalar behind one of its words; also tells whether a line ended behind the
last word. -/
def plainTail? (inFlow : Bool) (margin : Nat) : (fuel : Nat) → Place → Option (Text × Place × Bool)
  | 0, _ => none
  | fuel + 1, p =>
    if !isAtGap p.rest then some ([], p, false)
    else do
      let (gap, q) ← gap? margin (p.rest.length + 1) false p
      let isOutside := (!inFlow && q.column < margin) || q.isDocumentMark || q.rest.head? = some '#'
      let word ← if isOutside then some [] else plainWord? inFlow q.rest
      if word.isEmpty then return ([], q, !gap.breaks.isEmpty)
      else
        let (tail, r, isBroken) ← plainTail? inFlow margin fuel (q.skip word.length)
        return (gap.folded ++ word ++ tail, r, isBroken)

/-- A plain scalar. -/
def plain? (inFlow : Bool) (margin : Nat) (p : Place) : Option (Text × Place × Bool) := do
  let word ← plainWord? inFlow p.rest
  let (tail, q, isBroken) ← plainTail? inFlow margin (p.rest.length + 1) (p.skip word.length)
  return (word ++ tail, q, isBroken)

/-! ## Quoted scalars -/

/-- The character that is escaped by a backslash, which was read. -/
def escaped? : Text → Option (Char × Text)
  | '0' :: s => some ('\x00', s)
  | 'a' :: s => some ('\x07', s)
  | 'b' :: s => some ('\x08', s)
  | 't' :: s => some ('\t', s)
  | '\t' :: s => some ('\t', s)
  | 'n' :: s => some ('\n', s)
  | 'v' :: s => some ('\x0b', s)
  | 'f' :: s => some ('\x0c', s)
  | 'r' :: s => some ('\r', s)
  | 'e' :: s => some ('\x1b', s)
  | ' ' :: s => some (' ', s)
  | '"' :: s => some ('"', s)
  | '/' :: s => some ('/', s)
  | '\\' :: s => some ('\\', s)
  | 'N' :: s => some ('\u0085', s)
  | '_' :: s => some ('\u00a0', s)
  | 'L' :: s => some ('\u2028', s)
  | 'P' :: s => some ('\u2029', s)
  | 'x' :: s => codedChar? 2 s
  | 'u' :: s => codedChar? 4 s
  | 'U' :: s => codedChar? 8 s
  | _ => none

/-- The rest of a scalar in single quotes. -/
def singleQuoted? : (fuel : Nat) → Place → Option (Text × Place)
  | 0, _ => none
  | fuel + 1, p =>
    if p.isDocumentMark then none
    else
      match p.rest with
      | [] => none
      | '\'' :: '\'' :: _ => (singleQuoted? fuel (p.skip 2)).map fun (t, q) => ('\'' :: t, q)
      | '\'' :: _ => some ([], p.skip 1)
      | c :: _ =>
        if isGapOrBreak c then do
          let (gap, q) ← gap? 0 (p.rest.length + 1) false p
          (singleQuoted? fuel q).map fun (t, r) => (gap.folded ++ t, r)
        else (singleQuoted? fuel (p.skip 1)).map fun (t, q) => (c :: t, q)

/-- The rest of a scalar in double quotes. Behind an escaped line break the blanks are left out, and
further line breaks stay as they are. -/
def doubleQuoted? : (fuel : Nat) → Place → Option (Text × Place)
  | 0, _ => none
  | fuel + 1, p =>
    if p.isDocumentMark then none
    else
      match p.rest with
      | [] => none
      | '"' :: _ => some ([], p.skip 1)
      | '\\' :: rest =>
        if isAtBreak rest then do
          let start := (p.skip 1).skipBreak
          let (gap, q) ← gap? 0 (p.rest.length + 1) true start
          (doubleQuoted? fuel q).map fun (t, r) => (gap.breaks ++ t, r)
        else do
          let (c, after) ← escaped? rest
          (doubleQuoted? fuel (p.skip (1 + (rest.length - after.length)))).map fun (t, q) => (c :: t, q)
      | c :: _ =>
        if isGapOrBreak c then do
          let (gap, q) ← gap? 0 (p.rest.length + 1) false p
          (doubleQuoted? fuel q).map fun (t, r) => (gap.folded ++ t, r)
        else (doubleQuoted? fuel (p.skip 1)).map fun (t, q) => (c :: t, q)

/-! ## Blocks of lines -/

/-- What is done with the line breaks at the end of a block. -/
inductive Chomping where
  | strip
  | clip
  | keep
deriving DecidableEq, Repr

/-- How a block is to be read. -/
structure BlockHeader where
  chomping : Chomping := .clip
  /-- By how much the block is indented, if that is given. -/
  increment : Option Nat := none
deriving DecidableEq, Repr

def chomping? : Text → Option (Chomping × Text)
  | '+' :: s => some (.keep, s)
  | '-' :: s => some (.strip, s)
  | _ => none

/-- A digit other than zero. -/
def increment? : Text → Option (Nat × Text)
  | c :: s => if c.isDigit && c != '0' then some (c.toNat - '0'.toNat, s) else none
  | [] => none

/-- The header behind the indicator of a block: chomping and increment in either order. -/
def blockHeader (s : Text) : BlockHeader × Text :=
  match chomping? s with
  | some (chomping, r) =>
    match increment? r with
    | some (n, r) => (⟨chomping, some n⟩, r)
    | none => (⟨chomping, none⟩, r)
  | none =>
    match increment? s with
    | some (n, r) =>
      match chomping? r with
      | some (chomping, r) => (⟨chomping, some n⟩, r)
      | none => (⟨.clip, some n⟩, r)
    | none => (⟨.clip, none⟩, s)

/-- Behind blank lines and the indentation of the next line, up to a given indentation; also the line
breaks, and the largest indentation met. -/
def blockBreaks? (indent : Option Nat) :
    (fuel : Nat) → (largest : Nat) → Place → Option (Text × Nat × Place)
  | 0, _, _ => none
  | fuel + 1, largest, p =>
    let spaces := (p.rest.takeWhile (· == ' ')).length
    let q := p.skip (match indent with
      | some n => min spaces (n - p.column)
      | none => spaces)
    let largest := max largest q.column
    if indent.all (q.column < ·) && q.rest.head? = some '\t' then none
    else if isAtBreak q.rest then
      (blockBreaks? indent fuel largest q.skipBreak).map fun (breaks, n, r) => (q.breakChar :: breaks, n, r)
    else some ([], largest, q)

/-- The lines of a block from the first that is not blank on. `pending` are the line breaks before it,
of which the first ends a line of the block; a folded block joins lines that do not begin with a blank. -/
def blockLines? (isLiteral : Bool) (chomping : Chomping) (indent : Nat) :
    (fuel : Nat) → (isAfterBlank : Bool) → (ending breaks : Text) → Place → Option (Text × Place)
  | 0, _, _, _, _ => none
  | fuel + 1, isAfterBlank, ending, breaks, p =>
    if p.column ≠ indent ∨ p.rest.isEmpty then
      let kept := match chomping with
        | .strip => []
        | .clip => ending
        | .keep => ending ++ breaks
      some (kept, p)
    else do
      let isBlank := p.rest.head?.any isGapChar
      let isJoined := !isLiteral && ending = ['\n'] && !isAfterBlank && !isBlank
      let joint := if isJoined then (if breaks.isEmpty then [' '] else []) else ending
      let line := p.rest.takeWhile fun c => !isBreak c
      let q := p.skip line.length
      let (nextEnding, q) := if q.rest.isEmpty then ([], q) else ([q.breakChar], q.skipBreak)
      let (nextBreaks, _, r) ← blockBreaks? (some indent) (p.rest.length + 1) 0 q
      let (tail, e) ← blockLines? isLiteral chomping indent fuel isBlank nextEnding nextBreaks r
      return (joint ++ breaks ++ line ++ tail, e)

/-- A block, of which the indicator was read. -/
def block? (isLiteral : Bool) (margin : Nat) (p : Place) : Option (Text × Place) := do
  let (header, after) := blockHeader p.rest
  let q := (p.skip (p.rest.length - after.length)).skipWhile isGapChar
  let q := if q.rest.head? = some '#' then q.skipWhile fun c => !isBreak c else q
  guard (q.rest.isEmpty || isAtBreak q.rest)
  let q := if q.rest.isEmpty then q else q.skipBreak
  let given := header.increment.map fun n => margin - 1 + n
  let (breaks, largest, r) ← blockBreaks? given (p.rest.length + 1) 0 q
  let indent := given.getD (max 1 (max margin largest))
  blockLines? isLiteral header.chomping indent (p.rest.length + 1) false [] breaks r

end DiagramProse.Yaml
