import DiagramProse.C4Diagram.Basic
import DiagramProse.Dialect
import DiagramProse.Text.Lines
import DiagramProse.Text.Quoted
import DiagramProse.Text.Word

/-!
Reading a C4 diagram. An element is a word followed by arguments in parentheses, wherever in the text
it stands. Commas and parentheses in double quotes belong to their argument, and so do parentheses
that are balanced; arguments given by name are left out.
-/

namespace DiagramProse

open Text

/-! ## Calls -/

/-- A word and its arguments. -/
structure C4Call where
  name : Text
  arguments : List Text
deriving DecidableEq, Repr

/-- An argument as it counts: trimmed and without quotes, and none if it is given by name. -/
def positional? (raw : Text) : Option Text :=
  let t := raw.trim
  if t.startsWith ['$'] then none else some (unquote t)

/-- The arguments up to the closing parenthesis, as written, and the text behind it. -/
def rawArguments? : (quoted : Bool) → (depth : Nat) → Text → Option (List Text × Text)
  | _, _, [] => none
  | quoted, depth, c :: s =>
    let keep (rest : Option (List Text × Text)) : Option (List Text × Text) :=
      rest.map fun (args, after) =>
        match args with
        | [] => ([[c]], after)
        | a :: as => ((c :: a) :: as, after)
    if c = '"' then keep (rawArguments? (!quoted) depth s)
    else if quoted then keep (rawArguments? quoted depth s)
    else if c = '(' then keep (rawArguments? quoted (depth + 1) s)
    else if c = ')' then
      match depth with
      | 0 => some ([[]], s)
      | depth + 1 => keep (rawArguments? quoted depth s)
    else if c = ',' && depth == 0 then
      (rawArguments? quoted depth s).map fun (args, after) => ([] :: args, after)
    else keep (rawArguments? quoted depth s)

def readArguments? (s : Text) : Option (List Text × Text) :=
  (rawArguments? false 0 s).map fun (args, after) => (args.filterMap positional?, after)

/-- The characters of the words that are called; a digit does not come first. -/
def isCallChar (c : Char) : Bool := c.isAlphanum || c == '_'

/-- A word and an opening parenthesis, perhaps with blanks between them; and the text behind it. -/
def callHead? (s : Text) : Option (Text × Text) := do
  let first ← s.head?
  guard (isCallChar first && !first.isDigit)
  let name := s.takeWhile isCallChar
  let rest ← dropPrefix? (trimStart (s.drop name.length)) ['(']
  return (name, rest)

/-- The calls in the text behind the character `before`, once `skip` characters are passed over. What
stands within the arguments of a call is no call; a word whose parenthesis is never closed is none. -/
def findCalls : (skip : Nat) → (before : Option Char) → Text → List C4Call
  | _, _, [] => []
  | skip + 1, _, c :: s => findCalls skip (some c) s
  | 0, before, c :: s =>
    match if before.any isWordChar then none else callHead? (c :: s) with
    | none => findCalls 0 (some c) s
    | some (name, inside) =>
      match readArguments? inside with
      | some (arguments, after) => ⟨name, arguments⟩ :: findCalls (s.length - after.length) (some c) s
      | none => findCalls (s.length - inside.length) (some c) s

/-! ## Elements -/

/-- What the name of a call stands for. -/
inductive C4Element where
  | actor (isExternal : Bool)
  | system (kind : C4SystemKind) (isExternal : Bool)
  | container (kind : C4ContainerKind) (isExternal : Bool)
  | boundary (kind : C4ContainerKind)
  | component (isDatabase : Bool)
  | relationship (isBidirectional : Bool)
deriving DecidableEq, Repr

def c4ElementNames : List (Text × C4Element) := [
  ("Person", .actor false),
  ("Person_Ext", .actor true),
  ("System", .system .system false),
  ("System_Ext", .system .system true),
  ("SystemDb", .system .database false),
  ("SystemDb_Ext", .system .database true),
  ("SystemQueue", .system .queue false),
  ("SystemQueue_Ext", .system .queue true),
  ("Container", .container .container false),
  ("Container_Ext", .container .container true),
  ("ContainerDb", .container .database false),
  ("ContainerDb_Ext", .container .database true),
  ("ContainerQueue", .container .queue false),
  ("ContainerQueue_Ext", .container .queue true),
  ("Container_Boundary", .boundary .boundary),
  ("Boundary", .boundary .boundary),
  ("Enterprise_Boundary", .boundary .boundary),
  ("System_Boundary", .boundary .systemBoundary),
  ("Component", .component false),
  ("Component_Ext", .component false),
  ("ComponentDb", .component true),
  ("ComponentDb_Ext", .component true),
  ("ComponentQueue", .component false),
  ("ComponentQueue_Ext", .component false)]

/-- Where a relationship may be laid out. -/
def relationshipDirections : List Text :=
  ["U", "Up", "D", "Down", "L", "Left", "R", "Right", "Back", "Neighbor", "Back_Neighbor"]

/-- A relationship in one or in both directions, perhaps with a direction for the layout. -/
def relationshipOfName? (name : Text) : Option C4Element := do
  let (isBidirectional, rest) ← (dropPrefix? name "Rel").map (Prod.mk false)
    <|> (dropPrefix? name "BiRel").map (Prod.mk true)
  guard (rest.isEmpty || (dropPrefix? rest ['_']).any relationshipDirections.contains)
  return .relationship isBidirectional

def C4Element.ofName? (name : Text) : Option C4Element :=
  c4ElementNames.lookup name <|> relationshipOfName? name

namespace C4Call

/-- The argument with an index, empty if missing. -/
def argument (c : C4Call) (i : Nat) : Text := c.arguments[i]?.getD []

/-- The argument with an index, unless it is missing or empty. -/
def argument? (c : C4Call) (i : Nat) : Option Text := c.arguments[i]?.bind nonempty?

end C4Call

namespace C4Diagram

/-- An element needs an id, a relationship a target as well; an element without a name is called by
its id. -/
def addCall (d : C4Diagram) (c : C4Call) : C4Diagram :=
  match c.argument? 0, C4Element.ofName? c.name with
  | none, _ | _, none => d
  | some id, some element =>
    let name := (c.argument? 1).getD id
    match element with
    | .actor isExternal => { d with actors := d.actors ++ [⟨id, name, c.argument 2, isExternal⟩] }
    | .system kind isExternal =>
      { d with systems := d.systems ++ [⟨id, name, c.argument 2, kind, isExternal⟩] }
    | .container kind isExternal =>
      { d with
        containers := d.containers ++ [⟨id, name, c.argument? 2, c.argument 3, kind, isExternal⟩] }
    | .boundary kind => { d with containers := d.containers ++ [⟨id, name, none, [], kind, false⟩] }
    | .component isDatabase =>
      { d with components := d.components ++ [⟨id, name, c.argument? 2, c.argument 3, isDatabase⟩] }
    | .relationship isBidirectional =>
      match c.argument? 1 with
      | some target =>
        { d with
          relationships :=
            d.relationships ++ [⟨id, target, c.argument 2, c.argument? 3, isBidirectional⟩] }
      | none => d

def ofCalls (calls : List C4Call) : C4Diagram :=
  let d := calls.foldl addCall .empty
  { d with level := d.finestLevel }

def read (source : Text) : C4Diagram :=
  let kept := source.lines.filter fun line => !isComment line.trimStart
  ofCalls (findCalls 0 none (join ['\n'] kept))

end C4Diagram

end DiagramProse
