import DiagramProse.Arrow.Direction
import DiagramProse.Arrow.Search
import DiagramProse.Dialect
import DiagramProse.StateDiagram.Basic
import DiagramProse.Text.Lines
import DiagramProse.Text.Quoted
import DiagramProse.Text.Word

/-!
Reading a state diagram line by line. The pseudo state `[*]` marks the state at the other end of its
transition as initial or final, but only outside composite states.
-/

namespace DiagramProse

open Text

/-! ## Transitions -/

def stateArrows : Arrow.Table Unit := [("-->", ()), ("->", ())]

/-- A name without blanks, perhaps in quotes. -/
def stateName? (s : Text) : Option Text :=
  let name := unquote s.trim
  if name.isEmpty || name.any isBlank then none else some name

/-- Two states with an arrow between them, and a label behind a colon. -/
def Transition.read? (line : Text) : Option Transition := do
  let plain := Arrow.withoutHints line
  let (body, label) := match cutAt? (· == ':') plain with
    | some (body, label) => (body, nonempty? (unquote (trim label)))
    | none => (plain, none)
  let arrow ← Arrow.find? body stateArrows
  return ⟨← stateName? arrow.left, ← stateName? arrow.right, label⟩

/-! ## Declarations -/

/-- The characters that end the name of a state. -/
def endsStateName (c : Char) : Bool := isBlank c || c == '\x7b' || c == ':' || c == '#' || c == '<'

/-- The longest non-empty beginning without a character that `stops`, and what follows. -/
def takeName? (stops : Char → Bool) (s : Text) : Option (Text × Text) :=
  let name := s.takeWhile fun c => !stops c
  if name.isEmpty then none else some (name, s.drop name.length)

/-- A non-empty text in quotes, and what follows. -/
def takeQuoted? (s : Text) : Option (Text × Text) := do
  let (label, rest) ← cutAt? (· == '"') (← dropPrefix? s ['"'])
  guard (!label.isEmpty)
  return (label, rest)

/-- What follows the word `as` between blanks. -/
def afterAs? (s : Text) : Option Text := do afterBlanks? (← dropPrefix? (← afterBlanks? s) "as")

/-- A label, and then the name that it is for. -/
def readLabelledState? (s : Text) : Option (Text × Option Text) := do
  let (label, rest) ← takeQuoted? s
  let (name, _) ← takeName? endsStateName (← afterAs? rest)
  return (name, some label)

/-- A name, and then a label for it. -/
def readAliasedState? (s : Text) : Option (Text × Option Text) := do
  let (name, rest) ← takeName? (fun c => endsStateName c || c == '"') s
  let (label, _) ← takeQuoted? (← afterAs? rest)
  return (name, some label)

def readPlainState? (s : Text) : Option (Text × Option Text) := do
  let (name, _) ← takeName? endsStateName s
  return (name, none)

/-- The name and the label in a declaration, of which the keyword was read. -/
def readStateName? (s : Text) : Option (Text × Option Text) := do
  let rest ← afterBlanks? s
  readLabelledState? rest <|> readAliasedState? rest <|> readPlainState? rest

/-- The state that a line describes behind a colon. -/
def readStateDescription? (line : Text) : Option Text := do
  let (name, rest) ← takeName? (fun c => !(isWordChar c || c == '.')) line
  let description ← dropPrefix? rest.trimStart [':']
  guard (!description.isEmpty)
  return name

/-! ## Statements -/

/-- What a line outside a note says. -/
inductive StateStatement where
  | note (isOpen : Bool)
  | closeComposite
  | transition (t : Transition)
  | declaration (named : Option (Text × Option Text)) (opens : Bool)
  | description (state : Text)
  | other
deriving DecidableEq, Repr

def isStateDirective (line : Text) : Bool :=
  line = "--" || line = "||" ||
    line.startsWithAny [
      "@", "!", "hide ", "skinparam", "title ", "stateDiagram", "direction ", "scale ", "header",
      "footer", "caption ", "classDef ", "class ", "style "]

/-- The first reading that fits counts. -/
def StateStatement.read (line : Text) : StateStatement :=
  if line.isEmpty || isComment line || isStateDirective line then other
  else if line.startsWith "note " then note (!line.contains [':'])
  else if line = ['\x7d'] then closeComposite
  else
    match Transition.read? line with
    | some t => transition t
    | none =>
      if line.startsWith "state " then
        declaration (readStateName? (line.drop 5)) (line.endsWith ['\x7b'])
      else
        match readStateDescription? line with
        | some state => description state
        | none => other

/-! ## The diagram read so far -/

/-- The state that stands for the beginning and the end. -/
def pseudoState : Text := "[*]"

namespace StateDiagram

def addState (d : StateDiagram) (name : Text) : StateDiagram :=
  { d with states := insertName name d.states }

/-- A declared state, with its label if it has one. -/
def declare (d : StateDiagram) (name : Text) (label : Option Text) : StateDiagram :=
  let d := d.addState name
  match label with
  | some l => { d with labels := insertLabel name l d.labels }
  | none => d

/-- A transition; `outermost` tells whether it stands outside all composite states. -/
def addTransition (d : StateDiagram) (outermost : Bool) (t : Transition) : StateDiagram :=
  if t.source = pseudoState then
    if t.target = pseudoState then d
    else { d.addState t.target with initial := if outermost then some t.target else d.initial }
  else if t.target = pseudoState then
    { d.addState t.source with
      finals := if outermost then insertName t.source d.finals else d.finals }
  else
    let d := (d.addState t.source).addState t.target
    { d with transitions := d.transitions ++ [t] }

end StateDiagram

/-- The diagram read so far, the number of composite states around the next line, and whether that
line belongs to a note. -/
structure StateReader where
  diagram : StateDiagram
  depth : Nat
  inNote : Bool
deriving DecidableEq, Repr

namespace StateReader

def start : StateReader := ⟨.empty, 0, false⟩

def apply (r : StateReader) : StateStatement → StateReader
  | .note isOpen => { r with inNote := isOpen }
  | .closeComposite => { r with depth := r.depth - 1 }
  | .transition t => { r with diagram := r.diagram.addTransition (r.depth == 0) t }
  | .declaration named opens =>
    { r with
      diagram := (named.map fun (name, label) => r.diagram.declare name label).getD r.diagram
      depth := if opens then r.depth + 1 else r.depth }
  | .description state => { r with diagram := r.diagram.addState state }
  | .other => r

def step (r : StateReader) (raw : Text) : StateReader :=
  let line := raw.trim
  if r.inNote then { r with inNote := !(line = "end note" || line = "endnote") }
  else r.apply (.read line)

end StateReader

namespace StateDiagram

def ofLines (lines : List Text) : StateDiagram := (lines.foldl StateReader.step .start).diagram

def read (source : Text) : StateDiagram := ofLines source.lines

end StateDiagram

end DiagramProse
