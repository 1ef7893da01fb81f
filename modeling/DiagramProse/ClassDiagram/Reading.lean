import DiagramProse.ClassDiagram.Declaration
import DiagramProse.Text.Lines
import DiagramProse.Text.Word

/-!
Reading a class diagram line by line. Outside notes and class bodies a line is one `ClassStatement`;
`ClassReader.step` says what each line does to what was read so far, and `finish` adds a remark for
every block that is still open at the end.
-/

namespace DiagramProse

open Text

/-! ## Lines that say nothing about classes -/

def isClassDirective (line : Text) : Bool :=
  line.startsWithAny [
    "@", "!", "classDiagram", "direction", "hide ", "show ", "skinparam", "style ", "title ",
    "left to right", "top to bottom", "classDef ", "cssClass ", "click ", "link ", "callback ",
    "set ", "scale ", "caption "]

def isEndNote (line : Text) : Bool := line == "end note" || line == "endnote"

/-! ## Notes -/

/-- A note on one line, with written line breaks and runs of blanks as single spaces. -/
def cleanNote (s : Text) : Text := squeeze (replace "\\n" [' '] s)

/-- The name that a note is attached to, and what follows it. -/
def noteTarget? (s : Text) : Option (Text × Text) :=
  let name := s.takeWhile fun c => isWordChar c || c == '.'
  if name.isEmpty then none else some (name, s.drop name.length)

/-- A note for a class whose text follows in quotes. -/
def readQuotedNote? (s : Text) : Option (Text × Option Text) := do
  let (name, rest) ← noteTarget? (← afterBlanks? (← dropPrefix? s "for"))
  let text ← dropSuffix? (← dropPrefix? (← afterBlanks? rest) ['"']) ['"']
  return (name, some (cleanNote text))

/-- A note beside a class: its text follows behind a colon, or on the next lines. -/
def readPlacedNote? (s : Text) : Option (Text × Option Text) := do
  let rest ← List.findSome? (dropPrefix? s) ["left", "right", "top", "bottom"]
  let (name, rest) ← noteTarget? (← afterBlanks? (← dropPrefix? (← afterBlanks? rest) "of"))
  match rest.trimStart with
  | [] => return (name, none)
  | c :: text =>
    guard (c == ':')
    return (name, some (cleanNote text))

/-- The class a note belongs to and its text; no text stands for a note of several lines. -/
def readClassNote? (line : Text) : Option (Text × Option Text) := do
  let rest ← afterBlanks? (← dropPrefix? line "note")
  readQuotedNote? rest <|> readPlacedNote? rest

/-! ## Groups, annotations and members outside bodies -/

/-- The name of a package or namespace that opens here. -/
def readGroup? (line : Text) : Option Text := do
  let rest ← List.findSome? (dropPrefix? line) ["package ", "namespace ", "together"]
  return unquote (trim (← dropSuffix? rest.trim ['\x7b']))

/-- A line that holds nothing but a stereotype. -/
def readStereotypeLine? (line : Text) : Option Text := do
  return trim (← dropSuffix? (← dropPrefix? line "<<") ">>")

/-- A stereotype and the class it is given to. -/
def readMarking? (line : Text) : Option (Text × Text) := do
  let (label, name) ← cut? ">>" (← dropPrefix? line "<<")
  guard (isClassName name.trim)
  return (trim label, trim name)

/-- A class and one member of it. -/
def readOneLineMember? (line : Text) : Option (Text × Text) := do
  let (name, member) ← cutAt? (· == ':') line
  guard (isClassName (trim name) && !(trim member).isEmpty)
  return (trim name, trim member)

/-! ## Statements -/

/-- What a line outside notes and class bodies says. -/
inductive ClassStatement where
  | note (className text : Text)
  | openNote (className : Text)
  | openGroup (name : Text)
  | declaration (d : ClassDeclaration)
  | marking (label className : Text)
  | relation (r : Relation)
  | member (className text : Text)
  | other
deriving DecidableEq, Repr

/-- A note with its text, or the beginning of one. -/
def ClassStatement.ofNote : Text × Option Text → ClassStatement
  | (name, some text) => note name text
  | (name, none) => openNote name

/-- The first reading that fits counts. -/
def ClassStatement.read (line : Text) : ClassStatement :=
  ((readClassNote? line).map ofNote
    <|> (if line.startsWith "note " then some other else none)
    <|> (readGroup? line).map openGroup
    <|> (ClassDeclaration.read? line).map declaration
    <|> (readMarking? line).map (fun (label, name) => marking label name)
    <|> (Relation.read? line).map relation
    <|> (readOneLineMember? line).map (fun (name, text) => member name text)).getD other

/-! ## The diagram read so far -/

namespace ClassDiagram

def alterClass (d : ClassDiagram) (name : Text) (f : Classifier → Classifier) : ClassDiagram :=
  { d with classes := Classifier.alter name f d.classes }

/-- A class that is mentioned is in the diagram. -/
def mention (d : ClassDiagram) (name : Text) : ClassDiagram := d.alterClass name id

def addMember (d : ClassDiagram) (name text : Text) (dialect : Dialect) : ClassDiagram :=
  d.alterClass name fun c => ((Member.read? text dialect).map c.addMember).getD c

def setStereotype (d : ClassDiagram) (name : Text) (s : Stereotype) : ClassDiagram :=
  d.alterClass name fun c => { c with stereotype := some s }

/-- Both classes are mentioned, the source first. -/
def addRelation (d : ClassDiagram) (r : Relation) : ClassDiagram :=
  let d := (d.mention r.source).mention r.target
  { d with relations := d.relations ++ [r] }

def addNote (d : ClassDiagram) (className text : Text) : ClassDiagram :=
  { d with notes := d.notes ++ [⟨className, text⟩] }

def report (d : ClassDiagram) (line : Nat) (problem : ClassProblem) : ClassDiagram :=
  { d with diagnostics := d.diagnostics ++ [⟨line, problem⟩] }

def declare (d : ClassDiagram) (decl : ClassDeclaration) (dialect : Dialect) : ClassDiagram :=
  let named := d.alterClass decl.name fun c =>
    { c with stereotype := decl.stereotype <|> c.stereotype }
  let related := decl.parents.foldl (fun d (parent, kind) =>
    d.addRelation ⟨decl.name, parent, kind, none, none, none, false⟩) named
  decl.inlineMembers.foldl (fun d member => d.addMember decl.name member dialect) related

end ClassDiagram

/-! ## Lines -/

/-- A block that was opened and not closed yet. -/
inductive ClassBlock where
  | body (className : Text)
  | group (name : Text)
deriving DecidableEq, Repr

def ClassBlock.problem : ClassBlock → ClassProblem
  | body name => .openClass name
  | group name => .openGroup name

/-- A note whose text is being collected, and the line it began on. -/
structure OpenClassNote where
  className : Text
  line : Nat
  text : List Text
deriving DecidableEq, Repr

/-- The innermost open block is the first one. -/
structure ClassReader where
  diagram : ClassDiagram
  blocks : List ClassBlock
  note : Option OpenClassNote
deriving DecidableEq, Repr

namespace ClassReader

def start : ClassReader := ⟨.empty, [], none⟩

/-- A line within a note of several lines. -/
def noteLine (r : ClassReader) (n : OpenClassNote) (line : Text) : ClassReader :=
  if isEndNote line then
    { r with diagram := r.diagram.addNote n.className (join [' '] n.text), note := none }
  else if line.isEmpty then r
  else { r with note := some { n with text := n.text ++ [line] } }

/-- A line within the body of a class. -/
def bodyLine (r : ClassReader) (dialect : Dialect) (className line : Text) : ClassReader :=
  match readStereotypeLine? line with
  | some label => { r with diagram := r.diagram.setStereotype className (.ofLabel label) }
  | none => { r with diagram := r.diagram.addMember className line dialect }

def apply (r : ClassReader) (dialect : Dialect) (number : Nat) : ClassStatement → ClassReader
  | .note name text => { r with diagram := r.diagram.addNote name text }
  | .openNote name => { r with note := some ⟨name, number, []⟩ }
  | .openGroup name => { r with blocks := .group name :: r.blocks }
  | .declaration d =>
    { r with
      diagram := r.diagram.declare d dialect
      blocks := if d.opensBody then .body d.name :: r.blocks else r.blocks }
  | .marking label name => { r with diagram := r.diagram.setStereotype name (.ofLabel label) }
  | .relation rel => { r with diagram := r.diagram.addRelation rel }
  | .member name text => { r with diagram := r.diagram.addMember name text dialect }
  | .other => r

/-- A closing brace ends the innermost block. -/
def closeBlock (r : ClassReader) (number : Nat) : ClassReader :=
  match r.blocks with
  | _ :: rest => { r with blocks := rest }
  | [] => { r with diagram := r.diagram.report number .strayBrace }

/-- Reads the line with the given number. -/
def step (dialect : Dialect) (r : ClassReader) (number : Nat) (raw : Text) : ClassReader :=
  let line := raw.trim
  match r.note with
  | some n => r.noteLine n line
  | none =>
    if line.isEmpty || isComment line || isClassDirective line then r
    else if line.startsWith ['\x7d'] then r.closeBlock number
    else
      match r.blocks with
      | .body name :: _ => r.bodyLine dialect name line
      | _ => r.apply dialect number (.read line)

/-- Reads lines of which the first has the given number. -/
def run (dialect : Dialect) : (number : Nat) → List Text → ClassReader → ClassReader
  | _, [], r => r
  | number, line :: rest, r => run dialect (number + 1) rest (r.step dialect number line)

/-- The diagram, with remarks on a note and on blocks that are still open after `count` lines. -/
def finish (r : ClassReader) (count : Nat) : ClassDiagram :=
  let noted :=
    match r.note with
    | some n => r.diagram.report n.line (.openNote n.className)
    | none => r.diagram
  r.blocks.foldl (fun d block => d.report count block.problem) noted

end ClassReader

namespace ClassDiagram

def ofLines (dialect : Dialect) (lines : List Text) : ClassDiagram :=
  (ClassReader.start.run dialect 1 lines).finish lines.length

/-- Reads a class diagram written in the given notation. -/
def read (dialect : Dialect) (source : Text) : ClassDiagram := ofLines dialect source.lines

end ClassDiagram

end DiagramProse
