import DiagramProse.SequenceDiagram.Message
import DiagramProse.SequenceDiagram.Participant
import DiagramProse.Text.Lines

/-!
Reading a sequence diagram line by line. A declaration replaces what was known of a participant and
keeps its place; a message names participants that were not declared, its sender first.
-/

namespace DiagramProse

open Text

/-- Puts a participant in the place of the one with its id, or at the end. -/
def Participant.insert (p : Participant) : List Participant → List Participant
  | [] => [p]
  | q :: qs => if q.id = p.id then p :: qs else q :: p.insert qs

namespace SequenceDiagram

def declare (d : SequenceDiagram) (p : Participant) : SequenceDiagram :=
  { d with participants := p.insert d.participants }

/-- A participant that is mentioned is in the diagram. -/
def mention (d : SequenceDiagram) (id : Text) : SequenceDiagram :=
  if id.isEmpty || (d.participant? id).isSome then d
  else { d with participants := d.participants ++ [.implicit id] }

def addMessage (d : SequenceDiagram) (m : Message) : SequenceDiagram :=
  let d := (d.mention m.sender).mention m.receiver
  { d with messages := d.messages ++ [m] }

end SequenceDiagram

/-- What a line outside a note says. -/
inductive SequenceStatement where
  | numbering
  | note (isOpen : Bool)
  | declaration (p : Participant)
  | message (m : Message)
  | other
deriving DecidableEq, Repr

/-- The first reading that fits counts. A note without a colon goes on over the next lines, but only
in PlantUML. -/
def SequenceStatement.read (dialect : Dialect) (line : Text) : SequenceStatement :=
  if line.isEmpty || isComment line then other
  else if line.startsWith "autonumber" then numbering
  else if line.lowerAscii.startsWithAny ["note ", "hnote ", "rnote "] then
    note (dialect = .plantUml && !line.contains [':'])
  else
    ((Participant.read? dialect line).map declaration <|> (Message.read? line).map message).getD other

def isEndOfNote (line : Text) : Bool :=
  ([("end note" : Text), "endnote", "end hnote", "end rnote"] : List Text).contains line

/-- The diagram read so far, and whether the next line belongs to a note. -/
structure SequenceReader where
  diagram : SequenceDiagram
  inNote : Bool
deriving DecidableEq, Repr

namespace SequenceReader

def start : SequenceReader := ⟨.empty, false⟩

def apply (r : SequenceReader) : SequenceStatement → SequenceReader
  | .numbering => { r with diagram := { r.diagram with isNumbered := true } }
  | .note isOpen => { r with inNote := isOpen }
  | .declaration p => { r with diagram := r.diagram.declare p }
  | .message m => { r with diagram := r.diagram.addMessage m }
  | .other => r

def step (dialect : Dialect) (r : SequenceReader) (raw : Text) : SequenceReader :=
  if r.inNote then { r with inNote := !isEndOfNote raw.trim }
  else r.apply (.read dialect raw.trim)

end SequenceReader

namespace SequenceDiagram

def ofLines (dialect : Dialect) (lines : List Text) : SequenceDiagram :=
  (lines.foldl (SequenceReader.step dialect) .start).diagram

/-- Reads a sequence diagram written in the given notation. -/
def read (dialect : Dialect) (source : Text) : SequenceDiagram := ofLines dialect source.lines

end SequenceDiagram

end DiagramProse
