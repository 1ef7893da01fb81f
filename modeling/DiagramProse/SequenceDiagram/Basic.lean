import DiagramProse.Text.Basic

/-!
Sequence diagrams: participants, one entry for each id, in the order in which they were first named,
and the messages between them.
-/

namespace DiagramProse

/-- A participant; `displayName` is what descriptions call it. -/
structure Participant where
  id : Text
  displayName : Text
  typeName : Option Text
  isActor : Bool
deriving DecidableEq, Repr

/-- A participant that was never declared. -/
def Participant.implicit (id : Text) : Participant := ⟨id, id, none, false⟩

inductive MessageKind where
  | call
  | response
deriving DecidableEq, Repr

/-- A message. One that comes from outside the diagram has no sender. -/
structure Message where
  sender : Text
  receiver : Text
  text : Text
  kind : MessageKind
  isMethodCall : Bool
  isExternal : Bool
deriving DecidableEq, Repr

structure SequenceDiagram where
  participants : List Participant
  messages : List Message
  isNumbered : Bool
deriving DecidableEq, Repr

namespace SequenceDiagram

def empty : SequenceDiagram := ⟨[], [], false⟩

def participant? (d : SequenceDiagram) (id : Text) : Option Participant :=
  d.participants.find? fun p => p.id = id

/-- The name of a participant; an id that nobody has stands for itself. -/
def displayName (d : SequenceDiagram) (id : Text) : Text :=
  ((d.participant? id).map Participant.displayName).getD id

end SequenceDiagram

end DiagramProse
