import DiagramProse.Text.Basic

/-!
State diagrams: the states in the order in which they were first named, labels for some of them, and
transitions between them. The initial state and the final states are those of the outermost level.
-/

namespace DiagramProse

structure Transition where
  source : Text
  target : Text
  label : Option Text
deriving DecidableEq, Repr

def Transition.isLoop (t : Transition) : Bool := t.source == t.target

structure StateLabel where
  state : Text
  label : Text
deriving DecidableEq, Repr

structure StateDiagram where
  states : List Text
  labels : List StateLabel
  transitions : List Transition
  initial : Option Text
  finals : List Text
deriving DecidableEq, Repr

namespace StateDiagram

def empty : StateDiagram := ⟨[], [], [], none, []⟩

/-- A name is added at the end unless it is there. -/
def insertName (name : Text) (names : List Text) : List Text :=
  if names.contains name then names else names ++ [name]

/-- Gives a state a label, in the place of the one it had. -/
def insertLabel (state label : Text) : List StateLabel → List StateLabel
  | [] => [⟨state, label⟩]
  | l :: ls => if l.state = state then ⟨state, label⟩ :: ls else l :: insertLabel state label ls

/-- A state is shown under its label, or else under its name. -/
def display (d : StateDiagram) (state : Text) : Text :=
  ((d.labels.find? fun l => l.state = state).map StateLabel.label).getD state

end StateDiagram

end DiagramProse
