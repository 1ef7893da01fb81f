import DiagramProse.Html.Section
import DiagramProse.Locale
import DiagramProse.StateDiagram.Basic
import DiagramProse.Text.Template

/-!
The description of a state diagram: a summary, the initial state, numbered lists of the states and of
the transitions, and the final states. Dutch stands in for unknown languages.
-/

namespace DiagramProse

open Text Html

/-- The words in which state diagrams are described. -/
structure StatePhrases where
  summary : Text
  initialState : Text
  states : Text
  transitions : Text
  finalMarker : Text
  finalStates : Text
  transitionsTo : Text
  stays : Text
  whenLabel : Text

namespace StatePhrases

def english : StatePhrases where
  summary := "State diagram with {states} state(s) and {transitions} transition(s)."
  initialState := "Initial state"
  states := "States"
  transitions := "Transitions"
  finalMarker := "final state"
  finalStates := "Final state(s)"
  transitionsTo := "transitions to"
  stays := "stays in the same state"
  whenLabel := "when"

def dutch : StatePhrases where
  summary := "Toestandsdiagram met {states} toestand(en) en {transitions} overgang(en)."
  initialState := "Initiële toestand"
  states := "Toestanden"
  transitions := "Overgangen"
  finalMarker := "eindtoestand"
  finalStates := "Eindtoestand(en)"
  transitionsTo := "gaat over naar"
  stays := "blijft in dezelfde toestand"
  whenLabel := "wanneer"

def of (l : Locale) : StatePhrases := l.pick english dutch

end StatePhrases

namespace StateDiagram

/-- The escaped label or name of a state. -/
def escapedName (d : StateDiagram) (state : Text) : Text := escape (d.display state)

def describeState (d : StateDiagram) (p : StatePhrases) (state : Text) : Text :=
  let marker : Text := if d.finals.contains state then " (".toList ++ p.finalMarker ++ ")" else []
  d.escapedName state ++ marker

def describeTransition (d : StateDiagram) (p : StatePhrases) (t : Transition) : Text :=
  let source := d.escapedName t.source
  let move :=
    if t.isLoop then [source, p.stays] else [source, p.transitionsTo, d.escapedName t.target]
  let label := t.label.toList.flatMap fun l => [p.whenLabel, '\'' :: escape l ++ ['\'']]
  join [' '] (move ++ label)

/-- A paragraph with a label in front. -/
def named (label html : Text) : Block := .paragraph (label ++ ": " ++ html)

def describeWith (p : StatePhrases) (d : StateDiagram) : Fragment :=
  let summary := fill p.summary
    [("states", ofNat d.states.length), ("transitions", ofNat d.transitions.length)]
  let initial := d.initial.toList.map fun s => named p.initialState (d.escapedName s)
  let finals := if d.finals.isEmpty then [] else
    [named p.finalStates (join ", " (d.finals.map d.escapedName))]
  .paragraph (escape summary) :: initial
    ++ labelled p.states (.ofLeaves true (d.states.map (d.describeState p)))
    ++ labelled p.transitions (.ofLeaves true (d.transitions.map (d.describeTransition p)))
    ++ finals

def describe (d : StateDiagram) (locale : Text) : Fragment :=
  d.describeWith (.of (.resolve locale .nl))

end StateDiagram

end DiagramProse
