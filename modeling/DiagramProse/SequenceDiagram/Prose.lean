import DiagramProse.Html.Section
import DiagramProse.Locale
import DiagramProse.SequenceDiagram.Basic
import DiagramProse.Text.Alphanumeric
import DiagramProse.Text.Template

/-!
The description of a sequence diagram: a summary that names the participants, and the messages as a
list, numbered if the diagram is. Dutch stands in for unknown languages.
-/

namespace DiagramProse

open Text Html

/-- The words in which sequence diagrams are described. -/
structure SequencePhrases where
  participant : Text
  participants : Text
  ofType : Text
  interactions : Text
  conjunction : Text
  externalCaller : Text
  callsMethod : Text
  calls : Text
  sendsMessage : Text
  responds : Text
  respondsWith : Text

namespace SequencePhrases

def english : SequencePhrases where
  participant := "Sequence diagram with {count} participant"
  participants := "Sequence diagram with {count} participants"
  ofType := "of type"
  interactions := "Interactions"
  conjunction := "and"
  externalCaller := "An external caller"
  callsMethod := "{from} calls {to}.{call}"
  calls := "{from} calls {to}"
  sendsMessage := "{from} sends {to} the message '{text}'"
  responds := "{from} responds to {to}"
  respondsWith := "{from} responds to {to}: {text}"

def dutch : SequencePhrases where
  participant := "Sequentiediagram met {count} deelnemer"
  participants := "Sequentiediagram met {count} deelnemers"
  ofType := "van type"
  interactions := "Interacties"
  conjunction := "en"
  externalCaller := "Een externe aanroeper"
  callsMethod := "{from} roept {to}.{call} aan"
  calls := "{from} roept {to} aan"
  sendsMessage := "{from} stuurt {to} het bericht '{text}'"
  responds := "{from} antwoordt {to}"
  respondsWith := "{from} antwoordt {to}: {text}"

def of (l : Locale) : SequencePhrases := l.pick english dutch

end SequencePhrases

def Participant.describe (p : SequencePhrases) (x : Participant) : Text :=
  match x.typeName with
  | some type => join [' '] [escape x.displayName, p.ofType, escape type]
  | none => escape x.displayName

/-! ## Messages -/

/-- Whether a text reads as the name of a method. -/
def isIdentifier (s : Text) : Bool := !s.isEmpty && s.all fun c => isAlphanumeric c || c == '_'

/-- The sentence for a message, and the escaped text that goes into it: in quotes if it is a response
of several words, with parentheses if it only names a method. -/
def Message.phrasing (p : SequencePhrases) (m : Message) : Text × Text :=
  let text := m.text.trim
  match m.kind with
  | .response =>
    if text.isEmpty then (p.responds, [])
    else if text.contains [' '] then (p.respondsWith, '\'' :: escape text ++ ['\''])
    else (p.respondsWith, escape text)
  | .call =>
    if text.isEmpty then (p.calls, [])
    else if m.isMethodCall then (p.callsMethod, escape text)
    else if isIdentifier text then (p.callsMethod, escape text ++ "()")
    else (p.sendsMessage, escape text)

def SequenceDiagram.senderName (d : SequenceDiagram) (p : SequencePhrases) (m : Message) : Text :=
  escape (if m.isExternal then p.externalCaller else d.displayName m.sender)

def SequenceDiagram.describeMessage (d : SequenceDiagram) (p : SequencePhrases) (m : Message) : Text :=
  let (sentence, text) := m.phrasing p
  fill sentence [("from", d.senderName p m), ("to", escape (d.displayName m.receiver)),
    ("call", text), ("text", text)]

/-! ## The diagram -/

def SequenceDiagram.summary (d : SequenceDiagram) (p : SequencePhrases) : Text :=
  let names := d.participants.map (Participant.describe p)
  let count := escape (countPhrase names.length p.participant p.participants)
  count ++ (if names.isEmpty then [] else (": " : Text) ++ joinNames names p.conjunction) ++ ['.']

def SequenceDiagram.describeWith (p : SequencePhrases) (d : SequenceDiagram) : Fragment :=
  .paragraph (d.summary p)
    :: labelled p.interactions (.ofLeaves d.isNumbered (d.messages.map (d.describeMessage p)))

def SequenceDiagram.describe (d : SequenceDiagram) (locale : Text) : Fragment :=
  d.describeWith (.of (.resolve locale .nl))

end DiagramProse
