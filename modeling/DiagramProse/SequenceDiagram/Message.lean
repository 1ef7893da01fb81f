import DiagramProse.Arrow.Search
import DiagramProse.SequenceDiagram.Basic
import DiagramProse.Text.Quoted

/-!
Reading a message: two participants with an arrow between them and a text behind a colon. Dotted
arrows are responses, and an opening bracket in front marks a message from outside.
-/

namespace DiagramProse

open Text

/-- What an arrow says: the kind of message, and whether its sender stands on the right. -/
structure MessageSense where
  kind : MessageKind
  reverse : Bool
deriving DecidableEq, Repr

def messageArrows : Arrow.Table MessageSense := [
  ("->>", ⟨.call, false⟩),
  ("-->>", ⟨.response, false⟩),
  ("->", ⟨.call, false⟩),
  ("-->", ⟨.response, false⟩),
  ("-x", ⟨.call, false⟩),
  ("--x", ⟨.response, false⟩),
  ("-)", ⟨.call, false⟩),
  ("--)", ⟨.response, false⟩),
  ("<-", ⟨.call, true⟩),
  ("<--", ⟨.response, true⟩)]

/-- The part of a message before its text. -/
def beforeColon (s : Text) : Text := ((cutAt? (· == ':') s).map Prod.fst).getD s

/-- A cross or a parenthesis ends an arrow only where no other arrow follows before the text, so that
names such as `web-x` stay whole. -/
def isArrowHead (token after : Text) : Bool :=
  !(token.endsWith ['x'] || token.endsWith [')']) ||
    (Arrow.find? (beforeColon after) messageArrows).isNone

/-- Activation signs and blanks around a receiver. -/
def cleanReceiver (s : Text) : Text :=
  let front := trim (s.trim.dropWhile fun c => c == '+' || c == '-')
  trim (dropEndWhile (fun c => c == '+' || c == '-' || c == '*' || c == '!' || isBlank c) front)

/-- A bare id holds no blanks, a quoted name may. -/
def isParticipantName (s : Text) : Bool := s.startsWith ['"'] || !s.any isBlank

namespace Message

/-- A message from outside has no sender, whatever stands in its place. -/
def ofEnds? (isExternal : Bool) (kind : MessageKind) (sender receiver text : Text) : Option Message :=
  if receiver.isEmpty || (sender.isEmpty && !isExternal) then none
  else some {
    sender := if isExternal then [] else sender
    receiver
    text
    kind
    isMethodCall := text.contains ['('] && text.contains [')']
    isExternal }

/-- Reads a message; one to a receiver outside the diagram is none. -/
def read? (line : Text) : Option Message := do
  let (isExternal, line) := match dropPrefix? line ['['] with
    | some rest => (true, rest)
    | none => (false, line)
  let found ← Arrow.findWhere? line messageArrows isArrowHead
  let (target, text) := (cutAt? (· == ':') found.right).getD (found.right, [])
  guard (!target.trimStart.startsWith [']'])
  let target := cleanReceiver target
  guard (isParticipantName found.left && isParticipantName target)
  let left := unquote found.left
  let right := unquote target
  let (sender, receiver) := if found.value.reverse then (right, left) else (left, right)
  ofEnds? isExternal found.value.kind sender receiver (unquote (trim text))

end Message

end DiagramProse
