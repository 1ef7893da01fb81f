import DiagramProse.Arrow.Direction
import DiagramProse.Arrow.Search
import DiagramProse.ClassDiagram.Basic
import DiagramProse.Text.Quoted

/-!
Reading a relation: two classes with an arrow between them, a quoted multiplicity or role at either
end, and a label behind a colon. A role stands in for a label that is missing.
-/

namespace DiagramProse

open Text

/-- What an arrow says: the kind of relation, and whether its source stands on the right. -/
structure ArrowSense where
  kind : RelationKind
  reverse : Bool
deriving DecidableEq, Repr

/-- The arrows of class diagrams. The diamond of an aggregation or composition marks the whole. -/
def classArrows : Arrow.Table ArrowSense := [
  ("--|>", ⟨.inheritance, false⟩),
  ("<|--", ⟨.inheritance, true⟩),
  ("-|>", ⟨.inheritance, false⟩),
  ("<|-", ⟨.inheritance, true⟩),
  ("..|>", ⟨.implementation, false⟩),
  ("<|..", ⟨.implementation, true⟩),
  (".|>", ⟨.implementation, false⟩),
  ("<|.", ⟨.implementation, true⟩),
  ("*--", ⟨.composition, false⟩),
  ("--*", ⟨.composition, true⟩),
  ("o--", ⟨.aggregation, false⟩),
  ("--o", ⟨.aggregation, true⟩),
  ("<-->", ⟨.association, false⟩),
  ("-->", ⟨.association, false⟩),
  ("<--", ⟨.association, true⟩),
  ("->", ⟨.association, false⟩),
  ("<-", ⟨.association, true⟩),
  ("..>", ⟨.dependency, false⟩),
  ("<..", ⟨.dependency, true⟩),
  (".>", ⟨.dependency, false⟩),
  ("<.", ⟨.dependency, true⟩),
  ("--", ⟨.association, false⟩),
  ("..", ⟨.dependency, false⟩)]

/-- Names are made of letters, digits, underscores, dots, dollar signs and colons. -/
def isClassName (name : Text) : Bool :=
  !name.isEmpty &&
    name.all fun c => isAlphanumeric c || c == '_' || c == '.' || c == '$' || c == ':'

/-! ## Multiplicities -/

def isMultiplicityBound (s : Text) : Bool :=
  !s.isEmpty && (s == ['*'] || s == ['n'] || s == ['m'] || s.all Char.isDigit)

/-- A bound, two bounds with two dots between them, or the word for several. -/
def isMultiplicity (text : Text) : Bool :=
  let t := text.trim
  if t.isEmpty then false
  else if t.equalIgnoreAsciiCase "many" then true
  else
    match cut? ".." t with
    | some (low, high) => isMultiplicityBound (trim low) && isMultiplicityBound (trim high)
    | none => isMultiplicityBound t

/-! ## Ends and labels -/

/-- The text before and after the first colon outside double quotes. -/
def cutUnquotedColon? : (quoted : Bool) → Text → Option (Text × Text)
  | _, [] => none
  | quoted, c :: s =>
    if c = ':' ∧ ¬ quoted then some ([], s)
    else (cutUnquotedColon? (quoted != (c == '"')) s).map fun (a, b) => (c :: a, b)

def isReadingSign (c : Char) : Bool := c == '<' || c == '>'

/-- A label without the signs for the direction in which it is read, and without quotes. -/
def cleanLabel (s : Text) : Text :=
  unquote (trim (dropEndWhile isReadingSign ((trim s).dropWhile isReadingSign)))

/-- The end of a relation and the label behind it. -/
def splitLabel (text : Text) : Text × Option Text :=
  match cutUnquotedColon? false text with
  | some (before, label) => (trim before, nonempty? (cleanLabel label))
  | none => (text.trim, none)

/-- The parts of an end of a relation: plain words, and quoted texts. -/
inductive EndPart where
  | name (s : Text)
  | quoted (s : Text)
deriving DecidableEq, Repr

/-- The parts of an end; `pending` is the part being read, reversed. A quote that is never closed
makes the end unreadable. -/
def endParts? : (pending : Option EndPart) → Text → Option (List EndPart)
  | none, [] => some []
  | some (.name w), [] => some [.name w.reverse]
  | some (.quoted _), [] => none
  | some (.quoted w), c :: s =>
    if c = '"' then (endParts? none s).map (EndPart.quoted (trim w.reverse) :: ·)
    else endParts? (some (.quoted (c :: w))) s
  | some (.name w), c :: s =>
    if c = '"' then (endParts? (some (.quoted [])) s).map (EndPart.name w.reverse :: ·)
    else if isBlank c then (endParts? none s).map (EndPart.name w.reverse :: ·)
    else endParts? (some (.name (c :: w))) s
  | none, c :: s =>
    if c = '"' then endParts? (some (.quoted [])) s
    else if isBlank c then endParts? none s
    else endParts? (some (.name [c])) s

/-- One end of a relation. -/
structure RelationEnd where
  name : Text
  multiplicity : Option Text
  role : Option Text
deriving DecidableEq, Repr

/-- The first quoted text that is a multiplicity is one, the first of the others is the role. -/
def readQuoted (quoted : List Text) : Option Text × Option Text :=
  quoted.foldl (fun (multiplicity, role) s =>
    if multiplicity.isNone && isMultiplicity s then (some s, role)
    else if role.isNone && !s.isEmpty then (multiplicity, some s)
    else (multiplicity, role)) (none, none)

/-- An end has one name. Of its quoted texts the one nearest to the arrow is looked at first. -/
def RelationEnd.read? (text : Text) (isLeft : Bool) : Option RelationEnd := do
  let parts ← endParts? none text
  let names := parts.filterMap fun | .name s => some s | .quoted _ => none
  let quoted := parts.filterMap fun | .quoted s => some s | .name _ => none
  match names with
  | [name] =>
    guard (isClassName name)
    let (multiplicity, role) := readQuoted (if isLeft then quoted.reverse else quoted)
    return ⟨name, multiplicity, role⟩
  | _ => none

/-- A relation between the two ends of an arrow, in the sense of the arrow. -/
def Relation.between (left right : RelationEnd) (label : Option Text) (sense : ArrowSense) : Relation :=
  let (source, target) := if sense.reverse then (right, left) else (left, right)
  { source := source.name
    target := target.name
    kind := sense.kind
    label
    sourceMultiplicity := source.multiplicity
    targetMultiplicity := target.multiplicity
    reverse := sense.reverse }

def Relation.read? (line : Text) : Option Relation := do
  let found ← Arrow.find? (Arrow.withoutHints line) classArrows
  let (rightText, label) := splitLabel found.right
  let left ← RelationEnd.read? found.left true
  let right ← RelationEnd.read? rightText false
  return Relation.between left right (label <|> left.role <|> right.role) found.value

end DiagramProse
