import DiagramProse.ClassDiagram.Reading
import DiagramProse.Proofs.Text.Names

/-!
Class diagrams written with one body for each class, then a line for each relation and a line for each
note. Where the notation leaves a choice, a `ClassStyle` makes it: which of the arrows of its sense a
relation has, and how a note is attached to its class.
-/

namespace DiagramProse

open Text

/-! ## Members -/

def Visibility.sign : Visibility → Text
  | «public» => ['+']
  | «private» => ['-']
  | «protected» => ['#']
  | package => ['~']
  | unspecified => []

/-- A text and what belongs behind a colon after it, if anything: a type or a label. -/
def withColon (s : Text) (after : Option Text) : Text :=
  match after with
  | some t => s ++ " : " ++ t
  | none => s

def Attribute.signature (a : Attribute) : Text := withColon a.name a.typeName

def Attribute.line (a : Attribute) : Text := a.visibility.sign ++ a.signature

def Parameter.text (p : Parameter) : Text := withColon p.name p.typeName

def Method.signature (m : Method) : Text :=
  withColon (m.name ++ "(" ++ join ", " (m.parameters.map Parameter.text) ++ ")") m.returnType

def Method.line (m : Method) : Text := m.visibility.sign ++ m.signature

def Member.line : Member → Text
  | .field a => a.line
  | .method m => m.line

/-! ## Classes -/

def Stereotype.label : Stereotype → Text
  | interface => "interface"
  | abstract => "abstract"
  | enumeration => "enumeration"
  | custom label => label

def Stereotype.line (s : Stereotype) : Text := "<<" ++ s.label ++ ">>"

/-- The methods and the attributes of a class. -/
def Classifier.members (c : Classifier) : List Member := c.methods.map .method ++ c.attributes.map .field

def Classifier.lines (c : Classifier) : List Text :=
  ("class " ++ c.name ++ " \x7b" : Text) ::
    (c.stereotype.toList.map Stereotype.line ++ (c.members.map Member.line ++ [("\x7d" : Text)]))

/-! ## Relations -/

/-- An end of a relation to the left of the arrow, with its multiplicity next to the arrow. -/
def leftEnd (name : Text) (multiplicity : Option Text) : Text :=
  match multiplicity with
  | some m => name ++ " \"" ++ m ++ "\""
  | none => name

/-- An end of a relation to the right of the arrow. -/
def rightEnd (multiplicity : Option Text) (name : Text) : Text :=
  match multiplicity with
  | some m => "\"" ++ m ++ "\" " ++ name
  | none => name

/-- Two ends with an arrow between them, and a label. -/
def relationText (left : Text) (leftMultiplicity : Option Text) (arrow : Text) (rightMultiplicity : Option Text)
    (right : Text) (label : Option Text) : Text :=
  withColon (leftEnd left leftMultiplicity ++ " " ++ arrow ++ " " ++ rightEnd rightMultiplicity right) label

def Relation.line (arrow : Text) (r : Relation) : Text :=
  if r.reverse then relationText r.target r.targetMultiplicity arrow r.sourceMultiplicity r.source r.label
  else relationText r.source r.sourceMultiplicity arrow r.targetMultiplicity r.target r.label

/-! ## Notes -/

inductive NoteSide where
  | left
  | right
  | top
  | bottom

def NoteSide.word : NoteSide → Text
  | left => "left"
  | right => "right"
  | top => "top"
  | bottom => "bottom"

/-- How a note is attached to its class: with its text in quotes, or on one side behind a colon. -/
inductive NotePlace where
  | quoted
  | beside (side : NoteSide)

/-- What stands in front of the text of a note on a side of its class. -/
def NoteSide.opening (side : NoteSide) (className : Text) : Text :=
  "note " ++ side.word ++ " of " ++ className ++ " :"

theorem NoteSide.opening_eq (side : NoteSide) (className : Text) :
    side.opening className = "note " ++ side.word ++ " of " ++ className ++ " :" := rfl

def ClassNote.line (n : ClassNote) : NotePlace → Text
  | .quoted => "note for " ++ n.className ++ " \"" ++ n.text ++ "\""
  | .beside side => side.opening n.className ++ ' ' :: n.text

/-! ## Diagrams -/

/-- The choices in writing a class diagram. An arrow has the sense of its relation. -/
structure ClassStyle where
  arrow : Relation → Text
  arrow_mem : ∀ r, (arrow r, ⟨r.kind, r.reverse⟩) ∈ classArrows
  place : ClassNote → NotePlace

def ClassDiagram.lines (style : ClassStyle) (d : ClassDiagram) : List Text :=
  d.classes.flatMap Classifier.lines ++ d.relations.map (fun r => r.line (style.arrow r)) ++
    d.notes.map (fun n => n.line (style.place n))

def ClassDiagram.source (style : ClassStyle) (d : ClassDiagram) : Text := join "\n" (d.lines style)

/-- The usual arrow of a kind of relation, to the right or to the left. -/
def RelationKind.arrow : (kind : RelationKind) → (reverse : Bool) → Text
  | .inheritance, false => "--|>"
  | .inheritance, true => "<|--"
  | .implementation, false => "..|>"
  | .implementation, true => "<|.."
  | .association, false => "-->"
  | .association, true => "<--"
  | .aggregation, false => "o--"
  | .aggregation, true => "--o"
  | .composition, false => "*--"
  | .composition, true => "--*"
  | .dependency, false => "..>"
  | .dependency, true => "<.."

theorem RelationKind.arrow_mem_classArrows (kind : RelationKind) (reverse : Bool) :
    (kind.arrow reverse, ⟨kind, reverse⟩) ∈ classArrows := by
  cases kind <;> cases reverse <;> decide

/-- Usual arrows, and notes with quoted texts. -/
def ClassStyle.usual : ClassStyle where
  arrow r := r.kind.arrow r.reverse
  arrow_mem r := r.kind.arrow_mem_classArrows r.reverse
  place _ := .quoted

/-! ## Diagrams that can be written -/

/-- A letter in upper case with letters, digits and underscores behind it, all of the ASCII range. -/
def isCapitalised (s : Text) : Bool := s.head?.any Char.isUpper && s.all isAsciiNameChar

/-- Whether angle and square brackets are closed, `depth` being open already, and commas stand only
within them. Closing an angle bracket by a square one is let pass. -/
def isBracketed : (depth : Nat) → Text → Bool
  | depth, [] => depth == 0
  | depth, c :: s =>
    if c = '<' ∨ c = '[' then isBracketed (depth + 1) s
    else if c = '>' ∨ c = ']' then
      match depth with
      | 0 => false
      | depth + 1 => isBracketed depth s
    else if c = ',' then depth != 0 && isBracketed depth s
    else (isNameChar c || c == ' ') && isBracketed depth s

/-- A type as it stands behind a colon. -/
def isTypeExpression (s : Text) : Bool := !s.isEmpty && s.trim == s && isBracketed 0 s

def Attribute.isWritable (a : Attribute) : Bool :=
  a.visibility != .unspecified && isPlainName a.name && a.typeName.all isTypeExpression

def Parameter.isWritable (p : Parameter) : Bool := isPlainName p.name && p.typeName.all isTypeExpression

def Method.isWritable (m : Method) : Bool :=
  m.visibility != .unspecified && isPlainName m.name && m.parameters.all Parameter.isWritable &&
    m.returnType.all isTypeExpression

def Member.isWritable : Member → Bool
  | .field a => a.isWritable
  | .method m => m.isWritable

/-- The labels, in lower case, that stand for a stereotype of their own. -/
def reservedLabels : List Text := ["interface", "abstract", "abstract class", "enumeration", "enum"]

/-- A label on one line that is not reserved can be written. -/
def Stereotype.isWritable : Stereotype → Bool
  | interface | abstract | enumeration => true
  | custom label =>
    label.trim == label && label.all (· != '\n') && !reservedLabels.contains label.lowerAscii

def Classifier.isWritable (c : Classifier) : Bool :=
  isCapitalised c.name && c.stereotype.all Stereotype.isWritable && c.members.all Member.isWritable

/-- A multiplicity on one line. -/
def isPlainMultiplicity (s : Text) : Bool := isMultiplicity s && s.trim == s && s.all (· != '\n')

/-- Letters, digits and spaces, the latter not at the ends. -/
def isPlainLabel (s : Text) : Bool := !s.isEmpty && s.trim == s && s.all fun c => isAlphanumeric c || c == ' '

/-- Whether a relation between classes of the given names can be written. -/
def Relation.isWritable (names : List Text) (r : Relation) : Bool :=
  names.contains r.source && names.contains r.target && r.sourceMultiplicity.all isPlainMultiplicity &&
    r.targetMultiplicity.all isPlainMultiplicity && r.label.all isPlainLabel

/-- Blanks in the text of a note are single spaces between words. A written line break would become one
as well, so there is none. -/
def ClassNote.isWritable (n : ClassNote) : Bool :=
  isCapitalised n.className && squeeze n.text == n.text && !contains n.text "\\n"

def ClassDiagram.names (d : ClassDiagram) : List Text := d.classes.map Classifier.name

/-- Whether the texts in a diagram stay as they are when they are written and read again. Classes have
names of their own. -/
def ClassDiagram.isWritable (d : ClassDiagram) : Bool :=
  d.names.Nodup && d.classes.all Classifier.isWritable && d.relations.all (Relation.isWritable d.names) &&
    d.notes.all ClassNote.isWritable

end DiagramProse
