import DiagramProse.ClassDiagram.Visibility
import DiagramProse.Diagnostic

/-!
Class diagrams. Classes stand in the order in which they were first named, one entry for each name;
`alter` is the only way in which a reader touches them.
-/

namespace DiagramProse

inductive Stereotype where
  | interface
  | abstract
  | enumeration
  | custom (label : Text)
deriving DecidableEq, Repr

/-- Three kinds of stereotype have names of their own, whatever their case. -/
def Stereotype.ofLabel (label : Text) : Stereotype :=
  let l := label.trim
  let key := l.lowerAscii
  if key = "interface" then interface
  else if key = "abstract" ∨ key = "abstract class" then abstract
  else if key = "enumeration" ∨ key = "enum" then enumeration
  else custom l

structure Attribute where
  visibility : Visibility
  name : Text
  typeName : Option Text
deriving DecidableEq, Repr

structure Parameter where
  name : Text
  typeName : Option Text
deriving DecidableEq, Repr

structure Method where
  visibility : Visibility
  name : Text
  parameters : List Parameter
  returnType : Option Text
deriving DecidableEq, Repr

inductive Member where
  | field (a : Attribute)
  | method (m : Method)
deriving DecidableEq, Repr

/-- A class, an interface or an enumeration. -/
structure Classifier where
  name : Text
  stereotype : Option Stereotype
  attributes : List Attribute
  methods : List Method
deriving DecidableEq, Repr

namespace Classifier

/-- A class of which only the name is known. -/
def ofName (name : Text) : Classifier := ⟨name, none, [], []⟩

def addMember (c : Classifier) : Member → Classifier
  | .field a => { c with attributes := c.attributes ++ [a] }
  | .method m => { c with methods := c.methods ++ [m] }

/-- Changes the class called `name`, which is added at the end if there is none yet. -/
def alter (name : Text) (f : Classifier → Classifier) : List Classifier → List Classifier
  | [] => [f (ofName name)]
  | c :: cs => if c.name = name then f c :: cs else c :: alter name f cs

end Classifier

inductive RelationKind where
  | inheritance
  | implementation
  | association
  | aggregation
  | composition
  | dependency
deriving DecidableEq, Repr

/-- A relation between two classes. The whole of an aggregation or composition is its source.
`reverse` tells that the arrow was written from right to left. -/
structure Relation where
  source : Text
  target : Text
  kind : RelationKind
  label : Option Text
  sourceMultiplicity : Option Text
  targetMultiplicity : Option Text
  reverse : Bool
deriving DecidableEq, Repr

structure ClassNote where
  className : Text
  text : Text
deriving DecidableEq, Repr

/-- What can be wrong with the blocks of a class diagram. -/
inductive ClassProblem where
  | strayBrace
  | openNote (className : Text)
  | openClass (name : Text)
  | openGroup (name : Text)
deriving DecidableEq, Repr

def ClassProblem.message : ClassProblem → Text
  | strayBrace => "closing brace without an open block"
  | openNote name => "note for `" ++ name ++ "` is never closed with `end note`"
  | openClass name => "class `" ++ name ++ "` is missing a closing brace"
  | openGroup name => "group `" ++ name ++ "` is missing a closing brace"

structure ClassDiagram where
  classes : List Classifier
  relations : List Relation
  notes : List ClassNote
  diagnostics : List (Diagnostic ClassProblem)
deriving DecidableEq, Repr

def ClassDiagram.empty : ClassDiagram := ⟨[], [], [], []⟩

end DiagramProse
